import MainContent.Proofs.Fetch.Visit
import MainContent.Proofs.Service.Admission

/-!
# Telling success from failure

Every extraction request is answered with the same status, so that a caller sees only by the body
whether a page's main content was found. `marker_begins_body_iff` says that under an extractor that
visits the web the body begins with the marker of a failure exactly when there is a failure. It also
says what the body of a success is: the markup of an article that was found in the page, with text
that is not blank.

Whatever stands in a page, its markup begins with a tag, and no failure does (`head?_highlight`).
-/

namespace MainContent.Service

open MainContent.Settings (Fetch)

/-- What an extraction request comes to: the markup of the page, or the first failure on the way to
it. -/
def outcome (key : AuthKey) (x : Url → Fetch.Visit) (q : Query) : Except Failure String :=
  admittedTarget key q >>= fun u => (x u).result

/-- A page that may be visited is the one that the query names. -/
theorem readTarget_of_admittedTarget (key : AuthKey) (q : Query) (u : Url)
    (h : admittedTarget key q = .ok u) : readTarget q.url = .ok u := by
  by_cases hkey : q.HasKey key
  · rw [← admittedTarget_of_hasKey key q hkey, h]
  · rw [admittedTarget_of_not_hasKey key q hkey] at h
    cases h

/-- The characters of the answer to a success. -/
theorem toList_body_ok (html : String) :
    (extractResponse (.ok html)).body.toList = html.toList ++ "\n".toList := by
  rw [extractResponse, String.toList_append]

/-- The answer to a failure begins with the marker. -/
theorem marker_prefix_body_error (f : Failure) :
    Failure.marker.toList <+: (extractResponse (.error f)).body.toList := by
  rw [extractResponse, String.toList_append]
  exact f.marker_prefix_line.trans (List.prefix_append _ _)

/-- The markup of an article does not begin with the marker of a failure. -/
theorem not_marker_prefix_body_highlight (title content : String) :
    ¬ Failure.marker.toList <+:
      (extractResponse (.ok (Page.highlight title content))).body.toList := by
  rw [toList_body_ok]
  rintro ⟨rest, hrest⟩
  -- The marker begins with a letter, and the markup with `<`, whatever the title and the content are.
  have hmarker : (Failure.marker.toList ++ rest).head? = some 'E' := by
    rw [List.head?_append]
    rfl
  rw [hrest, List.head?_append, Page.head?_highlight] at hmarker
  exact absurd hmarker (by decide)

/-- The body of the answer to an extraction request begins with the marker of a failure exactly when
the request fails. When it succeeds, the body begins with the heading of the article's title or with
the container of its content, and ends with the end of the container; and the article was found in
the page that the query names, with text that is not blank. -/
theorem marker_begins_body_iff (key : AuthKey) (settings : Fetch) (web : Fetch.Web) (now : String)
    (q : Request) (hmethod : q.method = "GET") (hroute : q.target.route = "/extract") :
    let x := Fetch.visit settings web
    let body := (Server.serve ⟨some key, some x⟩ now q).response.body.toList
    ("ERROR: ".toList <+: body ↔ ∃ f, outcome key x q.query = .error f) ∧
    ∀ html, outcome key x q.query = .ok html →
      ("<h1 class=\"x-extracted-title\">".toList <+: body ∨
        "<div class=\"x-extracted-content\">".toList <+: body) ∧
      "\n</div>\n".toList <:+ body ∧
      ∃ u, readTarget q.query.url = .ok u ∧ Fetch.ShowsArticle settings web u html := by
  intro x body
  have hbody : body = (extractResponse (outcome key x q.query)).body.toList := by
    rw [outcome, ← Server.serve_response_of_isExtract key x now q ⟨hmethod, hroute⟩]
  have hshows : ∀ html, outcome key x q.query = .ok html →
      ∃ u, readTarget q.query.url = .ok u ∧ Fetch.ShowsArticle settings web u html := by
    intro html hok
    obtain ⟨u, hadmitted, hvisit⟩ := (Failure.bind_eq_ok_iff _ _ html).1 hok
    exact ⟨u, readTarget_of_admittedTarget key q.query u hadmitted,
      Fetch.showsArticle_of_visit settings web u html hvisit⟩
  refine ⟨?_, fun html hok => ⟨?_, ?_, hshows html hok⟩⟩
  · cases houtcome : outcome key x q.query with
    | error f =>
      refine iff_of_true ?_ ⟨f, rfl⟩
      rw [hbody, houtcome]
      exact marker_prefix_body_error f
    | ok html =>
      obtain ⟨-, -, -, a, -, -, -, rfl⟩ := hshows html houtcome
      rw [hbody, houtcome]
      exact iff_of_false (not_marker_prefix_body_highlight a.title a.content) nofun
  · obtain ⟨-, -, -, a, -, -, -, rfl⟩ := hshows html hok
    rw [hbody, hok, toList_body_ok]
    exact (Page.highlight_begins a.title a.content).imp (·.trans (List.prefix_append _ _))
      (·.trans (List.prefix_append _ _))
  · obtain ⟨-, -, -, a, -, -, -, rfl⟩ := hshows html hok
    obtain ⟨start, hstart⟩ := Page.highlight_ends a.title a.content
    rw [hbody, hok, toList_body_ok, ← hstart, List.append_assoc]
    exact List.suffix_append _ _

/-- A page whose title reads like a failure is answered with the heading of that title. -/
theorem marker_begins_body_iff_specimen :
    let q : Request := { method := "GET", target := ⟨"/extract", "key=k&url=http://[::1]/x/"⟩,
                         headers := [], peer := none }
    let x := Fetch.visit {} (Fetch.redirectWeb (Fetch.specimenAnswer 200))
    q.method = "GET" ∧ q.target.route = "/extract" ∧
      outcome ⟨"k"⟩ x q.query = .ok (Article.specimenMarkup "x") ∧
      ¬ "ERROR: ".toList <+: (Server.serve ⟨some ⟨"k"⟩, some x⟩ "now" q).response.body.toList := by
  intro q x
  have hroute : q.target.route = "/extract" := by decide +kernel
  have htarget : admittedTarget ⟨"k"⟩ q.query = .ok (Article.place "x") := by decide +kernel
  have hvisit : (x (Article.place "x")).result = .ok (Article.specimenMarkup "x") :=
    Fetch.visit_specimenAnswer (by decide) (by decide)
      (Fetch.endsAt_specimenAnswer {} 200 (by decide))
  have hok : outcome ⟨"k"⟩ x q.query = .ok (Article.specimenMarkup "x") :=
    (Failure.bind_eq_ok_iff _ _ _).2 ⟨_, htarget, hvisit⟩
  obtain ⟨hfailure, -⟩ := marker_begins_body_iff ⟨"k"⟩ {}
    (Fetch.redirectWeb (Fetch.specimenAnswer 200)) "now" q rfl hroute
  refine ⟨rfl, hroute, hok, ?_⟩
  intro hmarker
  obtain ⟨f, hf⟩ := hfailure.1 hmarker
  rw [hok] at hf
  cases hf

end MainContent.Service
