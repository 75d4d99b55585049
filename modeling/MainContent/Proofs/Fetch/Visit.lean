import MainContent.Fetch.Extractor
import MainContent.Proofs.Article.Unlabelled
import MainContent.Proofs.Failure
import MainContent.Proofs.Fetch.Arrival
import MainContent.Proofs.Fetch.Redirect

/-!
# What comes of a visit

A visit renders the page that a fetch comes to (`visit_result`), and a fetch comes to what is read
from its last answer. So what comes of a visit depends on that answer, wherever the redirects have
begun, but for the links: they lead from the URL that was asked for.

* `visit_outcome` lists what comes of the answers with a status of success or of failure, whatever
  the chunks in which their bytes arrive.
* `visit_siteStatus_iff` says which statuses are reported as such. The others are read as success,
  among them those of redirects that lead nowhere.
* `visit_of_endsAt` compares the visits of a URL from which redirects lead, and of the one to which
  they lead. They differ at most in the place from which links lead, and `visit_differs_from_end`
  is a page where they do.
-/

namespace MainContent.Fetch

open MainContent.Settings (Fetch)
open Article (specimen place specimenMarkup)

/-- The text of a page that has been fetched. -/
def Body.text (page : Body) : String :=
  (Page.decode page.contentType page.bytes).1

/-- A visit renders the text of the page that is fetched, with links that lead from the URL that was
asked for. -/
theorem visit_result (settings : Fetch) (web : Web) (u : Url) :
    (visit settings web u).result =
      (fetch settings web u).result >>= fun page =>
        Page.render page.text u settings.maxElements := by
  unfold visit
  dsimp only
  cases (fetch settings web u).result with
  | error f => rfl
  | ok page => rfl

/-- Markup shows an article that was found in the page which a fetch of a URL comes to, and which has
text that is not blank. -/
def ShowsArticle (settings : Fetch) (web : Web) (u : Url) (html : String) : Prop :=
  ∃ page a, (fetch settings web u).result = .ok page ∧
    Article.ofDom? (Html.Dom.ofText page.text) u = some a ∧
    (∃ c ∈ a.text.toList, Text.isBlank c = false) ∧ html = Page.highlight a.title a.content

/-- A visit that succeeds shows an article of the page. -/
theorem showsArticle_of_visit (settings : Fetch) (web : Web) (u : Url) (html : String)
    (h : (visit settings web u).result = .ok html) : ShowsArticle settings web u html := by
  rw [visit_result, Failure.bind_eq_ok_iff] at h
  obtain ⟨page, hfetch, hrender⟩ := h
  obtain ⟨a, ha, hhtml⟩ := (Page.render_eq_ok_iff page.text u settings.maxElements html).1 hrender
  exact ⟨page, a, hfetch, ha.found, ha.text, hhtml⟩

/-- A visit does the same however the bodies of a web are cut. -/
theorem visit_of_sameBytes (settings : Fetch) (web web' : Web) (u : Url)
    (hsame : ∀ q, SameBytes (web q) (web' q)) : visit settings web' u = visit settings web u := by
  rw [visit, visit, fetch_of_sameBytes settings web web' u hsame]

/-- A visit renders what is read from the last answer. -/
theorem visit_result_of_endsAt {settings : Fetch} {web : Web} {u v : Url} {a : Answer}
    (h : EndsAt settings web u v a) :
    (visit settings web u).result =
      readAnswer settings.maxPageSize a >>= fun page =>
        Page.render page.text u settings.maxElements := by
  rw [visit_result, fetch_of_endsAt h]

/-- A last answer that cannot be read is the failure of the visit. -/
theorem visit_result_of_error {settings : Fetch} {web : Web} {u v : Url} {a : Answer} {f : Failure}
    (h : EndsAt settings web u v a) (hread : readAnswer settings.maxPageSize a = .error f) :
    (visit settings web u).result = .error f := by
  rw [visit_result_of_endsAt h, hread]
  rfl

/-- A last answer that can be read is rendered. -/
theorem visit_result_of_ok {settings : Fetch} {web : Web} {u v : Url} {a : Answer} {page : Body}
    (h : EndsAt settings web u v a) (hread : readAnswer settings.maxPageSize a = .ok page) :
    (visit settings web u).result = Page.render page.text u settings.maxElements := by
  rw [visit_result_of_endsAt h, hread]
  rfl

/-! ## A web with one redirect -/

/-- The redirect to the place named `y`. -/
def redirect : Answer :=
  { status := 302, headers := [("location", Text.Utf8.encode "/y/".toList)],
    declaredLength := some 0, chunks := [], ending := .complete }

/-- The web in which the place named `x` leads to the one named `y`, which gives an answer. -/
def redirectWeb (a : Answer) : Web := fun q =>
  if q.url = place "x" then .answer redirect
  else if q.url = place "y" then .answer a
  else .unreachable

/-- The bytes of the specimen. -/
def specimenBytes : List UInt8 := Text.Utf8.encode specimen.toList

/-- The specimen as the body of an answer, with its length. -/
def specimenAnswer (status : Nat) : Answer :=
  { status, headers := [], declaredLength := some specimenBytes.length, chunks := [specimenBytes],
    ending := .complete }

/-- The redirect leads to the second place, from there as well. -/
theorem next?_redirect : ∀ name ∈ ["x", "y"], next? (place name) redirect = some (place "y") := by
  decide +kernel

/-- The first place leads to the second one. -/
theorem leads_redirectWeb (settings : Fetch) (a : Answer) :
    Leads settings (redirectWeb a) 1 (place "x") (place "y") :=
  .step (if_pos rfl) (next?_redirect "x" (by decide)) (.inl rfl) (.here _)

/-- The second place gives the answer. -/
theorem reply_redirectWeb (settings : Fetch) (a : Answer) :
    redirectWeb a (request settings (place "y")) = .answer a := by
  have hplaces : ¬ place "y" = place "x" := by decide
  exact (if_neg hplaces).trans (if_pos rfl)

/-- Each place can be asked for. -/
theorem canRequest_place : ∀ name ∈ ["x", "y"], canRequest (place name) = true := by
  decide +kernel

/-- A fetch from the first place ends at the second one. -/
theorem endsAt_redirectWeb (settings : Fetch) (a : Answer) (hleft : 1 ≤ settings.maxRedirects)
    (hstays : next? (place "y") a = none) :
    EndsAt settings (redirectWeb a) (place "x") (place "y") a where
  begins := canRequest_place "x" (by decide)
  leads := ⟨1, hleft, leads_redirectWeb settings a⟩
  reply := reply_redirectWeb settings a
  stays := hstays

/-- The specimen leads nowhere, whatever its status, since it names no place. -/
theorem next?_specimenAnswer (u : Url) (status : Nat) : next? u (specimenAnswer status) = none := by
  unfold next? named?
  split <;> rfl

/-- A fetch ends with the specimen where the web has it. -/
theorem endsAt_specimenAnswer (settings : Fetch) (status : Nat)
    (hleft : 1 ≤ settings.maxRedirects) :
    EndsAt settings (redirectWeb (specimenAnswer status)) (place "x") (place "y")
      (specimenAnswer status) :=
  endsAt_redirectWeb settings _ hleft (next?_specimenAnswer _ status)

theorem flatten_specimenAnswer (status : Nat) :
    (specimenAnswer status).chunks.flatten = specimenBytes :=
  List.append_nil _

/-- The length that comes with the specimen is right. -/
theorem declared_specimenAnswer_le {limit : Nat} (status : Nat)
    (hlimit : specimenBytes.length ≤ limit) :
    ∀ d, (specimenAnswer status).declaredLength = some d → d ≤ limit := by
  rintro d hd
  cases hd
  exact hlimit

theorem text_specimenBytes : (Body.mk none specimenBytes).text = specimen := by decide +kernel

/-- The specimen is read as a page if it is within the limit. -/
theorem readAnswer_specimenAnswer (limit status : Nat) (hlimit : specimenBytes.length ≤ limit)
    (hstatus : ¬ (400 ≤ status ∧ status ≤ 599)) :
    readAnswer limit (specimenAnswer status) = .ok ⟨none, specimenBytes⟩ := by
  have hlength : (specimenAnswer status).chunks.flatten.length ≤ limit := by
    rwa [flatten_specimenAnswer]
  have hread := readAnswer_of_le limit (specimenAnswer status) hstatus
    (declared_specimenAnswer_le status hlimit) hlength
  rw [flatten_specimenAnswer] at hread
  exact hread

/-- The specimen is within the usual limit. -/
theorem length_specimenBytes_le : specimenBytes.length ≤ ({} : Fetch).maxPageSize := by decide

/-- A visit that ends with the specimen comes to its markup for the place that was asked for. -/
theorem visit_specimenAnswer {web : Web} {name : String} {v : Url} {status : Nat}
    (hname : name ∈ ["x", "y"]) (hstatus : ¬ (400 ≤ status ∧ status ≤ 599))
    (h : EndsAt {} web (place name) v (specimenAnswer status)) :
    (visit {} web (place name)).result = .ok (specimenMarkup name) := by
  have hread := readAnswer_specimenAnswer _ status length_specimenBytes_le hstatus
  rw [visit_result_of_ok h hread, text_specimenBytes]
  exact Article.render_specimen name hname

/-! ## Results -/

/-- What comes of a visit, by the last answer. A status of failure is reported whatever else there
is. With a status of success, a length beyond the limit that is announced is reported whatever
arrives, and more bytes than the limit are reported however the body ends. Within the limit, a body
that stalls or breaks off is reported as such, and one that is complete is decoded and rendered. So
no page with more bytes than the limit is decoded, and it does not matter how bodies are cut into
chunks. -/
theorem visit_outcome (settings : Fetch) (web : Web) (u v : Url) (a : Answer)
    (hends : EndsAt settings web u v a)
    (hstatus : (200 ≤ a.status ∧ a.status ≤ 299) ∨ (400 ≤ a.status ∧ a.status ≤ 599)) :
    let result := (visit settings web u).result
    let limit := settings.maxPageSize
    let bytes := a.chunks.flatten
    (400 ≤ a.status → result = .error (.siteStatus a.status)) ∧
    (a.status ≤ 299 →
      ((∃ d, a.declaredLength = some d ∧ limit < d) → result = .error (.pageTooLarge limit)) ∧
      ((∀ d, a.declaredLength = some d → d ≤ limit) →
        (limit < bytes.length → result = .error (.pageTooLarge limit)) ∧
        (bytes.length ≤ limit →
          (a.ending = .stalled → result = .error (.timeout bodyFailure)) ∧
          (a.ending = .broken → result = .error (.fetch bodyFailure)) ∧
          (a.ending = .complete →
            result = Page.render (Page.decode ((a.header? "content-type").bind asText?) bytes).1 u
              settings.maxElements)))) ∧
    (∀ page, (fetch settings web u).result = .ok page → page.bytes.length ≤ limit) ∧
    ∀ web', (∀ q, SameBytes (web q) (web' q)) → visit settings web' u = visit settings web u := by
  dsimp only
  refine ⟨?_, ?_, ?_, fun web' => visit_of_sameBytes settings web web' u⟩
  · intro hfailure
    have hfailure : 400 ≤ a.status ∧ a.status ≤ 599 := by omega
    exact visit_result_of_error hends (readAnswer_of_failure _ a hfailure)
  · intro hsuccess
    have hsuccess : ¬ (400 ≤ a.status ∧ a.status ≤ 599) := by omega
    refine ⟨?_, fun hdeclared => ⟨?_, ?_⟩⟩
    · rintro ⟨d, hd, hlimit⟩
      exact visit_result_of_error hends (readAnswer_of_declared _ a d hsuccess hd hlimit)
    · intro hlength
      exact visit_result_of_error hends (readAnswer_of_lt _ a hsuccess hdeclared hlength)
    · intro hlength
      have hread := readAnswer_of_le _ a hsuccess hdeclared hlength
      refine ⟨fun hending => ?_, fun hending => ?_, fun hending => ?_⟩
      · simp only [hending] at hread
        exact visit_result_of_error hends hread
      · simp only [hending] at hread
        exact visit_result_of_error hends hread
      · simp only [hending] at hread
        have hrendered := visit_result_of_ok hends hread
        exact hrendered
  · -- This holds of any fetch, wherever it ends.
    exact fun page => length_le_of_fetch

/-- After a redirect, a page with just as many bytes as the limit is rendered. -/
theorem visit_outcome_at_limit :
    let settings : Fetch := { maxPageSize := specimenBytes.length }
    let a := specimenAnswer 200
    EndsAt settings (redirectWeb a) (place "x") (place "y") a ∧
      a.chunks.flatten.length = settings.maxPageSize ∧
      (visit settings (redirectWeb a) (place "x")).result = .ok (specimenMarkup "x") := by
  intro settings a
  have hends : EndsAt settings (redirectWeb a) (place "x") (place "y") a :=
    endsAt_specimenAnswer settings 200 (by decide)
  have hdeclared : ∀ d, a.declaredLength = some d → d ≤ settings.maxPageSize :=
    declared_specimenAnswer_le 200 (Nat.le_refl _)
  have hbytes : a.chunks.flatten = specimenBytes := flatten_specimenAnswer 200
  obtain ⟨-, hsuccess, -⟩ :=
    visit_outcome settings (redirectWeb a) _ _ a hends (.inl ⟨by decide, by decide⟩)
  rw [hbytes] at hsuccess
  obtain ⟨-, -, hcomplete⟩ := ((hsuccess (by decide)).2 hdeclared).2 (Nat.le_refl _)
  have htext : (Page.decode ((a.header? "content-type").bind asText?) specimenBytes).1 = specimen :=
    text_specimenBytes
  have hresult := hcomplete rfl
  rw [htext] at hresult
  rw [hbytes]
  exact ⟨hends, rfl, hresult.trans (Article.render_specimen "x" (by decide))⟩

/-- Just the statuses from 400 to 599 are reported as such, whatever comes with them. An answer of
any other status, from which no redirect is followed, comes to what it would come to with the status
of success. -/
theorem visit_siteStatus_iff (settings : Fetch) (web : Web) (u v : Url) (a : Answer)
    (hends : EndsAt settings web u v a) :
    (∀ s, (visit settings web u).result = .error (.siteStatus s) ↔
      s = a.status ∧ 400 ≤ s ∧ s ≤ 599) ∧
    (¬ (400 ≤ a.status ∧ a.status ≤ 599) →
      ∀ web', EndsAt settings web' u v { a with status := 200 } →
        (visit settings web u).result = (visit settings web' u).result) := by
  refine ⟨fun s => ?_, fun hstatus web' hends' => ?_⟩
  · rw [← readAnswer_eq_siteStatus_iff settings.maxPageSize a s]
    cases hread : readAnswer settings.maxPageSize a with
    | error f =>
      rw [visit_result_of_error hends hread]
      simp
    | ok page =>
      rw [visit_result_of_ok hends hread]
      -- A page that is not rendered fails in another way.
      refine iff_of_false ?_ (by simp)
      intro hrender
      obtain ⟨detail, hdetail⟩ := Page.render_error _ _ _ _ hrender
      cases hdetail
  · rw [visit_result_of_endsAt hends, visit_result_of_endsAt hends',
      readAnswer_of_not_failure settings.maxPageSize a 200 hstatus (by decide)]

/-- A redirect that names no place is not reported, but read like a page. -/
theorem visit_siteStatus_iff_found :
    let web := fun status => redirectWeb (specimenAnswer status)
    EndsAt {} (web 302) (place "x") (place "y") (specimenAnswer 302) ∧
      (visit {} (web 302) (place "x")).result ≠ .error (.siteStatus 302) ∧
      (visit {} (web 302) (place "x")).result = (visit {} (web 200) (place "x")).result := by
  intro web
  have hends (status : Nat) :
      EndsAt {} (web status) (place "x") (place "y") (specimenAnswer status) :=
    endsAt_specimenAnswer {} status (by decide)
  obtain ⟨hstatus, hother⟩ := visit_siteStatus_iff {} (web 302) _ _ _ (hends 302)
  refine ⟨hends 302, ?_, hother (by decide) (web 200) (hends 200)⟩
  intro hreported
  exact absurd ((hstatus 302).1 hreported) (by decide)

/-- A redirect that names no place, and so is the last answer, has its page rendered. -/
theorem visit_rendered_redirect :
    let web := redirectWeb (specimenAnswer 302)
    EndsAt {} web (place "y") (place "y") (specimenAnswer 302) ∧
      ¬ (200 ≤ (specimenAnswer 302).status ∧ (specimenAnswer 302).status ≤ 299) ∧
      (visit {} web (place "y")).result = .ok (specimenMarkup "y") ∧
      (visit {} web (place "y")).result ≠ .error (.siteStatus 302) := by
  intro web
  have hends : EndsAt {} web (place "y") (place "y") (specimenAnswer 302) :=
    (endsAt_specimenAnswer {} 302 (by decide)).from_end
  have hresult : (visit {} web (place "y")).result = .ok (specimenMarkup "y") :=
    visit_specimenAnswer (by decide) (by decide) hends
  refine ⟨hends, by decide, hresult, ?_⟩
  rw [hresult]
  exact nofun

/-- A visit of a URL from which redirects lead, and a visit of the one to which they lead, come to
the same failure of reading the last answer. If it can be read, both render the same text, and they
find an article with the same title or none; but each has the links lead from the URL that it was
asked for. -/
theorem visit_of_endsAt (settings : Fetch) (web : Web) (u v : Url) (a : Answer)
    (hends : EndsAt settings web u v a) :
    (∀ f, readAnswer settings.maxPageSize a = .error f →
      (visit settings web u).result = .error f ∧ (visit settings web v).result = .error f) ∧
    ∀ page, readAnswer settings.maxPageSize a = .ok page →
      (visit settings web u).result = Page.render page.text u settings.maxElements ∧
      (visit settings web v).result = Page.render page.text v settings.maxElements ∧
      (Article.ofDom? (Html.Dom.ofText page.text) u).map (·.title) =
        (Article.ofDom? (Html.Dom.ofText page.text) v).map (·.title) := by
  refine ⟨fun f hread => ⟨?_, ?_⟩, fun page hread => ⟨?_, ?_, Page.map_title_ofDom? _ u v⟩⟩
  · exact visit_result_of_error hends hread
  · exact visit_result_of_error hends.from_end hread
  · exact visit_result_of_ok hends hread
  · exact visit_result_of_ok hends.from_end hread

/-- Both visits render the specimen, each with its own place. -/
theorem visit_of_endsAt_specimen :
    let web := redirectWeb (specimenAnswer 200)
    EndsAt {} web (place "x") (place "y") (specimenAnswer 200) ∧
      (visit {} web (place "x")).result = Page.render specimen (place "x") 0 ∧
      (visit {} web (place "y")).result = Page.render specimen (place "y") 0 := by
  intro web
  have hends : EndsAt {} web (place "x") (place "y") (specimenAnswer 200) :=
    endsAt_specimenAnswer {} 200 (by decide)
  have hread := readAnswer_specimenAnswer _ 200 length_specimenBytes_le (by decide)
  obtain ⟨-, hok⟩ := visit_of_endsAt {} web _ _ _ hends
  obtain ⟨hx, hy, -⟩ := hok _ hread
  rw [text_specimenBytes] at hx hy
  exact ⟨hends, hx, hy⟩

/-- The visits of two places, one of which leads to the other, do not come to the same: the image of
the page is said to be in the place that was asked for. -/
theorem visit_differs_from_end :
    let web := redirectWeb (specimenAnswer 200)
    EndsAt {} web (place "x") (place "y") (specimenAnswer 200) ∧
      (visit {} web (place "x")).result = .ok (specimenMarkup "x") ∧
      (visit {} web (place "y")).result = .ok (specimenMarkup "y") ∧
      (visit {} web (place "x")).result ≠ (visit {} web (place "y")).result := by
  intro web
  have hends : EndsAt {} web (place "x") (place "y") (specimenAnswer 200) :=
    endsAt_specimenAnswer {} 200 (by decide)
  have hx : (visit {} web (place "x")).result = .ok (specimenMarkup "x") :=
    visit_specimenAnswer (by decide) (by decide) hends
  have hy : (visit {} web (place "y")).result = .ok (specimenMarkup "y") :=
    visit_specimenAnswer (by decide) (by decide) hends.from_end
  refine ⟨hends, hx, hy, ?_⟩
  rw [hx, hy]
  intro hsame
  exact absurd (Article.specimenMarkup_injective (Except.ok.inj hsame)) (by decide)

end MainContent.Fetch
