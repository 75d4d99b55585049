import MainContent.Proofs.Service.Cause

/-!
# What is reported of a request

The log of requests shows where each of them begins and ends, and with which status; what comes of an
extraction request is reported in between, after all that its extractor reports. `serve_events` says
so for every request and every service, and that the report agrees with the answer that the caller
receives: in the number of bytes of a success, and in the wording of a failure.

An event of another part of the service is never taken for one of the two that frame a request, unless
the extractor itself reports to their log. One that visits the web does not
(`leavesRequestLog_visit`).
-/

namespace MainContent.Service

open MainContent.Settings (Fetch)

/-! ## The frame -/

/-- Two events frame those of a request that is answered with a status. -/
structure Frames (q : Request) (status : Nat) (first last : Log.Event) : Prop where
  /-- Both belong to the log of requests. -/
  target : first.target = "api" ∧ last.target = "api"
  /-- The first one says that the request begins. -/
  started : first.level = .info ∧ first.message = "→ Request started"
  /-- Both name the method. -/
  method : first.fields.lookup "method" = some q.method ∧
    last.fields.lookup "method" = some q.method
  /-- Both name the path. -/
  path : first.fields.lookup "path" = some q.target.path ∧
    last.fields.lookup "path" = some q.target.path
  /-- The last one names the status. -/
  answered : last.fields.lookup "status" = some (Nat.repr status)
  /-- For a success, it says that the request is completed. -/
  completed : 200 ≤ status → status < 300 →
    last.level = .info ∧ last.message = "← Request completed"
  /-- For a fault of the caller, it is a warning that says so. -/
  clientError : 400 ≤ status → status < 500 → last.level = .warn ∧ last.message = "← Client error"
  /-- For a fault of the service, it is a warning that says so. -/
  serverError : 500 ≤ status → status < 600 → last.level = .warn ∧ last.message = "← Server error"

/-- The events at the beginning and at the end of a request frame it. -/
theorem frames_startEvent_endEvent (q : Request) (status : Nat) :
    Frames q status (startEvent q) (endEvent q status) where
  target := ⟨rfl, rfl⟩
  started := ⟨rfl, rfl⟩
  method := ⟨rfl, rfl⟩
  path := ⟨rfl, rfl⟩
  answered := rfl
  completed hlow hhigh := by
    unfold endEvent
    rw [if_pos ⟨hlow, hhigh⟩]
    exact ⟨rfl, rfl⟩
  clientError hlow hhigh := by
    unfold endEvent
    rw [if_neg (by omega), if_pos ⟨hlow, hhigh⟩]
    exact ⟨rfl, rfl⟩
  serverError hlow hhigh := by
    unfold endEvent
    rw [if_neg (by omega), if_neg (by omega)]
    exact ⟨rfl, rfl⟩

/-! ## What comes of an extraction request -/

/-- An event concludes an extraction request with these parameters, by what comes of it and by the
body of the answer. -/
def Concludes (q : Query) (body : String) (done : Log.Event) : Except Failure String → Prop
  -- The host of the page, and the bytes of the body but for the line end.
  | .ok _ => ∃ u n, readTarget q.url = .ok u ∧ body.utf8ByteSize = n + 1 ∧
      done = { level := .info, target := extractLog, message := "Extracted main content",
               fields := [("host", u.hostText), ("bytes", Nat.repr n)] }
  -- Whether there was a key at all, and nothing of the page.
  | .error .invalidAuthKey =>
      done = { level := .warn, target := extractLog,
               message := "Rejected extraction request with invalid auth key",
               fields := [("key_present", if q.key.isSome then "true" else "false")] }
  -- The kind of the failure, and the wording that the caller receives.
  | .error f => ∃ text, body = "ERROR: " ++ text ++ "\n" ∧
      done = { level := .warn, target := extractLog, message := "Extraction failed: " ++ text,
               fields := [("kind", f.kind.name), ("url", q.url.getD "")] }

/-- A page that is extracted is one that the query names. -/
theorem readTarget_of_outcome {key : AuthKey} {x : Url → Fetch.Visit} {q : Query} {html : String}
    (h : outcome key x q = .ok html) : ∃ u, readTarget q.url = .ok u := by
  obtain ⟨u, htarget, -⟩ := (Failure.bind_eq_ok_iff _ _ html).1 h
  exact ⟨u, readTarget_of_admittedTarget key q u htarget⟩

/-- The event that is reported of an extraction request concludes it. -/
theorem concludes_outcomeEvent (key : AuthKey) (x : Url → Fetch.Visit) (q : Query) :
    Concludes q (extractResponse (outcome key x q)).body (outcomeEvent q (outcome key x q))
      (outcome key x q) := by
  cases hresult : outcome key x q with
  | ok html =>
    obtain ⟨u, hu⟩ := readTarget_of_outcome hresult
    refine ⟨u, html.utf8ByteSize, hu, String.utf8ByteSize_append, ?_⟩
    rw [outcomeEvent, hu]
    rfl
  | error f =>
    -- Every failure but that of the key is reported in the same way.
    cases f with
    | invalidAuthKey => rfl
    | _ => exact ⟨_, rfl, rfl⟩

/-! ## All events of a request -/

/-- An extractor leaves the log of requests to the service. -/
def LeavesRequestLog (x : Url → Fetch.Visit) : Prop :=
  ∀ u, ∀ b ∈ (x u).events, b.target ≠ "api"

/-- An extractor that visits the web does. -/
theorem leavesRequestLog_visit (settings : Fetch) (web : Fetch.Web) :
    LeavesRequestLog (Fetch.visit settings web) := by
  intro u b hb
  unfold Fetch.visit at hb
  dsimp only at hb
  split at hb
  · cases hb
  · have htarget : b.target = Page.logTarget := by
      unfold Page.decode at hb
      rcases List.mem_cons.1 hb with rfl | hdamage
      · rfl
      · dsimp only at hdamage
        split at hdamage
        · rw [List.mem_singleton.1 hdamage]
          rfl
        · cases hdamage
    rw [htarget]
    decide

/-- A request other than an extraction request that can be served is reported by its frame alone. -/
theorem Server.answer_events_of_not_served (s : Server) (now : String) (q : Request)
    (h : ¬ (q.IsExtract ∧ s.authKey.isSome ∧ s.extractor.isSome)) :
    (s.answer now q).events = [] := by
  unfold Server.answer
  cases hroute : Route.of? q.method q.target with
  | none => rfl
  | some r =>
    cases r with
    | health => rfl
    | document => rfl
    | extract =>
      have hextract : q.IsExtract := (Route.of?_eq_extract_iff q).1 hroute
      obtain ⟨_ | key, _ | x⟩ := s
      case some.some => exact absurd ⟨hextract, rfl, rfl⟩ h
      all_goals rfl

/-- An extraction request is reported by what its extractor reports, and by what comes of it. -/
theorem extract_events (key : AuthKey) (x : Url → Fetch.Visit) (q : Query) :
    let e := extract key x q
    e.events = (e.visited.flatMap fun u => (x u).events) ++ [outcomeEvent q (outcome key x q)] ∧
      e.response = extractResponse (outcome key x q) := by
  cases htarget : admittedTarget key q with
  | error f =>
    rw [extract_of_error key x q f htarget, outcome, htarget]
    exact ⟨rfl, rfl⟩
  | ok u =>
    rw [extract_of_ok key x q u htarget, outcome, htarget]
    exact ⟨by rw [List.flatMap_singleton]; rfl, rfl⟩

/-- What comes of an extraction request is not reported to the log of requests. -/
theorem outcomeEvent_target (q : Query) (result : Except Failure String) :
    (outcomeEvent q result).target = extractLog := by
  cases result with
  | ok html => rfl
  | error f => cases f <;> rfl

/-- Nothing is reported to the log of requests while a request is answered, unless the extractor does
so. -/
theorem Server.answer_events_target (s : Server) (now : String) (q : Request)
    (h : ∀ x, s.extractor = some x → LeavesRequestLog x) :
    ∀ b ∈ (s.answer now q).events, b.target ≠ "api" := by
  by_cases hserved : q.IsExtract ∧ s.authKey.isSome ∧ s.extractor.isSome
  · obtain ⟨_ | key, _ | x⟩ := s
    case some.some =>
      rw [Server.answer_of_isExtract key x now q hserved.1, (extract_events key x q.query).1]
      intro b hb
      rcases List.mem_append.1 hb with hown | hdone
      · obtain ⟨u, -, hb⟩ := List.mem_flatMap.1 hown
        exact h x rfl u b hb
      · rw [List.mem_singleton.1 hdone, outcomeEvent_target]
        decide
    all_goals simp at hserved
  · rw [Server.answer_events_of_not_served s now q hserved]
    exact List.forall_mem_nil _

/-- The events of every request begin and end with two that frame it: they name its method and its
path, and the last one names the status of the answer and what it means. These two are all that is
reported to the log of requests, if the extractor leaves that log to the service, as one that visits
the web does.

Between them, an extraction request that can be served is reported by what the extractor reports,
followed by one event that concludes it: with the host of the page and the bytes of the markup, or
with whether there was a key, or with the kind and the wording of another failure. Any other request
is reported by its frame alone. -/
theorem serve_events (s : Server) (now : String) (q : Request) :
    let e := s.serve now q
    ∃ first between last, e.events = first :: between ++ [last] ∧
      Frames q e.response.status first last ∧
      (∀ key x, s.authKey = some key → s.extractor = some x → q.IsExtract →
        ∃ done, between = (e.visited.flatMap fun u => (x u).events) ++ [done] ∧
          Concludes q.query e.response.body done (outcome key x q.query)) ∧
      (¬ (q.IsExtract ∧ s.authKey.isSome ∧ s.extractor.isSome) → between = []) ∧
      ((∀ x, s.extractor = some x → LeavesRequestLog x) →
        e.events.filter (·.target = "api") = [first, last]) ∧
      ∀ settings web, LeavesRequestLog (Fetch.visit settings web) := by
  intro e
  have hevents : e.events =
      startEvent q :: (s.answer now q).events ++ [endEvent q e.response.status] := rfl
  refine ⟨_, _, _, hevents, frames_startEvent_endEvent q e.response.status, ?_, ?_, ?_,
    leavesRequestLog_visit⟩
  · intro key x hkey hx hextract
    obtain ⟨authKey, extractor⟩ := s
    obtain rfl : authKey = some key := hkey
    obtain rfl : extractor = some x := hx
    have hanswer : Server.answer ⟨some key, some x⟩ now q = extract key x q.query :=
      Server.answer_of_isExtract key x now q hextract
    obtain ⟨hown, hresponse⟩ := extract_events key x q.query
    have hbody : e.response = extractResponse (outcome key x q.query) := by
      rw [← hresponse, ← hanswer]
      rfl
    have hvisited : e.visited = (extract key x q.query).visited := by
      rw [← hanswer]
      rfl
    refine ⟨outcomeEvent q.query (outcome key x q.query), ?_, ?_⟩
    · rw [hanswer, hown, hvisited]
    · rw [hbody]
      exact concludes_outcomeEvent key x q.query
  · exact Server.answer_events_of_not_served s now q
  · intro hleaves
    have hnone : (s.answer now q).events.filter (·.target = "api") = [] := by
      simpa [List.filter_eq_nil_iff] using s.answer_events_target now q hleaves
    rw [hevents, List.filter_append, List.filter_cons_of_pos (by rfl), hnone]
    rfl

/-- A page of three bytes that is extracted is reported as such, with the host of its place. -/
theorem serve_events_specimen :
    let x : Url → Fetch.Visit := fun _ => { result := .ok "<p>" }
    let e := Server.serve ⟨some ⟨"k"⟩, some x⟩ "now" specimenRequest
    specimenRequest.IsExtract ∧ LeavesRequestLog x ∧
      ∃ first last, Frames specimenRequest 200 first last ∧
        e.events = [first, { level := .info, target := extractLog,
                             message := "Extracted main content",
                             fields := [("host", "[::1]"), ("bytes", "3")] }, last] ∧
        e.events.filter (·.target = "api") = [first, last] := by
  intro x e
  obtain ⟨hroute, htarget, -⟩ := specimenRequest_reads
  have hextract : specimenRequest.IsExtract := ⟨rfl, hroute⟩
  have hleaves : LeavesRequestLog x := fun _ => List.forall_mem_nil _
  have hresult : outcome ⟨"k"⟩ x specimenRequest.query = .ok "<p>" := by
    rw [outcome, htarget]
    rfl
  have hpage := readTarget_of_admittedTarget ⟨"k"⟩ _ _ htarget
  obtain ⟨first, between, last, hevents, hframes, hserved, -, hapi, -⟩ :=
    serve_events ⟨some ⟨"k"⟩, some x⟩ "now" specimenRequest
  obtain ⟨done, hbetween, hdone⟩ := hserved _ x rfl rfl hextract
  have hresponse : e.response = extractResponse (.ok "<p>") := by
    rw [← hresult]
    exact Server.serve_response_of_isExtract ⟨"k"⟩ x "now" specimenRequest hextract
  have hown : (e.visited.flatMap fun u => (x u).events) = [] :=
    List.flatMap_eq_nil_iff.2 fun _ _ => rfl
  rw [hown, List.nil_append] at hbetween
  rw [hresult] at hdone
  obtain ⟨u, n, hu, hn, rfl⟩ := hdone
  have hplace : u = Article.place "x" := Except.ok.inj (hu.symm.trans hpage)
  have hhost : (Article.place "x").hostText = "[::1]" := by decide +kernel
  have hbytes : n = 3 := by
    rw [hresponse] at hn
    exact Nat.succ.inj hn.symm
  rw [hresponse] at hframes
  refine ⟨hextract, hleaves, first, last, hframes, ?_, hapi fun _ hx => Option.some.inj hx ▸ hleaves⟩
  rw [hevents, hbetween, hplace, hhost, hbytes]
  rfl

end MainContent.Service
