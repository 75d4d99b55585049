import MainContent.Proofs.Service.AuthKey
import MainContent.Proofs.Service.Session
import Mathlib.Data.List.Forall2

/-!
# Who has a page visited

An extraction request is admitted when it asks for `/extract` with `GET`, presents the secret, and
names a page of the web (`Admitted`). `length_visited_run` says that a run visits exactly one page
for each admitted request, and that no other request makes the extractor do anything at all.
`extract_answer` says what such a request is answered with, in the order in which its faults are
looked for.

Both rest on what `admittedTarget` decides: without the secret it is the failure of the key, whatever
page is named, and with the secret it is the reading of the page.
-/

namespace MainContent.Service

open MainContent.Text

/-- The key that a query presents first is the secret, byte for byte. -/
def Query.HasKey (q : Query) (key : AuthKey) : Prop :=
  ∃ k, q.key = some k ∧ Utf8.encode k.toList = key.bytes

/-- The comparison of keys admits a query exactly when it presents the secret. -/
theorem Query.admits_iff_hasKey (q : Query) (key : AuthKey) :
    key.admits (q.key.map fun k => Utf8.encode k.toList) = true ↔ q.HasKey key := by
  rw [AuthKey.admits_eq_true_iff, Option.map_eq_some_iff, Query.HasKey]

instance (q : Query) (key : AuthKey) : Decidable (q.HasKey key) :=
  decidable_of_iff _ (q.admits_iff_hasKey key)

/-- A caller asks for the main content of a page. -/
def Request.IsExtract (q : Request) : Prop :=
  q.method = "GET" ∧ q.target.route = "/extract"

instance (q : Request) : Decidable q.IsExtract :=
  inferInstanceAs (Decidable (_ ∧ _))

/-- The parameters of a request. -/
def Request.query (q : Request) : Query :=
  Query.ofText q.target.query

/-- A request for which a page is visited. -/
structure Request.Admitted (q : Request) (key : AuthKey) : Prop where
  /-- It asks for the main content of a page. -/
  isExtract : q.IsExtract
  /-- It presents the secret. -/
  hasKey : q.query.HasKey key
  /-- It names a page of the web. -/
  page : ∃ u, readTarget q.query.url = .ok u

/-- Whether the reading of a page has succeeded can be looked up. -/
theorem isOk_iff_exists (r : Except Failure Url) : r.isOk = true ↔ ∃ u, r = .ok u := by
  cases r <;> simp [Except.isOk, Except.toBool]

instance (q : Request) (key : AuthKey) : Decidable (q.Admitted key) :=
  decidable_of_iff (q.IsExtract ∧ q.query.HasKey key ∧ (readTarget q.query.url).isOk = true)
    ⟨fun h => ⟨h.1, h.2.1, (isOk_iff_exists _).1 h.2.2⟩,
      fun h => ⟨h.isExtract, h.hasKey, (isOk_iff_exists _).2 h.page⟩⟩

/-! ## One extraction request -/

/-- Without the secret, no page is allowed to be visited. -/
theorem admittedTarget_of_not_hasKey (key : AuthKey) (q : Query) (h : ¬ q.HasKey key) :
    admittedTarget key q = .error .invalidAuthKey := by
  rw [admittedTarget, if_neg (fun hadmits => h ((q.admits_iff_hasKey key).1 hadmits))]

/-- With the secret, the page that the query names is. -/
theorem admittedTarget_of_hasKey (key : AuthKey) (q : Query) (h : q.HasKey key) :
    admittedTarget key q = readTarget q.url := by
  rw [admittedTarget, if_pos ((q.admits_iff_hasKey key).2 h)]

/-- An extraction request for which no page may be visited is answered with the failure, and the
extractor does nothing. -/
theorem extract_of_error (key : AuthKey) (x : Url → Fetch.Visit) (q : Query) (f : Failure)
    (h : admittedTarget key q = .error f) :
    extract key x q =
      { response := extractResponse (.error f), events := [outcomeEvent q (.error f)] } := by
  rw [extract, h]

/-- An extraction request for which a page may be visited has that page visited, once, and is
answered with what the visit has come to. -/
theorem extract_of_ok (key : AuthKey) (x : Url → Fetch.Visit) (q : Query) (u : Url)
    (h : admittedTarget key q = .ok u) :
    extract key x q =
      { response := extractResponse (x u).result, visited := [u], requests := (x u).requests,
        events := (x u).events ++ [outcomeEvent q (x u).result] } := by
  rw [extract, h]

/-! ## One request -/

/-- The extraction requests are those with the route of extraction. -/
theorem Route.of?_eq_extract_iff (q : Request) :
    Route.of? q.method q.target = some .extract ↔ q.IsExtract := by
  unfold Route.of? Request.IsExtract
  by_cases hm : q.method = "GET"
  · by_cases hr : q.target.route = "/extract"
    · simp [hm, hr]
    · by_cases hh : q.target.route = "/health"
      · simp [hm, hh]
      · by_cases hd : q.target.route = "/api-docs/openapi.json"
        · simp [hm, hd]
        · simp [hm, hr, hh, hd]
  · simp [hm]

/-- An extraction request is answered by the extraction of its parameters. -/
theorem Server.answer_of_isExtract (key : AuthKey) (x : Url → Fetch.Visit) (now : String)
    (q : Request) (h : q.IsExtract) :
    Server.answer ⟨some key, some x⟩ now q = extract key x q.query := by
  rw [Server.answer, (Route.of?_eq_extract_iff q).2 h, Request.query]

/-- A request that asks for anything else makes the extractor do nothing. -/
theorem Server.answer_of_not_isExtract (s : Server) (now : String) (q : Request)
    (h : ¬ q.IsExtract) : (s.answer now q).visited = [] ∧ (s.answer now q).requests = [] := by
  unfold Server.answer
  cases hroute : Route.of? q.method q.target with
  | none => exact ⟨rfl, rfl⟩
  | some r =>
    cases r with
    | health => exact ⟨rfl, rfl⟩
    | document => exact ⟨rfl, rfl⟩
    | extract => exact absurd ((Route.of?_eq_extract_iff q).1 hroute) h

/-- A request visits one page if it is admitted. -/
theorem Server.length_visited_of_admitted (key : AuthKey) (x : Url → Fetch.Visit) (now : String)
    (q : Request) (h : q.Admitted key) :
    (Server.serve ⟨some key, some x⟩ now q).visited.length = 1 := by
  obtain ⟨u, hu⟩ := h.page
  have htarget : admittedTarget key q.query = .ok u := by
    rw [admittedTarget_of_hasKey key q.query h.hasKey, hu]
  rw [Server.serve, Server.answer_of_isExtract key x now q h.isExtract,
    extract_of_ok key x q.query u htarget]
  rfl

/-- A request that is not admitted makes the extractor do nothing. -/
theorem Server.visited_of_not_admitted (key : AuthKey) (x : Url → Fetch.Visit) (now : String)
    (q : Request) (h : ¬ q.Admitted key) :
    (Server.serve ⟨some key, some x⟩ now q).visited = [] ∧
      (Server.serve ⟨some key, some x⟩ now q).requests = [] := by
  unfold Server.serve
  by_cases hextract : q.IsExtract
  · rw [Server.answer_of_isExtract key x now q hextract]
    cases htarget : admittedTarget key q.query with
    | error f =>
      rw [extract_of_error key x q.query f htarget]
      exact ⟨rfl, rfl⟩
    | ok u =>
      -- A page may be visited only for an admitted request.
      by_cases hkey : q.query.HasKey key
      · rw [admittedTarget_of_hasKey key q.query hkey] at htarget
        exact absurd ⟨hextract, hkey, u, htarget⟩ h
      · rw [admittedTarget_of_not_hasKey key q.query hkey] at htarget
        exact absurd htarget (by simp)
  · exact Server.answer_of_not_isExtract _ now q hextract

/-- An extraction request has status 200, the type of markup, and the line of what the extraction
comes to. -/
theorem Server.serve_response_of_isExtract (key : AuthKey) (x : Url → Fetch.Visit) (now : String)
    (q : Request) (h : q.IsExtract) :
    (Server.serve ⟨some key, some x⟩ now q).response =
      extractResponse (admittedTarget key q.query >>= fun u => (x u).result) := by
  rw [Server.serve, Server.answer_of_isExtract key x now q h]
  cases htarget : admittedTarget key q.query with
  | error f =>
    rw [extract_of_error key x q.query f htarget]
    rfl
  | ok u =>
    rw [extract_of_ok key x q.query u htarget]
    rfl

/-- The answer to every extraction request has status 200 and the type of markup, and its body is
one text with a line end. Without the secret the text is the failure of the key, whatever page is
named and whatever the extractor does. With it, the text is the failure of reading the page's URL,
else the failure of the visit, else the markup that the visit has come to, unchanged. -/
theorem extract_answer (key : AuthKey) (x : Url → Fetch.Visit) (now : String) (q : Request)
    (hmethod : q.method = "GET") (hroute : q.target.route = "/extract") :
    let r := (Server.serve ⟨some key, some x⟩ now q).response
    let p := Query.ofText q.target.query
    r.status = 200 ∧ r.contentType = some "text/html; charset=utf-8" ∧
      ((∀ k, p.key = some k → Utf8.encode k.toList ≠ Utf8.encode key.secret.toList) →
        r.body = "ERROR: Invalid auth key.\n") ∧
      ∀ k, p.key = some k → Utf8.encode k.toList = Utf8.encode key.secret.toList →
        (∀ e, readTarget p.url = .error e → r.body = "ERROR: " ++ e.message ++ "\n") ∧
        ∀ u, readTarget p.url = .ok u →
          (∀ e, (x u).result = .error e → r.body = "ERROR: " ++ e.message ++ "\n") ∧
          ∀ html, (x u).result = .ok html → r.body = html ++ "\n" := by
  intro r p
  have hr : r = extractResponse (admittedTarget key p >>= fun u => (x u).result) :=
    Server.serve_response_of_isExtract key x now q ⟨hmethod, hroute⟩
  refine ⟨by rw [hr]; rfl, by rw [hr]; rfl, ?_, ?_⟩
  · intro hwrong
    have hkey : ¬ p.HasKey key := by
      rintro ⟨k, hk, hbytes⟩
      exact hwrong k hk hbytes
    rw [hr, admittedTarget_of_not_hasKey key p hkey]
    rfl
  · intro k hk hbytes
    rw [admittedTarget_of_hasKey key p ⟨k, hk, hbytes⟩] at hr
    refine ⟨?_, ?_⟩
    · intro e he
      rw [hr, he]
      rfl
    · intro u hu
      rw [hu] at hr
      have hresult : r = extractResponse (x u).result := hr
      refine ⟨?_, ?_⟩
      · intro e he
        rw [hresult, he]
        rfl
      · intro html hhtml
        rw [hresult, hhtml]
        rfl

/-- A caller with the right key, which is written with escapes, who names no page is told so. -/
theorem extract_answer_missing_url :
    let q : Request := { method := "GET", target := ⟨"/%65xtract", "k%65y=a+b&key=x&&%"⟩,
                         headers := [], peer := none }
    q.method = "GET" ∧ q.target.route = "/extract" ∧
      (Server.serve ⟨some ⟨"a b"⟩, some fun _ => { result := .ok "<p>" }⟩ "now" q).response.body =
        "ERROR: Missing url parameter\n" := by
  intro q
  have hroute : q.target.route = "/extract" := by decide +kernel
  have hanswer := extract_answer ⟨"a b"⟩ (fun _ => { result := .ok "<p>" }) "now" q rfl hroute
  obtain ⟨-, -, -, hright⟩ := hanswer
  exact ⟨rfl, hroute, (hright "a b" (by decide +kernel) rfl).1 .missingUrl (by decide +kernel)⟩

/-! ## Runs -/

/-- What a run visits after any past: one page for each admitted request. -/
theorem Session.length_visited_runAfter (key : AuthKey) (x : List Url → Url → Fetch.Visit)
    (past : List Url) (qs : List (String × Request)) :
    (((Session.mk (some key) (some x)).runAfter past qs).flatMap (·.visited)).length =
      qs.countP fun q => q.2.Admitted key := by
  induction qs generalizing past with
  | nil => rfl
  | cons q qs ih =>
    rw [Session.runAfter, List.flatMap_cons, List.length_append, ih, List.countP_cons, Nat.add_comm]
    congr 1
    by_cases hadmitted : q.2.Admitted key
    · rw [if_pos (decide_eq_true hadmitted)]
      exact Server.length_visited_of_admitted key (x past) q.1 q.2 hadmitted
    · rw [if_neg (by simp [hadmitted])]
      have hnone := (Server.visited_of_not_admitted key (x past) q.1 q.2 hadmitted).1
      exact congrArg List.length hnone

/-- The requests of a run that are not admitted make the extractor do nothing, after any past. -/
theorem Session.visited_runAfter_of_not_admitted (key : AuthKey) (x : List Url → Url → Fetch.Visit)
    (past : List Url) (qs : List (String × Request)) :
    List.Forall₂ (fun q e => ¬ q.2.Admitted key → e.visited = [] ∧ e.requests = []) qs
      ((Session.mk (some key) (some x)).runAfter past qs) := by
  induction qs generalizing past with
  | nil => exact List.Forall₂.nil
  | cons q qs ih =>
    exact List.Forall₂.cons (Server.visited_of_not_admitted key (x past) q.1 q.2) (ih _)

/-- A run visits as many pages as it has requests that ask for `/extract` with `GET`, present the
secret byte for byte as their first key, and name a page of the web. Every other request makes the
extractor do nothing, whatever it is, so that under one that visits the web no site sees a request
for it. -/
theorem Session.length_visited_run (key : AuthKey) (x : List Url → Url → Fetch.Visit)
    (qs : List (String × Request)) :
    (((Session.mk (some key) (some x)).run qs).flatMap (·.visited)).length =
        qs.countP (fun q => q.2.Admitted key) ∧
      List.Forall₂ (fun q e => ¬ q.2.Admitted key → e.visited = [] ∧ e.requests = []) qs
        ((Session.mk (some key) (some x)).run qs) :=
  ⟨Session.length_visited_runAfter key x [] qs,
    Session.visited_runAfter_of_not_admitted key x [] qs⟩

end MainContent.Service
