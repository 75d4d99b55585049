import MainContent.Proofs.Service.Admission
import MainContent.Proofs.Service.Redaction
import MainContent.Proofs.Service.RequestTarget

/-!
# A run shows of a key only whether it is right

Two runs whose requests differ only in what their keys are, and in which the same requests present
the secret, cannot be told apart: `Session.run_eq_of_differInKeys` says that they have the same
responses, the same visits, the same requests to sites, and the same events.

A query is related to another one piece by piece (`SamePiece`). From there each reader of the query
is followed by itself: redaction shows the same text (`Redaction.redact_of_sameQuery`), and the
parameters have the same page and agree on whether a key is there (`Query.ofText_of_sameQuery`).
Nothing else of a request can differ, since the path of a target does not depend on its query
(`DifferInKeys.target`).
-/

namespace MainContent.Service

open MainContent.Text

/-- Two pieces of a query that differ at most in the value of a key. A piece without `=` has the
empty value, so only the raw names are compared. -/
def SamePiece (piece piece' : List Char) : Prop :=
  piece = piece' ∨
    (Form.name piece = Query.keyName.toList ∧ Form.rawName piece = Form.rawName piece')

instance (piece piece' : List Char) : Decidable (SamePiece piece piece') :=
  inferInstanceAs (Decidable (_ ∨ _))

/-- Two queries that differ at most in the values of their keys. -/
def SameQuery (query query' : List Char) : Prop :=
  List.Forall₂ SamePiece (Form.pieces query) (Form.pieces query')

instance (query query' : List Char) : Decidable (SameQuery query query') :=
  inferInstanceAs (Decidable (List.Forall₂ _ _ _))

/-- Two texts of targets that differ at most in the values of the keys in their queries. -/
inductive SameUri : String → String → Prop where
  /-- The texts are the same. -/
  | refl (text : String) : SameUri text text
  /-- The texts have queries, which stand after the first `?` and before the fragment. -/
  | query (head query query' tail : List Char) (head_question : '?' ∉ head) (head_hash : '#' ∉ head)
    (query_hash : '#' ∉ query) (query_hash' : '#' ∉ query')
    (tail_hash : tail = [] ∨ ∃ rest, tail = '#' :: rest) (same : SameQuery query query') :
    SameUri (String.ofList (head ++ '?' :: (query ++ tail)))
      (String.ofList (head ++ '?' :: (query' ++ tail)))

/-- Two requests with targets that can be read and differ at most in the values of keys. -/
structure DifferInKeys (q q' : Request) : Prop where
  /-- What is asked is the same. -/
  method : q.method = q'.method
  /-- The headers are the same. -/
  headers : q.headers = q'.headers
  /-- The connections come from the same place. -/
  peer : q.peer = q'.peer
  /-- The targets are read from texts that differ at most in the values of keys. -/
  uri : ∃ text text', RequestTarget.ofText? text = some q.target ∧
    RequestTarget.ofText? text' = some q'.target ∧ SameUri text text'

/-! ## Pieces and queries -/

/-- The name of a piece depends on the piece only by its raw name. -/
theorem name_eq_of_rawName_eq (piece piece' : List Char)
    (h : Form.rawName piece = Form.rawName piece') : Form.name piece = Form.name piece' := by
  rw [Form.name, h, Form.name]

/-- A piece with the name of a key is not empty. -/
theorem ne_nil_of_name_eq (piece : List Char) (h : Form.name piece = Query.keyName.toList) :
    piece ≠ [] := by
  rintro rfl
  have hnil : Form.name [] = [] := Form.decode_nil
  rw [hnil] at h
  exact absurd h (by decide)

/-- Pieces that differ in the value of a key are shown alike. -/
theorem SamePiece.redactPiece_eq (piece piece' : List Char) (h : SamePiece piece piece') :
    Redaction.redactPiece piece = Redaction.redactPiece piece' := by
  rcases h with rfl | ⟨hname, hraw⟩
  · rfl
  · have hname' : Form.name piece' = Query.keyName.toList := by
      rw [← name_eq_of_rawName_eq piece piece' hraw, hname]
    rw [Redaction.redactPiece_of_name_eq piece hname, Redaction.redactPiece_of_name_eq piece' hname',
      hraw]

/-- Queries that differ in the values of keys are shown alike. -/
theorem Redaction.redact_of_sameQuery (query query' : String)
    (h : SameQuery query.toList query'.toList) : redact query = redact query' := by
  have hshown : (Form.pieces query.toList).map redactPiece =
      (Form.pieces query'.toList).map redactPiece := by
    unfold SameQuery at h
    rw [← List.forall₂_eq_eq_eq, List.forall₂_map_left_iff, List.forall₂_map_right_iff]
    exact h.imp SamePiece.redactPiece_eq
  rw [redact, hshown, redact]

/-- Two pairs that differ at most in the value of a key. -/
def SamePair (p p' : List Char × List Char) : Prop :=
  p = p' ∨ (p.1 = Query.keyName.toList ∧ p'.1 = Query.keyName.toList)

/-- The pairs of queries that differ in the values of keys do so too. -/
theorem samePair_pairs (query query' : List Char) (h : SameQuery query query') :
    List.Forall₂ SamePair (Form.pairs query) (Form.pairs query') := by
  unfold SameQuery at h
  unfold Form.pairs
  rw [List.forall₂_map_left_iff, List.forall₂_map_right_iff]
  have hpieces : List.Forall₂ SamePiece ((Form.pieces query).filter (!·.isEmpty))
      ((Form.pieces query').filter (!·.isEmpty)) := by
    apply List.rel_filter _ h
    rintro piece piece' (rfl | ⟨hname, hraw⟩)
    · rfl
    · have hname' : Form.name piece' = Query.keyName.toList := by
        rw [← name_eq_of_rawName_eq piece piece' hraw, hname]
      simp [ne_nil_of_name_eq piece hname, ne_nil_of_name_eq piece' hname']
  refine hpieces.imp ?_
  rintro piece piece' (rfl | ⟨hname, hraw⟩)
  · exact Or.inl rfl
  · refine Or.inr ⟨hname, ?_⟩
    rw [← name_eq_of_rawName_eq piece piece' hraw, hname]

/-- Pairs that differ in the values of keys have the same first page. -/
theorem first?_urlName_eq (ps ps' : List (List Char × List Char)) (h : List.Forall₂ SamePair ps ps') :
    Query.first? Query.urlName ps = Query.first? Query.urlName ps' := by
  unfold Query.first?
  induction h with
  | nil => rfl
  | cons hp _ ih =>
    rcases hp with rfl | ⟨hkey, hkey'⟩
    · rw [List.find?_cons, List.find?_cons]
      split
      · rfl
      · exact ih
    · -- A key is no page, so both searches go on.
      rw [List.find?_cons_of_neg, List.find?_cons_of_neg]
      · exact ih
      · rw [hkey']
        decide
      · rw [hkey]
        decide

/-- Pairs that differ in the values of keys agree on whether there is a key. -/
theorem first?_keyName_isSome (ps ps' : List (List Char × List Char))
    (h : List.Forall₂ SamePair ps ps') :
    (Query.first? Query.keyName ps).isSome = (Query.first? Query.keyName ps').isSome := by
  unfold Query.first?
  induction h with
  | nil => rfl
  | cons hp _ ih =>
    rcases hp with rfl | ⟨hkey, hkey'⟩
    · rw [List.find?_cons, List.find?_cons]
      split
      · rfl
      · exact ih
    · rw [List.find?_cons_of_pos, List.find?_cons_of_pos]
      · rfl
      · simp [hkey']
      · simp [hkey]

/-- Queries that differ in the values of keys name the same page and agree on whether a key is
there. -/
theorem Query.ofText_of_sameQuery (query query' : String)
    (h : SameQuery query.toList query'.toList) :
    (ofText query).url = (ofText query').url ∧
      (ofText query).key.isSome = (ofText query').key.isSome :=
  ⟨first?_urlName_eq _ _ (samePair_pairs _ _ h), first?_keyName_isSome _ _ (samePair_pairs _ _ h)⟩

/-! ## Requests -/

/-- Requests that differ in keys have the same path, and queries that differ in the values of
keys. -/
theorem DifferInKeys.target (q q' : Request) (h : DifferInKeys q q') :
    q.target.path = q'.target.path ∧ SameQuery q.target.query.toList q'.target.query.toList := by
  obtain ⟨text, text', htext, htext', huri⟩ := h.uri
  cases huri with
  | refl =>
    rw [htext, Option.some.injEq] at htext'
    rw [htext']
    exact ⟨rfl, List.forall₂_same.2 fun _ _ => Or.inl rfl⟩
  | query head query query' tail hhead hhead' hquery hquery' htail hsame =>
    obtain ⟨hq, hp⟩ :=
      RequestTarget.ofText?_of_question head query tail hhead hhead' hquery htail _ htext
    obtain ⟨hq', hp'⟩ :=
      RequestTarget.ofText?_of_question head query' tail hhead hhead' hquery' htail _ htext'
    rw [hp, Option.some.injEq, RequestTarget.mk.injEq] at hp'
    refine ⟨hp'.1, ?_⟩
    rw [hq, hq', String.toList_ofList, String.toList_ofList]
    exact hsame

/-- What is reported of an extraction depends on the query only by its page and by whether it has a
key. -/
theorem outcomeEvent_congr (p p' : Query) (hurl : p.url = p'.url)
    (hkey : p.key.isSome = p'.key.isSome) (result : Except Failure String) :
    outcomeEvent p result = outcomeEvent p' result := by
  cases result with
  | ok html => rw [outcomeEvent, outcomeEvent, hurl]
  | error f => cases f <;> simp only [outcomeEvent, hurl, hkey]

/-- An extraction depends on the query only by its page, by whether it has a key, and by whether
that key is the secret. -/
theorem extract_congr (key : AuthKey) (x : Url → Fetch.Visit) (p p' : Query)
    (hurl : p.url = p'.url) (hkey : p.key.isSome = p'.key.isSome)
    (hverdict : p.HasKey key ↔ p'.HasKey key) : extract key x p = extract key x p' := by
  have htarget : admittedTarget key p = admittedTarget key p' := by
    by_cases hright : p.HasKey key
    · rw [admittedTarget_of_hasKey key p hright, admittedTarget_of_hasKey key p' (hverdict.1 hright),
        hurl]
    · rw [admittedTarget_of_not_hasKey key p hright,
        admittedTarget_of_not_hasKey key p' (fun h => hright (hverdict.2 h))]
  cases hresult : admittedTarget key p with
  | error f =>
    rw [extract_of_error key x p f hresult, extract_of_error key x p' f (htarget ▸ hresult),
      outcomeEvent_congr p p' hurl hkey]
  | ok u =>
    rw [extract_of_ok key x p u hresult, extract_of_ok key x p' u (htarget ▸ hresult),
      outcomeEvent_congr p p' hurl hkey]

/-- Requests that differ in keys, both with the secret or both without, are answered alike. -/
theorem Server.answer_of_differInKeys (s : Server) (now : String) (q q' : Request)
    (h : DifferInKeys q q')
    (hverdict : ∀ key, s.authKey = some key → (q.query.HasKey key ↔ q'.query.HasKey key)) :
    s.answer now q = s.answer now q' := by
  obtain ⟨hpath, hquery⟩ := h.target
  obtain ⟨hurl, hkey⟩ := Query.ofText_of_sameQuery _ _ hquery
  have hroute : Route.of? q'.method q'.target = Route.of? q.method q.target := by
    rw [Route.of?, Route.of?, RequestTarget.route, RequestTarget.route, h.method, hpath]
  rw [answer, answer, hroute]
  cases Route.of? q.method q.target with
  | none => rfl
  | some r =>
    cases r with
    | health => rfl
    | document => rfl
    | extract =>
      obtain ⟨authKey, extractor⟩ := s
      cases authKey with
      | none => rfl
      | some key =>
        cases extractor with
        | none => rfl
        | some x => exact extract_congr key x _ _ hurl hkey (hverdict key rfl)

/-- Requests that differ in keys, both with the secret or both without, are served alike, events
included. -/
theorem Server.serve_of_differInKeys (s : Server) (now : String) (q q' : Request)
    (h : DifferInKeys q q')
    (hverdict : ∀ key, s.authKey = some key → (q.query.HasKey key ↔ q'.query.HasKey key)) :
    s.serve now q = s.serve now q' := by
  obtain ⟨hpath, hquery⟩ := h.target
  have hstart : startEvent q = startEvent q' := by
    rw [startEvent, startEvent, h.method, h.headers, h.peer, hpath,
      Redaction.redact_of_sameQuery _ _ hquery]
  have hend : ∀ status, endEvent q status = endEvent q' status := by
    intro status
    rw [endEvent, endEvent, h.method, hpath]
  rw [serve, serve, s.answer_of_differInKeys now q q' h hverdict, hstart, hend]

/-! ## Runs -/

/-- Runs over requests that differ in keys are equal after any past. -/
theorem Session.runAfter_of_differInKeys (s : Session) (past : List Url)
    (qs qs' : List (String × Request))
    (h : List.Forall₂ (fun q q' => q.1 = q'.1 ∧ DifferInKeys q.2 q'.2 ∧
      ∀ key, s.authKey = some key → (q.2.query.HasKey key ↔ q'.2.query.HasKey key)) qs qs') :
    s.runAfter past qs = s.runAfter past qs' := by
  induction h generalizing past with
  | nil => rfl
  | @cons q q' qs qs' hq _ ih =>
    obtain ⟨htime, hdiffer, hverdict⟩ := hq
    have hserve : (s.after past).serve q.1 q.2 = (s.after past).serve q'.1 q'.2 := by
      rw [htime]
      exact (s.after past).serve_of_differInKeys q'.1 q.2 q'.2 hdiffer hverdict
    rw [runAfter, runAfter, hserve, ih]

/-- Two runs at the same times, whose requests differ at most in the values of their keys and present
the secret in both runs or in neither, are equal: each request has the same response, has the same
pages visited, leads to the same requests to sites, and is reported by the same events. -/
theorem Session.run_eq_of_differInKeys (s : Session) (qs qs' : List (String × Request))
    (h : List.Forall₂ (fun q q' => q.1 = q'.1 ∧ DifferInKeys q.2 q'.2 ∧
      ∀ key, s.authKey = some key → (q.2.query.HasKey key ↔ q'.2.query.HasKey key)) qs qs') :
    s.run qs = s.run qs' :=
  s.runAfter_of_differInKeys [] qs qs' h

/-- A wrong key under an escaped name may as well have no value, and the secret may be written with
an escape, before other keys and a fragment. -/
theorem Session.run_eq_of_spellings :
    let s : Session := ⟨some ⟨"s"⟩, some fun past u => { result := .ok (u.shown ++ past.length.repr) }⟩
    let ask (path query : String) : String × Request :=
      ("now", { method := "GET", target := ⟨path, query⟩, headers := [], peer := none })
    s.run [ask "/extract" "k%65y=wrong&url=x", ask "/extract" "a&key=%73&key=u"] =
      s.run [ask "/extract" "k%65y&url=x", ask "/extract" "a&key=s&key="] := by
  intro s ask
  apply Session.run_eq_of_differInKeys
  refine .cons ⟨rfl, ⟨rfl, rfl, rfl, ?_⟩, ?_⟩ (.cons ⟨rfl, ⟨rfl, rfl, rfl, ?_⟩, ?_⟩ .nil)
  · exact ⟨_, _, by decide +kernel, by decide +kernel,
      .query "/extract".toList "k%65y=wrong&url=x".toList "k%65y&url=x".toList [] (by decide)
        (by decide) (by decide) (by decide) (Or.inl rfl) (by decide +kernel)⟩
  · rintro key ⟨⟩
    decide +kernel
  · exact ⟨_, _, by decide +kernel, by decide +kernel,
      .query "http://h/extract".toList "a&key=%73&key=u".toList "a&key=s&key=".toList "#f".toList
        (by decide) (by decide) (by decide) (by decide) (Or.inr ⟨['f'], rfl⟩) (by decide +kernel)⟩
  · rintro key ⟨⟩
    decide +kernel

end MainContent.Service
