import MainContent.Proofs.Fetch.Course

/-!
# How a body arrives

A body arrives in chunks, and a fetch stops collecting them as soon as there are too many bytes. The
chunks do not matter for that: `collect_eq` says that only the number of bytes counts which arrive
in all, and `fetch_of_sameBytes` that a fetch does the same however the bodies of a web are cut.

What is read from an answer is decided in this order (`readAnswer_of_failure` and the lemmas after
it): a status of failure comes first, then a length that is announced, then the number of bytes that
arrive, then the way in which the body ends. A page is read exactly when nothing of this stands in
its way (`readAnswer_eq_ok_iff`).
-/

namespace MainContent.Fetch

open MainContent.Settings (Fetch)

/-! ## Collecting -/

/-- The chunks of a body are collected as one, unless there are more bytes than the limit in all. -/
theorem collect_eq (limit : Nat) (got : List UInt8) (chunks : List (List UInt8))
    (h : got.length ≤ limit) :
    collect limit got chunks =
      if limit < (got ++ chunks.flatten).length then none else some (got ++ chunks.flatten) := by
  induction chunks generalizing got with
  | nil =>
    rw [List.flatten_nil, List.append_nil, if_neg (by omega)]
    rfl
  | cons c cs ih =>
    rw [collect, List.flatten_cons, ← List.append_assoc]
    by_cases hc : limit < got.length + c.length
    · -- What follows cannot make it fewer bytes.
      have hall : limit < (got ++ c ++ cs.flatten).length := by
        rw [List.length_append, List.length_append]
        omega
      rw [if_pos hc, if_pos hall]
    · have hgot : (got ++ c).length ≤ limit := by
        rw [List.length_append]
        omega
      rw [if_neg hc, ih (got ++ c) hgot]

/-- What a whole body is read as, when no more bytes than the limit arrive. -/
theorem collect_of_le (limit : Nat) (chunks : List (List UInt8))
    (h : chunks.flatten.length ≤ limit) : collect limit [] chunks = some chunks.flatten := by
  rw [collect_eq limit [] chunks (Nat.zero_le _), List.nil_append, if_neg (by omega)]

/-- Too many bytes are not collected. -/
theorem collect_of_lt (limit : Nat) (chunks : List (List UInt8))
    (h : limit < chunks.flatten.length) : collect limit [] chunks = none := by
  rw [collect_eq limit [] chunks (Nat.zero_le _), List.nil_append, if_pos h]

/-! ## Reading an answer -/

section Reading

variable (limit : Nat) (a : Answer)

/-- A status of failure is reported whatever else there is. -/
theorem readAnswer_of_failure (h : 400 ≤ a.status ∧ a.status ≤ 599) :
    readAnswer limit a = .error (.siteStatus a.status) := by
  rw [readAnswer, if_pos h]

/-- Another status does not matter for what is read. -/
theorem readAnswer_of_not_failure (status : Nat) (hstatus : ¬ (400 ≤ a.status ∧ a.status ≤ 599))
    (h : ¬ (400 ≤ status ∧ status ≤ 599)) :
    readAnswer limit { a with status } = readAnswer limit a := by
  rw [readAnswer, readAnswer, if_neg hstatus, if_neg h]
  rfl

/-- A length beyond the limit is reported whatever arrives. -/
theorem readAnswer_of_declared (d : Nat) (hstatus : ¬ (400 ≤ a.status ∧ a.status ≤ 599))
    (hdeclared : a.declaredLength = some d) (h : limit < d) :
    readAnswer limit a = .error (.pageTooLarge limit) := by
  have hany : a.declaredLength.any (limit < ·) = true := by simp [hdeclared, h]
  rw [readAnswer, if_neg hstatus, if_pos hany]

/-- More bytes than the limit are reported however the body ends. -/
theorem readAnswer_of_lt (hstatus : ¬ (400 ≤ a.status ∧ a.status ≤ 599))
    (hdeclared : ∀ d, a.declaredLength = some d → d ≤ limit)
    (h : limit < a.chunks.flatten.length) :
    readAnswer limit a = .error (.pageTooLarge limit) := by
  have hany : ¬ a.declaredLength.any (limit < ·) = true := by
    simpa [Option.any_eq_true] using hdeclared
  rw [readAnswer, if_neg hstatus, if_neg hany, collect_of_lt limit a.chunks h]

/-- A body within the limit is read by the way in which it ends. -/
theorem readAnswer_of_le (hstatus : ¬ (400 ≤ a.status ∧ a.status ≤ 599))
    (hdeclared : ∀ d, a.declaredLength = some d → d ≤ limit)
    (h : a.chunks.flatten.length ≤ limit) :
    readAnswer limit a =
      match a.ending with
      | .broken => .error (.fetch bodyFailure)
      | .stalled => .error (.timeout bodyFailure)
      | .complete => .ok ⟨(a.header? "content-type").bind asText?, a.chunks.flatten⟩ := by
  have hany : ¬ a.declaredLength.any (limit < ·) = true := by
    simpa [Option.any_eq_true] using hdeclared
  rw [readAnswer, if_neg hstatus, if_neg hany, collect_of_le limit a.chunks h]
  cases a.ending <;> rfl

/-- Just the statuses of failure are reported. -/
theorem readAnswer_eq_siteStatus_iff (s : Nat) :
    readAnswer limit a = .error (.siteStatus s) ↔ s = a.status ∧ 400 ≤ s ∧ s ≤ 599 := by
  by_cases hstatus : 400 ≤ a.status ∧ a.status ≤ 599
  · rw [readAnswer_of_failure limit a hstatus, Except.error.injEq, Failure.siteStatus.injEq]
    constructor
    · rintro rfl
      exact ⟨rfl, hstatus⟩
    · rintro ⟨rfl, -⟩
      rfl
  · have hother : readAnswer limit a ≠ .error (.siteStatus s) := by
      rw [readAnswer, if_neg hstatus]
      split
      · simp
      · split <;> simp
    refine iff_of_false hother ?_
    rintro ⟨rfl, h⟩
    exact hstatus h

/-- An answer carries a page within a limit: its body arrives to the end, with no more bytes than the
limit, announced or not. Its status does not matter for that. -/
structure Answer.Carries (page : Body) : Prop where
  /-- No length beyond the limit is announced. -/
  declared : ∀ d, a.declaredLength = some d → d ≤ limit
  /-- No more bytes than the limit arrive. -/
  length : page.bytes.length ≤ limit
  /-- The body arrives to its end. -/
  complete : a.ending = .complete
  /-- The bytes of the page are those that arrive. -/
  bytes : page.bytes = a.chunks.flatten
  /-- Its content type is that of the answer, if it can be read as text. -/
  contentType : page.contentType = (a.header? "content-type").bind asText?

/-- A page is read from an answer exactly when the answer carries it under a status that is none of
failure. -/
theorem readAnswer_eq_ok_iff (page : Body) :
    readAnswer limit a = .ok page ↔
      ¬ (400 ≤ a.status ∧ a.status ≤ 599) ∧ a.Carries limit page := by
  constructor
  · intro h
    by_cases hstatus : 400 ≤ a.status ∧ a.status ≤ 599
    · rw [readAnswer_of_failure limit a hstatus] at h
      cases h
    by_cases hbeyond : ∃ d, a.declaredLength = some d ∧ limit < d
    · obtain ⟨d, hd, hlimit⟩ := hbeyond
      rw [readAnswer_of_declared limit a d hstatus hd hlimit] at h
      cases h
    have hdeclared : ∀ d, a.declaredLength = some d → d ≤ limit := fun d hd =>
      Nat.le_of_not_lt fun hlimit => hbeyond ⟨d, hd, hlimit⟩
    by_cases hlength : limit < a.chunks.flatten.length
    · rw [readAnswer_of_lt limit a hstatus hdeclared hlength] at h
      cases h
    rw [readAnswer_of_le limit a hstatus hdeclared (Nat.le_of_not_lt hlength)] at h
    cases hending : a.ending with
    | broken => simp [hending] at h
    | stalled => simp [hending] at h
    | complete =>
      simp only [hending, Except.ok.injEq] at h
      subst h
      exact ⟨hstatus, hdeclared, Nat.le_of_not_lt hlength, hending, rfl, rfl⟩
  · rintro ⟨hstatus, h⟩
    rw [readAnswer_of_le limit a hstatus h.declared (h.bytes ▸ h.length), h.complete, ← h.bytes,
      ← h.contentType]

/-- An answer that cannot be read is a failure of getting the page. -/
theorem kind_of_readAnswer (f : Failure) (h : readAnswer limit a = .error f) : f.kind = .fetch := by
  unfold readAnswer at h
  split at h
  · cases h
    rfl
  · split at h
    · cases h
      rfl
    · split at h <;> cases h <;> rfl

/-- How a body is cut does not matter for what is read. -/
theorem readAnswer_of_flatten_eq (chunks : List (List UInt8))
    (h : chunks.flatten = a.chunks.flatten) :
    readAnswer limit { a with chunks } = readAnswer limit a := by
  unfold readAnswer
  dsimp only
  rw [collect_eq limit [] chunks (Nat.zero_le _), collect_eq limit [] a.chunks (Nat.zero_le _), h]
  rfl

/-- Of the headers, only the content type matters for what is read. -/
theorem readAnswer_of_headers (headers : List (String × List UInt8))
    (h : { a with headers : Answer }.header? "content-type" = a.header? "content-type") :
    readAnswer limit { a with headers } = readAnswer limit a := by
  unfold readAnswer
  rw [h]

end Reading

/-! ## Fetches -/

/-- A page that is fetched has no more bytes than the limit. -/
theorem length_le_of_course {settings : Fetch} {web : Web} {left : Nat} {u : Url} {t : Trip Body}
    (h : Course settings web left u t) (page : Body) (hpage : t.result = .ok page) :
    page.bytes.length ≤ settings.maxPageSize := by
  induction h with
  | unreachable => cases hpage
  | dropped => cases hpage
  | silent => cases hpage
  | last => exact ((readAnswer_eq_ok_iff _ _ page).1 hpage).2.length
  | exhausted => cases hpage
  | elsewhere => cases hpage
  | follow _ _ _ _ ih => exact ih hpage

/-- Two replies that differ at most in how the bytes of a body are cut into chunks. -/
inductive SameBytes : Reply → Reply → Prop where
  /-- The replies are the same. -/
  | refl (r : Reply) : SameBytes r r
  /-- The bytes of the body are cut in another way. -/
  | answer (a : Answer) (chunks : List (List UInt8)) (same : chunks.flatten = a.chunks.flatten) :
    SameBytes (.answer a) (.answer { a with chunks })

/-- An answer that is cut in another way leads to the same place and is read alike. -/
theorem SameBytes.answer_left {a : Answer} {r : Reply} (h : SameBytes (.answer a) r) :
    ∃ b, r = .answer b ∧ (∀ u, next? u b = next? u a) ∧
      ∀ limit, readAnswer limit b = readAnswer limit a := by
  cases h with
  | refl => exact ⟨a, rfl, fun _ => rfl, fun _ => rfl⟩
  | answer _ chunks same =>
    exact ⟨{ a with chunks }, rfl, fun _ => rfl, fun limit =>
      readAnswer_of_flatten_eq limit a chunks same⟩

/-- A reply that is not an answer stays the same. -/
theorem SameBytes.eq_of_not_answer {r r' : Reply} (h : SameBytes r r')
    (hnone : ∀ a, r ≠ .answer a) : r' = r := by
  cases h with
  | refl => rfl
  | answer a => exact absurd rfl (hnone a)

/-- A fetch takes the same course however the bodies of a web are cut. -/
theorem Course.of_sameBytes {settings : Fetch} {web web' : Web} {left : Nat} {u : Url}
    {t : Trip Body} (h : Course settings web left u t) (hsame : ∀ q, SameBytes (web q) (web' q)) :
    Course settings web' left u t := by
  induction h with
  | @unreachable left u reply =>
    have hreply := (hsame (request settings u)).eq_of_not_answer (by rw [reply]; nofun)
    exact .unreachable (hreply.trans reply)
  | @dropped left u reply =>
    have hreply := (hsame (request settings u)).eq_of_not_answer (by rw [reply]; nofun)
    exact .dropped (hreply.trans reply)
  | @silent left u reply =>
    have hreply := (hsame (request settings u)).eq_of_not_answer (by rw [reply]; nofun)
    exact .silent (hreply.trans reply)
  -- What a fetch does with an answer depends on where it leads and on what is read from it.
  | @last left u a reply stays =>
    obtain ⟨b, hb, hnext, hread⟩ := (reply ▸ hsame (request settings u)).answer_left
    rw [← hread]
    exact .last hb (by rw [hnext, stays])
  | @exhausted u next a reply leads =>
    obtain ⟨b, hb, hnext, -⟩ := (reply ▸ hsame (request settings u)).answer_left
    exact .exhausted hb (by rw [hnext, leads])
  | @elsewhere left u next a reply leads offWeb =>
    obtain ⟨b, hb, hnext, -⟩ := (reply ▸ hsame (request settings u)).answer_left
    exact .elsewhere hb (by rw [hnext, leads]) offWeb
  | @follow left u next a t reply leads ofWeb rest ih =>
    obtain ⟨b, hb, hnext, -⟩ := (reply ▸ hsame (request settings u)).answer_left
    exact .follow hb (by rw [hnext, leads]) ofWeb ih

/-- A fetch does the same however the bodies of a web are cut. -/
theorem fetch_of_sameBytes (settings : Fetch) (web web' : Web) (u : Url)
    (hsame : ∀ q, SameBytes (web q) (web' q)) : fetch settings web' u = fetch settings web u := by
  cases hu : canRequest u with
  | false => rw [fetch_of_not_canRequest _ _ hu, fetch_of_not_canRequest _ _ hu]
  | true => exact ((course_fetch settings web hu).of_sameBytes hsame).fetch_eq hu

/-- A fetch comes to no page with more bytes than the limit. -/
theorem length_le_of_fetch {settings : Fetch} {web : Web} {u : Url} {page : Body}
    (hpage : (fetch settings web u).result = .ok page) :
    page.bytes.length ≤ settings.maxPageSize := by
  cases hu : canRequest u with
  | false =>
    rw [fetch_of_not_canRequest _ _ hu] at hpage
    cases hpage
  | true => exact length_le_of_course (course_fetch settings web hu) page hpage

end MainContent.Fetch
