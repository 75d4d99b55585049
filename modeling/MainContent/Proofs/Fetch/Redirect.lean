import MainContent.Proofs.Fetch.Course

/-!
# Where redirects lead

A fetch goes from answer to answer until it comes to one from which no redirect is followed. What it
meets on the way does not matter: `fetch_of_endsAt` says that a fetch whose redirects end at a URL
comes to what is read from the last answer, so that it comes to the same as a fetch of that URL.

The proof follows the redirects (`course_of_leads`): each of them is one step of the course of the
fetch, and costs one of those that may be followed.
-/

namespace MainContent.Fetch

open MainContent.Settings (Fetch)

/-- The redirects of a web lead from a URL to another one in so many steps, each of them to a URL of
the web. -/
inductive Leads (settings : Fetch) (web : Web) : Nat → Url → Url → Prop where
  /-- No redirect leads to the URL itself. -/
  | here (u : Url) : Leads settings web 0 u u
  /-- The answer at a URL leads to another one, from where the other redirects lead on. -/
  | step {n : Nat} {u next v : Url} {a : Answer} (reply : web (request settings u) = .answer a)
    (leads : next? u a = some next) (ofWeb : OfWeb next) (rest : Leads settings web n next v) :
    Leads settings web (n + 1) u v

/-- A fetch of a URL ends at another one with an answer: it can begin, the redirects that may be
followed lead there, and the answer there leads no further. -/
structure EndsAt (settings : Fetch) (web : Web) (u v : Url) (a : Answer) : Prop where
  /-- The URL can be asked for. -/
  begins : canRequest u = true
  /-- No more redirects lead to the URL than may be followed. -/
  leads : ∃ n ≤ settings.maxRedirects, Leads settings web n u v
  /-- The answer there. -/
  reply : web (request settings v) = .answer a
  /-- No redirect is followed from it. -/
  stays : next? v a = none

variable {settings : Fetch} {web : Web} {u v : Url} {a : Answer}

/-- The course of a fetch follows the redirects that lead to a URL, with one request for each of
them, and goes on from there as a fetch of that URL does. -/
theorem course_of_leads {n left : Nat} {t : Trip Body} (h : Leads settings web n u v)
    (hleft : n ≤ left) (ht : Course settings web (left - n) v t) :
    ∃ passed, passed.length = n ∧
      Course settings web left u ⟨passed ++ t.requests, t.result⟩ := by
  induction h generalizing left with
  | here u => exact ⟨[], rfl, ht⟩
  | @step n u next v a reply leads ofWeb rest ih =>
    -- The redirect uses up one of those that may be followed, and the way on is one shorter.
    obtain ⟨left, rfl⟩ : ∃ l, left = l + 1 := ⟨left - 1, by omega⟩
    rw [Nat.add_sub_add_right] at ht
    obtain ⟨passed, hlength, hrest⟩ := ih (by omega) ht
    exact ⟨request settings u :: passed, by rw [List.length_cons, hlength],
      .follow reply leads ofWeb hrest⟩

/-- A fetch comes to what is read from its last answer. -/
theorem fetch_of_endsAt (h : EndsAt settings web u v a) :
    (fetch settings web u).result = readAnswer settings.maxPageSize a := by
  obtain ⟨n, hn, hleads⟩ := h.leads
  obtain ⟨passed, -, hcourse⟩ := course_of_leads hleads hn (.last h.reply h.stays)
  rw [hcourse.fetch_eq h.begins]

/-- Redirects from a URL that can be asked for lead to such URLs only. -/
theorem Leads.canRequest {n : Nat} (h : Leads settings web n u v) (hu : Fetch.canRequest u = true) :
    Fetch.canRequest v = true := by
  induction h with
  | here u => exact hu
  | step _ leads _ _ ih => exact ih (next?_eq_some_iff.1 leads).2

/-- Where a fetch ends, a fetch of that URL ends at once. -/
theorem EndsAt.from_end (h : EndsAt settings web u v a) : EndsAt settings web v v a := by
  obtain ⟨n, -, hleads⟩ := h.leads
  exact ⟨hleads.canRequest h.begins, ⟨0, Nat.zero_le _, .here v⟩, h.reply, h.stays⟩

/-- Redirects lead to one last answer. -/
theorem Leads.unique {n m : Nat} {v' : Url} {a' : Answer} (h : Leads settings web n u v)
    (reply : web (request settings v) = .answer a) (stays : next? v a = none)
    (h' : Leads settings web m u v') (reply' : web (request settings v') = .answer a')
    (stays' : next? v' a' = none) : a = a' := by
  -- Each answer on the way is the only one there, so that both chains take the same step or none.
  induction h generalizing m with
  | here u =>
    cases h' with
    | here => exact Reply.answer.inj (reply.symm.trans reply')
    | step there leads _ _ =>
      obtain rfl := Reply.answer.inj (reply.symm.trans there)
      rw [stays] at leads
      cases leads
  | step there leads _ _ ih =>
    cases h' with
    | here =>
      obtain rfl := Reply.answer.inj (reply'.symm.trans there)
      rw [stays'] at leads
      cases leads
    | step there' leads' _ rest' =>
      obtain rfl := Reply.answer.inj (there.symm.trans there')
      obtain rfl := Option.some.inj (leads.symm.trans leads')
      exact ih reply stays rest'

/-- A fetch ends with one answer. -/
theorem EndsAt.unique {v' : Url} {a' : Answer} (h : EndsAt settings web u v a)
    (h' : EndsAt settings web u v' a') : a = a' := by
  obtain ⟨_, -, hleads⟩ := h.leads
  obtain ⟨_, -, hleads'⟩ := h'.leads
  exact hleads.unique h.reply h.stays hleads' h'.reply h'.stays

end MainContent.Fetch
