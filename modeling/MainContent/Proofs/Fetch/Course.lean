import MainContent.Fetch.Client

/-!
# The course of a fetch

All that a fetch can do at a URL is listed once (`Course`): it gets no answer, or it reads the last
answer, or it gives up at a redirect, or it follows one. There is a course from each URL, and a fetch
does just what it says (`exists_course`, `Course.fetchFrom_eq`). So a property of all fetches is proved
by going through the list, with the property of what follows a redirect as the hypothesis of the
induction.

A fetch takes such a course from every URL that can be asked for (`course_fetch`). From any other URL
it comes to nothing (`fetch_of_not_canRequest`).
-/

namespace MainContent.Fetch

open MainContent.Settings (Fetch)

/-- Whether a URL is one of the web. -/
def OfWeb (u : Url) : Prop :=
  u.scheme = "http" ∨ u.scheme = "https"

instance (u : Url) : Decidable (OfWeb u) :=
  inferInstanceAs (Decidable (_ ∨ _))

/-- What a fetch of a URL does, and what comes of it, when so many redirects may be followed. -/
inductive Course (settings : Fetch) (web : Web) : Nat → Url → Trip Body → Prop where
  /-- No site is reached. -/
  | unreachable {left : Nat} {u : Url} (reply : web (request settings u) = .unreachable) :
    Course settings web left u ⟨[], .error (.fetch (sendFailure u))⟩
  /-- The site gives no answer. -/
  | dropped {left : Nat} {u : Url} (reply : web (request settings u) = .dropped) :
    Course settings web left u ⟨[request settings u], .error (.fetch (sendFailure u))⟩
  /-- The site gives no answer in time. -/
  | silent {left : Nat} {u : Url} (reply : web (request settings u) = .silent) :
    Course settings web left u ⟨[request settings u], .error (.timeout (sendFailure u))⟩
  /-- The answer leads nowhere, and is read. -/
  | last {left : Nat} {u : Url} {a : Answer} (reply : web (request settings u) = .answer a)
    (stays : next? u a = none) :
    Course settings web left u ⟨[request settings u], readAnswer settings.maxPageSize a⟩
  /-- The answer leads to another URL, but no redirect may be followed any more. -/
  | exhausted {u next : Url} {a : Answer} (reply : web (request settings u) = .answer a)
    (leads : next? u a = some next) :
    Course settings web 0 u ⟨[request settings u], .error (.fetch (redirectFailure u))⟩
  /-- The answer leads to a URL that is not of the web. -/
  | elsewhere {left : Nat} {u next : Url} {a : Answer}
    (reply : web (request settings u) = .answer a) (leads : next? u a = some next)
    (offWeb : ¬ OfWeb next) :
    Course settings web (left + 1) u
      ⟨[request settings u], .error (.fetch (buildFailure next))⟩
  /-- The answer leads to a URL of the web, and the fetch goes on from there. -/
  | follow {left : Nat} {u next : Url} {a : Answer} {t : Trip Body}
    (reply : web (request settings u) = .answer a) (leads : next? u a = some next)
    (ofWeb : OfWeb next) (rest : Course settings web left next t) :
    Course settings web (left + 1) u ⟨request settings u :: t.requests, t.result⟩

/-! ## What follows from an answer -/

section

variable {left : Nat} {u next : Url} {a : Answer}

/-- An answer leads to the URL that it names, if that one can be asked for. -/
theorem next?_eq_some_iff :
    next? u a = some next ↔ named? u a = some next ∧ canRequest next = true :=
  Option.filter_eq_some_iff

/-- An answer that names a URL which cannot be asked for leads nowhere. -/
theorem next?_of_not_canRequest (names : named? u a = some next) (h : canRequest next = false) :
    next? u a = none := by
  rw [next?, names, Option.filter_some, if_neg (Bool.eq_false_iff.1 h)]

/-- An answer that leads nowhere is the last one. -/
theorem turn_of_stays (stays : next? u a = none) : turn left u a = .stop := by
  rw [turn, stays]

/-- No answer is followed when no redirect may be followed any more. -/
theorem turn_zero (leads : next? u a = some next) :
    turn 0 u a = .fail (.fetch (redirectFailure u)) := by
  rw [turn, leads]
  exact if_pos rfl

/-- An answer is followed to the web. -/
theorem turn_of_ofWeb (leads : next? u a = some next) (ofWeb : OfWeb next) :
    turn (left + 1) u a = .go next := by
  rw [turn, leads]
  exact (if_neg (Nat.succ_ne_zero left)).trans (if_pos ofWeb)

/-- An answer is not followed out of the web. -/
theorem turn_of_not_ofWeb (leads : next? u a = some next) (offWeb : ¬ OfWeb next) :
    turn (left + 1) u a = .fail (.fetch (buildFailure next)) := by
  rw [turn, leads]
  exact (if_neg (Nat.succ_ne_zero left)).trans (if_neg offWeb)

end

/-! ## Fetches and their courses -/

variable {settings : Fetch} {web : Web}

/-- A fetch does what its course says. -/
theorem Course.fetchFrom_eq {left : Nat} {u : Url} {t : Trip Body}
    (h : Course settings web left u t) : fetchFrom settings web left u = t := by
  -- Only a redirect that is followed leaves a fetch to do, and the hypothesis is about that one.
  induction h with
  | unreachable reply => rw [fetchFrom, reply]
  | dropped reply => rw [fetchFrom, reply]
  | silent reply => rw [fetchFrom, reply]
  | last reply stays =>
    rw [fetchFrom]
    simp only [reply, turn_of_stays stays]
  | exhausted reply leads =>
    rw [fetchFrom]
    simp only [reply, turn_zero leads]
  | elsewhere reply leads offWeb =>
    rw [fetchFrom]
    simp only [reply, turn_of_not_ofWeb leads offWeb]
  | follow reply leads ofWeb _ ih =>
    rw [fetchFrom]
    simp only [reply, turn_of_ofWeb leads ofWeb, ih]

/-- A fetch of a URL that can be asked for does what its course says. -/
theorem Course.fetch_eq {u : Url} {t : Trip Body} (h : Course settings web settings.maxRedirects u t)
    (hu : canRequest u = true) : fetch settings web u = t := by
  rw [fetch, if_pos hu]
  exact h.fetchFrom_eq

/-- There is one course from each URL. -/
theorem Course.unique {left : Nat} {u : Url} {t t' : Trip Body} (h : Course settings web left u t)
    (h' : Course settings web left u t') : t = t' :=
  h.fetchFrom_eq.symm.trans h'.fetchFrom_eq

variable (settings web)

/-- There is a course from each URL. -/
theorem exists_course (left : Nat) (u : Url) : ∃ t, Course settings web left u t := by
  -- Only a redirect that is followed leaves a course to find, with one redirect fewer.
  induction left using Nat.strongRecOn generalizing u with
  | ind left ih =>
    cases reply : web (request settings u) with
    | unreachable => exact ⟨_, .unreachable reply⟩
    | dropped => exact ⟨_, .dropped reply⟩
    | silent => exact ⟨_, .silent reply⟩
    | answer a =>
      cases leads : next? u a with
      | none => exact ⟨_, .last reply leads⟩
      | some next =>
        cases left with
        | zero => exact ⟨_, .exhausted reply leads⟩
        | succ left =>
          by_cases ofWeb : OfWeb next
          · obtain ⟨t, rest⟩ := ih left (Nat.lt_succ_self left) next
            exact ⟨_, .follow reply leads ofWeb rest⟩
          · exact ⟨_, .elsewhere reply leads ofWeb⟩

/-- A fetch takes one of the courses. -/
theorem course_fetchFrom (left : Nat) (u : Url) :
    Course settings web left u (fetchFrom settings web left u) := by
  obtain ⟨t, h⟩ := exists_course settings web left u
  rw [h.fetchFrom_eq]
  exact h

/-- A fetch of a URL that can be asked for takes one of the courses. -/
theorem course_fetch {u : Url} (hu : canRequest u = true) :
    Course settings web settings.maxRedirects u (fetch settings web u) := by
  rw [fetch, if_pos hu]
  exact course_fetchFrom settings web settings.maxRedirects u

/-- A fetch of any other URL makes no request, and fails. -/
theorem fetch_of_not_canRequest {u : Url} (hu : canRequest u = false) :
    fetch settings web u = ⟨[], .error (.fetch (buildFailure u.withoutCredentials))⟩ := by
  rw [fetch, hu]
  rfl

end MainContent.Fetch
