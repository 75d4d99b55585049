import MainContent.Proofs.Fetch.Visit

/-!
# Pages that are obtained

A page is obtained when the redirects end at an answer that brings it: the answer has a status of
success, and carries the page to its end and within the limit. A fetch comes to every page that is
obtained, but it also lets pages through whose answer has a status of neither success nor failure
(`fetch_eq_ok_iff`), such as the page of a redirect that is not followed. Whatever else happens to it
is a failure of getting the page, wherever the redirects have led (`Course.kind_of_error`).

So a visit fails as one that could not get its page, and none is obtained or let through, or it renders
the page that is (`visit_cases`). A page that is let through is not obtained, and no other one is
(`LetsThrough.not_obtains`).
-/

namespace MainContent.Fetch

open MainContent.Settings (Fetch)

variable {settings : Fetch} {web : Web}

/-- An answer brings a page within a limit: its status is one of success, and it carries the page. -/
structure Answer.Brings (limit : Nat) (a : Answer) (page : Body) : Prop where
  /-- The status is one of success. -/
  status : 200 ≤ a.status ∧ a.status ≤ 299
  /-- The page arrives to its end, and is within the limit. -/
  carries : a.Carries limit page

/-- A page is obtained from a URL: the redirects end at an answer that brings it. -/
def Obtains (settings : Fetch) (web : Web) (u : Url) (page : Body) : Prop :=
  ∃ v a, EndsAt settings web u v a ∧ a.Brings settings.maxPageSize page

/-- A page is let through: the redirects end at an answer that carries it under a status of neither
success nor failure. -/
def LetsThrough (settings : Fetch) (web : Web) (u : Url) (page : Body) : Prop :=
  ∃ v a, EndsAt settings web u v a ∧ a.Carries settings.maxPageSize page ∧
    ¬ (200 ≤ a.status ∧ a.status ≤ 299) ∧ ¬ (400 ≤ a.status ∧ a.status ≤ 599)

/-- A fetch that comes to a page has been led to an answer from which it is read. -/
theorem Course.leads_of_ok {left : Nat} {u : Url} {t : Trip Body}
    (h : Course settings web left u t) (page : Body) (hpage : t.result = .ok page) :
    ∃ n ≤ left, ∃ v a, Leads settings web n u v ∧ web (request settings v) = .answer a ∧
      next? v a = none ∧ readAnswer settings.maxPageSize a = .ok page := by
  induction h with
  | unreachable => cases hpage
  | dropped => cases hpage
  | silent => cases hpage
  | @last left u a reply stays => exact ⟨0, Nat.zero_le left, u, a, .here u, reply, stays, hpage⟩
  | exhausted => cases hpage
  | elsewhere => cases hpage
  | follow reply leads ofWeb _ ih =>
    obtain ⟨n, hn, v, a, hleads, hlast⟩ := ih hpage
    exact ⟨n + 1, Nat.succ_le_succ hn, v, a, .step reply leads ofWeb hleads, hlast⟩

/-- A fetch that comes to a page ends at an answer from which it is read. -/
theorem endsAt_of_fetch {u : Url} {page : Body} (h : (fetch settings web u).result = .ok page) :
    ∃ v a, EndsAt settings web u v a ∧ readAnswer settings.maxPageSize a = .ok page := by
  cases hu : canRequest u with
  | false =>
    rw [fetch_of_not_canRequest _ _ hu] at h
    cases h
  | true =>
    obtain ⟨n, hn, v, a, hleads, hreply, hstays, hread⟩ :=
      (course_fetch settings web hu).leads_of_ok page h
    exact ⟨v, a, ⟨hu, ⟨n, hn, hleads⟩, hreply, hstays⟩, hread⟩

/-- A fetch comes to a page exactly when the page is obtained or let through. -/
theorem fetch_eq_ok_iff (settings : Fetch) (web : Web) (u : Url) (page : Body) :
    (fetch settings web u).result = .ok page ↔
      Obtains settings web u page ∨ LetsThrough settings web u page := by
  constructor
  · intro h
    obtain ⟨v, a, hends, hread⟩ := endsAt_of_fetch h
    obtain ⟨hstatus, hcarries⟩ := (readAnswer_eq_ok_iff _ a page).1 hread
    by_cases hsuccess : 200 ≤ a.status ∧ a.status ≤ 299
    · exact .inl ⟨v, a, hends, hsuccess, hcarries⟩
    · exact .inr ⟨v, a, hends, hcarries, hsuccess, hstatus⟩
  · rintro (⟨v, a, hends, hbrings⟩ | ⟨v, a, hends, hcarries, -, hstatus⟩)
    · have hstatus : ¬ (400 ≤ a.status ∧ a.status ≤ 599) := by
        have := hbrings.status
        omega
      rw [fetch_of_endsAt hends]
      exact (readAnswer_eq_ok_iff _ a page).2 ⟨hstatus, hbrings.carries⟩
    · rw [fetch_of_endsAt hends]
      exact (readAnswer_eq_ok_iff _ a page).2 ⟨hstatus, hcarries⟩

/-- Where a page is let through, none is obtained. -/
theorem LetsThrough.not_obtains {u : Url} {page : Body} (h : LetsThrough settings web u page)
    (page' : Body) : ¬ Obtains settings web u page' := by
  obtain ⟨v, a, hends, -, hother, -⟩ := h
  rintro ⟨v', a', hends', hbrings⟩
  obtain rfl := hends.unique hends'
  exact hother hbrings.status

/-- A fetch that comes to no page is a failure of getting it. -/
theorem Course.kind_of_error {left : Nat} {u : Url} {t : Trip Body}
    (h : Course settings web left u t) (f : Failure) (hf : t.result = .error f) :
    f.kind = .fetch := by
  induction h with
  | unreachable => cases hf; rfl
  | dropped => cases hf; rfl
  | silent => cases hf; rfl
  | last => exact kind_of_readAnswer _ _ f hf
  | exhausted => cases hf; rfl
  | elsewhere => cases hf; rfl
  | follow _ _ _ _ ih => exact ih hf

/-- So is one that cannot begin. -/
theorem kind_of_fetch {u : Url} {f : Failure} (h : (fetch settings web u).result = .error f) :
    f.kind = .fetch := by
  cases hu : canRequest u with
  | false =>
    rw [fetch_of_not_canRequest _ _ hu] at h
    cases h
    rfl
  | true => exact (course_fetch settings web hu).kind_of_error f h

/-- There is at most one page to obtain. -/
theorem Obtains.unique {u : Url} {page page' : Body} (h : Obtains settings web u page)
    (h' : Obtains settings web u page') : page = page' := by
  have hpage := (fetch_eq_ok_iff settings web u page).2 (.inl h)
  have hpage' := (fetch_eq_ok_iff settings web u page').2 (.inl h')
  exact Except.ok.inj (hpage.symm.trans hpage')

/-- A visit fails as one that could not get its page exactly when no page is obtained or let through.
Else it renders the page. -/
theorem visit_cases (settings : Fetch) (web : Web) (u : Url) :
    (∃ f, (visit settings web u).result = .error f ∧ f.kind = .fetch ∧
      ∀ page, ¬ Obtains settings web u page ∧ ¬ LetsThrough settings web u page) ∨
    ∃ page, (Obtains settings web u page ∨ LetsThrough settings web u page) ∧
      (visit settings web u).result = Page.render page.text u settings.maxElements := by
  rw [visit_result]
  cases hfetch : (fetch settings web u).result with
  | error f =>
    refine .inl ⟨f, rfl, kind_of_fetch hfetch, fun page => ?_⟩
    rw [← not_or, ← fetch_eq_ok_iff, hfetch]
    exact nofun
  | ok page => exact .inr ⟨page, (fetch_eq_ok_iff settings web u page).1 hfetch, rfl⟩

/-- A visit fails in these two ways only, on any page and after any redirect. -/
theorem kind_of_visit (settings : Fetch) (web : Web) (u : Url) (f : Failure)
    (h : (visit settings web u).result = .error f) : f.kind = .fetch ∨ f.kind = .extraction := by
  rcases visit_cases settings web u with ⟨g, hg, hkind, -⟩ | ⟨page, -, hrender⟩
  · rw [hg] at h
    cases h
    exact .inl hkind
  · rw [hrender] at h
    obtain ⟨detail, rfl⟩ := Page.render_error _ _ _ f h
    exact .inr rfl

end MainContent.Fetch
