import MainContent.Service.Exchange

/-!
# Sessions

A session serves requests one after the other, as `Server.run` does, over an extractor that may
remember: what it makes of a page can depend on the pages that it was asked for before, and so can
the web behind it. The theorems about runs are stated for sessions. A server is the session of an
extractor that remembers nothing (`run_ofServer`).
-/

namespace MainContent.Service

/-- A service whose extractor may remember. Either part can be absent, in which case no extraction
request is served. -/
structure Session where
  /-- The secret that callers must present. -/
  authKey : Option AuthKey
  /-- The way in which pages are visited, from the pages that were visited before, the earliest
  first. -/
  extractor : Option (List Url → Url → Fetch.Visit)

namespace Session

/-- The service as it stands when these pages have been visited. -/
def after (s : Session) (past : List Url) : Server :=
  { authKey := s.authKey, extractor := s.extractor.map fun x => x past }

/-- Serves requests one after the other, when these pages have been visited before; each request
comes with its time. -/
def runAfter (s : Session) (past : List Url) : List (String × Request) → List Exchange
  | [] => []
  | q :: qs =>
    let e := (s.after past).serve q.1 q.2
    e :: s.runAfter (past ++ e.visited) qs

/-- Serves requests one after the other from the start. -/
def run (s : Session) (qs : List (String × Request)) : List Exchange :=
  s.runAfter [] qs

/-- The session of a server: its extractor remembers nothing. -/
def ofServer (s : Server) : Session :=
  { authKey := s.authKey, extractor := s.extractor.map fun x _ => x }

/-- The server behind the session of a server is the same whatever has been visited. -/
theorem after_ofServer (s : Server) (past : List Url) : (ofServer s).after past = s := by
  obtain ⟨authKey, extractor⟩ := s
  cases extractor <;> rfl

/-- The session of a server runs as the server does. -/
theorem run_ofServer (s : Server) (qs : List (String × Request)) : (ofServer s).run qs = s.run qs := by
  have hrun : ∀ past, (ofServer s).runAfter past qs = s.run qs := by
    induction qs with
    | nil => intro past; rfl
    | cons q qs ih =>
      intro past
      rw [runAfter, ih, after_ofServer]
      rfl
  exact hrun []

end Session

end MainContent.Service
