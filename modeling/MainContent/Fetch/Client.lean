import MainContent.Failure
import MainContent.Fetch.Web
import MainContent.Service.RequestTarget
import MainContent.Settings.Fetch
import MainContent.Text.Utf8
import MainContent.Url.Reader

/-!
# Fetching a page

One fetch asks for a page, follows redirects up to a limit, and collects the body up to a limit. The
number of requests is at most one more than the number of redirects that may be followed.

Only a URL whose text may stand in a request can be asked for. A fetch of any other URL fails before a
request is made, and a redirect to one is not followed: the answer that names it is the last one.
-/

namespace MainContent.Fetch

open MainContent.Settings (Fetch)

/-- A page as it has arrived. -/
structure Body where
  /-- The content type, if it can be read as text. -/
  contentType : Option String
  /-- The bytes of the page. -/
  bytes : List UInt8
  deriving DecidableEq, Repr

/-- What a fetch has done, and what came of it. -/
structure Trip (α : Type) where
  /-- The requests that sites have seen, in order. -/
  requests : List Request
  /-- What came of it. -/
  result : Except Failure α

/-- The failure of a request for a URL. -/
def sendFailure (u : Url) : String :=
  "error sending request for url (" ++ u.withoutCredentials.shown ++ ")"

/-- The failure of a redirect beyond the limit, from a URL. -/
def redirectFailure (u : Url) : String :=
  "error following redirect for url (" ++ u.withoutCredentials.shown ++ ")"

/-- The failure of a URL for which no request can be made, or which is not of the web. -/
def buildFailure (u : Url) : String :=
  "builder error for url (" ++ u.shown ++ ")"

/-- The failure of a body that breaks off. -/
def bodyFailure : String := "error decoding response body"

/-- The request for a URL. -/
def request (settings : Fetch) (u : Url) : Request :=
  { method := "GET", url := { u.withoutCredentials with fragment := none },
    userAgent := settings.userAgent }

/-- Whether a URL can be asked for: its text, without credentials, may stand in a request. -/
def canRequest (u : Url) : Bool :=
  (Service.RequestTarget.ofText? u.withoutCredentials.shown).isSome

/-- The statuses that can lead to another URL. -/
def isRedirect (status : Nat) : Bool :=
  status == 301 || status == 302 || status == 303 || status == 307 || status == 308

/-- Whether bytes are a value that is read as text. -/
def asText? (bs : List UInt8) : Option String :=
  if bs.all fun b => (0x20 ≤ b && b < 0x7F) || b == 0x09 then
    some (String.ofList (bs.map fun b => .ofNat b.toNat))
  else none

/-- The URL that an answer names as the next one, seen from the URL that was asked for. -/
def named? (u : Url) (a : Answer) : Option Url :=
  if isRedirect a.status then
    match (a.header? "location").bind Text.Utf8.decode? with
    | some place => (u.join (String.ofList place)).toOption
    | none => none
  else none

/-- Where an answer leads: to the URL that it names, if that one can be asked for. -/
def next? (u : Url) (a : Answer) : Option Url :=
  (named? u a).filter canRequest

/-- What follows from the answer at a URL: a page to read, or another URL to ask for. -/
inductive Turn where
  /-- The answer is the last one. -/
  | stop
  /-- Another URL is asked for. -/
  | go (next : Url)
  /-- The fetch fails. -/
  | fail (f : Failure)

/-- What follows from an answer when so many more redirects may be followed. -/
def turn (left : Nat) (u : Url) (a : Answer) : Turn :=
  match next? u a with
  | none => .stop
  | some next =>
    if left = 0 then .fail (.fetch (redirectFailure u))
    else if next.scheme = "http" ∨ next.scheme = "https" then .go next
    else .fail (.fetch (buildFailure next))

/-- The bytes of chunks that arrive one after the other, after those already collected, unless they
exceed the limit. -/
def collect (limit : Nat) (got : List UInt8) : List (List UInt8) → Option (List UInt8)
  | [] => some got
  | c :: cs => if limit < got.length + c.length then none else collect limit (got ++ c) cs

/-- The page in a final answer. A status of failure is reported before anything of the body is
read, and a length that is announced before anything of it is collected. -/
def readAnswer (limit : Nat) (a : Answer) : Except Failure Body :=
  if 400 ≤ a.status ∧ a.status ≤ 599 then .error (.siteStatus a.status)
  else if a.declaredLength.any (limit < ·) then .error (.pageTooLarge limit)
  else
    match collect limit [] a.chunks, a.ending with
    | none, _ => .error (.pageTooLarge limit)
    | some _, .broken => .error (.fetch bodyFailure)
    | some _, .stalled => .error (.timeout bodyFailure)
    | some bytes, .complete => .ok ⟨(a.header? "content-type").bind asText?, bytes⟩

/-- Fetches the page at a URL that can be asked for, following at most `left` redirects. -/
def fetchFrom (settings : Fetch) (web : Web) : Nat → Url → Trip Body
  | left, u =>
    let q := request settings u
    match web q with
    | .unreachable => ⟨[], .error (.fetch (sendFailure u))⟩
    | .dropped => ⟨[q], .error (.fetch (sendFailure u))⟩
    | .silent => ⟨[q], .error (.timeout (sendFailure u))⟩
    | .answer a =>
      match turn left u a, left with
      | .go next, left + 1 =>
        let t := fetchFrom settings web left next
        ⟨q :: t.requests, t.result⟩
      | .fail f, _ => ⟨[q], .error f⟩
      | _, _ => ⟨[q], readAnswer settings.maxPageSize a⟩
termination_by left => left

/-- Fetches the page at a URL. -/
def fetch (settings : Fetch) (web : Web) (u : Url) : Trip Body :=
  if canRequest u then fetchFrom settings web settings.maxRedirects u
  else ⟨[], .error (.fetch (buildFailure u.withoutCredentials))⟩

end MainContent.Fetch
