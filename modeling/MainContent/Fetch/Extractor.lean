import MainContent.Fetch.Client
import MainContent.Page.Charset
import MainContent.Page.Render

/-!
# Visits to pages

A visit fetches a page, reads its text, and renders the article in it. It yields the markup or a
failure, together with the requests that sites have seen and the events that were reported on the
way.
-/

namespace MainContent.Fetch

open MainContent.Settings (Fetch)

/-- What a visit to a page has come to. -/
structure Visit where
  /-- The article's markup, or why there is none. -/
  result : Except Failure String
  /-- The requests that sites have seen, in order. -/
  requests : List Request := []
  /-- The events that were reported, in order. -/
  events : List Log.Event := []

/-- Whether a byte may stand in the value of a header that is sent. -/
def isHeaderByte (b : UInt8) : Bool :=
  b == 0x09 || (0x20 ≤ b && b != 0x7F)

/-- Whether the service can send the name that it is to give itself. -/
def canIntroduce (settings : Fetch) : Bool :=
  (Text.Utf8.encode settings.userAgent.toList).all isHeaderByte

/-- The event which reports that pages can be visited. -/
def readyEvent (settings : Fetch) : Log.Event :=
  { level := .info, target := Page.logTarget,
    message := "Readability extractor initialized (timeout=" ++ settings.timeout.shown ++
      ", connect_timeout=" ++ settings.connectTimeout.shown ++
      ", max_page_size=" ++ Nat.repr settings.maxPageSize ++
      ", max_redirects=" ++ Nat.repr settings.maxRedirects ++ ")" }

/-- What is reported when pages can be visited with these settings; a name that no header can carry
is the only obstacle. -/
def prepare (settings : Fetch) : Except Failure Log.Event :=
  if canIntroduce settings then .ok (readyEvent settings)
  else .error (.fetch "failed to build HTTP client: builder error")

/-- What is reported when a page has arrived. -/
def arrivalEvent (u : Url) (bytes : List UInt8) : Log.Event :=
  { level := .debug, target := Page.logTarget, message := "Fetched page",
    fields := [("url", u.shown), ("bytes", Nat.repr bytes.length)] }

/-- Visits the page at a URL. Links in the article are resolved against that URL, wherever the
redirects have led. -/
def visit (settings : Fetch) (web : Web) (u : Url) : Visit :=
  let trip := fetch settings web u
  match trip.result with
  | .error f => { result := .error f, requests := trip.requests }
  | .ok body =>
    let (text, damage) := Page.decode body.contentType body.bytes
    { result := Page.render text u settings.maxElements, requests := trip.requests,
      events := arrivalEvent u body.bytes :: damage }

end MainContent.Fetch
