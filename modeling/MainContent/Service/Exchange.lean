import MainContent.Fetch.Extractor
import MainContent.Service.ApiDocument
import MainContent.Service.AuthKey
import MainContent.Service.Origin
import MainContent.Service.Redaction
import MainContent.Service.RequestTarget
import MainContent.Service.Target

/-!
# Serving requests

The service answers a caller's request by its route. An extraction request is answered with status
200 whatever comes of it: a failure is one line of text, and nothing is visited unless the caller's
key is the right one and the caller's URL is one of the web. Every request is logged when it begins
and when it is done.
-/

namespace MainContent.Service

/-- A caller's request. -/
structure Request where
  /-- What is asked of the target. -/
  method : String
  /-- The path and query. -/
  target : RequestTarget
  /-- The headers in order. -/
  headers : Headers
  /-- The far end of the connection, if it is known. -/
  peer : Option String

/-- What a caller receives. -/
structure Response where
  /-- The status. -/
  status : Nat
  /-- The type of the body, if it has one. -/
  contentType : Option String
  /-- The body. -/
  body : String
  deriving DecidableEq, Repr

/-- The service: the secret that callers must present and the way in which pages are visited. Either
can be absent, in which case no extraction request is served. -/
structure Server where
  /-- The secret that callers must present. -/
  authKey : Option AuthKey
  /-- The way in which pages are visited. -/
  extractor : Option (Url → Fetch.Visit)

/-- What an answer consists of, with all that has been done for it. -/
structure Exchange where
  /-- What the caller receives. -/
  response : Response
  /-- The pages that were visited. -/
  visited : List Url := []
  /-- The requests that sites have seen, in order. -/
  requests : List Fetch.Request := []
  /-- The events that were reported, in order. -/
  events : List Log.Event := []

/-- The part of the service that logs each request, in the log. -/
def requestLog : String := "api"

/-- The part of the service that serves extraction requests, in the log. -/
def extractLog : String := "article_extractor_lib::api::extract"

/-- The type of every answer to an extraction request. -/
def htmlType : String := "text/html; charset=utf-8"

/-- The answer to an extraction request that ends with this result. -/
def extractResponse (result : Except Failure String) : Response :=
  { status := 200, contentType := some htmlType,
    body := (match result with
      | .ok html => html
      | .error f => f.line) ++ "\n" }

/-- What is reported of an extraction request that ends with this result. A wrong key is not
reported with the page that was asked for. -/
def outcomeEvent (q : Query) : Except Failure String → Log.Event
  | .ok html =>
    { level := .info, target := extractLog, message := "Extracted main content",
      fields := [("host", ((readTarget q.url).toOption.map Url.hostText).getD ""),
        ("bytes", Nat.repr html.utf8ByteSize)] }
  | .error .invalidAuthKey =>
    { level := .warn, target := extractLog,
      message := "Rejected extraction request with invalid auth key",
      fields := [("key_present", if q.key.isSome then "true" else "false")] }
  | .error f =>
    { level := .warn, target := extractLog, message := "Extraction failed: " ++ f.message,
      fields := [("kind", f.kind.name), ("url", q.url.getD "")] }

/-- The page that an extraction request is allowed to visit: the key is checked before the URL is
looked at. -/
def admittedTarget (key : AuthKey) (q : Query) : Except Failure Url :=
  if key.admits (q.key.map fun k => Text.Utf8.encode k.toList) then readTarget q.url
  else .error .invalidAuthKey

/-- Serves an extraction request. -/
def extract (key : AuthKey) (extractor : Url → Fetch.Visit) (q : Query) : Exchange :=
  match admittedTarget key q with
  | .error f => { response := extractResponse (.error f), events := [outcomeEvent q (.error f)] }
  | .ok u =>
    let v := extractor u
    { response := extractResponse v.result, visited := [u], requests := v.requests,
      events := v.events ++ [outcomeEvent q v.result] }

/-- What can be asked for. -/
inductive Route where
  /-- Whether the service is alive. -/
  | health
  /-- The main content of a page. -/
  | extract
  /-- The description of the interface. -/
  | document
  deriving DecidableEq, Repr

/-- The route of a request. Every route is for `GET` only. -/
def Route.of? (method : String) (t : RequestTarget) : Option Route :=
  if method ≠ "GET" then none
  else if t.route = "/health" then some .health
  else if t.route = "/extract" then some .extract
  else if t.route = "/api-docs/openapi.json" then some .document
  else none

/-- An answer in JSON. -/
def jsonResponse (j : Text.Json) : Response :=
  { status := 200, contentType := some "application/json", body := j.shown }

/-- The answer where there is nothing. -/
def notFound : Response :=
  { status := 404, contentType := none, body := "" }

/-- The answer of a service that is not set up for extraction. -/
def notConfigured : Response :=
  { status := 500, contentType := some "text/plain; charset=utf-8",
    body := "Requested application data is not configured correctly. " ++
      "View/enable debug logs for more details." }

/-- What is reported when a request begins. The query is shown without its keys. -/
def startEvent (q : Request) : Log.Event :=
  { level := .info, target := requestLog, message := "→ Request started",
    fields := [("method", q.method), ("path", q.target.path),
      ("query", Redaction.redact q.target.query),
      ("remote_addr", remoteAddress q.headers q.peer), ("user_agent", userAgent q.headers)] }

/-- What is reported when a request is done. -/
def endEvent (q : Request) (status : Nat) : Log.Event :=
  let (level, message) : Log.Level × String :=
    if 200 ≤ status ∧ status < 300 then (.info, "← Request completed")
    else if 400 ≤ status ∧ status < 500 then (.warn, "← Client error")
    else (.warn, "← Server error")
  { level, target := requestLog, message,
    fields := [("method", q.method), ("path", q.target.path), ("status", Nat.repr status)] }

namespace Server

/-- Serves a request at a time, without the events that frame it. -/
def answer (s : Server) (now : String) (q : Request) : Exchange :=
  match Route.of? q.method q.target with
  | none => { response := notFound }
  | some .health => { response := jsonResponse (healthAnswer now) }
  | some .document => { response := jsonResponse apiDocument }
  | some .extract =>
    match s.authKey, s.extractor with
    | some key, some extractor => extract key extractor (Query.ofText q.target.query)
    | _, _ => { response := notConfigured }

/-- Serves a request at a time. -/
def serve (s : Server) (now : String) (q : Request) : Exchange :=
  let e := s.answer now q
  { e with events := startEvent q :: e.events ++ [endEvent q e.response.status] }

/-- Serves requests one after the other; each comes with its time. -/
def run (s : Server) (qs : List (String × Request)) : List Exchange :=
  qs.map fun q => s.serve q.1 q.2

end Server

end MainContent.Service
