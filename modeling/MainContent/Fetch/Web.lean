import MainContent.Url.Basic

/-!
# The web as it answers

What a fetch meets: to each request the web gives a reply, which is an answer with a body that
arrives in chunks, or none at all. Nothing else of the web is kept.
-/

namespace MainContent.Fetch

/-- A request for a page. -/
structure Request where
  /-- What is asked of the page. -/
  method : String
  /-- The page's URL, without credentials and fragment. -/
  url : Url
  /-- The name that the service gives itself. -/
  userAgent : String
  deriving DecidableEq, Repr

/-- How a body ends. -/
inductive Ending where
  /-- It has arrived as a whole. -/
  | complete
  /-- The connection breaks off before its end. -/
  | broken
  /-- Nothing more of it arrives in time. -/
  | stalled
  deriving DecidableEq, Repr

/-- An answer to a request. -/
structure Answer where
  /-- The status. -/
  status : Nat
  /-- The headers in order; names are in small letters. -/
  headers : List (String × List UInt8)
  /-- The number of bytes that the answer announces. -/
  declaredLength : Option Nat
  /-- The body, in the chunks in which it arrives. -/
  chunks : List (List UInt8)
  /-- How the body ends. -/
  ending : Ending
  deriving DecidableEq, Repr

/-- What the web gives to a request. -/
inductive Reply where
  /-- An answer. -/
  | answer (a : Answer)
  /-- The connection is closed without an answer. -/
  | dropped
  /-- No answer arrives in time. -/
  | silent
  /-- No connection is made, so that no site sees the request. -/
  | unreachable
  deriving DecidableEq, Repr

/-- A web: what it gives to each request. -/
abbrev Web := Request → Reply

/-- The web in which no site can be reached. -/
def noWeb : Web := fun _ => .unreachable

/-- The value of the first header of a name. -/
def Answer.header? (a : Answer) (name : String) : Option (List UInt8) :=
  (a.headers.find? (·.1 == name)).map (·.2)

end MainContent.Fetch
