import MainContent.Text.Form

/-!
# The parameters of a request

The two parameters of an extraction request, read from its raw query. A parameter that is
repeated has the value of its first occurrence.
-/

namespace MainContent.Service

/-- The parameters of an extraction request. -/
structure Query where
  /-- The key that the caller presents. -/
  key : Option String
  /-- The page that the caller asks for. -/
  url : Option String
  deriving DecidableEq, Repr

namespace Query

/-- The name of the parameter that carries the key. -/
def keyName : String := "key"

/-- The name of the parameter that carries the page's URL. -/
def urlName : String := "url"

/-- The value of the first pair that has the name. -/
def first? (name : String) (pairs : List (List Char × List Char)) : Option String :=
  (pairs.find? fun p => p.1 == name.toList).map fun p => String.ofList p.2

/-- The parameters in a raw query. -/
def ofText (query : String) : Query :=
  let pairs := Text.Form.pairs query.toList
  { key := first? keyName pairs, url := first? urlName pairs }

end Query

end MainContent.Service
