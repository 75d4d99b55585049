import MainContent.Failure
import MainContent.Text.Blank
import MainContent.Url.Reader

/-!
# The page that a caller asks for

A caller names a page by an absolute URL with the scheme `http` or `https`.
-/

namespace MainContent.Service

/-- The URL of the page that a caller asks for, without the blanks around it. -/
def readTarget : Option String → Except Failure Url
  | none => .error .missingUrl
  | some raw =>
    match Url.ofText (String.ofList (Text.trim raw.toList)) with
    | .error cause => .error (.invalidUrl cause)
    | .ok u =>
      if u.scheme = "http" ∨ u.scheme = "https" then .ok u
      else .error (.unsupportedScheme u.scheme)

end MainContent.Service
