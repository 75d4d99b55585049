import MainContent.Url.Error

/-!
# Failures of an extraction request

Each way in which a request for a page's main content can fail, its coarse kind, its wording, and
the one line of text that a caller receives for it.
-/

namespace MainContent

/-- The ways in which a request for a page's main content can fail. -/
inductive Failure where
  /-- The caller's key is absent or not the configured one. -/
  | invalidAuthKey
  /-- The request names no page. -/
  | missingUrl
  /-- The request names a page by something that is no URL. -/
  | invalidUrl (cause : Url.Error)
  /-- The URL has a scheme other than `http` and `https`. -/
  | unsupportedScheme (scheme : String)
  /-- The page did not arrive in time. -/
  | timeout (detail : String)
  /-- The page could not be fetched. -/
  | fetch (detail : String)
  /-- The site answered with a status that is no success. -/
  | siteStatus (status : Nat)
  /-- The page has more bytes than the limit. -/
  | pageTooLarge (limit : Nat)
  /-- The page arrived but holds no article that can be extracted. -/
  | extraction (detail : String)
  deriving DecidableEq, Repr

namespace Failure

/-- The part of a request that a failure belongs to. -/
inductive Kind where
  /-- The caller's right to ask. -/
  | auth
  /-- What the caller asked for. -/
  | input
  /-- Getting the page. -/
  | fetch
  /-- Finding the article in it. -/
  | extraction
  deriving DecidableEq, Repr

/-- The name of a kind. -/
def Kind.name : Kind → String
  | .auth => "auth"
  | .input => "input"
  | .fetch => "fetch"
  | .extraction => "extraction"

/-- The kind of a failure. -/
def kind : Failure → Kind
  | .invalidAuthKey => .auth
  | .missingUrl | .invalidUrl _ | .unsupportedScheme _ => .input
  | .timeout _ | .fetch _ | .siteStatus _ | .pageTooLarge _ => .fetch
  | .extraction _ => .extraction

/-- The wording of a failure. -/
def message : Failure → String
  | .invalidAuthKey => "Invalid auth key."
  | .missingUrl => "Missing url parameter"
  | .invalidUrl cause => "Invalid URL: " ++ cause.message
  | .unsupportedScheme scheme => "Unsupported URL scheme: " ++ scheme
  | .timeout detail => "Fetch timed out: " ++ detail
  | .fetch detail => "Fetch failed: " ++ detail
  | .siteStatus status => "Upstream returned " ++ Nat.repr status
  | .pageTooLarge limit => "Page exceeds " ++ Nat.repr limit ++ " bytes"
  | .extraction detail => "Extraction failed: " ++ detail

/-- What the line that a caller receives for a failure begins with. -/
def marker : String := "ERROR: "

/-- The line that a caller receives for a failure, without its end. -/
def line (f : Failure) : String :=
  marker ++ f.message

end Failure

end MainContent
