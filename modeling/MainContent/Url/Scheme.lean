import MainContent.Text.Ascii

/-!
# Schemes

The schemes whose URLs are read by rules of their own: those of the web, which need a host, and
`file`, which may do without one.
-/

namespace MainContent.Url

/-- How the rest of a URL is read. -/
inductive SchemeKind where
  /-- A scheme of the web. -/
  | web
  /-- The scheme of files. -/
  | file
  /-- Any other scheme. -/
  | other
  deriving DecidableEq, Repr

/-- The kind of a scheme. -/
def schemeKind (scheme : String) : SchemeKind :=
  match scheme with
  | "http" | "https" | "ws" | "wss" | "ftp" => .web
  | "file" => .file
  | _ => .other

/-- Whether the kind reads `\` like `/`. -/
def SchemeKind.isSpecial : SchemeKind → Bool
  | .other => false
  | _ => true

/-- The port that a scheme uses when none is given. -/
def defaultPort? (scheme : String) : Option Nat :=
  match scheme with
  | "http" | "ws" => some 80
  | "https" | "wss" => some 443
  | "ftp" => some 21
  | _ => none

/-- A character within a scheme. -/
def inScheme (c : Char) : Bool :=
  Text.isAlphanumeric c || c == '+' || c == '-' || c == '.'

/-- The scheme that a text begins with, in small letters, and what follows its colon. -/
def splitScheme? (cs : List Char) : Option (String × List Char) :=
  match cs with
  | [] => none
  | c :: _ =>
    if Text.isLetter c then
      match cs.dropWhile inScheme with
      | ':' :: rest => some (String.ofList (Text.toLowerAscii (cs.takeWhile inScheme)), rest)
      | _ => none
    else none

end MainContent.Url
