import MainContent.Url.Ipv6

/-!
# URLs

A URL as its parts, and its text. The parts are kept in the form in which they are written:
percent-encoded, with the scheme and the host in small letters.
-/

namespace MainContent

/-- Where a URL leads. -/
inductive Url.Host where
  /-- A domain name, or a name that only its scheme understands. -/
  | name (text : String)
  /-- An IPv4 address. -/
  | ipv4 (address : Nat)
  /-- An IPv6 address, as its eight pieces. -/
  | ipv6 (pieces : List Nat)
  deriving DecidableEq, Repr

/-- What a URL names at its host. -/
inductive Url.Path where
  /-- Names that lead from the root downwards. -/
  | segments (names : List String)
  /-- One text that cannot be extended, such as the address in `mailto:`. -/
  | fixed (text : String)
  deriving DecidableEq, Repr

/-- A URL. -/
structure Url where
  /-- The scheme, in small letters. -/
  scheme : String
  /-- The user's name; empty for none. -/
  username : String
  /-- The user's password; empty for none. -/
  password : String
  /-- The host, if there is one. -/
  host : Option Url.Host
  /-- The port, unless it is the scheme's usual one. -/
  port : Option Nat
  /-- The path. -/
  path : Url.Path
  /-- What follows `?`. -/
  query : Option String
  /-- What follows `#`. -/
  fragment : Option String
  deriving DecidableEq, Repr

namespace Url

/-- The text of a host. -/
def Host.shown : Host → String
  | .name text => text
  | .ipv4 address => Ipv4.shown address
  | .ipv6 pieces => "[" ++ Ipv6.shown pieces ++ "]"

/-- The text of a path. -/
def Path.shown : Path → String
  | .segments names => String.join (names.map ("/" ++ ·))
  | .fixed text => text

/-- The text of the user's name and password before a host. -/
def credentials (u : Url) : String :=
  if u.username.isEmpty && u.password.isEmpty then ""
  else if u.password.isEmpty then u.username ++ "@"
  else u.username ++ ":" ++ u.password ++ "@"

/-- The text between the scheme and the path. -/
def authority (u : Url) : String :=
  match u.host with
  | none => ""
  | some h =>
    "//" ++ u.credentials ++ h.shown ++
      match u.port with
      | some p => ":" ++ Nat.repr p
      | none => ""

/-- What stands before a path that would otherwise read as a host. -/
def pathGuard (u : Url) : String :=
  match u.host, u.path with
  | none, .segments ("" :: _ :: _) => "/."
  | _, _ => ""

/-- The text of a URL. -/
def shown (u : Url) : String :=
  u.scheme ++ ":" ++ u.authority ++ u.pathGuard ++ u.path.shown ++
    (match u.query with
      | some q => "?" ++ q
      | none => "") ++
    (match u.fragment with
      | some f => "#" ++ f
      | none => "")

/-- The text of a URL's host, empty when it has none. -/
def hostText (u : Url) : String :=
  match u.host with
  | some h => h.shown
  | none => ""

/-- A URL without its user's name and password. -/
def withoutCredentials (u : Url) : Url :=
  { u with username := "", password := "" }

end Url

end MainContent
