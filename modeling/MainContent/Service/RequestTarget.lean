import MainContent.Text.Percent
import MainContent.Text.Utf8

/-!
# Request targets

What a request line asks for: a path and a query, by themselves or after a scheme and an authority.
A target with a byte that belongs in none of its parts is refused.
-/

namespace MainContent.Service

/-- What a request line asks for. -/
structure RequestTarget where
  /-- The path, as it is written. -/
  path : String
  /-- What follows `?`, empty when there is none. -/
  query : String
  deriving DecidableEq, Repr

namespace RequestTarget

/-- The most bytes that a target may have. -/
def largest : Nat := 65534

/-- A byte of a path. -/
def inPath (b : UInt8) : Bool :=
  b == 0x21 || (0x24 ≤ b && b ≤ 0x3B) || b == 0x3D || (0x40 ≤ b && b ≤ 0x5F) ||
    (0x61 ≤ b && b ≤ 0x7E) || b == 0x22

/-- A byte of a query. -/
def inQuery (b : UInt8) : Bool :=
  b == 0x21 || (0x24 ≤ b && b ≤ 0x3B) || b == 0x3D || (0x3F ≤ b && b ≤ 0x7E)

/-- The text of bytes that are ASCII. -/
def asciiText (bs : List UInt8) : String :=
  String.ofList (bs.map fun b => .ofNat b.toNat)

/-- A path with its query; a fragment is left out. -/
def readPath? (bs : List UInt8) : Option (String × String) :=
  let body := bs.takeWhile (· != 0x23)
  let path := body.takeWhile (· != 0x3F)
  let query := (body.dropWhile (· != 0x3F)).drop 1
  if path.all inPath && query.all inQuery then some (asciiText path, asciiText query) else none

/-- A byte of a scheme. -/
def inScheme (b : UInt8) : Bool :=
  (0x61 ≤ b && b ≤ 0x7A) || (0x41 ≤ b && b ≤ 0x5A) || (0x30 ≤ b && b ≤ 0x39) || b == 0x2B ||
    b == 0x2D || b == 0x2E

/-- A byte of an authority. -/
def inAuthority (b : UInt8) : Bool :=
  inScheme b && b != 0x2B || "!$&'()*+,;=_~:@[]%".toUTF8.toList.contains b

/-- What has been seen of an authority. -/
structure AuthorityScan where
  /-- The colons that are not part of an address or of a user's name. -/
  colons : Nat := 0
  /-- Whether a bracket has been opened. -/
  opened : Bool := false
  /-- Whether the bracket has been closed. -/
  closed : Bool := false
  /-- Whether an escape stands in the host. -/
  escape : Bool := false
  /-- Whether the last byte was `@`. -/
  atEnd : Bool := false
  /-- Whether a byte was out of place. -/
  broken : Bool := false

/-- Passes over one byte of an authority. -/
def AuthorityScan.next (s : AuthorityScan) (b : UInt8) : AuthorityScan :=
  let s := { s with atEnd := b == 0x40 }
  if !inAuthority b then { s with broken := true }
  else if b == 0x3A then
    if 8 ≤ s.colons then { s with broken := true } else { s with colons := s.colons + 1 }
  else if b == 0x5B then
    if s.escape || s.opened then { s with broken := true } else { s with opened := true }
  else if b == 0x5D then
    if !s.opened || s.closed then { s with broken := true }
    else { s with closed := true, colons := 0, escape := false }
  else if b == 0x40 then { s with colons := 0, escape := false }
  else if b == 0x25 then { s with escape := true }
  else s

/-- Whether bytes are an authority. -/
def isAuthority (bs : List UInt8) : Bool :=
  let s := bs.foldl AuthorityScan.next {}
  !s.broken && s.opened == s.closed && s.colons ≤ 1 && !s.atEnd && !s.escape

/-- Whether a byte ends an authority. -/
def endsAuthority (b : UInt8) : Bool :=
  b == 0x2F || b == 0x3F || b == 0x23

/-- What follows a scheme and `://` at the beginning of a target, if it begins so. -/
def afterScheme (bs : List UInt8) : Option (List UInt8) :=
  match bs.dropWhile inScheme with
  | 0x3A :: 0x2F :: 0x2F :: rest => some rest
  | _ => none

/-- A target whose path follows a scheme and an authority. -/
def readFull? (bs : List UInt8) : Option RequestTarget :=
  match afterScheme bs with
  | none => if isAuthority bs then some ⟨"", ""⟩ else none
  | some rest =>
    let authority := rest.takeWhile (!endsAuthority ·)
    let scheme := bs.takeWhile inScheme
    if authority.isEmpty || !isAuthority authority || 64 < scheme.length then none
    else
      (readPath? (rest.dropWhile (!endsAuthority ·))).map fun (path, query) =>
        ⟨if path.isEmpty then "/" else path, query⟩

/-- The target that a text denotes. -/
def ofText? (text : String) : Option RequestTarget :=
  let bs := Text.Utf8.encode text.toList
  if largest < bs.length || bs.isEmpty then none
  else if bs = [0x2A] then some ⟨"*", ""⟩
  else if bs.head? == some 0x2F then (readPath? bs).map fun (path, query) => ⟨path, query⟩
  else readFull? bs

/-- A byte that stays escaped when a path is compared with a route. -/
def staysEscaped (b : UInt8) : Bool :=
  b == 0x25 || b == 0x2F || b == 0x2B

/-- The bytes of a path with its escapes read, but for those that stay. -/
def readEscapes : List UInt8 → List UInt8
  | 0x25 :: high :: low :: rest =>
    match Text.Percent.escaped? high low with
    | some b =>
      if staysEscaped b then 0x25 :: readEscapes (high :: low :: rest) else b :: readEscapes rest
    | none => 0x25 :: readEscapes (high :: low :: rest)
  | b :: rest => b :: readEscapes rest
  | [] => []

/-- The path by which a target is routed. -/
def route (t : RequestTarget) : String :=
  String.ofList (Text.Utf8.decodeLossy (readEscapes (Text.Utf8.encode t.path.toList)))

end RequestTarget

end MainContent.Service
