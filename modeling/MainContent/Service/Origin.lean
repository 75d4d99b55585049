import MainContent.Text.Ascii
import MainContent.Text.Blank
import MainContent.Url.Ipv6

/-!
# Where a request comes from

The headers of a request, and the address that it is logged with: the one that a proxy names in
`Forwarded` or `X-Forwarded-For`, else that of the connection.
-/

namespace MainContent.Service

/-- The headers of a request in order. -/
abbrev Headers := List (String × List UInt8)

namespace Headers

/-- Whether a byte may stand in a header that is read as text. -/
def isVisible (b : UInt8) : Bool :=
  (0x20 ≤ b && b < 0x7F) || b == 0x09

/-- The text of a header's value, if it holds visible ASCII only. -/
def text? (value : List UInt8) : Option (List Char) :=
  if value.all isVisible then some (value.map fun b => .ofNat b.toNat) else none

/-- Whether two names of headers are the same. -/
def sameName (a b : String) : Bool :=
  Text.toLowerAscii a.toList == Text.toLowerAscii b.toList

/-- The values of the headers of a name. -/
def values (hs : Headers) (name : String) : List (List UInt8) :=
  (hs.filter fun h => sameName h.1 name).map (·.2)

/-- The text of the first header of a name, if it holds visible ASCII only. -/
def first? (hs : Headers) (name : String) : Option (List Char) :=
  (hs.values name).head?.bind text?

end Headers

/-- A value without blanks and quotes around it. -/
def unquote (cs : List Char) : List Char :=
  Text.strip (· == '"') (Text.trim cs)

/-- What stands before the first occurrence of `]:`. -/
def beforeBracketColon : List Char → List Char
  | ']' :: ':' :: _ => []
  | c :: cs => c :: beforeBracketColon cs
  | [] => []

/-- An address without its port and its brackets. -/
def bareAddress (cs : List Char) : List Char :=
  match cs with
  | '[' :: _ =>
    let inner := (beforeBracketColon cs).dropWhile (· == '[')
    (inner.reverse.dropWhile (· == ']')).reverse
  | _ => cs.takeWhile (· ≠ ':')

/-- The pairs in the `Forwarded` headers of a request, in order. -/
def forwardedPairs (hs : Headers) : List (List Char × List Char) :=
  ((hs.values "forwarded").filterMap Headers.text?).flatMap fun value =>
    (value.splitOnP fun c => c == ';' || c == ',').filterMap fun piece =>
      let pair := Text.trim piece
      match pair.dropWhile (· ≠ '=') with
      | _ :: v => some (Text.toLowerAscii (Text.trim (pair.takeWhile (· ≠ '='))), v)
      | [] => none

/-- The address of the caller that a proxy names first in `Forwarded`. -/
def forwardedFor? (hs : Headers) : Option (List Char) :=
  ((forwardedPairs hs).find? (·.1 == "for".toList)).map fun p => bareAddress (unquote p.2)

/-- The first address in `X-Forwarded-For`. -/
def proxiedFor? (hs : Headers) : Option (List Char) :=
  (hs.first? "x-forwarded-for").map fun v => Text.trim (v.takeWhile (· ≠ ','))

/-- The text of an address of eight pieces; one that stands for an IPv4 address shows it. -/
def showIpv6 (pieces : List Nat) : String :=
  match pieces with
  | [0, 0, 0, 0, 0, 0xFFFF, a, b] => "::ffff:" ++ Url.Ipv4.shown (a * 65536 + b)
  | _ => Url.Ipv6.shown pieces

/-- The address in the text of a connection's far end, without its port. -/
def peerAddress? (peer : String) : Option String :=
  match peer.toList with
  | '[' :: inner => (Url.Ipv6.read? (inner.takeWhile (· ≠ ']'))).map showIpv6
  | cs => some (String.ofList (cs.takeWhile (· ≠ ':')))

/-- The address that a request is logged with. -/
def remoteAddress (hs : Headers) (peer : Option String) : String :=
  match forwardedFor? hs, proxiedFor? hs, peer.bind peerAddress? with
  | some a, _, _ => String.ofList a
  | none, some a, _ => String.ofList a
  | none, none, some a => a
  | none, none, none => "unknown"

/-- The name that a caller gives itself. -/
def userAgent (hs : Headers) : String :=
  ((hs.first? "user-agent").map String.ofList).getD "unknown"

end MainContent.Service
