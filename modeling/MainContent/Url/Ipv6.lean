import MainContent.Url.Ipv4

/-!
# IPv6 addresses

An address is eight pieces of sixteen bits, written in hexadecimal with colons between them. One
run of zeros may be left out at `::`, and the last two pieces may be written as an IPv4 address.
-/

namespace MainContent.Url.Ipv6

/-- The value of a piece: one to four hexadecimal digits. -/
def pieceValue? (cs : List Char) : Option Nat :=
  if cs.isEmpty || 4 < cs.length then none
  else cs.foldl (fun acc c => do return (← acc) * 16 + (← Text.hexValue? c)) (some 0)

/-- The value of a byte in the IPv4 ending: a decimal below 256 without leading zeros. -/
def byteValue? (cs : List Char) : Option Nat :=
  if cs.isEmpty || !cs.all Text.isDigit || (1 < cs.length && cs.head? == some '0') ||
    3 < cs.length then none
  else
    let n := cs.foldl (fun n c => n * 10 + (c.toNat - 48)) 0
    if n < 256 then some n else none

/-- The two pieces of an IPv4 ending. -/
def ending? (cs : List Char) : Option (List Nat) :=
  match (cs.splitOn '.').mapM byteValue? with
  | some [a, b, c, d] => some [a * 256 + b, c * 256 + d]
  | _ => none

/-- The pieces of a part of an address that leaves nothing out; only at the end of the address may
the last of them be an IPv4 ending. -/
def pieces? (atEnd : Bool) : List (List Char) → Option (List Nat)
  | [] => some []
  | [p] =>
    if atEnd && p.contains '.' then ending? p else (pieceValue? p).map fun n => [n]
  | p :: ps => do
    let n ← pieceValue? p
    let ns ← pieces? atEnd ps
    return n :: ns

/-- The pieces of a part of an address; an empty part has none. -/
def part? (atEnd : Bool) (cs : List Char) : Option (List Nat) :=
  if cs.isEmpty then some [] else pieces? atEnd (cs.splitOn ':')

/-- What stands before and after the first `::`. -/
def splitAtGap (before : List Char) : List Char → Option (List Char × List Char)
  | ':' :: ':' :: rest => some (before.reverse, rest)
  | c :: cs => splitAtGap (c :: before) cs
  | [] => none

/-- The address that a text denotes. -/
def read? (cs : List Char) : Option (List Nat) :=
  match splitAtGap [] cs with
  | none => do
    let ns ← part? true cs
    if ns.length = 8 then some ns else none
  | some (left, right) => do
    let ls ← part? false left
    let rs ← part? true right
    if ls.length + rs.length ≤ 7 then
      some (ls ++ List.replicate (8 - ls.length - rs.length) 0 ++ rs)
    else none

/-- The number of zeros that a list begins with. -/
def leadingZeros (ns : List Nat) : Nat :=
  (ns.takeWhile (· == 0)).length

/-- The place and the length of the first longest run of zeros, from place `i` on. -/
def longestRun (i : Nat) : List Nat → Nat × Nat
  | [] => (i, 0)
  | n :: ns =>
    let here := leadingZeros (n :: ns)
    let later := longestRun (i + 1) ns
    if here < later.2 then later else (i, here)

/-- Pieces in hexadecimal with colons between them. -/
def showPieces (ns : List Nat) : List Char :=
  [':'].intercalate (ns.map Text.lowerHex)

/-- The shortest writing of an address: its first longest run of zeros, if it has more than one of
them, is left out. -/
def shown (ns : List Nat) : String :=
  let (place, size) := longestRun 0 ns
  if 1 < size then
    String.ofList (showPieces (ns.take place) ++ "::".toList ++ showPieces (ns.drop (place + size)))
  else String.ofList (showPieces ns)

end MainContent.Url.Ipv6
