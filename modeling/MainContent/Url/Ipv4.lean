import MainContent.Text.Ascii

/-!
# IPv4 addresses

A host whose last part is a number is an IPv4 address or nothing. Its parts are decimal, octal after
`0`, or hexadecimal after `0x`, and the last one fills the bytes that are left.
-/

namespace MainContent.Url.Ipv4

/-- The digits of a part with the base that they are written in. -/
def digits (part : List Char) : Nat × List Char :=
  match part with
  | '0' :: 'x' :: ds => (16, ds)
  | '0' :: 'X' :: ds => (16, ds)
  | '0' :: d :: ds => (8, d :: ds)
  | ds => (10, ds)

/-- The number that a part denotes; no digits after the mark of a base denote zero. -/
def partValue? (part : List Char) : Option Nat :=
  if part.isEmpty then none
  else
    let (base, ds) := digits part
    ds.foldl (fun acc c =>
      match acc, Text.hexValue? c with
      | some n, some d => if d < base then some (n * base + d) else none
      | _, _ => none) (some 0)

/-- The parts of a host, without the empty one after a dot at the end. -/
def parts (host : List Char) : List (List Char) :=
  match (host.splitOn '.').reverse with
  | [] :: p :: ps => (p :: ps).reverse
  | ps => ps.reverse

/-- Whether the last part of a host is a number, so that the host can only be an address. -/
def endsInNumber (host : List Char) : Bool :=
  match (parts host).getLast? with
  | none => false
  | some last => (!last.isEmpty && last.all Text.isDigit) || (partValue? last).isSome

/-- The address whose leading parts are bytes and whose last part fills what is left. -/
def combine (leading : List Nat) (last : Nat) : Option Nat :=
  if leading.length ≤ 3 && leading.all (· < 256) && last < Nat.pow 256 (4 - leading.length) then
    some (leading.foldl (fun n b => n * 256 + b) 0 * Nat.pow 256 (4 - leading.length) + last)
  else none

/-- The address that a host denotes. -/
def read? (host : List Char) : Option Nat := do
  let values ← (parts host).mapM partValue?
  let last ← values.getLast?
  combine values.dropLast last

/-- The four bytes of an address in decimal, with dots between them. -/
def shown (address : Nat) : String :=
  Nat.repr (address / 16777216 % 256) ++ "." ++ Nat.repr (address / 65536 % 256) ++ "." ++
    Nat.repr (address / 256 % 256) ++ "." ++ Nat.repr (address % 256)

end MainContent.Url.Ipv4
