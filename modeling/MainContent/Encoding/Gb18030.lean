import MainContent.Encoding.Basic
import MainContent.Encoding.Gb18030Table
import MainContent.Text.RangeMap

/-!
# GB 18030

One byte for ASCII and the euro sign, two bytes for the characters of the table, and four bytes for
every other character, numbered in the order of their code points.
-/

namespace MainContent.Encoding.Gb18030

/-- The characters of two bytes. -/
def rows : Array (Array Char) := toRows Table.gb18030Rows

/-- The first number of each range of characters of four bytes, with its character. -/
def ranges : List (Nat × Nat) :=
  (Text.CodePoints.tokens Table.gb18030Ranges).map fun t =>
    let e := Text.RangeMap.entry Text.CodePoints.hexNumber t
    (e.1, e.2.2)

/-- The character of the number that four bytes give. -/
def rangeChar? (n : Nat) : Option Char :=
  if (39419 < n && n < 189000) || 1237575 < n then none
  else if n = 7457 then some '\uE7C7'
  else if 189000 ≤ n then some (.ofNat (n - 189000 + 0x10000))
  else ((ranges.takeWhile (·.1 ≤ n)).getLast?).map fun r => .ofNat (n - r.1 + r.2)

/-- The character of two bytes. -/
def pairChar? (lead second : UInt8) : Option Char :=
  if 0x40 ≤ second && second ≤ 0x7E then lookUp rows (lead.toNat - 0x81) (second.toNat - 0x40)
  else if 0x80 ≤ second && second ≤ 0xFE then
    lookUp rows (lead.toNat - 0x81) (second.toNat - 0x41)
  else none

/-- Whether a byte can be the second or the fourth of four. -/
def isDigit (b : UInt8) : Bool :=
  0x30 ≤ b && b ≤ 0x39

/-- The number that four bytes give. -/
def number (a b c d : UInt8) : Nat :=
  (((a.toNat - 0x81) * 10 + (b.toNat - 0x30)) * 126 + (c.toNat - 0x81)) * 10 + (d.toNat - 0x30)

/-- Reads the character that begins with a lead byte and a digit. What follows a lead byte is read
again unless it completes the character, but a text that ends within it ends with one error. -/
def fourBytes (a b : UInt8) (rest : List UInt8) : Step Unit :=
  match rest with
  | [] => .error 1 ()
  | [c] => .error (if 0x81 ≤ c && c ≤ 0xFE then 2 else 0) ()
  | c :: d :: _ =>
    if 0x81 ≤ c && c ≤ 0xFE && isDigit d then
      match rangeChar? (number a b c d) with
      | some ch => .char ch 3 ()
      | none => .error 3 ()
    else .error 0 ()

/-- Reads the next character. -/
def step (_ : Unit) (a : UInt8) (rest : List UInt8) : Step Unit :=
  if a < 0x80 then .char (.ofNat a.toNat) 0 ()
  else if a == 0x80 then .char '€' 0 ()
  else if a == 0xFF then .error 0 ()
  else
    match rest with
    | [] => .error 0 ()
    | b :: more =>
      if isDigit b then fourBytes a b more
      else
        match pairChar? a b with
        | some c => .char c 1 ()
        | none => afterBadPair b

end MainContent.Encoding.Gb18030
