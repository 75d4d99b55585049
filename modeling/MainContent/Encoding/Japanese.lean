import MainContent.Encoding.Basic
import MainContent.Encoding.JisTable

/-!
# Encodings of Japanese

Three encodings of the same tables: EUC-JP and Shift_JIS, which tell characters apart by their lead
bytes, and ISO-2022-JP, which switches between tables by escape sequences.
-/

namespace MainContent.Encoding

/-- The characters of JIS X 0208 and its extensions. -/
def jis0208 : Array (Array Char) := toRows Table.jis0208Rows

/-- The characters of JIS X 0212. -/
def jis0212 : Array (Array Char) := toRows Table.jis0212Rows

/-- The half-width katakana with a number, the first one having the number zero. -/
def halfWidthKatakana (n : Nat) : Char :=
  .ofNat (0xFF61 + n)

namespace EucJp

/-- Whether a byte can belong to a pair. -/
def inPair (b : UInt8) : Bool :=
  0xA1 ≤ b && b ≤ 0xFE

/-- The character of two bytes. -/
def pairChar? (rows : Array (Array Char)) (lead second : UInt8) : Option Char :=
  if inPair lead && inPair second then
    lookUp rows (lead.toNat - 0xA1) (second.toNat - 0xA1)
  else none

/-- Reads the pair after the byte that announces JIS X 0212. -/
def afterShift (rest : List UInt8) : Step Unit :=
  match rest with
  | [] => .error 0 ()
  | [b] => .error (if b < 0x80 then 0 else 1) ()
  | b :: c :: _ =>
    if inPair b then
      match pairChar? jis0212 b c with
      | some ch => .char ch 2 ()
      | none => .error (if c < 0x80 then 1 else 2) ()
    else afterBadPair b

/-- Reads the next character. -/
def step (_ : Unit) (a : UInt8) (rest : List UInt8) : Step Unit :=
  if a < 0x80 then .char (.ofNat a.toNat) 0 ()
  else if a == 0x8F then afterShift rest
  else if a == 0x8E || inPair a then
    match rest with
    | [] => .error 0 ()
    | b :: _ =>
      if a == 0x8E && 0xA1 ≤ b && b ≤ 0xDF then
        .char (halfWidthKatakana (b.toNat - 0xA1)) 1 ()
      else
        match pairChar? jis0208 a b with
        | some c => .char c 1 ()
        | none => afterBadPair b
  else .error 0 ()

end EucJp

namespace ShiftJis

/-- The number of the place that two bytes name. -/
def place? (lead second : UInt8) : Option Nat :=
  let start := if lead < 0xA0 then 0x81 else 0xC1
  if 0x40 ≤ second && second ≤ 0x7E then
    some ((lead.toNat - start) * 188 + (second.toNat - 0x40))
  else if 0x80 ≤ second && second ≤ 0xFC then
    some ((lead.toNat - start) * 188 + (second.toNat - 0x41))
  else none

/-- The character at a place; some places are left to private use. -/
def placeChar? (n : Nat) : Option Char :=
  if 8836 ≤ n && n ≤ 10715 then some (.ofNat (0xE000 + (n - 8836)))
  else lookUp jis0208 (n / 94) (n % 94)

/-- Reads the next character. -/
def step (_ : Unit) (a : UInt8) (rest : List UInt8) : Step Unit :=
  if a ≤ 0x80 then .char (.ofNat a.toNat) 0 ()
  else if 0xA1 ≤ a && a ≤ 0xDF then .char (halfWidthKatakana (a.toNat - 0xA1)) 0 ()
  else if a == 0xA0 || 0xFC < a then .error 0 ()
  else
    match rest with
    | [] => .error 0 ()
    | b :: _ =>
      match (place? a b).bind placeChar? with
      | some c => .char c 1 ()
      | none => afterBadPair b

end ShiftJis

namespace Iso2022Jp

/-- The tables that escape sequences switch to. -/
inductive Mode where
  /-- ASCII. -/
  | ascii
  /-- ASCII with a yen sign and an overline. -/
  | roman
  /-- Half-width katakana. -/
  | katakana
  /-- JIS X 0208, two bytes for each character. -/
  | pairs
  deriving DecidableEq, Repr

/-- The table in use, and whether nothing has been read since it was switched to. -/
structure State where
  /-- The table in use. -/
  mode : Mode
  /-- Whether the last thing read was the switch to it. -/
  justSwitched : Bool

/-- The table that the two bytes after an escape byte switch to. -/
def switch? (a b : UInt8) : Option Mode :=
  if a == 0x28 && b == 0x42 then some .ascii
  else if a == 0x28 && b == 0x4A then some .roman
  else if a == 0x28 && b == 0x49 then some .katakana
  else if a == 0x24 && (b == 0x40 || b == 0x42) then some .pairs
  else none

/-- Reads an escape sequence. One that follows another without a character between them is an
error, and so is an escape byte that begins no sequence. -/
def escape (s : State) (rest : List UInt8) : Step State :=
  let failed : Step State := .error 0 { s with justSwitched := false }
  match rest with
  | a :: b :: _ =>
    match switch? a b with
    | some mode => ⟨if s.justSwitched then [none] else [], 2, ⟨mode, true⟩⟩
    | none => failed
  | _ => failed

/-- The character of one byte in a table of single bytes. -/
def byteChar? (mode : Mode) (b : UInt8) : Option Char :=
  match mode with
  | .katakana =>
    if 0x21 ≤ b && b ≤ 0x5F then some (halfWidthKatakana (b.toNat - 0x21)) else none
  | .roman =>
    if b == 0x5C then some '¥' else if b == 0x7E then some '‾' else plain b
  | _ => plain b
where
  /-- The character of a byte in ASCII, without the bytes that switch tables elsewhere. -/
  plain (b : UInt8) : Option Char :=
    if b < 0x80 && b != 0x0E && b != 0x0F && b != 0x1B then some (.ofNat b.toNat) else none

/-- Whether a byte can belong to a pair. -/
def inPair (b : UInt8) : Bool :=
  0x21 ≤ b && b ≤ 0x7E

/-- Reads a pair that begins with `a`. -/
def pair (a : UInt8) (rest : List UInt8) : Step State :=
  let s : State := ⟨.pairs, false⟩
  match rest with
  | [] => .error 0 s
  | b :: _ =>
    if b == 0x1B then .error 0 s
    else if inPair b then
      match lookUp jis0208 (a.toNat - 0x21) (b.toNat - 0x21) with
      | some c => .char c 1 s
      | none => .error 1 s
    else .error 1 s

/-- Reads the next character or escape sequence. -/
def step (s : State) (a : UInt8) (rest : List UInt8) : Step State :=
  if a == 0x1B then escape s rest
  else if s.mode = .pairs then
    if inPair a then pair a rest else .error 0 ⟨.pairs, false⟩
  else
    match byteChar? s.mode a with
    | some c => .char c 0 ⟨s.mode, false⟩
    | none => .error 0 ⟨s.mode, false⟩

end Iso2022Jp

end MainContent.Encoding
