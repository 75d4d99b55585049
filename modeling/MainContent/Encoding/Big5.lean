import MainContent.Encoding.Basic
import MainContent.Encoding.Big5Table

/-!
# Big5

One byte for ASCII and two bytes for the characters of the table. Four pairs of bytes stand for a
letter with a combining accent.
-/

namespace MainContent.Encoding.Big5

/-- The characters of two bytes. -/
def rows : Array (Array Char) := toRows Table.big5Rows

/-- The two characters that some pairs of bytes stand for. -/
def doubled? (lead second : UInt8) : Option (List Char) :=
  if lead != 0x88 then none
  else if second == 0x62 then some ['\u00CA', '\u0304']
  else if second == 0x64 then some ['\u00CA', '\u030C']
  else if second == 0xA3 then some ['\u00EA', '\u0304']
  else if second == 0xA5 then some ['\u00EA', '\u030C']
  else none

/-- The character of two bytes. -/
def pairChar? (lead second : UInt8) : Option Char :=
  if 0x40 ≤ second && second ≤ 0x7E then lookUp rows (lead.toNat - 0x81) (second.toNat - 0x40)
  else if 0xA1 ≤ second && second ≤ 0xFE then
    lookUp rows (lead.toNat - 0x81) (second.toNat - 0x62)
  else none

/-- Reads the next character. -/
def step (_ : Unit) (a : UInt8) (rest : List UInt8) : Step Unit :=
  if a < 0x80 then .char (.ofNat a.toNat) 0 ()
  else if a == 0x80 || a == 0xFF then .error 0 ()
  else
    match rest with
    | [] => .error 0 ()
    | b :: _ =>
      match doubled? a b, pairChar? a b with
      | some cs, _ => ⟨cs.map some, 1, ()⟩
      | none, some c => .char c 1 ()
      | none, none => afterBadPair b

end MainContent.Encoding.Big5
