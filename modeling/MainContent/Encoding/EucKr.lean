import MainContent.Encoding.Basic
import MainContent.Encoding.EucKrTable

/-!
# EUC-KR

One byte for ASCII and two bytes for the characters of the table.
-/

namespace MainContent.Encoding.EucKr

/-- The characters of two bytes. -/
def rows : Array (Array Char) := toRows Table.eucKrRows

/-- The character of two bytes. -/
def pairChar? (lead second : UInt8) : Option Char :=
  if 0x41 ≤ second && second ≤ 0xFE then lookUp rows (lead.toNat - 0x81) (second.toNat - 0x41)
  else none

/-- Reads the next character. -/
def step (_ : Unit) (a : UInt8) (rest : List UInt8) : Step Unit :=
  if a < 0x80 then .char (.ofNat a.toNat) 0 ()
  else if a == 0x80 || a == 0xFF then .error 0 ()
  else
    match rest with
    | [] => .error 0 ()
    | b :: _ =>
      match pairChar? a b with
      | some c => .char c 1 ()
      | none => afterBadPair b

end MainContent.Encoding.EucKr
