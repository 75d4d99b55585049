import MainContent.Text.Ascii

/-!
# Percent-encoding

Decoding replaces each `%` that two hexadecimal digits follow by the byte that they name and leaves
every other byte as it is, a malformed escape included.
-/

namespace MainContent.Text.Percent

/-- The value of a byte that is a hexadecimal digit. -/
def hexByte? (b : UInt8) : Option UInt8 :=
  if 0x30 ≤ b && b ≤ 0x39 then some (b - 0x30)
  else if 0x61 ≤ b && b ≤ 0x66 then some (b - 0x57)
  else if 0x41 ≤ b && b ≤ 0x46 then some (b - 0x37)
  else none

/-- The byte that two hexadecimal digits name. -/
def escaped? (high low : UInt8) : Option UInt8 :=
  match hexByte? high, hexByte? low with
  | some h, some l => some (h * 16 + l)
  | _, _ => none

/-- The bytes that a percent-encoded byte string stands for. -/
def decode : List UInt8 → List UInt8
  | 0x25 :: high :: low :: rest =>
    match escaped? high low with
    | some b => b :: decode rest
    | none => 0x25 :: decode (high :: low :: rest)
  | b :: rest => b :: decode rest
  | [] => []

/-- The escape of a byte: `%` and two capital hexadecimal digits. -/
def escape (b : UInt8) : List Char :=
  ['%', upperHexDigit (b.toNat / 16), upperHexDigit (b.toNat % 16)]

end MainContent.Text.Percent
