import MainContent.Encoding.Basic
import MainContent.Encoding.SingleByteTable
import MainContent.Text.RangeMap

/-!
# Single-byte encodings

Bytes below 0x80 are ASCII; the others stand for the characters of the encoding's table.
-/

namespace MainContent.Encoding

/-- The table of an encoding, as it is written. -/
def SingleByte.lines : SingleByte → List String
  | .ibm866 => Table.ibm866
  | .iso8859part2 => Table.iso8859part2
  | .iso8859part3 => Table.iso8859part3
  | .iso8859part4 => Table.iso8859part4
  | .iso8859part5 => Table.iso8859part5
  | .iso8859part6 => Table.iso8859part6
  | .iso8859part7 => Table.iso8859part7
  | .iso8859part8 => Table.iso8859part8
  | .iso8859part8Logical => Table.iso8859part8
  | .iso8859part10 => Table.iso8859part10
  | .iso8859part13 => Table.iso8859part13
  | .iso8859part14 => Table.iso8859part14
  | .iso8859part15 => Table.iso8859part15
  | .iso8859part16 => Table.iso8859part16
  | .koi8r => Table.koi8r
  | .koi8u => Table.koi8u
  | .macintosh => Table.macintosh
  | .windows874 => Table.windows874
  | .windows1250 => Table.windows1250
  | .windows1251 => Table.windows1251
  | .windows1252 => Table.windows1252
  | .windows1253 => Table.windows1253
  | .windows1254 => Table.windows1254
  | .windows1255 => Table.windows1255
  | .windows1256 => Table.windows1256
  | .windows1257 => Table.windows1257
  | .windows1258 => Table.windows1258
  | .macCyrillic => Table.macCyrillic

/-- The entries of an encoding's table: the first and the last byte of a run, and the character
that the first one stands for. -/
def SingleByte.entries (page : SingleByte) : List (Nat × Nat × Nat) :=
  (Text.CodePoints.tokens page.lines).map (Text.RangeMap.entry Text.CodePoints.hexNumber)

/-- The character that a byte from 0x80 on stands for, by the entries of a table. -/
def upperChar? (entries : List (Nat × Nat × Nat)) (b : Nat) : Option Char :=
  (entries.find? fun e => e.1 ≤ b && b ≤ e.2.1).map fun e => .ofNat (e.2.2 + (b - e.1))

/-- The characters of the bytes from 0x80 on. -/
def SingleByte.upperHalf (page : SingleByte) : Array (Option Char) :=
  let entries := page.entries
  ((List.range 128).map fun i => upperChar? entries (128 + i)).toArray

/-- The character that a byte stands for. -/
def singleByteChar? (upper : Array (Option Char)) (b : UInt8) : Option Char :=
  if b < 0x80 then some (.ofNat b.toNat) else (upper[b.toNat - 128]?).join

/-- Reads bytes of a single-byte encoding. -/
def readSingleByte (page : SingleByte) (bs : List UInt8) : List (Option Char) :=
  let upper := page.upperHalf
  bs.map (singleByteChar? upper)

end MainContent.Encoding
