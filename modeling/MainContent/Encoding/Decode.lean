import MainContent.Encoding.Big5
import MainContent.Encoding.EucKr
import MainContent.Encoding.Gb18030
import MainContent.Encoding.Japanese
import MainContent.Encoding.SingleByte
import MainContent.Encoding.Utf16
import MainContent.Text.Utf8

/-!
# Decoding

The text that bytes stand for in an encoding. A byte-order mark at the beginning decides the
encoding, whatever was named, and is no part of the text.
-/

namespace MainContent.Encoding

/-- The readings of bytes in an encoding, with `none` for what stands for nothing. -/
def readings : Encoding → List UInt8 → List (Option Char)
  | .utf8, bs => Text.Utf8.read bs
  | .single page, bs => readSingleByte page bs
  | .gbk, bs => run Gb18030.step () bs
  | .gb18030, bs => run Gb18030.step () bs
  | .big5, bs => run Big5.step () bs
  | .eucJp, bs => run EucJp.step () bs
  | .iso2022Jp, bs => run Iso2022Jp.step ⟨.ascii, false⟩ bs
  | .shiftJis, bs => run ShiftJis.step () bs
  | .eucKr, bs => run EucKr.step () bs
  | .replacement, bs => if bs.isEmpty then [] else [none]
  | .utf16 order, bs => run (Utf16.step order) () bs
  | .userDefined, bs =>
    bs.map fun b => some (.ofNat (if b < 0x80 then b.toNat else 0xF780 + (b.toNat - 0x80)))

/-- The encoding that a byte-order mark names, and the bytes after the mark. -/
def splitMark : List UInt8 → Option (Encoding × List UInt8)
  | 0xEF :: 0xBB :: 0xBF :: rest => some (.utf8, rest)
  | 0xFF :: 0xFE :: rest => some (.utf16 .little, rest)
  | 0xFE :: 0xFF :: rest => some (.utf16 .big, rest)
  | _ => none

/-- A text that has been decoded. -/
structure Decoded where
  /-- The text, with U+FFFD for what stands for nothing. -/
  text : List Char
  /-- The encoding that was used. -/
  encoding : Encoding
  /-- Whether some bytes stand for nothing. -/
  damaged : Bool

/-- The text of bytes, with the encoding that was named for them. -/
def decode (named : Encoding) (bs : List UInt8) : Decoded :=
  let (encoding, body) := (splitMark bs).getD (named, bs)
  let rs := readings encoding body
  { text := rs.map (·.getD '\uFFFD'), encoding, damaged := rs.any Option.isNone }

end MainContent.Encoding
