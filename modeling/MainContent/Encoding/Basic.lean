/-!
# Character encodings

The encodings in which pages of the web are written (the Encoding Standard), with their names, and
the way in which all of them are read: from a state, a reader takes the next byte with the ones
after it, gives the characters that it stands for, with `none` for what stands for nothing, and
says how many of the following bytes it has used.
-/

namespace MainContent

/-- The encodings in which every byte is one character. -/
inductive Encoding.SingleByte where
  | ibm866
  | iso8859part2
  | iso8859part3
  | iso8859part4
  | iso8859part5
  | iso8859part6
  | iso8859part7
  | iso8859part8
  | iso8859part8Logical
  | iso8859part10
  | iso8859part13
  | iso8859part14
  | iso8859part15
  | iso8859part16
  | koi8r
  | koi8u
  | macintosh
  | windows874
  | windows1250
  | windows1251
  | windows1252
  | windows1253
  | windows1254
  | windows1255
  | windows1256
  | windows1257
  | windows1258
  | macCyrillic
  deriving DecidableEq, Repr

/-- The order of the two bytes of a unit. -/
inductive Encoding.ByteOrder where
  /-- The high byte comes first. -/
  | big
  /-- The low byte comes first. -/
  | little
  deriving DecidableEq, Repr

/-- An encoding. -/
inductive Encoding where
  | utf8
  | single (page : Encoding.SingleByte)
  | gbk
  | gb18030
  | big5
  | eucJp
  | iso2022Jp
  | shiftJis
  | eucKr
  /-- What stands for the encodings that are not read at all. -/
  | replacement
  | utf16 (order : Encoding.ByteOrder)
  | userDefined
  deriving DecidableEq, Repr

namespace Encoding

/-- The name of a single-byte encoding. -/
def SingleByte.name : SingleByte → String
  | .ibm866 => "IBM866"
  | .iso8859part2 => "ISO-8859-2"
  | .iso8859part3 => "ISO-8859-3"
  | .iso8859part4 => "ISO-8859-4"
  | .iso8859part5 => "ISO-8859-5"
  | .iso8859part6 => "ISO-8859-6"
  | .iso8859part7 => "ISO-8859-7"
  | .iso8859part8 => "ISO-8859-8"
  | .iso8859part8Logical => "ISO-8859-8-I"
  | .iso8859part10 => "ISO-8859-10"
  | .iso8859part13 => "ISO-8859-13"
  | .iso8859part14 => "ISO-8859-14"
  | .iso8859part15 => "ISO-8859-15"
  | .iso8859part16 => "ISO-8859-16"
  | .koi8r => "KOI8-R"
  | .koi8u => "KOI8-U"
  | .macintosh => "macintosh"
  | .windows874 => "windows-874"
  | .windows1250 => "windows-1250"
  | .windows1251 => "windows-1251"
  | .windows1252 => "windows-1252"
  | .windows1253 => "windows-1253"
  | .windows1254 => "windows-1254"
  | .windows1255 => "windows-1255"
  | .windows1256 => "windows-1256"
  | .windows1257 => "windows-1257"
  | .windows1258 => "windows-1258"
  | .macCyrillic => "x-mac-cyrillic"

/-- The name of an encoding. -/
def name : Encoding → String
  | .utf8 => "UTF-8"
  | .single page => page.name
  | .gbk => "GBK"
  | .gb18030 => "gb18030"
  | .big5 => "Big5"
  | .eucJp => "EUC-JP"
  | .iso2022Jp => "ISO-2022-JP"
  | .shiftJis => "Shift_JIS"
  | .eucKr => "EUC-KR"
  | .replacement => "replacement"
  | .utf16 .big => "UTF-16BE"
  | .utf16 .little => "UTF-16LE"
  | .userDefined => "x-user-defined"

/-- What a reader makes of the next byte. -/
structure Step (σ : Type) where
  /-- The characters that it stands for, `none` for what stands for nothing. -/
  scalars : List (Option Char)
  /-- How many of the bytes after it have been used too. -/
  used : Nat
  /-- The state in which what follows is read. -/
  state : σ

/-- One byte that stands for one character. -/
def Step.char {σ : Type} (c : Char) (used : Nat) (state : σ) : Step σ :=
  ⟨[some c], used, state⟩

/-- Bytes that stand for nothing. -/
def Step.error {σ : Type} (used : Nat) (state : σ) : Step σ :=
  ⟨[none], used, state⟩

/-- Reads bytes to their end from a state, onto the characters already read. -/
def runOnto {σ : Type} (step : σ → UInt8 → List UInt8 → Step σ) (state : σ)
    (out : Array (Option Char)) : List UInt8 → Array (Option Char)
  | [] => out
  | b :: rest =>
    let s := step state b rest
    runOnto step s.state (out.appendList s.scalars) (rest.drop s.used)
termination_by bs => bs.length
decreasing_by rw [List.length_drop, List.length_cons]; omega

/-- Reads bytes to their end from a state. -/
def run {σ : Type} (step : σ → UInt8 → List UInt8 → Step σ) (state : σ) (bs : List UInt8) :
    List (Option Char) :=
  (runOnto step state #[] bs).toList

/-- The step after a pair of bytes that stands for nothing: a second byte within ASCII is read
again. -/
def afterBadPair (second : UInt8) : Step Unit :=
  .error (if second < 0x80 then 0 else 1) ()

/-- The character in a table of rows at a place, unless the place stands for nothing. -/
def lookUp (rows : Array (Array Char)) (row place : Nat) : Option Char :=
  match rows[row]? with
  | none => none
  | some r =>
    match r[place]? with
    | some c => if c = '\uFFFD' then none else some c
    | none => none

/-- The rows of a table. -/
def toRows (rows : List String) : Array (Array Char) :=
  (rows.map (·.toList.toArray)).toArray

end Encoding

end MainContent
