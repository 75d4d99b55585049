import MainContent.Text.Percent
import MainContent.Text.Utf8

/-!
# Form-encoded pairs

The `application/x-www-form-urlencoded` reading of a text: pairs between `&`, a name and a value
around the first `=`, `+` for a space, percent-escapes for bytes, and UTF-8 with U+FFFD for what
is ill-formed. No text fails to be read.
-/

namespace MainContent.Text.Form

/-- A text with a space for each `+`. -/
def plusToSpace (cs : List Char) : List Char :=
  cs.map fun c => if c = '+' then ' ' else c

/-- The text that a form-encoded text stands for. -/
def decode (cs : List Char) : List Char :=
  Utf8.decodeLossy (Percent.decode (Utf8.encode (plusToSpace cs)))

/-- The text that a form-encoded text stands for, when its bytes are well-formed UTF-8. -/
def decode? (cs : List Char) : Option (List Char) :=
  Utf8.decode? (Percent.decode (Utf8.encode (plusToSpace cs)))

/-- The raw name of a pair: what stands before the first `=`, or all of it. -/
def rawName (piece : List Char) : List Char :=
  piece.takeWhile (· ≠ '=')

/-- The raw value of a pair: what stands after the first `=`. -/
def rawValue (piece : List Char) : List Char :=
  (piece.dropWhile (· ≠ '=')).drop 1

/-- The decoded name of a pair. -/
def name (piece : List Char) : List Char :=
  decode (rawName piece)

/-- The decoded value of a pair. -/
def value (piece : List Char) : List Char :=
  decode (rawValue piece)

/-- The pieces of a text between the `&`, the empty ones included. -/
def pieces (cs : List Char) : List (List Char) :=
  cs.splitOn '&'

/-- The pairs of a form-encoded text in order; an empty piece is no pair. -/
def pairs (cs : List Char) : List (List Char × List Char) :=
  ((pieces cs).filter (!·.isEmpty)).map fun p => (name p, value p)

end MainContent.Text.Form
