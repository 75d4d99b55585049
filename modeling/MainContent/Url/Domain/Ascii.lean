import MainContent.Text.Utf8
import MainContent.Url.Domain.Label
import MainContent.Url.Domain.Mapping
import MainContent.Url.Domain.Punycode

/-!
# Domain names in ASCII

The ASCII form of a domain name: characters are mapped and composed, each label is checked, and a
label with characters outside ASCII is written in Punycode after `xn--`. The result is `none` when
the name is no valid international domain name.
-/

namespace MainContent.Url.Domain

/-- What a label begins with that is written in Punycode. -/
def aceMark : List Char := ['x', 'n', '-', '-']

/-- The ASCII characters that no domain name may hold. -/
def isForbidden (c : Char) : Bool :=
  c.toNat ≤ 0x20 || c == '\x7f' || "%#/:<>?@[\\]^|".toList.contains c

/-- The most characters of Punycode that a label is read from. -/
def longestEncoded : Nat := 2000

/-- The most characters of a label that needs Punycode. -/
def longestInternational : Nat := 1000

/-- What Punycode stands for. It must be in mapped and composed form already, and must need
Punycode. -/
def readEncoded (encoded : List Char) : Option (List Char) :=
  if longestEncoded < encoded.length then none
  else
    match Punycode.decode? encoded with
    | some inner =>
      if inner.any (0x80 ≤ ·.toNat) && inner.all isStable &&
        Unicode.composedForm inner == inner && !aceMark.isPrefixOf inner then some inner
      else none
    | none => none

/-- A label with its Punycode read, if it has any. -/
def readLabel (label : List Char) : Option (List Char) :=
  if aceMark.isPrefixOf label then readEncoded (label.drop 4) else some label

/-- Whether a label is short enough for Punycode, if it needs any. -/
def fitsPunycode (label : List Char) : Bool :=
  label.all (·.toNat < 0x80) || label.length ≤ longestInternational

/-- The ASCII form of a label. -/
def writeLabel (label : List Char) : List Char :=
  if label.any (0x80 ≤ ·.toNat) then aceMark ++ Punycode.encode label else label

/-- Whether the labels keep to the rules of direction, if one of them runs from right to left. -/
def directionsKept (labels : List (List Char)) : Bool :=
  !(labels.any fun l => l.any fun c => turns (Unicode.bidiClass c)) || labels.all keepsDirection

/-- The ASCII form of a domain name. -/
def toAscii? (name : List Char) : Option (List Char) := do
  let mapped ← mapAll name
  let composed := Unicode.composedForm mapped
  let labels ← (composed.splitOn '.').mapM readLabel
  if composed.any isForbidden || !labels.all isSound || !labels.all fitsPunycode ||
    !directionsKept labels then none
  else some (['.'].intercalate (labels.map writeLabel))

/-- The ASCII form of a domain name given by its bytes, which must be well-formed UTF-8. -/
def ofBytes? (bytes : List UInt8) : Option (List Char) :=
  (Text.Utf8.decode? bytes).bind toAscii?

end MainContent.Url.Domain
