/-!
# Blank characters

The characters with the Unicode property White_Space, and the removal of blanks at the two ends
of a text. U+200B and U+FEFF look empty but do not have the property, so they are kept.
-/

namespace MainContent.Text

/-- The 25 characters with the Unicode property White_Space. -/
def isBlank (c : Char) : Bool :=
  let n := c.toNat
  (0x09 ≤ n && n ≤ 0x0D) || n == 0x20 || n == 0x85 || n == 0xA0 || n == 0x1680 ||
    (0x2000 ≤ n && n ≤ 0x200A) || n == 0x2028 || n == 0x2029 || n == 0x202F || n == 0x205F ||
    n == 0x3000

/-- The five characters that HTML counts as white space: tab, line feed, form feed, carriage
return and space. -/
def isAsciiBlank (c : Char) : Bool :=
  c == '\t' || c == '\n' || c == '\x0c' || c == '\r' || c == ' '

/-- The text without the characters at its two ends that satisfy `p`. -/
def strip (p : Char → Bool) (cs : List Char) : List Char :=
  ((cs.dropWhile p).reverse.dropWhile p).reverse

/-- The text without the blanks at its two ends. -/
def trim (cs : List Char) : List Char :=
  strip isBlank cs

/-- Whether a text holds blanks only. -/
def allBlank (cs : List Char) : Bool :=
  cs.all isBlank

end MainContent.Text
