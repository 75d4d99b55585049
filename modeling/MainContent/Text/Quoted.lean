import MainContent.Text.Printable

/-!
# Quoted texts

A text between double quotes, with escapes for the quote, the backslash, and every character that
does not show by itself.
-/

namespace MainContent.Text.Quoted

/-- The escape of a character by its number. -/
def byNumber (c : Char) : List Char :=
  ['\\', 'u', '\x7b'] ++ lowerHex c.toNat ++ ['\x7d']

/-- A character inside quotes. -/
def encodeChar (c : Char) : List Char :=
  if c = '\x00' then ['\\', '0']
  else if c = '\t' then ['\\', 't']
  else if c = '\r' then ['\\', 'r']
  else if c = '\n' then ['\\', 'n']
  else if c = '"' then ['\\', '"']
  else if c = '\\' then ['\\', '\\']
  else if graphemeExtend.contains c then byNumber c
  else if printable.contains c then [c]
  else byNumber c

/-- A text between quotes. -/
def encode (s : String) : String :=
  String.ofList ('"' :: s.toList.flatMap encodeChar ++ ['"'])

end MainContent.Text.Quoted
