import MainContent.Text.Blank

/-!
# Words

A text as the words between its blanks, and the search for words in a text.
-/

namespace MainContent.Text

/-- The stretches of a text without blanks. -/
def words (cs : List Char) : List (List Char) :=
  (cs.splitOnP isBlank).filter (!·.isEmpty)

/-- The words of a text with single spaces between them. -/
def squeeze (cs : List Char) : List Char :=
  [' '].intercalate (words cs)

/-- Whether a text occurs in another one. -/
def occursIn (part : List Char) : List Char → Bool
  | [] => part.isEmpty
  | c :: cs => part.isPrefixOf (c :: cs) || occursIn part cs

/-- Whether one of several texts occurs in a text. -/
def anyOccursIn (parts : List String) (cs : List Char) : Bool :=
  parts.any fun part => occursIn part.toList cs

/-- What follows a text at the beginning of another one. -/
def dropText? : List Char → List Char → Option (List Char)
  | [], cs => some cs
  | _ :: _, [] => none
  | p :: ps, c :: cs => if p = c then dropText? ps cs else none

end MainContent.Text
