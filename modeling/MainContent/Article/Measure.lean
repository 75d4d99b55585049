import MainContent.Article.Vocabulary
import MainContent.Html.Dom
import MainContent.Text.LetterNumber
import MainContent.Text.Lowercase
import MainContent.Text.Words

/-!
# Lengths and densities

How much text an element holds, and which part of it stands in links or in elements of some names.
Shares are exact fractions, and a share of no text is zero.
-/

namespace MainContent.Article

open Html (Dom NodeId)

/-- A text without the blanks at its two ends. -/
def trimmed (s : String) : String :=
  String.ofList (Text.trim s.toList)

/-- The text in a node, with single spaces between its words. -/
def textIn (d : Dom) (i : NodeId) : List Char :=
  Text.squeeze (d.text i).toList

/-- The number of characters of the text in a node. -/
def lengthIn (d : Dom) (i : NodeId) : Nat :=
  (textIn d i).length

/-- Whether a node holds no text. -/
def isBlankIn (d : Dom) (i : NodeId) : Bool :=
  Text.allBlank (d.text i).toList

/-- How often a link counts: less if it leads to a place in its own page. -/
def linkFactor (d : Dom) (i : NodeId) : Rat :=
  match d.attribute? i "href" with
  | some href =>
    match href.toList with
    | '#' :: _ :: _ => 3 / 10
    | _ => 1
  | none => 1

/-- The share of the text in an element that stands in links. -/
def linkDensity (d : Dom) (i : NodeId) : Rat :=
  ((d.named i ["a"]).foldl (fun sum link => sum + linkFactor d link * lengthIn d link) 0) /
    lengthIn d i

/-- The share of the text in an element that stands in elements of some names, counted for each of
them. -/
def textDensity (d : Dom) (i : NodeId) (names : List String) : Rat :=
  ((d.named i names).foldl (fun sum j => sum + (lengthIn d j : Rat)) 0) / lengthIn d i

/-- The words of a text in small letters, without any other signs. -/
def plainWords (cs : List Char) : List (List Char) :=
  ((Text.toLower cs).splitOnP fun c => !(Text.lettersAndNumbers.contains c || c == '_')).filter
    (!·.isEmpty)

/-- The length of words with single signs between them. -/
def joinedLength (ws : List (List Char)) : Nat :=
  ([' '].intercalate ws).length

/-- The share of a text that consists of words of another one. -/
def similarity (known text : List Char) : Rat :=
  let knownWords := plainWords known
  let textWords := plainWords text
  if knownWords.isEmpty || textWords.isEmpty then 0
  else 1 - (joinedLength (textWords.filter (!knownWords.contains ·)) : Rat) / joinedLength textWords

/-- From which share on two texts count as the same. -/
def sameFrom : Rat := 3 / 4

/-- Whether a text mostly consists of words of another one. -/
def isSimilar (known text : List Char) : Bool :=
  sameFrom < similarity known text

end MainContent.Article
