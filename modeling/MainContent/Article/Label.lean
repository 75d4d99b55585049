import MainContent.Article.Vocabulary
import MainContent.Html.Dom
import MainContent.Text.LetterNumber
import MainContent.Text.Lowercase
import MainContent.Text.Words

/-!
# What classes and identifiers tell

The class and the identifier of an element tell what it is for. Some of their words speak for an
article, and some against one.
-/

namespace MainContent.Article

open Html (Dom NodeId)
open Text (anyOccursIn)

/-- The value of an attribute, empty if there is none. -/
def valueOf (d : Dom) (i : NodeId) (name : String) : List Char :=
  ((d.attribute? i name).getD "").toList

/-- The class and the identifier of an element, in small letters. -/
def label (d : Dom) (i : NodeId) : List Char :=
  Text.toLower (valueOf d i "class" ++ ' ' :: valueOf d i "id")

/-- Whether a label is that of a part which is hardly an article. -/
def isUnlikely (label : List Char) : Bool :=
  anyOccursIn unlikelyWords label && !anyOccursIn likelyWords label

/-- Whether a label is that of a line that names the author. -/
def namesAuthor (label : List Char) : Bool :=
  anyOccursIn bylineWords label

/-- Whether a label has a word for sharing, by itself or between other signs. -/
def namesSharing (label : List Char) : Bool :=
  (label.splitOnP fun c => !Text.lettersAndNumbers.contains c).any fun word =>
    shareWords.contains (String.ofList word)

/-- Whether a value in small letters speaks against an article. -/
def isNegative (value : List Char) : Bool :=
  anyOccursIn negativeWords value || (value.splitOn ' ').contains "hid".toList

/-- What a value of one of the two attributes counts. -/
def valueWeight (value : List Char) : Int :=
  let small := Text.toLower value
  (if isNegative small then -25 else 0) + (if anyOccursIn positiveWords small then 25 else 0)

/-- What the class and the identifier of an element count, for an article or against one. -/
def weight (d : Dom) (i : NodeId) : Int :=
  valueWeight (valueOf d i "class") + valueWeight (valueOf d i "id")

end MainContent.Article
