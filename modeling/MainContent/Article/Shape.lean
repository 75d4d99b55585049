import MainContent.Article.Label
import MainContent.Article.Measure

/-!
# The shape of parts of a page

Which nodes stand in the line of a text, which elements hold nothing, and which do not show.
-/

namespace MainContent.Article

open Html (Dom NodeId)

/-- Whether a node stands in the line of a text, looking at most so many levels down. -/
def isPhrasingTo (d : Dom) : Nat → NodeId → Bool
  | 0, _ => false
  | levels + 1, i =>
    (d.text? i).isSome || phrasing.contains (d.name i) ||
      (transparent.contains (d.name i) && (d.children i).all (isPhrasingTo d levels))

/-- Whether a node stands in the line of a text. -/
def isPhrasing (d : Dom) (i : NodeId) : Bool :=
  isPhrasingTo d (d.size + 1) i

/-- Whether a node is blank text or a line break. -/
def isGap (d : Dom) (i : NodeId) : Bool :=
  match d.text? i with
  | some s => Text.allBlank s.toList
  | none => d.name i == "br"

/-- Whether an element holds no text, and no elements but breaks and rules. -/
def isHollow (d : Dom) (i : NodeId) : Bool :=
  isBlankIn d i &&
    ((d.elements i).isEmpty || (d.elements i).length == (d.named i ["br", "hr"]).length)

/-- The only child element of an element, if it has one of the names. -/
def onlyElement? (d : Dom) (i : NodeId) (names : List String) : Option NodeId :=
  match d.elements i with
  | [j] => if names.contains (d.name j) then some j else none
  | _ => none

/-- Whether a text ends with a character that is not blank. -/
def endsInText (s : String) : Bool :=
  s.toList.getLast?.any (!Text.isBlank ·)

/-- The only child of an element, if it is an element of a name; text beside it may end in blanks
only. -/
def onlyChild? (d : Dom) (i : NodeId) (name : String) : Option NodeId :=
  if (d.children i).any fun j => (d.text? j).any endsInText then none
  else onlyElement? d i [name]

/-- Whether an element holds a block. -/
def holdsBlock (d : Dom) (i : NodeId) : Bool :=
  !(d.named i blocks).isEmpty

/-- How far up an element is looked for around another one. -/
def reach : Nat := 4

/-- Whether a node is close inside an element of a name. -/
def isInside (d : Dom) (i : NodeId) (name : String) : Bool :=
  ((d.ancestors i).take reach).any fun j => d.name j == name

/-- A text in small letters, without blanks. -/
def dense (s : String) : List Char :=
  Text.toLower (s.toList.filter (!Text.isBlank ·))

/-- Whether a style keeps an element from showing. -/
def hidesByStyle (style : String) : Bool :=
  Text.anyOccursIn ["display:none", "visibility:hidden"] (dense style)

/-- Whether an element shows. Images that stand in for others show, even to those alone who see. -/
def isVisible (d : Dom) (i : NodeId) : Bool :=
  !(d.attribute? i "style").any hidesByStyle &&
    (d.attribute? i "hidden").isNone &&
    (d.attribute? i "aria-hidden" != some "true" ||
      Text.occursIn "fallback-image".toList (valueOf d i "class"))

/-- Whether an element is a dialog that is laid over the page. -/
def isOverlay (d : Dom) (i : NodeId) : Bool :=
  d.attribute? i "aria-modal" == some "true" && d.attribute? i "role" == some "dialog"

end MainContent.Article
