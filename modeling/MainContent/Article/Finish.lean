import MainContent.Article.Shape

/-!
# Finishing the article

Divisions that only hold another division are made one with it, empty ones are left out, and
classes, which meant something to the styles of the page, are taken off.
-/

namespace MainContent.Article

open Html (Dom NodeId)

/-- The identifier of the element that holds a finished article. -/
def pageId : String := "readability-page-1"

/-- The class of the element that holds a finished article. -/
def pageClass : String := "page"

/-- The elements that only divide. -/
def divisions : List String := ["div", "section"]

/-- What the identifiers of elements begin with that are never made one with others. -/
def keptMark : String := "readability"

/-- Whether an element only divides, so that it can be made one with another. -/
def isDivision (d : Dom) (i : NodeId) : Bool :=
  divisions.contains (d.name i) && !keptMark.toList.isPrefixOf (valueOf d i "id")

/-- Puts an element in the place of the one around it, with the attributes of both. -/
def merge (d : Dom) (outer inner : NodeId) : Dom :=
  ((d.attributes outer).foldl (fun d a => d.setAttribute inner a.name a.value) d).replace outer
    inner

/-- Makes divisions one with those that are all they hold, looking at most at so many elements. -/
def simplifySteps : Nat → Dom → List NodeId → Dom
  | 0, d, _ => d
  | _, d, [] => d
  | n + 1, d, i :: rest =>
    if isDivision d i then
      if isHollow d i then simplifySteps n (d.detach i) rest
      else
        match onlyElement? d i divisions with
        | some inner => simplifySteps n (merge d i inner) (inner :: rest)
        | none => simplifySteps n d (d.elements i ++ rest)
    else simplifySteps n d (d.elements i ++ rest)

/-- Makes the divisions in an element one with those that are all they hold. -/
def simplify (d : Dom) (i : NodeId) : Dom :=
  simplifySteps (2 * d.size) d (d.elements i)

/-- Takes the classes off an element, apart from that of the holder of an article. -/
def withoutClass (d : Dom) (i : NodeId) : Dom :=
  match d.attribute? i "class" with
  | some value =>
    let kept := (Text.words value.toList).filter (· == pageClass.toList)
    if kept.isEmpty then d.removeAttributes i ["class"]
    else d.setAttribute i "class" (String.ofList ([' '].intercalate kept))
  | none => d

/-- Takes the classes off all that is in an element. -/
def withoutClasses (d : Dom) (i : NodeId) : Dom :=
  (d.descendants i).foldl withoutClass d

/-- Makes an element the holder of a finished article. -/
def asPage (d : Dom) (i : NodeId) : Dom :=
  (d.setAttribute i "id" pageId).setAttribute i "class" pageClass

end MainContent.Article
