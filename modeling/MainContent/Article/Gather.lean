import MainContent.Article.Preparation
import MainContent.Article.Score

/-!
# Gathering the article

The best candidate, or an element around it that holds more of the article, is the core of the
article. Siblings of the core that look like parts of the same article are gathered with it.
-/

namespace MainContent.Article

open Html (Dom NodeId)

/-- What has been gathered. -/
structure Gathering where
  /-- The page, from which the article was taken out. -/
  dom : Dom
  /-- The element that holds the article. -/
  holder : NodeId
  /-- Whether the article is all that the page shows. -/
  whole : Bool
  deriving Inhabited

/-- The elements around a node up to the body. -/
def aroundInBody (d : Dom) (i : NodeId) : List NodeId :=
  (d.ancestors i).takeWhile fun j => d.name j != "body"

/-- The share of the best score from which on a candidate is as good as the best one. -/
def rivalShare : Rat := 3 / 4

/-- How many rivals have to be in an element for it to be the better candidate. -/
def fewestRivals : Nat := 3

/-- The candidates that are nearly as good as the best one. -/
def rivals (s : Scores) (top : NodeId) (others : List NodeId) : List NodeId :=
  others.filter fun i => decide (rivalShare ≤ s.of i / s.of top)

/-- The closest element around the best candidate that holds enough of its rivals, or else the best
candidate. -/
def sharedWithRivals (d : Dom) (s : Scores) (top : NodeId) (others : List NodeId) : NodeId :=
  let around := (rivals s top others).map d.ancestors
  if around.length < fewestRivals then top
  else
    ((aroundInBody d top).find? fun j =>
      decide (fewestRivals ≤ (around.filter (·.contains j)).length)).getD top

/-- The first of the elements around the best candidate that has a better score than the one below
it, as long as the scores do not get too low. -/
def climb (s : Scores) (least : Rat) : Rat → List NodeId → Option NodeId
  | _, [] => none
  | last, j :: js =>
    match s.get? j with
    | none => climb s least last js
    | some points =>
      if points < least then none
      else if last < points then some j
      else climb s least points js

/-- The outermost element around a candidate that holds nothing else. -/
def outermost (d : Dom) (i : NodeId) : NodeId :=
  (((aroundInBody d i).takeWhile fun j => (d.elements j).length == 1).getLast?).getD i

/-- The scores with one of an element that had none. -/
def Scores.ensure (rigor : Rigor) (d : Dom) (s : Scores) (i : NodeId) : Scores :=
  match s.get? i with
  | some _ => s
  | none => s.set i (startPoints rigor d i)

/-- The core of the article, given the candidates of which it is one of the best. -/
def core (rigor : Rigor) (d : Dom) (s : Scores) (top : NodeId) (others : List NodeId) :
    NodeId × Scores :=
  let top := sharedWithRivals d s top others
  let s := s.ensure rigor d top
  let top := (climb s (s.of top / 3) (s.of top) (aroundInBody d top)).getD top
  let top := outermost d top
  (top, s.ensure rigor d top)

/-- Whether a text has the end of a sentence. -/
def hasSentenceEnd : List Char → Bool
  | [] => false
  | '.' :: rest => rest.isEmpty || rest.head? == some ' ' || hasSentenceEnd rest
  | _ :: rest => hasSentenceEnd rest

/-- Whether a paragraph beside the core is a part of the article: if it is long and has few links,
or short and has none. -/
def isStrayParagraph (d : Dom) (i : NodeId) : Bool :=
  let text := textIn d i
  let links := linkDensity d i
  d.name i == "p" &&
    ((80 < text.length && links < 1 / 4) ||
      (text.length < 80 && 0 < text.length && links == 0 && hasSentenceEnd text))

/-- The share of the core's score that a sibling needs, and that it gets for having its class. -/
def siblingShare : Rat := 1 / 5

/-- The least score that a sibling needs. -/
def siblingPoints : Rat := 10

/-- Whether a sibling of the core is a part of the article. -/
def joins (d : Dom) (s : Scores) (top i : NodeId) : Bool :=
  let share := s.of top * siblingShare
  let sameClass := valueOf d i "class" == valueOf d top "class" && !(valueOf d top "class").isEmpty
  let bonus := if sameClass then share else 0
  let needed := if siblingPoints < share then share else siblingPoints
  i == top || (s.get? i).any (fun points => decide (needed ≤ points + bonus)) ||
    isStrayParagraph d i

/-- Moves an element into the article; an element that is no common block becomes a division. -/
def adopt (holder : NodeId) (d : Dom) (i : NodeId) : Dom :=
  (if keptKinds.contains (d.name i) then d else d.rename i "div").append holder i

/-- Gathers the core and those of its siblings that belong to it. -/
def gatherAround (d : Dom) (s : Scores) (top : NodeId) : Gathering :=
  let siblings := (d.parent? top).elim [] d.elements
  let parts := siblings.filter (joins d s top)
  let (d, holder) := d.createElement "div" []
  { dom := parts.foldl (adopt holder) d, holder, whole := false }

/-- Gathers all that a page shows. -/
def gatherAll (d : Dom) (body : NodeId) : Gathering :=
  let (d, all) := d.createElement "div" []
  let (d, holder) := (d.moveChildren body all).createElement "div" []
  { dom := d.append holder all, holder, whole := true }

/-- Gathers the article of a page in which the text of some elements is scored. -/
def gather? (rigor : Rigor) (d : Dom) (found : List NodeId) : Option Gathering :=
  let s := scores rigor d found
  match best s with
  | top :: others =>
    if d.name top == "body" then (body? d).map (gatherAll d)
    else
      let (top, s) := core rigor d s top others
      some (gatherAround d s top)
  | [] => (body? d).map (gatherAll d)

end MainContent.Article
