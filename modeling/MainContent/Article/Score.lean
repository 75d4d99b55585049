import MainContent.Article.Label
import MainContent.Article.Measure
import MainContent.Article.Rigor
import Std.Data.HashMap

/-!
# Scores

An element with enough text gives points to the elements around it, the more the closer they are.
The elements that get points are the candidates for the article. Scores are exact fractions.
-/

namespace MainContent.Article

open Html (Dom NodeId)

/-- The scores of candidates. -/
structure Scores where
  /-- The candidates, the last first. -/
  candidates : List NodeId := []
  /-- The score of each of them. -/
  points : Std.HashMap NodeId Rat := {}
  deriving Inhabited

namespace Scores

/-- The score of a candidate. -/
def get? (s : Scores) (i : NodeId) : Option Rat :=
  s.points[i]?

/-- The score of an element, zero if it is no candidate. -/
def of (s : Scores) (i : NodeId) : Rat :=
  (s.get? i).getD 0

/-- The scores with another score of a candidate. -/
def set (s : Scores) (i : NodeId) (points : Rat) : Scores :=
  { s with points := s.points.insert i points }

end Scores

/-- What the name of an element counts. -/
def kindPoints (name : String) : Int :=
  if name == "div" then 5
  else if ["pre", "td", "blockquote"].contains name then 3
  else if ["address", "ol", "ul", "dl", "dd", "dt", "li", "form"].contains name then -3
  else if headings.contains name || name == "th" then -5
  else 0

/-- What an element counts before it gets points. -/
def startPoints (rigor : Rigor) (d : Dom) (i : NodeId) : Rat :=
  let label := if rigor.weighsLabels then weight d i else 0
  ((kindPoints (d.name i) + label : Int) : Rat)

/-- The fewest characters of a text that gives points. -/
def shortestScored : Nat := 25

/-- The points that a text gives: for being there, for its parts between commas, and for its
length. -/
def textPoints (cs : List Char) : Nat :=
  1 + (cs.countP commas.contains + 1) + min (cs.length / 100) 3

/-- How many of the elements around a text get points. -/
def scoredLevels : Nat := 5

/-- By what the points of a text are divided for the element so many levels above its parent. -/
def divisor (level : Nat) : Nat :=
  match level with
  | 0 => 1
  | 1 => 2
  | n => 3 * n

/-- Gives points to an element. -/
def Scores.give (rigor : Rigor) (d : Dom) (s : Scores) (i : NodeId) (points : Rat) : Scores :=
  match s.get? i with
  | some known => s.set i (known + points)
  | none => { s with candidates := i :: s.candidates }.set i (startPoints rigor d i + points)

/-- Whether a node is an element in an element. -/
def hasOuter (d : Dom) (i : NodeId) : Bool :=
  d.isElement i && (d.parent? i).any d.isElement

/-- The elements around a node that its text gives points to, with what divides these. -/
def scoredAround (d : Dom) (i : NodeId) : List (NodeId × Nat) :=
  (((d.ancestors i).take scoredLevels).zip ((List.range scoredLevels).map divisor)).filter
    fun (j, _) => hasOuter d j

/-- Gives points for the text of an element. -/
def Scores.count (rigor : Rigor) (d : Dom) (s : Scores) (i : NodeId) : Scores :=
  let text := textIn d i
  if !hasOuter d i || text.length < shortestScored then s
  else
    let points : Rat := textPoints text
    (scoredAround d i).foldl (fun s (j, n) => s.give rigor d j (points / n)) s

/-- Takes the links in a candidate off its score. -/
def Scores.discount (d : Dom) (s : Scores) (i : NodeId) : Scores :=
  match s.get? i with
  | some points => s.set i (points * (1 - linkDensity d i))
  | none => s

/-- The scores that the texts of some elements give. -/
def scores (rigor : Rigor) (d : Dom) (found : List NodeId) : Scores :=
  let s := found.foldl (Scores.count rigor d) {}
  s.candidates.reverse.foldl (Scores.discount d) s

/-- Candidates in the order of their scores with one more, behind those that are as good. -/
def rank (s : Scores) (i : NodeId) : List NodeId → List NodeId
  | [] => [i]
  | j :: js => if s.of j < s.of i then i :: j :: js else j :: rank s i js

/-- How many candidates are compared. -/
def rankedCount : Nat := 5

/-- The best candidates, the best first. -/
def best (s : Scores) : List NodeId :=
  (s.candidates.reverse.foldl (fun ranked i => rank s i ranked) []).take rankedCount

end MainContent.Article
