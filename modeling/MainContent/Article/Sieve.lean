import MainContent.Article.Preparation
import MainContent.Article.Rigor

/-!
# Sifting a page

The elements of a page are looked at in the order of the document. Those that are no part of an
article are taken out with all that they hold. Divisions that are no more than paragraphs become
paragraphs, and text that stands beside blocks gets a paragraph of its own. What remains is listed
for its text to be scored.
-/

namespace MainContent.Article

open Html (Dom NodeId)

/-- What has come of a page that is being sifted. -/
structure Sieve where
  /-- The page. -/
  dom : Dom
  /-- The author, if known. -/
  author : Option String
  /-- Whether no heading was taken out yet for repeating the title. -/
  seeksTitle : Bool := true
  /-- The elements whose text is to be scored, the last first. -/
  found : List NodeId := []
  deriving Inhabited

/-- Why an element is taken out of a page. -/
inductive Objection where
  /-- It does not show. -/
  | hidden
  /-- It is a dialog that is laid over the page. -/
  | overlay
  /-- It names the author. -/
  | byline (author : String)
  /-- It is a heading that repeats the title. -/
  | repeatsTitle
  /-- It is hardly an article. -/
  | unlikely
  /-- It holds nothing. -/
  | hollow
  deriving DecidableEq, Repr

/-- How many characters a line that names the author has less than. -/
def bylineLimit : Nat := 100

/-- Whether an element is marked as one that names the author. -/
def isMarkedByline (d : Dom) (i : NodeId) (label : List Char) : Bool :=
  d.attribute? i "rel" == some "author" ||
    Text.occursIn "author".toList (valueOf d i "itemprop") || namesAuthor label

/-- The name in an element that names the author: the part that is marked as a name, or all. -/
def authorName (d : Dom) (i : NodeId) : String :=
  let marked? := (d.descendants i).find? fun j =>
    Text.occursIn "name".toList (valueOf d j "itemprop")
  trimmed (d.text (marked?.getD i))

/-- The author that an element names. -/
def byline? (d : Dom) (i : NodeId) (label : List Char) : Option String :=
  if isMarkedByline d i label then
    let length := (trimmed (d.text i)).length
    if 0 < length && length < bylineLimit then some (authorName d i) else none
  else none

/-- Whether an element is a heading that repeats the title. -/
def repeatsTitle (d : Dom) (i : NodeId) (title : List Char) : Bool :=
  ["h1", "h2"].contains (d.name i) && isSimilar title (trimmed (d.text i)).toList

/-- Whether an element is hardly an article, by its label or its role. -/
def isUnlikelyPart (d : Dom) (i : NodeId) (label : List Char) : Bool :=
  (isUnlikely label && d.name i != "body" && d.name i != "a" && !isInside d i "table" &&
    !isInside d i "code") ||
  (d.attribute? i "role").any unlikelyRoles.contains

/-- The first objection against an element. -/
def Sieve.objection? (s : Sieve) (rigor : Rigor) (title : List Char) (i : NodeId) :
    Option Objection :=
  let d := s.dom
  let l := label d i
  if !isVisible d i then some .hidden
  else if isOverlay d i then some .overlay
  else
    match if s.author.isNone then byline? d i l else none with
    | some author => some (.byline author)
    | none =>
      if s.seeksTitle && repeatsTitle d i title then some .repeatsTitle
      else if rigor.dropsUnlikely && isUnlikelyPart d i l then some .unlikely
      else if droppedEmpty.contains (d.name i) && isHollow d i then some .hollow
      else none

/-- Takes an element out of the page. -/
def Sieve.drop (s : Sieve) (i : NodeId) (o : Objection) : Sieve :=
  let s := { s with dom := s.dom.detach i }
  match o with
  | .byline author => { s with author := some author }
  | .repeatsTitle => { s with seeksTitle := false }
  | _ => s

/-- Moves a child of a division into the paragraph that is being made, if any. A block ends the
paragraph. -/
def wrapChild (state : Dom × Option NodeId) (i : NodeId) : Dom × Option NodeId :=
  let (d, paragraph) := state
  match isPhrasing d i, paragraph with
  | true, some p => (d.append p i, some p)
  | true, none =>
    if isGap d i then (d, none)
    else
      let (d, p) := d.createElement "p" []
      ((d.insertBefore i p).append p i, some p)
  | false, some p => (trimEnd d p, none)
  | false, none => (d, none)

/-- Puts the text of a division into paragraphs. -/
def wrapLines (d : Dom) (i : NodeId) : Dom :=
  ((d.children i).foldl wrapChild (d, none)).1

/-- Up to which share of links a division is a paragraph. -/
def paragraphLinks : Rat := 1 / 4

/-- The page with a division as the paragraph that it is, if it is one, and that paragraph. -/
def asParagraph? (d : Dom) (i : NodeId) : Option (Dom × NodeId) :=
  match onlyChild? d i "p" with
  | some p =>
    if linkDensity d i < paragraphLinks then some (d.replace i p, p)
    else none
  | none => if holdsBlock d i then none else some (d.rename i "p", i)

/-- Keeps an element, and tells what it has become. -/
def Sieve.keep (s : Sieve) (i : NodeId) : Sieve × NodeId :=
  let s := if scored.contains (s.dom.name i) then { s with found := i :: s.found } else s
  if s.dom.name i == "div" then
    let d := wrapLines s.dom i
    match asParagraph? d i with
    | some (d, p) => ({ s with dom := d, found := p :: s.found }, p)
    | none => ({ s with dom := d }, i)
  else (s, i)

/-- Looks at elements and at what they hold, at most so often. -/
def Sieve.walk (rigor : Rigor) (title : List Char) : Nat → Sieve → List NodeId → Sieve
  | 0, s, _ => s
  | _, s, [] => s
  | n + 1, s, i :: rest =>
    match s.objection? rigor title i with
    | some o => walk rigor title n (s.drop i o) rest
    | none =>
      let (s, i) := s.keep i
      walk rigor title n s (s.dom.elements i ++ rest)

/-- A page sifted. Each element is looked at once, and each paragraph that is made holds a node that
was there before, so that their number bounds the looks. -/
def sift (rigor : Rigor) (title : List Char) (author : Option String) (d : Dom) : Sieve :=
  let start := (d.elements Dom.root).flatMap d.elements
  Sieve.walk rigor title (2 * d.size + 2) { dom := d, author } start

end MainContent.Article
