import MainContent.Article.DataTable
import MainContent.Article.Image
import MainContent.Article.Preparation
import MainContent.Article.Rigor
import MainContent.Html.Writer

/-!
# Pruning the article

What is left of a page's furniture in the gathered article is taken out: forms, buttons, small
boxes of links, headings that speak against themselves, empty paragraphs. What only says how an
element looks is taken off.
-/

namespace MainContent.Article

open Html (Dom NodeId)

/-- Takes off what only says how an element and those in it look, at most so many levels down.
Drawings are left alone. -/
def plainTo : Nat → Dom → NodeId → Dom
  | 0, d, _ => d
  | levels + 1, d, i =>
    if d.name i == "svg" then d
    else
      let names := if sized.contains (d.name i) then looks ++ ["width", "height"] else looks
      let inner := d.elements i
      inner.foldl (plainTo levels) (d.removeAttributes i names)

/-- Takes off what only says how an element and those in it look. -/
def plain (d : Dom) (i : NodeId) : Dom :=
  plainTo (d.size + 1) d i

/-- Whether a text holds the address of a video. -/
def leadsToVideo (cs : List Char) : Bool :=
  Text.anyOccursIn videoAddresses (Text.toLower cs)

/-- Whether an element shows a video, by its attributes or, for an object, by what it holds. -/
def showsVideo (d : Dom) (i : NodeId) : Bool :=
  (d.attributes i).any (fun a => leadsToVideo a.value.toList) ||
    (d.name i == "object" && leadsToVideo (d.writeInside i).toList)

/-- What an element is judged by when it may be taken out of the article. -/
structure Features where
  /-- What its label counts. -/
  weight : Int
  /-- Whether it is a list, or holds little else than lists. -/
  isList : Bool
  /-- Whether it is close inside a figure. -/
  inFigure : Bool
  /-- The number of paragraphs. -/
  paragraphs : Nat
  /-- The number of images. -/
  images : Nat
  /-- The number of list items. -/
  items : Nat
  /-- The number of fields to fill in. -/
  fields : Nat
  /-- The number of elements that hold content of another kind. -/
  embeds : Nat
  /-- The length of the text. -/
  length : Nat
  /-- The share of links in the text. -/
  links : Rat
  /-- The share of headings in the text. -/
  headings : Rat
  /-- The share of running text in the text. -/
  running : Rat
  deriving Repr, Inhabited

namespace Features

/-- Whether there are many more images than paragraphs. -/
def isGallery (f : Features) : Bool :=
  !f.inFigure && 1 < f.images && 2 * f.paragraphs < f.images

/-- Whether there are many more list items than paragraphs, outside of a list. -/
def isMenu (f : Features) : Bool :=
  !f.isList && f.paragraphs + 100 < f.items

/-- Whether there are many fields to fill in. -/
def isForm (f : Features) : Bool :=
  f.paragraphs / 3 < f.fields

/-- Whether there is little text, and links in it. -/
def isShort (f : Features) : Bool :=
  !f.isList && !f.inFigure && f.headings < 9 / 10 && f.length < 25 &&
    (f.images == 0 || 2 < f.images) && 0 < f.links

/-- Whether there are more links than the label allows. -/
def isLinky (f : Features) : Bool :=
  (!f.isList && f.weight < 25 && 1 / 5 < f.links) || (25 ≤ f.weight && 1 / 2 < f.links)

/-- Whether there is hardly any text beside content of another kind. -/
def isPlayer (f : Features) : Bool :=
  (f.embeds == 1 && f.length < 75) || 1 < f.embeds

/-- Whether there are no images and no running text. -/
def isIdle (f : Features) : Bool :=
  f.images == 0 && f.running == 0

/-- Whether an element with these features looks out of place in an article. -/
def isOdd (f : Features) : Bool :=
  f.isGallery || f.isMenu || f.isForm || f.isShort || f.isLinky || f.isPlayer || f.isIdle

end Features

/-- Whether an element holds little else than lists. -/
def isMostlyLists (d : Dom) (i : NodeId) : Bool :=
  decide (9 / 10 < textDensity d i ["ul", "ol"])

/-- The features of an element that was looked for by its name. -/
def featuresOf (rigor : Rigor) (d : Dom) (i : NodeId) : Features :=
  let count := fun name => (d.named i [name]).length
  { weight := if rigor.weighsLabels then weight d i else 0
    isList := d.name i == "ul" || isMostlyLists d i
    inFigure := isInside d i "figure"
    paragraphs := count "p"
    images := count "img"
    items := count "li"
    fields := count "input"
    embeds := (d.named i embeds).length
    length := lengthIn d i
    links := linkDensity d i
    headings := textDensity d i headings
    running := textDensity d i textish }

/-- Whether an element belongs to a table of data: it is one, is inside one, or holds one. -/
def isWithData (d : Dom) (tables : List NodeId) (i : NodeId) : Bool :=
  tables.contains i || (d.ancestors i).any tables.contains ||
    (d.named i ["table"]).any tables.contains

/-- Whether a text in small letters only announces advertising or content to come. -/
def isAnnouncement (cs : List Char) : Bool :=
  let text := String.ofList cs
  advertisingWords.contains text ||
    loadingWords.any fun word => ellipses.any fun ending => text == word ++ ending

/-- Whether an element is a plain list of images, one in each item. -/
def isImageList (d : Dom) (i : NodeId) (f : Features) : Bool :=
  f.isList && (d.elements i).all (fun j => (d.elements j).length ≤ 1) && f.images == f.items

/-- From how many commas on a text is trusted. -/
def trustedCommas : Nat := 10

/-- Whether an element looks out of place in an article. -/
def isOutOfPlace (rigor : Rigor) (tables : List NodeId) (d : Dom) (i : NodeId) : Bool :=
  let text := textIn d i
  let f := featuresOf rigor d i
  if isWithData d tables i || isInside d i "code" then false
  else if f.weight < 0 then true
  else if trustedCommas ≤ text.count ',' then false
  else if (d.named i embeds).any (showsVideo d) then false
  else if isAnnouncement (Text.toLower text) then true
  else f.isOdd && !isImageList d i f

/-- Takes elements of some names that meet a condition out of an element, the last first, so that
what an element holds is judged before it. -/
def remove (holder : NodeId) (names : List String) (p : Dom → NodeId → Bool) (d : Dom) : Dom :=
  (d.named holder names).reverse.foldl (fun d i => if p d i then d.detach i else d) d

/-- Takes elements of a name that look out of place out of the article. -/
def prune (rigor : Rigor) (tables : List NodeId) (holder : NodeId) (name : String) (d : Dom) :
    Dom :=
  if rigor.prunes then remove holder [name] (isOutOfPlace rigor tables) d else d

/-- How many characters a part with buttons for sharing has less than. -/
def sharingLimit : Nat := 500

/-- Whether an element is a part with buttons for sharing. -/
def isSharing (d : Dom) (i : NodeId) : Bool :=
  namesSharing (label d i) && (d.text i).length < sharingLimit

/-- Takes the parts with buttons for sharing out of the children of the article. -/
def withoutSharing (holder : NodeId) (d : Dom) : Dom :=
  d.detachAll (((d.elements holder).flatMap d.descendants).filter (isSharing d))

/-- Makes second headings of the main headings, which only the title may be. -/
def lowerHeadings (holder : NodeId) (d : Dom) : Dom :=
  (d.named holder ["h1"]).foldl (fun d i => d.rename i "h2") d

/-- Whether a paragraph holds nothing. -/
def isEmptyParagraph (d : Dom) (i : NodeId) : Bool :=
  isBlankIn d i && (d.named i ("img" :: embeds)).isEmpty

/-- Whether a line break only stands before a paragraph. -/
def isBeforeParagraph (d : Dom) (i : NodeId) : Bool :=
  (((d.siblingsAfter i).dropWhile (isBlankText d)).head?).any fun j => d.name j == "p"

/-- The only cell of a table, if it has no other. -/
def onlyCell? (d : Dom) (table : NodeId) : Option NodeId :=
  let rows := (onlyChild? d table "tbody").getD table
  (onlyChild? d rows "tr").bind fun row => onlyChild? d row "td"

/-- Puts the only cell of a table in the table's place, as a paragraph or as a division. -/
def unwrapCell (d : Dom) (table : NodeId) : Dom :=
  match onlyCell? d table with
  | some cell =>
    let name := if (d.children cell).all (isPhrasing d) then "p" else "div"
    (d.rename cell name).replace table cell
  | none => d

/-- Puts the only cells of tables in the tables' places. -/
def unwrapCells (holder : NodeId) (d : Dom) : Dom :=
  (d.named holder ["table"]).foldl unwrapCell d

/-- The article in an element without what does not belong to it. -/
def pruned (rigor : Rigor) (d : Dom) (holder : NodeId) : Dom :=
  let d := plain d holder
  let tables := dataTables d holder
  let d := loadImages d holder
  let d := ["form", "fieldset"].foldl (fun d name => prune rigor tables holder name d) d
  let d := remove holder ["object", "embed"] (fun d i => !showsVideo d i) d
  let d := remove holder ["footer", "link", "aside"] (fun _ _ => true) d
  let d := withoutSharing holder d
  let d := remove holder ["iframe"] (fun d i => !showsVideo d i) d
  let d := remove holder ["input", "textarea", "select", "button"] (fun _ _ => true) d
  let d := remove holder ["h1", "h2"] (fun d i => rigor.weighsLabels && weight d i < 0) d
  let d := ["table", "ul", "div"].foldl (fun d name => prune rigor tables holder name d) d
  let d := lowerHeadings holder d
  let d := remove holder ["p"] isEmptyParagraph d
  let d := d.detachAll ((d.named holder ["br"]).filter (isBeforeParagraph d))
  unwrapCells holder d

end MainContent.Article
