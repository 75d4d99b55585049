import MainContent.Article.Shape

/-!
# Preparing a page

What a page holds for programs only is taken out before it is judged, images that stand in for
others are replaced by these, and paragraphs that are only set apart by line breaks become elements.
-/

namespace MainContent.Article

open Html (Dom NodeId Attribute)

/-- Whether an attribute tells where an image is, or holds the name of an image's file. -/
def tellsImage (a : Attribute) : Bool :=
  ["src", "srcset", "data-src", "data-srcset"].contains a.name ||
    Text.anyOccursIn imageEndings (Text.toLower a.value.toList)

/-- The page without images of which nothing tells where they are. -/
def withoutPlaceholders (d : Dom) : Dom :=
  d.detachAll ((d.named Dom.root ["img"]).filter fun i => !(d.attributes i).any tellsImage)

/-- The image that is all there is in an element, looking at most so many levels down. -/
def imageTo? (d : Dom) : Nat → NodeId → Option NodeId
  | 0, _ => none
  | levels + 1, i =>
    if d.name i == "img" then some i
    else
      match d.elements i with
      | [j] => if isBlankIn d i then imageTo? d levels j else none
      | _ => none

/-- The image that is all there is in an element. -/
def image? (d : Dom) (i : NodeId) : Option NodeId :=
  imageTo? d (d.size + 1) i

/-- Whether an attribute of an image is kept when another image takes its place. -/
def isKeptOf (a : Attribute) : Bool :=
  !a.value.isEmpty && (a.name == "src" || a.name == "srcset" ||
    Text.anyOccursIn imageEndings (Text.toLower a.value.toList))

/-- Gives an image an attribute of the image whose place it takes, under another name if it has one
of that name. -/
def inherit (d : Dom) (image : NodeId) (a : Attribute) : Dom :=
  match d.attribute? image a.name with
  | some value =>
    if value == a.value then d else d.setAttribute image ("data-old-" ++ a.name) a.value
  | none => d.setAttribute image a.name a.value

/-- The page with the image of a `noscript` element in the place of the one that stands before it,
if there is one. -/
def withImageOf (d : Dom) (noscript : NodeId) : Dom :=
  let before? := (d.siblingsBefore noscript).find? d.isElement
  match image? d noscript, d.elements noscript, before? with
  | some new, holder :: _, some before =>
    match image? d before with
    | some old =>
      (((d.attributes old).filter isKeptOf).foldl (fun d a => inherit d new a) d).replace before
        holder
    | none => d
  | _, _, _ => d

/-- The page with the images of its `noscript` elements in the place of those that stand in for
them. -/
def withImages (d : Dom) : Dom :=
  (d.named Dom.root ["noscript"]).foldl withImageOf d

/-- Whether a node is for programs only. -/
def isForPrograms (d : Dom) (i : NodeId) : Bool :=
  match d.content i with
  | .comment _ => true
  | .element _ name _ => ["script", "noscript", "style"].contains name
  | _ => false

/-- The page without comments, scripts and styles. -/
def withoutPrograms (d : Dom) : Dom :=
  d.detachAll ((d.descendants Dom.root).filter (isForPrograms d))

/-- Whether a node is blank text. -/
def isBlankText (d : Dom) (i : NodeId) : Bool :=
  (d.text? i).any fun s => Text.allBlank s.toList

/-- Whether nodes begin with a line break, behind blank text or without it. -/
def beginsWithBreak (d : Dom) (is : List NodeId) : Bool :=
  (is.dropWhile (isBlankText d)).head?.any fun i => d.name i == "br"

/-- The line breaks at the beginning of nodes, with nothing but blanks between them. -/
def leadingBreaks (d : Dom) (is : List NodeId) : List NodeId :=
  (is.takeWhile fun i => isBlankText d i || d.name i == "br").filter fun i => d.name i == "br"

/-- The nodes up to the next two line breaks or the next block. -/
def lineOf (d : Dom) : List NodeId → List NodeId
  | [] => []
  | i :: is =>
    if (d.name i == "br" && beginsWithBreak d is) || !isPhrasing d i then []
    else i :: lineOf d is

/-- Removes the gaps at the end of an element. -/
def trimEnd (d : Dom) (i : NodeId) : Dom :=
  d.detachAll ((d.children i).toList.reverse.takeWhile (isGap d))

/-- Makes a paragraph of what follows a line break with further ones behind it. -/
def splitAt (d : Dom) (i : NodeId) : Dom :=
  match leadingBreaks d (d.siblingsAfter i), d.parent? i with
  | b :: bs, some parent =>
    let (d, p) := (d.detachAll (b :: bs)).createElement "p" []
    let d := d.replace i p
    let d := trimEnd (d.appendAll p (lineOf d (d.siblingsAfter p))) p
    if d.name parent == "p" then d.rename parent "div" else d
  | _, _ => d

/-- The first body of a page. -/
def body? (d : Dom) : Option NodeId :=
  (d.named Dom.root ["body"]).head?

/-- The page with paragraphs instead of two or more line breaks. -/
def withParagraphs (d : Dom) : Dom :=
  match body? d with
  | some body => (d.named body ["br"]).foldl splitAt d
  | none => d

/-- The page without the elements that only choose a font. -/
def withoutFonts (d : Dom) : Dom :=
  (d.named Dom.root ["font"]).foldl (fun d i => (d.rename i "span").setAttributes i []) d

/-- The page with its images in their places. -/
def withPlainImages (d : Dom) : Dom :=
  withImages (withoutPlaceholders d)

/-- The page in the form in which its parts are judged. -/
def prepared (d : Dom) : Dom :=
  withoutFonts (withParagraphs (withoutPrograms (withPlainImages d)))

end MainContent.Article
