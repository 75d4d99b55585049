import MainContent.Article.Label
import MainContent.Html.Dom

/-!
# Images that load late

A page can name its images in attributes of its own, from which a script would load them when they
come into view. Such images get the attributes that show them.
-/

namespace MainContent.Article

open Html (Dom NodeId Attribute)

/-- What follows the ending of an image's file, for each place where one stands in a text. -/
def behindEndings : List Char → List (List Char)
  | [] => []
  | c :: cs =>
    imageEndings.filterMap (fun ending => Text.dropText? ending.toList (c :: cs)) ++
      behindEndings cs

/-- Whether a text lists files of images with their sizes. -/
def listsImages (cs : List Char) : Bool :=
  (behindEndings cs).any fun rest =>
    rest.head?.any Text.isBlank && (rest.dropWhile Text.isBlank).head?.any Text.isDigit

/-- Whether a text is one word that names the file of an image. -/
def namesImage (cs : List Char) : Bool :=
  match Text.words cs with
  | [_ :: word] => !(behindEndings word).isEmpty
  | _ => false

/-- The kind of data and the length of its text, if an address holds data in base 64. -/
def inlineData? (cs : List Char) : Option (List Char × Nat) := do
  let blankless := fun cs : List Char => cs.dropWhile Text.isBlank
  let rest ← Text.dropText? "data:".toList (Text.toLower (cs.take 5) ++ cs.drop 5)
  let rest := blankless rest
  let kind := rest.takeWhile fun c => !Text.isBlank c && c != ';' && c != ','
  if kind.isEmpty then none
  let rest := blankless (← Text.dropText? [';'] (blankless (rest.drop kind.length)))
  let rest ← Text.dropText? "base64".toList (Text.toLower (rest.take 6) ++ rest.drop 6)
  let rest ← Text.dropText? [','] (blankless rest)
  return (kind, rest.length)

/-- From how many characters on inline data are an image of their own. -/
def smallestInline : Nat := 133

/-- Whether an attribute other than the address names the file of an image. -/
def namesFile (a : Attribute) : Bool :=
  a.name != "src" && Text.anyOccursIn imageEndings (Text.toLower a.value.toList)

/-- The page with an image's address left out, if it only holds a place for another image. -/
def withoutInline (d : Dom) (i : NodeId) : Dom :=
  match inlineData? (valueOf d i "src") with
  | some (kind, length) =>
    if (d.attributes i).any namesFile && length < smallestInline && kind != "image/svg+xml".toList
    then d.removeAttributes i ["src"]
    else d
  | none => d

/-- Whether an element is an inline drawing, which is never taken for a place holder. -/
def isDrawing (d : Dom) (i : NodeId) : Bool :=
  (inlineData? (valueOf d i "src")).any fun (kind, _) => kind == "image/svg+xml".toList

/-- Whether an element shows an image already. -/
def isLoaded (d : Dom) (i : NodeId) : Bool :=
  let srcset := valueOf d i "srcset"
  (!(valueOf d i "src").isEmpty || (!srcset.isEmpty && srcset != "null".toList)) &&
    !Text.occursIn "lazy".toList (Text.toLower (valueOf d i "class"))

/-- The attribute that shows the image which a value names. -/
def showingAttribute? (a : Attribute) : Option String :=
  if ["src", "srcset", "alt"].contains a.name then none
  else if listsImages a.value.toList then some "srcset"
  else if namesImage a.value.toList then some "src"
  else none

/-- Shows the image that an attribute names: by the element itself, or by an image in a figure that
has none. -/
def showImage (i : NodeId) (d : Dom) (a : Attribute) : Dom :=
  match showingAttribute? a with
  | none => d
  | some name =>
    if ["img", "picture"].contains (d.name i) then d.setAttribute i name a.value
    else if (d.named i ["img", "picture"]).isEmpty then
      let (d, image) := d.createElement "img" [⟨name, a.value⟩]
      d.append i image
    else d

/-- Shows the image of an element that would load it late. -/
def loadImage (d : Dom) (i : NodeId) : Dom :=
  if isDrawing d i then d
  else
    let d := withoutInline d i
    if isLoaded d i then d else (d.attributes i).foldl (showImage i) d

/-- Shows the images in an element that would be loaded late. -/
def loadImages (d : Dom) (i : NodeId) : Dom :=
  (d.named i ["img", "picture", "figure"]).foldl loadImage d

end MainContent.Article
