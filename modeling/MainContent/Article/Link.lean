import MainContent.Article.Label
import MainContent.Url.Reader

/-!
# Links of the article

Links and images are resolved against the address of the page, or against the base that the page
names, so that the article can be shown elsewhere. Links that would run a script are links no more.
-/

namespace MainContent.Article

open Html (Dom NodeId)

/-- Where the links of a page lead from. -/
structure Base where
  /-- The address of the page. -/
  page : Url
  /-- The address that links are resolved against. -/
  url : Url

namespace Base

/-- The base of a page: the first one that the page names, seen from the page's own address. -/
def ofDom (d : Dom) (page : Url) : Base :=
  let named := (d.named Dom.root ["base"]).findSome? fun i => d.attribute? i "href"
  match named.map page.join with
  | some (.ok url) => { page, url }
  | _ => { page, url := page }

/-- An address resolved. One that leads to a place in the page stays as it is if the page names no
other base, and so does one that cannot be read. -/
def resolve (b : Base) (address : String) : String :=
  if address.toList.head? == some '#' && b.url == b.page then address
  else
    match b.url.join address with
    | .ok u => u.shown
    | .error _ => address

end Base

/-- How a script is written as an address. -/
def scriptMark : String := "javascript:"

/-- Puts the text of a link in the link's place, or an element without a meaning if the link holds
more than text. -/
def unlink (d : Dom) (i : NodeId) : Dom :=
  match (d.children i).toList with
  | [j] => if (d.text? j).isSome then d.replace i j else spanned
  | _ => spanned
where
  /-- The page with an element without a meaning in the place of the link. -/
  spanned : Dom :=
    let (d, span) := d.createElement "span" []
    (d.moveChildren i span).replace i span

/-- Resolves a link. -/
def resolveLink (b : Base) (d : Dom) (i : NodeId) : Dom :=
  match d.attribute? i "href" with
  | some href =>
    if scriptMark.toList.isPrefixOf href.toList then unlink d i
    else d.setAttribute i "href" (b.resolve href)
  | none => d

/-- What follows a size in a list of images, and the size. -/
def imageSize? (cs : List Char) : Option (List Char × List Char) :=
  let blanks := cs.takeWhile Text.isBlank
  let rest := cs.drop blanks.length
  let digits := rest.takeWhile fun c => Text.isDigit c || c == '.'
  match rest.drop digits.length with
  | unit :: rest =>
    if !blanks.isEmpty && !digits.isEmpty && (unit == 'x' || unit == 'w') then
      some (blanks ++ digits ++ [unit], rest)
    else none
  | [] => none

/-- The end of an entry in a list of images, and what follows it. -/
def entryEnd? (cs : List Char) : Option (List Char × List Char) :=
  let blanks := cs.takeWhile Text.isBlank
  match cs.drop blanks.length with
  | ',' :: rest => some (blanks ++ [','], rest)
  | [] => some (blanks, [])
  | _ :: _ => none

/-- What stands behind the address in an entry of a list of images: its size, if it has one, and its
end. -/
def afterAddress? (cs : List Char) : Option (List Char × List Char) :=
  let sized := do
    let (size, rest) ← imageSize? cs
    let (ending, rest) ← entryEnd? rest
    return (size ++ ending, rest)
  sized.orElse fun _ => entryEnd? cs

/-- The entry that a list of images begins with: its address, which has at most so many characters,
what stands behind the address, and the rest of the list. -/
def imageAt? (cs : List Char) : Nat → Option (List Char × List Char × List Char)
  | 0 => none
  | n + 1 =>
    match afterAddress? (cs.drop (n + 1)) with
    | some (behind, rest) => some (cs.take (n + 1), behind, rest)
    | none => imageAt? cs n

/-- A list of images with their addresses resolved, of at most so many characters. -/
def resolveEntries (b : Base) : Nat → List Char → List Char
  | 0, cs => cs
  | _, [] => []
  | n + 1, c :: cs =>
    match imageAt? (c :: cs) ((c :: cs).takeWhile (!Text.isBlank ·)).length with
    | some (address, behind, rest) =>
      (b.resolve (String.ofList address)).toList ++ behind ++ resolveEntries b n rest
    | none => c :: resolveEntries b n cs

/-- Resolves the value of an attribute, if an element has it. -/
def resolveValue (i : NodeId) (name : String) (f : String → String) (d : Dom) : Dom :=
  match d.attribute? i name with
  | some value => d.setAttribute i name (f value)
  | none => d

/-- Resolves the addresses of images and recordings of an element. -/
def resolveMedia (b : Base) (d : Dom) (i : NodeId) : Dom :=
  let list := fun s : String => String.ofList (resolveEntries b s.toList.length s.toList)
  let d := resolveValue i "src" b.resolve d
  let d := resolveValue i "poster" b.resolve d
  resolveValue i "srcset" list d

/-- The elements that show images and recordings. -/
def media : List String := ["img", "picture", "figure", "video", "audio", "source"]

/-- Resolves all links and images in an element. -/
def resolveLinks (b : Base) (d : Dom) (i : NodeId) : Dom :=
  let d := (d.named i ["a"]).foldl (resolveLink b) d
  (d.named i media).foldl (resolveMedia b) d

end MainContent.Article
