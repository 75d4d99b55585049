import MainContent.Article.Label
import MainContent.Article.LinkedData
import MainContent.Html.Reference
import MainContent.Url.Reader

/-!
# What a page tells about its article

The title and the author of an article come from linked data, or from the `meta` elements of the
page, or, for the title, from the document.
-/

namespace MainContent.Article

open Html (Dom NodeId)

/-- The vocabularies of properties. -/
def propertySpaces : List String := ["article", "dc", "dcterm", "og", "twitter"]

/-- The names of properties in a vocabulary. -/
def propertyNames : List String :=
  ["author", "creator", "description", "published_time", "title", "site_name"]

/-- The vocabularies of names. -/
def nameSpaces : List String :=
  ["dc", "dcterm", "og", "twitter", "parsely", "weibo:article", "weibo:webpage"]

/-- The names that a `meta` element can have, in a vocabulary or alone. -/
def metaNames : List String :=
  ["author", "creator", "pub-date", "description", "title", "site_name"]

/-- The ways to begin with one of some words: the word and what follows it. -/
def beginnings (ws : List String) (cs : List Char) : List (String × List Char) :=
  ws.filterMap fun w => (Text.dropText? w.toList cs).map (w, ·)

/-- A text without the blanks at its beginning. -/
def unindented (cs : List Char) : List Char :=
  cs.dropWhile Text.isBlank

/-- The property that a text in small letters begins with. -/
def propertyHere? (cs : List Char) : Option String :=
  (beginnings propertySpaces cs).findSome? fun (space, rest) =>
    match unindented rest with
    | ':' :: rest =>
      ((beginnings propertyNames (unindented rest)).head?).map fun (name, _) => space ++ ":" ++ name
    | _ => none

/-- The first property in a text in small letters. -/
def propertyIn? : List Char → Option String
  | [] => none
  | c :: cs => (propertyHere? (c :: cs)).orElse fun _ => propertyIn? cs

/-- The name that a text in small letters consists of. -/
def bareName? (cs : List Char) : Option String :=
  let name := String.ofList (Text.trim cs)
  if metaNames.contains name then some name else none

/-- The key of a name in a vocabulary; a point counts as a colon. -/
def spacedName? (cs : List Char) : Option String :=
  (beginnings nameSpaces (unindented cs)).findSome? fun (space, rest) =>
    match unindented rest with
    | sign :: rest =>
      if sign = ':' ∨ sign = '.' then (bareName? rest).map fun name => space ++ ":" ++ name
      else if sign = '-' then (bareName? rest).map fun name => space ++ "-" ++ name
      else none
    | [] => none

/-- The key under which a `meta` element tells something. -/
def metaKey? (d : Dom) (i : NodeId) : Option String :=
  match propertyIn? (Text.toLower (valueOf d i "property")) with
  | some key => some key
  | none =>
    let name := Text.toLower (valueOf d i "name")
    (spacedName? name).orElse fun _ => bareName? name

/-- What a `meta` element tells: a key and its value. -/
def metaFact? (d : Dom) (i : NodeId) : Option (String × String) :=
  match d.attribute? i "content" with
  | some content => if content.isEmpty then none else (metaKey? d i).map (·, trimmed content)
  | none => none

/-- What the `meta` elements of a document tell, the last first. -/
def metaFacts (d : Dom) : List (String × String) :=
  ((d.named Dom.root ["meta"]).filterMap (metaFact? d)).reverse

/-- A value that is not empty, of the first of some keys that has one. -/
def told? (entries : List (String × String)) (keys : List String) : Option String :=
  keys.findSome? fun key =>
    (entries.find? (·.1 == key)).bind fun (_, value) => if value.isEmpty then none else some value

/-- The keys of titles, the most trusted first. -/
def titleKeys : List String :=
  ["dc:title", "dcterm:title", "og:title", "weibo:article:title", "weibo:webpage:title", "title",
    "twitter:title", "parsely-title"]

/-- The keys of authors, the most trusted first. -/
def authorKeys : List String := ["dc:creator", "dcterm:creator", "author", "parsely-author"]

/-- Whether a text has the form of an address. -/
def isAddress (s : String) : Bool :=
  match Url.ofText s with
  | .ok _ => true
  | .error _ => false

/-- The author that a document's `meta` elements tell; the address of an author's page is none. -/
def metaAuthor? (entries : List (String × String)) : Option String :=
  (told? entries authorKeys).orElse fun _ =>
    (told? entries ["article:author"]).bind fun author =>
      if isAddress author then none else some author

/-- A value that is not empty. -/
def filled? (value : Option String) : Option String :=
  value.bind fun s => if s.isEmpty then none else some s

/-- The title and the author of an article. -/
structure Metadata where
  /-- The title, empty if it has none. -/
  title : String
  /-- The author, if it is known. -/
  author : Option String
  deriving Repr, Inhabited

/-- What a document tells about its article, given what its linked data tell. -/
def metadata (d : Dom) (linked : Description) : Metadata :=
  let entries := metaFacts d
  let title := (filled? linked.title).orElse fun _ => told? entries titleKeys
  { title := String.ofList (Html.Reference.resolve (title.getD (documentTitle d)).toList),
    author := (filled? linked.author).orElse fun _ => metaAuthor? entries }

end MainContent.Article
