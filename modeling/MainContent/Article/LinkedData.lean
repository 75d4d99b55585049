import MainContent.Article.Title
import MainContent.Text.JsonReader

/-!
# Linked data

A page can describe its article in a script of JSON, by the vocabulary of schema.org. The first
script that describes an article tells its title and its author.
-/

namespace MainContent.Article

open Html (Dom NodeId)
open Text (Json)

/-- What a page tells about its article. -/
structure Description where
  /-- The title. -/
  title : Option String := none
  /-- The author. -/
  author : Option String := none
  deriving Repr, Inhabited

/-- The words in the kinds of things that are articles. -/
def articleKinds : List String :=
  ["AdvertiserContentArticle", "NewsArticle", "Report", "SatiricalArticle", "ScholarlyArticle",
    "SocialMediaPosting", "BlogPosting", "DiscussionForumPosting", "TechArticle"]

/-- Whether a kind of thing is a kind of article. -/
def isArticleKind (kind : String) : Bool :=
  "Article".toList.isPrefixOf kind.toList || Text.anyOccursIn articleKinds kind.toList ||
    "APIReference".toList.isSuffixOf kind.toList

/-- Whether a thing is an article. -/
def isArticle (j : Json) : Bool :=
  ((j.member? "@type").bind Json.text?).any isArticleKind

/-- The spellings of the vocabulary's address. -/
def vocabularyAddresses : List String :=
  ["http://schema.org", "http://schema.org/", "https://schema.org", "https://schema.org/"]

/-- Whether a thing is described by the vocabulary of schema.org. -/
def usesVocabulary (j : Json) : Bool :=
  match j.member? "@context" with
  | some (.text address) => vocabularyAddresses.contains address
  | some context =>
    ((context.member? "@vocab").bind Json.text?).any fun address =>
      vocabularyAddresses.contains address
  | none => false

/-- The thing that a list of things is about: its first article. -/
def mainThing? : Json → Option Json
  | .list things => things.find? isArticle
  | j => some j

/-- The article that a thing is, or that is first in its graph. -/
def articleIn? (j : Json) : Option Json :=
  match j.member? "@type", j.member? "@graph" with
  | none, some (.list things) => things.find? isArticle
  | _, _ => if isArticle j then some j else none

/-- The title of an article with a name and a headline: the name, unless only the headline is like
the title of the document. -/
def chosenTitle (documentTitle name headline : String) : String :=
  let like := fun s : String => isSimilar s.toList documentTitle.toList
  if like headline && !like name then headline else name

/-- The title of an article. -/
def articleTitle? (documentTitle : String) (j : Json) : Option String :=
  match (j.member? "name").bind Json.text?, (j.member? "headline").bind Json.text? with
  | some name, some headline =>
    if name == headline then some (trimmed name)
    else some (chosenTitle documentTitle name headline)
  | some name, none => some (trimmed name)
  | none, some headline => some (trimmed headline)
  | none, none => none

/-- The name of a person. -/
def personName? (j : Json) : Option String :=
  ((j.member? "name").bind Json.text?).map trimmed

/-- The author of an article, or its authors. -/
def articleAuthor? (j : Json) : Option String :=
  (j.member? "author").bind fun author =>
    match personName? author with
    | some name => some name
    | none =>
      match author.items with
      | first :: _ =>
        if (personName? first).isSome then
          some (", ".intercalate (author.items.filterMap personName?))
        else none
      | [] => none

/-- The text of a script without the marks that keep it from being read as markup. -/
def withoutMarks (cs : List Char) : List Char :=
  let inner := (Text.dropText? "<![CDATA[".toList (cs.dropWhile Text.isBlank)).getD cs
  match Text.dropText? ">]]".toList (inner.reverse.dropWhile Text.isBlank) with
  | some back => back.reverse
  | none => inner

/-- The article that a script describes. -/
def scriptArticle? (cs : List Char) : Option Json := do
  let thing ← mainThing? (← Json.ofText? (withoutMarks cs))
  if usesVocabulary thing then articleIn? thing else none

/-- The scripts of linked data in a document. -/
def dataScripts (d : Dom) : List NodeId :=
  (d.named Dom.root ["script"]).filter fun i =>
    d.attribute? i "type" == some "application/ld+json"

/-- What the linked data of a document tells about its article. -/
def linkedDescription (d : Dom) : Description :=
  match (dataScripts d).findSome? fun i => scriptArticle? (d.text i).toList with
  | some j => { title := articleTitle? (documentTitle d) j, author := articleAuthor? j }
  | none => {}

end MainContent.Article
