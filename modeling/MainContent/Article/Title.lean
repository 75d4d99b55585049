import MainContent.Article.Measure

/-!
# The title of a page

The title that a document's head gives often names the site as well. What stands behind or before
a sign between blanks is taken for the site and left out, unless too little would remain.
-/

namespace MainContent.Article

open Html (Dom NodeId)

/-- The signs that divide a title. -/
def dividers : List Char := ['|', '-', '\\', '/', '>', '»']

/-- The dividers that lead from the whole to a part. -/
def pathDividers : List Char := ['\\', '/', '>', '»']

/-- The number of words of a text. -/
def wordCount (cs : List Char) : Nat :=
  (Text.words cs).length

/-- What stands before the first place where one of some signs stands between two spaces. -/
def beforeSpaced? (signs : List Char) : List Char → Option (List Char)
  | [] => none
  | c :: cs =>
    match c, cs with
    | ' ', s :: ' ' :: _ =>
      if signs.contains s then some [] else (beforeSpaced? signs cs).map (c :: ·)
    | _, _ => (beforeSpaced? signs cs).map (c :: ·)

/-- What stands before the last place where a divider stands between two spaces. -/
def beforeLastDivider? (title : List Char) : Option (List Char) :=
  let back := title.reverse
  (beforeSpaced? dividers back).map fun behind => (back.drop (behind.length + 3)).reverse

/-- What stands behind the first divider. -/
def behindFirstDivider (title : List Char) : List Char :=
  (title.dropWhile (!dividers.contains ·)).drop 1

/-- What stands behind the last of some sign, or all where there is none. -/
def behindLast (sign : Char) (cs : List Char) : List Char :=
  (cs.reverse.takeWhile (· ≠ sign)).reverse

/-- The part of a title with a divider that names the page. -/
def withoutSite (title front : List Char) : List Char :=
  if wordCount front < 3 then behindFirstDivider title else front

/-- The part of a title with a colon that names the page. -/
def withoutTopic (title : List Char) : List Char :=
  let behind := behindLast ':' title
  if wordCount behind < 3 then (title.dropWhile (· ≠ ':')).drop 1
  else if 5 < wordCount (title.takeWhile (· ≠ ':')) then title
  else behind

/-- The fewest characters of a title that is trusted. -/
def shortestTitle : Nat := 15

/-- The most characters of a title that is trusted. -/
def longestTitle : Nat := 150

/-- The text of the only main heading, or else a title that is too short or too long. -/
def headingOr (d : Dom) (title : List Char) : List Char :=
  match d.named Dom.root ["h1"] with
  | [h] => textIn d h
  | _ => title

/-- Whether the page has a heading that is the whole title. -/
def hasHeading (d : Dom) (title : List Char) : Bool :=
  (d.named Dom.root ["h1", "h2"]).any fun h => Text.trim (d.text h).toList == title

/-- The part of a title that is likely to name the page. -/
def shortened (d : Dom) (title : List Char) : List Char :=
  match beforeLastDivider? title with
  | some front => withoutSite title front
  | none =>
    if Text.occursIn ": ".toList title then
      if hasHeading d title then title else withoutTopic title
    else if title.length < shortestTitle || longestTitle < title.length then headingOr d title
    else title

/-- Whether the whole title is better than a part of it with few words: unless the title is a path,
of which one name was left out. -/
def keepsWhole (title part : List Char) : Bool :=
  wordCount part ≤ 4 &&
    ((beforeSpaced? pathDividers title).isNone ||
      wordCount part + 1 != wordCount (title.filter (!dividers.contains ·)))

/-- The name of a page by the title of its document. -/
def ofTitle (d : Dom) (title : List Char) : List Char :=
  let whole := Text.trim title
  let part := Text.squeeze (shortened d whole)
  if keepsWhole whole part then whole else part

/-- The element with the title of a document. -/
def titleElement? (d : Dom) : Option NodeId :=
  (d.named Dom.root ["head"]).findSome? fun head =>
    (d.elements head).find? fun i => d.name i == "title"

/-- The name of a page by its document, empty if the document has no title. -/
def documentTitle (d : Dom) : String :=
  match titleElement? d with
  | some i => String.ofList (ofTitle d (d.text i).toList)
  | none => ""

end MainContent.Article
