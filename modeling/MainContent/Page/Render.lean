import MainContent.Article.Extract
import MainContent.Failure
import MainContent.Html.Reader
import MainContent.Page.Highlight
import MainContent.Url.Reader

/-!
# Rendering pages

A page is rendered by the article in it, with markup around the article. The address of the page is
handed on as a text, which must be a URL again. A limit on the number of elements keeps large pages
from being searched, and changes nothing else.
-/

namespace MainContent.Page

open Html (Dom)

/-- The number of elements of a document. -/
def elementCount (d : Dom) : Nat :=
  ((d.descendants Dom.root).filter d.isElement).length

/-- Whether a document has more elements than a limit allows; the limit zero allows any number. -/
def exceeds (maxElements : Nat) (d : Dom) : Bool :=
  0 < maxElements && maxElements < elementCount d

/-- The failure of a document with too many elements. -/
def tooManyElements (found maxElements : Nat) : Failure :=
  .extraction ("too many elements in the document to parse (found " ++ Nat.repr found ++
    ", maximum " ++ Nat.repr maxElements ++ ")")

/-- The article of a document; one without text is none. -/
def article (d : Dom) (base : Url) : Except Failure Article :=
  match Article.ofDom? d base with
  | none => .error (.extraction "failed to grab the article")
  | some a =>
    if Text.allBlank a.text.toList then .error (.extraction "no main content found") else .ok a

/-- The failure of a page whose address is no URL when it is read from its text: the cause of that, in
its own words. -/
def unreadableAddress (cause : Url.Error) : Failure :=
  .extraction cause.message

/-- The markup of the article in a page, whose links lead from an address. -/
def render (html : String) (base : Url) (maxElements : Nat) : Except Failure String :=
  match Url.ofText base.shown with
  | .error cause => .error (unreadableAddress cause)
  | .ok _ =>
    let d := Dom.ofText html
    if exceeds maxElements d then .error (tooManyElements (elementCount d) maxElements)
    else (article d base).map fun a => highlight a.title a.content

end MainContent.Page
