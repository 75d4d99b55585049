import MainContent.Article.Finish
import MainContent.Article.Gather
import MainContent.Article.Link
import MainContent.Article.Metadata
import MainContent.Article.Pruning
import MainContent.Article.Sieve

/-!
# Extracting the article of a page

The article of a page is what is left when all else is taken out. A page that yields too little text
is judged again with fewer rules. If no way of judging yields enough, the longest article that was
found counts.
-/

namespace MainContent

open Html (Dom NodeId)

/-- The article of a page. -/
structure Article where
  /-- The title, empty if the page has none. -/
  title : String
  /-- The markup of the content. -/
  content : String
  /-- The text of the content. -/
  text : String
  deriving Repr, Inhabited

namespace Article

/-- An article that was found in a page. -/
structure Draft where
  /-- The page, from which the article was taken out. -/
  dom : Dom
  /-- The element that holds the article. -/
  holder : NodeId
  deriving Inhabited

/-- The length of the text of an article. -/
def Draft.length (f : Draft) : Nat :=
  lengthIn f.dom f.holder

/-- The gathered article in the element that holds it when it is finished. -/
def draftOf (d : Dom) (g : Gathering) : Draft :=
  match g.whole, d.elements g.holder with
  | true, all :: _ => { dom := asPage d all, holder := g.holder }
  | true, [] => { dom := d, holder := g.holder }
  | false, _ =>
    let (d, page) := d.createElement "div" []
    let d := d.moveChildren g.holder page
    { dom := (asPage d page).append g.holder page, holder := g.holder }

/-- The article that one way of judging a page finds, if any, and the author, if known by then. -/
def attempt (rigor : Rigor) (m : Metadata) (d : Dom) : Option Draft × Option String :=
  let s := sift rigor m.title.toList m.author d
  let g? := gather? rigor s.dom s.found.reverse
  (g?.map fun g => draftOf (pruned rigor g.dom g.holder) g, s.author)

/-- The fewest characters of an article that is long enough. -/
def enoughText : Nat := 500

/-- The longer of two articles, the first if they are equally long. -/
def longer (a b : Draft) : Draft :=
  if a.length < b.length then b else a

/-- The article that some ways of judging a page find, given the longest one that others found. -/
def search (d : Dom) : List Rigor → Metadata → Option Draft → Option Draft
  | [], _, longest => longest.filter fun f => 0 < f.length
  | rigor :: rest, m, longest =>
    match attempt rigor m d with
    | (some f, author) =>
      if enoughText ≤ f.length then some f
      else search d rest { m with author } (some (longest.elim f (longer · f)))
    | (none, author) => search d rest { m with author } longest

/-- The finished article. -/
def finished (b : Base) (title : String) (f : Draft) : Article :=
  let d := withoutClasses (simplify (resolveLinks b f.dom f.holder) f.holder) f.holder
  { title, content := d.writeInside f.holder, text := d.text f.holder }

/-- The article of a page, with links resolved from the page's address. -/
def ofDom? (d : Dom) (page : Url) : Option Article :=
  let linked := linkedDescription d
  let d := prepared d
  let m := metadata d linked
  (search d Rigor.inTurn m none).map (finished (Base.ofDom d page) m.title)

end Article

end MainContent
