import MainContent.Text.Blank

/-!
# The markup around an article

An extracted article is answered as a heading with its title, when it has one, and a container
with its content. The title is text and is escaped; the content is markup already.
-/

namespace MainContent.Page

/-- The class of the container of an article's content. -/
def contentClass : String := "x-extracted-content"

/-- The class of the heading with an article's title. -/
def titleClass : String := "x-extracted-title"

/-- A character of text as markup. -/
def escapeChar (c : Char) : List Char :=
  if c = '&' then "&amp;".toList
  else if c = '<' then "&lt;".toList
  else if c = '>' then "&gt;".toList
  else if c = '"' then "&quot;".toList
  else if c = '\'' then "&#39;".toList
  else [c]

/-- A text as markup. -/
def escapeText (cs : List Char) : List Char :=
  cs.flatMap escapeChar

/-- The heading line for a title, or nothing when the title is blank. -/
def heading (title : List Char) : List Char :=
  let shown := Text.trim title
  if shown.isEmpty then []
  else
    "<h1 class=\"".toList ++ titleClass.toList ++ "\">".toList ++ escapeText shown ++
      "</h1>\n".toList

/-- The container of an article's content. -/
def container (content : List Char) : List Char :=
  "<div class=\"".toList ++ contentClass.toList ++ "\">\n".toList ++ Text.trim content ++
    "\n</div>".toList

/-- The markup in which an article is answered. -/
def highlight (title content : String) : String :=
  String.ofList (heading title.toList ++ container content.toList)

end MainContent.Page
