import MainContent.Html.Dom

/-!
# Writing documents

The markup of a node: tags with their attributes between quotes, and text in which the characters
that markup gives a meaning are written by name. What style sheets and scripts hold is written as it
is, and elements that never hold anything have no end tag.
-/

namespace MainContent.Html

/-- The elements that never hold anything. -/
def voidElements : List String :=
  ["area", "base", "basefont", "bgsound", "br", "col", "embed", "frame", "hr", "img", "input",
    "keygen", "link", "meta", "param", "source", "track", "wbr"]

/-- The elements whose text has no character references. -/
def rawElements : List String :=
  ["iframe", "noembed", "noframes", "plaintext", "script", "style", "xmp"]

/-- A character of text as markup. -/
def writeTextChar (c : Char) : List Char :=
  if c = '&' then "&amp;".toList
  else if c = '\u00A0' then "&nbsp;".toList
  else if c = '<' then "&lt;".toList
  else if c = '>' then "&gt;".toList
  else [c]

/-- A character of an attribute's value as markup. -/
def writeValueChar (c : Char) : List Char :=
  if c = '&' then "&amp;".toList
  else if c = '\u00A0' then "&nbsp;".toList
  else if c = '"' then "&quot;".toList
  else [c]

/-- A text as markup. -/
def writeText (s : String) : String :=
  String.ofList (s.toList.flatMap writeTextChar)

/-- An attribute's value as markup. -/
def writeValue (s : String) : String :=
  String.ofList (s.toList.flatMap writeValueChar)

/-- An attribute as markup, with the blank before it. -/
def writeAttribute (a : Attribute) : String :=
  " " ++ a.name ++ "=\"" ++ writeValue a.value ++ "\""

/-- The tag that begins an element. -/
def writeStart (name : String) (as : List Attribute) : String :=
  "<" ++ name ++ String.join (as.map writeAttribute) ++ ">"

/-- The tag that ends an element. -/
def writeStop (name : String) : String :=
  "</" ++ name ++ ">"

namespace Dom

/-- Whether the text in a node is written without character references. -/
def isRaw (d : Dom) (i : NodeId) : Bool :=
  d.isElement i && d.space i == .html && rawElements.contains (d.name i)

/-- Whether a node is an element that never holds anything. -/
def isVoid (d : Dom) (i : NodeId) : Bool :=
  d.isElement i && d.space i == .html && voidElements.contains (d.name i)

/-- The markup of a node and of what is at most so many levels below it; `raw` tells whether the
node is in an element whose text has no character references. -/
def writeLevels (d : Dom) (raw : Bool) : Nat → NodeId → String
  | 0, _ => ""
  | levels + 1, i =>
    let inside := fun _ : Unit =>
      String.join ((d.children i).toList.map (d.writeLevels (d.isRaw i) levels))
    match d.content i with
    | .root => inside ()
    | .doctype => "<!DOCTYPE html>"
    | .comment s => "<!--" ++ s ++ "-->"
    | .text s => if raw then s else writeText s
    | .element _ name as =>
      if d.isVoid i then writeStart name as
      else writeStart name as ++ inside () ++ writeStop name

/-- The markup of a node and all below it. -/
def write (d : Dom) (i : NodeId) : String :=
  d.writeLevels false (d.size + 1) i

/-- The markup of all that a node holds. -/
def writeInside (d : Dom) (i : NodeId) : String :=
  String.join ((d.children i).toList.map d.write)

end Dom

end MainContent.Html
