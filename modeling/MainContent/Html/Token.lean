import MainContent.Html.Dom

/-!
# Pieces of markup

The pieces that the text of a document consists of.
-/

namespace MainContent.Html

/-- The declaration of a document's type. -/
structure Doctype where
  /-- The name of the type. -/
  name : Option String := none
  /-- The public identifier. -/
  publicId : Option String := none
  /-- The system identifier. -/
  systemId : Option String := none
  /-- Whether the declaration is malformed in a way that calls for the old rules. -/
  malformed : Bool := false
  deriving DecidableEq, Repr, Inhabited

/-- A tag that begins an element. -/
structure Tag where
  /-- The name of the element. -/
  name : String
  /-- The attributes in order, each name once. -/
  attributes : List Attribute := []
  /-- Whether the tag ends with a slash. -/
  selfClosing : Bool := false
  deriving DecidableEq, Repr, Inhabited

/-- The value of an attribute of a tag. -/
def Tag.attribute? (t : Tag) (name : String) : Option String :=
  (t.attributes.find? (·.name == name)).map (·.value)

/-- A piece of markup. -/
inductive Token where
  /-- The declaration of the document's type. -/
  | doctype (d : Doctype)
  /-- The beginning of an element. -/
  | start (t : Tag)
  /-- The end of an element. -/
  | stop (name : String)
  /-- A comment. -/
  | comment (text : String)
  /-- Text in which all characters are blanks, or none. -/
  | text (text : String) (blank : Bool)
  /-- The character with the number zero. -/
  | null
  /-- The end of the document. -/
  | finish
  deriving DecidableEq, Repr, Inhabited

/-- How text is read: with tags and references, or up to the end of an element of a name. -/
inductive TextModel where
  /-- Text with tags and references. -/
  | data
  /-- Text with references, up to the end of the element. -/
  | plain (name : String)
  /-- Text without references, up to the end of the element. -/
  | raw (name : String)
  /-- The text of a script. -/
  | script
  /-- Text without references, up to the end of the document. -/
  | rest
  deriving DecidableEq, Repr, Inhabited

end MainContent.Html
