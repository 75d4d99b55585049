import MainContent.Html.Reference
import MainContent.Html.Token
import MainContent.Text.Blank

/-!
# Reading pieces of markup

The text of a document is read piece by piece. What a piece is depends on the kind of text that the
element around it holds, so each reading is told that kind. Every text can be read: what is
malformed becomes text or a comment, or is left out.
-/

namespace MainContent.Html.Lexer

open MainContent.Text (isAsciiBlank isLetter lowerAscii)

/-- A text with one kind of line break. The characters read so far come in reverse. -/
def withLineFeeds (done : List Char) : List Char → List Char
  | '\r' :: '\n' :: rest => withLineFeeds ('\n' :: done) rest
  | '\r' :: rest => withLineFeeds ('\n' :: done) rest
  | c :: rest => withLineFeeds (c :: done) rest
  | [] => done.reverse

/-- The text of a document with one kind of line break, and without the mark at its beginning. -/
def normalize (cs : List Char) : List Char :=
  match cs with
  | '\uFEFF' :: rest => withLineFeeds [] rest
  | _ => withLineFeeds [] cs

/-- What stands for a character where the number zero is not allowed. -/
def visible (c : Char) : Char :=
  if c = '\x00' then '\uFFFD' else c

/-- A piece that has been read, if it amounts to one, and what follows it. -/
abbrev Step := Option Token × List Char

/-- The value of an attribute up to the quote that ends it, and what follows; `none` when the
document ends before. The characters read so far come in reverse. The steps are bounded by the first
list, which is at least as long as the text. -/
def readQuoted (quote : Char) :
    List Char → List Char → List Char → Option (List Char × List Char)
  | [], _, _ => none
  | _, _, [] => none
  | _ :: bound, done, c :: cs =>
    if c = quote then some (done.reverse, cs)
    else if c = '&' then
      let (chars, rest) := Reference.read true cs
      readQuoted quote bound (chars.reverse ++ done) rest
    else readQuoted quote bound (visible c :: done) cs

/-- The value of an attribute without quotes, and what follows; `none` when the document ends
before. The characters read so far come in reverse. The steps are bounded by the first list, which
is at least as long as the text. -/
def readBare : List Char → List Char → List Char → Option (List Char × List Char)
  | [], _, _ => none
  | _, _, [] => none
  | _ :: bound, done, c :: cs =>
    if isAsciiBlank c || c == '>' then some (done.reverse, c :: cs)
    else if c = '&' then
      let (chars, rest) := Reference.read true cs
      readBare bound (chars.reverse ++ done) rest
    else readBare bound (visible c :: done) cs

/-- The value behind the equals sign of an attribute, and what follows. -/
def readValue (cs : List Char) : Option (List Char × List Char) :=
  match cs.dropWhile isAsciiBlank with
  | '"' :: rest => readQuoted '"' rest [] rest
  | '\'' :: rest => readQuoted '\'' rest [] rest
  | '>' :: rest => some ([], '>' :: rest)
  | rest => readBare rest [] rest

/-- A character of an attribute's name behind its first one. -/
def inAttributeName (c : Char) : Bool :=
  !isAsciiBlank c && c != '/' && c != '>' && c != '='

/-- Attributes with one more, unless its name is there already. -/
def addAttribute (as : List Attribute) (name value : List Char) : List Attribute :=
  let name := String.ofList name
  if as.any (·.name == name) then as else as ++ [⟨name, String.ofList value⟩]

/-- The attributes up to the end of a tag, whether it ends with a slash, and what follows it;
`none` when the document ends before. The steps are bounded by the first list, which is at least as
long as the text. -/
def readAttributes : List Char → List Attribute → List Char →
    Option (List Attribute × Bool × List Char)
  | [], _, _ => none
  | _ :: bound, as, cs =>
    match cs.dropWhile isAsciiBlank with
    | [] => none
    | '>' :: rest => some (as, false, rest)
    | '/' :: '>' :: rest => some (as, true, rest)
    | '/' :: rest => readAttributes bound as rest
    | c :: rest =>
      let name := (c :: rest.takeWhile inAttributeName).map fun c => visible (lowerAscii c)
      let behind := rest.dropWhile inAttributeName
      match behind.dropWhile isAsciiBlank with
      | '=' :: value =>
        match readValue value with
        | none => none
        | some (value, rest) => readAttributes bound (addAttribute as name value) rest
      | _ => readAttributes bound (addAttribute as name []) behind

/-- A character of a tag's name. -/
def inTagName (c : Char) : Bool :=
  !isAsciiBlank c && c != '/' && c != '>'

/-- Reads a tag from the first letter of its name on. -/
def readTag (closing : Bool) (cs : List Char) : Step :=
  let name := String.ofList ((cs.takeWhile inTagName).map fun c => visible (lowerAscii c))
  let rest := cs.dropWhile inTagName
  match readAttributes rest [] rest with
  | none => (none, [])
  | some (as, slash, rest) =>
    if closing then (some (.stop name), rest) else (some (.start ⟨name, as, slash⟩), rest)

/-- How much of the end of a comment has been seen. -/
inductive CommentPlace where
  /-- Nothing has been read yet. -/
  | beginning
  /-- One hyphen and nothing else has been read. -/
  | beginningDash
  /-- Within the comment. -/
  | inside
  /-- Behind one hyphen. -/
  | dash
  /-- Behind two hyphens. -/
  | dashes
  /-- Behind two hyphens and an exclamation mark. -/
  | bang

/-- Reads a comment: its text, and what follows it. The characters read so far come in reverse. -/
def readComment (done : List Char) : CommentPlace → List Char → List Char × List Char
  | _, [] => (done.reverse, [])
  | .beginning, c :: cs =>
    if c = '-' then readComment done .beginningDash cs
    else if c = '>' then (done.reverse, cs)
    else readComment (visible c :: done) .inside cs
  | .beginningDash, c :: cs =>
    if c = '-' then readComment done .dashes cs
    else if c = '>' then (done.reverse, cs)
    else readComment (visible c :: '-' :: done) .inside cs
  | .inside, c :: cs =>
    if c = '-' then readComment done .dash cs else readComment (visible c :: done) .inside cs
  | .dash, c :: cs =>
    if c = '-' then readComment done .dashes cs
    else readComment (visible c :: '-' :: done) .inside cs
  | .dashes, c :: cs =>
    if c = '>' then (done.reverse, cs)
    else if c = '!' then readComment done .bang cs
    else if c = '-' then readComment ('-' :: done) .dashes cs
    else readComment (visible c :: '-' :: '-' :: done) .inside cs
  | .bang, c :: cs =>
    if c = '>' then (done.reverse, cs)
    else if c = '-' then readComment ('!' :: '-' :: '-' :: done) .dash cs
    else readComment (visible c :: '!' :: '-' :: '-' :: done) .inside cs

/-- Reads what is treated as a comment up to the end of a tag. -/
def readFalseComment (cs : List Char) : Step :=
  (some (.comment (String.ofList ((cs.takeWhile (· ≠ '>')).map visible))),
    (cs.dropWhile (· ≠ '>')).drop 1)

/-- What follows a word in small letters that a text begins with, in any case. -/
def afterWord? (word : List Char) (cs : List Char) : Option (List Char) :=
  if (cs.take word.length).map lowerAscii == word then some (cs.drop word.length) else none

/-- The declaration that ends with the next end of a tag, and what follows it; when the document
ends before, the declaration is malformed. -/
def endDoctype (d : Doctype) (cs : List Char) : Doctype × List Char :=
  match cs.dropWhile (· ≠ '>') with
  | _ :: rest => (d, rest)
  | [] => ({ d with malformed := true }, [])

/-- An identifier between quotes, with what follows it. -/
inductive Identifier where
  /-- It has been read. -/
  | complete (text : String) (rest : List Char)
  /-- It is not finished before the end of the tag or of the document. -/
  | broken (text : String) (rest : List Char)
  /-- There is none. -/
  | absent

/-- Reads an identifier of a declaration. -/
def readIdentifier (cs : List Char) : Identifier :=
  match cs with
  | q :: rest =>
    if q = '"' ∨ q = '\'' then
      let inside (c : Char) : Bool := c != q && c != '>'
      let text := String.ofList ((rest.takeWhile inside).map visible)
      match rest.dropWhile inside with
      | c :: rest => if c = q then .complete text rest else .broken text rest
      | [] => .broken text []
    else .absent
  | [] => .absent

/-- Reads what follows the place of the system identifier's quotes. -/
def readSystem (d : Doctype) (needed : Bool) (cs : List Char) : Doctype × List Char :=
  let cs := cs.dropWhile isAsciiBlank
  match readIdentifier cs with
  | .complete text rest =>
    let d := { d with systemId := some text }
    match rest.dropWhile isAsciiBlank with
    | [] => ({ d with malformed := true }, [])
    | '>' :: rest => (d, rest)
    | rest => ((endDoctype d rest).1, (endDoctype d rest).2)
  | .broken text rest => ({ d with systemId := some text, malformed := true }, rest)
  | .absent =>
    match cs with
    | '>' :: rest => ({ d with malformed := d.malformed || needed }, rest)
    | _ => endDoctype { d with malformed := true } cs

/-- Reads what follows the word before the public identifier. -/
def readPublic (d : Doctype) (cs : List Char) : Doctype × List Char :=
  let cs := cs.dropWhile isAsciiBlank
  match readIdentifier cs with
  | .complete text rest => readSystem { d with publicId := some text } false rest
  | .broken text rest => ({ d with publicId := some text, malformed := true }, rest)
  | .absent =>
    match cs with
    | '>' :: rest => ({ d with malformed := true }, rest)
    | _ => endDoctype { d with malformed := true } cs

/-- Reads the declaration of a document's type behind its first word. -/
def readDoctype (cs : List Char) : Doctype × List Char :=
  match cs.dropWhile isAsciiBlank with
  | [] => ({ malformed := true }, [])
  | '>' :: rest => ({ malformed := true }, rest)
  | cs =>
    let inside (c : Char) : Bool := !isAsciiBlank c && c != '>'
    let name := String.ofList ((cs.takeWhile inside).map fun c => visible (lowerAscii c))
    let d : Doctype := { name := some name }
    match (cs.dropWhile inside).dropWhile isAsciiBlank with
    | [] => ({ d with malformed := true }, [])
    | '>' :: rest => (d, rest)
    | rest =>
      match afterWord? "public".toList rest, afterWord? "system".toList rest with
      | some rest, _ => readPublic d rest
      | none, some rest => readSystem d true rest
      | none, none => endDoctype { d with malformed := true } rest

/-- The characters up to the end of a literal section, and what follows it. The characters read so
far come in reverse. -/
def readSection (done : List Char) : List Char → List Char × List Char
  | ']' :: ']' :: '>' :: rest => (done.reverse, rest)
  | c :: cs => readSection (c :: done) cs
  | [] => (done.reverse, [])

/-- Reads what follows `<!`. A literal section is known only outside of the HTML vocabulary. -/
def readDeclaration (foreign : Bool) (cs : List Char) : Step :=
  match cs with
  | '-' :: '-' :: rest =>
    let (text, rest) := readComment [] .beginning rest
    (some (.comment (String.ofList text)), rest)
  | _ =>
    match afterWord? "doctype".toList cs with
    | some rest =>
      let (d, rest) := readDoctype rest
      (some (.doctype d), rest)
    | none =>
      if foreign && "[CDATA[".toList.isPrefixOf cs then
        let (text, rest) := readSection [] (cs.drop 7)
        (some (.text (String.ofList text) false), rest)
      else readFalseComment cs

/-- Reads what follows `<` in text with tags. -/
def readMarkup (foreign : Bool) (cs : List Char) : Step :=
  match cs with
  | '!' :: rest => readDeclaration foreign rest
  | '/' :: '>' :: rest => (none, rest)
  | '/' :: c :: rest =>
    if isLetter c then readTag true (c :: rest) else readFalseComment (c :: rest)
  | ['/'] => (some (.text "</" false), [])
  | '?' :: _ => readFalseComment cs
  | c :: _ => if isLetter c then readTag false cs else (some (.text "<" false), cs)
  | [] => (some (.text "<" false), [])

/-- The characters that end a stretch of text with tags. -/
def endsText (c : Char) : Bool :=
  c == '<' || c == '&' || c == '\x00'

/-- The next piece of text with tags. -/
def nextData (foreign : Bool) (cs : List Char) : Step :=
  match cs with
  | '<' :: rest => readMarkup foreign rest
  | '&' :: rest =>
    let (chars, rest) := Reference.read false rest
    (some (.text (String.ofList chars) false), rest)
  | '\x00' :: rest => (some .null, rest)
  | _ => (some (.text (String.ofList (cs.takeWhile (!endsText ·))) false),
      cs.dropWhile (!endsText ·))

/-- Whether a text that begins with `</` is the end tag of a name in small letters. -/
def isEndTag (name : String) (cs : List Char) : Bool :=
  match cs with
  | '<' :: '/' :: rest =>
    match afterWord? name.toList rest with
    | some (c :: _) => isAsciiBlank c || c == '/' || c == '>'
    | _ => false
  | _ => false

/-- The text before the end tag of a name, and what follows it. The characters read so far come in
reverse. The steps are bounded by the first list, which is at least as long as the text. -/
def readUpTo (name : String) (references : Bool) :
    List Char → List Char → List Char → List Char × List Char
  | [], done, cs => (done.reverse, cs)
  | _, done, [] => (done.reverse, [])
  | _ :: bound, done, c :: cs =>
    if c = '<' ∧ isEndTag name (c :: cs) then (done.reverse, c :: cs)
    else if c = '&' ∧ references then
      let (chars, rest) := Reference.read false cs
      readUpTo name references bound (chars.reverse ++ done) rest
    else readUpTo name references bound (visible c :: done) cs

/-- Where in a script one is: comments in a script can hide the end of it. -/
inductive ScriptPlace where
  /-- In the script itself. -/
  | code
  /-- In a comment, behind so many hyphens. -/
  | comment (dashes : Nat)
  /-- In a script within a comment, behind so many hyphens. -/
  | inner (dashes : Nat)

/-- Whether a word in small letters follows as a whole. -/
def isWholeWord (word : String) (cs : List Char) : Bool :=
  match afterWord? word.toList cs with
  | some (c :: _) => isAsciiBlank c || c == '/' || c == '>'
  | _ => false

/-- The text of a script before its end tag, and what follows it. The characters read so far come
in reverse. -/
def readScript (done : List Char) : ScriptPlace → List Char → List Char × List Char
  | _, [] => (done.reverse, [])
  | .code, c :: cs =>
    if c = '<' ∧ isEndTag "script" (c :: cs) then (done.reverse, c :: cs)
    else if c = '<' ∧ "!--".toList.isPrefixOf cs then
      readScript (c :: done) (.comment 0) cs
    else readScript (visible c :: done) .code cs
  | .comment dashes, c :: cs =>
    if c = '<' ∧ isEndTag "script" (c :: cs) then (done.reverse, c :: cs)
    else if c = '<' ∧ isWholeWord "script" cs then readScript (c :: done) (.inner 0) cs
    else if c = '-' then readScript (c :: done) (.comment (dashes + 1)) cs
    else if c = '>' ∧ 2 ≤ dashes then readScript (c :: done) .code cs
    else readScript (visible c :: done) (.comment 0) cs
  | .inner dashes, c :: cs =>
    if c = '<' ∧ isEndTag "script" (c :: cs) then readScript (c :: done) (.comment 0) cs
    else if c = '-' then readScript (c :: done) (.inner (dashes + 1)) cs
    else if c = '>' ∧ 2 ≤ dashes then readScript (c :: done) .code cs
    else readScript (visible c :: done) (.inner 0) cs

/-- The end tag of a name if a text begins with it, else the text that has been read before it. -/
def endOr (name : String) (cs : List Char) (text : List Char × List Char) : Step :=
  if isEndTag name cs then readTag true (cs.drop 2)
  else (some (.text (String.ofList text.1) false), text.2)

/-- The next piece of a text that is not empty. -/
def next (model : TextModel) (foreign : Bool) (cs : List Char) : Step :=
  match model with
  | .data => nextData foreign cs
  | .plain name => endOr name cs (readUpTo name true cs [] cs)
  | .raw name => endOr name cs (readUpTo name false cs [] cs)
  | .script => endOr "script" cs (readScript [] .code cs)
  | .rest => (some (.text (String.ofList (cs.map visible)) false), [])

/-- A text in stretches of blanks and of other characters. -/
def stretches (cs : List Char) : List Token :=
  (cs.splitBy fun a b => isAsciiBlank a == isAsciiBlank b).map fun run =>
    .text (String.ofList run) (run.all isAsciiBlank)

end MainContent.Html.Lexer
