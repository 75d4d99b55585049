import MainContent.Settings.Variables
import MainContent.Text.Ascii
import MainContent.Text.Blank
import MainContent.Text.LetterNumber

/-!
# Files of variables

A file of lines `NAME=value` that complete the variables of a process: a variable that is already
set keeps its value. A value may be quoted, may run over several lines inside its quotes, and may
refer to other variables. The first line that cannot be read ends the reading, and the variables
before it stay set. A value with a zero character is none that a variable can have, and to set it ends
the program.
-/

namespace MainContent.Settings.Dotenv

open MainContent.Text (isBlank)

/-- Where in a line of the file one is, as far as it decides where the line ends. -/
inductive Scan where
  /-- Outside of quotes. -/
  | plain
  /-- After a backslash outside of quotes. -/
  | plainEscape
  /-- Between single quotes. -/
  | single
  /-- After a backslash between single quotes. -/
  | singleEscape
  /-- Between double quotes. -/
  | double
  /-- After a backslash between double quotes. -/
  | doubleEscape
  /-- After a blank outside of quotes, where a comment can begin. -/
  | blank
  deriving DecidableEq, Repr

/-- What a character that is no blank leads to outside of quotes. -/
def Scan.opened (c : Char) : Scan :=
  if c = '\\' then .plainEscape
  else if c = '"' then .double
  else if c = '\'' then .single
  else .plain

/-- Passes over one character; `none` when a comment begins with it. -/
def Scan.next (s : Scan) (c : Char) : Option Scan :=
  match s with
  | .blank => if c = '#' then none else some (.opened c)
  | .plain => if isBlank c && c ≠ '\n' && c ≠ '\r' then some .blank else some (.opened c)
  | .plainEscape => some .plain
  | .double => some (if c = '\\' then .doubleEscape else if c = '"' then .plain else .double)
  | .doubleEscape => some .double
  | .single => some (if c = '\\' then .singleEscape else if c = '\'' then .plain else .single)
  | .singleEscape => some .single

/-- How a line of the file ends. -/
inductive LineEnd where
  /-- In a comment that begins behind so many bytes. -/
  | comment (bytes : Nat)
  /-- Without a comment. -/
  | at (s : Scan)

/-- Passes over the characters of a line, behind so many bytes of it. -/
def scanLine (bytes : Nat) (s : Scan) : List Char → LineEnd
  | [] => .at s
  | c :: cs =>
    match s.next c with
    | none => .comment bytes
    | some s => scanLine (bytes + c.utf8Size) s cs

/-- The characters of a text within so many of its bytes. -/
def withinBytes (bytes : Nat) : List Char → List Char
  | [] => []
  | c :: cs => if c.utf8Size ≤ bytes then c :: withinBytes (bytes - c.utf8Size) cs else []

/-- A line without its line break. -/
def withoutBreak (line : List Char) : List Char :=
  match line.reverse with
  | '\n' :: '\r' :: before => before.reverse
  | '\n' :: before => before.reverse
  | _ => line

/-- The bytes of a file by lines, each with its line break. -/
def splitLines (bs : List UInt8) : List (List UInt8) :=
  bs.foldr (fun b lines =>
    if b = 0x0A then [b] :: lines
    else
      match lines with
      | line :: rest => (b :: line) :: rest
      | [] => [[b]]) []

/-- The entries of a file, each over as many lines as its quotes take; `none` stands for what is no
text or is not finished. The lines so far of an unfinished entry come first. -/
def gather (begun : List Char) (s : Scan) : List (List UInt8) → List (Option (List Char))
  | [] => if s = .plain then [] else [none]
  | line :: lines =>
    match Text.Utf8.decode? line with
    | none => [none]
    | some cs =>
      let entry := begun ++ cs
      if (entry.dropWhile isBlank).head? = some '#' then gather [] .plain lines
      else
        match scanLine 0 s cs with
        | .comment bytes => some (withinBytes bytes entry) :: gather [] .plain lines
        | .at .plain => some (withoutBreak entry) :: gather [] .plain lines
        | .at s => gather entry s lines

/-- Where in a value one is. -/
inductive Place where
  /-- In text, inside double quotes or not. -/
  | text (quoted : Bool)
  /-- Behind a backslash. -/
  | escape (quoted : Bool)
  /-- Between single quotes. -/
  | single
  /-- In the name of a variable behind `$`, which has been read so far. -/
  | name (quoted : Bool) (read : List Char)
  /-- In the name of a variable between braces, which has been read so far. -/
  | braced (quoted : Bool) (read : List Char)
  /-- Behind the value, where only a comment may follow. -/
  | done

/-- The character that a backslash and a character stand for. -/
def escaped? (c : Char) : Option Char :=
  if c = '\\' ∨ c = '\'' ∨ c = '"' ∨ c = '$' ∨ c = ' ' then some c
  else if c = 'n' then some '\n'
  else none

/-- What is put in place of a reference to a variable: nothing when it is not set. -/
def substitute (vs : Variables) (name : List Char) : List Char :=
  ((vs.text? (String.ofList name)).getD "").toList

/-- The value that is written from a place on, or `none` when it cannot be read. The character that
ends a name behind `$` is part of the value, whatever it is. -/
def readValue (vs : Variables) : Place → List Char → Option (List Char)
  | .done, [] => some []
  | .done, c :: cs =>
    if c = ' ' ∨ c = '\t' then readValue vs .done cs
    else if c = '#' then some []
    else none
  | .escape quoted, [] => if quoted then none else some []
  | .escape quoted, c :: cs =>
    match escaped? c with
    | some d => (readValue vs (.text quoted) cs).map (d :: ·)
    | none => none
  | .single, [] => none
  | .single, c :: cs =>
    if c = '\'' then readValue vs (.text false) cs else (readValue vs .single cs).map (c :: ·)
  | .name quoted read, [] => if quoted then none else some (substitute vs read)
  | .name quoted read, c :: cs =>
    if Text.lettersAndNumbers.contains c then readValue vs (.name quoted (read ++ [c])) cs
    else if c = '\x7b' ∧ read = [] then readValue vs (.braced quoted []) cs
    else if c = '$' then (readValue vs (.name quoted []) cs).map (substitute vs read ++ ·)
    else (readValue vs (.text quoted) cs).map (substitute vs read ++ c :: ·)
  | .braced _ _, [] => none
  | .braced quoted read, c :: cs =>
    if c = '\x7d' then (readValue vs (.text quoted) cs).map (substitute vs read ++ ·)
    else readValue vs (.braced quoted (read ++ [c])) cs
  | .text quoted, [] => if quoted then none else some []
  | .text quoted, c :: cs =>
    if c = '$' then readValue vs (.name quoted []) cs
    else if c = '\\' then readValue vs (.escape quoted) cs
    else if c = '"' then readValue vs (.text (!quoted)) cs
    else if quoted then (readValue vs (.text true) cs).map (c :: ·)
    else if c = '\'' then readValue vs .single cs
    else if c = ' ' ∨ c = '\t' then readValue vs .done cs
    else (readValue vs (.text false) cs).map (c :: ·)

/-- A character of a name behind its first one. -/
def inName (c : Char) : Bool :=
  Text.isAlphanumeric c || c == '_' || c == '.'

/-- The name at the beginning of a text, and what follows it with its blanks. -/
def readName? (cs : List Char) : Option (String × List Char) :=
  match cs with
  | c :: _ =>
    if Text.isLetter c || c == '_' then
      some (String.ofList (cs.takeWhile inName), (cs.dropWhile inName).dropWhile isBlank)
    else none
  | [] => none

/-- The name in an entry, and what follows the equals sign. The word `export` may stand before the
name, and is the name itself when the equals sign follows it. -/
def readHead? (cs : List Char) : Option (String × List Char) :=
  match readName? cs with
  | some (name, '=' :: rest) => some (name, rest)
  | some ("export", rest) =>
    match readName? rest with
    | some (name, '=' :: rest) => some (name, rest)
    | _ => none
  | _ => none

/-- What an entry says. -/
inductive Entry where
  /-- Nothing: it is empty or a comment. -/
  | nothing
  /-- A variable has a value. -/
  | variable (name value : String)
  /-- It cannot be read. -/
  | damaged

/-- Whether nothing but a comment stands in a text. -/
def isVoid (cs : List Char) : Bool :=
  cs.isEmpty || cs.head? == some '#'

/-- Reads an entry; its value may refer to the variables. -/
def readEntry (vs : Variables) (line : List Char) : Entry :=
  let cs := Text.trim line
  if isVoid cs then .nothing
  else
    match readHead? cs with
    | none => .damaged
    | some (name, rest) =>
      let value := rest.dropWhile isBlank
      if isVoid value then .variable name ""
      else
        match readValue vs (.text false) value with
        | some v => .variable name (String.ofList v)
        | none => .damaged

/-- Whether a variable can have a value: a zero character would end it before its time. -/
def isSettable (value : String) : Bool :=
  !value.toList.contains '\x00'

/-- What a file of variables leads to. -/
structure Loaded where
  /-- The variables, as far as the file has completed them. -/
  completed : Variables
  /-- Whether a value that no variable can have was to be set, which ends the program. -/
  fatal : Bool := false

/-- The variables completed by entries, up to the first that cannot be read. A variable that has a
text already keeps it. -/
def addEntries (vs : Variables) : List (Option (List Char)) → Loaded
  | [] => { completed := vs }
  | none :: _ => { completed := vs }
  | some line :: lines =>
    match readEntry vs line with
    | .nothing => addEntries vs lines
    | .variable name value =>
      if (vs.text? name).isSome then addEntries vs lines
      else if isSettable value then addEntries (vs.set name value) lines
      else { completed := vs, fatal := true }
    | .damaged => { completed := vs }

/-- The bytes of a file without the mark that can stand at its beginning. -/
def withoutMark : List UInt8 → List UInt8
  | 0xEF :: 0xBB :: 0xBF :: rest => rest
  | bs => bs

/-- What a file leads to that is to complete the variables. -/
def load (vs : Variables) (file : List UInt8) : Loaded :=
  addEntries vs (gather [] .plain (splitLines (withoutMark file)))

end MainContent.Settings.Dotenv
