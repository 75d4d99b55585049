import MainContent.Url.Basic
import MainContent.Url.Encode
import MainContent.Url.Scheme

/-!
# Reading paths, queries and fragments

A path is a list of names. The name `..` leads one step up, `.` leads nowhere, and both may be
written with escapes. A name that looks like a drive, such as `C:`, is never stepped out of.
-/

namespace MainContent.Url

/-- What follows the authority of a URL. -/
structure Tail where
  /-- The text of the path. -/
  path : List Char
  /-- What follows `?`. -/
  query : Option (List Char)
  /-- What follows `#`. -/
  fragment : Option (List Char)

/-- A text from its path on, cut at the first `?` and the first `#`. -/
def splitTail (cs : List Char) : Tail :=
  let body := cs.takeWhile (· ≠ '#')
  let fragment :=
    match cs.dropWhile (· ≠ '#') with
    | _ :: f => some f
    | [] => none
  let query :=
    match body.dropWhile (· ≠ '?') with
    | _ :: q => some q
    | [] => none
  { path := body.takeWhile (· ≠ '?'), query, fragment }

/-- Whether a character separates the names of a path. -/
def isSlash (kind : SchemeKind) (c : Char) : Bool :=
  c == '/' || (kind.isSpecial && c == '\\')

/-- A name whose escapes of a dot are read. -/
def readDots : List Char → List Char
  | '%' :: '2' :: 'e' :: cs => '.' :: readDots cs
  | '%' :: '2' :: 'E' :: cs => '.' :: readDots cs
  | c :: cs => c :: readDots cs
  | [] => []

/-- Whether a name is a drive: a letter, and a colon or a bar. -/
def isDrive (name : List Char) : Bool :=
  match name with
  | [c, d] => Text.isLetter c && (d == ':' || d == '|')
  | _ => false

/-- The names, latest first, one step further up. -/
def stepUp (names : List String) : List String :=
  match names with
  | [] => []
  | n :: ns => if isDrive n.toList then n :: ns else ns

/-- A name as a path keeps it; `atRoot` says that it is the path's first name. -/
def keepName (kind : SchemeKind) (atRoot : Bool) (name : List Char) : String :=
  let written := percentEncode inPathSet name
  match kind, atRoot, isDrive name, written with
  | .file, true, true, c :: _ => String.ofList [c, ':']
  | _, _, _, _ => String.ofList written

/-- Follows the pieces of a path's text from the names already there, latest first. -/
def follow (kind : SchemeKind) (names : List String) : List (List Char) → List String
  | [] => names
  | [last] =>
    if readDots last = ['.', '.'] then "" :: stepUp names
    else if readDots last = ['.'] then "" :: names
    else keepName kind names.isEmpty last :: names
  | piece :: more =>
    if readDots piece = ['.', '.'] then follow kind (stepUp names) more
    else if readDots piece = ['.'] then follow kind names more
    else follow kind (keepName kind names.isEmpty piece :: names) more

/-- The path that a text without its first slash leads to, from the names of `start`. -/
def followText (kind : SchemeKind) (start : List String) (cs : List Char) : Path :=
  .segments (follow kind start.reverse (cs.splitOnP (isSlash kind))).reverse

/-- The path that a text leads to from the root. A special URL has a path in any case. -/
def readPath (kind : SchemeKind) (cs : List Char) : Path :=
  match cs with
  | [] => if kind.isSpecial then .segments [""] else .segments []
  | c :: rest => if isSlash kind c then followText kind [] rest else followText kind [] cs

/-- A query as a URL keeps it. -/
def keepQuery (kind : SchemeKind) (cs : List Char) : String :=
  String.ofList (percentEncode (if kind.isSpecial then inSpecialQuerySet else inQuerySet) cs)

/-- A fragment as a URL keeps it. -/
def keepFragment (cs : List Char) : String :=
  String.ofList (percentEncode inFragmentSet cs)

/-- A URL with the query and the fragment of a tail. -/
def withTail (kind : SchemeKind) (u : Url) (t : Tail) : Url :=
  { u with query := t.query.map (keepQuery kind), fragment := t.fragment.map keepFragment }

end MainContent.Url
