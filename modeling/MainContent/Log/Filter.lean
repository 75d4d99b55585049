import MainContent.Log.Event
import MainContent.Text.Ascii
import MainContent.Text.Blank
import MainContent.Text.LetterNumber
import MainContent.Text.Numeral

/-!
# Choosing what is shown of the log

A filter is a list of directives between commas, such as `info,api=debug`. Of the directives that
concern an event the most specific one decides: the one with the longest target, then the one that
asks for a field, then the later one. A directive that cannot be read is left out with a warning.
-/

namespace MainContent.Log

/-- A directive: how important an event must be to be shown. -/
structure Directive where
  /-- What the target of an event must begin with. -/
  target : Option String := none
  /-- Whether only events within a named span are meant. -/
  inSpan : Bool := false
  /-- The name of a field that an event must have. -/
  field : Option String := none
  /-- Whether the field must have a value that is given. -/
  fieldValue : Bool := false
  /-- The least important level that is shown; with `none` nothing is. -/
  level : Option Level := some .trace
  deriving DecidableEq, Repr

/-- The causes for which a directive cannot be read. -/
inductive DirectiveError where
  /-- It does not have the form of a directive. -/
  | form
  /-- Its level is none. -/
  | level
  deriving DecidableEq, Repr

/-- The wording of a cause. -/
def DirectiveError.message : DirectiveError → String
  | .form => "invalid filter directive"
  | .level => "error parsing level filter: expected one of \"off\", \"error\", \"warn\", " ++
      "\"info\", \"debug\", \"trace\", or a number 0-5"

namespace Directive

/-- The largest number that is read as one. -/
def largestNumber : Nat := 18446744073709551615

/-- The level that a text denotes, by its number or its name in any case; `some none` stands for
showing nothing. -/
def readLevel? (text : List Char) : Option (Option Level) :=
  match Text.Numeral.read? largestNumber text with
  | some 0 => some none
  | some 1 => some (some .error)
  | some 2 => some (some .warn)
  | some 3 => some (some .info)
  | some 4 => some (some .debug)
  | some 5 => some (some .trace)
  | _ =>
    let small := String.ofList (Text.toLowerAscii text)
    if small = "" ∨ small = "error" then some (some .error)
    else if small = "warn" then some (some .warn)
    else if small = "info" then some (some .info)
    else if small = "debug" then some (some .debug)
    else if small = "trace" then some (some .trace)
    else if small = "off" then some none
    else none

/-- The directive with the level that follows an equals sign. No blank may stand around the whole
directive then. -/
def withLevel (d : Directive) (padded : Bool) (text : List Char) :
    Except DirectiveError Directive :=
  if padded then .error .level
  else if text.isEmpty then .ok { d with level := some .trace }
  else
    match readLevel? text with
    | some level => .ok { d with level }
    | none => .error .level

/-- Reads what follows a span: nothing, or a level. -/
def readAfterSpan (d : Directive) (padded : Bool) : List Char → Except DirectiveError Directive
  | [] => .ok d
  | '=' :: level => d.withLevel padded level
  | _ => .error .form

/-- Reads a span, with a field if there is one, and what follows it. -/
def readSpan (d : Directive) (padded : Bool) (cs : List Char) :
    Except DirectiveError Directive :=
  let name := cs.takeWhile fun c => c ≠ ']' && c ≠ '\x7b'
  match cs.dropWhile fun c => c ≠ ']' && c ≠ '\x7b' with
  | ']' :: rest => readAfterSpan { d with inSpan := true } padded rest
  | _ :: rest =>
    let field := rest.takeWhile (· ≠ '\x7d')
    match rest.dropWhile (· ≠ '\x7d') with
    | '\x7d' :: ']' :: rest =>
      if field.isEmpty then .error .form
      else readAfterSpan { d with inSpan := !name.isEmpty,
                                  field := some (String.ofList (field.takeWhile (· ≠ '='))),
                                  fieldValue := field.contains '=' } padded rest
    | _ => .error .form
  | [] => .error .form

/-- Whether a directive may begin with a character, unless it begins with a span. -/
def begins (c : Char) : Bool :=
  c == '-' || c == ':' || c == '_' || Text.lettersAndNumbers.contains c

/-- Reads a directive. A text without an equals sign is a level if it is the name of one, else a
target whose events are all shown; with blanks around it, it is no level. -/
def ofText (written : List Char) : Except DirectiveError Directive :=
  let text := Text.trim written
  let padded := text != written
  match text with
  | [] => .error .form
  | '[' :: rest => readSpan {} padded rest
  | c :: _ =>
    if !begins c then .error .form
    else
      let target := text.takeWhile fun c => c ≠ '=' && c ≠ '['
      match text.dropWhile fun c => c ≠ '=' && c ≠ '[' with
      | '=' :: level => withLevel { target := some (String.ofList target) } padded level
      | _ :: rest => readSpan { target := some (String.ofList target) } padded rest
      | [] =>
        match readLevel? written with
        | some level => .ok { level }
        | none => .ok { target := some (String.ofList written) }

/-- Whether a directive concerns an event. -/
def concerns (d : Directive) (e : Event) : Bool :=
  !d.inSpan && !d.fieldValue && d.target.all (·.toList.isPrefixOf e.target.toList) &&
    d.field.all fun f => f == "message" || e.fields.any (·.1 == f)

/-- How specific a directive is: the length of its target, and whether it asks for a field. -/
def specificity (d : Directive) : Nat × Nat :=
  ((d.target.map (·.utf8ByteSize + 1)).getD 0, if d.field.isSome then 1 else 0)

/-- Whether a later directive is to be preferred to an earlier one. -/
def precedes (later earlier : Directive) : Bool :=
  let (a, b) := later.specificity
  let (c, d) := earlier.specificity
  c < a || (c == a && d ≤ b)

/-- Whether a directive shows a level. -/
def admits (d : Directive) (l : Level) : Bool :=
  d.level.any (l.rank ≤ ·.rank)

end Directive

/-- A filter: its directives in order. -/
structure Filter where
  /-- The directives. -/
  directives : List Directive
  deriving DecidableEq, Repr

namespace Filter

/-- The directive that decides about an event. -/
def decisive? (f : Filter) (e : Event) : Option Directive :=
  (f.directives.filter (·.concerns e)).foldl (fun best d =>
    match best with
    | none => some d
    | some b => if d.precedes b then some d else some b) none

/-- Whether an event is shown. -/
def admits (f : Filter) (e : Event) : Bool :=
  (f.decisive? e).any (·.admits e.level)

/-- The filter that applies when none is given: errors are shown. -/
def usual : Filter :=
  ⟨[{ level := some .error }]⟩

/-- The directives in a text, each as it is written with its reading. -/
def readings (text : String) : List (List Char × Except DirectiveError Directive) :=
  ((text.toList.splitOn ',').filter (!·.isEmpty)).map fun piece => (piece, Directive.ofText piece)

/-- The filter that a text describes. -/
def ofText (text : String) : Filter :=
  let ds := (readings text).filterMap fun r => r.2.toOption
  if ds.isEmpty then usual else ⟨ds⟩

/-- The warnings about directives that cannot be read. -/
def warnings (text : String) : List String :=
  (readings text).filterMap fun (piece, reading) =>
    match reading with
    | .ok _ => none
    | .error e => some ("ignoring \u0060" ++ String.ofList piece ++ "\u0060: " ++ e.message)

end Filter

end MainContent.Log
