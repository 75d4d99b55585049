import MainContent.Text.Json
import MainContent.Text.Words

/-!
# Reading JSON

The value that a text denotes by the grammar of JSON, and nothing more lenient: no comments, no
trailing commas, no bare names. Each reader takes its value from the beginning of a text and gives
what is left of the text.
-/

namespace MainContent.Text.Json

/-- The blanks that JSON allows between its parts. -/
def isGap (c : Char) : Bool :=
  c == ' ' || c == '\t' || c == '\n' || c == '\r'

/-- A text without the blanks at its beginning. -/
def skip (cs : List Char) : List Char :=
  cs.dropWhile isGap

/-- The number that four hexadecimal digits denote. -/
def fourDigits? : List Char → Option (Nat × List Char)
  | a :: b :: c :: d :: rest => do
    let a ← hexValue? a
    let b ← hexValue? b
    let c ← hexValue? c
    let d ← hexValue? d
    return (((a * 16 + b) * 16 + c) * 16 + d, rest)
  | _ => none

/-- The character that a number of four digits denotes, alone or as the first of a pair. -/
def readUnit (n : Nat) (rest : List Char) : Char × List Char :=
  if 0xD800 ≤ n ∧ n < 0xDC00 then
    match rest with
    | '\\' :: 'u' :: low =>
      match fourDigits? low with
      | some (m, rest) =>
        if 0xDC00 ≤ m ∧ m < 0xE000 then
          (Char.ofNat (0x10000 + (n - 0xD800) * 0x400 + (m - 0xDC00)), rest)
        else ('\uFFFD', '\\' :: 'u' :: low)
      | none => ('\uFFFD', rest)
    | _ => ('\uFFFD', rest)
  else if 0xDC00 ≤ n ∧ n < 0xE000 then ('\uFFFD', rest)
  else (Char.ofNat n, rest)

/-- The character that a backslash and a letter stand for. -/
def shortEscape? : Char → Option Char
  | '"' => some '"'
  | '\\' => some '\\'
  | '/' => some '/'
  | 'b' => some '\x08'
  | 'f' => some '\x0c'
  | 'n' => some '\n'
  | 'r' => some '\r'
  | 't' => some '\t'
  | _ => none

/-- The first character of a text between quotes. -/
def readChar? : List Char → Option (Char × List Char)
  | '\\' :: 'u' :: rest => (fourDigits? rest).map fun (n, rest) => readUnit n rest
  | '\\' :: c :: rest => (shortEscape? c).map (·, rest)
  | '\\' :: [] => none
  | c :: rest => if c.toNat < 0x20 then none else some (c, rest)
  | [] => none

/-- The text up to a closing quote, of at most so many characters. -/
def readQuoted? : Nat → List Char → Option (List Char × List Char)
  | 0, _ => none
  | _, '"' :: rest => some ([], rest)
  | n + 1, cs => do
    let (c, rest) ← readChar? cs
    let (chars, rest) ← readQuoted? n rest
    return (c :: chars, rest)

/-- The digits at the beginning of a text, at least one. -/
def readDigits? (cs : List Char) : Option (List Char × List Char) :=
  let digits := cs.takeWhile isDigit
  if digits.isEmpty then none else some (digits, cs.drop digits.length)

/-- The digits before a point: zero alone, or without a zero before them. -/
def readWhole? : List Char → Option (List Char × List Char)
  | '0' :: rest => some (['0'], rest)
  | cs => readDigits? cs

/-- The digits behind a point, if there is one. -/
def readFraction? : List Char → Option (List Char × List Char)
  | '.' :: rest => (readDigits? rest).map fun (digits, rest) => ('.' :: digits, rest)
  | cs => some ([], cs)

/-- The power of ten behind a number, if there is one. -/
def readPower? : List Char → Option (List Char × List Char)
  | e :: rest =>
    if e = 'e' ∨ e = 'E' then
      let (sign, rest) :=
        match rest with
        | '+' :: rest => (['+'], rest)
        | '-' :: rest => (['-'], rest)
        | rest => ([], rest)
      (readDigits? rest).map fun (digits, rest) => (e :: sign ++ digits, rest)
    else some ([], e :: rest)
  | [] => some ([], [])

/-- A number at the beginning of a text. -/
def readNumber? (cs : List Char) : Option (Json × List Char) := do
  let (sign, cs) :=
    match cs with
    | '-' :: rest => (['-'], rest)
    | cs => ([], cs)
  let (whole, cs) ← readWhole? cs
  let (fraction, cs) ← readFraction? cs
  let (power, cs) ← readPower? cs
  return (.number (String.ofList (sign ++ whole ++ fraction ++ power)), cs)

/-- A value that is a bare name, or a number. -/
def readPlain? (cs : List Char) : Option (Json × List Char) :=
  match dropText? "true".toList cs, dropText? "false".toList cs, dropText? "null".toList cs with
  | some rest, _, _ => some (.bool true, rest)
  | _, some rest, _ => some (.bool false, rest)
  | _, _, some rest => some (.null, rest)
  | none, none, none => readNumber? cs

mutual

/-- A value at the beginning of a text, looking at most so many steps ahead. -/
def readValue? : Nat → List Char → Option (Json × List Char)
  | 0, _ => none
  | n + 1, cs =>
    match skip cs with
    | '"' :: rest => do
      let (chars, rest) ← readQuoted? (n + 1) rest
      return (.text (String.ofList chars), rest)
    | '[' :: rest =>
      match skip rest with
      | ']' :: rest => some (.list [], rest)
      | rest => do
        let (items, rest) ← readItems? n rest
        return (.list items, rest)
    | '\x7b' :: rest =>
      match skip rest with
      | '\x7d' :: rest => some (.record [], rest)
      | rest => do
        let (members, rest) ← readMembers? n rest
        return (.record members, rest)
    | cs => readPlain? cs

/-- The items of a list up to its end. -/
def readItems? : Nat → List Char → Option (List Json × List Char)
  | 0, _ => none
  | n + 1, cs => do
    let (item, rest) ← readValue? n cs
    match skip rest with
    | ',' :: rest =>
      let (items, rest) ← readItems? n rest
      return (item :: items, rest)
    | ']' :: rest => return ([item], rest)
    | _ => none

/-- The members of an object up to its end. -/
def readMembers? : Nat → List Char → Option (List (String × Json) × List Char)
  | 0, _ => none
  | n + 1, cs =>
    match skip cs with
    | '"' :: rest => do
      let (name, rest) ← readQuoted? (n + 1) rest
      match skip rest with
      | ':' :: rest =>
        let (value, rest) ← readValue? n rest
        match skip rest with
        | ',' :: rest =>
          let (members, rest) ← readMembers? n rest
          return ((String.ofList name, value) :: members, rest)
        | '\x7d' :: rest => return ([(String.ofList name, value)], rest)
        | _ => none
      | _ => none
    | _ => none

end

/-- The value that a text denotes, with blanks around it. Each step of a reader takes at least one
character, so that the length of the text bounds them. -/
def ofText? (cs : List Char) : Option Json :=
  match readValue? (2 * cs.length + 2) cs with
  | some (value, rest) => if (skip rest).isEmpty then some value else none
  | none => none

end MainContent.Text.Json
