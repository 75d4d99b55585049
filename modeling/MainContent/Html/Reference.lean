import MainContent.Html.CharacterName
import MainContent.Text.Ascii

/-!
# Character references

A character can be written by its name or its number, behind `&`. What looks like a reference but
is none stands for itself.
-/

namespace MainContent.Html.Reference

open MainContent.Text (isDigit isAlphanumeric hexValue?)

/-- The characters that the numbers from 128 to 159 stand for, where they are not controls. -/
def control (n : Nat) : Nat :=
  match n with
  | 0x80 => 0x20AC | 0x82 => 0x201A | 0x83 => 0x192 | 0x84 => 0x201E | 0x85 => 0x2026
  | 0x86 => 0x2020 | 0x87 => 0x2021 | 0x88 => 0x2C6 | 0x89 => 0x2030 | 0x8A => 0x160
  | 0x8B => 0x2039 | 0x8C => 0x152 | 0x8E => 0x17D | 0x91 => 0x2018 | 0x92 => 0x2019
  | 0x93 => 0x201C | 0x94 => 0x201D | 0x95 => 0x2022 | 0x96 => 0x2013 | 0x97 => 0x2014
  | 0x98 => 0x2DC | 0x99 => 0x2122 | 0x9A => 0x161 | 0x9B => 0x203A | 0x9C => 0x153
  | 0x9E => 0x17E | 0x9F => 0x178 | _ => n

/-- Whether a number is that of a character. -/
def isScalar (n : Nat) : Bool :=
  n < 0xD800 || (0xE000 ≤ n && n < 0x110000)

/-- The character that a number stands for in a document. -/
def numbered (n : Nat) : Char :=
  if n = 0 || !isScalar n then '\uFFFD' else Char.ofNat (control n)

/-- The number that digits denote to a base. -/
def number (base : Nat) (digits : List Char) : Nat :=
  digits.foldl (fun n d => n * base + (hexValue? d).getD 0) 0

/-- What follows digits, without a semicolon. -/
def afterDigits : List Char → List Char
  | ';' :: rest => rest
  | rest => rest

/-- Reads a reference by number; its text begins behind `&#`. -/
def readNumber (cs : List Char) : List Char × List Char :=
  match cs with
  | x :: rest =>
    if x = 'x' ∨ x = 'X' then
      let digits := rest.takeWhile fun c => (hexValue? c).isSome
      if digits.isEmpty then (['&', '#', x], rest)
      else ([numbered (number 16 digits)], afterDigits (rest.drop digits.length))
    else
      let digits := cs.takeWhile isDigit
      if digits.isEmpty then (['&', '#'], cs)
      else ([numbered (number 10 digits)], afterDigits (cs.drop digits.length))
  | [] => (['&', '#'], [])

/-- The longest of the old names that a text begins with, among its first so many characters. -/
def oldName? (cs : List Char) : Nat → Option (List Char)
  | 0 => none
  | n + 1 =>
    let name := cs.take (n + 1)
    if oldCharacterNames.contains (String.ofList name) then some name else oldName? cs n

/-- The most characters that an old name has. -/
def longestOldName : Nat := 6

/-- Whether a character keeps an old name before it from being read inside an attribute. -/
def protects (c : Char) : Bool :=
  c == '=' || isAlphanumeric c

/-- Reads a reference by name; its text begins behind `&`. Inside an attribute an old name is left
alone if it could be a part of an address. -/
def readName (inAttribute : Bool) (cs : List Char) : List Char × List Char :=
  let run := cs.takeWhile isAlphanumeric
  let rest := cs.drop run.length
  match characterNames[String.ofList run]?, rest with
  | some chars, ';' :: rest => (chars, rest)
  | _, _ =>
    match oldName? run (min longestOldName run.length) with
    | none => (['&'], cs)
    | some name =>
      let rest := cs.drop name.length
      if inAttribute && rest.head?.any protects then ('&' :: name, rest)
      else ((characterNames[String.ofList name]?).getD [], rest)

/-- Reads a reference whose text begins behind `&`: what it stands for, and what follows it. -/
def read (inAttribute : Bool) (cs : List Char) : List Char × List Char :=
  match cs with
  | '#' :: rest => readNumber rest
  | c :: _ => if isAlphanumeric c then readName inAttribute cs else (['&'], cs)
  | [] => (['&'], [])

/-- The character of a number, if there is one. -/
def scalar? (n : Nat) : Option (List Char) :=
  if isScalar n then some [Char.ofNat n] else none

/-- What a complete reference stands for, from what stands between `&` and the semicolon. -/
def meaning? : List Char → Option (List Char)
  | '#' :: x :: digits =>
    if (x = 'x' ∨ x = 'X') ∧ !digits.isEmpty ∧ digits.all (hexValue? · |>.isSome) then
      scalar? (number 16 digits)
    else if (x :: digits).all isDigit then scalar? (number 10 (x :: digits))
    else none
  | name => characterNames[String.ofList name]?

/-- A text in which complete references, with their semicolons, are replaced by what they stand for,
of at most so many characters. -/
def resolveSteps : Nat → List Char → List Char
  | 0, cs => cs
  | _, [] => []
  | n + 1, c :: cs =>
    if c = '&' then
      let name := cs.takeWhile fun c => c == '#' || isAlphanumeric c
      match meaning? name, cs.drop name.length with
      | some chars, ';' :: rest => chars ++ resolveSteps n rest
      | _, _ => c :: resolveSteps n cs
    else c :: resolveSteps n cs

/-- A text in which complete references are replaced by what they stand for. -/
def resolve (cs : List Char) : List Char :=
  resolveSteps cs.length cs

end MainContent.Html.Reference
