import MainContent.Unicode.CompositionTable
import Std.Data.HashMap

/-!
# Canonical composition

The canonical form of a text in which characters and their marks are composed wherever one
character stands for the pair (Normalization Form C). A text is taken apart, its marks are put in
the order of their classes, and what composes is put together again. The characters that stand for
a single other one, or never arise from composition, are not taken apart here; the mapping of
domain names replaces them beforehand.
-/

namespace MainContent.Unicode

/-- The canonical combining class of a character; zero for one that starts a group. -/
def combiningClass (c : Char) : Nat :=
  if c.toNat < 0x300 then 0 else (combiningClasses.get? c).getD 0

/-- The pairs that compose. -/
def compositions : List (Char × Char × Char) :=
  compositionTable.map fun e => (.ofNat e.1, .ofNat e.2.1, .ofNat e.2.2)

/-- A number for a pair of characters, different for different pairs. -/
def pairNumber (a b : Char) : Nat :=
  a.toNat * 0x110000 + b.toNat

/-- The character that a pair composes to, by the number of the pair. -/
def composed : Std.HashMap Nat Char :=
  .ofList (compositions.map fun e => (pairNumber e.1 e.2.1, e.2.2))

/-- The pair that a character is composed of, by the character's code point. -/
def parts : Std.HashMap Nat (Char × Char) :=
  .ofList (compositions.map fun e => (e.2.2.toNat, (e.1, e.2.1)))

namespace Hangul

/-- The first syllable. -/
def syllables : Nat := 0xAC00

/-- The number before the first leading consonant's. -/
def leads : Nat := 0x1100

/-- The number before the first vowel's. -/
def vowels : Nat := 0x1161

/-- The number that stands for no trailing consonant. -/
def trails : Nat := 0x11A7

/-- Whether a code point is a syllable. -/
def isSyllable (n : Nat) : Bool :=
  syllables ≤ n && n < syllables + 11172

/-- The letters of a syllable. -/
def takeApart (n : Nat) : List Char :=
  let i := n - syllables
  let start := [Char.ofNat (leads + i / 588), Char.ofNat (vowels + i % 588 / 28)]
  if i % 28 = 0 then start else start ++ [Char.ofNat (trails + i % 28)]

/-- The syllable of a leading consonant and a vowel, or of an open syllable and a trailing
consonant. -/
def compose? (a b : Nat) : Option Char :=
  if leads ≤ a && a < leads + 19 && vowels ≤ b && b < vowels + 21 then
    some (.ofNat (syllables + ((a - leads) * 21 + (b - vowels)) * 28))
  else if isSyllable a && (a - syllables) % 28 == 0 && trails < b && b < trails + 28 then
    some (.ofNat (a + (b - trails)))
  else none

end Hangul

/-- A character taken apart as far as it goes; no character takes more than `depth` steps. -/
def takeApart : Nat → Char → List Char
  | 0, c => [c]
  | depth + 1, c =>
    if Hangul.isSyllable c.toNat then Hangul.takeApart c.toNat
    else
      match parts[c.toNat]? with
      | some (a, b) => takeApart depth a ++ [b]
      | none => [c]

/-- A mark put before the marks of a higher class. -/
def insertMark (c : Char) : List Char → List Char
  | [] => [c]
  | d :: ds => if combiningClass d ≤ combiningClass c then d :: insertMark c ds else c :: d :: ds

/-- A text whose marks stand in the order of their classes; `marks` are the ones read since the
last character that starts a group. -/
def orderMarks (marks : List Char) : List Char → List Char
  | [] => marks
  | c :: cs =>
    if combiningClass c = 0 then marks ++ c :: orderMarks [] cs
    else orderMarks (insertMark c marks) cs

/-- The character that two characters compose to. -/
def compose? (a b : Char) : Option Char :=
  match Hangul.compose? a.toNat b.toNat with
  | some c => some c
  | none => composed[pairNumber a b]?

/-- Composes a text from a starter on: `skipped` are the marks, latest first, that did not compose
with it, and `lastClass` is the class of the latest of them. -/
def composeFrom (starter : Char) (skipped : List Char) (lastClass : Nat) : List Char → List Char
  | [] => starter :: skipped.reverse
  | c :: cs =>
    let k := combiningClass c
    let blocked := !skipped.isEmpty && (lastClass == 0 || k ≤ lastClass)
    match if blocked then none else compose? starter c with
    | some made => composeFrom made skipped lastClass cs
    | none =>
      if k = 0 then starter :: (skipped.reverse ++ composeFrom c [] 0 cs)
      else composeFrom starter (c :: skipped) k cs

/-- A text whose first characters have no starter, from its first starter on composed. -/
def composeAll : List Char → List Char
  | [] => []
  | c :: cs => if combiningClass c = 0 then composeFrom c [] 0 cs else c :: composeAll cs

/-- The composed canonical form of a text. -/
def composedForm (cs : List Char) : List Char :=
  if cs.all (·.toNat < 0x300) then cs
  else composeAll (orderMarks [] (cs.flatMap (takeApart 8)))

end MainContent.Unicode
