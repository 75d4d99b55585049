import MainContent.Text.Ascii

/-!
# Sets of characters

A set of characters as the closed intervals of its code points, in ascending order. Tables may also
be written as lines of hexadecimal intervals, such as `41-5A 61-7A`.
-/

namespace MainContent.Text

/-- A set of characters: closed intervals of code points, in ascending order. -/
structure CodePoints where
  /-- The first and the last code point of each interval. -/
  intervals : Array (Nat × Nat)

namespace CodePoints

/-- The number that hexadecimal digits denote; other characters count as zero. -/
def hexNumber (cs : List Char) : Nat :=
  cs.foldl (fun n c => n * 16 + (hexValue? c).getD 0) 0

/-- The interval that is written as one code point or as two around a hyphen. -/
def interval (cs : List Char) : Nat × Nat :=
  match cs.splitOn '-' with
  | [a, b] => (hexNumber a, hexNumber b)
  | _ => (hexNumber cs, hexNumber cs)

/-- The tokens in lines of tokens with single spaces between them. -/
def tokens (lines : List String) : List (List Char) :=
  lines.flatMap fun l => l.toList.splitOn ' '

/-- The set that lines of intervals describe. -/
def ofLines (lines : List String) : CodePoints :=
  ⟨((tokens lines).map interval).toArray⟩

/-- Whether one of the intervals from `low` up to `high`, exclusive, holds `n`, by halving. -/
def search (xs : Array (Nat × Nat)) (n low high : Nat) : Bool :=
  if low < high then
    let middle := (low + high) / 2
    match xs[middle]? with
    | some (first, last) =>
      if n < first then search xs n low middle
      else if last < n then search xs n (middle + 1) high
      else true
    | none => false
  else false
termination_by high - low

/-- Whether a character is in the set. -/
def contains (s : CodePoints) (c : Char) : Bool :=
  search s.intervals c.toNat 0 s.intervals.size

end CodePoints

end MainContent.Text
