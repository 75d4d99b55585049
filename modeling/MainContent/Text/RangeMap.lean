import MainContent.Text.CodePoints

/-!
# Values of characters

A value for each of some characters, as closed intervals of code points with one value each, in
ascending order. Tables are written as lines such as `300-314:E6 315:E8`.
-/

namespace MainContent.Text

/-- A value for each of some characters: intervals of code points, in ascending order. -/
structure RangeMap (α : Type) where
  /-- The first and the last code point of each interval, with its value. -/
  entries : Array (Nat × Nat × α)

namespace RangeMap

variable {α : Type}

/-- The interval with its value that a token such as `300-314:E6` describes. -/
def entry (value : List Char → α) (token : List Char) : Nat × Nat × α :=
  let bounds := CodePoints.interval (token.takeWhile (· ≠ ':'))
  (bounds.1, bounds.2, value ((token.dropWhile (· ≠ ':')).drop 1))

/-- The value at `n` in the intervals from `low` up to `high`, exclusive, by halving. -/
def search (xs : Array (Nat × Nat × α)) (n low high : Nat) : Option α :=
  if low < high then
    let middle := (low + high) / 2
    match xs[middle]? with
    | some (first, last, value) =>
      if n < first then search xs n low middle
      else if last < n then search xs n (middle + 1) high
      else some value
    | none => none
  else none
termination_by high - low

/-- The value of a character, if it has one. -/
def get? (m : RangeMap α) (c : Char) : Option α :=
  search m.entries c.toNat 0 m.entries.size

end RangeMap

end MainContent.Text
