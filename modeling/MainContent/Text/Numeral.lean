import MainContent.Text.Ascii

/-!
# Unsigned numerals

A numeral is an optional `+` and one or more ASCII digits, leading zeros included. Reading is
exact: a numeral above the largest value of its type is refused, however long it is.
-/

namespace MainContent.Text.Numeral

/-- The number that a list of digits denotes, after the digits already read into `acc`. -/
def valueOnto (acc : Nat) (ds : List Char) : Nat :=
  ds.foldl (fun n d => n * 10 + (d.toNat - 48)) acc

/-- The digits of a numeral, without its sign. -/
def unsigned : List Char → List Char
  | '+' :: ds => ds
  | ds => ds

/-- The value of a numeral that is at most `largest`. -/
def read? (largest : Nat) (cs : List Char) : Option Nat :=
  let ds := unsigned cs
  if ds.isEmpty || !ds.all isDigit then none
  else
    let n := valueOnto 0 ds
    if n ≤ largest then some n else none

end MainContent.Text.Numeral
