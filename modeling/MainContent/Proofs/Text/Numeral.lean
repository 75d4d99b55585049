import MainContent.Text.Numeral
import Mathlib.Data.List.Induction
import Mathlib.Data.Nat.Digits.Defs

/-!
# What numerals denote

A numeral denotes the decimal value of its digits (`Denotes`). A text is read as a number if and only
if it denotes that number and the number is not above the largest one, however many digits there are
(`read?_eq_some_iff`).
-/

namespace MainContent.Text.Numeral

/-- The value of a decimal digit. -/
def digit (c : Char) : Nat :=
  c.toNat - '0'.toNat

/-- A text denotes a number: it consists of one or more ASCII digits, perhaps behind a plus sign, and
the number is their decimal value. -/
def Denotes (cs : List Char) (n : Nat) : Prop :=
  ∃ ds, (cs = ds ∨ cs = '+' :: ds) ∧ ds ≠ [] ∧ (∀ c ∈ ds, '0' ≤ c ∧ c ≤ '9') ∧
    n = Nat.ofDigits 10 (ds.reverse.map digit)

/-- The value of digits that are read one after the other is their decimal value. -/
theorem valueOnto_zero (ds : List Char) : valueOnto 0 ds = Nat.ofDigits 10 (ds.reverse.map digit) := by
  -- Reading one more digit at the end makes it the lowest one.
  induction ds using List.reverseRecOn with
  | nil => rfl
  | append_singleton ds d ih =>
    rw [List.reverse_concat, List.map_cons, Nat.ofDigits_cons, ← ih, valueOnto, List.foldl_append,
      Nat.mul_comm, Nat.add_comm]
    rfl

/-- The digits of a number are decimal ones. -/
theorem isDigit_of_mem_toDigits {n : Nat} {c : Char} (h : c ∈ Nat.toDigits 10 n) :
    isDigit c = true := by
  have hdigit := Nat.isDigit_of_mem_toDigits (by decide) (by decide) h
  simpa [Char.isDigit, isDigit, Char.le_def] using hdigit

/-- The digits of a number are read as the number. -/
theorem valueOnto_toDigits (n : Nat) : valueOnto 0 (Nat.toDigits 10 n) = n := by
  have hfold : Nat.ofDigitChars 10 (Nat.toDigits 10 n) 0 = _ := Nat.ofDigitChars_eq_foldl
  simp only [Nat.mul_comm 10] at hfold
  calc valueOnto 0 (Nat.toDigits 10 n) = Nat.ofDigitChars 10 (Nat.toDigits 10 n) 0 := hfold.symm
    _ = n := Nat.ofDigitChars_ten_toDigits

/-- Without its sign, a numeral is its digits. -/
theorem unsigned_eq_of_digits {cs ds : List Char} (h : cs = ds ∨ cs = '+' :: ds)
    (hdigits : ∀ c ∈ ds, '0' ≤ c ∧ c ≤ '9') : unsigned cs = ds := by
  rcases h with rfl | rfl
  · unfold unsigned
    split
    · -- A plus sign is no digit.
      exact absurd (hdigits '+' List.mem_cons_self) (by decide)
    · rfl
  · rfl

/-- A text is its part without the sign, perhaps behind a plus sign. -/
theorem eq_unsigned_or (cs : List Char) : cs = unsigned cs ∨ cs = '+' :: unsigned cs := by
  unfold unsigned
  split
  · exact .inr rfl
  · exact .inl rfl

/-- What a text denotes can be read off the part without the sign. -/
theorem denotes_iff (cs : List Char) (n : Nat) :
    Denotes cs n ↔ unsigned cs ≠ [] ∧ (unsigned cs).all isDigit = true ∧
      n = valueOnto 0 (unsigned cs) := by
  have hall (ds : List Char) : ds.all isDigit = true ↔ ∀ c ∈ ds, '0' ≤ c ∧ c ≤ '9' := by
    simp [List.all_eq_true, isDigit]
  constructor
  · rintro ⟨ds, hcs, hne, hdigits, hn⟩
    rw [unsigned_eq_of_digits hcs hdigits, valueOnto_zero]
    exact ⟨hne, (hall ds).2 hdigits, hn⟩
  · rintro ⟨hne, hdigits, hn⟩
    exact ⟨unsigned cs, eq_unsigned_or cs, hne, (hall _).1 hdigits, by rw [hn, valueOnto_zero]⟩

/-- A text denotes at most one number. -/
theorem Denotes.unique {cs : List Char} {n m : Nat} (hn : Denotes cs n) (hm : Denotes cs m) :
    n = m := by
  rw [((denotes_iff cs n).1 hn).2.2, ((denotes_iff cs m).1 hm).2.2]

/-- A text is read as a number exactly when it denotes it, and the number is not above the largest
one. -/
theorem read?_eq_some_iff (largest : Nat) (cs : List Char) (n : Nat) :
    read? largest cs = some n ↔ Denotes cs n ∧ n ≤ largest := by
  rw [denotes_iff, read?]
  dsimp only
  by_cases hdigits : ((unsigned cs).isEmpty || !(unsigned cs).all isDigit) = true
  · rw [if_pos hdigits]
    simp only [Bool.or_eq_true, List.isEmpty_iff, Bool.not_eq_true'] at hdigits
    refine iff_of_false nofun ?_
    rintro ⟨⟨hne, hall, -⟩, -⟩
    rcases hdigits with hempty | hother
    · exact hne hempty
    · rw [hall] at hother
      cases hother
  · rw [if_neg hdigits]
    simp only [Bool.or_eq_true, List.isEmpty_iff, Bool.not_eq_true', not_or,
      Bool.not_eq_false] at hdigits
    split_ifs with hle
    · rw [Option.some.injEq]
      exact ⟨fun h => ⟨⟨hdigits.1, hdigits.2, h.symm⟩, h ▸ hle⟩, fun h => h.1.2.2.symm⟩
    · refine iff_of_false nofun ?_
      rintro ⟨⟨-, -, rfl⟩, hn⟩
      exact hle hn

/-- A text is read as no number exactly when it denotes none up to the largest one. -/
theorem read?_eq_none_iff (largest : Nat) (cs : List Char) :
    read? largest cs = none ↔ ∀ n ≤ largest, ¬ Denotes cs n := by
  rw [Option.eq_none_iff_forall_ne_some]
  constructor
  · intro h n hn hdenotes
    exact h n ((read?_eq_some_iff largest cs n).2 ⟨hdenotes, hn⟩)
  · intro h n hread
    obtain ⟨hdenotes, hn⟩ := (read?_eq_some_iff largest cs n).1 hread
    exact h n hn hdenotes

end MainContent.Text.Numeral
