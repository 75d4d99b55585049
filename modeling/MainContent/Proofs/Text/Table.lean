import MainContent.Text.CodePoints
import MainContent.Text.RangeMap
import Mathlib.Data.Nat.Bitwise
import Std.Data.HashMap.Lemmas

/-!
# What is in a table

A search by halving finds a character in a table exactly when an interval of the table holds it, if
the intervals ascend (`CodePoints.contains_iff`); what is found is in the table in any case
(`CodePoints.exists_of_contains`, `RangeMap.exists_of_get?`, `mem_of_getElem?_ofList`).

To look through many characters at once, a table is written as one number, with a bit for each code
point (`testBit_mask`).
-/

namespace MainContent.Text

/-- An interval holds a code point. -/
def holds (n : Nat) (p : Nat × Nat) : Bool :=
  p.1 ≤ n && n ≤ p.2

@[simp] theorem holds_iff (n : Nat) (p : Nat × Nat) : holds n p = true ↔ p.1 ≤ n ∧ n ≤ p.2 := by
  simp [holds]

namespace CodePoints

/-- Intervals that are not empty, one behind the other from `low` on. -/
def ascendingFrom (low : Nat) : List (Nat × Nat) → Bool
  | [] => true
  | p :: rest => low ≤ p.1 && p.1 ≤ p.2 && ascendingFrom (p.2 + 1) rest

/-- All intervals lie from the bound on. -/
theorem bounds_of_ascendingFrom {low : Nat} {ps : List (Nat × Nat)}
    (h : ascendingFrom low ps = true) : ∀ p ∈ ps, low ≤ p.1 ∧ p.1 ≤ p.2 := by
  induction ps generalizing low with
  | nil => simp
  | cons q ps ih =>
    simp only [ascendingFrom, Bool.and_eq_true, decide_eq_true_eq] at h
    intro p hp
    rcases List.mem_cons.1 hp with rfl | hp
    · exact h.1
    · have hnext := ih h.2 p hp
      omega

/-- The bounds of the intervals ascend. -/
theorem pairwise_of_ascendingFrom {low : Nat} {ps : List (Nat × Nat)}
    (h : ascendingFrom low ps = true) : ps.Pairwise fun p q => p.1 < q.1 ∧ p.2 < q.2 := by
  induction ps generalizing low with
  | nil => exact .nil
  | cons p ps ih =>
    simp only [ascendingFrom, Bool.and_eq_true, decide_eq_true_eq] at h
    refine .cons (fun q hq => ?_) (ih h.2)
    have hnext := bounds_of_ascendingFrom h.2 q hq
    omega

/-- What a search finds is in an interval. -/
theorem exists_of_search {xs : Array (Nat × Nat)} {n low high : Nat}
    (h : search xs n low high = true) : ∃ p ∈ xs, holds n p = true := by
  fun_induction search xs n low high with
  | case1 low high hlt middle first last hmiddle hbefore ih => exact ih h
  | case2 low high hlt middle first last hmiddle hbefore hbehind ih => exact ih h
  | case3 low high hlt middle first last hmiddle hbefore hbehind =>
    exact ⟨_, Array.mem_of_getElem? hmiddle, by simp; omega⟩
  | case4 => cases h
  | case5 => cases h

/-- A search finds what is in one of the intervals that it looks through. -/
theorem search_of_holds {xs : Array (Nat × Nat)}
    (hxs : xs.toList.Pairwise fun p q => p.1 < q.1 ∧ p.2 < q.2) {n low high i : Nat} {p : Nat × Nat}
    (hp : xs[i]? = some p) (hn : holds n p = true) (hlow : low ≤ i) (hhigh : i < high)
    (hsize : high ≤ xs.size) : search xs n low high = true := by
  have hpairs := List.pairwise_iff_getElem.1 hxs
  obtain ⟨hi, rfl⟩ := Array.getElem?_eq_some_iff.1 hp
  rw [holds_iff] at hn
  fun_induction search xs n low high with
  | case1 low high hlt middle first last hmiddle hbefore ih =>
    obtain ⟨hm, hmid⟩ := Array.getElem?_eq_some_iff.1 hmiddle
    refine ih hlow ?_ (by omega)
    by_contra hnot
    rcases Nat.lt_or_eq_of_le (Nat.not_lt.1 hnot) with hlt' | rfl
    · have := (hpairs middle i hm hi hlt').1
      simp only [Array.getElem_toList, hmid] at this
      omega
    · simp only [hmid] at hn
      omega
  | case2 low high hlt middle first last hmiddle hbefore hbehind ih =>
    obtain ⟨hm, hmid⟩ := Array.getElem?_eq_some_iff.1 hmiddle
    refine ih ?_ hhigh hsize
    by_contra hnot
    rcases Nat.lt_or_eq_of_le (Nat.le_of_lt_succ (Nat.not_le.1 hnot)) with hlt' | rfl
    · have := (hpairs i middle hi hm hlt').2
      simp only [Array.getElem_toList, hmid] at this
      omega
    · simp only [hmid] at hn
      omega
  | case3 => rfl
  | case4 low high hlt middle hnone =>
    have := Array.getElem?_eq_none_iff.1 hnone
    omega
  | case5 low high hlt => omega

/-- What a table contains is in one of its intervals. -/
theorem exists_of_contains {s : CodePoints} {c : Char} (h : s.contains c = true) :
    ∃ p ∈ s.intervals.toList, holds c.toNat p = true := by
  obtain ⟨p, hp, hn⟩ := exists_of_search h
  exact ⟨p, hp.val, hn⟩

/-- A table of ascending intervals contains exactly what its intervals hold. -/
theorem contains_iff {s : CodePoints} {low : Nat}
    (hs : ascendingFrom low s.intervals.toList = true) (c : Char) :
    s.contains c = true ↔ s.intervals.toList.any (holds c.toNat) = true := by
  rw [List.any_eq_true]
  refine ⟨exists_of_contains, ?_⟩
  rintro ⟨p, hp, hn⟩
  obtain ⟨i, hi, hget⟩ := List.getElem_of_mem hp
  have hsome : s.intervals[i]? = some p := by
    rw [Array.getElem?_eq_some_iff]
    exact ⟨hi, hget⟩
  exact search_of_holds (pairwise_of_ascendingFrom hs) hsome hn (Nat.zero_le i) hi le_rfl

/-! ## Tables in lines -/

/-- No interval that is written in lines holds a code point. -/
def Outside (n : Nat) (lines : List String) : Prop :=
  ∀ token ∈ tokens lines, holds n (interval token) = false

theorem Outside.nil (n : Nat) : Outside n [] :=
  List.forall_mem_nil _

/-- Lines are looked through one at a time, by their characters. -/
theorem Outside.cons {n : Nat} {text : List Char} {lines : List String}
    (h : (text.splitOn ' ').all (fun token => !holds n (interval token)) = true)
    (hlines : Outside n lines) : Outside n (String.ofList text :: lines) := by
  intro token htoken
  rw [tokens, List.flatMap_cons, String.toList_ofList, List.mem_append] at htoken
  rcases htoken with hmem | hmem
  · simpa using List.all_eq_true.1 h token hmem
  · exact hlines token hmem

/-- A table does not contain a character that no interval in its lines holds. -/
theorem not_contains_of_outside {lines : List String} {c : Char} (h : Outside c.toNat lines) :
    (ofLines lines).contains c = false := by
  rw [← Bool.not_eq_true]
  intro hcontains
  obtain ⟨p, hp, hholds⟩ := exists_of_contains hcontains
  obtain ⟨token, htoken, rfl⟩ := List.mem_map.1 hp
  rw [h token htoken] at hholds
  cases hholds

/-! ## Tables as numbers -/

/-- A number with the bits from `first` to `last` set. -/
def bits (p : Nat × Nat) : Nat :=
  (2 ^ (p.2 + 1 - p.1) - 1) <<< p.1

/-- The number whose bits are set for the code points in some intervals. -/
def mask (ps : List (Nat × Nat)) : Nat :=
  ps.foldl (fun m p => m ||| bits p) 0

theorem testBit_bits (p : Nat × Nat) (n : Nat) : (bits p).testBit n = holds n p := by
  rw [bits, Nat.testBit_shiftLeft, Nat.testBit_two_pow_sub_one, holds]
  by_cases hlow : p.1 ≤ n
  · have : (n - p.1 < p.2 + 1 - p.1) ↔ n ≤ p.2 := by omega
    simp [hlow, this]
  · simp [hlow]

/-- The bit of a code point is set exactly when an interval holds it. -/
theorem testBit_mask (ps : List (Nat × Nat)) (n : Nat) :
    (mask ps).testBit n = ps.any (holds n) := by
  have hfold : ∀ m, (ps.foldl (fun m p => m ||| bits p) m).testBit n =
      (m.testBit n || ps.any (holds n)) := by
    induction ps with
    | nil => simp
    | cons p ps ih =>
      intro m
      rw [List.foldl_cons, ih, Nat.testBit_or, testBit_bits, List.any_cons, Bool.or_assoc]
  rw [mask, hfold, Nat.zero_testBit, Bool.false_or]

/-- The number whose bits are set for the code points below a bound in some intervals. -/
def maskBelow (bound : Nat) (ps : List (Nat × Nat)) : Nat :=
  mask ((ps.filter (·.1 < bound)).map fun p => (p.1, min p.2 (bound - 1)))

/-- The bit of a code point below the bound is set exactly when an interval holds it. -/
theorem testBit_maskBelow {bound n : Nat} (hn : n < bound) (ps : List (Nat × Nat)) :
    (maskBelow bound ps).testBit n = ps.any (holds n) := by
  rw [maskBelow, testBit_mask, List.any_map, List.any_filter]
  refine congrArg ps.any (funext fun p => ?_)
  rw [Bool.eq_iff_iff]
  simp only [Function.comp_apply, Bool.and_eq_true, decide_eq_true_eq, holds_iff]
  omega

end CodePoints

namespace RangeMap

variable {α : Type}

/-- What a search finds is the value of an interval. -/
theorem exists_of_search {xs : Array (Nat × Nat × α)} {n low high : Nat} {value : α}
    (h : search xs n low high = some value) :
    ∃ first last, (first, last, value) ∈ xs ∧ first ≤ n ∧ n ≤ last := by
  fun_induction search xs n low high with
  | case1 low high hlt middle first last found hmiddle hbefore ih => exact ih h
  | case2 low high hlt middle first last found hmiddle hbefore hbehind ih => exact ih h
  | case3 low high hlt middle first last found hmiddle hbefore hbehind =>
    cases h
    exact ⟨first, last, Array.mem_of_getElem? hmiddle, Nat.not_lt.1 hbefore, Nat.not_lt.1 hbehind⟩
  | case4 => cases h
  | case5 => cases h

/-- The value of a character is the one of an interval that holds it. -/
theorem exists_of_get? {m : RangeMap α} {c : Char} {value : α} (h : m.get? c = some value) :
    ∃ first last, (first, last, value) ∈ m.entries.toList ∧ first ≤ c.toNat ∧ c.toNat ≤ last := by
  obtain ⟨first, last, hmem, hbounds⟩ := exists_of_search h
  exact ⟨first, last, hmem.val, hbounds⟩

end RangeMap

section Lookup

variable {β : Type} {l : List (Nat × β)} {k : Nat}

/-- A hash table of some pairs holds the value of the last pair with the key. -/
theorem getElem?_ofList : (Std.HashMap.ofList l)[k]? =
    l.reverse.findSome? fun e => if e.1 == k then some e.2 else none := by
  rw [Std.HashMap.ofList_eq_insertMany_empty, Std.HashMap.getElem?_insertMany_list,
    Std.HashMap.getElem?_empty, Option.or_none, List.findSomeRev?_eq_findSome?_reverse]

/-- What it holds is one of the pairs. -/
theorem mem_of_getElem?_ofList {v : β} (h : (Std.HashMap.ofList l)[k]? = some v) : (k, v) ∈ l := by
  rw [getElem?_ofList] at h
  obtain ⟨e, he, hv⟩ := List.exists_of_findSome?_eq_some h
  split at hv
  · rename_i hkey
    rw [← eq_of_beq hkey, ← Option.some.inj hv]
    exact List.mem_reverse.1 he
  · cases hv

/-- It holds nothing for a key exactly when no pair has the key. -/
theorem getElem?_ofList_eq_none_iff :
    (Std.HashMap.ofList l)[k]? = none ↔ ∀ e ∈ l, e.1 ≠ k := by
  simp [getElem?_ofList]

end Lookup

end MainContent.Text
