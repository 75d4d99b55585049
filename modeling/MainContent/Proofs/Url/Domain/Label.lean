import MainContent.Proofs.Text.Table
import MainContent.Url.Domain.Ascii

/-!
# Labels that no rule is about

The rules for labels are about marks, joiners and characters that run from right to left. A label
without them is sound (`isSound_of_unruled`) and keeps to the rules of direction
(`directionsKept_of_unruled`).
-/

namespace MainContent.Url.Domain

open MainContent.Unicode

/-- A character that no rule for labels is about. -/
structure Unruled (c : Char) : Prop where
  /-- It is no mark. -/
  mark : marks.contains c = false
  /-- It does not join. -/
  joiner : c ≠ joiner
  /-- It does not keep from joining. -/
  nonJoiner : c ≠ nonJoiner
  /-- It does not run from right to left. -/
  turns : turns (bidiClass c) = false

/-- The code points before U+0300 and those of the second plane of ideographs. -/
def unruledRange (n : Nat) : Bool :=
  n < 0x300 || (0x20000 ≤ n && n < 0x30000)

/-- No code point of an interval is in the range. -/
def outside (first last : Nat) : Bool :=
  0x300 ≤ first && (last < 0x20000 || 0x30000 ≤ first)

theorem marks_outside : marks.intervals.toList.all (fun p => outside p.1 p.2) = true := by
  decide +kernel

theorem turning_outside :
    bidiClasses.entries.toList.all (fun e => !turns e.2.2 || outside e.1 e.2.1) = true := by
  decide +kernel

/-- What an interval outside the range holds is not in the range. -/
theorem not_unruledRange {first last n : Nat} (h : outside first last = true) (hfirst : first ≤ n)
    (hlast : n ≤ last) : unruledRange n = false := by
  simp only [outside, unruledRange, Bool.and_eq_true, Bool.or_eq_true, decide_eq_true_eq,
    Bool.or_eq_false_iff, Bool.and_eq_false_iff, decide_eq_false_iff_not] at h ⊢
  omega

/-- No rule is about the characters of the range. -/
theorem unruled_of_range {c : Char} (h : unruledRange c.toNat = true) : Unruled c := by
  constructor
  · rw [← Bool.not_eq_true]
    intro hmark
    obtain ⟨p, hp, hc⟩ := Text.CodePoints.exists_of_contains hmark
    rw [Text.holds_iff] at hc
    rw [not_unruledRange (List.all_eq_true.1 marks_outside p hp) hc.1 hc.2] at h
    cases h
  · rintro rfl
    cases h
  · rintro rfl
    cases h
  · rw [← Bool.not_eq_true]
    intro hturns
    cases hclass : bidiClasses.get? c with
    | none =>
      rw [bidiClass, hclass] at hturns
      cases hturns
    | some k =>
      obtain ⟨first, last, hmem, hfirst, hlast⟩ := Text.RangeMap.exists_of_get? hclass
      rw [bidiClass, hclass, Option.getD_some] at hturns
      have hentry := List.all_eq_true.1 turning_outside _ hmem
      dsimp only at hentry
      rw [hturns, Bool.not_true, Bool.false_or] at hentry
      rw [not_unruledRange hentry hfirst hlast] at h
      cases h

/-- A label of such characters is sound. -/
theorem isSound_of_unruled {label : List Char} (h : ∀ c ∈ label, Unruled c) :
    isSound label = true := by
  have hjoiners (before : List Char) : joinersInPlace before label = true := by
    induction label generalizing before with
    | nil => rfl
    | cons c cs ih =>
      obtain ⟨hc, hcs⟩ := List.forall_mem_cons.1 h
      rw [joinersInPlace, if_neg hc.joiner, if_neg hc.nonJoiner, ih hcs]
      rfl
  have hfirst : label.head?.any marks.contains = false := by
    cases label with
    | nil => rfl
    | cons c cs => exact (h c List.mem_cons_self).mark
  rw [isSound, hjoiners, hfirst]
  rfl

/-- Labels of such characters keep to the rules of direction. -/
theorem directionsKept_of_unruled {labels : List (List Char)}
    (h : ∀ label ∈ labels, ∀ c ∈ label, Unruled c) : directionsKept labels = true := by
  have hturns : (labels.any fun l => l.any fun c => turns (bidiClass c)) = false :=
    List.any_eq_false.2 fun label hlabel => Bool.not_eq_true _ ▸
      List.any_eq_false.2 fun c hc => Bool.not_eq_true _ ▸ (h label hlabel c hc).turns
  rw [directionsKept, hturns]
  rfl

end MainContent.Url.Domain
