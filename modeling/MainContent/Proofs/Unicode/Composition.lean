import MainContent.Proofs.Text.Part
import MainContent.Proofs.Unicode.Decomposition
import MainContent.Proofs.Unicode.MarkOrder
import Mathlib.Data.List.Flatten

/-!
# The composed form

Composing a text that has been taken apart loses nothing: taken apart again it is the same up to the
order of its marks (`sameMarks_composeFrom`). So a composed form that is taken apart and composed again
is what it was (`composedForm_cases`), and as dots keep apart what stands between them, each of its
labels is its own composed form (`composedForm_of_mem_splitOn`).
-/

namespace MainContent.Unicode

/-! ## Taking apart what was composed -/

/-- Characters that are not taken apart stand for themselves. -/
theorem flatMap_takeApart_of_plain {cs : List Char} (h : ∀ c ∈ cs, Plain c) :
    cs.flatMap (takeApart 8) = cs := by
  rw [List.flatMap_congr fun c hc => takeApart_of_plain (h c hc) 8, List.flatMap_singleton']

/-- What composing has before it: the marks that it skipped, the latest of which has the class
`last`, and the rest of a text in order. -/
structure Ahead (skipped : List Char) (last : Nat) (cs : List Char) : Prop where
  /-- The characters are not taken apart. -/
  plain : ∀ c ∈ skipped ++ cs, Plain c
  /-- The skipped characters are marks of no higher class than the latest. -/
  marks : ∀ d ∈ skipped, combiningClass d ≠ 0 ∧ combiningClass d ≤ last
  /-- There is no latest class unless a mark was skipped. -/
  none : skipped = [] → last = 0
  /-- The rest is in order. -/
  inOrder : InOrder last cs

/-- The skipped marks stand for themselves. -/
theorem Ahead.flatMap_skipped {skipped : List Char} {last : Nat} {cs : List Char}
    (h : Ahead skipped last cs) : skipped.reverse.flatMap (takeApart 8) = skipped.reverse :=
  flatMap_takeApart_of_plain fun d hd => h.plain d (List.mem_append_left _ (List.mem_reverse.1 hd))

/-- The next character is a starter, or a mark of at least the latest class. -/
theorem Ahead.class_le {skipped : List Char} {last : Nat} {c : Char} {cs : List Char}
    (h : Ahead skipped last (c :: cs)) (hc : combiningClass c ≠ 0) : last ≤ combiningClass c :=
  h.inOrder.1.resolve_left hc

/-- Before a starter, composing begins anew. -/
theorem Ahead.begin {cs : List Char} (hplain : ∀ c ∈ cs, Plain c) {k : Nat} (h : InOrder k cs) :
    Ahead [] 0 cs where
  plain := hplain
  marks := by simp
  none _ := rfl
  inOrder := h.mono (Nat.zero_le k)

/-- A mark is skipped. -/
theorem Ahead.skip {skipped : List Char} {last : Nat} {c : Char} {cs : List Char}
    (h : Ahead skipped last (c :: cs)) (hc : combiningClass c ≠ 0) :
    Ahead (c :: skipped) (combiningClass c) cs where
  plain d hd := h.plain d (by simpa [or_left_comm] using hd)
  marks d hd := by
    rcases List.mem_cons.1 hd with rfl | hd
    · exact ⟨hc, le_rfl⟩
    · exact ⟨(h.marks d hd).1, (h.marks d hd).2.trans (h.class_le hc)⟩
  none := nofun
  inOrder := h.inOrder.2

/-- A character composes with the starter if no mark stands between that keeps them apart. -/
theorem Ahead.take {skipped : List Char} {last : Nat} {c : Char} {cs : List Char}
    (h : Ahead skipped last (c :: cs)) (hfree : skipped = [] ∨ last < combiningClass c) :
    Ahead skipped last cs where
  plain d hd := h.plain d (by simp at hd ⊢; tauto)
  marks := h.marks
  none := h.none
  inOrder := by
    rcases hfree with rfl | hlt
    · rw [h.none rfl]
      exact h.inOrder.2.mono (Nat.zero_le _)
    · exact h.inOrder.2.mono hlt.le

/-- Such a character may as well stand before the marks that were skipped. -/
theorem Ahead.move {skipped : List Char} {last : Nat} {c : Char} {cs : List Char}
    (h : Ahead skipped last (c :: cs)) (hfree : skipped = [] ∨ last < combiningClass c) :
    SameMarks (c :: (skipped.reverse ++ cs)) (skipped.reverse ++ c :: cs) := by
  rcases hfree with rfl | hlt
  · exact .refl _
  · refine sameMarks_move (by omega) (fun d hd => ?_) cs
    obtain ⟨hmark, hle⟩ := h.marks d (List.mem_reverse.1 hd)
    exact ⟨hmark, by omega⟩

/-- What is composed from a starter on is taken apart into the parts of the starter, the marks that
were skipped and the rest, up to the order of marks. -/
theorem sameMarks_composeFrom {starter : Char} {skipped : List Char} {last : Nat} {cs : List Char}
    (h : Ahead skipped last cs) :
    SameMarks ((composeFrom starter skipped last cs).flatMap (takeApart 8))
      (takeApart 8 starter ++ (skipped.reverse ++ cs)) := by
  fun_induction composeFrom starter skipped last cs with
  | case1 starter skipped last =>
    rw [List.flatMap_cons, h.flatMap_skipped, List.append_nil]
    exact .refl _
  | case2 starter skipped last c cs k blocked made hmade ih =>
    -- The character composes with the starter, as no mark keeps them apart.
    split at hmade
    · cases hmade
    · rename_i hblocked
      have hfree : skipped = [] ∨ last < combiningClass c := by
        simp only [blocked, k, Bool.and_eq_true, Bool.or_eq_true, Bool.not_eq_true',
          List.isEmpty_eq_false_iff, decide_eq_true_eq, not_and, not_or] at hblocked
        by_cases hnil : skipped = []
        · exact .inl hnil
        · exact .inr (Nat.not_le.1 (hblocked hnil).2)
      have hmoved := (h.move hfree).append_left (takeApart 8 starter)
      have hparts : takeApart 8 made ++ (skipped.reverse ++ cs) =
          takeApart 8 starter ++ c :: (skipped.reverse ++ cs) := by
        rw [takeApart_of_compose? hmade, List.append_assoc, List.singleton_append]
      exact (ih (h.take hfree)).trans (hparts ▸ hmoved)
  | case3 starter skipped last c cs k blocked hnone hk ih =>
    -- The character is the next starter.
    have hc : Plain c := h.plain c (by simp)
    have hnext := ih (.begin (fun d hd => h.plain d (by simp [hd])) h.inOrder.2)
    rw [takeApart_of_plain hc] at hnext
    rw [List.flatMap_cons, List.flatMap_append, h.flatMap_skipped]
    exact (hnext.append_left _).append_left _
  | case4 starter skipped last c cs k blocked hnone hk ih =>
    -- The character is one more mark to skip.
    have hnext := ih (h.skip hk)
    rwa [List.reverse_cons, List.append_assoc, List.singleton_append] at hnext

/-- A composed text is taken apart into what it was composed of, up to the order of marks. -/
theorem sameMarks_composeAll {cs : List Char} (hplain : ∀ c ∈ cs, Plain c) {k : Nat}
    (h : InOrder k cs) : SameMarks ((composeAll cs).flatMap (takeApart 8)) cs := by
  induction cs generalizing k with
  | nil => exact .refl _
  | cons c cs ih =>
    obtain ⟨hc, hcs⟩ := List.forall_mem_cons.1 hplain
    unfold composeAll
    split
    · have hnext : SameMarks ((composeFrom c [] 0 cs).flatMap (takeApart 8))
          (takeApart 8 c ++ cs) := sameMarks_composeFrom (.begin hcs h.2)
      rwa [takeApart_of_plain hc] at hnext
    · rw [List.flatMap_cons, takeApart_of_plain hc]
      exact (ih hcs h.2).append_left [c]

/-! ## The composed form of a composed form -/

/-- A text taken apart, with its marks in order. -/
def apart (cs : List Char) : List Char :=
  orderMarks [] (cs.flatMap (takeApart 8))

theorem plain_of_mem_apart {cs : List Char} : ∀ c ∈ apart cs, Plain c := by
  intro c hc
  have hparts := mem_orderMarks.1 hc
  exact plain_of_mem_flatMap c (hparts.resolve_left (by simp))

/-- Composing what was taken apart, and taking it apart again, changes nothing. -/
theorem apart_composeAll (cs : List Char) : apart (composeAll (apart cs)) = apart cs := by
  have hsame := sameMarks_composeAll plain_of_mem_apart (inOrder_orderMarks .nil _ : InOrder 0 (apart cs))
  calc apart (composeAll (apart cs)) = orderMarks [] (apart cs) := hsame []
    _ = apart cs := orderMarks_orderMarks _

/-- A composed form is made of characters below the first mark, or is composed of what it is taken
apart into. -/
theorem composedForm_cases (cs : List Char) :
    (∀ c ∈ composedForm cs, c.toNat < 0x300) ∨
      composeAll (apart (composedForm cs)) = composedForm cs := by
  unfold composedForm
  split
  · rename_i hlow
    exact .inl (by simpa using hlow)
  · exact .inr (congrArg composeAll (apart_composeAll cs))

/-- A text of which one of the two is true is its own composed form. -/
theorem composedForm_eq_self {cs : List Char}
    (h : (∀ c ∈ cs, c.toNat < 0x300) ∨ composeAll (apart cs) = cs) : composedForm cs = cs := by
  unfold composedForm
  split
  · rfl
  · rename_i hhigh
    exact h.resolve_left (by simpa using hhigh)

/-! ## What composing keeps -/

/-- A property that is inherited goes from the characters of a text to those that they compose to. -/
theorem Inherited.composeFrom {P : Char → Prop} (hP : Inherited P) {starter : Char}
    {skipped : List Char} {last : Nat} {cs : List Char} (hstarter : P starter)
    (hskipped : ∀ d ∈ skipped, P d) (hcs : ∀ c ∈ cs, P c) :
    ∀ x ∈ composeFrom starter skipped last cs, P x := by
  fun_induction Unicode.composeFrom starter skipped last cs with
  | case1 starter skipped last => simpa [hstarter] using hskipped
  | case2 starter skipped last c cs k blocked made hmade ih =>
    split at hmade
    · cases hmade
    · obtain ⟨hc, hcs⟩ := List.forall_mem_cons.1 hcs
      exact ih (hP.compose? hstarter hc hmade) hskipped hcs
  | case3 starter skipped last c cs k blocked hnone hk ih =>
    obtain ⟨hc, hcs⟩ := List.forall_mem_cons.1 hcs
    have hrest := ih hc (by simp) hcs
    simp only [List.forall_mem_cons, List.forall_mem_append, List.mem_reverse]
    exact ⟨hstarter, hskipped, hrest⟩
  | case4 starter skipped last c cs k blocked hnone hk ih =>
    obtain ⟨hc, hcs⟩ := List.forall_mem_cons.1 hcs
    exact ih hstarter (List.forall_mem_cons.2 ⟨hc, hskipped⟩) hcs

theorem Inherited.composeAll {P : Char → Prop} (hP : Inherited P) {cs : List Char}
    (hcs : ∀ c ∈ cs, P c) : ∀ x ∈ composeAll cs, P x := by
  induction cs with
  | nil => exact hcs
  | cons c cs ih =>
    obtain ⟨hc, hcs⟩ := List.forall_mem_cons.1 hcs
    unfold Unicode.composeAll
    split
    · exact hP.composeFrom hc (by simp) hcs
    · exact List.forall_mem_cons.2 ⟨hc, ih hcs⟩

theorem Inherited.apart {P : Char → Prop} (hP : Inherited P) {cs : List Char}
    (hcs : ∀ c ∈ cs, P c) : ∀ x ∈ apart cs, P x := by
  intro x hx
  obtain ⟨c, hc, hx⟩ := List.mem_flatMap.1 ((mem_orderMarks.1 hx).resolve_left (by simp))
  exact hP.takeApart (hcs c hc) 8 x hx

theorem Inherited.composedForm {P : Char → Prop} (hP : Inherited P) {cs : List Char}
    (hcs : ∀ c ∈ cs, P c) : ∀ x ∈ composedForm cs, P x := by
  unfold Unicode.composedForm
  split
  · exact hcs
  · exact hP.composeAll (hP.apart hcs)

/-! ## Labels -/

/-- Composing does not look past a dot. -/
theorem composeFrom_append_dot (starter : Char) (skipped : List Char) (last : Nat)
    (xs ys : List Char) : composeFrom starter skipped last (xs ++ '.' :: ys) =
      composeFrom starter skipped last xs ++ composeFrom '.' [] 0 ys := by
  have hdot : combiningClass '.' = 0 := rfl
  fun_induction composeFrom starter skipped last xs with
  | case1 starter skipped last =>
    rw [List.nil_append, composeFrom, compose?_of_dot (.inr rfl), ite_self]
    simp [hdot]
  | case2 starter skipped last c cs k blocked made hmade ih =>
    rw [List.cons_append, composeFrom, hmade]
    exact ih
  | case3 starter skipped last c cs k blocked hnone hk ih =>
    have hzero : combiningClass c = 0 := hk
    rw [List.cons_append, composeFrom, hnone]
    simp [hzero, ih]
  | case4 starter skipped last c cs k blocked hnone hk ih =>
    have hmark : combiningClass c ≠ 0 := hk
    rw [List.cons_append, composeFrom, hnone]
    simpa [hmark] using ih

/-- Behind a dot, composing begins with the next starter. -/
theorem composeFrom_dot (skipped : List Char) (last : Nat) (cs : List Char) :
    composeFrom '.' skipped last cs = '.' :: (skipped.reverse ++ composeAll cs) := by
  induction cs generalizing skipped last with
  | nil => simp [composeFrom, composeAll]
  | cons c cs ih =>
    rw [composeFrom, compose?_of_dot (.inl rfl), ite_self, composeAll]
    by_cases hc : combiningClass c = 0
    · simp [hc]
    · simp [hc, ih]

theorem composeAll_append_dot (xs ys : List Char) :
    composeAll (xs ++ '.' :: ys) = composeAll xs ++ '.' :: composeAll ys := by
  have hdot : combiningClass '.' = 0 := rfl
  induction xs with
  | nil => simp [composeAll, hdot, composeFrom_dot]
  | cons c xs ih =>
    rw [List.cons_append, composeAll, composeAll]
    split
    · rw [composeFrom_append_dot, composeFrom_dot]
      rfl
    · rw [ih]
      rfl

/-- Nor does taking apart. -/
theorem apart_append_dot (xs ys : List Char) : apart (xs ++ '.' :: ys) = apart xs ++ '.' :: apart ys := by
  unfold apart
  rw [List.flatMap_append, List.flatMap_cons, takeApart_of_plain plain_dot, List.singleton_append,
    orderMarks_append rfl]

/-- What is between two dots is composed on its own. -/
theorem splitOn_composeAll_apart (cs : List Char) :
    (composeAll (apart cs)).splitOn '.' = (cs.splitOn '.').map fun label =>
      composeAll (apart label) := by
  refine Text.splitOn_map (f := fun xs => composeAll (apart xs)) (fun xs ys => ?_)
    (fun xs hxs hdot => ?_) cs
  · rw [apart_append_dot, composeAll_append_dot]
  · have hne : ∀ x ∈ composeAll (apart xs), x ≠ '.' :=
      inherited_ne_dot.composeAll (inherited_ne_dot.apart fun x hx heq => hxs (heq ▸ hx))
    exact hne _ hdot rfl

/-- The labels of a composed form are composed forms. -/
theorem composedForm_of_mem_splitOn {cs label : List Char}
    (h : label ∈ (composedForm cs).splitOn '.') : composedForm label = label := by
  refine composedForm_eq_self ?_
  rcases composedForm_cases cs with hlow | hself
  · exact .inl fun c hc => hlow c (Text.mem_of_mem_splitOn h c hc)
  · have hlabels := splitOn_composeAll_apart (composedForm cs)
    rw [hself] at hlabels
    rw [← List.map_id ((composedForm cs).splitOn '.'), List.map_map] at hlabels
    exact .inr (List.map_inj_left.1 hlabels label h).symm

end MainContent.Unicode
