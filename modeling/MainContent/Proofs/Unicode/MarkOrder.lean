import MainContent.Unicode.Composition
import Mathlib.Data.List.Basic

/-!
# The order of marks

Marks of different classes may change places without another text arising (`orderMarks_swap`). So two
texts are the same up to the order of their marks when every way of reading marks before them orders
them to the same (`SameMarks`). A text whose marks stand in the order of their classes is left alone
(`orderMarks_of_inOrder`), and ordering the marks brings them into that order (`inOrder_orderMarks`).
-/

namespace MainContent.Unicode

/-! ## Insertion of a mark -/

/-- A mark goes past the marks of its own class and of lower ones. -/
theorem insertMark_cons_of_le {c d : Char} (h : combiningClass d ≤ combiningClass c)
    (ms : List Char) : insertMark c (d :: ms) = d :: insertMark c ms :=
  if_pos h

/-- A mark stands before those of higher classes. -/
theorem insertMark_cons_of_lt {c d : Char} (h : combiningClass c < combiningClass d)
    (ms : List Char) : insertMark c (d :: ms) = c :: d :: ms :=
  if_neg (Nat.not_le.2 h)

@[simp] theorem mem_insertMark {c x : Char} {ms : List Char} :
    x ∈ insertMark c ms ↔ x = c ∨ x ∈ ms := by
  induction ms with
  | nil => simp [insertMark]
  | cons d ms ih =>
    unfold insertMark
    split
    · simp [ih, or_left_comm]
    · simp

/-- A mark whose class none of the marks exceeds comes last. -/
theorem insertMark_of_le {c : Char} {ms : List Char}
    (h : ∀ d ∈ ms, combiningClass d ≤ combiningClass c) : insertMark c ms = ms ++ [c] := by
  induction ms with
  | nil => rfl
  | cons d ms ih =>
    obtain ⟨hd, hms⟩ := List.forall_mem_cons.1 h
    rw [insertMark_cons_of_le hd, ih hms]
    rfl

/-- Insertion keeps the order of the classes. -/
theorem pairwise_insertMark {c : Char} {ms : List Char}
    (h : ms.Pairwise (combiningClass · ≤ combiningClass ·)) :
    (insertMark c ms).Pairwise (combiningClass · ≤ combiningClass ·) := by
  induction ms with
  | nil => exact List.pairwise_singleton ..
  | cons d ms ih =>
    obtain ⟨hd, hms⟩ := List.pairwise_cons.1 h
    rcases Nat.lt_or_ge (combiningClass c) (combiningClass d) with hlt | hle
    · rw [insertMark_cons_of_lt hlt]
      refine List.pairwise_cons.2 ⟨fun x hx => ?_, h⟩
      rcases List.mem_cons.1 hx with rfl | hx
      · exact Nat.le_of_lt hlt
      · exact Nat.le_trans (Nat.le_of_lt hlt) (hd x hx)
    · rw [insertMark_cons_of_le hle]
      refine List.pairwise_cons.2 ⟨fun x hx => ?_, ih hms⟩
      rcases mem_insertMark.1 hx with rfl | hx
      · exact hle
      · exact hd x hx

/-- A mark of a lower class may be inserted before or after one of a higher class. -/
theorem insertMark_comm_of_lt {c d : Char} (hlt : combiningClass c < combiningClass d)
    (ms : List Char) :
    insertMark c (insertMark d ms) = insertMark d (insertMark c ms) := by
  have hle : combiningClass c ≤ combiningClass d := Nat.le_of_lt hlt
  induction ms with
  | nil =>
    rw [insertMark, insertMark, insertMark_cons_of_lt hlt, insertMark_cons_of_le hle]
    rfl
  | cons e ms ih =>
    -- Only where both go past `e` is there anything left of the list to look at.
    rcases Nat.lt_or_ge (combiningClass c) (combiningClass e) with hce | hec
    · rcases Nat.lt_or_ge (combiningClass d) (combiningClass e) with hde | hed
      · rw [insertMark_cons_of_lt hde, insertMark_cons_of_lt hlt, insertMark_cons_of_lt hce,
          insertMark_cons_of_le hle, insertMark_cons_of_lt hde]
      · rw [insertMark_cons_of_le hed, insertMark_cons_of_lt hce, insertMark_cons_of_lt hce,
          insertMark_cons_of_le hle, insertMark_cons_of_le hed]
    · have hed : combiningClass e ≤ combiningClass d := Nat.le_trans hec hle
      rw [insertMark_cons_of_le hed, insertMark_cons_of_le hec, insertMark_cons_of_le hec,
        insertMark_cons_of_le hed, ih]

/-- Marks of different classes may be inserted in either order. -/
theorem insertMark_comm {c d : Char} (hne : combiningClass c ≠ combiningClass d)
    (ms : List Char) :
    insertMark c (insertMark d ms) = insertMark d (insertMark c ms) := by
  rcases Nat.lt_or_gt_of_ne hne with hcd | hdc
  · exact insertMark_comm_of_lt hcd ms
  · exact (insertMark_comm_of_lt hdc ms).symm

/-! ## Texts with the same marks -/

/-- Two texts are the same up to the order of their marks. -/
def SameMarks (xs ys : List Char) : Prop :=
  ∀ ms, orderMarks ms xs = orderMarks ms ys

theorem SameMarks.refl (xs : List Char) : SameMarks xs xs := fun _ => rfl

theorem SameMarks.trans {xs ys zs : List Char} (h : SameMarks xs ys) (h' : SameMarks ys zs) :
    SameMarks xs zs := fun ms => (h ms).trans (h' ms)

/-- What stands before two such texts does not matter. -/
theorem SameMarks.append_left {xs ys : List Char} (h : SameMarks xs ys) (zs : List Char) :
    SameMarks (zs ++ xs) (zs ++ ys) := by
  induction zs with
  | nil => exact h
  | cons c zs ih =>
    intro ms
    simp only [List.cons_append, orderMarks]
    split
    · rw [ih []]
    · exact ih _

/-- Two marks of different classes may change places. -/
theorem orderMarks_swap {c d : Char} (hc : combiningClass c ≠ 0) (hd : combiningClass d ≠ 0)
    (hne : combiningClass c ≠ combiningClass d) (cs : List Char) :
    SameMarks (c :: d :: cs) (d :: c :: cs) := by
  intro ms
  simp only [orderMarks, if_neg hc, if_neg hd]
  rw [insertMark_comm hne.symm]

/-- A mark may go past marks of other classes. -/
theorem sameMarks_move {c : Char} {ms : List Char} (hc : combiningClass c ≠ 0)
    (h : ∀ d ∈ ms, combiningClass d ≠ 0 ∧ combiningClass d ≠ combiningClass c) (cs : List Char) :
    SameMarks (c :: (ms ++ cs)) (ms ++ c :: cs) := by
  induction ms with
  | nil => exact .refl _
  | cons d ms ih =>
    obtain ⟨⟨hd, hne⟩, hms⟩ := List.forall_mem_cons.1 h
    exact (orderMarks_swap hc hd hne.symm _).trans ((ih hms).append_left [d])

/-! ## Texts in order -/

/-- The marks of a text stand in the order of their classes; the first of them has at least the
class `k`. -/
def InOrder (k : Nat) : List Char → Prop
  | [] => True
  | c :: cs => (combiningClass c = 0 ∨ k ≤ combiningClass c) ∧ InOrder (combiningClass c) cs

theorem InOrder.mono {k l : Nat} {cs : List Char} (h : InOrder l cs) (hkl : k ≤ l) :
    InOrder k cs := by
  cases cs with
  | nil => trivial
  | cons c cs => exact ⟨h.1.imp_right (Nat.le_trans hkl), h.2⟩

/-- A text in order is left alone. -/
theorem orderMarks_of_inOrder {k : Nat} {ms cs : List Char} (h : InOrder k cs)
    (hms : ∀ d ∈ ms, combiningClass d ≤ k) : orderMarks ms cs = ms ++ cs := by
  induction cs generalizing k ms with
  | nil => simp [orderMarks]
  | cons c cs ih =>
    obtain ⟨hc, hcs⟩ := h
    unfold orderMarks
    split
    · rename_i hzero
      rw [ih hcs (by simp)]
      rfl
    · rename_i hmark
      have hk := hc.resolve_left hmark
      have hle : ∀ d ∈ ms, combiningClass d ≤ combiningClass c := fun d hd => Nat.le_trans (hms d hd) hk
      rw [insertMark_of_le hle, ih hcs]
      · simp
      · intro d hd
        rcases List.mem_append.1 hd with hd | hd
        · exact hle d hd
        · exact Nat.le_of_eq (congrArg _ (List.mem_singleton.1 hd))

/-- Marks in the order of their classes may stand before what is in order after any mark. -/
theorem inOrder_append {k : Nat} {ms cs : List Char} (hk : ∀ d ∈ ms, k ≤ combiningClass d)
    (hms : ms.Pairwise (combiningClass · ≤ combiningClass ·)) (hcs : ∀ l, InOrder l cs) :
    InOrder k (ms ++ cs) := by
  induction ms generalizing k with
  | nil => exact hcs k
  | cons d ms ih =>
    obtain ⟨hd, hms⟩ := List.pairwise_cons.1 hms
    exact ⟨.inr (hk d List.mem_cons_self), ih hd hms⟩

/-- Ordering brings the marks into order. -/
theorem inOrder_orderMarks {ms : List Char} (hms : ms.Pairwise (combiningClass · ≤ combiningClass ·))
    (cs : List Char) : InOrder 0 (orderMarks ms cs) := by
  induction cs generalizing ms with
  | nil =>
    rw [orderMarks, ← List.append_nil ms]
    exact inOrder_append (fun _ _ => Nat.zero_le _) hms fun _ => trivial
  | cons c cs ih =>
    unfold orderMarks
    split
    · rename_i hzero
      refine inOrder_append (fun _ _ => Nat.zero_le _) hms fun _ => ⟨.inl hzero, ?_⟩
      rw [hzero]
      exact ih .nil
    · exact ih (pairwise_insertMark hms)

/-- Ordering the marks twice does nothing more. -/
theorem orderMarks_orderMarks (cs : List Char) :
    orderMarks [] (orderMarks [] cs) = orderMarks [] cs :=
  orderMarks_of_inOrder (inOrder_orderMarks .nil cs) (by simp)

/-- Marks do not go past a character that starts a group. -/
theorem orderMarks_append {p : Char} (hp : combiningClass p = 0) (ms xs ys : List Char) :
    orderMarks ms (xs ++ p :: ys) = orderMarks ms xs ++ p :: orderMarks [] ys := by
  induction xs generalizing ms with
  | nil => simp [orderMarks, hp]
  | cons c xs ih =>
    simp only [List.cons_append, orderMarks]
    split
    · rw [ih, List.append_assoc, List.cons_append]
    · exact ih _

/-- Ordering the marks keeps the characters. -/
theorem mem_orderMarks {x : Char} {ms cs : List Char} :
    x ∈ orderMarks ms cs ↔ x ∈ ms ∨ x ∈ cs := by
  induction cs generalizing ms with
  | nil => simp [orderMarks]
  | cons c cs ih =>
    unfold orderMarks
    split
    · simp [ih]
    · rw [ih, mem_insertMark, List.mem_cons, or_comm (a := x = c), or_assoc]

end MainContent.Unicode
