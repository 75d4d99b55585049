import Mathlib.Data.List.Infix
import Mathlib.Data.List.TakeWhile

/-!
# Parts of texts

Where a part of a text stands that is put together of others: a part cannot go over a character that
it does not have, so that it stands in one of the texts, or where a character of its own joins them.
And a text is cut off at the first of the signs that divide it from what follows
(`takeWhile_ne_append`, `dropWhile_ne_append`).
-/

namespace MainContent.Text

variable {α : Type} {x y w : List α} {c : α}

/-- What begins a text does not go beyond a character that it does not have. -/
theorem prefix_of_prefix_append_cons (h : w <+: x ++ c :: y) (hc : c ∉ w) : w <+: x := by
  induction x generalizing w with
  | nil =>
    rcases List.prefix_cons_iff.1 h with rfl | ⟨t, rfl, -⟩
    · exact List.nil_prefix
    · exact absurd List.mem_cons_self hc
  | cons d x ih =>
    rcases List.prefix_cons_iff.1 h with rfl | ⟨t, rfl, ht⟩
    · exact List.nil_prefix
    · exact List.prefix_cons_iff.2
        (.inr ⟨t, rfl, ih ht fun hmem => hc (List.mem_cons_of_mem d hmem)⟩)

/-- What begins with a character that the first of two texts does not have ends the second. -/
theorem exists_of_append_eq_append_cons {v : List α} (h : x ++ y = w ++ c :: v) (hc : c ∉ x) :
    ∃ t, y = t ++ c :: v := by
  rcases List.append_eq_append_iff.1 h with ⟨t, -, hy⟩ | ⟨t, hx, hrest⟩
  · exact ⟨t, hy⟩
  · cases t with
    | nil => exact ⟨[], by simpa using hrest.symm⟩
    | cons d t =>
      rw [hx, (List.cons.inj hrest).1] at hc
      exact absurd (List.mem_append_right w List.mem_cons_self) hc

/-- A part whose first character is not in the first of two texts is a part of the second. -/
theorem infix_of_head_not_mem (h : c :: w <:+: x ++ y) (hc : c ∉ x) : c :: w <:+: y := by
  rcases List.infix_append_iff.1 h with hx | hy | ⟨l₁, l₂, heq, hl₁, hl₂⟩
  · exact absurd (hx.subset List.mem_cons_self) hc
  · exact hy
  · cases l₁ with
    | nil =>
      rw [List.nil_append] at heq
      exact heq ▸ hl₂.isInfix
    | cons d l₁ =>
      have hd : c = d := (List.cons.inj heq).1
      exact absurd (hl₁.subset (hd ▸ List.mem_cons_self)) hc

/-- A part whose last character is not in the second of two texts is a part of the first. -/
theorem infix_of_last_not_mem (h : w ++ [c] <:+: x ++ y) (hc : c ∉ y) : w ++ [c] <:+: x := by
  rcases List.infix_append_iff.1 h with hx | hy | ⟨l₁, l₂, heq, hl₁, hl₂⟩
  · exact hx
  · exact absurd (hy.subset (List.mem_append_right w List.mem_cons_self)) hc
  · rcases List.eq_nil_or_concat l₂ with rfl | ⟨l₂, d, rfl⟩
    · rw [List.append_nil] at heq
      exact heq ▸ hl₁.isInfix
    · rw [List.concat_eq_append, ← List.append_assoc] at heq
      have hd : [c] = [d] := List.append_inj_right' heq rfl
      have hmem : c ∈ l₂.concat d := by
        rw [List.concat_eq_append, ← hd]
        exact List.mem_append_right l₂ List.mem_cons_self
      exact absurd (hl₂.subset hmem) hc

/-- A part without some character does not go over it. -/
theorem infix_of_infix_append_cons (h : w <:+: x ++ c :: y) (hc : c ∉ w) : w <:+: x ∨ w <:+: y := by
  -- What begins at the character is empty.
  have hempty {v : List α} (hp : v <+: c :: y) (hv : c ∉ v) : v = [] := by
    rcases List.prefix_cons_iff.1 hp with rfl | ⟨t, rfl, -⟩
    · rfl
    · exact absurd List.mem_cons_self hv
  rcases List.infix_append_iff.1 h with hx | hy | ⟨l₁, l₂, rfl, hl₁, hl₂⟩
  · exact .inl hx
  · rcases List.infix_cons_iff.1 hy with hp | hy
    · rw [hempty hp hc]
      exact .inl List.nil_infix
    · exact .inr hy
  · rw [hempty hl₂ fun hmem => hc (List.mem_append_right l₁ hmem), List.append_nil]
    exact .inl hl₁.isInfix

/-- What ends two texts, and has nothing of the first one, ends the second. -/
theorem suffix_of_suffix_append (h : w <:+ x ++ y) (hx : ∀ c ∈ x, c ∉ w) : w <:+ y := by
  rcases List.suffix_or_suffix_of_suffix h (List.suffix_append x y) with hw | ⟨first, rfl⟩
  · exact hw
  · obtain ⟨t, ht⟩ := h
    rw [← List.append_assoc] at ht
    have hfirst : t ++ first = x := List.append_cancel_right ht
    cases first with
    | nil => exact List.suffix_refl y
    | cons c first =>
      have hc : c ∈ x := hfirst ▸ List.mem_append_right t List.mem_cons_self
      exact absurd (List.mem_append_left y List.mem_cons_self) (hx c hc)

/-- A part that ends with a character, and has it nowhere else, stands in front of one, before it or
behind it. -/
theorem infix_append_cons_iff (hc : c ∉ w) :
    w ++ [c] <:+: x ++ c :: y ↔ w <:+ x ∨ w ++ [c] <:+: x ∨ w ++ [c] <:+: y := by
  constructor
  · intro h
    rcases List.infix_append_iff.1 h with hx | hy | ⟨l₁, l₂, heq, hl₁, hl₂⟩
    · exact .inr (.inl hx)
    · rcases List.infix_cons_iff.1 hy with hp | hy
      · cases w with
        | nil => exact .inl List.nil_suffix
        | cons d w =>
          have hd : d = c := (List.cons_prefix_cons.1 hp).1
          exact absurd (hd ▸ List.mem_cons_self) hc
      · exact .inr (.inr hy)
    · rcases List.prefix_cons_iff.1 hl₂ with rfl | ⟨others, rfl, -⟩
      · rw [List.append_nil] at heq
        exact .inr (.inl (heq ▸ hl₁.isInfix))
      · -- The character is the last one of the part.
        rcases List.eq_nil_or_concat others with rfl | ⟨others, d, rfl⟩
        · exact .inl (List.append_inj_left' heq rfl ▸ hl₁)
        · rw [List.concat_eq_append, ← List.cons_append, ← List.append_assoc] at heq
          have hw : w = l₁ ++ c :: others := List.append_inj_left' heq rfl
          exact absurd (hw ▸ List.mem_append_right l₁ List.mem_cons_self) hc
  · rintro (⟨t, rfl⟩ | hx | hy)
    · exact ⟨t, y, by simp⟩
    · exact hx.trans (List.prefix_append _ _).isInfix
    · exact hy.trans ((List.suffix_cons c y).trans (List.suffix_append x _)).isInfix

/-! ## Signs -/

section Sign

variable [DecidableEq α]

/-- A text is passed over up to a sign that it does not have. -/
theorem takeWhile_ne_append (h : c ∉ x) : (x ++ c :: y).takeWhile (· ≠ c) = x := by
  have hall : ∀ d ∈ x, decide (d ≠ c) = true := fun d hd => decide_eq_true fun heq => h (heq ▸ hd)
  rw [List.takeWhile_append_of_pos hall, List.takeWhile_cons_of_neg (by simp), List.append_nil]

/-- The sign is left, and what follows it. -/
theorem dropWhile_ne_append (h : c ∉ x) : (x ++ c :: y).dropWhile (· ≠ c) = c :: y := by
  have hall : ∀ d ∈ x, decide (d ≠ c) = true := fun d hd => decide_eq_true fun heq => h (heq ▸ hd)
  rw [List.dropWhile_append_of_pos hall, List.dropWhile_cons_of_neg (by simp)]

/-- Without the sign, all of the text is passed over. -/
theorem takeWhile_ne_eq_self (h : c ∉ x) : x.takeWhile (· ≠ c) = x :=
  List.takeWhile_eq_self_iff.2 fun _ hd => decide_eq_true fun heq => h (heq ▸ hd)

/-- Then nothing is left. -/
theorem dropWhile_ne_eq_nil (h : c ∉ x) : x.dropWhile (· ≠ c) = [] :=
  List.dropWhile_eq_nil_iff.2 fun _ hd => decide_eq_true fun heq => h (heq ▸ hd)

end Sign

/-! ## Pieces -/

/-- The pieces between separators are made of the characters of the text that are no separators. -/
theorem mem_of_mem_splitOnP {p : α → Bool} {xs piece : List α} (h : piece ∈ xs.splitOnP p) :
    ∀ d ∈ piece, d ∈ xs ∧ p d = false := by
  induction xs generalizing piece with
  | nil =>
    rw [List.splitOnP_nil, List.mem_singleton] at h
    simp [h]
  | cons e xs ih =>
    rw [List.splitOnP_cons_eq_if_modifyHead] at h
    obtain ⟨first, others, hsplit⟩ := List.exists_cons_of_ne_nil (List.splitOnP_ne_nil p xs)
    have hbehind : ∀ q ∈ xs.splitOnP p, ∀ d ∈ q, d ∈ e :: xs ∧ p d = false := fun q hq d hd =>
      ⟨List.mem_cons_of_mem e (ih hq d hd).1, (ih hq d hd).2⟩
    rw [hsplit] at h hbehind
    cases he : p e with
    | true =>
      rw [he, if_pos rfl, List.mem_cons] at h
      rcases h with rfl | h
      · simp
      · exact hbehind piece h
    | false =>
      -- The first character is no separator, so it goes to the front of the first piece.
      rw [he, if_neg Bool.false_ne_true, List.modifyHead_cons, List.mem_cons] at h
      rcases h with rfl | h
      · intro d hd
        rcases List.mem_cons.1 hd with rfl | hd
        · exact ⟨List.mem_cons_self, he⟩
        · exact hbehind first List.mem_cons_self d hd
      · exact hbehind piece (List.mem_cons_of_mem _ h)

/-- The pieces of a text do not have the character that separates them. -/
theorem not_mem_of_mem_splitOn [BEq α] [LawfulBEq α] {xs piece : List α}
    (h : piece ∈ xs.splitOn c) : c ∉ piece := by
  rw [List.splitOn_eq_splitOnP] at h
  intro hc
  simpa using (mem_of_mem_splitOnP h c hc).2

/-- The pieces of a text are made of its characters. -/
theorem mem_of_mem_splitOn [BEq α] {xs piece : List α} (h : piece ∈ xs.splitOn c) :
    ∀ d ∈ piece, d ∈ xs := by
  rw [List.splitOn_eq_splitOnP] at h
  exact fun d hd => (mem_of_mem_splitOnP h d hd).1

/-- What is in joined pieces is in what joins them or in one of the pieces. -/
theorem mem_intercalate {pieces : List (List α)} {d : α} (h : d ∈ x.intercalate pieces) :
    d ∈ x ∨ ∃ piece ∈ pieces, d ∈ piece := by
  induction pieces with
  | nil => simp at h
  | cons piece pieces ih =>
    cases pieces with
    | nil =>
      rw [List.intercalate_singleton] at h
      exact .inr ⟨piece, List.mem_cons_self, h⟩
    | cons next pieces =>
      rw [List.intercalate_cons_cons, List.mem_append, List.mem_append] at h
      rcases h with (h | h) | h
      · exact .inr ⟨piece, List.mem_cons_self, h⟩
      · exact .inl h
      · exact (ih h).imp_right fun ⟨p, hp, hd⟩ => ⟨p, List.mem_cons_of_mem _ hp, hd⟩

/-- What goes from piece to piece, and leaves the separators, goes through the pieces of the
result. -/
theorem splitOn_map [BEq α] [LawfulBEq α] [DecidableEq α] {f : List α → List α}
    (happend : ∀ xs ys, f (xs ++ c :: ys) = f xs ++ c :: f ys)
    (hpiece : ∀ xs, c ∉ xs → c ∉ f xs) (xs : List α) :
    (f xs).splitOn c = (xs.splitOn c).map f := by
  by_cases hc : c ∈ xs
  · obtain ⟨first, rest, heq, hfirst⟩ := List.eq_append_cons_of_mem hc
    rw [heq, happend, List.splitOn_append_cons_self, List.splitOn_append_cons_self, List.map_append,
      splitOn_map happend hpiece rest, List.splitOn_eq_singleton hfirst,
      List.splitOn_eq_singleton (hpiece first hfirst)]
    rfl
  · rw [List.splitOn_eq_singleton hc, List.splitOn_eq_singleton (hpiece xs hc)]
    rfl
termination_by xs.length
decreasing_by rw [heq, List.length_append, List.length_cons]; omega

/-! ## Places -/

/-- Where a part stands in a text. -/
def places (part cs : List Char) : List Nat :=
  (List.range cs.length).filter fun n => part.isPrefixOf (cs.drop n)

/-- A part that stands in one place splits a text in one way. -/
theorem eq_of_places_eq_singleton {part cs front behind : List Char} {n : Nat} (hpart : part ≠ [])
    (h : places part cs = [n]) (hsplit : cs = front ++ (part ++ behind)) :
    front = cs.take n ∧ behind = cs.drop (n + part.length) := by
  have hn : front.length = n := by
    rw [← List.mem_singleton, ← h, places, List.mem_filter, List.mem_range, hsplit, List.drop_left,
      List.isPrefixOf_iff_prefix]
    refine ⟨?_, List.prefix_append _ _⟩
    have hpos := List.length_pos_iff.2 hpart
    simp only [List.length_append]
    omega
  rw [hsplit, ← hn, List.take_left, ← List.drop_drop, List.drop_left, List.drop_left]
  exact ⟨rfl, rfl⟩

end MainContent.Text
