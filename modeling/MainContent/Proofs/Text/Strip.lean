import MainContent.Proofs.Text.Ascii
import MainContent.Text.Blank
import Mathlib.Data.List.DropRight

/-!
# What is stripped from a text

A text is what is stripped from its front, what is left, and what is stripped from its end
(`lead_strip_trail`). What is left is the same whatever blanks are put around it, and case does not
matter where the blanks have none.
-/

namespace MainContent.Text

variable {p : Char → Bool}

/-- What is stripped from the front of a text. -/
def lead (p : Char → Bool) (cs : List Char) : List Char :=
  cs.takeWhile p

/-- What is stripped from the end of a text. -/
def trail (p : Char → Bool) (cs : List Char) : List Char :=
  (cs.dropWhile p).rtakeWhile p

/-- A text is stripped from the front, and then from the end. -/
theorem strip_eq (p : Char → Bool) (cs : List Char) : strip p cs = (cs.dropWhile p).rdropWhile p :=
  rfl

/-- A text is what is left of it between what is stripped. -/
theorem lead_strip_trail (p : Char → Bool) (cs : List Char) :
    lead p cs ++ (strip p cs ++ trail p cs) = cs := by
  rw [strip_eq, trail, List.rdropWhile_append_rtakeWhile, lead, List.takeWhile_append_dropWhile]

theorem of_mem_lead {cs : List Char} {c : Char} (h : c ∈ lead p cs) : p c = true :=
  List.mem_takeWhile_imp h

theorem of_mem_trail {cs : List Char} {c : Char} (h : c ∈ trail p cs) : p c = true :=
  List.mem_rtakeWhile_imp h

/-- What is left of a text has been in it. -/
theorem strip_subset (p : Char → Bool) (cs : List Char) : strip p cs ⊆ cs := by
  intro c hc
  rw [← lead_strip_trail p cs]
  exact List.mem_append_right _ (List.mem_append_left _ hc)

/-- Nothing is left exactly of a text that has nothing else. -/
theorem strip_eq_nil_iff {cs : List Char} : strip p cs = [] ↔ ∀ c ∈ cs, p c = true := by
  constructor
  · intro h c hc
    rw [← lead_strip_trail p cs, h, List.nil_append] at hc
    exact (List.mem_append.1 hc).elim of_mem_lead of_mem_trail
  · intro h
    rw [strip_eq, List.dropWhile_eq_nil_iff.2 h]
    rfl

/-- What is put in front is stripped again. -/
theorem strip_append_left {xs : List Char} (h : ∀ c ∈ xs, p c = true) (cs : List Char) :
    strip p (xs ++ cs) = strip p cs := by
  rw [strip_eq, List.dropWhile_append_of_pos h, strip_eq]

/-- What is left has nothing more to be stripped. -/
theorem strip_strip (p : Char → Bool) (cs : List Char) : strip p (strip p cs) = strip p cs := by
  have hdrop : (strip p cs).dropWhile p = strip p cs := by
    rcases hcs : strip p cs with _ | ⟨c, rest⟩
    · rfl
    · -- The first character that is left is the first one that is not stripped.
      have hprefix : c :: rest <+: cs.dropWhile p := hcs ▸ List.rdropWhile_prefix p (cs.dropWhile p)
      obtain ⟨behind, hbehind⟩ := hprefix
      have hhead := List.head?_dropWhile_not p cs
      rw [← hbehind] at hhead
      exact List.dropWhile_cons_of_neg (by simpa using hhead)
  calc strip p (strip p cs) = (strip p cs).rdropWhile p := by rw [strip_eq, hdrop]
    _ = strip p cs := List.rdropWhile_idempotent p (cs.dropWhile p)

/-- A text that has nothing to be stripped is left over from a longer one exactly if all that follows
it is stripped. -/
theorem strip_append_eq_iff {core : List Char} (hne : core ≠ []) (hcore : strip p core = core)
    (rest : List Char) : strip p (core ++ rest) = core ↔ ∀ c ∈ rest, p c = true := by
  obtain ⟨first, others, rfl⟩ := List.exists_cons_of_ne_nil hne
  have hlead : lead p (first :: others) = [] := by
    have hlength := congrArg List.length (lead_strip_trail p (first :: others))
    rw [hcore, List.length_append, List.length_append] at hlength
    exact List.length_eq_zero_iff.1 (by omega)
  have hfirst : ¬p first = true := fun hp => by
    rw [lead, List.takeWhile_cons_of_pos hp] at hlead
    cases hlead
  have hwhole : strip p (first :: others ++ rest) =
      ((rest.reverse ++ (first :: others).reverse).dropWhile p).reverse := by
    rw [strip_eq, List.cons_append, List.dropWhile_cons_of_neg hfirst, List.rdropWhile,
      ← List.cons_append, List.reverse_append]
  have hsame : ((first :: others).reverse.dropWhile p).reverse = first :: others := by
    rw [strip_eq, List.dropWhile_cons_of_neg hfirst] at hcore
    exact hcore
  rw [hwhole, List.dropWhile_append]
  constructor
  · intro h c hc
    by_cases hempty : rest.reverse.dropWhile p = []
    · exact List.dropWhile_eq_nil_iff.1 hempty c (List.mem_reverse.2 hc)
    · rw [if_neg (by rwa [List.isEmpty_iff])] at h
      have hlength := congrArg List.length h
      have hpos := List.length_pos_iff.2 hempty
      rw [List.length_reverse, List.length_append, List.length_reverse] at hlength
      omega
  · intro h
    have hempty : rest.reverse.dropWhile p = [] :=
      List.dropWhile_eq_nil_iff.2 fun c hc => h c (List.mem_reverse.1 hc)
    rw [hempty, List.isEmpty_nil, if_pos rfl, hsame]

/-- What is put behind is stripped again. -/
theorem strip_append_right {xs : List Char} (h : ∀ c ∈ xs, p c = true) (cs : List Char) :
    strip p (cs ++ xs) = strip p cs := by
  by_cases hnil : strip p cs = []
  · rw [hnil, strip_eq_nil_iff]
    exact List.forall_mem_append.2 ⟨strip_eq_nil_iff.1 hnil, h⟩
  · conv_lhs => rw [← lead_strip_trail p cs, List.append_assoc, List.append_assoc]
    rw [strip_append_left fun c hc => of_mem_lead hc, strip_append_eq_iff hnil (strip_strip p cs)]
    exact List.forall_mem_append.2 ⟨fun c hc => of_mem_trail hc, h⟩

/-- A text that has nothing to be stripped is left as it is. -/
theorem strip_eq_self {cs : List Char} (h : ∀ c ∈ cs, p c = false) : strip p cs = cs := by
  have hnone (ds : List Char) (hds : ∀ c ∈ ds, p c = true) (hmem : ds ⊆ cs) : ds = [] :=
    List.eq_nil_iff_forall_not_mem.2 fun c hc => by simpa [h c (hmem hc)] using hds c hc
  have hparts := lead_strip_trail p cs
  rwa [hnone (lead p cs) (fun c hc => of_mem_lead hc) fun c hc => hparts ▸ List.mem_append_left _ hc,
    hnone (trail p cs) (fun c hc => of_mem_trail hc) fun c hc =>
      hparts ▸ List.mem_append_right _ (List.mem_append_right _ hc),
    List.nil_append, List.append_nil] at hparts

/-! ## Small letters -/

@[simp] theorem toLowerAscii_nil : toLowerAscii [] = [] :=
  rfl

@[simp] theorem toLowerAscii_cons (c : Char) (cs : List Char) :
    toLowerAscii (c :: cs) = lowerAscii c :: toLowerAscii cs :=
  rfl

@[simp] theorem toLowerAscii_append (xs ys : List Char) :
    toLowerAscii (xs ++ ys) = toLowerAscii xs ++ toLowerAscii ys :=
  List.map_append

/-- A small letter is a letter, and what is none stands only for itself. -/
theorem lowerAscii_eq_iff {d : Char} (hd : isLetter d = false) (c : Char) :
    lowerAscii c = d ↔ c = d := by
  have hletter : ¬ (isLetter d = true) := by rw [hd]; exact Bool.false_ne_true
  rw [isLetter_iff] at hletter
  rw [← Char.toNat_inj, toNat_lowerAscii, ← Char.toNat_inj]
  split_ifs <;> omega

theorem lowerAscii_beq {d : Char} (hd : isLetter d = false) (c : Char) :
    (lowerAscii c == d) = (c == d) := by
  rw [Bool.eq_iff_iff, beq_iff_eq, beq_iff_eq, lowerAscii_eq_iff hd]

/-- What is no letter stands in a text exactly if it stands there in small letters. -/
theorem mem_toLowerAscii_iff {d : Char} (hd : isLetter d = false) (cs : List Char) :
    d ∈ toLowerAscii cs ↔ d ∈ cs := by
  simp only [toLowerAscii, List.mem_map, lowerAscii_eq_iff hd, exists_eq_right]

/-- Blanks have no case. -/
theorem isAsciiBlank_lowerAscii (c : Char) : isAsciiBlank (lowerAscii c) = isAsciiBlank c := by
  unfold isAsciiBlank
  rw [lowerAscii_beq (by decide), lowerAscii_beq (by decide), lowerAscii_beq (by decide),
    lowerAscii_beq (by decide), lowerAscii_beq (by decide)]

/-- What is stripped has no case. -/
theorem strip_toLowerAscii (hp : ∀ c, p (lowerAscii c) = p c) (cs : List Char) :
    strip p (toLowerAscii cs) = toLowerAscii (strip p cs) := by
  have hcomp : p ∘ lowerAscii = p := funext hp
  unfold strip toLowerAscii
  rw [List.dropWhile_map, hcomp, ← List.map_reverse, List.dropWhile_map, hcomp, List.map_reverse]

end MainContent.Text
