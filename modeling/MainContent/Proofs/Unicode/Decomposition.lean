import MainContent.Unicode.Composition
import MainContent.Proofs.Text.Sequence
import MainContent.Proofs.Text.Table
import Mathlib.Data.List.Nodup

/-!
# Taking characters apart

What two characters compose to is taken apart into the parts of the first one, and the second one
(`takeApart_of_compose?`), and the parts are not taken apart further (`plain_of_mem_takeApart`). Both
come from a look at the whole table of pairs (`tableFacts`) and from the arithmetic of Hangul.

A property that the two parts of each composed character have with it holds throughout
(`Inherited.takeApart`).
-/

namespace MainContent.Unicode

open MainContent.Text (CodePoints)
open MainContent.Text.Utf8 (toNat_ofNat)

/-! ## The table of pairs -/

/-- The code points that some pairs compose to, as bits. -/
def composedBits (es : List (Nat × Nat × Nat)) : Nat :=
  CodePoints.mask (es.map fun e => (e.2.2, e.2.2))

/-- The code points of the characters that are composed of a pair, whose first character is composed
of a pair itself, and so on for `d` characters more. -/
def deeper : Nat → Nat
  | 0 => composedBits compositionTable
  | d + 1 => composedBits (compositionTable.filter fun e => (deeper d).testBit e.1)

/-- What is true of the table of pairs. -/
structure TableFacts : Prop where
  /-- The numbers are characters. -/
  valid : ∀ e ∈ compositionTable, e.1.isValidChar ∧ e.2.1.isValidChar ∧ e.2.2.isValidChar
  /-- No character is composed of two pairs. -/
  ascending : CodePoints.ascendingFrom 0 (compositionTable.map fun e => (e.2.2, e.2.2)) = true
  /-- The second character of a pair is not composed of a pair. -/
  second : ∀ e ∈ compositionTable,
    (deeper 0).testBit e.2.1 = false ∧ Hangul.isSyllable e.2.1 = false
  /-- No pair composes to a syllable or a letter of Hangul. -/
  made : ∀ e ∈ compositionTable,
    Hangul.isSyllable e.2.2 = false ∧ (e.2.2 < Hangul.leads ∨ Hangul.trails + 28 ≤ e.2.2)
  /-- A dot is in no pair, and no pair composes to it. -/
  dot : ∀ e ∈ compositionTable, e.1 ≠ 0x2E ∧ e.2.1 ≠ 0x2E ∧ e.2.2 ≠ 0x2E
  /-- No character takes four steps to be taken apart. -/
  depth : deeper 3 = 0

theorem tableFacts : TableFacts where
  valid := by decide +kernel
  ascending := by decide +kernel
  second := by decide +kernel
  made := by decide +kernel
  dot := by decide +kernel
  depth := by decide +kernel

theorem testBit_composedBits (es : List (Nat × Nat × Nat)) (n : Nat) :
    (composedBits es).testBit n = true ↔ ∃ e ∈ es, e.2.2 = n := by
  rw [composedBits, CodePoints.testBit_mask, List.any_map, List.any_eq_true]
  refine exists_congr fun e => and_congr_right fun _ => ?_
  simp only [Function.comp_apply, Text.holds_iff]
  omega

/-- The pairs that compose are those of the table. -/
theorem mem_compositions_iff {a b c : Char} :
    (a, b, c) ∈ compositions ↔ (a.toNat, b.toNat, c.toNat) ∈ compositionTable := by
  rw [compositions, List.mem_map]
  constructor
  · rintro ⟨e, he, heq⟩
    obtain ⟨ha, hb, hc⟩ := tableFacts.valid e he
    simp only [Prod.mk.injEq] at heq
    rw [← heq.1, ← heq.2.1, ← heq.2.2, toNat_ofNat ha, toNat_ofNat hb, toNat_ofNat hc]
    exact he
  · intro h
    exact ⟨_, h, by simp only [Char.ofNat_toNat]⟩

/-- A character is composed of at most one pair. -/
theorem composition_unique {a b a' b' c : Char} (h : (a, b, c) ∈ compositions)
    (h' : (a', b', c) ∈ compositions) : a = a' ∧ b = b' := by
  have hnodup : (compositionTable.map fun e => e.2.2).Nodup := by
    have hpairs := CodePoints.pairwise_of_ascendingFrom tableFacts.ascending
    rw [List.pairwise_map] at hpairs
    exact List.pairwise_map.2 (hpairs.imp fun hlt => Nat.ne_of_lt hlt.1)
  have heq := List.inj_on_of_nodup_map hnodup (mem_compositions_iff.1 h)
    (mem_compositions_iff.1 h') rfl
  simpa only [Prod.mk.injEq, Char.toNat_inj, and_true] using heq

/-- What is looked up for a character is the pair that composes to it. -/
theorem parts_eq_some_iff {a b c : Char} :
    parts[c.toNat]? = some (a, b) ↔ (a, b, c) ∈ compositions := by
  have hfound : ∀ p : Char × Char, parts[c.toNat]? = some p → (p.1, p.2, c) ∈ compositions := by
    intro p h
    obtain ⟨e, he, heq⟩ := List.mem_map.1 (Text.mem_of_getElem?_ofList h)
    simp only [Prod.mk.injEq, Char.toNat_inj] at heq
    rw [← heq.2, ← heq.1]
    exact he
  refine ⟨hfound (a, b), fun h => ?_⟩
  cases hparts : parts[c.toNat]? with
  | none =>
    exact absurd rfl (Text.getElem?_ofList_eq_none_iff.1 hparts (c.toNat, (a, b))
      (List.mem_map.2 ⟨_, h, rfl⟩))
  | some p =>
    obtain ⟨ha, hb⟩ := composition_unique (hfound p hparts) h
    rw [← ha, ← hb]

/-- Nothing is looked up exactly for the characters that no pair composes to. -/
theorem parts_eq_none_iff {c : Char} :
    parts[c.toNat]? = none ↔ (deeper 0).testBit c.toNat = false := by
  rw [parts, Text.getElem?_ofList_eq_none_iff, deeper, ← Bool.not_eq_true, testBit_composedBits]
  simp only [List.forall_mem_map, compositions, ne_eq, not_exists, not_and]
  refine forall₂_congr fun e he => ?_
  rw [toNat_ofNat (tableFacts.valid e he).2.2]

/-- The character that a pair is looked up to compose to is the one of the table. -/
theorem mem_of_composed {a b c : Char} (h : composed[pairNumber a b]? = some c) :
    (a, b, c) ∈ compositions := by
  obtain ⟨⟨a', b', c'⟩, he, heq⟩ := List.mem_map.1 (Text.mem_of_getElem?_ofList h)
  obtain ⟨hpair, rfl⟩ := Prod.mk.inj heq
  have hbounds := Text.Utf8.toNat_bounds
  have hb := hbounds b
  have hb' := hbounds b'
  simp only [pairNumber] at hpair
  have haeq : a'.toNat = a.toNat := by omega
  have hbeq : b'.toNat = b.toNat := by omega
  rw [← Char.toNat_inj.1 haeq, ← Char.toNat_inj.1 hbeq]
  exact he

/-! ## Characters that are taken apart -/

/-- A character that is not taken apart: it is no syllable, and no pair composes to it. -/
def Plain (c : Char) : Prop :=
  Hangul.isSyllable c.toNat = false ∧ (deeper 0).testBit c.toNat = false

theorem takeApart_of_plain {c : Char} (h : Plain c) (d : Nat) : takeApart d c = [c] := by
  cases d with
  | zero => rfl
  | succ d =>
    unfold takeApart
    rw [h.1, if_neg Bool.false_ne_true, parts_eq_none_iff.2 h.2]

theorem takeApart_of_syllable {c : Char} (h : Hangul.isSyllable c.toNat = true) (d : Nat) :
    takeApart (d + 1) c = Hangul.takeApart c.toNat := by
  rw [takeApart, if_pos h]

/-- What a pair composes to is taken apart into the parts of the first character and the second. -/
theorem takeApart_of_mem {a b c : Char} (h : (a, b, c) ∈ compositions) (d : Nat) :
    takeApart (d + 1) c = takeApart d a ++ [b] := by
  have hc := (tableFacts.made _ (mem_compositions_iff.1 h)).1
  rw [takeApart, hc, if_neg Bool.false_ne_true, parts_eq_some_iff.2 h]

/-- A character is a syllable, is composed of a pair, or is not taken apart. -/
theorem takeApart_cases (c : Char) :
    Hangul.isSyllable c.toNat = true ∨ (∃ a b, (a, b, c) ∈ compositions) ∨ Plain c := by
  cases hsyllable : Hangul.isSyllable c.toNat with
  | true => exact .inl rfl
  | false =>
    refine .inr ?_
    cases hparts : parts[c.toNat]? with
    | some p => exact .inl ⟨p.1, p.2, parts_eq_some_iff.1 hparts⟩
    | none => exact .inr ⟨hsyllable, parts_eq_none_iff.1 hparts⟩

/-- The first character of a pair takes fewer steps than the one that the pair composes to. -/
theorem deeper_of_mem {a b c : Char} (h : (a, b, c) ∈ compositions) {d : Nat}
    (hc : (deeper (d + 1)).testBit c.toNat = false) : (deeper d).testBit a.toNat = false := by
  by_contra ha
  have htested : (deeper (d + 1)).testBit c.toNat = true :=
    (testBit_composedBits _ _).2 ⟨_, List.mem_filter.2 ⟨mem_compositions_iff.1 h, by simpa using ha⟩,
      rfl⟩
  rw [hc] at htested
  cases htested

/-- More steps than a character takes make no difference. -/
theorem takeApart_add {c : Char} {d : Nat} (hc : (deeper d).testBit c.toNat = false) (k : Nat) :
    takeApart (d + 1 + k) c = takeApart (d + 1) c := by
  induction d generalizing c with
  | zero =>
    rw [Nat.add_comm (0 + 1) k]
    rcases takeApart_cases c with h | ⟨a, b, h⟩ | h
    · rw [takeApart_of_syllable h, takeApart_of_syllable h]
    · exact absurd (parts_eq_some_iff.2 h) (by rw [parts_eq_none_iff.2 hc]; exact nofun)
    · rw [takeApart_of_plain h, takeApart_of_plain h]
  | succ d ih =>
    rw [Nat.add_right_comm (d + 1) 1 k]
    rcases takeApart_cases c with h | ⟨a, b, h⟩ | h
    · rw [takeApart_of_syllable h, takeApart_of_syllable h]
    · rw [takeApart_of_mem h, takeApart_of_mem h, ih (deeper_of_mem h hc)]
    · rw [takeApart_of_plain h, takeApart_of_plain h]

/-- No character takes as many as four steps. -/
theorem deeper_three (c : Char) : (deeper 3).testBit c.toNat = false := by
  rw [tableFacts.depth, Nat.zero_testBit]

/-! ## Hangul -/

theorem Hangul.isSyllable_iff {n : Nat} :
    isSyllable n = true ↔ syllables ≤ n ∧ n < syllables + 11172 := by
  simp [isSyllable]

/-- Whether a code point is a letter that syllables are made of. -/
def Hangul.isLetter (n : Nat) : Bool :=
  (leads ≤ n && n < leads + 19) || (vowels ≤ n && n < vowels + 21) || (trails < n && n < trails + 28)

/-- The letters of Hangul are not taken apart. -/
theorem plain_of_isLetter {c : Char} (h : Hangul.isLetter c.toNat = true) : Plain c := by
  have hbounds : Hangul.leads ≤ c.toNat ∧ c.toNat < Hangul.trails + 28 := by
    unfold Hangul.isLetter Hangul.leads Hangul.vowels Hangul.trails at *
    simp at h
    omega
  constructor
  · rw [← Bool.not_eq_true, Hangul.isSyllable_iff]
    unfold Hangul.syllables
    unfold Hangul.trails at hbounds
    omega
  · rw [← Bool.not_eq_true, deeper, testBit_composedBits]
    rintro ⟨e, he, heq⟩
    have hmade := (tableFacts.made e he).2
    omega

/-- A syllable is taken apart into letters. -/
theorem isLetter_of_mem_takeApart {c x : Char} (h : Hangul.isSyllable c.toNat = true)
    (hx : x ∈ Hangul.takeApart c.toNat) : Hangul.isLetter x.toNat = true := by
  rw [Hangul.isSyllable_iff] at h
  unfold Hangul.takeApart at hx
  unfold Hangul.isLetter
  unfold Hangul.syllables Hangul.leads Hangul.trails Hangul.vowels at *
  have hletter : ∀ n < 0x11C3, x = Char.ofNat n → x.toNat = n := by
    rintro n hn rfl
    exact toNat_ofNat (.inl (by omega))
  have hparts : x = Char.ofNat (0x1100 + (c.toNat - 0xAC00) / 588) ∨
      x = Char.ofNat (0x1161 + (c.toNat - 0xAC00) % 588 / 28) ∨
      (c.toNat - 0xAC00) % 28 ≠ 0 ∧ x = Char.ofNat (0x11A7 + (c.toNat - 0xAC00) % 28) := by
    dsimp only at hx
    split at hx
    · rename_i hopen
      simpa [hopen] using hx
    · rename_i hclosed
      simpa [hclosed, or_assoc] using hx
  rcases hparts with hx | hx | ⟨hclosed, hx⟩
  · rw [hletter _ (by omega) hx]
    simp
    omega
  · rw [hletter _ (by omega) hx]
    simp
    omega
  · rw [hletter _ (by omega) hx]
    simp
    omega

/-- What two letters, or a syllable and a letter, compose to is a syllable that is taken apart into
the letters. -/
theorem Hangul.takeApart_of_compose? {a b c : Char} (h : compose? a.toNat b.toNat = some c) :
    isSyllable c.toNat = true ∧
      ((Plain a ∧ takeApart c.toNat = [a, b]) ∨
        (isSyllable a.toNat = true ∧ takeApart c.toNat = takeApart a.toNat ++ [b])) := by
  unfold compose? at h
  split at h
  · -- A leading letter and a vowel.
    rename_i hletters
    simp only [Bool.and_eq_true, decide_eq_true_eq] at hletters
    obtain ⟨⟨⟨halow, hahigh⟩, hblow⟩, hbhigh⟩ := hletters
    have hplain : Plain a := plain_of_isLetter (by simp [isLetter, halow, hahigh])
    obtain rfl := Option.some.inj h
    unfold syllables leads vowels at *
    generalize hi : ((a.toNat - 0x1100) * 21 + (b.toNat - 0x1161)) * 28 = i
    have hc : (Char.ofNat (0xAC00 + i)).toNat = 0xAC00 + i := toNat_ofNat (.inl (by omega))
    rw [hc]
    refine ⟨isSyllable_iff.2 (by unfold syllables; omega), .inl ⟨hplain, ?_⟩⟩
    unfold takeApart syllables leads vowels trails
    have ha : 0x1100 + (0xAC00 + i - 0xAC00) / 588 = a.toNat := by omega
    have hb : 0x1161 + (0xAC00 + i - 0xAC00) % 588 / 28 = b.toNat := by omega
    dsimp only
    rw [if_pos (by omega), ha, hb, Char.ofNat_toNat, Char.ofNat_toNat]
  · split at h
    · -- A syllable without a trailing letter, whose number is a multiple of 28, and such a letter.
      rename_i hopen
      simp only [Bool.and_eq_true, decide_eq_true_eq, beq_iff_eq] at hopen
      obtain ⟨⟨⟨ha, hrest⟩, hblow⟩, hbhigh⟩ := hopen
      have hbounds := isSyllable_iff.1 ha
      obtain rfl := Option.some.inj h
      unfold syllables trails at *
      have hc : (Char.ofNat (a.toNat + (b.toNat - 0x11A7))).toNat = a.toNat + (b.toNat - 0x11A7) :=
        toNat_ofNat (.inl (by omega))
      rw [hc]
      refine ⟨isSyllable_iff.2 (by unfold syllables; omega), .inr ⟨ha, ?_⟩⟩
      unfold takeApart syllables leads vowels trails
      obtain ⟨i, hi⟩ : ∃ i, a.toNat = 0xAC00 + i := ⟨a.toNat - 0xAC00, by omega⟩
      obtain ⟨j, hj⟩ : ∃ j, b.toNat = 0x11A7 + j := ⟨b.toNat - 0x11A7, by omega⟩
      have hlead : (i + j) / 588 = i / 588 := by omega
      have hvowel : (i + j) % 588 / 28 = i % 588 / 28 := by omega
      have htrail : 0x11A7 + (i + j) % 28 = b.toNat := by omega
      rw [hi, hj, Nat.add_sub_cancel_left, Nat.add_sub_cancel_left, Nat.add_assoc,
        Nat.add_sub_cancel_left]
      dsimp only
      rw [hlead, hvowel, htrail, Char.ofNat_toNat, if_neg (by omega), if_pos (by omega)]
    · cases h

/-! ## The parts of a character -/

/-- The parts of a character are not taken apart further. -/
theorem plain_of_mem_takeApart {c x : Char} {d : Nat} (hc : (deeper d).testBit c.toNat = false)
    (hx : x ∈ takeApart (d + 1) c) : Plain x := by
  induction d generalizing c x with
  | zero =>
    rcases takeApart_cases c with h | ⟨a, b, h⟩ | h
    · rw [takeApart_of_syllable h] at hx
      exact plain_of_isLetter (isLetter_of_mem_takeApart h hx)
    · exact absurd (parts_eq_some_iff.2 h) (by rw [parts_eq_none_iff.2 hc]; exact nofun)
    · rw [takeApart_of_plain h, List.mem_singleton] at hx
      exact hx ▸ h
  | succ d ih =>
    rcases takeApart_cases c with h | ⟨a, b, h⟩ | h
    · rw [takeApart_of_syllable h] at hx
      exact plain_of_isLetter (isLetter_of_mem_takeApart h hx)
    · rw [takeApart_of_mem h, List.mem_append, List.mem_singleton] at hx
      rcases hx with hx | rfl
      · exact ih (deeper_of_mem h hc) hx
      · exact (tableFacts.second _ (mem_compositions_iff.1 h)).symm
    · rw [takeApart_of_plain h, List.mem_singleton] at hx
      exact hx ▸ h

/-- A property of characters that the parts of a character have with it. -/
structure Inherited (P : Char → Prop) : Prop where
  /-- The two characters of a pair have it if what they compose to has it, and the other way. -/
  pair : ∀ a b c, (a, b, c) ∈ compositions → (P c ↔ P a ∧ P b)
  /-- The syllables and the letters of Hangul have it. -/
  hangul : ∀ c, (Hangul.isSyllable c.toNat || Hangul.isLetter c.toNat) = true → P c

/-- A property that is inherited goes from a character to its parts. -/
theorem Inherited.takeApart {P : Char → Prop} (hP : Inherited P) {c : Char} (hc : P c) (d : Nat) :
    ∀ x ∈ takeApart d c, P x := by
  induction d generalizing c with
  | zero =>
    intro x hx
    rw [Unicode.takeApart, List.mem_singleton] at hx
    exact hx ▸ hc
  | succ d ih =>
    rcases takeApart_cases c with h | ⟨a, b, h⟩ | h
    · rw [takeApart_of_syllable h]
      exact fun x hx => hP.hangul x (by rw [isLetter_of_mem_takeApart h hx, Bool.or_true])
    · obtain ⟨ha, hb⟩ := (hP.pair a b c h).1 hc
      rw [takeApart_of_mem h]
      intro x hx
      rcases List.mem_append.1 hx with hx | hx
      · exact ih ha x hx
      · exact List.mem_singleton.1 hx ▸ hb
    · rw [takeApart_of_plain h]
      intro x hx
      exact List.mem_singleton.1 hx ▸ hc

/-- What two characters with such a property compose to has it. -/
theorem Inherited.compose? {P : Char → Prop} (hP : Inherited P) {a b c : Char} (ha : P a) (hb : P b)
    (h : compose? a b = some c) : P c := by
  unfold Unicode.compose? at h
  split at h
  · rename_i made hmade
    obtain rfl := Option.some.inj h
    exact hP.hangul made (by rw [(Hangul.takeApart_of_compose? hmade).1, Bool.true_or])
  · exact (hP.pair a b c (mem_of_composed h)).2 ⟨ha, hb⟩

/-- What two characters compose to is taken apart into the parts of the first, and the second. -/
theorem takeApart_of_compose? {a b c : Char} (h : compose? a b = some c) :
    takeApart 8 c = takeApart 8 a ++ [b] := by
  unfold compose? at h
  split at h
  · rename_i made hmade
    obtain rfl := Option.some.inj h
    obtain ⟨hmade, ⟨ha, hparts⟩ | ⟨ha, hparts⟩⟩ := Hangul.takeApart_of_compose? hmade
    · rw [takeApart_of_syllable hmade, hparts, takeApart_of_plain ha]
      rfl
    · rw [takeApart_of_syllable hmade, hparts, takeApart_of_syllable ha]
  · rw [takeApart_of_mem (mem_of_composed h), takeApart_add (deeper_three a) 3,
      takeApart_add (deeper_three a) 4]

/-- What a text is taken apart into is not taken apart further. -/
theorem plain_of_mem_flatMap {cs : List Char} : ∀ x ∈ cs.flatMap (takeApart 8), Plain x := by
  intro x hx
  obtain ⟨c, -, hx⟩ := List.mem_flatMap.1 hx
  rw [takeApart_add (deeper_three c) 4] at hx
  exact plain_of_mem_takeApart (deeper_three c) hx

/-! ## The dot -/

/-- A dot is not taken apart. -/
theorem plain_dot : Plain '.' := by
  refine ⟨rfl, ?_⟩
  rw [← Bool.not_eq_true, deeper, testBit_composedBits]
  rintro ⟨e, he, heq⟩
  exact (tableFacts.dot e he).2.2 heq

/-- Nothing but a dot holds a dot or composes to one. -/
theorem inherited_ne_dot : Inherited (· ≠ '.') where
  pair a b c h := by
    have hdot := tableFacts.dot _ (mem_compositions_iff.1 h)
    have hne : ∀ x : Char, x.toNat ≠ 0x2E → x ≠ '.' := by
      rintro x hx rfl
      exact hx rfl
    exact ⟨fun _ => ⟨hne a hdot.1, hne b hdot.2.1⟩, fun _ => hne c hdot.2.2⟩
  hangul c h := by
    rintro rfl
    cases h

/-- A dot does not compose, be it the first or the second of two characters. -/
theorem compose?_of_dot {a b : Char} (h : a = '.' ∨ b = '.') : compose? a b = none := by
  have hletters : Hangul.compose? a.toNat b.toNat = none := by
    have hdot : a.toNat = 0x2E ∨ b.toNat = 0x2E := h.imp (congrArg Char.toNat) (congrArg Char.toNat)
    unfold Hangul.compose? Hangul.isSyllable Hangul.leads Hangul.vowels Hangul.trails Hangul.syllables
    rw [if_neg (by simp; omega), if_neg (by simp; omega)]
  unfold compose?
  rw [hletters]
  cases hpair : composed[pairNumber a b]? with
  | none => rfl
  | some c =>
    have hne := tableFacts.dot _ (mem_compositions_iff.1 (mem_of_composed hpair))
    rcases h with rfl | rfl
    · exact absurd rfl hne.1
    · exact absurd rfl hne.2.1

end MainContent.Unicode
