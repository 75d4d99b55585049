import MainContent.Proofs.Text.Ascii
import MainContent.Proofs.Unicode.Composition
import MainContent.Url.Domain.Mapping

/-!
# Characters that stand for themselves

What a domain name is mapped to is made of characters that stand for themselves
(`isStable_of_mem_mapAll`), and composing keeps it so (`inherited_isStable`). Both come from a look
through the tables, for which the characters that do not stand for themselves are gathered in one
number (`testBit_unstable`).
-/

namespace MainContent.Url.Domain

open MainContent.Text (CodePoints holds)
open MainContent.Unicode

/-! ## The tables -/

/-- The code points of the characters that do not stand for themselves. -/
def unstable : List (Nat × Nat) :=
  refused.intervals.toList ++ dropped.intervals.toList ++ entries.map (fun e => (e.1, e.1)) ++
    [(0x41, 0x5A)]

/-- The syllables of Hangul and the letters that they are made of. -/
def hangul : List (Nat × Nat) :=
  [(Hangul.leads, Hangul.leads + 18), (Hangul.vowels, Hangul.vowels + 20),
    (Hangul.trails + 1, Hangul.trails + 27), (Hangul.syllables, Hangul.syllables + 11171)]

/-- Whether one of them is a code point. -/
def isUnstable (n : Nat) : Bool :=
  unstable.any (holds n)

/-- The code points that the tables lead to are below this one. -/
def limit : Nat := 0x30000

/-- Whether the tables lead from characters that stand for themselves to such characters, where
`bits` are those of the others below the limit: in ASCII these are the capitals, none is of Hangul,
replacements stand for themselves, and so does what is composed exactly when its two characters do. -/
def closedUnder (bits : Nat) : Bool :=
  bits % 2 ^ 0x80 == CodePoints.mask [(0x41, 0x5A)] &&
  bits &&& CodePoints.mask hangul == 0 &&
  (entries.all fun e => e.2.all fun d => d.isValidChar && d < limit && !bits.testBit d) &&
  compositionTable.all fun e =>
    e.1 < limit && e.2.1 < limit && e.2.2 < limit &&
      bits.testBit e.2.2 == (bits.testBit e.1 || bits.testBit e.2.1)

/-- What is true of the tables of the mapping. -/
structure MappingFacts : Prop where
  /-- The intervals of the refused characters ascend. -/
  refused : CodePoints.ascendingFrom 0 refused.intervals.toList = true
  /-- So do those of the dropped ones. -/
  dropped : CodePoints.ascendingFrom 0 dropped.intervals.toList = true
  /-- The tables lead to characters that stand for themselves. -/
  closed : closedUnder (CodePoints.maskBelow limit unstable) = true

theorem mappingFacts : MappingFacts where
  refused := by decide +kernel
  dropped := by decide +kernel
  closed := by decide +kernel

/-- The bits below the limit are those of the characters that do not stand for themselves. -/
theorem testBit_unstable {n : Nat} (hn : n < limit) :
    (CodePoints.maskBelow limit unstable).testBit n = isUnstable n :=
  CodePoints.testBit_maskBelow hn unstable

/-- A character does not stand for itself when it is refused, dropped or replaced, or is a capital. -/
theorem isUnstable_eq (c : Char) : isUnstable c.toNat =
    (refused.contains c || dropped.contains c || replacements[c.toNat]?.isSome ||
      holds c.toNat (0x41, 0x5A)) := by
  have hreplaced : (entries.map fun e => (e.1, e.1)).any (holds c.toNat) =
      replacements[c.toNat]?.isSome := by
    rw [Bool.eq_iff_iff, List.any_map, List.any_eq_true, Option.isSome_iff_ne_none, ne_eq,
      replacements, Text.getElem?_ofList_eq_none_iff]
    simp only [List.forall_mem_map, not_forall, Classical.not_not, exists_prop]
    refine exists_congr fun e => and_congr_right fun _ => ?_
    simp only [Function.comp_apply, Text.holds_iff]
    omega
  have hrefused := Bool.eq_iff_iff.2 (CodePoints.contains_iff mappingFacts.refused c)
  have hdropped := Bool.eq_iff_iff.2 (CodePoints.contains_iff mappingFacts.dropped c)
  rw [isUnstable, unstable, List.any_append, List.any_append, List.any_append,
    ← hrefused, ← hdropped, hreplaced, List.any_cons, List.any_nil, Bool.or_false]

/-- In ASCII these are the capitals. -/
theorem isUnstable_ascii {n : Nat} (hn : n < 0x80) : isUnstable n = holds n (0x41, 0x5A) := by
  have hlow := mappingFacts.closed
  simp only [closedUnder, Bool.and_eq_true, beq_iff_eq] at hlow
  have hbit := congrArg (Nat.testBit · n) hlow.1.1.1
  rwa [Nat.testBit_mod_two_pow, decide_eq_true hn, Bool.true_and,
    testBit_unstable (hn.trans (by decide)), CodePoints.testBit_mask [_], List.any_cons,
    List.any_nil, Bool.or_false] at hbit

/-- What a character outside ASCII is replaced by stands for itself. -/
theorem isUnstable_of_replaced {n : Nat} {ds : List Char} (h : replacements[n]? = some ds) :
    ∀ d ∈ ds, isUnstable d.toNat = false := by
  obtain ⟨e, he, heq⟩ := List.mem_map.1 (Text.mem_of_getElem?_ofList h)
  obtain ⟨rfl, rfl⟩ := Prod.mk.inj heq
  have hclosed := mappingFacts.closed
  simp only [closedUnder, Bool.and_eq_true, List.all_eq_true, decide_eq_true_eq,
    Bool.not_eq_true'] at hclosed
  intro d hd
  obtain ⟨n, hn, rfl⟩ := List.mem_map.1 hd
  obtain ⟨⟨hvalid, hlimit⟩, hbit⟩ := hclosed.1.2 e he n hn
  rw [Text.Utf8.toNat_ofNat hvalid, ← testBit_unstable hlimit]
  exact hbit

/-- The other characters stand for themselves. -/
theorem isStable_iff (c : Char) : isStable c = true ↔ isUnstable c.toNat = false := by
  unfold isStable mapChar
  rw [beq_iff_eq]
  by_cases hascii : c.toNat < 0x80
  · rw [if_pos hascii, isUnstable_ascii hascii, ← Bool.not_eq_true, Text.holds_iff,
      ← Text.lowerAscii_eq_self_iff]
    simp
  · have hcapital : holds c.toNat (0x41, 0x5A) = false := by
      rw [← Bool.not_eq_true, Text.holds_iff]
      omega
    rw [if_neg hascii, isUnstable_eq, hcapital]
    cases hrefused : refused.contains c with
    | true => simp
    | false =>
      cases hdropped : dropped.contains c with
      | true => simp
      | false =>
        cases hreplaced : replacements[c.toNat]? with
        | none => simp
        | some ds =>
          -- A replacement is no character that is replaced itself.
          have hne : ds ≠ [c] := by
            rintro rfl
            have hstable := isUnstable_of_replaced hreplaced c List.mem_cons_self
            rw [isUnstable_eq, hreplaced] at hstable
            simp at hstable
          simpa using hne

/-! ## Mapped names -/

/-- A character is mapped to characters that stand for themselves. -/
theorem isStable_of_mem_mapChar {c : Char} {ds : List Char} (h : mapChar c = some ds) :
    ∀ d ∈ ds, isStable d = true := by
  have hmapped := h
  unfold mapChar at h
  split at h
  · rename_i hascii
    obtain rfl := Option.some.inj h
    have hsmall : (Text.lowerAscii c).toNat < 0x80 ∧
        holds (Text.lowerAscii c).toNat (0x41, 0x5A) = false :=
      Text.forall_ascii (P := fun c => (Text.lowerAscii c).toNat < 0x80 ∧
        holds (Text.lowerAscii c).toNat (0x41, 0x5A) = false) (by decide) hascii
    intro d hd
    rw [List.mem_singleton.1 hd, isStable_iff, isUnstable_ascii hsmall.1]
    exact hsmall.2
  · split at h
    · cases h
    · split at h
      · obtain rfl := Option.some.inj h
        simp
      · cases hreplaced : replacements[c.toNat]? with
        | none =>
          rw [hreplaced] at h
          obtain rfl := Option.some.inj h
          intro d hd
          rw [List.mem_singleton.1 hd, isStable, hmapped]
          exact beq_self_eq_true _
        | some es =>
          rw [hreplaced] at h
          obtain rfl := Option.some.inj h
          exact fun d hd => (isStable_iff d).2 (isUnstable_of_replaced hreplaced d hd)

/-- A name is mapped to characters that stand for themselves. -/
theorem isStable_of_mem_mapAll {cs ds : List Char} (h : mapAll cs = some ds) :
    ∀ d ∈ ds, isStable d = true := by
  induction cs generalizing ds with
  | nil =>
    obtain rfl := Option.some.inj h
    simp
  | cons c cs ih =>
    unfold mapAll at h
    split at h
    · rename_i es fs hc hcs
      obtain rfl := Option.some.inj h
      intro d hd
      rcases List.mem_append.1 hd with hd | hd
      · exact isStable_of_mem_mapChar hc d hd
      · exact ih hcs d hd
    · cases h

/-- Such characters are mapped to themselves. -/
theorem mapAll_of_isStable {cs : List Char} (h : ∀ c ∈ cs, isStable c = true) :
    mapAll cs = some cs := by
  induction cs with
  | nil => rfl
  | cons c cs ih =>
    obtain ⟨hc, hcs⟩ := List.forall_mem_cons.1 h
    rw [mapAll, eq_of_beq hc, ih hcs]
    rfl

/-- Characters that stand for themselves compose to, and are taken apart into, such characters. -/
theorem inherited_isStable : Inherited (isStable · = true) := by
  have hclosed := mappingFacts.closed
  simp only [closedUnder, Bool.and_eq_true, List.all_eq_true, beq_iff_eq] at hclosed
  obtain ⟨⟨⟨-, hhangul⟩, -⟩, hpairs⟩ := hclosed
  constructor
  · -- A pair of the table, both ways.
    intro a b c h
    obtain ⟨⟨⟨ha, hb⟩, hc⟩, hpair⟩ := hpairs _ (mem_compositions_iff.1 h)
    rw [decide_eq_true_eq] at ha hb hc
    rw [testBit_unstable ha, testBit_unstable hb, testBit_unstable hc] at hpair
    rw [isStable_iff, isStable_iff, isStable_iff, hpair, Bool.or_eq_false_iff]
  · -- Syllables of Hangul and their letters are composed by numbers, not by the table.
    intro c hc
    unfold Hangul.isSyllable Hangul.isLetter Hangul.leads Hangul.vowels Hangul.trails
      Hangul.syllables at hc
    simp only [Bool.or_eq_true, Bool.and_eq_true, decide_eq_true_eq] at hc
    have hlimit : c.toNat < limit := by
      unfold limit
      omega
    have hin : (CodePoints.mask hangul).testBit c.toNat = true := by
      rw [CodePoints.testBit_mask]
      unfold hangul Hangul.leads Hangul.vowels Hangul.trails Hangul.syllables
      simp only [holds, List.any_cons, List.any_nil, Bool.or_false, Bool.or_eq_true,
        Bool.and_eq_true, decide_eq_true_eq]
      omega
    have hbit := congrArg (Nat.testBit · c.toNat) hhangul
    rw [Nat.testBit_and, hin, Bool.and_true, Nat.zero_testBit, testBit_unstable hlimit] at hbit
    exact (isStable_iff c).2 hbit

end MainContent.Url.Domain
