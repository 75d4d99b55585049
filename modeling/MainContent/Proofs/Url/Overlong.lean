import MainContent.Proofs.Url.Host

/-!
# Labels that are too long in Punycode

A label of ascending characters that lie apart takes three digits of Punycode for each of its
characters but the first ones (`length_encode_of_spaced`). Ideographs make up such labels: they are
read as a host (`readSpecialHost_of_ideographs`), which is not readable when there are too many of
them (`not_readable_of_spaced`).
-/

namespace MainContent.Url.Domain

open MainContent.Text (CodePoints)
open MainContent.Text.Utf8 (mapM_eq_some_iff)
open MainContent.Unicode

namespace Punycode

/-- Whether characters ascend from a code point on, each at least `gap` behind the place after the
one before it. -/
def isSpaced (gap : Nat) : Nat → List Char → Bool
  | _, [] => true
  | last, c :: cs => last + gap ≤ c.toNat && isSpaced gap (c.toNat + 1) cs

theorem isSpaced_cons {gap last : Nat} {c : Char} {cs : List Char} :
    isSpaced gap last (c :: cs) = true ↔
      last + gap ≤ c.toNat ∧ isSpaced gap (c.toNat + 1) cs = true := by
  simp [isSpaced]

/-- All of them are from the code point on. -/
theorem le_of_isSpaced {gap last : Nat} {cs : List Char} (h : isSpaced gap last cs = true) :
    ∀ c ∈ cs, last ≤ c.toNat := by
  induction cs generalizing last with
  | nil => nofun
  | cons d cs ih =>
    obtain ⟨hd, hcs⟩ := isSpaced_cons.1 h
    intro c hc
    rcases List.mem_cons.1 hc with rfl | hc
    · omega
    · have := ih hcs c hc
      omega

/-- They ascend. -/
theorem pairwise_of_isSpaced {gap last : Nat} {cs : List Char} (h : isSpaced gap last cs = true) :
    (cs.map Char.toNat).Pairwise (· < ·) := by
  induction cs generalizing last with
  | nil => exact .nil
  | cons d cs ih =>
    obtain ⟨-, hcs⟩ := isSpaced_cons.1 h
    rw [List.map_cons]
    refine .cons (fun n hn => ?_) (ih hcs)
    obtain ⟨c, hc, rfl⟩ := List.mem_map.1 hn
    exact le_of_isSpaced hcs c hc

/-- A long distance takes three digits. -/
theorem three_le_length_distance (bias k fuel : Nat) {q : Nat} (hq : 911 ≤ q) :
    3 ≤ (distance bias (fuel + 2) k q).length := by
  have ht := threshold_bounds k bias
  have ht' := threshold_bounds (k + 36) bias
  have hrest : 26 ≤ (q - threshold k bias) / (36 - threshold k bias) := by
    rw [Nat.le_div_iff_mul_le (by omega)]
    omega
  have hlast (k q : Nat) : 1 ≤ (distance bias fuel k q).length := by
    cases fuel with
    | zero => exact Nat.le_refl 1
    | succ fuel =>
      rw [distance]
      split <;> simp
  rw [distance, if_neg (by omega), List.length_cons, distance, if_neg (by omega), List.length_cons]
  have := hlast (k + 36 + 36) ((((q - threshold k bias) / (36 - threshold k bias)) -
    threshold (k + 36) bias) / (36 - threshold (k + 36) bias))
  omega

/-- A pass over smaller characters only counts them. -/
theorem foldl_step_of_lt {basic n : Nat} {cs : List Char} (h : ∀ c ∈ cs, c.toNat < n)
    (p : Progress) :
    cs.foldl (step basic n) p = { p with delta := p.delta + cs.length } := by
  induction cs generalizing p with
  | nil => rfl
  | cons c cs ih =>
    obtain ⟨hc, hcs⟩ := List.forall_mem_cons.1 h
    rw [List.foldl_cons, step, if_pos hc, ih hcs, List.length_cons]
    simp only [Progress.mk.injEq, and_true]
    omega

/-- A pass over greater characters does nothing. -/
theorem foldl_step_of_gt {basic n : Nat} {cs : List Char} (h : ∀ c ∈ cs, n < c.toNat)
    (p : Progress) : cs.foldl (step basic n) p = p := by
  induction cs with
  | nil => rfl
  | cons c cs ih =>
    obtain ⟨hc, hcs⟩ := List.forall_mem_cons.1 h
    rw [List.foldl_cons, step, if_neg (by omega), if_neg (by omega), ih hcs]

/-- Each character of an ascending label takes three digits once enough characters stand before
it. -/
theorem length_encodePoints_of_spaced {passed left : List Char} {basic last : Nat} {p : Progress}
    (hleft : isSpaced 38 last left = true) (hpassed : ∀ c ∈ passed, c.toNat < last)
    (hwritten : p.written = passed.length) (hout : 3 * (passed.length - 23) ≤ p.out.length) :
    3 * ((passed ++ left).length - 23) ≤
      (encodePoints (passed ++ left) basic last (left.map Char.toNat) p).out.length := by
  induction left generalizing passed last p with
  | nil => simpa [encodePoints] using hout
  | cons c left ih =>
    obtain ⟨hc, hleft⟩ := isSpaced_cons.1 hleft
    have hsmaller : ∀ d ∈ passed, d.toNat < c.toNat := fun d hd => by
      have := hpassed d hd
      omega
    have hpass (q : Progress) : (passed ++ c :: left).foldl (step basic c.toNat) q =
        { delta := 0
          bias := adapt (q.delta + passed.length) (q.written + 1) (q.written == basic)
          written := q.written + 1
          out := (distance q.bias 32 36 (q.delta + passed.length)).reverse ++ q.out } := by
      rw [List.foldl_append, List.foldl_cons, foldl_step_of_lt hsmaller,
        foldl_step_of_gt fun d hd => le_of_isSpaced hleft d hd, step, if_neg (Nat.lt_irrefl _), if_pos rfl]
    have hmore : passed ++ c :: left = (passed ++ [c]) ++ left := by simp
    rw [List.map_cons, encodePoints]
    simp only [hpass]
    -- What was passed over is one character longer, and so is what was written.
    rw [hmore]
    refine ih hleft (fun d hd => ?_) ?_ ?_
    · rcases List.mem_append.1 hd with hd | hd
      · have := hsmaller d hd
        omega
      · rw [List.mem_singleton.1 hd]
        omega
    · simp [hwritten]
    · simp only [List.length_append, List.length_reverse, List.length_singleton]
      by_cases hmany : 23 ≤ passed.length
      · -- From the 24th character on, the gap alone makes a distance of three digits.
        have hdistance : 911 ≤ p.delta + (c.toNat - last) * (p.written + 1) + passed.length := by
          have hgap : 38 * 24 ≤ (c.toNat - last) * (p.written + 1) :=
            Nat.mul_le_mul (by omega) (by omega)
          omega
        have hdigits : 3 ≤ (distance p.bias 32 36 _).length :=
          three_le_length_distance p.bias 36 30 hdistance
        omega
      · omega

/-- A label of ascending characters that lie apart takes three digits for each of its characters but
the first ones. -/
theorem length_encode_of_spaced {label : List Char} (h : isSpaced 38 0x80 label = true) :
    3 * (label.length - 23) ≤ (encode label).length := by
  have hhigh := le_of_isSpaced h
  have hascending := pairwise_of_isSpaced h
  have hascii : label.filter (·.toNat < 0x80) = [] :=
    List.filter_eq_nil_iff.2 fun c hc => by simpa using hhigh c hc
  have hpoints : points label = label.map Char.toNat := by
    have hperm : (points label).Perm (label.map Char.toNat) := by
      rw [List.perm_ext_iff_of_nodup ((pairwise_points label).imp Nat.ne_of_lt)
        (hascending.imp Nat.ne_of_lt)]
      intro n
      rw [mem_points_iff, List.mem_map]
      exact exists_congr fun c => and_congr_right fun hc => and_iff_right (hhigh c hc)
    exact hperm.eq_of_pairwise (fun a b _ _ hab hba => absurd hab (Nat.lt_asymm hba))
      (pairwise_points label) hascending
  have hlength : 3 * (([] ++ label).length - 23) ≤ (encodePoints ([] ++ label) 0 0x80
      (label.map Char.toNat) { delta := 0, bias := 72, written := 0, out := [] }).out.length :=
    length_encodePoints_of_spaced h nofun rfl (Nat.zero_le _)
  unfold encode
  rw [hascii, hpoints]
  simpa using hlength

end Punycode

/-! ## Ideographs -/

/-- The first code points of the second plane of ideographs. -/
def isIdeograph (c : Char) : Bool :=
  0x20000 ≤ c.toNat && c.toNat < 0x28000

/-- Whether a code point is none of them. -/
def isOther (n : Nat) : Bool :=
  n < 0x20000 || 0x28000 ≤ n

/-- What is true of the tables: they have nothing about ideographs. -/
structure IdeographFacts : Prop where
  /-- The mapping does not. -/
  stable : unstable.all (fun p => p.2 < 0x20000 || 0x28000 ≤ p.1) = true
  /-- The classes of marks do not. -/
  starter : combiningClasses.entries.toList.all
    (fun e => e.2.1 < 0x20000 || 0x28000 ≤ e.1) = true
  /-- The pairs that compose do not. -/
  single : compositionTable.all (fun e => isOther e.2.1 && isOther e.2.2) = true

theorem ideographFacts : IdeographFacts where
  stable := by decide +kernel
  starter := by decide +kernel
  single := by decide +kernel

theorem isIdeograph_iff (c : Char) :
    isIdeograph c = true ↔ 0x20000 ≤ c.toNat ∧ c.toNat < 0x28000 := by
  simp [isIdeograph]

/-- An ideograph stands for itself. -/
theorem isStable_of_ideograph {c : Char} (h : isIdeograph c = true) : isStable c = true := by
  rw [isIdeograph_iff] at h
  rw [isStable_iff, isUnstable, List.any_eq_false]
  intro p hp hc
  have hother := List.all_eq_true.1 ideographFacts.stable p hp
  rw [Text.holds_iff] at hc
  rw [Bool.or_eq_true, decide_eq_true_eq, decide_eq_true_eq] at hother
  omega

/-- An ideograph is no mark that combines. -/
theorem combiningClass_of_ideograph {c : Char} (h : isIdeograph c = true) : combiningClass c = 0 := by
  rw [isIdeograph_iff] at h
  rw [combiningClass, if_neg (by omega)]
  cases hclass : combiningClasses.get? c with
  | none => rfl
  | some k =>
    obtain ⟨first, last, hmem, hbounds⟩ := Text.RangeMap.exists_of_get? hclass
    have hother := List.all_eq_true.1 ideographFacts.starter _ hmem
    simp only [Bool.or_eq_true, decide_eq_true_eq] at hother
    omega

/-- An ideograph is not taken apart. -/
theorem plain_of_ideograph {c : Char} (h : isIdeograph c = true) : Plain c := by
  rw [isIdeograph_iff] at h
  constructor
  · rw [← Bool.not_eq_true, Hangul.isSyllable_iff, Hangul.syllables]
    omega
  · rw [deeper, ← Bool.not_eq_true, testBit_composedBits]
    rintro ⟨e, he, heq⟩
    have hother := List.all_eq_true.1 ideographFacts.single e he
    simp only [isOther, heq, Bool.and_eq_true, Bool.or_eq_true, decide_eq_true_eq] at hother
    omega

/-- An ideograph does not compose with what stands before it. -/
theorem compose?_of_ideograph (a : Char) {c : Char} (h : isIdeograph c = true) :
    compose? a c = none := by
  rw [isIdeograph_iff] at h
  have hletters : Hangul.compose? a.toNat c.toNat = none := by
    unfold Hangul.compose? Hangul.isSyllable Hangul.leads Hangul.vowels Hangul.trails Hangul.syllables
    rw [if_neg (by simp; omega), if_neg (by simp; omega)]
  unfold compose?
  rw [hletters]
  cases hpair : composed[pairNumber a c]? with
  | none => rfl
  | some d =>
    have hother := List.all_eq_true.1 ideographFacts.single _
      (mem_compositions_iff.1 (mem_of_composed hpair))
    simp only [isOther, Bool.and_eq_true, Bool.or_eq_true, decide_eq_true_eq] at hother
    omega

/-- Ideographs are their own composed form. -/
theorem composedForm_of_ideographs {cs : List Char} (h : ∀ c ∈ cs, isIdeograph c = true) :
    composedForm cs = cs := by
  have hapart : apart cs = cs := by
    have horder (k : Nat) : InOrder k cs := by
      induction cs generalizing k with
      | nil => trivial
      | cons c cs ih =>
        obtain ⟨hc, hcs⟩ := List.forall_mem_cons.1 h
        exact ⟨.inl (combiningClass_of_ideograph hc), ih hcs _⟩
    rw [apart, flatMap_takeApart_of_plain fun c hc => plain_of_ideograph (h c hc),
      orderMarks_of_inOrder (horder 0) (by simp), List.nil_append]
  have hfrom (starter : Char) (cs : List Char) (h : ∀ c ∈ cs, isIdeograph c = true) :
      composeFrom starter [] 0 cs = starter :: cs := by
    induction cs generalizing starter with
    | nil => rfl
    | cons c cs ih =>
      obtain ⟨hc, hcs⟩ := List.forall_mem_cons.1 h
      rw [composeFrom]
      simp [compose?_of_ideograph starter hc, combiningClass_of_ideograph hc, ih c hcs]
  refine composedForm_eq_self (.inr ?_)
  rw [hapart]
  cases cs with
  | nil => rfl
  | cons c cs =>
    obtain ⟨hc, hcs⟩ := List.forall_mem_cons.1 h
    rw [composeAll, if_pos (combiningClass_of_ideograph hc), hfrom c cs hcs]

/-- Only characters of ASCII are forbidden as such. -/
theorem lt_of_isForbidden {c : Char} (h : isForbidden c = true) : c.toNat < 0x80 := by
  rw [isForbidden, Bool.or_eq_true, Bool.or_eq_true, decide_eq_true_eq, beq_iff_eq,
    List.contains_iff_mem] at h
  rcases h with (h | rfl) | h
  · omega
  · decide
  · have hall : "%#/:<>?@[\\]^|".toList.all (·.toNat < 0x80) = true := by decide
    exact of_decide_eq_true (List.all_eq_true.1 hall c h)

/-- Ideographs are not of ASCII. -/
theorem le_of_ideograph {c : Char} (h : isIdeograph c = true) : 0x80 ≤ c.toNat := by
  have := (isIdeograph_iff c).1 h
  omega

theorem any_of_ideographs {label : List Char} (h : ∀ c ∈ label, isIdeograph c = true)
    (hne : label ≠ []) : label.any (0x80 ≤ ·.toNat) = true := by
  obtain ⟨c, cs, rfl⟩ := List.exists_cons_of_ne_nil hne
  exact List.any_eq_true.2 ⟨c, List.mem_cons_self,
    decide_eq_true (le_of_ideograph (h c List.mem_cons_self))⟩

/-- A label of ideographs may be part of a domain name. -/
theorem accepted_of_ideographs {label : List Char} (h : ∀ c ∈ label, isIdeograph c = true) :
    Accepted label where
  stable c hc := isStable_of_ideograph (h c hc)
  composed := composedForm_of_ideographs h
  dot hmem := absurd (le_of_ideograph (h '.' hmem)) (by decide)
  plain hmark := absurd (le_of_ideograph (h 'x' (hmark.subset List.mem_cons_self))) (by decide)
  allowed c hc hlow := absurd (le_of_ideograph (h c hc)) (Nat.not_le.2 hlow)

/-- A short label of ideographs has an ASCII form. -/
theorem form_of_ideographs {label : List Char} (h : ∀ c ∈ label, isIdeograph c = true)
    (hlength : label.length ≤ longestInternational) : Form (writeLabel label) [label] := by
  have hunruled : ∀ c ∈ label, Unruled c := fun c hc => unruled_of_range (by
    have := (isIdeograph_iff c).1 (h c hc)
    simp only [unruledRange, Bool.or_eq_true, Bool.and_eq_true, decide_eq_true_eq]
    omega)
  constructor
  · exact List.cons_ne_nil _ _
  · simpa using accepted_of_ideographs h
  · simpa using isSound_of_unruled hunruled
  · simp [fitsPunycode, hlength]
  · exact directionsKept_of_unruled (by simpa using hunruled)
  · rw [List.map_singleton, List.intercalate_singleton]

/-- The ASCII form of a label of ideographs. -/
theorem toAscii?_of_ideographs {label : List Char} (h : ∀ c ∈ label, isIdeograph c = true)
    (hlength : label.length ≤ longestInternational) :
    toAscii? label = some (writeLabel label) := by
  have haccepted := accepted_of_ideographs h
  have hform := form_of_ideographs h hlength
  have hplain : ¬ aceMark.isPrefixOf label = true := by
    rw [List.isPrefixOf_iff_prefix]
    exact haccepted.plain
  have hallowed : label.any isForbidden = false := by
    refine List.any_eq_false.2 fun c hc hforbidden => ?_
    exact absurd (le_of_ideograph (h c hc)) (Nat.not_le.2 (lt_of_isForbidden hforbidden))
  have hread : [label].mapM readLabel = some [label] := by
    rw [mapM_eq_some_iff, List.map_singleton, readLabel, if_neg hplain, List.map_singleton]
  unfold toAscii?
  rw [mapAll_of_isStable haccepted.stable]
  simp only [Option.bind_eq_bind, Option.bind_some, haccepted.composed,
    List.splitOn_eq_singleton haccepted.dot, hread, hallowed, hform.sound, hform.fits,
    hform.directed, ← hform.name_eq]
  rfl

/-- The ASCII form of a long label of ideographs that lie apart is no domain name. -/
theorem not_readable_of_spaced {label : List Char} (h : ∀ c ∈ label, isIdeograph c = true)
    (hlength : label.length ≤ longestInternational) (hspaced : Punycode.isSpaced 38 0x80 label = true)
    (hmany : 690 ≤ label.length) : ¬ Readable (writeLabel label) := by
  have hhigh : label.any (0x80 ≤ ·.toNat) = true :=
    any_of_ideographs h (List.ne_nil_of_length_pos (by omega))
  have hlabel : writeLabel label ∈ (writeLabel label).splitOn '.' := by
    rw [(form_of_ideographs h hlength).splitOn]
    exact List.mem_cons_self
  intro hreadable
  rw [writeLabel_of_any hhigh] at hlabel hreadable
  have hfits := hreadable _ hlabel (List.prefix_append _ _)
  have hdigits := Punycode.length_encode_of_spaced hspaced
  rw [drop_aceMark_append, longestEncoded] at hfits
  omega

end MainContent.Url.Domain

namespace MainContent.Url

/-- A name of one label in Punycode does not end in a number. -/
theorem endsInNumber_of_aceMark {name : List Char} (hone : name.splitOn '.' = [name])
    (hmark : Domain.aceMark <+: name) : Ipv4.endsInNumber name = false := by
  obtain ⟨rest, rfl⟩ := hmark
  have hparts : Ipv4.parts (Domain.aceMark ++ rest) = [Domain.aceMark ++ rest] := by
    rw [Ipv4.parts, hone]
    rfl
  have hvalue : Ipv4.partValue? (Domain.aceMark ++ rest) = none := by
    have hempty : (Domain.aceMark ++ rest).isEmpty = false := rfl
    have hdigits : Ipv4.digits (Domain.aceMark ++ rest) = (10, Domain.aceMark ++ rest) := rfl
    rw [Ipv4.partValue?, hempty, if_neg Bool.false_ne_true, hdigits]
    -- An `x` is no digit, and without its value there is none of the digits that follow.
    change List.foldl _ none ('n' :: '-' :: '-' :: rest) = none
    exact List.foldl_fixed' (fun _ => rfl) _
  rw [Ipv4.endsInNumber, hparts, List.getLast?_singleton]
  dsimp only
  rw [hvalue]
  rfl

/-- A short label of ideographs is read as the host that is its ASCII form. -/
theorem readSpecialHost_of_ideographs {label : List Char}
    (h : ∀ c ∈ label, Domain.isIdeograph c = true) (hne : label ≠ [])
    (hlength : label.length ≤ Domain.longestInternational) :
    readSpecialHost label = .ok (.name (String.ofList (Domain.writeLabel label))) := by
  have hform := Domain.form_of_ideographs h hlength
  have hhigh : label.any (0x80 ≤ ·.toNat) = true := Domain.any_of_ideographs h hne
  have hnumber : Ipv4.endsInNumber (Domain.writeLabel label) = false := by
    refine endsInNumber_of_aceMark hform.splitOn ?_
    rw [Domain.writeLabel_of_any hhigh]
    exact List.prefix_append _ _
  have hmark : '%' ∉ label := fun hmem =>
    absurd (Domain.le_of_ideograph (h '%' hmem)) (by decide)
  unfold readSpecialHost
  split
  · exact absurd (Domain.le_of_ideograph (h '[' List.mem_cons_self)) (by decide)
  · rw [ofBytes?_encode hmark, Domain.toAscii?_of_ideographs h hlength]
    split
    · rename_i heq
      cases heq
    · rename_i heq
      rw [Domain.writeLabel_of_any hhigh] at heq
      cases heq
    · rename_i heq
      obtain rfl := Option.some.inj heq
      rw [hnumber, if_neg Bool.false_ne_true]

end MainContent.Url
