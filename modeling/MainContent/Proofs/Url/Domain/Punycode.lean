import MainContent.Proofs.Text.Ascii
import MainContent.Proofs.Text.Part
import MainContent.Proofs.Text.Sequence
import MainContent.Url.Domain.Punycode
import Mathlib.Data.List.TakeWhile
import Mathlib.Tactic.Ring

/-!
# Punycode is read back

What a label is encoded as stands for the label (`decode?_encode`), whatever its characters are, if
it is not absurdly long. The encoder passes over the label once for each of its characters outside
ASCII; the decoder puts in, one by one, the characters that the encoder has come to. At each place of
a pass both have reached the same (`Reached`), so that the next distance leads the decoder to where
the encoder stands.
-/

namespace MainContent.Url.Domain.Punycode

/-! ## Digits -/

theorem threshold_bounds (k bias : Nat) : 1 ≤ threshold k bias ∧ threshold k bias ≤ 26 := by
  unfold threshold
  split_ifs <;> omega

theorem digitValue?_digit : ∀ n < 36, digitValue? (digit n) = some n := by
  decide

/-- A character that digits are written with. -/
def isDigit (c : Char) : Bool :=
  (0x61 ≤ c.toNat && c.toNat ≤ 0x7A) || (0x30 ≤ c.toNat && c.toNat ≤ 0x39)

theorem isDigit_digit : ∀ n < 36, isDigit (digit n) = true := by
  decide

/-- The digit that is written before others, and what is left for these. -/
theorem digit_step {t q : Nat} (hlow : 1 ≤ t) (hhigh : t ≤ 26) (hq : t ≤ q) :
    t + (q - t) % (36 - t) < 36 ∧
      t + (q - t) % (36 - t) + (q - t) / (36 - t) * (36 - t) = q ∧
      (q - t) / (36 - t) ≤ q / 10 := by
  have hrest := Nat.mod_lt (q - t) (show 0 < 36 - t by omega)
  have hsum := Nat.mod_add_div' (q - t) (36 - t)
  have hfewer : (q - t) / (36 - t) ≤ (q - t) / 10 := Nat.div_le_div_left (by omega) (by omega)
  omega

/-- A distance is written with digits, and with at least one. -/
theorem distance_digits {fuel q : Nat} (bias k : Nat) (hq : q < 10 ^ fuel) :
    distance bias fuel k q ≠ [] ∧ ∀ c ∈ distance bias fuel k q, isDigit c = true := by
  induction fuel generalizing k q with
  | zero =>
    have hzero : q = 0 := by omega
    rw [hzero, distance]
    exact ⟨nofun, by simp [isDigit_digit 0 (by decide)]⟩
  | succ fuel ih =>
    obtain ⟨hlow, hhigh⟩ := threshold_bounds k bias
    unfold distance
    dsimp only
    split
    · exact ⟨nofun, by simp [isDigit_digit q (by omega)]⟩
    · rename_i hmore
      obtain ⟨hdigit, -, hfewer⟩ := digit_step hlow hhigh (Nat.not_lt.1 hmore)
      refine ⟨nofun, fun c hc => ?_⟩
      rcases List.mem_cons.1 hc with rfl | hc
      · exact isDigit_digit _ hdigit
      · exact (ih (k + 36) (by rw [pow_succ] at hq; omega)).2 c hc

/-- A distance is read as it was written, and what follows it is left. -/
theorem readDistance_distance {fuel q : Nat} (bias k weight acc : Nat) (hq : q < 10 ^ fuel)
    (rest : List Char) :
    readDistance bias k weight acc (distance bias fuel k q ++ rest) =
      some (acc + q * weight, rest) := by
  induction fuel generalizing k q weight acc with
  | zero =>
    have ht := threshold_bounds k bias
    have hzero : q = 0 := by omega
    rw [hzero, distance, List.singleton_append, readDistance, digitValue?_digit 0 (by decide)]
    dsimp only
    rw [if_pos (by omega)]
  | succ fuel ih =>
    obtain ⟨hlow, hhigh⟩ := threshold_bounds k bias
    unfold distance
    dsimp only
    split
    · rename_i hlast
      rw [List.singleton_append, readDistance, digitValue?_digit q (by omega)]
      dsimp only
      rw [if_pos hlast]
    · rename_i hmore
      obtain ⟨hdigit, hsum, hfewer⟩ := digit_step hlow hhigh (Nat.not_lt.1 hmore)
      rw [List.cons_append, readDistance, digitValue?_digit _ hdigit]
      dsimp only
      rw [if_neg (by omega), ih _ _ _ (by rw [pow_succ] at hq; omega)]
      generalize (q - threshold k bias) / (36 - threshold k bias) = others at *
      generalize threshold k bias + (q - threshold k bias) % (36 - threshold k bias) = first at *
      rw [← hsum, Option.some.injEq, Prod.mk.injEq]
      exact ⟨by ring, rfl⟩

/-! ## The decoder -/

/-- Where the decoder is: the code point and the place that it has come to, the bias, and the
characters so far. -/
structure Place where
  /-- The code point of the last character that was put in. -/
  point : Nat
  /-- The place behind it. -/
  index : Nat
  /-- The bias of the digits that follow. -/
  bias : Nat
  /-- The characters so far. -/
  out : List Char

/-- Digits lead the decoder from one place to another, whatever follows them. -/
def Leads (s : Place) (ds : List Char) (t : Place) : Prop :=
  ∀ fuel rest, (ds ++ rest).length ≤ fuel → ∃ fuel', rest.length ≤ fuel' ∧
    decodeFrom fuel s.point s.index s.bias s.out (ds ++ rest) =
      decodeFrom fuel' t.point t.index t.bias t.out rest

theorem Leads.refl (s : Place) : Leads s [] s := fun fuel _ hfuel => ⟨fuel, hfuel, rfl⟩

theorem Leads.trans {s t u : Place} {ds es : List Char} (h : Leads s ds t) (h' : Leads t es u) :
    Leads s (ds ++ es) u := by
  intro fuel rest hfuel
  rw [List.append_assoc] at hfuel ⊢
  obtain ⟨fuel', hfuel', heq⟩ := h fuel (es ++ rest) hfuel
  obtain ⟨fuel'', hfuel'', heq'⟩ := h' fuel' rest hfuel'
  exact ⟨fuel'', hfuel'', heq.trans heq'⟩

/-- Digits that lead to a place where the decoder has the whole text are decoded to it. -/
theorem Leads.decodeFrom_eq {s t : Place} {ds : List Char} (h : Leads s ds t) {fuel : Nat}
    (hfuel : ds.length ≤ fuel) :
    decodeFrom fuel s.point s.index s.bias s.out ds = some t.out := by
  obtain ⟨fuel', -, heq⟩ := h fuel [] (by simpa using hfuel)
  rw [List.append_nil] at heq
  rw [heq]
  cases fuel' <;> rfl

/-- The place that the decoder comes to when it puts in a character at an index. -/
def Place.put (s : Place) (distance index : Nat) (c : Char) : Place where
  point := c.toNat
  index := index + 1
  bias := adapt distance (s.out.length + 1) (s.index == 0)
  out := s.out.take index ++ c :: s.out.drop index

/-- A distance leads to the character and the index that it was measured to. -/
theorem leads_distance {s : Place} {q index : Nat} {c : Char} (hq : q < 10 ^ 32)
    (hindex : index ≤ s.out.length)
    (hdistance : q + s.point * (s.out.length + 1) + s.index =
      c.toNat * (s.out.length + 1) + index)
    (hpoint : s.point ≤ c.toNat) :
    Leads s (distance s.bias 32 36 q) (s.put q index c) := by
  intro fuel rest hfuel
  have hread := readDistance_distance s.bias 36 1 0 hq rest
  have hne := (distance_digits s.bias 36 hq).1
  obtain ⟨d, ds, hds⟩ := List.exists_cons_of_ne_nil hne
  rw [hds, List.cons_append] at hread hfuel ⊢
  obtain ⟨fuel, rfl⟩ : ∃ n, fuel = n + 1 := ⟨fuel - 1, by simp at hfuel; omega⟩
  refine ⟨fuel, by simp at hfuel; omega, ?_⟩
  -- The distance counts the places of all code points in between, one more for each of these than
  -- there are characters.
  obtain ⟨gap, hgap⟩ : ∃ gap, c.toNat = s.point + gap := ⟨_, (Nat.add_sub_of_le hpoint).symm⟩
  have htotal : s.index + q = (s.out.length + 1) * gap + index := by
    rw [hgap, Nat.add_mul, Nat.mul_comm gap] at hdistance
    omega
  have hpoint' : s.point + (s.index + q) / (s.out.length + 1) = c.toNat := by
    rw [htotal, Nat.mul_add_div (by omega), Nat.div_eq_of_lt (by omega), Nat.add_zero, hgap]
  have hplace : (s.index + q) % (s.out.length + 1) = index := by
    rw [htotal, Nat.mul_add_mod, Nat.mod_eq_of_lt (by omega)]
  have hvalid : c.toNat.isValidChar := c.valid
  rw [decodeFrom, hread]
  dsimp only
  rw [Nat.zero_add, Nat.mul_one, hpoint', hplace, if_pos hvalid, Char.ofNat_toNat]
  rfl

/-! ## The encoder -/

/-- What the encoder has reached in the pass for a character, between the characters that it has
passed over and those that are left, is where the decoder is. -/
structure Reached (basic n : Nat) (passed left : List Char) (p : Progress) (s : Place) : Prop where
  /-- The decoder has the characters that were written, among them those of this pass. -/
  out : s.out = passed.filter (·.toNat ≤ n) ++ left.filter (·.toNat < n)
  /-- They are counted. -/
  written : p.written = s.out.length
  /-- The biases are the same. -/
  bias : p.bias = s.bias
  /-- The distance is the one from the decoder's place to here. -/
  distance : p.delta + s.point * (s.out.length + 1) + s.index =
    n * (s.out.length + 1) + (passed.filter (·.toNat ≤ n)).length
  /-- The decoder is at no later character. -/
  point : s.point ≤ n
  /-- Both know whether this is the first distance. -/
  first : (p.written == basic) = (s.index == 0)
  /-- The characters of ASCII were written beforehand. -/
  basic_le : basic ≤ p.written

/-- Digits that lead the decoder on as far as the encoder has come; they are written backwards before
what was written. -/
structure Writes (before after : List Char) (s t : Place) (ds : List Char) : Prop where
  /-- The digits are written. -/
  out : after = ds.reverse ++ before
  /-- They are digits. -/
  digits : ∀ c ∈ ds, isDigit c = true
  /-- They lead the decoder on. -/
  leads : Leads s ds t

theorem Writes.refl (out : List Char) (s : Place) : Writes out out s s [] :=
  ⟨rfl, by simp, .refl s⟩

theorem Writes.trans {xs ys zs : List Char} {s t u : Place} {ds es : List Char}
    (h : Writes xs ys s t ds) (h' : Writes ys zs t u es) : Writes xs zs s u (ds ++ es) where
  out := by rw [h'.out, h.out, List.reverse_append, List.append_assoc]
  digits := List.forall_mem_append.2 ⟨h.digits, h'.digits⟩
  leads := h.leads.trans h'.leads

/-- The most characters of a label for which the lengths of distances are bounded here. -/
def bound : Nat := 10 ^ 20

/-- The distance is small enough to be written. -/
theorem Reached.delta_lt {basic n : Nat} {passed left : List Char} {p : Progress} {s : Place}
    (h : Reached basic n passed left p s) (hlength : (passed ++ left).length < bound) (c : Char)
    (hc : c.toNat = n) : p.delta < 10 ^ 32 := by
  have hn : n < 0x110000 := by
    have := Text.Utf8.toNat_bounds c
    omega
  have hpassed := List.length_filter_le (fun d : Char => decide (d.toNat ≤ n)) passed
  have hleft := List.length_filter_le (fun d : Char => decide (d.toNat < n)) left
  have hout : s.out.length ≤ (passed ++ left).length := by
    rw [h.out, List.length_append, List.length_append]
    omega
  rw [List.length_append] at hlength hout
  have hproduct : n * (s.out.length + 1) ≤ 0x110000 * 10 ^ 20 :=
    Nat.mul_le_mul hn.le (by unfold bound at hlength; omega)
  have hdistance := h.distance
  unfold bound at hlength
  omega

/-- The encoder passes over a character. -/
theorem Reached.step {basic n : Nat} {passed left : List Char} {c : Char} {p : Progress} {s : Place}
    (h : Reached basic n passed (c :: left) p s) (hlength : (passed ++ c :: left).length < bound) :
    ∃ t ds, Writes p.out (step basic n p c).out s t ds ∧
      Reached basic n (passed ++ [c]) left (step basic n p c) t := by
  unfold Punycode.step
  rcases Nat.lt_trichotomy c.toNat n with hlt | heq | hgt
  · -- The decoder has the character, and one more place is passed over.
    rw [if_pos hlt]
    refine ⟨s, [], ⟨rfl, by simp, .refl s⟩, ?_, h.written, h.bias, ?_, h.point, h.first, h.basic_le⟩
    · rw [h.out]
      simp [hlt, hlt.le]
    · have := h.distance
      simp [hlt.le]
      omega
  · -- The character is written, and the decoder puts it in behind those that were passed over.
    rw [if_neg (by omega), if_pos heq]
    obtain ⟨front, hfront⟩ : ∃ front, passed.filter (·.toNat ≤ n) = front := ⟨_, rfl⟩
    obtain ⟨behind, hbehind⟩ : ∃ behind, left.filter (·.toNat < n) = behind := ⟨_, rfl⟩
    have hout : s.out = front ++ behind := by
      rw [h.out, List.filter_cons_of_neg (by simp [heq]), hfront, hbehind]
    have hpassed : (passed ++ [c]).filter (·.toNat ≤ n) = front ++ [c] := by
      rw [List.filter_append, hfront, List.filter_cons_of_pos (by simp [heq]), List.filter_nil]
    have hindex : front.length ≤ s.out.length := by simp [hout]
    have hdistance := h.distance
    rw [hfront] at hdistance
    have hsize := h.delta_lt hlength c heq
    refine ⟨s.put p.delta front.length c, Punycode.distance p.bias 32 36 p.delta, ⟨rfl,
      (distance_digits p.bias 36 hsize).2, ?_⟩, ?_, ?_, ?_, ?_, ?_, ?_, ?_⟩
    · rw [h.bias]
      exact leads_distance hsize hindex (by rw [hdistance, heq]) (heq ▸ h.point)
    · simp [Place.put, hpassed, hbehind, hout]
    · simp [Place.put, h.written]
      omega
    · dsimp only
      rw [h.first, h.written]
      rfl
    · simp [Place.put, hpassed, heq]
    · exact heq.le
    · have := h.basic_le
      simp [Place.put]
      omega
    · exact h.basic_le.trans (Nat.le_succ _)
  · -- The character is for a later pass.
    rw [if_neg (by omega), if_neg (by omega)]
    refine ⟨s, [], .refl p.out s, ?_, h.written, h.bias, ?_, h.point, h.first, h.basic_le⟩
    · rw [h.out]
      simp [hgt.le, hgt]
    · have := h.distance
      simp [hgt]
      omega

/-- The encoder passes over the rest of the label. -/
theorem Reached.foldl {basic n : Nat} {passed left : List Char} {p : Progress} {s : Place}
    (h : Reached basic n passed left p s) (hlength : (passed ++ left).length < bound) :
    ∃ t ds, Writes p.out (left.foldl (Punycode.step basic n) p).out s t ds ∧
      Reached basic n (passed ++ left) [] (left.foldl (Punycode.step basic n) p) t := by
  induction left generalizing passed p s with
  | nil => exact ⟨s, [], .refl p.out s, by rwa [List.append_nil]⟩
  | cons c left ih =>
    obtain ⟨t, ds, hstep, ht⟩ := h.step hlength
    obtain ⟨u, es, hrest, hu⟩ := ih ht (by simpa using hlength)
    rw [List.append_assoc, List.singleton_append] at hu
    exact ⟨u, ds ++ es, hstep.trans hrest, hu⟩

/-- Before the pass for a character, the encoder has written all characters below `last`, and so the
decoder has them. -/
structure Before (label : List Char) (last : Nat) (p : Progress) (s : Place) : Prop where
  /-- The decoder has the characters that were written. -/
  out : s.out = label.filter (·.toNat < last)
  /-- They are counted. -/
  written : p.written = s.out.length
  /-- The biases are the same. -/
  bias : p.bias = s.bias
  /-- The distance is the one from the decoder's place to the beginning of the label. -/
  distance : p.delta + s.point * (s.out.length + 1) + s.index = last * (s.out.length + 1)
  /-- The decoder is at no later character. -/
  point : s.point ≤ last
  /-- Both know whether this is the first distance. -/
  first : (p.written == (label.filter (·.toNat < 0x80)).length) = (s.index == 0)
  /-- The characters of ASCII were written beforehand. -/
  basic_le : (label.filter (·.toNat < 0x80)).length ≤ p.written

/-- The pass for the next character of the label begins where the decoder is. -/
theorem Before.begin {label : List Char} {last n : Nat} {p : Progress} {s : Place}
    (h : Before label last p s) (hn : last ≤ n)
    (hnone : ∀ c ∈ label, c.toNat < n → c.toNat < last) :
    Reached (label.filter (·.toNat < 0x80)).length n [] label
      { p with delta := p.delta + (n - last) * (p.written + 1) } s where
  out := by
    rw [h.out, List.filter_nil, List.nil_append]
    exact List.filter_congr fun c hc => decide_eq_decide.2 ⟨fun hlt => hlt.trans_le hn, hnone c hc⟩
  written := h.written
  bias := h.bias
  distance := by
    have hdistance := h.distance
    have hproduct : last * (s.out.length + 1) + (n - last) * (s.out.length + 1) =
        n * (s.out.length + 1) := by rw [← Nat.add_mul, Nat.add_sub_of_le hn]
    dsimp only
    rw [h.written, List.filter_nil, List.length_nil]
    omega
  point := h.point.trans hn
  first := h.first
  basic_le := h.basic_le

/-- After the pass for a character, the encoder has written all characters up to it. -/
theorem Reached.next {label : List Char} {n : Nat} {p : Progress} {s : Place}
    (h : Reached (label.filter (·.toNat < 0x80)).length n label [] p s) :
    Before label (n + 1) { p with delta := p.delta + 1 } s where
  out := by
    rw [h.out, List.filter_nil, List.append_nil]
    exact List.filter_congr fun c _ => decide_eq_decide.2 Nat.lt_succ_iff.symm
  written := h.written
  bias := h.bias
  distance := by
    have hdistance := h.distance
    have hlength : s.out.length = (label.filter (·.toNat ≤ n)).length := by
      rw [h.out, List.filter_nil, List.append_nil]
    dsimp only
    rw [← hlength] at hdistance
    rw [Nat.add_mul]
    omega
  point := h.point.trans (Nat.le_succ n)
  first := h.first
  basic_le := h.basic_le

/-- The encoder writes the characters of the list, and the decoder is led to the whole label. -/
theorem Before.encodePoints {label : List Char} (hlength : label.length < bound) {last : Nat}
    {ns : List Nat} {p : Progress} {s : Place} (h : Before label last p s)
    (hascending : ns.Pairwise (· < ·)) (hlast : ∀ n ∈ ns, last ≤ n)
    (hall : ∀ c ∈ label, last ≤ c.toNat → c.toNat ∈ ns) :
    ∃ t ds, Writes p.out (encodePoints label (label.filter (·.toNat < 0x80)).length last ns p).out
      s t ds ∧ t.out = label := by
  induction ns generalizing last p s with
  | nil =>
    refine ⟨s, [], .refl p.out s, ?_⟩
    rw [h.out, List.filter_eq_self]
    intro c hc
    by_contra hle
    exact absurd (hall c hc (by simpa using hle)) List.not_mem_nil
  | cons n ns ih =>
    obtain ⟨hn, hns⟩ := List.pairwise_cons.1 hascending
    -- The label has no character between the last pass and this one.
    have hstart := h.begin (hlast n List.mem_cons_self) (by
      intro c hc hlt
      by_contra hle
      rcases List.mem_cons.1 (hall c hc (Nat.not_lt.1 hle)) with heq | hmem
      · omega
      · have := hn _ hmem
        omega)
    obtain ⟨t, ds, hpass, ht⟩ := hstart.foldl (by simpa using hlength)
    obtain ⟨u, es, hrest, hu⟩ := ih ht.next hns (fun m hm => hn m hm) (by
      intro c hc hle
      rcases List.mem_cons.1 (hall c hc (by have := hlast n List.mem_cons_self; omega)) with heq | hmem
      · omega
      · exact hmem)
    exact ⟨u, ds ++ es, hpass.trans hrest, hu⟩

/-! ## Labels -/

theorem mem_points_iff {label : List Char} {n : Nat} :
    n ∈ points label ↔ ∃ c ∈ label, 0x80 ≤ c.toNat ∧ c.toNat = n := by
  simp [points, and_assoc]

theorem nodup_eraseDups (ns : List Nat) : ns.eraseDups.Nodup := by
  induction hn : ns.length using Nat.strong_induction_on generalizing ns with
  | _ n ih =>
    cases ns with
    | nil => exact .nil
    | cons m ns =>
      have hfewer := List.length_filter_le (fun b => !b == m) ns
      rw [List.eraseDups_cons]
      refine List.nodup_cons.2 ⟨fun hm => ?_, ih _ (by simp at hn; omega) _ rfl⟩
      have hmem := (List.mem_filter.1 (List.mem_eraseDups.1 hm)).2
      simp at hmem

/-- The characters outside ASCII ascend. -/
theorem pairwise_points (label : List Char) : (points label).Pairwise (· < ·) := by
  unfold points
  generalize (label.filter (0x80 ≤ ·.toNat)).map Char.toNat = ns
  have hsorted : ns.eraseDups.mergeSort.Pairwise fun a b => decide (a ≤ b) = true :=
    List.pairwise_mergeSort (fun a b c => by simpa using Nat.le_trans)
      (fun a b => by simpa using Nat.le_total a b) ns.eraseDups
  have hnodup : (ns.eraseDups.mergeSort).Nodup :=
    (List.mergeSort_perm _ _).nodup_iff.2 (nodup_eraseDups ns)
  exact (hsorted.and hnodup).imp fun h => Nat.lt_of_le_of_ne (by simpa using h.1) h.2

/-- A label is encoded as its characters of ASCII, a hyphen if there are any, and digits from which
the decoder comes to the label. -/
theorem exists_encode_eq {label : List Char} (hlength : label.length < bound) :
    ∃ ds, encode label = (label.filter (·.toNat < 0x80) ++
        if (label.filter (·.toNat < 0x80)).isEmpty then [] else ['-']) ++ ds ∧
      (∀ c ∈ ds, isDigit c = true) ∧
      ∀ fuel, ds.length ≤ fuel →
        decodeFrom fuel 0x80 0 72 (label.filter (·.toNat < 0x80)) ds = some label := by
  generalize hascii : label.filter (·.toNat < 0x80) = ascii
  let start : List Char := if ascii.isEmpty then [] else '-' :: ascii.reverse
  let p : Progress := { delta := 0, bias := 72, written := ascii.length, out := start }
  have hbegin : Before label 0x80 p ⟨0x80, 0, 72, ascii⟩ :=
    { out := hascii.symm, written := rfl, bias := rfl, distance := by simp [p], point := le_rfl,
      first := by simp [p, hascii], basic_le := by simp [p, hascii] }
  obtain ⟨t, ds, hwrites, ht⟩ := hbegin.encodePoints hlength (pairwise_points label)
    (fun n hn => by obtain ⟨c, -, hc, rfl⟩ := mem_points_iff.1 hn; exact hc)
    (fun c hc hle => mem_points_iff.2 ⟨c, hc, hle, rfl⟩)
  refine ⟨ds, ?_, hwrites.digits, fun fuel hfuel => ?_⟩
  · rw [hascii] at hwrites
    have hstart : start.reverse = ascii ++ if ascii.isEmpty then [] else ['-'] := by
      cases ascii with
      | nil => rfl
      | cons c ascii => simp [start]
    calc encode label
        = (encodePoints label ascii.length 0x80 (points label) p).out.reverse := by
          rw [encode, hascii]
      _ = start.reverse ++ ds := by
          rw [hwrites.out, List.reverse_append, List.reverse_reverse]
      _ = _ := by rw [hstart]
  · rw [← ht]
    exact hwrites.leads.decodeFrom_eq hfuel

/-- Digits are small letters and figures. -/
theorem isDigit_spec {c : Char} (h : isDigit c = true) :
    c.toNat < 0x80 ∧ c ≠ '-' ∧ c ≠ '.' := by
  have hbounds : c.toNat < 0x80 := by
    simp only [isDigit, Bool.or_eq_true, Bool.and_eq_true, decide_eq_true_eq] at h
    omega
  refine ⟨hbounds, ?_, ?_⟩
  · rintro rfl
    exact absurd h (by decide)
  · rintro rfl
    exact absurd h (by decide)

/-- Digits alone are read from the beginning. -/
theorem decode?_digits {ds : List Char} (hds : ∀ c ∈ ds, isDigit c = true) :
    decode? ds = decodeFrom ds.length 0x80 0 72 [] ds := by
  have hplain : '-' ∉ ds := fun hmem => (isDigit_spec (hds '-' hmem)).2.1 rfl
  have hback : '-' ∉ ds.reverse := fun hmem => hplain (List.mem_reverse.1 hmem)
  have htake := Text.takeWhile_ne_eq_self hback
  have hdrop := Text.dropWhile_ne_eq_nil hback
  have hlow : ds.any (0x80 ≤ ·.toNat) = false := by
    simpa using fun c hc => (isDigit_spec (hds c hc)).1
  have hhyphen : ds.contains '-' = false := by
    simpa using hplain
  unfold decode?
  dsimp only
  rw [htake, hdrop, hlow, hhyphen, Bool.and_false, Bool.or_false, if_neg Bool.false_ne_true,
    List.reverse_reverse]
  rfl

/-- Digits behind a hyphen are read from the characters before it. -/
theorem decode?_hyphen {ascii ds : List Char} (hne : ascii ≠ [])
    (hascii : ∀ c ∈ ascii, c.toNat < 0x80) (hds : ∀ c ∈ ds, isDigit c = true) :
    decode? (ascii ++ '-' :: ds) =
      decodeFrom (ascii ++ '-' :: ds).length 0x80 0 72 ascii ds := by
  -- The digits have no hyphen, so that the last one is the one that they stand behind.
  have hplain : '-' ∉ ds.reverse := fun hmem =>
    (isDigit_spec (hds '-' (List.mem_reverse.1 hmem))).2.1 rfl
  have hback : (ascii ++ '-' :: ds).reverse = ds.reverse ++ '-' :: ascii.reverse := by simp
  have htake : (ascii ++ '-' :: ds).reverse.takeWhile (· ≠ '-') = ds.reverse := by
    rw [hback, Text.takeWhile_ne_append hplain]
  have hdrop : (ascii ++ '-' :: ds).reverse.dropWhile (· ≠ '-') = '-' :: ascii.reverse := by
    rw [hback, Text.dropWhile_ne_append hplain]
  have hlow : (ascii ++ '-' :: ds).any (0x80 ≤ ·.toNat) = false := by
    rw [← Bool.not_eq_true, List.any_eq_true]
    rintro ⟨c, hc, hhigh⟩
    have hsmall : c.toNat < 0x80 := by
      rcases List.mem_append.1 hc with hc | hc
      · exact hascii c hc
      · rcases List.mem_cons.1 hc with rfl | hc
        · decide
        · exact (isDigit_spec (hds c hc)).1
    exact absurd hhigh (by simpa using hsmall)
  unfold decode?
  dsimp only
  rw [htake, hdrop, hlow, Bool.false_or, List.drop_one, List.tail_cons, List.reverse_reverse,
    List.reverse_reverse, List.isEmpty_eq_false_iff.2 hne, Bool.false_and,
    if_neg Bool.false_ne_true]

/-- What a label is encoded as is decoded to the label. -/
theorem decode?_encode {label : List Char} (hlength : label.length < bound) :
    decode? (encode label) = some label := by
  obtain ⟨ds, hencode, hdigits, hdecode⟩ := exists_encode_eq hlength
  have hlow : ∀ c ∈ label.filter (·.toNat < 0x80), c.toNat < 0x80 := fun c hc => by
    simpa using (List.mem_filter.1 hc).2
  rw [hencode]
  split
  · rename_i hnil
    rw [List.isEmpty_iff] at hnil
    rw [hnil] at hdecode ⊢
    rw [List.nil_append, List.nil_append, decode?_digits hdigits]
    exact hdecode _ le_rfl
  · rename_i hne
    rw [List.isEmpty_iff] at hne
    rw [List.append_assoc, List.singleton_append, decode?_hyphen hne hlow hdigits]
    exact hdecode _ (by simp; omega)

/-- Decoding puts in only characters outside ASCII. -/
theorem mem_of_decodeFrom {fuel n i bias : Nat} {out cs label : List Char} (hn : 0x80 ≤ n)
    (h : decodeFrom fuel n i bias out cs = some label) :
    ∀ c ∈ label, c.toNat < 0x80 → c ∈ out := by
  fun_induction decodeFrom fuel n i bias out cs with
  | case1 fuel n i bias out =>
    obtain rfl := Option.some.inj h
    exact fun c hc _ => hc
  | case2 => cases h
  | case3 => cases h
  | case4 fuel n i bias out c cs d rest hread size total m place hvalid ih =>
    intro x hx hlow
    have hm : 0x80 ≤ m := hn.trans (Nat.le_add_right n _)
    rcases List.mem_append.1 (ih hm h x hx hlow) with hmem | hmem
    · exact List.mem_of_mem_take hmem
    · rcases List.mem_cons.1 hmem with rfl | hmem
      · rw [Text.Utf8.toNat_ofNat hvalid] at hlow
        omega
      · exact List.mem_of_mem_drop hmem
  | case5 => cases h

/-- The characters of ASCII in a label that was decoded are in the encoding. -/
theorem mem_of_decode? {cs label : List Char} (h : decode? cs = some label) :
    ∀ c ∈ label, c.toNat < 0x80 → c ∈ cs := by
  unfold decode? at h
  dsimp only at h
  split at h
  · cases h
  · intro c hc hlow
    have hfront := List.mem_reverse.1 (mem_of_decodeFrom le_rfl h c hc hlow)
    exact List.mem_reverse.1 ((List.dropWhile_sublist _).subset (List.mem_of_mem_drop hfront))

/-- An encoding is made of characters of ASCII of the label, hyphens and digits. -/
theorem mem_of_mem_encode {label : List Char} (hlength : label.length < bound) :
    ∀ c ∈ encode label, c ∈ label ∧ c.toNat < 0x80 ∨ c = '-' ∨ isDigit c = true := by
  obtain ⟨ds, hencode, hdigits, -⟩ := exists_encode_eq hlength
  intro c hc
  rw [hencode] at hc
  rcases List.mem_append.1 hc with hc | hc
  · rcases List.mem_append.1 hc with hc | hc
    · exact .inl (by simpa using List.mem_filter.1 hc)
    · split at hc
      · cases hc
      · exact .inr (.inl (List.mem_singleton.1 hc))
  · exact .inr (.inr (hdigits c hc))

end MainContent.Url.Domain.Punycode
