import MainContent.Text.Utf8
import Mathlib.Tactic.SplitIfs

/-!
# The sequences of UTF-8

A character is written as one to four bytes, and `Sequence` is the table of what they may be. The bytes
of a character stand in the table with its number (`sequence_utf8EncodeChar`), and a sequence of the
table is the bytes of a character (`Sequence.exists_char`).

The reader of one sequence follows the table: it takes exactly the bytes of a sequence and gives its
character, whatever comes after them (`Sequence.next_eq`), and it gives a character for nothing else
(`sequence_of_next`).
-/

namespace MainContent.Text.Utf8

/-- A byte that continues a sequence is one from 0x80 to 0xBF. -/
theorem isTail_iff (b : UInt8) : isTail b = true ↔ 0x80 ≤ b.toNat ∧ b.toNat ≤ 0xBF := by
  simp [isTail, UInt8.le_iff_toNat_le]

/-- The second byte of three continues the sequence, and makes it neither longer than needed nor a
surrogate. -/
theorem secondOfThree_iff (b s : UInt8) :
    secondOfThree b s = true ↔ (0x80 ≤ s.toNat ∧ s.toNat ≤ 0xBF) ∧
      (b.toNat = 0xE0 → 0xA0 ≤ s.toNat) ∧ (b.toNat = 0xED → s.toNat ≤ 0x9F) := by
  unfold secondOfThree isTail
  simp only [beq_iff_eq, ← UInt8.toNat_inj, UInt8.toNat_ofNat]
  split_ifs <;>
    simp only [Bool.and_eq_true, decide_eq_true_eq, UInt8.le_iff_toNat_le, UInt8.toNat_ofNat] <;>
    omega

/-- The second byte of four continues the sequence, and makes it neither longer than needed nor larger
than every character. -/
theorem secondOfFour_iff (b s : UInt8) :
    secondOfFour b s = true ↔ (0x80 ≤ s.toNat ∧ s.toNat ≤ 0xBF) ∧
      (b.toNat = 0xF0 → 0x90 ≤ s.toNat) ∧ (b.toNat = 0xF4 → s.toNat ≤ 0x8F) := by
  unfold secondOfFour isTail
  simp only [beq_iff_eq, ← UInt8.toNat_inj, UInt8.toNat_ofNat]
  split_ifs <;>
    simp only [Bool.and_eq_true, decide_eq_true_eq, UInt8.le_iff_toNat_le, UInt8.toNat_ofNat] <;>
    omega

/-- The number of a character is that of no surrogate, and below 0x110000. -/
theorem toNat_bounds (c : Char) : c.toNat < 0xD800 ∨ 0xDFFF < c.toNat ∧ c.toNat < 0x110000 :=
  c.valid

/-- Where there is a character of a number, it has that number. -/
theorem toNat_ofNat {n : Nat} (h : n.isValidChar) : (Char.ofNat n).toNat = n := by
  rw [Char.ofNat, dif_pos h]
  rfl

/-! ## The table -/

/-- The well-formed sequences, each with the number of its character. -/
inductive Sequence : List UInt8 → Nat → Prop where
  | one {b : UInt8} {n : Nat} : b.toNat < 0x80 → n = b.toNat → Sequence [b] n
  | two {b s : UInt8} {n : Nat} : 0xC2 ≤ b.toNat → b.toNat < 0xE0 → isTail s = true →
      n = b.toNat % 32 * 64 + tailBits s → Sequence [b, s] n
  | three {b s t : UInt8} {n : Nat} : 0xE0 ≤ b.toNat → b.toNat < 0xF0 → secondOfThree b s = true →
      isTail t = true → n = b.toNat % 16 * 4096 + tailBits s * 64 + tailBits t →
      Sequence [b, s, t] n
  | four {b s t u : UInt8} {n : Nat} : 0xF0 ≤ b.toNat → b.toNat < 0xF5 → secondOfFour b s = true →
      isTail t = true → isTail u = true →
      n = b.toNat % 8 * 262144 + tailBits s * 4096 + tailBits t * 64 + tailBits u →
      Sequence [b, s, t, u] n

/-- The bytes of a character, by its number. -/
theorem utf8EncodeChar_eq (c : Char) : String.utf8EncodeChar c =
    if c.toNat ≤ 0x7F then [.ofNat c.toNat]
    else if c.toNat ≤ 0x7FF then
      [.ofNat (c.toNat / 64 % 32 + 0xC0), .ofNat (c.toNat % 64 + 0x80)]
    else if c.toNat ≤ 0xFFFF then
      [.ofNat (c.toNat / 4096 % 16 + 0xE0), .ofNat (c.toNat / 64 % 64 + 0x80),
        .ofNat (c.toNat % 64 + 0x80)]
    else
      [.ofNat (c.toNat / 262144 % 8 + 0xF0), .ofNat (c.toNat / 4096 % 64 + 0x80),
        .ofNat (c.toNat / 64 % 64 + 0x80), .ofNat (c.toNat % 64 + 0x80)] :=
  rfl

/-- The bytes of a character are a sequence of the table, with the character's number. -/
theorem sequence_utf8EncodeChar (c : Char) : Sequence (String.utf8EncodeChar c) c.toNat := by
  have hc := toNat_bounds c
  rw [utf8EncodeChar_eq]
  split_ifs
  · apply Sequence.one <;> simp <;> omega
  · apply Sequence.two <;> simp [isTail_iff, tailBits] <;> omega
  · apply Sequence.three <;> simp [isTail_iff, secondOfThree_iff, tailBits] <;> omega
  · apply Sequence.four <;> simp [isTail_iff, secondOfFour_iff, tailBits] <;> omega

/-- A sequence of the table is the bytes of a character, which has the number that stands there. -/
theorem Sequence.exists_char {bs : List UInt8} {n : Nat} (h : Sequence bs n) :
    ∃ c : Char, c.toNat = n ∧ String.utf8EncodeChar c = bs := by
  -- The bounds of the bytes keep the number off the surrogates, and decide how many bytes it takes.
  have hchar (hvalid : n.isValidChar)
      (hbytes : ∀ c : Char, c.toNat = n → String.utf8EncodeChar c = bs) :
      ∃ c : Char, c.toNat = n ∧ String.utf8EncodeChar c = bs :=
    ⟨.ofNat n, toNat_ofNat hvalid, hbytes _ (toNat_ofNat hvalid)⟩
  unfold Nat.isValidChar at hchar
  cases h with
  | one hb hn =>
    refine hchar (by omega) fun c hc => ?_
    rw [utf8EncodeChar_eq, hc]
    split_ifs <;> simp [← UInt8.toNat_inj] <;> omega
  | two hb hb' hs hn =>
    rw [isTail_iff] at hs
    unfold tailBits at hn
    refine hchar (by omega) fun c hc => ?_
    rw [utf8EncodeChar_eq, hc]
    split_ifs <;> simp [← UInt8.toNat_inj] <;> omega
  | three hb hb' hs ht hn =>
    rw [secondOfThree_iff] at hs
    rw [isTail_iff] at ht
    unfold tailBits at hn
    refine hchar (by omega) fun c hc => ?_
    rw [utf8EncodeChar_eq, hc]
    split_ifs <;> simp [← UInt8.toNat_inj] <;> omega
  | four hb hb' hs ht hu hn =>
    rw [secondOfFour_iff] at hs
    rw [isTail_iff] at ht hu
    unfold tailBits at hn
    refine hchar (by omega) fun c hc => ?_
    rw [utf8EncodeChar_eq, hc]
    split_ifs <;> simp [← UInt8.toNat_inj] <;> omega

/-- A sequence of the table with the number of a character is the character's bytes. -/
theorem Sequence.utf8EncodeChar_eq {bs : List UInt8} {c : Char} (h : Sequence bs c.toNat) :
    String.utf8EncodeChar c = bs := by
  obtain ⟨c', hc', hbytes⟩ := h.exists_char
  rwa [Char.toNat_inj.1 hc'] at hbytes

/-! ## Reading one sequence -/

/-- A sequence is read as its character, and nothing after it is used. -/
theorem Sequence.next_eq {b : UInt8} {tail : List UInt8} {n : Nat} (h : Sequence (b :: tail) n)
    (rest : List UInt8) : next b (tail ++ rest) = (some (.ofNat n), tail.length) := by
  unfold next
  simp only [UInt8.lt_iff_toNat_lt, UInt8.toNat_ofNat]
  cases h with
  | one hb hn => simp [hb, hn]
  | two hb hb' hs hn =>
    rw [if_neg (by omega), if_neg (by omega), if_pos (by omega)]
    simp [hs, hn]
  | three hb hb' hs ht hn =>
    rw [if_neg (by omega), if_neg (by omega), if_neg (by omega), if_pos (by omega)]
    simp [hs, ht, hn]
  | four hb hb' hs ht hu hn =>
    rw [if_neg (by omega), if_neg (by omega), if_neg (by omega), if_neg (by omega),
      if_pos (by omega)]
    simp [hs, ht, hu, hn]

/-- Where a character is read, the bytes that have been used are its sequence. -/
theorem sequence_of_next {b : UInt8} {rest : List UInt8} {c : Char} {k : Nat}
    (h : next b rest = (some c, k)) : Sequence (b :: rest.take k) c.toNat := by
  have hread {m j : Nat} {bs : List UInt8} (hseq : Sequence bs m)
      (h : (some (Char.ofNat m), j) = (some c, k)) : Sequence bs c.toNat ∧ j = k := by
    injection h with hsome hused
    injection hsome with hchar
    obtain ⟨c', rfl, -⟩ := hseq.exists_char
    rw [Char.ofNat_toNat] at hchar
    exact ⟨hchar ▸ hseq, hused⟩
  unfold next at h
  simp only [UInt8.lt_iff_toNat_lt, UInt8.toNat_ofNat] at h
  split_ifs at h with h1 h2 h3 h4 h5
  · obtain ⟨hseq, rfl⟩ := hread (.one h1 rfl) h
    exact hseq
  · cases h
  · split at h
    · split_ifs at h with hs
      · obtain ⟨hseq, rfl⟩ := hread (.two (by omega) h3 hs rfl) h
        exact hseq
      · cases h
    · cases h
  · split at h
    · split_ifs at h with hs ht
      · obtain ⟨hseq, rfl⟩ := hread (.three (by omega) h4 hs ht rfl) h
        exact hseq
      all_goals cases h
    all_goals cases h
  · split at h
    · split_ifs at h with hs ht hu
      · obtain ⟨hseq, rfl⟩ := hread (.four (by omega) h5 hs ht hu rfl) h
        exact hseq
      all_goals cases h
    all_goals cases h
  · cases h

end MainContent.Text.Utf8
