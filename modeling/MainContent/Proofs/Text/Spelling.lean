import MainContent.Proofs.Text.Form

/-!
# The spellings of a text in a form

A form-encoded text can be written in many ways: each byte of the text may be written as an escape, with
digits of either case, most bytes also as themselves, and a space as `+` too (`Spells`). All of these
spellings are read as the text (`decode_of_spells`), since reading goes back from them byte by byte
(`Spells.decode_eq`), and no spelling has an `&` that would end it (`Spells.ampersand_not_mem`).
-/

namespace MainContent.Text.Form

/-- A byte is a hexadecimal digit, of either case, with its value. -/
inductive HexDigit : UInt8 → Nat → Prop where
  | decimal {d : UInt8} {v : Nat} : 0x30 ≤ d.toNat → d.toNat ≤ 0x39 → v = d.toNat - 0x30 →
      HexDigit d v
  | small {d : UInt8} {v : Nat} : 0x61 ≤ d.toNat → d.toNat ≤ 0x66 → v = d.toNat - 0x61 + 10 →
      HexDigit d v
  | capital {d : UInt8} {v : Nat} : 0x41 ≤ d.toNat → d.toNat ≤ 0x46 → v = d.toNat - 0x41 + 10 →
      HexDigit d v

/-- The first bytes spell the second ones: byte by byte, as an escape, as `+` for a space, or as
themselves, but for `&`, `+` and `%`. -/
inductive Spells : List UInt8 → List UInt8 → Prop where
  | nil : Spells [] []
  | escape {high low b : UInt8} {h l : Nat} {written bs : List UInt8} : HexDigit high h →
      HexDigit low l → b.toNat = h * 16 + l → Spells written bs →
      Spells (0x25 :: high :: low :: written) (b :: bs)
  | plus {written bs : List UInt8} : Spells written bs → Spells (0x2B :: written) (0x20 :: bs)
  | literal {b : UInt8} {written bs : List UInt8} : b ≠ 0x26 → b ≠ 0x2B → b ≠ 0x25 →
      Spells written bs → Spells (b :: written) (b :: bs)

/-- Bytes that have none of `&`, `+` and `%` spell themselves. -/
theorem Spells.of_literal {bs : List UInt8} (h : ∀ b ∈ bs, b ≠ 0x26 ∧ b ≠ 0x2B ∧ b ≠ 0x25) :
    Spells bs bs := by
  induction bs with
  | nil => exact .nil
  | cons b bs ih =>
    obtain ⟨hand, hplus, hpercent⟩ := h b List.mem_cons_self
    exact .literal hand hplus hpercent (ih fun b' hb' => h b' (List.mem_cons_of_mem b hb'))

/-- A digit is none of the bytes that mean something else. -/
theorem HexDigit.ne {d : UInt8} {v : Nat} (h : HexDigit d v) : d ≠ 0x26 ∧ d ≠ 0x2B := by
  have hne {n : Nat} (b : UInt8) (hb : b.toNat = n) (hn : n < 0x30) : d ≠ b := by
    rintro rfl
    cases h <;> omega
  exact ⟨hne 0x26 rfl (by decide), hne 0x2B rfl (by decide)⟩

/-- A digit is read as its value. -/
theorem HexDigit.hexByte?_eq {d : UInt8} {v : Nat} (h : HexDigit d v) :
    ∃ x, Percent.hexByte? d = some x ∧ x.toNat = v := by
  have hlt := d.toNat_lt
  unfold Percent.hexByte?
  simp only [Bool.and_eq_true, decide_eq_true_eq, UInt8.le_iff_toNat_le, UInt8.toNat_ofNat]
  cases h with
  | decimal h1 h2 hv =>
    refine ⟨_, if_pos (by omega), ?_⟩
    simp only [UInt8.toNat_sub, UInt8.reduceToNat]
    omega
  | small h1 h2 hv =>
    refine ⟨_, (if_neg (by omega)).trans (if_pos (by omega)), ?_⟩
    simp only [UInt8.toNat_sub, UInt8.reduceToNat]
    omega
  | capital h1 h2 hv =>
    refine ⟨_, (if_neg (by omega)).trans ((if_neg (by omega)).trans (if_pos (by omega))), ?_⟩
    simp only [UInt8.toNat_sub, UInt8.reduceToNat]
    omega

/-- Two digits are read as the byte that they name. -/
theorem escaped?_of_hexDigit {high low b : UInt8} {h l : Nat} (hhigh : HexDigit high h)
    (hlow : HexDigit low l) (hb : b.toNat = h * 16 + l) : Percent.escaped? high low = some b := by
  obtain ⟨x, hx, rfl⟩ := hhigh.hexByte?_eq
  obtain ⟨y, hy, rfl⟩ := hlow.hexByte?_eq
  have hvalue : x * 16 + y = b := by
    have hlt := b.toNat_lt
    simp only [← UInt8.toNat_inj, UInt8.toNat_add, UInt8.toNat_mul, UInt8.reduceToNat]
    omega
  simp only [Percent.escaped?, hx, hy, hvalue]

/-- A byte that begins no escape stands for itself. -/
theorem percentDecode_cons {b : UInt8} (h : b ≠ 0x25) (rest : List UInt8) :
    Percent.decode (b :: rest) = b :: Percent.decode rest := by
  rw [Percent.decode]
  exact fun _ _ _ hb => absurd hb h

/-- What a byte stands for where a `+` stands for a space. -/
def spaced (b : UInt8) : UInt8 :=
  if b = 0x2B then 0x20 else b

theorem spaced_of_ne {b : UInt8} (h : b ≠ 0x2B) : spaced b = b :=
  if_neg h

/-- In the bytes of a text, the `+` are replaced as they are in the text. -/
theorem encode_plusToSpace (cs : List Char) :
    Utf8.encode (plusToSpace cs) = (Utf8.encode cs).map spaced := by
  induction cs with
  | nil => rfl
  | cons c cs ih =>
    have hsplit : plusToSpace (c :: cs) = (if c = '+' then ' ' else c) :: plusToSpace cs := rfl
    rw [hsplit, Utf8.encode_cons, Utf8.encode_cons, List.map_append, ih]
    congr 1
    split_ifs with hc
    · rw [hc]
      rfl
    · -- No byte of another character is that of a `+`.
      have hsame : ∀ b ∈ String.utf8EncodeChar c, spaced b = b := by
        intro b hb
        refine spaced_of_ne ?_
        rintro rfl
        rcases Utf8.mem_utf8EncodeChar c _ hb with ⟨-, heq⟩ | hge
        · refine hc ?_
          rw [← Char.ofNat_toNat c, ← heq]
          rfl
        · exact absurd hge (by decide)
      rw [List.map_congr_left hsame, List.map_id']

/-- Reading goes back from a spelling to what it spells. -/
theorem Spells.decode_eq {written bs : List UInt8} (h : Spells written bs) :
    Percent.decode (written.map spaced) = bs := by
  induction h with
  | nil => rfl
  | escape hhigh hlow hb _ ih =>
    simp only [List.map_cons, spaced_of_ne hhigh.ne.2, spaced_of_ne hlow.ne.2]
    rw [spaced_of_ne (by decide), Percent.decode, escaped?_of_hexDigit hhigh hlow hb]
    exact congrArg _ ih
  | plus _ ih =>
    rw [List.map_cons, percentDecode_cons (by decide), ih]
    rfl
  | literal _ hplus hpercent _ ih =>
    rw [List.map_cons, spaced_of_ne hplus, percentDecode_cons hpercent, ih]

/-- Every spelling of a text is read as the text. -/
theorem decode_of_spells {written text : List Char}
    (h : Spells (Utf8.encode written) (Utf8.encode text)) : decode written = text := by
  rw [decode, encode_plusToSpace, h.decode_eq, Utf8.decodeLossy_encode]

/-- No byte of a spelling is that of an `&`. -/
theorem Spells.ampersand_byte_not_mem {written bs : List UInt8} (h : Spells written bs) :
    0x26 ∉ written := by
  induction h with
  | nil => exact List.not_mem_nil
  | escape hhigh hlow _ _ ih => simp [hhigh.ne.1.symm, hlow.ne.1.symm, ih]
  | plus _ ih => simp [ih]
  | literal hand _ _ _ ih => simp [hand.symm, ih]

/-- A spelling has no `&`. -/
theorem Spells.ampersand_not_mem {written : List Char} {bs : List UInt8}
    (h : Spells (Utf8.encode written) bs) : '&' ∉ written :=
  fun hmem => h.ampersand_byte_not_mem (List.mem_flatMap.2 ⟨'&', hmem, by decide⟩)

end MainContent.Text.Form
