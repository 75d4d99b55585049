import MainContent.Encoding.Decode
import MainContent.Proofs.Text.Utf8

/-!
# ASCII in the encodings of the web

Bytes of ASCII are read as the characters that they are in every encoding but two kinds
(`readings_of_isPlain`): the one that stands for the encodings which are not read at all, and UTF-16,
in which two of them make one character (`readings_utf16_of_ascii`).

An encoding is read by a step that takes some bytes and leaves the others (`run_cons`). In ASCII each
step takes one byte, and leaves the reader in the state in which it has begun.
-/

namespace MainContent.Encoding

/-! ## Running a reader -/

section Running

variable {σ : Type} (step : σ → UInt8 → List UInt8 → Step σ)

/-- What is read is added to what has been read before. -/
theorem toList_runOnto (state : σ) (out : Array (Option Char)) (bs : List UInt8) :
    (runOnto step state out bs).toList = out.toList ++ run step state bs := by
  -- Both sides take the same step, from different beginnings.
  induction hlength : bs.length using Nat.strongRecOn generalizing state out bs with
  | ind n ih =>
    cases bs with
    | nil => rw [run, runOnto, runOnto, List.append_nil]
    | cons b rest =>
      have hshorter : (rest.drop (step state b rest).used).length < n := by
        rw [← hlength, List.length_drop, List.length_cons]
        omega
      rw [run, runOnto, runOnto, ih _ hshorter _ _ _ rfl, ih _ hshorter _ _ _ rfl,
        Array.appendList_eq_append, Array.appendList_eq_append, Array.toList_appendList,
        Array.toList_appendList, List.append_assoc]
      rfl

/-- Nothing is read of no bytes. -/
theorem run_nil (state : σ) : run step state [] = [] := by
  rw [run, runOnto]

/-- A reader reads the next character, and then what is left from the state that it has come to. -/
theorem run_cons (state : σ) (b : UInt8) (rest : List UInt8) :
    run step state (b :: rest) = (step state b rest).scalars ++
      run step (step state b rest).state (rest.drop (step state b rest).used) := by
  rw [run, runOnto, toList_runOnto, Array.appendList_eq_append, Array.toList_appendList]
  rfl

/-- A reader that takes each byte by itself, and comes back to its state, reads byte by byte. -/
theorem run_of_char (state : σ) (char : UInt8 → Char) (bs : List UInt8)
    (h : ∀ b ∈ bs, ∀ rest, step state b rest = .char (char b) 0 state) :
    run step state bs = bs.map fun b => some (char b) := by
  induction bs with
  | nil => exact run_nil step state
  | cons b rest ih =>
    rw [run_cons, h b List.mem_cons_self rest]
    exact congrArg (some (char b) :: ·) (ih fun b' hb' => h b' (List.mem_cons_of_mem b hb'))

end Running

/-! ## Encodings that keep ASCII -/

/-- A byte of plain text: one of ASCII, but for the three with which some encodings change their
tables. -/
def IsPlain (b : UInt8) : Prop :=
  b < 0x80 ∧ b ≠ 0x0E ∧ b ≠ 0x0F ∧ b ≠ 0x1B

instance (b : UInt8) : Decidable (IsPlain b) :=
  inferInstanceAs (Decidable (_ ∧ _))

/-- In ISO-2022-JP, a plain byte is read in the table of ASCII, and keeps it in use. -/
theorem Iso2022Jp.step_of_isPlain {b : UInt8} (h : IsPlain b) (rest : List UInt8) :
    Iso2022Jp.step ⟨.ascii, false⟩ b rest = .char (.ofNat b.toNat) 0 ⟨.ascii, false⟩ := by
  obtain ⟨hascii, h0E, h0F, h1B⟩ := h
  simp [Iso2022Jp.step, Iso2022Jp.byteChar?, Iso2022Jp.byteChar?.plain, hascii, h0E, h0F, h1B]

/-- Plain text is read as the characters that it is, in every encoding that is read at all and in which
a character need not take two bytes. -/
theorem readings_of_isPlain (e : Encoding) (hread : e ≠ .replacement)
    (hnarrow : ∀ order, e ≠ .utf16 order) (bs : List UInt8) (h : ∀ b ∈ bs, IsPlain b) :
    readings e bs = bs.map fun b => some (.ofNat b.toNat) := by
  cases e with
  | utf8 => exact Text.Utf8.read_of_ascii bs fun b hb => (h b hb).1
  | single page => exact List.map_congr_left fun b hb => if_pos (h b hb).1
  | gbk => exact run_of_char _ _ _ bs fun b hb _ => if_pos (h b hb).1
  | gb18030 => exact run_of_char _ _ _ bs fun b hb _ => if_pos (h b hb).1
  | big5 => exact run_of_char _ _ _ bs fun b hb _ => if_pos (h b hb).1
  | eucJp => exact run_of_char _ _ _ bs fun b hb _ => if_pos (h b hb).1
  | iso2022Jp => exact run_of_char _ _ _ bs fun b hb => Iso2022Jp.step_of_isPlain (h b hb)
  | shiftJis => exact run_of_char _ _ _ bs fun b hb _ => if_pos (UInt8.le_of_lt (h b hb).1)
  | eucKr => exact run_of_char _ _ _ bs fun b hb _ => if_pos (h b hb).1
  | replacement => exact absurd rfl hread
  | utf16 order => exact absurd rfl (hnarrow order)
  | userDefined =>
    refine List.map_congr_left fun b hb => ?_
    rw [if_pos (h b hb).1]

/-! ## ASCII in UTF-16 -/

namespace Utf16

/-- What stands in bytes of which every two make a unit that is a character. A last byte that has no
partner stands for nothing. -/
def pairs (order : ByteOrder) : List UInt8 → List (Option Char)
  | [] => []
  | [_] => [none]
  | a :: b :: rest => some (.ofNat (unit order a b)) :: pairs order rest

/-- Two bytes make one character. -/
theorem length_pairs (order : ByteOrder) (bs : List UInt8) :
    (pairs order bs).length = (bs.length + 1) / 2 := by
  fun_induction pairs order bs with
  | case1 => rfl
  | case2 a => rw [List.length_singleton, List.length_singleton]
  | case3 a b rest ih =>
    rw [List.length_cons, ih, List.length_cons, List.length_cons]
    omega

/-- Only a byte without a partner stands for nothing. -/
theorem any_isNone_pairs (order : ByteOrder) (bs : List UInt8) :
    (pairs order bs).any Option.isNone = decide (bs.length % 2 = 1) := by
  fun_induction pairs order bs with
  | case1 => rfl
  | case2 => rfl
  | case3 a b rest ih =>
    rw [List.any_cons, ih, List.length_cons, List.length_cons, Nat.add_assoc, Nat.add_mod_right]
    rfl

/-- Two bytes of ASCII are far below the units of which a character takes two. -/
theorem unit_lt (order : ByteOrder) {a b : UInt8} (ha : a < 0x80) (hb : b < 0x80) :
    unit order a b < 0x8000 := by
  have ha : a.toNat < 128 := ha
  have hb : b.toNat < 128 := hb
  cases order <;> simp only [unit] <;> omega

/-- Two bytes of ASCII are read as one character. -/
theorem step_of_ascii (order : ByteOrder) {a b : UInt8} (ha : a < 0x80) (hb : b < 0x80)
    (rest : List UInt8) :
    step order () a (b :: rest) = .char (.ofNat (unit order a b)) 1 () := by
  have hlow := unit_lt order ha hb
  have hnotHigh : isHigh (unit order a b) = false := by
    simp only [isHigh, Bool.and_eq_false_iff, decide_eq_false_iff_not]
    omega
  have hnotLow : isLow (unit order a b) = false := by
    simp only [isLow, Bool.and_eq_false_iff, decide_eq_false_iff_not]
    omega
  simp [step, hnotHigh, hnotLow]

end Utf16

/-- ASCII is read in UTF-16 two bytes at a time. -/
theorem readings_utf16_of_ascii (order : ByteOrder) (bs : List UInt8) (h : ∀ b ∈ bs, b < 0x80) :
    readings (.utf16 order) bs = Utf16.pairs order bs := by
  change run (Utf16.step order) () bs = _
  fun_induction Utf16.pairs order bs with
  | case1 => exact run_nil _ _
  | case2 a =>
    rw [run_cons]
    exact congrArg (none :: ·) (run_nil _ _)
  | case3 a b rest ih =>
    have hrest : ∀ b ∈ rest, b < 0x80 := fun c hc =>
      h c (List.mem_cons_of_mem a (List.mem_cons_of_mem b hc))
    rw [run_cons, Utf16.step_of_ascii order (h a (by simp)) (h b (by simp)) rest]
    exact congrArg (some (.ofNat (Utf16.unit order a b)) :: ·) (ih hrest)

/-! ## No byte-order mark -/

/-- ASCII begins with no mark. -/
theorem splitMark_of_ascii (bs : List UInt8) (h : ∀ b ∈ bs, b < 0x80) : splitMark bs = none := by
  unfold splitMark
  split
  · exact absurd (h 0xEF List.mem_cons_self) (by decide)
  · exact absurd (h 0xFF List.mem_cons_self) (by decide)
  · exact absurd (h 0xFE List.mem_cons_self) (by decide)
  · rfl

end MainContent.Encoding
