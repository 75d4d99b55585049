import MainContent.Proofs.Text.Sequence

/-!
# UTF-8 as it is written and read

The bytes of a text and the texts of a byte string. In the bytes of a text, those below 0x80 are its
ASCII characters (`mem_utf8EncodeChar`), so the bytes that separate the parts of a target or of a
query occur exactly where the characters do. Of a byte string, the strict text is its list of
readings when none of them is missing (`decode?_eq_some_iff`), and it is then the lossy text as well.
Its ASCII characters are among the bytes too (`mem_of_mem_decode?`). The bytes of a text are read as
the text (`read_encode`), and the text of the first bytes is the beginning of the text, but for a
character that they break off (`decodeLossy_take`).
-/

namespace MainContent.Text.Utf8

/-- The bytes of two texts one after the other. -/
theorem encode_append (cs ds : List Char) : encode (cs ++ ds) = encode cs ++ encode ds :=
  List.flatMap_append

/-- The bytes of a text are those of its first character and of the others. -/
theorem encode_cons (c : Char) (cs : List Char) :
    encode (c :: cs) = String.utf8EncodeChar c ++ encode cs :=
  List.flatMap_cons

/-- Texts with the same bytes are the same. -/
theorem encode_injective {cs ds : List Char} (h : encode cs = encode ds) : cs = ds := by
  have hbytes : cs.utf8Encode = ds.utf8Encode := congrArg List.toByteArray h
  rw [← String.toByteArray_ofList, ← String.toByteArray_ofList, String.toByteArray_inj] at hbytes
  exact String.ofList_injective hbytes

/-- A byte of a character is the character itself, which is ASCII then, or is at least 0x80. -/
theorem mem_utf8EncodeChar (c : Char) (b : UInt8) (h : b ∈ String.utf8EncodeChar c) :
    (String.utf8EncodeChar c = [b] ∧ b.toNat = c.toNat) ∨ 0x80 ≤ b.toNat := by
  unfold String.utf8EncodeChar at h ⊢
  have hval : c.val.toNat = c.toNat := rfl
  rw [hval] at h ⊢
  by_cases h1 : c.toNat ≤ 0x7f
  · simp only [h1, if_true, List.mem_singleton] at h ⊢
    left
    refine ⟨by rw [h], ?_⟩
    rw [h, UInt8.toNat_ofNat']
    omega
  · -- Every byte of a longer sequence has its highest bit set.
    right
    simp only [h1, if_false] at h
    split_ifs at h <;> simp only [List.mem_cons, List.not_mem_nil, or_false] at h
    · rcases h with rfl | rfl <;> rw [UInt8.toNat_ofNat'] <;> omega
    · rcases h with rfl | rfl | rfl <;> rw [UInt8.toNat_ofNat'] <;> omega
    · rcases h with rfl | rfl | rfl | rfl <;> rw [UInt8.toNat_ofNat'] <;> omega

/-- An ASCII byte of a text is one of its characters. -/
theorem ofNat_mem_of_mem_encode (cs : List Char) (b : UInt8) (hb : b.toNat < 0x80)
    (h : b ∈ encode cs) : Char.ofNat b.toNat ∈ cs := by
  obtain ⟨c, hc, hbc⟩ := List.mem_flatMap.1 h
  rcases mem_utf8EncodeChar c b hbc with ⟨-, heq⟩ | hge
  · rwa [heq, Char.ofNat_toNat]
  · omega

/-- A text whose bytes are all ASCII is read off its bytes one by one. -/
theorem map_ofNat_encode (cs : List Char) (h : ∀ b ∈ encode cs, b.toNat < 0x80) :
    (encode cs).map (fun b => Char.ofNat b.toNat) = cs := by
  induction cs with
  | nil => rfl
  | cons c cs ih =>
    rw [encode_cons] at h ⊢
    obtain ⟨b, hb⟩ := List.exists_mem_of_ne_nil _ (String.utf8EncodeChar_ne_nil (c := c))
    rcases mem_utf8EncodeChar c b hb with ⟨hone, heq⟩ | hge
    · have hrest := ih fun b' hb' => h b' (List.mem_append_right _ hb')
      rw [hone, List.singleton_append, List.map_cons, hrest, heq, Char.ofNat_toNat]
    · have := h b (List.mem_append_left _ hb)
      omega

/-- A list of optional values has a list of values exactly when none of them is missing. -/
theorem mapM_eq_some_iff {α β : Type} {f : α → Option β} {xs : List α} {ys : List β} :
    xs.mapM f = some ys ↔ xs.map f = ys.map some := by
  induction xs generalizing ys with
  | nil => cases ys <;> simp
  | cons x xs ih =>
    rw [List.mapM_cons]
    cases hx : f x with
    | none => cases ys <;> simp [hx]
    | some y =>
      simp only [Option.pure_def, Option.bind_eq_bind, Option.bind_some,
        Option.bind_eq_some_iff, Option.some.injEq]
      constructor
      · rintro ⟨zs, hzs, rfl⟩
        rw [List.map_cons, hx, ih.1 hzs, List.map_cons]
      · intro hall
        cases ys with
        | nil => simp at hall
        | cons z zs =>
          rw [List.map_cons, List.map_cons, List.cons.injEq, hx, Option.some.injEq] at hall
          exact ⟨zs, ih.2 hall.2, by rw [hall.1]⟩

/-- The strict text of a byte string is its list of readings, when every reading is a character. -/
theorem decode?_eq_some_iff (bs : List UInt8) (cs : List Char) :
    decode? bs = some cs ↔ read bs = cs.map some := by
  rw [decode?, mapM_eq_some_iff, List.map_id]

/-- Where the strict text exists, it is the lossy one. -/
theorem decodeLossy_of_decode? (bs : List UInt8) (cs : List Char) (h : decode? bs = some cs) :
    decodeLossy bs = cs := by
  rw [decode?_eq_some_iff] at h
  rw [decodeLossy, h, List.map_map]
  exact List.map_id cs

/-- A lossy text without U+FFFD is the strict one too. -/
theorem decode?_of_decodeLossy (bs : List UInt8) (h : '\uFFFD' ∉ decodeLossy bs) :
    decode? bs = some (decodeLossy bs) := by
  rw [decode?_eq_some_iff, decodeLossy, List.map_map]
  -- No reading is missing, since a missing one shows as U+FFFD.
  have hsome : ∀ o ∈ read bs, some (o.getD '\uFFFD') = o := by
    intro o ho
    cases o with
    | none => exact absurd (List.mem_map.2 ⟨none, ho, rfl⟩) h
    | some c => rfl
  exact (List.map_id _).symm.trans (List.map_congr_left fun o ho => (hsome o ho).symm)

/-! ## ASCII characters among the readings -/

/-- An ASCII character is read of its own byte. -/
theorem toNat_eq_of_next {b : UInt8} {rest : List UInt8} {c : Char} {n : Nat}
    (h : next b rest = (some c, n)) (hc : c.toNat < 0x80) : b.toNat = c.toNat := by
  have hbytes := (sequence_of_next h).utf8EncodeChar_eq
  rw [utf8EncodeChar_eq, if_pos (by omega), List.cons.injEq] at hbytes
  rw [← hbytes.1, UInt8.toNat_ofNat']
  omega

/-- An ASCII character among the readings is one of the bytes, or was there before. -/
theorem mem_of_mem_readOnto {out : Array (Option Char)} {bs : List UInt8} {c : Char}
    (h : some c ∈ readOnto out bs) (hc : c.toNat < 0x80) :
    some c ∈ out ∨ ∃ b ∈ bs, b.toNat = c.toNat := by
  fun_induction readOnto out bs with
  | case1 out => exact .inl h
  | case2 out b rest ih =>
    rcases ih h with hpush | ⟨b', hb', heq⟩
    · rcases Array.mem_push.1 hpush with hout | hnext
      · exact .inl hout
      · exact .inr ⟨b, List.mem_cons_self,
          toNat_eq_of_next (n := (next b rest).2) (Prod.ext hnext.symm rfl) hc⟩
    · exact .inr ⟨b', List.mem_cons_of_mem b (List.mem_of_mem_drop hb'), heq⟩

/-- An ASCII character of a text is one of the bytes that the text is read of. -/
theorem mem_of_mem_decode? {bs : List UInt8} {cs : List Char} {c : Char}
    (h : decode? bs = some cs) (hmem : c ∈ cs) (hc : c.toNat < 0x80) :
    ∃ b ∈ bs, b.toNat = c.toNat := by
  have hread : some c ∈ read bs := by
    rw [(decode?_eq_some_iff bs cs).1 h]
    exact List.mem_map_of_mem hmem
  exact (mem_of_mem_readOnto (Array.mem_toList_iff.1 hread) hc).resolve_left (Array.not_mem_empty _)

/-- Bytes are taken apart sequence by sequence: what holds of no bytes, and of all bytes of which it
holds behind the first sequence, holds of every byte string. -/
@[elab_as_elim]
theorem sequence_induction {motive : List UInt8 → Prop} (bs : List UInt8) (nil : motive [])
    (cons : ∀ b rest, motive (rest.drop (next b rest).2) → motive (b :: rest)) : motive bs := by
  induction hlength : bs.length using Nat.strongRecOn generalizing bs with
  | ind n ih =>
    cases bs with
    | nil => exact nil
    | cons b rest =>
      have hshorter : (rest.drop (next b rest).2).length < n := by
        rw [← hlength, List.length_drop, List.length_cons]
        omega
      exact cons b rest (ih _ hshorter _ rfl)

/-- What is read is added to what has been read before. -/
theorem toList_readOnto (out : Array (Option Char)) (bs : List UInt8) :
    (readOnto out bs).toList = out.toList ++ read bs := by
  induction bs using sequence_induction generalizing out with
  | nil => rw [read, readOnto, readOnto, List.append_nil]
  | cons b rest ih =>
    rw [read, readOnto, readOnto, ih, ih, Array.toList_push, Array.toList_push, List.append_assoc]
    rfl

/-- Nothing is read of no bytes. -/
theorem read_nil : read [] = [] := by
  rw [read, readOnto]

/-- A text is read sequence by sequence. -/
theorem read_cons (b : UInt8) (rest : List UInt8) :
    read (b :: rest) = (next b rest).1 :: read (rest.drop (next b rest).2) := by
  rw [read, readOnto, toList_readOnto, Array.toList_push]
  rfl

/-- The bytes of a character are read as the character. -/
theorem read_utf8EncodeChar_append (c : Char) (rest : List UInt8) :
    read (String.utf8EncodeChar c ++ rest) = some c :: read rest := by
  obtain ⟨b, tail, hbytes⟩ := List.exists_cons_of_ne_nil (String.utf8EncodeChar_ne_nil (c := c))
  have hseq := sequence_utf8EncodeChar c
  rw [hbytes] at hseq ⊢
  rw [List.cons_append, read_cons, hseq.next_eq, Char.ofNat_toNat, List.drop_left]

/-- The bytes of a text are read as the text. -/
theorem read_encode (cs : List Char) : read (encode cs) = cs.map some := by
  induction cs with
  | nil => exact read_nil
  | cons c cs ih => rw [encode_cons, read_utf8EncodeChar_append, ih, List.map_cons]

/-- The bytes of a text have no other lossy text. -/
theorem decodeLossy_encode (cs : List Char) : decodeLossy (encode cs) = cs :=
  decodeLossy_of_decode? _ _ ((decode?_eq_some_iff _ _).2 (read_encode cs))

/-- Bytes of ASCII are read as the characters that they are. -/
theorem read_of_ascii (bs : List UInt8) (h : ∀ b ∈ bs, b < 0x80) :
    read bs = bs.map fun b => some (Char.ofNat b.toNat) := by
  induction bs with
  | nil => exact read_nil
  | cons b rest ih =>
    have hnext : next b rest = (some (Char.ofNat b.toNat), 0) := if_pos (h b List.mem_cons_self)
    rw [read_cons, hnext]
    exact congrArg _ (ih fun b' hb' => h b' (List.mem_cons_of_mem b hb'))

/-! ## The first bytes of a text -/

/-- The first of fewer bytes are read alike, unless what they begin goes on behind them: then they
stand for nothing, and all of them are used. -/
theorem next_take (b : UInt8) (rest : List UInt8) (n : Nat) :
    ((next b rest).2 ≤ n ∧ next b (rest.take n) = next b rest) ∨
      (n < (next b rest).2 ∧ next b (rest.take n) = (none, n)) := by
  unfold next
  split_ifs with h1 h2 h3 h4 h5
  · exact .inl ⟨Nat.zero_le n, rfl⟩
  · exact .inl ⟨Nat.zero_le n, rfl⟩
  -- Behind the first byte, the cases are how many bytes there are, and how many of them are left.
  · rcases rest with _ | ⟨s, rest⟩
    · exact .inl ⟨Nat.zero_le n, by rw [List.take_nil]⟩
    rcases n with _ | n <;> simp only [List.take_zero, List.take_succ_cons] <;> split_ifs <;> simp
  · rcases rest with _ | ⟨s, rest⟩
    · exact .inl ⟨Nat.zero_le n, by rw [List.take_nil]⟩
    rcases rest with _ | ⟨t, rest⟩ <;> rcases n with _ | _ | n <;>
      simp only [List.take_zero, List.take_nil, List.take_succ_cons] <;> split_ifs <;> simp
  · rcases rest with _ | ⟨s, rest⟩
    · exact .inl ⟨Nat.zero_le n, by rw [List.take_nil]⟩
    rcases rest with _ | ⟨t, _ | ⟨u, rest⟩⟩ <;> rcases n with _ | _ | _ | n <;>
      simp only [List.take_zero, List.take_nil, List.take_succ_cons] <;> split_ifs <;> simp
  · exact .inl ⟨Nat.zero_le n, rfl⟩

/-- No bytes have the empty text. -/
theorem decodeLossy_nil : decodeLossy [] = [] := by
  rw [decodeLossy, read_nil, List.map_nil]

/-- The text of the first bytes is the beginning of the whole text, but for a character that they
break off, which shows as U+FFFD. -/
theorem decodeLossy_take (bs : List UInt8) (n : Nat) :
    ∃ kept broken rest, decodeLossy (bs.take n) = kept ++ broken ∧ decodeLossy bs = kept ++ rest ∧
      (broken = [] ∨ broken = ['\uFFFD'] ∧ ∃ c rest', rest = c :: rest' ∧ 0x80 ≤ c.toNat) := by
  induction bs using sequence_induction generalizing n with
  | nil => exact ⟨[], [], [], by rw [List.take_nil, decodeLossy_nil]; rfl, decodeLossy_nil, .inl rfl⟩
  | cons b bs ih =>
    rcases n with _ | n
    · exact ⟨[], [], decodeLossy (b :: bs), decodeLossy_nil, rfl, .inl rfl⟩
    unfold decodeLossy at ih ⊢
    rw [List.take_succ_cons, read_cons, read_cons]
    rcases next_take b bs n with ⟨hle, hsame⟩ | ⟨hlt, hbroken⟩
    · -- What begins the bytes is read alike.
      obtain ⟨kept, broken, rest, htake, hall, hrest⟩ := ih (n - (next b bs).2)
      refine ⟨(next b bs).1.getD '\uFFFD' :: kept, broken, rest, ?_, ?_, hrest⟩
      · rw [hsame, List.drop_take, List.map_cons, htake]
        rfl
      · rw [List.map_cons, hall]
        rfl
    · refine ⟨[], ['\uFFFD'], _, ?_, rfl, .inr ⟨rfl, (next b bs).1.getD '\uFFFD', _, rfl, ?_⟩⟩
      · rw [hbroken, List.drop_eq_nil_of_le (List.length_take_le n bs), read_nil]
        rfl
      · -- ASCII is never broken off.
        cases hnext : (next b bs).1 with
        | none => decide
        | some c =>
          rcases Nat.lt_or_ge c.toNat 0x80 with hascii | hother
          · have hb := toNat_eq_of_next (n := (next b bs).2) (Prod.ext hnext rfl) hascii
            have hone : next b bs = (some (Char.ofNat b.toNat), 0) :=
              if_pos (UInt8.lt_iff_toNat_lt.2 (by rw [hb]; exact hascii))
            rw [hone] at hlt
            exact absurd hlt (Nat.not_lt_zero n)
          · exact hother

end MainContent.Text.Utf8
