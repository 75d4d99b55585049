import MainContent.Proofs.Text.Utf8

/-!
# What stands for nothing in UTF-8

Bytes that are no text still fall into parts: the bytes of characters, and ill-formed parts. An
ill-formed part stands where no character does, and is as long as it can be: the longest beginning of a
character's bytes, or a single byte where not even that is one (`IllFormed`; Unicode, section 3.9, calls
it a maximal subpart). `Segments` says that bytes fall into such parts.

All bytes do so in exactly one way, and that is the way in which they are read (`segments_iff`). The
bytes of a text are those that have no ill-formed part (`exists_eq_encode_iff`).
-/

namespace MainContent.Text.Utf8

/-! ## Ill-formed parts -/

/-- Bytes that begin those of a character, or are all of them. -/
def Begins (part : List UInt8) : Prop :=
  ∃ c, part <+: String.utf8EncodeChar c

/-- The first part of the bytes `part ++ rest` is ill-formed. -/
structure IllFormed (part rest : List UInt8) : Prop where
  nonempty : part ≠ []
  /-- No character stands at the beginning of the bytes. -/
  unreadable : ∀ c, ¬ String.utf8EncodeChar c <+: part ++ rest
  /-- The part is the beginning of a character, or a single byte. -/
  begins : Begins part ∨ part.length = 1
  /-- No longer part of the bytes is the beginning of a character. -/
  longest : ∀ longer, longer <+: part ++ rest → Begins longer → longer.length ≤ part.length

/-- Bytes fall into parts: the bytes of characters, and ill-formed parts, for which `none` stands. -/
inductive Segments : List UInt8 → List (Option Char) → Prop where
  | nil : Segments [] []
  | char (c : Char) {rest : List UInt8} {os : List (Option Char)} :
      Segments rest os → Segments (String.utf8EncodeChar c ++ rest) (some c :: os)
  | illFormed {part rest : List UInt8} {os : List (Option Char)} :
      IllFormed part rest → Segments rest os → Segments (part ++ rest) (none :: os)

/-- What begins a character can be completed to a sequence. -/
theorem begins_iff {part : List UInt8} : Begins part ↔ ∃ tail n, Sequence (part ++ tail) n := by
  constructor
  · rintro ⟨c, tail, htail⟩
    exact ⟨tail, c.toNat, htail ▸ sequence_utf8EncodeChar c⟩
  · rintro ⟨tail, n, h⟩
    obtain ⟨c, -, hc⟩ := h.exists_char
    exact ⟨c, tail, hc.symm⟩

/-- Fewer bytes begin a character as well. -/
theorem Begins.of_prefix {part whole : List UInt8} (h : Begins whole) (hstart : part <+: whole) :
    Begins part := by
  obtain ⟨c, hc⟩ := h
  exact ⟨c, hstart.trans hc⟩

/-- An ill-formed part is as long as every other one at the beginning of the same bytes. -/
theorem IllFormed.length_le {part part' rest rest' : List UInt8} (h : IllFormed part rest)
    (h' : IllFormed part' rest') (hsame : part' ++ rest' = part ++ rest) :
    part'.length ≤ part.length := by
  rcases h'.begins with hbegins | hone
  · have hstart : part' <+: part ++ rest := hsame ▸ List.prefix_append part' rest'
    exact h.longest part' hstart hbegins
  · have hpos : 0 < part.length := List.length_pos_iff.2 h.nonempty
    omega

/-! ## Reading an ill-formed part -/

/-- Where no character is read, the bytes that have been used begin one, unless it is a single byte. -/
theorem begins_of_next {b : UInt8} {rest : List UInt8} {k : Nat} (h : next b rest = (none, k)) :
    Begins (b :: rest.take k) ∨ k = 0 := by
  unfold next at h
  simp only [UInt8.lt_iff_toNat_lt, UInt8.toNat_ofNat] at h
  split_ifs at h with h1 h2 h3 h4 h5
  · cases h
  · cases h
    exact .inr rfl
  · split at h <;> (try split_ifs at h) <;> cases h <;> exact .inr rfl
  · -- Of three bytes, the second has been used where it fits the first.
    have hsecond {s : UInt8} (hs : secondOfThree b s = true) : Begins [b, s] :=
      begins_iff.2 ⟨[0x80], _, .three (by omega) h4 hs rfl rfl⟩
    split at h <;> (try split_ifs at h) <;> cases h
    · exact .inl (hsecond ‹_›)
    · exact .inr rfl
    · exact .inl (hsecond ‹_›)
    · exact .inr rfl
    · exact .inr rfl
  · -- Of four bytes, the third may have been used too.
    have hsecond {s : UInt8} (hs : secondOfFour b s = true) : Begins [b, s] :=
      begins_iff.2 ⟨[0x80, 0x80], _, .four (by omega) h5 hs rfl rfl rfl⟩
    have hthird {s t : UInt8} (hs : secondOfFour b s = true) (ht : isTail t = true) :
        Begins [b, s, t] :=
      begins_iff.2 ⟨[0x80], _, .four (by omega) h5 hs ht rfl rfl⟩
    split at h <;> (try split_ifs at h) <;> cases h
    · exact .inl (hthird ‹_› ‹_›)
    · exact .inl (hsecond ‹_›)
    · exact .inr rfl
    · exact .inl (hthird ‹_› ‹_›)
    · exact .inl (hsecond ‹_›)
    · exact .inr rfl
    · exact .inl (hsecond ‹_›)
    · exact .inr rfl
    · exact .inr rfl
  · cases h
    exact .inr rfl

/-- Where no character is read, one byte more than has been used begins none. -/
theorem not_begins_of_next {b : UInt8} {rest : List UInt8} {k : Nat} (h : next b rest = (none, k))
    (hk : k < rest.length) : ¬ Begins (b :: rest.take (k + 1)) := by
  intro hbegins
  obtain ⟨tail, n, hseq⟩ := begins_iff.1 hbegins
  have hlength : (rest.take (k + 1)).length = k + 1 := List.length_take_of_le hk
  -- One byte more makes no difference to what is read: it has been seen, and not used.
  have hnone : next b (rest.take (k + 1)) = (none, k) := by
    rcases next_take b rest (k + 1) with ⟨-, hsame⟩ | ⟨hlt, -⟩
    · rw [hsame, h]
    · rw [h] at hlt
      omega
  -- If they began a sequence, either all of it would be read, or all of them would be used.
  have hsome : next b (rest.take (k + 1) ++ tail) = _ := List.append_nil _ ▸ hseq.next_eq []
  rcases next_take b (rest.take (k + 1) ++ tail) (k + 1) with ⟨-, hsame⟩ | ⟨-, hbroken⟩
  · rw [List.take_left' hlength, hnone, hsome] at hsame
    cases hsame
  · rw [List.take_left' hlength, hnone] at hbroken
    injection hbroken with _ hused
    omega

/-- Where no character is read, the bytes that have been used are an ill-formed part. -/
theorem illFormed_of_next {b : UInt8} {rest : List UInt8} {k : Nat} (h : next b rest = (none, k)) :
    IllFormed (b :: rest.take k) (rest.drop k) where
  nonempty := List.cons_ne_nil _ _
  unreadable c hc := by
    rw [List.cons_append, List.take_append_drop] at hc
    obtain ⟨b', tail, hbytes⟩ := List.exists_cons_of_ne_nil (String.utf8EncodeChar_ne_nil (c := c))
    have hseq := sequence_utf8EncodeChar c
    rw [hbytes] at hc hseq
    obtain ⟨rfl, rest', rfl⟩ := List.cons_prefix_cons.1 hc
    -- The character would have been read.
    rw [hseq.next_eq rest'] at h
    cases h
  begins := (begins_of_next h).imp_right fun hk => by rw [hk]; rfl
  longest longer hstart hlonger := by
    rw [List.cons_append, List.take_append_drop] at hstart
    refine Nat.le_of_not_lt fun hlength => ?_
    have hle := hstart.length_le
    rw [List.length_cons, List.length_take] at hlength
    rw [List.length_cons] at hle
    -- A longer part has at least the next byte.
    have hmore : b :: rest.take (k + 1) <+: b :: rest :=
      List.cons_prefix_cons.2 ⟨rfl, List.take_prefix _ _⟩
    have hwithin : b :: rest.take (k + 1) <+: longer := by
      refine List.prefix_of_prefix_length_le hmore hstart ?_
      rw [List.length_cons, List.length_take]
      omega
    exact not_begins_of_next h (by omega) (hlonger.of_prefix hwithin)

/-! ## Reading all parts -/

/-- An ill-formed part is read as nothing, and what follows it is read as if it stood alone. -/
theorem IllFormed.read_append {part rest : List UInt8} (h : IllFormed part rest) :
    read (part ++ rest) = none :: read rest := by
  obtain ⟨b, p, rfl⟩ := List.exists_cons_of_ne_nil h.nonempty
  rw [List.cons_append, read_cons]
  rcases hnext : next b (p ++ rest) with ⟨_ | c, k⟩
  · -- What has been used is an ill-formed part too, so that it has the same length.
    have h' := illFormed_of_next hnext
    have hsame : b :: (p ++ rest).take k ++ (p ++ rest).drop k = b :: p ++ rest := by
      rw [List.cons_append, List.cons_append, List.take_append_drop]
    have hlength := Nat.le_antisymm (h.length_le h' hsame) (h'.length_le h hsame.symm)
    rw [(List.append_inj hsame hlength).2]
  · have hstart : b :: (p ++ rest).take k <+: b :: p ++ rest :=
      List.cons_prefix_cons.2 ⟨rfl, List.take_prefix _ _⟩
    rw [← (sequence_of_next hnext).utf8EncodeChar_eq] at hstart
    exact absurd hstart (h.unreadable c)

/-- Bytes fall into the parts that they are read as. -/
theorem segments_read (bs : List UInt8) : Segments bs (read bs) := by
  induction bs using sequence_induction with
  | nil =>
    rw [read_nil]
    exact .nil
  | cons b rest ih =>
    rw [read_cons]
    have hsplit (k : Nat) : b :: rest = b :: rest.take k ++ rest.drop k := by
      rw [List.cons_append, List.take_append_drop]
    rcases hnext : next b rest with ⟨_ | c, k⟩ <;> rw [hnext] at ih
    · rw [hsplit k]
      exact .illFormed (illFormed_of_next hnext) ih
    · rw [hsplit k, ← (sequence_of_next hnext).utf8EncodeChar_eq]
      exact .char c ih

/-- Bytes fall into parts in exactly one way, which is the one in which they are read. -/
theorem segments_iff {bs : List UInt8} {os : List (Option Char)} : Segments bs os ↔ os = read bs := by
  constructor
  · intro h
    induction h with
    | nil => rw [read_nil]
    | char c _ ih => rw [read_utf8EncodeChar_append, ih]
    | illFormed hpart _ ih => rw [hpart.read_append, ih]
  · rintro rfl
    exact segments_read bs

/-- Parts that are all characters are the bytes of a text. -/
theorem Segments.eq_encode {bs : List UInt8} {os : List (Option Char)} (h : Segments bs os)
    (hsome : none ∉ os) : ∃ cs, bs = encode cs := by
  induction h with
  | nil => exact ⟨[], rfl⟩
  | char c _ ih =>
    obtain ⟨cs, rfl⟩ := ih fun hmem => hsome (List.mem_cons_of_mem _ hmem)
    exact ⟨c :: cs, (encode_cons c cs).symm⟩
  | illFormed => exact absurd List.mem_cons_self hsome

/-- Bytes are those of a text exactly where nothing among them is ill-formed. -/
theorem exists_eq_encode_iff (bs : List UInt8) : (∃ cs, bs = encode cs) ↔ none ∉ read bs := by
  constructor
  · rintro ⟨cs, rfl⟩
    rw [read_encode]
    simp
  · exact (segments_read bs).eq_encode

-- A character that breaks off is one part, and each byte that can begin or continue none is another.
example : read [0xE2, 0x82, 0x61, 0xC0, 0x80, 0xED, 0xA0, 0xF0, 0x90, 0x80] =
    [none, some 'a', none, none, none, none, none] := by
  decide +kernel

end MainContent.Text.Utf8
