import MainContent.Proofs.Text.Ascii
import MainContent.Proofs.Text.Utf8
import MainContent.Url.PathReader

/-!
# What is escaped stays as it is

An escape is made of characters that need no escape themselves (`Escaping`). So an escaped text has
no character of the set (`Escaping.not_mem_percentEncode`), and escaping it again changes nothing
(`percentEncode_eq_self`). Neither does escaping bring out dots that were not there: a text that
reads as nothing but dots when it is escaped needed no escape (`percentEncode_eq_self_of_dots`).

Whatever the set is, only visible characters of ASCII need no escape (`visible_of_not_fragment`,
`visible_of_not_specialQuery`).
-/

namespace MainContent.Url

/-- The characters of escapes are not in a set. -/
structure Escaping (set : Char → Bool) : Prop where
  /-- The mark that begins an escape is not. -/
  mark : set '%' = false
  /-- The digits are not. -/
  digit : ∀ n < 16, set (Text.upperHexDigit n) = false

theorem escaping_userinfo : Escaping inUserinfoSet := ⟨by decide, by decide⟩

theorem escaping_path : Escaping inPathSet := ⟨by decide, by decide⟩

theorem escaping_specialQuery : Escaping inSpecialQuerySet := ⟨by decide, by decide⟩

theorem escaping_fragment : Escaping inFragmentSet := ⟨by decide, by decide⟩

/-- The two digits of an escape name its byte. -/
theorem escape_digits_lt (b : UInt8) : b.toNat / 16 < 16 ∧ b.toNat % 16 < 16 := by
  have := b.toNat_lt
  omega

/-- A character outside the set is kept. -/
theorem percentEncode_cons_of_not {set : Char → Bool} {c : Char} (h : set c = false)
    (cs : List Char) : percentEncode set (c :: cs) = c :: percentEncode set cs := by
  rw [percentEncode, List.flatMap_cons, h, if_neg Bool.false_ne_true, List.singleton_append,
    percentEncode]

/-- A character of the set is replaced by escapes, the first of which is of one of its bytes. -/
theorem percentEncode_cons_of_mem {set : Char → Bool} {c : Char} (h : set c = true)
    (cs : List Char) : ∃ b ∈ String.utf8EncodeChar c, ∃ rest,
      percentEncode set (c :: cs) = Text.Percent.escape b ++ rest := by
  obtain ⟨b, bs, hbytes⟩ := List.exists_cons_of_ne_nil (String.utf8EncodeChar_ne_nil (c := c))
  refine ⟨b, hbytes ▸ List.mem_cons_self, bs.flatMap Text.Percent.escape ++ percentEncode set cs, ?_⟩
  rw [percentEncode, List.flatMap_cons, if_pos h, Text.Utf8.encode, List.flatMap_singleton, hbytes,
    List.flatMap_cons, List.append_assoc, percentEncode]

/-- What is true of the characters that are kept, and of escapes, is true of an escaped text. -/
theorem Escaping.of_mem_percentEncode {set p : Char → Bool} (hp : Escaping p) {cs : List Char}
    (hcs : ∀ c ∈ cs, set c = false → p c = false) : ∀ c ∈ percentEncode set cs, p c = false := by
  intro c hc
  obtain ⟨d, hd, hc⟩ := List.mem_flatMap.1 hc
  split at hc
  · obtain ⟨b, -, hc⟩ := List.mem_flatMap.1 hc
    simp only [Text.Percent.escape, List.mem_cons, List.not_mem_nil, or_false] at hc
    rcases hc with rfl | rfl | rfl
    · exact hp.mark
    · exact hp.digit _ (escape_digits_lt b).1
    · exact hp.digit _ (escape_digits_lt b).2
  · rename_i hset
    rw [List.mem_singleton.1 hc]
    exact hcs d hd (Bool.eq_false_iff.2 hset)

/-- An escaped text has no character of the set. -/
theorem Escaping.not_mem_percentEncode {set : Char → Bool} (hset : Escaping set) (cs : List Char) :
    ∀ c ∈ percentEncode set cs, set c = false :=
  hset.of_mem_percentEncode fun _ _ h => h

/-- A text without characters of the set needs no escape. -/
theorem percentEncode_eq_self {set : Char → Bool} {cs : List Char} (h : ∀ c ∈ cs, set c = false) :
    percentEncode set cs = cs := by
  induction cs with
  | nil => rfl
  | cons c cs ih =>
    obtain ⟨hc, hcs⟩ := List.forall_mem_cons.1 h
    rw [percentEncode_cons_of_not hc, ih hcs]

/-- The first character of an escaped text is kept from the text, or begins an escape. -/
theorem percentEncode_eq_cons {set : Char → Bool} {cs ds : List Char} {d : Char}
    (h : percentEncode set cs = d :: ds) :
    (∃ rest, cs = d :: rest ∧ set d = false ∧ ds = percentEncode set rest) ∨
      ∃ c b rest, b ∈ String.utf8EncodeChar c ∧ set c = true ∧
        d :: ds = Text.Percent.escape b ++ rest := by
  cases cs with
  | nil => cases h
  | cons c cs =>
    cases hc : set c with
    | false =>
      rw [percentEncode_cons_of_not hc, List.cons.injEq] at h
      obtain ⟨rfl, rfl⟩ := h
      exact .inl ⟨cs, rfl, hc, rfl⟩
    | true =>
      obtain ⟨b, hb, rest, hrest⟩ := percentEncode_cons_of_mem hc cs
      exact .inr ⟨c, b, rest, hb, hc, h ▸ hrest⟩

/-- Where an escaped text does not begin with a mark, its first character is kept from the text. -/
theorem percentEncode_eq_cons_of_ne {set : Char → Bool} {cs ds : List Char} {d : Char}
    (h : percentEncode set cs = d :: ds) (hd : d ≠ '%') :
    ∃ rest, cs = d :: rest ∧ ds = percentEncode set rest := by
  rcases percentEncode_eq_cons h with ⟨rest, hcs, -, hds⟩ | ⟨c, b, rest, -, -, hescape⟩
  · exact ⟨rest, hcs, hds⟩
  · exact absurd (List.cons.inj hescape).1 hd

/-- The escape of a dot is no escape of anything else. -/
theorem eq_dot_of_escape_eq {c e : Char} {b : UInt8} {ds rest : List Char}
    (hb : b ∈ String.utf8EncodeChar c) (he : e = 'e' ∨ e = 'E')
    (h : '%' :: '2' :: e :: ds = Text.Percent.escape b ++ rest) : c = '.' := by
  simp only [Text.Percent.escape, List.cons_append, List.cons.injEq] at h
  obtain ⟨-, hhigh, hlow, -⟩ := h
  have hdigit : ∀ n < 16, ('2' = Text.upperHexDigit n → n = 2) ∧
      ('e' = Text.upperHexDigit n ∨ 'E' = Text.upperHexDigit n → n = 14) := by decide
  have hb2 := (hdigit _ (escape_digits_lt b).1).1 hhigh
  have hb14 := (hdigit _ (escape_digits_lt b).2).2 (he.imp (·.symm.trans hlow) (·.symm.trans hlow))
  rcases Text.Utf8.mem_utf8EncodeChar c b hb with ⟨-, heq⟩ | hge
  · exact Char.toNat_inj.1 (show c.toNat = 46 by omega)
  · omega

/-- What reads as a dot in an escaped text is kept from the text. -/
theorem exists_of_escaped_dot {set : Char → Bool} (hdot : set '.' = false) {cs ds : List Char}
    {e : Char} (he : e = 'e' ∨ e = 'E') (h : percentEncode set cs = '%' :: '2' :: e :: ds) :
    ∃ rest, cs = '%' :: '2' :: e :: rest ∧ ds = percentEncode set rest := by
  rcases percentEncode_eq_cons h with ⟨cs₁, rfl, -, h₁⟩ | ⟨c, b, rest, hb, hc, hescape⟩
  · obtain ⟨cs₂, rfl, h₂⟩ := percentEncode_eq_cons_of_ne h₁.symm (by decide)
    obtain ⟨cs₃, rfl, h₃⟩ :=
      percentEncode_eq_cons_of_ne h₂.symm (by rcases he with rfl | rfl <;> decide)
    exact ⟨cs₃, rfl, h₃⟩
  · rw [eq_dot_of_escape_eq hb he hescape, hdot] at hc
    cases hc

/-- A text that reads as nothing but dots when it is escaped needed no escape. -/
theorem percentEncode_eq_self_of_dots {set : Char → Bool} (hdot : set '.' = false)
    {cs : List Char} (h : ∀ d ∈ readDots (percentEncode set cs), d = '.') :
    percentEncode set cs = cs := by
  generalize hwritten : percentEncode set cs = written at h
  fun_induction readDots written generalizing cs with
  | case1 rest ih =>
    obtain ⟨tail, rfl, rfl⟩ := exists_of_escaped_dot hdot (.inl rfl) hwritten
    rw [ih rfl fun d hd => h d (List.mem_cons_of_mem _ hd)]
  | case2 rest ih =>
    obtain ⟨tail, rfl, rfl⟩ := exists_of_escaped_dot hdot (.inr rfl) hwritten
    rw [ih rfl fun d hd => h d (List.mem_cons_of_mem _ hd)]
  | case3 c rest hne hne' ih =>
    obtain rfl := h c List.mem_cons_self
    obtain ⟨tail, rfl, rfl⟩ := percentEncode_eq_cons_of_ne hwritten (by decide)
    rw [ih rfl fun d hd => h d (List.mem_cons_of_mem _ hd)]
  | case4 =>
    cases cs with
    | nil => rfl
    | cons c cs =>
      cases hc : set c with
      | false => simp [percentEncode_cons_of_not hc] at hwritten
      | true =>
        obtain ⟨b, -, rest, hrest⟩ := percentEncode_cons_of_mem hc cs
        rw [hwritten] at hrest
        cases hrest

/-! ## What needs no escape -/

/-- A character of ASCII that is no control and no space. -/
def isVisible (c : Char) : Bool :=
  0x20 < c.toNat && c.toNat < 0x7F

theorem lt_of_not_control {c : Char} (h : inControlSet c = false) : c.toNat < 0x80 := by
  simp only [inControlSet, Bool.or_eq_false_iff, decide_eq_false_iff_not] at h
  omega

theorem not_control_of_not_fragment {c : Char} (h : inFragmentSet c = false) :
    inControlSet c = false := by
  simp only [inFragmentSet, Bool.or_eq_false_iff] at h
  exact h.1.1

theorem not_fragment_of_not_path {c : Char} (h : inPathSet c = false) : inFragmentSet c = false := by
  simp only [inPathSet, Bool.or_eq_false_iff] at h
  exact h.1.1.1.1

theorem not_path_of_not_userinfo {c : Char} (h : inUserinfoSet c = false) :
    inPathSet c = false := by
  simp only [inUserinfoSet, Bool.or_eq_false_iff] at h
  exact h.1

theorem visible_of_not_fragment {c : Char} (h : inFragmentSet c = false) :
    isVisible c = true :=
  Text.forall_ascii (P := fun c => inFragmentSet c = false → isVisible c = true)
    (by decide +kernel) (lt_of_not_control (not_control_of_not_fragment h)) h

theorem not_control_of_not_specialQuery {c : Char} (h : inSpecialQuerySet c = false) :
    inControlSet c = false := by
  simp only [inSpecialQuerySet, inQuerySet, Bool.or_eq_false_iff] at h
  exact h.1.1

theorem visible_of_not_specialQuery {c : Char} (h : inSpecialQuerySet c = false) :
    isVisible c = true :=
  Text.forall_ascii (P := fun c => inSpecialQuerySet c = false → isVisible c = true)
    (by decide +kernel) (lt_of_not_control (not_control_of_not_specialQuery h)) h

end MainContent.Url
