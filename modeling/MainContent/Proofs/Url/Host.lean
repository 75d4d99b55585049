import MainContent.Proofs.Url.Domain.Ascii
import MainContent.Proofs.Url.Domain.Label
import MainContent.Proofs.Url.Ipv4
import MainContent.Proofs.Url.Ipv6
import MainContent.Url.HostReader

/-!
# A host is read as it is written

Under a special scheme the text of a host is read as the host (`readSpecialHost_shown`), with one
exception: a name with a label in Punycode that is too long to be read is no domain name.
-/

namespace MainContent.Url

/-- No label of the host is too long to be read. -/
def Host.Readable : Host → Prop
  | .name text => Domain.Readable text.toList
  | .ipv4 _ => True
  | .ipv6 _ => True

instance (h : Host) : Decidable h.Readable :=
  match h with
  | .name text => inferInstanceAs (Decidable (Domain.Readable text.toList))
  | .ipv4 _ => inferInstanceAs (Decidable True)
  | .ipv6 _ => inferInstanceAs (Decidable True)

/-! ## Names without escapes -/

/-- Bytes without the mark of an escape stand for themselves. -/
theorem decode_eq_self {bs : List UInt8} (h : 0x25 ∉ bs) : Text.Percent.decode bs = bs := by
  fun_induction Text.Percent.decode bs with
  | case1 high low rest b hb ih => exact absurd List.mem_cons_self h
  | case2 high low rest hb ih => exact absurd List.mem_cons_self h
  | case3 b rest hne ih => rw [ih fun hmem => h (List.mem_cons_of_mem _ hmem)]
  | case4 => rfl

/-- A text without escapes is read as it is. -/
theorem ofBytes?_encode {cs : List Char} (h : '%' ∉ cs) :
    Domain.ofBytes? (Text.Percent.decode (Text.Utf8.encode cs)) = Domain.toAscii? cs := by
  have hmark : 0x25 ∉ Text.Utf8.encode cs := fun hmem =>
    h (Text.Utf8.ofNat_mem_of_mem_encode cs 0x25 (by decide) hmem)
  rw [decode_eq_self hmark, Domain.ofBytes?,
    (Text.Utf8.decode?_eq_some_iff _ cs).2 (Text.Utf8.read_encode cs), Option.bind_some]

/-! ## Addresses as names -/

/-- What is true of each digit. -/
structure DigitFacts (c : Char) : Prop where
  /-- It may be written in a name. -/
  written : Domain.Written c
  /-- No rule for labels is about it. -/
  unruled : Domain.Unruled c
  /-- It does not begin what is in Punycode. -/
  plain : c ≠ 'x'

theorem digitFacts {c : Char} (h : Text.isDigit c = true) : DigitFacts c := by
  have hascii : c.toNat < 0x80 := by
    rw [Text.isDigit_iff] at h
    omega
  have hall : Text.isDigit c = true →
      (c = '-' ∨ Domain.Punycode.isDigit c = true) ∧ c ≠ 'x' ∧ Domain.unruledRange c.toNat = true :=
    Text.forall_ascii (P := fun c => Text.isDigit c = true →
      (c = '-' ∨ Domain.Punycode.isDigit c = true) ∧ c ≠ 'x' ∧ Domain.unruledRange c.toNat = true)
      (by decide +kernel) hascii
  obtain ⟨hdigit, hplain, hrange⟩ := hall h
  exact ⟨Domain.written_of_isDigit hdigit, Domain.unruled_of_range hrange, hplain⟩

/-- Labels of digits are a name in ASCII. -/
theorem form_of_digits {labels : List (List Char)} (hne : labels ≠ [])
    (h : ∀ label ∈ labels, ∀ c ∈ label, Text.isDigit c = true) :
    Domain.Form (['.'].intercalate labels) labels := by
  have hascii : ∀ label ∈ labels, ∀ c ∈ label, c.toNat < 0x80 := fun label hlabel c hc =>
    (digitFacts (h label hlabel c hc)).written.ascii
  constructor
  · exact hne
  · intro label hlabel
    have hfacts := fun c hc => digitFacts (h label hlabel c hc)
    refine ⟨fun c hc => (hfacts c hc).written.isStable, ?_, fun hdot => ?_, ?_, fun c hc _ =>
      (hfacts c hc).written.allowed⟩
    · refine Unicode.composedForm_eq_self (.inl fun c hc => ?_)
      exact (hascii label hlabel c hc).trans (by decide)
    · exact (hfacts '.' hdot).written.dot rfl
    · rintro ⟨rest, rfl⟩
      exact (hfacts 'x' List.mem_cons_self).plain rfl
  · exact List.all_eq_true.2 fun label hlabel =>
      Domain.isSound_of_unruled fun c hc => (digitFacts (h label hlabel c hc)).unruled
  · refine List.all_eq_true.2 fun label hlabel => ?_
    rw [Domain.fitsPunycode, List.all_eq_true.2 fun c hc => decide_eq_true (hascii label hlabel c hc)]
    rfl
  · exact Domain.directionsKept_of_unruled fun label hlabel c hc =>
      (digitFacts (h label hlabel c hc)).unruled
  · congr 1
    refine (List.map_id' _).symm.trans (List.map_inj_left.2 fun label hlabel => ?_)
    refine (Domain.writeLabel_of_ascii ?_).symm
    rw [List.any_eq_true]
    rintro ⟨c, hc, hhigh⟩
    have := hascii label hlabel c hc
    rw [decide_eq_true_eq] at hhigh
    omega

/-- An IPv4 address is written as a name in ASCII. -/
theorem form_ipv4 (address : Nat) :
    Domain.Form (Ipv4.shown address).toList (Ipv4.numerals address) := by
  rw [Ipv4.toList_shown]
  refine form_of_digits (by simp [Ipv4.numerals, Ipv4.bytes]) fun numeral hnumeral => ?_
  obtain ⟨b, hb, rfl⟩ := Ipv4.exists_eq_toDigits hnumeral
  exact List.all_eq_true.1 (Ipv4.numeral_facts b hb).2.1

/-- No label of an IPv4 address is too long to be read, since none is in Punycode. -/
theorem readable_ipv4 (address : Nat) : Domain.Readable (Ipv4.shown address).toList := by
  intro label hlabel hmark
  rw [Ipv4.splitOn_shown] at hlabel
  obtain ⟨b, hb, rfl⟩ := Ipv4.exists_eq_toDigits hlabel
  have hx := hmark.subset List.mem_cons_self
  exact absurd (List.all_eq_true.1 (Ipv4.numeral_facts b hb).2.1 'x' hx) (by decide)

/-! ## Hosts -/

/-- A host that is read under a special scheme. -/
inductive Host.Canonical : Host → Prop where
  /-- A domain name in ASCII that does not end in a number. -/
  | name {text : List Char} {labels : List (List Char)} (form : Domain.Form text labels)
      (nonempty : text ≠ []) (number : Ipv4.endsInNumber text = false) :
      Canonical (.name (String.ofList text))
  /-- An address of 32 bits. -/
  | ipv4 {address : Nat} (lt : address < 2 ^ 32) : Canonical (.ipv4 address)
  /-- An address of eight pieces. -/
  | ipv6 {pieces : List Nat} (whole : Ipv6.Whole pieces) : Canonical (.ipv6 pieces)

/-- What is read in brackets is an address of eight pieces. -/
theorem canonical_of_readBracketed {inner : List Char} {h : Host}
    (hread : readBracketed inner = .ok h) : h.Canonical := by
  unfold readBracketed at hread
  split at hread
  · split at hread
    · rename_i pieces hpieces
      obtain rfl := Except.ok.inj hread
      exact .ipv6 (Ipv6.whole_of_read? hpieces)
    · cases hread
  · cases hread

/-- What is read under a special scheme is such a host. -/
theorem canonical_of_readSpecialHost {cs : List Char} {h : Host}
    (hread : readSpecialHost cs = .ok h) : h.Canonical := by
  unfold readSpecialHost at hread
  split at hread
  · exact canonical_of_readBracketed hread
  · split at hread
    · cases hread
    · cases hread
    · -- A name in ASCII that ends in a number can only be an address.
      rename_i name hname hascii
      split at hread
      · split at hread
        · rename_i address haddress
          obtain rfl := Except.ok.inj hread
          exact .ipv4 (Ipv4.lt_of_read? haddress)
        · cases hread
      · rename_i hnumber
        obtain rfl := Except.ok.inj hread
        rw [Domain.ofBytes?, Option.bind_eq_some_iff] at hascii
        obtain ⟨decoded, -, hascii⟩ := hascii
        obtain ⟨labels, hform⟩ := Domain.exists_form hascii
        exact .name hform hname (Bool.eq_false_iff.2 hnumber)

/-- A name in ASCII has none of the characters that no domain name may have. -/
theorem allowed_of_form {name : List Char} {labels : List (List Char)} (h : Domain.Form name labels) :
    ∀ c ∈ name, c.toNat < 0x80 ∧ Domain.isForbidden c = false := by
  intro c hc
  rcases h.written c hc with rfl | hwritten
  · decide
  · exact ⟨hwritten.ascii, hwritten.allowed⟩

/-- The reading of a name in ASCII. -/
theorem readSpecialHost_of_form {name : List Char} {labels : List (List Char)}
    (h : Domain.Form name labels) (hne : name ≠ []) :
    readSpecialHost name =
      if Domain.Readable name then
        if Ipv4.endsInNumber name then
          match Ipv4.read? name with
          | some address => .ok (.ipv4 address)
          | none => .error .ipv4
        else .ok (.name (String.ofList name))
      else .error .domainName := by
  have hmark : '%' ∉ name := fun hmem => absurd (allowed_of_form h '%' hmem) (by decide)
  unfold readSpecialHost
  split
  · exact absurd (allowed_of_form h '[' List.mem_cons_self) (by decide)
  · rw [ofBytes?_encode hmark, h.toAscii?_eq]
    by_cases hreadable : Domain.Readable name
    · rw [if_pos hreadable, if_pos hreadable]
      split
      · rename_i heq
        cases heq
      · rename_i heq
        exact absurd (Option.some.inj heq) hne
      · rename_i heq
        obtain rfl := Option.some.inj heq
        rfl
    · rw [if_neg hreadable, if_neg hreadable]

theorem toList_shown_ipv6 (pieces : List Nat) :
    (Host.ipv6 pieces).shown.toList = '[' :: ((Ipv6.shown pieces).toList ++ [']']) := by
  rw [Host.shown, String.toList_append, String.toList_append]
  rfl

/-- The text of a host is read as the host, if it is readable. -/
theorem Host.Canonical.readSpecialHost_shown {h : Host} (hc : h.Canonical) :
    readSpecialHost h.shown.toList = if h.Readable then .ok h else .error .domainName := by
  cases hc with
  | name form nonempty number =>
    rw [Host.shown, String.toList_ofList, readSpecialHost_of_form form nonempty, number,
      if_neg Bool.false_ne_true]
    simp only [Host.Readable, String.toList_ofList]
  | ipv4 lt =>
    rw [Host.shown, readSpecialHost_of_form (form_ipv4 _) (Ipv4.shown_ne_nil _),
      if_pos (readable_ipv4 _), Ipv4.endsInNumber_shown, if_pos rfl, Ipv4.read?_shown lt]
    rfl
  | @ipv6 pieces whole =>
    rw [toList_shown_ipv6]
    simp only [readSpecialHost, readBracketed, List.reverse_append, List.reverse_singleton,
      List.singleton_append, List.reverse_reverse, Ipv6.read?_shown whole]
    rfl

/-- The characters of the text of a host. -/
theorem Host.Canonical.of_mem_shown {h : Host} (hc : h.Canonical) :
    ∀ c ∈ h.shown.toList, (c.toNat < 0x80 ∧ Domain.isForbidden c = false) ∨
      c = '[' ∨ c = ']' ∨ c = ':' := by
  intro c hmem
  cases hc with
  | name form nonempty number =>
    rw [Host.shown, String.toList_ofList] at hmem
    exact .inl (allowed_of_form form c hmem)
  | ipv4 lt => exact .inl (allowed_of_form (form_ipv4 _) c hmem)
  | ipv6 whole =>
    rw [toList_shown_ipv6, List.mem_cons, List.mem_append, List.mem_singleton] at hmem
    rcases hmem with hopen | hmem | hclose
    · exact .inr (.inl hopen)
    · rcases Ipv6.mem_shown hmem with hcolon | ⟨d, hd, rfl⟩
      · exact .inr (.inr (.inr hcolon))
      · have hdigit : ∀ d < 16, d.digitChar.toNat < 0x80 ∧ Domain.isForbidden d.digitChar = false := by
          decide
        exact .inl (hdigit d hd)
    · exact .inr (.inr (.inl hclose))

/-- The text of a host is not empty. -/
theorem Host.Canonical.shown_ne_nil {h : Host} (hc : h.Canonical) : h.shown.toList ≠ [] := by
  cases hc with
  | name form nonempty number => rwa [Host.shown, String.toList_ofList]
  | ipv4 lt => exact Ipv4.shown_ne_nil _
  | ipv6 whole =>
    rw [toList_shown_ipv6]
    exact List.cons_ne_nil _ _

/-- A host is not the empty name. -/
theorem Host.Canonical.ne_empty {h : Host} (hc : h.Canonical) : h ≠ .name "" := by
  rintro rfl
  exact hc.shown_ne_nil rfl

end MainContent.Url
