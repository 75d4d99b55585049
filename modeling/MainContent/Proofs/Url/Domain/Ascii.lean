import MainContent.Proofs.Text.Utf8
import MainContent.Proofs.Url.Domain.Mapping
import MainContent.Proofs.Url.Domain.Punycode
import MainContent.Url.Domain.Ascii

/-!
# The ASCII form of a domain name is its own

The ASCII form of a domain name comes from labels that a name may have (`exists_form`), and is read
as these labels (`readLabel_writeLabel`). So it is its own ASCII form, with one exception: a label
outside ASCII may be longer in Punycode than what is read as Punycode, and then the ASCII form is no
domain name (`Form.toAscii?_eq`).
-/

namespace MainContent.Url.Domain

open MainContent.Unicode
open MainContent.Text.Utf8 (mapM_eq_some_iff)

/-- No label in Punycode is longer than what is read as Punycode. -/
def Readable (name : List Char) : Prop :=
  ∀ label ∈ name.splitOn '.', aceMark <+: label → (label.drop 4).length ≤ longestEncoded

instance (name : List Char) : Decidable (Readable name) :=
  inferInstanceAs (Decidable (∀ label ∈ name.splitOn '.', aceMark <+: label → _))

/-! ## Labels -/

/-- A label that a domain name may have. -/
structure Accepted (label : List Char) : Prop where
  /-- It is mapped. -/
  stable : ∀ c ∈ label, isStable c = true
  /-- It is composed. -/
  composed : composedForm label = label
  /-- It has no dot. -/
  dot : '.' ∉ label
  /-- It is not in Punycode. -/
  plain : ¬ aceMark <+: label
  /-- In ASCII it has only characters that a domain name may have. -/
  allowed : ∀ c ∈ label, c.toNat < 0x80 → isForbidden c = false

/-- What stands for a label of a mapped and composed name is such a label. -/
theorem accepted_of_readLabel {mapped piece label : List Char}
    (hstable : ∀ c ∈ mapped, isStable c = true)
    (hallowed : (composedForm mapped).any isForbidden = false)
    (hpiece : piece ∈ (composedForm mapped).splitOn '.') (h : readLabel piece = some label) :
    Accepted label := by
  have hstable' := inherited_isStable.composedForm hstable
  have hmem := Text.mem_of_mem_splitOn hpiece
  have hdot := Text.not_mem_of_mem_splitOn hpiece
  have hallowed' : ∀ c ∈ piece, isForbidden c = false := fun c hc => by
    simpa using (List.any_eq_false.1 hallowed) c (hmem c hc)
  unfold readLabel at h
  split at h
  · -- The label was written in Punycode.
    unfold readEncoded at h
    split at h
    · cases h
    · split at h
      · rename_i inner hdecode
        split at h
        · rename_i hchecks
          obtain rfl := Option.some.inj h
          simp only [Bool.and_eq_true, List.all_eq_true, beq_iff_eq, Bool.not_eq_true'] at hchecks
          obtain ⟨⟨⟨-, hinner⟩, hcomposed⟩, hplain⟩ := hchecks
          have hfrom : ∀ c ∈ inner, c.toNat < 0x80 → c ∈ piece := fun c hc hlow =>
            List.mem_of_mem_drop (Punycode.mem_of_decode? hdecode c hc hlow)
          exact ⟨hinner, hcomposed, fun hmem => hdot (hfrom '.' hmem (by decide)), by
            rwa [← List.isPrefixOf_iff_prefix, Bool.not_eq_true], fun c hc hlow =>
            hallowed' c (hfrom c hc hlow)⟩
        · cases h
      · cases h
  · rename_i hplain
    obtain rfl := Option.some.inj h
    exact ⟨fun c hc => hstable' c (hmem c hc), composedForm_of_mem_splitOn hpiece, hdot, by
      rwa [← List.isPrefixOf_iff_prefix], fun c hc _ => hallowed' c hc⟩

/-! ## The ASCII form of a label -/

/-- A character that the ASCII form of a label may have. -/
structure Written (c : Char) : Prop where
  /-- It is of ASCII. -/
  ascii : c.toNat < 0x80
  /-- It is no capital. -/
  small : Text.holds c.toNat (0x41, 0x5A) = false
  /-- It is no dot. -/
  dot : c ≠ '.'
  /-- Domain names may have it. -/
  allowed : isForbidden c = false

theorem Written.isStable {c : Char} (h : Written c) : isStable c = true := by
  rw [isStable_iff, isUnstable_ascii h.ascii]
  exact h.small

/-- Digits of Punycode and hyphens are such characters. -/
theorem written_of_isDigit {c : Char} (h : c = '-' ∨ Punycode.isDigit c = true) : Written c := by
  have hascii : c.toNat < 0x80 := by
    rcases h with rfl | h
    · decide
    · exact (Punycode.isDigit_spec h).1
  have hall : c = '-' ∨ Punycode.isDigit c = true →
      Text.holds c.toNat (0x41, 0x5A) = false ∧ c ≠ '.' ∧ isForbidden c = false :=
    Text.forall_ascii (P := fun c => c = '-' ∨ Punycode.isDigit c = true →
      Text.holds c.toNat (0x41, 0x5A) = false ∧ c ≠ '.' ∧ isForbidden c = false)
      (by decide +kernel) hascii
  obtain ⟨hsmall, hdot, hallowed⟩ := hall h
  exact ⟨hascii, hsmall, hdot, hallowed⟩

/-- A label that is short enough for Punycode, if it needs any. -/
theorem length_of_fitsPunycode {label : List Char} (h : fitsPunycode label = true)
    (hlabel : label.any (0x80 ≤ ·.toNat) = true) : label.length ≤ longestInternational := by
  unfold fitsPunycode at h
  rw [Bool.or_eq_true, decide_eq_true_eq] at h
  refine h.resolve_left fun hascii => ?_
  obtain ⟨c, hc, hhigh⟩ := List.any_eq_true.1 hlabel
  have hlow := List.all_eq_true.1 hascii c hc
  simp only [decide_eq_true_eq] at hhigh hlow
  omega

/-- A label of ASCII is written as it is. -/
theorem writeLabel_of_ascii {label : List Char} (h : ¬ label.any (0x80 ≤ ·.toNat) = true) :
    writeLabel label = label := by
  rw [writeLabel, if_neg h]

/-- Another label is written in Punycode. -/
theorem writeLabel_of_any {label : List Char} (h : label.any (0x80 ≤ ·.toNat) = true) :
    writeLabel label = aceMark ++ Punycode.encode label := by
  rw [writeLabel, if_pos h]

/-- The mark of Punycode has four characters. -/
theorem drop_aceMark_append (cs : List Char) : (aceMark ++ cs).drop 4 = cs :=
  List.drop_left' rfl

/-- The characters of the ASCII form of a label. -/
theorem written_of_mem_writeLabel {label : List Char} (h : Accepted label)
    (hfits : fitsPunycode label = true) : ∀ c ∈ writeLabel label, Written c := by
  have hascii : ∀ c ∈ label, c.toNat < 0x80 → Written c := by
    intro c hc hlow
    have hstable := (isStable_iff c).1 (h.stable c hc)
    rw [isUnstable_ascii hlow] at hstable
    exact ⟨hlow, hstable, fun heq => h.dot (heq ▸ hc), h.allowed c hc hlow⟩
  intro c hc
  unfold writeLabel at hc
  split at hc
  · rename_i hhigh
    have hlength := length_of_fitsPunycode hfits hhigh
    rcases List.mem_append.1 hc with hc | hc
    · simp only [aceMark, List.mem_cons, List.not_mem_nil, or_false] at hc
      rcases hc with rfl | rfl | rfl | rfl
      · exact written_of_isDigit (.inr (by decide))
      · exact written_of_isDigit (.inr (by decide))
      · exact written_of_isDigit (.inl rfl)
      · exact written_of_isDigit (.inl rfl)
    · rcases Punycode.mem_of_mem_encode (hlength.trans_lt (by decide)) c hc with
        ⟨hmem, hlow⟩ | hdigit
      · exact hascii c hmem hlow
      · exact written_of_isDigit hdigit
  · rename_i hlow
    refine hascii c hc ?_
    by_contra hhigh
    exact hlow (List.any_eq_true.2 ⟨c, hc, by simpa using hhigh⟩)

/-- The ASCII form of a label is read as the label, unless it is too long for that. -/
theorem readLabel_writeLabel {label : List Char} (h : Accepted label)
    (hfits : fitsPunycode label = true) :
    readLabel (writeLabel label) =
      if aceMark.isPrefixOf (writeLabel label) ∧
        longestEncoded < ((writeLabel label).drop 4).length then none else some label := by
  by_cases hhigh : label.any (0x80 ≤ ·.toNat) = true
  · -- The label is read back from Punycode, and passes the checks because it is accepted.
    have hlength := length_of_fitsPunycode hfits hhigh
    have hmark : aceMark.isPrefixOf (writeLabel label) = true := by
      rw [writeLabel_of_any hhigh, List.isPrefixOf_iff_prefix]
      exact List.prefix_append _ _
    have hdrop : (writeLabel label).drop 4 = Punycode.encode label := by
      rw [writeLabel_of_any hhigh, drop_aceMark_append]
    unfold readLabel
    rw [if_pos hmark, hdrop, readEncoded, Punycode.decode?_encode (hlength.trans_lt (by decide))]
    by_cases hlong : longestEncoded < (Punycode.encode label).length
    · rw [if_pos hlong, if_pos ⟨hmark, hlong⟩]
    · have hplain : aceMark.isPrefixOf label = false := by
        rw [← Bool.not_eq_true, List.isPrefixOf_iff_prefix]
        exact h.plain
      rw [if_neg hlong, if_neg fun hboth => hlong hboth.2]
      dsimp only
      rw [if_pos]
      rw [hhigh, List.all_eq_true.2 h.stable, beq_iff_eq.2 h.composed, hplain]
      rfl
  · -- The label stands for itself, since it does not look as if it were in Punycode.
    have hplain : ¬ aceMark.isPrefixOf label = true := by
      rw [List.isPrefixOf_iff_prefix]
      exact h.plain
    rw [writeLabel_of_ascii hhigh, readLabel, if_neg hplain, if_neg (fun hlong => hplain hlong.1)]

/-! ## Names -/

/-- What the ASCII form of a name comes from. -/
structure Form (name : List Char) (labels : List (List Char)) : Prop where
  /-- There is a label. -/
  nonempty : labels ≠ []
  /-- They are mapped and composed. -/
  accepted : ∀ label ∈ labels, Accepted label
  /-- They are sound. -/
  sound : labels.all isSound = true
  /-- They are short enough for Punycode. -/
  fits : labels.all fitsPunycode = true
  /-- They keep to the rules of direction. -/
  directed : directionsKept labels = true
  /-- Their ASCII forms make up the name. -/
  name_eq : name = ['.'].intercalate (labels.map writeLabel)

/-- The ASCII form of a name is made of labels. -/
theorem exists_form {cs name : List Char} (h : toAscii? cs = some name) :
    ∃ labels, Form name labels := by
  unfold toAscii? at h
  simp only [Option.bind_eq_bind, Option.bind_eq_some_iff] at h
  obtain ⟨mapped, hmapped, labels, hlabels, hname⟩ := h
  split at hname
  · cases hname
  · rename_i hchecks
    simp only [Bool.or_eq_true, Bool.not_eq_true', not_or, Bool.not_eq_true,
      Bool.not_eq_false] at hchecks
    obtain ⟨⟨⟨hallowed, hsound⟩, hfits⟩, hdirected⟩ := hchecks
    have hread := mapM_eq_some_iff.1 hlabels
    refine ⟨labels, ?_, ?_, hsound, hfits, hdirected, (Option.some.inj hname).symm⟩
    · rintro rfl
      exact List.splitOn_ne_nil _ _ (List.map_eq_nil_iff.1 hread)
    · intro label hlabel
      have hmem : some label ∈ ((composedForm mapped).splitOn '.').map readLabel := by
        rw [hread]
        exact List.mem_map_of_mem hlabel
      obtain ⟨piece, hpiece, hpiece'⟩ := List.mem_map.1 hmem
      exact accepted_of_readLabel (isStable_of_mem_mapAll hmapped) hallowed hpiece hpiece'

/-- The labels of the name are the ASCII forms. -/
theorem Form.splitOn {name : List Char} {labels : List (List Char)} (h : Form name labels) :
    name.splitOn '.' = labels.map writeLabel := by
  rw [h.name_eq]
  refine List.splitOn_intercalate '.' (fun written hwritten hdot => ?_) ?_
  · obtain ⟨label, hlabel, rfl⟩ := List.mem_map.1 hwritten
    exact (written_of_mem_writeLabel (h.accepted label hlabel)
      (List.all_eq_true.1 h.fits label hlabel) _ hdot).dot rfl
  · simpa using h.nonempty

/-- The characters of the name. -/
theorem Form.written {name : List Char} {labels : List (List Char)} (h : Form name labels) :
    ∀ c ∈ name, c = '.' ∨ Written c := by
  intro c hc
  rw [h.name_eq] at hc
  rcases Text.mem_intercalate hc with hdot | ⟨piece, hpiece, hcpiece⟩
  · exact .inl (List.mem_singleton.1 hdot)
  · obtain ⟨label, hlabel, rfl⟩ := List.mem_map.1 hpiece
    exact .inr (written_of_mem_writeLabel (h.accepted label hlabel)
      (List.all_eq_true.1 h.fits label hlabel) c hcpiece)

/-- The labels of the name are read as the labels that it comes from, unless one of them is too
long for that. -/
theorem Form.mapM_readLabel {name : List Char} {labels : List (List Char)} (h : Form name labels) :
    (name.splitOn '.').mapM readLabel = if Readable name then some labels else none := by
  have hread := fun label hlabel => readLabel_writeLabel (h.accepted label hlabel)
    (List.all_eq_true.1 h.fits label hlabel)
  by_cases hreadable : Readable name
  · rw [if_pos hreadable, mapM_eq_some_iff, h.splitOn, List.map_map, List.map_inj_left]
    intro label hlabel
    rw [Function.comp_apply, hread label hlabel, if_neg]
    rintro ⟨hmark, hlong⟩
    refine absurd (hreadable (writeLabel label) ?_ (List.isPrefixOf_iff_prefix.1 hmark)) (by omega)
    rw [h.splitOn]
    exact List.mem_map_of_mem hlabel
  · rw [if_neg hreadable, Option.eq_none_iff_forall_ne_some]
    intro found hfound
    rw [mapM_eq_some_iff, h.splitOn] at hfound
    refine hreadable fun piece hpiece hmark => ?_
    by_contra hlong
    rw [h.splitOn] at hpiece
    obtain ⟨label, hlabel, rfl⟩ := List.mem_map.1 hpiece
    have hmem : readLabel (writeLabel label) ∈ found.map some := by
      rw [← hfound]
      exact List.mem_map_of_mem (List.mem_map_of_mem hlabel)
    rw [hread label hlabel, if_pos ⟨List.isPrefixOf_iff_prefix.2 hmark, by omega⟩] at hmem
    simp at hmem

/-- The ASCII form of a name is its own ASCII form, or none if a label of it is too long. -/
theorem Form.toAscii?_eq {name : List Char} {labels : List (List Char)} (h : Form name labels) :
    toAscii? name = if Readable name then some name else none := by
  have hstable : ∀ c ∈ name, isStable c = true := fun c hc =>
    (h.written c hc).elim (fun hdot => hdot ▸ by decide) Written.isStable
  have hcomposed : composedForm name = name := by
    rw [composedForm, if_pos]
    refine List.all_eq_true.2 fun c hc => decide_eq_true ?_
    rcases h.written c hc with rfl | hwritten
    · decide
    · exact hwritten.ascii.trans (by decide)
  have hallowed : name.any isForbidden = false := by
    refine List.any_eq_false.2 fun c hc => ?_
    rcases h.written c hc with rfl | hwritten
    · decide
    · rw [hwritten.allowed]
      exact Bool.false_ne_true
  unfold toAscii?
  rw [mapAll_of_isStable hstable]
  simp only [Option.bind_eq_bind, Option.bind_some, hcomposed, h.mapM_readLabel]
  split
  · rw [Option.bind_some, hallowed, h.sound, h.fits, h.directed, ← h.name_eq]
    rfl
  · rfl

end MainContent.Url.Domain
