import MainContent.Page.Charset
import MainContent.Proofs.Text.Part
import MainContent.Proofs.Text.Strip
import Mathlib.Data.List.TakeWhile

/-!
# How a label is found

A label is what follows the first `charset=` of a text, but for quotes and spaces in between, up to
the next character that ends a label (`labelIn_eq_some_iff`). `strip_labelAfter_append` says which
part of the text that is, but for blanks around it.
-/

namespace MainContent.Page

open MainContent.Text (isAsciiBlank strip)

/-- What stands before a label. -/
def sign : List Char := "charset=".toList

/-- The label that follows a `charset=`, which may be empty. -/
def labelAfter (rest : List Char) : List Char :=
  (rest.dropWhile beforeLabel).takeWhile (!endsLabel ·)

/-- A text can be a label: it is not empty, and nothing in it ends a label. -/
def IsLabel (label : List Char) : Prop :=
  label ≠ [] ∧ ∀ c ∈ label, endsLabel c = false

/-- A label ends where a text begins: the text is empty, or begins with what ends a label. -/
def EndsBefore (rest : List Char) : Prop :=
  ∀ c ∈ rest.head?, endsLabel c = true

/-- A label that is not empty. -/
def nonempty (label : List Char) : Option (List Char) :=
  if label.isEmpty then none else some label

/-! ## The first `charset=` -/

/-- No `charset=` begins within another one. -/
theorem sign_infix_of_begins {before rest : List Char} (hbefore : before ≠ [])
    (h : sign <+: before ++ (sign ++ rest)) : sign <:+: before := by
  -- The sign is not longer than `before` with the sign's first seven characters.
  have hshort : sign <+: before ++ "charset".toList := by
    refine List.prefix_of_prefix_length_le h ⟨'=' :: rest, ?_⟩ ?_
    · rw [List.append_assoc]
      rfl
    · rw [List.length_append]
      have := List.length_pos_iff.2 hbefore
      have hsign : sign.length = 8 := by decide
      have hletters : "charset".toList.length = 7 := by decide
      omega
  exact Text.infix_of_last_not_mem (w := "charset".toList) (c := '=') hshort.isInfix (by decide)

/-- What follows the first `charset=` is what is looked at. -/
theorem after?_of_first {before : List Char} (h : ¬sign <:+: before) (rest : List Char) :
    after? sign (before ++ (sign ++ rest)) = some rest := by
  induction before with
  | nil => rfl
  | cons c before ih =>
    have hprefix : sign.isPrefixOf (c :: before ++ (sign ++ rest)) = false := by
      rw [← Bool.not_eq_true, List.isPrefixOf_iff_prefix]
      exact fun hp => h (sign_infix_of_begins (List.cons_ne_nil c before) hp)
    rw [List.cons_append] at hprefix ⊢
    rw [after?, hprefix]
    exact ih fun hmem => h (List.infix_cons hmem)

/-- A text with a `charset=` has a first one. -/
theorem exists_first {cs : List Char} (h : sign <:+: cs) :
    ∃ before rest, cs = before ++ (sign ++ rest) ∧ ¬sign <:+: before := by
  induction cs with
  | nil => exact absurd (List.eq_nil_of_infix_nil h) (by decide)
  | cons c cs ih =>
    by_cases hprefix : sign <+: c :: cs
    · obtain ⟨rest, hrest⟩ := hprefix
      exact ⟨[], rest, hrest.symm, fun hnil => absurd (List.eq_nil_of_infix_nil hnil) (by decide)⟩
    · obtain ⟨before, rest, rfl, hfirst⟩ := ih ((List.infix_cons_iff.1 h).resolve_left hprefix)
      refine ⟨c :: before, rest, rfl, fun hmem => ?_⟩
      rcases List.infix_cons_iff.1 hmem with hp | hmem
      · exact hprefix (hp.trans (List.prefix_append _ _))
      · exact hfirst hmem

/-- Nothing is looked at in a text without `charset=`. -/
theorem after?_of_no_sign {cs : List Char} (h : ¬sign <:+: cs) : after? sign cs = none := by
  induction cs with
  | nil => rfl
  | cons c cs ih =>
    have hprefix : ¬sign.isPrefixOf (c :: cs) = true := by
      rw [List.isPrefixOf_iff_prefix]
      exact fun hp => h hp.isInfix
    rw [after?, if_neg hprefix]
    exact ih fun hmem => h (List.infix_cons hmem)

/-! ## The label behind it -/

/-- What may stand before a label cannot be in it. -/
theorem endsLabel_of_beforeLabel {c : Char} (h : beforeLabel c = true) : endsLabel c = true := by
  simp only [beforeLabel, endsLabel, Bool.or_eq_true] at h ⊢
  tauto

/-- What follows a label read to its end ends it. -/
theorem endsBefore_dropWhile (rest : List Char) : EndsBefore (rest.dropWhile (!endsLabel ·)) := by
  intro c hc
  have hhead := List.head?_dropWhile_not (!endsLabel ·) rest
  rw [Option.mem_def.1 hc] at hhead
  simpa using hhead

/-- A label is read up to what ends it. -/
theorem takeWhile_label {label rest : List Char} (hlabel : ∀ c ∈ label, endsLabel c = false)
    (hrest : EndsBefore rest) : (label ++ rest).takeWhile (!endsLabel ·) = label := by
  rw [List.takeWhile_append_of_pos fun c hc => by rw [hlabel c hc]; rfl]
  cases rest with
  | nil => exact List.append_nil label
  | cons c rest =>
    rw [List.takeWhile_cons_of_neg (by rw [hrest c rfl]; decide), List.append_nil]

/-- A label is read behind quotes and spaces. -/
theorem labelAfter_append {gap label rest : List Char} (hgap : ∀ c ∈ gap, beforeLabel c = true)
    (hlabel : IsLabel label) (hrest : EndsBefore rest) :
    labelAfter (gap ++ (label ++ rest)) = label := by
  obtain ⟨hne, hlabel⟩ := hlabel
  obtain ⟨c, cs, rfl⟩ := List.exists_cons_of_ne_nil hne
  have hfirst : ¬beforeLabel c = true := fun h => by
    have := hlabel c List.mem_cons_self
    rw [endsLabel_of_beforeLabel h] at this
    cases this
  rw [labelAfter, List.dropWhile_append_of_pos hgap, List.cons_append,
    List.dropWhile_cons_of_neg hfirst, ← List.cons_append, takeWhile_label hlabel hrest]

/-- No label is read where one would end before it begins. -/
theorem labelAfter_append_of_ends {gap rest : List Char} (hgap : ∀ c ∈ gap, beforeLabel c = true)
    (c : Char) (hends : endsLabel c = true) (hlast : beforeLabel c = false) :
    labelAfter (gap ++ c :: rest) = [] := by
  rw [labelAfter, List.dropWhile_append_of_pos hgap,
    List.dropWhile_cons_of_neg (by rw [hlast]; decide),
    List.takeWhile_cons_of_neg (by rw [hends]; decide)]

/-- Nothing in a label ends it. -/
theorem endsLabel_of_mem_labelAfter {rest : List Char} {c : Char} (h : c ∈ labelAfter rest) :
    endsLabel c = false := by
  simpa using List.mem_takeWhile_imp h

/-- A label is read where it begins. -/
theorem labelAfter_of_isLabel {label rest : List Char} (hlabel : IsLabel label)
    (hrest : EndsBefore rest) : labelAfter (label ++ rest) = label := by
  rw [← List.nil_append (label ++ rest)]
  exact labelAfter_append (List.forall_mem_nil _) hlabel hrest

/-- A text is read as a label where it stands exactly if nothing in it ends one, and what follows
does. -/
theorem labelAfter_append_eq_iff {label : List Char} (hne : label ≠ []) (rest : List Char) :
    labelAfter (label ++ rest) = label ↔ (∀ c ∈ label, endsLabel c = false) ∧ EndsBefore rest := by
  constructor
  · intro h
    have hlabel : ∀ c ∈ label, endsLabel c = false := fun c hc =>
      endsLabel_of_mem_labelAfter (h.symm ▸ hc)
    refine ⟨hlabel, fun c hc => ?_⟩
    obtain ⟨others, rfl⟩ : ∃ others, rest = c :: others := List.head?_eq_some_iff.1 hc
    by_contra hends
    -- The label would go on with a character that does not end it.
    have hlonger : IsLabel (label ++ (c :: others).takeWhile (!endsLabel ·)) :=
      ⟨List.append_ne_nil_of_left_ne_nil hne _, fun d hd =>
        (List.mem_append.1 hd).elim (hlabel d) fun hd => by simpa using List.mem_takeWhile_imp hd⟩
    have hwhole := labelAfter_of_isLabel hlonger (endsBefore_dropWhile (c :: others))
    rw [List.append_assoc, List.takeWhile_append_dropWhile, h,
      List.takeWhile_cons_of_pos (by simpa using hends)] at hwhole
    exact absurd (List.append_right_eq_self.1 hwhole.symm) (List.cons_ne_nil _ _)
  · rintro ⟨hlabel, hrest⟩
    exact labelAfter_of_isLabel ⟨hne, hlabel⟩ hrest

/-- What is read as a label can be one, unless it is empty, and ends where the text goes on. -/
theorem labelAfter_spec (rest : List Char) :
    ∃ gap behind, rest = gap ++ (labelAfter rest ++ behind) ∧ (∀ c ∈ gap, beforeLabel c = true) ∧
      (∀ c ∈ labelAfter rest, endsLabel c = false) ∧ EndsBefore behind ∧
      ∀ c ∈ (labelAfter rest ++ behind).head?, beforeLabel c = false := by
  refine ⟨rest.takeWhile beforeLabel, (rest.dropWhile beforeLabel).dropWhile (!endsLabel ·), ?_,
    fun c hc => List.mem_takeWhile_imp hc, fun c hc => endsLabel_of_mem_labelAfter hc,
    endsBefore_dropWhile _, fun c hc => ?_⟩
  · rw [labelAfter, List.takeWhile_append_dropWhile, List.takeWhile_append_dropWhile]
  · rw [labelAfter, List.takeWhile_append_dropWhile] at hc
    have hhead := List.head?_dropWhile_not beforeLabel rest
    rwa [Option.mem_def.1 hc] at hhead

/-- Behind quotes and spaces, the next character decides whether there is a label. -/
theorem labelAfter_append_eq_nil_iff_left {x : List Char} (hx : ¬∀ c ∈ x, beforeLabel c = true)
    (rest : List Char) : labelAfter (x ++ rest) = [] ↔ labelAfter x = [] := by
  obtain ⟨c, others, hdrop⟩ :=
    List.exists_cons_of_ne_nil fun hnil => hx (List.dropWhile_eq_nil_iff.1 hnil)
  have hdecides (cs : List Char) :
      (c :: cs).takeWhile (!endsLabel ·) = [] ↔ endsLabel c = true := by
    cases hends : endsLabel c <;> simp [hends]
  rw [labelAfter, List.dropWhile_append, labelAfter, hdrop, List.isEmpty_cons, if_neg (by decide),
    List.cons_append, hdecides, hdecides]

/-- The end of a tag ends a label, so what follows it has no say. -/
theorem labelAfter_append_gt (inside rest : List Char) :
    labelAfter (inside ++ '>' :: rest) = labelAfter inside := by
  obtain ⟨gap, behind, hsplit, hgap, hlabel, hends, hnot⟩ := labelAfter_spec inside
  generalize hread : labelAfter inside = label at hsplit hlabel hnot
  rw [hsplit, List.append_assoc, List.append_assoc]
  cases label with
  | nil =>
    cases behind with
    | nil => exact labelAfter_append_of_ends hgap '>' (by decide) (by decide)
    | cons c behind => exact labelAfter_append_of_ends hgap c (hends c rfl) (hnot c rfl)
  | cons c label =>
    refine labelAfter_append hgap ⟨List.cons_ne_nil c label, hlabel⟩ ?_
    cases behind with
    | nil => exact fun d hd => by cases hd; decide
    | cons d behind => exact hends

/-- The label is the one behind the first `charset=`. -/
theorem labelIn_of_first {before : List Char} (h : ¬sign <:+: before) (rest : List Char) :
    labelIn (before ++ (sign ++ rest)) = nonempty (labelAfter rest) := by
  rw [labelIn, show "charset=".toList = sign from rfl, after?_of_first h]
  rfl

/-- Without `charset=` there is no label. -/
theorem labelIn_of_no_sign {cs : List Char} (h : ¬sign <:+: cs) : labelIn cs = none := by
  rw [labelIn, show "charset=".toList = sign from rfl, after?_of_no_sign h]

/-- A label is empty, or it is there. -/
theorem nonempty_eq_some_iff (label found : List Char) :
    nonempty label = some found ↔ label = found ∧ found ≠ [] := by
  unfold nonempty
  cases label with
  | nil => simp
  | cons c cs => simp +contextual [eq_comm]

/-- There is no label exactly if it is empty. -/
theorem nonempty_eq_none_iff (label : List Char) : nonempty label = none ↔ label = [] := by
  unfold nonempty
  cases label <;> simp

/-- Labels that are there, or not, are the same exactly if they are. -/
theorem nonempty_inj {label label' : List Char} :
    nonempty label = nonempty label' ↔ label = label' := by
  unfold nonempty
  cases label <;> cases label' <;> simp

/-- The label in a text is what can be one behind the first `charset=`. -/
theorem labelIn_eq_some_iff (small label : List Char) :
    labelIn small = some label ↔
      ∃ before rest, small = before ++ (sign ++ rest) ∧ ¬sign <:+: before ∧
        labelAfter rest = label ∧ label ≠ [] := by
  constructor
  · intro h
    by_cases hsign : sign <:+: small
    · obtain ⟨before, rest, rfl, hfirst⟩ := exists_first hsign
      rw [labelIn_of_first hfirst, nonempty_eq_some_iff] at h
      exact ⟨before, rest, rfl, hfirst, h⟩
    · rw [labelIn_of_no_sign hsign] at h
      cases h
  · rintro ⟨before, rest, rfl, hfirst, h⟩
    rw [labelIn_of_first hfirst]
    exact (nonempty_eq_some_iff _ _).2 h

/-! ## Labels and blanks -/

/-- A blank that does not stand before a label does not end one. -/
theorem endsLabel_of_isAsciiBlank {c : Char} (h : isAsciiBlank c = true)
    (hbefore : beforeLabel c = false) : endsLabel c = false := by
  simp only [isAsciiBlank, Bool.or_eq_true, beq_iff_eq] at h
  rcases h with (((rfl | rfl) | rfl) | rfl) | rfl
  · decide
  · decide
  · decide
  · decide
  · exact absurd hbefore (by decide)

/-- A part of a text that has no blanks at its ends is what is read as a label, but for blanks around
it, exactly if nothing in the part ends a label, nor what stands between it and the quotes and spaces
in front, and only blanks follow it up to what ends a label. -/
theorem strip_labelAfter_append {before core : List Char}
    (hbefore : ∀ c ∈ before, isAsciiBlank c = true ∨ beforeLabel c = true) (hne : core ≠ [])
    (hcore : strip isAsciiBlank core = core) (behind : List Char) :
    strip isAsciiBlank (labelAfter (before ++ (core ++ behind))) = core ↔
      (∀ c ∈ before.dropWhile beforeLabel, endsLabel c = false) ∧
        (∀ c ∈ core, endsLabel c = false) ∧
        ∀ c ∈ behind.takeWhile (!endsLabel ·), isAsciiBlank c = true := by
  by_cases hends : ∀ c ∈ core, endsLabel c = false
  · -- What is read begins where the quotes and spaces end.
    have hread : labelAfter (before ++ (core ++ behind)) =
        (before.dropWhile beforeLabel ++ (core ++ behind)).takeWhile (!endsLabel ·) := by
      obtain ⟨c, others, rfl⟩ := List.exists_cons_of_ne_nil hne
      have hfirst : ¬beforeLabel c = true := fun h => by
        have := hends c List.mem_cons_self
        rw [endsLabel_of_beforeLabel h] at this
        cases this
      rw [labelAfter, List.dropWhile_append]
      split
      · rename_i hempty
        rw [List.isEmpty_iff.1 hempty, List.cons_append, List.dropWhile_cons_of_neg hfirst,
          List.nil_append]
      · rfl
    have hmem : ∀ c ∈ before.dropWhile beforeLabel, c ∈ before :=
      (List.dropWhile_suffix beforeLabel).subset
    -- Of what stands in front, only blanks can be in a label.
    have hblank : ∀ c ∈ before.dropWhile beforeLabel, endsLabel c = false →
        isAsciiBlank c = true := fun c hc hnot => by
      refine (hbefore c (hmem c hc)).resolve_right fun h => ?_
      rw [endsLabel_of_beforeLabel h] at hnot
      cases hnot
    rw [hread]
    by_cases hfront : ∀ c ∈ before.dropWhile beforeLabel, endsLabel c = false
    · rw [List.takeWhile_append_of_pos fun c hc => by rw [hfront c hc]; rfl,
        List.takeWhile_append_of_pos fun c hc => by rw [hends c hc]; rfl,
        Text.strip_append_left fun c hc => hblank c hc (hfront c hc),
        Text.strip_append_eq_iff hne hcore]
      exact ⟨fun h => ⟨hfront, hends, h⟩, fun h => h.2.2⟩
    · refine iff_of_false (fun h => ?_) (fun h => hfront h.1)
      have hshort : ((before.dropWhile beforeLabel).takeWhile (!endsLabel ·)).length ≠
          (before.dropWhile beforeLabel).length := fun hlength => by
        have hall := (List.takeWhile_prefix _).eq_of_length hlength
        exact hfront fun c hc => by simpa using List.takeWhile_eq_self_iff.1 hall c hc
      rw [List.takeWhile_append, if_neg hshort] at h
      have hnone : strip isAsciiBlank
          ((before.dropWhile beforeLabel).takeWhile (!endsLabel ·)) = [] :=
        Text.strip_eq_nil_iff.2 fun c hc =>
          hblank c ((List.takeWhile_prefix _).subset hc) (by simpa using List.mem_takeWhile_imp hc)
      exact hne (h.symm.trans hnone)
  · refine iff_of_false (fun h => hends fun c hc => ?_) (fun h => hends h.2.1)
    exact endsLabel_of_mem_labelAfter (Text.strip_subset _ _ (h.symm ▸ hc))

/-- Behind blanks and quotes, no label is read exactly if they are quotes and spaces and none is read
behind them. -/
theorem labelAfter_append_eq_nil_iff {before : List Char}
    (hbefore : ∀ c ∈ before, isAsciiBlank c = true ∨ beforeLabel c = true) (behind : List Char) :
    labelAfter (before ++ behind) = [] ↔
      (∀ c ∈ before, beforeLabel c = true) ∧ labelAfter behind = [] := by
  by_cases hall : ∀ c ∈ before, beforeLabel c = true
  · rw [labelAfter, List.dropWhile_append_of_pos hall, ← labelAfter]
    exact ⟨fun h => ⟨hall, h⟩, fun h => h.2⟩
  · refine iff_of_false (fun h => ?_) (fun h => hall h.1)
    obtain ⟨c, others, hdrop⟩ :=
      List.exists_cons_of_ne_nil fun hnil => hall (List.dropWhile_eq_nil_iff.1 hnil)
    have hfirst : beforeLabel c = false := by
      have hhead := List.head?_dropWhile_not beforeLabel before
      rwa [hdrop] at hhead
    have hmem : c ∈ before :=
      (List.dropWhile_suffix beforeLabel).subset (hdrop ▸ List.mem_cons_self)
    have hblank : isAsciiBlank c = true :=
      (hbefore c hmem).resolve_right (by rw [hfirst]; decide)
    rw [labelAfter, List.dropWhile_append, hdrop, List.isEmpty_cons, if_neg (by decide),
      List.cons_append, List.takeWhile_cons_of_pos
        (by rw [endsLabel_of_isAsciiBlank hblank hfirst]; rfl)] at h
    cases h

end MainContent.Page
