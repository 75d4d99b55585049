import MainContent.Proofs.Page.Label

/-!
# The first tag with a label

In a page, a label is looked for in a tag that begins with `<meta`, up to the next `>`, and the first
such tag with a label counts.

So a label that has been found stands behind a text that opens it. `exists_opening` takes a page apart
into the opening, the label, and what follows, and says that the opening alone decides: whatever label
stands behind it is the one that is found.
-/

namespace MainContent.Page

/-- What a tag with a label begins with. -/
def mark : List Char := "<meta".toList

/-! ## The first tag with a label -/

/-- The label in the tag that a text begins with, if the name of the tag begins with `meta`. -/
def tagLabel (cs : List Char) : Option (List Char) :=
  if mark.isPrefixOf cs then labelIn (cs.takeWhile (· ≠ '>')) else none

/-- A text that does not begin with `<meta` begins with no tag that counts. -/
theorem tagLabel_of_no_mark {cs : List Char} (h : ¬mark <+: cs) : tagLabel cs = none :=
  if_neg (by rwa [List.isPrefixOf_iff_prefix])

/-- The tag that a text begins with has its say before the others. -/
theorem metaLabelIn_cons (c : Char) (cs : List Char) :
    metaLabelIn (c :: cs) = (tagLabel (c :: cs)).or (metaLabelIn cs) := by
  rw [metaLabelIn, show "<meta".toList = mark from rfl, tagLabel]
  split
  · cases labelIn ((c :: cs).takeWhile (· ≠ '>')) <;> rfl
  · rfl

/-- A tag is read up to the next `>`. -/
theorem takeWhile_append_gt {inside : List Char} (h : '>' ∉ inside) (rest : List Char) :
    (inside ++ '>' :: rest).takeWhile (· ≠ '>') = inside := by
  rw [List.takeWhile_append_of_pos, List.takeWhile_cons_of_neg (by decide), List.append_nil]
  intro c hc
  exact decide_eq_true fun heq => h (heq ▸ hc)

/-- What follows a `>` is in no tag that begins before it. -/
theorem tagLabel_append_gt (inside rest : List Char) :
    tagLabel (inside ++ '>' :: rest) = tagLabel inside := by
  have hprefix : mark.isPrefixOf (inside ++ '>' :: rest) = mark.isPrefixOf inside := by
    rw [Bool.eq_iff_iff, List.isPrefixOf_iff_prefix, List.isPrefixOf_iff_prefix]
    exact ⟨fun h => Text.prefix_of_prefix_append_cons h (by decide),
      fun h => h.trans (List.prefix_append _ _)⟩
  have htag : (inside ++ '>' :: rest).takeWhile (· ≠ '>') = inside.takeWhile (· ≠ '>') := by
    rw [List.takeWhile_append]
    split
    · rename_i hall
      rw [List.takeWhile_cons_of_neg (by decide), List.append_nil]
      exact ((List.takeWhile_prefix _).eq_of_length hall).symm
    · rfl
  rw [tagLabel, tagLabel, hprefix, htag]

/-- What a text declares up to a `>` counts first, and then what it declares behind it. -/
theorem metaLabelIn_append_gt (cs rest : List Char) :
    metaLabelIn (cs ++ '>' :: rest) = (metaLabelIn cs).or (metaLabelIn rest) := by
  -- No tag that begins in front goes over the `>`, and none begins with it.
  induction cs with
  | nil =>
    rw [List.nil_append, metaLabelIn_cons, ← List.nil_append ('>' :: rest), tagLabel_append_gt]
    rfl
  | cons c cs ih =>
    rw [List.cons_append, metaLabelIn_cons, ← List.cons_append, tagLabel_append_gt, ih,
      metaLabelIn_cons, Option.or_assoc]

/-- A text without `charset=` declares nothing. -/
theorem metaLabelIn_of_no_sign {cs : List Char} (h : ¬sign <:+: cs) : metaLabelIn cs = none := by
  induction cs with
  | nil => rfl
  | cons c cs ih =>
    have htag : ¬sign <:+: (c :: cs).takeWhile (· ≠ '>') := fun hmem =>
      h (hmem.trans (List.takeWhile_prefix _).isInfix)
    rw [metaLabelIn_cons, tagLabel, labelIn_of_no_sign htag, ite_self,
      ih fun hmem => h (List.infix_cons hmem)]
    rfl

/-- A text in front of the first `<meta` has no say. -/
theorem metaLabelIn_append_mark {before : List Char} (h : ¬mark <:+: before) (rest : List Char) :
    metaLabelIn (before ++ (mark ++ rest)) = metaLabelIn (mark ++ rest) := by
  induction before with
  | nil => rfl
  | cons c before ih =>
    -- A `<meta` that began in front would have to stand there as a whole.
    have hprefix : ¬mark <+: c :: before ++ (mark ++ rest) := by
      intro hp
      obtain ⟨hc, hletters⟩ := List.cons_prefix_cons.1 hp
      have hwhole : "meta".toList <+: before :=
        Text.prefix_of_prefix_append_cons (c := '<') (y := "meta".toList ++ rest) hletters (by decide)
      exact h (List.cons_prefix_cons.2 ⟨hc, hwhole⟩).isInfix
    rw [List.cons_append] at hprefix ⊢
    rw [metaLabelIn_cons, tagLabel_of_no_mark hprefix, Option.none_or]
    exact ih fun hmem => h (List.infix_cons hmem)

/-- A label in a tag stands behind the first `charset=`. -/
theorem tagLabel_of_first {front rest : List Char} (hmark : mark <+: front) (hopen : '>' ∉ front)
    (hfirst : ¬sign <:+: front) : tagLabel (front ++ (sign ++ rest)) = nonempty (labelAfter rest) := by
  rw [tagLabel, if_pos (List.isPrefixOf_iff_prefix.2 (hmark.trans (List.prefix_append _ _)))]
  have hinside : ∀ c ∈ front ++ sign, decide (c ≠ '>') = true := by
    intro c hc
    refine decide_eq_true fun heq => ?_
    rcases List.mem_append.1 hc with hc | hc
    · exact hopen (heq ▸ hc)
    · exact absurd (heq ▸ hc) (by decide)
  rw [← List.append_assoc, List.takeWhile_append_of_pos hinside, List.append_assoc,
    labelIn_of_first hfirst]
  -- The label ends before the tag does.
  by_cases hgt : '>' ∈ rest
  · obtain ⟨inside, behind, rfl, hnot⟩ := List.eq_append_cons_of_mem hgt
    rw [takeWhile_append_gt hnot, labelAfter_append_gt]
  · have hall : ∀ c ∈ rest, decide (c ≠ '>') = true := fun c hc =>
      decide_eq_true fun heq => hgt (heq ▸ hc)
    rw [List.takeWhile_eq_self_iff.2 hall]

/-- In a text with one `charset=`, a label counts if a `<meta` stands in front of it. -/
theorem metaLabelIn_of_only {front rest : List Char} (hopen : '>' ∉ front)
    (hfirst : ¬sign <:+: front) (honly : ¬sign <:+: rest) :
    (mark <:+: front → metaLabelIn (front ++ (sign ++ rest)) = nonempty (labelAfter rest)) ∧
      (¬mark <:+: front → metaLabelIn (front ++ (sign ++ rest)) = none) := by
  -- The induction is on the text in front, so that every `<meta` in it is looked at in turn.
  induction front with
  | nil =>
    refine ⟨fun hmark => absurd (List.eq_nil_of_infix_nil hmark) (by decide), fun _ => ?_⟩
    -- Without the `c` of `charset=`, no `charset=` is left.
    have hrest : ¬sign <:+: "harset=".toList ++ rest := fun hmem =>
      honly (Text.infix_of_head_not_mem (c := 'c') (w := "harset=".toList) hmem (by decide))
    have hmark : ¬mark <+: 'c' :: ("harset=".toList ++ rest) := fun hp =>
      absurd (List.cons_prefix_cons.1 hp).1 (by decide)
    change metaLabelIn ('c' :: ("harset=".toList ++ rest)) = none
    rw [metaLabelIn_cons, metaLabelIn_of_no_sign hrest, Option.or_none,
      tagLabel_of_no_mark hmark]
  | cons c front ih =>
    have hopen' : '>' ∉ front := fun hmem => hopen (List.mem_cons_of_mem c hmem)
    obtain ⟨hsome, hnone⟩ := ih hopen' fun hmem => hfirst (List.infix_cons hmem)
    rw [List.cons_append, metaLabelIn_cons, ← List.cons_append]
    by_cases hprefix : mark <+: c :: front
    · refine ⟨fun _ => ?_, fun hno => absurd hprefix.isInfix hno⟩
      rw [tagLabel_of_first hprefix hopen hfirst]
      by_cases hmark : mark <:+: front
      · rw [hsome hmark, Option.or_self]
      · rw [hnone hmark, Option.or_none]
    · have hnotTag : ¬mark <+: c :: front ++ (sign ++ rest) := fun hp =>
        hprefix (Text.prefix_of_prefix_append_cons (c := 'c') (y := "harset=".toList ++ rest) hp
          (by decide))
      rw [tagLabel_of_no_mark hnotTag, Option.none_or]
      refine ⟨fun hmark => hsome ?_, fun hno => hnone fun hmem => hno (List.infix_cons hmem)⟩
      exact (List.infix_cons_iff.1 hmark).resolve_left hprefix

/-- In a text with one `charset=`, a label counts if a `<meta` stands in front of it and no `>` in
between. -/
theorem metaLabelIn_of_single {front rest : List Char} (hfirst : ¬sign <:+: front)
    (honly : ¬sign <:+: rest) :
    metaLabelIn (front ++ (sign ++ rest)) =
      if mark <:+: front.rtakeWhile (· ≠ '>') then nonempty (labelAfter rest) else none := by
  have hopen : '>' ∉ front.rtakeWhile (· ≠ '>') := fun hmem => by
    simpa using List.mem_rtakeWhile_imp hmem
  have hinside : ¬sign <:+: front.rtakeWhile (· ≠ '>') := fun hmem =>
    hfirst (hmem.trans (List.rtakeWhile_suffix _ front).isInfix)
  obtain ⟨hsome, hnone⟩ := metaLabelIn_of_only hopen hinside honly
  -- What stands in front of the last `>` declares nothing.
  have hlast : metaLabelIn (front ++ (sign ++ rest)) =
      metaLabelIn (front.rtakeWhile (· ≠ '>') ++ (sign ++ rest)) := by
    have hsplit := List.rdropWhile_append_rtakeWhile (p := (· ≠ '>')) (l := front)
    rcases List.eq_nil_or_concat (front.rdropWhile (· ≠ '>')) with hnil | ⟨before, c, hconcat⟩
    · rw [hnil, List.nil_append] at hsplit
      rw [hsplit]
    · have hc : c = '>' := by
        have hnot := List.rdropWhile_last_not (· ≠ '>') front
        rw [hconcat] at hnot
        simpa using hnot
      have hbefore : ¬sign <:+: before := fun hmem => by
        refine hfirst (hmem.trans ⟨[], [c] ++ front.rtakeWhile (· ≠ '>'), ?_⟩)
        rw [List.nil_append, ← List.append_assoc, ← List.concat_eq_append, ← hconcat, hsplit]
      calc metaLabelIn (front ++ (sign ++ rest))
        _ = metaLabelIn (before ++ '>' :: (front.rtakeWhile (· ≠ '>') ++ (sign ++ rest))) := by
          nth_rewrite 1 [← hsplit]
          rw [hconcat, List.concat_eq_append, hc]
          simp only [List.append_assoc, List.cons_append, List.nil_append]
        _ = _ := by rw [metaLabelIn_append_gt, metaLabelIn_of_no_sign hbefore, Option.none_or]
  rw [hlast]
  split_ifs with hmark
  · exact hsome hmark
  · exact hnone hmark

/-! ## What opens a label -/

/-- A text after which `charset=` counts: it ends with a tag that begins with `<meta`, has no other
`charset=` and does not end. -/
structure Front where
  /-- What stands before the tag. -/
  before : List Char
  /-- What stands between `<meta` and `charset=`. -/
  inside : List Char
  inside_open : '>' ∉ inside
  inside_first : ¬sign <:+: inside

/-- The text. -/
def Front.start (f : Front) : List Char :=
  f.before ++ (mark ++ f.inside)

/-- A text after which a label may stand: that of a `charset=` that counts, with quotes and spaces. -/
structure Opening extends Front where
  /-- The quotes and spaces. -/
  gap : List Char
  gap_before : ∀ c ∈ gap, beforeLabel c = true

namespace Opening

/-- The text. -/
def text (o : Opening) : List Char :=
  o.start ++ (sign ++ o.gap)

/-- Nothing is declared before: a label that stands behind the text is the one that is found. -/
def IsFirst (o : Opening) : Prop :=
  metaLabelIn o.text = none ∧
    ∀ label rest, IsLabel label → EndsBefore rest → metaLabelIn (o.text ++ (label ++ rest)) = some label

/-- In the tag itself, `charset=` stands for the first time. -/
theorem no_sign_in_tag (o : Opening) : ¬sign <:+: mark ++ o.inside := fun h =>
  o.inside_first (Text.infix_of_head_not_mem (c := 'c') (w := "harset=".toList) h (by decide))

/-- The tag does not end before `charset=`. -/
theorem not_gt_mem (o : Opening) : '>' ∉ mark ++ o.inside := fun h =>
  (List.mem_append.1 h).elim (by decide) o.inside_open

/-- Quotes and spaces are no `charset=`. -/
theorem no_sign_in_gap (o : Opening) : ¬sign <:+: o.gap := fun h =>
  absurd (o.gap_before '=' (h.subset (by decide))) (by decide)

/-- Behind quotes and spaces alone there is no label. -/
theorem labelAfter_gap (o : Opening) : labelAfter o.gap = [] := by
  rw [labelAfter, List.dropWhile_eq_nil_iff.2 o.gap_before]
  rfl

/-- A tag at the beginning of a page is the first one. -/
theorem isFirst_of_before_nil (o : Opening) (h : o.before = []) : o.IsFirst := by
  have hstart : o.start = mark ++ o.inside := by rw [Front.start, h, List.nil_append]
  constructor
  · rw [text, hstart]
    by_cases hmark : mark <:+: mark ++ o.inside
    · rw [(metaLabelIn_of_only o.not_gt_mem o.no_sign_in_tag o.no_sign_in_gap).1 hmark,
        o.labelAfter_gap]
      rfl
    · exact (metaLabelIn_of_only o.not_gt_mem o.no_sign_in_tag o.no_sign_in_gap).2 hmark
  · intro label rest hlabel hrest
    have htag : tagLabel (o.text ++ (label ++ rest)) = some label := by
      rw [text, hstart, List.append_assoc, List.append_assoc sign,
        tagLabel_of_first (List.prefix_append _ _) o.not_gt_mem o.no_sign_in_tag,
        labelAfter_append o.gap_before hlabel hrest]
      exact (nonempty_eq_some_iff _ _).2 ⟨rfl, hlabel.1⟩
    have hcons : o.text ++ (label ++ rest) =
        '<' :: ("meta".toList ++ o.inside ++ (sign ++ o.gap) ++ (label ++ rest)) := by
      rw [text, hstart]
      rfl
    rw [hcons] at htag ⊢
    rw [metaLabelIn_cons, htag, Option.some_or]

/-- The same with one more character in front. -/
def cons (c : Char) (o : Opening) : Opening :=
  { o with before := c :: o.before }

/-- The text is at least as long as `<meta`. -/
theorem length_mark_le (o : Opening) : mark.length ≤ o.text.length := by
  rw [text, Front.start]
  simp only [List.length_append]
  omega

/-- A tag in front that has no label has none whatever follows. -/
theorem tagLabel_cons_text (o : Opening) {c : Char} {label rest : List Char} (hlabel : IsLabel label)
    (hrest : EndsBefore rest) (h : tagLabel (c :: o.text ++ (label ++ rest)) = none)
    (behind : List Char) : tagLabel (c :: o.text ++ behind) = none := by
  by_cases hprefix : mark <+: c :: o.text
  · by_cases hgt : '>' ∈ c :: o.text
    · -- The tag ends in front of the label.
      obtain ⟨inside, others, heq, -⟩ := List.eq_append_cons_of_mem hgt
      rw [heq, List.append_assoc, List.cons_append, tagLabel_append_gt] at h ⊢
      exact h
    · -- The tag has a `charset=` with an empty label, which something in front of the label ends.
      have hsign : sign <:+: c :: o.text :=
        List.infix_cons ⟨o.start, o.gap, List.append_assoc _ _ _⟩
      obtain ⟨front, empty, heq, hfirst⟩ := exists_first hsign
      rw [heq] at hprefix hgt h ⊢
      have hmark : mark <+: front :=
        Text.prefix_of_prefix_append_cons (c := 'c') (y := "harset=".toList ++ empty) hprefix
          (by decide)
      have hopen : '>' ∉ front := fun hmem => hgt (List.mem_append_left _ hmem)
      rw [List.append_assoc, List.append_assoc, tagLabel_of_first hmark hopen hfirst] at h ⊢
      by_cases hall : ∀ d ∈ empty, beforeLabel d = true
      · rw [labelAfter_append hall hlabel hrest, (nonempty_eq_some_iff _ _).2 ⟨rfl, hlabel.1⟩] at h
        cases h
      · rw [nonempty_eq_none_iff, labelAfter_append_eq_nil_iff_left hall] at h ⊢
        exact h
  · refine tagLabel_of_no_mark fun hp => hprefix ?_
    refine List.prefix_of_prefix_length_le hp (List.prefix_append _ _) ?_
    rw [List.length_cons]
    exact Nat.le_succ_of_le o.length_mark_le

/-- A tag in front that has no label leaves the opening the first one. -/
theorem isFirst_cons (o : Opening) {c : Char} {label rest : List Char} (hlabel : IsLabel label)
    (hrest : EndsBefore rest) (h : tagLabel (c :: o.text ++ (label ++ rest)) = none)
    (hfirst : o.IsFirst) : (o.cons c).IsFirst := by
  obtain ⟨hnone, hsome⟩ := hfirst
  refine ⟨?_, fun label' rest' hlabel' hrest' => ?_⟩
  · have htag := o.tagLabel_cons_text hlabel hrest h []
    rw [List.append_nil] at htag
    change metaLabelIn (c :: o.text) = none
    rw [metaLabelIn_cons, htag, hnone]
    rfl
  · have htag := o.tagLabel_cons_text hlabel hrest h (label' ++ rest')
    change metaLabelIn (c :: (o.text ++ (label' ++ rest'))) = some label'
    rw [metaLabelIn_cons, ← List.cons_append, htag, Option.none_or, hsome label' rest' hlabel' hrest']

end Opening

/-- A text goes on with a `>` behind the tag that it begins with, or ends there. -/
theorem endsBefore_dropWhile_gt (cs : List Char) : EndsBefore (cs.dropWhile (· ≠ '>')) := by
  intro c hc
  have hhead := List.head?_dropWhile_not (· ≠ '>') cs
  rw [Option.mem_def.1 hc] at hhead
  have : c = '>' := by simpa using hhead
  rw [this]
  decide

/-- What follows a label and does not end it is at its end. -/
theorem EndsBefore.append {first second : List Char} (hfirst : EndsBefore first)
    (hsecond : EndsBefore second) : EndsBefore (first ++ second) := by
  cases first with
  | nil => exact hsecond
  | cons c first => exact hfirst

/-- The tag that a text begins with opens its label. -/
theorem exists_opening_of_tagLabel {cs label : List Char} (h : tagLabel cs = some label) :
    ∃ (o : Opening) (rest : List Char), o.before = [] ∧ cs = o.text ++ (label ++ rest) ∧
      IsLabel label ∧ EndsBefore rest := by
  have hprefix : mark <+: cs := by
    by_contra hno
    rw [tagLabel_of_no_mark hno] at h
    cases h
  rw [tagLabel, if_pos (List.isPrefixOf_iff_prefix.2 hprefix), labelIn_eq_some_iff] at h
  obtain ⟨front, behind, htag, hfirst, hread, hne⟩ := h
  have hsplit : cs = cs.takeWhile (· ≠ '>') ++ cs.dropWhile (· ≠ '>') :=
    List.takeWhile_append_dropWhile.symm
  have hothers := endsBefore_dropWhile_gt cs
  have hopen : '>' ∉ cs.takeWhile (· ≠ '>') := fun hmem => by
    simpa using List.mem_takeWhile_imp hmem
  generalize cs.dropWhile (· ≠ '>') = others at hsplit hothers
  rw [htag] at hsplit hopen
  subst hsplit
  -- The tag begins with `<meta`, and all of that stands before its `charset=`.
  obtain ⟨inside, rfl⟩ : mark <+: front := by
    rw [List.append_assoc, List.append_assoc] at hprefix
    exact Text.prefix_of_prefix_append_cons (c := 'c')
      (y := "harset=".toList ++ (behind ++ others)) hprefix (by decide)
  obtain ⟨gap, rest, hbehind, hgap, hlabel, hends, -⟩ := labelAfter_spec behind
  rw [hread] at hbehind hlabel
  subst hbehind
  refine ⟨⟨⟨[], inside, fun hmem => hopen ?_, fun hmem => hfirst ?_⟩, gap, hgap⟩, rest ++ others, rfl,
    ?_, ⟨hne, hlabel⟩, hends.append hothers⟩
  · exact List.mem_append_left _ (List.mem_append_right _ hmem)
  · exact hmem.trans (List.suffix_append _ _).isInfix
  · rw [Opening.text, Front.start]
    simp only [List.nil_append, List.append_assoc]

/-- A label that is found stands behind an opening, which is the first one. -/
theorem exists_opening {cs label : List Char} (h : metaLabelIn cs = some label) :
    ∃ (o : Opening) (rest : List Char), cs = o.text ++ (label ++ rest) ∧ IsLabel label ∧
      EndsBefore rest ∧ o.IsFirst := by
  induction cs with
  | nil => cases h
  | cons c cs ih =>
    rw [metaLabelIn_cons] at h
    cases htag : tagLabel (c :: cs) with
    | some found =>
      rw [htag, Option.some_or] at h
      obtain ⟨o, rest, hbefore, heq, hlabel, hrest⟩ :=
        exists_opening_of_tagLabel (htag.trans h)
      exact ⟨o, rest, heq, hlabel, hrest, o.isFirst_of_before_nil hbefore⟩
    | none =>
      rw [htag, Option.none_or] at h
      obtain ⟨o, rest, rfl, hlabel, hrest, hfirst⟩ := ih h
      exact ⟨o.cons c, rest, rfl, hlabel, hrest, o.isFirst_cons hlabel hrest htag hfirst⟩

end MainContent.Page
