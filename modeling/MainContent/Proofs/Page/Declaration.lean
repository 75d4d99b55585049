import MainContent.Proofs.Page.Attribute
import MainContent.Proofs.Page.Window

/-!
# What a page declares

By the rules of HTML a page declares its encoding in a `meta` tag: as the value of an attribute
`charset`, or of the parameter `charset` in its `content`, where its `http-equiv` says that this is
the content type. Here the label that is found is compared with these rules.

`metaLabel_of_charsetTag` is about a head that begins with such an attribute: what is found is its
value where this is plain, and else the value with what stands around it, or a part of it.
`metaLabel_declares` is about any page: what is found has been declared where the name of an
attribute could begin, and not behind the end of another name or in some other text.
-/

namespace MainContent.Page

open MainContent.Text (isAsciiBlank strip toLowerAscii)

/-! ## A tag with a `charset` attribute -/

/-- A `meta` tag as it is written in a page, up to the `>` that ends it, with an attribute `charset`
that has the only `charset=` in it. -/
structure CharsetTag where
  /-- `<meta`, in letters of either case. -/
  opening : List Char
  /-- What stands in front of the attribute. -/
  inside : List Char
  /-- `charset=`, in letters of either case. -/
  name : List Char
  /-- The value of the attribute and the rest of the tag. -/
  behind : List Char
  opening_small : toLowerAscii opening = mark
  name_small : toLowerAscii name = sign
  awaited : (readTag (toLowerAscii inside)).awaitsName = true
  ended : (readTag (toLowerAscii (inside ++ (name ++ behind)))).mayEnd = true
  only_inside : ¬sign <:+: toLowerAscii inside
  only_behind : ¬sign <:+: toLowerAscii behind

namespace CharsetTag

/-- The text of the tag, without the `>`. -/
def text (tag : CharsetTag) : List Char :=
  tag.opening ++ (tag.inside ++ (tag.name ++ tag.behind))

/-- The value of the attribute, as it is written. -/
def value (tag : CharsetTag) : List Char :=
  (ValueText.ofAttribute tag.behind).value

/-- The value with what stands around it, in small letters. -/
def written (tag : CharsetTag) : ValueText :=
  ValueText.ofAttribute (toLowerAscii tag.behind)

/-- The label that the tag declares. -/
def label (tag : CharsetTag) : Option (List Char) :=
  metaLabelIn (toLowerAscii tag.text)

/-- No `>` stands between the attribute and the last `<meta` in front of it. -/
def IsOpen (tag : CharsetTag) : Prop :=
  mark <:+: (mark ++ toLowerAscii tag.inside).rtakeWhile (· ≠ '>')

instance (tag : CharsetTag) : Decidable tag.IsOpen :=
  inferInstanceAs (Decidable (_ <:+: _))

/-- The text in small letters. -/
theorem toLowerAscii_text (tag : CharsetTag) :
    toLowerAscii tag.text =
      mark ++ toLowerAscii tag.inside ++ (sign ++ toLowerAscii tag.behind) := by
  rw [← tag.opening_small, ← tag.name_small]
  simp only [text, Text.toLowerAscii_append, List.append_assoc]

/-- The label is read behind the one `charset=`, if the tag is open. -/
theorem label_eq (tag : CharsetTag) :
    tag.label = if tag.IsOpen then nonempty (labelAfter (toLowerAscii tag.behind)) else none := by
  have hfirst : ¬sign <:+: mark ++ toLowerAscii tag.inside := fun h =>
    tag.only_inside (Text.infix_of_head_not_mem (c := 'c') (w := "harset=".toList) h (by decide))
  rw [label, toLowerAscii_text, metaLabelIn_of_single hfirst tag.only_behind]
  rfl

/-- The value in small letters. -/
theorem written_value (tag : CharsetTag) : tag.written.value = toLowerAscii tag.value :=
  ValueText.value_read_toLowerAscii endsAttribute_lowerAscii tag.behind

theorem strip_written_value (tag : CharsetTag) :
    strip isAsciiBlank tag.written.value = toLowerAscii (strip isAsciiBlank tag.value) := by
  rw [written_value, Text.strip_toLowerAscii Text.isAsciiBlank_lowerAscii]

theorem toLowerAscii_behind (tag : CharsetTag) : toLowerAscii tag.behind = tag.written.text :=
  (ValueText.text_ofAttribute _).symm

theorem isSetOff_written (tag : CharsetTag) : tag.written.IsSetOff :=
  ValueText.isSetOff_ofAttribute _

/-- Before the `>` of the tag, its label counts, and then those that follow. -/
theorem metaLabelIn_append (tag : CharsetTag) {before : List Char} (hfirst : ¬mark <:+: before)
    (rest : List Char) :
    metaLabelIn (before ++ toLowerAscii tag.text ++ '>' :: rest) = tag.label.or (metaLabelIn rest) := by
  rw [metaLabelIn_append_gt, label, tag.toLowerAscii_text, List.append_assoc mark,
    metaLabelIn_append_mark hfirst]

/-- The label is the value, exactly if the tag is open and the value is plain. -/
theorem label_is_value_iff (tag : CharsetTag) (hne : strip isAsciiBlank tag.value ≠ []) :
    (∃ label, tag.label = some label ∧
        strip isAsciiBlank label = toLowerAscii (strip isAsciiBlank tag.value)) ↔
      tag.IsOpen ∧ tag.written.Plain := by
  have hne' : strip isAsciiBlank tag.written.value ≠ [] := by
    rw [tag.strip_written_value]
    exact fun h => hne (List.map_eq_nil_iff.1 h)
  rw [tag.label_eq, ← tag.strip_written_value, tag.toLowerAscii_behind,
    ← ValueText.strip_labelAfter_iff tag.isSetOff_written hne']
  by_cases hopen : tag.IsOpen
  · simp only [hopen, if_true, true_and]
    constructor
    · rintro ⟨label, hlabel, hstrip⟩
      rw [((nonempty_eq_some_iff _ _).1 hlabel).1]
      exact hstrip
    · intro hstrip
      refine ⟨_, (nonempty_eq_some_iff _ _).2 ⟨rfl, fun hnil => hne' ?_⟩, hstrip⟩
      rw [← hstrip, hnil]
      rfl
  · simp only [hopen, if_false, false_and, iff_false]
    rintro ⟨label, hlabel, -⟩
    cases hlabel

/-- A value that is empty but for blanks leaves the tag without a label, exactly if the tag is not
open or the value is set off by quotes and spaces and no label follows it. -/
theorem label_eq_none_iff (tag : CharsetTag) (hblank : strip isAsciiBlank tag.value = []) :
    tag.label = none ↔
      (tag.IsOpen → (∀ c ∈ tag.written.before ++ tag.written.value, beforeLabel c = true) ∧
        labelAfter tag.written.behind = []) := by
  have hblank' : strip isAsciiBlank tag.written.value = [] := by
    rw [tag.strip_written_value, hblank]
    rfl
  rw [tag.label_eq, tag.toLowerAscii_behind,
    ← ValueText.labelAfter_eq_nil_iff tag.isSetOff_written hblank']
  by_cases hopen : tag.IsOpen
  · simp only [hopen, if_true, forall_const, nonempty_eq_none_iff]
  · simp only [hopen, if_false, false_implies]

end CharsetTag

/-- In a head whose first `<meta` begins a tag with a `charset` attribute, the tag has its say before
what follows it. Its label is the value of the attribute in small letters, but for blanks around
them, exactly if the tag is open and the value is plain; and where the value is empty but for blanks,
the tag has no label exactly if it is not open, or the value is set off by quotes and spaces and no
label follows it. -/
theorem metaLabel_of_charsetTag (body : List UInt8) (tag : CharsetTag) (before rest : List Char)
    (hhead : Text.Utf8.decodeLossy (body.take headBytes) = before ++ (tag.text ++ '>' :: rest))
    (hfirst : ¬mark <:+: toLowerAscii before) :
    metaLabel body = tag.label.or (metaLabelIn (toLowerAscii rest)) ∧
    (strip isAsciiBlank tag.value ≠ [] →
      ((∃ label, tag.label = some label ∧
          strip isAsciiBlank label = toLowerAscii (strip isAsciiBlank tag.value)) ↔
        tag.IsOpen ∧ tag.written.Plain)) ∧
    (strip isAsciiBlank tag.value = [] →
      (tag.label = none ↔
        (tag.IsOpen → (∀ c ∈ tag.written.before ++ tag.written.value, beforeLabel c = true) ∧
          labelAfter tag.written.behind = []))) := by
  refine ⟨?_, tag.label_is_value_iff, tag.label_eq_none_iff⟩
  have hsmall : headText body =
      toLowerAscii before ++ toLowerAscii tag.text ++ '>' :: toLowerAscii rest := by
    rw [headText, hhead, Text.toLowerAscii_append, Text.toLowerAscii_append, List.append_assoc]
    rfl
  rw [metaLabel_eq, hsmall, tag.metaLabelIn_append hfirst]

/-- A tag with a quoted value, in letters of either case, with attributes on both sides. -/
def quotedTag : CharsetTag where
  opening := "<META".toList
  inside := "\nname=viewport ".toList
  name := "CharSet=".toList
  behind := "' ISO-8859-2' content='x>y'".toList
  opening_small := by decide
  name_small := by decide
  awaited := by decide
  ended := by decide
  only_inside := by decide
  only_behind := by decide

/-- The label of that tag is the value without the blank, in small letters. -/
theorem metaLabel_of_charsetTag_quoted :
    ∃ label, metaLabel (Text.Utf8.encode
        "<title>News</title><META\nname=viewport CharSet=' ISO-8859-2' content='x>y'><p>".toList) =
      some label ∧ strip isAsciiBlank label = "iso-8859-2".toList := by
  have hhead : Text.Utf8.decodeLossy ((Text.Utf8.encode
      "<title>News</title><META\nname=viewport CharSet=' ISO-8859-2' content='x>y'><p>".toList).take
        headBytes) = "<title>News</title>".toList ++ (quotedTag.text ++ '>' :: "<p>".toList) := by
    decide +kernel
  obtain ⟨hlabel, hvalue, -⟩ := metaLabel_of_charsetTag _ quotedTag _ _ hhead (by decide +kernel)
  obtain ⟨label, htag, hstrip⟩ :=
    (hvalue (by decide +kernel)).2 ⟨by decide +kernel, by decide +kernel⟩
  refine ⟨label, by rw [hlabel, htag, Option.some_or], hstrip.trans (by decide +kernel)⟩

/-- A tag with a value without quotes and an attribute on the next line. -/
def brokenTag : CharsetTag where
  opening := "<meta".toList
  inside := " ".toList
  name := "charset=".toList
  behind := "iso-8859-1\nname=viewport".toList
  opening_small := by decide
  name_small := by decide
  awaited := by decide
  ended := by decide
  only_inside := by decide
  only_behind := by decide

/-- A page of Latin letters with that tag. -/
def latinPage : List UInt8 :=
  Text.Utf8.encode "<meta charset=iso-8859-1\nname=viewport><p>caf".toList ++
    0xE9 :: Text.Utf8.encode "</p>".toList

/-- A line break does not end a label: it goes on with the next attribute, and names no encoding
then. -/
theorem metaLabel_over_lines :
    Text.Utf8.decodeLossy (latinPage.take headBytes) =
      brokenTag.text ++ '>' :: "<p>caf\uFFFD</p>".toList ∧
    brokenTag.value = "iso-8859-1".toList ∧
    metaLabel latinPage = some "iso-8859-1\nname=viewport".toList ∧
    Encoding.ofLabel? "iso-8859-1\nname=viewport".toList = none ∧
    Encoding.ofLabel? brokenTag.value = some (.single .windows1252) := by
  decide +kernel

/-! ## Where a label stands -/

/-- A label is the value of an attribute or a parameter, but for blanks around them. -/
def IsValue (label : List Char) (v : ValueText) : Prop :=
  strip isAsciiBlank v.value ≠ [] ∧ strip isAsciiBlank label = strip isAsciiBlank v.value

/-- A value is there and plain. -/
def IsLegible (v : ValueText) : Prop :=
  strip isAsciiBlank v.value ≠ [] ∧ v.Plain

instance (v : ValueText) : Decidable (IsLegible v) :=
  inferInstanceAs (Decidable (_ ∧ _))

/-- What is read where a value stands is that value exactly if it is there and plain. -/
theorem isValue_labelAfter_iff {v : ValueText} (hset : v.IsSetOff) :
    IsValue (labelAfter v.text) v ↔ IsLegible v :=
  and_congr_right fun hne => ValueText.strip_labelAfter_iff hset hne

/-- A tag has an attribute with a value, in small letters. -/
def Carries (tag name value : List Char) : Prop :=
  ∃ before behind, tag = before ++ behind ∧ readTag before = .beforeValue name ∧
    (ValueText.ofAttribute behind).value = value

namespace Front

/-- The rest of the tag, and of the page, from behind `<meta`. -/
def tag (f : Front) (behind : List Char) : List Char :=
  f.inside ++ (sign ++ behind)

/-- Where in the tag a reader stands behind `charset=`. -/
def state (f : Front) : TagState :=
  readTag (f.inside ++ sign)

/-- The tag is that of a `meta` element, and `charset=` stands in the value of its `content`, which
says what the content type is. -/
structure InContent (f : Front) (behind : List Char) : Prop where
  ended : readTag (f.tag behind) = .ended
  content : f.state.valueOf? = some "content".toList
  httpEquiv : Carries (f.tag behind) "http-equiv".toList "content-type".toList
  closed : (ValueText.ofParameter f.state behind).isClosed = true

/-- The tag is that of a `meta` element, and `charset=` names an attribute of it. -/
structure InAttribute (f : Front) (behind : List Char) : Prop where
  ended : readTag (f.tag behind) = .ended
  name : f.state = .beforeValue "charset".toList

/-- The page declares a label where its `charset=` stands. -/
def Declares (f : Front) (behind label : List Char) : Prop :=
  f.InAttribute behind ∧ IsValue label (ValueText.ofAttribute behind) ∨
    f.InContent behind ∧ IsValue label (ValueText.ofParameter f.state behind)

/-- What is read as a label is declared exactly where a name may begin in a `meta` tag, or in the
`content` of one that says what the content type is, and where the value is there and plain. -/
theorem declares_iff (f : Front) (behind : List Char) :
    f.Declares behind (labelAfter behind) ↔
      (readTag (f.tag behind) = .ended ∧ (readTag f.inside).awaitsName = true) ∧
          IsLegible (ValueText.ofAttribute behind) ∨
        f.InContent behind ∧ IsLegible (ValueText.ofParameter f.state behind) := by
  have hattribute := isValue_labelAfter_iff (ValueText.isSetOff_ofAttribute behind)
  have hparameter := isValue_labelAfter_iff (ValueText.isSetOff_ofParameter f.state behind)
  rw [ValueText.text_ofAttribute] at hattribute
  rw [ValueText.text_ofParameter] at hparameter
  have hname : f.InAttribute behind ↔
      readTag (f.tag behind) = .ended ∧ (readTag f.inside).awaitsName = true :=
    ⟨fun h => ⟨h.ended, (readTag_sign_iff f.inside).1 h.name⟩,
      fun h => ⟨h.1, (readTag_sign_iff f.inside).2 h.2⟩⟩
  rw [Declares, hattribute, hparameter, hname]

end Front

/-- How a label has been found in a page: behind a `charset=` in the head, where nothing has been declared
before. The whole page has the label that stands there. -/
structure Find (body : List UInt8) where
  front : Front
  behind : List Char
  page : pageText body = front.start ++ (sign ++ behind)
  in_head : front.start ++ sign <+: headText body
  first : metaLabelIn (front.start ++ sign) = none
  label : metaLabelIn (pageText body) = some (labelAfter behind)

/-- Quotes and spaces at the end of a text do not take back what it has declared. -/
theorem metaLabelIn_of_append_gap {cs gap : List Char} (hgap : ∀ c ∈ gap, beforeLabel c = true)
    (h : metaLabelIn (cs ++ gap) = none) : metaLabelIn cs = none := by
  cases hread : metaLabelIn cs with
  | none => rfl
  | some label =>
    obtain ⟨o, rest, rfl, hlabel, hrest, hfirst⟩ := exists_opening hread
    have hends : EndsBefore gap := fun c hc =>
      endsLabel_of_beforeLabel (hgap c (List.mem_of_mem_head? hc))
    rw [List.append_assoc, List.append_assoc, hfirst.2 label _ hlabel (hrest.append hends)] at h
    cases h

/-- A label that is found in the head has been found in the page, by a `charset=` that stands in the
head. -/
theorem exists_find {body : List UInt8} {label : List Char} (h : metaLabel body = some label) :
    Nonempty (Find body) := by
  -- What opens the label in the head stands in the page too, and decides there as well.
  obtain ⟨kept, broken, rest, hhead, hpage, hrest⟩ := headText_pageText body
  rw [metaLabel_eq, hhead] at h
  obtain ⟨o, hfirst, hlabel, hread⟩ := opening_in_window hrest h
  have hnone : metaLabelIn (o.start ++ sign) = none := by
    refine metaLabelIn_of_append_gap o.gap_before ?_
    rw [List.append_assoc]
    exact hfirst.1
  -- Either the label has been read to its end, or the page goes on with it.
  obtain ⟨found, behind, hkept, hfound, hends⟩ : ∃ found behind,
      kept ++ rest = o.text ++ (found ++ behind) ∧ IsLabel found ∧ EndsBefore behind := by
    rcases hread with ⟨c, behind, rfl, hc⟩ | ⟨first, rfl, -, hlonger⟩
    · refine ⟨label, c :: behind ++ rest, ?_, hlabel, fun d hd => by cases hd; exact hc⟩
      simp only [List.append_assoc]
    · refine ⟨_, rest.dropWhile (!endsLabel ·), ?_, hlonger, endsBefore_dropWhile rest⟩
      rw [List.append_assoc first, List.takeWhile_append_dropWhile, List.append_assoc]
  have hstart : o.start ++ sign <+: kept := by
    rcases hread with ⟨c, behind, rfl, -⟩ | ⟨first, rfl, -, -⟩
    · exact ⟨o.gap ++ (label ++ c :: behind), by simp only [Opening.text, List.append_assoc]⟩
    · exact ⟨o.gap ++ first, by simp only [Opening.text, List.append_assoc]⟩
  have htext : pageText body = o.start ++ (sign ++ (o.gap ++ (found ++ behind))) := by
    rw [hpage, hkept, Opening.text]
    simp only [List.append_assoc]
  refine ⟨⟨o.toFront, o.gap ++ (found ++ behind), htext, ?_, hnone, ?_⟩⟩
  · rw [hhead]
    exact hstart.trans (List.prefix_append kept broken)
  · rw [labelAfter_append o.gap_before hfound hends, hpage, hkept]
    exact hfirst.2 found behind hfound hends

/-- A label that is found, and that the window does not cut, is one that the page declares where it
has been found exactly if that is in a `meta` tag that ends, either where the name of an attribute
may begin or in the `content` of a tag that says what the content type is, and the value there is
plain. -/
theorem metaLabel_declares (body : List UInt8) (label : List Char) (h : metaLabel body = some label) :
    ∃ find : Find body, metaLabelIn (pageText body) = some label →
      (find.front.Declares find.behind label ↔
        (readTag (find.front.tag find.behind) = .ended ∧
            (readTag find.front.inside).awaitsName = true) ∧
          IsLegible (ValueText.ofAttribute find.behind) ∨
        find.front.InContent find.behind ∧
          IsLegible (ValueText.ofParameter find.front.state find.behind)) := by
  obtain ⟨find⟩ := exists_find h
  refine ⟨find, fun hwhole => ?_⟩
  have hsame : labelAfter find.behind = label := Option.some.inj (find.label.symm.trans hwhole)
  rw [← hsame]
  exact find.front.declares_iff find.behind

/-- A page that declares its encoding as a content type. -/
def declaredPage : List UInt8 :=
  Text.Utf8.encode
    "<meta content=\"text/html; charset=ISO-8859-2\" http-equiv='Content-Type'><p>News</p>".toList

/-- Its text. -/
def declaredText : List Char :=
  "<meta content=\"text/html; charset=iso-8859-2\" http-equiv='content-type'><p>news</p>".toList

/-- The label of that page is one that it declares. -/
theorem metaLabel_declares_content :
    metaLabel declaredPage = some "iso-8859-2".toList ∧
    ∃ find : Find declaredPage, find.front.Declares find.behind "iso-8859-2".toList := by
  have hread : headText declaredPage = declaredText ∧ pageText declaredPage = declaredText := by
    decide +kernel
  have hfound : metaLabelIn declaredText = some "iso-8859-2".toList := by decide
  have hlabel : metaLabel declaredPage = some "iso-8859-2".toList := by
    rw [metaLabel_eq, hread.1, hfound]
  obtain ⟨find, hiff⟩ := metaLabel_declares declaredPage _ hlabel
  refine ⟨hlabel, find, (hiff (by rw [hread.2, hfound])).2 (.inr ?_)⟩
  -- There is only one place where the label can have been found.
  obtain ⟨hstart, hbehind⟩ := Text.eq_of_places_eq_singleton (n := 26) (by decide)
    (show Text.places sign declaredText = [26] by decide) (hread.2.symm.trans find.page)
  obtain ⟨-, hinside⟩ := Text.eq_of_places_eq_singleton (n := 0) (by decide)
    (show Text.places mark (declaredText.take 26) = [0] by decide) hstart.symm
  have htext : find.front.inside = " content=\"text/html; ".toList ∧
      find.behind = "iso-8859-2\" http-equiv='content-type'><p>news</p>".toList := by
    rw [hinside, hbehind]
    decide
  have hequiv : Carries (" content=\"text/html; ".toList ++
        (sign ++ "iso-8859-2\" http-equiv='content-type'><p>news</p>".toList))
      "http-equiv".toList "content-type".toList :=
    ⟨" content=\"text/html; charset=iso-8859-2\" http-equiv=".toList,
      "'content-type'><p>news</p>".toList, by decide⟩
  constructor
  · constructor
    · rw [Front.tag, htext.1, htext.2]
      decide
    · rw [Front.state, htext.1]
      decide
    · rw [Front.tag, htext.1, htext.2]
      exact hequiv
    · rw [Front.state, htext.1, htext.2]
      decide
  · rw [Front.state, htext.1, htext.2]
    decide

/-- A page with a tag whose name only begins with `meta`. -/
def metadataPage : List UInt8 :=
  Text.Utf8.encode "<metadata charset=latin1><p>café</p>".toList

/-- A label is found there, though no place in the page declares one. -/
theorem metaLabel_of_longer_name :
    metaLabel metadataPage = some "latin1".toList ∧
    Encoding.ofLabel? "latin1".toList = some (.single .windows1252) ∧
    ∀ (f : Front) (behind label : List Char), pageText metadataPage = f.start ++ (sign ++ behind) →
      ¬f.Declares behind label := by
  have hread : headText metadataPage = "<metadata charset=latin1><p>café</p>".toList ∧
      pageText metadataPage = "<metadata charset=latin1><p>café</p>".toList := by decide +kernel
  refine ⟨by rw [metaLabel_eq, hread.1]; decide, by decide +kernel,
    fun f behind label hpage hdeclares => ?_⟩
  have hsplit : "<metadata charset=latin1><p>café</p>".toList =
      f.before ++ (mark ++ f.tag behind) := by
    rw [← hread.2, hpage, Front.start, Front.tag]
    simp only [List.append_assoc]
  obtain ⟨-, htag⟩ := Text.eq_of_places_eq_singleton (n := 0) (by decide)
    (show Text.places mark "<metadata charset=latin1><p>café</p>".toList = [0] by decide) hsplit
  have hended : readTag (f.tag behind) = .ended :=
    hdeclares.elim (fun h => h.1.ended) (fun h => h.1.ended)
  rw [htag] at hended
  exact absurd hended (by decide)

end MainContent.Page
