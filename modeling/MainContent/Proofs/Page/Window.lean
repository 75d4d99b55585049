import MainContent.Proofs.Page.Tag
import MainContent.Proofs.Text.Utf8

/-!
# The window in which a label is looked for

A label is looked for in the first 1024 bytes of a page, and these can end anywhere: in a tag, in a
label, in the middle of a character. `metaLabel_window` compares the label that is found there with
the one that is found in the whole page. There always is one, and it is the same unless the window
ends within it; then it is only the beginning of the label that the page declares.

The text of the window is the beginning of the text of the page, but for a character that is broken
off. So the opening of the label stands in both, and only what follows it may differ.
-/

namespace MainContent.Page

/-- The text in which a label is looked for. -/
def headText (body : List UInt8) : List Char :=
  Text.toLowerAscii (Text.Utf8.decodeLossy (body.take headBytes))

/-- The text of the whole page, in small letters too. -/
def pageText (body : List UInt8) : List Char :=
  Text.toLowerAscii (Text.Utf8.decodeLossy body)

/-- A label is looked for in the text of the head. -/
theorem metaLabel_eq (body : List UInt8) : metaLabel body = metaLabelIn (headText body) :=
  rfl

/-- Only ASCII characters end a label. -/
theorem toNat_lt_of_endsLabel {c : Char} (h : endsLabel c = true) : c.toNat < 0x80 := by
  simp only [endsLabel, Bool.or_eq_true, beq_iff_eq] at h
  rcases h with ((((rfl | rfl) | rfl) | rfl) | rfl) | rfl <;> decide

/-- Other characters have no small letter in ASCII. -/
theorem lowerAscii_of_le {c : Char} (h : 0x80 ≤ c.toNat) : Text.lowerAscii c = c := by
  have hz : ¬c ≤ 'Z' := fun hle => by
    have : c.toNat ≤ 'Z'.toNat := hle
    have hz : 'Z'.toNat = 90 := rfl
    omega
  rw [Text.lowerAscii, if_neg]
  simp [hz]

/-- The page goes on where the window ends, or the window has broken off a character. -/
def GoesOn (broken rest : List Char) : Prop :=
  broken = [] ∨ broken = ['\uFFFD'] ∧ ∃ c others, rest = c :: others ∧ endsLabel c = false

/-- The text of the head is the beginning of the text of the page. -/
theorem headText_pageText (body : List UInt8) :
    ∃ kept broken rest, headText body = kept ++ broken ∧ pageText body = kept ++ rest ∧
      GoesOn broken rest := by
  obtain ⟨kept, broken, rest, hhead, hpage, hrest⟩ := Text.Utf8.decodeLossy_take body headBytes
  refine ⟨Text.toLowerAscii kept, Text.toLowerAscii broken, Text.toLowerAscii rest, ?_, ?_, ?_⟩
  · rw [headText, hhead]
    exact List.map_append
  · rw [pageText, hpage]
    exact List.map_append
  · rcases hrest with rfl | ⟨rfl, c, others, rfl, hc⟩
    · exact .inl rfl
    · refine .inr ⟨rfl, c, Text.toLowerAscii others, ?_, ?_⟩
      · rw [Text.toLowerAscii, List.map_cons, lowerAscii_of_le hc, Text.toLowerAscii]
      · rw [← Bool.not_eq_true]
        exact fun hends => absurd (toNat_lt_of_endsLabel hends) (Nat.not_lt.2 hc)

/-- A label in the window ends there, and what ends it is in the page too, or it goes on to the end of
the window. -/
theorem opening_in_window {kept broken rest label : List Char} (hrest : GoesOn broken rest)
    (h : metaLabelIn (kept ++ broken) = some label) :
    ∃ o : Opening, o.IsFirst ∧ IsLabel label ∧
      ((∃ c behind, kept = o.text ++ (label ++ c :: behind) ∧ endsLabel c = true) ∨
        ∃ first, kept = o.text ++ first ∧ label = first ++ broken ∧
          IsLabel (first ++ rest.takeWhile (!endsLabel ·))) := by
  obtain ⟨o, behind, heq, hlabel, hends, hfirst⟩ := exists_opening h
  refine ⟨o, hfirst, hlabel, ?_⟩
  have htake : ∀ c ∈ rest.takeWhile (!endsLabel ·), endsLabel c = false := fun c hc => by
    simpa using List.mem_takeWhile_imp hc
  cases behind with
  | cons c behind =>
    have hc : endsLabel c = true := hends c rfl
    refine .inl ⟨c, ?_⟩
    rcases hrest with rfl | ⟨rfl, -, -⟩
    · exact ⟨behind, by rw [← heq, List.append_nil], hc⟩
    · -- The broken character comes last, and it ends no label.
      rcases List.eq_nil_or_concat behind with rfl | ⟨behind, d, rfl⟩
      · rw [← List.append_assoc] at heq
        have hlast : ['\uFFFD'] = [c] := List.append_inj_right' heq rfl
        rw [← (List.cons.inj hlast).1] at hc
        exact absurd hc (by decide)
      · rw [List.concat_eq_append, ← List.cons_append, ← List.append_assoc, ← List.append_assoc] at heq
        exact ⟨behind, by rw [← List.append_assoc]; exact List.append_inj_left' heq rfl, hc⟩
  | nil =>
    rw [List.append_nil] at heq
    refine .inr ?_
    rcases hrest with rfl | ⟨rfl, c, others, rfl, hc⟩
    · rw [List.append_nil] at heq
      refine ⟨label, heq, (List.append_nil label).symm, ?_, fun d hd => ?_⟩
      · exact fun hnil => hlabel.1 (List.append_eq_nil_iff.1 hnil).1
      · exact (List.mem_append.1 hd).elim (hlabel.2 d) (htake d)
    · obtain ⟨first, d, rfl⟩ := (List.eq_nil_or_concat label).resolve_left hlabel.1
      rw [List.concat_eq_append, ← List.append_assoc] at heq
      have hlast : ['\uFFFD'] = [d] := List.append_inj_right' heq rfl
      refine ⟨first, List.append_inj_left' heq rfl, by rw [List.concat_eq_append, hlast], ?_,
        fun e he => ?_⟩
      · rw [List.takeWhile_cons_of_pos (by rw [hc]; rfl)]
        exact fun hnil => absurd (List.append_eq_nil_iff.1 hnil).2 (List.cons_ne_nil _ _)
      · refine (List.mem_append.1 he).elim (fun hmem => hlabel.2 e ?_) (htake e)
        rw [List.concat_eq_append]
        exact List.mem_append_left _ hmem

/-- Where a label has been read to its end, it is declared by whatever stands in front of another copy
of it at the end of the text. -/
theorem Opening.IsFirst.before_copy {o : Opening} (hfirst : o.IsFirst)
    {label behind before : List Char} {c : Char} (hlabel : IsLabel label) (hc : endsLabel c = true)
    (h : o.text ++ label ++ c :: behind = before ++ label) : metaLabelIn before = some label := by
  -- What ends the label is in no copy of it.
  have hnot : c ∉ label := fun hmem => by
    have := hlabel.2 c hmem
    rw [hc] at this
    cases this
  rcases List.append_eq_append_iff.1 h with ⟨as, rfl, has⟩ | ⟨bs, -, hbs⟩
  · cases as with
    | nil =>
      rw [List.nil_append] at has
      exact absurd (has ▸ List.mem_cons_self) hnot
    | cons d as =>
      rw [List.append_assoc]
      refine hfirst.2 label _ hlabel fun e he => ?_
      cases he
      rw [← (List.cons.inj has).1]
      exact hc
  · exact absurd (hbs ▸ List.mem_append_right bs List.mem_cons_self) hnot

/-! ## Pages that begin with spaces -/

/-- A page of ASCII behind some spaces. -/
def spaced (n : Nat) (text : String) : List UInt8 :=
  List.replicate n 0x20 ++ Text.Utf8.encode text.toList

/-- Spaces and ASCII are read as they are. -/
theorem lowered_spaces (n : Nat) (bs : List UInt8) (h : ∀ b ∈ bs, b < 0x80) :
    Text.toLowerAscii (Text.Utf8.decodeLossy (List.replicate n 0x20 ++ bs)) =
      List.replicate n ' ' ++ Text.toLowerAscii (bs.map fun b => Char.ofNat b.toNat) := by
  have hascii : ∀ b ∈ List.replicate n 0x20 ++ bs, b < 0x80 := by
    intro b hb
    rcases List.mem_append.1 hb with hb | hb
    · rw [List.eq_of_mem_replicate hb]
      decide
    · exact h b hb
  rw [Text.Utf8.decodeLossy, Text.Utf8.read_of_ascii _ hascii, List.map_map, Text.toLowerAscii,
    List.map_append, List.map_append, List.map_replicate, List.map_replicate, Text.toLowerAscii]
  rfl

/-- Spaces in front of a tag declare nothing. -/
theorem metaLabelIn_spaces (n : Nat) (rest : List Char) :
    metaLabelIn (List.replicate n ' ' ++ (mark ++ rest)) = metaLabelIn (mark ++ rest) := by
  refine metaLabelIn_append_mark (fun h => ?_) rest
  have hmem : '<' ∈ List.replicate n ' ' := h.subset (by decide)
  exact absurd (List.eq_of_mem_replicate hmem) (by decide)

/-- The head of a page behind fewer than 1024 spaces. -/
theorem headText_spaced {n : Nat} (hn : n ≤ 1024) (text : String)
    (h : ∀ b ∈ Text.Utf8.encode text.toList, b < 0x80) :
    headText (spaced n text) = List.replicate n ' ' ++
      Text.toLowerAscii (((Text.Utf8.encode text.toList).take (1024 - n)).map fun b =>
        Char.ofNat b.toNat) := by
  rw [headText, spaced, headBytes, List.take_append, List.length_replicate, List.take_replicate,
    Nat.min_eq_right hn]
  exact lowered_spaces n _ fun b hb => h b (List.mem_of_mem_take hb)

/-! ## The window and the page -/

/-- A label that has been found in the window is the beginning of one that the whole page declares.
The two are the same unless the window ends within the label: unless the head ends with it, declares
nothing before it, and the page goes on there with what does not end a label. -/
theorem metaLabel_window (body : List UInt8) (label : List Char) (h : metaLabel body = some label) :
    (∃ whole, metaLabelIn (pageText body) = some whole ∧
      (label <+: whole ∨ ∃ first, label = first ++ ['\uFFFD'] ∧ first <+: whole)) ∧
    (metaLabelIn (pageText body) = some label ↔
      ∀ before, headText body = before ++ label → metaLabelIn before = none →
        ∃ behind, pageText body = headText body ++ behind ∧ EndsBefore behind) := by
  obtain ⟨kept, broken, rest, hhead, hpage, hrest⟩ := headText_pageText body
  rw [metaLabel_eq, hhead] at h
  rw [hhead, hpage]
  obtain ⟨o, hfirst, hlabel, ⟨c, behind, rfl, hc⟩ | ⟨first, rfl, rfl, hlonger⟩⟩ :=
    opening_in_window hrest h
  · -- The label has been read to its end.
    have hsame : metaLabelIn (o.text ++ (label ++ c :: behind) ++ rest) = some label := by
      rw [List.append_assoc, List.append_assoc, List.cons_append]
      exact hfirst.2 label _ hlabel fun d hd => by cases hd; exact hc
    refine ⟨⟨label, hsame, .inl (List.prefix_refl label)⟩, fun _ before heq hnone => ?_,
      fun _ => hsame⟩
    rw [List.append_assoc, List.append_assoc, List.cons_append, ← List.append_assoc] at heq
    rw [hfirst.before_copy hlabel hc heq] at hnone
    cases hnone
  · -- The label goes on to the end of the window, and then as far as the page goes on with it.
    have hwhole : metaLabelIn (o.text ++ first ++ rest) =
        some (first ++ rest.takeWhile (!endsLabel ·)) := by
      have hread := hfirst.2 _ _ hlonger (endsBefore_dropWhile rest)
      rwa [List.append_assoc first, List.takeWhile_append_dropWhile, ← List.append_assoc] at hread
    refine ⟨⟨_, hwhole, ?_⟩, fun hsame before _ _ => ?_, fun hgoes => ?_⟩
    · rcases hrest with rfl | ⟨rfl, -, -⟩
      · rw [List.append_nil]
        exact .inl (List.prefix_append _ _)
      · exact .inr ⟨first, rfl, List.prefix_append _ _⟩
    · rw [hwhole] at hsame
      have hbroken : rest.takeWhile (!endsLabel ·) = broken :=
        List.append_cancel_left (Option.some.inj hsame)
      refine ⟨rest.dropWhile (!endsLabel ·), ?_, endsBefore_dropWhile rest⟩
      rw [← hbroken, List.append_assoc (o.text ++ first), List.takeWhile_append_dropWhile]
    · obtain ⟨behind, hbehind, hends⟩ := hgoes o.text (List.append_assoc _ _ _) hfirst.1
      rw [hbehind, List.append_assoc, List.append_assoc, ← List.append_assoc first]
      exact hfirst.2 _ _ hlabel hends

/-- A label that ends with the window is the one that the page declares, since the tag ends there. -/
theorem metaLabel_window_edge :
    metaLabel (spaced 999 "<meta charset=iso-8859-15><p>News</p>") = some "iso-8859-15".toList ∧
    metaLabelIn (pageText (spaced 999 "<meta charset=iso-8859-15><p>News</p>")) =
      some "iso-8859-15".toList := by
  have htext : (∀ b ∈ Text.Utf8.encode "<meta charset=iso-8859-15><p>News</p>".toList, b < 0x80) ∧
      Text.toLowerAscii (((Text.Utf8.encode "<meta charset=iso-8859-15><p>News</p>".toList).take
        (1024 - 999)).map fun b => Char.ofNat b.toNat) = mark ++ " charset=iso-8859-15".toList ∧
      Text.toLowerAscii ((Text.Utf8.encode "<meta charset=iso-8859-15><p>News</p>".toList).map fun b =>
        Char.ofNat b.toNat) = mark ++ " charset=iso-8859-15".toList ++ "><p>news</p>".toList ∧
      metaLabelIn (mark ++ " charset=iso-8859-15".toList) = some "iso-8859-15".toList := by
    decide +kernel
  obtain ⟨hascii, hhead, hpage, hlabel⟩ := htext
  have hfound : metaLabel (spaced 999 "<meta charset=iso-8859-15><p>News</p>") =
      some "iso-8859-15".toList := by
    rw [metaLabel_eq, headText_spaced (by decide) _ hascii, hhead, metaLabelIn_spaces, hlabel]
  refine ⟨hfound, (metaLabel_window _ _ hfound).2.2 fun _ _ _ => ⟨"><p>news</p>".toList, ?_, ?_⟩⟩
  · rw [headText_spaced (by decide) _ hascii, hhead, pageText, spaced, lowered_spaces _ _ hascii,
      hpage]
    exact (List.append_assoc _ _ _).symm
  · exact fun c hc => by cases hc; decide

/-- The window makes another label of one that goes on behind it, and the label that it makes names
another encoding. -/
theorem metaLabel_window_cut :
    metaLabel (spaced 1003 "<meta charset=unicode-1-1-utf-8><p>News</p>") =
      some "unicode".toList ∧
    metaLabelIn (pageText (spaced 1003 "<meta charset=unicode-1-1-utf-8><p>News</p>")) =
      some "unicode-1-1-utf-8".toList ∧
    Encoding.ofLabel? "unicode".toList = some (.utf16 .little) ∧
    Encoding.ofLabel? "unicode-1-1-utf-8".toList = some .utf8 := by
  have htext :
      (∀ b ∈ Text.Utf8.encode "<meta charset=unicode-1-1-utf-8><p>News</p>".toList, b < 0x80) ∧
      Text.toLowerAscii (((Text.Utf8.encode "<meta charset=unicode-1-1-utf-8><p>News</p>".toList).take
        (1024 - 1003)).map fun b => Char.ofNat b.toNat) = mark ++ " charset=unicode".toList ∧
      Text.toLowerAscii ((Text.Utf8.encode "<meta charset=unicode-1-1-utf-8><p>News</p>".toList).map
        fun b => Char.ofNat b.toNat) = mark ++ " charset=unicode-1-1-utf-8><p>news</p>".toList ∧
      metaLabelIn (mark ++ " charset=unicode".toList) = some "unicode".toList ∧
      metaLabelIn (mark ++ " charset=unicode-1-1-utf-8><p>news</p>".toList) =
        some "unicode-1-1-utf-8".toList ∧
      Encoding.ofLabel? "unicode".toList = some (.utf16 .little) ∧
      Encoding.ofLabel? "unicode-1-1-utf-8".toList = some .utf8 := by
    decide +kernel
  obtain ⟨hascii, hhead, hpage, hcut, hwhole, hwide, hutf8⟩ := htext
  refine ⟨?_, ?_, hwide, hutf8⟩
  · rw [metaLabel_eq, headText_spaced (by decide) _ hascii, hhead, metaLabelIn_spaces, hcut]
  · rw [pageText, spaced, lowered_spaces _ _ hascii, hpage, metaLabelIn_spaces, hwhole]

end MainContent.Page
