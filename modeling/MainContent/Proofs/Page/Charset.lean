import Mathlib.Tactic.SplitIfs
import MainContent.Page.Charset
import MainContent.Proofs.Encoding.Ascii

/-!
# The choice of a page's encoding

The encoding in which a page is read depends on its content type and on the first bytes of the page.
`encodingOf_eq` states the order in which they are asked, and `encodingOf_decided` what follows for two
pages that agree there: nothing that stands later in a page changes its encoding, and nothing but a
byte-order mark does where the content type has a label.

A declaration within a page is looked for before the encoding of the page is known, as if it were
ASCII. `decode_of_isPlain` says what comes of that for a page of ASCII: its text is what it is, unless
the declaration names UTF-16, in which no declaration could have been found.
-/

namespace MainContent.Encoding

/-! ## Byte-order marks -/

/-- A mark is told from the first three bytes. -/
theorem splitMark_cons (a b c : UInt8) (rest : List UInt8) :
    splitMark (a :: b :: c :: rest) =
      if a = 0xEF ∧ b = 0xBB ∧ c = 0xBF then some (.utf8, rest)
      else if a = 0xFF ∧ b = 0xFE then some (.utf16 .little, c :: rest)
      else if a = 0xFE ∧ b = 0xFF then some (.utf16 .big, c :: rest)
      else none := by
  unfold splitMark
  split
  · rename_i hutf8
    simp only [List.cons.injEq] at hutf8
    obtain ⟨rfl, rfl, rfl, rfl⟩ := hutf8
    rfl
  · rename_i hlittle
    simp only [List.cons.injEq] at hlittle
    obtain ⟨rfl, rfl, rfl⟩ := hlittle
    rfl
  · rename_i hbig
    simp only [List.cons.injEq] at hbig
    obtain ⟨rfl, rfl, rfl⟩ := hbig
    rfl
  · rename_i hutf8 hlittle hbig
    rw [if_neg, if_neg, if_neg]
    · rintro ⟨rfl, rfl⟩
      exact hbig _ rfl
    · rintro ⟨rfl, rfl⟩
      exact hlittle _ rfl
    · rintro ⟨rfl, rfl, rfl⟩
      exact hutf8 _ rfl

/-- What follows the first three bytes has no say in which mark there is. -/
theorem splitMark_take_map_fst (bs : List UInt8) :
    (splitMark (bs.take 3)).map (·.1) = (splitMark bs).map (·.1) := by
  rcases bs with _ | ⟨a, _ | ⟨b, _ | ⟨c, rest⟩⟩⟩
  · rfl
  · rfl
  · rfl
  · rw [List.take_succ_cons, List.take_succ_cons, List.take_succ_cons, List.take_zero,
      splitMark_cons, splitMark_cons]
    split_ifs <;> rfl

end MainContent.Encoding

namespace MainContent.Page

open MainContent.Encoding (splitMark ofLabel? readings IsPlain)

/-! ## The encoding of a page -/

/-- The encoding in which a page is read. -/
def encodingOf (contentType : Option String) (body : List UInt8) : Encoding :=
  (Encoding.decode (namedEncoding contentType body) body).encoding

/-- The bytes of a page without its byte-order mark. -/
def unmarked (body : List UInt8) : List UInt8 :=
  ((splitMark body).map (·.2)).getD body

/-- The text of bytes in an encoding, with U+FFFD for what stands for nothing, and what is reported
about it. -/
def readIn (e : Encoding) (bs : List UInt8) : String × List Log.Event :=
  (String.ofList ((readings e bs).map (·.getD '\uFFFD')),
    if (readings e bs).any Option.isNone then [damageEvent e] else [])

/-- The label that counts: the one in the content type, else the one that the page declares. -/
def labelOf (contentType : Option String) (body : List UInt8) : Option (List Char) :=
  (contentType.bind contentTypeLabel).or (metaLabel body)

/-- A page is read in its encoding, from after its mark. -/
theorem decode_eq_readIn (contentType : Option String) (body : List UInt8) :
    decode contentType body = readIn (encodingOf contentType body) (unmarked body) := by
  unfold decode encodingOf unmarked Encoding.decode
  cases splitMark body <;> rfl

/-- A label names the encoding, where there is a known one, and UTF-8 is meant otherwise. -/
theorem namedEncoding_eq (contentType : Option String) (body : List UInt8) :
    namedEncoding contentType body =
      ((labelOf contentType body).bind ofLabel?).getD .utf8 := by
  unfold namedEncoding labelOf
  cases contentType.bind contentTypeLabel <;> rfl

/-- A mark names the encoding of a page, else the label that counts, where it is a known one. -/
theorem encodingOf_eq (contentType : Option String) (body : List UInt8) :
    encodingOf contentType body =
      ((splitMark body).map (·.1)).getD
        (((labelOf contentType body).bind ofLabel?).getD .utf8) := by
  rw [← namedEncoding_eq]
  unfold encodingOf Encoding.decode
  cases splitMark body <;> rfl

/-- Pages that begin with the same three bytes and have the same label are read alike. -/
theorem encodingOf_congr {contentType contentType' : Option String} {body body' : List UInt8}
    (hmark : body.take 3 = body'.take 3)
    (hlabel : labelOf contentType body = labelOf contentType' body') :
    encodingOf contentType body = encodingOf contentType' body' := by
  rw [encodingOf_eq, encodingOf_eq, hlabel, ← Encoding.splitMark_take_map_fst body, hmark,
    Encoding.splitMark_take_map_fst]

/-- The head of a page holds its declaration. -/
theorem metaLabel_congr {body body' : List UInt8} (h : body.take 1024 = body'.take 1024) :
    metaLabel body = metaLabel body' := by
  unfold metaLabel headBytes
  rw [h]

/-- Pages that begin with the same head begin with the same three bytes. -/
theorem take_three_of_take_head {body body' : List UInt8}
    (h : body.take 1024 = body'.take 1024) : body.take 3 = body'.take 3 := by
  calc body.take 3 = (body.take 1024).take 3 := by rw [List.take_take]; rfl
    _ = (body'.take 1024).take 3 := by rw [h]
    _ = body'.take 3 := by rw [List.take_take]; rfl

/-- A label is read from a content type without regard to case. -/
theorem contentTypeLabel_congr {value value' : String}
    (h : Text.toLowerAscii value.toList = Text.toLowerAscii value'.toList) :
    contentTypeLabel value = contentTypeLabel value' :=
  congrArg labelIn h

/-- The encoding of a page is decided by its content type and its first bytes alone. -/
theorem encodingOf_decided :
    -- It is the encoding in which the text is read, from after the byte-order mark.
    (∀ contentType body,
      decode contentType body = readIn (encodingOf contentType body) (unmarked body)) ∧
    -- What follows the head of the page has no say.
    (∀ contentType body body', body.take 1024 = body'.take 1024 →
      encodingOf contentType body = encodingOf contentType body') ∧
    -- Where the content type has a label, nothing within the page has, but for a mark.
    (∀ contentType label body body', contentType.bind contentTypeLabel = some label →
      body.take 3 = body'.take 3 →
      encodingOf contentType body = encodingOf contentType body') ∧
    -- A mark has more say than any label.
    (∀ contentType rest,
      encodingOf contentType (0xEF :: 0xBB :: 0xBF :: rest) = .utf8 ∧
      encodingOf contentType (0xFF :: 0xFE :: rest) = .utf16 .little ∧
      encodingOf contentType (0xFE :: 0xFF :: rest) = .utf16 .big) ∧
    -- The label that counts means UTF-8 when it is not known, even if the page declares another.
    (∀ contentType body label, splitMark body = none → labelOf contentType body = some label →
      ofLabel? label = none → encodingOf contentType body = .utf8) ∧
    -- The case of a content type makes no difference.
    (∀ value value' body, Text.toLowerAscii value.toList = Text.toLowerAscii value'.toList →
      encodingOf (some value) body = encodingOf (some value') body) := by
  refine ⟨decode_eq_readIn, fun contentType body body' hhead => ?_,
    fun contentType label body body' hheader hmark => ?_, fun contentType rest => ⟨?_, ?_, ?_⟩,
    fun contentType body label hunmarked hlabel hunknown => ?_, fun value value' body hcase => ?_⟩
  · refine encodingOf_congr (take_three_of_take_head hhead) ?_
    rw [labelOf, labelOf, metaLabel_congr hhead]
  · refine encodingOf_congr hmark ?_
    rw [labelOf, labelOf, hheader, Option.some_or, Option.some_or]
  · rw [encodingOf_eq]; rfl
  · rw [encodingOf_eq]; rfl
  · rw [encodingOf_eq]; rfl
  · rw [encodingOf_eq, hunmarked, hlabel, Option.bind_some, hunknown]
    rfl
  · refine encodingOf_congr rfl ?_
    rw [labelOf, labelOf, Option.bind_some, Option.bind_some, contentTypeLabel_congr hcase]

/-- A declaration after the head has no say, and neither has one beside a label in the content type;
an unknown label there means UTF-8, and capitals are no other label. -/
theorem encodingOf_decided_specimen :
    encodingOf none
        (List.replicate 1024 0x20 ++ Text.Utf8.encode "<meta charset=koi8-r>".toList) =
      encodingOf none (List.replicate 1024 0x20 ++ []) ∧
    encodingOf (some "text/html; charset=latin1") (Text.Utf8.encode "<meta charset=koi8-r>".toList) =
      encodingOf (some "text/html; charset=latin1") (Text.Utf8.encode "<me".toList) ∧
    encodingOf (some "text/html; charset=none") (Text.Utf8.encode "<meta charset=koi8-r>".toList) =
      .utf8 ∧
    encodingOf (some "text/html; CHARSET=Latin1") [] =
      encodingOf (some "Text/HTML; charset=latin1") [] := by
  obtain ⟨-, hhead, hheader, -, hunknown, hcase⟩ := encodingOf_decided
  have hlabels : contentTypeLabel "text/html; charset=latin1" = some "latin1".toList ∧
      contentTypeLabel "text/html; charset=none" = some "none".toList ∧
      ofLabel? "none".toList = none ∧
      Text.toLowerAscii "text/html; CHARSET=Latin1".toList =
        Text.toLowerAscii "Text/HTML; charset=latin1".toList := by
    decide +kernel
  obtain ⟨hlatin1, hnone, hnothing, hcapitals⟩ := hlabels
  refine ⟨hhead _ _ _ ?_, hheader _ "latin1".toList _ _ hlatin1 rfl,
    hunknown _ _ "none".toList rfl ?_ hnothing, hcase _ _ _ hcapitals⟩
  · rw [List.take_left' List.length_replicate, List.take_left' List.length_replicate]
  · rw [labelOf, Option.bind_some, hnone, Option.some_or]

/-! ## Pages of ASCII -/

/-- The text that bytes of ASCII are. -/
def asciiText (bs : List UInt8) : String :=
  String.ofList (bs.map fun b => .ofNat b.toNat)

/-- Plain text is read as what it is in an encoding that keeps ASCII. -/
theorem readIn_of_isPlain (e : Encoding) (hread : e ≠ .replacement)
    (hnarrow : ∀ order, e ≠ .utf16 order) (bs : List UInt8) (h : ∀ b ∈ bs, IsPlain b) :
    readIn e bs = (asciiText bs, []) := by
  unfold readIn asciiText
  rw [Encoding.readings_of_isPlain e hread hnarrow bs h, List.map_map, List.any_map, if_neg]
  · rfl
  · simp

/-- In UTF-16, two bytes of ASCII are one character, and a byte without a partner is damage. -/
theorem readIn_utf16_of_ascii (order : Encoding.ByteOrder) (bs : List UInt8)
    (h : ∀ b ∈ bs, b < 0x80) :
    (readIn (.utf16 order) bs).1.length = (bs.length + 1) / 2 ∧
      (readIn (.utf16 order) bs).2 =
        if bs.length % 2 = 1 then [damageEvent (.utf16 order)] else [] := by
  unfold readIn
  rw [Encoding.readings_utf16_of_ascii order bs h, Encoding.Utf16.any_isNone_pairs]
  constructor
  · rw [String.length_ofList, List.length_map, Encoding.Utf16.length_pairs]
  · simp only [decide_eq_true_eq]

/-- So bytes of ASCII are not read as what they are, unless there are none. -/
theorem readIn_utf16_ne (order : Encoding.ByteOrder) (bs : List UInt8) (h : ∀ b ∈ bs, b < 0x80)
    (hsome : bs ≠ []) : readIn (.utf16 order) bs ≠ (asciiText bs, []) := by
  intro hkept
  obtain ⟨hlength, hevents⟩ := readIn_utf16_of_ascii order bs h
  rw [hkept] at hlength hevents
  -- As many characters as bytes are at most one, and that one is damage.
  have hcount : bs.length = (bs.length + 1) / 2 := by
    rw [← hlength, asciiText, String.length_ofList, List.length_map]
  have hpos : 0 < bs.length := List.length_pos_iff.2 hsome
  rw [if_pos (by omega)] at hevents
  exact absurd hevents (List.cons_ne_nil _ _).symm

/-- An empty page declares nothing. -/
theorem metaLabel_nil : metaLabel [] = none := by
  unfold metaLabel Text.Utf8.decodeLossy
  rw [List.take_nil, Text.Utf8.read_nil]
  rfl

/-- Without a label in its content type, a page of ASCII is read as it declares. -/
theorem decode_of_ascii (contentType : Option String) (body : List UInt8)
    (h : ∀ b ∈ body, b < 0x80) (hheader : contentType.bind contentTypeLabel = none) :
    decode contentType body = readIn (((metaLabel body).bind ofLabel?).getD .utf8) body := by
  rw [decode_eq_readIn, encodingOf_eq, unmarked, Encoding.splitMark_of_ascii body h, labelOf, hheader]
  rfl

/-- An encoding other than the default has been named. -/
theorem eq_some_of_getD_utf8 {named : Option Encoding} {e : Encoding} (hother : e ≠ .utf8)
    (h : named.getD .utf8 = e) : named = some e := by
  cases named with
  | none => exact absurd h.symm hother
  | some e' => exact congrArg some h

/-- A page of plain text whose content type has no label is read as what it is, unless what it declares
is UTF-16. Two bytes of it are one character then. -/
theorem decode_of_isPlain (contentType : Option String) (body : List UInt8)
    (hplain : ∀ b ∈ body, IsPlain b) (hheader : contentType.bind contentTypeLabel = none)
    (hread : (metaLabel body).bind ofLabel? ≠ some .replacement) :
    (decode contentType body = (asciiText body, []) ↔
      ∀ order, (metaLabel body).bind ofLabel? ≠ some (.utf16 order)) ∧
    ∀ order, (metaLabel body).bind ofLabel? = some (.utf16 order) →
      (decode contentType body).1.length = (body.length + 1) / 2 ∧
      (decode contentType body).2 =
        if body.length % 2 = 1 then [damageEvent (.utf16 order)] else [] := by
  have hascii : ∀ b ∈ body, b < 0x80 := fun b hb => (hplain b hb).1
  rw [decode_of_ascii contentType body hascii hheader]
  refine ⟨⟨fun hkept order horder => ?_, fun hnarrow => ?_⟩, fun order horder => ?_⟩
  · have hsome : body ≠ [] := by
      rintro rfl
      rw [metaLabel_nil] at horder
      cases horder
    rw [horder] at hkept
    exact readIn_utf16_ne order body hascii hsome hkept
  · apply readIn_of_isPlain _ _ _ _ hplain
    · exact fun h => hread (eq_some_of_getD_utf8 nofun h)
    · exact fun order h => hnarrow order (eq_some_of_getD_utf8 nofun h)
  · rw [horder]
    exact readIn_utf16_of_ascii order body hascii

/-- A page that says that it is in ISO-2022-JP is read as what it is. -/
theorem decode_of_isPlain_iso2022Jp :
    decode (some "text/html") (Text.Utf8.encode "<meta charset=iso-2022-jp>ok".toList) =
      ("<meta charset=iso-2022-jp>ok", []) := by
  have hpage : (∀ b ∈ Text.Utf8.encode "<meta charset=iso-2022-jp>ok".toList, IsPlain b) ∧
      contentTypeLabel "text/html" = none ∧
      (metaLabel (Text.Utf8.encode "<meta charset=iso-2022-jp>ok".toList)).bind ofLabel? =
        some .iso2022Jp ∧
      asciiText (Text.Utf8.encode "<meta charset=iso-2022-jp>ok".toList) =
        "<meta charset=iso-2022-jp>ok" := by
    decide +kernel
  obtain ⟨hplain, hheader, hnamed, htext⟩ := hpage
  have hread := decode_of_isPlain (some "text/html") _ hplain hheader (by rw [hnamed]; nofun)
  rw [hread.1.2 (by rw [hnamed]; nofun), htext]

/-- A page of plain text that says that it is in UTF-16. -/
def wideDeclaration : List UInt8 :=
  Text.Utf8.encode "<meta charset=utf-16le><p>News</p>".toList

/-- The page that says that it is in UTF-16 is not read as what it is. -/
theorem decode_wideDeclaration :
    ((∀ b ∈ wideDeclaration, IsPlain b) ∧
      (metaLabel wideDeclaration).bind ofLabel? = some (.utf16 .little)) ∧
    asciiText wideDeclaration = "<meta charset=utf-16le><p>News</p>" ∧
    decode none wideDeclaration = ("洼瑥⁡档牡敳㵴瑵ⵦ㘱敬㰾㹰敎獷⼼㹰", []) ∧
    decode none wideDeclaration ≠ (asciiText wideDeclaration, []) := by
  decide +kernel

end MainContent.Page
