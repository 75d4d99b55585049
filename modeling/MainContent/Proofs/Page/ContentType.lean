import MainContent.Proofs.Page.Label

/-!
# The label in a content type

A content type is a media type and a list of parameters, whose values are tokens or quoted texts
(`ContentType`). Its encoding is the value of the first parameter `charset` (`ContentType.declared`).

A label is found without this grammar, behind the first `charset=` of the text. That stands at the
end of the name of a parameter or within quotes, never across two parameters (`sign_infix_front_iff`,
`no_sign_append_flatMap`), so the first parameter that has one decides. `contentTypeLabel_declared`
says for each kind of parameter what comes of it, and for which values of a parameter `charset` it is
what is declared (`ParameterValue.IsPlain`).
-/

namespace MainContent.Page

open MainContent.Text (toLowerAscii)

/-! ## The grammar -/

/-- A character of a token. -/
def isTokenChar (c : Char) : Bool :=
  Text.isAlphanumeric c || "!#$%&'*+-.^_`|~".toList.contains c

/-- A blank that may stand around a semicolon. -/
def isGapChar (c : Char) : Bool :=
  c == ' ' || c == '\t'

/-- A name, or a value without quotes. -/
structure Token where
  chars : List Char
  ne_nil : chars ≠ []
  all_token : chars.all isTokenChar = true

/-- A character within quotes. -/
inductive QuotedChar where
  | plain (c : Char) (not_quote : c ≠ '"') (not_escape : c ≠ '\\')
  | escaped (c : Char)

namespace QuotedChar

/-- The character that is meant. -/
def char : QuotedChar → Char
  | plain c _ _ => c
  | escaped c => c

/-- How it is written. -/
def text : QuotedChar → List Char
  | plain c _ _ => [c]
  | escaped c => ['\\', c]

def isPlain : QuotedChar → Bool
  | plain _ _ _ => true
  | escaped _ => false

end QuotedChar

/-- The value of a parameter. -/
inductive ParameterValue where
  | token (t : Token)
  | quoted (cs : List QuotedChar)

namespace ParameterValue

/-- The text that is meant. -/
def content : ParameterValue → List Char
  | token t => t.chars
  | quoted cs => cs.map QuotedChar.char

/-- How it is written. -/
def text : ParameterValue → List Char
  | token t => t.chars
  | quoted cs => '"' :: (cs.flatMap QuotedChar.text ++ ['"'])

end ParameterValue

/-- A parameter, with the blanks around the semicolon in front of it. -/
structure Parameter where
  gap : List Char
  lead : List Char
  name : Token
  value : ParameterValue
  gap_blank : gap.all isGapChar = true
  lead_blank : lead.all isGapChar = true

namespace Parameter

/-- How it is written. -/
def text (p : Parameter) : List Char :=
  p.gap ++ ';' :: (p.lead ++ (p.name.chars ++ '=' :: p.value.text))

/-- The parameter is named `charset`, in letters of either case. -/
def isCharset (p : Parameter) : Bool :=
  toLowerAscii p.name.chars = "charset".toList

/-- The name of the parameter ends in `charset`, in letters of either case. -/
def EndsInCharset (p : Parameter) : Prop :=
  "charset".toList <:+ toLowerAscii p.name.chars

/-- There is a `charset=` in the parameter: its name ends in `charset`, or its value has one within
quotes. -/
def Speaks (p : Parameter) : Prop :=
  p.EndsInCharset ∨ sign <:+: toLowerAscii p.value.text

instance (p : Parameter) : Decidable p.EndsInCharset :=
  inferInstanceAs (Decidable (_ <:+ _))

instance (p : Parameter) : Decidable p.Speaks :=
  inferInstanceAs (Decidable (_ ∨ _ <:+: _))

end Parameter

/-- A media type with parameters. -/
structure ContentType where
  type : Token
  subtype : Token
  parameters : List Parameter

namespace ContentType

/-- How it is written. -/
def text (t : ContentType) : List Char :=
  t.type.chars ++ '/' :: (t.subtype.chars ++ t.parameters.flatMap Parameter.text)

/-- The label that is found in it. -/
def label (t : ContentType) : Option (List Char) :=
  contentTypeLabel (String.ofList t.text)

/-- The value of the first parameter `charset` in small letters, unless there is none or it is empty.
-/
def declared (t : ContentType) : Option (List Char) :=
  (t.parameters.find? Parameter.isCharset).bind fun p => nonempty (toLowerAscii p.value.content)

end ContentType

/-! ## The first `charset=` -/

theorem Token.isTokenChar_of_mem (t : Token) : ∀ c ∈ t.chars, isTokenChar c = true :=
  List.all_eq_true.1 t.all_token

/-- What may stand around a semicolon is spaces and tabs. -/
theorem eq_of_all_isGapChar {cs : List Char} (h : cs.all isGapChar = true) {c : Char} (hc : c ∈ cs) :
    c = ' ' ∨ c = '\t' := by
  simpa [isGapChar] using List.all_eq_true.1 h c hc

/-- No token has an equals sign. -/
theorem equals_not_mem_token (t : Token) : '=' ∉ toLowerAscii t.chars := by
  rw [Text.mem_toLowerAscii_iff (by decide)]
  exact fun h => absurd (t.isTokenChar_of_mem _ h) (by decide)

/-- A text without an equals sign has no `charset=`. -/
theorem no_sign_of_equals_not_mem {cs : List Char} (h : '=' ∉ cs) : ¬sign <:+: cs := fun hsign =>
  h (hsign.subset (by decide))

/-- Blanks around a semicolon have no small letters. -/
theorem toLowerAscii_of_blank {cs : List Char} (h : cs.all isGapChar = true) :
    toLowerAscii cs = cs := by
  rw [toLowerAscii, List.map_congr_left (g := id), List.map_id]
  intro c hc
  rcases eq_of_all_isGapChar h hc with rfl | rfl <;> decide

namespace Parameter

/-- What stands in a parameter in front of its name. -/
def front (p : Parameter) : List Char :=
  p.gap ++ ';' :: p.lead

/-- A parameter in small letters. -/
theorem toLowerAscii_text (p : Parameter) :
    toLowerAscii p.text =
      p.front ++ toLowerAscii p.name.chars ++ '=' :: toLowerAscii p.value.text := by
  simp only [text, front, Text.toLowerAscii_append, Text.toLowerAscii_cons,
    toLowerAscii_of_blank p.gap_blank, toLowerAscii_of_blank p.lead_blank, List.append_assoc,
    List.cons_append]
  rfl

/-- A parameter begins with the blanks in front of its semicolon. -/
theorem exists_gap_text (p : Parameter) : ∃ rest, toLowerAscii p.text = p.gap ++ ';' :: rest := by
  refine ⟨p.lead ++ toLowerAscii p.name.chars ++ '=' :: toLowerAscii p.value.text, ?_⟩
  rw [toLowerAscii_text, front]
  simp only [List.append_assoc, List.cons_append]

/-- Only blanks and a semicolon stand in front of the name. -/
theorem of_mem_front {p : Parameter} {c : Char} (h : c ∈ p.front) : c = ' ' ∨ c = '\t' ∨ c = ';' := by
  rcases List.mem_append.1 h with h | h
  · exact (eq_of_all_isGapChar p.gap_blank h).imp_right .inl
  · rcases List.mem_cons.1 h with rfl | h
    · exact .inr (.inr rfl)
    · exact (eq_of_all_isGapChar p.lead_blank h).imp_right .inl

/-- A parameter begins with a character that is in no `charset=`. -/
theorem exists_cons_text (p : Parameter) :
    ∃ c rest, toLowerAscii p.text = c :: rest ∧ c ∉ sign := by
  have hne : p.front ≠ [] := List.append_ne_nil_of_right_ne_nil _ (List.cons_ne_nil _ _)
  obtain ⟨c, rest, hfront⟩ := List.exists_cons_of_ne_nil hne
  refine ⟨c, rest ++ toLowerAscii p.name.chars ++ '=' :: toLowerAscii p.value.text, ?_, ?_⟩
  · rw [toLowerAscii_text, hfront]
    rfl
  · rcases p.of_mem_front (hfront ▸ List.mem_cons_self) with rfl | rfl | rfl <;> decide

/-- There is no equals sign in front of the value. -/
theorem equals_not_mem (p : Parameter) : '=' ∉ p.front ++ toLowerAscii p.name.chars := fun h => by
  rcases List.mem_append.1 h with h | h
  · exact absurd (p.of_mem_front h) (by decide)
  · exact equals_not_mem_token p.name h

/-- A `charset=` behind the front of a parameter has the end of its name, or stands behind the equals
sign. -/
theorem sign_infix_front_iff (p : Parameter) (behind : List Char) :
    sign <:+: p.front ++ toLowerAscii p.name.chars ++ '=' :: behind ↔
      p.EndsInCharset ∨ sign <:+: behind := by
  have hname : "charset".toList <:+ p.front ++ toLowerAscii p.name.chars ↔ p.EndsInCharset := by
    refine ⟨fun h => Text.suffix_of_suffix_append h fun c hc => ?_,
      fun h => h.trans (List.suffix_append _ _)⟩
    rcases p.of_mem_front hc with rfl | rfl | rfl <;> decide
  have hfront : ¬sign <:+: p.front ++ toLowerAscii p.name.chars :=
    no_sign_of_equals_not_mem p.equals_not_mem
  have hsplit : sign = "charset".toList ++ ['='] := rfl
  rw [hsplit] at hfront
  rw [hsplit, Text.infix_append_cons_iff (by decide), hname, ← hsplit]
  exact or_congr_right (or_iff_right hfront)

/-- A parameter has a `charset=` if its name ends in `charset` or its value has one. -/
theorem sign_infix_text_iff (p : Parameter) : sign <:+: toLowerAscii p.text ↔ p.Speaks := by
  rw [toLowerAscii_text, sign_infix_front_iff, Speaks]

/-- Where neither a text nor a parameter behind it has a `charset=`, the two together have none. -/
theorem no_sign_append_text {cs : List Char} {p : Parameter} (hcs : ¬sign <:+: cs)
    (hp : ¬p.Speaks) : ¬sign <:+: cs ++ toLowerAscii p.text := by
  -- The parameter begins with a blank or a semicolon, over which no `charset=` goes.
  obtain ⟨c, rest, htext, hc⟩ := p.exists_cons_text
  rw [← sign_infix_text_iff, htext] at hp
  rw [htext]
  exact fun h => (Text.infix_of_infix_append_cons h hc).elim hcs fun h => hp (List.infix_cons h)

/-- The same with any number of parameters. -/
theorem no_sign_append_flatMap {cs : List Char} {ps : List Parameter} (hcs : ¬sign <:+: cs)
    (hps : ∀ p ∈ ps, ¬p.Speaks) : ¬sign <:+: cs ++ toLowerAscii (ps.flatMap text) := by
  -- Each parameter in turn joins the text in front, which still has no `charset=`.
  induction ps generalizing cs with
  | nil => simpa using hcs
  | cons p ps ih =>
    obtain ⟨hp, hps⟩ := List.forall_mem_cons.1 hps
    rw [List.flatMap_cons, Text.toLowerAscii_append, ← List.append_assoc]
    exact ih (no_sign_append_text hcs hp) hps

/-- A name that ends in `charset` makes the first `charset=` of a parameter. -/
theorem exists_first_of_endsInCharset {p : Parameter} (h : p.EndsInCharset) :
    ∃ first, toLowerAscii p.text = first ++ (sign ++ toLowerAscii p.value.text) ∧
      ¬sign <:+: first := by
  obtain ⟨others, hname⟩ := h
  refine ⟨p.front ++ others, ?_, no_sign_of_equals_not_mem fun hmem => p.equals_not_mem ?_⟩
  · rw [toLowerAscii_text, ← hname]
    simp only [List.append_assoc]
    rfl
  · rw [← hname, ← List.append_assoc]
    exact List.mem_append_left _ hmem

/-- The name `charset` ends in itself. -/
theorem endsInCharset_of_isCharset {p : Parameter} (h : p.isCharset = true) : p.EndsInCharset := by
  have hname : toLowerAscii p.name.chars = "charset".toList := of_decide_eq_true h
  rw [EndsInCharset, hname]

end Parameter

namespace ContentType

/-- The media type. -/
def mediaType (t : ContentType) : List Char :=
  toLowerAscii t.type.chars ++ '/' :: toLowerAscii t.subtype.chars

/-- No media type has a `charset=`. -/
theorem no_sign_mediaType (t : ContentType) : ¬sign <:+: t.mediaType := by
  refine no_sign_of_equals_not_mem fun hmem => ?_
  rcases List.mem_append.1 hmem with hmem | hmem
  · exact equals_not_mem_token t.type hmem
  · rcases List.mem_cons.1 hmem with heq | hmem
    · exact absurd heq (by decide)
    · exact equals_not_mem_token t.subtype hmem

/-- A label is looked for in small letters. -/
theorem label_eq (t : ContentType) :
    t.label = labelIn (t.mediaType ++ toLowerAscii (t.parameters.flatMap Parameter.text)) := by
  rw [label, contentTypeLabel, String.toList_ofList, text, mediaType]
  simp only [Text.toLowerAscii_append, Text.toLowerAscii_cons, List.append_assoc, List.cons_append]
  rfl

/-- Without a `charset=` in a parameter, no label is found. -/
theorem label_of_not_speaks {t : ContentType} (h : ∀ p ∈ t.parameters, ¬p.Speaks) :
    t.label = none := by
  rw [label_eq]
  exact labelIn_of_no_sign (Parameter.no_sign_append_flatMap t.no_sign_mediaType h)

/-- The label is the one behind the first `charset=`, in the first parameter that has one. -/
theorem label_of_first {t : ContentType} {before after : List Parameter} {p : Parameter}
    (hparameters : t.parameters = before ++ p :: after) (hbefore : ∀ q ∈ before, ¬q.Speaks)
    {front behind : List Char} (htext : toLowerAscii p.text = front ++ (sign ++ behind))
    (hfirst : ¬sign <:+: front) :
    t.label = nonempty (labelAfter (behind ++ toLowerAscii (after.flatMap Parameter.text))) := by
  have hothers := Parameter.no_sign_append_flatMap t.no_sign_mediaType hbefore
  generalize hcs : t.mediaType ++ toLowerAscii (before.flatMap Parameter.text) = cs at hothers
  -- What stands in front of the parameter has no part in its `charset=`.
  have hfront : ¬sign <:+: cs ++ front := by
    cases front with
    | nil => rwa [List.append_nil]
    | cons c front =>
      obtain ⟨d, rest, hcons, hd⟩ := p.exists_cons_text
      have hc : c = d := (List.cons.inj (htext.symm.trans hcons)).1
      rw [← hc] at hd
      exact fun h => (Text.infix_of_infix_append_cons h hd).elim hothers fun h =>
        hfirst (List.infix_cons h)
  have hsplit : t.mediaType ++ toLowerAscii (t.parameters.flatMap Parameter.text) =
      cs ++ front ++ (sign ++ (behind ++ toLowerAscii (after.flatMap Parameter.text))) := by
    rw [hparameters, List.flatMap_append, List.flatMap_cons, Text.toLowerAscii_append,
      Text.toLowerAscii_append, htext, ← hcs]
    simp only [List.append_assoc]
  rw [label_eq, hsplit, labelIn_of_first hfront]

end ContentType

/-! ## The value of a parameter as a label -/

/-- What ends a label is no letter. -/
theorem endsLabel_lowerAscii (c : Char) : endsLabel (Text.lowerAscii c) = endsLabel c := by
  unfold endsLabel
  rw [Text.lowerAscii_beq (by decide), Text.lowerAscii_beq (by decide),
    Text.lowerAscii_beq (by decide), Text.lowerAscii_beq (by decide),
    Text.lowerAscii_beq (by decide), Text.lowerAscii_beq (by decide)]

/-- A text in small letters ends no label exactly if it does not as it is written. -/
theorem forall_mem_toLowerAscii_endsLabel (cs : List Char) :
    (∀ c ∈ toLowerAscii cs, endsLabel c = false) ↔ ∀ c ∈ cs, endsLabel c = false := by
  simp only [toLowerAscii, List.forall_mem_map, endsLabel_lowerAscii]

/-- Of the characters of a token, only a single quote ends a label. -/
theorem endsLabel_of_isTokenChar {c : Char} (h : isTokenChar c = true) :
    endsLabel c = true ↔ c = '\'' := by
  constructor
  · intro hends
    simp only [endsLabel, Bool.or_eq_true, beq_iff_eq] at hends
    rcases hends with ((((rfl | rfl) | rfl) | rfl) | rfl) | rfl
    · exact absurd h (by decide)
    · rfl
    · exact absurd h (by decide)
    · exact absurd h (by decide)
    · exact absurd h (by decide)
    · exact absurd h (by decide)
  · rintro rfl
    rfl

/-- A label ends in front of parameters unless a tab stands there. -/
theorem endsBefore_parameters_iff (ps : List Parameter) :
    EndsBefore (toLowerAscii (ps.flatMap Parameter.text)) ↔
      ∀ p ∈ ps.head?, p.gap.head? ≠ some '\t' := by
  cases ps with
  | nil => exact iff_of_true (fun c hc => by cases hc) (fun p hp => by cases hp)
  | cons p ps =>
    obtain ⟨rest, htext⟩ := p.exists_gap_text
    rw [List.flatMap_cons, Text.toLowerAscii_append, htext]
    simp only [EndsBefore, List.head?_cons, Option.mem_def, Option.some.injEq, forall_eq']
    cases hgap : p.gap with
    | nil => exact iff_of_true (fun c hc => by cases hc; rfl) (fun h => by cases h)
    | cons c gap =>
      rcases eq_of_all_isGapChar p.gap_blank (hgap ▸ List.mem_cons_self) with rfl | rfl
      · exact iff_of_true (fun c hc => by cases hc; rfl) (fun h => by cases h)
      · exact iff_of_false (fun h => absurd (h '\t' rfl) (by decide)) (fun h => h rfl)

/-- No label stands in front of the semicolon of a parameter unless a tab does. -/
theorem labelAfter_parameters_iff (ps : List Parameter) :
    labelAfter (toLowerAscii (ps.flatMap Parameter.text)) = [] ↔ ∀ p ∈ ps.head?, '\t' ∉ p.gap := by
  cases ps with
  | nil => exact iff_of_true rfl (fun p hp => by cases hp)
  | cons p ps =>
    obtain ⟨rest, htext⟩ := p.exists_gap_text
    rw [List.flatMap_cons, Text.toLowerAscii_append, htext, List.append_assoc]
    have hgap : ∀ c ∈ p.gap, Text.isAsciiBlank c = true ∨ beforeLabel c = true := fun c hc => by
      rcases eq_of_all_isGapChar p.gap_blank hc with rfl | rfl <;> exact .inl rfl
    have hspaces : (∀ c ∈ p.gap, beforeLabel c = true) ↔ '\t' ∉ p.gap :=
      ⟨fun h htab => absurd (h _ htab) (by decide), fun h c hc => by
        rcases eq_of_all_isGapChar p.gap_blank hc with rfl | rfl
        · rfl
        · exact absurd hc h⟩
    rw [labelAfter_append_eq_nil_iff hgap, hspaces]
    simp only [List.head?_cons, Option.mem_def, Option.some.injEq, forall_eq']
    exact and_iff_left rfl

namespace ParameterValue

/-- The value is written as a label. A token has no single quote and no tab follows it; of the
characters within quotes, none is escaped and none ends a label; and where there are none, the next
parameter has no tab in front of its semicolon. -/
def IsPlain : ParameterValue → List Parameter → Prop
  | token t, after => '\'' ∉ t.chars ∧ ∀ p ∈ after.head?, p.gap.head? ≠ some '\t'
  | quoted [], after => ∀ p ∈ after.head?, '\t' ∉ p.gap
  | quoted (c :: cs), _ => ∀ d ∈ c :: cs, d.isPlain = true ∧ endsLabel d.char = false

instance : (v : ParameterValue) → (after : List Parameter) → Decidable (v.IsPlain after)
  | token t, after =>
    inferInstanceAs (Decidable ('\'' ∉ t.chars ∧ ∀ p ∈ after.head?, p.gap.head? ≠ some '\t'))
  | quoted [], after => inferInstanceAs (Decidable (∀ p ∈ after.head?, '\t' ∉ p.gap))
  | quoted (c :: cs), _ =>
    inferInstanceAs (Decidable (∀ d ∈ c :: cs, d.isPlain = true ∧ endsLabel d.char = false))

/-- Quotes in front of a label are skipped. -/
theorem labelAfter_quote (rest : List Char) : labelAfter ('"' :: rest) = labelAfter rest :=
  rfl

/-- An escaped character is written with one more. -/
theorem length_flatMap_text (cs : List QuotedChar) :
    (cs.flatMap QuotedChar.text).length = cs.length + cs.countP (!·.isPlain) := by
  induction cs with
  | nil => rfl
  | cons c cs ih =>
    rw [List.flatMap_cons, List.length_append, ih, List.length_cons]
    cases c with
    | plain c hquote hescape =>
      rw [List.countP_cons_of_neg (by simp [QuotedChar.isPlain])]
      simp only [QuotedChar.text, List.length_singleton]
      omega
    | escaped c =>
      rw [List.countP_cons_of_pos (by rfl)]
      simp only [QuotedChar.text, List.length_cons, List.length_nil]
      omega

/-- A text within quotes is what is meant if nothing in it is escaped. -/
theorem flatMap_text_of_isPlain {cs : List QuotedChar} (h : ∀ c ∈ cs, c.isPlain = true) :
    cs.flatMap QuotedChar.text = cs.map QuotedChar.char := by
  induction cs with
  | nil => rfl
  | cons c cs ih =>
    obtain ⟨hc, hcs⟩ := List.forall_mem_cons.1 h
    cases c with
    | plain c hquote hescape => exact congrArg (c :: ·) (ih hcs)
    | escaped c => cases hc

/-- The backslash of an escaped character does not end a label. -/
theorem endsLabel_flatMap_text {cs : List QuotedChar}
    (h : ∀ c ∈ cs.map QuotedChar.char, endsLabel c = false) :
    ∀ c ∈ cs.flatMap QuotedChar.text, endsLabel c = false := by
  intro c hc
  obtain ⟨q, hq, hc⟩ := List.mem_flatMap.1 hc
  have hchar := h q.char (List.mem_map_of_mem hq)
  cases q with
  | plain d hquote hescape =>
    rw [List.mem_singleton.1 hc]
    exact hchar
  | escaped d =>
    rcases List.mem_cons.1 hc with rfl | hc
    · decide
    · rw [List.mem_singleton.1 hc]
      exact hchar

/-- Characters within quotes are what is read as a label exactly if none is escaped and none ends
one. -/
theorem labelAfter_quoted_iff {cs : List QuotedChar} (hne : cs ≠ []) (rest : List Char) :
    labelAfter (toLowerAscii (cs.flatMap QuotedChar.text) ++ '"' :: rest) =
        toLowerAscii (cs.map QuotedChar.char) ↔
      ∀ c ∈ cs, c.isPlain = true ∧ endsLabel c.char = false := by
  -- The closing quote ends the label, so what is read can be no less than all within the quotes.
  have hclosed : EndsBefore ('"' :: rest) := fun c hc => by cases hc; rfl
  have hlength := length_flatMap_text cs
  have hpos := List.length_pos_iff.2 hne
  have hwritten : toLowerAscii (cs.flatMap QuotedChar.text) ≠ [] := fun hnil => by
    rw [List.map_eq_nil_iff.1 hnil, List.length_nil] at hlength
    omega
  have hread := labelAfter_append_eq_iff hwritten ('"' :: rest)
  rw [forall_mem_toLowerAscii_endsLabel, and_iff_left hclosed] at hread
  constructor
  · intro h
    have hends : ∀ c ∈ cs.map QuotedChar.char, endsLabel c = false :=
      (forall_mem_toLowerAscii_endsLabel _).1 fun c hc => endsLabel_of_mem_labelAfter (h.symm ▸ hc)
    -- What is read then is all that stands within the quotes, and not longer than what is meant.
    have hsame := (hread.2 (endsLabel_flatMap_text hends)).symm.trans h
    have hcount : cs.countP (!·.isPlain) = 0 := by
      have := congrArg List.length hsame
      simp only [toLowerAscii, List.length_map] at this
      omega
    intro c hc
    refine ⟨?_, hends _ (List.mem_map_of_mem hc)⟩
    simpa using List.countP_eq_zero.1 hcount c hc
  · intro h
    have hplain := flatMap_text_of_isPlain fun c hc => (h c hc).1
    rw [← hplain]
    refine hread.2 fun c hc => ?_
    rw [hplain] at hc
    obtain ⟨q, hq, rfl⟩ := List.mem_map.1 hc
    exact (h q hq).2

/-- A value is what is read as a label exactly if it is written as one. -/
theorem labelAfter_eq_iff (v : ParameterValue) (after : List Parameter) :
    labelAfter (toLowerAscii v.text ++ toLowerAscii (after.flatMap Parameter.text)) =
      toLowerAscii v.content ↔ v.IsPlain after := by
  match v with
  | token t =>
    have hne : toLowerAscii t.chars ≠ [] := fun h => t.ne_nil (List.map_eq_nil_iff.1 h)
    have hquote : (∀ c ∈ t.chars, endsLabel c = false) ↔ '\'' ∉ t.chars := by
      refine ⟨fun h hmem => absurd (h _ hmem) (by decide), fun h c hc => ?_⟩
      rw [← Bool.not_eq_true, endsLabel_of_isTokenChar (t.isTokenChar_of_mem c hc)]
      rintro rfl
      exact h hc
    rw [text, content, labelAfter_append_eq_iff hne, forall_mem_toLowerAscii_endsLabel, hquote,
      endsBefore_parameters_iff]
    rfl
  | quoted [] =>
    exact labelAfter_parameters_iff after
  | quoted (c :: cs) =>
    have hwritten : toLowerAscii (text (quoted (c :: cs))) ++
        toLowerAscii (after.flatMap Parameter.text) =
        '"' :: (toLowerAscii ((c :: cs).flatMap QuotedChar.text) ++
          '"' :: toLowerAscii (after.flatMap Parameter.text)) := by
      simp only [text, Text.toLowerAscii_cons, Text.toLowerAscii_append, Text.toLowerAscii_nil,
        List.cons_append, List.append_assoc, List.nil_append]
      rfl
    rw [hwritten, labelAfter_quote]
    exact labelAfter_quoted_iff (List.cons_ne_nil c cs) _

end ParameterValue

/-! ## The label and the parameters -/

/-- The value of the first parameter `charset`, without case, where there is one. -/
theorem declared_of_first {t : ContentType} {before after : List Parameter} {p : Parameter}
    (hparameters : t.parameters = before ++ p :: after) (hbefore : ∀ q ∈ before, ¬q.Speaks)
    (hp : p.isCharset = true) : t.declared = nonempty (toLowerAscii p.value.content) := by
  have hnone : before.find? Parameter.isCharset = none :=
    List.find?_eq_none.2 fun q hq hcharset =>
      hbefore q hq (.inl (Parameter.endsInCharset_of_isCharset hcharset))
  rw [ContentType.declared, hparameters, List.find?_append, hnone, Option.none_or,
    List.find?_cons_of_pos hp, Option.bind_some]

/-- In a content type, the first parameter that has a `charset=` decides. There is no label where
none has one. Where that parameter is named `charset`, the label is the value that is declared
exactly if this is written as a label. Where its name only ends in `charset`, the label is read from
its value all the same; and where its name does not, from behind the first `charset=` within its
quotes. -/
theorem contentTypeLabel_declared (t : ContentType) :
    ((∀ p ∈ t.parameters, ¬p.Speaks) → t.label = none ∧ t.declared = none) ∧
    ∀ before p after, t.parameters = before ++ p :: after → (∀ q ∈ before, ¬q.Speaks) →
      (p.isCharset = true → (t.label = t.declared ↔ p.value.IsPlain after)) ∧
      (p.isCharset = false → p.EndsInCharset →
        t.label = nonempty (labelAfter
          (toLowerAscii p.value.text ++ toLowerAscii (after.flatMap Parameter.text)))) ∧
      (¬p.EndsInCharset → p.Speaks → ∃ first behind,
        toLowerAscii p.value.text = first ++ (sign ++ behind) ∧ ¬sign <:+: first ∧
        t.label = nonempty (labelAfter
          (behind ++ toLowerAscii (after.flatMap Parameter.text)))) := by
  refine ⟨fun h => ⟨ContentType.label_of_not_speaks h, ?_⟩,
    fun before p after hparameters hbefore => ?_⟩
  · have hnone : t.parameters.find? Parameter.isCharset = none :=
      List.find?_eq_none.2 fun p hp hcharset =>
        h p hp (.inl (Parameter.endsInCharset_of_isCharset hcharset))
    rw [ContentType.declared, hnone, Option.bind_none]
  · have hname (h : p.EndsInCharset) : t.label = nonempty (labelAfter
        (toLowerAscii p.value.text ++ toLowerAscii (after.flatMap Parameter.text))) := by
      obtain ⟨first, htext, hfirst⟩ := Parameter.exists_first_of_endsInCharset h
      exact ContentType.label_of_first hparameters hbefore htext hfirst
    refine ⟨fun hcharset => ?_, fun _ => hname, fun hnot hspeaks => ?_⟩
    · rw [hname (Parameter.endsInCharset_of_isCharset hcharset),
        declared_of_first hparameters hbefore hcharset, nonempty_inj,
        ParameterValue.labelAfter_eq_iff]
    · obtain ⟨first, behind, hvalue, hfirst⟩ := exists_first (hspeaks.resolve_left hnot)
      refine ⟨first, behind, hvalue, hfirst, ?_⟩
      have htext : toLowerAscii p.text =
          p.front ++ toLowerAscii p.name.chars ++ '=' :: first ++ (sign ++ behind) := by
        rw [Parameter.toLowerAscii_text, hvalue]
        simp only [List.append_assoc, List.cons_append]
      exact ContentType.label_of_first hparameters hbefore htext fun h =>
        ((p.sign_infix_front_iff first).1 h).elim hnot hfirst

/-- A content type with three parameters, two of them in quotes. -/
def quotedType : ContentType where
  type := ⟨"text".toList, by decide, by decide⟩
  subtype := ⟨"html".toList, by decide, by decide⟩
  parameters := [
    { gap := [], lead := " ".toList, name := ⟨"title".toList, by decide, by decide⟩
      value := .quoted [.plain 'a' (by decide) (by decide), .escaped '"',
        .plain ';' (by decide) (by decide)]
      gap_blank := by decide, lead_blank := by decide },
    { gap := "\t".toList, lead := [], name := ⟨"CharSet".toList, by decide, by decide⟩
      value := .quoted [.plain 'B' (by decide) (by decide), .plain 'i' (by decide) (by decide),
        .plain 'g' (by decide) (by decide), .plain '5' (by decide) (by decide)]
      gap_blank := by decide, lead_blank := by decide },
    { gap := [], lead := " ".toList, name := ⟨"charset".toList, by decide, by decide⟩
      value := .token ⟨"utf-8".toList, by decide, by decide⟩
      gap_blank := by decide, lead_blank := by decide }]

/-- The label of that content type is the value that it declares. -/
theorem contentTypeLabel_declared_quoted :
    String.ofList quotedType.text = "text/html; title=\"a\\\";\"\t;CharSet=\"Big5\"; charset=utf-8" ∧
    contentTypeLabel (String.ofList quotedType.text) = some "big5".toList := by
  have hdecides := (contentTypeLabel_declared quotedType).2 [_] _ [_] rfl (by decide)
  exact ⟨by decide, (((hdecides).1 (by decide)).2 (by decide)).trans (by decide)⟩

/-- A content type with a parameter whose name only ends in `charset`. -/
def prefixedType : ContentType where
  type := ⟨"text".toList, by decide, by decide⟩
  subtype := ⟨"html".toList, by decide, by decide⟩
  parameters := [
    { gap := [], lead := " ".toList, name := ⟨"x-charset".toList, by decide, by decide⟩
      value := .token ⟨"latin1".toList, by decide, by decide⟩
      gap_blank := by decide, lead_blank := by decide },
    { gap := [], lead := " ".toList, name := ⟨"charset".toList, by decide, by decide⟩
      value := .token ⟨"utf-8".toList, by decide, by decide⟩
      gap_blank := by decide, lead_blank := by decide }]

/-- Its label is the value of that parameter, and not the one that it declares. -/
theorem contentTypeLabel_of_longer_name :
    String.ofList prefixedType.text = "text/html; x-charset=latin1; charset=utf-8" ∧
    prefixedType.declared = some "utf-8".toList ∧
    contentTypeLabel "text/html; x-charset=latin1; charset=utf-8" = some "latin1".toList := by
  decide

end MainContent.Page
