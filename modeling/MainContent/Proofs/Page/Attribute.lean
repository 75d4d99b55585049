import MainContent.Proofs.Page.Label
import MainContent.Proofs.Text.Strip

/-!
# The attributes of a tag

How HTML reads a start tag: character by character, with what has been read so far in mind
(`TagState`), and a value by the quote that it begins with (`ValueText`). A `charset=` in a tag is an
attribute of that name exactly where a name may begin (`readTag_sign_iff`).

A label is found without these rules, by what stands directly around it. `strip_labelAfter_iff` says
for which values that comes to the same.
-/

namespace MainContent.Page

open MainContent.Text (isAsciiBlank strip lead trail)

/-! ## The states of a reader -/

/-- A quote around a value. -/
inductive Quote where
  | single
  | double
  deriving DecidableEq, Repr

namespace Quote

/-- The character. -/
def char : Quote → Char
  | single => '\''
  | double => '"'

/-- The quote that a character is. -/
def of? (c : Char) : Option Quote :=
  if c = '"' then some double else if c = '\'' then some single else none

end Quote

/-- What ends the value of an attribute that is not in quotes. -/
def endsAttribute (c : Char) : Bool :=
  isAsciiBlank c || c = '>'

/-- What ends the value of an attribute is no letter. -/
theorem endsAttribute_lowerAscii (c : Char) : endsAttribute (Text.lowerAscii c) = endsAttribute c := by
  rw [endsAttribute, Text.isAsciiBlank_lowerAscii, endsAttribute,
    decide_eq_decide.2 (Text.lowerAscii_eq_iff (show Text.isLetter '>' = false by decide) c)]

/-- What ends the value of a parameter in the `content` of a tag, if it is not in quotes. -/
def endsParameter (c : Char) : Bool :=
  isAsciiBlank c || c = ';'

/-- Where a reader stands who has read `<meta` and some more of a tag, in small letters. The texts are
the names of attributes. -/
inductive TagState where
  /-- Directly behind `<meta`. -/
  | start
  /-- In a tag whose name is longer. -/
  | otherTag
  /-- In front of an attribute. -/
  | between
  | name (n : List Char)
  | behindName (n : List Char)
  /-- Behind the equals sign of an attribute. -/
  | beforeValue (n : List Char)
  /-- In a value without quotes. -/
  | bare (n : List Char)
  | quoted (q : Quote) (n : List Char)
  /-- Behind the tag. -/
  | ended
  deriving DecidableEq, Repr

namespace TagState

/-- The state after one more character. -/
def next : TagState → Char → TagState
  | start, c => if isAsciiBlank c || c = '/' then between else if c = '>' then ended else otherTag
  | otherTag, _ => otherTag
  | between, c => if isAsciiBlank c || c = '/' then between else if c = '>' then ended else name [c]
  | name n, c =>
    if isAsciiBlank c then behindName n else if c = '/' then between
    else if c = '=' then beforeValue n else if c = '>' then ended else name (n ++ [c])
  | behindName n, c =>
    if isAsciiBlank c then behindName n else if c = '/' then between
    else if c = '=' then beforeValue n else if c = '>' then ended else name [c]
  | beforeValue n, c =>
    if isAsciiBlank c then beforeValue n else if c = '>' then ended
    else match Quote.of? c with
      | some q => quoted q n
      | none => bare n
  | bare n, c => if isAsciiBlank c then between else if c = '>' then ended else bare n
  | quoted q n, c => if c = q.char then between else quoted q n
  | ended, _ => ended

/-- The name of an attribute may begin. -/
def awaitsName : TagState → Bool
  | between | behindName _ => true
  | _ => false

/-- A `>` would end the tag. -/
def mayEnd (s : TagState) : Bool :=
  s ≠ ended && s.next '>' = ended

/-- The attribute in whose value the reader stands. -/
def valueOf? : TagState → Option (List Char)
  | bare n | quoted _ n => some n
  | _ => none

/-- What is left of the value in which the reader stands, and what follows it. -/
def splitValue : TagState → List Char → List Char × List Char
  | bare _, cs => (cs.takeWhile (!endsAttribute ·), cs.dropWhile (!endsAttribute ·))
  | quoted q _, cs => (cs.takeWhile (· ≠ q.char), cs.dropWhile (· ≠ q.char))
  | _, cs => ([], cs)

/-- Nothing is lost of the text. -/
theorem splitValue_append (s : TagState) (cs : List Char) :
    (s.splitValue cs).1 ++ (s.splitValue cs).2 = cs := by
  cases s with
  | bare n => exact List.takeWhile_append_dropWhile
  | quoted q n => exact List.takeWhile_append_dropWhile
  | _ => rfl

end TagState

/-- The state behind some text in a tag. -/
def readTag (cs : List Char) : TagState :=
  cs.foldl TagState.next .start

/-- A name that is being read has at least one character. -/
theorem readTag_ne_name_nil (cs : List Char) : readTag cs ≠ .name [] := by
  -- Every step into a name comes with a character of it.
  have hnext (s : TagState) (c : Char) : s.next c ≠ .name [] := by
    cases s <;> simp only [TagState.next] <;> (repeat' split) <;> simp
  rcases List.eq_nil_or_concat cs with rfl | ⟨cs, c, rfl⟩
  · exact fun h => by cases h
  · rw [readTag, List.concat_eq_append, List.foldl_append]
    exact hnext _ c

/-- What `charset=` is in a tag: an attribute of that name, exactly where a name may begin. -/
theorem readTag_sign_iff (cs : List Char) :
    readTag (cs ++ sign) = .beforeValue "charset".toList ↔ (readTag cs).awaitsName = true := by
  have hname := readTag_ne_name_nil cs
  rw [readTag, List.foldl_append, ← readTag]
  generalize readTag cs = s at hname ⊢
  -- Only the state in front decides: from each, the eight characters lead to one other.
  cases s with
  | start => exact iff_of_false (by decide) (by decide)
  | otherTag => exact iff_of_false (by decide) (by decide)
  | between => exact iff_of_true (by decide) rfl
  | name n =>
    -- The name goes on, and is longer than `charset` then.
    refine iff_of_false (fun h => hname ?_) (fun h => by cases h)
    have hlonger : TagState.beforeValue
        (n ++ ['c'] ++ ['h'] ++ ['a'] ++ ['r'] ++ ['s'] ++ ['e'] ++ ['t']) =
        .beforeValue "charset".toList := h
    have hlength := congrArg List.length (TagState.beforeValue.inj hlonger)
    simp only [List.length_append, List.length_singleton] at hlength
    have hletters : "charset".toList.length = 7 := by decide
    rw [List.length_eq_zero_iff.1 (show n.length = 0 by omega)]
  | behindName n => exact iff_of_true rfl rfl
  | beforeValue n => exact iff_of_false (fun h => by cases h) (fun h => by cases h)
  | bare n => exact iff_of_false (fun h => by cases h) (fun h => by cases h)
  | quoted q n => cases q <;> exact iff_of_false (fun h => by cases h) (fun h => by cases h)
  | ended => exact iff_of_false (by decide) (by decide)

/-- A name that only ends in `charset` is another attribute. -/
example : readTag " data-charset=".toList = .beforeValue "data-charset".toList := by decide

/-! ## How a value is written -/

/-- A value in a text: what stands before it, the value itself, and what follows it. -/
structure ValueText where
  before : List Char
  value : List Char
  behind : List Char
  deriving DecidableEq, Repr

namespace ValueText

/-- The whole text. -/
def text (v : ValueText) : List Char :=
  v.before ++ (v.value ++ v.behind)

/-- The value that a text begins with: behind blanks, up to its own closing quote, or where there is
none up to a character that stops it. -/
def read (stops : Char → Bool) (cs : List Char) : ValueText :=
  match cs.dropWhile isAsciiBlank with
  | [] => ⟨cs, [], []⟩
  | c :: rest =>
    match Quote.of? c with
    | some q =>
      ⟨cs.takeWhile isAsciiBlank ++ [c], rest.takeWhile (· ≠ q.char), rest.dropWhile (· ≠ q.char)⟩
    | none =>
      ⟨cs.takeWhile isAsciiBlank, (c :: rest).takeWhile (!stops ·), (c :: rest).dropWhile (!stops ·)⟩

/-- Only blanks and quotes stand before a value. -/
def IsSetOff (v : ValueText) : Prop :=
  ∀ c ∈ v.before, isAsciiBlank c = true ∨ beforeLabel c = true

/-- A quote is no part of a label. -/
theorem beforeLabel_of_of? {c : Char} {q : Quote} (h : Quote.of? c = some q) :
    beforeLabel c = true := by
  unfold Quote.of? at h
  split_ifs at h with hdouble hsingle
  · rw [hdouble]; rfl
  · rw [hsingle]; rfl

/-- Reading takes the text apart. -/
theorem text_read (stops : Char → Bool) (cs : List Char) : (read stops cs).text = cs := by
  have hsplit : cs.takeWhile isAsciiBlank ++ cs.dropWhile isAsciiBlank = cs :=
    List.takeWhile_append_dropWhile
  unfold read
  split
  · simp only [text, List.append_nil]
  · rename_i c rest hdrop
    rw [hdrop] at hsplit
    split
    · simp only [text, List.takeWhile_append_dropWhile, List.append_assoc, List.singleton_append]
      exact hsplit
    · simp only [text, List.takeWhile_append_dropWhile]
      exact hsplit

/-- What is read stands behind blanks and quotes. -/
theorem isSetOff_read (stops : Char → Bool) (cs : List Char) : (read stops cs).IsSetOff := by
  have hgap : ∀ c ∈ cs.takeWhile isAsciiBlank, isAsciiBlank c = true := fun c hc =>
    List.mem_takeWhile_imp hc
  unfold read
  split
  · rename_i hdrop
    exact fun c hc => .inl (List.dropWhile_eq_nil_iff.1 hdrop c hc)
  · split
    · rename_i hquote
      intro c hc
      rcases List.mem_append.1 hc with hc | hc
      · exact .inl (hgap c hc)
      · rw [List.mem_singleton.1 hc]
        exact .inr (beforeLabel_of_of? hquote)
    · exact fun c hc => .inl (hgap c hc)

/-- A value is read from small letters as it is from others, if what stops it is no letter. -/
theorem value_read_toLowerAscii {stops : Char → Bool}
    (hstops : ∀ c, stops (Text.lowerAscii c) = stops c) (cs : List Char) :
    (read stops (Text.toLowerAscii cs)).value = Text.toLowerAscii (read stops cs).value := by
  have hquote (c : Char) : Quote.of? (Text.lowerAscii c) = Quote.of? c := by
    unfold Quote.of?
    simp only [Text.lowerAscii_eq_iff (show Text.isLetter '"' = false by decide),
      Text.lowerAscii_eq_iff (show Text.isLetter '\'' = false by decide)]
  have hclosed (q : Quote) (c : Char) : decide (Text.lowerAscii c ≠ q.char) = decide (c ≠ q.char) := by
    rw [decide_eq_decide, ne_eq, ne_eq, Text.lowerAscii_eq_iff]
    cases q <;> decide
  have hblank : isAsciiBlank ∘ Text.lowerAscii = isAsciiBlank :=
    funext Text.isAsciiBlank_lowerAscii
  -- The value begins at the same place and with the same quote, and ends there too.
  unfold read
  rw [Text.toLowerAscii, List.dropWhile_map, hblank]
  cases cs.dropWhile isAsciiBlank with
  | nil => rfl
  | cons c rest =>
    simp only [List.map_cons, hquote]
    cases Quote.of? c with
    | some q =>
      simp only [List.takeWhile_map, Text.toLowerAscii]
      exact congrArg _ (congrArg (List.takeWhile · rest) (funext (hclosed q)))
    | none =>
      simp only [← List.map_cons, List.takeWhile_map, Text.toLowerAscii]
      exact congrArg _ (congrArg (List.takeWhile · (c :: rest))
        (funext fun d => congrArg (!·) (hstops d)))

/-- The value of the attribute whose equals sign stands in front. -/
def ofAttribute (cs : List Char) : ValueText :=
  read endsAttribute cs

/-- The value of the parameter whose equals sign stands in front, in the value of an attribute. -/
def ofParameter (s : TagState) (cs : List Char) : ValueText :=
  let v := read endsParameter (s.splitValue cs).1
  { v with behind := v.behind ++ (s.splitValue cs).2 }

theorem text_ofAttribute (cs : List Char) : (ofAttribute cs).text = cs :=
  text_read endsAttribute cs

theorem text_ofParameter (s : TagState) (cs : List Char) : (ofParameter s cs).text = cs := by
  have hread := text_read endsParameter (s.splitValue cs).1
  rw [text] at hread
  rw [ofParameter, text, ← List.append_assoc (read endsParameter _).value, ← List.append_assoc, hread,
    s.splitValue_append]

theorem isSetOff_ofAttribute (cs : List Char) : (ofAttribute cs).IsSetOff :=
  isSetOff_read endsAttribute cs

theorem isSetOff_ofParameter (s : TagState) (cs : List Char) : (ofParameter s cs).IsSetOff :=
  isSetOff_read endsParameter (s.splitValue cs).1

/-- The quote in front of a value, if there is one, closes it. -/
def isClosed (v : ValueText) : Bool :=
  match v.before.getLast?.bind Quote.of? with
  | some q => v.behind.head? = some q.char
  | none => true

/-- The value is a label as it is written: nothing in it ends one, nothing but quotes, spaces and then
other blanks stands before it, and nothing but blanks follows it up to what ends a label. -/
def Plain (v : ValueText) : Prop :=
  (∀ c ∈ (v.before ++ lead isAsciiBlank v.value).dropWhile beforeLabel, endsLabel c = false) ∧
    (∀ c ∈ strip isAsciiBlank v.value, endsLabel c = false) ∧
    ∀ c ∈ (trail isAsciiBlank v.value ++ v.behind).takeWhile (!endsLabel ·), isAsciiBlank c = true

instance (v : ValueText) : Decidable v.Plain :=
  @instDecidableAnd _ _ (List.decidableBAll _ _)
    (@instDecidableAnd _ _ (List.decidableBAll _ _) (List.decidableBAll _ _))

/-- What is read as a label is a value, but for blanks around it, exactly if it is written as one. -/
theorem strip_labelAfter_iff {v : ValueText} (hset : v.IsSetOff)
    (hne : strip isAsciiBlank v.value ≠ []) :
    strip isAsciiBlank (labelAfter v.text) = strip isAsciiBlank v.value ↔ v.Plain := by
  have hbefore : ∀ c ∈ v.before ++ lead isAsciiBlank v.value,
      isAsciiBlank c = true ∨ beforeLabel c = true := fun c hc =>
    (List.mem_append.1 hc).elim (hset c) fun hlead => .inl (Text.of_mem_lead hlead)
  have htext : v.text = v.before ++ lead isAsciiBlank v.value ++
      (strip isAsciiBlank v.value ++ (trail isAsciiBlank v.value ++ v.behind)) := by
    calc v.text = v.before ++ (v.value ++ v.behind) := rfl
      _ = v.before ++ (lead isAsciiBlank v.value ++
          (strip isAsciiBlank v.value ++ trail isAsciiBlank v.value) ++ v.behind) := by
        rw [Text.lead_strip_trail]
      _ = _ := by simp only [List.append_assoc]
  rw [htext]
  exact strip_labelAfter_append hbefore hne (Text.strip_strip _ _) _

/-- Nothing is read as a label of a value that is empty but for blanks, exactly if these and what
stands before the value are quotes and spaces, and nothing is read in what follows. -/
theorem labelAfter_eq_nil_iff {v : ValueText} (hset : v.IsSetOff)
    (hblank : strip isAsciiBlank v.value = []) :
    labelAfter v.text = [] ↔
      (∀ c ∈ v.before ++ v.value, beforeLabel c = true) ∧ labelAfter v.behind = [] := by
  have hbefore : ∀ c ∈ v.before ++ v.value, isAsciiBlank c = true ∨ beforeLabel c = true :=
    fun c hc => (List.mem_append.1 hc).elim (hset c) fun hvalue =>
      .inl (Text.strip_eq_nil_iff.1 hblank c hvalue)
  rw [text, ← List.append_assoc]
  exact labelAfter_append_eq_nil_iff hbefore v.behind

end ValueText

end MainContent.Page
