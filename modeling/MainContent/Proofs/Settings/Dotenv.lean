import MainContent.Proofs.Text.Utf8
import MainContent.Settings.Dotenv

/-!
# Files of variables that can be loaded

A file of variables ends the program only if it has a zero byte (`load_not_fatal`): no escape stands
for a zero character, and the variables to which a value may refer have none themselves.

A zero character is followed through the stages of reading. The lines of the file have none, so the
entries have none, so the values have none (`Unbroken`); and a variable that is set to such a value can
be referred to by the next one (`Storable.set`).
-/

namespace MainContent.Settings.Dotenv

open MainContent.Text (isBlank)

/-- A text has no zero character. -/
def Unbroken (cs : List Char) : Prop :=
  '\x00' ∉ cs

namespace Unbroken

variable {c : Char} {cs ds : List Char}

/-- The empty text has no zero character. -/
theorem nil : Unbroken [] :=
  List.not_mem_nil

/-- A text has no zero character if it does not begin with one and has none behind. -/
theorem cons_iff : Unbroken (c :: cs) ↔ c ≠ '\x00' ∧ Unbroken cs := by
  rw [Unbroken, List.mem_cons, not_or, Unbroken]
  exact and_congr_left' ne_comm

/-- Any other character is a text without one. -/
theorem singleton (hc : c ≠ '\x00') : Unbroken [c] :=
  cons_iff.2 ⟨hc, nil⟩

/-- Two texts without a zero character have none together. -/
theorem append (hc : Unbroken cs) (hd : Unbroken ds) : Unbroken (cs ++ ds) := by
  rw [Unbroken, List.mem_append, not_or]
  exact ⟨hc, hd⟩

/-- Characters of a text without a zero character are a text without one. -/
theorem of_subset (hd : Unbroken ds) (h : cs ⊆ ds) : Unbroken cs :=
  fun hzero => hd (h hzero)

/-- The text of bytes that are not zero has no zero character. -/
theorem of_decode? {bs : List UInt8} (h : Text.Utf8.decode? bs = some cs) (hbs : 0 ∉ bs) :
    Unbroken cs := by
  intro hzero
  obtain ⟨b, hb, hvalue⟩ := Text.Utf8.mem_of_mem_decode? h hzero (by decide)
  have hb0 : b = 0 := UInt8.toNat_inj.1 hvalue
  exact hbs (hb0 ▸ hb)

end Unbroken

/-! ## Lines and entries -/

/-- The lines of a file have no bytes but its own. -/
theorem subset_of_mem_splitLines (bs : List UInt8) : ∀ line ∈ splitLines bs, line ⊆ bs := by
  induction bs with
  | nil => exact List.forall_mem_nil _
  | cons b bs ih =>
    have hone : [b] ⊆ b :: bs := List.cons_subset_cons b (List.nil_subset bs)
    -- What matters of the lines that follow is only that they are lines of the bytes that follow.
    unfold splitLines at ih ⊢
    rw [List.foldr_cons]
    generalize List.foldr _ [] bs = lines at ih ⊢
    have hrest : ∀ line ∈ lines, line ⊆ b :: bs := fun line hline =>
      List.subset_cons_of_subset b (ih line hline)
    split_ifs
    · exact List.forall_mem_cons.2 ⟨hone, hrest⟩
    · cases lines with
      | nil => exact List.forall_mem_singleton.2 hone
      | cons line lines =>
        refine List.forall_mem_cons.2 ⟨List.cons_subset_cons b (ih line List.mem_cons_self), ?_⟩
        exact fun l hl => hrest l (List.mem_cons_of_mem line hl)

/-- A file without its mark has no bytes but its own. -/
theorem withoutMark_subset (bs : List UInt8) : withoutMark bs ⊆ bs := by
  unfold withoutMark
  split
  · exact fun b hb => List.mem_append_right [0xEF, 0xBB, 0xBF] hb
  · exact List.Subset.refl _

/-- The characters within a number of bytes are characters of the text. -/
theorem withinBytes_subset (n : Nat) (cs : List Char) : withinBytes n cs ⊆ cs := by
  induction cs generalizing n with
  | nil => exact List.Subset.refl _
  | cons c cs ih =>
    unfold withinBytes
    split_ifs
    · exact List.cons_subset_cons c (ih _)
    · exact List.nil_subset _

/-- A line without its line break has no characters but its own. -/
theorem withoutBreak_subset (line : List Char) : withoutBreak line ⊆ line := by
  have hbefore (ending before : List Char) (h : line.reverse = ending ++ before) :
      before.reverse ⊆ line := by
    intro c hc
    rw [← List.mem_reverse, h]
    exact List.mem_append_right ending (List.mem_reverse.1 hc)
  unfold withoutBreak
  split
  · rename_i before h
    exact hbefore ['\n', '\r'] before h
  · rename_i before _ h
    exact hbefore ['\n'] before h
  · exact List.Subset.refl _

/-- Lines without a zero character make entries without one, whatever has begun before them. -/
theorem unbroken_of_mem_gather {lines : List (List UInt8)} {begun : List Char} {s : Scan}
    (hlines : ∀ line ∈ lines, ∀ cs, Text.Utf8.decode? line = some cs → Unbroken cs)
    (hbegun : Unbroken begun) : ∀ entry, some entry ∈ gather begun s lines → Unbroken entry := by
  -- For any beginning, since a line may leave its entry unfinished.
  induction lines generalizing begun s with
  | nil =>
    unfold gather
    intro entry
    split_ifs <;> simp
  | cons line lines ih =>
    obtain ⟨hline, hlines⟩ := List.forall_mem_cons.1 hlines
    -- An entry that ends in this line is part of what has been gathered.
    have hends {part : List Char} (hpart : Unbroken part) :
        ∀ entry, some entry ∈ some part :: gather [] .plain lines → Unbroken entry := by
      intro entry hentry
      rcases List.mem_cons.1 hentry with hfirst | hlater
      · rwa [Option.some.inj hfirst]
      · exact ih hlines .nil entry hlater
    unfold gather
    cases hcs : Text.Utf8.decode? line with
    | none => simp
    | some cs =>
      have hall : Unbroken (begun ++ cs) := hbegun.append (hline cs hcs)
      dsimp only
      split_ifs with hcomment
      · exact ih hlines .nil
      · split
        · exact hends (hall.of_subset (withinBytes_subset _ _))
        · exact hends (hall.of_subset (withoutBreak_subset _))
        · exact ih hlines hall

/-! ## Values -/

/-- No backslash makes a zero character. -/
theorem ne_zero_of_escaped? {c d : Char} (h : escaped? c = some d) : d ≠ '\x00' := by
  unfold escaped? at h
  split_ifs at h with hself hfeed
  · cases h
    rcases hself with rfl | rfl | rfl | rfl | rfl <;> decide
  · cases h
    decide

/-- A text without a zero character stands before values without one. -/
theorem unbroken_of_map {before v : List Char} {r : Option (List Char)}
    (hbefore : Unbroken before) (hr : ∀ w, r = some w → Unbroken w)
    (h : r.map (before ++ ·) = some v) : Unbroken v := by
  obtain ⟨w, hw, rfl⟩ := Option.map_eq_some_iff.1 h
  exact hbefore.append (hr w hw)

/-- A value that is written without a zero character has none, if the variables have none. -/
theorem unbroken_of_readValue {vs : Variables} (hvs : ∀ name, Unbroken (substitute vs name))
    {p : Place} {cs v : List Char} (h : readValue vs p cs = some v) (hcs : Unbroken cs) :
    Unbroken v := by
  fun_induction readValue vs p cs generalizing v
  -- There is no value.
  case case4 | case5 | case8 | case9 | case12 | case18 | case21 => cases h
  -- The value ends, behind a name or not.
  case case1 | case3 | case6 | case22 =>
    cases h
    exact .nil
  case case13 read _ =>
    cases h
    exact hvs read
  -- The value goes on, and the character is not part of it.
  case case2 ih | case10 ih | case14 ih | case15 ih | case20 ih | case23 ih | case24 ih | case25 ih |
      case27 ih | case28 ih =>
    exact ih h (Unbroken.cons_iff.1 hcs).2
  -- The character is part of the value, or the one is for which it stands.
  case case11 ih | case26 ih | case29 ih =>
    obtain ⟨hc, hrest⟩ := Unbroken.cons_iff.1 hcs
    exact unbroken_of_map (.singleton hc) (fun w hw => ih hw hrest) h
  case case7 hd ih =>
    have hrest := (Unbroken.cons_iff.1 hcs).2
    exact unbroken_of_map (.singleton (ne_zero_of_escaped? hd)) (fun w hw => ih hw hrest) h
  -- A name ends, and the text of its variable is part of the value.
  case case16 ih | case19 ih =>
    have hrest := (Unbroken.cons_iff.1 hcs).2
    exact unbroken_of_map (hvs _) (fun w hw => ih hw hrest) h
  case case17 ih =>
    obtain ⟨hc, hrest⟩ := Unbroken.cons_iff.1 hcs
    obtain ⟨w, hw, rfl⟩ := Option.map_eq_some_iff.1 h
    exact (hvs _).append (Unbroken.cons_iff.2 ⟨hc, ih hw hrest⟩)

/-- A text without the blanks at its ends has no characters but its own. -/
theorem trim_subset (cs : List Char) : Text.trim cs ⊆ cs := by
  unfold Text.trim Text.strip
  intro c hc
  have hinner := (List.dropWhile_sublist _).subset (List.mem_reverse.1 hc)
  exact (List.dropWhile_sublist _).subset (List.mem_reverse.1 hinner)

/-- What follows a name has no characters but those of the text. -/
theorem subset_of_readName? {cs rest : List Char} {name : String}
    (h : readName? cs = some (name, rest)) : rest ⊆ cs := by
  unfold readName? at h
  split at h
  · split_ifs at h
    cases h
    exact ((List.dropWhile_sublist _).trans (List.dropWhile_sublist _)).subset
  · cases h

/-- What follows the equals sign has no characters but those of the text. -/
theorem subset_of_readHead? {cs rest : List Char} {name : String}
    (h : readHead? cs = some (name, rest)) : rest ⊆ cs := by
  have hsign {text : List Char} {name : String} (hname : readName? text = some (name, '=' :: rest)) :
      rest ⊆ text :=
    fun _ hc => subset_of_readName? hname (List.mem_cons_of_mem _ hc)
  unfold readHead? at h
  split at h
  · rename_i hname
    cases h
    exact hsign hname
  · rename_i hexport
    split at h
    · rename_i hname
      cases h
      exact fun _ hc => subset_of_readName? hexport (hsign hname hc)
    · cases h
  · cases h

/-- An entry without a zero character says a value without one. -/
theorem unbroken_of_readEntry {vs : Variables} (hvs : ∀ name, Unbroken (substitute vs name))
    {line : List Char} {name value : String} (h : readEntry vs line = .variable name value)
    (hline : Unbroken line) : Unbroken value.toList := by
  unfold readEntry at h
  dsimp only at h
  split_ifs at h
  cases hhead : readHead? (Text.trim line) with
  | none =>
    rw [hhead] at h
    cases h
  | some head =>
    obtain ⟨name', rest⟩ := head
    have hrest : Unbroken (rest.dropWhile isBlank) :=
      hline.of_subset fun _ hc =>
        trim_subset line (subset_of_readHead? hhead ((List.dropWhile_sublist _).subset hc))
    rw [hhead] at h
    dsimp only at h
    split_ifs at h
    · cases h
      exact .nil
    · split at h
      · rename_i v hv
        cases h
        rw [String.toList_ofList]
        exact unbroken_of_readValue hvs hv hrest
      · cases h

/-! ## Variables -/

/-- The values of variables have no zero byte. -/
def Storable (vs : Variables) : Prop :=
  ∀ e ∈ vs.entries, 0 ∉ e.2

/-- What stands for a variable that is referred to has no zero character. -/
theorem Storable.unbroken_substitute {vs : Variables} (h : Storable vs) (name : List Char) :
    Unbroken (substitute vs name) := by
  unfold substitute Variables.text? Variables.bytes?
  cases hfind : vs.entries.find? (·.1 == String.ofList name) with
  | none => exact .nil
  | some e =>
    have he : 0 ∉ e.2 := h e (List.mem_of_find?_eq_some hfind)
    simp only [Option.map_some, Option.bind_some]
    cases hdecode : Text.Utf8.decode? e.2 with
    | none => exact .nil
    | some cs =>
      rw [Option.map_some, Option.getD_some, String.toList_ofList]
      exact .of_decode? hdecode he

/-- A variable may be set to a text without a zero character. -/
theorem Storable.set {vs : Variables} (h : Storable vs) (name : String) {value : String}
    (hvalue : Unbroken value.toList) : Storable (vs.set name value) := by
  refine List.forall_mem_cons.2 ⟨fun hzero => hvalue ?_, h⟩
  exact Text.Utf8.ofNat_mem_of_mem_encode value.toList 0 (by decide) hzero

/-- A variable can have a value exactly if that is a text without a zero character. -/
theorem isSettable_iff (value : String) : isSettable value = true ↔ Unbroken value.toList := by
  simp [isSettable, Unbroken]

/-- Entries without a zero character do not end the program. -/
theorem addEntries_not_fatal {vs : Variables} {entries : List (Option (List Char))}
    (hvs : Storable vs) (hentries : ∀ entry, some entry ∈ entries → Unbroken entry) :
    (addEntries vs entries).fatal = false := by
  -- For any variables, since an entry that sets one changes what the later ones refer to.
  induction entries generalizing vs with
  | nil => rfl
  | cons entry entries ih =>
    have hrest : ∀ e, some e ∈ entries → Unbroken e := fun e he =>
      hentries e (List.mem_cons_of_mem _ he)
    cases entry with
    | none => rfl
    | some line =>
      have hline : Unbroken line := hentries line List.mem_cons_self
      unfold addEntries
      split
      · exact ih hvs hrest
      · rename_i name value hentry
        have hvalue : Unbroken value.toList :=
          unbroken_of_readEntry hvs.unbroken_substitute hentry hline
        split_ifs with hset hsettable
        · exact ih hvs hrest
        · exact ih (hvs.set name hvalue) hrest
        · exact absurd ((isSettable_iff value).2 hvalue) hsettable
      · rfl

/-- A file without a zero byte does not end the program. -/
theorem load_not_fatal {vs : Variables} {file : List UInt8} (hvs : Storable vs)
    (hfile : 0 ∉ file) : (load vs file).fatal = false := by
  refine addEntries_not_fatal hvs (unbroken_of_mem_gather ?_ .nil)
  intro line hline cs hcs
  have hbytes : line ⊆ file := fun _ hb =>
    withoutMark_subset file (subset_of_mem_splitLines _ line hline hb)
  exact .of_decode? hcs fun hzero => hfile (hbytes hzero)

/-- With a zero byte it may: a variable that is not set yet is to have a value with a zero character. -/
example :
    let file := Text.Utf8.encode "x=y\nz=\x00".toList
    (load ⟨[("x", [])]⟩ file).fatal = true ∧ (load ⟨[("z", [])]⟩ file).fatal = false := by
  decide +kernel

end MainContent.Settings.Dotenv
