import MainContent.Proofs.Settings.Assignment

/-!
# What a file of variables passes on

A value in a file may refer to a variable, and then the variable that is given the value receives what
the other one holds (`Receives`). Two sets of variables that are the same beside some variables are
completed by a file to sets that are the same beside those variables, if whatever receives something from
them is one of them (`SameBeside.assign`).

Whether a value can be set at all is followed too (`SameBeside.settable`): a value with a zero character
ends the program, and it must do so for both sets or for neither.
-/

namespace MainContent.Settings

namespace Variables

/-- Where one variable is set, the others are as they were. -/
theorem bytes?_set_of_ne (vs : Variables) {name other : String} (value : String)
    (h : name ≠ other) : (vs.set name value).bytes? other = vs.bytes? other := by
  unfold bytes? set
  rw [List.find?_cons_of_neg (by simpa using h)]

/-- A variable that has been set has the text, and the others are as they were. -/
theorem text?_set (vs : Variables) (name value other : String) :
    (vs.set name value).text? other = if name = other then some value else vs.text? other := by
  have hdecode : Text.Utf8.decode? (Text.Utf8.encode value.toList) = some value.toList :=
    (Text.Utf8.decode?_eq_some_iff _ _).2 (Text.Utf8.read_encode _)
  by_cases hname : name = other
  · unfold text? bytes? set
    rw [if_pos hname, List.find?_cons_of_pos (by simpa using hname)]
    show (Text.Utf8.decode? (Text.Utf8.encode value.toList)).map String.ofList = some value
    rw [hdecode, Option.map_some, String.ofList_toList]
  · rw [if_neg hname, text?, text?, bytes?_set_of_ne vs value hname]

end Variables

namespace Dotenv

/-- A variable receives what a variable holds: it is that variable, or it is not set yet and is given a
value that refers to one which receives it. -/
inductive Receives (vs : Variables) (as : List Assignment) (source : String) : String → Prop where
  | source : Receives vs as source source
  | passed {a : Assignment} {name : String} (mem : a ∈ as) (unset : vs.text? a.name = none)
    (mentions : a.Mentions name) (received : Receives vs as source name) :
    Receives vs as source a.name

/-- What receives something from a variable is in each set of variables that holds that one, and holds
each that is given a value from it. -/
theorem Receives.of_closed {vs : Variables} {as : List Assignment} {source name : String}
    {hidden : String → Prop} (h : Receives vs as source name) (hsource : hidden source)
    (hclosed : ∀ a ∈ as, ∀ name, a.Mentions name → hidden name → hidden a.name) : hidden name := by
  induction h with
  | source => exact hsource
  | passed mem _ mentions _ ih => exact hclosed _ mem _ mentions ih

/-! ## The same variables beside some -/

/-- Two sets of variables are the same beside hidden ones, which are set in both or in neither, and to
values that can be set or that cannot. -/
structure SameBeside (hidden : String → Prop) (vs vs' : Variables) : Prop where
  /-- A variable that is not hidden has one text. -/
  text : ∀ name, ¬ hidden name → vs.text? name = vs'.text? name
  /-- Every variable is set in both or in neither, with or without a zero character. -/
  settable : ∀ name, (vs.text? name).map isSettable = (vs'.text? name).map isSettable

/-- What cannot be carried out of assignments, if anything, is of one variable, and of one value unless
that variable is hidden. -/
def SameRefusal (hidden : String → Prop) : Option (String × String) → Option (String × String) → Prop :=
  Option.Rel fun r r' => r.1 = r'.1 ∧ (¬ hidden r.1 → r.2 = r'.2)

/-- If that variable is not hidden, it is the same. -/
theorem SameRefusal.eq {hidden : String → Prop} {r r' : Option (String × String)} (h : SameRefusal hidden r r')
    (hshown : ∀ refusal ∈ r, ¬ hidden refusal.1) : r = r' := by
  cases h with
  | none => rfl
  | some hrel =>
    obtain ⟨hname, hvalue⟩ := hrel
    exact congrArg some (Prod.ext hname (hvalue (hshown _ rfl)))

namespace SameBeside

variable {hidden : String → Prop} {vs vs' : Variables} {a : Assignment}

/-- The same variables are set. -/
theorem isSome (h : SameBeside hidden vs vs') (name : String) :
    (vs.text? name).isSome = (vs'.text? name).isSome := by
  have hsettable := congrArg Option.isSome (h.settable name)
  rwa [Option.isSome_map, Option.isSome_map] at hsettable

/-- A value that refers to no hidden variable is one text. -/
theorem text_eq (h : SameBeside hidden vs vs') (ha : ∀ name, a.Mentions name → ¬ hidden name) :
    a.text vs = a.text vs' := by
  have hpiece : ∀ piece ∈ a.value, piece.expand vs = piece.expand vs' := by
    intro piece hmem
    cases piece with
    | char c => rfl
    | reference name =>
      rw [Piece.expand, Piece.expand, substitute, substitute, String.ofList_toList,
        h.text name (ha name hmem)]
  rw [Assignment.text, Assignment.text, expand, expand, List.flatMap_def, List.flatMap_def,
    List.map_congr_left hpiece]

/-- What stands for a part of a value has a zero character for both sets or for neither. -/
theorem zero_mem_expand_iff (h : SameBeside hidden vs vs') (piece : Piece) :
    '\x00' ∈ piece.expand vs ↔ '\x00' ∈ piece.expand vs' := by
  cases piece with
  | char c => rfl
  | reference name =>
    have hsettable := h.settable name
    rw [Piece.expand, Piece.expand, substitute, substitute, String.ofList_toList]
    cases htext : vs.text? name with
    | none =>
      rw [htext, Option.map_none, eq_comm, Option.map_eq_none_iff] at hsettable
      rw [hsettable]
    | some text =>
      rw [htext, Option.map_some, eq_comm, Option.map_eq_some_iff] at hsettable
      obtain ⟨text', htext', hsame⟩ := hsettable
      rw [htext', Option.getD_some, Option.getD_some, ← Decidable.not_iff_not]
      show Unbroken text.toList ↔ Unbroken text'.toList
      rw [← isSettable_iff, ← isSettable_iff, hsame]

/-- A value can be set for both sets or for neither, whatever it refers to. -/
theorem isSettable_text (h : SameBeside hidden vs vs') (a : Assignment) :
    isSettable (a.text vs) = isSettable (a.text vs') := by
  have hunbroken (ws : Variables) :
      isSettable (a.text ws) = true ↔ ∀ piece ∈ a.value, '\x00' ∉ piece.expand ws := by
    rw [isSettable_iff, Assignment.text, String.toList_ofList, Unbroken, expand, List.mem_flatMap]
    simp only [not_exists, not_and]
  rw [Bool.eq_iff_iff, hunbroken, hunbroken]
  exact forall₂_congr fun piece _ => not_congr (h.zero_mem_expand_iff piece)

/-- A variable may be set to one value in both sets, or to two values if it is hidden. -/
theorem set (h : SameBeside hidden vs vs') {name value value' : String}
    (hvalue : ¬ hidden name → value = value') (hsettable : isSettable value = isSettable value') :
    SameBeside hidden (vs.set name value) (vs'.set name value') := by
  constructor
  · intro other hother
    rw [Variables.text?_set, Variables.text?_set]
    split_ifs with hname
    · subst hname
      rw [hvalue hother]
    · exact h.text other hother
  · intro other
    rw [Variables.text?_set, Variables.text?_set]
    split_ifs
    · exact congrArg some hsettable
    · exact h.settable other

/-- Assignments keep two sets the same beside the hidden variables, if what is given a value from hidden
variables is hidden, and the same cannot be carried out of them. -/
theorem assign (h : SameBeside hidden vs vs') {as : List Assignment}
    (hclosed : ∀ a ∈ as, vs.text? a.name = none → ∀ name, a.Mentions name → hidden name →
      hidden a.name) :
    SameBeside hidden (assign vs as).completed (assign vs' as).completed ∧
      SameRefusal hidden (refused? vs as) (refused? vs' as) := by
  -- For any two sets, since each assignment changes both of them.
  induction as generalizing vs vs' with
  | nil => exact ⟨h, .none⟩
  | cons a as ih =>
    obtain ⟨hfirst, hrest⟩ := List.forall_mem_cons.1 hclosed
    have hvalue (hunset : vs.text? a.name = none) (hname : ¬ hidden a.name) :
        a.text vs = a.text vs' :=
      h.text_eq fun name hmentions hhidden => hname (hfirst hunset name hmentions hhidden)
    rw [Dotenv.assign, Dotenv.assign, refused?, refused?, ← h.isSome a.name, ← h.isSettable_text a]
    split_ifs with hset hsettable
    · exact ih h hrest
    · have hunset : vs.text? a.name = none := by simpa using hset
      refine ih (h.set (hvalue hunset) (h.isSettable_text a)) fun b hb hnone => hrest b hb ?_
      -- What is not set after the assignment was not set before.
      rw [Variables.text?_set] at hnone
      split_ifs at hnone
      exact hnone
    · exact ⟨h, .some ⟨rfl, hvalue (by simpa using hset)⟩⟩

end SameBeside

/-- The text of a variable that a process can have can be set. -/
theorem Storable.isSettable {vs : Variables} (h : Storable vs) {name text : String}
    (htext : vs.text? name = some text) : isSettable text = true := by
  have hunbroken := h.unbroken_substitute name.toList
  rw [substitute, String.ofList_toList, htext, Option.getD_some] at hunbroken
  exact (isSettable_iff text).2 hunbroken

/-- A variable that is set keeps its text. -/
theorem text?_assign {vs : Variables} {name text : String} (h : vs.text? name = some text)
    (as : List Assignment) : (assign vs as).completed.text? name = some text := by
  induction as generalizing vs with
  | nil => exact h
  | cons a as ih =>
    rw [assign]
    split_ifs with hset
    · exact ih h
    · refine ih ?_
      rw [Variables.text?_set, if_neg, h]
      rintro rfl
      rw [h] at hset
      exact hset rfl
    · exact h

end Dotenv

end MainContent.Settings
