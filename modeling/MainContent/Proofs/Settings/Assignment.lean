import MainContent.Proofs.Settings.Dotenv
import MainContent.Proofs.Text.Table

/-!
# A file of variables is a row of assignments

What a file says can be read without the variables: it is a row of assignments, each of which gives a
name a value made of characters and of references to variables (`assignments`). Only then are the
assignments carried out, one after the other, with each reference replaced by what its variable holds at
that time (`assign`), up to one that cannot be carried out (`refused?`). `load_eq` says that loading a file
amounts to the one after the other.

The reader of the program replaces a reference as soon as its name ends. `readPieces` goes through the
same places of a value and keeps the reference instead, so that the two are compared place by place, and
nothing about places is needed after that (`readValue_eq`).
-/

namespace MainContent.Settings.Dotenv

open MainContent.Text (isBlank)

/-! ## Values as they are written -/

/-- A part of a value as it is written. -/
inductive Piece where
  /-- A character of the value. -/
  | char (c : Char)
  /-- A reference to a variable. -/
  | reference (name : String)
  deriving DecidableEq

/-- What stands for a part of a value with these variables. -/
def Piece.expand (vs : Variables) : Piece → List Char
  | .char c => [c]
  | .reference name => substitute vs name.toList

/-- The parts of the value that is written from a place on, or `none` when it cannot be read. -/
def readPieces : Place → List Char → Option (List Piece)
  | .done, [] => some []
  | .done, c :: cs =>
    if c = ' ' ∨ c = '\t' then readPieces .done cs
    else if c = '#' then some []
    else none
  | .escape quoted, [] => if quoted then none else some []
  | .escape quoted, c :: cs =>
    match escaped? c with
    | some d => (readPieces (.text quoted) cs).map (.char d :: ·)
    | none => none
  | .single, [] => none
  | .single, c :: cs =>
    if c = '\'' then readPieces (.text false) cs else (readPieces .single cs).map (.char c :: ·)
  | .name quoted read, [] => if quoted then none else some [.reference (String.ofList read)]
  | .name quoted read, c :: cs =>
    if Text.lettersAndNumbers.contains c then readPieces (.name quoted (read ++ [c])) cs
    else if c = '\x7b' ∧ read = [] then readPieces (.braced quoted []) cs
    else if c = '$' then (readPieces (.name quoted []) cs).map (.reference (String.ofList read) :: ·)
    else (readPieces (.text quoted) cs).map (.reference (String.ofList read) :: .char c :: ·)
  | .braced _ _, [] => none
  | .braced quoted read, c :: cs =>
    if c = '\x7d' then (readPieces (.text quoted) cs).map (.reference (String.ofList read) :: ·)
    else readPieces (.braced quoted (read ++ [c])) cs
  | .text quoted, [] => if quoted then none else some []
  | .text quoted, c :: cs =>
    if c = '$' then readPieces (.name quoted []) cs
    else if c = '\\' then readPieces (.escape quoted) cs
    else if c = '"' then readPieces (.text (!quoted)) cs
    else if quoted then (readPieces (.text true) cs).map (.char c :: ·)
    else if c = '\'' then readPieces .single cs
    else if c = ' ' ∨ c = '\t' then readPieces .done cs
    else (readPieces (.text false) cs).map (.char c :: ·)

/-- The text of a value with these variables. -/
def expand (vs : Variables) (value : List Piece) : List Char :=
  value.flatMap (Piece.expand vs)

@[simp] theorem expand_nil (vs : Variables) : expand vs [] = [] :=
  rfl

@[simp] theorem expand_char (vs : Variables) (c : Char) (value : List Piece) :
    expand vs (.char c :: value) = c :: expand vs value :=
  rfl

@[simp] theorem expand_reference (vs : Variables) (name : List Char) (value : List Piece) :
    expand vs (.reference (String.ofList name) :: value) = substitute vs name ++ expand vs value := by
  rw [expand, List.flatMap_cons, Piece.expand, String.toList_ofList]
  rfl

/-- The value that is read is the text of its parts. -/
theorem readValue_eq (vs : Variables) (p : Place) (cs : List Char) :
    readValue vs p cs = (readPieces p cs).map (expand vs) := by
  -- Along the places of the value: both readers go from the same place to the same next one.
  fun_induction readValue vs p cs
  -- There is no value, or it ends.
  case case1 | case3 | case4 | case5 | case6 | case8 | case9 | case12 | case13 | case18 | case21 |
      case22 =>
    simp [readPieces, *]
  -- The value goes on, and the character is not part of it.
  case case2 ih | case10 ih | case14 ih | case20 ih | case23 ih | case24 ih | case25 ih | case27 ih |
      case28 ih =>
    simp [readPieces, *]
  case case15 hletter hbrace ih => rw [readPieces, if_neg hletter, if_pos hbrace, ih]
  -- The character is part of the value, or the one is for which it stands.
  case case7 ih | case11 ih | case26 ih | case29 ih =>
    simp [readPieces, *, Option.map_map, Function.comp_def]
  -- A name ends, and the reference is part of the value.
  case case16 ih | case19 ih =>
    simp [readPieces, *, Option.map_map, Function.comp_def]
  case case17 hletter hbrace hsign ih =>
    rw [readPieces, if_neg hletter, if_neg hbrace, if_neg hsign, ih]
    simp [Option.map_map, Function.comp_def]

/-- A brace is neither a letter nor a number. -/
theorem not_contains_brace : Text.lettersAndNumbers.contains '\x7b' = false := by
  refine Text.CodePoints.not_contains_of_outside ?_
  -- One step for each line of the table.
  repeat refine .cons (by decide +kernel) ?_
  exact .nil _

/-- A name is read up to the brace behind it. -/
theorem readPieces_braced (quoted : Bool) {name : List Char} (h : '\x7d' ∉ name)
    (read cs : List Char) :
    readPieces (.braced quoted read) (name ++ '\x7d' :: cs) =
      (readPieces (.text quoted) cs).map (.reference (String.ofList (read ++ name)) :: ·) := by
  induction name generalizing read with
  | nil => rw [List.nil_append, readPieces, if_pos rfl, List.append_nil]
  | cons c name ih =>
    obtain ⟨hc, hname⟩ := not_or.1 (mt List.mem_cons.2 h)
    rw [List.cons_append, readPieces, if_neg (Ne.symm hc), ih hname, List.append_assoc,
      List.singleton_append]

/-- A name in braces behind the sign is a reference. -/
theorem readPieces_reference (quoted : Bool) {name : List Char} (h : '\x7d' ∉ name)
    (cs : List Char) :
    readPieces (.text quoted) ('$' :: '\x7b' :: (name ++ '\x7d' :: cs)) =
      (readPieces (.text quoted) cs).map (.reference (String.ofList name) :: ·) := by
  have hopen : readPieces (.name quoted []) ('\x7b' :: (name ++ '\x7d' :: cs)) =
      readPieces (.braced quoted []) (name ++ '\x7d' :: cs) := by
    rw [readPieces, not_contains_brace, if_neg Bool.false_ne_true, if_pos ⟨rfl, rfl⟩]
  rw [readPieces, if_pos rfl, hopen, readPieces_braced quoted h, List.nil_append]

/-! ## Entries as they are written -/

/-- What an entry says, as it is written. -/
inductive Written where
  /-- Nothing: it is empty or a comment. -/
  | nothing
  /-- A variable is given a value. -/
  | assignment (name : String) (value : List Piece)
  /-- It cannot be read. -/
  | damaged

/-- Reads an entry, without the variables to which its value refers. -/
def Written.ofLine (line : List Char) : Written :=
  let cs := Text.trim line
  if isVoid cs then .nothing
  else
    match readHead? cs with
    | none => .damaged
    | some (name, rest) =>
      let value := rest.dropWhile isBlank
      if isVoid value then .assignment name []
      else
        match readPieces (.text false) value with
        | some pieces => .assignment name pieces
        | none => .damaged

/-- What an entry says with these variables. -/
def Written.entry (vs : Variables) : Written → Entry
  | .nothing => .nothing
  | .assignment name value => .variable name (String.ofList (expand vs value))
  | .damaged => .damaged

/-- An entry says what is written in it. -/
theorem readEntry_eq (vs : Variables) (line : List Char) :
    readEntry vs line = (Written.ofLine line).entry vs := by
  unfold readEntry Written.ofLine
  dsimp only
  by_cases hvoid : isVoid (Text.trim line) = true
  · rw [if_pos hvoid, if_pos hvoid]
    rfl
  · rw [if_neg hvoid, if_neg hvoid]
    cases readHead? (Text.trim line) with
    | none => rfl
    | some head =>
      obtain ⟨name, rest⟩ := head
      dsimp only
      by_cases hempty : isVoid (rest.dropWhile isBlank) = true
      · rw [if_pos hempty, if_pos hempty]
        rfl
      · rw [if_neg hempty, if_neg hempty, readValue_eq]
        cases readPieces (.text false) (rest.dropWhile isBlank) <;> rfl

/-! ## Files -/

/-- A variable is given a value. -/
structure Assignment where
  /-- The name of the variable. -/
  name : String
  /-- The value as it is written. -/
  value : List Piece

namespace Assignment

/-- The value with these variables. -/
def text (vs : Variables) (a : Assignment) : String :=
  String.ofList (expand vs a.value)

/-- The value refers to a variable. -/
def Mentions (a : Assignment) (name : String) : Prop :=
  .reference name ∈ a.value

instance (a : Assignment) (name : String) : Decidable (a.Mentions name) :=
  inferInstanceAs (Decidable (_ ∈ _))

end Assignment

/-- The assignments in entries, up to the first entry that cannot be read. -/
def assignmentsIn : List (Option (List Char)) → List Assignment
  | [] => []
  | none :: _ => []
  | some line :: lines =>
    match Written.ofLine line with
    | .nothing => assignmentsIn lines
    | .assignment name value => ⟨name, value⟩ :: assignmentsIn lines
    | .damaged => []

/-- Carries out assignments: a variable that has a text already keeps it. -/
def assign (vs : Variables) : List Assignment → Loaded
  | [] => { completed := vs }
  | a :: as =>
    if (vs.text? a.name).isSome then assign vs as
    else if isSettable (a.text vs) then assign (vs.set a.name (a.text vs)) as
    else { completed := vs, fatal := true }

/-- The assignment that cannot be carried out, if there is one: its variable, and the value that no
variable can have. -/
def refused? (vs : Variables) : List Assignment → Option (String × String)
  | [] => none
  | a :: as =>
    if (vs.text? a.name).isSome then refused? vs as
    else if isSettable (a.text vs) then refused? (vs.set a.name (a.text vs)) as
    else some (a.name, a.text vs)

/-- The program ends if an assignment cannot be carried out. -/
theorem fatal_assign (vs : Variables) (as : List Assignment) :
    (assign vs as).fatal = (refused? vs as).isSome := by
  induction as generalizing vs with
  | nil => rfl
  | cons a as ih =>
    rw [assign, refused?]
    split_ifs
    · exact ih vs
    · exact ih _
    · rfl

/-- Completing variables by entries is carrying out the assignments in them. -/
theorem addEntries_eq (vs : Variables) (entries : List (Option (List Char))) :
    addEntries vs entries = assign vs (assignmentsIn entries) := by
  -- For any variables, since an assignment changes what the later ones refer to.
  induction entries generalizing vs with
  | nil => rfl
  | cons entry entries ih =>
    cases entry with
    | none => rfl
    | some line =>
      rw [addEntries, assignmentsIn, readEntry_eq]
      cases Written.ofLine line with
      | nothing => exact ih vs
      | damaged => rfl
      | assignment name value =>
        show (if (vs.text? name).isSome then _ else _) = assign vs (⟨name, value⟩ :: assignmentsIn entries)
        rw [assign, ih, ih]
        rfl

/-- The assignments in a file. -/
def assignments (file : List UInt8) : List Assignment :=
  assignmentsIn (gather [] .plain (splitLines (withoutMark file)))

/-- Loading a file is carrying out the assignments in it. -/
theorem load_eq (vs : Variables) (file : List UInt8) : load vs file = assign vs (assignments file) :=
  addEntries_eq vs _

/-- A file of one line that refers to a variable is one assignment. -/
theorem assignments_of_reference {file : List UInt8} {line : List Char} {name source : String}
    (hfile : gather [] .plain (splitLines (withoutMark file)) = [some line])
    (hvoid : isVoid (Text.trim line) = false) (hsource : '\x7d' ∉ source.toList)
    (hhead : readHead? (Text.trim line) =
      some (name, '$' :: '\x7b' :: (source.toList ++ ['\x7d']))) :
    assignments file = [⟨name, [.reference source]⟩] := by
  have hwritten : Written.ofLine line = .assignment name [.reference source] := by
    unfold Written.ofLine
    dsimp only
    rw [hvoid, if_neg Bool.false_ne_true, hhead]
    dsimp only
    rw [List.dropWhile_cons_of_neg (by decide), if_neg (by simp [isVoid]),
      readPieces_reference false hsource, String.ofList_toList]
    rfl
  rw [assignments, hfile, assignmentsIn, hwritten]
  rfl

end MainContent.Settings.Dotenv
