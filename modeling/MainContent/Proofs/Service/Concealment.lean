import MainContent.Proofs.Service.Startup
import MainContent.Proofs.Settings.Alike
import MainContent.Proofs.Settings.Passing
import MainContent.Service.AuthKey

/-!
# The auth key does not show

Two processes whose variables differ in nothing but the auth key, and hold a secret there, start alike
(`start_conceals_key`): they report the same, and end or listen in the same way, with configurations
that differ in nothing but the key and are shown by one text.

A file of variables can refer to the key, and so pass it on to a variable that shows
(`start_reveals_passed_key`). What the processes start with is therefore followed through the file: a
variable shows if the start reads it, or if it is given a value that it cannot have, which is reported
when the program ends (`Conceals`).
-/

namespace MainContent.Service

open MainContent.Settings (Config Alike IsSecret Variable Variables)
open MainContent.Settings.Dotenv (Assignment Receives SameBeside SameRefusal Storable assign refused?)

/-- What the program goes on to do, with another key. -/
def Course.withKey (key : String) : Course → Course
  | .exit code => .exit code
  | .listen c => .listen (c.withKey key)

namespace Startup

/-- The start with another key: what it reports is the same. -/
def withKey (s : Startup) (key : String) : Startup :=
  { s with course := s.course.withKey key }

/-- A start that shows the same lines shows them with another key too. -/
theorem shownLines_withKey (vs : Variables) (s : Startup) (key : String) :
    shownLines vs (s.withKey key) = shownLines vs s :=
  rfl

section Processes

variable {vs vs' : Variables} {key key' : String}

/-- A health check says the same of both. -/
theorem healthCheck_of_alike (h : Alike vs vs' key key') :
    healthCheck vs' = (healthCheck vs).withKey key' := by
  rw [healthCheck, healthCheck, Config.ofVariables_of_alike h]
  cases Config.ofVariables vs <;> rfl

/-- The service starts with both alike, but for the key. -/
theorem serve_of_alike (h : Alike vs vs' key key') (processors : Nat) :
    serve vs' processors = (serve vs processors).withKey key' := by
  unfold serve
  rw [Config.ofVariables_of_alike h]
  cases Config.ofVariables vs with
  | error cause => rfl
  | ok c =>
    -- Nothing of the preparation, and nothing that is reported, is about the key.
    have hprepare : Fetch.prepare (c.withKey key').fetch = Fetch.prepare c.fetch := rfl
    rw [Except.map]
    dsimp only
    rw [hprepare]
    cases Fetch.prepare c.fetch <;> rfl

/-- The program starts with both alike, but for the key. -/
theorem ofProcess_of_alike (h : Alike vs vs' key key') (args : List String)
    (processors : Nat) : ofProcess args vs' processors = (ofProcess args vs processors).withKey key' := by
  unfold ofProcess
  split_ifs
  · exact healthCheck_of_alike h
  · exact serve_of_alike h processors

end Processes

/-! ## Files of variables -/

/-- The assignments in a file of variables, if there is one. -/
def assignments (file : Option (List UInt8)) : List Assignment :=
  (file.map Settings.Dotenv.assignments).getD []

/-- The variables of a process are completed by the assignments in the file. -/
theorem loaded_eq (vs : Variables) (file : Option (List UInt8)) :
    loaded vs file = assign vs (assignments file) := by
  cases file with
  | none => rfl
  | some bs => exact Settings.Dotenv.load_eq vs bs

/-- The start reads a variable, beside the key: the filter of the log is read from it, or a part of the
configuration. -/
inductive IsRead : String → Prop where
  | filter : IsRead filterVariable
  | setting (v : Variable) (hv : v ≠ .authKey) : IsRead v.name

/-- What the start reads beside the key is not the key. -/
theorem IsRead.ne_authKey {name : String} (h : IsRead name) : name ≠ Variable.authKey.name := by
  cases h with
  | filter => decide
  | setting v hv =>
    revert hv
    cases v <;> decide

/-- A file of variables conceals the key: it passes the key on to no variable that the start reads, and
to none with which it ends the program, since the value that this one was to have is reported. -/
structure Conceals (vs : Variables) (file : Option (List UInt8)) : Prop where
  /-- The key does not get where the start reads. -/
  read : ∀ name, IsRead name → ¬ Receives vs (assignments file) Variable.authKey.name name
  /-- The key does not get where the program ends. -/
  refused : ∀ r ∈ refused? vs (assignments file),
    ¬ Receives vs (assignments file) Variable.authKey.name r.1

/-- Where there is no file, nothing is passed on. -/
theorem conceals_none (vs : Variables) : Conceals vs none := by
  constructor
  · intro name hread hreceives
    exact hread.ne_authKey (hreceives.of_closed rfl (List.forall_mem_nil _)).symm
  · nofun

section Files

variable {vs vs' : Variables} {key key' : String}

/-- What a file completes is the same beside the variables to which it passes the key on, and it ends the
program with one variable, if at all. -/
theorem sameBeside_completed
    (hsame : ∀ name, name ≠ Variable.authKey.name → vs.bytes? name = vs'.bytes? name)
    (hkey : vs.text? Variable.authKey.name = some key)
    (hkey' : vs'.text? Variable.authKey.name = some key')
    (hvs : Storable vs) (hvs' : Storable vs') (file : Option (List UInt8)) :
    let hidden := Receives vs (assignments file) Variable.authKey.name
    SameBeside hidden (completed vs file) (completed vs' file) ∧
      SameRefusal hidden (refused? vs (assignments file)) (refused? vs' (assignments file)) := by
  intro hidden
  have htext (name : String) (hname : name ≠ Variable.authKey.name) :
      vs.text? name = vs'.text? name := by
    rw [Variables.text?, Variables.text?, hsame name hname]
  have hbefore : SameBeside hidden vs vs' := by
    constructor
    · intro name hname
      refine htext name ?_
      rintro rfl
      exact hname .source
    · intro name
      by_cases hname : name = Variable.authKey.name
      · rw [hname, hkey, hkey', Option.map_some, Option.map_some, hvs.isSettable hkey,
          hvs'.isSettable hkey']
      · rw [htext name hname]
  rw [completed, completed, loaded_eq, loaded_eq]
  exact hbefore.assign fun a ha hunset name hmentions hname => .passed ha hunset hmentions hname

/-- A file that conceals the key completes two processes that differ in nothing but the key to ones that
differ in nothing but the key, as far as the start reads them, and ends both with one message or
neither. -/
theorem alike_completed {file : Option (List UInt8)}
    (hsame : ∀ name, name ≠ Variable.authKey.name → vs.bytes? name = vs'.bytes? name)
    (hkey : vs.text? Variable.authKey.name = some key)
    (hkey' : vs'.text? Variable.authKey.name = some key')
    (hsecret : IsSecret key) (hsecret' : IsSecret key')
    (hvs : Storable vs) (hvs' : Storable vs') (hfile : Conceals vs file) :
    Alike (completed vs file) (completed vs' file) key key' ∧
      filterText (completed vs' file) = filterText (completed vs file) ∧
      refused? vs' (assignments file) = refused? vs (assignments file) := by
  obtain ⟨hbeside, hrefused⟩ := sameBeside_completed hsame hkey hkey' hvs hvs' file
  have htext (name : String) (hname : IsRead name) :
      (completed vs file).text? name = (completed vs' file).text? name :=
    hbeside.text name (hfile.read name hname)
  have hkeeps {ws : Variables} {text : String} (h : ws.text? Variable.authKey.name = some text) :
      (completed ws file).text? Variable.authKey.name = some text := by
    rw [completed, loaded_eq]
    exact Settings.Dotenv.text?_assign h _
  exact ⟨⟨fun v hv => htext v.name (.setting v hv), hkeeps hkey, hkeeps hkey', hsecret, hsecret'⟩,
    by rw [filterText, filterText, htext filterVariable .filter], (hrefused.eq hfile.refused).symm⟩

end Files

/-! ## Results -/

/-- Two processes whose variables differ in nothing but the auth key, and hold a secret there, start
alike. The configuration is accepted in both or in neither, with the same error, and the two
configurations differ in nothing but the key; they are shown by one text, and so are the keys.

With any file of variables that conceals the key, and so without a file, the program ends or listens in
the same way, and it reports the same: in the log, about the filter of the log, and about a value that no
variable can have. -/
theorem start_conceals_key {vs vs' : Variables} {key key' : String}
    (hsame : ∀ name, name ≠ "EXTRACTOR_AUTH_KEY" → vs.bytes? name = vs'.bytes? name)
    (hkey : vs.text? "EXTRACTOR_AUTH_KEY" = some key)
    (hkey' : vs'.text? "EXTRACTOR_AUTH_KEY" = some key')
    (hsecret : IsSecret key) (hsecret' : IsSecret key') :
    Config.ofVariables vs' = (Config.ofVariables vs).map (·.withKey key') ∧
    (∀ c, Config.ofVariables vs = .ok c → ∀ processors,
      (c.withKey key').shown processors = c.shown processors ∧
        (AuthKey.mk (c.withKey key').authKey).shown = (AuthKey.mk c.authKey).shown) ∧
    (∀ args file processors, Storable vs → Storable vs' → Conceals vs file →
      let start := withFile args vs file processors
      let start' := withFile args vs' file processors
      start' = start.withKey key' ∧
        shownLines (completed vs' file) start' = shownLines (completed vs file) start ∧
        warnings args (completed vs' file) = warnings args (completed vs file) ∧
        refused? vs' (assignments file) = refused? vs (assignments file)) ∧
    Conceals vs none := by
  have htext (v : Variable) (hv : v ≠ .authKey) : vs.text? v.name = vs'.text? v.name := by
    rw [Variables.text?, Variables.text?, hsame v.name (IsRead.setting v hv).ne_authKey]
  have halike : Alike vs vs' key key' := ⟨htext, hkey, hkey', hsecret, hsecret'⟩
  refine ⟨Config.ofVariables_of_alike halike,
    fun c _ processors => ⟨c.shown_withKey key' processors, rfl⟩, ?_, conceals_none vs⟩
  intro args file processors hvs hvs' hfile start start'
  obtain ⟨hcompleted, hfilter, hrefused⟩ :=
    alike_completed hsame hkey hkey' hsecret hsecret' hvs hvs' hfile
  have hfatal : (loaded vs' file).fatal = (loaded vs file).fatal := by
    rw [loaded_eq, loaded_eq, Settings.Dotenv.fatal_assign, Settings.Dotenv.fatal_assign, hrefused]
  have hstart : start' = start.withKey key' := by
    show withFile args vs' file processors = (withFile args vs file processors).withKey key'
    unfold withFile
    rw [hfatal]
    split_ifs
    · rfl
    · exact ofProcess_of_alike hcompleted args processors
  refine ⟨hstart, ?_, ?_, hrefused⟩
  · rw [hstart, shownLines_withKey, shownLines, shownLines, hfilter]
  · rw [warnings, warnings, hfilter]

/-- The variables of a process in development with an auth key. -/
def development (key : String) : Variables :=
  (Variables.set ⟨[]⟩ "RUST_ENV" "dev").set "EXTRACTOR_AUTH_KEY" key

/-- Beside the key, the processes have the same variables. -/
theorem bytes?_development (key key' name : String) (hname : name ≠ "EXTRACTOR_AUTH_KEY") :
    (development key).bytes? name = (development key').bytes? name := by
  rw [development, development, Variables.bytes?_set_of_ne _ key hname.symm,
    Variables.bytes?_set_of_ne _ key' hname.symm]

/-- The key of a process is what it was given. -/
theorem text?_development (key : String) :
    (development key).text? "EXTRACTOR_AUTH_KEY" = some key := by
  rw [development, Variables.text?_set, if_pos rfl]

/-- A file that gives a variable the key for its value. -/
def passing (name : String) : List UInt8 :=
  Text.Utf8.encode (name ++ "=$\x7bEXTRACTOR_AUTH_KEY\x7d\n").toList

/-- What such a file says. -/
def passed (name : String) : List Assignment :=
  [⟨name, [.reference "EXTRACTOR_AUTH_KEY"]⟩]

/-- The file is read as what it says, if its line is found and the name in it. -/
theorem assignments_passing {name : String} {line : List Char}
    (hfile : Settings.Dotenv.gather [] .plain
      (Settings.Dotenv.splitLines (Settings.Dotenv.withoutMark (passing name))) = [some line])
    (hvoid : Settings.Dotenv.isVoid (Text.trim line) = false)
    (hhead : Settings.Dotenv.readHead? (Text.trim line) =
      some (name, '$' :: '\x7b' :: ("EXTRACTOR_AUTH_KEY".toList ++ ['\x7d']))) :
    assignments (some (passing name)) = passed name := by
  -- The reference is read by its lemma, since its first character is looked up in the table of letters.
  rw [assignments, Option.map_some, Option.getD_some]
  exact Settings.Dotenv.assignments_of_reference hfile hvoid (by decide +kernel) hhead

theorem assignments_note : assignments (some (passing "NOTE")) = passed "NOTE" := by
  have hline : Settings.Dotenv.gather [] .plain
      (Settings.Dotenv.splitLines (Settings.Dotenv.withoutMark (passing "NOTE"))) =
        [some "NOTE=$\x7bEXTRACTOR_AUTH_KEY\x7d".toList] := by
    decide +kernel
  exact assignments_passing hline (by decide +kernel) (by decide +kernel)

theorem assignments_port :
    assignments (some (passing "EXTRACTOR_PORT")) = passed "EXTRACTOR_PORT" := by
  have hline : Settings.Dotenv.gather [] .plain
      (Settings.Dotenv.splitLines (Settings.Dotenv.withoutMark (passing "EXTRACTOR_PORT"))) =
        [some "EXTRACTOR_PORT=$\x7bEXTRACTOR_AUTH_KEY\x7d".toList] := by
    decide +kernel
  exact assignments_passing hline (by decide +kernel) (by decide +kernel)

/-- A note is not read by the start. -/
theorem conceals_note : Conceals (development "x") (some (passing "NOTE")) := by
  constructor
  · intro name hread hreceives
    rw [assignments_note] at hreceives
    have hname : name ∈ ["EXTRACTOR_AUTH_KEY", "NOTE"] := by
      refine hreceives.of_closed (by decide) fun a ha _ _ _ => ?_
      rw [List.mem_singleton.1 ha]
      decide
    cases hread with
    | filter => exact absurd hname (by decide)
    | setting v hv =>
      revert hname hv
      cases v <;> decide
  · have hnone : refused? (development "x") (passed "NOTE") = none := by decide +kernel
    rw [assignments_note, hnone]
    nofun

/-- The key is passed on to a note: the service listens with either key. -/
theorem start_conceals_key_note :
    let start := withFile [] (development "x") (some (passing "NOTE")) 8
    start.Listens ∧ Conceals (development "x") (some (passing "NOTE")) ∧
      withFile [] (development "80") (some (passing "NOTE")) 8 = start.withKey "80" := by
  intro start
  have hcompleted : completed (development "x") (some (passing "NOTE")) =
      (assign (development "x") (passed "NOTE")).completed := by
    rw [completed, loaded_eq, assignments_note]
  have hload : (loaded (development "x") (some (passing "NOTE"))).fatal = false := by
    rw [loaded_eq, assignments_note]
    decide +kernel
  have haccepted :
      (Config.ofVariables (assign (development "x") (passed "NOTE")).completed).toBool = true ∧
        Sendable (introduction (assign (development "x") (passed "NOTE")).completed) := by
    decide +kernel
  rw [← hcompleted] at haccepted
  obtain ⟨c, hc⟩ := exists_ofVariables_of_toBool haccepted.1
  have hlistens : start.Listens := by
    show (withFile [] (development "x") (some (passing "NOTE")) 8).Listens
    rw [withFile_of_not_fatal [] 8 hload, ofProcess_of_not_mem _ 8 List.not_mem_nil]
    exact ⟨c, (serve_of_ok 8 hc).2.1 haccepted.2⟩
  have hstorable : Storable (development "x") ∧ Storable (development "80") := by
    unfold Storable
    decide +kernel
  obtain ⟨-, -, hstart, -⟩ := start_conceals_key (bytes?_development "x" "80") (text?_development "x")
    (text?_development "80") ⟨by decide, by decide⟩ ⟨by decide, by decide⟩
  exact ⟨hlistens, conceals_note,
    (hstart [] (some (passing "NOTE")) 8 hstorable.1 hstorable.2 conceals_note).1⟩

/-- The key is passed on to the port: whether a health check succeeds depends on the key then. -/
theorem start_reveals_passed_key :
    (∀ name, name ≠ "EXTRACTOR_AUTH_KEY" →
        (development "x").bytes? name = (development "80").bytes? name) ∧
      (development "x").text? "EXTRACTOR_AUTH_KEY" = some "x" ∧ IsSecret "x" ∧
      (development "80").text? "EXTRACTOR_AUTH_KEY" = some "80" ∧ IsSecret "80" ∧
      (withFile [healthFlag] (development "x") (some (passing "EXTRACTOR_PORT")) 1).course = .exit 1 ∧
      (withFile [healthFlag] (development "80") (some (passing "EXTRACTOR_PORT")) 1).course =
        .exit 0 := by
  have hcourse (key : String) (accepted : Bool)
      (hload : (assign (development key) (passed "EXTRACTOR_PORT")).fatal = false)
      (hconfig : (Config.ofVariables
        (assign (development key) (passed "EXTRACTOR_PORT")).completed).toBool = accepted) :
      (withFile [healthFlag] (development key) (some (passing "EXTRACTOR_PORT")) 1).course =
        .exit (if accepted then 0 else 1) := by
    rw [← assignments_port, ← loaded_eq] at hload hconfig
    rw [withFile_of_not_fatal [healthFlag] 1 hload, ofProcess_of_mem _ 1 List.mem_cons_self,
      healthCheck, completed, hconfig]
  have hrefused := hcourse "x" false (by decide +kernel) (by decide +kernel)
  have haccepted := hcourse "80" true (by decide +kernel) (by decide +kernel)
  exact ⟨bytes?_development "x" "80", text?_development "x", ⟨by decide, by decide⟩,
    text?_development "80", ⟨by decide, by decide⟩, hrefused, haccepted⟩

end Startup

end MainContent.Service
