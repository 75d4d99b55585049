import MainContent.Proofs.Settings.Described
import Mathlib.Tactic.ByContra

/-!
# Which configurations are accepted

A configuration is read from the variables by a row of checks, each of which looks for one fault of
the variables (`Fault`, in the order of `checks`). `ofVariables_outcome` says that the variables are
accepted if and only if they have none of the faults, that each part of the configuration is then what
its own variable says or its usual value, and that the error is otherwise the first of the faults that
the variables have.

The checks are followed as they are made (`Ends`): what a step promises when it succeeds is what the
steps after it may rely on. The checks of values come last, when the configuration is already what the
variables describe (`Describes`), so that they too look for faults of the variables.
-/

namespace MainContent.Settings

open MainContent.Text (trim)
open MainContent.Text.Numeral (Denotes)

/-! ## Faults of the variables -/

/-- The variables have the fault that a cause names. -/
def Fault (vs : Variables) : ConfigError → Prop
  | .missing .authKey => Names vs .production ∧ vs.text? Variable.authKey.name = none
  | .missing v => vs.text? v.name = none
  | .unknownEnvironment =>
    ∃ name, vs.text? Variable.environment.name = some name ∧ Environment.ofName? name = none
  | .notANumber v => (∃ text, vs.text? v.name = some text) ∧ ∀ n ≤ v.largest, ¬ Holds vs v n
  | .emptyKey => vs.text? Variable.authKey.name = some ""
  | .zero v => Holds vs v 0
  | .developmentKey =>
    Names vs .production ∧ vs.text? Variable.authKey.name = some Config.developmentKey

/-- The faults in the order in which they are looked for. -/
def checks : List ConfigError :=
  [.missing .environment, .unknownEnvironment, .notANumber .port, .missing .authKey,
    .notANumber .workers, .notANumber .connectTimeout, .notANumber .fetchTimeout,
    .notANumber .maxPageSize, .notANumber .maxRedirects, .notANumber .maxElements,
    .emptyKey, .zero .workers, .zero .connectTimeout, .zero .fetchTimeout, .developmentKey]

/-- How a step ends that looks for faults in an order: with the first of them that there is, or, if
there is none, with something of which the step promises a property. -/
inductive Ends {α : Type} (fault : ConfigError → Prop) (promise : α → Prop) :
    List ConfigError → Except ConfigError α → Prop where
  /-- There is nothing more to look for. -/
  | done {a : α} (kept : promise a) : Ends fault promise [] (.ok a)
  /-- The next fault is there. -/
  | here {e : ConfigError} {es : List ConfigError} (found : fault e) :
    Ends fault promise (e :: es) (.error e)
  /-- The next fault is not there, and the others are looked for. -/
  | past {e : ConfigError} {es : List ConfigError} {r : Except ConfigError α} (clean : ¬ fault e)
    (rest : Ends fault promise es r) : Ends fault promise (e :: es) r

namespace Ends

variable {α β : Type} {fault : ConfigError → Prop} {promise : α → Prop} {promise' : β → Prop}
  {es es' : List ConfigError} {r : Except ConfigError α}

/-- A step that relies on what the one before it promises looks for its faults after those of that
one. -/
theorem bind {f : α → Except ConfigError β} (h : Ends fault promise es r)
    (hf : ∀ a, promise a → Ends fault promise' es' (f a)) :
    Ends fault promise' (es ++ es') (r >>= f) := by
  induction h with
  | done kept => exact hf _ kept
  | here found => exact .here found
  | past clean _ ih => exact .past clean ih

/-- What a step ends with may be changed. -/
theorem map {f : α → β} (h : Ends fault promise es r) (hf : ∀ a, promise a → promise' (f a)) :
    Ends fault promise' es (r.map f) := by
  induction h with
  | done kept => exact .done (hf _ kept)
  | here found => exact .here found
  | past clean _ ih => exact .past clean ih

/-- A condition that decides whether a fault is there is a check for it. -/
theorem check {e : ConfigError} {p : Prop} [Decidable p] (hp : p ↔ fault e)
    (h : Ends fault promise es r) : Ends fault promise (e :: es) (if p then .error e else r) := by
  by_cases hfault : p
  · rw [if_pos hfault]
    exact .here (hp.1 hfault)
  · rw [if_neg hfault]
    exact .past (fun hfound => hfault (hp.2 hfound)) h

/-- A step that succeeds has found none of the faults, and keeps its promise. -/
theorem of_ok {a : α} (h : Ends fault promise es (.ok a)) : (∀ e ∈ es, ¬ fault e) ∧ promise a := by
  generalize hr : Except.ok a = r at h
  induction h with
  | done kept =>
    cases hr
    exact ⟨List.forall_mem_nil _, kept⟩
  | here => cases hr
  | past clean _ ih =>
    obtain ⟨hes, hkept⟩ := ih hr
    exact ⟨List.forall_mem_cons.2 ⟨clean, hes⟩, hkept⟩

/-- A step that fails has found the first of the faults that there are. -/
theorem of_error {e : ConfigError} (h : Ends fault promise es (.error e)) :
    ∃ before after, es = before ++ e :: after ∧ fault e ∧ ∀ e' ∈ before, ¬ fault e' := by
  generalize hr : Except.error e = r at h
  induction h with
  | done => cases hr
  | @here e' es found =>
    cases hr
    exact ⟨[], es, rfl, found, List.forall_mem_nil _⟩
  | @past e' es r clean _ ih =>
    obtain ⟨before, after, rfl, hfault, hbefore⟩ := ih hr
    exact ⟨e' :: before, after, rfl, hfault, List.forall_mem_cons.2 ⟨clean, hbefore⟩⟩

end Ends

/-! ## Described configurations and faults -/

namespace Describes

variable {vs vs' : Variables} {c d : Config}

/-- The key is empty exactly when its variable is set to the empty text. -/
theorem isEmpty_authKey_iff (h : Describes vs c) :
    c.authKey.isEmpty = true ↔ Fault vs .emptyKey := by
  rw [String.isEmpty_iff]
  rcases h.authKey with hkey | ⟨hnone, -, hkey⟩
  · rw [Fault, hkey, Option.some.injEq]
  · -- The usual key is not empty.
    rw [Fault, hnone, hkey]
    exact iff_of_false (by decide) nofun

/-- The key is the usual one of development, in production, exactly when its variable is set to it:
in production the key has no usual value. -/
theorem developmentKey_iff (h : Describes vs c) :
    (c.environment = .production ∧ c.authKey = Config.developmentKey) ↔ Fault vs .developmentKey := by
  constructor
  · rintro ⟨he, hkey⟩
    rcases h.authKey with hset | ⟨-, hdevelopment, -⟩
    · exact ⟨he ▸ h.environment, by rw [hset, hkey]⟩
    · rw [he] at hdevelopment
      cases hdevelopment
  · rintro ⟨hproduction, hset⟩
    rcases h.authKey with hkey | ⟨hnone, -⟩
    · rw [hset, Option.some.injEq] at hkey
      exact ⟨h.environment.unique hproduction, hkey.symm⟩
    · rw [hset] at hnone
      cases hnone

/-- No threads are asked for exactly when their variable holds zero. -/
theorem workers_eq_zero_iff (h : Describes vs c) :
    c.workers = .fixed 0 ↔ Fault vs (.zero .workers) := by
  rcases h.workers with ⟨hnone, hworkers⟩ | ⟨n, hn, hworkers⟩
  · -- The usual numbers of threads are not zero.
    refine iff_of_false ?_ ?_
    · rw [hworkers]
      cases c.environment <;> nofun
    · exact fun hzero => hzero.ne_none hnone
  · rw [hworkers, Workers.fixed.injEq]
    constructor
    · rintro rfl
      exact hn
    · exact fun hzero => hn.unique rfl hzero

/-- A time in seconds is none exactly when its variable holds zero. -/
theorem milliseconds_eq_zero_iff {v : Variable} {usual : Nat} {d : Duration}
    (h : ∃ n, Amounts vs v usual n ∧ d = .ofSeconds n) (husual : usual ≠ 0) :
    d.milliseconds = 0 ↔ Fault vs (.zero v) := by
  obtain ⟨n, hn, rfl⟩ := h
  have hzero : (Duration.ofSeconds n).milliseconds = 0 ↔ n = 0 := by
    show n * 1000 = 0 ↔ n = 0
    omega
  exact hzero.trans (hn.eq_zero_iff husual)

end Describes

/-! ## The steps of reading -/

namespace Config

variable (vs : Variables)

/-- The environment is read from its variable. -/
theorem ends_readEnvironment :
    Ends (Fault vs) (Names vs) [.missing .environment, .unknownEnvironment] (readEnvironment vs) := by
  unfold readEnvironment
  cases hname : vs.text? Variable.environment.name with
  | none => exact .here hname
  | some name =>
    refine .past (fun hnone => ?_) ?_
    · cases hname.symm.trans hnone
    · dsimp only
      cases he : Environment.ofName? name with
      | none => exact .here ⟨name, hname, he⟩
      | some e =>
        refine .past ?_ (.done ⟨name, hname, he⟩)
        rintro ⟨name', hname', hnone⟩
        rw [hname, Option.some.injEq] at hname'
        rw [← hname', he] at hnone
        cases hnone

/-- What is read of a variable that may hold a number. -/
def Reads (v : Variable) : Option Nat → Prop
  | none => vs.text? v.name = none
  | some n => Holds vs v n

/-- A number is read from its variable, if that is set. -/
theorem ends_number? (v : Variable) :
    Ends (Fault vs) (Reads vs v) [.notANumber v] (number? vs v v.largest) := by
  unfold number?
  cases htext : vs.text? v.name with
  | none =>
    refine .past ?_ (.done htext)
    rintro ⟨⟨text, hset⟩, -⟩
    rw [htext] at hset
    cases hset
  | some text =>
    dsimp only
    cases hread : Text.Numeral.read? v.largest (trim text.toList) with
    | none =>
      refine .here ⟨⟨text, htext⟩, ?_⟩
      rintro n hn ⟨text', htext', hdenotes⟩
      rw [htext, Option.some.injEq] at htext'
      subst htext'
      exact (Text.Numeral.read?_eq_none_iff _ _).1 hread n hn hdenotes
    | some n =>
      obtain ⟨hdenotes, hn⟩ := (Text.Numeral.read?_eq_some_iff _ _ n).1 hread
      have hholds : Holds vs v n := ⟨text, htext, hdenotes⟩
      exact .past (fun hfault => hfault.2 n hn hholds) (.done hholds)

/-- A number is read from its variable, or is the usual one. -/
theorem ends_number (v : Variable) (usual : Nat) :
    Ends (Fault vs) (Amounts vs v usual) [.notANumber v] (number vs v v.largest usual) := by
  refine (ends_number? vs v).map fun n hn => ?_
  cases n with
  | none => exact .inl ⟨hn, rfl⟩
  | some n => exact .inr hn

/-- The key is read from its variable, which must be set in production. -/
theorem ends_readAuthKey (e : Environment) (he : Names vs e) :
    Ends (Fault vs) (GivesKey vs e) [.missing .authKey] (readAuthKey vs e) := by
  unfold readAuthKey
  cases hkey : vs.text? Variable.authKey.name with
  | some key =>
    refine .past ?_ (.done (.inl hkey))
    rintro ⟨-, hnone⟩
    rw [hkey] at hnone
    cases hnone
  | none =>
    cases e with
    | production => exact .here ⟨he, hkey⟩
    | development =>
      refine .past ?_ (.done (.inr ⟨hkey, rfl, rfl⟩))
      rintro ⟨hproduction, -⟩
      cases he.unique hproduction

/-- The configuration that is read is what the variables describe. -/
theorem ends_readValues :
    Ends (Fault vs) (Describes vs)
      [.missing .environment, .unknownEnvironment, .notANumber .port, .missing .authKey,
        .notANumber .workers, .notANumber .connectTimeout, .notANumber .fetchTimeout,
        .notANumber .maxPageSize, .notANumber .maxRedirects, .notANumber .maxElements]
      (readValues vs) := by
  -- Each value that is read is described by its own variable, and the later checks rely on none of
  -- them but the environment.
  refine (ends_readEnvironment vs).bind fun e he => ?_
  refine (ends_number vs .port 8080).bind fun port hport => ?_
  refine (ends_readAuthKey vs e he).bind fun key hkey => ?_
  refine (ends_number? vs .workers).bind fun workers hworkers => ?_
  refine (ends_number vs .connectTimeout 5).bind fun connectTimeout hconnect => ?_
  refine (ends_number vs .fetchTimeout 30).bind fun timeout htimeout => ?_
  refine (ends_number vs .maxPageSize 5242880).bind fun maxPageSize hsize => ?_
  refine (ends_number vs .maxRedirects 10).bind fun maxRedirects hredirects => ?_
  refine (ends_number vs .maxElements 0).bind fun maxElements helements => ?_
  refine .done
    { environment := he, host := rfl, port := hport, authKey := hkey, workers := ?_,
      connectTimeout := ⟨_, hconnect, rfl⟩, timeout := ⟨_, htimeout, rfl⟩, maxPageSize := hsize,
      maxRedirects := hredirects, maxElements := helements, userAgent := rfl }
  cases workers with
  | none => exact .inl ⟨hworkers, by cases e <;> rfl⟩
  | some n => exact .inr ⟨n, hworkers, rfl⟩

variable {vs} {c : Config}

/-- The values of a configuration are checked for the faults of the variables that describe it. -/
theorem ends_checkValues (h : Describes vs c) :
    Ends (Fault vs) (fun _ => True)
      [.emptyKey, .zero .workers, .zero .connectTimeout, .zero .fetchTimeout] (checkValues c) := by
  unfold checkValues
  refine .check h.isEmpty_authKey_iff (.check h.workers_eq_zero_iff (.check ?_ (.check ?_ ?_)))
  · exact Describes.milliseconds_eq_zero_iff h.connectTimeout (by decide)
  · exact Describes.milliseconds_eq_zero_iff h.timeout (by decide)
  · exact .done trivial

/-- The key of a configuration is checked for the usual one of development. -/
theorem ends_checkProduction (h : Describes vs c) :
    Ends (Fault vs) (fun _ => True) [.developmentKey] (checkProduction c) :=
  .check h.developmentKey_iff (.done trivial)

variable (vs)

/-- A configuration is read by the checks in their order. -/
theorem ends_ofVariables : Ends (Fault vs) (Describes vs) checks (ofVariables vs) :=
  (ends_readValues vs).bind fun _ hc =>
    (ends_checkValues hc).bind fun _ _ =>
      (ends_checkProduction hc).bind fun _ _ => .done hc

variable {vs}

/-- An accepted configuration is what the variables describe. -/
theorem describes_of_ofVariables (h : ofVariables vs = .ok c) : Describes vs c :=
  (h ▸ ends_ofVariables vs).of_ok.2

/-- Variables whose configuration is accepted have none of the faults. -/
theorem not_fault_of_ofVariables (h : ofVariables vs = .ok c) : ∀ e ∈ checks, ¬ Fault vs e :=
  (h ▸ ends_ofVariables vs).of_ok.1

/-- The key of an accepted configuration is not empty, and in production it is not the usual one of
development. -/
theorem authKey_ne_of_ofVariables (h : ofVariables vs = .ok c) :
    c.authKey ≠ "" ∧ (c.environment = .production → c.authKey ≠ developmentKey) := by
  have hdescribes := describes_of_ofVariables h
  have hclean := not_fault_of_ofVariables h
  constructor
  · intro hempty
    exact hclean .emptyKey (by decide)
      (hdescribes.isEmpty_authKey_iff.1 (String.isEmpty_iff.2 hempty))
  · intro hproduction hkey
    exact hclean .developmentKey (by decide) (hdescribes.developmentKey_iff.1 ⟨hproduction, hkey⟩)

/-- What is reported of variables is the first of their faults. -/
theorem first_fault_of_ofVariables {e : ConfigError} (h : ofVariables vs = .error e) :
    ∃ before after, checks = before ++ e :: after ∧ Fault vs e ∧ ∀ e' ∈ before, ¬ Fault vs e' :=
  (h ▸ ends_ofVariables vs).of_error

end Config

/-! ## Acceptable variables -/

/-- Variables are acceptable: they name an environment, each number that they hold is one of its type,
there is a key, which in production is not the usual one of development, and there is at least one
thread and one second for each time. -/
structure Acceptable (vs : Variables) : Prop where
  /-- The environment is named. -/
  environment : ∃ e, Names vs e
  /-- Each variable of a number that is set holds one of its type. -/
  numbers : ∀ v ∈ Variable.numeric, ∀ text, vs.text? v.name = some text →
    ∃ n ≤ v.largest, Denotes (trim text.toList) n
  /-- The key is not empty. -/
  key : vs.text? Variable.authKey.name ≠ some ""
  /-- In production there is a key, and it is not the usual one of development. -/
  productionKey : Names vs .production →
    ∃ key, vs.text? Variable.authKey.name = some key ∧ key ≠ Config.developmentKey
  /-- The numbers of threads and seconds are positive. -/
  positive : ∀ v ∈ [Variable.workers, .connectTimeout, .fetchTimeout], ∀ n, Holds vs v n → 1 ≤ n

variable (vs : Variables)

/-- An environment is named if its variable is set, and set to a name. -/
theorem exists_names_iff :
    (∃ e, Names vs e) ↔ ¬ Fault vs (.missing .environment) ∧ ¬ Fault vs .unknownEnvironment := by
  unfold Names Fault
  cases hname : vs.text? Variable.environment.name with
  | none => simp [hname]
  | some name =>
    cases he : Environment.ofName? name with
    | none => simp [he]
    | some e => simp [hname, he]

/-- A variable of a number is free of fault if it holds one of its type whenever it is set. -/
theorem not_fault_notANumber_iff (v : Variable) :
    ¬ Fault vs (.notANumber v) ↔ ∀ text, vs.text? v.name = some text →
      ∃ n ≤ v.largest, Denotes (trim text.toList) n := by
  constructor
  · intro h text htext
    by_contra hnone
    refine h ⟨⟨text, htext⟩, ?_⟩
    rintro n hn ⟨text', htext', hdenotes⟩
    rw [htext, Option.some.injEq] at htext'
    exact hnone ⟨n, hn, htext' ▸ hdenotes⟩
  · rintro h ⟨⟨text, htext⟩, hnone⟩
    obtain ⟨n, hn, hdenotes⟩ := h text htext
    exact hnone n hn ⟨text, htext, hdenotes⟩

/-- The key of production is there and is another one than in development if neither fault is
there. -/
theorem productionKey_iff :
    (Names vs .production →
      ∃ key, vs.text? Variable.authKey.name = some key ∧ key ≠ Config.developmentKey) ↔
    ¬ Fault vs (.missing .authKey) ∧ ¬ Fault vs .developmentKey := by
  unfold Fault
  cases hkey : vs.text? Variable.authKey.name with
  | none => simp
  | some key => simp

/-- What a variable holds is positive if it does not hold zero. -/
theorem not_fault_zero_iff (v : Variable) :
    ¬ Fault vs (.zero v) ↔ ∀ n, Holds vs v n → 1 ≤ n := by
  constructor
  · intro h n hn
    rw [Nat.one_le_iff_ne_zero]
    rintro rfl
    exact h hn
  · intro h hzero
    exact absurd (h 0 hzero) (by decide)

/-- Acceptable variables are those without any of the faults. -/
theorem acceptable_iff : Acceptable vs ↔ ∀ e ∈ checks, ¬ Fault vs e := by
  simp only [checks, List.forall_mem_cons]
  constructor
  · intro h
    obtain ⟨hset, hknown⟩ := (exists_names_iff vs).1 h.environment
    obtain ⟨hgiven, hother⟩ := (productionKey_iff vs).1 h.productionKey
    have hnumber (v : Variable) (hv : v ∈ Variable.numeric) : ¬ Fault vs (.notANumber v) :=
      (not_fault_notANumber_iff vs v).2 (h.numbers v hv)
    have hpositive (v : Variable) (hv : v ∈ [Variable.workers, .connectTimeout, .fetchTimeout]) :
        ¬ Fault vs (.zero v) :=
      (not_fault_zero_iff vs v).2 (h.positive v hv)
    exact ⟨hset, hknown, hnumber .port (by decide), hgiven, hnumber .workers (by decide),
      hnumber .connectTimeout (by decide), hnumber .fetchTimeout (by decide),
      hnumber .maxPageSize (by decide), hnumber .maxRedirects (by decide),
      hnumber .maxElements (by decide), h.key, hpositive .workers (by decide),
      hpositive .connectTimeout (by decide), hpositive .fetchTimeout (by decide), hother,
      List.forall_mem_nil _⟩
  · rintro ⟨hset, hknown, hport, hgiven, hworkers, hconnect, htimeout, hsize, hredirects, helements,
      hempty, hthreads, hconnectTime, htime, hother, -⟩
    have hnumber : ∀ v ∈ Variable.numeric, ¬ Fault vs (.notANumber v) := by
      simp only [Variable.numeric, List.forall_mem_cons]
      exact ⟨hport, hworkers, hconnect, htimeout, hsize, hredirects, helements,
        List.forall_mem_nil _⟩
    have hpositive : ∀ v ∈ [Variable.workers, .connectTimeout, .fetchTimeout],
        ¬ Fault vs (.zero v) := by
      simp only [List.forall_mem_cons]
      exact ⟨hthreads, hconnectTime, htime, List.forall_mem_nil _⟩
    exact
      { environment := (exists_names_iff vs).2 ⟨hset, hknown⟩
        numbers := fun v hv => (not_fault_notANumber_iff vs v).1 (hnumber v hv)
        key := hempty
        productionKey := (productionKey_iff vs).2 ⟨hgiven, hother⟩
        positive := fun v hv => (not_fault_zero_iff vs v).1 (hpositive v hv) }

/-! ## Results -/

/-- What comes of reading the configuration. It succeeds if and only if the variables are acceptable,
and the configuration is then what they describe, each part of it decided by its own variable alone
but for the usual number of threads, which the environment decides. Otherwise the error is the first
of the faults that the variables have. -/
theorem Config.ofVariables_outcome (vs : Variables) :
    ((∃ c, ofVariables vs = .ok c) ↔ Acceptable vs) ∧
    (∀ c, ofVariables vs = .ok c → Describes vs c ∧
      ∀ vs' d, ofVariables vs' = .ok d → ∀ v : Variable,
        vs.text? v.name = vs'.text? v.name →
        (v = .workers →
          vs.text? Variable.environment.name = vs'.text? Variable.environment.name) →
        v.Agree c d) ∧
    ∀ e, ofVariables vs = .error e →
      ∃ before after, checks = before ++ e :: after ∧ Fault vs e ∧ ∀ e' ∈ before, ¬ Fault vs e' := by
  refine ⟨⟨?_, ?_⟩, fun c hc => ⟨describes_of_ofVariables hc, ?_⟩,
    fun e he => first_fault_of_ofVariables he⟩
  · rintro ⟨c, hc⟩
    exact (acceptable_iff vs).2 (not_fault_of_ofVariables hc)
  · intro hacceptable
    cases hr : ofVariables vs with
    | ok c => exact ⟨c, rfl⟩
    | error e =>
      obtain ⟨before, after, hchecks, hfault, -⟩ := first_fault_of_ofVariables hr
      have hmem : e ∈ checks := by
        rw [hchecks]
        exact List.mem_append_right _ List.mem_cons_self
      exact absurd hfault ((acceptable_iff vs).1 hacceptable e hmem)
  · intro vs' d hd v hsame hworkers
    exact (describes_of_ofVariables hc).agree (describes_of_ofVariables hd) v hsame hworkers

/-- In production, a port that is no number is reported before a key that is missing. -/
example :
    let port : List UInt8 := Text.Utf8.encode "8o80".toList
    let production : List UInt8 := Text.Utf8.encode "prod".toList
    Config.ofVariables ⟨[("EXTRACTOR_PORT", port), ("RUST_ENV", production)]⟩ =
      .error (.notANumber .port) := by
  decide +kernel

end MainContent.Settings
