import MainContent.Proofs.Text.Numeral
import MainContent.Settings.Config

/-!
# What variables describe

The configuration that the variables describe (`Describes`): each of its parts is what one variable
says, or the usual value of that part where the variable is not set. What a variable says is its own
matter. `Describes.agree` states this of two sets of variables: where a variable has the same text in
both, the configurations that they describe agree in what it decides.
-/

namespace MainContent.Settings

open MainContent.Text (trim)
open MainContent.Text.Numeral (Denotes)

/-- The variables that hold a number. -/
def Variable.numeric : List Variable :=
  [.port, .workers, .connectTimeout, .fetchTimeout, .maxPageSize, .maxRedirects, .maxElements]

/-- The largest number that a variable may hold. -/
def Variable.largest : Variable → Nat
  | .port => 65535
  | _ => 2 ^ 64 - 1

/-- The variables name an environment. -/
def Names (vs : Variables) (e : Environment) : Prop :=
  ∃ name, vs.text? Variable.environment.name = some name ∧ Environment.ofName? name = some e

/-- A variable is set to a text that denotes a number, with or without blanks around it. -/
def Holds (vs : Variables) (v : Variable) (n : Nat) : Prop :=
  ∃ text, vs.text? v.name = some text ∧ Denotes (trim text.toList) n

/-- A number is the one that a variable holds, or the usual one if the variable is not set. -/
def Amounts (vs : Variables) (v : Variable) (usual n : Nat) : Prop :=
  (vs.text? v.name = none ∧ n = usual) ∨ Holds vs v n

/-- A key is the one that its variable gives, or in development the usual one. -/
def GivesKey (vs : Variables) (e : Environment) (key : String) : Prop :=
  vs.text? Variable.authKey.name = some key ∨
    (vs.text? Variable.authKey.name = none ∧ e = .development ∧
      key = "dev-auth-key-do-not-use-in-production")

/-- A configuration is what the variables describe: each of its parts is what its own variable says, or
its usual value if that variable is not set. -/
structure Describes (vs : Variables) (c : Config) : Prop where
  /-- The environment has no usual value. -/
  environment : Names vs c.environment
  /-- The address. -/
  host : c.host = (vs.text? Variable.host.name).getD "127.0.0.1"
  /-- The port. -/
  port : Amounts vs .port 8080 c.port
  /-- The auth key has a usual value in development only. -/
  authKey : GivesKey vs c.environment c.authKey
  /-- The number of threads is usually another one in each environment. -/
  workers : (vs.text? Variable.workers.name = none ∧ c.workers =
      match c.environment with
      | .development => .fixed 4
      | .production => .perProcessor) ∨
    ∃ n, Holds vs .workers n ∧ c.workers = .fixed n
  /-- The time in which a connection must stand, in seconds. -/
  connectTimeout : ∃ n, Amounts vs .connectTimeout 5 n ∧ c.fetch.connectTimeout = .ofSeconds n
  /-- The time in which a page must have arrived, in seconds. -/
  timeout : ∃ n, Amounts vs .fetchTimeout 30 n ∧ c.fetch.timeout = .ofSeconds n
  /-- The size of a page. -/
  maxPageSize : Amounts vs .maxPageSize 5242880 c.fetch.maxPageSize
  /-- The number of redirects. -/
  maxRedirects : Amounts vs .maxRedirects 10 c.fetch.maxRedirects
  /-- The number of elements. -/
  maxElements : Amounts vs .maxElements 0 c.fetch.maxElements
  /-- The name that the service gives itself. -/
  userAgent : c.fetch.userAgent =
    (vs.text? Variable.userAgent.name).getD "article-extractor/0.1.0"

/-- The variables name at most one environment. -/
theorem Names.unique {vs : Variables} {e e' : Environment} (h : Names vs e) (h' : Names vs e') :
    e = e' := by
  obtain ⟨name, hname, he⟩ := h
  obtain ⟨name', hname', he'⟩ := h'
  rw [hname, Option.some.injEq] at hname'
  rw [hname', he', Option.some.injEq] at he
  exact he.symm

/-- A variable that holds a number is set. -/
theorem Holds.ne_none {vs : Variables} {v : Variable} {n : Nat} (h : Holds vs v n) :
    vs.text? v.name ≠ none := by
  obtain ⟨text, htext, -⟩ := h
  rw [htext]
  exact nofun

/-- Variables with one text hold one number. -/
theorem Holds.unique {vs vs' : Variables} {v : Variable} {n n' : Nat}
    (hsame : vs.text? v.name = vs'.text? v.name) (h : Holds vs v n) (h' : Holds vs' v n') :
    n = n' := by
  obtain ⟨text, htext, hn⟩ := h
  obtain ⟨text', htext', hn'⟩ := h'
  rw [hsame, htext', Option.some.injEq] at htext
  subst htext
  exact hn.unique hn'

/-- Variables with one text, or without any, amount to one number. -/
theorem Amounts.unique {vs vs' : Variables} {v : Variable} {usual n n' : Nat}
    (hsame : vs.text? v.name = vs'.text? v.name) (h : Amounts vs v usual n)
    (h' : Amounts vs' v usual n') : n = n' := by
  rcases h with ⟨hnone, rfl⟩ | hn
  · rcases h' with ⟨-, rfl⟩ | hn'
    · rfl
    · exact absurd (hsame.symm.trans hnone) hn'.ne_none
  · rcases h' with ⟨hnone, -⟩ | hn'
    · exact absurd (hsame.trans hnone) hn.ne_none
    · exact hn.unique hsame hn'

/-- A variable with a usual value above zero amounts to zero exactly when it holds zero. -/
theorem Amounts.eq_zero_iff {vs : Variables} {v : Variable} {usual n : Nat}
    (h : Amounts vs v usual n) (husual : usual ≠ 0) : n = 0 ↔ Holds vs v 0 := by
  constructor
  · rintro rfl
    exact h.resolve_left fun hnone => husual hnone.2.symm
  · intro hzero
    exact h.unique rfl (.inr hzero)

/-! ## What a variable decides -/

/-- Two configurations agree in what a variable decides. -/
def Variable.Agree (c d : Config) : Variable → Prop
  | .environment => c.environment = d.environment
  | .host => c.host = d.host
  | .port => c.port = d.port
  | .authKey => c.authKey = d.authKey
  | .workers => c.workers = d.workers
  | .connectTimeout => c.fetch.connectTimeout = d.fetch.connectTimeout
  | .fetchTimeout => c.fetch.timeout = d.fetch.timeout
  | .maxPageSize => c.fetch.maxPageSize = d.fetch.maxPageSize
  | .maxRedirects => c.fetch.maxRedirects = d.fetch.maxRedirects
  | .maxElements => c.fetch.maxElements = d.fetch.maxElements
  | .userAgent => c.fetch.userAgent = d.fetch.userAgent

/-- Variables with one text decide the same part of what they describe in the same way; the usual
number of threads is decided by the environment too. -/
theorem Describes.agree {vs vs' : Variables} {c d : Config} (h : Describes vs c)
    (h' : Describes vs' d) (v : Variable) (hsame : vs.text? v.name = vs'.text? v.name)
    (hworkers : v = .workers →
      vs.text? Variable.environment.name = vs'.text? Variable.environment.name) :
    v.Agree c d := by
  have henvironment (hname : vs.text? Variable.environment.name =
      vs'.text? Variable.environment.name) : c.environment = d.environment := by
    obtain ⟨name, hset, he⟩ := h.environment
    exact Names.unique ⟨name, hname.symm.trans hset, he⟩ h'.environment
  cases v with
  | environment => exact henvironment hsame
  | host => rw [Variable.Agree, h.host, h'.host, hsame]
  | port => exact h.port.unique hsame h'.port
  | authKey =>
    rcases h.authKey with hkey | ⟨hnone, -, hkey⟩
    · rcases h'.authKey with hkey' | ⟨hnone', -, -⟩
      · rw [hsame, hkey', Option.some.injEq] at hkey
        exact hkey.symm
      · rw [hsame, hnone'] at hkey
        cases hkey
    · rcases h'.authKey with hkey' | ⟨-, -, hkey'⟩
      · rw [hsame, hkey'] at hnone
        cases hnone
      · exact hkey.trans hkey'.symm
  | workers =>
    rcases h.workers with ⟨hnone, hc⟩ | ⟨n, hn, hc⟩
    · rcases h'.workers with ⟨-, hd⟩ | ⟨n', hn', -⟩
      · -- Here alone another variable matters.
        rw [Variable.Agree, hc, hd, henvironment (hworkers rfl)]
      · exact absurd (hsame.symm.trans hnone) hn'.ne_none
    · rcases h'.workers with ⟨hnone, -⟩ | ⟨n', hn', hd⟩
      · exact absurd (hsame.trans hnone) hn.ne_none
      · rw [Variable.Agree, hc, hd, hn.unique hsame hn']
  | connectTimeout =>
    obtain ⟨n, hn, hc⟩ := h.connectTimeout
    obtain ⟨n', hn', hd⟩ := h'.connectTimeout
    rw [Variable.Agree, hc, hd, hn.unique hsame hn']
  | fetchTimeout =>
    obtain ⟨n, hn, hc⟩ := h.timeout
    obtain ⟨n', hn', hd⟩ := h'.timeout
    rw [Variable.Agree, hc, hd, hn.unique hsame hn']
  | maxPageSize => exact h.maxPageSize.unique hsame h'.maxPageSize
  | maxRedirects => exact h.maxRedirects.unique hsame h'.maxRedirects
  | maxElements => exact h.maxElements.unique hsame h'.maxElements
  | userAgent => rw [Variable.Agree, h.userAgent, h'.userAgent, hsame]

end MainContent.Settings
