import MainContent.Proofs.Settings.Config

/-!
# Variables that are alike but for the auth key

Two sets of variables that give each part of the configuration one text, beside the key, and a secret for
the key, are accepted or refused alike (`Config.ofVariables_of_alike`): with the same error, or as
configurations that differ in nothing but the key.

The key is read in one place and put in one place of the configuration. The checks look at it only for
whether there is one and whether it is the usual one of development, which a secret is not.
-/

namespace MainContent.Settings

/-- A key is a secret: there is one, and it is not the one that development uses by default. -/
structure IsSecret (key : String) : Prop where
  /-- There is one. -/
  ne_empty : key ≠ ""
  /-- It is not known to everyone. -/
  ne_usual : key ≠ "dev-auth-key-do-not-use-in-production"

/-- Two sets of variables that give the configuration the same texts beside the key, and each a secret
for the key. -/
structure Alike (vs vs' : Variables) (key key' : String) : Prop where
  /-- The other variables have one text. -/
  text : ∀ v : Variable, v ≠ .authKey → vs.text? v.name = vs'.text? v.name
  /-- The key of the first set. -/
  left : vs.text? Variable.authKey.name = some key
  /-- The key of the second set. -/
  right : vs'.text? Variable.authKey.name = some key'
  /-- The first key is a secret. -/
  leftSecret : IsSecret key
  /-- The second key is a secret. -/
  rightSecret : IsSecret key'

namespace Config

/-- The configuration with another key. -/
def withKey (c : Config) (key : String) : Config :=
  { c with authKey := key }

/-- What is shown of a configuration does not depend on its key. -/
theorem shown_withKey (c : Config) (key : String) (processors : Nat) :
    (c.withKey key).shown processors = c.shown processors :=
  rfl

section Reading

variable {vs vs' : Variables} {key key' : String}

/-- A number is read from the text of its variable. -/
theorem number?_congr {v : Variable} (h : vs.text? v.name = vs'.text? v.name) (largest : Nat) :
    number? vs' v largest = number? vs v largest := by
  rw [number?, number?, h]

/-- A number with a usual value is read from the text of its variable. -/
theorem number_congr {v : Variable} (h : vs.text? v.name = vs'.text? v.name) (largest usual : Nat) :
    number vs' v largest usual = number vs v largest usual := by
  rw [number, number, number?_congr h]

/-- The key is read from its variable, if that is set. -/
theorem readAuthKey_of_text (h : vs.text? Variable.authKey.name = some key) (e : Environment) :
    readAuthKey vs e = .ok key := by
  unfold readAuthKey
  rw [h]

/-- The values are read alike, but for the key. -/
theorem readValues_of_alike (h : Alike vs vs' key key') :
    readValues vs' = (readValues vs).map (·.withKey key') := by
  have henvironment : readEnvironment vs' = readEnvironment vs := by
    rw [readEnvironment, readEnvironment, h.text .environment (by decide)]
  have hworkers : number? vs' .workers largestNumber = number? vs .workers largestNumber :=
    number?_congr (h.text .workers (by decide)) _
  have hnumber (v : Variable) (hv : v ≠ .authKey) (largest usual : Nat) :
      number vs' v largest usual = number vs v largest usual :=
    number_congr (h.text v hv) largest usual
  show readValues vs' = (·.withKey key') <$> readValues vs
  -- One reading follows the other, and the key is replaced where the configuration is put together.
  simp (disch := decide) only [readValues, map_bind, map_pure, henvironment, hworkers, hnumber,
    readAuthKey_of_text h.left, readAuthKey_of_text h.right, h.text .host, h.text .userAgent]
  rfl

/-- The checks of values look at the key only for whether there is one. -/
theorem checkValues_withKey {c : Config} (hkey : c.authKey ≠ "") (hkey' : key' ≠ "") :
    checkValues (c.withKey key') = checkValues c := by
  have hthere : c.authKey.isEmpty = false := by
    rwa [← Bool.not_eq_true, String.isEmpty_iff]
  have hthere' : key'.isEmpty = false := by
    rwa [← Bool.not_eq_true, String.isEmpty_iff]
  unfold checkValues withKey
  dsimp only
  rw [hthere, hthere']

/-- The check of production looks at the key only for whether it is the usual one of development. -/
theorem checkProduction_withKey {c : Config} (hkey : c.authKey ≠ developmentKey)
    (hkey' : key' ≠ developmentKey) : checkProduction (c.withKey key') = checkProduction c := by
  unfold checkProduction withKey
  rw [if_neg fun h => hkey' h.2, if_neg fun h => hkey h.2]

/-- The configuration is accepted with both keys or with neither, and for the same fault. -/
theorem ofVariables_of_alike (h : Alike vs vs' key key') :
    ofVariables vs' = (ofVariables vs).map (·.withKey key') := by
  unfold ofVariables
  rw [readValues_of_alike h]
  cases hread : readValues vs with
  | error e => rfl
  | ok c =>
    have hdescribes : Describes vs c := (hread ▸ ends_readValues vs).of_ok.2
    have hkey : c.authKey = key := by
      rcases hdescribes.authKey with hset | ⟨hnone, -⟩
      · rw [h.left, Option.some.injEq] at hset
        exact hset.symm
      · rw [h.left] at hnone
        cases hnone
    have hvalues : checkValues (c.withKey key') = checkValues c :=
      checkValues_withKey (hkey ▸ h.leftSecret.ne_empty) h.rightSecret.ne_empty
    have hproduction : checkProduction (c.withKey key') = checkProduction c :=
      checkProduction_withKey (hkey ▸ h.leftSecret.ne_usual) h.rightSecret.ne_usual
    show (do checkValues (c.withKey key'); checkProduction (c.withKey key'); pure (c.withKey key')) =
      (·.withKey key') <$> (do checkValues c; checkProduction c; pure c)
    rw [hvalues, hproduction]
    simp only [map_bind, map_pure]

end Reading

end Config

end MainContent.Settings
