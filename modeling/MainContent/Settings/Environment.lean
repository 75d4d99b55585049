import MainContent.Text.Lowercase

/-!
# The two environments

The service runs in development or in production, and is told which by a name in any case.
-/

namespace MainContent.Settings

/-- Where the service runs. -/
inductive Environment where
  | development
  | production
  deriving DecidableEq, Repr

namespace Environment

/-- The environment that a name stands for. -/
def ofName? (name : String) : Option Environment :=
  let small := String.ofList (Text.toLower name.toList)
  if small = "development" ∨ small = "dev" then some .development
  else if small = "production" ∨ small = "prod" then some .production
  else none

/-- The name of an environment. -/
def name : Environment → String
  | .development => "development"
  | .production => "production"

/-- The name of an environment in the text of a configuration. -/
def shown : Environment → String
  | .development => "Development"
  | .production => "Production"

end Environment

end MainContent.Settings
