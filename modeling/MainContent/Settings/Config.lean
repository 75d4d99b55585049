import MainContent.Settings.Environment
import MainContent.Settings.Fetch
import MainContent.Settings.Variables
import MainContent.Text.Blank
import MainContent.Text.Numeral
import MainContent.Text.Quoted

/-!
# The configuration

The configuration of the service, read from environment variables. Every variable but the first
has a usual value; in production the auth key must be set, and must not be the one that
development uses by default. The first check that fails decides the error.
-/

namespace MainContent.Settings

/-- The variables that the configuration is read from. -/
inductive Variable where
  | environment
  | host
  | port
  | authKey
  | workers
  | connectTimeout
  | fetchTimeout
  | maxPageSize
  | maxRedirects
  | maxElements
  | userAgent
  deriving DecidableEq, Repr

/-- The name of a variable. -/
def Variable.name : Variable → String
  | .environment => "RUST_ENV"
  | .host => "EXTRACTOR_HOST"
  | .port => "EXTRACTOR_PORT"
  | .authKey => "EXTRACTOR_AUTH_KEY"
  | .workers => "EXTRACTOR_WORKERS"
  | .connectTimeout => "EXTRACTOR_CONNECT_TIMEOUT_SECS"
  | .fetchTimeout => "EXTRACTOR_FETCH_TIMEOUT_SECS"
  | .maxPageSize => "EXTRACTOR_MAX_PAGE_SIZE"
  | .maxRedirects => "EXTRACTOR_MAX_REDIRECTS"
  | .maxElements => "EXTRACTOR_MAX_ELEMENTS"
  | .userAgent => "EXTRACTOR_USER_AGENT"

/-- The causes for which no configuration can be read. -/
inductive ConfigError where
  /-- A variable that is needed is not set. -/
  | missing (v : Variable)
  /-- The environment's name is none of the known ones. -/
  | unknownEnvironment
  /-- A variable's value is no number of its type. -/
  | notANumber (v : Variable)
  /-- The auth key is empty. -/
  | emptyKey
  /-- A number that must be positive is zero. -/
  | zero (v : Variable)
  /-- The auth key in production is the one that development uses by default. -/
  | developmentKey
  deriving DecidableEq, Repr

namespace ConfigError

/-- The three families of causes. -/
inductive Family where
  | missing
  | invalid
  | production
  deriving DecidableEq, Repr

/-- The family of a cause. -/
def family : ConfigError → Family
  | .missing _ => .missing
  | .developmentKey => .production
  | _ => .invalid

/-- What a number must be, in the wording of its error. -/
def numberNoun : Variable → String
  | .port => "port number"
  | _ => "number"

/-- The wording of a cause. -/
def message : ConfigError → String
  | .missing v => "Missing required environment variable: " ++ v.name
  | .unknownEnvironment =>
    "Invalid configuration value: RUST_ENV must be 'development' or 'production'"
  | .notANumber v =>
    "Invalid configuration value: " ++ v.name ++ " must be a valid " ++ numberNoun v
  | .emptyKey => "Invalid configuration value: EXTRACTOR_AUTH_KEY must not be empty"
  | .zero v => "Invalid configuration value: " ++ v.name ++ " must be at least 1"
  | .developmentKey =>
    "Production configuration validation failed:\n  - EXTRACTOR_AUTH_KEY is using " ++
      "development default. Set a secure auth key."

end ConfigError

/-- How many threads serve requests. -/
inductive Workers where
  /-- A number that was chosen. -/
  | fixed (n : Nat)
  /-- One for each processor of the machine. -/
  | perProcessor
  deriving DecidableEq, Repr

/-- The number of threads on a machine with so many processors. -/
def Workers.count (processors : Nat) : Workers → Nat
  | .fixed n => n
  | .perProcessor => processors

/-- The configuration of the service. -/
structure Config where
  /-- Where the service runs. -/
  environment : Environment
  /-- The address that it listens on. -/
  host : String
  /-- The port that it listens on. -/
  port : Nat
  /-- The secret that callers must present. -/
  authKey : String
  /-- How many threads serve requests. -/
  workers : Workers
  /-- The limits of fetches. -/
  fetch : Fetch
  deriving DecidableEq, Repr

namespace Config

/-- The auth key that development uses by default. -/
def developmentKey : String := "dev-auth-key-do-not-use-in-production"

/-- The address that the service listens on by default. -/
def defaultHost : String := "127.0.0.1"

/-- The port that the service listens on by default. -/
def defaultPort : Nat := 8080

/-- The largest port. -/
def largestPort : Nat := 65535

/-- The largest value of any other number. -/
def largestNumber : Nat := 18446744073709551615

/-- The number in a variable, without the blanks around it, or `none` when it is not set. -/
def number? (vs : Variables) (v : Variable) (largest : Nat) : Except ConfigError (Option Nat) :=
  match vs.text? v.name with
  | none => .ok none
  | some value =>
    match Text.Numeral.read? largest (Text.trim value.toList) with
    | some n => .ok (some n)
    | none => .error (.notANumber v)

/-- The number in a variable, or its usual value when the variable is not set. -/
def number (vs : Variables) (v : Variable) (largest usual : Nat) : Except ConfigError Nat :=
  (number? vs v largest).map (·.getD usual)

/-- The environment that the variables name. -/
def readEnvironment (vs : Variables) : Except ConfigError Environment :=
  match vs.text? Variable.environment.name with
  | none => .error (.missing .environment)
  | some name =>
    match Environment.ofName? name with
    | some e => .ok e
    | none => .error .unknownEnvironment

/-- The auth key: in development it has a usual value, in production it must be set. -/
def readAuthKey (vs : Variables) (e : Environment) : Except ConfigError String :=
  match vs.text? Variable.authKey.name, e with
  | some key, _ => .ok key
  | none, .development => .ok developmentKey
  | none, .production => .error (.missing .authKey)

/-- The number of threads when none is chosen. -/
def defaultWorkers : Environment → Workers
  | .development => .fixed 4
  | .production => .perProcessor

/-- The checks that a configuration must pass in every environment. -/
def checkValues (c : Config) : Except ConfigError Unit :=
  if c.authKey.isEmpty then .error .emptyKey
  else if c.workers = .fixed 0 then .error (.zero .workers)
  else if c.fetch.connectTimeout.milliseconds = 0 then .error (.zero .connectTimeout)
  else if c.fetch.timeout.milliseconds = 0 then .error (.zero .fetchTimeout)
  else .ok ()

/-- The check that a configuration must pass in production. -/
def checkProduction (c : Config) : Except ConfigError Unit :=
  if c.environment = .production ∧ c.authKey = developmentKey then .error .developmentKey
  else .ok ()

/-- The configuration as the variables give it, before its values are checked. -/
def readValues (vs : Variables) : Except ConfigError Config := do
  let usual : Fetch := {}
  let environment ← readEnvironment vs
  let port ← number vs .port largestPort defaultPort
  let authKey ← readAuthKey vs environment
  let workers ← number? vs .workers largestNumber
  let connectTimeout ← number vs .connectTimeout largestNumber usual.connectTimeout.seconds
  let timeout ← number vs .fetchTimeout largestNumber usual.timeout.seconds
  let maxPageSize ← number vs .maxPageSize largestNumber usual.maxPageSize
  let maxRedirects ← number vs .maxRedirects largestNumber usual.maxRedirects
  let maxElements ← number vs .maxElements largestNumber usual.maxElements
  return {
    environment
    host := (vs.text? Variable.host.name).getD defaultHost
    port
    authKey
    workers := (workers.map .fixed).getD (defaultWorkers environment)
    fetch := {
      connectTimeout := .ofSeconds connectTimeout
      timeout := .ofSeconds timeout
      maxPageSize
      maxRedirects
      maxElements
      userAgent := (vs.text? Variable.userAgent.name).getD usual.userAgent } }

/-- The configuration that the variables describe. -/
def ofVariables (vs : Variables) : Except ConfigError Config := do
  let c ← readValues vs
  checkValues c
  checkProduction c
  return c

/-- The address and port that the service listens on. -/
def bindAddress (c : Config) : String :=
  c.host ++ ":" ++ Nat.repr c.port

/-- A configuration as it may be shown, on a machine with so many processors: everything but the
auth key. -/
def shown (c : Config) (processors : Nat) : String :=
  "Config \x7b environment: " ++ c.environment.shown ++
    ", host: " ++ Text.Quoted.encode c.host ++
    ", port: " ++ Nat.repr c.port ++
    ", auth_key: SecretBox<str>([REDACTED])" ++
    ", workers: " ++ Nat.repr (c.workers.count processors) ++
    ", fetch: FetchSettings \x7b connect_timeout: " ++ c.fetch.connectTimeout.shown ++
    ", timeout: " ++ c.fetch.timeout.shown ++
    ", max_page_size: " ++ Nat.repr c.fetch.maxPageSize ++
    ", max_redirects: " ++ Nat.repr c.fetch.maxRedirects ++
    ", max_elements: " ++ Nat.repr c.fetch.maxElements ++
    ", user_agent: " ++ Text.Quoted.encode c.fetch.userAgent ++ " \x7d \x7d"

end Config

end MainContent.Settings
