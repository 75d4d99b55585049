import MainContent.Fetch.Extractor
import MainContent.Log.Filter
import MainContent.Settings.Config
import MainContent.Settings.Dotenv

/-!
# Starting the service

What the program does with its arguments, the variables of its process and a file of variables:
it ends at once, or goes on to listen. A health check ends it after the configuration has been
read, and says by its exit code whether that went well. A file of variables that gives one of them a
value that none can have ends the program before it begins with either.
-/

namespace MainContent.Service

open MainContent.Settings (Config ConfigError Environment Variables)

/-- What the program goes on to do. -/
inductive Course where
  /-- It ends. -/
  | exit (code : Nat)
  /-- It listens as the configuration says. -/
  | listen (c : Config)

/-- How the program starts. -/
structure Startup where
  /-- What it reports, in order. -/
  events : List Log.Event := []
  /-- What it goes on to do. -/
  course : Course

namespace Startup

/-- The program itself, in the log. -/
def logTarget : String := "article_extractor"

/-- A line of information. -/
def info (message : String) : Log.Event :=
  { level := .info, target := logTarget, message }

/-- A line of warning. -/
def warn (message : String) : Log.Event :=
  { level := .warn, target := logTarget, message }

/-- A line about an error. -/
def error (message : String) : Log.Event :=
  { level := .error, target := logTarget, message }

/-- What is reported when no configuration can be read. -/
def configurationAdvice (cause : ConfigError) : List Log.Event :=
  [error ("Failed to load configuration: " ++ cause.message),
    error "",
    error "Please check your environment variables:",
    error "  - RUST_ENV must be set to 'development' or 'production'",
    error "  - In production, EXTRACTOR_AUTH_KEY must be set",
    error "  - In production, values must not match development defaults"]

/-- The rule above and below the program's name. -/
def rule : String := "========================================"

/-- What is reported of the environment. -/
def banner (e : Environment) : List Log.Event :=
  [info rule, info "  Article Extractor", info ("  Environment: " ++ e.name), info rule] ++
    match e with
    | .development =>
      [warn "Running in DEVELOPMENT mode - do not use in production!",
        info "Using development default for EXTRACTOR_AUTH_KEY unless set"]
    | .production => []

/-- What is reported before the program listens, on a machine with so many processors. -/
def listening (c : Config) (processors : Nat) : Log.Event :=
  info ("Starting server at http://" ++ c.bindAddress ++ " (" ++
    Nat.repr (c.workers.count processors) ++ " workers)")

/-- The argument that asks for a health check. -/
def healthFlag : String := "--health-check"

/-- The health check: whether a configuration can be read. -/
def healthCheck (vs : Variables) : Startup :=
  { course := .exit (if (Config.ofVariables vs).toBool then 0 else 1) }

/-- The start of the service on a machine with so many processors. -/
def serve (vs : Variables) (processors : Nat) : Startup :=
  match Config.ofVariables vs with
  | .error cause => { events := configurationAdvice cause, course := .exit 1 }
  | .ok c =>
    match Fetch.prepare c.fetch with
    | .error f =>
      { events := banner c.environment ++ [error ("Failed to initialize extractor: " ++ f.message)],
        course := .exit 1 }
    | .ok ready =>
      { events := banner c.environment ++ [ready, listening c processors], course := .listen c }

/-- What completing the variables of a process by a file of variables leads to, if there is one. -/
def loaded (vs : Variables) (file : Option (List UInt8)) : Settings.Dotenv.Loaded :=
  (file.map (Settings.Dotenv.load vs)).getD { completed := vs }

/-- The variables of a process, completed by a file of variables if there is one. -/
def completed (vs : Variables) (file : Option (List UInt8)) : Variables :=
  (loaded vs file).completed

/-- The start of the program with these arguments and variables. -/
def ofProcess (args : List String) (vs : Variables) (processors : Nat) : Startup :=
  if args.contains healthFlag then healthCheck vs else serve vs processors

/-- The exit code of a program that breaks off. -/
def breakdown : Nat := 101

/-- The start of the program with these arguments, the variables of its process and a file of
variables. -/
def withFile (args : List String) (vs : Variables) (file : Option (List UInt8)) (processors : Nat) :
    Startup :=
  if (loaded vs file).fatal then { course := .exit breakdown }
  else ofProcess args (completed vs file) processors

/-- The variable that describes the filter of the log. -/
def filterVariable : String := "RUST_LOG"

/-- The text that describes the filter of the log. -/
def filterText (vs : Variables) : String :=
  (vs.text? filterVariable).getD ""

/-- The lines of an event: a message of several lines takes as many. -/
def lines (e : Log.Event) : List String :=
  (e.level.name ++ " " ++ e.target ++ ": " ++ e.message).splitOn "\n"

/-- The lines that are shown of the log. -/
def shownLines (vs : Variables) (s : Startup) : List String :=
  (s.events.filter (Log.Filter.ofText (filterText vs)).admits).flatMap lines

/-- The warnings about the filter of the log; a health check does not read it. -/
def warnings (args : List String) (vs : Variables) : List String :=
  if args.contains healthFlag then [] else Log.Filter.warnings (filterText vs)

end Startup

end MainContent.Service
