import MainContent.Service.Startup

/-!
# The command line

The outer layer of the program: it collects the arguments, the variables of the process and the file
of variables beside it, and writes down what the start of the service amounts to. Sockets are not
its work: where the service would go on to listen, the program says so and ends.
-/

namespace MainContent.CommandLine

open MainContent.Service (Startup)
open MainContent.Settings (Variables)

/-- The bytes of a file, or `none` if it cannot be read. -/
def readFile? (path : String) : IO (Option (List UInt8)) := do
  try
    return some (← IO.FS.readBinFile path).toList
  catch _ => return none

/-- The variables of this process. -/
def ownVariables : IO Variables := do
  return Variables.ofBlock ((← readFile? "/proc/self/environ").getD [])

/-- The number of processors of this machine. -/
def processorCount : IO Nat := do
  let text := (← readFile? "/proc/cpuinfo").getD []
  return max 1 ((text.splitOn 0x0A).countP ("processor".toUTF8.toList.isPrefixOf ·))

/-- Starts the program, and yields its exit code. -/
def run (args : List String) : IO UInt32 := do
  let own ← ownVariables
  let file ← readFile? ".env"
  let vs := Startup.completed own file
  let s := Startup.withFile args own file (← processorCount)
  unless (Startup.loaded own file).fatal do
    for warning in Startup.warnings args vs do
      IO.eprintln warning
  for line in s.shownLines vs do
    IO.println line
  match s.course with
  | .exit code => return UInt32.ofNat code
  | .listen c =>
    IO.eprintln ("no sockets to listen on at " ++ c.bindAddress)
    return 1

end MainContent.CommandLine

/-- The entry point of the program. -/
def main (args : List String) : IO UInt32 :=
  MainContent.CommandLine.run args
