import MainContent.Text.Utf8

/-!
# Environment variables

The variables that a process is started with, each a name with a value of bytes. A value that is
no well-formed UTF-8 counts as absent wherever text is asked for.
-/

namespace MainContent.Settings

/-- The variables of a process, by name. -/
structure Variables where
  /-- The names with their values; an earlier entry hides a later one of the same name. -/
  entries : List (String × List UInt8)

namespace Variables

/-- The bytes of a variable. -/
def bytes? (vs : Variables) (name : String) : Option (List UInt8) :=
  (vs.entries.find? (·.1 == name)).map (·.2)

/-- The text of a variable. -/
def text? (vs : Variables) (name : String) : Option String :=
  (vs.bytes? name).bind fun bs => (Text.Utf8.decode? bs).map String.ofList

/-- The variables with one of them set to a text. -/
def set (vs : Variables) (name value : String) : Variables :=
  ⟨(name, Text.Utf8.encode value.toList) :: vs.entries⟩

/-- The variable that a stretch of bytes sets: its name stands before the first equals sign. -/
def ofEntry? (bs : List UInt8) : Option (String × List UInt8) :=
  (Text.Utf8.decode? (bs.takeWhile (· != 0x3D))).map fun name =>
    (String.ofList name, (bs.dropWhile (· != 0x3D)).drop 1)

/-- The variables in a block of bytes in which each of them ends with a zero. -/
def ofBlock (bs : List UInt8) : Variables :=
  ⟨((bs.splitOn 0).filter (·.contains 0x3D)).filterMap ofEntry?⟩

end Variables

end MainContent.Settings
