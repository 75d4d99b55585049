import MainContent.Url.Domain.MappingTable
import Std.Data.HashMap

/-!
# The mapping of domain names

Before a domain name is compared or encoded, each of its characters is mapped: capitals become
small, compatibility forms become plain, some characters are dropped, and some are refused.
-/

namespace MainContent.Url.Domain

/-- The code points of a run, each with the one that it is moved to. -/
def runEntries (r : Text.CaseRun) : List (Nat × List Nat) :=
  (List.range ((r.last - r.first) / r.stride + 1)).map fun i =>
    let n := r.first + i * r.stride
    (n, [(n + r.offset).toNat])

/-- The code points outside ASCII that are replaced, each with its replacement. -/
def entries : List (Nat × List Nat) :=
  shifted.flatMap runEntries ++ replaced

/-- The replacements, by code point. -/
def replacements : Std.HashMap Nat (List Char) :=
  .ofList (entries.map fun e => (e.1, e.2.map Char.ofNat))

/-- What a character of a domain name stands for: `none` when it is refused, no character when it
is dropped. -/
def mapChar (c : Char) : Option (List Char) :=
  if c.toNat < 0x80 then some [Text.lowerAscii c]
  else if refused.contains c then none
  else if dropped.contains c then some []
  else some ((replacements[c.toNat]?).getD [c])

/-- Whether a character stands for itself. -/
def isStable (c : Char) : Bool :=
  mapChar c == some [c]

/-- A domain name with all its characters mapped. -/
def mapAll : List Char → Option (List Char)
  | [] => some []
  | c :: cs =>
    match mapChar c, mapAll cs with
    | some m, some ms => some (m ++ ms)
    | _, _ => none

end MainContent.Url.Domain
