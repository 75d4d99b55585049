import MainContent.Text.Percent
import MainContent.Text.Utf8

/-!
# Percent-encode sets

The characters that each part of a URL does not hold as they are. Outside ASCII every byte of every
character is escaped.
-/

namespace MainContent.Url

/-- A control character, or one outside ASCII. -/
def inControlSet (c : Char) : Bool :=
  c.toNat < 0x20 || 0x7F ≤ c.toNat

/-- What a fragment does not hold. -/
def inFragmentSet (c : Char) : Bool :=
  inControlSet c || " \"<>".toList.contains c || c.toNat == 0x60

/-- What a path does not hold. -/
def inPathSet (c : Char) : Bool :=
  inFragmentSet c || c == '#' || c == '?' || c == '\x7b' || c == '\x7d'

/-- What a user's name or password does not hold. -/
def inUserinfoSet (c : Char) : Bool :=
  inPathSet c || "/:;=@[\\]^|".toList.contains c

/-- What a query does not hold. -/
def inQuerySet (c : Char) : Bool :=
  inControlSet c || " \"#<>".toList.contains c

/-- What a query does not hold under a scheme of the web. -/
def inSpecialQuerySet (c : Char) : Bool :=
  inQuerySet c || c == '\''

/-- A text with the characters of a set escaped. -/
def percentEncode (set : Char → Bool) (cs : List Char) : List Char :=
  cs.flatMap fun c =>
    if set c then (Text.Utf8.encode [c]).flatMap Text.Percent.escape else [c]

end MainContent.Url
