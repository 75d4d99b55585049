import MainContent.Text.Utf8

/-!
# The auth key

The shared secret that a caller must present. A candidate of another length is refused at once;
one of the same length is compared byte by byte to its end, by collecting the differences of all
pairs, so the work does not depend on where the first difference is.
-/

namespace MainContent.Service

/-- The secret that callers must present. -/
structure AuthKey where
  /-- The secret itself. -/
  secret : String
  deriving DecidableEq

namespace AuthKey

/-- All bit positions in which the bytes of two lists differ somewhere. -/
def differences (xs ys : List UInt8) : UInt8 :=
  (List.zipWith (· ^^^ ·) xs ys).foldl (· ||| ·) 0

/-- The bytes of the secret. -/
def bytes (k : AuthKey) : List UInt8 :=
  Text.Utf8.encode k.secret.toList

/-- Whether a caller who presents this candidate, if any, may proceed. -/
def admits (k : AuthKey) : Option (List UInt8) → Bool
  | none => false
  | some candidate =>
    if candidate.length ≠ k.bytes.length then false
    else differences k.bytes candidate == 0

/-- What is shown in place of a key: nothing of the secret. -/
def shown (_ : AuthKey) : String :=
  "AuthKey([REDACTED])"

end AuthKey

end MainContent.Service
