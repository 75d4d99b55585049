import MainContent.Service.Query

/-!
# Keeping keys out of the log

A raw query as it may be logged: every pair whose name decodes to `key` shows a placeholder for
its value, and every other pair is kept as it was written.
-/

namespace MainContent.Service.Redaction

/-- What is shown in place of a key's value. -/
def placeholder : String := "[REDACTED]"

/-- The name of a piece: decoded when its bytes are well-formed UTF-8, else as it is written. -/
def readName (piece : List Char) : List Char :=
  (Text.Form.decode? (Text.Form.rawName piece)).getD (Text.Form.rawName piece)

/-- One piece of a query as it may be logged. -/
def redactPiece (piece : List Char) : List Char :=
  if readName piece = Query.keyName.toList then
    Text.Form.rawName piece ++ '=' :: placeholder.toList
  else piece

/-- A raw query as it may be logged. -/
def redact (query : String) : String :=
  String.ofList (['&'].intercalate ((Text.Form.pieces query.toList).map redactPiece))

end MainContent.Service.Redaction
