import MainContent.Encoding.Decode
import MainContent.Encoding.Label
import MainContent.Log.Event

/-!
# The encoding of a page

A page's encoding is named by its content type, else by a `meta` tag near its beginning, and is
UTF-8 when neither names a known one.
-/

namespace MainContent.Page

/-- The number of bytes at the beginning of a page in which a `meta` tag is looked for. -/
def headBytes : Nat := 1024

/-- What follows the first occurrence of `pattern`. -/
def after? (pattern : List Char) : List Char → Option (List Char)
  | [] => if pattern.isEmpty then some [] else none
  | c :: cs =>
    if pattern.isPrefixOf (c :: cs) then some ((c :: cs).drop pattern.length)
    else after? pattern cs

/-- What a label may follow, and is not part of it. -/
def beforeLabel (c : Char) : Bool :=
  c == '"' || c == '\'' || c == ' '

/-- What ends a label. -/
def endsLabel (c : Char) : Bool :=
  c == '"' || c == '\'' || c == ';' || c == ' ' || c == '>' || c == '/'

/-- The label after the first `charset=` in a text of small letters, unless it is empty. -/
def labelIn (small : List Char) : Option (List Char) :=
  match after? "charset=".toList small with
  | none => none
  | some rest =>
    let label := (rest.dropWhile beforeLabel).takeWhile (!endsLabel ·)
    if label.isEmpty then none else some label

/-- The label in a content type. -/
def contentTypeLabel (value : String) : Option (List Char) :=
  labelIn (Text.toLowerAscii value.toList)

/-- The label in the first tag that begins with `<meta` and has one. -/
def metaLabelIn : List Char → Option (List Char)
  | [] => none
  | c :: cs =>
    if "<meta".toList.isPrefixOf (c :: cs) then
      match labelIn ((c :: cs).takeWhile (· ≠ '>')) with
      | some label => some label
      | none => metaLabelIn cs
    else metaLabelIn cs

/-- The label in a `meta` tag at the beginning of a page. -/
def metaLabel (body : List UInt8) : Option (List Char) :=
  metaLabelIn (Text.toLowerAscii (Text.Utf8.decodeLossy (body.take headBytes)))

/-- The encoding that is named for a page. -/
def namedEncoding (contentType : Option String) (body : List UInt8) : Encoding :=
  let label :=
    match contentType.bind contentTypeLabel with
    | some label => some label
    | none => metaLabel body
  (label.bind Encoding.ofLabel?).getD .utf8

/-- The part of the service that fetches and reads pages, in the log. -/
def logTarget : String := "article_extractor_lib::services::extractor"

/-- What is reported when a page is damaged. -/
def damageEvent (encoding : Encoding) : Log.Event :=
  { level := .debug, target := logTarget, message := "Page contained undecodable bytes",
    fields := [("encoding", encoding.name)] }

/-- The text of a page, and what is reported about it. -/
def decode (contentType : Option String) (body : List UInt8) : String × List Log.Event :=
  let d := Encoding.decode (namedEncoding contentType body) body
  (String.ofList d.text, if d.damaged then [damageEvent d.encoding] else [])

end MainContent.Page
