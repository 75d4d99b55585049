import MainContent.Url.HostReader
import MainContent.Url.PathReader

/-!
# Reading URLs

A text is read as a URL by the rules that browsers follow (the URL Standard): controls and spaces
around it are dropped, tabs and line ends within it too, and what follows the scheme is read by the
scheme's kind. A text without a scheme is read as a step from a base.
-/

namespace MainContent.Url

/-- A control character or a space. -/
def isControlOrSpace (c : Char) : Bool :=
  c.toNat ≤ 0x20

/-- A text without what reading a URL ignores. -/
def clean (cs : List Char) : List Char :=
  ((((cs.dropWhile isControlOrSpace).reverse).dropWhile isControlOrSpace).reverse).filter fun c =>
    c != '\t' && c != '\n' && c != '\r'

/-- Whether a character ends an authority. -/
def endsAuthority (kind : SchemeKind) (c : Char) : Bool :=
  isSlash kind c || c == '?' || c == '#'

/-- What stands before and after the last `@` of a text, if it has one. -/
def splitLastAt (cs : List Char) : Option (List Char × List Char) :=
  let back := cs.reverse
  match back.dropWhile (· ≠ '@') with
  | _ :: before => some (before.reverse, (back.takeWhile (· ≠ '@')).reverse)
  | [] => none

/-- The host's text at the beginning of an authority, and what follows it. A colon within brackets
belongs to the host. -/
def splitHost (inside : Bool) : List Char → List Char × List Char
  | [] => ([], [])
  | c :: cs =>
    if c = ':' && !inside then ([], c :: cs)
    else
      let inside := if c = '[' then true else if c = ']' then false else inside
      let (host, rest) := splitHost inside cs
      (c :: host, rest)

/-- The port that follows a host's colon, unless it is the scheme's usual one. -/
def readPort (scheme : String) (cs : List Char) : Except Error (Option Nat) :=
  if !cs.all Text.isDigit then .error .port
  else
    let n := cs.foldl (fun n c => n * 10 + (c.toNat - 48)) 0
    if 65535 < n then .error .port
    else if cs.isEmpty || defaultPort? scheme == some n then .ok none
    else .ok (some n)

/-- An authority's host and port, and what follows a backslash that ends the port. -/
def readHostAndPort (kind : SchemeKind) (scheme : String) (cs : List Char) :
    Except Error (Host × Option Nat × List Char) := do
  let (hostText, rest) := splitHost false cs
  if kind.isSpecial && hostText.isEmpty then throw .emptyHost
  let host ← if kind.isSpecial then readSpecialHost hostText else readOtherHost hostText
  if hostText.isEmpty && !rest.isEmpty then throw .emptyHost
  let port ← readPort scheme ((rest.drop 1).takeWhile (· ≠ '\\'))
  return (host, port, (rest.drop 1).dropWhile (· ≠ '\\'))

/-- A user's name or password as a URL keeps it. -/
def keepUserinfo (cs : List Char) : String :=
  String.ofList (percentEncode inUserinfoSet cs)

/-- What follows `//`: an authority, a path, a query and a fragment. -/
def readAuthority (kind : SchemeKind) (scheme : String) (cs : List Char) : Except Error Url := do
  let text := cs.takeWhile (!endsAuthority kind ·)
  let rest := cs.dropWhile (!endsAuthority kind ·)
  let (userinfo, hostText) :=
    match splitLastAt text with
    | some (user, host) => (user, host)
    | none => ([], text)
  let username := keepUserinfo (userinfo.takeWhile (· ≠ ':'))
  let password := keepUserinfo ((userinfo.dropWhile (· ≠ ':')).drop 1)
  if hostText.isEmpty && userinfo.isEmpty && (splitLastAt text).isSome && !rest.isEmpty then
    throw .emptyHost
  let (host, port, left) ← readHostAndPort kind scheme hostText
  if host = .name "" && !(username.isEmpty && password.isEmpty) then throw .emptyHost
  let tail := splitTail (left ++ rest)
  let u : Url :=
    { scheme, username, password, host := some host, port, path := readPath kind tail.path,
      query := none, fragment := none }
  return withTail kind u tail

/-- A URL without an authority. -/
def withoutAuthority (scheme : String) (path : Path) (tail : Tail) : Url :=
  withTail (schemeKind scheme)
    { scheme, username := "", password := "", host := none, port := none, path, query := none,
      fragment := none } tail

/-- What follows the colon of a scheme that is not special. -/
def readOther (scheme : String) (cs : List Char) : Except Error Url :=
  match cs with
  | '/' :: '/' :: rest => readAuthority .other scheme rest
  | '/' :: rest =>
    let tail := splitTail rest
    .ok (withoutAuthority scheme (followText .other [] tail.path) tail)
  | _ =>
    let tail := splitTail cs
    .ok (withoutAuthority scheme
      (.fixed (String.ofList (percentEncode inControlSet tail.path))) tail)

/-- The host of a file, or none when it is this machine. -/
def readFileHost (cs : List Char) : Except Error Host := do
  if cs.isEmpty then return .name ""
  let host ← readSpecialHost cs
  return if host = .name "localhost" then .name "" else host

/-- A file at a host. -/
def fileUrl (host : Host) (path : Path) (tail : Tail) : Url :=
  withTail .file
    { scheme := "file", username := "", password := "", host := some host, port := none, path,
      query := none, fragment := none } tail

/-- The names of a URL's path. -/
def names (u : Url) : List String :=
  match u.path with
  | .segments ns => ns
  | .fixed _ => []

/-- The host of a base that is a file, else this machine. -/
def fileBaseHost (base : Option Url) : Host :=
  match base with
  | some b => b.host.getD (.name "")
  | none => .name ""

/-- What follows `file:`, read as a step from a base that is a file itself. -/
def readFile (base : Option Url) (cs : List Char) : Except Error Url :=
  let slash := isSlash .file
  match cs with
  | a :: b :: rest =>
    if slash a && slash b then do
      let hostText := rest.takeWhile (!endsAuthority .file ·)
      if isDrive hostText then
        let tail := splitTail rest
        return fileUrl (.name "") (followText .file [] tail.path) tail
      let host ← readFileHost hostText
      let tail := splitTail (rest.dropWhile (!endsAuthority .file ·))
      return fileUrl host (readPath .file tail.path) tail
    else step base cs
  | _ => step base cs
where
  /-- A step that names no host. -/
  step (base : Option Url) (cs : List Char) : Except Error Url :=
    let tail := splitTail cs
    match tail.path, base with
    | c :: rest, _ =>
      if isSlash .file c then .ok (fileUrl (fileBaseHost base) (followText .file [] rest) tail)
      else
        let start := if isDrive (tail.path.take 2) then [] else ((base.map names).getD []).dropLast
        .ok (fileUrl (fileBaseHost base) (followText .file start tail.path) tail)
    | [], some b =>
      let kept := fileUrl (fileBaseHost base) b.path tail
      .ok (if tail.query.isNone then { kept with query := b.query } else kept)
    | [], none => .ok (fileUrl (.name "") (.segments [""]) tail)

/-- A text without a scheme, or with the base's own, read as a step from the base. -/
def readRelative (kind : SchemeKind) (base : Url) (cs : List Char) : Except Error Url :=
  let slash := isSlash kind
  match cs with
  | '/' :: '/' :: rest => readAuthority kind base.scheme rest
  | a :: b :: rest =>
    if slash a && slash b then readAuthority kind base.scheme (rest.dropWhile slash)
    else step cs
  | _ => step cs
where
  /-- A step that names no host. -/
  step (cs : List Char) : Except Error Url :=
    let tail := splitTail cs
    match tail.path with
    | [] =>
      let kept := withTail kind base tail
      .ok (if tail.query.isNone then { kept with query := base.query } else kept)
    | c :: rest =>
      if isSlash kind c || c == '\\' then
        .ok (withTail kind { base with path := followText kind [] rest } tail)
      else
        .ok (withTail kind { base with path := followText kind base.names.dropLast tail.path } tail)

/-- A text that begins with a scheme, read from what follows its colon. -/
def readAbsolute (base : Option Url) (scheme : String) (cs : List Char) : Except Error Url :=
  match schemeKind scheme with
  | .file => readFile (base.filter (·.scheme == "file")) cs
  | .other => readOther scheme cs
  | .web =>
    let slash := isSlash .web
    let slashes := (cs.takeWhile slash).length
    match base with
    | some b =>
      if slashes < 2 && b.scheme == scheme then readRelative .web b cs
      else readAuthority .web scheme (cs.dropWhile slash)
    | none => readAuthority .web scheme (cs.dropWhile slash)

/-- A text without a scheme, read as a step from the base. -/
def readStep (base : Option Url) (cs : List Char) : Except Error Url :=
  match base with
  | none => .error .relativeWithoutBase
  | some b =>
    match cs, b.path with
    | '#' :: f, _ => .ok { b with fragment := some (keepFragment f) }
    | _, .fixed _ => .error .relativeToFixedPath
    | _, .segments _ =>
      match schemeKind b.scheme with
      | .file => readFile base cs
      | kind => readRelative kind b cs

/-- The URL that a text denotes, seen from a base if there is one. -/
def read (base : Option Url) (text : String) : Except Error Url :=
  let cs := clean text.toList
  match splitScheme? cs with
  | some (scheme, rest) => readAbsolute base scheme rest
  | none => readStep base cs

/-- The URL that a text denotes by itself. -/
def ofText (text : String) : Except Error Url :=
  read none text

/-- The URL that a text denotes seen from this one. -/
def join (u : Url) (text : String) : Except Error Url :=
  read (some u) text

end MainContent.Url
