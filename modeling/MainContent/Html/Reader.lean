import MainContent.Html.Lexer
import MainContent.Html.OldDoctype
import MainContent.Html.TableRules

/-!
# Reading documents

Every text is a document: its pieces are read one after the other, and each of them makes the
document's tree grow by the rules of the part that is being read. The outermost element, the head
and the body are there even if no tag names them.
-/

namespace MainContent.Html

namespace Build

/-- The rules before the first piece of a document. -/
def initial : Token → Build Outcome
  | .text _ true => return .done
  | .comment s => do putCommentIn Dom.root s; return .done
  | .doctype d => do
    let i ← create .doctype
    onDom (·.append Dom.root i)
    modify fun b => { b with old := d.isOld }
    setMode .beforeHtml
    return .done
  | _ => do
    modify fun b => { b with old := true }
    againIn .beforeHtml

/-- Makes the outermost element. -/
def createHtml (t : Tag) : Build Unit := do
  let i ← createElement .html t
  onDom (·.append Dom.root i)
  onOpened fun _ is => i :: is
  setMode .beforeHead

/-- Makes the outermost element without a tag, and goes on in it. -/
def implyHtml : Build Outcome := do
  createHtml { name := "html" }
  return .again

/-- The rules before the outermost element. -/
def beforeHtml : Token → Build Outcome
  | .text _ true => return .done
  | .comment s => do putCommentIn Dom.root s; return .done
  | .doctype _ => return .done
  | .start t => do
    if t.name == "html" then
      createHtml t
      return .done
    else implyHtml
  | .stop name => if name == "head" || telling.contains name then implyHtml else return .done
  | _ => implyHtml

/-- Makes the head. -/
def createHead (t : Tag) : Build Unit := do
  let i ← put t
  modify fun b => { b with head := some i }
  setMode .inHead

/-- Makes the head without a tag, and goes on in it. -/
def implyHead : Build Outcome := do
  createHead { name := "head" }
  return .again

/-- The rules before the head. -/
def beforeHead : Token → Build Outcome
  | .text _ true => return .done
  | .comment s => do putComment s; return .done
  | .doctype _ => return .done
  | .start t => do
    if t.name == "html" then
      startHtml t
      return .done
    else if t.name == "head" then
      createHead t
      return .done
    else implyHead
  | .stop name => if name == "head" || telling.contains name then implyHead else return .done
  | _ => implyHead

/-- Makes the body without a tag, and goes on in it. -/
def implyBody : Build Outcome := do
  putNamed "body"
  againIn .inBody

/-- The rules behind the head. -/
def afterHead : Token → Build Outcome
  | .text s true => do putText s; return .done
  | .comment s => do putComment s; return .done
  | .doctype _ => return .done
  | .start t => do
    if t.name == "html" then
      startHtml t
      return .done
    else if t.name == "body" then
      let _ ← put t
      forbidFrames
      setMode .inBody
      return .done
    else if t.name == "frameset" then
      let _ ← put t
      setMode .inFrameset
      return .done
    else if headStarts.contains t.name then
      match (← get).head with
      | none => return .done
      | some head =>
        onOpened fun _ is => head :: is
        let outcome ← inHead (.start t)
        unopen head
        return outcome
    else if t.name == "head" then return .done
    else implyBody
  | .stop name => do
    if name == "template" then
      stopTemplate
      return .done
    else if telling.contains name then implyBody
    else return .done
  | _ => implyBody

/-- The rules of text that is read apart. -/
def inText : Token → Build Outcome
  | .text s _ => do putText s; return .done
  | .stop _ => do
    pop
    modify fun b => { b with mode := b.modeBehind, model := .data }
    return .done
  | .finish => do
    pop
    modify fun b => { b with mode := b.modeBehind, model := .data }
    return .again
  | _ => return .done

/-- The rules behind the body. -/
def afterBody : Token → Build Outcome
  | .text s true => inBody (.text s true)
  | .comment s => do
    match (← get).opened.getLast? with
    | some html => putCommentIn html s
    | none => pure ()
    return .done
  | .doctype _ => return .done
  | .start t => do
    if t.name == "html" then
      startHtml t
      return .done
    else againIn .inBody
  | .stop name => do
    if name == "html" then
      setMode .afterAfterBody
      return .done
    else againIn .inBody
  | .finish => return .done
  | _ => againIn .inBody

/-- The rules of a set of frames. -/
def inFrameset : Token → Build Outcome
  | .text s true => do putText s; return .done
  | .comment s => do putComment s; return .done
  | .start t => do
    if t.name == "html" then startHtml t
    else if t.name == "frameset" then
      let _ ← put t
    else if t.name == "frame" then putVoid t
    else if t.name == "noframes" then startInHead t
    return .done
  | .stop name => do
    if name == "frameset" && (← get).opened.length != 1 then
      pop
      if !(← get).currentIs ["frameset"] then setMode .afterFrameset
    return .done
  | _ => return .done

/-- The rules behind a set of frames. -/
def afterFrameset : Token → Build Outcome
  | .text s true => do putText s; return .done
  | .comment s => do putComment s; return .done
  | .start t => do
    if t.name == "html" then startHtml t
    else if t.name == "noframes" then startInHead t
    return .done
  | .stop name => do
    if name == "html" then setMode .afterAfterFrameset
    return .done
  | _ => return .done

/-- The rules behind the end of the outermost element. -/
def afterAfterBody : Token → Build Outcome
  | .text s true => inBody (.text s true)
  | .comment s => do putCommentIn Dom.root s; return .done
  | .doctype _ => return .done
  | .start t => do
    if t.name == "html" then
      startHtml t
      return .done
    else againIn .inBody
  | .finish => return .done
  | _ => againIn .inBody

/-- The rules behind the end of the outermost element of a set of frames. -/
def afterAfterFrameset : Token → Build Outcome
  | .text s true => inBody (.text s true)
  | .comment s => do putCommentIn Dom.root s; return .done
  | .start t => do
    if t.name == "html" then startHtml t
    else if t.name == "noframes" then startInHead t
    return .done
  | _ => return .done

/-- Handles a piece by the rules of a part of the document. -/
def byMode : Mode → Token → Build Outcome
  | .initial => initial
  | .beforeHtml => beforeHtml
  | .beforeHead => beforeHead
  | .inHead => inHead
  | .inHeadNoscript => inHeadNoscript
  | .afterHead => afterHead
  | .inBody => inBody
  | .text => inText
  | .inTable => inTable
  | .inTableText => inTableText
  | .inCaption => inCaption
  | .inColumnGroup => inColumnGroup
  | .inTableBody => inTableBody
  | .inRow => inRow
  | .inCell => inCell
  | .inSelect => inSelect
  | .inSelectInTable => inSelectInTable
  | .inTemplate => inTemplate
  | .afterBody => afterBody
  | .inFrameset => inFrameset
  | .afterFrameset => afterFrameset
  | .afterAfterBody => afterAfterBody
  | .afterAfterFrameset => afterAfterFrameset

/-- Whether HTML may stand in an SVG or MathML element. -/
def holdsHtml (b : Builder) (i : NodeId) : Bool :=
  match b.qualified i with
  | (.svg, n) => svgHolders.contains n
  | (.math, n) =>
    n == "annotation-xml" && (b.dom.attribute? i "encoding").any fun v =>
      let small := String.ofList (Text.toLowerAscii v.toList)
      small == "text/html" || small == "application/xhtml+xml"
  | (.html, _) => false

/-- Whether plain text may stand in a MathML element. -/
def holdsText (b : Builder) (i : NodeId) : Bool :=
  b.dom.space i == .math && mathText.contains (b.dom.name i)

/-- Whether a piece is read by the rules of SVG and MathML. -/
def isForeign (b : Builder) (token : Token) : Bool :=
  match b.opened.head? with
  | none => false
  | some i =>
    if b.dom.space i == .html then false
    else
      match token with
      | .finish => false
      | .null | .text _ _ => !(holdsText b i || holdsHtml b i)
      | .start t =>
        !((holdsText b i && t.name != "mglyph" && t.name != "malignmark") || holdsHtml b i ||
          (b.qualified i == (.math, "annotation-xml") && t.name == "svg"))
      | _ => true

/-- Whether a start tag ends SVG and MathML. -/
def breaksOut (t : Tag) : Bool :=
  breakouts.contains t.name ||
    (t.name == "font" && t.attributes.any fun a => ["color", "face", "size"].contains a.name)

/-- Closes SVG and MathML elements up to one in which HTML may stand, and goes on with a piece. -/
def breakOut (token : Token) : Build Outcome := do
  onOpened fun b is => is.dropWhile fun i =>
    !(b.dom.space i == .html || holdsText b i || holdsHtml b i)
  byMode (← get).mode token

/-- The place of the element that an end tag ends, among the open elements of SVG and MathML, the
innermost first; `none` when the end tag belongs to the HTML around them. -/
def foreignEnd? (b : Builder) (name : String) : List NodeId → Option (List NodeId)
  | [] => some b.opened
  | [_] => some b.opened
  | i :: outer =>
    if String.ofList (Text.toLowerAscii (b.dom.name i).toList) == name then some outer
    else
      match outer with
      | j :: _ =>
        if b.dom.space j == .html && outer.length != 1 then none
        else foreignEnd? b name outer
      | [] => some b.opened

/-- The rules of SVG and MathML. -/
def inForeign (token : Token) : Build Outcome := do
  match token with
  | .null =>
    putText "\uFFFD"
    return .done
  | .text s blank =>
    if !blank then forbidFrames
    putText s
    return .done
  | .comment s =>
    putComment s
    return .done
  | .start t =>
    if breaksOut t then breakOut token
    else
      let b ← get
      putForeign ((b.opened.head?.map b.dom.space).getD .html) t
      return .done
  | .stop name =>
    if name == "br" || name == "p" then breakOut token
    else
      let b ← get
      match foreignEnd? b name b.opened with
      | some opened =>
        modify fun b => { b with opened }
        return .done
      | none => byMode b.mode token
  | _ => return .done

/-- Handles a piece, looking at it at most so many times. -/
def handleTimes : Nat → Token → Build Unit
  | 0, _ => pure ()
  | n + 1, token => do
    let b ← get
    match ← (if isForeign b token then inForeign token else byMode b.mode token) with
    | .done => pure ()
    | .again => handleTimes n token

/-- Handles a piece. Each further look at it closes an element or comes to a later part, so that the
number of open elements and of parts bounds the looks. -/
def handle (token : Token) : Build Unit := do
  handleTimes (2 * (← get).opened.length + 32) token

/-- Handles the stretches of a text. -/
def handleAll : List Token → Build Unit
  | [] => pure ()
  | token :: rest => do
    handle token
    handleAll rest

/-- Text without the line break that may be left out. -/
def withoutSkipped (skip : Bool) (cs : List Char) : List Char :=
  match skip, cs with
  | true, '\n' :: rest => rest
  | _, _ => cs

/-- Handles a piece as it comes from the text of the document. -/
def take (token : Token) : Build Unit := do
  let skip := (← get).skipBreak
  modify fun b => { b with skipBreak := false }
  match token with
  | .text s _ => handleAll (Lexer.stretches (withoutSkipped skip s.toList))
  | _ => handle token

/-- Handles the pieces of a text, at most so many. -/
def read : Nat → List Char → Build Unit
  | 0, _ => pure ()
  | _, [] => pure ()
  | n + 1, cs => do
    let b ← get
    let foreign := b.opened.head?.any fun i => b.dom.space i != .html
    let (token, rest) := Lexer.next b.model foreign cs
    match token with
    | some token => take token
    | none => pure ()
    read n rest

end Build

/-- The tree of a document. -/
def Dom.ofText (text : String) : Dom :=
  let cs := Lexer.normalize text.toList
  let build : Build Unit := do
    Build.read cs.length cs
    Build.handle .finish
  (build.run {}).2.dom

end MainContent.Html
