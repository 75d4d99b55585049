import MainContent.Html.Builder

/-!
# Rules of the head and the body

What each piece of markup does in the head and in the body of a document.
-/

namespace MainContent.Html.Build

/-- How text is read in an element whose text is read apart. -/
def rawModel (t : Tag) : TextModel := .raw t.name

/-- Closes a template. -/
def closeTemplate : Build Unit := do
  closeImplied thoroughImpliedEnds ""
  popThrough ["template"]
  clearFormats
  modify fun b => { b with templateModes := b.templateModes.drop 1 }
  resetMode

/-- Opens a template. -/
def openTemplate (t : Tag) : Build Unit := do
  let _ ← put t
  boundFormats
  forbidFrames
  setMode .inTemplate
  modify fun b => { b with templateModes := .inTemplate :: b.templateModes }

/-- The elements of the head that hold nothing. -/
def headVoids : List String := ["base", "basefont", "bgsound", "link", "meta"]

/-- The start tags that the head and the body treat alike. -/
def headStarts : List String :=
  headVoids ++ ["noframes", "script", "style", "template", "title"]

/-- The rule for a start tag that the head and the body treat alike. -/
def startInHead (t : Tag) : Build Unit := do
  if headVoids.contains t.name then putVoid t
  else if t.name == "title" then putTextElement t (.plain t.name)
  else if t.name == "noframes" || t.name == "style" then putTextElement t (rawModel t)
  else if t.name == "script" then putTextElement t .script
  else if t.name == "template" then openTemplate t

/-- The rule for the end tag of a template. -/
def stopTemplate : Build Unit := do
  if (← get).isOpen ["template"] then closeTemplate

/-- The rule for a further start tag of the document's outermost element. -/
def startHtml (t : Tag) : Build Unit := do
  let b ← get
  if !b.isOpen ["template"] then
    match b.opened.getLast? with
    | some i => addAttributes i t
    | none => pure ()

/-- The end tags that are not left out although nothing is open for them. -/
def telling : List String := ["body", "html", "br"]

/-- Goes on behind the head. -/
def leaveHead : Build Outcome := do
  pop
  setMode .afterHead
  return .again

/-- The rules of the head. -/
def inHead : Token → Build Outcome
  | .text s true => do putText s; return .done
  | .comment s => do putComment s; return .done
  | .doctype _ => return .done
  | .start t => do
    if t.name == "html" then startHtml t; return .done
    else if headStarts.contains t.name then startInHead t; return .done
    else if t.name == "noscript" then
      let _ ← put t
      setMode .inHeadNoscript
      return .done
    else if t.name == "head" then return .done
    else leaveHead
  | .stop name => do
    if name == "head" then
      pop
      setMode .afterHead
      return .done
    else if telling.contains name then leaveHead
    else if name == "template" then stopTemplate; return .done
    else return .done
  | _ => leaveHead

/-- Goes on in the head behind an element for readers without scripts. -/
def leaveHeadNoscript : Build Outcome := do
  pop
  setMode .inHead
  return .again

/-- The rules of an element for readers without scripts in the head. -/
def inHeadNoscript : Token → Build Outcome
  | .text s true => inHead (.text s true)
  | .comment s => inHead (.comment s)
  | .doctype _ => return .done
  | .start t => do
    if t.name == "html" then startHtml t; return .done
    else if ["basefont", "bgsound", "link", "meta", "noframes", "style"].contains t.name then
      inHead (.start t)
    else if t.name == "head" || t.name == "noscript" then return .done
    else leaveHeadNoscript
  | .stop name => do
    if name == "noscript" then
      pop
      setMode .inHead
      return .done
    else if name == "br" then leaveHeadNoscript
    else return .done
  | _ => leaveHeadNoscript

/-- Closes the list item or the part of a definition that a new one ends. -/
def closeItem (names : List String) : Build Unit := do
  let b ← get
  let stops (i : NodeId) : Bool :=
    isSpecial (b.qualified i) && !b.isHtml ["address", "div", "p"] i
  match b.opened.find? fun i => b.isHtml names i || stops i with
  | none => pure ()
  | some i =>
    if b.isHtml names i then
      closeImplied impliedEnds (b.dom.name i)
      popThrough [b.dom.name i]

/-- Closes the link that is open when another one begins. -/
def closeLink : Build Unit := do
  match (formatsInReach (← get).formats).find? (·.2.name == "a") with
  | none => pure ()
  | some (i, _) =>
    closeFormat "a"
    unformat i
    unopen i

/-- Whether an input is hidden. -/
def isHiddenInput (t : Tag) : Bool :=
  (t.attribute? "type").any fun v => Text.toLowerAscii v.toList == "hidden".toList

/-- The rule for the start tag of a break or of another element that holds nothing. -/
def startVoid (t : Tag) : Build Unit := do
  reopenFormats
  putVoid t
  if !(t.name == "input" && isHiddenInput t) then forbidFrames

/-- The rule for the start tag of a set of frames in the body. -/
def startFrameset (t : Tag) : Build Unit := do
  let b ← get
  if b.framesAllowed then
    match b.opened.reverse.drop 1 with
    | body :: _ =>
      if b.isHtml ["body"] body then
        onDom (·.detach body)
        onOpened fun _ is => is.drop (is.length - 1)
        let _ ← put t
        setMode .inFrameset
    | [] => pure ()

/-- The rule for the start tag of the body when that is open. -/
def startBody (t : Tag) : Build Unit := do
  let b ← get
  match b.opened.reverse.drop 1 with
  | body :: _ =>
    if b.isHtml ["body"] body && !b.isOpen ["template"] then
      forbidFrames
      addAttributes body t
  | [] => pure ()

/-- The rule for the start tag of a form. -/
def startForm (t : Tag) : Build Unit := do
  let inTemplate := (← get).isOpen ["template"]
  if (← get).form.isNone || inTemplate then
    closeParagraphInScope
    let i ← put t
    if !inTemplate then modify fun b => { b with form := some i }

/-- The rule for the start tag of a selection. -/
def startSelect (t : Tag) : Build Unit := do
  reopenFormats
  let _ ← put t
  forbidFrames
  let inTable := match (← get).mode with
    | .inTable | .inCaption | .inTableBody | .inRow | .inCell => true
    | _ => false
  setMode (if inTable then .inSelectInTable else .inSelect)

/-- The rule for the start tag of a table. -/
def startTable (t : Tag) : Build Unit := do
  if !(← get).old then closeParagraphInScope
  let _ ← put t
  forbidFrames
  setMode .inTable

/-- The rule for the start tag of a button. -/
def startButton (t : Tag) : Build Unit := do
  if (← get).inScope boundsScope ["button"] then
    closeImplied impliedEnds ""
    popThrough ["button"]
  reopenFormats
  let _ ← put t
  forbidFrames

/-- The rule for the start tag of a heading. -/
def startHeading (t : Tag) : Build Unit := do
  closeParagraphInScope
  if (← get).currentIs headings then pop
  let _ ← put t

/-- The rule for the start tag of a list item or of a part of a definition. -/
def startItem (t : Tag) : Build Unit := do
  forbidFrames
  closeItem (if t.name == "li" then ["li"] else ["dd", "dt"])
  closeParagraphInScope
  let _ ← put t

/-- The rule for the start tag of an annotation of text. -/
def startRuby (t : Tag) (but : String) : Build Unit := do
  if (← get).inScope boundsScope ["ruby"] then closeImplied impliedEnds but
  let _ ← put t

/-- The start tags that are left out in the body. -/
def strayStarts : List String :=
  ["caption", "col", "colgroup", "frame", "head", "tbody", "td", "tfoot", "th", "thead", "tr"]

/-- The rule for the start tag of an element of no particular kind. -/
def startOrdinary (t : Tag) : Build Unit := do
  reopenFormats
  let _ ← put t

/-- The rule for a start tag in the body. -/
def startInBody (t : Tag) : Build Unit := do
  let n := t.name
  if n == "html" then startHtml t
  else if headStarts.contains n then startInHead t
  else if n == "body" then startBody t
  else if n == "frameset" then startFrameset t
  else if blocks.contains n then
    closeParagraphInScope
    let _ ← put t
  else if headings.contains n then startHeading t
  else if n == "pre" || n == "listing" then
    closeParagraphInScope
    let _ ← put t
    modify fun b => { b with skipBreak := true }
    forbidFrames
  else if n == "form" then startForm t
  else if n == "li" || n == "dd" || n == "dt" then startItem t
  else if n == "plaintext" then
    closeParagraphInScope
    let _ ← put t
    modify fun b => { b with model := .rest }
  else if n == "button" then startButton t
  else if n == "a" then
    closeLink
    reopenFormats
    putFormat t
  else if formatting.contains n then
    reopenFormats
    putFormat t
  else if n == "nobr" then
    reopenFormats
    if (← get).inScope boundsScope ["nobr"] then
      closeFormat "nobr"
      reopenFormats
    putFormat t
  else if n == "applet" || n == "marquee" || n == "object" then
    reopenFormats
    let _ ← put t
    boundFormats
    forbidFrames
  else if n == "table" then startTable t
  else if ["area", "br", "embed", "img", "keygen", "wbr", "input"].contains n then startVoid t
  else if n == "param" || n == "source" || n == "track" then putVoid t
  else if n == "hr" then
    closeParagraphInScope
    putVoid t
    forbidFrames
  else if n == "image" then startVoid { t with name := "img" }
  else if n == "textarea" then
    modify fun b => { b with skipBreak := true }
    forbidFrames
    putTextElement t (.plain n)
  else if n == "xmp" then
    closeParagraphInScope
    reopenFormats
    forbidFrames
    putTextElement t (rawModel t)
  else if n == "iframe" then
    forbidFrames
    putTextElement t (rawModel t)
  else if n == "noembed" then putTextElement t (rawModel t)
  else if n == "select" then startSelect t
  else if n == "optgroup" || n == "option" then
    if (← get).currentIs ["option"] then pop
    startOrdinary t
  else if n == "rb" || n == "rtc" then startRuby t ""
  else if n == "rp" || n == "rt" then startRuby t "rtc"
  else if n == "math" then
    reopenFormats
    putForeign .math t
  else if n == "svg" then
    reopenFormats
    putForeign .svg t
  else if strayStarts.contains n then pure ()
  else startOrdinary t

/-- The rule for the end tag of a form. -/
def stopForm : Build Unit := do
  let b ← get
  if b.isOpen ["template"] then
    if b.inScope boundsScope ["form"] then
      closeImplied impliedEnds ""
      popThrough ["form"]
  else
    modify fun b => { b with form := none }
    match b.form with
    | none => pure ()
    | some i =>
      if b.findInScope boundsScope (· == i) b.opened then
        closeImplied impliedEnds ""
        unopen i

/-- The rule for an end tag in the body, other than that of the body itself. -/
def stopInBody (name : String) : Build Unit := do
  let b ← get
  if name == "template" then stopTemplate
  else if closingBlocks.contains name then
    if b.inScope boundsScope [name] then
      closeImplied impliedEnds ""
      popThrough [name]
  else if name == "form" then stopForm
  else if name == "p" then
    if !b.inScope boundsButtonScope ["p"] then putNamed "p"
    closeParagraph
  else if name == "li" then
    if b.inScope boundsListScope ["li"] then
      closeImplied impliedEnds "li"
      popThrough ["li"]
  else if name == "dd" || name == "dt" then
    if b.inScope boundsScope [name] then
      closeImplied impliedEnds name
      popThrough [name]
  else if headings.contains name then
    if b.inScope boundsScope headings then
      closeImplied impliedEnds ""
      popThrough headings
  else if name == "a" || name == "nobr" || formatting.contains name then closeFormat name
  else if name == "applet" || name == "marquee" || name == "object" then
    if b.inScope boundsScope [name] then
      closeImplied impliedEnds ""
      popThrough [name]
      clearFormats
  else if name == "br" then startVoid { name }
  else closeAny name

/-- Ends a template at the end of the document. -/
def finishTemplate : Build Outcome := do
  if (← get).isOpen ["template"] then
    popThrough ["template"]
    clearFormats
    modify fun b => { b with templateModes := b.templateModes.drop 1 }
    resetMode
    return .again
  else return .done

/-- The rules of the body. -/
def inBody : Token → Build Outcome
  | .null => return .done
  | .text s blank => do
    reopenFormats
    if !blank then forbidFrames
    putText s
    return .done
  | .comment s => do putComment s; return .done
  | .doctype _ => return .done
  | .start t => do startInBody t; return .done
  | .stop name => do
    if name == "body" then
      if (← get).inScope boundsScope ["body"] then setMode .afterBody
      return .done
    else if name == "html" then
      if (← get).inScope boundsScope ["body"] then
        setMode .afterBody
        return .again
      else return .done
    else
      stopInBody name
      return .done
  | .finish => do
    if (← get).templateModes.isEmpty then return .done else finishTemplate

end MainContent.Html.Build
