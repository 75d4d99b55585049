import MainContent.Html.BodyRules

/-!
# Rules of tables, selections and templates

What each piece of markup does in a table and its parts, in a selection, and in a template.
-/

namespace MainContent.Html.Build

/-- Handles a piece by the rules of the body; what it adds inside a table goes before the table. -/
def fosterInBody (t : Token) : Build Outcome := do
  modify fun b => { b with fostering := true }
  let outcome ← inBody t
  modify fun b => { b with fostering := false }
  return outcome

/-- The rule for text in a table: it is collected until its place is known. -/
def textInTable (t : Token) : Build Outcome := do
  if (← get).currentIs fosterTargets then
    modify fun b => { b with modeBehind := b.mode, mode := .inTableText }
    return .again
  else fosterInBody t

/-- Goes on in a part of a table, where the piece is looked at again. -/
def againIn (m : Mode) : Build Outcome := do
  setMode m
  return .again

/-- The elements between which the parts of a table stand. -/
def tableContext : List String := ["table", "template", "html"]

/-- The elements between which the rows of a table stand. -/
def bodyContext : List String := ["tbody", "tfoot", "thead", "template", "html"]

/-- The elements between which the cells of a row stand. -/
def rowContext : List String := ["tr", "template", "html"]

/-- The rule for a start tag in a table. -/
def startInTable (t : Tag) : Build Outcome := do
  let n := t.name
  if n == "caption" then
    popTo tableContext
    boundFormats
    let _ ← put t
    setMode .inCaption
    return .done
  else if n == "colgroup" then
    popTo tableContext
    let _ ← put t
    setMode .inColumnGroup
    return .done
  else if n == "col" then
    popTo tableContext
    putNamed "colgroup"
    againIn .inColumnGroup
  else if n == "tbody" || n == "tfoot" || n == "thead" then
    popTo tableContext
    let _ ← put t
    setMode .inTableBody
    return .done
  else if n == "td" || n == "th" || n == "tr" then
    popTo tableContext
    putNamed "tbody"
    againIn .inTableBody
  else if n == "table" then
    if (← get).inScope boundsTableScope ["table"] then
      popThrough ["table"]
      resetMode
      return .again
    else return .done
  else if n == "style" || n == "script" || n == "template" then inHead (.start t)
  else if n == "input" && isHiddenInput t then
    putVoid t
    return .done
  else if n == "form" then
    let b ← get
    if !b.isOpen ["template"] && b.form.isNone then
      let i ← putClosed .html t
      modify fun b => { b with form := some i }
    return .done
  else fosterInBody (.start t)

/-- The end tags that are left out in a table. -/
def strayStops : List String :=
  ["body", "caption", "col", "colgroup", "html", "tbody", "td", "tfoot", "th", "thead", "tr"]

/-- The rules of a table outside of its parts. -/
def inTable : Token → Build Outcome
  | .null => textInTable .null
  | .text s blank => textInTable (.text s blank)
  | .comment s => do putComment s; return .done
  | .doctype _ => return .done
  | .start t => startInTable t
  | .stop name => do
    if name == "table" then
      if (← get).inScope boundsTableScope ["table"] then
        popThrough ["table"]
        resetMode
      return .done
    else if strayStops.contains name then return .done
    else if name == "template" then
      stopTemplate
      return .done
    else fosterInBody (.stop name)
  | .finish => inBody .finish

/-- Adds collected text by the rules of the body, before the table. -/
def fosterText : List (String × Bool) → Build Unit
  | [] => pure ()
  | (s, blank) :: rest => do
    let _ ← fosterInBody (.text s blank)
    fosterText rest

/-- The rules for text in a table: blanks stay in it, other text goes before it. -/
def inTableText : Token → Build Outcome
  | .null => return .done
  | .text s blank => do
    modify fun b => { b with pending := b.pending ++ [(s, blank)] }
    return .done
  | _ => do
    let pending := (← get).pending
    modify fun b => { b with pending := [] }
    if pending.all (·.2) then putText (String.join (pending.map (·.1)))
    else fosterText pending
    modify fun b => { b with mode := b.modeBehind }
    return .again

/-- Ends the caption of a table if one is open, and says whether it was. -/
def closeCaption : Build Bool := do
  if (← get).inScope boundsTableScope ["caption"] then
    closeImplied impliedEnds ""
    popThrough ["caption"]
    clearFormats
    setMode .inTable
    return true
  else return false

/-- The rules of a table's caption. -/
def inCaption (token : Token) : Build Outcome := do
  match token with
  | .start t =>
    if tableParts.contains t.name then
      if ← closeCaption then return .again else return .done
    else inBody token
  | .stop name =>
    if name == "caption" then
      let _ ← closeCaption
      return .done
    else if name == "table" then
      if ← closeCaption then return .again else return .done
    else if strayStops.contains name then return .done
    else inBody token
  | _ => inBody token

/-- Goes on in the table behind a group of columns. -/
def leaveColumns : Build Outcome := do
  if (← get).currentIs ["colgroup"] then
    pop
    againIn .inTable
  else return .done

/-- The rules of a group of columns. -/
def inColumnGroup (token : Token) : Build Outcome := do
  match token with
  | .text s true => do putText s; return .done
  | .comment s => do putComment s; return .done
  | .doctype _ => return .done
  | .start t =>
    if t.name == "html" then startHtml t; return .done
    else if t.name == "col" then putVoid t; return .done
    else if t.name == "template" then inHead token
    else leaveColumns
  | .stop name =>
    if name == "colgroup" then
      if (← get).currentIs ["colgroup"] then
        pop
        setMode .inTable
      return .done
    else if name == "col" then return .done
    else if name == "template" then inHead token
    else leaveColumns
  | .finish => inBody .finish
  | _ => leaveColumns

/-- Goes on in the table behind a group of rows. -/
def leaveRows : Build Outcome := do
  if (← get).inScope boundsTableScope ["table", "tbody", "tfoot"] then
    popTo bodyContext
    pop
    againIn .inTable
  else return .done

/-- The rules of a group of rows. -/
def inTableBody (token : Token) : Build Outcome := do
  match token with
  | .start t =>
    let n := t.name
    if n == "tr" then
      popTo bodyContext
      let _ ← put t
      setMode .inRow
      return .done
    else if n == "th" || n == "td" then
      popTo bodyContext
      putNamed "tr"
      againIn .inRow
    else if tableParts.contains n then leaveRows
    else inTable token
  | .stop name =>
    if name == "tbody" || name == "tfoot" || name == "thead" then
      if (← get).inScope boundsTableScope [name] then
        popTo bodyContext
        pop
        setMode .inTable
      return .done
    else if name == "table" then leaveRows
    else if strayStops.contains name then return .done
    else inTable token
  | _ => inTable token

/-- Ends the row that is open, if one is, and says whether it was. -/
def closeRow : Build Bool := do
  if (← get).inScope boundsTableScope ["tr"] then
    popTo rowContext
    pop
    setMode .inTableBody
    return true
  else return false

/-- The rules of a row. -/
def inRow (token : Token) : Build Outcome := do
  match token with
  | .start t =>
    let n := t.name
    if n == "th" || n == "td" then
      popTo rowContext
      let _ ← put t
      setMode .inCell
      boundFormats
      return .done
    else if tableParts.contains n then
      if ← closeRow then return .again else return .done
    else inTable token
  | .stop name =>
    if name == "tr" then
      let _ ← closeRow
      return .done
    else if name == "table" then
      if ← closeRow then return .again else return .done
    else if name == "tbody" || name == "tfoot" || name == "thead" then
      if (← get).inScope boundsTableScope [name] then
        if ← closeRow then return .again else return .done
      else return .done
    else if strayStops.contains name then return .done
    else inTable token
  | _ => inTable token

/-- Ends the cell that is open. -/
def closeCell : Build Unit := do
  closeImplied impliedEnds ""
  popThrough ["td", "th"]
  clearFormats

/-- The rules of a cell. -/
def inCell (token : Token) : Build Outcome := do
  match token with
  | .start t =>
    if tableParts.contains t.name then
      if (← get).inScope boundsTableScope ["td", "th"] then
        closeCell
        againIn .inRow
      else return .done
    else inBody token
  | .stop name =>
    if name == "td" || name == "th" then
      if (← get).inScope boundsTableScope [name] then
        closeImplied impliedEnds ""
        popThrough [name]
        clearFormats
        setMode .inRow
      return .done
    else if ["body", "caption", "col", "colgroup", "html"].contains name then return .done
    else if fosterTargets.contains name then
      if (← get).inScope boundsTableScope [name] then
        closeCell
        againIn .inRow
      else return .done
    else inBody token
  | _ => inBody token

/-- Ends the selection that is open, if one is, and says whether it was. -/
def closeSelect : Build Bool := do
  if (← get).inScope boundsSelectScope ["select"] then
    popThrough ["select"]
    resetMode
    return true
  else return false

/-- The rule for a start tag in a selection. -/
def startInSelect (t : Tag) : Build Outcome := do
  let n := t.name
  if n == "html" then startHtml t; return .done
  else if n == "option" then
    if (← get).currentIs ["option"] then pop
    let _ ← put t
    return .done
  else if n == "optgroup" then
    if (← get).currentIs ["option"] then pop
    if (← get).currentIs ["optgroup"] then pop
    let _ ← put t
    return .done
  else if n == "hr" then
    if (← get).currentIs ["option"] then pop
    if (← get).currentIs ["optgroup"] then pop
    putVoid t
    return .done
  else if n == "select" then
    let _ ← closeSelect
    return .done
  else if n == "input" || n == "keygen" || n == "textarea" then
    if ← closeSelect then return .again else return .done
  else if n == "script" || n == "template" then inHead (.start t)
  else return .done

/-- The rule for an end tag in a selection. -/
def stopInSelect (name : String) : Build Unit := do
  if name == "optgroup" then
    let b ← get
    if b.currentIs ["option"] && (b.opened.drop 1).head?.any (b.isHtml ["optgroup"]) then pop
    if (← get).currentIs ["optgroup"] then pop
  else if name == "option" then
    if (← get).currentIs ["option"] then pop
  else if name == "select" then
    let _ ← closeSelect
  else if name == "template" then stopTemplate

/-- The rules of a selection. -/
def inSelect : Token → Build Outcome
  | .null => return .done
  | .text s _ => do putText s; return .done
  | .comment s => do putComment s; return .done
  | .doctype _ => return .done
  | .start t => startInSelect t
  | .stop name => do stopInSelect name; return .done
  | .finish => inBody .finish

/-- The elements that end a selection in a table. -/
def endsSelection : List String :=
  ["caption", "table", "tbody", "tfoot", "thead", "tr", "td", "th"]

/-- The rules of a selection in a table. -/
def inSelectInTable (token : Token) : Build Outcome := do
  match token with
  | .start t =>
    if endsSelection.contains t.name then
      popThrough ["select"]
      resetMode
      return .again
    else inSelect token
  | .stop name =>
    if endsSelection.contains name then
      if (← get).inScope boundsTableScope [name] then
        popThrough ["select"]
        resetMode
        return .again
      else return .done
    else inSelect token
  | _ => inSelect token

/-- Goes on with a template as if it were a part of another kind. -/
def templateAs (m : Mode) : Build Outcome := do
  modify fun b => { b with templateModes := m :: b.templateModes.drop 1 }
  againIn m

/-- The rules of a template whose kind is not yet known. -/
def inTemplate (token : Token) : Build Outcome := do
  match token with
  | .start t =>
    let n := t.name
    if headStarts.contains n then inHead token
    else if ["caption", "colgroup", "tbody", "tfoot", "thead"].contains n then
      templateAs .inTable
    else if n == "col" then templateAs .inColumnGroup
    else if n == "tr" then templateAs .inTableBody
    else if n == "td" || n == "th" then templateAs .inRow
    else templateAs .inBody
  | .stop name =>
    if name == "template" then
      stopTemplate
    return .done
  | .finish => finishTemplate
  | _ => inBody token

end MainContent.Html.Build
