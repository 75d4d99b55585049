import MainContent.Html.Vocabulary

/-!
# Growing a document tree

The state in which a document tree grows from pieces of markup, and the steps that its rules are
made of: the elements that are open, the formatting elements that are opened again behind a block,
and the place at which a node is put into the tree.
-/

namespace MainContent.Html

/-- The part of a document that is being read. -/
inductive Mode where
  | initial
  | beforeHtml
  | beforeHead
  | inHead
  | inHeadNoscript
  | afterHead
  | inBody
  | text
  | inTable
  | inTableText
  | inCaption
  | inColumnGroup
  | inTableBody
  | inRow
  | inCell
  | inSelect
  | inSelectInTable
  | inTemplate
  | afterBody
  | inFrameset
  | afterFrameset
  | afterAfterBody
  | afterAfterFrameset
  deriving DecidableEq, Repr, Inhabited

/-- An entry of the list of formatting elements. -/
inductive Format where
  /-- A bound that formatting does not reach across. -/
  | bound
  /-- A formatting element with the tag that it was made for. -/
  | element (i : NodeId) (tag : Tag)
  deriving DecidableEq, Repr, Inhabited

/-- A document tree that is growing. -/
structure Builder where
  /-- The tree. -/
  dom : Dom := .empty
  /-- The part that is being read. -/
  mode : Mode := .initial
  /-- The part to go back to behind a text. -/
  modeBehind : Mode := .initial
  /-- The parts that templates are in, the innermost first. -/
  templateModes : List Mode := []
  /-- The elements that are open, the innermost first. -/
  opened : List NodeId := []
  /-- The formatting elements, the latest first. -/
  formats : List Format := []
  /-- The head of the document. -/
  head : Option NodeId := none
  /-- The form that is open. -/
  form : Option NodeId := none
  /-- Whether a set of frames can still take the place of the body. -/
  framesAllowed : Bool := true
  /-- Whether the document is read under the old rules. -/
  old : Bool := false
  /-- Whether content that is out of place goes before the table. -/
  fostering : Bool := false
  /-- The text in a table whose place is not yet known. -/
  pending : List (String × Bool) := []
  /-- Whether a line break that follows at once is left out. -/
  skipBreak : Bool := false
  /-- How the text that follows is read. -/
  model : TextModel := .data
  deriving Inhabited

/-- A step that changes a growing tree. -/
abbrev Build := StateM Builder

/-- What is to be done with a piece behind a step. -/
inductive Outcome where
  /-- Nothing more. -/
  | done
  /-- It is looked at again, in the part that is being read now. -/
  | again

namespace Builder

/-- The name of a node with its vocabulary. -/
def qualified (b : Builder) (i : NodeId) : QualifiedName :=
  (b.dom.space i, b.dom.name i)

/-- Whether a node is an HTML element with one of the names. -/
def isHtml (b : Builder) (names : List String) (i : NodeId) : Bool :=
  b.dom.space i == .html && names.contains (b.dom.name i)

/-- Whether the innermost element is an HTML element with one of the names. -/
def currentIs (b : Builder) (names : List String) : Bool :=
  b.opened.head?.any (b.isHtml names)

/-- Whether an HTML element with one of the names is open. -/
def isOpen (b : Builder) (names : List String) : Bool :=
  b.opened.any (b.isHtml names)

/-- Whether a node with a property is open within a scope with these bounds. -/
def findInScope (b : Builder) (bounds : QualifiedName → Bool) (p : NodeId → Bool) :
    List NodeId → Bool
  | [] => false
  | i :: outer =>
    if p i then true
    else if bounds (b.qualified i) then false
    else b.findInScope bounds p outer

/-- Whether an HTML element with one of the names is open within a scope with these bounds. -/
def inScope (b : Builder) (bounds : QualifiedName → Bool) (names : List String) : Bool :=
  b.findInScope bounds (b.isHtml names) b.opened

/-- The part of the document to go on with, seen from the open elements, the innermost first. -/
def modeFor (b : Builder) : List NodeId → Mode
  | [] => .inBody
  | i :: outer =>
    if b.dom.space i != .html then b.modeFor outer
    else
      match b.dom.name i with
      | "select" =>
        match outer.find? (b.isHtml ["template", "table"]) with
        | some j => if b.isHtml ["table"] j then .inSelectInTable else .inSelect
        | none => .inSelect
      | "td" | "th" => if outer.isEmpty then b.modeFor outer else .inCell
      | "tr" => .inRow
      | "tbody" | "thead" | "tfoot" => .inTableBody
      | "caption" => .inCaption
      | "colgroup" => .inColumnGroup
      | "table" => .inTable
      | "template" => b.templateModes.headD .inBody
      | "head" => if outer.isEmpty then b.modeFor outer else .inHead
      | "body" => .inBody
      | "frameset" => .inFrameset
      | "html" => if b.head.isNone then .beforeHead else .afterHead
      | _ => b.modeFor outer

end Builder

namespace Build

/-- Changes the tree. -/
def onDom (f : Dom → Dom) : Build Unit :=
  modify fun b => { b with dom := f b.dom }

/-- Changes the list of open elements. -/
def onOpened (f : Builder → List NodeId → List NodeId) : Build Unit :=
  modify fun b => { b with opened := f b b.opened }

/-- Goes on with a part of the document. -/
def setMode (m : Mode) : Build Unit :=
  modify fun b => { b with mode := m }

/-- Goes on with the part of the document that the open elements call for. -/
def resetMode : Build Unit :=
  modify fun b => { b with mode := b.modeFor b.opened }

/-- Rules out that a set of frames takes the place of the body. -/
def forbidFrames : Build Unit :=
  modify fun b => { b with framesAllowed := false }

/-- Closes the innermost element. -/
def pop : Build Unit :=
  onOpened fun _ is => is.drop 1

/-- Closes elements up to the innermost one with one of the names, which is closed as well. -/
def popThrough (names : List String) : Build Unit :=
  onOpened fun b is => (is.dropWhile (!b.isHtml names ·)).drop 1

/-- Closes elements up to the innermost one with one of the names, which stays open. -/
def popTo (names : List String) : Build Unit :=
  onOpened fun b is => is.dropWhile (!b.isHtml names ·)

/-- Closes the elements that end by themselves, but for those of a name. -/
def closeImplied (names : List String) (but : String) : Build Unit :=
  onOpened fun b is => is.dropWhile fun i => b.isHtml names i && b.dom.name i != but

/-- Takes an element out of the list of open ones. -/
def unopen (i : NodeId) : Build Unit :=
  onOpened fun _ is => is.erase i

/-- Closes the paragraph that is open, with what is open inside it. -/
def closeParagraph : Build Unit := do
  closeImplied impliedEnds "p"
  popThrough ["p"]

/-- Closes the paragraph that is open within the scope of buttons, if there is one. -/
def closeParagraphInScope : Build Unit := do
  if (← get).inScope boundsButtonScope ["p"] then closeParagraph

/-- The place at which a node is put into the tree. -/
inductive Place where
  /-- At the end of a node's children. -/
  | lastIn (parent : NodeId)
  /-- Before a table if that is in the tree, else at the end of the element around it. -/
  | atTable (table outer : NodeId)

/-- The place to which content goes that does not belong inside a table. -/
def fosterPlace (b : Builder) : List NodeId → Place
  | [] => .lastIn Dom.root
  | i :: outer =>
    if b.isHtml ["template"] i then .lastIn ((b.dom.held? i).getD i)
    else if b.isHtml ["table"] i then .atTable i (outer.headD Dom.root)
    else
      match outer with
      | [] => .lastIn i
      | _ => fosterPlace b outer

/-- The place at which a node is put that belongs inside an element, or, if none is given, inside
the innermost one. -/
def place (b : Builder) (inside : Option NodeId) : Place :=
  let target := inside.getD (b.opened.headD Dom.root)
  if b.fostering && b.isHtml fosterTargets target then fosterPlace b b.opened
  else if b.isHtml ["template"] target then .lastIn ((b.dom.held? target).getD target)
  else .lastIn target

/-- Puts a node at a place. -/
def putAt (i : NodeId) : Place → Build Unit
  | .lastIn p => onDom (·.append p i)
  | .atTable table outer => onDom fun d =>
    if (d.parent? table).isSome then d.insertBefore table i else d.append outer i

/-- Puts text into the innermost element. -/
def putText (s : String) : Build Unit := do
  match place (← get) none with
  | .lastIn p => onDom (·.appendText p s)
  | .atTable table outer => onDom fun d =>
    if (d.parent? table).isSome then d.insertTextBefore table s else d.appendText outer s

/-- Makes a node that is not yet in the tree. It has the last number of the store. -/
def create (content : Content) : Build NodeId := do
  onDom fun d => (d.create content).1
  return (← get).dom.size - 1

/-- Makes an element that is not yet in the tree. -/
def createElement (space : Namespace) (t : Tag) : Build NodeId := do
  let content : Content := .element space t.name t.attributes
  if space == .html && t.name == "template" then
    onDom fun d => (d.createTemplate content).1
    return (← get).dom.size - 1
  else create content

/-- Puts an element for a tag into the innermost one, without opening it. -/
def putClosed (space : Namespace) (t : Tag) : Build NodeId := do
  let i ← createElement space t
  putAt i (place (← get) none)
  return i

/-- Puts an element for a tag into the innermost one, and opens it. -/
def put (t : Tag) : Build NodeId := do
  let i ← putClosed .html t
  onOpened fun _ is => i :: is
  return i

/-- Puts an element of a name into the innermost one, and opens it. -/
def putNamed (name : String) : Build Unit := do
  let _ ← put { name }

/-- Puts an element that holds nothing into the innermost one. -/
def putVoid (t : Tag) : Build Unit := do
  let _ ← putClosed .html t

/-- Puts a comment into the innermost element. -/
def putComment (s : String) : Build Unit := do
  let i ← create (.comment s)
  putAt i (place (← get) none)

/-- Puts a comment at the end of a node's children. -/
def putCommentIn (parent : NodeId) (s : String) : Build Unit := do
  let i ← create (.comment s)
  onDom (·.append parent i)

/-- Puts an element for a tag whose text is read by a model of its own. -/
def putTextElement (t : Tag) (model : TextModel) : Build Unit := do
  let _ ← put t
  modify fun b => { b with modeBehind := b.mode, mode := .text, model }

/-- Adds the attributes of a tag that an element does not have. -/
def addAttributes (i : NodeId) (t : Tag) : Build Unit :=
  onDom fun d =>
    let as := d.attributes i
    d.setAttributes i (as ++ t.attributes.filter fun a => !as.any (·.name == a.name))

/-- The formatting elements since the last bound, the latest first. -/
def formatsInReach (fs : List Format) : List (NodeId × Tag) :=
  (fs.takeWhile fun
    | .bound => false
    | .element _ _ => true).filterMap fun
    | .bound => none
    | .element i t => some (i, t)

/-- Whether an entry is that of a node. -/
def isFormatOf (i : NodeId) : Format → Bool
  | .bound => false
  | .element j _ => i == j

/-- Takes the formatting elements since the last bound out of the list, with the bound. -/
def clearFormats : Build Unit :=
  modify fun b =>
    { b with formats := (b.formats.dropWhile fun
        | .bound => false
        | .element _ _ => true).drop 1 }

/-- Puts a bound into the list of formatting elements. -/
def boundFormats : Build Unit :=
  modify fun b => { b with formats := .bound :: b.formats }

/-- Takes a node out of the list of formatting elements. -/
def unformat (i : NodeId) : Build Unit :=
  modify fun b => { b with formats := b.formats.eraseP (isFormatOf i) }

/-- Puts an element into the place of another one in the list of formatting elements. -/
def reformat (old new : NodeId) (t : Tag) : Build Unit :=
  modify fun b =>
    { b with formats := b.formats.map fun f =>
        if isFormatOf old f then .element new t else f }

/-- Opens again the given formatting elements, the earliest first. -/
def reopen : List (NodeId × Tag) → Build Unit
  | [] => pure ()
  | (i, t) :: later => do
    let new ← put { t with selfClosing := false }
    reformat i new t
    reopen later

/-- Opens again the formatting elements since the last one that is still open. -/
def reopenFormats : Build Unit := do
  let b ← get
  reopen ((formatsInReach b.formats).takeWhile fun (i, _) => !b.opened.contains i).reverse

/-- Whether two tags ask for the same element. -/
def sameFormat (a b : Tag) : Bool :=
  a.name == b.name && a.attributes.length == b.attributes.length &&
    a.attributes.all b.attributes.contains

/-- Puts a formatting element. Of more than three that are the same, the earliest is forgotten. -/
def putFormat (t : Tag) : Build Unit := do
  let same := (formatsInReach (← get).formats).filter fun (_, u) => sameFormat t u
  if 3 ≤ same.length then
    match same.getLast? with
    | some (i, _) => unformat i
    | none => pure ()
  let i ← put t
  modify fun b => { b with formats := .element i t :: b.formats }

/-- Closes the innermost element of a name, unless a special one is in between. -/
def closeAny (name : String) : Build Unit := do
  let b ← get
  match b.opened.find? fun i => b.isHtml [name] i || isSpecial (b.qualified i) with
  | none => pure ()
  | some i =>
    if b.isHtml [name] i then
      closeImplied impliedEnds name
      onOpened fun _ is => (is.dropWhile (· != i)).drop 1

/-- Where a copy of a formatting element goes in the list. -/
inductive Bookmark where
  /-- In the place of the element that is copied. -/
  | replace
  /-- Behind a later element. -/
  | behind (i : NodeId)

/-- Copies the formatting elements between a block and the formatting element that it is taken out
of, and nests what was last copied into each; the nodes come the innermost first. Of more than three
nodes the outer ones are closed instead. Yields the outermost copy and the bookmark. -/
def nestCopies (block : NodeId) : Nat → NodeId → Bookmark → List NodeId →
    Build (NodeId × Bookmark)
  | _, last, mark, [] => pure (last, mark)
  | count, last, mark, i :: outer => do
    let entry := (formatsInReach (← get).formats).find? (·.1 == i)
    match entry with
    | some (_, t) =>
      if 3 ≤ count then
        unformat i
        unopen i
        nestCopies block (count + 1) last mark outer
      else
        let copy ← createElement .html { t with selfClosing := false }
        reformat i copy t
        onOpened fun _ is => is.map fun j => if j == i then copy else j
        onDom (·.append copy last)
        nestCopies block (count + 1) copy (if last == block then .behind copy else mark) outer
    | none =>
      unopen i
      nestCopies block (count + 1) last mark outer

/-- Puts the copy of a formatting element into the list, in the place that a bookmark names. -/
def placeCopy (old copy : NodeId) (t : Tag) : Bookmark → Build Unit
  | .replace => reformat old copy t
  | .behind i => do
    modify fun b =>
      { b with formats := b.formats.flatMap fun f =>
          if isFormatOf i f then [.element copy t, f] else [f] }
    unformat old

/-- Takes a block out of a formatting element that ends inside it: the formatting is copied into the
block. -/
def takeOut (name : String) (format : NodeId) (t : Tag) (block : NodeId) : Build Unit := do
  let b ← get
  let behind := (b.opened.dropWhile (· != block)).drop 1
  let between := behind.takeWhile (· != format)
  let ancestor := ((behind.dropWhile (· != format)).drop 1).headD Dom.root
  let (last, mark) ← nestCopies block 0 block .replace between
  onDom (·.detach last)
  putAt last (place (← get) (some ancestor))
  let copy ← createElement .html { t with name, selfClosing := false }
  onDom (·.moveChildren block copy)
  onDom (·.append block copy)
  placeCopy format copy t mark
  unopen format
  onOpened fun _ is => is.flatMap fun j => if j == block then [copy, block] else [j]

/-- Closes the formatting element of a name, at most so many times over: blocks inside it are taken
out of it. -/
def closeFormatTimes (name : String) : Nat → Build Unit
  | 0 => pure ()
  | n + 1 => do
    let b ← get
    match (formatsInReach b.formats).find? (·.2.name == name) with
    | none => closeAny name
    | some (format, t) =>
      if !b.opened.contains format then unformat format
      else if !b.findInScope boundsScope (· == format) b.opened then pure ()
      else
        let inner := b.opened.takeWhile (· != format)
        match inner.reverse.find? fun i => isSpecial (b.qualified i) with
        | none =>
          onOpened fun _ is => (is.dropWhile (· != format)).drop 1
          unformat format
        | some block =>
          takeOut name format t block
          closeFormatTimes name n

/-- Closes the formatting element of a name. -/
def closeFormat (name : String) : Build Unit := do
  let b ← get
  let plain := b.currentIs [name] &&
    !(b.opened.head?.any fun i => b.formats.any (isFormatOf i))
  if plain then pop else closeFormatTimes name 8

/-- Puts an SVG or MathML element for a tag, and opens it unless it ends with a slash. -/
def putForeign (space : Namespace) (t : Tag) : Build Unit := do
  let i ← putClosed space (t.spelled space)
  if !t.selfClosing then onOpened fun _ is => i :: is

end Build

end MainContent.Html
