/-!
# Document trees

The tree of a document as a store of nodes that name their parent and their children. A node keeps
its number for good: nodes are moved and taken out of the tree, never out of the store.
-/

namespace MainContent.Html

/-- The vocabularies that elements come from. -/
inductive Namespace where
  | html
  | svg
  | math
  deriving DecidableEq, Repr, Inhabited

/-- An attribute of an element. -/
structure Attribute where
  /-- The name. -/
  name : String
  /-- The value. -/
  value : String
  deriving DecidableEq, Repr, Inhabited

/-- What a node is. -/
inductive Content where
  /-- The root of a document, or of what a template holds. -/
  | root
  /-- The declaration of a document's type. -/
  | doctype
  /-- A comment. -/
  | comment (text : String)
  /-- A stretch of text. -/
  | text (text : String)
  /-- An element with its attributes in order. -/
  | element (space : Namespace) (name : String) (attributes : List Attribute)
  deriving DecidableEq, Repr, Inhabited

/-- The number of a node. -/
abbrev NodeId := Nat

/-- A node with its place in the tree. -/
structure Node where
  /-- What it is. -/
  content : Content
  /-- The node that it is a child of. -/
  parent : Option NodeId := none
  /-- Its children in order. -/
  children : Array NodeId := #[]
  /-- For a template, the root of what it holds. -/
  held : Option NodeId := none
  deriving Repr, Inhabited

/-- A store of nodes. -/
structure Dom where
  /-- The nodes by their numbers. -/
  nodes : Array Node
  deriving Repr, Inhabited

namespace Dom

/-- A document without anything in it. -/
def empty : Dom := ⟨#[{ content := .root }]⟩

/-- The number of a document's root. -/
def root : NodeId := 0

/-- The number of nodes in the store. -/
def size (d : Dom) : Nat := d.nodes.size

/-- What a node is; a number of no node counts as an empty root. -/
def content (d : Dom) (i : NodeId) : Content :=
  match d.nodes[i]? with
  | some n => n.content
  | none => .root

/-- The node that a node is a child of. -/
def parent? (d : Dom) (i : NodeId) : Option NodeId :=
  d.nodes[i]?.bind (·.parent)

/-- The children of a node in order. -/
def children (d : Dom) (i : NodeId) : Array NodeId :=
  match d.nodes[i]? with
  | some n => n.children
  | none => #[]

/-- The root of what a template holds. -/
def held? (d : Dom) (i : NodeId) : Option NodeId :=
  d.nodes[i]?.bind (·.held)

/-- The name of an element, empty for any other node. -/
def name (d : Dom) (i : NodeId) : String :=
  match d.content i with
  | .element _ n _ => n
  | _ => ""

/-- The vocabulary of an element. -/
def space (d : Dom) (i : NodeId) : Namespace :=
  match d.content i with
  | .element s _ _ => s
  | _ => .html

/-- The attributes of an element in order. -/
def attributes (d : Dom) (i : NodeId) : List Attribute :=
  match d.content i with
  | .element _ _ as => as
  | _ => []

/-- The value of an attribute. -/
def attribute? (d : Dom) (i : NodeId) (name : String) : Option String :=
  ((d.attributes i).find? (·.name == name)).map (·.value)

/-- Whether a node is an element. -/
def isElement (d : Dom) (i : NodeId) : Bool :=
  match d.content i with
  | .element _ _ _ => true
  | _ => false

/-- The text of a node that is a stretch of text. -/
def text? (d : Dom) (i : NodeId) : Option String :=
  match d.content i with
  | .text s => some s
  | _ => none

/-- The store with a node changed. -/
def modify (d : Dom) (i : NodeId) (f : Node → Node) : Dom :=
  ⟨d.nodes.modify i f⟩

/-- The store with one more node, outside of the tree, and its number. -/
def create (d : Dom) (content : Content) : Dom × NodeId :=
  let i := d.size
  (⟨d.nodes.push { content }⟩, i)

/-- The store with one more HTML element, outside of the tree, and its number. -/
def createElement (d : Dom) (name : String) (attributes : List Attribute) : Dom × NodeId :=
  d.create (.element .html name attributes)

/-- The store with one more template, outside of the tree, and its number. -/
def createTemplate (d : Dom) (content : Content) : Dom × NodeId :=
  let (d, held) := d.create .root
  let i := d.size
  (⟨d.nodes.push { content, held := some held }⟩, i)

/-- Gives a node another content. -/
def setContent (d : Dom) (i : NodeId) (content : Content) : Dom :=
  d.modify i fun n => { n with content }

/-- Takes a node out of the tree, with all below it. -/
def detach (d : Dom) (i : NodeId) : Dom :=
  match d.parent? i with
  | none => d
  | some p =>
    (d.modify p fun n => { n with children := n.children.erase i }).modify i
      fun n => { n with parent := none }

/-- Takes nodes out of the tree, with all below them. -/
def detachAll (d : Dom) (is : List NodeId) : Dom :=
  is.foldl detach d

/-- Makes a node the last child of another one. -/
def append (d : Dom) (parent i : NodeId) : Dom :=
  ((d.detach i).modify parent fun n => { n with children := n.children.push i }).modify i
    fun n => { n with parent := some parent }

/-- The place of a node among the children of its parent. -/
def index (d : Dom) (parent i : NodeId) : Nat :=
  ((d.children parent).idxOf? i).getD (d.children parent).size

/-- Makes nodes the last children of another one, in order. -/
def appendAll (d : Dom) (parent : NodeId) (is : List NodeId) : Dom :=
  is.foldl (fun d i => d.append parent i) d

/-- Puts a node before another one that is in the tree. -/
def insertBefore (d : Dom) (sibling i : NodeId) : Dom :=
  match d.parent? sibling with
  | none => d
  | some p =>
    let d := d.detach i
    let k := d.index p sibling
    (d.modify p fun n => { n with children := n.children.insertIdxIfInBounds k i }).modify i
      fun n => { n with parent := some p }

/-- Puts a node in the place of another one. -/
def replace (d : Dom) (old new : NodeId) : Dom :=
  (d.insertBefore old new).detach old

/-- Makes the children of a node the last children of another one. -/
def moveChildren (d : Dom) (source target : NodeId) : Dom :=
  d.appendAll target (d.children source).toList

/-- Adds text at the end of a text node, or does nothing with any other node. -/
def extendText (d : Dom) (i : NodeId) (s : String) : Dom :=
  d.modify i fun n =>
    match n.content with
    | .text t => { n with content := .text (t ++ s) }
    | _ => n

/-- Adds text at the end of a node's children, to the last of them if it is text. -/
def appendText (d : Dom) (parent : NodeId) (s : String) : Dom :=
  match (d.children parent).back? with
  | some last =>
    if (d.text? last).isSome then d.extendText last s
    else
      let (d, i) := d.create (.text s)
      d.append parent i
  | none =>
    let (d, i) := d.create (.text s)
    d.append parent i

/-- The sibling before a node. -/
def previous? (d : Dom) (i : NodeId) : Option NodeId :=
  match d.parent? i with
  | none => none
  | some p =>
    let k := d.index p i
    if k = 0 then none else (d.children p)[k - 1]?

/-- The sibling after a node. -/
def next? (d : Dom) (i : NodeId) : Option NodeId :=
  (d.parent? i).bind fun p => (d.children p)[d.index p i + 1]?

/-- The siblings after a node in order. -/
def siblingsAfter (d : Dom) (i : NodeId) : List NodeId :=
  match d.parent? i with
  | none => []
  | some p => (d.children p).toList.drop (d.index p i + 1)

/-- The siblings before a node, the nearest first. -/
def siblingsBefore (d : Dom) (i : NodeId) : List NodeId :=
  match d.parent? i with
  | none => []
  | some p => ((d.children p).toList.take (d.index p i)).reverse

/-- Puts text before a node, to the sibling before it if that is text. -/
def insertTextBefore (d : Dom) (sibling : NodeId) (s : String) : Dom :=
  match d.previous? sibling with
  | some before =>
    if (d.text? before).isSome then d.extendText before s
    else
      let (d, i) := d.create (.text s)
      d.insertBefore sibling i
  | none =>
    let (d, i) := d.create (.text s)
    d.insertBefore sibling i

/-- Gives an element another name. -/
def rename (d : Dom) (i : NodeId) (name : String) : Dom :=
  match d.content i with
  | .element s _ as => d.setContent i (.element s name as)
  | _ => d

/-- Gives an element other attributes. -/
def setAttributes (d : Dom) (i : NodeId) (as : List Attribute) : Dom :=
  match d.content i with
  | .element s n _ => d.setContent i (.element s n as)
  | _ => d

/-- Attributes with one of them set: in its place if it is there, else at the end. -/
def withAttribute (as : List Attribute) (name value : String) : List Attribute :=
  if as.any (·.name == name) then as.map fun a => if a.name == name then ⟨name, value⟩ else a
  else as ++ [⟨name, value⟩]

/-- Sets an attribute of an element. -/
def setAttribute (d : Dom) (i : NodeId) (name value : String) : Dom :=
  d.setAttributes i (withAttribute (d.attributes i) name value)

/-- Removes attributes of an element. -/
def removeAttributes (d : Dom) (i : NodeId) (names : List String) : Dom :=
  d.setAttributes i ((d.attributes i).filter fun a => !names.contains a.name)

/-- A node and those at most so many levels below it, in the order of the document, before nodes
that come later. -/
def belowOnto (d : Dom) : Nat → NodeId → List NodeId → List NodeId
  | 0, i, later => i :: later
  | depth + 1, i, later => i :: (d.children i).foldr (belowOnto d depth) later

/-- A node and all below it, in the order of the document. -/
def subtree (d : Dom) (i : NodeId) : List NodeId :=
  d.belowOnto d.size i []

/-- All below a node, in the order of the document. -/
def descendants (d : Dom) (i : NodeId) : List NodeId :=
  (d.subtree i).drop 1

/-- The element children of a node. -/
def elements (d : Dom) (i : NodeId) : List NodeId :=
  (d.children i).toList.filter d.isElement

/-- The elements below a node that have one of the names, in the order of the document. -/
def named (d : Dom) (i : NodeId) (names : List String) : List NodeId :=
  (d.descendants i).filter fun j => names.contains (d.name j)

/-- At most so many nodes above a node, the nearest first. -/
def above (d : Dom) : Nat → NodeId → List NodeId
  | 0, _ => []
  | count + 1, i =>
    match d.parent? i with
    | none => []
    | some p => p :: d.above count p

/-- The nodes above a node, the nearest first. -/
def ancestors (d : Dom) (i : NodeId) : List NodeId :=
  d.above d.size i

/-- The text of a node and all below it. -/
def text (d : Dom) (i : NodeId) : String :=
  String.join ((d.subtree i).filterMap d.text?)

end Dom

end MainContent.Html
