/-
**Documents.**

A document is an arena of page nodes: elements, texts, comments and document types below a root.
Its node numbers follow document order when it is made from parsed markup.  Nodes that are taken
out stay in the arena but no longer count.

Main definitions:

* `ThemeCompiler.Content`, `ThemeCompiler.Document` — what a node holds, the document;
* `ThemeCompiler.Document.ofTree` — the document of parsed markup;
* `ThemeCompiler.Document.elementsByTag`, `ThemeCompiler.Document.body` — attached elements;
* `ThemeCompiler.Document.tag?`, `ThemeCompiler.Document.attr?`, `ThemeCompiler.Document.classes` —
  what an element says about itself;
* `ThemeCompiler.Document.textContent`, `ThemeCompiler.Document.closest` — what surrounds a node.
-/

import ThemeCompiler.Arena
import ThemeCompiler.Html.Tree
import ThemeCompiler.Text.Blank
import ThemeCompiler.Text.Search

set_option relaxedAutoImplicit false
set_option autoImplicit false

namespace ThemeCompiler

open Html (Attribute)

/-- **What a node of a document holds.** -/
inductive Content where
  /-- The root. -/
  | root
  /-- A document type declaration. -/
  | doctype (name : String)
  /-- An element with its tag and its attributes in source order. -/
  | element (tag : String) (attrs : List Attribute)
  /-- A run of text. -/
  | text (content : String)
  /-- A comment. -/
  | comment (content : String)
  deriving DecidableEq, Repr

/-- **A document.**  `isFull` tells whether its source brought its own document frame. -/
structure Document where
  nodes : Arena Content
  isFull : Bool

namespace Document

/-! ### From parsed markup -/

mutual

/-- Adds a tree below `parent`.  Documents stand for their children, processing instructions are
left out, and the contents of a template come before its children. -/
def addTree (parent : NodeId) : Html.Tree → Arena Content → Arena Content
  | .document children, a => addTrees parent children a
  | .doctype name, a => (a.add (.doctype name)).appendChild parent a.size
  | .text content, a => (a.add (.text content)).appendChild parent a.size
  | .comment content, a => (a.add (.comment content)).appendChild parent a.size
  | .instruction _ _, a => a
  | .element name attrs contents children, a =>
      addTrees a.size children (addTrees a.size contents
        ((a.add (.element (Text.lowerAscii name) attrs)).appendChild parent a.size))

/-- Adds trees below `parent`, one after the other. -/
def addTrees (parent : NodeId) : List Html.Tree → Arena Content → Arena Content
  | [], a => a
  | t :: ts, a => addTrees parent ts (addTree parent t a)

end

/-- **The document of a tree**: its nodes are numbered from 1 in document order. -/
def ofTree (isFull : Bool) (t : Html.Tree) : Document :=
  ⟨addTree Arena.root t (Arena.singleton .root), isFull⟩

/-! ### Structure -/

/-- The parent of a node. -/
def parent? (d : Document) (n : NodeId) : Option NodeId := d.nodes.parent? n

/-- The children of a node. -/
def children (d : Document) (n : NodeId) : List NodeId := d.nodes.children n

/-- The nodes below a node in document order. -/
def descendants (d : Document) (n : NodeId) : List NodeId := d.nodes.descendants n

/-- **The attached nodes in document order**, the root not included. -/
def attached (d : Document) : List NodeId := d.descendants Arena.root

/-- Whether a node is the root or below it. -/
def isAttached (d : Document) (n : NodeId) : Bool := d.nodes.isAttached n

/-! ### Elements -/

/-- The tag of an element. -/
def tag? (d : Document) (n : NodeId) : Option String :=
  match d.nodes.value? n with
  | some (.element tag _) => some tag
  | _ => none

/-- Whether a node is an element with the given tag. -/
def hasTag (d : Document) (tag : String) (n : NodeId) : Bool := d.tag? n == some tag

/-- Whether a node is an element with one of the given tags. -/
def hasTagIn (d : Document) (tags : List String) (n : NodeId) : Bool :=
  (d.tag? n).any tags.contains

/-- Whether a node is an element. -/
def isElement (d : Document) (n : NodeId) : Bool := (d.tag? n).isSome

/-- The children of a node that are elements. -/
def elementChildren (d : Document) (n : NodeId) : List NodeId :=
  (d.children n).filter d.isElement

/-- The attached elements with a tag, in document order. -/
def elementsByTag (d : Document) (tag : String) : List NodeId := d.attached.filter (d.hasTag tag)

/-- The attached elements with one of the given tags, in document order. -/
def elementsByTags (d : Document) (tags : List String) : List NodeId :=
  d.attached.filter (d.hasTagIn tags)

/-- The first attached body element. -/
def body? (d : Document) : Option NodeId := (d.elementsByTag "body").head?

/-- The first attached head element. -/
def head? (d : Document) : Option NodeId := (d.elementsByTag "head").head?

/-- The first element below a node that satisfies `p`. -/
def findBelow (d : Document) (n : NodeId) (p : NodeId → Bool) : Option NodeId :=
  (d.descendants n).find? fun m => d.isElement m && p m

/-- **The nearest element with one of the given tags**, the node itself included. -/
def closest (d : Document) (tags : List String) (n : NodeId) : Option NodeId :=
  (d.nodes.lineage n).find? (d.hasTagIn tags)

/-- The nearest element with one of the given tags above a node. -/
def ancestor (d : Document) (tags : List String) (n : NodeId) : Option NodeId :=
  (d.parent? n).bind (d.closest tags)

/-! ### Attributes -/

/-- The attributes of an element, in source order. -/
def attrs (d : Document) (n : NodeId) : List Attribute :=
  match d.nodes.value? n with
  | some (.element _ attrs) => attrs
  | _ => []

/-- The value of the first attribute with a name. -/
def attr? (d : Document) (name : String) (n : NodeId) : Option String :=
  ((d.attrs n).find? (·.name == name)).map (·.value)

/-- Whether an element has an attribute. -/
def hasAttr (d : Document) (name : String) (n : NodeId) : Bool := (d.attr? name n).isSome

/-- The class list of an element as it is written. -/
def classes (d : Document) (n : NodeId) : String := (d.attr? "class" n).getD ""

/-- Whether an element is in a class. -/
def hasClass (d : Document) (name : String) (n : NodeId) : Bool :=
  (Text.words (d.classes n)).contains name

/-- The first class of an element. -/
def firstClass? (d : Document) (n : NodeId) : Option String := (Text.words (d.classes n)).head?

/-! ### Text -/

/-- The text that a node itself holds. -/
def ownText (d : Document) (n : NodeId) : String :=
  match d.nodes.value? n with
  | some (.text content) => content
  | _ => ""

/-- **The text of a node and everything below it.** -/
def textContent (d : Document) (n : NodeId) : String :=
  String.join ((n :: d.descendants n).map d.ownText)

/-- Whether a node is a text with more than blanks in it. -/
def isVisibleText (d : Document) (n : NodeId) : Bool :=
  match d.nodes.value? n with
  | some (.text content) => !Text.isBlankText content
  | _ => false

/-- Whether a node has a text with more than blanks among its children. -/
def hasDirectText (d : Document) (n : NodeId) : Bool := (d.children n).any d.isVisibleText

end Document

end ThemeCompiler
