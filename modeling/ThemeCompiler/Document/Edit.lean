/-
**Editing a document.**

Elements are renamed and given attributes in place; nodes are created without links and then moved.
`Edit` lists the elementary edits, so that a sequence of edits is a value.

Main definitions:

* `ThemeCompiler.Document.rename`, `ThemeCompiler.Document.setAttr`,
  `ThemeCompiler.Document.removeAttr`, `ThemeCompiler.Document.setAttrs` — edits of one element;
* `ThemeCompiler.Document.createElement`, `ThemeCompiler.Document.createText` — new nodes;
* `ThemeCompiler.Edit`, `ThemeCompiler.Document.apply` — edits as values.
-/

import ThemeCompiler.Document.Basic

set_option relaxedAutoImplicit false
set_option autoImplicit false

namespace ThemeCompiler

open Html (Attribute)

namespace Document

/-! ### Elements in place -/

/-- The document with the content of a node changed. -/
def modifyContent (d : Document) (n : NodeId) (f : Content → Content) : Document :=
  { d with nodes := d.nodes.modifyValue n f }

/-- The document with another tree. -/
def withNodes (d : Document) (nodes : Arena Content) : Document := { d with nodes := nodes }

/-- Gives an element another tag; attributes and children stay. -/
def rename (d : Document) (n : NodeId) (tag : String) : Document :=
  d.modifyContent n fun
    | .element _ attrs => .element (Text.lowerAscii tag) attrs
    | other => other

/-- An attribute list with the first attribute of a name set, or with it at the end. -/
def putAttr (name value : String) : List Attribute → List Attribute
  | [] => [⟨name, value⟩]
  | a :: rest => if a.name == name then ⟨name, value⟩ :: rest else a :: putAttr name value rest

/-- An attribute list without the first attribute of a name. -/
def dropAttr (name : String) (attrs : List Attribute) : List Attribute :=
  attrs.eraseP (·.name == name)

/-- Replaces the attributes of an element. -/
def setAttrs (d : Document) (n : NodeId) (attrs : List Attribute) : Document :=
  d.modifyContent n fun
    | .element tag _ => .element tag attrs
    | other => other

/-- **Sets an attribute of an element**, in its old place or at the end. -/
def setAttr (d : Document) (n : NodeId) (name value : String) : Document :=
  d.setAttrs n (putAttr name value (d.attrs n))

/-- **Removes the first attribute of a name from an element.** -/
def removeAttr (d : Document) (n : NodeId) (name : String) : Document :=
  d.setAttrs n (dropAttr name (d.attrs n))

/-! ### New nodes -/

/-- The number that the next node gets. -/
def nextId (d : Document) : NodeId := d.nodes.size

/-- The document with a new element, number `nextId`, that has no links yet. -/
def createElement (d : Document) (tag : String) (attrs : List Attribute) : Document :=
  d.withNodes (d.nodes.add (.element (Text.lowerAscii tag) attrs))

/-- The document with a new text, number `nextId`, that has no links yet. -/
def createText (d : Document) (content : String) : Document :=
  d.withNodes (d.nodes.add (.text content))

/-! ### Moves -/

/-- Takes a node out. -/
def detach (d : Document) (n : NodeId) : Document := d.withNodes (d.nodes.detach n)

/-- Makes a node the last child of another. -/
def appendChild (d : Document) (parent child : NodeId) : Document :=
  d.withNodes (d.nodes.appendChild parent child)

/-- Puts a node immediately before another. -/
def insertBefore (d : Document) (mark new : NodeId) : Document :=
  d.withNodes (d.nodes.insertBefore mark new)

/-- Puts a node in the place of another. -/
def replaceWith (d : Document) (old new : NodeId) : Document :=
  d.withNodes (d.nodes.replaceWith old new)

/-- Replaces a node by its children. -/
def unwrap (d : Document) (n : NodeId) : Document := d.withNodes (d.nodes.unwrap n)

/-- Moves the children of a node into a wrapper that becomes its last child. -/
def wrapChildren (d : Document) (parent wrapper : NodeId) : Document :=
  d.withNodes (d.nodes.wrapChildren parent wrapper)

end Document

/-! ### Edits as values -/

/-- **An elementary edit of a document.** -/
inductive Edit where
  | createElement (tag : String) (attrs : List Attribute)
  | createText (content : String)
  | setAttr (node : NodeId) (name value : String)
  | removeAttr (node : NodeId) (name : String)
  | setAttrs (node : NodeId) (attrs : List Attribute)
  | rename (node : NodeId) (tag : String)
  | detach (node : NodeId)
  | appendChild (parent child : NodeId)
  | insertBefore (mark new : NodeId)
  | replaceWith (old new : NodeId)
  | unwrap (node : NodeId)
  | wrapChildren (parent wrapper : NodeId)
  deriving DecidableEq, Repr

namespace Document

/-- **The document after an edit.** -/
def apply (d : Document) : Edit → Document
  | .createElement tag attrs => d.createElement tag attrs
  | .createText content => d.createText content
  | .setAttr n name value => d.setAttr n name value
  | .removeAttr n name => d.removeAttr n name
  | .setAttrs n attrs => d.setAttrs n attrs
  | .rename n tag => d.rename n tag
  | .detach n => d.detach n
  | .appendChild p c => d.appendChild p c
  | .insertBefore m n => d.insertBefore m n
  | .replaceWith o n => d.replaceWith o n
  | .unwrap n => d.unwrap n
  | .wrapChildren p w => d.wrapChildren p w

end Document

end ThemeCompiler
