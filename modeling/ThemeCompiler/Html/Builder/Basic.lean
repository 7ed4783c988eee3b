/-
**Building a tree from tokens: the state.**

A builder holds the nodes made so far, the stack of open elements with the current node first, the
formatting elements that are to be opened again where they were cut off, and the mode that says
which rules apply.  Elements belong to markup proper or to one of two foreign vocabularies.

Main definitions:

* `ThemeCompiler.Html.Vocabulary`, `ThemeCompiler.Html.Item` — what a node is;
* `ThemeCompiler.Html.Mode`, `ThemeCompiler.Html.Formatting`, `ThemeCompiler.Html.Builder` — the
  state;
* `ThemeCompiler.Html.Step` — a state, and whether the token is to be looked at again;
* `ThemeCompiler.Html.Builder.inScope` — whether an element is open inside a boundary;
* `ThemeCompiler.Html.Builder.place`, `ThemeCompiler.Html.Builder.insertElement`,
  `ThemeCompiler.Html.Builder.appendText` — where and how new nodes go in;
* `ThemeCompiler.Html.Builder.resetMode` — the mode that the open elements call for.
-/

import ThemeCompiler.Arena
import ThemeCompiler.Html.Token
import ThemeCompiler.Text.Search

set_option relaxedAutoImplicit false
set_option autoImplicit false

namespace ThemeCompiler

namespace Html

/-! ### Nodes -/

/-- The vocabulary that an element belongs to. -/
inductive Vocabulary where
  | html
  | svg
  | math
  deriving DecidableEq

/-- **A node under construction.**  The contents of a template are a node of their own; `integrates`
marks a foreign annotation that may hold markup. -/
inductive Item where
  | document
  | contents
  | doctype (name : String)
  | text (content : String)
  | comment (content : String)
  | element (vocabulary : Vocabulary) (name : String) (attrs : List Attribute)
      (contents : Option NodeId) (integrates : Bool)

/-- The rules that apply to the next token. -/
inductive Mode where
  | initial
  | beforeHtml
  | beforeHead
  | inHead
  | afterHead
  | inBody
  | inText
  | inTable
  | inTableText
  | inCaption
  | inColumnGroup
  | inTableBody
  | inRow
  | inCell
  | inSelect
  | inSelectInTable
  | inTemplate
  | afterBody
  | inFrameset
  | afterFrameset
  | afterAfterBody
  | afterAfterFrameset
  deriving DecidableEq

/-- An entry in the list of formatting elements: a boundary, or an element with its tag. -/
inductive Formatting where
  | marker
  | element (node : NodeId) (tag : Tag)

/-- **A builder.**  The stack and the formatting list have their newest entry first; `pauses` marks
that reading begins anew with the next token. -/
structure Builder where
  nodes : Arena Item
  stack : List NodeId
  formatting : List Formatting
  mode : Mode
  returnMode : Mode
  templateModes : List Mode
  headElement : Option NodeId
  formElement : Option NodeId
  framesetAllowed : Bool
  fosterParenting : Bool
  skipLineFeed : Bool
  oldRules : Bool
  pendingText : List String
  textMode : TextMode
  pauses : Bool

/-- A builder before the first token. -/
def Builder.start : Builder where
  nodes := Arena.singleton .document
  stack := []
  formatting := []
  mode := .initial
  returnMode := .inBody
  templateModes := []
  headElement := none
  formElement := none
  framesetAllowed := true
  fosterParenting := false
  skipLineFeed := false
  oldRules := false
  pendingText := []
  textMode := .markup
  pauses := true

/-- **The result of a rule**: the builder after it, and whether the rules of its mode are to be
applied to the same token. -/
structure Step where
  builder : Builder
  again : Bool

namespace Builder

/-- The token is dealt with. -/
def handled (b : Builder) : Step := ⟨b, false⟩

/-- The token is to be looked at again in another mode. -/
def retryIn (b : Builder) (mode : Mode) : Step := ⟨{ b with mode := mode }, true⟩

/-- The builder in another mode. -/
def withMode (b : Builder) (mode : Mode) : Builder := { b with mode := mode }

/-- The builder with framesets no longer allowed. -/
def forbidFrameset (b : Builder) : Builder := { b with framesetAllowed := false }

/-! ### Looking at elements -/

/-- The vocabulary and the name of an element. -/
def name? (b : Builder) (n : NodeId) : Option (Vocabulary × String) :=
  match b.nodes.value? n with
  | some (.element vocabulary name _ _ _) => some (vocabulary, name)
  | _ => none

/-- The name of an element of markup proper. -/
def htmlName? (b : Builder) (n : NodeId) : Option String :=
  match b.name? n with
  | some (.html, name) => some name
  | _ => none

/-- Whether a node is an element of markup proper with the given name. -/
def isNamed (b : Builder) (name : String) (n : NodeId) : Bool := b.htmlName? n == some name

/-- Whether a node is an element of markup proper with one of the given names. -/
def isNamedIn (b : Builder) (names : List String) (n : NodeId) : Bool :=
  (b.htmlName? n).any names.contains

/-- Whether text inside a formula element is markup. -/
def isMathText (name : Vocabulary × String) : Bool :=
  name.1 == .math && ["mi", "mo", "mn", "ms", "mtext"].contains name.2

/-- Whether a drawing element holds markup. -/
def isSvgIntegration (name : Vocabulary × String) : Bool :=
  name.1 == .svg && ["foreignObject", "desc", "title"].contains name.2

/-- The current node. -/
def current (b : Builder) : NodeId := b.stack.headD Arena.root

/-- Whether the current node is an element of markup proper with the given name. -/
def currentIs (b : Builder) (name : String) : Bool := b.isNamed name b.current

/-- Whether the current node is an element of markup proper with one of the given names. -/
def currentIn (b : Builder) (names : List String) : Bool := b.isNamedIn names b.current

/-- Whether an element with the given name is open. -/
def isOpen (b : Builder) (name : String) : Bool := b.stack.any (b.isNamed name)

/-- The bottom of the stack. -/
def rootElement (b : Builder) : NodeId := b.stack.getLast?.getD Arena.root

/-- The body element, if it is the second open element. -/
def bodyElement? (b : Builder) : Option NodeId :=
  match b.stack.reverse with
  | _ :: n :: _ => if b.isNamed "body" n then some n else none
  | _ => none

/-! ### Scopes -/

/-- Whether a node is the boundary of the default scope. -/
def boundsDefault (b : Builder) (n : NodeId) : Bool :=
  b.isNamedIn ["applet", "caption", "html", "table", "td", "th", "marquee", "object", "template"] n
    || (b.name? n).any fun name => isMathText name || isSvgIntegration name

/-- Whether a node is the boundary of the scope of list items. -/
def boundsListItem (b : Builder) (n : NodeId) : Bool :=
  b.boundsDefault n || b.isNamedIn ["ol", "ul"] n

/-- Whether a node is the boundary of the scope of paragraphs. -/
def boundsButton (b : Builder) (n : NodeId) : Bool := b.boundsDefault n || b.isNamed "button" n

/-- Whether a node is the boundary of the scope of table parts. -/
def boundsTable (b : Builder) (n : NodeId) : Bool := b.isNamedIn ["html", "table", "template"] n

/-- Whether a node is the boundary of the scope of a selection: everything but options. -/
def boundsSelect (b : Builder) (n : NodeId) : Bool := !b.isNamedIn ["optgroup", "option"] n

/-- Whether a wanted node comes in a stack before a boundary, or is one. -/
def findInScope (wanted bounds : NodeId → Bool) : List NodeId → Bool
  | [] => false
  | n :: rest => wanted n || (!bounds n && findInScope wanted bounds rest)

/-- **Whether an open element satisfies `wanted` with no boundary above it.** -/
def inScope (b : Builder) (bounds : NodeId → Bool) (wanted : NodeId → Bool) : Bool :=
  findInScope wanted bounds b.stack

/-- Whether an element with a name is in the default scope. -/
def hasInScope (b : Builder) (name : String) : Bool := b.inScope b.boundsDefault (b.isNamed name)

/-- Whether an element with a name is in the scope of table parts. -/
def hasInTableScope (b : Builder) (name : String) : Bool :=
  b.inScope b.boundsTable (b.isNamed name)

/-! ### The stack -/

/-- Opens an element. -/
def push (b : Builder) (n : NodeId) : Builder := { b with stack := n :: b.stack }

/-- Closes the current node. -/
def pop (b : Builder) : Builder := { b with stack := b.stack.drop 1 }

/-- Closes nodes up to the first that satisfies `p`, and that one. -/
def popThrough (b : Builder) (p : NodeId → Bool) : Builder :=
  { b with stack := (b.stack.dropWhile (!p ·)).drop 1 }

/-- Closes nodes up to the first element with the given name, and that one. -/
def popNamed (b : Builder) (name : String) : Builder := b.popThrough (b.isNamed name)

/-- Closes nodes until the current one has one of the given names. -/
def popTo (b : Builder) (names : List String) : Builder :=
  { b with stack := b.stack.dropWhile (!b.isNamedIn names ·) }

/-- Takes an element out of the stack, wherever it is. -/
def removeOpen (b : Builder) (n : NodeId) : Builder := { b with stack := b.stack.erase n }

/-- The elements whose end tag may be left out. -/
def impliedEnds : List String :=
  ["dd", "dt", "li", "option", "optgroup", "p", "rb", "rp", "rt", "rtc"]

/-- The elements that also close with the end of a template. -/
def allImpliedEnds : List String :=
  impliedEnds ++ ["caption", "colgroup", "tbody", "td", "tfoot", "th", "thead", "tr"]

/-- Closes the elements on top of the stack that have one of the given names. -/
def closeImplied (b : Builder) (names : List String) : Builder :=
  { b with stack := b.stack.dropWhile (b.isNamedIn names) }

/-- Closes the elements on top of the stack whose end tag may be left out, except for one name. -/
def closeImpliedExcept (b : Builder) (name : String) : Builder :=
  b.closeImplied (impliedEnds.filter (· != name))

/-- Closes a paragraph. -/
def closeParagraph (b : Builder) : Builder := (b.closeImpliedExcept "p").popNamed "p"

/-- Closes a paragraph that is open in its scope. -/
def closeOpenParagraph (b : Builder) : Builder :=
  if b.inScope b.boundsButton (b.isNamed "p") then b.closeParagraph else b

/-! ### Where nodes go -/

/-- Where a new node goes: behind the children of a node, or before a table that a node was opened
below. -/
inductive Place where
  | lastChild (parent : NodeId)
  | beforeTable (table below : NodeId)

/-- The node that takes the children of an element: the contents of a template, or itself. -/
def receiver (b : Builder) (n : NodeId) : NodeId :=
  match b.nodes.value? n with
  | some (.element _ _ _ (some contents) _) => contents
  | _ => n

/-- The place for what may not stand in a table, looked for down the stack. -/
def fosterPlace (b : Builder) : List NodeId → Place
  | [] => .lastChild b.rootElement
  | n :: rest =>
      if b.isNamed "template" n then .lastChild (b.receiver n)
      else if b.isNamed "table" n then .beforeTable n (rest.headD Arena.root)
      else b.fosterPlace rest

/-- **The place for a new node** that is to go into `target`. -/
def place (b : Builder) (target : NodeId) : Place :=
  if b.fosterParenting && b.isNamedIn ["table", "tbody", "tfoot", "thead", "tr"] target then
    b.fosterPlace b.stack
  else .lastChild (b.receiver target)

/-- The builder with other nodes. -/
def withNodes (b : Builder) (nodes : Arena Item) : Builder := { b with nodes := nodes }

/-- Puts a node at a place. -/
def insertAt (b : Builder) (place : Place) (n : NodeId) : Builder :=
  match place with
  | .lastChild parent => b.withNodes (b.nodes.appendChild parent n)
  | .beforeTable table below =>
      if (b.nodes.parent? table).isSome then b.withNodes (b.nodes.insertBefore table n)
      else b.withNodes (b.nodes.appendChild below n)

/-- The child before another in a list. -/
def childBefore (n : NodeId) : List NodeId → Option NodeId
  | c :: d :: rest => if d == n then some c else childBefore n (d :: rest)
  | _ => none

/-- The node that a text at a place would follow. -/
def neighbour (b : Builder) : Place → Option NodeId
  | .lastChild parent => (b.nodes.children parent).getLast?
  | .beforeTable table below =>
      match b.nodes.parent? table with
      | some parent => childBefore table (b.nodes.children parent)
      | none => (b.nodes.children below).getLast?

/-- Whether a node is a text. -/
def isText (b : Builder) (n : NodeId) : Bool :=
  match b.nodes.value? n with
  | some (.text _) => true
  | _ => false

/-- A text with more text behind it. -/
def Item.extend (more : String) : Item → Item
  | .text content => .text (content ++ more)
  | other => other

/-- Puts a new node at a place. -/
def addAt (b : Builder) (place : Place) (item : Item) : Builder :=
  (b.withNodes (b.nodes.add item)).insertAt place b.nodes.size

/-- **Adds text at the current place**; it joins a text that it follows. -/
def appendText (b : Builder) (content : String) : Builder :=
  let place := b.place b.current
  match (b.neighbour place).filter b.isText with
  | some n => b.withNodes (b.nodes.modifyValue n (Item.extend content))
  | none => b.addAt place (.text content)

/-- Adds a comment at the current place. -/
def appendComment (b : Builder) (content : String) : Builder :=
  b.addAt (b.place b.current) (.comment content)

/-- Adds a comment behind the children of a node. -/
def appendCommentTo (b : Builder) (parent : NodeId) (content : String) : Builder :=
  b.addAt (.lastChild parent) (.comment content)

/-! ### New elements -/

/-- Whether a foreign annotation says that it holds markup. -/
def annotatesMarkup (vocabulary : Vocabulary) (name : String) (attrs : List Attribute) : Bool :=
  vocabulary == .math && name == "annotation-xml" && attrs.any fun a =>
    a.name == "encoding"
      && ["text/html", "application/xhtml+xml"].contains (Text.lowerAscii a.value)

/-- Creates an element without links; it is the last node.  A template gets its contents. -/
def create (b : Builder) (vocabulary : Vocabulary) (name : String) (attrs : List Attribute) :
    Builder :=
  let integrates := annotatesMarkup vocabulary name attrs
  if vocabulary == .html && name == "template" then
    b.withNodes ((b.nodes.add .contents).add
      (.element vocabulary name attrs (some b.nodes.size) integrates))
  else b.withNodes (b.nodes.add (.element vocabulary name attrs none integrates))

/-- The last node made. -/
def newest (b : Builder) : NodeId := b.nodes.size - 1

/-- Creates an element and puts it at the current place. -/
def insertClosed (b : Builder) (vocabulary : Vocabulary) (name : String)
    (attrs : List Attribute) : Builder :=
  let place := b.place b.current
  let b := b.create vocabulary name attrs
  b.insertAt place b.newest

/-- **Creates an element, puts it at the current place and opens it.** -/
def insertElement (b : Builder) (vocabulary : Vocabulary) (name : String)
    (attrs : List Attribute) : Builder :=
  let made := b.insertClosed vocabulary name attrs
  made.push made.newest

/-- Opens the element of a start tag. -/
def insertTag (b : Builder) (tag : Tag) : Builder := b.insertElement .html tag.name tag.attrs

/-- Puts the element of a start tag in without opening it. -/
def insertEmpty (b : Builder) (tag : Tag) : Builder := b.insertClosed .html tag.name tag.attrs

/-- Opens an element that no tag asked for. -/
def insertImplied (b : Builder) (name : String) : Builder := b.insertElement .html name []

/-- Opens an element whose content is text, to be read in the given way. -/
def insertTextElement (b : Builder) (tag : Tag) (textMode : TextMode) : Builder :=
  { b.insertTag tag with mode := .inText, returnMode := b.mode, textMode := textMode }

/-- The attributes of a list whose names are not in another. -/
def missingAttrs (present attrs : List Attribute) : List Attribute :=
  attrs.filter fun a => !present.any (·.name == a.name)

/-- Gives an element the attributes of a tag that it does not have. -/
def mergeAttrs (b : Builder) (n : NodeId) (attrs : List Attribute) : Builder :=
  b.withNodes (b.nodes.modifyValue n fun
    | .element vocabulary name present contents integrates =>
        .element vocabulary name (present ++ missingAttrs present attrs) contents integrates
    | other => other)

/-- Gives the root element the attributes of another root tag, outside of templates. -/
def mergeRootAttrs (b : Builder) (tag : Tag) : Builder :=
  if b.isOpen "template" then b else b.mergeAttrs b.rootElement tag.attrs

/-- Whether a tag is of a hidden control. -/
def isHidden (tag : Tag) : Bool :=
  tag.attrs.any fun a => a.name == "type" && Text.lowerAscii a.value == "hidden"

/-! ### The mode of the open elements -/

/-- The mode inside a selection above the given part of the stack. -/
def selectMode (b : Builder) (rest : List NodeId) : Mode :=
  match rest.find? (b.isNamedIn ["template", "table"]) with
  | some n => if b.isNamed "table" n then .inSelectInTable else .inSelect
  | none => .inSelect

/-- The mode that an open element by itself calls for; `isLast` marks the bottom of the stack. -/
def modeOf? (b : Builder) (name : String) (isLast : Bool) : Option Mode :=
  if name == "td" || name == "th" then if isLast then none else some .inCell
  else if name == "tr" then some .inRow
  else if name == "tbody" || name == "thead" || name == "tfoot" then some .inTableBody
  else if name == "caption" then some .inCaption
  else if name == "colgroup" then some .inColumnGroup
  else if name == "table" then some .inTable
  else if name == "template" then some (b.templateModes.headD .inTemplate)
  else if name == "head" then if isLast then none else some .inHead
  else if name == "body" then some .inBody
  else if name == "frameset" then some .inFrameset
  else if name == "html" then some (if b.headElement.isSome then .afterHead else .beforeHead)
  else none

/-- The mode that a part of the stack calls for. -/
def modeFrom (b : Builder) : List NodeId → Mode
  | [] => .inBody
  | n :: rest =>
      if b.isNamed "select" n then b.selectMode rest
      else ((b.htmlName? n).bind (b.modeOf? · rest.isEmpty)).getD (b.modeFrom rest)

/-- **The mode that the open elements call for.** -/
def resetMode (b : Builder) : Mode := b.modeFrom b.stack

end Builder

end Html

end ThemeCompiler
