/-
**Formatting elements.**

Bold, links and the like may be closed in the wrong order or across blocks.  A list remembers them:
what was cut off is opened again before the next content, and an end tag that crosses a block moves
the block and copies the formatting inside of it.

Main definitions:

* `ThemeCompiler.Html.Builder.reopen` — opens again what was cut off;
* `ThemeCompiler.Html.Builder.insertFormatting` — opens a formatting element and remembers it;
* `ThemeCompiler.Html.Builder.closeGeneric` — closes an element of any name;
* `ThemeCompiler.Html.Builder.closeFormatting` — closes a formatting element across blocks.
-/

import ThemeCompiler.Html.Builder.Basic

set_option relaxedAutoImplicit false
set_option autoImplicit false

namespace ThemeCompiler

namespace Html

namespace Builder

/-! ### The list of formatting elements -/

/-- Whether an entry is the given element. -/
def isEntryOf (n : NodeId) : Formatting → Bool
  | .marker => false
  | .element node _ => node == n

/-- Whether an entry is an element that is not open. -/
def isCutOff (b : Builder) : Formatting → Bool
  | .marker => false
  | .element node _ => !b.stack.contains node

/-- Whether an entry is an element. -/
def isFormattingElement : Formatting → Bool
  | .marker => false
  | .element _ _ => true

/-- The entries after the last boundary, newest first. -/
def recentFormatting (b : Builder) : List Formatting := b.formatting.takeWhile isFormattingElement

/-- Adds a boundary. -/
def addMarker (b : Builder) : Builder := { b with formatting := .marker :: b.formatting }

/-- Forgets the entries after the last boundary, and the boundary. -/
def clearToMarker (b : Builder) : Builder :=
  { b with formatting := (b.formatting.dropWhile isFormattingElement).drop 1 }

/-- Forgets an element. -/
def forget (b : Builder) (n : NodeId) : Builder :=
  { b with formatting := b.formatting.eraseP (isEntryOf n) }

/-- Whether an element is remembered. -/
def isRemembered (b : Builder) (n : NodeId) : Bool := b.formatting.any (isEntryOf n)

/-- The list with another element in the place of one. -/
def replaceEntry (b : Builder) (old : NodeId) (entry : Formatting) : Builder :=
  { b with formatting := b.formatting.map fun e => if isEntryOf old e then entry else e }

/-! ### Opening -/

/-- Opens a remembered element again. -/
def reopenEntry (b : Builder) : Formatting → Builder
  | .marker => b
  | .element node tag =>
      let opened := b.insertTag tag
      opened.replaceEntry node (.element opened.current tag)

/-- **Opens again the formatting elements that were cut off** since the last one that is open. -/
def reopen (b : Builder) : Builder :=
  ((b.formatting.takeWhile b.isCutOff).reverse).foldl reopenEntry b

/-- Whether two tags have the same name and the same attributes in any order. -/
def sameTag (s t : Tag) : Bool :=
  s.name == t.name && s.attrs.length == t.attrs.length && s.attrs.all t.attrs.contains

/-- Whether an entry has the given tag. -/
def hasSameTag (tag : Tag) : Formatting → Bool
  | .marker => false
  | .element _ other => sameTag tag other

/-- Forgets the oldest of three or more recent elements with the same tag. -/
def limitTwins (b : Builder) (tag : Tag) : Builder :=
  let twins := b.recentFormatting.filter (hasSameTag tag)
  match twins.getLast? with
  | some (.element node _) => if 3 ≤ twins.length then b.forget node else b
  | _ => b

/-- **Opens a formatting element and remembers it.** -/
def insertFormatting (b : Builder) (tag : Tag) : Builder :=
  let opened := (b.limitTwins tag).insertTag tag
  { opened with formatting := .element opened.current tag :: opened.formatting }

/-! ### Closing -/

/-- The elements that a general end tag does not cross. -/
def specialElements : List String :=
  ["address", "applet", "area", "article", "aside", "base", "basefont", "bgsound", "blockquote",
    "body", "br", "button", "caption", "center", "col", "colgroup", "dd", "details", "dir", "div",
    "dl", "dt", "embed", "fieldset", "figcaption", "figure", "footer", "form", "frame", "frameset",
    "h1", "h2", "h3", "h4", "h5", "h6", "head", "header", "hgroup", "hr", "html", "iframe", "img",
    "input", "isindex", "li", "link", "listing", "main", "marquee", "menu", "meta", "nav",
    "noembed", "noframes", "noscript", "object", "ol", "p", "param", "plaintext", "pre", "script",
    "section", "select", "source", "style", "summary", "table", "tbody", "td", "template",
    "textarea", "tfoot", "th", "thead", "title", "tr", "track", "ul", "wbr", "xmp"]

/-- Whether a general end tag does not cross a node. -/
def isSpecial (b : Builder) (n : NodeId) : Bool := b.isNamedIn specialElements n

/-- **Closes the newest open element with a name**, unless a special element is above it. -/
def closeGeneric (b : Builder) (name : String) : Builder :=
  match b.stack.find? fun n => b.isNamed name n || b.isSpecial n with
  | some n =>
      if b.isNamed name n then
        let closed := b.closeImpliedExcept name
        { closed with stack := (closed.stack.dropWhile (· != n)).drop 1 }
      else b
  | none => b

/-- The state of the walk from a block down to a formatting element: the builder, the node moved
last, and the copy after which the formatting element is to be remembered. -/
structure Walk where
  builder : Builder
  last : NodeId
  bookmark : Option NodeId
  count : Nat

/-- One node of the walk.  After three nodes, or when it is not remembered, a node is closed for
good; otherwise a copy of it takes its place and takes in the node moved last. -/
def Walk.visit (block : NodeId) (w : Walk) (n : NodeId) : Walk :=
  let b := w.builder
  if 3 ≤ w.count then { w with builder := (b.forget n).removeOpen n, count := w.count + 1 }
  else match b.formatting.find? (isEntryOf n) with
    | some (.element _ tag) =>
        let made := b.create .html tag.name tag.attrs
        let copy := made.newest
        let renamed := { made with stack := made.stack.map fun m => if m == n then copy else m }
        let moved := renamed.replaceEntry n (.element copy tag)
        { builder := moved.withNodes (moved.nodes.appendChild copy w.last)
          last := copy
          bookmark := if w.last == block then some copy else w.bookmark
          count := w.count + 1 }
    | _ => { w with builder := b.removeOpen n, count := w.count + 1 }

/-- The list with an entry right after the element `mark`, that is, before it in the list. -/
def rememberAfter (mark : NodeId) (entry : Formatting) : List Formatting → List Formatting
  | [] => []
  | e :: rest =>
      if isEntryOf mark e then entry :: e :: rest else e :: rememberAfter mark entry rest

/-- Moves a block out of a formatting element and puts a copy of that element around the content of
the block. -/
def liftBlock (b : Builder) (element : NodeId) (tag : Tag) (block : NodeId) : Builder :=
  let above := b.stack.takeWhile (· != element)
  let ancestor := ((b.stack.dropWhile (· != element)).drop 1).headD Arena.root
  let between := (above.dropWhile (· != block)).drop 1
  let w := between.foldl (Walk.visit block) ⟨b, block, none, 0⟩
  let loose := w.builder.withNodes (w.builder.nodes.detach w.last)
  let lifted := loose.insertAt (loose.place ancestor) w.last
  let made := lifted.create .html tag.name tag.attrs
  let copy := made.newest
  let content := (made.nodes.children block).foldl (fun a c => a.appendChild copy c) made.nodes
  let filled := made.withNodes (content.appendChild block copy)
  let entry := Formatting.element copy tag
  let remembered := match w.bookmark with
    | none => filled.replaceEntry element entry
    | some mark =>
        ({ filled with formatting := rememberAfter mark entry filled.formatting }).forget element
  let closed := remembered.removeOpen element
  { closed with stack := Arena.insertAt block copy closed.stack }

/-- One round of closing a formatting element; a further round is needed if the flag is set. -/
def closeFormattingRound (b : Builder) (name : String) : Builder × Bool :=
  let wanted : Formatting → Bool
    | .marker => false
    | .element _ tag => tag.name == name
  match b.recentFormatting.find? wanted with
  | some (.element element tag) =>
      if !b.stack.contains element then (b.forget element, false)
      else if !b.inScope b.boundsDefault (· == element) then (b, false)
      else match (b.stack.takeWhile (· != element)).reverse.find? b.isSpecial with
        | none => ((b.popThrough (· == element)).forget element, false)
        | some block => (b.liftBlock element tag block, true)
  | _ => (b.closeGeneric name, false)

/-- At most `rounds` rounds. -/
def closeFormattingRounds (name : String) : Nat → Builder → Builder
  | 0, b => b
  | rounds + 1, b =>
      match b.closeFormattingRound name with
      | (b, true) => closeFormattingRounds name rounds b
      | (b, false) => b

/-- **Closes a formatting element**, in at most eight rounds. -/
def closeFormatting (b : Builder) (name : String) : Builder :=
  if b.currentIs name && !b.isRemembered b.current then b.pop
  else closeFormattingRounds name 8 b

/-- Closes a link that is still remembered when another one begins. -/
def closeMisnestedLink (b : Builder) : Builder :=
  let isLink : Formatting → Bool
    | .marker => false
    | .element node _ => b.isNamed "a" node
  match b.recentFormatting.find? isLink with
  | some (.element node _) => ((b.closeFormatting "a").forget node).removeOpen node
  | _ => b

end Builder

end Html

end ThemeCompiler
