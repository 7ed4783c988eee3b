/-
**Printing a document as markup.**

Text is escaped unless its parent holds raw text, attribute values are always escaped.  An element
that is printed without an end tag may still have children after an edit; their tags are then left
out, their texts and comments are not.

Main definitions:

* `ThemeCompiler.Document.escape` — a character as it is written in text or in an attribute value;
* `ThemeCompiler.Document.writeNode` — a node and what is below it;
* `ThemeCompiler.Document.innerMarkup`, `ThemeCompiler.Document.outerMarkup` — the markup of the
  children of a node, and of the node;
* `ThemeCompiler.Document.markup` — the markup of a whole document.
-/

import ThemeCompiler.Document.Basic

set_option relaxedAutoImplicit false
set_option autoImplicit false

namespace ThemeCompiler

open Html (Attribute)

namespace Document

/-! ### Escapes -/

/-- A character as it is written. -/
def escapeChar (inValue : Bool) (c : Char) : List Char :=
  if c == '&' then "&amp;".toList
  else if c == '\u00a0' then "&nbsp;".toList
  else if inValue && c == '"' then "&quot;".toList
  else if !inValue && c == '<' then "&lt;".toList
  else if !inValue && c == '>' then "&gt;".toList
  else [c]

/-- **A text as it is written**, in an attribute value or outside of tags. -/
def escape (inValue : Bool) (s : String) : String :=
  String.ofList (s.toList.flatMap (escapeChar inValue))

/-- An attribute as it is written. -/
def writeAttr (a : Attribute) : String := " " ++ a.name ++ "=\"" ++ escape true a.value ++ "\""

/-- A start tag as it is written. -/
def writeStart (tag : String) (attrs : List Attribute) : String :=
  "<" ++ tag ++ String.join (attrs.map writeAttr) ++ ">"

/-! ### Nodes -/

/-- The markup of a node and what is at most `fuel` levels below it.  `parent` is the tag of the
element around it, and `silent` tells that tags are left out. -/
def writeNode (d : Document) : Nat → Option String → Bool → NodeId → String
  | 0, _, _, _ => ""
  | fuel + 1, parent, silent, n =>
      match d.nodes.value? n with
      | none => ""
      | some .root => String.join ((d.children n).map (d.writeNode fuel parent silent))
      | some (.doctype name) => "<!DOCTYPE " ++ name ++ ">"
      | some (.comment content) => "<!--" ++ content ++ "-->"
      | some (.text content) =>
          if parent.any Html.holdsRawText then content else escape false content
      | some (.element tag attrs) =>
          let inner := String.join ((d.children n).map
            (d.writeNode fuel (some tag) (silent || Html.printsNoEnd tag)))
          if silent then inner
          else writeStart tag attrs ++ inner
            ++ (if Html.printsNoEnd tag then "" else "</" ++ tag ++ ">")

/-- **The markup of the children of a node.** -/
def innerMarkup (d : Document) (n : NodeId) : String :=
  String.join ((d.children n).map (d.writeNode d.nodes.size (d.tag? n) false))

/-- **The markup of a node.** -/
def outerMarkup (d : Document) (n : NodeId) : String :=
  match d.nodes.value? n with
  | some .root => d.innerMarkup n
  | _ => d.writeNode d.nodes.size none false n

/-- **The markup of a document**: all of it when its source brought its own frame, the content of
the body otherwise. -/
def markup (d : Document) : String :=
  if d.isFull then d.innerMarkup Arena.root
  else d.innerMarkup (d.body?.getD Arena.root)

end Document

end ThemeCompiler
