/-
**Parsed markup as a tree.**

What a reader of markup delivers.  An element has its local name, its attributes in source order,
the contents of a template, which hang beside its children, and the children themselves.

Main definitions:

* `ThemeCompiler.Html.Attribute` — a name and a value;
* `ThemeCompiler.Html.Tree` — the nodes;
* `ThemeCompiler.Html.isVoid`, `ThemeCompiler.Html.printsNoEnd` — the elements without an end tag,
  in source markup and in printed markup.
-/

set_option relaxedAutoImplicit false
set_option autoImplicit false

namespace ThemeCompiler

namespace Html

/-- An attribute. -/
structure Attribute where
  name : String
  value : String
  deriving DecidableEq, Repr

/-- **A node of parsed markup.** -/
inductive Tree where
  /-- A document, or a fragment that stands for its children. -/
  | document (children : List Tree)
  /-- A document type declaration. -/
  | doctype (name : String)
  /-- A run of text. -/
  | text (content : String)
  /-- A comment. -/
  | comment (content : String)
  /-- A processing instruction. -/
  | instruction (target content : String)
  /-- An element; `contents` is empty unless it is a template. -/
  | element (name : String) (attrs : List Attribute) (contents children : List Tree)

/-- The elements that never have content. -/
def voidElements : List String :=
  ["area", "base", "br", "col", "embed", "hr", "img", "input", "keygen", "link", "meta", "param",
    "source", "track", "wbr"]

/-- **Whether an element never has content.** -/
def isVoid (tag : String) : Bool := voidElements.contains tag

/-- Whether an element is printed without an end tag: the void elements and three obsolete ones. -/
def printsNoEnd (tag : String) : Bool :=
  isVoid tag || tag == "basefont" || tag == "bgsound" || tag == "frame"

/-- Whether text is printed as it is inside an element. -/
def holdsRawText (tag : String) : Bool :=
  ["style", "script", "xmp", "iframe", "noembed", "noframes", "plaintext", "noscript"].contains tag

end Html

end ThemeCompiler
