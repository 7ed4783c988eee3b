/-
**Reading markup.**

Tokens are read and handed to a builder one after the other; the tree is read off its nodes at the
end.  A byte order mark counts for nothing where reading begins, and is text elsewhere.

Main definitions:

* `ThemeCompiler.Html.Builder.read` — the builder after a text;
* `ThemeCompiler.Html.Builder.toTree` — the tree below a node;
* `ThemeCompiler.Html.parse` — the tree of a text.
-/

import ThemeCompiler.Html.Builder.Rules
import ThemeCompiler.Html.Lexer

set_option relaxedAutoImplicit false
set_option autoImplicit false

namespace ThemeCompiler

namespace Html

namespace Builder

/-- Whether the current node is a foreign element. -/
def isInForeign (b : Builder) : Bool := (b.name? b.current).any (·.1 != .html)

/-- Whether a token is the end of the text. -/
def Token.isDone : Token → Bool
  | .done => true
  | _ => false

/-- The builder after the characters that are left; every round but the last reads some.  Where
reading begins, at first or after a pause, a byte order mark is passed over. -/
def readWithin : Nat → Builder → List Char → Builder
  | 0, b, _ => b
  | fuel + 1, b, cs =>
      let cs := if b.pauses then dropByteOrderMark cs else cs
      let (tokens, rest) := readTokens b.textMode b.isInForeign cs
      let b := tokens.foldl take { b with textMode := .markup, pauses := false }
      if tokens.any Token.isDone then b else readWithin fuel b rest

/-- **The builder after a text.** -/
def read (s : String) : Builder :=
  let cs := unifyLineEnds s.toList
  readWithin (cs.length + 1) .start cs

/-- The tree of a node with what is at most `fuel` levels below it. -/
def toTree (b : Builder) : Nat → NodeId → Tree
  | 0, _ => .document []
  | fuel + 1, n =>
      let children := (b.nodes.children n).map (b.toTree fuel)
      match b.nodes.value? n with
      | some (.doctype name) => .doctype name
      | some (.text content) => .text content
      | some (.comment content) => .comment content
      | some (.element _ name attrs contents _) =>
          .element name attrs (match contents with
            | some c => (b.nodes.children c).map (b.toTree fuel)
            | none => []) children
      | _ => .document children

end Builder

/-- **The tree of a text.** -/
def parse (s : String) : Tree :=
  let b := Builder.read s
  b.toTree b.nodes.size Arena.root

end Html

end ThemeCompiler
