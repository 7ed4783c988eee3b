/-
**The tokens of markup.**

Markup is read as a sequence of tags, comments, document types and runs of text.  What counts as
markup depends on where the text stands: the content of some elements is text up to their end tag.

Main definitions:

* `ThemeCompiler.Html.Tag`, `ThemeCompiler.Html.Doctype`, `ThemeCompiler.Html.Token` — the tokens;
* `ThemeCompiler.Html.TextMode` — how the text that follows is to be read;
* `ThemeCompiler.Html.Token.ofChars` — plain characters as tokens.
-/

import ThemeCompiler.Html.Tree
import ThemeCompiler.Text.Blank

set_option relaxedAutoImplicit false
set_option autoImplicit false

namespace ThemeCompiler

namespace Html

/-- A start tag or an end tag. -/
structure Tag where
  name : String
  attrs : List Attribute
  selfClosing : Bool
  deriving DecidableEq, Repr

/-- A document type declaration.  A malformed one asks for the old rules. -/
structure Doctype where
  name : Option String
  publicId : Option String
  systemId : Option String
  isMalformed : Bool

/-- **A token.** -/
inductive Token where
  | doctype (doctype : Doctype)
  | startTag (tag : Tag)
  | endTag (tag : Tag)
  | comment (content : String)
  /-- A run of text that is not empty; outside of raw text it is all blank or has no blank. -/
  | text (content : String)
  /-- A null character. -/
  | null
  /-- A mistake that stands for nothing. -/
  | mistake
  /-- The end of the text. -/
  | done

/-- **How the text that follows is to be read.** -/
inductive TextMode where
  /-- Markup. -/
  | markup
  /-- Text and references up to the end tag of the element. -/
  | escapable (element : String)
  /-- Text up to the end tag of the element. -/
  | raw (element : String)
  /-- A script. -/
  | script
  /-- Text to the end. -/
  | plain

/-- The null character. -/
def nul : Char := Char.ofNat 0

/-- A character of raw text: the null character is replaced. -/
def replaceNull (c : Char) : Char := if c == nul then '\uFFFD' else c

/-- The kind of a character of plain text: null, blank or other. -/
def charKind (c : Char) : Nat := if c == nul then 0 else if Text.isAsciiBlank c then 1 else 2

/-- **Plain characters as tokens**: runs of one kind, and null characters on their own.  `run` holds
the characters of the run begun, last one first. -/
def Token.ofCharsFrom : List Char → List Char → List Token
  | [], run => if run.isEmpty then [] else [.text (String.ofList run.reverse)]
  | c :: cs, run =>
      if c == nul then
        (if run.isEmpty then [] else [.text (String.ofList run.reverse)])
          ++ .null :: Token.ofCharsFrom cs []
      else if run.head?.all fun d => charKind d = charKind c then Token.ofCharsFrom cs (c :: run)
      else .text (String.ofList run.reverse) :: Token.ofCharsFrom cs [c]

/-- Plain characters as tokens. -/
def Token.ofChars (cs : List Char) : List Token := Token.ofCharsFrom cs []

/-- Characters as one token of raw text, if there are any. -/
def Token.ofRaw (cs : List Char) : List Token :=
  if cs.isEmpty then [] else [.text (String.ofList cs)]

end Html

end ThemeCompiler
