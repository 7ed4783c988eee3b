/-
**The encoding that a page declares.**

A `meta` tag may name the encoding of the page: in an attribute of its own, or inside of a content
type, behind the word `charset` and an equals sign.  Which encoding it is does not matter here,
since a page is read as characters; but reading pauses after such a tag.

Main definitions:

* `ThemeCompiler.Html.namesCharset` — whether a content type names an encoding;
* `ThemeCompiler.Html.Tag.declaresCharset` — whether a tag declares one.
-/

import ThemeCompiler.Html.Token
import ThemeCompiler.Text.Search

set_option relaxedAutoImplicit false
set_option autoImplicit false

namespace ThemeCompiler

namespace Html

/-- Whether a name comes behind an equals sign: inside of quotes that are closed, or without
quotes. -/
def hasCharsetName (cs : List Char) : Bool :=
  match cs.dropWhile Text.isAsciiBlank with
  | [] => false
  | c :: rest => if c == '"' || c == '\'' then rest.contains c else true

/-- **Whether a content type in small letters names an encoding**: the first word `charset` with an
equals sign behind it decides. -/
def namesCharset : List Char → Bool
  | [] => false
  | c :: cs =>
      if "charset".toList.isPrefixOf (c :: cs) then
        match (cs.drop 6).dropWhile Text.isAsciiBlank with
        | '=' :: rest => hasCharsetName rest
        | _ => namesCharset cs
      else namesCharset cs

/-- The value of an attribute of a tag. -/
def Tag.attr? (tag : Tag) (name : String) : Option String :=
  (tag.attrs.find? (·.name == name)).map (·.value)

/-- **Whether a tag declares the encoding of the page.** -/
def Tag.declaresCharset (tag : Tag) : Bool :=
  (tag.attr? "charset").isSome
    || ((tag.attr? "http-equiv").any (Text.lowerAscii · == "content-type")
      && (tag.attr? "content").any fun content => namesCharset (Text.lowerAscii content).toList)

end Html

end ThemeCompiler
