/-
**Names made from free text.**

Slugs, labels, variable names and file names.  All of them are computed character by character on
ASCII letters and digits; what is neither separates words.

Main definitions:

* `ThemeCompiler.Naming.snakeCase` — lower-case words joined by single underscores;
* `ThemeCompiler.Naming.classSlug` — the slug that the first class of an element suggests;
* `ThemeCompiler.Naming.singular`, `ThemeCompiler.Naming.title` — a slug of one instance, a label;
* `ThemeCompiler.Naming.variableName`, `ThemeCompiler.Naming.fileSlug` — a variable name, a file
  name;
* `ThemeCompiler.Naming.fresh` — a name that is not taken yet.
-/

import ThemeCompiler.Text.Blank
import ThemeCompiler.Text.Case
import ThemeCompiler.Text.Search

set_option relaxedAutoImplicit false
set_option autoImplicit false

namespace ThemeCompiler

namespace Naming

/-! ### Snake case -/

/-- Whether a word begins at `c` in camel case: a capital after a small letter. -/
def isHump (prev : Option Char) (c : Char) : Bool :=
  prev.any Char.isLower && c.isUpper

/-- The snake case of a list of characters that follows `prev`; `gap` tells whether an underscore
was written last. -/
def snakeFrom : Option Char → Bool → List Char → List Char
  | _, _, [] => []
  | prev, gap, c :: cs =>
      if c.isAlphanum then
        (if isHump prev c then ['_', c.toLower] else [c.toLower]) ++ snakeFrom (some c) false cs
      else (if gap then [] else ['_']) ++ snakeFrom (some c) true cs

/-- A text without the underscores at its two ends. -/
def trimUnderscores (s : String) : String :=
  String.ofList (Text.trimWith (· == '_') s.toList)

/-- **The snake case of a text**: its words of ASCII letters and digits in lower case, joined by
single underscores.  A capital after a small letter begins a word. -/
def snakeCase (s : String) : String :=
  String.ofList (Text.trimWith (· == '_') (snakeFrom none false s.toList))

/-! ### Slugs from class names -/

/-- The leading words of a class name that say nothing about its meaning. -/
def noiseWords : List String := ["section_", "block_", "wrapper_", "container_", "group_"]

/-- **The slug that a class list suggests**: its first class in snake case without one leading
noise word.  It is empty when there is no class. -/
def classSlug (classes : String) : String :=
  match Text.words classes with
  | [] => ""
  | first :: _ =>
      let snake := snakeCase first
      trimUnderscores ((noiseWords.findSome? (Text.dropStart? snake)).getD snake)

/-! ### Words -/

/-- **The singular of a word**: `ies` becomes `y`, and a final `s` goes unless it is doubled. -/
def singular (word : String) : String :=
  match Text.dropEnding? word "ies" with
  | some stem => stem ++ "y"
  | none =>
      if Text.endsWith word "s" && !Text.endsWith word "ss" then
        (Text.dropEnding? word "s").getD word
      else word

/-- A word with its first character in upper case. -/
def capitalize : List Char → List Char
  | [] => []
  | c :: cs => Text.upperChar c ++ cs

/-- **The label of a slug**: its words with their first character in upper case, joined by
spaces. -/
def title (slug : String) : String :=
  String.ofList ([' '].intercalate ((Text.splitAtChars (· == '_') slug.toList).map capitalize))

/-! ### Variables and files -/

/-- **A variable name for a slug**: an underscore goes before a leading digit. -/
def variableName (slug : String) : String :=
  if slug.toList.head?.any Char.isDigit then "_" ++ slug else slug

/-- **A file name for a text**: lower case, with a hyphen in place of every character that is not
an ASCII letter or digit. -/
def fileSlug (s : String) : String :=
  String.ofList ((Text.toLower s).toList.map fun c => if c.isAlphanum then c else '-')

/-! ### Fresh names -/

/-- A name with a number. -/
def numbered (name : String) (n : Nat) : String := name ++ "_" ++ toString n

/-- The first numbered name from `n` on that is not taken; at most `fuel` of them are. -/
def freshFrom (name : String) (taken : List String) : Nat → Nat → String
  | 0, n => numbered name n
  | fuel + 1, n =>
      if taken.contains (numbered name n) then freshFrom name taken fuel (n + 1)
      else numbered name n

/-- **A name that is not taken**: the name itself, or with the smallest number from 2 on. -/
def fresh (name : String) (taken : List String) : String :=
  if taken.contains name then freshFrom name taken taken.length 2 else name

end Naming

end ThemeCompiler
