/-
**Lower and upper case of a text.**

The full mappings of Unicode: a character may become several, and a capital sigma becomes the final
form at the end of a word.

Main definitions:

* `ThemeCompiler.Text.lowerChar`, `ThemeCompiler.Text.upperChar` — the characters one becomes;
* `ThemeCompiler.Text.endsWord` — whether a sigma stands at the end of its word;
* `ThemeCompiler.Text.toLower` — a text in lower case.
-/

import ThemeCompiler.Text.CaseTables

set_option relaxedAutoImplicit false
set_option autoImplicit false

namespace ThemeCompiler

namespace Text

/-- The partner that the first fitting run of a table assigns to a character, or itself. -/
def partnerIn (runs : List CaseRun) (c : Char) : Char :=
  match runs.findSome? (·.partner? c.toNat) with
  | some code => Char.ofNat code
  | none => c

/-- **The characters that a character becomes in lower case.**  A capital I with a dot keeps the
dot as a combining character. -/
def lowerChar (c : Char) : List Char :=
  if c.toNat < 128 then [c.toLower]
  else if c == '\u0130' then ['i', '\u0307']
  else [partnerIn lowerRuns c]

/-- **The characters that a character becomes in upper case.** -/
def upperChar (c : Char) : List Char :=
  if c.toNat < 128 then [c.toUpper]
  else match upperExpansions.lookup c.toNat with
    | some codes => codes.map Char.ofNat
    | none => [partnerIn upperRuns c]

/-- Whether the first character that counts, of those given, is a cased letter. -/
def meetsCased (cs : List Char) : Bool :=
  match cs.dropWhile fun c => inRanges caseIgnorable c.toNat with
  | [] => false
  | c :: _ => inRanges casedRanges c.toNat

/-- A sigma ends its word when a cased letter stands before it and none after it. -/
def endsWord (before after : List Char) : Bool := meetsCased before && !meetsCased after

/-- The lower case of a list of characters that stands after `before`, whose last character is the
first of that list. -/
def lowerFrom : List Char → List Char → List Char
  | _, [] => []
  | before, c :: cs =>
      (if c == 'Σ' then [if endsWord before cs then 'ς' else 'σ'] else lowerChar c)
        ++ lowerFrom (c :: before) cs

/-- **A text in lower case.** -/
def toLower (s : String) : String := String.ofList (lowerFrom [] s.toList)

end Text

end ThemeCompiler
