/-
**Looking for one text inside another.**

Occurrences, ends, splitting at characters and removal, all on lists of characters.  The versions
on texts read the characters of both sides.

Main definitions:

* `ThemeCompiler.Text.occursIn`, `ThemeCompiler.Text.contains` — whether one text occurs in another;
* `ThemeCompiler.Text.startsWith`, `ThemeCompiler.Text.endsWith` — occurrence at an end;
* `ThemeCompiler.Text.splitAtChars` — the pieces between the characters of a class, empty ones too;
* `ThemeCompiler.Text.splitFirst?` — the parts before and after the first occurrence;
* `ThemeCompiler.Text.removeAll` — a text without the occurrences found from left to right;
* `ThemeCompiler.Text.lowerAscii` — a text with the capitals of ASCII made small.
-/

set_option relaxedAutoImplicit false
set_option autoImplicit false

namespace ThemeCompiler

namespace Text

/-- Whether `part` occurs in a list of characters. -/
def occursIn (part : List Char) : List Char → Bool
  | [] => part.isEmpty
  | c :: cs => part.isPrefixOf (c :: cs) || occursIn part cs

/-- **Whether `part` occurs in `s`.** -/
def contains (s part : String) : Bool := occursIn part.toList s.toList

/-- Whether `s` begins with `start`. -/
def startsWith (s start : String) : Bool := start.toList.isPrefixOf s.toList

/-- Whether `s` ends with `ending`. -/
def endsWith (s ending : String) : Bool := ending.toList.isSuffixOf s.toList

/-- What follows `start` in `s`, if `s` begins with it. -/
def dropStart? (s start : String) : Option String :=
  if startsWith s start then some (String.ofList (s.toList.drop start.toList.length)) else none

/-- What precedes `ending` in `s`, if `s` ends with it. -/
def dropEnding? (s ending : String) : Option String :=
  if endsWith s ending then
    some (String.ofList (s.toList.take (s.toList.length - ending.toList.length)))
  else none

/-- The pieces of a list between the characters of the class `p`, empty ones included; there is
always at least one. -/
def splitAtChars (p : Char → Bool) : List Char → List (List Char)
  | [] => [[]]
  | c :: cs =>
      if p c then [] :: splitAtChars p cs
      else match splitAtChars p cs with
        | [] => [[c]]
        | piece :: pieces => (c :: piece) :: pieces

/-- The parts of a list before and after the first occurrence of `part`. -/
def splitFirst? (part : List Char) : List Char → Option (List Char × List Char)
  | [] => if part.isEmpty then some ([], []) else none
  | c :: cs =>
      if part.isPrefixOf (c :: cs) then some ([], (c :: cs).drop part.length)
      else (splitFirst? part cs).map fun r => (c :: r.1, r.2)

/-- A list without the occurrences of `part`, which are looked for from left to right; `skip`
counts the characters of the last one found that are still to be passed over. -/
def removeFrom (part : List Char) : List Char → Nat → List Char
  | [], _ => []
  | _ :: cs, skip + 1 => removeFrom part cs skip
  | c :: cs, 0 =>
      if part.isPrefixOf (c :: cs) then removeFrom part cs (part.length - 1)
      else c :: removeFrom part cs 0

/-- **`s` without the occurrences of a non-empty `part`**, which are looked for from left to
right and do not overlap. -/
def removeAll (s part : String) : String :=
  if part.isEmpty then s else String.ofList (removeFrom part.toList s.toList 0)

/-- A text with the capitals of ASCII made small and all else kept. -/
def lowerAscii (s : String) : String := String.ofList (s.toList.map Char.toLower)

end Text

end ThemeCompiler
