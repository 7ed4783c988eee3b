/-
**The outline of JSON text.**

A text is first taken apart as far as it goes.  Where it breaks off the outline holds the problem
instead of a value, so that a reader, who walks the outline from left to right, meets what is wrong
with the text and what is wrong with its shape in the order in which they are written.

A string or a number can be wrong only for the reader who needs its value: a value that is left
out may hold half a surrogate pair or a number of any size.

Main definitions:

* `ThemeCompiler.Json.Quoted` — a string with what is wrong with it;
* `ThemeCompiler.Json.Ending` — how an array or an object ends;
* `ThemeCompiler.Json.Outline` — the outline of a value;
* `ThemeCompiler.Json.outline` — the outline of a text.
-/

import ThemeCompiler.Json.Numeral

set_option relaxedAutoImplicit false
set_option autoImplicit false

namespace ThemeCompiler

namespace Json

/-! ### Strings -/

/-- **A string in a text**: its value, and what is wrong with it even if the value is left out. -/
structure Quoted where
  value : Except Problem String
  skipped : Option Problem

/-- The value of a hexadecimal digit. -/
def hexValue? (c : Char) : Option Nat :=
  if c.isDigit then some (c.toNat - '0'.toNat)
  else if 'a' ≤ c && c ≤ 'f' then some (c.toNat - 'a'.toNat + 10)
  else if 'A' ≤ c && c ≤ 'F' then some (c.toNat - 'A'.toNat + 10)
  else none

/-- The number of bytes of a text. -/
def byteCount : List Char → Nat
  | [] => 0
  | c :: cs => c.utf8Size + byteCount cs

/-- The code unit that four hexadecimal digits name, and the rest.  A text of fewer than four bytes
ends too early. -/
def hexUnit : List Char → Except Problem (Nat × List Char)
  | a :: b :: c :: d :: rest =>
      match hexValue? a, hexValue? b, hexValue? c, hexValue? d with
      | some a, some b, some c, some d => .ok (((a * 16 + b) * 16 + c) * 16 + d, rest)
      | _, _, _, _ => .error .malformed
  | cs => .error (if byteCount cs < 4 then .tooShort else .malformed)

/-- Whether a code unit is the first half of a surrogate pair. -/
def isHighSurrogate (unit : Nat) : Bool := 0xD800 ≤ unit && unit ≤ 0xDBFF

/-- Whether a code unit is the second half of a surrogate pair. -/
def isLowSurrogate (unit : Nat) : Bool := 0xDC00 ≤ unit && unit ≤ 0xDFFF

/-- The character that a single letter behind a backslash names. -/
def shortEscape? : Char → Option Char
  | '"' => some '"'
  | '\\' => some '\\'
  | '/' => some '/'
  | 'b' => some '\x08'
  | 'f' => some '\x0c'
  | 'n' => some '\n'
  | 'r' => some '\r'
  | 't' => some '\t'
  | _ => none

/-- The second half of a surrogate pair, as an escape. -/
def secondHalf : List Char → Except Problem (Nat × List Char)
  | [] => .error .tooShort
  | '\\' :: [] => .error .tooShort
  | '\\' :: 'u' :: rest => hexUnit rest
  | _ => .error .malformed

/-- **The character behind a backslash.** -/
def readEscape : List Char → Except Problem (Char × List Char)
  | [] => .error .tooShort
  | 'u' :: rest => do
      let (unit, rest) ← hexUnit rest
      if isLowSurrogate unit then .error .malformed
      else if isHighSurrogate unit then do
        let (second, rest) ← secondHalf rest
        if isLowSurrogate second then
          return (Char.ofNat ((unit - 0xD800) * 0x400 + (second - 0xDC00) + 0x10000), rest)
        else .error .malformed
      else return (Char.ofNat unit, rest)
  | c :: rest =>
      match shortEscape? c with
      | some c => .ok (c, rest)
      | none => .error .malformed

/-- The characters up to the closing quote, and the rest. -/
def readString : Nat → List Char → Except Problem (List Char × List Char)
  | 0, _ => .error .tooShort
  | _ + 1, [] => .error .tooShort
  | fuel + 1, c :: rest =>
      if c == '"' then .ok ([], rest)
      else if c == '\\' then do
        let (c, rest) ← readEscape rest
        let (cs, rest) ← readString fuel rest
        return (c :: cs, rest)
      else if c.toNat < 0x20 then .error .malformed
      else do
        let (cs, rest) ← readString fuel rest
        return (c :: cs, rest)

/-- What follows the escape behind a backslash whose value is left out. -/
def skipEscape : List Char → Except Problem (List Char)
  | [] => .error .tooShort
  | 'u' :: rest => (hexUnit rest).map (·.2)
  | c :: rest => if (shortEscape? c).isSome then .ok rest else .error .malformed

/-- What follows the closing quote of a string whose value is left out. -/
def skipString : Nat → List Char → Except Problem (List Char)
  | 0, _ => .error .tooShort
  | _ + 1, [] => .error .tooShort
  | fuel + 1, c :: rest =>
      if c == '"' then .ok rest
      else if c == '\\' then do skipString fuel (← skipEscape rest)
      else if c.toNat < 0x20 then .error .malformed
      else skipString fuel rest

/-- **The string behind an opening quote**, and what follows it if it ends.  One step for every
character, and one for the end of the text, suffice. -/
def quoted (fuel : Nat) (cs : List Char) : Quoted × Option (List Char) :=
  let value := (readString fuel cs).map fun (text, _) => String.ofList text
  match skipString fuel cs with
  | .ok rest => (⟨value, none⟩, some rest)
  | .error problem => (⟨value, some problem⟩, none)

/-! ### Outlines -/

/-- **How an array or an object ends.** -/
inductive Ending where
  /-- With its bracket. -/
  | closed
  /-- With neither a comma nor its bracket. -/
  | unclosed (problem : Problem)
  /-- With a comma and no item behind it. -/
  | dangling (problem : Problem)
  /-- With a first key that is no string, which this problem rules out as a name. -/
  | strayKey (problem : Problem)
  deriving DecidableEq, Repr

/-- What is there of a value that breaks off at once. -/
inductive Lead where
  /-- Nothing. -/
  | nothing
  /-- The start of the word for no value. -/
  | null
  /-- Something else. -/
  | other
  deriving DecidableEq, Repr

/-- **The outline of a value.** -/
inductive Outline where
  | null
  | bool (value : Bool)
  | number (value : Except Problem Numeral) (skipped : Option Problem)
  | string (text : Quoted)
  | array (items : List Outline) (ending : Ending)
  | object (members : List (Quoted × Outline)) (ending : Ending)
  | broken (lead : Lead) (problem : Problem)

/-- Whether a character may stand between the parts of a text. -/
def isGap (c : Char) : Bool := c == ' ' || c == '\n' || c == '\t' || c == '\r'

/-- A text from its first part on. -/
def dropGap (cs : List Char) : List Char := cs.dropWhile isGap

/-- What follows a word, which is spelt out at the start of a text. -/
def expectWord : List Char → List Char → Except Problem (List Char)
  | [], cs => .ok cs
  | _ :: _, [] => .error .tooShort
  | w :: word, c :: cs => if w == c then expectWord word cs else .error .malformed

/-- A value that is one word. -/
def word (text : String) (lead : Lead) (value : Outline) (cs : List Char) :
    Outline × Option (List Char) :=
  match expectWord text.toList cs with
  | .ok rest => (value, some rest)
  | .error problem => (.broken lead problem, none)

/-- A value that is a number. -/
def number (cs : List Char) : Outline × Option (List Char) :=
  match scanNumber cs with
  | .ok (text, rest) => (.number text.value none, some rest)
  | .error problem => (.number (.error problem) (some .malformed), none)

/-- A value that holds no others. -/
def scalar (fuel : Nat) (cs : List Char) : Outline × Option (List Char) :=
  match cs with
  | [] => (.broken .nothing .tooShort, none)
  | c :: rest =>
      if c == '"' then
        let (text, rest) := quoted fuel rest
        (.string text, rest)
      else if c == '-' || c.isDigit then number cs
      else if c == 'n' then word "null" .null .null cs
      else if c == 't' then word "true" .other (.bool true) cs
      else if c == 'f' then word "false" .other (.bool false) cs
      else (.broken .other .malformed, none)

/-- **What rules out a value that stands where a name is expected.** -/
def Outline.notName : Outline → Problem
  | .number (.error problem) _ => problem
  | .broken _ problem => problem
  | _ => .shape

/-- What follows an item: the next item, or the end. -/
def nextItem (bracket : Char) (first : Bool) (cs : List Char) :
    Except (Ending × Option (List Char)) (List Char) :=
  match dropGap cs with
  | [] => .error (.unclosed .tooShort, none)
  | c :: rest =>
      if c == bracket then .error (.closed, some rest)
      else if first then .ok (c :: rest)
      else if c == ',' then
        match dropGap rest with
        | [] => .error (.dangling .tooShort, none)
        | d :: rest =>
            if d == bracket then .error (.dangling .malformed, none) else .ok (d :: rest)
      else .error (.unclosed .malformed, none)

/-- What follows a key: its value, or the problem that there is none. -/
def afterKey (cs : List Char) : Except Problem (List Char) :=
  match dropGap cs with
  | [] => .error .tooShort
  | c :: rest => if c == ':' then .ok rest else .error .malformed

/-- How an object ends at a key that is no string. -/
def strayKey (fuel : Nat) (first : Bool) (cs : List Char) : Ending :=
  if !first then .dangling .malformed
  else
    match cs with
    | '[' :: _ | '\x7b' :: _ => .strayKey .shape
    | _ => .strayKey (scalar fuel cs).1.notName

mutual

/-- The value at the start of a text, and what follows it if it ends. -/
def outlineValue : Nat → List Char → Outline × Option (List Char)
  | 0, _ => (.broken .nothing .tooShort, none)
  | fuel + 1, cs =>
      match dropGap cs with
      | '[' :: rest =>
          let (items, ending, rest) := outlineItems fuel true rest
          (.array items ending, rest)
      | '\x7b' :: rest =>
          let (members, ending, rest) := outlineMembers fuel true rest
          (.object members ending, rest)
      | cs => scalar fuel cs

/-- The items of an array from some item on. -/
def outlineItems : Nat → Bool → List Char → List Outline × Ending × Option (List Char)
  | 0, _, _ => ([], .unclosed .tooShort, none)
  | fuel + 1, first, cs =>
      match nextItem ']' first cs with
      | .error (ending, rest) => ([], ending, rest)
      | .ok cs =>
          match outlineValue fuel cs with
          | (item, none) => ([item], .closed, none)
          | (item, some rest) =>
              let (items, ending, rest) := outlineItems fuel false rest
              (item :: items, ending, rest)

/-- The members of an object from some member on. -/
def outlineMembers : Nat → Bool → List Char → List (Quoted × Outline) × Ending × Option (List Char)
  | 0, _, _ => ([], .unclosed .tooShort, none)
  | fuel + 1, first, cs =>
      match nextItem '\x7d' first cs with
      | .error (ending, rest) => ([], ending, rest)
      | .ok ('"' :: cs) =>
          match quoted fuel cs with
          | (key, none) => ([(key, .broken .nothing .tooShort)], .closed, none)
          | (key, some rest) =>
              match afterKey rest with
              | .error problem => ([(key, .broken .nothing problem)], .closed, none)
              | .ok rest =>
                  match outlineValue fuel rest with
                  | (value, none) => ([(key, value)], .closed, none)
                  | (value, some rest) =>
                      let (members, ending, rest) := outlineMembers fuel false rest
                      ((key, value) :: members, ending, rest)
      | .ok cs => ([], strayKey fuel first cs, none)

end

/-- **The outline of the value at the start of a text**, and what follows it if it ends.  Two
steps for every character suffice. -/
def outline (cs : List Char) : Outline × Option (List Char) := outlineValue (2 * cs.length + 2) cs

end Json

end ThemeCompiler
