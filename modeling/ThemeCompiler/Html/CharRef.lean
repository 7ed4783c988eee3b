/-
**Character references.**

An ampersand begins a reference when a number or a known name follows.  The longest name wins.
Inside an attribute value a name without its semicolon does not count when a letter, a digit or an
equals sign follows.  What is no reference leaves the ampersand as it is.

Main definitions:

* `ThemeCompiler.Html.CharRef` — the characters a reference stands for and how long it is;
* `ThemeCompiler.Html.charOfCode` — the character of a number;
* `ThemeCompiler.Html.longestName?` — the longest name at the start of a text;
* `ThemeCompiler.Html.readCharRef` — the reference after an ampersand.
-/

import ThemeCompiler.Html.References

set_option relaxedAutoImplicit false
set_option autoImplicit false

namespace ThemeCompiler

namespace Html

/-- **A reference that was read**: the characters it stands for, the number of characters after the
ampersand that belong to it, and whether it is malformed. -/
structure CharRef where
  chars : List Char
  length : Nat
  isMalformed : Bool

/-- An ampersand that begins no reference. -/
def CharRef.plain : CharRef := ⟨['&'], 0, false⟩

/-! ### Numbers -/

/-- The characters that the numbers 128 to 159 stand for, where they differ. -/
def controlReplacements : List (Nat × Nat) :=
  [(0x80, 0x20AC), (0x82, 0x201A), (0x83, 0x0192), (0x84, 0x201E), (0x85, 0x2026),
    (0x86, 0x2020), (0x87, 0x2021), (0x88, 0x02C6), (0x89, 0x2030), (0x8A, 0x0160),
    (0x8B, 0x2039), (0x8C, 0x0152), (0x8E, 0x017D), (0x91, 0x2018), (0x92, 0x2019),
    (0x93, 0x201C), (0x94, 0x201D), (0x95, 0x2022), (0x96, 0x2013), (0x97, 0x2014),
    (0x98, 0x02DC), (0x99, 0x2122), (0x9A, 0x0161), (0x9B, 0x203A), (0x9C, 0x0153),
    (0x9E, 0x017E), (0x9F, 0x0178)]

/-- **The character that a number stands for.**  Zero and what is no character stand for the
replacement character. -/
def charOfCode (code : Nat) : Char :=
  if code = 0 ∨ 0x10FFFF < code ∨ (0xD800 ≤ code ∧ code ≤ 0xDFFF) then '\uFFFD'
  else Char.ofNat ((controlReplacements.lookup code).getD code)

/-- A reference by number, whose digits follow `start` characters after the ampersand. -/
def numberRef (start : Nat) (code : Nat) (digits rest : List Char) : CharRef :=
  let closed := rest.head? == some ';'
  ⟨[charOfCode code], start + digits.length + (if closed then 1 else 0), !closed⟩

/-- The number that decimal digits write. -/
def readDecimal (digits : List Char) : Nat :=
  digits.foldl (fun n c => 10 * n + (c.toNat - '0'.toNat)) 0

/-- The reference after an ampersand and a number sign. -/
def readNumberRef (rest : List Char) : CharRef :=
  match rest with
  | [] => .plain
  | c :: cs =>
      if c == 'x' || c == 'X' then
        let digits := cs.takeWhile fun d => (hexValue? d).isSome
        if digits.isEmpty then .plain
        else numberRef 2 (readHex digits) digits (cs.drop digits.length)
      else
        let digits := rest.takeWhile Char.isDigit
        if digits.isEmpty then .plain
        else numberRef 1 (readDecimal digits) digits (rest.drop digits.length)

/-! ### Names -/

/-- The longer of two names, the first one if they are equally long. -/
def longerEntry (best : Option (List Char × List Char)) (entry : List Char × List Char) :
    Option (List Char × List Char) :=
  match best with
  | none => some entry
  | some b => if b.1.length < entry.1.length then some entry else some b

/-- **The longest name of a reference at the start of a text**, with its characters. -/
def longestName? (rest : List Char) : Option (List Char × List Char) :=
  (namedReferences.filter fun entry => entry.1.isPrefixOf rest).foldl longerEntry none

/-- The reference by name after an ampersand. -/
def readNameRef (inValue : Bool) (rest : List Char) : CharRef :=
  match longestName? rest with
  | none => .plain
  | some (name, chars) =>
      if name.getLast? == some ';' then ⟨chars, name.length, false⟩
      else if inValue && (rest.drop name.length).head?.any fun c => c == '=' || c.isAlphanum then
        .plain
      else ⟨chars, name.length, true⟩

/-- **The reference after an ampersand.** -/
def readCharRef (inValue : Bool) (rest : List Char) : CharRef :=
  match rest with
  | [] => .plain
  | c :: cs =>
      if c == '#' then readNumberRef cs
      else if c.isAlphanum then readNameRef inValue rest
      else .plain

end Html

end ThemeCompiler
