/-
**Numbers in JSON text.**

A number without a fraction and an exponent that fits into 64 bits is an integer; every other
number is a double.  Digits are collected as long as they fit into 64 bits, the others only count
for the exponent.

Main definitions:

* `ThemeCompiler.Json.Problem` — what can be wrong with JSON text;
* `ThemeCompiler.Json.NumberText`, `ThemeCompiler.Json.scanNumber` — the parts of a number;
* `ThemeCompiler.Json.Numeral`, `ThemeCompiler.Json.NumberText.value` — its value.
-/

import ThemeCompiler.Number.Double

set_option relaxedAutoImplicit false
set_option autoImplicit false

namespace ThemeCompiler

namespace Json

/-- **What can be wrong with the text of a value.** -/
inductive Problem where
  /-- The text is not JSON. -/
  | malformed
  /-- The text ends too early. -/
  | tooShort
  /-- The value is not of the expected shape. -/
  | shape
  deriving DecidableEq, Repr

/-! ### Parts -/

/-- **The parts of a number**: digits before and after the point, and the exponent. -/
structure NumberText where
  negative : Bool
  whole : List Char
  fraction : Option (List Char)
  exponent : Option (Bool × List Char)
  deriving DecidableEq, Repr

/-- The digits at the start of a text, and the rest. -/
def takeDigits : List Char → List Char × List Char
  | [] => ([], [])
  | c :: cs =>
      if c.isDigit then
        let (digits, rest) := takeDigits cs
        (c :: digits, rest)
      else ([], c :: cs)

/-- The digits at the start of a text, of which there must be one. -/
def someDigits (cs : List Char) : Except Problem (List Char × List Char) :=
  match takeDigits cs with
  | ([], []) => .error .tooShort
  | ([], _ :: _) => .error .malformed
  | found => .ok found

/-- The digits before the point: a zero stands alone. -/
def scanWhole (cs : List Char) : Except Problem (List Char × List Char) :=
  match cs with
  | '0' :: rest =>
      if rest.head?.any Char.isDigit then .error .malformed else .ok (['0'], rest)
  | _ => someDigits cs

/-- The digits after the point, if there is one. -/
def scanFraction : List Char → Except Problem (Option (List Char) × List Char)
  | '.' :: rest => (someDigits rest).map fun (digits, rest) => (some digits, rest)
  | cs => .ok (none, cs)

/-- The sign and the digits of the exponent, if there is one. -/
def scanExponent : List Char → Except Problem (Option (Bool × List Char) × List Char)
  | c :: rest =>
      if c == 'e' || c == 'E' then
        let (negative, rest) := match rest with
          | '+' :: rest => (false, rest)
          | '-' :: rest => (true, rest)
          | _ => (false, rest)
        (someDigits rest).map fun (digits, rest) => (some (negative, digits), rest)
      else .ok (none, c :: rest)
  | [] => .ok (none, [])

/-- **The number at the start of a text**, and the rest. -/
def scanNumber (cs : List Char) : Except Problem (NumberText × List Char) := do
  let (negative, cs) := match cs with
    | '-' :: rest => (true, rest)
    | _ => (false, cs)
  let (whole, cs) ← scanWhole cs
  let (fraction, cs) ← scanFraction cs
  let (exponent, cs) ← scanExponent cs
  return (⟨negative, whole, fraction, exponent⟩, cs)

/-! ### Values -/

/-- **The value of a number.** -/
inductive Numeral where
  | int (value : Int)
  | double (value : Double)
  deriving DecidableEq, Repr

/-- The value of a digit. -/
def digitValue (c : Char) : Nat := c.toNat - '0'.toNat

/-- The largest significand. -/
def maxSignificand : Nat := Nat.pow 2 64 - 1

/-- The largest magnitude of a negative integer. -/
def maxMagnitude : Nat := Nat.pow 2 63

/-- The largest exponent that is told from larger ones. -/
def maxExponent : Nat := Nat.pow 2 31 - 1

/-- Digits behind a significand as long as it stays at most `limit`, and the number of digits that
are left. -/
def collect (limit : Nat) : Nat → List Char → Nat × Nat
  | n, [] => (n, 0)
  | n, c :: cs =>
      let next := n * 10 + digitValue c
      if next ≤ limit then collect limit next cs else (n, cs.length + 1)

/-- The double with a significand and a power of ten, unless it is too large. -/
def NumberText.double (number : NumberText) (significand : Nat) (power : Int) :
    Except Problem Numeral :=
  match Double.timesPow10? significand power with
  | some units => .ok (.double ⟨number.negative, units⟩)
  | none => .error .malformed

/-- **The value of a number.**  A double that is too large is no number.  A negative integer needs
63 bits, and a negative zero is a double. -/
def NumberText.value (number : NumberText) : Except Problem Numeral :=
  let (whole, dropped) := collect maxSignificand 0 number.whole
  let fraction := number.fraction.getD []
  let (significand, left) := collect maxSignificand whole fraction
  let power : Int := (dropped : Int) - ((fraction.length - left : Nat) : Int)
  match number.exponent with
  | some (negative, digits) =>
      let (exponent, more) := collect maxExponent 0 digits
      if more == 0 then
        number.double significand (if negative then power - exponent else power + exponent)
      else if significand != 0 && !negative then .error .malformed
      else .ok (.double ⟨number.negative, 0⟩)
  | none =>
      if number.fraction.isSome || dropped != 0 then number.double significand power
      else if !number.negative then .ok (.int significand)
      else if significand == 0 || significand > maxMagnitude then number.double significand 0
      else .ok (.int (-(significand : Int)))

end Json

end ThemeCompiler
