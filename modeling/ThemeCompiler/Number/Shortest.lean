/-
**The shortest decimal of a double.**

A double is written with the fewest digits that read back.  Of the decimals with that many digits
the nearest one is taken.  Numbers from `1e-5` up to `1e16` are written with a decimal point, the
others with an exponent.

Main definitions:

* `ThemeCompiler.Double.Interval`, `ThemeCompiler.Double.interval` — what rounds to a double;
* `ThemeCompiler.Double.shortest` — digits and a power of ten;
* `ThemeCompiler.Double.toText` — the written form.
-/

import ThemeCompiler.Number.Double

set_option relaxedAutoImplicit false
set_option autoImplicit false

namespace ThemeCompiler

namespace Double

/-! ### What reads back -/

/-- The reals between two bounds, which are counted in quarters of a unit. -/
structure Interval where
  low : Nat
  high : Nat
  closed : Bool

/-- **The reals that round to a magnitude.**  Below a power of two the doubles are closer; the
bounds belong to the even one of two neighbours. -/
def interval (n : Nat) : Interval :=
  let log := ulpLog n
  let step := Nat.pow 2 log
  let below := if 0 < log && n == Nat.pow 2 (52 + log) then step else 2 * step
  ⟨4 * n - below, 4 * n + 2 * step, n / step % 2 == 0⟩

/-- Whether an interval holds `num / den` quarters of a unit. -/
def Interval.holds (i : Interval) (num den : Nat) : Bool :=
  if i.closed then i.low * den ≤ num && num ≤ i.high * den
  else i.low * den < num && num < i.high * den

/-! ### Decimals -/

/-- A decimal as a quotient of units. -/
def ratio (digits : Nat) (exponent : Int) : Nat × Nat :=
  if exponent < 0 then (digits * one, Nat.pow 10 exponent.natAbs)
  else (digits * one * Nat.pow 10 exponent.toNat, 1)

/-- Whether a decimal reads back as a magnitude. -/
def readsBack (n digits : Nat) (exponent : Int) : Bool :=
  let (num, den) := ratio digits exponent
  (interval n).holds (4 * num) den

/-- The power of ten of the first digit of a magnitude, looked for from `exponent` downwards. -/
def leadingExponent (n : Nat) : Nat → Int → Int
  | 0, exponent => exponent
  | fuel + 1, exponent =>
      let (num, den) := ratio 1 exponent
      if num ≤ n * den then exponent else leadingExponent n fuel (exponent - 1)

/-- The neighbours of a magnitude among the multiples of a power of ten that read back, the
nearest first. -/
def neighbours (n : Nat) (exponent : Int) : List Nat :=
  let (num, den) := ratio 1 exponent
  let low := n * den / num
  let nearest := roundDiv (n * den) num
  let other := if nearest == low then low + 1 else low
  [nearest, other].filter (readsBack n · exponent)

/-- The first grid on which a decimal reads back, from a number of digits on. -/
def shortestFrom (n : Nat) (lead : Int) : Nat → Nat → Nat × Int
  | 0, _ => (n, 0)
  | fuel + 1, count =>
      let exponent := lead - (count : Int) + 1
      match neighbours n exponent with
      | digits :: _ => (digits, exponent)
      | [] => shortestFrom n lead fuel (count + 1)

/-- A decimal without zeros at its end. -/
def dropZeros : Nat → Nat → Int → Nat × Int
  | 0, digits, exponent => (digits, exponent)
  | fuel + 1, digits, exponent =>
      if digits != 0 && digits % 10 == 0 then dropZeros fuel (digits / 10) (exponent + 1)
      else (digits, exponent)

/-- **The shortest decimal that reads back**: its digits, and the power of ten of the last. -/
def shortest (n : Nat) : Nat × Int :=
  let (digits, exponent) := shortestFrom n (leadingExponent n 640 309) 17 1
  dropZeros 17 digits exponent

/-! ### Written form -/

/-- Zeros. -/
def zeros (n : Nat) : String := String.ofList (List.replicate n '0')

/-- **The text of a magnitude that is not zero.** -/
def magnitudeText (n : Nat) : String :=
  let (value, exponent) := shortest n
  let digits := toString value
  let point := (digits.length : Int) + exponent
  if 0 ≤ exponent && point ≤ 16 then digits ++ zeros exponent.toNat ++ ".0"
  else if 0 < point && point ≤ 16 then
    String.ofList (digits.toList.take point.toNat) ++ "."
      ++ String.ofList (digits.toList.drop point.toNat)
  else if -5 < point && point ≤ 0 then "0." ++ zeros point.natAbs ++ digits
  else
    let power := "e" ++ toString (point - 1)
    match digits.toList with
    | first :: more@(_ :: _) => first.toString ++ "." ++ String.ofList more ++ power
    | _ => digits ++ power

/-- **The text of a double.** -/
def toText (d : Double) : String :=
  (if d.negative then "-" else "") ++ (if d.units == 0 then "0.0" else magnitudeText d.units)

end Double

end ThemeCompiler
