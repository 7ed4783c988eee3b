/-
**Doubles.**

A finite double is a sign and a whole number of units, the unit being the smallest positive double
`2 ^ -1074`.  Rounding is to the nearest double, and of two nearest to the even one.

Main definitions:

* `ThemeCompiler.Double` — a finite double;
* `ThemeCompiler.Double.ulpLog`, `ThemeCompiler.Double.roundUnits` — the grid of doubles, and
  rounding to it;
* `ThemeCompiler.Double.ofNat`, `ThemeCompiler.Double.timesPow10?` — a natural number, and its
  product with a power of ten.
-/

set_option relaxedAutoImplicit false
set_option autoImplicit false

namespace ThemeCompiler

/-- **A finite double**: `units` times `2 ^ -1074`, with a sign also for zero. -/
structure Double where
  negative : Bool
  units : Nat
  deriving DecidableEq, Repr

namespace Double

/-- The binary logarithm of the number of units in one. -/
def unitLog : Nat := 1074

/-- The units in one. -/
def one : Nat := Nat.pow 2 unitLog

/-- The units of the smallest power of two that is too large for a double. -/
def limit : Nat := Nat.pow 2 (1024 + unitLog)

/-- The binary logarithm of the distance between doubles near `n` units. -/
def ulpLog (n : Nat) : Nat := n.log2 - 52

/-- A quotient rounded to the nearest number, of two nearest to the even one. -/
def roundDiv (num den : Nat) : Nat :=
  let q := num / den
  let twice := 2 * (num % den)
  if twice > den || (twice == den && q % 2 == 1) then q + 1 else q

/-- **A quotient of units rounded to the grid of doubles.** -/
def roundUnits (num den : Nat) : Nat :=
  let step := Nat.pow 2 (ulpLog (num / den))
  roundDiv num (den * step) * step

/-- The magnitude of the double nearest to a natural number. -/
def ofNat (n : Nat) : Nat := roundUnits (n * one) 1

/-- The magnitude of the double nearest to a power of ten. -/
def pow10 (n : Nat) : Nat := ofNat (Nat.pow 10 n)

/-- The product of two magnitudes, unless it is too large. -/
def mul? (a b : Nat) : Option Nat :=
  let product := roundUnits (a * b) one
  if product < limit then some product else none

/-- The quotient of two magnitudes. -/
def div (a b : Nat) : Nat := roundUnits (a * one) b

/-- The largest exponent of ten that a double holds. -/
def maxPow10 : Nat := 308

/-- A magnitude divided by a power of ten, in steps of the largest one; at most `fuel` steps. -/
def divPow10 : Nat → Nat → Nat → Nat
  | 0, a, _ => a
  | fuel + 1, a, n =>
      if n ≤ maxPow10 then div a (pow10 n)
      else if a == 0 then a
      else divPow10 fuel (div a (pow10 maxPow10)) (n - maxPow10)

/-- **A natural number times a power of ten**, unless it is too large: the number is rounded, and
then its product or quotient with the rounded power. -/
def timesPow10? (n : Nat) (exponent : Int) : Option Nat :=
  let a := ofNat n
  if exponent < 0 then
    let e := exponent.natAbs
    some (divPow10 (e / maxPow10 + 1) a e)
  else if exponent.toNat ≤ maxPow10 then mul? a (pow10 exponent.toNat)
  else if a == 0 then some a
  else none

end Double

end ThemeCompiler
