/-
**Integers of a text fit into 64 bits.**

Digits are collected as long as they stay within a limit, so no number of a text is an integer
beyond the limits, and no number in the outline of a text is.

Main definitions:

* `ThemeCompiler.Json.InRange` — an integer of 64 bits, with a sign or without one;
* `ThemeCompiler.Json.Outline.Bounded` — all integers of an outline are in range.

Main results:

* `ThemeCompiler.Json.inRange_of_value` — **the integer that a number stands for is in range**;
* `ThemeCompiler.Json.bounded_outline` — **so are those of the outline of a text**.
-/

import ThemeCompiler.Json.Outline
import ThemeCompiler.Proofs.Attempts

set_option relaxedAutoImplicit false
set_option autoImplicit false

namespace ThemeCompiler

namespace Json

/-! ### Numbers -/

/-- **An integer of 64 bits**, with a sign or without one. -/
def InRange (n : Int) : Prop := -(maxMagnitude : Int) ≤ n ∧ n ≤ (maxSignificand : Int)

/-- What is collected stays within the limit. -/
theorem collect_le {limit : Nat} (digits : List Char) (n : Nat) (h : n ≤ limit) :
    (collect limit n digits).1 ≤ limit := by
  induction digits generalizing n with
  | nil => exact h
  | cons c digits ih =>
      rw [collect]
      split
      · next hnext => exact ih _ hnext
      · exact h

theorem double_ne_int {number : NumberText} {significand : Nat} {power n : Int} :
    number.double significand power ≠ .ok (.int n) := by
  rw [NumberText.double]
  cases Double.timesPow10? significand power <;> simp

/-- **The integer that a number stands for is in range.** -/
theorem inRange_of_value {number : NumberText} {n : Int} (h : number.value = .ok (.int n)) :
    InRange n := by
  have hlimit : maxMagnitude ≤ maxSignificand := by decide
  have hwhole := collect_le number.whole 0 (Nat.zero_le maxSignificand)
  have hle := collect_le (number.fraction.getD []) _ hwhole
  simp only [NumberText.value] at h
  split at h
  · -- with an exponent there is no integer
    split at h
    · exact absurd h double_ne_int
    split at h <;> simp at h
  · split at h
    · exact absurd h double_ne_int
    split at h
    · simp only [Except.ok.injEq, Numeral.int.injEq] at h
      rw [InRange]
      omega
    split at h
    · exact absurd h double_ne_int
    · next hbig =>
        simp only [Except.ok.injEq, Numeral.int.injEq] at h
        rw [Bool.or_eq_true, decide_eq_true_eq, not_or] at hbig
        rw [InRange]
        omega

/-! ### Outlines -/

mutual

/-- **All integers of an outline are in range.** -/
def Outline.Bounded : Outline → Prop
  | .number value _ => ∀ n, value = .ok (.int n) → InRange n
  | .array items _ => BoundedItems items
  | .object members _ => BoundedMembers members
  | _ => True

/-- All integers of some outlines are in range. -/
def BoundedItems : List Outline → Prop
  | [] => True
  | item :: rest => item.Bounded ∧ BoundedItems rest

/-- All integers of the values of some members are in range. -/
def BoundedMembers : List (Quoted × Outline) → Prop
  | [] => True
  | (_, value) :: rest => value.Bounded ∧ BoundedMembers rest

end

theorem bounded_word {text : String} {lead : Lead} {value : Outline} (h : value.Bounded)
    (cs : List Char) : (word text lead value cs).1.Bounded := by
  rw [word]
  cases expectWord text.toList cs with
  | ok rest => exact h
  | error problem => trivial

theorem bounded_number (cs : List Char) : (number cs).1.Bounded := by
  rw [number]
  cases scanNumber cs with
  | ok found => exact fun n h => inRange_of_value h
  | error problem => exact fun n h => nomatch h

theorem bounded_scalar (fuel : Nat) (cs : List Char) : (scalar fuel cs).1.Bounded := by
  cases cs with
  | nil => trivial
  | cons c rest =>
      rw [scalar]
      split
      · trivial
      split
      · exact bounded_number _
      split
      · exact bounded_word (by trivial) _
      split
      · exact bounded_word (by trivial) _
      split
      · exact bounded_word (by trivial) _
      · trivial

/-- The outlines that the reader finds, by induction on its steps. -/
private theorem bounded_step : ∀ fuel : Nat,
    (∀ cs, (outlineValue fuel cs).1.Bounded) ∧
      (∀ first cs, BoundedItems (outlineItems fuel first cs).1) ∧
      ∀ first cs, BoundedMembers (outlineMembers fuel first cs).1 := by
  intro fuel
  induction fuel with
  | zero => exact ⟨fun _ => trivial, fun _ _ => trivial, fun _ _ => trivial⟩
  | succ fuel ih =>
      obtain ⟨hvalue, hitems, hmembers⟩ := ih
      refine ⟨fun cs => ?_, fun first cs => ?_, fun first cs => ?_⟩
      · rw [outlineValue]
        split
        · exact hitems true _
        · exact hmembers true _
        · exact bounded_scalar fuel _
      · rw [outlineItems]
        split
        · trivial
        · next cs' _ =>
            have hfirst := hvalue cs'
            split
            · next item hitem =>
                rw [hitem] at hfirst
                exact ⟨hfirst, trivial⟩
            · next item rest hitem =>
                rw [hitem] at hfirst
                exact ⟨hfirst, hitems false rest⟩
      · rw [outlineMembers]
        split
        · trivial
        · split
          · exact ⟨trivial, trivial⟩
          · split
            · exact ⟨trivial, trivial⟩
            · next rest _ =>
                have hfirst := hvalue rest
                split
                · next value hfound =>
                    rw [hfound] at hfirst
                    exact ⟨hfirst, trivial⟩
                · next value more hfound =>
                    rw [hfound] at hfirst
                    exact ⟨hfirst, hmembers false more⟩
        · trivial

/-- **All integers of the outline of a text are in range.** -/
theorem bounded_outline (cs : List Char) : (outline cs).1.Bounded :=
  (bounded_step _).1 cs

end Json

end ThemeCompiler
