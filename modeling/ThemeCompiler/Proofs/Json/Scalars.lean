/-
**Written strings and numbers are read back.**

The escapes of a written string are read character by character, and its closing quote is the first
one without a backslash before it.  The digits of a written integer are read up to the first
character that cannot go on a number; their value is the integer, if it fits into 64 bits.

Main definitions:

* `ThemeCompiler.Json.integerText` — the parts of a written integer;
* `ThemeCompiler.Json.EndsNumber` — a text that cannot go on a number.

Main results:

* `ThemeCompiler.Json.quoted_quote` — **a written string is read back**;
* `ThemeCompiler.Json.scanNumber_int` — a written integer is taken apart into its parts;
* `ThemeCompiler.Json.value_integerText` — **the value of these parts is the integer**.
-/

import Mathlib.Tactic.IntervalCases
import ThemeCompiler.Json.Outline
import ThemeCompiler.Json.Printer
import ThemeCompiler.Proofs.Attempts

set_option relaxedAutoImplicit false
set_option autoImplicit false

namespace ThemeCompiler

namespace Json

/-! ### Strings -/

/-- The four digits of an escaped control character. -/
theorem hexUnit_control {n : Nat} (h : n < 0x20) (rest : List Char) :
    hexUnit ('0' :: '0' :: hexDigit (n / 16) :: hexDigit (n % 16) :: rest) = .ok (n, rest) := by
  interval_cases n <;> rfl

/-- **The three ways to write a character**: as it is, as a letter behind a backslash, or as four
digits behind one. -/
theorem escapeChar_cases (c : Char) :
    (escapeChar c = [c] ∧ c ≠ '"' ∧ c ≠ '\\' ∧ ¬ c.toNat < 0x20) ∨
      (∃ letter, escapeChar c = ['\\', letter] ∧ letter ≠ 'u' ∧ shortEscape? letter = some c) ∨
      c.toNat < 0x20 ∧
        escapeChar c = ['\\', 'u', '0', '0', hexDigit (c.toNat / 16), hexDigit (c.toNat % 16)] := by
  have hletter : ∀ {special letter : Char}, escapeChar special = ['\\', letter] → letter ≠ 'u' →
      shortEscape? letter = some special → (c == special) = true →
        ∃ letter, escapeChar c = ['\\', letter] ∧ letter ≠ 'u' ∧ shortEscape? letter = some c := by
    intro special letter h h' h'' hc
    rw [eq_of_beq hc]
    exact ⟨letter, h, h', h''⟩
  by_cases h₁ : (c == '"') = true
  · exact Or.inr (Or.inl (hletter rfl (by decide) rfl h₁))
  by_cases h₂ : (c == '\\') = true
  · exact Or.inr (Or.inl (hletter rfl (by decide) rfl h₂))
  by_cases h₃ : (c == '\n') = true
  · exact Or.inr (Or.inl (hletter rfl (by decide) rfl h₃))
  by_cases h₄ : (c == '\r') = true
  · exact Or.inr (Or.inl (hletter rfl (by decide) rfl h₄))
  by_cases h₅ : (c == '\t') = true
  · exact Or.inr (Or.inl (hletter rfl (by decide) rfl h₅))
  by_cases h₆ : (c == '\x08') = true
  · exact Or.inr (Or.inl (hletter rfl (by decide) rfl h₆))
  by_cases h₇ : (c == '\x0c') = true
  · exact Or.inr (Or.inl (hletter rfl (by decide) rfl h₇))
  rw [escapeChar, if_neg h₁, if_neg h₂, if_neg h₃, if_neg h₄, if_neg h₅, if_neg h₆, if_neg h₇]
  by_cases hcontrol : c.toNat < 0x20
  · exact Or.inr (Or.inr ⟨hcontrol, if_pos hcontrol⟩)
  · exact Or.inl ⟨if_neg hcontrol, by simpa using h₁, by simpa using h₂, hcontrol⟩

/-- The letter behind a backslash. -/
theorem readEscape_letter {letter c : Char} (hu : letter ≠ 'u') (h : shortEscape? letter = some c)
    (rest : List Char) : readEscape (letter :: rest) = .ok (c, rest) := by
  rw [readEscape]
  · rw [h]
  · exact hu

theorem skipEscape_letter {letter c : Char} (hu : letter ≠ 'u') (h : shortEscape? letter = some c)
    (rest : List Char) : skipEscape (letter :: rest) = .ok rest := by
  rw [skipEscape]
  · rw [h]
    rfl
  · exact hu

/-- The four digits behind a backslash. -/
theorem readEscape_control {c : Char} (h : c.toNat < 0x20) (rest : List Char) :
    readEscape ('u' :: '0' :: '0' :: hexDigit (c.toNat / 16) :: hexDigit (c.toNat % 16) :: rest) =
      .ok (c, rest) := by
  have hlow : isLowSurrogate c.toNat = false := by simp [isLowSurrogate]; omega
  have hhigh : isHighSurrogate c.toNat = false := by simp [isHighSurrogate]; omega
  rw [readEscape, hexUnit_control h]
  change (if isLowSurrogate c.toNat then _ else _) = _
  rw [if_neg (by simp [hlow]), if_neg (by simp [hhigh]), Char.ofNat_toNat]
  rfl

/-- **A written character is read back.** -/
theorem readString_escapeChar (fuel : Nat) (c : Char) (cs : List Char) :
    readString (fuel + 1) (escapeChar c ++ cs) =
      (readString fuel cs).map fun found => (c :: found.1, found.2) := by
  have hread : (readString fuel cs >>= fun found => pure (c :: found.1, found.2)) =
      (readString fuel cs).map fun found => (c :: found.1, found.2) := by
    cases readString fuel cs <;> rfl
  rcases escapeChar_cases c with ⟨h, hquote, hback, hcontrol⟩ | ⟨letter, h, hu, hletter⟩ |
    ⟨hcontrol, h⟩
  · rw [h, List.singleton_append, readString, if_neg (by simpa using hquote),
      if_neg (by simpa using hback), if_neg hcontrol]
    cases readString fuel cs <;> rfl
  · rw [h, List.cons_append, List.singleton_append, readString, if_neg (by decide),
      if_pos (by decide), readEscape_letter hu hletter]
    exact hread
  · rw [h]
    simp only [List.cons_append, List.nil_append]
    rw [readString, if_neg (by decide), if_pos (by decide), readEscape_control hcontrol]
    exact hread

/-- A written character is passed over. -/
theorem skipString_escapeChar (fuel : Nat) (c : Char) (cs : List Char) :
    skipString (fuel + 1) (escapeChar c ++ cs) = skipString fuel cs := by
  rcases escapeChar_cases c with ⟨h, hquote, hback, hcontrol⟩ | ⟨letter, h, hu, hletter⟩ |
    ⟨hcontrol, h⟩
  · rw [h, List.singleton_append, skipString, if_neg (by simpa using hquote),
      if_neg (by simpa using hback), if_neg hcontrol]
  · rw [h, List.cons_append, List.singleton_append, skipString, if_neg (by decide),
      if_pos (by decide), skipEscape_letter hu hletter]
    rfl
  · rw [h]
    simp only [List.cons_append, List.nil_append]
    rw [skipString, if_neg (by decide), if_pos (by decide), skipEscape, hexUnit_control hcontrol]
    rfl

/-- **Written characters are read back up to the closing quote.** -/
theorem readString_written (s : List Char) {fuel : Nat} (h : s.length < fuel) (rest : List Char) :
    readString fuel (s.flatMap escapeChar ++ '"' :: rest) = .ok (s, rest) ∧
      skipString fuel (s.flatMap escapeChar ++ '"' :: rest) = .ok rest := by
  induction s generalizing fuel with
  | nil =>
      obtain ⟨fuel, rfl⟩ := Nat.exists_eq_add_one.2 h
      exact ⟨rfl, rfl⟩
  | cons c s ih =>
      obtain ⟨fuel, rfl⟩ := Nat.exists_eq_add_one.2 (Nat.zero_lt_of_lt h)
      obtain ⟨hread, hskip⟩ := ih (Nat.lt_of_succ_lt_succ h)
      rw [List.flatMap_cons, List.append_assoc, readString_escapeChar, skipString_escapeChar, hread]
      exact ⟨rfl, hskip⟩

theorem toList_quote (s : String) :
    (quote s).toList = '"' :: s.toList.flatMap escapeChar ++ ['"'] := String.toList_ofList

/-- A character takes at least one. -/
theorem length_le_flatMap_escapeChar (s : List Char) :
    s.length ≤ (s.flatMap escapeChar).length := by
  induction s with
  | nil => exact Nat.le_refl _
  | cons c s ih =>
      have hpos : 0 < (escapeChar c).length := by
        rcases escapeChar_cases c with ⟨h, _⟩ | ⟨_, h, _⟩ | ⟨_, h⟩ <;> rw [h] <;> simp
      rw [List.flatMap_cons, List.length_append, List.length_cons]
      omega

/-- **A written string is read back.** -/
theorem quoted_quote (s : String) {fuel : Nat} (h : (quote s).toList.length ≤ fuel)
    (rest : List Char) : quoted fuel ((quote s).toList.tail ++ rest) =
      (⟨.ok s, none⟩, some rest) := by
  have hlength := length_le_flatMap_escapeChar s.toList
  rw [toList_quote, List.cons_append, List.length_cons, List.length_append] at h
  have hfuel : s.toList.length < fuel := by
    rw [List.length_singleton] at h
    omega
  obtain ⟨hread, hskip⟩ := readString_written s.toList hfuel rest
  rw [toList_quote, List.cons_append, List.tail_cons, List.append_assoc, List.singleton_append,
    quoted, hread, hskip]
  simp [Except.map]

/-! ### Numbers -/

/-- **The parts of a written integer.** -/
def integerText (n : Int) : NumberText := ⟨decide (n < 0), Nat.toDigits 10 n.natAbs, none, none⟩

/-- **A text that cannot go on a number.** -/
def EndsNumber (rest : List Char) : Prop :=
  ∀ c ∈ rest.head?, c.isDigit = false ∧ c ≠ '.' ∧ c ≠ 'e' ∧ c ≠ 'E'

theorem toList_toString_int (n : Int) : (toString n).toList =
    (if n < 0 then ['-'] else []) ++ Nat.toDigits 10 n.natAbs := by
  cases n with
  | ofNat m =>
      rw [if_neg (by simp)]
      exact Nat.toList_repr
  | negSucc m =>
      rw [if_pos (by simp [Int.negSucc_lt_zero])]
      change ("-" ++ (m + 1).repr).toList = _
      rw [String.toList_append, Nat.toList_repr]
      rfl

theorem isDigit_of_mem {n : Nat} {c : Char} (h : c ∈ Nat.toDigits 10 n) : c.isDigit = true :=
  Nat.isDigit_of_mem_toDigits (by decide) (by decide) h

/-- A written integer starts with a digit or with a sign. -/
theorem exists_toString_int_cons (n : Int) :
    ∃ c cs, (toString n).toList = c :: cs ∧ (c = '-' ∨ c.isDigit = true) := by
  rw [toList_toString_int]
  split
  · exact ⟨'-', _, rfl, Or.inl rfl⟩
  · obtain ⟨c, cs, hcs⟩ := List.exists_cons_of_ne_nil
      (Nat.toDigits_ne_nil (b := 10) (n := n.natAbs))
    exact ⟨c, cs, hcs, Or.inr (isDigit_of_mem (hcs ▸ List.mem_cons_self))⟩

/-- Digits do not start with a zero, unless there is nothing else. -/
theorem head?_toDigits {n : Nat} (h : n ≠ 0) : (Nat.toDigits 10 n).head? ≠ some '0' := by
  induction n using Nat.strong_induction_on with
  | _ n ih =>
      by_cases hlt : n < 10
      · rw [Nat.toDigits_of_lt_base hlt]
        interval_cases n <;> first | exact absurd rfl h | decide
      · obtain ⟨c, cs, hcs⟩ := List.exists_cons_of_ne_nil
          (Nat.toDigits_ne_nil (b := 10) (n := n / 10))
        have hfirst := ih (n / 10) (by omega) (by omega)
        rw [hcs] at hfirst
        rw [Nat.toDigits_of_base_le (by decide) (by omega), hcs]
        exact hfirst

theorem takeDigits_append {digits rest : List Char} (h : ∀ c ∈ digits, c.isDigit = true)
    (hrest : ∀ c ∈ rest.head?, c.isDigit = false) :
    takeDigits (digits ++ rest) = (digits, rest) := by
  induction digits with
  | nil =>
      cases rest with
      | nil => rfl
      | cons c rest => rw [List.nil_append, takeDigits, if_neg (by simp [hrest c rfl])]
  | cons c digits ih =>
      rw [List.cons_append, takeDigits, if_pos (h c List.mem_cons_self),
        ih fun d hd => h d (List.mem_cons_of_mem c hd)]

/-- The digits of a number are read back. -/
theorem scanWhole_toDigits (n : Nat) {rest : List Char} (hrest : EndsNumber rest) :
    scanWhole (Nat.toDigits 10 n ++ rest) = .ok (Nat.toDigits 10 n, rest) := by
  have hdigits := takeDigits_append (fun c hc => isDigit_of_mem (n := n) hc) fun c hc =>
    (hrest c hc).1
  by_cases hzero : n = 0
  · subst hzero
    rw [Nat.toDigits_zero, List.singleton_append, scanWhole, if_neg]
    rw [Option.any_eq_true]
    rintro ⟨c, hc, hdigit⟩
    rw [(hrest c hc).1] at hdigit
    exact absurd hdigit (by simp)
  · obtain ⟨c, cs, hcs⟩ := List.exists_cons_of_ne_nil (Nat.toDigits_ne_nil (b := 10) (n := n))
    have hne : c ≠ '0' := fun h => head?_toDigits hzero (by rw [hcs, h]; rfl)
    rw [scanWhole]
    · rw [someDigits, hdigits, hcs]
    · rw [hcs]
      rintro rest' h
      exact hne (List.cons.inj h).1

theorem scanFraction_ends {rest : List Char} (hrest : EndsNumber rest) :
    scanFraction rest = .ok (none, rest) := by
  cases rest with
  | nil => rfl
  | cons c rest =>
      rw [scanFraction]
      rintro rest' h
      exact (hrest c rfl).2.1 (List.cons.inj h).1

theorem scanExponent_ends {rest : List Char} (hrest : EndsNumber rest) :
    scanExponent rest = .ok (none, rest) := by
  cases rest with
  | nil => rfl
  | cons c rest =>
      have hletter : (c == 'e' || c == 'E') = false := by simpa using (hrest c rfl).2.2
      simp only [scanExponent, hletter]
      rfl

/-- **A written integer is taken apart into its parts.** -/
theorem scanNumber_int (n : Int) {rest : List Char} (hrest : EndsNumber rest) :
    scanNumber ((toString n).toList ++ rest) = .ok (integerText n, rest) := by
  have hparts : ∀ negative, (scanWhole (Nat.toDigits 10 n.natAbs ++ rest) >>= fun whole =>
      scanFraction whole.2 >>= fun fraction => scanExponent fraction.2 >>= fun exponent =>
        pure ((⟨negative, whole.1, fraction.1, exponent.1⟩ : NumberText), exponent.2)) =
      Except.ok (⟨negative, Nat.toDigits 10 n.natAbs, none, none⟩, rest) := by
    intro negative
    rw [scanWhole_toDigits _ hrest]
    change (scanFraction rest >>= _) = _
    rw [scanFraction_ends hrest]
    change (scanExponent rest >>= _) = _
    rw [scanExponent_ends hrest]
    rfl
  rw [toList_toString_int, integerText]
  by_cases hneg : n < 0
  · rw [if_pos hneg, decide_eq_true hneg, List.singleton_append, List.cons_append, scanNumber]
    exact hparts true
  · rw [if_neg hneg, decide_eq_false hneg, List.nil_append, scanNumber]
    · exact hparts false
    · intro cs hcs
      obtain ⟨c, digits, hdigits⟩ := List.exists_cons_of_ne_nil
        (Nat.toDigits_ne_nil (b := 10) (n := n.natAbs))
      have hdigit := isDigit_of_mem (hdigits ▸ List.mem_cons_self : c ∈ Nat.toDigits 10 n.natAbs)
      rw [hdigits, List.cons_append] at hcs
      rw [(List.cons.inj hcs).1] at hdigit
      exact absurd hdigit (by decide)

/-- Digits behind a number make it no smaller. -/
theorem le_ofDigitChars (digits : List Char) (n : Nat) : n ≤ Nat.ofDigitChars 10 digits n := by
  induction digits generalizing n with
  | nil => exact Nat.le_refl n
  | cons c digits ih =>
      rw [Nat.ofDigitChars_cons]
      exact (by omega : n ≤ 10 * n + (c.toNat - '0'.toNat)).trans (ih _)

/-- **Digits are collected to their value**, if it is within the limit. -/
theorem collect_eq {limit : Nat} (digits : List Char) (n : Nat)
    (h : Nat.ofDigitChars 10 digits n ≤ limit) :
    collect limit n digits = (Nat.ofDigitChars 10 digits n, 0) := by
  induction digits generalizing n with
  | nil => rfl
  | cons c digits ih =>
      rw [Nat.ofDigitChars_cons, Nat.mul_comm] at h ⊢
      have hnext : n * 10 + digitValue c ≤ limit := (le_ofDigitChars digits _).trans h
      rw [collect, if_pos hnext]
      exact ih _ h

/-- **The value of the parts of an integer is the integer**, if it fits into 64 bits. -/
theorem value_integerText {n : Int} (hlow : -(maxMagnitude : Int) ≤ n)
    (hhigh : n ≤ (maxSignificand : Int)) : (integerText n).value = .ok (.int n) := by
  have hlimit : maxMagnitude ≤ maxSignificand := by decide
  have hcollect : collect maxSignificand 0 (Nat.toDigits 10 n.natAbs) = (n.natAbs, 0) := by
    rw [collect_eq, Nat.ofDigitChars_ten_toDigits]
    rw [Nat.ofDigitChars_ten_toDigits]
    omega
  have hnone : ∀ k, collect maxSignificand k [] = (k, 0) := fun _ => rfl
  simp only [NumberText.value, integerText, hcollect, Option.getD_none, hnone]
  by_cases hneg : n < 0
  · have hzero : ¬ (n.natAbs == 0 || n.natAbs > maxMagnitude) = true := by
      rw [Bool.or_eq_true, beq_iff_eq, decide_eq_true_eq]
      omega
    rw [decide_eq_true hneg, if_neg (by simp), if_neg (by simp), if_neg hzero]
    exact congrArg (Except.ok ∘ Numeral.int) (by omega : -(n.natAbs : Int) = n)
  · rw [decide_eq_false hneg, if_neg (by simp), if_pos (by simp)]
    exact congrArg (Except.ok ∘ Numeral.int) (by omega : (n.natAbs : Int) = n)

end Json

end ThemeCompiler
