/-
**What removal leaves, and what trimming does.**

The occurrences of a marker are removed in one walk from left to right.  What stood before a removed
occurrence then meets what stood behind it, and the two can make up the marker again: a marker of
two characters is left exactly where its first character, one or more whole markers and its second
character stood in a row.  Trimming takes characters of a class from the two ends, so nothing
appears by it and nothing disappears that has none of them.

Main definitions:

* `ThemeCompiler.Text.nested` — a marker around markers.

Main results:

* `ThemeCompiler.Text.infix_removeFrom_iff` — **when a removed marker is there again**;
* `ThemeCompiler.Text.infix_map_iff`, `ThemeCompiler.Text.infix_trimWith_iff` — what occurs where
  characters were replaced, and in a trimmed text;
* `ThemeCompiler.Text.head?_trimWith`, `ThemeCompiler.Text.getLast?_trimWith` — the ends of a
  trimmed text.
-/

import Mathlib.Data.List.DropRight
import ThemeCompiler.Proofs.Text.Search
import ThemeCompiler.Text.Blank

set_option relaxedAutoImplicit false
set_option autoImplicit false

namespace ThemeCompiler

namespace Text

/-! ### Removal -/

section

variable {a b : Char}

/-- Whole markers in a row, then the second character of one. -/
def closers (a b : Char) : Nat → List Char
  | 0 => [b]
  | n + 1 => a :: b :: closers a b n

/-- **A marker around `n` markers.** -/
def nested (a b : Char) (n : Nat) : List Char := a :: closers a b n

theorem removeFrom_marker (a b : Char) (cs : List Char) :
    removeFrom [a, b] (a :: b :: cs) 0 = removeFrom [a, b] cs 0 := by
  simp [removeFrom]

theorem removeFrom_other {c : Char} {cs : List Char} (h : ¬ [a, b] <+: c :: cs) :
    removeFrom [a, b] (c :: cs) 0 = c :: removeFrom [a, b] cs 0 := by
  rw [removeFrom, if_neg (by rwa [List.isPrefixOf_iff_prefix])]

/-- **Induction along the walk**: a whole marker is passed over, any other character is kept. -/
theorem removal_induction {P : List Char → Prop} (a b : Char) (nil : P [])
    (marker : ∀ cs, P cs → P (a :: b :: cs))
    (other : ∀ c cs, ¬ [a, b] <+: c :: cs → P cs → P (c :: cs)) (cs : List Char) : P cs := by
  induction hlength : cs.length using Nat.strong_induction_on generalizing cs with
  | _ m ih =>
      subst hlength
      cases cs with
      | nil => exact nil
      | cons c cs =>
          by_cases h : [a, b] <+: c :: cs
          · obtain ⟨rest, hrest⟩ := h
            obtain ⟨rfl, rfl⟩ := List.cons.inj hrest
            exact marker rest (ih _ (by grind) rest rfl)
          · exact other c cs h (ih _ (by simp) cs rfl)

/-- What is left begins with the second character of the marker when only whole markers stood before
one. -/
theorem head?_removeFrom_iff (hab : a ≠ b) (cs : List Char) :
    (removeFrom [a, b] cs 0).head? = some b ↔ ∃ n, closers a b n <+: cs := by
  induction cs using removal_induction a b with
  | nil =>
      have hne : ∀ n, closers a b n ≠ [] := by
        intro n
        cases n <;> simp [closers]
      simp [removeFrom, hne]
  | marker cs ih =>
      rw [removeFrom_marker, ih]
      constructor
      · rintro ⟨n, hn⟩
        exact ⟨n + 1, by simpa [closers] using hn⟩
      · rintro ⟨n, hn⟩
        cases n with
        | zero => exact absurd (List.cons_prefix_cons.1 hn).1.symm hab
        | succ n => exact ⟨n, by simpa [closers] using hn⟩
  | other c cs h _ =>
      rw [removeFrom_other h, List.head?_cons, Option.some_inj]
      constructor
      · rintro rfl
        exact ⟨0, by simp [closers]⟩
      · rintro ⟨n, hn⟩
        cases n with
        | zero => exact (List.cons_prefix_cons.1 hn).1.symm
        | succ n => exact absurd (List.IsPrefix.trans ⟨closers a b n, rfl⟩ hn) h

/-- **When a removed marker is there again**: exactly where one stood around others. -/
theorem infix_removeFrom_iff (hab : a ≠ b) (cs : List Char) :
    [a, b] <:+: removeFrom [a, b] cs 0 ↔ ∃ n, nested a b (n + 1) <:+: cs := by
  induction cs using removal_induction a b with
  | nil => simp [removeFrom, nested]
  | marker cs ih =>
      rw [removeFrom_marker, ih]
      refine exists_congr fun n => ?_
      -- a marker around others begins neither at a marker nor inside of it
      simp [List.infix_cons_iff, nested, closers, hab]
  | other c cs h ih =>
      rw [removeFrom_other h, List.infix_cons_iff, ih, List.cons_prefix_cons]
      simp only [List.infix_cons_iff, exists_or]
      refine or_congr_left ?_
      constructor
      · rintro ⟨rfl, hhead⟩
        obtain ⟨n, hn⟩ := (head?_removeFrom_iff hab cs).1 (by
          obtain ⟨rest, hrest⟩ := hhead
          rw [← hrest]
          rfl)
        cases n with
        | zero => exact absurd (List.cons_prefix_cons.2 ⟨rfl, hn⟩) h
        | succ n => exact ⟨n, List.cons_prefix_cons.2 ⟨rfl, hn⟩⟩
      · rintro ⟨n, hn⟩
        obtain ⟨rfl, hclosers⟩ := List.cons_prefix_cons.1 hn
        refine ⟨rfl, ?_⟩
        have hhead := (head?_removeFrom_iff hab cs).2 ⟨n + 1, hclosers⟩
        obtain ⟨rest, hrest⟩ := List.head?_eq_some_iff.1 hhead
        exact ⟨rest, hrest.symm⟩

end

/-! ### Replaced characters -/

/-- What occurs where characters were replaced is what occurred before, if it has neither a
character that is replaced nor one that replaces another. -/
theorem infix_map_iff {f : Char → Char} {part : List Char} (h : ∀ x ∈ part, ∀ c, f c = x ↔ c = x)
    (cs : List Char) : part <:+: cs.map f ↔ part <:+: cs := by
  constructor
  · rintro ⟨before, after, heq⟩
    obtain ⟨front, after', rfl, hfront, -⟩ := List.map_eq_append_iff.1 heq.symm
    obtain ⟨before', part', rfl, -, hpart⟩ := List.map_eq_append_iff.1 hfront
    have hsame : part' = part := by
      rw [← hpart, List.map_congr_left (g := id), List.map_id]
      intro c hc
      exact ((h (f c) (hpart ▸ List.mem_map_of_mem hc) c).1 rfl).symm
    exact ⟨before', after', by rw [hsame]⟩
  · rintro ⟨before, after, rfl⟩
    have hsame : part.map f = part :=
      (List.map_congr_left fun c hc => (h c hc c).2 rfl).trans (List.map_id' part)
    exact ⟨before.map f, after.map f, by rw [List.map_append, List.map_append, hsame]⟩

/-! ### Trimming -/

section

variable {p : Char → Bool}

/-- What is trimmed are characters of the class. -/
theorem exists_trimWith (p : Char → Bool) (cs : List Char) : ∃ before after,
    cs = before ++ (trimWith p cs ++ after) ∧ (∀ c ∈ before, p c = true) ∧
      ∀ c ∈ after, p c = true := by
  refine ⟨cs.takeWhile p, (cs.dropWhile p).rtakeWhile p, ?_, ?_, ?_⟩
  · rw [trimWith, ← List.rdropWhile, List.rdropWhile_append_rtakeWhile,
      List.takeWhile_append_dropWhile]
  · exact fun c hc => List.mem_takeWhile_imp hc
  · exact fun c hc => List.mem_rtakeWhile_imp hc

/-- Nothing begins in characters of a class that does not begin with one of them. -/
theorem canBegin_eq_false {first : Char} {part before : List Char} (hfirst : p first = false)
    (hbefore : ∀ c ∈ before, p c = true) : canBegin (first :: part) before = false := by
  induction before with
  | nil => rfl
  | cons c before ih =>
      rw [List.forall_mem_cons] at hbefore
      have hne : first ≠ c := fun heq => by simp [← heq, hfirst] at hbefore
      simp [canBegin, List.isPrefixOf, hne, hne.symm, ih hbefore.2]

/-- **What occurs in a trimmed text** is what occurred before and has no character of the class. -/
theorem infix_trimWith_iff {part : List Char} (hne : part ≠ []) (hpart : ∀ c ∈ part, p c = false)
    (cs : List Char) : part <:+: trimWith p cs ↔ part <:+: cs := by
  have hnot : ∀ {part before : List Char}, part ≠ [] → (∀ c ∈ part, p c = false) →
      (∀ c ∈ before, p c = true) → canBegin part before = false := by
    intro part before hne hpart hbefore
    obtain ⟨first, part, rfl⟩ := List.exists_cons_of_ne_nil hne
    exact canBegin_eq_false (hpart first List.mem_cons_self) hbefore
  obtain ⟨before, after, hcs, hbefore, hafter⟩ := exists_trimWith p cs
  conv_rhs => rw [hcs]
  rw [infix_behind_iff (hnot hne hpart hbefore), infix_before_iff]
  exact hnot (by simpa using hne) (by simpa using hpart) (by simpa using hafter)

/-- **What a trimmed text begins with** stays its beginning when more is put behind the text. -/
theorem prefix_trimWith_append {part cs : List Char} (hne : part ≠ [])
    (hpart : ∀ c ∈ part, p c = false) (h : part <+: trimWith p cs) (more : List Char) :
    part <+: trimWith p (cs ++ more) := by
  have hdrop : part <+: cs.dropWhile p := h.trans (List.rdropWhile_prefix _ _)
  have hnot : (cs.dropWhile p).isEmpty = false := by
    rw [← Bool.not_eq_true, List.isEmpty_iff]
    intro hnil
    rw [hnil, List.prefix_nil] at hdrop
    exact hne hdrop
  obtain ⟨rest, hrest⟩ : part <+: (cs ++ more).dropWhile p := by
    rw [List.dropWhile_append, hnot]
    exact hdrop.trans (List.prefix_append _ more)
  -- what is taken from the end has no character of the part
  rw [← List.rdropWhile_append_rtakeWhile (p := p) (l := (cs ++ more).dropWhile p)] at hrest
  rcases List.append_eq_append_iff.1 hrest with ⟨behind, hbehind, -⟩ | ⟨taken, htaken, hend⟩
  · exact ⟨behind, hbehind.symm⟩
  · cases taken with
    | nil => exact ⟨[], by rw [htaken]; simp [trimWith, List.rdropWhile]⟩
    | cons c taken =>
        have hmem : c ∈ ((cs ++ more).dropWhile p).rtakeWhile p := by
          rw [hend]
          exact List.mem_cons_self
        have hc : p c = false := hpart c (by rw [htaken]; simp)
        exact absurd (List.mem_rtakeWhile_imp hmem) (by simp [hc])

/-- **A trimmed text does not begin with a character of the class.** -/
theorem head?_trimWith {cs : List Char} {c : Char} (h : (trimWith p cs).head? = some c) :
    p c = false := by
  have hpre : trimWith p cs <+: cs.dropWhile p := List.rdropWhile_prefix _ _
  obtain ⟨rest, hrest⟩ := hpre
  have hnot := List.head?_dropWhile_not p cs
  rw [← hrest, List.head?_append, h] at hnot
  simpa using hnot

/-- **A trimmed text does not end with a character of the class.** -/
theorem getLast?_trimWith {cs : List Char} {c : Char} (h : (trimWith p cs).getLast? = some c) :
    p c = false := by
  rw [trimWith, List.getLast?_reverse] at h
  have hnot := List.head?_dropWhile_not p (cs.dropWhile p).reverse
  rw [h] at hnot
  simpa using hnot

end

end Text

end ThemeCompiler
