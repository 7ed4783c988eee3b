/-
**The characters of slugs.**

A slug is made of small letters, digits and underscores of ASCII, and does not begin with an
underscore: whatever the text is that it is made from, every other character becomes an underscore
that separates words, and underscores at the ends go.  The words that are added to a slug, its
singular and its numbers keep this.

Main definitions:

* `ThemeCompiler.Naming.isSlugChar`, `ThemeCompiler.Naming.isWordChar` — the characters of slugs,
  with the underscore and without;
* `ThemeCompiler.Naming.IsSlug` — **a slug**, perhaps an empty one.

Main results:

* `ThemeCompiler.Naming.isSlug_snakeCase`, `ThemeCompiler.Naming.isSlug_classSlug` — what is made
  from free text and from classes is a slug;
* `ThemeCompiler.Naming.IsSlug.append`, `ThemeCompiler.Naming.IsSlug.singular`,
  `ThemeCompiler.Naming.IsSlug.numbered` — and stays one.
-/

import Mathlib
import ThemeCompiler.Naming

set_option relaxedAutoImplicit false
set_option autoImplicit false

namespace ThemeCompiler

namespace Naming

/-- The characters of slugs. -/
def isSlugChar (c : Char) : Bool := c.isLower || c.isDigit || c == '_'

/-- The characters of the words in a slug. -/
def isWordChar (c : Char) : Bool := c.isLower || c.isDigit

theorem isSlugChar_iff {c : Char} : isSlugChar c = true ↔ isWordChar c = true ∨ c = '_' := by
  rw [isSlugChar, isWordChar, Bool.or_eq_true, beq_iff_eq]

/-- **A slug**: small letters, digits and underscores, without one at the beginning. -/
structure IsSlug (s : String) : Prop where
  chars : ∀ c ∈ s.toList, isSlugChar c = true
  head : s.toList.head? ≠ some '_'

instance (s : String) : Decidable (IsSlug s) :=
  decidable_of_iff (s.toList.all isSlugChar = true ∧ s.toList.head? ≠ some '_')
    ⟨fun h => ⟨List.all_eq_true.1 h.1, h.2⟩, fun h => ⟨List.all_eq_true.2 h.chars, h.head⟩⟩

theorem isSlug_empty : IsSlug "" := by decide

/-! ### Slugs from parts of others -/

namespace IsSlug

variable {s t : String}

/-- The beginning of a slug is a slug. -/
theorem of_prefix (hs : IsSlug s) (h : t.toList <+: s.toList) : IsSlug t where
  chars c hc := hs.chars c (h.subset hc)
  head hhead := by
    obtain ⟨rest, hrest⟩ := h
    apply hs.head
    rw [← hrest, List.head?_append, hhead]
    rfl

/-- A slug that is not empty may be continued. -/
theorem append (hs : IsSlug s) (hne : s ≠ "") (ht : ∀ c ∈ t.toList, isSlugChar c = true) :
    IsSlug (s ++ t) where
  chars := by
    rw [String.toList_append, List.forall_mem_append]
    exact ⟨hs.chars, ht⟩
  head := by
    obtain ⟨c, cs, hcs⟩ := List.exists_cons_of_ne_nil (mt String.toList_eq_nil_iff.1 hne)
    have hhead := hs.head
    rw [hcs] at hhead
    rwa [String.toList_append, hcs]

end IsSlug

/-! ### Slugs from free text -/

/-- A letter or digit in lower case is a small letter or a digit. -/
theorem isWordChar_toLower {c : Char} (h : c.isAlphanum = true) : isWordChar c.toLower = true := by
  simp only [Char.isAlphanum, Char.isAlpha, Char.isUpper, Char.isLower, Char.isDigit, Char.toLower,
    isWordChar, Bool.and_eq_true, Bool.or_eq_true, decide_eq_true_eq] at h ⊢
  grind

theorem isSlugChar_toLower {c : Char} (h : c.isAlphanum = true) : isSlugChar c.toLower = true :=
  isSlugChar_iff.2 (Or.inl (isWordChar_toLower h))

theorem isSlugChar_of_mem_snakeFrom (prev : Option Char) (gap : Bool) (cs : List Char) :
    ∀ c ∈ snakeFrom prev gap cs, isSlugChar c = true := by
  induction cs generalizing prev gap with
  | nil => simp [snakeFrom]
  | cons first rest ih =>
      rw [snakeFrom]
      split
      · next hfirst =>
          rw [List.forall_mem_append]
          have hsmall := isSlugChar_toLower hfirst
          refine ⟨?_, ih _ _⟩
          split
          · rw [List.forall_mem_cons, List.forall_mem_singleton]
            exact ⟨rfl, hsmall⟩
          · rwa [List.forall_mem_singleton]
      · rw [List.forall_mem_append]
        refine ⟨?_, ih _ _⟩
        split
        · exact nofun
        · rw [List.forall_mem_singleton]
          rfl

/-- Without the underscores at its ends a text is a slug if its characters are those of slugs. -/
theorem isSlug_trimWith {cs : List Char} (h : ∀ c ∈ cs, isSlugChar c = true) :
    IsSlug (String.ofList (Text.trimWith (· == '_') cs)) := by
  have hpre : Text.trimWith (· == '_') cs <+: cs.dropWhile (· == '_') :=
    List.rdropWhile_prefix _ _
  constructor
  · intro c hc
    rw [String.toList_ofList] at hc
    exact h c ((List.dropWhile_suffix _).subset (hpre.subset hc))
  · intro hhead
    rw [String.toList_ofList] at hhead
    obtain ⟨rest, hrest⟩ := hpre
    have hnot := List.head?_dropWhile_not (· == '_') cs
    rw [← hrest, List.head?_append, hhead] at hnot
    simp at hnot

/-- **The snake case of a text is a slug.** -/
theorem isSlug_snakeCase (s : String) : IsSlug (snakeCase s) :=
  isSlug_trimWith (isSlugChar_of_mem_snakeFrom _ _ _)

/-- **What the classes of an element suggest is a slug.** -/
theorem isSlug_classSlug (classes : String) : IsSlug (classSlug classes) := by
  rw [classSlug]
  split
  · exact isSlug_empty
  · next first _ _ =>
      -- a noise word may be gone from the beginning of the snake case
      refine isSlug_trimWith fun c hc => (isSlug_snakeCase first).chars c ?_
      cases hnoise : noiseWords.findSome? (Text.dropStart? (snakeCase first)) with
      | none => rwa [hnoise] at hc
      | some rest =>
          rw [hnoise] at hc
          obtain ⟨noise, -, hdrop⟩ := List.exists_of_findSome?_eq_some hnoise
          obtain ⟨-, rfl⟩ : _ ∧ _ := by simpa [Text.dropStart?] using hdrop
          exact List.mem_of_mem_drop (by simpa using hc)

/-! ### Words and numbers -/

/-- **The singular of a slug is a slug.** -/
theorem IsSlug.singular {s : String} (hs : IsSlug s) : IsSlug (singular s) := by
  have hstem : ∀ {ending stem : String}, Text.dropEnding? s ending = some stem → IsSlug stem := by
    intro ending stem h
    obtain ⟨-, rfl⟩ : _ ∧ _ := by simpa [Text.dropEnding?] using h
    exact hs.of_prefix (by simpa using List.take_prefix _ _)
  rw [Naming.singular]
  split
  · next stem h =>
      by_cases hempty : stem = ""
      · subst hempty
        exact ⟨by simp [isSlugChar], by simp⟩
      · exact (hstem h).append hempty (by simp [isSlugChar])
  · split
    · cases h : Text.dropEnding? s "s" with
      | none => exact hs
      | some stem => exact hstem h
    · exact hs

theorem isSlugChar_of_mem_toString (n : Nat) : ∀ c ∈ (toString n).toList, isSlugChar c = true := by
  intro c hc
  rw [Nat.toString_eq_repr, Nat.toList_repr] at hc
  simp [isSlugChar, Nat.isDigit_of_mem_toDigits (by decide) (by decide) hc]

/-- **A slug with a number is a slug.** -/
theorem IsSlug.numbered {s : String} (hs : IsSlug s) (hne : s ≠ "") (n : Nat) :
    IsSlug (numbered s n) := by
  rw [Naming.numbered, String.append_assoc]
  refine hs.append hne ?_
  rw [String.toList_append, List.forall_mem_append]
  exact ⟨by simp [isSlugChar], isSlugChar_of_mem_toString n⟩

end Naming

end ThemeCompiler
