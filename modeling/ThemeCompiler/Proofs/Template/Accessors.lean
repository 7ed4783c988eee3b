/-
**Slugs in code.**

The slug of a field stands in the code of a template twice: between apostrophes, as the name by
which the field is read, and as a variable that holds what was read.  A slug begins with a small
letter or a digit and goes on with these and underscores.  So between apostrophes it denotes itself,
a variable is well formed as soon as an underscore stands before a leading digit, and this
underscore can be taken away again since no slug begins with one: the fields of a scope have
variables of their own.

Main definitions:

* `ThemeCompiler.Naming.isVariableName` — the names of variables.

Main results:

* `ThemeCompiler.Naming.IsSlug.isVariableName`, `ThemeCompiler.Naming.IsSlug.variableName_inj` — a
  slug gives a variable of its own;
* `ThemeCompiler.Field.distinct_children` — the scopes inside of a forest;
* `ThemeCompiler.Template.slugs_in_code` — **the slugs of a page in the code of its template**.
-/

import ThemeCompiler.Proofs.Model.Scopes
import ThemeCompiler.Proofs.Model.Words
import ThemeCompiler.Proofs.Text.Lexemes
import ThemeCompiler.Template.Writer

set_option relaxedAutoImplicit false
set_option autoImplicit false

namespace ThemeCompiler

/-! ### Variables -/

namespace Naming

/-- **The name of a variable**: a letter or an underscore, then letters, digits and underscores. -/
def isVariableName (s : String) : Bool :=
  match s.toList with
  | [] => false
  | c :: cs => (c.isAlpha || c == '_') && cs.all fun c => c.isAlphanum || c == '_'

/-- The characters of slugs can go on a variable. -/
theorem isAlphanum_of_isSlugChar {c : Char} (h : isSlugChar c = true) :
    (c.isAlphanum || c == '_') = true := by
  simp only [isSlugChar, Char.isAlphanum, Char.isAlpha, Bool.or_eq_true] at h ⊢
  tauto

namespace IsSlug

variable {s t : String}

/-- **How a slug begins**: with a small letter or a digit. -/
theorem exists_cons (hs : IsSlug s) (hne : s ≠ "") : ∃ c cs, s.toList = c :: cs ∧
    (c.isLower || c.isDigit) = true ∧ ∀ c ∈ cs, isSlugChar c = true := by
  obtain ⟨c, cs, hcs⟩ := List.exists_cons_of_ne_nil (mt String.toList_eq_nil_iff.1 hne)
  have hchars := hs.chars
  rw [hcs, List.forall_mem_cons] at hchars
  refine ⟨c, cs, hcs, ?_, hchars.2⟩
  have hhead : c ≠ '_' := fun h => hs.head (by rw [hcs, h, List.head?_cons])
  simpa [isSlugChar, hhead] using hchars.1

theorem apostrophe_notMem (hs : IsSlug s) : '\'' ∉ s.toList :=
  fun hmem => absurd (hs.chars _ hmem) (by decide)

theorem backslash_notMem (hs : IsSlug s) : '\\' ∉ s.toList :=
  fun hmem => absurd (hs.chars _ hmem) (by decide)

/-- A word and a slug behind it are a variable. -/
theorem isVariableName_append (hs : IsSlug s) {word : String} (hword : isVariableName word = true) :
    isVariableName (word ++ s) = true := by
  unfold isVariableName at hword ⊢
  split at hword
  · exact absurd hword (by simp)
  · next c cs hcs =>
      rw [Bool.and_eq_true, List.all_eq_true] at hword
      rw [String.toList_append, hcs, List.cons_append]
      dsimp only
      rw [Bool.and_eq_true, List.all_append, Bool.and_eq_true, List.all_eq_true, List.all_eq_true]
      exact ⟨hword.1, hword.2, fun c hc => isAlphanum_of_isSlugChar (hs.chars c hc)⟩

/-- **The variable of a slug is well formed.** -/
theorem isVariableName (hs : IsSlug s) (hne : s ≠ "") : isVariableName (variableName s) = true := by
  rw [variableName]
  split
  · exact hs.isVariableName_append (by decide)
  · next hdigit =>
      obtain ⟨c, cs, hcs, hfirst, hrest⟩ := hs.exists_cons hne
      rw [hcs, List.head?_cons, Option.any_some, Bool.not_eq_true] at hdigit
      rw [hdigit, Bool.or_false] at hfirst
      rw [Naming.isVariableName, hcs]
      simp only [Char.isAlpha, hfirst, Bool.or_true, Bool.true_or, Bool.true_and, List.all_eq_true]
      exact fun c hc => isAlphanum_of_isSlugChar (hrest c hc)

/-- An underscore before a slug gives none. -/
private theorem ne_underscore_append (ht : IsSlug t) (s : String) : t ≠ "_" ++ s := by
  rintro rfl
  exact ht.head (by simp)

/-- **Different slugs have different variables.** -/
theorem variableName_inj (hs : IsSlug s) (ht : IsSlug t) (h : variableName s = variableName t) :
    s = t := by
  rw [variableName, variableName] at h
  split at h <;> split at h
  · exact String.append_right_inj _ |>.1 h
  · exact absurd h.symm (ht.ne_underscore_append s)
  · exact absurd h (hs.ne_underscore_append t)
  · exact h

end IsSlug

end Naming

/-! ### The scopes inside of a forest -/

namespace Field

mutual

private theorem distinct_children_of_inside : ∀ f : Field, DistinctInside f →
    (∀ g ∈ f.preorder, Model.Nests g) → ∀ g ∈ f.preorder, g.kind = .repeater → Distinct g.children
  | .mk info children, h, hnests => by
      rw [forall_preorder_mk] at hnests ⊢
      rw [DistinctInside] at h
      cases hkind : info.kind with
      | container =>
          rw [hkind] at h
          exact ⟨fun hrow => absurd (hkind.symm.trans hrow) (by simp),
            forall_preorderAll.1 (distinct_children children h (forall_preorderAll.2 hnests.2))⟩
      | repeater =>
          rw [hkind] at h
          exact ⟨fun _ => h.1,
            forall_preorderAll.1 (distinct_children children h.2 (forall_preorderAll.2 hnests.2))⟩
      | text | textarea | image | link | formField =>
          -- a leaf has nothing inside
          have hnil : children = [] := by
            by_contra hne
            have hnest := hnests.1.1 hne
            simp [Field.kind, Field.info, hkind] at hnest
          subst hnil
          exact ⟨fun hrow => absurd (hkind.symm.trans hrow) (by simp), by simp⟩

/-- **The slugs of the rows of every repeater differ** where the slugs of every scope do. -/
theorem distinct_children : ∀ fields : List Field, DistinctInsideAll fields →
    (∀ g ∈ preorderAll fields, Model.Nests g) →
    ∀ g ∈ preorderAll fields, g.kind = .repeater → Distinct g.children
  | [], _, _ => by simp [preorderAll]
  | f :: rest, h, hnests => by
      rw [preorderAll, List.forall_mem_append] at hnests ⊢
      exact ⟨distinct_children_of_inside f h.1 hnests.1, distinct_children rest h.2 hnests.2⟩

end

end Field

/-! ### The slugs of a page -/

namespace Template

open ThemeCompiler.Field (preorderAll)
open Naming (IsSlug isSlugChar)

/-- The variable that holds a field, without its mark. -/
theorem variableFor_eq (reads : Scope) {slug : String} (hslug : IsSlug slug) (hne : slug ≠ "") :
    ∃ name, variableFor reads slug = "$" ++ name ∧ Naming.isVariableName name = true := by
  cases reads with
  | page => exact ⟨_, rfl, hslug.isVariableName hne⟩
  | row =>
      refine ⟨"sub_" ++ slug, ?_, hslug.isVariableName_append (by decide)⟩
      rw [variableFor, ← String.append_assoc]
      rfl

/-- Different slugs are held by different variables. -/
theorem variableFor_inj (reads : Scope) {slug slug' : String} (h : IsSlug slug) (h' : IsSlug slug')
    (heq : variableFor reads slug = variableFor reads slug') : slug = slug' := by
  cases reads with
  | page => exact h.variableName_inj h' (String.append_right_inj _ |>.1 heq)
  | row => exact String.append_right_inj _ |>.1 heq

/-- **The slugs of a page in the code of its template.**  The slug of every field but a container
begins with a small letter or a digit and goes on with these and underscores; between apostrophes it
denotes itself; its variables are well formed; and fields with different slugs, so all fields of one
scope, have different variables. -/
theorem slugs_in_code (maxDepth : Nat) (d : Document) :
    let fields := Model.extract maxDepth d
    (∀ f ∈ preorderAll fields, f.kind ≠ .container →
      (∃ c cs, f.slug.toList = c :: cs ∧ (c.isLower || c.isDigit) = true ∧
        ∀ c ∈ cs, isSlugChar c = true) ∧
      (∀ rest, Text.readQuoted (f.slug.toList ++ '\'' :: rest) = some (f.slug.toList, rest)) ∧
      ∀ reads, ∃ name, variableFor reads f.slug = "$" ++ name ∧
        Naming.isVariableName name = true) ∧
    (∀ f ∈ preorderAll fields, ∀ g ∈ preorderAll fields, f.kind ≠ .container →
      g.kind ≠ .container → ∀ reads, variableFor reads f.slug = variableFor reads g.slug →
      f.slug = g.slug) ∧
    ((Field.scope fields).map fun f => variableFor .page f.slug).Nodup ∧
    ∀ g ∈ preorderAll fields, g.kind = .repeater →
      ((Field.scope g.children).map fun f => variableFor .row f.slug).Nodup := by
  intro fields
  have hslug : ∀ f ∈ preorderAll fields, f.kind ≠ .container → IsSlug f.slug ∧ f.slug ≠ "" :=
    fun f hf hkind => (Model.slugs_extract maxDepth d f hf).resolve_left hkind
  obtain ⟨hdistinct, hinside⟩ := Model.distinct_extract maxDepth d
  -- a scope has different slugs, so it has different variables
  have hnodup : ∀ (inner : List Field) (reads : Scope), preorderAll inner ⊆ preorderAll fields →
      Field.Distinct inner → ((Field.scope inner).map fun f => variableFor reads f.slug).Nodup := by
    intro inner reads hsub hslugs
    refine (List.pairwise_map.1 hslugs).imp_of_mem ?_ |> List.pairwise_map.2
    intro f g hf hg hne heq
    obtain ⟨hf, hfkind⟩ := Field.mem_preorderAll_of_mem_scope inner f hf
    obtain ⟨hg, hgkind⟩ := Field.mem_preorderAll_of_mem_scope inner g hg
    exact hne (variableFor_inj reads (hslug f (hsub hf) hfkind).1 (hslug g (hsub hg) hgkind).1 heq)
  refine ⟨fun f hf hkind => ?_, fun f hf g hg hfkind hgkind reads => ?_, ?_, fun g hg hrow => ?_⟩
  · obtain ⟨hf, hne⟩ := hslug f hf hkind
    exact ⟨hf.exists_cons hne,
      Text.readQuoted_append hf.apostrophe_notMem hf.backslash_notMem,
      fun reads => variableFor_eq reads hf hne⟩
  · exact variableFor_inj reads (hslug f hf hfkind).1 (hslug g hg hgkind).1
  · exact hnodup fields .page (List.Subset.refl _) hdistinct
  · have hrows := Field.distinct_children fields hinside (Model.nests_extract maxDepth d) g hg hrow
    exact hnodup g.children .row (Field.children_subset_preorderAll fields g hg) hrows

end Template

end ThemeCompiler
