/-
**The slugs of a page are slugs.**

Class names, declared names and the words of the scan are the only sources of slugs, and what is
made from them has small letters, digits and underscores only.  So whatever a page says, no slug of
its fields holds another character.  Containers keep a slug of their own for their identifier; it is
bound nowhere.

Main results:

* `ThemeCompiler.Model.isSlug_leafSlug` — the slug of a leaf is one if its context is;
* `ThemeCompiler.Model.collects_slugs` — so is the slug of every draft as it is made;
* `ThemeCompiler.Model.slugs_extract` — **every field of a page but a container has a slug that is
  not empty**.
-/

import ThemeCompiler.Proofs.Model.Renaming
import ThemeCompiler.Proofs.Naming

set_option relaxedAutoImplicit false
set_option autoImplicit false

namespace ThemeCompiler

namespace Model

open Naming (IsSlug isSlugChar)

/-! ### The words of the scan -/

theorem isSlug_joined {context word bare : String} (hcontext : IsSlug context)
    (hword : ∀ c ∈ word.toList, isSlugChar c = true) (hbare : IsSlug bare) :
    IsSlug (joined context word bare) := by
  rw [joined]
  split
  · exact hbare
  · next hne =>
      rw [String.append_assoc]
      refine hcontext.append (by simpa using hne) ?_
      rw [String.toList_append, List.forall_mem_append]
      exact ⟨by simp [isSlugChar], hword⟩

theorem isSlug_name (role : SlugRole) : IsSlug role.name := by
  cases role <;> decide

theorem isSlug_itemLeafSlug (tag : String) {context : String} (role : SlugRole)
    (hcontext : IsSlug context) : IsSlug (itemLeafSlug tag context role) := by
  rw [itemLeafSlug]
  split
  · exact isSlug_joined hcontext (IsSlug.chars (by decide)) (by decide)
  · split
    · exact isSlug_joined hcontext (isSlug_name role).chars (isSlug_name role)
    · exact orElse_cases hcontext (by decide)

/-- **The slug of a leaf is one if its context is.** -/
theorem isSlug_leafSlug (tag classes : String) (insideList : Bool) {context : String}
    (hcontext : IsSlug context) : IsSlug (leafSlug tag classes insideList context) := by
  rw [leafSlug]
  split
  · exact isSlug_itemLeafSlug _ _ hcontext.singular
  · split
    · exact isSlug_name _
    · next hne =>
        have hsingular := hcontext.singular
        split
        · exact hsingular
        · rw [String.append_assoc]
          refine hsingular.append (by simpa using hne) ?_
          rw [String.toList_append, List.forall_mem_append]
          exact ⟨by simp [isSlugChar], (isSlug_name _).chars⟩

/-! ### The slugs of drafts -/

theorem IsControlSlug.isSlug {p : Page} {n : NodeId} {slug : String} (h : IsControlSlug p n slug) :
    IsSlug slug := by
  rcases h with h | ⟨k, rfl⟩
  · obtain ⟨name, -, rfl⟩ := Option.map_eq_some_iff.1 (Option.filter_eq_some_iff.1 h).1
    exact Naming.isSlug_snakeCase name
  · exact IsSlug.append (by decide) (by decide) (Naming.isSlugChar_of_mem_toString k)

/-- **The slug of every draft but a container is a slug.** -/
theorem collects_slugs (p : Page) :
    Collects p IsSlug (Draft.Everywhere fun f => f.kind = .container ∨ IsSlug f.slug) where
  ofClasses := Naming.isSlug_classSlug
  items := by decide
  control n slug hslug := Draft.everywhere_mk.2 ⟨Or.inr hslug.isSlug, by simp⟩
  item n slug hslug := by
    rw [itemDraft]
    split
    · have hlink : IsSlug (joined (Naming.singular slug) "link" "item_link") :=
        isSlug_joined hslug.singular (IsSlug.chars (by decide)) (by decide)
      exact Draft.everywhere_make.2 ⟨Or.inr hlink, by simp⟩
    · exact Draft.everywhere_make.2
        ⟨Or.inr (orElse_cases hslug.singular (by decide)), by simp⟩
  member n slug hslug := Draft.everywhere_make.2
    ⟨Or.inr (orElse_cases hslug.singular (by decide)), by simp⟩
  leaf n insideList context draft hcontext hdraft := by
    obtain ⟨kind, content, -, rfl⟩ := leafDraft?_eq_some hdraft
    refine Draft.everywhere_make.2 ⟨Or.inr ?_, by simp⟩
    dsimp only [Field.slug, Field.info]
    exact isSlug_leafSlug _ _ _ hcontext
  repeater _ _ _ _ _ hslug _ _ hinner := Draft.everywhere_make.2 ⟨Or.inr hslug, hinner⟩
  container _ _ _ hinner := Draft.everywhere_mk.2 ⟨Or.inl rfl, hinner⟩

/-- **Every field of a page but a container has a slug that is not empty.** -/
theorem slugs_extract (maxDepth : Nat) (d : Document) :
    ∀ f ∈ Field.preorderAll (extract maxDepth d),
      f.kind = .container ∨ IsSlug f.slug ∧ f.slug ≠ "" := by
  intro g hg
  obtain ⟨f, hf, hrenamed⟩ := exists_renamed_of_mem maxDepth d hg
  have hnamed := (collects_named _).fields trivial f hf
  have hslug := (collects_slugs _).fields Naming.isSlug_empty f hf
  rw [hrenamed.kind_eq]
  rcases hnamed with hkind | hne
  · exact Or.inl hkind
  rcases hslug with hkind | hslug
  · exact Or.inl hkind
  rcases hrenamed.slug with heq | ⟨-, n, -, heq⟩
  · rw [heq]
    exact Or.inr ⟨hslug, hne⟩
  · rw [heq]
    exact Or.inr ⟨hslug.numbered hne n, Naming.numbered_ne_empty _ n⟩

end Model

end ThemeCompiler
