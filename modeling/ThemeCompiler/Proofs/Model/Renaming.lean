/-
**What extraction changes of the fields that were found.**

The fields of a page are those that were found in it: each one stays in its place with the same
fields inside, and only its identifier and its slug are others.  The slug is the same or the same
with a number, and the slug of a container stays.

Main definitions:

* `ThemeCompiler.Model.Labelled` — a field with another identifier;
* `ThemeCompiler.Model.Renamed` — **a field with another identifier and perhaps a numbered slug**;
* `ThemeCompiler.Model.Renumbers` — a forest in which slugs got numbers.

Main results:

* `ThemeCompiler.Model.renumbers_uniqueSlugs` — slugs become unique by getting numbers;
* `ThemeCompiler.Model.renamed_extract` — the fields of a page, each beside the one that was found;
* `ThemeCompiler.Model.nests_extract` — exactly the containers and repeaters of a page have fields
  inside.
-/

import ThemeCompiler.Proofs.Model.Scan

set_option relaxedAutoImplicit false
set_option autoImplicit false

namespace ThemeCompiler

namespace Model

open ThemeCompiler.Field (preorder preorderAll)

/-- A field with another identifier. -/
structure Labelled (f g : Field) : Prop where
  info : g.info = { f.info with id := g.info.id }
  children : g.children.length = f.children.length

/-- **A field with another identifier and perhaps a numbered slug.**  The slug of a container
stays. -/
structure Renamed (f g : Field) : Prop where
  info : g.info = { f.info with id := g.info.id, slug := g.slug }
  slug : g.slug = f.slug ∨ f.kind ≠ .container ∧ ∃ n, 2 ≤ n ∧ g.slug = Naming.numbered f.slug n
  children : g.children.length = f.children.length

namespace Renamed

variable {f g h : Field}

theorem kind_eq (hr : Renamed f g) : g.kind = f.kind := by
  rw [Field.kind, hr.info]
  rfl

theorem children_eq_nil (hr : Renamed f g) : g.children = [] ↔ f.children = [] := by
  rw [← List.length_eq_zero_iff, hr.children, List.length_eq_zero_iff]

/-- The identifier may change once more. -/
theorem label (hr : Renamed f g) (hl : Labelled g h) : Renamed f h := by
  have hslug : h.slug = g.slug := by rw [Field.slug, hl.info, Field.slug]
  refine ⟨?_, ?_, hl.children.trans hr.children⟩
  · rw [hslug]
    exact hl.info.trans (congrArg (fun info : FieldInfo => { info with id := h.info.id }) hr.info)
  · rw [hslug]
    exact hr.slug

theorem label_all {fields renamed labelled : List Field} (hr : List.Forall₂ Renamed fields renamed)
    (hl : List.Forall₂ Labelled renamed labelled) : List.Forall₂ Renamed fields labelled := by
  induction hr generalizing labelled with
  | nil =>
      cases hl
      exact .nil
  | cons hfield _ ih =>
      cases hl with
      | cons hlabel hrest => exact .cons (hfield.label hlabel) (ih hrest)

end Renamed

/-! ### Slugs -/

/-- **A forest in which slugs got numbers**, if anything is different at all: each field has the slug
that it had or, unless it is a container, this slug with a number from 2 on. -/
inductive Renumbers : List Field → List Field → Prop
  | nil : Renumbers [] []
  | cons {info : FieldInfo} {slug : String} {children children' rest rest' : List Field} :
      (slug = info.slug ∨
        info.kind ≠ .container ∧ ∃ n, 2 ≤ n ∧ slug = Naming.numbered info.slug n) →
      Renumbers children children' → Renumbers rest rest' →
      Renumbers (.mk info children :: rest) (.mk { info with slug := slug } children' :: rest')

namespace Renumbers

theorem refl : ∀ fields : List Field, Renumbers fields fields
  | [] => .nil
  | .mk _ children :: rest => .cons (Or.inl rfl) (refl children) (refl rest)

theorem length_eq {fields fields' : List Field} (h : Renumbers fields fields') :
    fields'.length = fields.length := by
  induction h with
  | nil => rfl
  | cons _ _ _ _ ih => rw [List.length_cons, List.length_cons, ih]

theorem renamed {fields fields' : List Field} (h : Renumbers fields fields') :
    List.Forall₂ Renamed (preorderAll fields) (preorderAll fields') := by
  induction h with
  | nil => exact .nil
  | cons hslug hchildren _ ih ih' =>
      exact List.rel_append (.cons ⟨rfl, hslug, hchildren.length_eq⟩ ih) ih'

end Renumbers

mutual

private theorem renumbers_uniqueSlug : ∀ (f : Field) (taken : List String)
    {rest rest' : List Field}, Renumbers rest rest' →
      Renumbers (f :: rest) ((uniqueSlug f taken).1 :: rest')
  | .mk ⟨_, kind, _, _, _, slug, _, _⟩ children, taken, _, _, h => by
      have hfresh := Naming.fresh_cases slug taken
      rw [uniqueSlug]
      cases kind with
      | container => exact .cons (Or.inl rfl) (renumbers_uniqueSlugs children taken) h
      | repeater =>
          exact .cons (hfresh.imp_right fun hn => ⟨nofun, hn⟩) (renumbers_uniqueSlugs children []) h
      | text | textarea | image | link | formField =>
          exact .cons (hfresh.imp_right fun hn => ⟨nofun, hn⟩) (Renumbers.refl children) h

/-- **Slugs become unique by getting numbers.** -/
theorem renumbers_uniqueSlugs : ∀ (fields : List Field) (taken : List String),
    Renumbers fields (uniqueSlugs fields taken).1
  | [], _ => .nil
  | f :: rest, taken => by
      rw [uniqueSlugs]
      exact renumbers_uniqueSlug f taken (renumbers_uniqueSlugs rest _)

end

/-! ### Identifiers -/

private theorem length_assignIdsFrom (idOf : String → String) (around : String) (index : Nat)
    (fields : List Field) : (assignIdsFrom idOf around index fields).length = fields.length := by
  induction fields generalizing index with
  | nil => rfl
  | cons f rest ih => rw [assignIdsFrom, List.length_cons, List.length_cons, ih]

mutual

private theorem labelled_assignId (idOf : String → String) : ∀ (around : String) (index : Nat)
    (f : Field), List.Forall₂ Labelled f.preorder (assignId idOf around index f).preorder
  | around, index, .mk info children => by
      rw [assignId]
      exact .cons ⟨rfl, length_assignIdsFrom idOf _ 0 children⟩
        (labelled_assignIdsFrom idOf _ 0 children)

/-- **A forest with identifiers**, each field beside the one before. -/
theorem labelled_assignIdsFrom (idOf : String → String) : ∀ (around : String) (index : Nat)
    (fields : List Field),
    List.Forall₂ Labelled (preorderAll fields) (preorderAll (assignIdsFrom idOf around index fields))
  | _, _, [] => .nil
  | around, index, f :: rest => by
      rw [assignIdsFrom]
      exact List.rel_append (labelled_assignId idOf around index f)
        (labelled_assignIdsFrom idOf around (index + 1) rest)

end

/-! ### The fields of a page -/

section

variable (maxDepth : Nat) (d : Document)

/-- **The fields of a page, each beside the one that was found.** -/
theorem renamed_extract :
    List.Forall₂ Renamed (preorderAll (Draft.toFields (drafts maxDepth d)))
      (preorderAll (extract maxDepth d)) :=
  Renamed.label_all (renumbers_uniqueSlugs _ []).renamed (labelled_assignIdsFrom _ "" 0 _)

/-- Every field of a page is one that was found, perhaps renamed. -/
theorem exists_renamed_of_mem {g : Field} (h : g ∈ preorderAll (extract maxDepth d)) :
    ∃ f ∈ preorderAll (Draft.toFields (drafts maxDepth d)), Renamed f g := by
  obtain ⟨i, hi, rfl⟩ := List.mem_iff_getElem.1 h
  have hrenamed := renamed_extract maxDepth d
  have hi' := hrenamed.length_eq ▸ hi
  exact ⟨_, List.getElem_mem hi', hrenamed.get hi' hi⟩

/-- **Exactly the containers and repeaters of a page have fields inside.** -/
theorem nests_extract : ∀ f ∈ preorderAll (extract maxDepth d), Nests f := by
  intro g hg
  obtain ⟨f, hf, hrenamed⟩ := exists_renamed_of_mem maxDepth d hg
  have hnests := nests_drafts maxDepth d f hf
  rwa [Nests, ne_eq, hrenamed.children_eq_nil, hrenamed.kind_eq]

end

end Model

end ThemeCompiler
