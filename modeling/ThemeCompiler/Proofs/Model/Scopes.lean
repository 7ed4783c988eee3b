/-
**Scopes of a forest.**

The fields of a scope are those of a list with its containers taken for what is inside of them; a
repeater opens a scope of its own.  The check of the slugs goes through the scopes and hands on the
slugs that are taken.  Within a scope it goes through exactly when the slugs there are different and
not taken before, and what is taken after it is known; so it tells that the slugs of each scope
differ, and all scopes with different slugs pass it.

Main definitions:

* `ThemeCompiler.Field.scope`, `ThemeCompiler.Field.IsScope` — the fields of a scope, and the scopes
  of a forest;
* `ThemeCompiler.Field.Distinct`, `ThemeCompiler.Field.DistinctInside` — the slugs of a scope differ,
  and those of every scope inside of it;
* `ThemeCompiler.Validation.WellNamed` — no slug of a scope is empty or occurs twice.

Main results:

* `ThemeCompiler.Validation.checkScope_eq_ok_iff`, `ThemeCompiler.Validation.checkSlugs_eq_ok_iff` —
  **a forest passes the check exactly when all its scopes are well-named**;
* `ThemeCompiler.Validation.of_checkSlugs` — a scope that passes the check has different slugs;
* `ThemeCompiler.Model.distinct_extract` — so have the scopes of a page.
-/

import ThemeCompiler.Proofs.Attempts
import ThemeCompiler.Proofs.Model.Renaming

set_option relaxedAutoImplicit false
set_option autoImplicit false

namespace ThemeCompiler

namespace Field

/-! ### The fields of a scope -/

mutual

/-- What a field brings to the scope around it: itself, or as a container what is inside. -/
def inScope : Field → List Field
  | .mk info children => if info.kind = .container then scope children else [.mk info children]

/-- **The fields of a scope**: containers are transparent. -/
def scope : List Field → List Field
  | [] => []
  | f :: rest => inScope f ++ scope rest

end

theorem inScope_container {info : FieldInfo} (h : info.kind = .container) (children : List Field) :
    inScope (.mk info children) = scope children := by
  rw [inScope, if_pos h]

theorem inScope_of_ne {info : FieldInfo} (h : info.kind ≠ .container) (children : List Field) :
    inScope (.mk info children) = [.mk info children] := by
  rw [inScope, if_neg h]

theorem inScope_eq (f : Field) : inScope f = if f.kind = .container then scope f.children else [f] := by
  obtain ⟨info, children⟩ := f
  rw [inScope]
  rfl

theorem scope_append (fields others : List Field) :
    scope (fields ++ others) = scope fields ++ scope others := by
  induction fields with
  | nil => rfl
  | cons f rest ih => rw [List.cons_append, scope, scope, ih, List.append_assoc]

theorem mem_scope {fields : List Field} {g : Field} :
    g ∈ scope fields ↔ ∃ f ∈ fields, g ∈ inScope f := by
  induction fields with
  | nil => simp [scope]
  | cons f rest ih => simp [scope, ih]

mutual

private theorem children_subset_preorder : ∀ f : Field, ∀ g ∈ f.preorder,
    preorderAll g.children ⊆ f.preorder
  | .mk info children, g, hg => by
      rcases List.mem_cons.1 hg with rfl | hg
      · exact List.subset_cons_self _ _
      · exact List.Subset.trans (children_subset_preorderAll children g hg)
          (List.subset_cons_self _ _)

/-- What is inside of a field of a forest is in the forest. -/
theorem children_subset_preorderAll : ∀ fields : List Field, ∀ g ∈ preorderAll fields,
    preorderAll g.children ⊆ preorderAll fields
  | [], _, hg => absurd hg List.not_mem_nil
  | f :: rest, g, hg => by
      rcases List.mem_append.1 hg with hg | hg
      · exact List.Subset.trans (children_subset_preorder f g hg) (List.subset_append_left _ _)
      · exact List.Subset.trans (children_subset_preorderAll rest g hg)
          (List.subset_append_right _ _)

end

mutual

private theorem mem_preorder_of_mem_inScope : ∀ (f : Field), ∀ g ∈ inScope f,
    g ∈ f.preorder ∧ g.kind ≠ .container
  | .mk info children, g, hg => by
      rw [inScope] at hg
      split at hg
      · obtain ⟨hmem, hkind⟩ := mem_preorderAll_of_mem_scope children g hg
        exact ⟨List.mem_cons_of_mem _ hmem, hkind⟩
      · next hkind =>
          obtain rfl := List.mem_singleton.1 hg
          exact ⟨List.mem_cons_self, hkind⟩

/-- The fields of a scope are fields of the forest, and no containers. -/
theorem mem_preorderAll_of_mem_scope : ∀ (fields : List Field), ∀ g ∈ scope fields,
    g ∈ preorderAll fields ∧ g.kind ≠ .container
  | [], g, hg => absurd hg List.not_mem_nil
  | f :: rest, g, hg => by
      rcases List.mem_append.1 hg with hg | hg
      · exact (mem_preorder_of_mem_inScope f g hg).imp_left (List.mem_append_left _)
      · exact (mem_preorderAll_of_mem_scope rest g hg).imp_left (List.mem_append_right _)

end

/-- The slugs of a scope. -/
def slugs (fields : List Field) : List String := (scope fields).map slug

/-- **The slugs of a scope differ.** -/
def Distinct (fields : List Field) : Prop := (slugs fields).Nodup

theorem slugs_cons (f : Field) (rest : List Field) :
    slugs (f :: rest) = (inScope f).map slug ++ slugs rest := by
  rw [slugs, scope, List.map_append, slugs]

theorem slugs_append (fields others : List Field) :
    slugs (fields ++ others) = slugs fields ++ slugs others := by
  rw [slugs, scope_append, List.map_append, slugs, slugs]

mutual

/-- The slugs of every scope inside of a field differ. -/
def DistinctInside : Field → Prop
  | .mk info children =>
      match info.kind with
      | .container => DistinctInsideAll children
      | .repeater => Distinct children ∧ DistinctInsideAll children
      | _ => True

/-- **The slugs of every scope inside of a scope differ.** -/
def DistinctInsideAll : List Field → Prop
  | [] => True
  | f :: rest => DistinctInside f ∧ DistinctInsideAll rest

end

theorem distinctInsideAll_iff {fields : List Field} :
    DistinctInsideAll fields ↔ ∀ f ∈ fields, DistinctInside f := by
  induction fields with
  | nil => simp [DistinctInsideAll]
  | cons f rest ih => simp [DistinctInsideAll, ih]

end Field

/-! ### The scopes of a forest -/

namespace Field

/-- **A scope of a forest**: its own, or that of a repeater in one of its scopes.  What is inside of
any other field is in no scope. -/
inductive IsScope (fields : List Field) : List Field → Prop
  | top : IsScope fields (scope fields)
  | inside {fs : List Field} {r : Field} :
      IsScope fields fs → r ∈ fs → r.kind = .repeater → IsScope fields (scope r.children)

theorem IsScope.of_repeater {fields fs : List Field} {r : Field} (hr : r ∈ scope fields)
    (hkind : r.kind = .repeater) (h : IsScope r.children fs) : IsScope fields fs := by
  induction h with
  | top => exact .inside .top hr hkind
  | inside _ hmem hrepeater ih => exact .inside ih hmem hrepeater

/-- The fields of a scope are fields of the forest, and no containers. -/
theorem IsScope.mem_preorderAll {fields fs : List Field} (h : IsScope fields fs) {f : Field}
    (hf : f ∈ fs) : f ∈ preorderAll fields ∧ f.kind ≠ .container := by
  induction h generalizing f with
  | top => exact mem_preorderAll_of_mem_scope fields f hf
  | @inside _ r _ hr _ ih =>
      obtain ⟨hmem, hkind⟩ := mem_preorderAll_of_mem_scope r.children f hf
      exact ⟨children_subset_preorderAll fields r (ih hr).1 hmem, hkind⟩

/-- **What holds of all scopes** holds of the outermost one and of all scopes of its repeaters. -/
theorem forall_isScope_iff {P : List Field → Prop} {fields : List Field} :
    (∀ fs, IsScope fields fs → P fs) ↔ P (scope fields) ∧
      ∀ r ∈ scope fields, r.kind = .repeater → ∀ fs, IsScope r.children fs → P fs := by
  constructor
  · intro h
    exact ⟨h _ .top, fun r hr hkind fs hfs => h fs (hfs.of_repeater hr hkind)⟩
  · rintro ⟨htop, hinside⟩ fs hfs
    -- a scope is the outermost one, or one of a repeater there
    have hcases : fs = scope fields ∨
        ∃ r ∈ scope fields, r.kind = .repeater ∧ IsScope r.children fs := by
      induction hfs with
      | top => exact Or.inl rfl
      | @inside _ r _ hr hkind ih =>
          rcases ih with rfl | ⟨q, hq, hqkind, hfs⟩
          · exact Or.inr ⟨r, hr, hkind, .top⟩
          · exact Or.inr ⟨q, hq, hqkind, .inside hfs hr hkind⟩
    rcases hcases with rfl | ⟨r, hr, hkind, hfs⟩
    · exact htop
    · exact hinside r hr hkind fs hfs

mutual

private theorem distinctInside_of_scopes : ∀ f : Field,
    (∀ r ∈ inScope f, r.kind = .repeater → ∀ fs, IsScope r.children fs → (fs.map slug).Nodup) →
      DistinctInside f
  | .mk info children, h => by
      have hall := distinctInsideAll_of_scopes children
      rw [DistinctInside]
      cases hkind : info.kind with
      | container =>
          rw [inScope_container hkind] at h
          exact hall h
      | repeater =>
          rw [inScope_of_ne (by simp [hkind])] at h
          have hscopes := h _ List.mem_cons_self hkind
          exact ⟨hscopes _ .top, hall (forall_isScope_iff.1 hscopes).2⟩
      | text | textarea | image | link | formField => trivial

/-- Where the slugs of every scope of a repeater differ, so do those of every scope inside. -/
theorem distinctInsideAll_of_scopes : ∀ fields : List Field,
    (∀ r ∈ scope fields, r.kind = .repeater → ∀ fs, IsScope r.children fs → (fs.map slug).Nodup) →
      DistinctInsideAll fields
  | [], _ => trivial
  | f :: rest, h => by
      rw [scope, List.forall_mem_append] at h
      exact ⟨distinctInside_of_scopes f h.1, distinctInsideAll_of_scopes rest h.2⟩

end

end Field

/-! ### What the check of the slugs tells -/

namespace Validation

open Field (inScope scope slugs Distinct DistinctInsideAll IsScope)
open Naming (Takes takes_nil takes_singleton takes_append)

/-- **A well-named scope**: no slug is empty, and no two are the same. -/
structure WellNamed (fields : List Field) : Prop where
  named : ∀ f ∈ fields, f.slug ≠ ""
  nodup : (fields.map Field.slug).Nodup

theorem checkSlug_eq_ok_iff {slug : String} {taken : List String} :
    checkSlug slug taken = .ok () ↔ slug ≠ "" ∧ slug ∉ taken := by
  rw [checkSlug]
  split
  · next hempty => simp [String.isEmpty_iff.1 hempty]
  · next hempty =>
      have hne : slug ≠ "" := mt String.isEmpty_iff.2 hempty
      split
      · next hmem => simp [List.contains_iff_mem.1 hmem]
      · next hmem => simp [hne, mt List.contains_iff_mem.2 hmem]

/-- A scope that passes the check with nothing taken before. -/
private theorem exists_checkScope_iff {fields : List Field}
    (h : ∀ taken', checkScope fields [] = .ok taken' ↔
      (Takes (slugs fields) [] taken' ∧ ∀ g ∈ scope fields, g.slug ≠ "") ∧
        ∀ r ∈ scope fields, r.kind = .repeater → ∀ fs, IsScope r.children fs → WellNamed fs) :
    (∃ taken', checkScope fields [] = .ok taken') ↔ ∀ fs, IsScope fields fs → WellNamed fs := by
  rw [Field.forall_isScope_iff]
  constructor
  · rintro ⟨taken', hok⟩
    obtain ⟨⟨htakes, hnamed⟩, hinside⟩ := (h taken').1 hok
    exact ⟨⟨hnamed, htakes.nodup⟩, hinside⟩
  · rintro ⟨hwell, hinside⟩
    exact ⟨_, (h _).2 ⟨⟨⟨rfl, hwell.nodup, fun _ _ => List.not_mem_nil⟩, hwell.named⟩, hinside⟩⟩

/-- The slug of a field that is no container, checked on its own. -/
private theorem checkSlug_own_iff {info : FieldInfo} {children : List Field}
    {taken taken' : List String} (hkind : info.kind ≠ .container) :
    checkSlug info.slug taken = .ok () ∧ info.slug :: taken = taken' ↔
      Takes ((inScope (.mk info children)).map Field.slug) taken taken' ∧
        ∀ g ∈ inScope (.mk info children), g.slug ≠ "" := by
  rw [Field.inScope_of_ne hkind, List.map_singleton, takes_singleton, List.forall_mem_singleton,
    checkSlug_eq_ok_iff]
  constructor
  · rintro ⟨⟨hne, hfree⟩, rfl⟩
    exact ⟨⟨hfree, rfl⟩, hne⟩
  · rintro ⟨⟨hfree, rfl⟩, hne⟩
    exact ⟨⟨hne, hfree⟩, rfl⟩

mutual

/-- What a field takes of the scope around it if it passes the check. -/
theorem checkField_eq_ok_iff : ∀ (f : Field) (taken taken' : List String),
    checkField f taken = .ok taken' ↔
      (Takes ((inScope f).map Field.slug) taken taken' ∧ ∀ g ∈ inScope f, g.slug ≠ "") ∧
        ∀ r ∈ inScope f, r.kind = .repeater → ∀ fs, IsScope r.children fs → WellNamed fs
  | .mk info children, taken, taken' => by
      rw [checkField]
      -- containers are transparent, repeaters open a scope, all else is a leaf
      cases hkind : info.kind with
      | container =>
          rw [Field.inScope_container hkind]
          exact checkScope_eq_ok_iff children taken taken'
      | repeater =>
          have hne : info.kind ≠ .container := by simp [hkind]
          have hinside := exists_checkScope_iff (checkScope_eq_ok_iff children [])
          rw [← checkSlug_own_iff hne, Field.inScope_of_ne hne, List.forall_mem_singleton]
          simp only [bind_eq_ok_iff]
          constructor
          · rintro ⟨_, hslug, inside, hok, hpure⟩
            exact ⟨⟨hslug, Except.ok.inj hpure⟩, fun _ => hinside.1 ⟨inside, hok⟩⟩
          · rintro ⟨⟨hslug, rfl⟩, hscopes⟩
            obtain ⟨inside, hok⟩ := hinside.2 (hscopes hkind)
            exact ⟨(), hslug, inside, hok, rfl⟩
      | text | textarea | image | link | formField =>
          have hne : info.kind ≠ .container := by simp [hkind]
          rw [← checkSlug_own_iff hne, Field.inScope_of_ne hne, List.forall_mem_singleton,
            bind_eq_ok_iff]
          constructor
          · rintro ⟨_, hslug, hpure⟩
            refine ⟨⟨hslug, Except.ok.inj hpure⟩, fun hrepeater => ?_⟩
            rw [Field.kind, Field.info, hkind] at hrepeater
            cases hrepeater
          · rintro ⟨⟨hslug, rfl⟩, -⟩
            exact ⟨(), hslug, rfl⟩

/-- **What the fields of a scope take of it if they pass the check.** -/
theorem checkScope_eq_ok_iff : ∀ (fields : List Field) (taken taken' : List String),
    checkScope fields taken = .ok taken' ↔
      (Takes (slugs fields) taken taken' ∧ ∀ g ∈ scope fields, g.slug ≠ "") ∧
        ∀ r ∈ scope fields, r.kind = .repeater → ∀ fs, IsScope r.children fs → WellNamed fs
  | [], taken, taken' => by
      have hnone : slugs [] = [] := rfl
      rw [checkScope, hnone, takes_nil, Except.ok.injEq, eq_comm]
      simp [scope]
  | f :: rest, taken, taken' => by
      rw [checkScope, bind_eq_ok_iff, Field.slugs_cons, takes_append, scope]
      simp only [List.forall_mem_append, checkField_eq_ok_iff f taken,
        checkScope_eq_ok_iff rest]
      constructor
      · rintro ⟨between, ⟨⟨htakes, hnamed⟩, hscopes⟩, ⟨htakes', hnamed'⟩, hscopes'⟩
        exact ⟨⟨⟨between, htakes, htakes'⟩, hnamed, hnamed'⟩, hscopes, hscopes'⟩
      · rintro ⟨⟨⟨between, htakes, htakes'⟩, hnamed, hnamed'⟩, hscopes, hscopes'⟩
        exact ⟨between, ⟨⟨htakes, hnamed⟩, hscopes⟩, ⟨htakes', hnamed'⟩, hscopes'⟩

end

/-- **A forest passes the check of its slugs exactly when all its scopes are well-named.** -/
theorem checkSlugs_eq_ok_iff {fields : List Field} :
    checkSlugs fields = .ok () ↔ ∀ fs, IsScope fields fs → WellNamed fs := by
  rw [checkSlugs, bind_eq_ok_iff, ← exists_checkScope_iff (checkScope_eq_ok_iff fields [])]
  exact exists_congr fun _ => and_iff_left rfl

/-- **A scope that passes the check has different slugs**, and so has every scope inside of it. -/
theorem of_checkSlugs {fields : List Field} (h : checkSlugs fields = .ok ()) :
    Distinct fields ∧ DistinctInsideAll fields := by
  have hscopes := Field.forall_isScope_iff.1 (checkSlugs_eq_ok_iff.1 h)
  refine ⟨hscopes.1.nodup, Field.distinctInsideAll_of_scopes fields fun r hr hkind fs hfs => ?_⟩
  exact (hscopes.2 r hr hkind fs hfs).nodup

end Validation

/-! ### The scopes of a page -/

namespace Model

/-- **The scopes of a page have different slugs.** -/
theorem distinct_extract (maxDepth : Nat) (d : Document) :
    Field.Distinct (extract maxDepth d) ∧ Field.DistinctInsideAll (extract maxDepth d) :=
  Validation.of_checkSlugs (checkSlugs_extract maxDepth d)

end Model

end ThemeCompiler
