/-
**Slugs are unique in their scope.**

A fresh name is found among the numbered ones because fewer names are taken than numbers are tried.
The slugs given to a forest are collected as the check of a scope collects them, so the check goes
through wherever no name is empty.

Main definitions:

* `ThemeCompiler.Naming.Takes` — names are taken one after the other;
* `ThemeCompiler.Field.Named` — every field of a tree but a container has a slug.

Main results:

* `ThemeCompiler.Naming.fresh_not_mem`, `ThemeCompiler.Naming.fresh_eq_numbered` — **a fresh name is
  not taken**, and has the first number that is free;
* `ThemeCompiler.Model.checkScope_uniqueSlugs` — **a forest with unique slugs passes the check of a
  scope**, and leaves the same slugs taken;
* `ThemeCompiler.Model.checkSlugs_assignIds` — and so it does with identifiers.
-/

import Mathlib.Data.List.Nodup
import Mathlib.Data.List.Range
import Mathlib.Data.List.Perm.Subperm
import Mathlib.Order.Bounds.Defs
import ThemeCompiler.Model.Extraction
import ThemeCompiler.Validation

set_option relaxedAutoImplicit false
set_option autoImplicit false

namespace ThemeCompiler

/-! ### Fresh names -/

namespace Naming

theorem toString_injective : Function.Injective (toString : Nat → String) := by
  intro m n h
  have hdigits : Nat.toDigits 10 m = Nat.toDigits 10 n := by
    rw [← Nat.toList_repr, ← Nat.toList_repr, ← Nat.toString_eq_repr, ← Nat.toString_eq_repr, h]
  rw [← Nat.ofDigitChars_ten_toDigits (n := m), hdigits, Nat.ofDigitChars_ten_toDigits]

theorem numbered_injective (name : String) : Function.Injective (numbered name) := by
  intro m n h
  have hlist := congrArg String.toList h
  simp only [numbered, String.toList_append, List.append_cancel_left_eq] at hlist
  exact toString_injective (String.toList_inj.1 hlist)

/-- A search that ends at a taken name has seen taken names only. -/
theorem numbered_mem_of_freshFrom_mem {name : String} {taken : List String} {fuel n : Nat}
    (h : freshFrom name taken fuel n ∈ taken) {k : Nat} (hk : k ≤ fuel) :
    numbered name (n + k) ∈ taken := by
  induction fuel generalizing n k with
  | zero =>
      obtain rfl : k = 0 := by omega
      exact h
  | succ fuel ih =>
      rw [freshFrom] at h
      split at h
      · next hn =>
          cases k with
          | zero => exact List.contains_iff_mem.1 hn
          | succ k =>
              have hmem := ih h (k := k) (by omega)
              rwa [Nat.add_assoc, Nat.add_comm 1 k] at hmem
      · next hn => exact absurd (List.contains_iff_mem.2 h) hn

/-- **A fresh name is not taken.** -/
theorem fresh_not_mem (name : String) (taken : List String) : fresh name taken ∉ taken := by
  intro hmem
  rw [fresh] at hmem
  split at hmem
  · -- one more number is tried than names are taken
    have hsubset : (List.range (taken.length + 1)).map (numbered name <| 2 + ·) ⊆ taken := by
      intro other hother
      obtain ⟨k, hk, rfl⟩ := List.mem_map.1 hother
      exact numbered_mem_of_freshFrom_mem hmem (by simpa using Nat.le_of_lt_succ (List.mem_range.1 hk))
    have hnodup : ((List.range (taken.length + 1)).map (numbered name <| 2 + ·)).Nodup :=
      List.nodup_range.map fun m n h => Nat.add_left_cancel (numbered_injective name h)
    have hlength := (hnodup.subperm hsubset).length_le
    rw [List.length_map, List.length_range] at hlength
    omega
  · next hname => exact hname (List.contains_iff_mem.2 hmem)

theorem fresh_of_not_mem {name : String} {taken : List String} (h : name ∉ taken) :
    fresh name taken = name := by
  rw [fresh, if_neg (mt List.contains_iff_mem.1 h)]

/-- The numbers are tried one after the other. -/
theorem exists_freshFrom_eq (name : String) (taken : List String) (fuel n : Nat) :
    ∃ m, n ≤ m ∧ freshFrom name taken fuel n = numbered name m ∧
      ∀ k, n ≤ k → k < m → numbered name k ∈ taken := by
  induction fuel generalizing n with
  | zero => exact ⟨n, Nat.le_refl n, rfl, fun k hnk hkn => absurd hnk (Nat.not_le.2 hkn)⟩
  | succ fuel ih =>
      rw [freshFrom]
      split
      · next hn =>
          obtain ⟨m, hm, heq, hbelow⟩ := ih (n + 1)
          refine ⟨m, by omega, heq, fun k hnk hkm => ?_⟩
          rcases Nat.eq_or_lt_of_le hnk with rfl | hlt
          · exact List.contains_iff_mem.1 hn
          · exact hbelow k hlt hkm
      · exact ⟨n, Nat.le_refl n, rfl, fun k hnk hkn => absurd hnk (Nat.not_le.2 hkn)⟩

/-- **The search for a fresh name ends at the first number that is free.** -/
theorem fresh_eq_numbered {name : String} {taken : List String} (h : name ∈ taken) :
    ∃ n, IsLeast {n | 2 ≤ n ∧ numbered name n ∉ taken} n ∧ fresh name taken = numbered name n := by
  have hfresh : fresh name taken = freshFrom name taken taken.length 2 := by
    rw [fresh, if_pos (List.contains_iff_mem.2 h)]
  obtain ⟨n, hn, heq, hbelow⟩ := exists_freshFrom_eq name taken taken.length 2
  have hfree := fresh_not_mem name taken
  rw [hfresh, heq] at hfree
  refine ⟨n, ⟨⟨hn, hfree⟩, fun m hm => ?_⟩, hfresh.trans heq⟩
  by_contra hlt
  exact hm.2 (hbelow m hm.1 (Nat.lt_of_not_le hlt))

/-- **A fresh name is the name itself or has a number** from 2 on. -/
theorem fresh_cases (name : String) (taken : List String) :
    fresh name taken = name ∨ ∃ n, 2 ≤ n ∧ fresh name taken = numbered name n := by
  by_cases h : name ∈ taken
  · obtain ⟨n, hn, heq⟩ := fresh_eq_numbered h
    exact Or.inr ⟨n, hn.1.1, heq⟩
  · exact Or.inl (fresh_of_not_mem h)

theorem numbered_ne_empty (name : String) (n : Nat) : numbered name n ≠ "" := by
  intro h
  have hlist := congrArg String.toList h
  simp [numbered] at hlist

theorem fresh_ne_empty {name : String} (h : name ≠ "") (taken : List String) :
    fresh name taken ≠ "" := by
  rcases fresh_cases name taken with heq | ⟨n, -, heq⟩
  · rwa [heq]
  · rw [heq]
    exact numbered_ne_empty name n

/-! ### Names that are taken one after the other -/

/-- **Different names that are free are taken**, the last one first. -/
structure Takes (names taken taken' : List String) : Prop where
  eq : taken' = names.reverse ++ taken
  nodup : names.Nodup
  free : ∀ name ∈ names, name ∉ taken

theorem takes_nil {taken taken' : List String} : Takes [] taken taken' ↔ taken' = taken :=
  ⟨fun h => h.eq, fun h => ⟨h, List.nodup_nil, nofun⟩⟩

theorem takes_singleton {name : String} {taken taken' : List String} :
    Takes [name] taken taken' ↔ name ∉ taken ∧ taken' = name :: taken := by
  refine ⟨fun h => ⟨h.free name List.mem_cons_self, h.eq⟩, fun ⟨hfree, heq⟩ => ?_⟩
  refine ⟨heq, List.nodup_singleton name, fun other hother => ?_⟩
  rwa [List.mem_singleton.1 hother]

/-- **Names are taken after others.** -/
theorem takes_append {names others taken taken' : List String} :
    Takes (names ++ others) taken taken' ↔
      ∃ between, Takes names taken between ∧ Takes others between taken' := by
  constructor
  · rintro ⟨heq, hnodup, hfree⟩
    rw [List.nodup_append] at hnodup
    rw [List.forall_mem_append] at hfree
    refine ⟨_, ⟨rfl, hnodup.1, hfree.1⟩, ?_, hnodup.2.1, fun name hname => ?_⟩
    · rw [heq, List.reverse_append, List.append_assoc]
    · rw [List.mem_append, List.mem_reverse, not_or]
      exact ⟨fun hmem => hnodup.2.2 name hmem name hname rfl, hfree.2 name hname⟩
  · rintro ⟨between, ⟨rfl, hnodup, hfree⟩, heq, hnodup', hfree'⟩
    have hfree'' : ∀ name ∈ others, name ∉ names ∧ name ∉ taken := by
      intro name hname
      have hnot := hfree' name hname
      rwa [List.mem_append, List.mem_reverse, not_or] at hnot
    refine ⟨?_, ?_, ?_⟩
    · rw [heq, List.reverse_append, List.append_assoc]
    · refine hnodup.append hnodup' fun name hname hname' => ?_
      exact (hfree'' name hname').1 hname
    · rw [List.forall_mem_append]
      exact ⟨hfree, fun name hname => (hfree'' name hname).2⟩

/-- A fresh name is taken. -/
theorem takes_fresh (name : String) (taken : List String) :
    Takes [fresh name taken] taken (fresh name taken :: taken) :=
  takes_singleton.2 ⟨fresh_not_mem name taken, rfl⟩

end Naming

/-! ### Scopes -/

/-- **Every field of a tree but a container has a slug.** -/
def Field.Named (f : Field) : Prop := ∀ g ∈ f.preorder, g.kind = .container ∨ g.slug ≠ ""

namespace Field

theorem forall_preorderAll {Q : Field → Prop} {fields : List Field} :
    (∀ g ∈ preorderAll fields, Q g) ↔ ∀ f ∈ fields, ∀ g ∈ f.preorder, Q g := by
  induction fields with
  | nil => simp [preorderAll]
  | cons f rest ih => simp only [preorderAll, List.forall_mem_append, List.forall_mem_cons, ih]

theorem forall_preorder_mk {Q : Field → Prop} {info : FieldInfo} {children : List Field} :
    (∀ g ∈ (Field.mk info children).preorder, Q g) ↔
      Q (.mk info children) ∧ ∀ f ∈ children, ∀ g ∈ f.preorder, Q g := by
  rw [preorder, List.forall_mem_cons, forall_preorderAll]

theorem forall_preorderAll_cons {Q : Field → Prop} {info : FieldInfo} {children rest : List Field} :
    (∀ g ∈ preorderAll (.mk info children :: rest), Q g) ↔
      Q (.mk info children) ∧ (∀ g ∈ preorderAll children, Q g) ∧ ∀ g ∈ preorderAll rest, Q g := by
  rw [preorderAll, preorder, List.forall_mem_append, List.forall_mem_cons, and_assoc]

theorem named_mk {info : FieldInfo} {children : List Field} :
    (Field.mk info children).Named ↔
      (info.kind = .container ∨ info.slug ≠ "") ∧ ∀ f ∈ children, f.Named :=
  forall_preorder_mk

end Field

namespace Model

open Validation

/-- A fresh slug passes the check. -/
theorem checkSlug_fresh {slug : String} (h : slug ≠ "") (taken : List String) :
    checkSlug (Naming.fresh slug taken) taken = .ok () := by
  have hne : (Naming.fresh slug taken).isEmpty = false := by
    simpa using Naming.fresh_ne_empty h taken
  rw [checkSlug, hne, if_neg (by simp), if_neg]
  rw [List.contains_iff_mem]
  exact Naming.fresh_not_mem slug taken

mutual

/-- A field with unique slugs passes the check of its scope. -/
theorem checkField_uniqueSlug : ∀ (f : Field) (taken : List String), f.Named →
    checkField (uniqueSlug f taken).1 taken = .ok (uniqueSlug f taken).2
  | .mk info children, taken, h => by
      obtain ⟨hslug, hchildren⟩ := Field.named_mk.1 h
      have hscope := checkScope_uniqueSlugs children
      rw [uniqueSlug]
      -- containers are transparent, repeaters open a scope, all else is a leaf
      cases hkind : info.kind with
      | container => simp only [checkField, hkind, hscope taken hchildren]
      | repeater =>
          have hfresh := checkSlug_fresh (hslug.resolve_left (by simp [hkind])) taken
          simp only [checkField, hfresh, hscope [] hchildren]
          rfl
      | text | textarea | image | link | formField =>
          have hfresh := checkSlug_fresh (hslug.resolve_left (by simp [hkind])) taken
          simp only [checkField, hfresh]
          rfl

/-- **A forest with unique slugs passes the check of a scope.** -/
theorem checkScope_uniqueSlugs : ∀ (fields : List Field) (taken : List String),
    (∀ f ∈ fields, f.Named) →
      checkScope (uniqueSlugs fields taken).1 taken = .ok (uniqueSlugs fields taken).2
  | [], _, _ => rfl
  | f :: rest, taken, h => by
      have hfield := checkField_uniqueSlug f taken (h f List.mem_cons_self)
      have hrest := checkScope_uniqueSlugs rest (uniqueSlug f taken).2
        fun g hg => h g (List.mem_cons_of_mem f hg)
      rw [uniqueSlugs, checkScope, hfield]
      exact hrest

end

mutual

/-- Identifiers do not matter to the check of a scope. -/
theorem checkField_assignId (idOf : String → String) : ∀ (around : String) (index : Nat)
    (f : Field) (taken : List String),
    checkField (assignId idOf around index f) taken = checkField f taken
  | around, index, .mk info children, taken => by
      have hscope := checkScope_assignIdsFrom idOf (idPath around index info.slug) 0 children
      rw [assignId, checkField, checkField, hscope, hscope]

/-- Identifiers do not matter to the check of a scope. -/
theorem checkScope_assignIdsFrom (idOf : String → String) : ∀ (around : String) (index : Nat)
    (fields : List Field) (taken : List String),
    checkScope (assignIdsFrom idOf around index fields) taken = checkScope fields taken
  | _, _, [], _ => rfl
  | around, index, f :: rest, taken => by
      rw [assignIdsFrom, checkScope, checkScope, checkField_assignId idOf around index f taken]
      congr 1
      funext taken'
      exact checkScope_assignIdsFrom idOf around (index + 1) rest taken'

end

/-- **A forest with unique slugs and identifiers passes the check of its slugs.** -/
theorem checkSlugs_assignIds (idOf : String → String) {fields : List Field}
    (h : ∀ f ∈ fields, f.Named) :
    checkSlugs (assignIds idOf (uniqueSlugs fields []).1) = .ok () := by
  rw [checkSlugs, assignIds, checkScope_assignIdsFrom, checkScope_uniqueSlugs fields [] h]
  rfl

end Model

end ThemeCompiler
