/-
**Slugs are made unique once.**

Making the slugs of a forest unique leaves them alone where they are unique already: a name that is
free is its own fresh name, so a forest that passes the check of its slugs comes back as it is, with
the same slugs taken after it.  And what comes out passes the check, whatever numbers were given on
the way, because a number is chosen against all slugs of the scope so far, given ones and others
alike.  Both together say that the slugs are unique in every scope afterwards and that doing it twice
is doing it once.

Main definitions:

* `ThemeCompiler.Field.DistinctInScopes` — **the slugs of every scope differ**.

Main results:

* `ThemeCompiler.Model.uniqueSlugs_of_checkScope` — what passes the check is left alone;
* `ThemeCompiler.Model.distinct_uniqueSlugs` — **the slugs of a forest made unique**.
-/

import ThemeCompiler.Proofs.Model.Scopes

set_option relaxedAutoImplicit false
set_option autoImplicit false

namespace ThemeCompiler

/-- **The slugs of every scope of a forest differ.** -/
def Field.DistinctInScopes (fields : List Field) : Prop :=
  ∀ fs, Field.IsScope fields fs → (fs.map Field.slug).Nodup

namespace Model

open Field (preorderAll DistinctInScopes)
open Validation (checkField checkScope checkSlugs checkSlug checkSlug_eq_ok_iff checkSlugs_eq_ok_iff)

/-! ### What passes the check is left alone -/

theorem fresh_of_checkSlug {slug : String} {taken : List String}
    (h : checkSlug slug taken = .ok ()) : Naming.fresh slug taken = slug :=
  Naming.fresh_of_not_mem (checkSlug_eq_ok_iff.1 h).2

mutual

/-- A field that passes the check of its scope keeps all slugs. -/
theorem uniqueSlug_of_checkField : ∀ (f : Field) (taken taken' : List String),
    checkField f taken = .ok taken' → uniqueSlug f taken = (f, taken')
  | .mk ⟨_, kind, _, _, _, _, _, _⟩ children, taken, taken', h => by
      rw [checkField] at h
      rw [uniqueSlug]
      -- containers are transparent, repeaters open a scope, all else is a leaf
      cases kind with
      | container => simp only [uniqueSlugs_of_checkScope children taken taken' h]
      | repeater =>
          obtain ⟨_, hslug, h⟩ := bind_eq_ok_iff.1 h
          obtain ⟨inside, hinside, h⟩ := bind_eq_ok_iff.1 h
          obtain rfl := Except.ok.inj h
          simp only [fresh_of_checkSlug hslug, uniqueSlugs_of_checkScope children [] inside hinside]
      | text | textarea | image | link | formField =>
          obtain ⟨_, hslug, h⟩ := bind_eq_ok_iff.1 h
          obtain rfl := Except.ok.inj h
          simp only [fresh_of_checkSlug hslug]

/-- **What passes the check of a scope keeps all slugs.** -/
theorem uniqueSlugs_of_checkScope : ∀ (fields : List Field) (taken taken' : List String),
    checkScope fields taken = .ok taken' → uniqueSlugs fields taken = (fields, taken')
  | [], taken, taken', h => by
      obtain rfl := Except.ok.inj h
      rfl
  | f :: rest, taken, taken', h => by
      rw [checkScope] at h
      obtain ⟨between, hfirst, hrest⟩ := bind_eq_ok_iff.1 h
      rw [uniqueSlugs]
      simp only [uniqueSlug_of_checkField f taken between hfirst,
        uniqueSlugs_of_checkScope rest between taken' hrest]

end

theorem uniqueSlugs_of_checkSlugs {fields : List Field} (h : checkSlugs fields = .ok ()) :
    (uniqueSlugs fields []).1 = fields := by
  obtain ⟨taken, hscope, -⟩ := bind_eq_ok_iff.1 h
  rw [uniqueSlugs_of_checkScope fields [] taken hscope]

/-! ### Slugs made unique -/

/-- The slugs of a forest made unique pass their check. -/
theorem checkSlugs_uniqueSlugs {fields : List Field} (h : ∀ f ∈ fields, f.Named) :
    checkSlugs (uniqueSlugs fields []).1 = .ok () :=
  bind_eq_ok_iff.2 ⟨_, checkScope_uniqueSlugs fields [] h, rfl⟩

/-- **The slugs of a forest made unique**, if none but those of containers are empty: they differ in
every scope; every field stays in its place with all that it is, and its slug is kept or gets a
number from 2 on; a forest whose slugs differ in every scope stays as it is, so that doing it twice
is doing it once.  The search for a number ends at the first one that gives a free name. -/
theorem distinct_uniqueSlugs {fields : List Field}
    (h : ∀ f ∈ preorderAll fields, f.kind = .container ∨ f.slug ≠ "") :
    DistinctInScopes (uniqueSlugs fields []).1 ∧
      Renumbers fields (uniqueSlugs fields []).1 ∧
      (DistinctInScopes fields → (uniqueSlugs fields []).1 = fields) ∧
      (uniqueSlugs (uniqueSlugs fields []).1 []).1 = (uniqueSlugs fields []).1 ∧
      ∀ (slug : String) (taken : List String), slug ∈ taken → ∃ n,
        IsLeast {n | 2 ≤ n ∧ Naming.numbered slug n ∉ taken} n ∧
          Naming.fresh slug taken = Naming.numbered slug n := by
  have hunique := checkSlugs_uniqueSlugs (Field.forall_preorderAll.1 h)
  refine ⟨?distinct, renumbers_uniqueSlugs fields [], ?kept, uniqueSlugs_of_checkSlugs hunique,
    fun _ _ => Naming.fresh_eq_numbered⟩
  case distinct =>
    intro fs hfs
    exact (checkSlugs_eq_ok_iff.1 hunique fs hfs).nodup
  case kept =>
    intro hdistinct
    refine uniqueSlugs_of_checkSlugs (checkSlugs_eq_ok_iff.2 fun fs hfs => ⟨fun f hf => ?_, ?_⟩)
    · obtain ⟨hmem, hkind⟩ := hfs.mem_preorderAll hf
      exact (h f hmem).resolve_left hkind
    · exact hdistinct fs hfs

/-- Three titles in one scope, one of them inside of a container, beside a slug that looks numbered;
the repeater has a title of its own. -/
theorem distinct_uniqueSlugs_titles :
    let leaf := Field.new .text "p" ""
    let fields : List Field :=
      [leaf "title", (Field.new .container "div" "" "").withChildren [leaf "title_2", leaf "title"],
        (Field.new .repeater "ul" "" "title").withChildren [leaf "title"]]
    (∀ f ∈ preorderAll fields, f.kind = .container ∨ f.slug ≠ "") ∧
      (preorderAll (uniqueSlugs fields []).1).map Field.slug =
        ["title", "", "title_2", "title_3", "title_4", "title"] ∧
      DistinctInScopes (uniqueSlugs fields []).1 ∧
      (uniqueSlugs (uniqueSlugs fields []).1 []).1 = (uniqueSlugs fields []).1 := by
  intro leaf fields
  have hnamed : ∀ f ∈ preorderAll fields, f.kind = .container ∨ f.slug ≠ "" := by decide
  obtain ⟨hdistinct, -, -, htwice, -⟩ := distinct_uniqueSlugs hnamed
  exact ⟨hnamed, by decide, hdistinct, htwice⟩

end Model

end ThemeCompiler
