/-
**Identifiers are unique in a model.**

The path of a field begins with the path around it, and the number of the field is set off by a
colon, which no number contains.  So no two fields of a forest have the same path, whatever their
slugs are, and their identifiers differ as far as the digest tells paths apart.

Main definitions:

* `ThemeCompiler.Model.pathsOf`, `ThemeCompiler.Model.pathsFrom` — the paths whose digests become
  the identifiers;
* `ThemeCompiler.Model.hashedPaths`, `ThemeCompiler.Model.TellsApart` — those of a page, and that
  the digest tells them apart.

Main results:

* `ThemeCompiler.Model.nodup_pathsFrom` — **no two fields have the same path**;
* `ThemeCompiler.Model.checkIds_eq_ok_iff`, `ThemeCompiler.Model.checkIds_assignIds` — **identifiers
  pass their check** when they are different, hence when different paths give different ones;
* `ThemeCompiler.Model.distinct_paths` — **paths and identifiers of any forest.**
-/

import ThemeCompiler.Proofs.Model.Slugs

set_option relaxedAutoImplicit false
set_option autoImplicit false

namespace ThemeCompiler

namespace Model

open Validation

/-! ### Paths -/

mutual

/-- The paths of a field and of the fields inside of it. -/
def pathsOf (around : String) (index : Nat) : Field → List String
  | .mk info children =>
      idPath around index info.slug :: pathsFrom (idPath around index info.slug) 0 children

/-- **The paths of the fields of a list**, from an index on, and of those inside of them. -/
def pathsFrom (around : String) (index : Nat) : List Field → List String
  | [] => []
  | f :: rest => pathsOf around index f ++ pathsFrom around (index + 1) rest

end

/-- What the path of a field and all paths inside of it begin with. -/
def stem (around : String) (index : Nat) : List Char :=
  (around.toList ++ ['/']) ++ ((toString index).toList ++ [':'])

theorem toList_idPath (around : String) (index : Nat) (slug : String) :
    (idPath around index slug).toList = stem around index ++ slug.toList := by
  simp [idPath, stem]

/-- A number is set off by the colon after it. -/
theorem eq_of_prefix_colon {m n : Nat} {rest rest' : List Char}
    (h : (toString m).toList ++ ':' :: rest = (toString n).toList ++ ':' :: rest') : m = n := by
  have hdigits : ∀ k : Nat, ∀ c ∈ (toString k).toList, (c != ':') = true := by
    intro k c hc
    rw [Nat.toString_eq_repr, Nat.toList_repr] at hc
    have hdigit := Nat.isDigit_of_mem_toDigits (by decide) (by decide) hc
    refine bne_iff_ne.2 fun hcolon => ?_
    rw [hcolon] at hdigit
    exact absurd hdigit (by decide)
  -- up to the first colon there is the number alone
  have htake := congrArg (List.takeWhile (· != ':')) h
  rw [List.takeWhile_append_of_pos (hdigits m), List.takeWhile_append_of_pos (hdigits n)] at htake
  refine Naming.toString_injective (String.toList_inj.1 ?_)
  simpa using htake

theorem index_eq_of_stem_prefix {around : String} {i j : Nat} {path : List Char}
    (hi : stem around i <+: path) (hj : stem around j <+: path) : i = j := by
  obtain ⟨rest, rfl⟩ := hi
  obtain ⟨rest', h⟩ := hj
  simp only [stem, List.append_assoc, List.append_cancel_left_eq, List.cons_append, List.nil_append,
    List.cons.injEq, true_and] at h
  exact (eq_of_prefix_colon h).symm

mutual

/-- **The paths of a field begin with its stem.** -/
theorem stem_prefix_of_mem_pathsOf : ∀ (f : Field) (around : String) (index : Nat) (path : String),
    path ∈ pathsOf around index f → stem around index <+: path.toList
  | .mk info children, around, index, path, h => by
      have hself : stem around index <+: (idPath around index info.slug).toList := by
        rw [toList_idPath]
        exact List.prefix_append ..
      rw [pathsOf] at h
      rcases List.mem_cons.1 h with rfl | h
      · exact hself
      · obtain ⟨i, _, hi⟩ := exists_stem_prefix_of_mem_pathsFrom children _ 0 path h
        refine hself.trans (List.IsPrefix.trans ?_ hi)
        rw [stem, List.append_assoc]
        exact List.prefix_append ..

/-- The paths of a list begin with the stem of one of its fields. -/
theorem exists_stem_prefix_of_mem_pathsFrom : ∀ (fields : List Field) (around : String)
    (index : Nat) (path : String), path ∈ pathsFrom around index fields →
      ∃ i, index ≤ i ∧ stem around i <+: path.toList
  | [], _, _, _, h => absurd h (by simp [pathsFrom])
  | f :: rest, around, index, path, h => by
      rw [pathsFrom] at h
      rcases List.mem_append.1 h with h | h
      · exact ⟨index, Nat.le_refl _, stem_prefix_of_mem_pathsOf f around index path h⟩
      · obtain ⟨i, hle, hi⟩ := exists_stem_prefix_of_mem_pathsFrom rest around (index + 1) path h
        exact ⟨i, by omega, hi⟩

end

mutual

theorem nodup_pathsOf : ∀ (f : Field) (around : String) (index : Nat),
    (pathsOf around index f).Nodup
  | .mk info children, around, index => by
      rw [pathsOf, List.nodup_cons]
      refine ⟨fun h => ?_, nodup_pathsFrom children _ 0⟩
      -- the paths inside are longer
      obtain ⟨i, _, hi⟩ := exists_stem_prefix_of_mem_pathsFrom children _ 0 _ h
      have hlength := hi.length_le
      simp only [stem, List.length_append, List.length_singleton] at hlength
      omega

/-- **No two fields of a list have the same path.** -/
theorem nodup_pathsFrom : ∀ (fields : List Field) (around : String) (index : Nat),
    (pathsFrom around index fields).Nodup
  | [], _, _ => List.nodup_nil
  | f :: rest, around, index => by
      rw [pathsFrom]
      refine (nodup_pathsOf f around index).append (nodup_pathsFrom rest around (index + 1)) ?_
      -- a path of two fields would begin with two different numbers
      intro path hf hrest
      have hstem := stem_prefix_of_mem_pathsOf f around index path hf
      obtain ⟨i, hle, hi⟩ := exists_stem_prefix_of_mem_pathsFrom rest around (index + 1) path hrest
      have heq := index_eq_of_stem_prefix hstem hi
      omega

end

/-! ### Identifiers -/

mutual

/-- The identifiers of a field are made from its paths. -/
theorem ids_assignId (idOf : String → String) : ∀ (f : Field) (around : String) (index : Nat),
    (assignId idOf around index f).preorder.map (·.info.id) = (pathsOf around index f).map idOf
  | .mk info children, around, index => by
      have hinside := ids_assignIdsFrom idOf children (idPath around index info.slug) 0
      rw [assignId, Field.preorder, pathsOf, List.map_cons, List.map_cons, hinside]
      rfl

/-- The identifiers of a list are made from its paths. -/
theorem ids_assignIdsFrom (idOf : String → String) : ∀ (fields : List Field) (around : String)
    (index : Nat), (Field.preorderAll (assignIdsFrom idOf around index fields)).map (·.info.id) =
      (pathsFrom around index fields).map idOf
  | [], _, _ => rfl
  | f :: rest, around, index => by
      rw [assignIdsFrom, Field.preorderAll, pathsFrom, List.map_append, List.map_append,
        ids_assignId idOf f, ids_assignIdsFrom idOf rest]

end

/-- Identifiers pass the check exactly when they are different and not taken. -/
theorem checkIdsFrom_eq_ok_iff {fields : List Field} {taken : List String} :
    checkIdsFrom fields taken = .ok () ↔
      (fields.map (·.info.id)).Nodup ∧ ∀ f ∈ fields, f.info.id ∉ taken := by
  induction fields generalizing taken with
  | nil => simp [checkIdsFrom]
  | cons f rest ih =>
      rw [checkIdsFrom, List.map_cons, List.nodup_cons, List.forall_mem_cons]
      split
      · next hmem => simp [List.contains_iff_mem.1 hmem]
      · next hmem =>
          have hfree : f.info.id ∉ taken := mt List.contains_iff_mem.2 hmem
          rw [ih]
          constructor
          · rintro ⟨hnodup, hrest⟩
            refine ⟨⟨fun hf => ?_, hnodup⟩, hfree, fun g hg hg' => ?_⟩
            · obtain ⟨g, hg, heq⟩ := List.mem_map.1 hf
              exact hrest g hg (heq ▸ List.mem_cons_self)
            · exact hrest g hg (List.mem_cons_of_mem _ hg')
          · rintro ⟨⟨hf, hnodup⟩, -, hrest⟩
            refine ⟨hnodup, fun g hg hg' => ?_⟩
            rcases List.mem_cons.1 hg' with heq | hg'
            · exact hf (heq ▸ List.mem_map_of_mem hg)
            · exact hrest g hg hg'

/-- **A forest passes the check of its identifiers exactly when they are different.** -/
theorem checkIds_eq_ok_iff {fields : List Field} :
    checkIds fields = .ok () ↔ ((Field.preorderAll fields).map (·.info.id)).Nodup := by
  rw [checkIds, checkIdsFrom_eq_ok_iff]
  exact and_iff_left fun _ _ => List.not_mem_nil

/-- **The identifiers of a forest differ exactly when its paths give different ones.** -/
theorem nodup_ids_assignIds_iff {idOf : String → String} {fields : List Field} :
    ((Field.preorderAll (assignIds idOf fields)).map (·.info.id)).Nodup ↔
      ∀ p ∈ pathsFrom "" 0 fields, ∀ q ∈ pathsFrom "" 0 fields, idOf p = idOf q → p = q := by
  rw [assignIds, ids_assignIdsFrom, List.nodup_map_iff_inj_on (nodup_pathsFrom fields "" 0)]

/-- **The identifiers of a forest pass their check** when its paths give different ones. -/
theorem checkIds_assignIds {idOf : String → String} {fields : List Field}
    (h : ∀ p ∈ pathsFrom "" 0 fields, ∀ q ∈ pathsFrom "" 0 fields, idOf p = idOf q → p = q) :
    checkIds (assignIds idOf fields) = .ok () :=
  checkIds_eq_ok_iff.2 (nodup_ids_assignIds_iff.2 h)

/-- **The fields of a forest have different paths**, whatever their slugs are.  Their identifiers
are made from these paths, one from each, parents before children; so with any digest they differ,
and pass their check, exactly when the digest tells the paths apart. -/
theorem distinct_paths (fields : List Field) :
    let paths := pathsFrom "" 0 fields
    let ids := fun idOf => (Field.preorderAll (assignIds idOf fields)).map (·.info.id)
    let tellsApart := fun idOf : String → String =>
      ∀ p ∈ paths, ∀ q ∈ paths, idOf p = idOf q → p = q
    paths.Nodup ∧
      ∀ idOf, ids idOf = paths.map idOf ∧ ((ids idOf).Nodup ↔ tellsApart idOf) ∧
        (checkIds (assignIds idOf fields) = .ok () ↔ tellsApart idOf) := by
  intro paths ids tellsApart
  refine ⟨nodup_pathsFrom fields "" 0, fun idOf => ⟨?_, nodup_ids_assignIds_iff, ?_⟩⟩
  · exact ids_assignIdsFrom idOf fields "" 0
  · exact checkIds_eq_ok_iff.trans nodup_ids_assignIds_iff

/-- A slug may look like the rest of a path; the first number tells the fields apart. -/
example :
    let field := fun slug => Field.mk ⟨"", .container, "", "", "", slug, none, none⟩
    pathsFrom "" 0 [field "a/0:b" [], field "a" [field "b" []], field "" [field "0:a" []]] =
      ["/0:a/0:b", "/1:a", "/1:a/0:b", "/2:", "/2:/0:0:a"] := by
  decide +kernel

/-- **The paths that are digested for a page.** -/
def hashedPaths (maxDepth : Nat) (d : Document) : List String :=
  pathsFrom "" 0 (uniqueSlugs (Draft.toFields (drafts maxDepth d)) []).1

/-- **The digest tells the paths of a page apart.** -/
def TellsApart (maxDepth : Nat) (d : Document) : Prop :=
  ∀ p ∈ hashedPaths maxDepth d, ∀ q ∈ hashedPaths maxDepth d,
    Digest.nameId fieldSpace p = Digest.nameId fieldSpace q → p = q

instance (maxDepth : Nat) (d : Document) : Decidable (TellsApart maxDepth d) :=
  inferInstanceAs (Decidable (∀ p ∈ hashedPaths maxDepth d, ∀ q ∈ hashedPaths maxDepth d,
    Digest.nameId fieldSpace p = Digest.nameId fieldSpace q → p = q))

/-- **The identifiers of a page pass their check** when the digest tells its paths apart. -/
theorem checkIds_extract {maxDepth : Nat} {d : Document} (h : TellsApart maxDepth d) :
    checkIds (extract maxDepth d) = .ok () :=
  checkIds_assignIds h

end Model

end ThemeCompiler
