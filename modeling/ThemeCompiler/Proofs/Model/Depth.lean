/-
**How deep a content model is.**

A scan goes a limited number of levels down.  At the cap it finds nothing, but then one draft stands
for what is inside the first instance of a repeater, so the forest of a page may be one level higher
than the cap allows; list items that are looked into hand their fields up and add no level.  Slugs
and identifiers change no height, so every recursion over the content model ends after that many
levels too.

Below the elements of a page there is nothing to find.  So the cap is not felt where a page has
fewer levels of elements: a scan with more levels left than there are levels of elements below its
container gives the same with any other cap of this kind.

Main definitions:

* `ThemeCompiler.Field.height`, `ThemeCompiler.Field.heightAll` — the levels of a field and of a
  forest;
* `ThemeCompiler.Field.foldAll`, `ThemeCompiler.Field.foldWithin` — any recursion over a forest, as
  a whole and stopped after some levels;
* `ThemeCompiler.Document.elementDepth` — the levels of elements below a node.

Main results:

* `ThemeCompiler.Field.foldWithin_eq` — **a recursion does not see a stop below the last level**;
* `ThemeCompiler.Model.height_scanNode` — what a scan finds is at most one level higher than its
  cap;
* `ThemeCompiler.Model.surveyNode_eq_of_elementDepth_lt` — a survey does not depend on a cap that it
  does not reach;
* `ThemeCompiler.Model.extract_within_cap` — **the height of the content model, and when the cap
  counts**.
-/

import Mathlib.Data.List.MinMax
import Mathlib.Order.Nat
import ThemeCompiler.Proofs.Model.Echoes
import ThemeCompiler.Proofs.Model.Renaming

set_option relaxedAutoImplicit false
set_option autoImplicit false

namespace ThemeCompiler

/-! ### Levels of fields -/

namespace Field

mutual

/-- The number of levels of a field, itself included. -/
def height : Field → Nat
  | mk _ children => heightAll children + 1

/-- **The number of levels of a forest.** -/
def heightAll : List Field → Nat
  | [] => 0
  | f :: rest => max (height f) (heightAll rest)

end

theorem heightAll_le_iff {fields : List Field} {levels : Nat} :
    heightAll fields ≤ levels ↔ ∀ f ∈ fields, f.height ≤ levels := by
  induction fields with
  | nil => simp [heightAll]
  | cons f rest ih => rw [heightAll, Nat.max_le, ih, List.forall_mem_cons]

theorem height_children_lt : ∀ f : Field, heightAll f.children < f.height
  | mk _ children => by
      rw [height]
      exact Nat.lt_succ_self (heightAll children)

/-! ### Recursions over a forest -/

section

variable {β : Type} (visit : FieldInfo → List β → β)

mutual

/-- What a recursion gives at a field, from what it gives at the fields inside. -/
def fold : Field → β
  | mk info children => visit info (foldAll children)

/-- **What a recursion gives at the fields of a list.**  What it takes along on its way down, and
what it hands on from one field to the next, are arguments of what it gives. -/
def foldAll : List Field → List β
  | [] => []
  | f :: rest => fold f :: foldAll rest

end

/-- The same recursion, but nothing is visited after so many levels. -/
def foldWithin : Nat → List Field → List β
  | 0, _ => []
  | levels + 1, fields => fields.map fun f => visit f.info (foldWithin levels f.children)

theorem foldAll_eq_map (fields : List Field) : foldAll visit fields = fields.map (fold visit) := by
  induction fields with
  | nil => rfl
  | cons f rest ih => rw [foldAll, ih, List.map_cons]

theorem fold_eq : ∀ f : Field, fold visit f = visit f.info (foldAll visit f.children)
  | mk _ _ => by rw [fold]; rfl

/-- **A recursion does not see a stop below the last level.** -/
theorem foldWithin_eq {levels : Nat} {fields : List Field} (h : heightAll fields ≤ levels) :
    foldWithin visit levels fields = foldAll visit fields := by
  induction levels generalizing fields with
  | zero =>
      cases fields with
      | nil => rfl
      | cons f rest =>
          have hf : f.height ≤ 0 := heightAll_le_iff.1 h f List.mem_cons_self
          exact absurd (Nat.zero_lt_of_lt (height_children_lt f)) (Nat.not_lt.2 hf)
  | succ levels ih =>
      rw [foldAll_eq_map, foldWithin]
      refine List.map_congr_left fun f hf => ?_
      have hheight : f.height ≤ levels + 1 := heightAll_le_iff.1 h f hf
      rw [fold_eq, ih (Nat.lt_succ_iff.1 ((height_children_lt f).trans_le hheight))]

end

end Field

/-! ### Levels of elements -/

namespace Document

/-- The levels of elements below a node, at most `fuel`. -/
def elementLevels (d : Document) : Nat → NodeId → Nat
  | 0, _ => 0
  | fuel + 1, n => ((d.elementChildren n).map fun c => d.elementLevels fuel c + 1).foldr max 0

/-- **The number of levels of elements below a node.** -/
def elementDepth (d : Document) (n : NodeId) : Nat := d.elementLevels d.nodes.size n

namespace WellFormed

variable {d : Document}

/-- **The levels below a node** are those below its child elements, and one more. -/
theorem elementDepth_eq (hd : d.WellFormed) (n : NodeId) :
    d.elementDepth n = ((d.elementChildren n).map fun c => d.elementDepth c + 1).foldr max 0 := by
  refine hd.nodes.walk_eq d.elementLevels (fun fuel i hi => ?_) (fun fuel i hc => ?_) n
  · cases fuel with
    | zero => rfl
    | succ fuel => simp [elementLevels, elementChildren, children, hi]
  · refine congrArg (List.foldr max 0) (List.map_congr_left fun c hmem => ?_)
    exact congrArg (· + 1) (hc c (mem_elementChildren.1 hmem).1)

theorem elementDepth_lt (hd : d.WellFormed) {n c : NodeId} (hc : c ∈ d.elementChildren n) :
    d.elementDepth c < d.elementDepth n := by
  have hmem : d.elementDepth c + 1 ∈ (d.elementChildren n).map fun c => d.elementDepth c + 1 :=
    List.mem_map_of_mem hc
  rw [hd.elementDepth_eq n]
  exact List.le_max_of_le hmem (Nat.le_refl _)

end WellFormed

end Document

namespace Model

open Field (height heightAll)

/-! ### The height of what is found -/

theorem height_draft_le_iff {place : Option Nat} {info : FieldInfo} {children : List Draft}
    {levels : Nat} :
    (Draft.mk place info children).toField.height ≤ levels + 1 ↔
      ∀ draft ∈ children, draft.toField.height ≤ levels := by
  rw [Draft.toField, height, Nat.add_le_add_iff_right, Field.heightAll_le_iff]
  simp only [Draft.mem_toFields, forall_exists_index, and_imp, forall_apply_eq_imp_iff₂]

/-- A draft with nothing inside is one level. -/
theorem height_leaf_le {place : Option Nat} {info : FieldInfo} (levels : Nat) :
    (Draft.mk place info []).toField.height ≤ levels + 1 :=
  height_draft_le_iff.2 (List.forall_mem_nil _)

/-- **A level of a scan adds one level of fields.**  The drafts that stand for an instance are inside
of a repeater even if nothing was found below: this is the level above the cap. -/
theorem lifts_height (p : Page) (depth : Nat) : Lifts p (fun _ => True)
    (·.toField.height ≤ depth + 1) (·.toField.height ≤ depth + 2) where
  ofClasses _ := trivial
  items := trivial
  handed _ hdraft := Nat.le_succ_of_le hdraft
  control _ _ _ := height_leaf_le _
  item n slug _ := by
    rw [itemDraft]
    split <;> exact height_leaf_le _
  member _ _ _ := height_leaf_le _
  leaf _ _ _ _ _ hdraft := by
    obtain ⟨_, _, -, rfl⟩ := leafDraft?_eq_some hdraft
    exact height_leaf_le _
  repeater _ _ _ _ _ _ _ _ hinner := height_draft_le_iff.2 hinner
  container _ _ _ hinner := height_draft_le_iff.2 hinner

/-- **What a scan finds is at most one level higher than its cap**, in whatever state it starts. -/
theorem height_scanNode (p : Page) (depth : Nat) :
    Yields (fun _ => True) (·.toField.height ≤ depth + 1) (scanNode p depth) := by
  induction depth with
  | zero => exact yields_scanNode_zero p _ _
  | succ depth ih => exact (lifts_height p depth).scanNode ih

/-! ### The height of the content model -/

/-- Numbers change no height. -/
theorem Renumbers.heightAll_eq {fields fields' : List Field} (h : Renumbers fields fields') :
    heightAll fields' = heightAll fields := by
  induction h with
  | nil => rfl
  | cons _ _ _ ih ih' => simp only [heightAll, height, ih, ih']

mutual

theorem height_assignId (idOf : String → String) : ∀ (around : String) (index : Nat) (f : Field),
    (assignId idOf around index f).height = f.height
  | around, index, .mk info children => by
      rw [assignId, height, height, heightAll_assignIdsFrom idOf _ 0 children]

/-- Identifiers change no height. -/
theorem heightAll_assignIdsFrom (idOf : String → String) : ∀ (around : String) (index : Nat)
    (fields : List Field), heightAll (assignIdsFrom idOf around index fields) = heightAll fields
  | _, _, [] => rfl
  | around, index, f :: rest => by
      rw [assignIdsFrom, heightAll, heightAll, height_assignId idOf around index f,
        heightAll_assignIdsFrom idOf around (index + 1) rest]

end

/-- **The content model is as high as what was found.** -/
theorem heightAll_extract (maxDepth : Nat) (d : Document) :
    heightAll (extract maxDepth d) = heightAll (Draft.toFields (drafts maxDepth d)) :=
  (heightAll_assignIdsFrom _ "" 0 _).trans (renumbers_uniqueSlugs _ []).heightAll_eq

theorem heightAll_extract_le (maxDepth : Nat) (d : Document) :
    heightAll (extract maxDepth d) ≤ maxDepth + 1 := by
  rw [heightAll_extract, Field.heightAll_le_iff]
  intro f hf
  obtain ⟨draft, hdraft, rfl⟩ := Draft.mem_toFields.1 hf
  exact height_scanNode _ maxDepth _ _ _ _ trivial draft hdraft

/-! ### Where the cap is not reached -/

theorem surveyAll_congr {find find' : NodeId → Nat → List Draft × Nat} {nodes : List NodeId}
    (h : ∀ n ∈ nodes, find n = find' n) : surveyAll find nodes = surveyAll find' nodes := by
  funext k
  induction nodes generalizing k with
  | nil => rfl
  | cons n rest ih =>
      obtain ⟨hfirst, hrest⟩ := List.forall_mem_cons.1 h
      simp only [surveyAll, hfirst, ih hrest]

/-- **A survey goes on at child elements only.** -/
theorem surveyNode_congr {p : Page} {depth depth' : Nat} {n : NodeId}
    (h : ∀ c ∈ p.doc.elementChildren n, surveyNode p depth c = surveyNode p depth' c) :
    surveyNode p (depth + 1) n = surveyNode p (depth' + 1) n := by
  funext insideList context k
  rw [surveyNode, surveyNode]
  split
  · rfl
  split
  · next first others hitems =>
      have hfirst : first ∈ p.doc.elementChildren n := by
        rw [items] at hitems
        split at hitems
        · exact (List.mem_filter.1 (hitems ▸ List.mem_cons_self)).1
        · exact absurd hitems (by simp)
      simp only [surveyItem, h first hfirst]
  · have hgrouped : surveyAll (surveyGroup p (surveyNode p depth)) (leaders p.doc n) =
        surveyAll (surveyGroup p (surveyNode p depth')) (leaders p.doc n) := by
      refine surveyAll_congr fun c hc => ?_
      have hchild := mem_elementChildren_of_repeated (leaders_subset p.doc n hc)
      funext k
      simp only [surveyGroup, h c hchild]
    have hothers : ∀ context, surveyAll (surveySingle p (surveyNode p depth) insideList context)
        (singles p.doc n) = surveyAll (surveySingle p (surveyNode p depth') insideList context)
        (singles p.doc n) := by
      intro context
      refine surveyAll_congr fun c hc => ?_
      have hchild := (List.mem_filter.1 hc).1
      funext k
      simp only [surveySingle, h c hchild]
    simp only [hgrouped, hothers]

/-- **A survey does not depend on a cap that it does not reach.** -/
theorem surveyNode_eq_of_elementDepth_lt {p : Page} (hd : p.doc.WellFormed) {cap cap' : Nat}
    {n : NodeId} (hcap : p.doc.elementDepth n < cap) (hcap' : p.doc.elementDepth n < cap') :
    surveyNode p cap n = surveyNode p cap' n := by
  induction cap generalizing cap' n with
  | zero => exact absurd hcap (Nat.not_lt_zero _)
  | succ depth ih =>
      obtain ⟨depth', rfl⟩ := Nat.exists_eq_add_one.2 (Nat.zero_lt_of_lt hcap')
      refine surveyNode_congr fun c hc => ?_
      have hlt := hd.elementDepth_lt hc
      exact ih (by omega) (by omega)

/-- **The height of the content model, and when the cap counts.**  Whatever the page, its forest has
at most one level more than the cap, and none with the cap 0, so that any recursion over it may stop
after so many levels.  Of a well-formed page any two caps above the levels of elements below its
body, or below the root where there is no body, give the same content model. -/
theorem extract_within_cap (maxDepth : Nat) (d : Document) :
    heightAll (extract maxDepth d) ≤ maxDepth + 1 ∧ extract 0 d = [] ∧
      (∀ (β : Type) (visit : FieldInfo → List β → β),
        Field.foldWithin visit (maxDepth + 1) (extract maxDepth d) =
          Field.foldAll visit (extract maxDepth d)) ∧
      (d.WellFormed → ∀ cap cap', d.elementDepth (d.body?.getD Arena.root) < cap →
        d.elementDepth (d.body?.getD Arena.root) < cap' → extract cap d = extract cap' d) := by
  have hheight := heightAll_extract_le maxDepth d
  refine ⟨hheight, rfl, fun β visit => Field.foldWithin_eq visit hheight, ?_⟩
  intro hd cap cap' hcap hcap'
  have hsurvey := surveyNode_eq_of_elementDepth_lt (p := Page.ofDocument d) hd hcap hcap'
  rw [extract, extract, drafts_eq_survey hd, drafts_eq_survey hd, hsurvey]

/-- A list of one item: with the cap at its two levels the forest is one level higher, and the cap
does not count above them. -/
theorem extract_within_cap_of_list :
    let d := Document.parse "<ul><li>x</li></ul>"
    d.WellFormed ∧ d.elementDepth (d.body?.getD Arena.root) = 2 ∧ extract 3 d = extract 20 d ∧
      heightAll (extract 2 d) = 3 := by
  intro d
  have hd : d.WellFormed := Document.WellFormed.parse _
  have hdepth : d.elementDepth (d.body?.getD Arena.root) = 2 := by decide +kernel
  refine ⟨hd, hdepth, ?_, ?_⟩
  · exact (extract_within_cap 2 d).2.2.2 hd 3 20 (by omega) (by omega)
  · rw [heightAll_extract]
    decide +kernel

end Model

end ThemeCompiler
