/-
**The nodes of a well-formed arena, in order.**

`Arena.descendants` and `Arena.lineage` walk with the size of the arena as their fuel.  In a
well-formed arena that is enough: every walk along parent links is shorter.  So both satisfy the
equations one expects of them, and nodes can be treated by induction from the leaves upwards or from
the roots downwards.

Main definitions:

* `ThemeCompiler.Arena.SameLinks` — two arenas that differ at most in the values of their nodes.

Main results:

* `ThemeCompiler.Arena.WellFormed.childInduction`, `ThemeCompiler.Arena.WellFormed.parentInduction` —
  the two inductions;
* `ThemeCompiler.Arena.WellFormed.walk_eq` — **a walk downwards needs no more fuel than there are
  nodes**;
* `ThemeCompiler.Arena.WellFormed.descendants_eq`, `ThemeCompiler.Arena.WellFormed.lineage_eq` —
  the walks, one step unfolded;
* `ThemeCompiler.Arena.WellFormed.mem_descendants_iff_parent` — what is below a node, seen from
  below;
* `ThemeCompiler.Arena.WellFormed.nodup_descendants` — **no node is met twice**;
* `ThemeCompiler.Arena.WellFormed.pairwise_descendants` — **parents come before children**;
* `ThemeCompiler.Arena.WellFormed.isAttached_iff` — a node is attached when it is the root or below.
-/

import Mathlib.Data.Finset.Card
import Mathlib.Data.List.Nodup
import Mathlib.Logic.Relation
import ThemeCompiler.Arena

set_option relaxedAutoImplicit false
set_option autoImplicit false

namespace ThemeCompiler

namespace Arena

variable {α : Type} {a b : Arena α}

/-! ### Places outside of the arena -/

theorem children_of_size_le {i : NodeId} (h : a.size ≤ i) : a.children i = [] := by
  have hnone : a.cells[i]? = none := Array.getElem?_eq_none h
  simp only [children, hnone]

theorem parent?_of_size_le {i : NodeId} (h : a.size ≤ i) : a.parent? i = none := by
  have hnone : a.cells[i]? = none := Array.getElem?_eq_none h
  simp only [parent?, hnone, Option.bind_none]

theorem value?_of_size_le {i : NodeId} (h : a.size ≤ i) : a.value? i = none := by
  have hnone : a.cells[i]? = none := Array.getElem?_eq_none h
  simp only [value?, hnone, Option.map_none]

theorem lt_size_of_parent? {c p : NodeId} (h : a.parent? c = some p) : c < a.size := by
  by_contra hc
  rw [parent?_of_size_le (Nat.le_of_not_lt hc)] at h
  exact absurd h (by simp)

theorem lt_size_of_value? {i : NodeId} {v : α} (h : a.value? i = some v) : i < a.size := by
  by_contra hc
  rw [value?_of_size_le (Nat.le_of_not_lt hc)] at h
  exact absurd h (by simp)

theorem exists_value?_of_lt {i : NodeId} (h : i < a.size) : ∃ v, a.value? i = some v := by
  obtain ⟨c, hcell⟩ : ∃ c, a.cells[i]? = some c := ⟨_, Array.getElem?_eq_getElem h⟩
  exact ⟨_, by rw [value?, hcell, Option.map_some]⟩

/-! ### Arenas with the same links -/

/-- Two arenas with the same nodes and links; the values may differ. -/
structure SameLinks (a b : Arena α) : Prop where
  size_eq : b.size = a.size
  parent?_eq : ∀ i, b.parent? i = a.parent? i
  children_eq : ∀ i, b.children i = a.children i

namespace SameLinks

theorem refl (a : Arena α) : SameLinks a a := ⟨rfl, fun _ => rfl, fun _ => rfl⟩

theorem trans {c : Arena α} (h : SameLinks a b) (h' : SameLinks b c) : SameLinks a c :=
  ⟨h'.size_eq.trans h.size_eq, fun i => (h'.parent?_eq i).trans (h.parent?_eq i),
    fun i => (h'.children_eq i).trans (h.children_eq i)⟩

theorem below_eq (h : SameLinks a b) : ∀ fuel i, b.below fuel i = a.below fuel i
  | 0, _ => rfl
  | fuel + 1, i => by
      simp only [below, h.children_eq]
      exact List.flatMap_congr fun c _ => by rw [h.below_eq fuel c]

theorem descendants_eq (h : SameLinks a b) (i : NodeId) : b.descendants i = a.descendants i := by
  rw [descendants, descendants, h.size_eq, h.below_eq]

theorem wellFormed (h : SameLinks a b) (ha : a.WellFormed) : b.WellFormed where
  root_lt := by rw [h.size_eq]; exact ha.root_lt
  parent_root := by rw [h.parent?_eq]; exact ha.parent_root
  mem_children p c := by rw [h.children_eq, h.parent?_eq]; exact ha.mem_children p c
  nodup_children p := by rw [h.children_eq]; exact ha.nodup_children p
  acyclic := by
    obtain ⟨rank, hrank⟩ := ha.acyclic
    exact ⟨rank, fun c p hp => hrank c p (by rwa [h.parent?_eq] at hp)⟩

end SameLinks

/-! ### Nodes above a node -/

/-- **A node above another**: its parent, the parent of that one, and so on. -/
def Above (a : Arena α) : NodeId → NodeId → Prop :=
  Relation.TransGen fun p c => a.parent? c = some p

/-- Along a ranking no node is above itself. -/
theorem not_above_self_of_rank {rank : NodeId → Nat}
    (hrank : ∀ c p, a.parent? c = some p → rank p < rank c) (i : NodeId) : ¬ a.Above i i := by
  have hlt : ∀ {j k : NodeId}, a.Above j k → rank j < rank k := by
    intro j k hjk
    induction hjk with
    | single hp => exact hrank _ _ hp
    | tail _ hp ih => exact ih.trans (hrank _ _ hp)
  intro hi
  exact Nat.lt_irrefl _ (hlt hi)

namespace WellFormed

theorem parent?_of_mem (h : a.WellFormed) {p c : NodeId} (hc : c ∈ a.children p) :
    a.parent? c = some p :=
  (h.mem_children p c).1 hc

theorem lt_size_of_mem (h : a.WellFormed) {p c : NodeId} (hc : c ∈ a.children p) : c < a.size :=
  lt_size_of_parent? (h.parent?_of_mem hc)

theorem parent_lt_size (h : a.WellFormed) {p c : NodeId} (hc : a.parent? c = some p) :
    p < a.size := by
  by_contra hp
  have hmem : c ∈ a.children p := (h.mem_children p c).2 hc
  rw [children_of_size_le (Nat.le_of_not_lt hp)] at hmem
  exact absurd hmem (by simp)

theorem not_above_self (h : a.WellFormed) (i : NodeId) : ¬ a.Above i i := by
  obtain ⟨rank, hrank⟩ := h.acyclic
  exact not_above_self_of_rank hrank i

/-! ### Ranks and inductions -/

/-- The number of nodes above a node is a ranking that stays below the size. -/
theorem exists_rank (h : a.WellFormed) : ∃ rank : NodeId → Nat,
    (∀ c p, a.parent? c = some p → rank p < rank c) ∧ ∀ i, i < a.size → rank i < a.size := by
  classical
  refine ⟨fun i => ((Finset.range a.size).filter fun j => a.Above j i).card, ?_, ?_⟩
  · intro c p hp
    refine Finset.card_lt_card ((Finset.ssubset_iff_of_subset ?_).2 ⟨p, ?_, ?_⟩)
    · intro j hj
      rw [Finset.mem_filter] at hj ⊢
      exact ⟨hj.1, hj.2.tail hp⟩
    · rw [Finset.mem_filter, Finset.mem_range]
      exact ⟨h.parent_lt_size hp, Relation.TransGen.single hp⟩
    · rw [Finset.mem_filter]
      exact fun hmem => h.not_above_self p hmem.2
  · intro i hi
    refine (Finset.card_lt_card ((Finset.ssubset_iff_of_subset (Finset.filter_subset _ _)).2
      ⟨i, Finset.mem_range.2 hi, ?_⟩)).trans_le (Finset.card_range _).le
    rw [Finset.mem_filter]
    exact fun hmem => h.not_above_self i hmem.2

/-- **Induction from the leaves upwards**: what a node has as soon as its children have it. -/
theorem childInduction (h : a.WellFormed) {P : NodeId → Prop}
    (step : ∀ i, (∀ c ∈ a.children i, P c) → P i) (i : NodeId) : P i := by
  obtain ⟨rank, hrank, hsize⟩ := h.exists_rank
  induction hm : a.size - rank i using Nat.strong_induction_on generalizing i with
  | _ m ih =>
      refine step i fun c hc => ih (a.size - rank c) ?_ c rfl
      have hlt : rank i < rank c := hrank c i (h.parent?_of_mem hc)
      have hle : rank c < a.size := hsize c (h.lt_size_of_mem hc)
      omega

/-- **Induction from the roots downwards**: what a node has as soon as its parent has it. -/
theorem parentInduction (h : a.WellFormed) {P : NodeId → Prop}
    (step : ∀ i, (∀ p, a.parent? i = some p → P p) → P i) (i : NodeId) : P i := by
  obtain ⟨rank, hrank⟩ := h.acyclic
  induction hm : rank i using Nat.strong_induction_on generalizing i with
  | _ m ih =>
      refine step i fun p hp => ih (rank p) ?_ p rfl
      have hlt : rank p < rank i := hrank i p hp
      omega

/-! ### The walks, one step unfolded -/

/-- **A walk downwards with as much fuel as there are nodes needs no more**, if it is the same at
nodes without children and depends on nothing but what it is at the children. -/
theorem walk_eq (h : a.WellFormed) {β : Type*} (walk : Nat → NodeId → β)
    (hleaf : ∀ fuel i, a.children i = [] → walk fuel i = walk 0 i)
    (hstep : ∀ fuel i, (∀ c ∈ a.children i, walk fuel c = walk (fuel + 1) c) →
      walk (fuel + 1) i = walk (fuel + 2) i) (i : NodeId) :
    walk a.size i = walk (a.size + 1) i := by
  obtain ⟨rank, hrank, hsize⟩ := h.exists_rank
  -- a node of a high rank needs little fuel, and children rank higher
  suffices hall : ∀ fuel i, a.size ≤ fuel + rank i → walk fuel i = walk (fuel + 1) i from
    hall a.size i (Nat.le_add_right ..)
  intro fuel
  induction fuel with
  | zero =>
      intro i hi
      have hout : a.size ≤ i := by
        by_contra hlt
        have := hsize i (Nat.lt_of_not_le hlt)
        omega
      exact (hleaf 1 i (children_of_size_le hout)).symm
  | succ fuel ih =>
      intro i hi
      refine hstep fuel i fun c hc => ih c ?_
      have hlt : rank i < rank c := hrank c i (h.parent?_of_mem hc)
      omega

/-- **What is below a node**: its children, each before what is below it. -/
theorem descendants_eq (h : a.WellFormed) (i : NodeId) :
    a.descendants i = (a.children i).flatMap fun c => c :: a.descendants c := by
  refine h.walk_eq a.below (fun fuel i hi => ?_) (fun fuel i hc => ?_) i
  · cases fuel with
    | zero => rfl
    | succ fuel => simp only [below, hi, List.flatMap_nil]
  · exact List.flatMap_congr fun c hmem => congrArg (c :: ·) (hc c hmem)

private theorem upward_eq_of_lt {rank : NodeId → Nat}
    (hrank : ∀ c p, a.parent? c = some p → rank p < rank c) :
    ∀ f g i, rank i < f → rank i < g → a.upward f i = a.upward g i := by
  intro f
  induction f with
  | zero => intro g i hf; omega
  | succ f ih =>
      intro g i hf hg
      obtain ⟨k, rfl⟩ : ∃ k, g = k + 1 := ⟨g - 1, by omega⟩
      simp only [upward]
      cases hp : a.parent? i with
      | none => rfl
      | some p =>
          have hlt : rank p < rank i := hrank i p hp
          simp only [ih k p (by omega) (by omega)]

/-- **A node and its ancestors**, one step unfolded. -/
theorem lineage_eq (h : a.WellFormed) (i : NodeId) :
    a.lineage i = i :: match a.parent? i with
      | some p => a.lineage p
      | none => [] := by
  obtain ⟨rank, hrank, hsize⟩ := h.exists_rank
  obtain ⟨k, hk⟩ := Nat.exists_eq_add_one.2 (Nat.zero_lt_of_lt h.root_lt)
  have hunfold : a.lineage i = i :: match a.parent? i with
      | some p => a.upward k p
      | none => [] := by
    rw [lineage, hk]; rfl
  rw [hunfold]
  cases hp : a.parent? i with
  | none => rfl
  | some p =>
      have hi : rank i < a.size := hsize i (lt_size_of_parent? hp)
      have hlt : rank p < rank i := hrank i p hp
      simp only [lineage, upward_eq_of_lt hrank k a.size p (by omega) (by omega)]

/-! ### What is below a node -/

theorem mem_descendants_iff (h : a.WellFormed) {i n : NodeId} :
    n ∈ a.descendants i ↔ ∃ c ∈ a.children i, n = c ∨ n ∈ a.descendants c := by
  rw [h.descendants_eq i]
  simp only [List.mem_flatMap, List.mem_cons]

/-- **What is below a node are the nodes it is above.** -/
theorem mem_descendants_iff_above (h : a.WellFormed) {i n : NodeId} :
    n ∈ a.descendants i ↔ a.Above i n := by
  constructor
  · intro hn
    induction i using h.childInduction with
    | step i ih =>
        obtain ⟨c, hc, rfl | hbelow⟩ := h.mem_descendants_iff.1 hn
        · exact Relation.TransGen.single (h.parent?_of_mem hc)
        · exact Relation.TransGen.head (h.parent?_of_mem hc) (ih c hc hbelow)
  · intro hn
    induction hn using Relation.TransGen.head_induction_on with
    | single hp => exact h.mem_descendants_iff.2 ⟨n, (h.mem_children _ _).2 hp, Or.inl rfl⟩
    | head hp _ ih => exact h.mem_descendants_iff.2 ⟨_, (h.mem_children _ _).2 hp, Or.inr ih⟩

/-- A node is below another when its parent is that one or below it. -/
theorem mem_descendants_iff_parent (h : a.WellFormed) {i n : NodeId} :
    n ∈ a.descendants i ↔ ∃ p, a.parent? n = some p ∧ (p = i ∨ p ∈ a.descendants i) := by
  rw [h.mem_descendants_iff_above]
  constructor
  · intro hn
    cases hn with
    | single hp => exact ⟨i, hp, Or.inl rfl⟩
    | tail hip hp => exact ⟨_, hp, Or.inr (h.mem_descendants_iff_above.2 hip)⟩
  · rintro ⟨p, hp, rfl | hip⟩
    · exact Relation.TransGen.single hp
    · exact (h.mem_descendants_iff_above.1 hip).tail hp

theorem mem_descendants_of_mem (h : a.WellFormed) {i c : NodeId} (hc : c ∈ a.children i) :
    c ∈ a.descendants i :=
  h.mem_descendants_iff.2 ⟨c, hc, Or.inl rfl⟩

theorem mem_descendants_trans (h : a.WellFormed) {i m n : NodeId} (hm : m ∈ a.descendants i)
    (hn : n ∈ a.descendants m) : n ∈ a.descendants i := by
  rw [h.mem_descendants_iff_above] at hm hn ⊢
  exact hm.trans hn

theorem not_mem_descendants_self (h : a.WellFormed) (i : NodeId) : i ∉ a.descendants i := by
  rw [h.mem_descendants_iff_above]
  exact h.not_above_self i

theorem lt_size_of_mem_descendants (h : a.WellFormed) {i n : NodeId} (hn : n ∈ a.descendants i) :
    n < a.size := by
  obtain ⟨p, hp, _⟩ := h.mem_descendants_iff_parent.1 hn
  exact lt_size_of_parent? hp

theorem root_not_mem_descendants (h : a.WellFormed) (i : NodeId) : root ∉ a.descendants i := by
  intro hr
  obtain ⟨p, hp, _⟩ := h.mem_descendants_iff_parent.1 hr
  rw [h.parent_root] at hp
  exact absurd hp (by simp)

/-! ### Order -/

/-- Two nodes with a common node below them, or one of which is that node, are comparable. -/
theorem comparable (h : a.WellFormed) {i j n : NodeId} (hi : n = i ∨ n ∈ a.descendants i)
    (hj : n = j ∨ n ∈ a.descendants j) :
    i = j ∨ i ∈ a.descendants j ∨ j ∈ a.descendants i := by
  induction n using h.parentInduction with
  | step n ih =>
      rcases hi with rfl | hi
      · rcases hj with rfl | hj
        · exact Or.inl rfl
        · exact Or.inr (Or.inl hj)
      · rcases hj with rfl | hj
        · exact Or.inr (Or.inr hi)
        · obtain ⟨p, hp, hpi⟩ := h.mem_descendants_iff_parent.1 hi
          obtain ⟨q, hq, hqj⟩ := h.mem_descendants_iff_parent.1 hj
          obtain rfl : p = q := Option.some.inj (hp.symm.trans hq)
          exact ih p hp hpi hqj

/-- Below two children of one node there is nothing in common. -/
theorem child_eq_of_common (h : a.WellFormed) {i c c' n : NodeId} (hc : c ∈ a.children i)
    (hc' : c' ∈ a.children i) (hn : n ∈ c :: a.descendants c) (hn' : n ∈ c' :: a.descendants c') :
    c = c' := by
  -- a child below its sibling would have their parent below that sibling
  have hno : ∀ {x y : NodeId}, x ∈ a.children i → y ∈ a.children i → x ∉ a.descendants y := by
    intro x y hx hy hxy
    obtain ⟨p, hp, hpy⟩ := h.mem_descendants_iff_parent.1 hxy
    obtain rfl : p = i := Option.some.inj (hp.symm.trans (h.parent?_of_mem hx))
    have hyp : y ∈ a.descendants p := h.mem_descendants_of_mem hy
    rcases hpy with rfl | hpy
    · exact h.not_mem_descendants_self p hyp
    · exact h.not_mem_descendants_self p (h.mem_descendants_trans hyp hpy)
  rcases h.comparable (List.mem_cons.1 hn) (List.mem_cons.1 hn') with heq | hlt | hlt
  · exact heq
  · exact absurd hlt (hno hc hc')
  · exact absurd hlt (hno hc' hc)

private theorem nodup_cons_descendants (h : a.WellFormed) {i : NodeId}
    (hi : (a.descendants i).Nodup) : (i :: a.descendants i).Nodup :=
  List.nodup_cons.2 ⟨h.not_mem_descendants_self i, hi⟩

/-- **No node is met twice** on the walk below a node. -/
theorem nodup_descendants (h : a.WellFormed) (i : NodeId) : (a.descendants i).Nodup := by
  induction i using h.childInduction with
  | step i ih =>
      rw [h.descendants_eq, List.nodup_flatMap]
      refine ⟨fun c hc => nodup_cons_descendants h (ih c hc), ?_⟩
      refine (h.nodup_children i).imp_of_mem ?_
      intro c c' hc hc' hne n hn hn'
      exact hne (h.child_eq_of_common hc hc' hn hn')

/-- **Parents come before children**: on the walk below a node none comes before one that it is
below of. -/
theorem pairwise_descendants (h : a.WellFormed) (i : NodeId) :
    (a.descendants i).Pairwise fun m n => m ∉ a.descendants n := by
  induction i using h.childInduction with
  | step i ih =>
      rw [h.descendants_eq, List.pairwise_flatMap]
      refine ⟨fun c hc => List.pairwise_cons.2 ⟨fun n hn hcn => ?_, ih c hc⟩, ?_⟩
      · exact h.not_mem_descendants_self c (h.mem_descendants_trans hn hcn)
      · refine (h.nodup_children i).imp_of_mem ?_
        intro c c' hc hc' hne m hm n hn hmn
        refine hne (h.child_eq_of_common hc hc' hm (List.mem_cons_of_mem _ ?_))
        rcases List.mem_cons.1 hn with rfl | hn
        · exact hmn
        · exact h.mem_descendants_trans hn hmn

/-- **What is below a node keeps its order** on the walk below a node that it is below of. -/
theorem sublist_descendants (h : a.WellFormed) {i n : NodeId} (hn : n ∈ a.descendants i) :
    (n :: a.descendants n).Sublist (a.descendants i) := by
  induction i using h.childInduction with
  | step i ih =>
      obtain ⟨c, hc, hnc⟩ := h.mem_descendants_iff.1 hn
      have hblock : (c :: a.descendants c).Sublist (a.descendants i) := by
        rw [h.descendants_eq i, List.flatMap_def]
        exact List.sublist_flatten_of_mem (List.mem_map_of_mem hc)
      rcases hnc with rfl | hnc
      · exact hblock
      · exact ((ih c hc hnc).trans (List.sublist_cons_self ..)).trans hblock

/-! ### Attached nodes -/

private theorem getLast?_lineage (h : a.WellFormed) (i : NodeId) :
    (a.lineage i).getLast? = some root ↔ i = root ∨ i ∈ a.descendants root := by
  induction i using h.parentInduction with
  | step i ih =>
      rw [h.lineage_eq i, h.mem_descendants_iff_parent]
      cases hp : a.parent? i with
      | none => simp
      | some p =>
          have hne : i ≠ root := by
            rintro rfl
            rw [h.parent_root] at hp
            exact absurd hp (by simp)
          have hnonempty : a.lineage p ≠ [] := by rw [h.lineage_eq p]; simp
          rw [List.getLast?_cons_of_ne_nil hnonempty, ih p hp]
          simp [hne]

/-- **A node is attached** when it is the root or below the root. -/
theorem isAttached_iff (h : a.WellFormed) {i : NodeId} :
    a.isAttached i = true ↔ i = root ∨ i ∈ a.descendants root := by
  rw [isAttached, beq_iff_eq, getLast?_lineage h]

end WellFormed

end Arena

end ThemeCompiler
