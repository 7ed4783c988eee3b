/-
**Drafts in document order.**

Below an attached node the positions increase from one node to the next.  So everything in one child
of a node comes before everything in another child, or after it, and drafts that stand in different
children are one before the other: sorted by the places of their own they have all their places in
order, those inside of them included.

Main definitions:

* `ThemeCompiler.Model.Earlier` — everything in one node comes before everything in another;
* `ThemeCompiler.Model.Draft.Sourced` — a draft made from an element, as all drafts inside of it
  are, unless the only one stands for an instance without fields;
* `ThemeCompiler.Model.Draft.StandsIn`, `ThemeCompiler.Model.Scattered` — a draft in a node, drafts
  in nodes of which any two are one before the other;
* `ThemeCompiler.Model.InOrder` — **drafts below a node, in order**.

Main results:

* `ThemeCompiler.Model.pairwise_children_earlier` — **the children of a node are one before the
  other**, with all that is below them;
* `ThemeCompiler.Model.pairwise_sortDrafts`, `ThemeCompiler.Model.perm_sortDrafts` — what sorting
  drafts does;
* `ThemeCompiler.Model.Scattered.inOrder` — sorting puts scattered drafts in order;
* `ThemeCompiler.Model.InOrder.standsIn` — drafts that are in order below a node come after the
  node.
-/

import Mathlib.Data.List.Sort
import ThemeCompiler.Proofs.Model.Rows

set_option relaxedAutoImplicit false
set_option autoImplicit false

namespace ThemeCompiler

namespace Model

variable {d : Document}

/-! ### Positions -/

/-- The positions of a node and of all below it. -/
def positionsIn (d : Document) (n : NodeId) : List Nat :=
  (n :: d.descendants n).map (Page.ofDocument d).position

/-- **Everything in one node comes before everything in another.** -/
def Earlier (d : Document) (a b : NodeId) : Prop :=
  ∀ x ∈ positionsIn d a, ∀ y ∈ positionsIn d b, x < y

theorem isAttached_iff (hd : d.WellFormed) {n : NodeId} :
    d.isAttached n = true ↔ n = Arena.root ∨ n ∈ d.attached :=
  hd.nodes.isAttached_iff

theorem isAttached_of_child (hd : d.WellFormed) {n c : NodeId} (hn : d.isAttached n = true)
    (hc : c ∈ d.children n) : d.isAttached c = true :=
  (isAttached_iff hd).2 (Or.inr (hd.mem_attached_of_mem_below ((isAttached_iff hd).1 hn)
    (hd.nodes.mem_descendants_of_mem hc)))

/-- What is below a node keeps its order in the whole document. -/
theorem sublist_attached (hd : d.WellFormed) {n : NodeId} (hn : d.isAttached n = true) :
    (d.descendants n).Sublist d.attached := by
  rcases (isAttached_iff hd).1 hn with rfl | hmem
  · exact .refl _
  · exact (List.sublist_cons_self ..).trans (hd.nodes.sublist_descendants hmem)

/-- **Below a node the positions increase.** -/
theorem pairwise_position (hd : d.WellFormed) {n : NodeId} (hn : d.isAttached n = true) :
    (d.descendants n).Pairwise
      fun a b => (Page.ofDocument d).position a < (Page.ofDocument d).position b := by
  have hnodup : d.attached.Nodup := hd.nodes.nodup_descendants Arena.root
  refine List.Pairwise.sublist (sublist_attached hd hn) (List.pairwise_iff_getElem.2 ?_)
  intro i j hi hj hij
  rwa [Page.position, Page.position, Page.ofDocument, hnodup.idxOf_getElem,
    hnodup.idxOf_getElem]

section

variable {n : NodeId} (hd : d.WellFormed) (hn : d.isAttached n = true)

include hd hn

/-- **The children of a node are one before the other**, with all that is below them, and each comes
before what is below it. -/
theorem pairwise_children_earlier : (d.children n).Pairwise (Earlier d) ∧
    ∀ c ∈ d.children n, ∀ m ∈ d.descendants c,
      (Page.ofDocument d).position c < (Page.ofDocument d).position m := by
  have h := pairwise_position hd hn
  rw [Document.descendants, hd.nodes.descendants_eq n, List.pairwise_flatMap] at h
  refine ⟨h.2.imp fun hab x hx y hy => ?_, fun c hc => (List.pairwise_cons.1 (h.1 c hc)).1⟩
  obtain ⟨m, hm, rfl⟩ := List.mem_map.1 hx
  obtain ⟨k, hk, rfl⟩ := List.mem_map.1 hy
  exact hab m hm k hk

theorem earlier_or_earlier {a b : NodeId} (ha : a ∈ d.children n) (hb : b ∈ d.children n)
    (hne : a ≠ b) : Earlier d a b ∨ Earlier d b a := by
  have hsymm : Std.Symm fun a b => Earlier d a b ∨ Earlier d b a := ⟨fun _ _ => Or.symm⟩
  have hpairwise : (d.children n).Pairwise fun a b => Earlier d a b ∨ Earlier d b a :=
    (pairwise_children_earlier hd hn).1.imp Or.inl
  exact hpairwise.forall ha hb hne

end

/-! ### Drafts in places -/

namespace Draft

/-- **Everything of one draft comes before everything of another**, or after it. -/
def Apart (a b : Draft) : Prop :=
  (∀ x ∈ a.places, ∀ y ∈ b.places, x < y) ∨ ∀ x ∈ a.places, ∀ y ∈ b.places, y < x

theorem Apart.symm {a b : Draft} (h : Apart a b) : Apart b a :=
  (Or.symm h).imp (fun h x hx y hy => h y hy x hx) fun h x hx y hy => h y hy x hx

/-- **A draft made from an element**: it has the position of the element, with its tag and its
classes, and so have the drafts inside of it.  A repeater may instead have a draft without a
position that stands for an instance without fields. -/
inductive Sourced (d : Document) : Draft → Prop
  | element {m : NodeId} {info : FieldInfo} {children : List Draft} (hm : m ∈ d.attached)
      (htag : d.tag? m = some info.tag) (hclasses : info.classes = d.classes m)
      (hinner : ∀ c ∈ children, Sourced d c) :
      Sourced d (mk (some ((Page.ofDocument d).position m)) info children)
  | standIn {m : NodeId} {info only : FieldInfo} (hm : m ∈ d.attached)
      (htag : d.tag? m = some info.tag) (hclasses : info.classes = d.classes m)
      (hkind : info.kind = .repeater) :
      Sourced d (mk (some ((Page.ofDocument d).position m)) info [mk none only []])

/-- **A draft in a node**: it is made from an element, and its places increase and are in the
node. -/
structure StandsIn (d : Document) (c : NodeId) (a : Draft) : Prop where
  sourced : a.Sourced d
  increasing : a.places.Pairwise (· < ·)
  inside : a.places ⊆ positionsIn d c

theorem placesAll_eq_flatMap (drafts : List Draft) : placesAll drafts = drafts.flatMap places := by
  induction drafts with
  | nil => rfl
  | cons a rest ih => rw [placesAll, ih, List.flatMap_cons]

/-- The places of a forest increase if those of each draft do, and all of them from one draft to the
next. -/
theorem pairwise_placesAll_iff {drafts : List Draft} :
    (placesAll drafts).Pairwise (· < ·) ↔ (∀ a ∈ drafts, a.places.Pairwise (· < ·)) ∧
      drafts.Pairwise fun a b => ∀ x ∈ a.places, ∀ y ∈ b.places, x < y := by
  rw [placesAll_eq_flatMap, List.pairwise_flatMap]

/-- A draft made from an element has a place of its own. -/
theorem Sourced.exists_place {a : Draft} (h : a.Sourced d) : ∃ x ∈ a.places, a.place = some x := by
  cases h <;> exact ⟨_, List.mem_cons_self, rfl⟩

end Draft

open Draft (placesAll StandsIn)

/-- Drafts with increasing places are one before the other. -/
theorem apart_of_increasing {drafts : List Draft} (h : (placesAll drafts).Pairwise (· < ·)) :
    drafts.Pairwise Draft.Apart :=
  (Draft.pairwise_placesAll_iff.1 h).2.imp Or.inl

/-! ### Sorting -/

/-- Sorting drafts is inserting each where it may precede the next. -/
theorem sortDrafts_eq (drafts : List Draft) :
    sortDrafts drafts = drafts.insertionSort fun a b => mayPrecede a b = true := by
  have hinsert : ∀ (a : Draft) (drafts : List Draft),
      insertDraft a drafts = drafts.orderedInsert (fun a b => mayPrecede a b = true) a := by
    intro a drafts
    induction drafts with
    | nil => rfl
    | cons b rest ih => rw [insertDraft, List.orderedInsert_cons, ih]
  induction drafts with
  | nil => rfl
  | cons a rest ih => rw [sortDrafts, hinsert, ih, List.insertionSort_cons]

theorem perm_sortDrafts (drafts : List Draft) : (sortDrafts drafts).Perm drafts := by
  rw [sortDrafts_eq]
  exact List.perm_insertionSort _ drafts

/-- **Sorted drafts are in order.** -/
theorem pairwise_sortDrafts (drafts : List Draft) :
    (sortDrafts drafts).Pairwise fun a b => mayPrecede a b = true := by
  have htotal : Std.Total fun a b : Draft => mayPrecede a b = true := by
    refine ⟨fun a b => ?_⟩
    unfold mayPrecede
    cases a.place <;> cases b.place <;> simp [Nat.le_total]
  have htrans : IsTrans Draft fun a b => mayPrecede a b = true := by
    refine ⟨fun a b c => ?_⟩
    unfold mayPrecede
    cases a.place <;> cases b.place <;> cases c.place <;> simp
    exact Nat.le_trans
  rw [sortDrafts_eq]
  exact List.pairwise_insertionSort _ drafts

/-! ### Scattered drafts -/

/-- **Drafts in nodes**, of which any two are one before the other. -/
structure Scattered (d : Document) (nodes : List NodeId) (drafts : List Draft) : Prop where
  stands : ∀ a ∈ drafts, ∃ c ∈ nodes, a.StandsIn d c
  apart : drafts.Pairwise Draft.Apart

/-- **Drafts below a node, in order**: each is made from an element, and all their places
increase. -/
structure InOrder (d : Document) (n : NodeId) (drafts : List Draft) : Prop where
  sourced : ∀ a ∈ drafts, a.Sourced d
  increasing : (placesAll drafts).Pairwise (· < ·)
  inside : placesAll drafts ⊆ (d.descendants n).map (Page.ofDocument d).position

namespace Scattered

variable {nodes more : List NodeId} {drafts others : List Draft}

theorem nil : Scattered d nodes [] := ⟨nofun, .nil⟩

theorem singleton {c : NodeId} {a : Draft} (h : a.StandsIn d c) : Scattered d [c] [a] :=
  ⟨fun _ hb => ⟨c, List.mem_cons_self, List.mem_singleton.1 hb ▸ h⟩, List.pairwise_singleton ..⟩

theorem mono (h : Scattered d nodes drafts) (hsub : nodes ⊆ more) : Scattered d more drafts :=
  ⟨fun a ha => (h.stands a ha).imp fun _ hc => ⟨hsub hc.1, hc.2⟩, h.apart⟩

/-- **Drafts in different children of a node** are one before the other. -/
theorem append (hd : d.WellFormed) {n : NodeId} (hn : d.isAttached n = true)
    (h : Scattered d nodes drafts) (h' : Scattered d more others) (hsub : nodes ⊆ d.children n)
    (hsub' : more ⊆ d.children n) (hne : ∀ c ∈ nodes, c ∉ more) :
    Scattered d (nodes ++ more) (drafts ++ others) where
  stands a ha := by
    rcases List.mem_append.1 ha with ha | ha
    · obtain ⟨c, hc, hstands⟩ := h.stands a ha
      exact ⟨c, List.mem_append_left _ hc, hstands⟩
    · obtain ⟨c, hc, hstands⟩ := h'.stands a ha
      exact ⟨c, List.mem_append_right _ hc, hstands⟩
  apart := by
    refine List.pairwise_append.2 ⟨h.apart, h'.apart, fun a ha b hb => ?_⟩
    obtain ⟨c, hc, hac⟩ := h.stands a ha
    obtain ⟨c', hc', hbc⟩ := h'.stands b hb
    have hcc : c ≠ c' := fun heq => hne c hc (heq ▸ hc')
    rcases earlier_or_earlier hd hn (hsub hc) (hsub' hc') hcc with hlt | hlt
    · exact Or.inl fun x hx y hy => hlt x (hac.inside hx) y (hbc.inside hy)
    · exact Or.inr fun x hx y hy => hlt y (hbc.inside hy) x (hac.inside hx)

/-- **Sorting puts scattered drafts in order.** -/
theorem inOrder (hd : d.WellFormed) {n : NodeId} (h : Scattered d nodes drafts)
    (hsub : nodes ⊆ d.descendants n) : InOrder d n (sortDrafts drafts) where
  sourced a ha := by
    obtain ⟨c, -, hstands⟩ := h.stands a (mem_sortDrafts.1 ha)
    exact hstands.sourced
  increasing := by
    have hapart := ((perm_sortDrafts drafts).pairwise_iff Draft.Apart.symm).2 h.apart
    refine Draft.pairwise_placesAll_iff.2
      ⟨fun a ha => ?_, ((pairwise_sortDrafts drafts).and hapart).imp_of_mem ?_⟩
    · obtain ⟨c, -, hstands⟩ := h.stands a (mem_sortDrafts.1 ha)
      exact hstands.increasing
    · rintro a b ha hb ⟨hprecede, hlt | hlt⟩
      · exact hlt
      -- two drafts in the other order would not have been sorted so by their own places
      obtain ⟨_, -, ha⟩ := h.stands a (mem_sortDrafts.1 ha)
      obtain ⟨_, -, hb⟩ := h.stands b (mem_sortDrafts.1 hb)
      obtain ⟨x, hx, hplace⟩ := ha.sourced.exists_place
      obtain ⟨y, hy, hplace'⟩ := hb.sourced.exists_place
      rw [mayPrecede, hplace, hplace', decide_eq_true_eq] at hprecede
      exact absurd (hlt x hx y hy) (Nat.not_lt.2 hprecede)
  inside x hx := by
    rw [Draft.placesAll_eq_flatMap] at hx
    obtain ⟨a, ha, hxa⟩ := List.mem_flatMap.1 hx
    obtain ⟨c, hc, hstands⟩ := h.stands a (mem_sortDrafts.1 ha)
    obtain ⟨m, hm, rfl⟩ := List.mem_map.1 (hstands.inside hxa)
    refine List.mem_map_of_mem ?_
    rcases List.mem_cons.1 hm with rfl | hm
    · exact hsub hc
    · exact hd.nodes.mem_descendants_trans (hsub hc) hm

end Scattered

namespace InOrder

variable {n c : NodeId} {drafts : List Draft}

theorem nil : InOrder d n [] := ⟨nofun, .nil, List.nil_subset _⟩

theorem inside_positionsIn (h : InOrder d c drafts) : placesAll drafts ⊆ positionsIn d c :=
  fun _ hx => List.mem_cons_of_mem _ (h.inside hx)

/-- Drafts in order below a node are scattered in it. -/
theorem scattered (h : InOrder d c drafts) : Scattered d [c] drafts where
  stands a ha := by
    have hsub : a.places ⊆ placesAll drafts := by
      rw [Draft.placesAll_eq_flatMap]
      exact fun x hx => List.mem_flatMap.2 ⟨a, ha, hx⟩
    exact ⟨c, List.mem_cons_self, h.sourced a ha,
      (Draft.pairwise_placesAll_iff.1 h.increasing).1 a ha,
      fun x hx => h.inside_positionsIn (hsub hx)⟩
  apart := apart_of_increasing h.increasing

/-- **Drafts that are in order below a node come after the node**, so a draft around them that is
made from the node stands in it. -/
theorem standsIn (hd : d.WellFormed) (hn : d.isAttached n = true) (hc : c ∈ d.children n)
    (h : InOrder d c drafts) {info : FieldInfo} {children : List Draft}
    (hplaces : placesAll children = placesAll drafts)
    (hsourced : (Draft.mk (some ((Page.ofDocument d).position c)) info children).Sourced d) :
    (Draft.mk (some ((Page.ofDocument d).position c)) info children).StandsIn d c := by
  have heq : (Draft.mk (some ((Page.ofDocument d).position c)) info children).places =
      (Page.ofDocument d).position c :: placesAll drafts := by
    rw [Draft.places, hplaces]
    rfl
  refine ⟨hsourced, ?_, ?_⟩
  · rw [heq, List.pairwise_cons]
    refine ⟨fun x hx => ?_, h.increasing⟩
    obtain ⟨m, hm, rfl⟩ := List.mem_map.1 (h.inside hx)
    exact (pairwise_children_earlier hd hn).2 c hc m hm
  · rw [heq]
    exact List.cons_subset.2 ⟨List.mem_cons_self, h.inside_positionsIn⟩

end InOrder

end Model

end ThemeCompiler
