/-
**Documents with the same tree.**

Two documents have the same tree when their attached nodes have the same children, the same tags and
the same texts; attributes, and nodes that are not attached, may differ.  Everything that is made of
tags and texts along the tree is then the same: the lists of elements, what is above a node, and what
is found or written below it.

Main definitions:

* `ThemeCompiler.Document.SameTree` — the same tree, whatever the attributes.

Main results:

* `ThemeCompiler.Document.SameTree.attached_eq`, `ThemeCompiler.Document.SameTree.elementsByTag_eq` —
  **the same nodes are attached**, and the same ones with each tag;
* `ThemeCompiler.Document.SameTree.ancestor_eq`, `ThemeCompiler.Document.SameTree.findBelow_eq`,
  `ThemeCompiler.Document.SameTree.textContent_eq` — the same is above and below a node;
* `ThemeCompiler.Document.Relabels.sameTree` — a relabelling that keeps the tags keeps the tree.
-/

import Mathlib.Data.List.Find
import ThemeCompiler.Proofs.Document.Steps

set_option relaxedAutoImplicit false
set_option autoImplicit false

namespace ThemeCompiler

namespace Document

variable {d e : Document}

/-- A node that is the root or attached. -/
def Placed (d : Document) (n : NodeId) : Prop := n = Arena.root ∨ n ∈ d.attached

/-- **The same tree**: what is attached keeps its children, its tag and its text. -/
structure SameTree (d e : Document) : Prop where
  children_eq : ∀ n, d.Placed n → e.children n = d.children n
  tag?_eq : ∀ n, d.Placed n → e.tag? n = d.tag? n
  ownText_eq : ∀ n, d.Placed n → e.ownText n = d.ownText n

theorem ownText_of_isElement {n : NodeId} (h : d.isElement n = true) : d.ownText n = "" := by
  obtain ⟨tag, attrs, hv⟩ := isElement_iff.1 h
  rw [ownText, hv]

/-- Whether a text is visible is seen from the text. -/
theorem isVisibleText_eq (d : Document) (n : NodeId) :
    d.isVisibleText n = !Text.isBlankText (d.ownText n) := by
  rw [isVisibleText, ownText]
  split <;> rfl

/-- **A relabelling that keeps the tags keeps the tree.** -/
theorem Relabels.sameTree (h : Relabels d e) (htag : ∀ n, e.tag? n = d.tag? n) : SameTree d e where
  children_eq n _ := h.children_eq n
  tag?_eq n _ := htag n
  ownText_eq n _ := by
    by_cases hel : d.isElement n = true
    · rw [ownText_of_isElement hel, ownText_of_isElement ((h.isElement_eq n).trans hel)]
    · rw [ownText, ownText, h.value?_eq n (by simpa using hel)]

namespace WellFormed

theorem placed_of_mem_children (h : d.WellFormed) {n c : NodeId} (hn : d.Placed n)
    (hc : c ∈ d.children n) : c ∈ d.attached :=
  h.mem_attached_of_mem_below hn (h.nodes.mem_descendants_of_mem hc)

theorem placed_of_parent? (h : d.WellFormed) {n p : NodeId} (hn : d.Placed n)
    (hp : d.parent? n = some p) : d.Placed p := by
  rcases hn with rfl | hn
  · have hroot : d.parent? Arena.root = none := h.nodes.parent_root
    rw [hroot] at hp
    exact absurd hp (by simp)
  · obtain ⟨q, hq, hplaced⟩ := h.exists_parent? hn
    obtain rfl : p = q := Option.some.inj (hp.symm.trans hq)
    exact hplaced

end WellFormed

namespace SameTree

/-! ### Below a node -/

theorem descendants_eq (h : SameTree d e) (hd : d.WellFormed) (he : e.WellFormed) {n : NodeId}
    (hn : d.Placed n) : e.descendants n = d.descendants n := by
  have hmap := Arena.descendants_map hd.nodes he.nodes (f := id) (i := n) fun j hj => by
    rw [id, List.map_id]
    refine h.children_eq j ?_
    rcases hj with rfl | hj
    · exact hn
    · exact Or.inr (hd.mem_attached_of_mem_below hn hj)
  rwa [id, List.map_id] at hmap

/-- **The same nodes are attached.** -/
theorem attached_eq (h : SameTree d e) (hd : d.WellFormed) (he : e.WellFormed) :
    e.attached = d.attached :=
  h.descendants_eq hd he (Or.inl rfl)

/-- **The same elements have each tag.** -/
theorem elementsByTags_eq (h : SameTree d e) (hd : d.WellFormed) (he : e.WellFormed)
    (tags : List String) : e.elementsByTags tags = d.elementsByTags tags := by
  rw [elementsByTags, elementsByTags, h.attached_eq hd he]
  exact List.filter_congr fun n hn => hasTagIn_congr (h.tag?_eq n (Or.inr hn)) tags

theorem elementsByTag_eq (h : SameTree d e) (hd : d.WellFormed) (he : e.WellFormed)
    (tag : String) : e.elementsByTag tag = d.elementsByTag tag := by
  rw [elementsByTag_eq_elementsByTags, elementsByTag_eq_elementsByTags,
    h.elementsByTags_eq hd he]

theorem elementChildren_eq (h : SameTree d e) (hd : d.WellFormed) {n : NodeId}
    (hn : d.Placed n) : e.elementChildren n = d.elementChildren n := by
  rw [elementChildren, elementChildren, h.children_eq n hn]
  refine List.filter_congr fun c hc => ?_
  rw [isElement, isElement, h.tag?_eq c (Or.inr (hd.placed_of_mem_children hn hc))]

theorem hasDirectText_eq (h : SameTree d e) (hd : d.WellFormed) {n : NodeId} (hn : d.Placed n) :
    e.hasDirectText n = d.hasDirectText n := by
  have hvisible : ∀ c ∈ d.children n, e.isVisibleText c = d.isVisibleText c := fun c hc => by
    rw [isVisibleText_eq, isVisibleText_eq,
      h.ownText_eq c (Or.inr (hd.placed_of_mem_children hn hc))]
  rw [Bool.eq_iff_iff, hasDirectText, hasDirectText, h.children_eq n hn, List.any_eq_true,
    List.any_eq_true]
  exact exists_congr fun c => and_congr_right fun hc => by rw [hvisible c hc]

/-- The same texts are below a node. -/
theorem textContent_eq (h : SameTree d e) (hd : d.WellFormed) (he : e.WellFormed) {n : NodeId}
    (hn : d.Placed n) : e.textContent n = d.textContent n := by
  rw [textContent, textContent, h.descendants_eq hd he hn]
  refine congrArg String.join (List.map_congr_left fun m hm => h.ownText_eq m ?_)
  rcases List.mem_cons.1 hm with rfl | hm
  · exact hn
  · exact Or.inr (hd.mem_attached_of_mem_below hn hm)

/-- The same element with some tags is the first below a node. -/
theorem findBelow_eq (h : SameTree d e) (hd : d.WellFormed) (he : e.WellFormed) {n : NodeId}
    (hn : d.Placed n) (tags : List String) :
    e.findBelow n (e.hasTagIn tags) = d.findBelow n (d.hasTagIn tags) := by
  rw [findBelow, findBelow, h.descendants_eq hd he hn]
  refine List.find?_congr fun m hm => ?_
  have htag := h.tag?_eq m (Or.inr (hd.mem_attached_of_mem_below hn hm))
  rw [isElement, isElement, htag, hasTagIn_congr htag]

/-! ### Above a node -/

theorem parent?_eq (h : SameTree d e) (hd : d.WellFormed) (he : e.WellFormed) {n : NodeId}
    (hn : d.Placed n) : e.parent? n = d.parent? n := by
  rcases hn with rfl | hn
  · exact he.nodes.parent_root.trans hd.nodes.parent_root.symm
  · obtain ⟨p, hp, hplaced⟩ := hd.exists_parent? hn
    have hmem : n ∈ e.children p := by
      rw [h.children_eq p hplaced]
      exact (hd.nodes.mem_children p n).2 hp
    exact (he.nodes.parent?_of_mem hmem).trans hp.symm

/-- **The same element with some tags is the nearest above a node.** -/
theorem closest_eq (h : SameTree d e) (hd : d.WellFormed) (he : e.WellFormed) {n : NodeId}
    (hn : d.Placed n) (tags : List String) : e.closest tags n = d.closest tags n := by
  induction n using hd.nodes.parentInduction with
  | step n ih =>
      have hparent : e.nodes.parent? n = d.nodes.parent? n := h.parent?_eq hd he hn
      rw [closest, closest, he.nodes.lineage_eq, hd.nodes.lineage_eq, hparent, List.find?_cons,
        List.find?_cons, hasTagIn_congr (h.tag?_eq n hn)]
      cases hp : d.nodes.parent? n with
      | none => rfl
      | some p =>
          have hup : (e.nodes.lineage p).find? (e.hasTagIn tags) =
              (d.nodes.lineage p).find? (d.hasTagIn tags) :=
            ih p hp (hd.placed_of_parent? hn hp)
          simp only [hup]

theorem ancestor_eq (h : SameTree d e) (hd : d.WellFormed) (he : e.WellFormed) {n : NodeId}
    (hn : d.Placed n) (tags : List String) : e.ancestor tags n = d.ancestor tags n := by
  rw [ancestor, ancestor, h.parent?_eq hd he hn]
  cases hp : d.parent? n with
  | none => rfl
  | some p => exact h.closest_eq hd he (hd.placed_of_parent? hn hp) tags

end SameTree

/-- What is found above a node is the root or attached. -/
theorem WellFormed.placed_of_closest (h : d.WellFormed) {n m : NodeId} (hn : d.Placed n)
    {tags : List String} (hm : d.closest tags n = some m) : d.Placed m := by
  induction n using h.nodes.parentInduction with
  | step n ih =>
      rw [closest, h.nodes.lineage_eq, List.find?_cons] at hm
      split at hm
      · exact Option.some.inj hm ▸ hn
      · split at hm
        · next p hp => exact ih p hp (h.placed_of_parent? hn hp) hm
        · exact absurd hm (by simp)

theorem WellFormed.placed_of_ancestor (h : d.WellFormed) {n m : NodeId} (hn : d.Placed n)
    {tags : List String} (hm : d.ancestor tags n = some m) : d.Placed m := by
  obtain ⟨p, hp, hm⟩ := Option.bind_eq_some_iff.1 hm
  exact h.placed_of_closest (h.placed_of_parent? hn hp) hm

end Document

end ThemeCompiler
