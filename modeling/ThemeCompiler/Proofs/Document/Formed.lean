/-
**Well-formed documents.**

A document is well-formed when its arena is and when only its root and its elements have anything
below them.  Every document that comes from parsed markup is: nodes are added one after the other,
each as a new last child of the root or of an element.

Main definitions:

* `ThemeCompiler.Document.WellFormed` — well-formed documents.

Main results:

* `ThemeCompiler.Document.WellFormed.ofTree`, `ThemeCompiler.Document.WellFormed.parse` — **parsed
  documents are well-formed**;
* `ThemeCompiler.Document.Relabels.wellFormed` — relabelling keeps a document well-formed.
-/

import ThemeCompiler.Document.Source
import ThemeCompiler.Proofs.Document.Relabelling

set_option relaxedAutoImplicit false
set_option autoImplicit false

namespace ThemeCompiler

namespace Document

variable {d e : Document}

/-- **A well-formed document**: its links form a forest, and texts, comments and document types have
no children. -/
structure WellFormed (d : Document) : Prop where
  nodes : d.nodes.WellFormed
  leaves : ∀ n, n ≠ Arena.root → d.isElement n = false → d.children n = []

theorem Relabels.wellFormed (h : Relabels d e) (hd : d.WellFormed) : e.WellFormed where
  nodes := h.links.wellFormed hd.nodes
  leaves n hn he := by
    rw [h.children_eq]
    exact hd.leaves n hn (by rwa [h.isElement_eq] at he)

namespace WellFormed

/-! ### Attached nodes -/

theorem nodup_attached (h : d.WellFormed) : d.attached.Nodup := h.nodes.nodup_descendants _

theorem lt_nextId (h : d.WellFormed) {n : NodeId} (hn : n ∈ d.attached) : n < d.nextId :=
  h.nodes.lt_size_of_mem_descendants hn

theorem ne_root (h : d.WellFormed) {n : NodeId} (hn : n ∈ d.attached) : n ≠ Arena.root := by
  rintro rfl
  exact h.nodes.root_not_mem_descendants _ hn

theorem isAttached_of_mem (h : d.WellFormed) {n : NodeId} (hn : n ∈ d.attached) :
    d.isAttached n = true :=
  h.nodes.isAttached_iff.2 (Or.inr hn)

theorem mem_attached_iff (h : d.WellFormed) {n : NodeId} :
    n ∈ d.attached ↔ n ≠ Arena.root ∧ d.isAttached n = true := by
  refine ⟨fun hn => ⟨h.ne_root hn, h.isAttached_of_mem hn⟩, fun hn => ?_⟩
  exact (h.nodes.isAttached_iff.1 hn.2).resolve_left hn.1

/-- What is below an attached node is attached. -/
theorem mem_attached_of_mem_descendants (h : d.WellFormed) {m n : NodeId} (hm : m ∈ d.attached)
    (hn : n ∈ d.descendants m) : n ∈ d.attached :=
  h.nodes.mem_descendants_trans hm hn

theorem mem_attached_of_mem_below (h : d.WellFormed) {i n : NodeId}
    (hi : i = Arena.root ∨ i ∈ d.attached) (hn : n ∈ d.descendants i) : n ∈ d.attached := by
  rcases hi with rfl | hi
  · exact hn
  · exact h.mem_attached_of_mem_descendants hi hn

/-- An attached node has a parent, which is the root or attached. -/
theorem exists_parent? (h : d.WellFormed) {n : NodeId} (hn : n ∈ d.attached) :
    ∃ p, d.parent? n = some p ∧ (p = Arena.root ∨ p ∈ d.attached) :=
  h.nodes.mem_descendants_iff_parent.1 hn

/-! ### Documents of parsed markup -/

/-- A node that may have children: the root or an element. -/
private def Holds (a : Arena Content) (p : NodeId) : Prop :=
  p < a.size ∧ (p = Arena.root ∨ isElement ⟨a, false⟩ p = true)

/-- A new node as the last child of the root or of an element. -/
private theorem addChild {a : Arena Content} (h : WellFormed ⟨a, false⟩) {p : NodeId}
    (hp : Holds a p) (c : Content) (isFull : Bool) :
    WellFormed ⟨(a.add c).appendChild p a.size, isFull⟩ := by
  have hsame : ∀ n, n ≠ a.size →
      isElement ⟨(a.add c).appendChild p a.size, isFull⟩ n = isElement ⟨a, false⟩ n := by
    intro n hne
    refine isElement_congr ?_
    change ((a.add c).appendChild p a.size).value? n = a.value? n
    rw [Arena.value?_appendChild, Arena.value?_add, if_neg hne]
  refine ⟨h.nodes.addChild hp.1 c, fun n hn he => ?_⟩
  -- the new node has no children, and the node that got a child is the root or an element
  have hempty : a.children n = [] := by
    by_cases hne : n = a.size
    · exact Arena.children_of_size_le hne.ge
    · exact h.leaves n hn ((hsame n hne).symm.trans he)
  have hnp : n ≠ p := by
    rintro rfl
    have helem : isElement ⟨a, false⟩ n = true := hp.2.resolve_left hn
    have hno := (hsame n (Nat.ne_of_lt hp.1)).symm.trans he
    rw [helem] at hno
    exact absurd hno (by simp)
  have hlt : p < (a.add c).size := by rw [Arena.size_add]; exact Nat.lt_succ_of_lt hp.1
  refine (Arena.children_appendChild (h.nodes.add c) hlt n).trans ?_
  rw [Arena.children_add, hempty, if_neg hnp]
  rfl

/-- What adding a tree leaves of an arena: it stays well-formed and keeps all values. -/
private def Grows (a b : Arena Content) : Prop :=
  a.size ≤ b.size ∧ (∀ j, j < a.size → b.value? j = a.value? j) ∧
    ∀ isFull, WellFormed ⟨b, isFull⟩

private theorem Grows.trans {a b c : Arena Content} (h : Grows a b) (h' : Grows b c) :
    Grows a c :=
  ⟨h.1.trans h'.1, fun j hj => (h'.2.1 j (hj.trans_le h.1)).trans (h.2.1 j hj), h'.2.2⟩

private theorem Holds.mono {a b : Arena Content} (hab : Grows a b) {p : NodeId} (h : Holds a p) :
    Holds b p :=
  ⟨h.1.trans_le hab.1, h.2.imp id fun he => (isElement_congr (hab.2.1 p h.1)).trans he⟩

private theorem grows_refl {a : Arena Content} (h : WellFormed ⟨a, false⟩) : Grows a a :=
  ⟨Nat.le_refl _, fun _ _ => rfl, fun _ => ⟨h.nodes, h.leaves⟩⟩

private theorem grows_addChild {a : Arena Content} (h : WellFormed ⟨a, false⟩) {p : NodeId}
    (hp : Holds a p) (c : Content) : Grows a ((a.add c).appendChild p a.size) := by
  refine ⟨?_, fun j hj => ?_, addChild h hp c⟩
  · rw [Arena.size_appendChild, Arena.size_add]
    exact Nat.le_succ _
  · rw [Arena.value?_appendChild, Arena.value?_add, if_neg (Nat.ne_of_lt hj)]

mutual

private theorem grows_addTree : ∀ (t : Html.Tree) {a : Arena Content} {p : NodeId},
    WellFormed ⟨a, false⟩ → Holds a p → Grows a (addTree p t a)
  | .document children, a, p, h, hp => by
      rw [addTree]
      exact grows_addTrees children h hp
  | .doctype name, a, p, h, hp => by
      rw [addTree]
      exact grows_addChild h hp _
  | .text content, a, p, h, hp => by
      rw [addTree]
      exact grows_addChild h hp _
  | .comment content, a, p, h, hp => by
      rw [addTree]
      exact grows_addChild h hp _
  | .instruction _ _, a, p, h, _ => by
      rw [addTree]
      exact grows_refl h
  | .element name attrs contents children, a, p, h, hp => by
      rw [addTree]
      have hnew := grows_addChild h hp (.element (Text.lowerAscii name) attrs)
      have hholds : Holds ((a.add (.element (Text.lowerAscii name) attrs)).appendChild p a.size)
          a.size := by
        refine ⟨by simp, Or.inr (isElement_iff.2 ⟨Text.lowerAscii name, attrs, ?_⟩)⟩
        change ((a.add _).appendChild p a.size).value? a.size = _
        rw [Arena.value?_appendChild, Arena.value?_add, if_pos rfl]
      have hcontents := grows_addTrees contents (hnew.2.2 false) hholds
      have hchildren := grows_addTrees children (hcontents.2.2 false) (hholds.mono hcontents)
      exact (hnew.trans hcontents).trans hchildren

private theorem grows_addTrees : ∀ (ts : List Html.Tree) {a : Arena Content} {p : NodeId},
    WellFormed ⟨a, false⟩ → Holds a p → Grows a (addTrees p ts a)
  | [], a, p, h, _ => by
      rw [addTrees]
      exact grows_refl h
  | t :: ts, a, p, h, hp => by
      rw [addTrees]
      have hfirst := grows_addTree t h hp
      exact hfirst.trans (grows_addTrees ts (hfirst.2.2 false) (hp.mono hfirst))

end

private theorem singleton (isFull : Bool) : WellFormed ⟨Arena.singleton .root, isFull⟩ where
  nodes := .singleton _
  leaves n _ _ := Arena.children_singleton _ n

/-- **The document of a tree is well-formed.** -/
theorem ofTree (isFull : Bool) (t : Html.Tree) : (Document.ofTree isFull t).WellFormed := by
  have hroot : Holds (Arena.singleton Content.root) Arena.root :=
    ⟨(singleton false).nodes.root_lt, Or.inl rfl⟩
  exact (grows_addTree t (singleton false) hroot).2.2 isFull

/-- **The document of a source text is well-formed.** -/
theorem parse (source : String) : (Document.parse source).WellFormed := ofTree ..

end WellFormed

end Document

end ThemeCompiler
