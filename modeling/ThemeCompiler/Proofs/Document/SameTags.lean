/-
**Documents with the same tree of tags.**

The nodes of two documents need not have the same numbers to have the same structure.  Here a map
takes the elements of one document to those of another one, tag by tag and place by place; texts,
comments and attributes may differ, and there may be more of them in one than in the other.  The
elements below a node are then carried over in their order, and with them all that is found by tags.

Main definitions:

* `ThemeCompiler.Document.frame` — the root and the attached elements;
* `ThemeCompiler.Document.SameTags` — **the same tree of tags**, along a map of the nodes.

Main results:

* `ThemeCompiler.Document.SameTags.elementsBelow_eq` — the elements below a node are carried over;
* `ThemeCompiler.Document.SameTags.findBelow_eq`, `ThemeCompiler.Document.SameTags.body?_eq` — so is
  what is found by tags;
* `ThemeCompiler.Document.SameTags.idxOf_le_iff` — **the elements keep their order in the document**,
  whatever is between them.
-/

import Mathlib.Data.List.Find
import Mathlib.Data.List.Nodup
import ThemeCompiler.Proofs.Document.Steps

set_option relaxedAutoImplicit false
set_option autoImplicit false

namespace ThemeCompiler

namespace Document

variable {d e : Document}

/-! ### Elements -/

/-- The elements below a node, in document order. -/
def elementsBelow (d : Document) (n : NodeId) : List NodeId :=
  (d.descendants n).filter d.isElement

/-- **The root and the attached elements.** -/
def frame (d : Document) : List NodeId := Arena.root :: d.elementsBelow Arena.root

theorem mem_elementsBelow {n m : NodeId} :
    m ∈ d.elementsBelow n ↔ m ∈ d.descendants n ∧ d.isElement m = true :=
  List.mem_filter

/-- **The elements below a node**: those inside, each before the ones below it. -/
theorem WellFormed.elementsBelow_eq (hd : d.WellFormed) (n : NodeId) :
    d.elementsBelow n = (d.elementChildren n).flatMap fun c => c :: d.elementsBelow c := by
  have hchild : ∀ c ∈ d.children n, (c :: d.descendants c).filter d.isElement =
      if d.isElement c then c :: d.elementsBelow c else [] := by
    intro c hc
    cases hel : d.isElement c with
    | true => rw [List.filter_cons_of_pos hel, if_pos rfl, elementsBelow]
    | false =>
        refine List.filter_eq_nil_iff.2 fun m hm => ?_
        obtain rfl := eq_of_below_child hd hc hel (List.mem_cons.1 hm)
        simp [hel]
  have hif : ∀ nodes : List NodeId,
      (nodes.flatMap fun c => if d.isElement c then c :: d.elementsBelow c else []) =
        (nodes.filter d.isElement).flatMap fun c => c :: d.elementsBelow c := by
    intro nodes
    induction nodes with
    | nil => rfl
    | cons c rest ih => cases hel : d.isElement c <;> simp [hel, ih]
  calc d.elementsBelow n
      = (d.children n).flatMap fun c => (c :: d.descendants c).filter d.isElement := by
        rw [elementsBelow, descendants, hd.nodes.descendants_eq, List.filter_flatMap]
        rfl
    _ = (d.elementChildren n).flatMap fun c => c :: d.elementsBelow c := by
        rw [List.flatMap_congr hchild, hif, elementChildren]

theorem isElement_of_hasTagIn {tags : List String} {n : NodeId} (h : d.hasTagIn tags n = true) :
    d.isElement n = true := by
  obtain ⟨tag, _, htag⟩ := hasTagIn_iff.1 h
  exact isElement_iff_tag?.2 ⟨tag, htag⟩

/-- What has a tag is among the elements. -/
theorem filter_hasTagIn (d : Document) (tags : List String) (n : NodeId) :
    (d.descendants n).filter (d.hasTagIn tags) = (d.elementsBelow n).filter (d.hasTagIn tags) := by
  rw [elementsBelow, List.filter_filter]
  refine List.filter_congr fun m _ => ?_
  rw [Bool.eq_iff_iff, Bool.and_eq_true]
  exact ⟨fun h => ⟨h, isElement_of_hasTagIn h⟩, And.left⟩

theorem findBelow_eq_find? (d : Document) (n : NodeId) (p : NodeId → Bool) :
    d.findBelow n p = (d.elementsBelow n).find? p := by
  rw [findBelow, elementsBelow, List.find?_filter]
  exact congrFun (congrArg List.find? (funext fun m => by simp)) _

theorem mem_frame {n : NodeId} :
    n ∈ d.frame ↔ n = Arena.root ∨ n ∈ d.attached ∧ d.isElement n = true := by
  rw [frame, List.mem_cons, mem_elementsBelow, attached]

namespace WellFormed

/-- An element below one of the frame is attached. -/
theorem mem_elements (hd : d.WellFormed) {n m : NodeId} (hn : n ∈ d.frame)
    (hm : m ∈ d.elementsBelow n) : m ∈ d.elementsBelow Arena.root := by
  obtain ⟨hbelow, hel⟩ := mem_elementsBelow.1 hm
  have hplaced : n = Arena.root ∨ n ∈ d.attached := (mem_frame.1 hn).imp_right And.left
  exact mem_elementsBelow.2 ⟨hd.mem_attached_of_mem_below hplaced hbelow, hel⟩

theorem mem_frame_of_below (hd : d.WellFormed) {n m : NodeId} (hn : n ∈ d.frame)
    (hm : m ∈ d.elementsBelow n) : m ∈ d.frame :=
  List.mem_cons_of_mem _ (hd.mem_elements hn hm)

theorem mem_elementsBelow_of_child (hd : d.WellFormed) {n c : NodeId}
    (hc : c ∈ d.elementChildren n) : c ∈ d.elementsBelow n := by
  obtain ⟨hchild, hel⟩ := mem_elementChildren.1 hc
  exact mem_elementsBelow.2 ⟨hd.nodes.mem_descendants_of_mem hchild, hel⟩

theorem mem_elements_of_child (hd : d.WellFormed) {n c : NodeId} (hn : n ∈ d.frame)
    (hc : c ∈ d.elementChildren n) : c ∈ d.elementsBelow Arena.root :=
  hd.mem_elements hn (hd.mem_elementsBelow_of_child hc)

theorem mem_frame_of_child (hd : d.WellFormed) {n c : NodeId} (hn : n ∈ d.frame)
    (hc : c ∈ d.elementChildren n) : c ∈ d.frame :=
  List.mem_cons_of_mem _ (hd.mem_elements_of_child hn hc)

theorem nodup_elementsBelow (hd : d.WellFormed) (n : NodeId) : (d.elementsBelow n).Nodup :=
  (hd.nodes.nodup_descendants n).filter _

end WellFormed

/-! ### Places in lists -/

variable {α : Type} [DecidableEq α]

/-- Members that a filter leaves keep their order. -/
theorem idxOf_filter_le_iff {p : α → Bool} {a b : α} (ha : p a = true) (hb : p b = true)
    (l : List α) : (l.filter p).idxOf a ≤ (l.filter p).idxOf b ↔ l.idxOf a ≤ l.idxOf b := by
  induction l with
  | nil => rfl
  | cons x l ih =>
      cases hx : p x with
      | true =>
          rw [List.filter_cons_of_pos hx, List.idxOf_cons, List.idxOf_cons, List.idxOf_cons,
            List.idxOf_cons]
          cases x == a <;> cases x == b <;> simp [ih]
      | false =>
          have hxa : (x == a) = false := by
            rw [beq_eq_false_iff_ne]
            rintro rfl
            rw [hx] at ha
            exact absurd ha (by simp)
          have hxb : (x == b) = false := by
            rw [beq_eq_false_iff_ne]
            rintro rfl
            rw [hx] at hb
            exact absurd hb (by simp)
          rw [List.filter_cons_of_neg (by simp [hx]), List.idxOf_cons, List.idxOf_cons, hxa, hxb,
            ih]
          simp

/-- The place of a member is the place of its image. -/
theorem idxOf_map {β : Type} [DecidableEq β] {f : α → β} {a : α} {l : List α}
    (hinj : ∀ x ∈ l, f x = f a → x = a) : (l.map f).idxOf (f a) = l.idxOf a := by
  induction l with
  | nil => rfl
  | cons x l ih =>
      have hbeq : (f x == f a) = (x == a) := by
        rw [Bool.eq_iff_iff, beq_iff_eq, beq_iff_eq]
        exact ⟨hinj x List.mem_cons_self, congrArg f⟩
      rw [List.map_cons, List.idxOf_cons, List.idxOf_cons, hbeq,
        ih fun y hy => hinj y (List.mem_cons_of_mem x hy)]

/-! ### The same tree of tags -/

/-- **The same tree of tags**: a map takes the root to the root, the elements inside of each attached
element to those inside of its image, and keeps the tags. -/
structure SameTags (f : NodeId → NodeId) (d e : Document) : Prop where
  root : f Arena.root = Arena.root
  tag?_eq : ∀ n ∈ d.frame, e.tag? (f n) = d.tag? n
  elementChildren_eq : ∀ n ∈ d.frame, e.elementChildren (f n) = (d.elementChildren n).map f

namespace SameTags

variable {f : NodeId → NodeId}

theorem hasTagIn_eq (h : SameTags f d e) {n : NodeId} (hn : n ∈ d.frame) (tags : List String) :
    e.hasTagIn tags (f n) = d.hasTagIn tags n := by
  rw [hasTagIn, hasTagIn, h.tag?_eq n hn]

theorem hasTag_eq (h : SameTags f d e) {n : NodeId} (hn : n ∈ d.frame) (tag : String) :
    e.hasTag tag (f n) = d.hasTag tag n := by
  rw [hasTag, hasTag, h.tag?_eq n hn]

/-- **The elements below a node are carried over**, in their order. -/
theorem elementsBelow_eq (h : SameTags f d e) (hd : d.WellFormed) (he : e.WellFormed) {n : NodeId}
    (hn : n ∈ d.frame) : e.elementsBelow (f n) = (d.elementsBelow n).map f := by
  induction n using hd.nodes.childInduction with
  | step n ih =>
      rw [hd.elementsBelow_eq, he.elementsBelow_eq, h.elementChildren_eq n hn, List.flatMap_map,
        List.map_flatMap]
      refine List.flatMap_congr fun c hc => ?_
      rw [List.map_cons, ih c (mem_elementChildren.1 hc).1 (hd.mem_frame_of_child hn hc)]

/-- The elements below a node with some tags are carried over. -/
theorem filter_eq (h : SameTags f d e) (hd : d.WellFormed) (he : e.WellFormed) {n : NodeId}
    (hn : n ∈ d.frame) (tags : List String) :
    (e.descendants (f n)).filter (e.hasTagIn tags) =
      ((d.descendants n).filter (d.hasTagIn tags)).map f := by
  rw [filter_hasTagIn, filter_hasTagIn, h.elementsBelow_eq hd he hn, List.filter_map]
  exact congrArg _ (List.filter_congr fun m hm =>
    h.hasTagIn_eq (hd.mem_frame_of_below hn hm) tags)

/-- **What is found below a node** is carried over when elements and their images satisfy the same. -/
theorem findBelow_eq (h : SameTags f d e) (hd : d.WellFormed) (he : e.WellFormed) {n : NodeId}
    (hn : n ∈ d.frame) {p q : NodeId → Bool} (hpq : ∀ m ∈ d.frame, q (f m) = p m) :
    e.findBelow (f n) q = (d.findBelow n p).map f := by
  rw [findBelow_eq_find?, findBelow_eq_find?, h.elementsBelow_eq hd he hn, List.find?_map]
  exact congrArg _ (List.find?_congr fun m hm =>
    hpq m (hd.mem_frame_of_below hn hm))

/-- **The body is carried over.** -/
theorem body?_eq (h : SameTags f d e) (hd : d.WellFormed) (he : e.WellFormed) :
    e.body? = d.body?.map f := by
  have hfilter := h.filter_eq hd he (n := Arena.root) (mem_frame.2 (Or.inl rfl)) ["body"]
  rw [h.root] at hfilter
  rw [body?, body?, elementsByTag_eq_elementsByTags, elementsByTag_eq_elementsByTags,
    elementsByTags, elementsByTags, attached, attached, hfilter, List.head?_map]

/-- The body, or the root where there is none. -/
theorem body_eq (h : SameTags f d e) (hd : d.WellFormed) (he : e.WellFormed) :
    e.body?.getD Arena.root = f (d.body?.getD Arena.root) := by
  rw [h.body?_eq hd he]
  cases d.body? with
  | none => exact h.root.symm
  | some body => rfl

theorem elements_eq (h : SameTags f d e) (hd : d.WellFormed) (he : e.WellFormed) :
    e.elementsBelow Arena.root = (d.elementsBelow Arena.root).map f := by
  have hroot := h.elementsBelow_eq hd he (n := Arena.root) (mem_frame.2 (Or.inl rfl))
  rwa [h.root] at hroot

/-- **Different elements have different images.** -/
theorem inj (h : SameTags f d e) (hd : d.WellFormed) (he : e.WellFormed) {a b : NodeId}
    (ha : a ∈ d.elementsBelow Arena.root) (hb : b ∈ d.elementsBelow Arena.root)
    (heq : f a = f b) : a = b := by
  have hnodup := he.nodup_elementsBelow Arena.root
  rw [h.elements_eq hd he] at hnodup
  exact List.inj_on_of_nodup_map hnodup ha hb heq

/-- **The elements keep their order in the document**, whatever is between them. -/
theorem idxOf_le_iff (h : SameTags f d e) (hd : d.WellFormed) (he : e.WellFormed) {a b : NodeId}
    (ha : a ∈ d.elementsBelow Arena.root) (hb : b ∈ d.elementsBelow Arena.root) :
    e.attached.idxOf (f a) ≤ e.attached.idxOf (f b) ↔ d.attached.idxOf a ≤ d.attached.idxOf b := by
  have hplace : ∀ c ∈ d.elementsBelow Arena.root, d.isElement c = true ∧
      e.isElement (f c) = true ∧
        (e.elementsBelow Arena.root).idxOf (f c) = (d.elementsBelow Arena.root).idxOf c := by
    intro c hc
    have himage : f c ∈ e.elementsBelow Arena.root := by
      rw [h.elements_eq hd he]
      exact List.mem_map_of_mem hc
    refine ⟨(mem_elementsBelow.1 hc).2, (mem_elementsBelow.1 himage).2, ?_⟩
    rw [h.elements_eq hd he]
    exact idxOf_map fun x hx => h.inj hd he hx hc
  obtain ⟨hela, hela', hidxa⟩ := hplace a ha
  obtain ⟨helb, helb', hidxb⟩ := hplace b hb
  rw [attached, attached, ← idxOf_filter_le_iff hela' helb', ← idxOf_filter_le_iff hela helb]
  exact Iff.of_eq (congrArg₂ (· ≤ ·) hidxa hidxb)

end SameTags

end Document

end ThemeCompiler
