/-
**What passes do to a document, one step at a time.**

Every pass is a sequence of small steps: an attached element gets another tag or other attributes, a
wrapper goes or makes room for the element inside it, or the content of the body goes into a new
main landmark.  A licence says which tags and attributes a pass may change.  What each step leaves
alone is said once here, for all passes.

Main definitions:

* `ThemeCompiler.Document.Keeps` — the nodes that two documents share stand in the same places;
* `ThemeCompiler.Document.Licence` — what a pass may change;
* `ThemeCompiler.Document.Step` — one step under a licence.

Main results:

* `ThemeCompiler.Document.Step.wellFormed`, `ThemeCompiler.Document.Step.keeps` — a step keeps a
  document well-formed and the places of its nodes;
* `ThemeCompiler.Document.Step.removed`, `ThemeCompiler.Document.Step.added` — **what goes says
  nothing, and what comes is a main landmark**;
* `ThemeCompiler.Document.Step.value?_cases` — what can happen to a single node;
* `ThemeCompiler.Document.Step.mains_eq`, `ThemeCompiler.Document.Step.tail_mains` — which steps keep
  the main landmarks, and those beside the first one.
-/

import ThemeCompiler.Landmarks
import ThemeCompiler.Proofs.Arena.Contraction
import ThemeCompiler.Proofs.Document.Formed

set_option relaxedAutoImplicit false
set_option autoImplicit false

namespace ThemeCompiler

open Html (Attribute)

namespace Document

variable {d e f : Document}

/-! ### Nodes that stand in the same places -/

/-- **The nodes that two documents share stand in the same places**: the later document attaches no
old node again, and below the root and below each shared node the shared nodes are the same and in
the same order. -/
structure Keeps (d e : Document) : Prop where
  nextId_le : d.nextId ≤ e.nextId
  mem_attached : ∀ n ∈ e.attached, n < d.nextId → n ∈ d.attached
  descendants_eq : ∀ i, i = Arena.root ∨ i ∈ d.attached ∧ i ∈ e.attached →
    (e.descendants i).filter (· ∈ d.attached) = (d.descendants i).filter (· ∈ e.attached)

namespace Keeps

theorem refl (d : Document) : Keeps d d := ⟨Nat.le_refl _, fun _ hn _ => hn, fun _ _ => rfl⟩

/-- A node of the outer documents of a sequence is in the middle one. -/
theorem mem_middle (h : Keeps d e) (h' : Keeps e f) (hd : d.WellFormed) {n : NodeId}
    (hn : n ∈ d.attached) (hn' : n ∈ f.attached) : n ∈ e.attached :=
  h'.mem_attached n hn' ((hd.lt_nextId hn).trans_le h.nextId_le)

theorem trans (h : Keeps d e) (h' : Keeps e f) (hd : d.WellFormed) (hf : f.WellFormed) :
    Keeps d f where
  nextId_le := h.nextId_le.trans h'.nextId_le
  mem_attached n hn hlt :=
    h.mem_attached n (h'.mem_attached n hn (hlt.trans_le h.nextId_le)) hlt
  descendants_eq i hi := by
    have hi₁ : i = Arena.root ∨ i ∈ d.attached ∧ i ∈ e.attached :=
      hi.imp_right fun hi => ⟨hi.1, h.mem_middle h' hd hi.1 hi.2⟩
    have hi₂ : i = Arena.root ∨ i ∈ e.attached ∧ i ∈ f.attached :=
      hi.imp_right fun hi => ⟨h.mem_middle h' hd hi.1 hi.2, hi.2⟩
    calc (f.descendants i).filter (· ∈ d.attached)
        = ((f.descendants i).filter (· ∈ e.attached)).filter (· ∈ d.attached) := by
          rw [List.filter_filter]
          refine List.filter_congr fun n hn => ?_
          have hnf : n ∈ f.attached := hf.mem_attached_of_mem_below (hi.imp_right And.right) hn
          rw [Bool.eq_iff_iff]
          simpa using fun hnd => h.mem_middle h' hd hnd hnf
      _ = ((d.descendants i).filter (· ∈ e.attached)).filter (· ∈ f.attached) := by
          rw [h'.descendants_eq i hi₂, ← h.descendants_eq i hi₁, List.filter_filter,
            List.filter_filter]
          exact List.filter_congr fun n _ => Bool.and_comm _ _
      _ = (d.descendants i).filter (· ∈ f.attached) := by
          rw [List.filter_filter]
          refine List.filter_congr fun n hn => ?_
          have hnd : n ∈ d.attached := hd.mem_attached_of_mem_below (hi.imp_right And.left) hn
          rw [Bool.eq_iff_iff]
          simpa using fun hnf => h.mem_middle h' hd hnd hnf

/-- **Shared nodes keep their order.** -/
theorem filter_attached (h : Keeps d e) :
    e.attached.filter (· ∈ d.attached) = d.attached.filter (· ∈ e.attached) :=
  h.descendants_eq Arena.root (Or.inl rfl)

/-- **A shared node is below another one** afterwards exactly when it was before. -/
theorem mem_descendants_iff (h : Keeps d e) {i n : NodeId} (hi : i ∈ d.attached)
    (hi' : i ∈ e.attached) (hn : n ∈ d.attached) (hn' : n ∈ e.attached) :
    n ∈ e.descendants i ↔ n ∈ d.descendants i := by
  have heq := congrArg (n ∈ ·) (h.descendants_eq i (Or.inr ⟨hi, hi'⟩))
  simpa [hn, hn'] using heq

/-- **A list made from the attached nodes is the same** when shared nodes give the same and all
others nothing. -/
theorem filterMap_attached {β : Type} (h : Keeps d e) {p q : NodeId → Option β}
    (hsame : ∀ n ∈ d.attached, n ∈ e.attached → q n = p n)
    (hgone : ∀ n ∈ d.attached, n ∉ e.attached → p n = none)
    (hnew : ∀ n ∈ e.attached, n ∉ d.attached → q n = none) :
    e.attached.filterMap q = d.attached.filterMap p := by
  have hdrop : ∀ {ids shared : List NodeId} {r : NodeId → Option β},
      (∀ n ∈ ids, n ∉ shared → r n = none) →
        ids.filterMap r = (ids.filter (· ∈ shared)).filterMap r := by
    intro ids shared r hr
    rw [List.filterMap_filter]
    refine List.filterMap_congr fun n hn => ?_
    by_cases hs : n ∈ shared
    · simp [hs]
    · simp [hs, hr n hn hs]
  rw [hdrop hnew, hdrop hgone, ← h.filter_attached]
  refine List.filterMap_congr fun n hn => ?_
  rw [List.mem_filter] at hn
  exact hsame n (by simpa using hn.2) hn.1

/-- The same of the attached nodes that satisfy a predicate. -/
theorem filter_attached_eq (h : Keeps d e) {p q : NodeId → Bool}
    (hsame : ∀ n ∈ d.attached, n ∈ e.attached → q n = p n)
    (hgone : ∀ n ∈ d.attached, n ∉ e.attached → p n = false)
    (hnew : ∀ n ∈ e.attached, n ∉ d.attached → q n = false) :
    e.attached.filter q = d.attached.filter p := by
  rw [← List.filterMap_eq_filter, ← List.filterMap_eq_filter]
  refine h.filterMap_attached (fun n hn hn' => ?_) (fun n hn hn' => ?_) fun n hn hn' => ?_
  · rw [Option.guard, Option.guard, hsame n hn hn']
  · rw [Option.guard, hgone n hn hn']
    rfl
  · rw [Option.guard, hnew n hn hn']
    rfl

/-- Taking nodes out keeps the places of the others. -/
theorem of_removed {gone : NodeId → Bool} (hd : d.WellFormed) (hsize : e.nextId = d.nextId)
    (hroot : gone Arena.root = false)
    (h : ∀ i, gone i = false → e.descendants i = (d.descendants i).filter (!gone ·)) :
    Keeps d e := by
  have hmem : ∀ {n}, n ∈ e.attached ↔ n ∈ d.attached ∧ gone n = false := by
    intro n
    rw [attached, h _ hroot, List.mem_filter, Bool.not_eq_true', attached]
  refine ⟨hsize.ge, fun n hn _ => (hmem.1 hn).1, fun i hi => ?_⟩
  have hstays : gone i = false := by
    rcases hi with rfl | hi
    · exact hroot
    · exact (hmem.1 hi.2).2
  rw [h i hstays, List.filter_filter]
  refine List.filter_congr fun n hn => ?_
  have hnd : n ∈ d.attached := hd.mem_attached_of_mem_below (hi.imp_right And.left) hn
  simp [hmem, hnd]

/-- Putting a new node in keeps the places of the old ones. -/
theorem of_added {w : NodeId} (he : e.WellFormed) (hsize : d.nextId ≤ e.nextId)
    (hw : w ∉ d.attached) (hroot : w ≠ Arena.root) (hlt : ¬ w < d.nextId)
    (h : ∀ i, i ≠ w → d.descendants i = (e.descendants i).filter (· != w)) : Keeps d e := by
  have hmem : ∀ {n}, n ∈ d.attached ↔ n ∈ e.attached ∧ n ≠ w := by
    intro n
    rw [attached, h _ hroot.symm, List.mem_filter, bne_iff_ne, attached]
  refine ⟨hsize, fun n hn hnd => hmem.2 ⟨hn, fun hnw => hlt (hnw ▸ hnd)⟩, fun i hi => ?_⟩
  have hiw : i ≠ w := by
    rintro rfl
    exact hi.elim hroot fun hi => hw hi.1
  rw [h i hiw, List.filter_filter]
  refine List.filter_congr fun n hn => ?_
  have hne : n ∈ e.attached := he.mem_attached_of_mem_below (hi.imp_right And.right) hn
  rw [Bool.eq_iff_iff]
  simp [hmem, hne]

end Keeps

theorem Relabels.keeps (h : Relabels d e) : Keeps d e := by
  refine ⟨h.nextId_eq.ge, fun n hn _ => by rwa [h.attached_eq] at hn, fun i _ => ?_⟩
  rw [h.descendants_eq, h.attached_eq]

/-! ### Taking wrappers out -/

/-- **A node that says nothing**: a division without attributes, or neither an element nor a
visible text. -/
def Silent (d : Document) (n : NodeId) : Prop :=
  d.nodes.value? n = some (.element "div" []) ∨ d.isElement n = false ∧ d.isVisibleText n = false

theorem Silent.tag?_ne {n : NodeId} (h : d.Silent n) {tag : String} (htag : tag ≠ "div") :
    d.tag? n ≠ some tag := by
  rcases h with hdiv | ⟨hel, _⟩
  · rw [tag?, hdiv, ne_eq, Option.some.injEq]
    exact htag.symm
  · intro h
    rw [isElement, h] at hel
    exact absurd hel (by simp)

theorem isWrapper_iff {n : NodeId} : Landmarks.isWrapper d n = true ↔
    d.nodes.value? n = some (.element "div" []) ∧ d.hasDirectText n = false := by
  rw [Landmarks.isWrapper, hasTag, tag?, attrs]
  split
  · next tag attrs hv => simp [hv]
  · next hv => simp_all

theorem ne_root_of_mem_children (hd : d.WellFormed) {n c : NodeId} (hc : c ∈ d.children n) :
    c ≠ Arena.root := by
  rintro rfl
  have hparent := hd.nodes.parent?_of_mem hc
  rw [hd.nodes.parent_root] at hparent
  exact absurd hparent (by simp)

theorem mem_elementChildren {n c : NodeId} :
    c ∈ d.elementChildren n ↔ c ∈ d.children n ∧ d.isElement c = true :=
  List.mem_filter

/-- Nothing is below a child that is not an element. -/
theorem eq_of_below_child (hd : d.WellFormed) {n c m : NodeId} (hc : c ∈ d.children n)
    (he : d.isElement c = false) (hm : m = c ∨ m ∈ d.descendants c) : m = c := by
  refine hm.resolve_right fun hm => ?_
  obtain ⟨x, hx, _⟩ := hd.nodes.mem_descendants_iff.1 hm
  have hnone : d.nodes.children c = [] := hd.leaves c (ne_root_of_mem_children hd hc) he
  rw [hnone] at hx
  exact absurd hx (by simp)

/-- **An element below a node** is one of its elements inside, or below one of these. -/
theorem exists_elementChild (hd : d.WellFormed) {n m : NodeId} (hm : m ∈ d.descendants n)
    (he : d.isElement m = true) :
    ∃ c ∈ d.elementChildren n, m = c ∨ m ∈ d.descendants c := by
  obtain ⟨c, hc, hmc⟩ := hd.nodes.mem_descendants_iff.1 hm
  refine ⟨c, mem_elementChildren.2 ⟨hc, ?_⟩, hmc⟩
  by_contra hno
  obtain rfl := eq_of_below_child hd hc (by simpa using hno) hmc
  exact hno he

/-- What is in a wrapper and not an element says nothing, and nothing is below it. -/
theorem silent_of_mem_children (hd : d.WellFormed) {n c m : NodeId}
    (htext : d.hasDirectText n = false) (hc : c ∈ d.children n) (he : d.isElement c = false)
    (hm : m = c ∨ m ∈ d.descendants c) : d.Silent m := by
  obtain rfl := eq_of_below_child hd hc he hm
  refine Or.inr ⟨he, ?_⟩
  rw [hasDirectText, List.any_eq_false] at htext
  simpa using htext m hc

/-- **What taking wrappers out leaves of a document**: the places and values of all other nodes, and
nothing goes that says something. -/
structure TakesOut (d e : Document) : Prop where
  wellFormed : e.WellFormed
  keeps : Keeps d e
  nextId_eq : e.nextId = d.nextId
  value?_eq : ∀ n, e.nodes.value? n = d.nodes.value? n
  attached : ∀ n ∈ e.attached, n ∈ d.attached
  silent : ∀ n ∈ d.attached, n ∉ e.attached → d.Silent n

/-- A contraction that takes out only what says nothing. -/
theorem TakesOut.of_contracts {gone : NodeId → Bool} {kept : NodeId → List NodeId}
    {b : Arena Content} (hd : d.WellFormed) (hb : b.WellFormed)
    (hcontracts : Arena.Contracts gone kept d.nodes b) (hsize : b.size = d.nodes.size)
    (hvalue : ∀ m, b.value? m = d.nodes.value? m)
    (hempty : ∀ m, d.nodes.children m = [] → b.children m = [])
    (hroot : gone Arena.root = false)
    (hsilent : ∀ m, gone m = true → d.Silent m) : TakesOut d (d.withNodes b) := by
  have hdescendants : ∀ i, gone i = false →
      (d.withNodes b).descendants i = (d.descendants i).filter (!gone ·) := fun i hi =>
    hcontracts.descendants_eq hd.nodes hb hi
  have hmem : ∀ m, m ∈ (d.withNodes b).attached ↔ m ∈ d.attached ∧ gone m = false := by
    intro m
    rw [Document.attached, hdescendants _ hroot, List.mem_filter, Bool.not_eq_true',
      Document.attached]
  refine ⟨⟨hb, fun m hm he => hempty m (hd.leaves m hm ?_)⟩,
    Keeps.of_removed hd hsize hroot hdescendants, hsize, hvalue, fun m hm => ((hmem m).1 hm).1,
    fun m hm hm' => hsilent m ?_⟩
  · rw [← he]
    exact isElement_congr (hvalue m).symm
  · by_contra hno
    exact hm' ((hmem m).2 ⟨hm, by simpa using hno⟩)

/-- **A wrapper without elements goes.** -/
theorem takesOut_detach (hd : d.WellFormed) {n : NodeId} (hn : n ∈ d.attached)
    (hwrapper : Landmarks.isWrapper d n = true) (hinner : d.elementChildren n = []) :
    TakesOut d (d.detach n) := by
  obtain ⟨hdiv, htext⟩ := isWrapper_iff.1 hwrapper
  refine TakesOut.of_contracts hd (hd.nodes.detach n) (Arena.contracts_detach hd.nodes n)
    (Arena.size_detach ..) (fun m => Arena.value?_detach ..) (fun m hm => ?_) ?_ fun m hm => ?_
  · rw [Arena.children_detach hd.nodes, hm, List.filter_nil]
  · simpa using ⟨(hd.ne_root hn).symm, hd.nodes.root_not_mem_descendants n⟩
  · rcases of_decide_eq_true hm with rfl | hm
    · exact Or.inl hdiv
    · obtain ⟨c, hc, hmc⟩ := hd.nodes.mem_descendants_iff.1 hm
      refine silent_of_mem_children hd htext hc ?_ hmc
      by_contra he
      have hin : c ∈ d.elementChildren n := mem_elementChildren.2 ⟨hc, by simpa using he⟩
      rw [hinner] at hin
      exact absurd hin (by simp)

/-- **The only element of a wrapper takes its place.** -/
theorem takesOut_replaceWith (hd : d.WellFormed) {n only : NodeId} (hn : n ∈ d.attached)
    (hwrapper : Landmarks.isWrapper d n = true) (hinner : d.elementChildren n = [only]) :
    TakesOut d (d.replaceWith n only) := by
  obtain ⟨hdiv, htext⟩ := isWrapper_iff.1 hwrapper
  obtain ⟨p, hp, _⟩ := hd.exists_parent? hn
  obtain ⟨honly, _⟩ := mem_elementChildren.1 (hinner ▸ List.mem_singleton_self only)
  refine TakesOut.of_contracts hd (hd.nodes.replaceWith_child hp honly)
    (Arena.contracts_replaceWith hd.nodes hp honly) (Arena.size_replaceWith ..)
    (fun m => Arena.value?_replaceWith ..) (fun m hm => ?_) ?_ fun m hm => ?_
  · rw [hd.nodes.children_replaceWith_child hp honly, hm]
    rfl
  · simpa using fun hgone => hgone.elim (fun h => hd.ne_root hn h.symm)
      fun h => hd.nodes.root_not_mem_descendants n h.1
  · rcases of_decide_eq_true hm with rfl | ⟨hm, hne, hnot⟩
    · exact Or.inl hdiv
    · obtain ⟨c, hc, hmc⟩ := hd.nodes.mem_descendants_iff.1 hm
      refine silent_of_mem_children hd htext hc ?_ hmc
      by_contra he
      have hin : c ∈ d.elementChildren n := mem_elementChildren.2 ⟨hc, by simpa using he⟩
      rw [hinner, List.mem_singleton] at hin
      subst hin
      exact hmc.elim hne hnot

theorem mem_elementsByTag {tag : String} {n : NodeId} :
    n ∈ d.elementsByTag tag ↔ n ∈ d.attached ∧ d.tag? n = some tag := by
  rw [elementsByTag, List.mem_filter, hasTag_iff]

/-- Taking out what says nothing keeps the list of elements with another tag. -/
theorem TakesOut.elementsByTag_eq (h : TakesOut d e) {tag : String} (htag : tag ≠ "div") :
    e.elementsByTag tag = d.elementsByTag tag := by
  refine h.keeps.filter_attached_eq (fun n _ _ => hasTag_congr (tag?_congr (h.value?_eq n)) tag)
    (fun n hn hn' => ?_) fun n hn hn' => absurd (h.attached n hn) hn'
  rw [Bool.eq_false_iff, ne_eq, hasTag_iff]
  exact (h.silent n hn hn').tag?_ne htag

/-! ### A new main landmark -/

/-- The document with the content of its body in a new main landmark. -/
def wrapBody (d : Document) (body : NodeId) (attrs : List Attribute) : Document :=
  (d.createElement "main" attrs).wrapChildren body d.nextId

theorem mem_of_body? {body : NodeId} (h : d.body? = some body) :
    body ∈ d.attached ∧ d.tag? body = some "body" :=
  mem_elementsByTag.1 (List.mem_of_head? h)

/-- **What wrapping the body leaves of a document**: the places and values of all old nodes; the new
node is attached. -/
structure PutsIn (d e : Document) (attrs : List Attribute) : Prop where
  wellFormed : e.WellFormed
  keeps : Keeps d e
  nextId_eq : e.nextId = d.nextId + 1
  value?_eq : ∀ n, n < d.nextId → e.nodes.value? n = d.nodes.value? n
  value?_new : e.nodes.value? d.nextId = some (.element "main" attrs)
  attached : ∀ n, n ∈ e.attached ↔ n ∈ d.attached ∨ n = d.nextId

/-- **Wrapping the body puts one element in.** -/
theorem putsIn_wrapBody (hd : d.WellFormed) {body : NodeId} (hbody : d.body? = some body)
    (attrs : List Attribute) : PutsIn d (d.wrapBody body attrs) attrs := by
  obtain ⟨hmem, htag⟩ := mem_of_body? hbody
  have hlt : body < d.nodes.size := hd.lt_nextId hmem
  obtain ⟨hwf, hsize, hvalue, hchildren, hdescendants⟩ :=
    hd.nodes.wrapNew hlt (.element (Text.lowerAscii "main") attrs)
  have hroot : d.nextId ≠ Arena.root := Nat.ne_of_gt hd.nodes.root_lt
  have hnot : d.nextId ∉ d.attached := fun h => Nat.lt_irrefl _ (hd.lt_nextId h)
  have hold : ∀ n, n < d.nextId →
      (d.wrapBody body attrs).nodes.value? n = d.nodes.value? n := fun n hn => by
    refine (hvalue n).trans (if_neg ?_)
    exact Nat.ne_of_lt hn
  have hnew : (d.wrapBody body attrs).nodes.value? d.nextId = some (.element "main" attrs) :=
    (hvalue d.nextId).trans (if_pos rfl)
  have hwfdoc : (d.wrapBody body attrs).WellFormed := by
    refine ⟨hwf, fun n hn he => ?_⟩
    -- both nodes that have children now are elements
    have hnb : n ≠ body := by
      rintro rfl
      rw [isElement_congr (hold n hlt), isElement, htag] at he
      exact absurd he (by simp)
    have hnn : n ≠ d.nextId := by
      rintro rfl
      rw [isElement_iff.2 ⟨_, _, hnew⟩] at he
      exact absurd he (by simp)
    have hsame : d.isElement n = false := by
      rw [← he]
      refine isElement_congr ((hvalue n).trans (if_neg hnn)).symm
    refine (hchildren n).trans ((if_neg hnb).trans ((if_neg hnn).trans ?_))
    exact hd.leaves n hn hsame
  have hiff : ∀ n, n ∈ d.attached ↔ n ∈ (d.wrapBody body attrs).attached ∧ n ≠ d.nextId := by
    intro n
    refine (Iff.of_eq (congrArg (n ∈ ·) (hdescendants _ hroot.symm))).trans ?_
    rw [List.mem_filter, bne_iff_ne]
    rfl
  -- the new node hangs on the body, which is attached
  have hmain : d.nextId ∈ (d.wrapBody body attrs).attached := by
    refine hwfdoc.mem_attached_of_mem_descendants ((hiff body).1 hmem).1
      (hwfdoc.nodes.mem_descendants_of_mem ?_)
    have hbody : (d.wrapBody body attrs).nodes.children body = [d.nextId] :=
      (hchildren body).trans (if_pos rfl)
    rw [hbody]
    exact List.mem_singleton_self _
  refine ⟨hwfdoc, Keeps.of_added hwfdoc ?_ hnot hroot (Nat.lt_irrefl _) hdescendants, hsize, hold,
    hnew, fun n => ?_⟩
  · exact (Nat.le_succ _).trans_eq hsize.symm
  · rw [hiff]
    refine ⟨fun hn => ?_, fun hn => ?_⟩
    · by_cases hnn : n = d.nextId
      · exact Or.inr hnn
      · exact Or.inl ⟨hn, hnn⟩
    · rcases hn with hn | rfl
      · exact hn.1
      · exact hmain

/-- **The new main landmark is the only one.** -/
theorem PutsIn.mains {attrs : List Attribute} (h : PutsIn d e attrs) (hd : d.WellFormed)
    (hnone : d.elementsByTag "main" = []) : e.elementsByTag "main" = [d.nextId] := by
  have hnot : ∀ n ∈ d.attached, e.tag? n ≠ some "main" := by
    intro n hn htag
    have hmem : n ∈ d.elementsByTag "main" := by
      rw [mem_elementsByTag, ← tag?_congr (h.value?_eq n (hd.lt_nextId hn))]
      exact ⟨hn, htag⟩
    rw [hnone] at hmem
    exact absurd hmem (by simp)
  have hmem : ∀ n, n ∈ e.elementsByTag "main" ↔ n = d.nextId := by
    intro n
    rw [mem_elementsByTag, h.attached]
    refine ⟨fun hn => hn.1.resolve_left fun hmem => hnot n hmem hn.2, ?_⟩
    rintro rfl
    exact ⟨Or.inr rfl, by rw [tag?, h.value?_new]⟩
  have hnodup : (e.elementsByTag "main").Nodup := h.wellFormed.nodup_attached.filter _
  exact List.perm_singleton.1 ((List.perm_ext_iff_of_nodup hnodup (List.nodup_singleton _)).2
    fun n => by rw [hmem, List.mem_singleton])

/-! ### Licences -/

/-- **What a pass may change.** -/
structure Licence where
  /-- The tags with what may become of them. -/
  retags : List (String × String)
  /-- The attributes that may be set. -/
  sets : List String
  /-- The attributes that may be removed. -/
  drops : List String
  /-- Whether the content of the body may go into a new main landmark. -/
  wraps : Bool

namespace Licence

/-- Changes of an attribute list: a name that may not be set does not get more attributes, and one
that may not be removed either keeps its value. -/
structure Allows (l : Licence) (old new : List Attribute) : Prop where
  lookup : ∀ name, name ∉ l.sets → name ∉ l.drops → lookupAttr name new = lookupAttr name old
  count : ∀ name, name ∉ l.sets → countAttr name new ≤ countAttr name old

/-- **What a step may make of a node.** -/
inductive Changes (l : Licence) : Content → Content → Prop
  | tag {old new : String} {attrs : List Attribute} (h : (old, new) ∈ l.retags) :
      Changes l (.element old attrs) (.element new attrs)
  | attrs {tag : String} {old new : List Attribute} (h : l.Allows old new) :
      Changes l (.element tag old) (.element tag new)

/-- A licence that allows no more than another. -/
structure Within (l l' : Licence) : Prop where
  retags : ∀ r ∈ l.retags, r ∈ l'.retags
  sets : ∀ name ∈ l.sets, name ∈ l'.sets
  drops : ∀ name ∈ l.drops, name ∈ l'.drops
  wraps : l.wraps = true → l'.wraps = true

instance (l l' : Licence) : Decidable (l.Within l') :=
  decidable_of_iff ((∀ r ∈ l.retags, r ∈ l'.retags) ∧ (∀ name ∈ l.sets, name ∈ l'.sets) ∧
      (∀ name ∈ l.drops, name ∈ l'.drops) ∧ (l.wraps = true → l'.wraps = true))
    ⟨fun ⟨hr, hs, hd, hw⟩ => ⟨hr, hs, hd, hw⟩, fun ⟨hr, hs, hd, hw⟩ => ⟨hr, hs, hd, hw⟩⟩

theorem Allows.mono {l l' : Licence} (hl : l.Within l') {old new : List Attribute}
    (h : l.Allows old new) : l'.Allows old new where
  lookup name hs hd := h.lookup name (mt (hl.sets name) hs) (mt (hl.drops name) hd)
  count name hs := h.count name (mt (hl.sets name) hs)

theorem allows_putAttr {l : Licence} {name : String} (h : name ∈ l.sets) (value : String)
    (attrs : List Attribute) : l.Allows attrs (putAttr name value attrs) where
  lookup other hs _ := by
    rw [lookupAttr_putAttr, if_neg]
    rintro rfl
    exact hs h
  count other hs := by
    refine (countAttr_putAttr ?_ value attrs).le
    rintro rfl
    exact hs h

theorem allows_dropAttr {l : Licence} {name : String} (h : name ∈ l.drops)
    (attrs : List Attribute) : l.Allows attrs (dropAttr name attrs) where
  lookup other _ hdr := by
    refine lookupAttr_dropAttr ?_ attrs
    rintro rfl
    exact hdr h
  count other _ := countAttr_dropAttr_le name other attrs

end Licence

/-! ### Steps -/

/-- **One step of a pass.**  A main landmark gets another tag only beside a second one, and another
element becomes one only when there is none. -/
inductive Step (l : Licence) (d : Document) : Document → Prop
  | rename {n : NodeId} {old tag : String} (attached : n ∈ d.attached) (was : d.tag? n = some old)
      (allowed : (old, Text.lowerAscii tag) ∈ l.retags)
      (beside : old = "main" → ∃ m ∈ d.attached, m ≠ n ∧ d.tag? m = some "main")
      (single : Text.lowerAscii tag = "main" → d.elementsByTag "main" = []) :
      Step l d (d.rename n tag)
  | setAttrs {n : NodeId} {attrs : List Attribute} (attached : n ∈ d.attached)
      (element : d.isElement n = true) (allowed : l.Allows (d.attrs n) attrs) :
      Step l d (d.setAttrs n attrs)
  | drop {n : NodeId} (attached : n ∈ d.attached) (wrapper : Landmarks.isWrapper d n = true)
      (inner : d.elementChildren n = []) : Step l d (d.detach n)
  | lift {n only : NodeId} (attached : n ∈ d.attached) (wrapper : Landmarks.isWrapper d n = true)
      (inner : d.elementChildren n = [only]) : Step l d (d.replaceWith n only)
  | wrap {body : NodeId} {attrs : List Attribute} (allowed : l.wraps = true)
      (single : d.elementsByTag "main" = []) (found : d.body? = some body) :
      Step l d (d.wrapBody body attrs)

namespace Step

variable {l l' : Licence}

theorem mono (hl : l.Within l') (h : Step l d e) : Step l' d e := by
  cases h with
  | rename attached was allowed beside single =>
      exact rename attached was (hl.retags _ allowed) beside single
  | setAttrs attached element allowed => exact setAttrs attached element (allowed.mono hl)
  | drop attached wrapper inner => exact drop attached wrapper inner
  | lift attached wrapper inner => exact lift attached wrapper inner
  | wrap allowed single found => exact wrap (hl.wraps allowed) single found

/-- **The three kinds of steps**: a relabelling, taking something out, and putting something in. -/
theorem kinds (h : Step l d e) (hd : d.WellFormed) :
    Relabels d e ∨ TakesOut d e ∨
      l.wraps = true ∧ d.elementsByTag "main" = [] ∧ ∃ attrs, PutsIn d e attrs := by
  cases h with
  | rename => exact Or.inl (relabels_rename ..)
  | setAttrs => exact Or.inl (relabels_setAttrs ..)
  | drop attached wrapper inner =>
      exact Or.inr (Or.inl (takesOut_detach hd attached wrapper inner))
  | lift attached wrapper inner =>
      exact Or.inr (Or.inl (takesOut_replaceWith hd attached wrapper inner))
  | wrap allowed single found =>
      exact Or.inr (Or.inr ⟨allowed, single, _, putsIn_wrapBody hd found _⟩)

/-- **A step keeps a document well-formed.** -/
theorem wellFormed (h : Step l d e) (hd : d.WellFormed) : e.WellFormed := by
  rcases h.kinds hd with h | h | ⟨_, _, _, h⟩
  · exact h.wellFormed hd
  · exact h.wellFormed
  · exact h.wellFormed

/-- **A step keeps the places of the nodes.** -/
theorem keeps (h : Step l d e) (hd : d.WellFormed) : Keeps d e := by
  rcases h.kinds hd with h | h | ⟨_, _, _, h⟩
  · exact h.keeps
  · exact h.keeps
  · exact h.keeps

/-- **What goes says nothing.** -/
theorem removed (h : Step l d e) (hd : d.WellFormed) {n : NodeId} (hn : n ∈ d.attached)
    (hn' : n ∉ e.attached) : d.Silent n := by
  rcases h.kinds hd with h | h | ⟨_, _, _, h⟩
  · rw [h.attached_eq] at hn'
    exact absurd hn hn'
  · exact h.silent n hn hn'
  · exact absurd ((h.attached n).2 (Or.inl hn)) hn'

/-- **What comes is a main landmark**, and there was none before. -/
theorem added (h : Step l d e) (hd : d.WellFormed) {n : NodeId} (hn : n ∈ e.attached)
    (hn' : n ∉ d.attached) :
    l.wraps = true ∧ d.elementsByTag "main" = [] ∧ n = d.nextId ∧ e.tag? n = some "main" := by
  rcases h.kinds hd with h | h | ⟨hwraps, hnone, _, h⟩
  · rw [h.attached_eq] at hn
    exact absurd hn hn'
  · exact absurd (h.attached n hn) hn'
  · obtain hnew : n = d.nextId := ((h.attached n).1 hn).resolve_left hn'
    exact ⟨hwraps, hnone, hnew, by rw [hnew, tag?, h.value?_new]⟩

/-- **What can happen to a single node.**  Only attached nodes change, as the licence says, and stay
attached. -/
theorem value?_cases (h : Step l d e) (hd : d.WellFormed) {n : NodeId} (hn : n < d.nextId) :
    e.nodes.value? n = d.nodes.value? n ∨
      n ∈ d.attached ∧ n ∈ e.attached ∧ ∃ old new, d.nodes.value? n = some old ∧
        e.nodes.value? n = some new ∧ l.Changes old new := by
  cases h with
  | @rename m old tag attached was allowed beside single =>
      by_cases hnm : n = m
      · subst hnm
        obtain ⟨tag', attrs, hv⟩ := isElement_iff.1 (isElement_iff_tag?.2 ⟨old, was⟩)
        have hold : tag' = old := by simpa [tag?, hv] using was
        subst hold
        refine Or.inr ⟨attached, ?_, _, .element (Text.lowerAscii tag) attrs, hv, ?_, .tag allowed⟩
        · rwa [(relabels_rename ..).attached_eq]
        · rw [Document.rename, value?_modifyContent, if_pos rfl, hv]
          rfl
      · exact Or.inl (value?_rename_of_ne d tag hnm)
  | @setAttrs m attrs attached element allowed =>
      by_cases hnm : n = m
      · subst hnm
        obtain ⟨tag, old, hv⟩ := isElement_iff.1 element
        have hold : d.attrs n = old := by rw [Document.attrs, hv]
        rw [hold] at allowed
        refine Or.inr ⟨attached, ?_, _, .element tag attrs, hv, ?_, .attrs allowed⟩
        · rwa [(relabels_setAttrs ..).attached_eq]
        · rw [Document.setAttrs, value?_modifyContent, if_pos rfl, hv]
          rfl
      · exact Or.inl (value?_setAttrs_of_ne d attrs hnm)
  | drop attached wrapper inner =>
      exact Or.inl ((takesOut_detach hd attached wrapper inner).value?_eq n)
  | lift attached wrapper inner =>
      exact Or.inl ((takesOut_replaceWith hd attached wrapper inner).value?_eq n)
  | wrap allowed single found =>
      exact Or.inl ((putsIn_wrapBody hd found _).value?_eq n hn)

/-! ### The main landmark -/

/-- **The main landmarks stay** when none of them may get another tag, or there is only one. -/
theorem mains_eq (h : Step l d e) (hd : d.WellFormed) (hne : d.elementsByTag "main" ≠ [])
    (hkept : (∀ r ∈ l.retags, r.1 ≠ "main") ∨ ∃ m, d.elementsByTag "main" = [m]) :
    e.elementsByTag "main" = d.elementsByTag "main" := by
  cases h with
  | @rename n old tag attached was allowed beside single =>
      -- neither the old tag nor the new one is that of a main landmark
      have hold : old ≠ "main" := by
        rcases hkept with hkept | ⟨m, hm⟩
        · exact hkept _ allowed
        · rintro rfl
          obtain ⟨m', hm', hne, htag⟩ := beside rfl
          have hmem : ∀ x ∈ d.attached, d.tag? x = some "main" → x = m := fun x hx hx' => by
            simpa [hm] using mem_elementsByTag.2 ⟨hx, hx'⟩
          exact hne ((hmem m' hm' htag).trans (hmem n attached was).symm)
      have hnew : Text.lowerAscii tag ≠ "main" := fun hnew => hne (single hnew)
      rw [elementsByTag, elementsByTag, (relabels_rename ..).attached_eq]
      refine List.filter_congr fun x _ => ?_
      rw [Bool.eq_iff_iff, hasTag_iff, hasTag_iff, tag?_rename]
      by_cases hx : x = n
      · subst hx
        simp [was, hold, hnew]
      · rw [if_neg hx]
  | setAttrs =>
      rw [elementsByTag, elementsByTag, (relabels_setAttrs ..).attached_eq]
      exact List.filter_congr fun x _ => hasTag_congr (tag?_setAttrs ..) _
  | drop attached wrapper inner =>
      exact (takesOut_detach hd attached wrapper inner).elementsByTag_eq (by decide)
  | lift attached wrapper inner =>
      exact (takesOut_replaceWith hd attached wrapper inner).elementsByTag_eq (by decide)
  | wrap allowed single found => exact absurd single hne

/-- **A single main landmark stays the only one.** -/
theorem mains (h : Step l d e) (hd : d.WellFormed) {m : NodeId}
    (hm : d.elementsByTag "main" = [m]) : e.elementsByTag "main" = [m] :=
  (h.mains_eq hd (by simp [hm]) (Or.inr ⟨m, hm⟩)).trans hm

/-- Where there is no main landmark a step makes at most one. -/
theorem tail_mains_of_nil (h : Step l d e) (hd : d.WellFormed)
    (hnone : d.elementsByTag "main" = []) : (e.elementsByTag "main").tail = [] := by
  cases h with
  | @rename n old tag attached was allowed beside single =>
      have hwf := (relabels_rename d n tag).wellFormed hd
      have honly : ∀ x ∈ (d.rename n tag).elementsByTag "main", x = n := by
        intro x hx
        obtain ⟨hmem, htag⟩ := mem_elementsByTag.1 hx
        by_contra hne
        rw [tag?_rename, if_neg hne] at htag
        rw [(relabels_rename ..).attached_eq] at hmem
        have hx' : x ∈ d.elementsByTag "main" := mem_elementsByTag.2 ⟨hmem, htag⟩
        rw [hnone] at hx'
        exact absurd hx' (by simp)
      have hnodup : ((d.rename n tag).elementsByTag "main").Nodup := hwf.nodup_attached.filter _
      match hm : (d.rename n tag).elementsByTag "main" with
      | [] => rfl
      | [_] => rfl
      | a :: b :: rest =>
          rw [hm] at honly hnodup
          have hab : a = b := (honly a (by simp)).trans (honly b (by simp)).symm
          exact absurd (hab ▸ List.mem_cons_self) (List.nodup_cons.1 hnodup).1
  | setAttrs =>
      rw [elementsByTag] at hnone
      rw [elementsByTag, (relabels_setAttrs ..).attached_eq,
        List.filter_congr fun x _ => hasTag_congr (tag?_setAttrs ..) _, hnone]
      rfl
  | drop attached wrapper inner =>
      rw [(takesOut_detach hd attached wrapper inner).elementsByTag_eq (by decide), hnone]
      rfl
  | lift attached wrapper inner =>
      rw [(takesOut_replaceWith hd attached wrapper inner).elementsByTag_eq (by decide), hnone]
      rfl
  | wrap allowed single found =>
      rw [(putsIn_wrapBody hd found _).mains hd hnone]
      rfl

/-- **The surplus of main landmarks stays** when none of them may get another tag. -/
theorem tail_mains (h : Step l d e) (hd : d.WellFormed) (hkept : ∀ r ∈ l.retags, r.1 ≠ "main") :
    (e.elementsByTag "main").tail = (d.elementsByTag "main").tail := by
  by_cases hm : d.elementsByTag "main" = []
  · rw [h.tail_mains_of_nil hd hm, hm]
    rfl
  · rw [h.mains_eq hd hm (Or.inl hkept)]

/-- **A document with a main landmark keeps one.** -/
theorem exists_main (h : Step l d e) (hd : d.WellFormed) (hm : d.elementsByTag "main" ≠ []) :
    e.elementsByTag "main" ≠ [] := by
  obtain ⟨m, hm⟩ := List.exists_mem_of_ne_nil _ hm
  obtain ⟨hattached, htag⟩ := mem_elementsByTag.1 hm
  cases h with
  | @rename n old tag attached was allowed beside single =>
      have hstays : ∃ x ∈ d.attached, x ≠ n ∧ d.tag? x = some "main" := by
        by_cases hmn : m = n
        · subst hmn
          exact beside (Option.some.inj (was.symm.trans htag))
        · exact ⟨m, hattached, hmn, htag⟩
      obtain ⟨x, hx, hxn, hxtag⟩ := hstays
      refine List.ne_nil_of_mem (mem_elementsByTag.2 ⟨?_, ?_⟩ : x ∈ _)
      · rwa [(relabels_rename ..).attached_eq]
      · rw [tag?_rename, if_neg hxn, hxtag]
  | setAttrs =>
      refine List.ne_nil_of_mem (mem_elementsByTag.2 ⟨?_, ?_⟩ : m ∈ _)
      · rwa [(relabels_setAttrs ..).attached_eq]
      · rw [tag?_setAttrs, htag]
  | drop attached wrapper inner =>
      rw [(takesOut_detach hd attached wrapper inner).elementsByTag_eq (by decide)]
      exact List.ne_nil_of_mem hm
  | lift attached wrapper inner =>
      rw [(takesOut_replaceWith hd attached wrapper inner).elementsByTag_eq (by decide)]
      exact List.ne_nil_of_mem hm
  | wrap allowed single found =>
      rw [single] at hm
      exact absurd hm (by simp)

end Step

end Document

end ThemeCompiler
