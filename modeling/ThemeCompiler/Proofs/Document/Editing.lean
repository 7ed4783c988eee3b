/-
**Sequences of edits keep the forest.**

Parent links and child lists are changed one by one, and some edits are made of several moves.  An
edit that moves a node below itself would close a circle, and the root may not go below another
node: nothing would be attached any more.  Those two apart, every edit of a well-formed arena gives
a well-formed one: that no circle is closed says that the new parent of a node is neither the node
nor below it, and then each move goes through.  So whatever is done to a parsed document, its links
agree, every walk comes to an end, and the attached nodes are met once, parents first.

Main definitions:

* `ThemeCompiler.Document.Allows`, `ThemeCompiler.Document.Allowed` — **edits of nodes that are
  there**, which neither move the root nor make a node its own ancestor.

Main results:

* `ThemeCompiler.Document.wellFormed_apply`, `ThemeCompiler.Document.wellFormed_foldl` — **an edit
  keeps the forest**, and so does a sequence of edits;
* `ThemeCompiler.Document.forest_of_edits` — what this means for a parsed document.
-/

import ThemeCompiler.Document.Edit
import ThemeCompiler.Proofs.Arena.Placement
import ThemeCompiler.Proofs.Document.Formed

set_option relaxedAutoImplicit false
set_option autoImplicit false

namespace ThemeCompiler

namespace Arena

variable {α : Type} {a b : Arena α}

/-! ### Moves that close no circle -/

/-- **Where a node got a parent and no circle was closed**, that parent is neither the node nor
below it: the links from there up to the node are the old ones. -/
theorem WellFormed.not_below_of_acyclic (h : a.WellFormed) {c p : NodeId}
    (hnew : b.parent? c = some p)
    (hsame : ∀ j, j ≠ c → (j = p ∨ a.Above j p) → b.parent? j = a.parent? j)
    (hcycle : ∀ n, ¬ b.Above n n) : p ≠ c ∧ p ∉ a.descendants c := by
  refine ⟨fun heq => hcycle c (Relation.TransGen.single (by rw [hnew, heq])), fun hmem => ?_⟩
  have habove : ∀ {j : NodeId}, a.Above c j → (j = p ∨ a.Above j p) → b.Above c j := by
    intro j hcj
    induction hcj with
    | @single j hj =>
        intro hjp
        have hne : j ≠ c := by
          rintro rfl
          exact h.not_above_self j (Relation.TransGen.single hj)
        exact Relation.TransGen.single (by rw [hsame j hne hjp, hj])
    | @tail k j hck hj ih =>
        intro hjp
        have hne : j ≠ c := by
          rintro rfl
          exact h.not_above_self j (hck.tail hj)
        have hkp : k = p ∨ a.Above k p := by
          rcases hjp with rfl | hjp
          · exact Or.inr (Relation.TransGen.single hj)
          · exact Or.inr (Relation.TransGen.head hj hjp)
        exact (ih hkp).tail (by rw [hsame j hne hjp, hj])
  have hcp := habove (h.mem_descendants_iff_above.1 hmem) (Or.inl rfl)
  exact hcycle c (hcp.tail hnew)

theorem WellFormed.appendChild_of_acyclic (h : a.WellFormed) {p c : NodeId} (hp : p < a.size)
    (hc : c < a.size) (hroot : c ≠ root) (hcycle : ∀ n, ¬ (a.appendChild p c).Above n n) :
    (a.appendChild p c).WellFormed := by
  have hbelow := h.not_below_of_acyclic (b := a.appendChild p c) (c := c) (p := p)
    (by rw [parent?_appendChild hc, if_pos rfl])
    (fun j hj _ => by rw [parent?_appendChild hc, if_neg hj]) hcycle
  exact h.appendChild hp hc hroot hbelow.1 hbelow.2

theorem WellFormed.insertBefore_of_acyclic (h : a.WellFormed) {mark new : NodeId}
    (hnew : new < a.size) (hroot : (a.parent? mark).isSome → new ≠ root)
    (hcycle : ∀ n, ¬ (a.insertBefore mark new).Above n n) :
    (a.insertBefore mark new).WellFormed := by
  cases hp : a.parent? mark with
  | none =>
      rw [insertBefore_of_parent?_eq_none hp]
      exact h
  | some p =>
      have hbelow := h.not_below_of_acyclic (b := a.insertBefore mark new) (c := new) (p := p)
        (by rw [parent?_insertBefore hp hnew, if_pos rfl])
        (fun j hj _ => by rw [parent?_insertBefore hp hnew, if_neg hj]) hcycle
      exact h.insertBefore hp hnew (hroot (by rw [hp]; rfl)) hbelow.1 hbelow.2

theorem WellFormed.replaceWith_of_acyclic (h : a.WellFormed) {old new : NodeId}
    (hnew : new < a.size) (hroot : old ≠ new → (a.parent? old).isSome → new ≠ root)
    (hcycle : ∀ n, ¬ (a.replaceWith old new).Above n n) :
    (a.replaceWith old new).WellFormed := by
  by_cases hne : old = new
  · rw [Arena.replaceWith, if_pos hne]
    exact h
  cases hp : a.parent? old with
  | none =>
      rw [Arena.replaceWith, if_neg hne, insertBefore_of_parent?_eq_none hp,
        detach_of_parent?_eq_none hp]
      exact h
  | some p =>
      have hbelow := h.not_below_of_acyclic (b := a.replaceWith old new) (c := new) (p := p)
        (by rw [parent?_replaceWith hne hp hnew, if_neg (Ne.symm hne), if_pos rfl])
        (fun j hj habove => ?_) hcycle
      · exact h.replaceWith hp hnew (hroot hne (by rw [hp]; rfl)) hbelow.1 hbelow.2
      · -- the old node is below its parent, so it is not on the way up from there
        have hold : j ≠ old := by
          rintro rfl
          rcases habove with rfl | habove
          · exact h.not_above_self j (Relation.TransGen.single hp)
          · exact h.not_above_self j (habove.tail hp)
        rw [parent?_replaceWith hne hp hnew, if_neg hold, if_neg hj]

theorem WellFormed.wrapChildren_of_acyclic (h : a.WellFormed) {p w : NodeId} (hp : p < a.size)
    (hw : w < a.size) (hroot : w ≠ root) (hcycle : ∀ n, ¬ (a.wrapChildren p w).Above n n) :
    (a.wrapChildren p w).WellFormed := by
  have hnew := parent?_wrapChildren_wrapper h (p := p) hw
  by_cases hne : p = w
  · subst hne
    have hself : (a.wrapChildren p p).Above p p := Relation.TransGen.single hnew
    exact absurd hself (hcycle p)
  obtain ⟨-, -, hparent, -⟩ := links_wrapChildren h hp hw hne
  have hbelow := h.not_below_of_acyclic hnew (fun j hj habove => ?_) hcycle
  · exact h.wrapChildren hp hw hroot hbelow.1 hbelow.2
  · -- no child of the new parent is on the way up from there
    have hchild : j ∉ a.children p := by
      intro hmem
      have hpj := h.parent?_of_mem hmem
      rcases habove with rfl | habove
      · exact h.not_above_self j (Relation.TransGen.single hpj)
      · exact h.not_above_self j (habove.tail hpj)
    rw [hparent, if_neg hj, if_neg hchild]

end Arena

/-! ### Edits -/

/-- The nodes that an edit names. -/
def Edit.nodes : Edit → List NodeId
  | .createElement _ _ | .createText _ => []
  | .setAttr n _ _ | .removeAttr n _ | .setAttrs n _ | .rename n _ | .detach n | .unwrap n => [n]
  | .appendChild p c => [p, c]
  | .insertBefore m n => [m, n]
  | .replaceWith o n => [o, n]
  | .wrapChildren p w => [p, w]

namespace Document

variable {d : Document}

/-- The node that an edit puts below another one.  Nothing is put before or in the place of a node
without a parent, and a node is not replaced by itself. -/
def moved? (d : Document) : Edit → Option NodeId
  | .appendChild _ c => some c
  | .insertBefore m n => if (d.parent? m).isSome then some n else none
  | .replaceWith o n => if o ≠ n ∧ (d.parent? o).isSome then some n else none
  | .wrapChildren _ w => some w
  | _ => none

/-- **An edit of nodes that are there**, which neither moves the root nor makes a node its own
ancestor. -/
structure Allows (d : Document) (edit : Edit) : Prop where
  named : ∀ n ∈ edit.nodes, n < d.nextId
  keepsRoot : d.moved? edit ≠ some Arena.root
  noCircle : ∀ n, ¬ (d.apply edit).nodes.Above n n

/-- **A sequence of such edits**, each of the document that the ones before it give. -/
def Allowed : Document → List Edit → Prop
  | _, [] => True
  | d, edit :: rest => d.Allows edit ∧ Allowed (d.apply edit) rest

theorem wellFormed_modifyContent (hd : d.nodes.WellFormed) (n : NodeId) (f : Content → Content) :
    (d.modifyContent n f).nodes.WellFormed :=
  (Arena.sameLinks_modifyValue d.nodes n f).wellFormed hd

/-- **An edit keeps the forest.** -/
theorem wellFormed_apply (hd : d.nodes.WellFormed) {edit : Edit} (h : d.Allows edit) :
    (d.apply edit).nodes.WellFormed := by
  obtain ⟨hnamed, hroot, hcircle⟩ := h
  cases edit with
  | createElement tag attrs => exact hd.add _
  | createText content => exact hd.add _
  | setAttr n name value => exact wellFormed_modifyContent hd n _
  | removeAttr n name => exact wellFormed_modifyContent hd n _
  | setAttrs n attrs => exact wellFormed_modifyContent hd n _
  | rename n tag => exact wellFormed_modifyContent hd n _
  | detach n => exact hd.detach n
  | unwrap n => exact hd.unwrap n
  | appendChild p c =>
      have hne : c ≠ Arena.root := fun heq => hroot (congrArg some heq)
      exact hd.appendChild_of_acyclic (hnamed p (by simp [Edit.nodes]))
        (hnamed c (by simp [Edit.nodes])) hne hcircle
  | insertBefore m n =>
      have hne : (d.parent? m).isSome → n ≠ Arena.root := fun hp heq =>
        hroot (by rw [moved?, if_pos hp, heq])
      exact hd.insertBefore_of_acyclic (hnamed n (by simp [Edit.nodes])) hne hcircle
  | replaceWith o n =>
      have hne : o ≠ n → (d.parent? o).isSome → n ≠ Arena.root := fun hon hp heq =>
        hroot (by rw [moved?, if_pos ⟨hon, hp⟩, heq])
      exact hd.replaceWith_of_acyclic (hnamed n (by simp [Edit.nodes])) hne hcircle
  | wrapChildren p w =>
      have hne : w ≠ Arena.root := fun heq => hroot (congrArg some heq)
      exact hd.wrapChildren_of_acyclic (hnamed p (by simp [Edit.nodes]))
        (hnamed w (by simp [Edit.nodes])) hne hcircle

/-- **A sequence of edits keeps the forest.** -/
theorem wellFormed_foldl {edits : List Edit} (hd : d.nodes.WellFormed) (h : d.Allowed edits) :
    (edits.foldl apply d).nodes.WellFormed := by
  induction edits generalizing d with
  | nil => exact hd
  | cons edit rest ih => exact ih (wellFormed_apply hd h.1) h.2

/-- There is no circle where a ranking falls along every parent link. -/
theorem noCircle_of_ranking (rank : NodeId → Nat)
    (h : (List.range d.nextId).all fun c => (d.parent? c).all fun p => decide (rank p < rank c)) :
    ∀ n, ¬ d.nodes.Above n n := by
  have hfalls : ∀ c p, d.nodes.parent? c = some p → rank p < rank c := by
    intro c p hp
    have hc := List.all_eq_true.1 h c (List.mem_range.2 (Arena.lt_size_of_parent? hp))
    have hp' : d.parent? c = some p := hp
    rw [hp', Option.all_some] at hc
    exact of_decide_eq_true hc
  exact fun n => Arena.not_above_self_of_rank hfalls n

/-! ### Walks -/

/-- Every node is in the child list of at most one node, once. -/
theorem nodup_flatMap_children (hd : d.nodes.WellFormed) (nodes : List NodeId) (h : nodes.Nodup) :
    (nodes.flatMap d.children).Nodup := by
  rw [List.nodup_flatMap]
  refine ⟨fun p _ => hd.nodup_children p, h.imp fun hne => ?_⟩
  intro c hc hc'
  exact hne (Option.some.inj ((hd.parent?_of_mem hc).symm.trans (hd.parent?_of_mem hc')))

/-- The walk upwards that asks whether a node is attached. -/
theorem isAttached_eq (hd : d.nodes.WellFormed) (n : NodeId) :
    d.isAttached n = match d.parent? n with
      | some p => d.isAttached p
      | none => n == Arena.root := by
  rw [isAttached, Arena.isAttached, hd.lineage_eq n, parent?]
  cases hp : d.nodes.parent? n with
  | none => rfl
  | some p =>
      have hne : d.nodes.lineage p ≠ [] := by
        rw [hd.lineage_eq p]
        exact List.cons_ne_nil _ _
      rw [List.getLast?_cons_of_ne_nil hne]
      rfl

/-- The walk upwards that looks for the nearest element with one of the given tags. -/
theorem closest_eq (hd : d.nodes.WellFormed) (tags : List String) (n : NodeId) :
    d.closest tags n =
      if d.hasTagIn tags n then some n else (d.parent? n).bind (d.closest tags) := by
  rw [closest, hd.lineage_eq n, List.find?_cons, parent?]
  cases d.hasTagIn tags n with
  | true => rfl
  | false => cases d.nodes.parent? n <;> rfl

/-- **What edits leave of a parsed document is a forest**, as long as no edit moves the root or
makes a node its own ancestor. -/
theorem forest_of_edits (source : String) (edits : List Edit)
    (h : (Document.parse source).Allowed edits) :
    let e := edits.foldl apply (Document.parse source)
    (∀ p c, c ∈ e.children p ↔ e.parent? c = some p) ∧
      ((List.range e.nextId).flatMap e.children).Nodup ∧
      e.parent? Arena.root = none ∧
      (∃ rank : NodeId → Nat, ∀ c p, e.parent? c = some p → rank p < rank c) ∧
      (∀ n, e.isAttached n = match e.parent? n with
        | some p => e.isAttached p
        | none => n == Arena.root) ∧
      (∀ tags n, e.closest tags n =
        if e.hasTagIn tags n then some n else (e.parent? n).bind (e.closest tags)) ∧
      e.attached.Nodup ∧
      (∀ n, n ∈ e.attached ↔ n ≠ Arena.root ∧ e.isAttached n = true) ∧
      e.attached.Pairwise fun m n => ¬ e.nodes.Above n m := by
  intro e
  have he : e.nodes.WellFormed := wellFormed_foldl (WellFormed.parse source).nodes h
  refine ⟨he.mem_children, nodup_flatMap_children he _ List.nodup_range, he.parent_root, he.acyclic,
    isAttached_eq he, closest_eq he, he.nodup_descendants _, fun n => ?_, ?_⟩
  · refine ⟨fun hn => ⟨?_, he.isAttached_iff.2 (Or.inr hn)⟩, fun hn => ?_⟩
    · rintro rfl
      exact he.root_not_mem_descendants _ hn
    · exact (he.isAttached_iff.1 hn.2).resolve_left hn.1
  · refine (he.pairwise_descendants _).imp fun hmn hnm => hmn ?_
    exact he.mem_descendants_iff_above.2 hnm

/-- A main landmark that is put around the head and the body of an empty page and then taken out
again. -/
theorem forest_of_edits_wrapped :
    let d := Document.parse ""
    let edits : List Edit := [.createElement "main" [], .wrapChildren 1 4, .unwrap 4]
    d.Allowed edits ∧ (edits.foldl apply d).attached.Nodup := by
  intro d edits
  have hallowed : d.Allowed edits := by
    refine ⟨⟨nofun, by decide +kernel, noCircle_of_ranking id (by decide +kernel)⟩,
      ⟨by decide +kernel, by decide +kernel, ?_⟩,
      ⟨by decide +kernel, by decide +kernel, noCircle_of_ranking id (by decide +kernel)⟩, trivial⟩
    exact noCircle_of_ranking (fun n => if n = 4 then 3 else 2 * n) (by decide +kernel)
  exact ⟨hallowed, (forest_of_edits "" edits hallowed).2.2.2.2.2.2.1⟩

/-- The root has to stay: put below a new element it makes no circle, but it has a parent then, and
the nodes below it are no longer attached. -/
theorem root_below_new_element :
    let made := (Document.parse "").apply (.createElement "x" [])
    let e := made.apply (.appendChild 4 Arena.root)
    (∀ n, ¬ made.nodes.Above n n) ∧ (∀ n, ¬ e.nodes.Above n n) ∧
      e.parent? Arena.root = some 4 ∧ e.attached = [1, 2, 3] ∧
        ∀ n ∈ e.attached, e.isAttached n = false := by
  refine ⟨noCircle_of_ranking id (by decide +kernel), ?_, by decide +kernel, by decide +kernel,
    by decide +kernel⟩
  exact noCircle_of_ranking (fun n => if n = 4 then 0 else n + 1) (by decide +kernel)

end Document

end ThemeCompiler
