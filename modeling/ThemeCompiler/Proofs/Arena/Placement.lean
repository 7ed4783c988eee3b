/-
**Where edits put nodes.**

An edit that is made of several moves works on lists that shrink and shift meanwhile: a node may be
moved within the list it is in, come out of the node that it replaces, or be one of many children
that are put before their parent one after the other.  What comes out is read off the lists before
the edit.  A list is cut where the edit takes place, and the cut is filled; the rest of the list
keeps its order, and all that the edit does not name stays as it was.

Main definitions:

* `ThemeCompiler.Arena.Spares` — **what an edit leaves alone**: all values, the parents of the nodes
  that it does not move, and the lists that it does not rewrite, up to nodes that are moved out of
  them.

Main results:

* `ThemeCompiler.Arena.Spares.trans` — what two edits in a row leave alone;
* `ThemeCompiler.Arena.lift_children` — the children of a node, put before it one after the other;
* `ThemeCompiler.Arena.WellFormed.unwrap` — replacing a node by its children keeps an arena
  well-formed;
* `ThemeCompiler.Arena.edits_place` — **where the edits put nodes**, and that they disturb nothing
  else.
-/

import ThemeCompiler.Proofs.Arena.Contraction

set_option relaxedAutoImplicit false
set_option autoImplicit false

namespace ThemeCompiler

namespace Arena

variable {α : Type} {a b c : Arena α}

/-! ### What an edit leaves alone -/

/-- **What an edit leaves alone** that moves some nodes and rewrites some lists: the values, the
parents of all other nodes, and all other lists, up to the nodes that are moved out of them. -/
structure Spares (moved rewritten : List NodeId) (a b : Arena α) : Prop where
  size_eq : b.size = a.size
  value?_eq : ∀ j, b.value? j = a.value? j
  parent?_eq : ∀ j, j ∉ moved → b.parent? j = a.parent? j
  children_eq : ∀ j, j ∉ rewritten → b.children j = (a.children j).filter (· ∉ moved)

namespace Spares

variable {moved moved' rewritten rewritten' : List NodeId}

theorem refl (a : Arena α) : Spares [] [] a a where
  size_eq := rfl
  value?_eq _ := rfl
  parent?_eq _ _ := rfl
  children_eq _ _ := by simp

/-- **What two edits in a row leave alone.** -/
theorem trans (h : Spares moved rewritten a b) (h' : Spares moved' rewritten' b c) :
    Spares (moved ++ moved') (rewritten ++ rewritten') a c where
  size_eq := h'.size_eq.trans h.size_eq
  value?_eq j := (h'.value?_eq j).trans (h.value?_eq j)
  parent?_eq j hj := by
    rw [List.mem_append, not_or] at hj
    rw [h'.parent?_eq j hj.2, h.parent?_eq j hj.1]
  children_eq j hj := by
    rw [List.mem_append, not_or] at hj
    rw [h'.children_eq j hj.2, h.children_eq j hj.1, List.filter_filter]
    refine List.filter_congr fun i _ => ?_
    simp [Bool.and_comm]

theorem mono (h : Spares moved rewritten a b) (hmoved : ∀ j, j ∈ moved ↔ j ∈ moved')
    (hrewritten : rewritten ⊆ rewritten') : Spares moved' rewritten' a b where
  size_eq := h.size_eq
  value?_eq := h.value?_eq
  parent?_eq j hj := h.parent?_eq j (mt (hmoved j).1 hj)
  children_eq j hj := by
    rw [h.children_eq j fun hmem => hj (hrewritten hmem)]
    simp only [hmoved]

end Spares

theorem filter_bne_eq (i : NodeId) (ids : List NodeId) :
    ids.filter (· != i) = ids.filter (· ∉ [i]) := by
  refine List.filter_congr fun c _ => ?_
  by_cases hc : c = i <;> simp [hc]

theorem spares_detach (h : a.WellFormed) (i : NodeId) : Spares [i] [] a (a.detach i) where
  size_eq := size_detach a i
  value?_eq := value?_detach a i
  parent?_eq j hj := by rw [parent?_detach, if_neg (by simpa using hj)]
  children_eq j _ := by
    rw [children_detach h]
    exact filter_bne_eq i _

theorem spares_insertBefore (h : a.WellFormed) {mark new p : NodeId}
    (hp : a.parent? mark = some p) (hnew : new < a.size) :
    Spares [new] [p] a (a.insertBefore mark new) where
  size_eq := size_insertBefore ..
  value?_eq := value?_insertBefore a mark new
  parent?_eq j hj := by rw [parent?_insertBefore hp hnew, if_neg (by simpa using hj)]
  children_eq j hj := by
    rw [children_insertBefore h hp, if_neg (by simpa using hj)]
    exact filter_bne_eq new _

theorem spares_replaceWith (h : a.WellFormed) {old new p : NodeId} (hp : a.parent? old = some p)
    (hne : old ≠ new) (hnew : new < a.size) :
    Spares [new, old] [p] a (a.replaceWith old new) where
  size_eq := size_replaceWith ..
  value?_eq := value?_replaceWith a old new
  parent?_eq j hj := by
    rw [List.mem_cons, List.mem_singleton, not_or] at hj
    rw [parent?_replaceWith hne hp hnew, if_neg hj.2, if_neg hj.1]
  children_eq j hj := by
    -- the old node is in the list of its parent only
    have hold : old ∉ (a.children j).filter (· != new) := by
      intro hmem
      have hparent := h.parent?_of_mem (List.mem_of_mem_filter hmem)
      rw [hp, Option.some.injEq] at hparent
      exact hj (by simp [hparent])
    rw [children_replaceWith h hne hp hnew, substitute_eq_self hold, ← filter_bne_eq_self hold,
      List.filter_filter]
    refine List.filter_congr fun c _ => ?_
    by_cases hcn : c = new <;> by_cases hco : c = old <;> simp [hcn, hco]

theorem spares_wrapChildren (h : a.WellFormed) {p w : NodeId} (hp : p < a.size) (hw : w < a.size)
    (hne : p ≠ w) : Spares (w :: a.children p) [p, w] a (a.wrapChildren p w) := by
  obtain ⟨hsize, hvalue, hparent, hchildren⟩ := links_wrapChildren h hp hw hne
  refine ⟨hsize, hvalue, fun j hj => ?_, fun j hj => ?_⟩
  · rw [List.mem_cons, not_or] at hj
    rw [hparent, if_neg hj.1, if_neg hj.2]
  · rw [List.mem_cons, List.mem_singleton, not_or] at hj
    rw [hchildren, if_neg hj.1, if_neg hj.2]
    refine List.filter_congr fun c hc => ?_
    -- a node of this list is in no other one
    have hcp : c ∉ a.children p := fun hcp =>
      hj.1 (Option.some.inj ((h.parent?_of_mem hc).symm.trans (h.parent?_of_mem hcp)))
    by_cases hcw : c = w <;> simp [hcw, hcp]

/-! ### Inserting and replacing -/

/-- The list of a parent, without a node that is put in, cut at one of its other nodes. -/
theorem exists_cut (h : a.WellFormed) {mark new p : NodeId} (hp : a.parent? mark = some p)
    (hne : mark ≠ new) : ∃ before after,
      (a.children p).filter (· != new) = before ++ mark :: after ∧ mark ∉ before ∧ mark ∉ after := by
  have hmem : mark ∈ (a.children p).filter (· != new) :=
    List.mem_filter.2 ⟨(h.mem_children p mark).2 hp, by simpa using hne⟩
  have hnodup : ((a.children p).filter (· != new)).Nodup := (h.nodup_children p).filter _
  obtain ⟨before, after, hcut, hbefore⟩ := List.eq_append_cons_of_mem hmem
  rw [hcut, List.nodup_append, List.nodup_cons] at hnodup
  exact ⟨before, after, hcut, hbefore, hnodup.2.1.1⟩

/-- **A node that is inserted stands immediately before the other one.** -/
theorem insertBefore_cut (h : a.WellFormed) {mark new p : NodeId} (hp : a.parent? mark = some p)
    (hne : mark ≠ new) : ∃ before after,
      (a.children p).filter (· != new) = before ++ mark :: after ∧
        (a.insertBefore mark new).children p = before ++ new :: mark :: after := by
  obtain ⟨before, after, hcut, hbefore, -⟩ := exists_cut h hp hne
  refine ⟨before, after, hcut, ?_⟩
  rw [children_insertBefore h hp, if_pos rfl, hcut, insertAt_append_cons hbefore]

/-- **A node that replaces another one stands exactly in its place.** -/
theorem replaceWith_cut (h : a.WellFormed) {old new p : NodeId} (hp : a.parent? old = some p)
    (hne : old ≠ new) (hnew : new < a.size) : ∃ before after,
      (a.children p).filter (· != new) = before ++ old :: after ∧
        (a.replaceWith old new).children p = before ++ new :: after := by
  obtain ⟨before, after, hcut, hbefore, hafter⟩ := exists_cut h hp hne
  refine ⟨before, after, hcut, ?_⟩
  rw [children_replaceWith h hne hp hnew, hcut, substitute_append_cons hbefore hafter]

/-! ### Replacing a node by its children -/

/-- **The children of a node, put before it one after the other.**  While they are moved, the node
keeps its place behind the ones that were moved, and its list is what is still to be moved. -/
theorem lift_children {i p : NodeId} {after : List NodeId} (ids : List NodeId) :
    ∀ {a : Arena α} {before : List NodeId}, a.WellFormed → a.parent? i = some p →
      a.children i = ids → a.children p = before ++ i :: after →
      let b := ids.foldl (fun b c => b.insertBefore i c) a
      b.WellFormed ∧ Spares ids [p] a b ∧ b.children p = before ++ ids ++ i :: after ∧
        ∀ c ∈ ids, b.parent? c = some p := by
  induction ids with
  | nil =>
      intro a before h _ _ hchildren
      refine ⟨h, (Spares.refl a).mono (fun _ => Iff.rfl) (List.nil_subset _), ?_, nofun⟩
      rw [List.foldl_nil, List.append_nil, hchildren]
  | cons c ids ih =>
      intro a before h hp hids hchildren
      have hmem : c ∈ a.children i := by rw [hids]; exact List.mem_cons_self
      obtain ⟨hic, hc, hroot, hpc, hbelow⟩ := h.child_fits hp hmem
      have hnodup : (c :: ids).Nodup := hids ▸ h.nodup_children i
      have hip : i ≠ p := by
        rintro rfl
        exact h.not_above_self i (Relation.TransGen.single hp)
      -- one move: the first child leaves the list of the node and stands before the node
      have hparent : (a.insertBefore i c).parent? i = some p := by
        rw [parent?_insertBefore hp hc, if_neg hic, hp]
      have hrest : (a.insertBefore i c).children i = ids := by
        rw [children_insertBefore h hp, if_neg hip, hids, List.filter_cons_of_neg (by simp),
          filter_bne_eq_self (List.nodup_cons.1 hnodup).1]
      have hplaced : (a.insertBefore i c).children p = (before ++ [c]) ++ i :: after := by
        have hcp : c ∉ a.children p := fun hcp =>
          hip (Option.some.inj ((h.parent?_of_mem hmem).symm.trans (h.parent?_of_mem hcp)))
        have hbefore : i ∉ before := by
          have hnodup' := h.nodup_children p
          rw [hchildren, List.nodup_append] at hnodup'
          exact fun hi => hnodup'.2.2 i hi i List.mem_cons_self rfl
        rw [children_insertBefore h hp, if_pos rfl, filter_bne_eq_self hcp, hchildren,
          insertAt_append_cons hbefore]
        simp
      obtain ⟨hwf, hspares, hlist, hparents⟩ :=
        ih (h.insertBefore hp hc hroot hpc hbelow) hparent hrest hplaced
      refine ⟨hwf, ((spares_insertBefore h hp hc).trans hspares).mono (fun _ => Iff.rfl) (by simp),
        ?_, ?_⟩
      · rw [List.foldl_cons, hlist]
        simp
      · rw [List.forall_mem_cons]
        refine ⟨?_, hparents⟩
        rw [List.foldl_cons, hspares.parent?_eq c (List.nodup_cons.1 hnodup).1,
          parent?_insertBefore hp hc, if_pos rfl]

/-- A node without a parent gives its children no place. -/
theorem unwrap_of_parent?_eq_none {i : NodeId} (hp : a.parent? i = none) : a.unwrap i = a := by
  have hnone : ∀ ids : List NodeId, ids.foldl (fun b c => b.insertBefore i c) a = a := by
    intro ids
    induction ids with
    | nil => rfl
    | cons c ids ih => rw [List.foldl_cons, insertBefore_of_parent?_eq_none hp, ih]
  rw [Arena.unwrap, hnone, detach_of_parent?_eq_none hp]

/-- **Replacing a node by its children keeps an arena well-formed.** -/
theorem WellFormed.unwrap (h : a.WellFormed) (i : NodeId) : (a.unwrap i).WellFormed := by
  cases hp : a.parent? i with
  | none =>
      rw [unwrap_of_parent?_eq_none hp]
      exact h
  | some p =>
      obtain ⟨before, after, hcut⟩ := List.append_of_mem ((h.mem_children p i).2 hp)
      exact (lift_children (a.children i) h hp rfl hcut).1.detach i

theorem spares_unwrap (h : a.WellFormed) {i p : NodeId} (hp : a.parent? i = some p) :
    Spares (i :: a.children i) [p] a (a.unwrap i) := by
  obtain ⟨before, after, hcut⟩ := List.append_of_mem ((h.mem_children p i).2 hp)
  obtain ⟨hwf, hspares, -⟩ := lift_children (a.children i) h hp rfl hcut
  refine (hspares.trans (spares_detach hwf i)).mono (fun j => ?_) (by simp)
  rw [List.mem_append, List.mem_singleton, List.mem_cons, or_comm]

/-- **The children of a node that is unwrapped stand in its place.** -/
theorem unwrap_cut (h : a.WellFormed) {i p : NodeId} (hp : a.parent? i = some p) :
    (∃ before after, a.children p = before ++ i :: after ∧
      (a.unwrap i).children p = before ++ a.children i ++ after) ∧
      ∀ c ∈ a.children i, (a.unwrap i).parent? c = some p := by
  obtain ⟨before, after, hcut⟩ := List.append_of_mem ((h.mem_children p i).2 hp)
  obtain ⟨hwf, -, hlist, hparents⟩ := lift_children (a.children i) h hp rfl hcut
  refine ⟨⟨before, after, hcut, ?_⟩, fun c hc => ?_⟩
  · have hnodup := hwf.nodup_children p
    rw [hlist, List.nodup_middle, List.nodup_cons, List.mem_append, not_or] at hnodup
    rw [Arena.unwrap, children_detach hwf, hlist, List.filter_append,
      List.filter_cons_of_neg (by simp), filter_bne_eq_self hnodup.1.1,
      filter_bne_eq_self hnodup.1.2]
  · have hci : c ≠ i := by
      rintro rfl
      exact h.not_above_self c (Relation.TransGen.single (h.parent?_of_mem hc))
    rw [Arena.unwrap, parent?_detach, if_neg hci, hparents c hc]

/-! ### The edits -/

/-- **Where the edits put nodes**, and that they disturb nothing else.  A node is put immediately
before another, or exactly in its place, wherever it was before; the children of a node come in its
place, in order, and it has no parent and no children any more, or, if it had no parent, nothing
happens; a wrapper is all that its new parent has, and what was there comes after what the wrapper
had. -/
theorem edits_place (h : a.WellFormed) :
    (∀ mark new p, a.parent? mark = some p → mark ≠ new → new < a.size →
      let b := a.insertBefore mark new
      (∃ before after, (a.children p).filter (· != new) = before ++ mark :: after ∧
        b.children p = before ++ new :: mark :: after) ∧
      b.parent? new = some p ∧ Spares [new] [p] a b) ∧
    (∀ old new p, a.parent? old = some p → old ≠ new → new < a.size →
      let b := a.replaceWith old new
      (∃ before after, (a.children p).filter (· != new) = before ++ old :: after ∧
        b.children p = before ++ new :: after) ∧
      b.parent? old = none ∧ b.parent? new = some p ∧ Spares [new, old] [p] a b) ∧
    (∀ x p, a.parent? x = some p →
      let b := a.unwrap x
      (∃ before after, a.children p = before ++ x :: after ∧
        b.children p = before ++ a.children x ++ after) ∧
      b.parent? x = none ∧ b.children x = [] ∧ (∀ c ∈ a.children x, b.parent? c = some p) ∧
      Spares (x :: a.children x) [p] a b) ∧
    (∀ x, a.parent? x = none → a.unwrap x = a) ∧
    ∀ p w, p < a.size → w < a.size → p ≠ w →
      let b := a.wrapChildren p w
      b.children p = [w] ∧ b.children w = a.children w ++ (a.children p).filter (· != w) ∧
      (a.parent? w = none → b.children w = a.children w ++ a.children p) ∧
      b.parent? w = some p ∧ (∀ c ∈ a.children p, c ≠ w → b.parent? c = some w) ∧
      Spares (w :: a.children p) [p, w] a b := by
  refine ⟨?inserting, ?replacing, ?unwrapping, fun x => unwrap_of_parent?_eq_none, ?wrapping⟩
  case inserting =>
    intro mark new p hp hne hnew
    refine ⟨insertBefore_cut h hp hne, ?_, spares_insertBefore h hp hnew⟩
    rw [parent?_insertBefore hp hnew, if_pos rfl]
  case replacing =>
    intro old new p hp hne hnew
    refine ⟨replaceWith_cut h hp hne hnew, ?_, ?_, spares_replaceWith h hp hne hnew⟩
    · rw [parent?_replaceWith hne hp hnew, if_pos rfl]
    · rw [parent?_replaceWith hne hp hnew, if_neg (Ne.symm hne), if_pos rfl]
  case unwrapping =>
    intro x p hp
    have hspares := spares_unwrap h hp
    have hxp : x ∉ [p] := by
      rw [List.mem_singleton]
      rintro rfl
      exact h.not_above_self x (Relation.TransGen.single hp)
    refine ⟨(unwrap_cut h hp).1, ?_, ?_, (unwrap_cut h hp).2, hspares⟩
    · rw [Arena.unwrap, parent?_detach, if_pos rfl]
    · rw [hspares.children_eq x hxp, List.filter_eq_nil_iff]
      exact fun c hc => by simp [hc]
  case wrapping =>
    intro p w hp hw hne
    obtain ⟨-, -, hparent, hchildren⟩ := links_wrapChildren h hp hw hne
    refine ⟨?_, ?_, fun hdetached => ?_, ?_, fun c hc hcw => ?_, spares_wrapChildren h hp hw hne⟩
    · rw [hchildren, if_pos rfl]
    · rw [hchildren, if_neg (Ne.symm hne), if_pos rfl]
    · rw [children_wrapChildren h hp hw hne hdetached, if_neg (Ne.symm hne), if_pos rfl]
    · rw [hparent, if_pos rfl]
    · rw [hparent, if_neg hcw, if_pos hc]

/-- Moves in an arena of six nodes and a root: to the front of the list that a node is in, out of
the node that is replaced, and of both children of a node, one by one or into a new wrapper. -/
theorem edits_place_six :
    let grow := fun (a : Arena Unit) p => (a.add ()).appendChild p a.size
    let a := ([0, 0, 0, 2, 2].foldl grow (Arena.singleton ())).add ()
    a.WellFormed ∧
      (∃ before after, (a.children 0).filter (· != 3) = before ++ 1 :: after ∧
        (a.insertBefore 1 3).children 0 = before ++ 3 :: 1 :: after) ∧
      (∃ before after, (a.children 0).filter (· != 4) = before ++ 2 :: after ∧
        (a.replaceWith 2 4).children 0 = before ++ 4 :: after) ∧
      (∃ before after, a.children 0 = before ++ 2 :: after ∧
        (a.unwrap 2).children 0 = before ++ a.children 2 ++ after) ∧
      (a.wrapChildren 2 6).children 6 = a.children 6 ++ a.children 2 := by
  intro grow a
  have ha : a.WellFormed := by
    refine WellFormed.add ?_ ()
    refine WellFormed.addChild ?_ (by decide) ()
    refine WellFormed.addChild ?_ (by decide) ()
    refine WellFormed.addChild ?_ (by decide) ()
    refine WellFormed.addChild ?_ (by decide) ()
    exact (WellFormed.singleton ()).addChild (by decide) ()
  obtain ⟨hinsert, hreplace, hunwrap, -, hwrap⟩ := edits_place ha
  exact ⟨ha, (hinsert 1 3 0 (by decide) (by decide) (by decide)).1,
    (hreplace 2 4 0 (by decide) (by decide) (by decide)).1, (hunwrap 2 0 (by decide)).1,
    (hwrap 2 6 (by decide) (by decide) (by decide)).2.2.1 (by decide)⟩

end Arena

end ThemeCompiler
