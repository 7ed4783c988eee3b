/-
**Taking nodes out of an arena and keeping what is below them.**

When nodes are taken out, what is kept of them takes their place among their siblings.  Such a
contraction is a local matter: it is described by the child lists alone.  Its effect on whole walks
is that the nodes that are gone are filtered out, so that all others keep their order and what they
are below of.

Main definitions:

* `ThemeCompiler.Arena.Contracts` — an arena comes from another one by taking nodes out.

Main results:

* `ThemeCompiler.Arena.Contracts.descendants_eq` — **a contraction filters every walk**;
* `ThemeCompiler.Arena.contracts_detach`, `ThemeCompiler.Arena.contracts_replaceWith` — taking out a
  node with all below it, and a node in whose place one of its children comes;
* `ThemeCompiler.Arena.contracts_wrapChildren` — wrapping is undone by taking the wrapper out.
-/

import ThemeCompiler.Proofs.Arena.Edits

set_option relaxedAutoImplicit false
set_option autoImplicit false

namespace ThemeCompiler

namespace Arena

variable {α : Type} {a b : Arena α}

/-! ### Contractions -/

/-- **An arena without the nodes that are `gone`**; `kept` are the nodes that take the place of a
node, which is the node itself unless it is gone. -/
structure Contracts (gone : NodeId → Bool) (kept : NodeId → List NodeId) (a b : Arena α) :
    Prop where
  /-- A node that stays takes its own place. -/
  kept_stays : ∀ i, gone i = false → kept i = [i]
  /-- The place of a node that is gone is taken by what is kept of its children. -/
  kept_gone : ∀ i, gone i = true → kept i = (a.children i).flatMap kept
  /-- The children of a node that stays are what is kept of its children. -/
  children_eq : ∀ i, gone i = false → b.children i = (a.children i).flatMap kept

namespace Contracts

variable {gone : NodeId → Bool} {kept : NodeId → List NodeId}

private theorem filter_cons_descendants (h : Contracts gone kept a b) (ha : a.WellFormed)
    (hb : b.WellFormed) (i : NodeId) :
    (i :: a.descendants i).filter (!gone ·) = (kept i).flatMap fun j => j :: b.descendants j := by
  induction i using ha.childInduction with
  | step i ih =>
      have hbelow : (a.descendants i).filter (!gone ·)
          = ((a.children i).flatMap kept).flatMap fun j => j :: b.descendants j := by
        rw [ha.descendants_eq, List.filter_flatMap, List.flatMap_assoc]
        exact List.flatMap_congr ih
      cases hi : gone i with
      | true => rw [List.filter_cons_of_neg (by simp [hi]), hbelow, h.kept_gone i hi]
      | false =>
          rw [List.filter_cons_of_pos (by simp [hi]), hbelow, h.kept_stays i hi,
            List.flatMap_singleton, ← h.children_eq i hi, ← hb.descendants_eq]

/-- **A contraction filters every walk**: below a node that stays there are the nodes that were
there and are not gone, in the same order. -/
theorem descendants_eq (h : Contracts gone kept a b) (ha : a.WellFormed) (hb : b.WellFormed)
    {i : NodeId} (hi : gone i = false) :
    b.descendants i = (a.descendants i).filter (!gone ·) := by
  have hcons := h.filter_cons_descendants ha hb i
  rw [List.filter_cons_of_pos (by simp [hi]), h.kept_stays i hi, List.flatMap_singleton] at hcons
  exact (List.cons.inj hcons).2.symm

end Contracts

/-- **Walks are determined by the child lists**: where the children of the image of a node are the
images of its children, so is what is below. -/
theorem descendants_map (ha : a.WellFormed) (hb : b.WellFormed) {f : NodeId → NodeId} {i : NodeId}
    (h : ∀ j, j = i ∨ j ∈ a.descendants i → b.children (f j) = (a.children j).map f) :
    b.descendants (f i) = (a.descendants i).map f := by
  induction i using ha.childInduction with
  | step i ih =>
      rw [ha.descendants_eq, hb.descendants_eq, h i (Or.inl rfl), List.flatMap_map, List.map_flatMap]
      refine List.flatMap_congr fun c hc => ?_
      have hbelow : c ∈ a.descendants i := ha.mem_descendants_of_mem hc
      rw [List.map_cons, ih c hc fun j hj => h j (Or.inr ?_)]
      rcases hj with rfl | hj
      · exact hbelow
      · exact ha.mem_descendants_trans hbelow hj

theorem descendants_congr (ha : a.WellFormed) (hb : b.WellFormed)
    (h : ∀ i, b.children i = a.children i) (i : NodeId) : b.descendants i = a.descendants i := by
  have hmap := descendants_map ha hb (f := id) (i := i) fun j _ => by rw [id, List.map_id, h]
  rwa [id, List.map_id] at hmap

/-! ### The contractions that edits make -/

/-- A list in which what is gone has nothing kept of it. -/
private theorem flatMap_eq_filter (gone : NodeId → Bool) {kept : NodeId → List NodeId}
    {ids : List NodeId} (h : ∀ c ∈ ids, kept c = if gone c then [] else [c]) :
    ids.flatMap kept = ids.filter (!gone ·) := by
  induction ids with
  | nil => rfl
  | cons c ids ih =>
      rw [List.flatMap_cons, h c List.mem_cons_self,
        ih fun d hd => h d (List.mem_cons_of_mem c hd)]
      cases hc : gone c <;> simp [hc]

/-- **Taking a node out** takes out everything below it. -/
theorem contracts_detach (h : a.WellFormed) (i : NodeId) :
    Contracts (fun j => decide (j = i ∨ j ∈ a.descendants i))
      (fun j => if j = i ∨ j ∈ a.descendants i then [] else [j]) a (a.detach i) where
  kept_stays j hj := if_neg (by simpa using hj)
  kept_gone j hj := by
    have hj : j = i ∨ j ∈ a.descendants i := by simpa using hj
    rw [if_pos hj, eq_comm, List.flatMap_eq_nil_iff]
    intro c hc
    refine if_pos (Or.inr ?_)
    rcases hj with rfl | hj
    · exact h.mem_descendants_of_mem hc
    · exact h.mem_descendants_trans hj (h.mem_descendants_of_mem hc)
  children_eq j hj := by
    have hj : ¬ (j = i ∨ j ∈ a.descendants i) := by simpa using hj
    rw [children_detach h, flatMap_eq_filter (· == i)]
    · rfl
    intro c hc
    have hiff : (c = i ∨ c ∈ a.descendants i) ↔ c = i := by
      rw [h.mem_descendants_iff_parent]
      simp [h.parent?_of_mem hc, hj]
    simp only [hiff, beq_iff_eq]

/-- The nodes that go when a child takes the place of a node. -/
def Displaced (a : Arena α) (old new i : NodeId) : Prop :=
  i = old ∨ i ∈ a.descendants old ∧ i ≠ new ∧ i ∉ a.descendants new

instance (a : Arena α) (old new i : NodeId) : Decidable (a.Displaced old new i) :=
  inferInstanceAs (Decidable (_ ∨ _))

/-- Among the children of a node that is not displaced only `old` is displaced. -/
private theorem displaced_child_iff (h : a.WellFormed) {old new i c : NodeId}
    (hi : ¬ a.Displaced old new i) (hc : c ∈ a.children i) :
    a.Displaced old new c ↔ c = old := by
  refine ⟨fun hd => hd.resolve_right ?_, Or.inl⟩
  rintro ⟨hbelow, -, hnew⟩
  have hparent : a.parent? c = some i := h.parent?_of_mem hc
  obtain ⟨p, hp, hpold⟩ := h.mem_descendants_iff_parent.1 hbelow
  obtain rfl : i = p := Option.some.inj (hparent.symm.trans hp)
  have hinew : ¬ (i = new ∨ i ∈ a.descendants new) := by
    intro hin
    exact hnew (h.mem_descendants_iff_parent.2 ⟨i, hparent, hin⟩)
  rw [not_or] at hinew
  exact hi (hpold.imp id fun hin => ⟨hin, hinew⟩)

/-- The children of a node that is displaced are displaced, apart from the one that stays. -/
private theorem displaced_child (h : a.WellFormed) {old new i c : NodeId}
    (hnew : new ∈ a.children old) (hi : a.Displaced old new i) (hc : c ∈ a.children i)
    (hne : c ≠ new) : a.Displaced old new c := by
  have hparent : a.parent? c = some i := h.parent?_of_mem hc
  have hbelow : c ∈ a.descendants old :=
    h.mem_descendants_iff_parent.2 ⟨i, hparent, hi.imp id fun hin => hin.1⟩
  refine Or.inr ⟨hbelow, hne, fun hcn => ?_⟩
  obtain ⟨p, hp, hpnew⟩ := h.mem_descendants_iff_parent.1 hcn
  obtain rfl : i = p := Option.some.inj (hparent.symm.trans hp)
  have hnewold : new ∈ a.descendants old := h.mem_descendants_of_mem hnew
  rcases hi with rfl | ⟨_, hin, hin'⟩
  · rcases hpnew with rfl | hpnew
    · exact h.not_mem_descendants_self _ hnewold
    · exact h.not_mem_descendants_self _ (h.mem_descendants_trans hpnew hnewold)
  · exact hpnew.elim hin hin'

/-- A child of a node with a parent may take its place: it is another node, not the root, and the
parent is neither the child nor below it. -/
theorem WellFormed.child_fits (h : a.WellFormed) {old new p : NodeId} (hp : a.parent? old = some p)
    (hnew : new ∈ a.children old) :
    old ≠ new ∧ new < a.size ∧ new ≠ root ∧ p ≠ new ∧ p ∉ a.descendants new := by
  have hparent : a.parent? new = some old := h.parent?_of_mem hnew
  have hnewold : new ∈ a.descendants old := h.mem_descendants_of_mem hnew
  have holdp : old ∈ a.descendants p := h.mem_descendants_of_mem ((h.mem_children p old).2 hp)
  have hnewp : new ∈ a.descendants p := h.mem_descendants_trans holdp hnewold
  refine ⟨?_, lt_size_of_parent? hparent, ?_, ?_, fun hpn => ?_⟩
  · rintro rfl
    exact h.not_mem_descendants_self _ hnewold
  · rintro rfl
    exact h.root_not_mem_descendants _ hnewold
  · rintro rfl
    exact h.not_mem_descendants_self _ hnewp
  · exact h.not_mem_descendants_self _ (h.mem_descendants_trans hpn hnewp)

theorem WellFormed.replaceWith_child (h : a.WellFormed) {old new p : NodeId}
    (hp : a.parent? old = some p) (hnew : new ∈ a.children old) :
    (a.replaceWith old new).WellFormed := by
  obtain ⟨-, hlt, hroot, hpnew, hbelow⟩ := h.child_fits hp hnew
  exact h.replaceWith hp hlt hroot hpnew hbelow

theorem WellFormed.children_replaceWith_child (h : a.WellFormed) {old new p : NodeId}
    (hp : a.parent? old = some p) (hnew : new ∈ a.children old) (j : NodeId) :
    (a.replaceWith old new).children j = substitute old new ((a.children j).filter (· != new)) := by
  obtain ⟨hne, hlt, -⟩ := h.child_fits hp hnew
  exact children_replaceWith h hne hp hlt j

/-- **Replacing a node by one of its children** takes out the node and its other children with what
is below them. -/
theorem contracts_replaceWith (h : a.WellFormed) {old new p : NodeId}
    (hp : a.parent? old = some p) (hnew : new ∈ a.children old) :
    Contracts (fun j => decide (a.Displaced old new j))
      (fun j => if j = old then [new] else if a.Displaced old new j then [] else [j])
      a (a.replaceWith old new) := by
  have hparent : a.parent? new = some old := h.parent?_of_mem hnew
  have hne : old ≠ new := (h.child_fits hp hnew).1
  have hstays : ¬ a.Displaced old new new := by
    rintro (hno | ⟨_, hnn, _⟩)
    · exact hne hno.symm
    · exact hnn rfl
  refine ⟨fun j hj => ?_, fun j hj => ?_, fun j hj => ?_⟩
  · have hj : ¬ a.Displaced old new j := by simpa using hj
    rw [if_neg (fun hjo => hj (Or.inl hjo)), if_neg hj]
  · have hj : a.Displaced old new j := by simpa using hj
    have hkept : ∀ c ∈ a.children j,
        (if c = old then [new] else if a.Displaced old new c then [] else [c])
          = if (c != new) then [] else [c] := by
      intro c hc
      by_cases hcn : c = new
      · simp [hcn, hne.symm, hstays]
      · have hcold : c ≠ old := by
          rintro rfl
          have hcj : c ∈ a.descendants j := h.mem_descendants_of_mem hc
          rcases hj with rfl | ⟨hjc, _, _⟩
          · exact h.not_mem_descendants_self _ hcj
          · exact h.not_mem_descendants_self _ (h.mem_descendants_trans hjc hcj)
        simp [hcn, hcold, displaced_child h hnew hj hc hcn]
    rw [flatMap_eq_filter (· != new) hkept]
    by_cases hjo : j = old
    · subst hjo
      simp only [if_true, bne, Bool.not_not]
      rw [List.filter_beq, List.count_eq_one_of_mem (h.nodup_children j) hnew]
      rfl
    · rw [if_neg hjo, if_pos hj, eq_comm, List.filter_eq_nil_iff]
      intro c hc hcn
      simp only [bne, Bool.not_not, beq_iff_eq] at hcn
      subst hcn
      exact hjo (Option.some.inj ((h.parent?_of_mem hc).symm.trans hparent))
  · have hj : ¬ a.Displaced old new j := by simpa using hj
    have hjold : j ≠ old := fun hjo => hj (Or.inl hjo)
    have hnot : new ∉ a.children j := fun hmem =>
      hjold (Option.some.inj ((h.parent?_of_mem hmem).symm.trans hparent))
    rw [h.children_replaceWith_child hp hnew, filter_bne_eq_self hnot, substitute,
      List.map_eq_flatMap]
    refine List.flatMap_congr fun c hc => ?_
    have hiff := displaced_child_iff h hj hc
    by_cases hco : c = old
    · simp [hco]
    · simp [hco, hiff]

/-- **Wrapping is undone by taking the wrapper out.** -/
theorem contracts_wrapChildren (h : a.WellFormed) {p w : NodeId} (hp : p < a.size)
    (hw : w < a.size) (hne : p ≠ w) (hdetached : a.parent? w = none) (hempty : a.children w = []) :
    Contracts (· == w) (fun j => if j = w then a.children p else [j]) (a.wrapChildren p w) a := by
  have hchildren := children_wrapChildren h hp hw hne hdetached
  have hself : ∀ q, (a.children q).flatMap (fun j => if j = w then a.children p else [j])
      = a.children q := by
    intro q
    have hnot : ∀ c ∈ a.children q, c ≠ w := by
      rintro c hc rfl
      rw [h.parent?_of_mem hc] at hdetached
      exact absurd hdetached (by simp)
    refine (List.flatMap_congr fun c hc => if_neg (hnot c hc)).trans ?_
    exact List.flatMap_singleton' _
  refine ⟨fun j hj => if_neg (by simpa using hj), fun j hj => ?_, fun j hj => ?_⟩
  · obtain rfl : j = w := by simpa using hj
    rw [if_pos rfl, hchildren, if_neg hne.symm, if_pos rfl, hempty, List.nil_append, hself]
  · have hjw : j ≠ w := by simpa using hj
    rw [hchildren, if_neg hjw]
    by_cases hjp : j = p
    · rw [if_pos hjp, List.flatMap_singleton, if_pos rfl, hjp]
    · rw [if_neg hjp, hself]

/-- **The arena after the children of a node went into a new one.** -/
theorem WellFormed.wrapNew (h : a.WellFormed) {p : NodeId} (hp : p < a.size) (v : α) :
    ((a.add v).wrapChildren p a.size).WellFormed ∧
      ((a.add v).wrapChildren p a.size).size = a.size + 1 ∧
      (∀ j, ((a.add v).wrapChildren p a.size).value? j =
        if j = a.size then some v else a.value? j) ∧
      (∀ j, ((a.add v).wrapChildren p a.size).children j =
        if j = p then [a.size] else if j = a.size then a.children p else a.children j) ∧
      ∀ i, i ≠ a.size →
        a.descendants i = (((a.add v).wrapChildren p a.size).descendants i).filter (· != a.size) := by
  have hadd : (a.add v).WellFormed := h.add v
  have hlt : a.size < (a.add v).size := by rw [size_add]; exact Nat.lt_succ_self _
  have hplt : p < (a.add v).size := hp.trans hlt
  have hne : p ≠ a.size := Nat.ne_of_lt hp
  have hdetached : (a.add v).parent? a.size = none := by
    rw [parent?_add, parent?_of_size_le (Nat.le_refl _)]
  have hempty : (a.add v).children a.size = [] := by
    rw [children_add, children_of_size_le (Nat.le_refl _)]
  have hbelow : p ∉ (a.add v).descendants a.size := by
    rw [hadd.descendants_eq, hempty]
    simp
  obtain ⟨hsize, hvalue, _, _⟩ := links_wrapChildren hadd hplt hlt hne
  have hchildren := children_wrapChildren hadd hplt hlt hne hdetached
  have hwf := hadd.wrapChildren hplt hlt (Nat.ne_of_gt h.root_lt) hne hbelow
  have hcontracts := contracts_wrapChildren hadd hplt hlt hne hdetached hempty
  refine ⟨hwf, by rw [hsize, size_add], fun j => by rw [hvalue, value?_add], fun j => ?_,
    fun i hi => ?_⟩
  · rw [hchildren, hempty, children_add, children_add, List.nil_append]
  · rw [← descendants_congr h hadd (fun j => children_add ..) i]
    exact hcontracts.descendants_eq hwf hadd (by simpa using hi)

end Arena

end ThemeCompiler
