/-
**Sweeps over a list of nodes.**

Most passes visit the nodes of a list that is made beforehand, and a visit changes the labels of its
own node only.  Then a node is found by its visit as the list was made from it, no other visit
undoes what its own visit did, and the whole sweep is a run.

Main definitions:

* `ThemeCompiler.Pass.Reported` — a pass that logs what it changes;
* `ThemeCompiler.Pass.IsVisit` — a visit that stays at its node and keeps to a licence.

Main results:

* `ThemeCompiler.Pass.reported_sweep`, `ThemeCompiler.Pass.reported_inTurn` — sweeps log what they
  change, and so do passes one after the other;
* `ThemeCompiler.Pass.IsVisit.run_visitAll` — **a sweep is a run**;
* `ThemeCompiler.Pass.IsVisit.value?_of_not_mem` — it leaves alone what it does not visit;
* `ThemeCompiler.Pass.IsVisit.when_visited` — how a sweep comes to a node and what it leaves of it;
* `ThemeCompiler.Pass.IsVisit.settled` — what each visit settles at its node is settled in the end;
* `ThemeCompiler.Pass.visitAll_eq_self`, `ThemeCompiler.Pass.visitAll_cases` — nothing happens, or
  there is a first visit that changes something.
-/

import ThemeCompiler.Document.Sweep
import ThemeCompiler.Proofs.Document.Runs

set_option relaxedAutoImplicit false
set_option autoImplicit false

namespace ThemeCompiler

open Document (Licence Relabels RelabelsAt Run)

namespace Pass

variable {α : Type} {visit : Document → NodeId → Option (Document × α)}

/-! ### Passes one after the other -/

theorem fst_inTurn_nil (d : Document) : (inTurn ([] : List (Pass α)) d).1 = d := rfl

theorem fst_inTurn_cons (pass : Pass α) (rest : List (Pass α)) (d : Document) :
    (inTurn (pass :: rest) d).1 = (inTurn rest (pass d).1).1 := rfl

/-- **Nothing happens** when no pass finds anything to do. -/
theorem inTurn_eq_self {d : Document} {passes : List (Pass α)}
    (h : ∀ pass ∈ passes, pass d = (d, [])) : inTurn passes d = (d, []) := by
  induction passes with
  | nil => rfl
  | cons pass rest ih =>
      rw [inTurn, h pass List.mem_cons_self, ih fun p hp => h p (List.mem_cons_of_mem pass hp),
        List.append_nil]

/-! ### What is logged -/

/-- **A pass that logs what it changes**: without a log the document is as it was. -/
def Reported (pass : Pass α) : Prop := ∀ d, (pass d).2 = [] → (pass d).1 = d

theorem reported_visitAll (visit : Document → NodeId → Option (Document × α)) (nodes : List NodeId) :
    Reported (visitAll visit nodes) := by
  induction nodes with
  | nil => exact fun _ _ => rfl
  | cons n rest ih =>
      intro d hlog
      rw [visitAll] at hlog ⊢
      cases hv : visit d n with
      | none =>
          rw [hv] at hlog
          exact ih d hlog
      | some changed =>
          rw [hv] at hlog
          exact absurd hlog (List.cons_ne_nil _ _)

/-- **A sweep logs what it changes.** -/
theorem reported_sweep (nodes : Document → List NodeId)
    (visit : Document → NodeId → Option (Document × α)) : Reported (sweep nodes visit) :=
  fun d => reported_visitAll visit (nodes d) d

/-- **Passes one after the other** log what they change when each of them does. -/
theorem reported_inTurn {passes : List (Pass α)} (h : ∀ pass ∈ passes, Reported pass) :
    Reported (inTurn passes) := by
  induction passes with
  | nil => exact fun _ _ => rfl
  | cons pass rest ih =>
      intro d hlog
      rw [inTurn] at hlog ⊢
      obtain ⟨hfirst, hothers⟩ := List.append_eq_nil_iff.1 hlog
      have hsame : (pass d).1 = d := h pass List.mem_cons_self d hfirst
      rw [hsame] at hothers ⊢
      exact ih (fun p hp => h p (List.mem_cons_of_mem pass hp)) d hothers

/-! ### The first visit that changes something -/

theorem visitAll_cons_none {d : Document} {n : NodeId} (h : visit d n = none)
    (rest : List NodeId) : visitAll visit (n :: rest) d = visitAll visit rest d := by
  rw [visitAll, h]

theorem visitAll_cons_some {d e : Document} {n : NodeId} {entry : α}
    (h : visit d n = some (e, entry)) (rest : List NodeId) :
    visitAll visit (n :: rest) d =
      ((visitAll visit rest e).1, entry :: (visitAll visit rest e).2) := by
  rw [visitAll, h]

/-- **Nothing happens** when no visit changes anything. -/
theorem visitAll_eq_self {d : Document} {nodes : List NodeId}
    (h : ∀ n ∈ nodes, visit d n = none) : visitAll visit nodes d = (d, []) := by
  induction nodes with
  | nil => rfl
  | cons n rest ih =>
      rw [visitAll_cons_none (h n List.mem_cons_self)]
      exact ih fun m hm => h m (List.mem_cons_of_mem n hm)

/-- **Otherwise there is a first visit that changes something**, and the sweep goes on from there. -/
theorem visitAll_cases (visit : Document → NodeId → Option (Document × α)) (d : Document) (nodes : List NodeId) :
    (∀ n ∈ nodes, visit d n = none) ∨ ∃ n e entry rest, (n :: rest) <:+ nodes ∧
      visit d n = some (e, entry) ∧ (visitAll visit nodes d).1 = (visitAll visit rest e).1 := by
  induction nodes with
  | nil => exact Or.inl fun n hn => absurd hn (by simp)
  | cons n rest ih =>
      cases hv : visit d n with
      | some changed =>
          refine Or.inr ⟨n, changed.1, changed.2, rest, List.suffix_refl _, hv, ?_⟩
          rw [visitAll_cons_some hv]
      | none =>
          rw [visitAll_cons_none hv]
          rcases ih with hnone | ⟨m, e, entry, later, hsuffix, hm, heq⟩
          · refine Or.inl fun m hm => ?_
            rcases List.mem_cons.1 hm with rfl | hm
            · exact hv
            · exact hnone m hm
          · exact Or.inr ⟨m, e, entry, later, hsuffix.trans (List.suffix_cons n rest), hm, heq⟩

/-- A sweep that changes every node it visits. -/
theorem visitAll_always (f : Document → NodeId → Document) (entry : α) (nodes : List NodeId)
    (d : Document) : visitAll (fun d n => some (f d n, entry)) nodes d =
      (nodes.foldl f d, nodes.map fun _ => entry) := by
  induction nodes generalizing d with
  | nil => rfl
  | cons n rest ih => rw [visitAll_cons_some rfl, ih, List.foldl_cons, List.map_cons]

/-! ### Visits that stay at their nodes -/

/-- **A visit that stays at its node**: it changes the labels of that node only.  At an attached node
whose tag is one that the sweep looks for it keeps to the licence. -/
structure IsVisit (l : Licence) (ready : Option String → Prop)
    (visit : Document → NodeId → Option (Document × α)) : Prop where
  relabels : ∀ {d e : Document} {n : NodeId} {entry : α}, visit d n = some (e, entry) →
    RelabelsAt d n e
  run : ∀ {d e : Document} {n : NodeId} {entry : α}, n ∈ d.attached → ready (d.tag? n) →
    visit d n = some (e, entry) → Run l d e

namespace IsVisit

variable {l : Licence} {ready : Option String → Prop}

/-- **What is not visited stays as it is.** -/
theorem value?_of_not_mem (h : IsVisit l ready visit) {nodes : List NodeId} {m : NodeId}
    (hm : m ∉ nodes) (d : Document) :
    (visitAll visit nodes d).1.nodes.value? m = d.nodes.value? m := by
  induction nodes generalizing d with
  | nil => rfl
  | cons n rest ih =>
      have hne : m ≠ n := fun hmn => hm (hmn ▸ List.mem_cons_self)
      have hrest : m ∉ rest := fun hmem => hm (List.mem_cons_of_mem n hmem)
      cases hv : visit d n with
      | none =>
          rw [visitAll_cons_none hv]
          exact ih hrest d
      | some changed =>
          rw [visitAll_cons_some hv]
          exact (ih hrest changed.1).trans ((h.relabels hv).value?_of_ne _ hne)

/-- **A sweep is a run.** -/
theorem run_visitAll (h : IsVisit l ready visit) {nodes : List NodeId} (hnodup : nodes.Nodup)
    {d : Document} (hnodes : ∀ n ∈ nodes, n ∈ d.attached ∧ ready (d.tag? n)) :
    Run l d (visitAll visit nodes d).1 := by
  induction nodes generalizing d with
  | nil => exact Run.refl
  | cons n rest ih =>
      obtain ⟨hnot, hrest⟩ := List.nodup_cons.1 hnodup
      cases hv : visit d n with
      | none =>
          rw [visitAll_cons_none hv]
          exact ih hrest fun m hm => hnodes m (List.mem_cons_of_mem n hm)
      | some changed =>
          obtain ⟨hn, hready⟩ := hnodes n List.mem_cons_self
          rw [visitAll_cons_some hv]
          refine (h.run hn hready hv).trans (ih hrest fun m hm => ?_)
          -- the nodes still to come are as the list was made from them
          obtain ⟨hmem, hm'⟩ := hnodes m (List.mem_cons_of_mem n hm)
          have hne : m ≠ n := fun hmn => hnot (hmn ▸ hm)
          rw [(h.relabels hv).attached_eq, Document.tag?_congr ((h.relabels hv).value?_of_ne _ hne)]
          exact ⟨hmem, hm'⟩

/-- A sweep relabels. -/
theorem relabels_visitAll (h : IsVisit l ready visit) (nodes : List NodeId) (d : Document) :
    Relabels d (visitAll visit nodes d).1 := by
  induction nodes generalizing d with
  | nil => exact Relabels.refl d
  | cons n rest ih =>
      cases hv : visit d n with
      | none =>
          rw [visitAll_cons_none hv]
          exact ih d
      | some changed =>
          rw [visitAll_cons_some hv]
          exact (h.relabels hv).toRelabels.trans (ih changed.1)

/-- **A value that no visit makes was there before.** -/
theorem value?_of_unmade (h : IsVisit l ready visit) {c : Content}
    (hunmade : ∀ {d e : Document} {n : NodeId} {entry : α}, ready (d.tag? n) →
      visit d n = some (e, entry) → e.nodes.value? n ≠ some c)
    {nodes : List NodeId} (hnodup : nodes.Nodup) {d : Document}
    (hnodes : ∀ n ∈ nodes, ready (d.tag? n)) {m : NodeId}
    (hm : (visitAll visit nodes d).1.nodes.value? m = some c) : d.nodes.value? m = some c := by
  induction nodes generalizing d with
  | nil => exact hm
  | cons n rest ih =>
      obtain ⟨hnot, hrest⟩ := List.nodup_cons.1 hnodup
      have hlater := fun x hx => hnodes x (List.mem_cons_of_mem n hx)
      cases hv : visit d n with
      | none =>
          rw [visitAll_cons_none hv] at hm
          exact ih hrest hlater hm
      | some changed =>
          rw [visitAll_cons_some hv] at hm
          have hmid : changed.1.nodes.value? m = some c := by
            refine ih hrest (fun x hx => ?_) hm
            have hne : x ≠ n := fun hxn => hnot (hxn ▸ hx)
            rw [Document.tag?_congr ((h.relabels hv).value?_of_ne _ hne)]
            exact hlater x hx
          by_cases hmn : m = n
          · subst hmn
            exact absurd hmid (hunmade (hnodes m List.mem_cons_self) hv)
          · rwa [(h.relabels hv).value?_of_ne m hmn] at hmid

/-- **A node when it is visited**: the sweep has come to a document in which the node is as it was,
and what the visit leaves of the node stays to the end. -/
theorem when_visited (h : IsVisit l ready visit) {nodes : List NodeId} (hnodup : nodes.Nodup)
    {d : Document} (hnodes : ∀ n ∈ nodes, n ∈ d.attached ∧ ready (d.tag? n)) {n : NodeId}
    (hn : n ∈ nodes) : ∃ x y, Run l d x ∧ x.nodes.value? n = d.nodes.value? n ∧
      (visit x n = none ∧ y = x ∨ ∃ entry, visit x n = some (y, entry)) ∧
      Run l y (visitAll visit nodes d).1 ∧ Relabels y (visitAll visit nodes d).1 ∧
      (visitAll visit nodes d).1.nodes.value? n = y.nodes.value? n := by
  induction nodes generalizing d with
  | nil => exact absurd hn (by simp)
  | cons m rest ih =>
      obtain ⟨hnot, hrest⟩ := List.nodup_cons.1 hnodup
      have hlater := fun x hx => hnodes x (List.mem_cons_of_mem m hx)
      cases hv : visit d m with
      | none =>
          rw [visitAll_cons_none hv]
          rcases List.mem_cons.1 hn with rfl | hn
          · exact ⟨d, d, Run.refl, rfl, Or.inl ⟨hv, rfl⟩, h.run_visitAll hrest hlater,
              h.relabels_visitAll rest d, h.value?_of_not_mem hnot d⟩
          · exact ih hrest hlater hn
      | some changed =>
          obtain ⟨hmem, hready⟩ := hnodes m List.mem_cons_self
          have hrun : Run l d changed.1 := h.run hmem hready hv
          have hsame := (h.relabels hv).value?_of_ne
          have hstill : ∀ x ∈ rest, x ∈ changed.1.attached ∧ ready (changed.1.tag? x) := by
            intro x hx
            have hne : x ≠ m := fun hxm => hnot (hxm ▸ hx)
            rw [(h.relabels hv).attached_eq, Document.tag?_congr (hsame x hne)]
            exact hlater x hx
          rw [visitAll_cons_some hv]
          rcases List.mem_cons.1 hn with rfl | hn
          · exact ⟨d, changed.1, Run.refl, rfl, Or.inr ⟨changed.2, hv⟩,
              h.run_visitAll hrest hstill, h.relabels_visitAll rest _,
              h.value?_of_not_mem hnot _⟩
          · obtain ⟨x, y, hx, hvalue, hvisit, hy⟩ := ih hrest hstill hn
            exact ⟨x, y, hrun.trans hx, hvalue.trans (hsame n fun hnm => hnot (hnm ▸ hn)), hvisit, hy⟩

/-- **What each visit settles at its node is settled in the end.** -/
theorem settled (h : IsVisit l ready visit) {P : Document → NodeId → Prop}
    (hcongr : ∀ {d e : Document} {n : NodeId}, e.nodes.value? n = d.nodes.value? n →
      P d n → P e n)
    (hdone : ∀ {d : Document} {n : NodeId}, ready (d.tag? n) → visit d n = none → P d n)
    (hsettle : ∀ {d e : Document} {n : NodeId} {entry : α}, ready (d.tag? n) →
      visit d n = some (e, entry) → P e n)
    {nodes : List NodeId} (hnodup : nodes.Nodup) {d : Document}
    (hnodes : ∀ n ∈ nodes, ready (d.tag? n)) {n : NodeId} (hn : n ∈ nodes) :
    P (visitAll visit nodes d).1 n := by
  induction nodes generalizing d with
  | nil => exact absurd hn (by simp)
  | cons m rest ih =>
      obtain ⟨hnot, hrest⟩ := List.nodup_cons.1 hnodup
      have hready : ready (d.tag? m) := hnodes m List.mem_cons_self
      cases hv : visit d m with
      | none =>
          rw [visitAll_cons_none hv]
          rcases List.mem_cons.1 hn with rfl | hn
          · exact hcongr (h.value?_of_not_mem hnot d) (hdone hready hv)
          · exact ih hrest (fun x hx => hnodes x (List.mem_cons_of_mem m hx)) hn
      | some changed =>
          rw [visitAll_cons_some hv]
          rcases List.mem_cons.1 hn with rfl | hn
          · exact hcongr (h.value?_of_not_mem hnot changed.1) (hsettle hready hv)
          · refine ih hrest (fun x hx => ?_) hn
            have hne : x ≠ m := fun hxm => hnot (hxm ▸ hx)
            rw [Document.tag?_congr ((h.relabels hv).value?_of_ne _ hne)]
            exact hnodes x (List.mem_cons_of_mem m hx)

/-- **A sweep does nothing, or there is a first change**, and the rest of the sweep is a run. -/
theorem first_change (h : IsVisit l ready visit) {nodes : List NodeId} (hnodup : nodes.Nodup)
    {d : Document} (hnodes : ∀ n ∈ nodes, n ∈ d.attached ∧ ready (d.tag? n)) :
    (∀ n ∈ nodes, visit d n = none) ∨ ∃ n ∈ nodes, ∃ e entry, visit d n = some (e, entry) ∧
      Run l d e ∧ Run l e (visitAll visit nodes d).1 := by
  rcases visitAll_cases visit d nodes with hnone | ⟨n, e, entry, rest, hsuffix, hv, heq⟩
  · exact Or.inl hnone
  · obtain ⟨hnot, hrest⟩ := List.nodup_cons.1 (hnodup.sublist hsuffix.sublist)
    have hn : n ∈ nodes := hsuffix.subset List.mem_cons_self
    refine Or.inr ⟨n, hn, e, entry, hv, h.run (hnodes n hn).1 (hnodes n hn).2 hv, ?_⟩
    rw [heq]
    refine h.run_visitAll hrest fun m hm => ?_
    have hne : m ≠ n := fun hmn => hnot (hmn ▸ hm)
    rw [(h.relabels hv).attached_eq, Document.tag?_congr ((h.relabels hv).value?_of_ne _ hne)]
    exact hnodes m (hsuffix.subset (List.mem_cons_of_mem n hm))

/-- **A sweep over the attached nodes of a kind is a run.** -/
theorem run_sweep (h : IsVisit l ready visit) {d : Document} (hd : d.WellFormed)
    {p : NodeId → Bool} (hp : ∀ n, p n = true → ready (d.tag? n)) :
    Run l d (visitAll visit (d.attached.filter p) d).1 := by
  refine h.run_visitAll (hd.nodup_attached.filter p) fun n hn => ?_
  obtain ⟨hmem, hn⟩ := List.mem_filter.1 hn
  exact ⟨hmem, hp n hn⟩

/-- What is settled at the attached nodes of a kind. -/
theorem settled_sweep (h : IsVisit l ready visit) {d : Document} (hd : d.WellFormed)
    {p : NodeId → Bool} (hp : ∀ n, p n = true → ready (d.tag? n)) {P : Document → NodeId → Prop}
    (hcongr : ∀ {d e : Document} {n : NodeId}, e.nodes.value? n = d.nodes.value? n →
      P d n → P e n)
    (hdone : ∀ {d : Document} {n : NodeId}, ready (d.tag? n) → visit d n = none → P d n)
    (hsettle : ∀ {d e : Document} {n : NodeId} {entry : α}, ready (d.tag? n) →
      visit d n = some (e, entry) → P e n)
    {n : NodeId} (hn : n ∈ d.attached) (hpn : p n = true) :
    P (visitAll visit (d.attached.filter p) d).1 n :=
  h.settled hcongr hdone hsettle (hd.nodup_attached.filter p)
    (fun m hm => hp m (List.mem_filter.1 hm).2) (List.mem_filter.2 ⟨hn, hpn⟩)

/-- **What a sweep over the attached nodes of a kind makes of such a node** is what one visit makes of
it as it was: nothing, or what it is in the end. -/
theorem visited_sweep (h : IsVisit l ready visit) {d : Document} (hd : d.WellFormed)
    {p : NodeId → Bool} (hp : ∀ n, p n = true → ready (d.tag? n)) {n : NodeId}
    (hn : n ∈ d.attached) (hpn : p n = true) :
    ∃ x : Document, x.nodes.value? n = d.nodes.value? n ∧
      (visit x n = none ∧
          (visitAll visit (d.attached.filter p) d).1.nodes.value? n = d.nodes.value? n ∨
        ∃ y entry, visit x n = some (y, entry) ∧
          (visitAll visit (d.attached.filter p) d).1.nodes.value? n = y.nodes.value? n) := by
  obtain ⟨x, y, -, hx, hv, -, -, hlast⟩ := h.when_visited (hd.nodup_attached.filter p)
    (fun m hm => ⟨(List.mem_filter.1 hm).1, hp m (List.mem_filter.1 hm).2⟩)
    (List.mem_filter.2 ⟨hn, hpn⟩)
  refine ⟨x, hx, ?_⟩
  rcases hv with ⟨hnone, rfl⟩ | ⟨entry, hsome⟩
  · exact Or.inl ⟨hnone, hlast.trans hx⟩
  · exact Or.inr ⟨y, entry, hsome, hlast⟩

/-- A node that is not of the kind stays as it is. -/
theorem value?_sweep_of_not (h : IsVisit l ready visit) (d : Document) {p : NodeId → Bool}
    {n : NodeId} (hpn : p n = false) :
    (visitAll visit (d.attached.filter p) d).1.nodes.value? n = d.nodes.value? n := by
  refine h.value?_of_not_mem (fun hn => ?_) d
  rw [List.mem_filter, hpn] at hn
  exact absurd hn.2 (by simp)

/-- A sweep over the attached nodes of a kind does nothing, or there is a first change. -/
theorem first_change_sweep (h : IsVisit l ready visit) {d : Document} (hd : d.WellFormed)
    {p : NodeId → Bool} (hp : ∀ n, p n = true → ready (d.tag? n)) :
    (∀ n ∈ d.attached, p n = true → visit d n = none) ∨
      ∃ n ∈ d.attached, p n = true ∧ ∃ e entry, visit d n = some (e, entry) ∧
        Run l d e ∧ Run l e (visitAll visit (d.attached.filter p) d).1 := by
  rcases h.first_change (hd.nodup_attached.filter p) (d := d) (fun n hn =>
      ⟨(List.mem_filter.1 hn).1, hp n (List.mem_filter.1 hn).2⟩) with hnone | ⟨n, hn, hchange⟩
  · exact Or.inl fun n hn hpn => hnone n (List.mem_filter.2 ⟨hn, hpn⟩)
  · exact Or.inr ⟨n, (List.mem_filter.1 hn).1, (List.mem_filter.1 hn).2, hchange⟩

end IsVisit

end Pass

end ThemeCompiler
