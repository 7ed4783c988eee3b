/-
**What an edit does to the links of an arena.**

For each edit: the parent of every node and the children of every node afterwards, and that the
arena stays well-formed as long as no node becomes its own ancestor.  Only values and links that are
named change.

Main results:

* `ThemeCompiler.Arena.parent?_detach`, `ThemeCompiler.Arena.children_detach` and their likes for
  `appendChild`, `insertBefore`, `replaceWith` and `wrapChildren` — the links after an edit;
* `ThemeCompiler.Arena.WellFormed.detach`, `ThemeCompiler.Arena.WellFormed.appendChild`,
  `ThemeCompiler.Arena.WellFormed.insertBefore`, `ThemeCompiler.Arena.WellFormed.replaceWith`,
  `ThemeCompiler.Arena.WellFormed.wrapChildren` — **edits keep an arena well-formed**.
-/

import ThemeCompiler.Proofs.Arena.Order

set_option relaxedAutoImplicit false
set_option autoImplicit false

namespace ThemeCompiler

namespace Arena

variable {α : Type} {a b : Arena α}

/-! ### One cell -/

@[simp] theorem size_modifyCell (a : Arena α) (i : NodeId) (f : Cell α → Cell α) :
    (a.modifyCell i f).size = a.size := by
  simp [modifyCell, size]

theorem getElem?_modifyCell (a : Arena α) (i j : NodeId) (f : Cell α → Cell α) :
    (a.modifyCell i f).cells[j]? = if j = i then (a.cells[j]?).map f else a.cells[j]? := by
  simp only [modifyCell, Array.getElem?_modify, eq_comm]

@[simp] theorem size_modifyValue (a : Arena α) (i : NodeId) (f : α → α) :
    (a.modifyValue i f).size = a.size := size_modifyCell ..

@[simp] theorem size_setParent (a : Arena α) (i : NodeId) (p : Option NodeId) :
    (a.setParent i p).size = a.size := size_modifyCell ..

@[simp] theorem size_modifyChildren (a : Arena α) (i : NodeId) (f : List NodeId → List NodeId) :
    (a.modifyChildren i f).size = a.size := size_modifyCell ..

theorem value?_modifyValue (a : Arena α) (i j : NodeId) (f : α → α) :
    (a.modifyValue i f).value? j = if j = i then (a.value? j).map f else a.value? j := by
  simp only [value?, modifyValue, getElem?_modifyCell]
  by_cases hj : j = i
  · simp only [hj, if_true, Option.map_map]; rfl
  · simp only [hj, if_false]

theorem sameLinks_modifyValue (a : Arena α) (i : NodeId) (f : α → α) :
    SameLinks a (a.modifyValue i f) := by
  refine ⟨size_modifyValue .., fun j => ?_, fun j => ?_⟩
  · simp only [parent?, modifyValue, getElem?_modifyCell]
    by_cases hj : j = i
    · simp only [hj, if_true]; cases a.cells[i]? <;> rfl
    · simp only [hj, if_false]
  · simp only [children, modifyValue, getElem?_modifyCell]
    by_cases hj : j = i
    · simp only [hj, if_true]; cases a.cells[i]? <;> rfl
    · simp only [hj, if_false]

/-- A change that gives a node the value that it has changes nothing. -/
theorem modifyValue_eq_self {i : NodeId} {f : α → α} (h : ∀ v, a.value? i = some v → f v = v) :
    a.modifyValue i f = a := by
  refine congrArg Arena.mk (Array.ext_getElem? fun j => ?_)
  have hcell := getElem?_modifyCell a i j fun cell => { cell with value := f cell.value }
  rw [modifyCell] at hcell
  rw [hcell]
  split
  · next heq =>
      cases hj : a.cells[j]? with
      | none => rfl
      | some cell => rw [Option.map_some, h cell.value (by rw [value?, ← heq, hj]; rfl)]
  · rfl

@[simp] theorem value?_setParent (a : Arena α) (i j : NodeId) (p : Option NodeId) :
    (a.setParent i p).value? j = a.value? j := by
  simp only [value?, setParent, getElem?_modifyCell]
  by_cases hj : j = i
  · simp only [hj, if_true, Option.map_map]; rfl
  · simp only [hj, if_false]

@[simp] theorem value?_modifyChildren (a : Arena α) (i j : NodeId)
    (f : List NodeId → List NodeId) : (a.modifyChildren i f).value? j = a.value? j := by
  simp only [value?, modifyChildren, getElem?_modifyCell]
  by_cases hj : j = i
  · simp only [hj, if_true, Option.map_map]; rfl
  · simp only [hj, if_false]

@[simp] theorem children_setParent (a : Arena α) (i j : NodeId) (p : Option NodeId) :
    (a.setParent i p).children j = a.children j := by
  simp only [children, setParent, getElem?_modifyCell]
  by_cases hj : j = i
  · simp only [hj, if_true]; cases a.cells[i]? <;> rfl
  · simp only [hj, if_false]

@[simp] theorem parent?_modifyChildren (a : Arena α) (i j : NodeId)
    (f : List NodeId → List NodeId) : (a.modifyChildren i f).parent? j = a.parent? j := by
  simp only [parent?, modifyChildren, getElem?_modifyCell]
  by_cases hj : j = i
  · simp only [hj, if_true]; cases a.cells[i]? <;> rfl
  · simp only [hj, if_false]

theorem parent?_setParent {i : NodeId} (hi : i < a.size) (j : NodeId) (p : Option NodeId) :
    (a.setParent i p).parent? j = if j = i then p else a.parent? j := by
  obtain ⟨c, hcell⟩ : ∃ c, a.cells[i]? = some c := ⟨_, Array.getElem?_eq_getElem hi⟩
  simp only [parent?, setParent, getElem?_modifyCell]
  by_cases hj : j = i
  · simp only [hj, if_true, hcell, Option.map_some, Option.bind_some]
  · simp only [hj, if_false]

theorem children_modifyChildren {i : NodeId} (hi : i < a.size) (j : NodeId)
    (f : List NodeId → List NodeId) :
    (a.modifyChildren i f).children j = if j = i then f (a.children j) else a.children j := by
  obtain ⟨c, hcell⟩ : ∃ c, a.cells[i]? = some c := ⟨_, Array.getElem?_eq_getElem hi⟩
  simp only [children, modifyChildren, getElem?_modifyCell]
  by_cases hj : j = i
  · simp only [hj, if_true, hcell, Option.map_some]
  · simp only [hj, if_false]

/-! ### New nodes -/

@[simp] theorem children_singleton (v : α) (i : NodeId) : (Arena.singleton v).children i = [] := by
  cases i with
  | zero => rfl
  | succ i => exact children_of_size_le (by simp [size, Arena.singleton])

@[simp] theorem parent?_singleton (v : α) (i : NodeId) :
    (Arena.singleton v).parent? i = none := by
  cases i with
  | zero => rfl
  | succ i => exact parent?_of_size_le (by simp [size, Arena.singleton])

theorem WellFormed.singleton (v : α) : (Arena.singleton v).WellFormed where
  root_lt := by simp [size, Arena.singleton, root]
  parent_root := parent?_singleton v root
  mem_children p c := by simp
  nodup_children p := by simp
  acyclic := ⟨id, fun c p hp => by simp at hp⟩

@[simp] theorem size_add (a : Arena α) (v : α) : (a.add v).size = a.size + 1 := by
  simp [add, size]

theorem getElem?_add (a : Arena α) (v : α) (j : NodeId) :
    (a.add v).cells[j]? = if j = a.size then some ⟨v, none, []⟩ else a.cells[j]? :=
  Array.getElem?_push

theorem value?_add (a : Arena α) (v : α) (j : NodeId) :
    (a.add v).value? j = if j = a.size then some v else a.value? j := by
  simp only [value?, getElem?_add]
  by_cases hj : j = a.size <;> simp only [hj, if_true, if_false, Option.map_some]

@[simp] theorem parent?_add (a : Arena α) (v : α) (j : NodeId) :
    (a.add v).parent? j = a.parent? j := by
  by_cases hj : j = a.size
  · rw [parent?_of_size_le hj.ge, parent?, getElem?_add, if_pos hj]; rfl
  · rw [parent?, getElem?_add, if_neg hj]; rfl

@[simp] theorem children_add (a : Arena α) (v : α) (j : NodeId) :
    (a.add v).children j = a.children j := by
  by_cases hj : j = a.size
  · rw [children_of_size_le hj.ge, children, getElem?_add, if_pos hj]
  · rw [children, getElem?_add, if_neg hj]; rfl

theorem WellFormed.add (h : a.WellFormed) (v : α) : (a.add v).WellFormed where
  root_lt := by rw [size_add]; exact Nat.lt_succ_of_lt h.root_lt
  parent_root := by rw [parent?_add]; exact h.parent_root
  mem_children p c := by rw [children_add, parent?_add]; exact h.mem_children p c
  nodup_children p := by rw [children_add]; exact h.nodup_children p
  acyclic := by
    obtain ⟨rank, hrank⟩ := h.acyclic
    exact ⟨rank, fun c p hp => hrank c p (by rwa [parent?_add] at hp)⟩

/-! ### Taking out -/

@[simp] theorem size_detach (a : Arena α) (i : NodeId) : (a.detach i).size = a.size := by
  rw [Arena.detach]; split <;> simp

@[simp] theorem value?_detach (a : Arena α) (i j : NodeId) :
    (a.detach i).value? j = a.value? j := by
  rw [Arena.detach]; split <;> simp

theorem detach_of_parent?_eq_none {i : NodeId} (h : a.parent? i = none) : a.detach i = a := by
  rw [Arena.detach, h]

theorem parent?_detach (a : Arena α) (i j : NodeId) :
    (a.detach i).parent? j = if j = i then none else a.parent? j := by
  cases hp : a.parent? i with
  | none =>
      rw [detach_of_parent?_eq_none hp]
      by_cases hj : j = i
      · rw [if_pos hj, hj, hp]
      · rw [if_neg hj]
  | some p =>
      simp only [Arena.detach, hp, parent?_modifyChildren]
      exact parent?_setParent (lt_size_of_parent? hp) j none

theorem bne_of_not_mem {i : NodeId} {ids : List NodeId} (h : i ∉ ids) :
    ∀ c ∈ ids, (c != i) = true := by
  intro c hc
  simp only [bne_iff_ne, ne_eq]
  rintro rfl
  exact h hc

theorem filter_bne_eq_self {i : NodeId} {ids : List NodeId} (h : i ∉ ids) :
    ids.filter (· != i) = ids :=
  List.filter_eq_self.2 (bne_of_not_mem h)

/-- The children after a node was taken out, when only its parent lists it. -/
theorem children_detach_of_listed {i : NodeId} (hlisted : ∀ p, i ∈ a.children p → a.parent? i = some p)
    (hlt : ∀ p, a.parent? i = some p → p < a.size) (j : NodeId) :
    (a.detach i).children j = (a.children j).filter (· != i) := by
  cases hp : a.parent? i with
  | none =>
      rw [detach_of_parent?_eq_none hp, filter_bne_eq_self]
      intro hi
      rw [hlisted j hi] at hp
      exact absurd hp (by simp)
  | some p =>
      simp only [Arena.detach, hp]
      rw [children_modifyChildren (by rw [size_setParent]; exact hlt p hp), children_setParent]
      by_cases hj : j = p
      · rw [if_pos hj]
      · rw [if_neg hj, filter_bne_eq_self]
        intro hi
        have hpj := hlisted j hi
        rw [hp] at hpj
        exact hj (Option.some.inj hpj).symm

theorem children_detach (h : a.WellFormed) (i j : NodeId) :
    (a.detach i).children j = (a.children j).filter (· != i) :=
  children_detach_of_listed (fun _ => h.parent?_of_mem) (fun _ => h.parent_lt_size) j

theorem WellFormed.detach (h : a.WellFormed) (i : NodeId) : (a.detach i).WellFormed where
  root_lt := by rw [size_detach]; exact h.root_lt
  parent_root := by rw [parent?_detach, h.parent_root, ite_self]
  mem_children p c := by
    rw [children_detach h, parent?_detach, List.mem_filter, h.mem_children]
    by_cases hc : c = i <;> simp [hc]
  nodup_children p := by rw [children_detach h]; exact (h.nodup_children p).filter _
  acyclic := by
    obtain ⟨rank, hrank⟩ := h.acyclic
    refine ⟨rank, fun c p hp => hrank c p ?_⟩
    rw [parent?_detach] at hp
    by_cases hc : c = i
    · rw [if_pos hc] at hp; exact absurd hp (by simp)
    · rwa [if_neg hc] at hp

/-! ### A node with another parent -/

/-- A ranking of an arena in which a node got another parent that is neither the node itself nor
below it: what moved with the node is ranked after that parent. -/
private theorem exists_rank_move (h : a.WellFormed) {i p : NodeId} (hne : p ≠ i)
    (hbelow : p ∉ a.descendants i) :
    ∃ rank : NodeId → Nat, rank p < rank i ∧
      ∀ c q, c ≠ i → a.parent? c = some q → rank q < rank c := by
  classical
  obtain ⟨rank, hrank⟩ := h.acyclic
  refine ⟨fun j => if j = i ∨ j ∈ a.descendants i then rank p + 1 + rank j else rank j, ?_, ?_⟩
  · have hp : ¬ (p = i ∨ p ∈ a.descendants i) := by simp [hne, hbelow]
    simp only [if_neg hp, true_or, if_true]
    omega
  · intro c q hc hq
    have hlt : rank q < rank c := hrank c q hq
    have hiff : (c = i ∨ c ∈ a.descendants i) ↔ (q = i ∨ q ∈ a.descendants i) := by
      rw [h.mem_descendants_iff_parent]
      simp [hc, hq]
    by_cases hci : c = i ∨ c ∈ a.descendants i
    · simp only [if_pos hci, if_pos (hiff.1 hci)]
      omega
    · simp only [if_neg hci, if_neg (mt hiff.2 hci)]
      exact hlt

/-- An arena is well-formed when it comes from a well-formed one by giving one node another parent,
with child lists to match. -/
private theorem wellFormed_move (h : a.WellFormed) {i p : NodeId} (hroot : i ≠ root)
    (hne : p ≠ i) (hbelow : p ∉ a.descendants i) (hsize : b.size = a.size)
    (hparent : ∀ j, b.parent? j = if j = i then some p else a.parent? j)
    (hmem : ∀ j c, c ∈ b.children j ↔ b.parent? c = some j)
    (hnodup : ∀ j, (b.children j).Nodup) : b.WellFormed where
  root_lt := by rw [hsize]; exact h.root_lt
  parent_root := by rw [hparent, if_neg hroot.symm, h.parent_root]
  mem_children := hmem
  nodup_children := hnodup
  acyclic := by
    obtain ⟨rank, hnew, hold⟩ := exists_rank_move h hne hbelow
    refine ⟨rank, fun c q hq => ?_⟩
    rw [hparent] at hq
    by_cases hc : c = i
    · rw [if_pos hc] at hq
      rw [hc, ← Option.some.inj hq]
      exact hnew
    · rw [if_neg hc] at hq
      exact hold c q hc hq

/-! ### Appending -/

@[simp] theorem size_appendChild (a : Arena α) (p c : NodeId) :
    (a.appendChild p c).size = a.size := by
  simp [Arena.appendChild]

@[simp] theorem value?_appendChild (a : Arena α) (p c j : NodeId) :
    (a.appendChild p c).value? j = a.value? j := by
  simp [Arena.appendChild]

theorem parent?_appendChild {p c : NodeId} (hc : c < a.size) (j : NodeId) :
    (a.appendChild p c).parent? j = if j = c then some p else a.parent? j := by
  rw [Arena.appendChild, parent?_modifyChildren, parent?_setParent (by rwa [size_detach]),
    parent?_detach]
  by_cases hj : j = c <;> simp only [hj, if_true, if_false]

theorem children_appendChild (h : a.WellFormed) {p c : NodeId} (hp : p < a.size) (j : NodeId) :
    (a.appendChild p c).children j =
      (a.children j).filter (· != c) ++ if j = p then [c] else [] := by
  rw [Arena.appendChild, children_modifyChildren (by simpa using hp), children_setParent,
    children_detach h]
  by_cases hj : j = p <;> simp only [hj, if_true, if_false, List.append_nil]

theorem WellFormed.appendChild (h : a.WellFormed) {p c : NodeId} (hp : p < a.size)
    (hc : c < a.size) (hroot : c ≠ root) (hne : p ≠ c) (hbelow : p ∉ a.descendants c) :
    (a.appendChild p c).WellFormed := by
  refine wellFormed_move h hroot hne hbelow (size_appendChild ..) (parent?_appendChild hc) ?_ ?_
  · intro j d
    rw [children_appendChild h hp, parent?_appendChild hc, List.mem_append, List.mem_filter,
      h.mem_children]
    by_cases hd : d = c
    · by_cases hj : j = p
      · simp [hd, hj]
      · simp [hd, hj, Ne.symm hj]
    · by_cases hj : j = p <;> simp [hd, hj]
  · intro j
    rw [children_appendChild h hp]
    refine ((h.nodup_children j).filter _).append (by split <;> simp) ?_
    intro d hd hd'
    by_cases hj : j = p
    · rw [if_pos hj, List.mem_singleton] at hd'
      simp [hd'] at hd
    · simp [hj] at hd'

/-- A new node as the last child of a node that is there. -/
theorem WellFormed.addChild (h : a.WellFormed) {p : NodeId} (hp : p < a.size) (v : α) :
    ((a.add v).appendChild p a.size).WellFormed := by
  have hadd : (a.add v).WellFormed := h.add v
  have hnew : a.size < (a.add v).size := by rw [size_add]; exact Nat.lt_succ_self _
  have hbelow : p ∉ (a.add v).descendants a.size := by
    rw [hadd.descendants_eq, children_add, children_of_size_le (Nat.le_refl _)]
    simp
  exact hadd.appendChild (Nat.lt_trans hp hnew) hnew (Nat.ne_of_gt h.root_lt) (Nat.ne_of_lt hp) hbelow

/-! ### Inserting -/

theorem mem_insertAt {mark new c : NodeId} {ids : List NodeId} :
    c ∈ insertAt mark new ids ↔ c = new ∨ c ∈ ids := by
  by_cases hm : ids.contains mark = true
  · have hsplit : c ∈ ids ↔ c ∈ ids.takeWhile (· != mark) ∨ c ∈ ids.dropWhile (· != mark) := by
      rw [← List.mem_append, List.takeWhile_append_dropWhile]
    rw [insertAt, if_pos hm, hsplit, List.mem_append, List.mem_cons]
    exact or_left_comm
  · rw [insertAt, if_neg hm, List.mem_cons]

theorem insertAt_append_cons {mark : NodeId} {before : List NodeId} (h : mark ∉ before)
    (new : NodeId) (after : List NodeId) :
    insertAt mark new (before ++ mark :: after) = before ++ new :: mark :: after := by
  have htake : (before ++ mark :: after).takeWhile (· != mark) = before := by
    rw [List.takeWhile_append_of_pos (bne_of_not_mem h)]
    simp
  have hdrop : (before ++ mark :: after).dropWhile (· != mark) = mark :: after := by
    rw [List.dropWhile_append_of_pos (bne_of_not_mem h)]
    simp
  rw [insertAt, if_pos (by simp), htake, hdrop]

theorem nodup_insertAt {mark new : NodeId} {ids : List NodeId} (h : ids.Nodup) (hnew : new ∉ ids) :
    (insertAt mark new ids).Nodup := by
  have hcons : (new :: ids).Nodup := List.nodup_cons.2 ⟨hnew, h⟩
  by_cases hm : ids.contains mark = true
  · rw [insertAt, if_pos hm, List.nodup_middle, List.takeWhile_append_dropWhile]
    exact hcons
  · rwa [insertAt, if_neg hm]

@[simp] theorem size_insertBefore (a : Arena α) (mark new : NodeId) :
    (a.insertBefore mark new).size = a.size := by
  rw [Arena.insertBefore]; split <;> simp

@[simp] theorem value?_insertBefore (a : Arena α) (mark new j : NodeId) :
    (a.insertBefore mark new).value? j = a.value? j := by
  rw [Arena.insertBefore]; split <;> simp

theorem insertBefore_of_parent?_eq_none {mark : NodeId} (h : a.parent? mark = none) (new : NodeId) :
    a.insertBefore mark new = a := by
  rw [Arena.insertBefore, h]

theorem parent?_insertBefore {mark new p : NodeId} (hp : a.parent? mark = some p)
    (hnew : new < a.size) (j : NodeId) :
    (a.insertBefore mark new).parent? j = if j = new then some p else a.parent? j := by
  simp only [Arena.insertBefore, hp]
  rw [parent?_setParent (by simpa using hnew), parent?_modifyChildren, parent?_detach]
  by_cases hj : j = new <;> simp only [hj, if_true, if_false]

theorem children_insertBefore (h : a.WellFormed) {mark new p : NodeId}
    (hp : a.parent? mark = some p) (j : NodeId) :
    (a.insertBefore mark new).children j =
      if j = p then insertAt mark new ((a.children j).filter (· != new))
      else (a.children j).filter (· != new) := by
  have hlt : p < (a.detach new).size := by rw [size_detach]; exact h.parent_lt_size hp
  simp only [Arena.insertBefore, hp]
  rw [children_setParent, children_modifyChildren hlt, children_detach h]

/-- After an insertion a node is listed by its parent and nowhere else, whatever was inserted. -/
theorem mem_children_insertBefore (h : a.WellFormed) {mark new p : NodeId}
    (hp : a.parent? mark = some p) (hnew : new < a.size) (j d : NodeId) :
    d ∈ (a.insertBefore mark new).children j ↔ (a.insertBefore mark new).parent? d = some j := by
  rw [children_insertBefore h hp, parent?_insertBefore hp hnew]
  by_cases hd : d = new
  · by_cases hj : j = p
    · simp [hd, hj, mem_insertAt]
    · simp [hd, hj, Ne.symm hj]
  · by_cases hj : j = p <;> simp [hd, hj, mem_insertAt, h.mem_children]

theorem WellFormed.insertBefore (h : a.WellFormed) {mark new p : NodeId}
    (hp : a.parent? mark = some p) (hnew : new < a.size) (hroot : new ≠ root) (hne : p ≠ new)
    (hbelow : p ∉ a.descendants new) : (a.insertBefore mark new).WellFormed := by
  refine wellFormed_move h hroot hne hbelow (size_insertBefore ..)
    (parent?_insertBefore hp hnew) (mem_children_insertBefore h hp hnew) ?_
  intro j
  have hfilter : ((a.children j).filter (· != new)).Nodup := (h.nodup_children j).filter _
  rw [children_insertBefore h hp]
  by_cases hj : j = p
  · rw [if_pos hj]
    exact nodup_insertAt hfilter (by simp)
  · rwa [if_neg hj]

/-! ### Replacing -/

/-- A list with another node in the place of `old`. -/
def substitute (old new : NodeId) (ids : List NodeId) : List NodeId :=
  ids.map fun c => if c = old then new else c

theorem substitute_eq_self {old new : NodeId} {ids : List NodeId} (h : old ∉ ids) :
    substitute old new ids = ids := by
  refine (List.map_congr_left fun c hc => ?_).trans (List.map_id ids)
  rw [if_neg (by rintro rfl; exact h hc), id]

theorem substitute_append_cons {old : NodeId} {before after : List NodeId} (hbefore : old ∉ before)
    (hafter : old ∉ after) (new : NodeId) :
    substitute old new (before ++ old :: after) = before ++ new :: after := by
  have hmap : substitute old new (before ++ old :: after)
      = substitute old new before ++ new :: substitute old new after := by
    simp [substitute]
  rw [hmap, substitute_eq_self hbefore, substitute_eq_self hafter]

theorem filter_insertAt {old new : NodeId} (hne : old ≠ new) {ids : List NodeId}
    (hnd : ids.Nodup) (hold : old ∈ ids) :
    (insertAt old new ids).filter (· != old) = substitute old new ids := by
  obtain ⟨before, after, rfl, hbefore⟩ := List.eq_append_cons_of_mem hold
  have hafter : old ∉ after := (List.nodup_cons.1 (List.nodup_append.1 hnd).2.1).1
  rw [insertAt_append_cons hbefore, substitute_append_cons hbefore hafter, List.filter_append,
    List.filter_cons_of_pos (by simpa using hne.symm), List.filter_cons_of_neg (by simp),
    filter_bne_eq_self hbefore, filter_bne_eq_self hafter]

@[simp] theorem size_replaceWith (a : Arena α) (old new : NodeId) :
    (a.replaceWith old new).size = a.size := by
  rw [Arena.replaceWith]; split <;> simp

@[simp] theorem value?_replaceWith (a : Arena α) (old new j : NodeId) :
    (a.replaceWith old new).value? j = a.value? j := by
  rw [Arena.replaceWith]; split <;> simp

theorem parent?_replaceWith {old new p : NodeId} (hne : old ≠ new) (hp : a.parent? old = some p)
    (hnew : new < a.size) (j : NodeId) :
    (a.replaceWith old new).parent? j =
      if j = old then none else if j = new then some p else a.parent? j := by
  rw [Arena.replaceWith, if_neg hne, parent?_detach, parent?_insertBefore hp hnew]

theorem WellFormed.replaceWith (h : a.WellFormed) {old new p : NodeId}
    (hp : a.parent? old = some p) (hnew : new < a.size) (hroot : new ≠ root) (hne : p ≠ new)
    (hbelow : p ∉ a.descendants new) : (a.replaceWith old new).WellFormed := by
  rw [Arena.replaceWith]
  split
  · exact h
  · exact (h.insertBefore hp hnew hroot hne hbelow).detach old

/-- **The new node stands where the old one was**, and nowhere else. -/
theorem children_replaceWith (h : a.WellFormed) {old new p : NodeId} (hne : old ≠ new)
    (hp : a.parent? old = some p) (hnew : new < a.size) (j : NodeId) :
    (a.replaceWith old new).children j =
      substitute old new ((a.children j).filter (· != new)) := by
  have hlisted := mem_children_insertBefore h hp hnew
  have hbound : ∀ q, (a.insertBefore old new).parent? old = some q →
      q < (a.insertBefore old new).size := by
    intro q hq
    rw [parent?_insertBefore hp hnew, if_neg hne] at hq
    rw [size_insertBefore]
    exact h.parent_lt_size hq
  rw [Arena.replaceWith, if_neg hne, children_detach_of_listed (fun q => (hlisted q old).1) hbound,
    children_insertBefore h hp]
  have hmem : old ∈ a.children j ↔ j = p := by
    rw [h.mem_children, hp, Option.some.injEq, eq_comm]
  by_cases hj : j = p
  · rw [if_pos hj]
    refine filter_insertAt hne ((h.nodup_children j).filter _) (List.mem_filter.2 ⟨?_, by simpa⟩)
    exact hmem.2 hj
  · have hold : old ∉ (a.children j).filter (· != new) :=
      fun hc => hj (hmem.1 (List.mem_filter.1 hc).1)
    rw [if_neg hj, substitute_eq_self hold, filter_bne_eq_self hold]

/-! ### Wrapping -/

/-- The links while children move into a wrapper one after the other. -/
private theorem links_moveInto (wrapper : NodeId) (ids : List NodeId) :
    ∀ {a : Arena α}, wrapper < a.size → (∀ c ∈ ids, c < a.size) →
      let moved := ids.foldl (fun b c => (b.setParent c none).appendChild wrapper c) a
      moved.size = a.size ∧ (∀ j, moved.value? j = a.value? j) ∧
        (∀ j, moved.parent? j = if j ∈ ids then some wrapper else a.parent? j) ∧
        ∀ j, moved.children j = if j = wrapper then a.children j ++ ids else a.children j := by
  induction ids with
  | nil => intro a _ _; simp
  | cons c ids ih =>
      intro a hw hids
      have hc : c < a.size := hids c List.mem_cons_self
      have hnone : (a.setParent c none).parent? c = none := by
        rw [parent?_setParent hc, if_pos rfl]
      -- one move: the child has no parent any more when it is appended
      have hstep : (a.setParent c none).appendChild wrapper c
          = ((a.setParent c none).setParent c (some wrapper)).modifyChildren wrapper (· ++ [c]) := by
        rw [Arena.appendChild, detach_of_parent?_eq_none hnone]
      have hsize : ((a.setParent c none).appendChild wrapper c).size = a.size := by simp
      obtain ⟨h₁, h₂, h₃, h₄⟩ := ih (a := (a.setParent c none).appendChild wrapper c)
        (by rwa [hsize]) (fun d hd => by rw [hsize]; exact hids d (List.mem_cons_of_mem c hd))
      simp only [List.foldl_cons]
      refine ⟨h₁.trans hsize, fun j => (h₂ j).trans (by simp), fun j => ?_, fun j => ?_⟩
      · refine (h₃ j).trans ?_
        rw [hstep, parent?_modifyChildren, parent?_setParent (by simpa using hc),
          parent?_setParent hc]
        by_cases hj : j = c <;> by_cases hjs : j ∈ ids <;> simp [hj, hjs]
      · refine (h₄ j).trans ?_
        rw [hstep, children_modifyChildren (by simpa using hw), children_setParent,
          children_setParent]
        by_cases hj : j = wrapper <;> simp [hj]

/-- The wrapper gets its new parent, whatever that is. -/
theorem parent?_wrapChildren_wrapper (h : a.WellFormed) {p w : NodeId} (hw : w < a.size) :
    (a.wrapChildren p w).parent? w = some p := by
  have hsize : (a.modifyChildren p fun _ => []).size = a.size := by simp
  have hmoved := (links_moveInto w (a.children p) (a := a.modifyChildren p fun _ => [])
    (by rwa [hsize]) (fun c hc => by rw [hsize]; exact h.lt_size_of_mem hc)).1
  rw [Arena.wrapChildren, parent?_appendChild (by rw [hmoved, hsize]; exact hw), if_pos rfl]

/-- **The links after wrapping**: the wrapper leaves its place and becomes the only child of its new
parent; what was there comes after what the wrapper had. -/
theorem links_wrapChildren (h : a.WellFormed) {p w : NodeId} (hp : p < a.size) (hw : w < a.size)
    (hne : p ≠ w) :
    (a.wrapChildren p w).size = a.size ∧ (∀ j, (a.wrapChildren p w).value? j = a.value? j) ∧
      (∀ j, (a.wrapChildren p w).parent? j =
        if j = w then some p else if j ∈ a.children p then some w else a.parent? j) ∧
      ∀ j, (a.wrapChildren p w).children j =
        if j = p then [w]
        else if j = w then a.children w ++ (a.children p).filter (· != w)
        else (a.children j).filter (· != w) := by
  have hsize : (a.modifyChildren p fun _ => []).size = a.size := by simp
  obtain ⟨h₁, h₂, h₃, h₄⟩ := links_moveInto w (a.children p)
    (a := a.modifyChildren p fun _ => []) (by rwa [hsize])
    (fun c hc => by rw [hsize]; exact h.lt_size_of_mem hc)
  have hself : w ∉ a.children w := fun hmem =>
    h.not_above_self w (Relation.TransGen.single (h.parent?_of_mem hmem))
  rw [Arena.wrapChildren]
  generalize (a.children p).foldl (fun b c => (b.setParent c none).appendChild w c)
    (a.modifyChildren p fun _ => []) = moved at *
  have hlt : w < moved.size := by rw [h₁, hsize]; exact hw
  have hplt : p < moved.size := by rw [h₁, hsize]; exact hp
  have hparent : ∀ j, moved.parent? j = if j ∈ a.children p then some w else a.parent? j := by
    intro j
    rw [h₃, parent?_modifyChildren]
  have hchildren : ∀ j, moved.children j =
      if j = w then a.children w ++ a.children p else if j = p then [] else a.children j := by
    intro j
    rw [h₄, children_modifyChildren hp]
    by_cases hj : j = w
    · simp [hj, Ne.symm hne]
    · simp [hj]
  -- the wrapper is listed by its parent only, also if it is one of the nodes that moved into it
  have hlisted : ∀ j, w ∈ moved.children j → moved.parent? w = some j := by
    intro j hmem
    rw [hchildren] at hmem
    rw [hparent]
    by_cases hj : j = w
    · rw [if_pos hj, List.mem_append] at hmem
      rw [if_pos (hmem.resolve_left hself), hj]
    · by_cases hjp : j = p
      · simp [hjp, hne] at hmem
      · rw [if_neg hj, if_neg hjp] at hmem
        have hwj := h.parent?_of_mem hmem
        rw [if_neg, hwj]
        intro hwp
        exact hjp (Option.some.inj (hwj.symm.trans (h.parent?_of_mem hwp)))
  have hbound : ∀ q, moved.parent? w = some q → q < moved.size := by
    intro q hq
    rw [hparent] at hq
    rw [h₁, hsize]
    split at hq
    · exact Option.some.inj hq ▸ hw
    · exact h.parent_lt_size hq
  refine ⟨by rw [size_appendChild, h₁, hsize], fun j => ?_, fun j => ?_, fun j => ?_⟩
  · rw [value?_appendChild, h₂, value?_modifyChildren]
  · rw [parent?_appendChild hlt, hparent]
  · rw [Arena.appendChild, children_modifyChildren (by simpa using hplt), children_setParent,
      children_detach_of_listed hlisted hbound, hchildren]
    by_cases hj : j = p
    · simp [hj, hne]
    · by_cases hjw : j = w
      · simp [hjw, Ne.symm hne, filter_bne_eq_self hself]
      · simp [hj, hjw]

/-- The children after wrapping with a node that had no parent. -/
theorem children_wrapChildren (h : a.WellFormed) {p w : NodeId} (hp : p < a.size) (hw : w < a.size)
    (hne : p ≠ w) (hdetached : a.parent? w = none) (j : NodeId) :
    (a.wrapChildren p w).children j =
      if j = p then [w] else if j = w then a.children w ++ a.children p else a.children j := by
  have hnot : ∀ q, w ∉ a.children q := by
    intro q hmem
    rw [h.parent?_of_mem hmem] at hdetached
    exact absurd hdetached (by simp)
  rw [(links_wrapChildren h hp hw hne).2.2.2, filter_bne_eq_self (hnot p),
    filter_bne_eq_self (hnot j)]

/-- A ranking of an arena in which the children of `p` got the parent `w` and `w` the parent `p`:
what is below `w` is ranked after `p`, and what was below `p` after `w`. -/
private theorem exists_rank_wrap (h : a.WellFormed) {p w : NodeId} (hne : p ≠ w)
    (hbelow : p ∉ a.descendants w) :
    ∃ rank : NodeId → Nat, rank p < rank w ∧
      (∀ c ∈ a.children p, c ≠ w → rank w < rank c) ∧
      ∀ c q, c ≠ w → q ≠ p → a.parent? c = some q → rank q < rank c := by
  classical
  obtain ⟨rank, hrank⟩ := h.acyclic
  refine ⟨fun j => if j = w ∨ j ∈ a.descendants w then rank p + 1 + rank j
    else if j ∈ a.descendants p then rank p + 1 + rank w + 1 + rank j else rank j, ?_, ?_, ?_⟩
  · have hp : ¬ (p = w ∨ p ∈ a.descendants w) := by simp [hne, hbelow]
    simp only [if_neg hp, if_neg (h.not_mem_descendants_self p), true_or, if_true]
    omega
  · intro c hc hcw
    have hcw' : ¬ (c = w ∨ c ∈ a.descendants w) := by
      rintro (rfl | hmem)
      · exact hcw rfl
      · obtain ⟨q, hq, hqw⟩ := h.mem_descendants_iff_parent.1 hmem
        obtain rfl : p = q := Option.some.inj ((h.parent?_of_mem hc).symm.trans hq)
        exact hqw.elim hne hbelow
    simp only [true_or, if_true, if_neg hcw', if_pos (h.mem_descendants_of_mem hc)]
    omega
  · intro c q hc hqp hq
    have hlt : rank q < rank c := hrank c q hq
    have hiffw : (c = w ∨ c ∈ a.descendants w) ↔ (q = w ∨ q ∈ a.descendants w) := by
      rw [h.mem_descendants_iff_parent]
      simp [hc, hq]
    have hiffp : c ∈ a.descendants p ↔ q ∈ a.descendants p := by
      rw [h.mem_descendants_iff_parent]
      simp [hq, hqp]
    by_cases hcw : c = w ∨ c ∈ a.descendants w
    · simp only [if_pos hcw, if_pos (hiffw.1 hcw)]
      omega
    · by_cases hcp : c ∈ a.descendants p
      · simp only [if_neg hcw, if_neg (mt hiffw.2 hcw), if_pos hcp, if_pos (hiffp.1 hcp)]
        omega
      · simp only [if_neg hcw, if_neg (mt hiffw.2 hcw), if_neg hcp, if_neg (mt hiffp.2 hcp)]
        exact hlt

theorem WellFormed.wrapChildren (h : a.WellFormed) {p w : NodeId} (hp : p < a.size)
    (hw : w < a.size) (hroot : w ≠ root) (hne : p ≠ w) (hbelow : p ∉ a.descendants w) :
    (a.wrapChildren p w).WellFormed := by
  obtain ⟨hsize, _, hparent, hchildren⟩ := links_wrapChildren h hp hw hne
  have hself : w ∉ a.children w := fun hmem =>
    h.not_above_self w (Relation.TransGen.single (h.parent?_of_mem hmem))
  have hmem : ∀ q c, c ∈ (a.wrapChildren p w).children q
      ↔ (a.wrapChildren p w).parent? c = some q := by
    intro q c
    rw [hchildren, hparent]
    by_cases hc : c = w
    · by_cases hq : q = p
      · simp [hc, hq]
      · by_cases hqw : q = w <;> simp [hc, hq, hqw, Ne.symm hq, hne, Ne.symm hne, hself]
    · by_cases hcp : c ∈ a.children p
      · have hpc : a.parent? c = some p := h.parent?_of_mem hcp
        by_cases hq : q = p
        · simp [hc, hcp, hq, Ne.symm hne]
        · by_cases hqw : q = w
          · simp [hc, hcp, hqw, Ne.symm hne]
          · simp [hc, hcp, hq, hqw, h.mem_children, hpc, Ne.symm hq, Ne.symm hqw]
      · have hpc : a.parent? c ≠ some p := fun hpc => hcp ((h.mem_children p c).2 hpc)
        by_cases hq : q = p
        · simp [hc, hcp, hq, hpc]
        · by_cases hqw : q = w <;> simp [hc, hcp, hq, hqw, h.mem_children, Ne.symm hne]
  refine ⟨by rw [hsize]; exact h.root_lt, ?_, hmem, fun q => ?_, ?_⟩
  · have hrp : root ∉ a.children p := by rw [h.mem_children, h.parent_root]; simp
    rw [hparent, if_neg hroot.symm, if_neg hrp, h.parent_root]
  · rw [hchildren]
    split
    · exact List.nodup_singleton w
    · split
      · have hmoved : ((a.children p).filter (· != w)).Nodup := (h.nodup_children p).filter _
        refine (h.nodup_children w).append hmoved fun c hcw hcp => hne ?_
        exact Option.some.inj ((h.parent?_of_mem (List.mem_of_mem_filter hcp)).symm.trans
          (h.parent?_of_mem hcw))
      · exact (h.nodup_children q).filter _
  · obtain ⟨rank, hwrap, hmoved, hold⟩ := exists_rank_wrap h hne hbelow
    refine ⟨rank, fun c q hq => ?_⟩
    rw [hparent] at hq
    by_cases hc : c = w
    · rw [if_pos hc] at hq
      rw [hc, ← Option.some.inj hq]
      exact hwrap
    · rw [if_neg hc] at hq
      by_cases hcp : c ∈ a.children p
      · rw [if_pos hcp] at hq
        rw [← Option.some.inj hq]
        exact hmoved c hcp hc
      · rw [if_neg hcp] at hq
        refine hold c q hc ?_ hq
        rintro rfl
        exact hcp ((h.mem_children _ c).2 hq)

end Arena

end ThemeCompiler
