/-
**The instances that repeat the first one.**

A list becomes a repeater with the fields of its first item, and a group of children of one structure
one with the fields of its first member.  The other items and members are echoes: a survey does not
look into them.  It looks into the first instances and into containers that are in no group, so echoes
are found in these as well, as far down as the survey goes.

Main definitions:

* `ThemeCompiler.Model.instances` — the groups that are formed at a container;
* `ThemeCompiler.Model.opened` — the children that are looked into;
* `ThemeCompiler.Model.echoes` — **the instances after the first one**, of all groups that are formed
  in a container.

Main results:

* `ThemeCompiler.Model.mem_echoes_succ` — echoes of a container are echoes at it, or in a child that is
  looked into;
* `ThemeCompiler.Model.echo_of_common` — what is in a child and in an echo is in an echo of the child;
* `ThemeCompiler.Model.echoes_eq_nil` — **where nothing is found there are no echoes**.
-/

import Mathlib.Data.List.Pairwise
import ThemeCompiler.Proofs.Model.Survey

set_option relaxedAutoImplicit false
set_option autoImplicit false

namespace ThemeCompiler

namespace Model

variable {d : Document}

/-! ### Instances -/

/-- **The groups of instances that are formed at a container**: the items of a list, or the children of
one structure. -/
def instances (d : Document) (n : NodeId) : List (List NodeId) :=
  if d.hasTag "form" n then []
  else match items d n with
    | first :: others => [first :: others]
    | [] => repeated d n

/-- **The children that are looked into**: the first instances, list items in which something can be
clicked, and what is no leaf. -/
def opened (d : Document) (n : NodeId) : List NodeId :=
  if d.hasTag "form" n then []
  else match items d n with
    | first :: _ => [first]
    | [] => leaders d n ++ (singles d n).filter fun c =>
        isOpenItem (Page.ofDocument d) c || !d.hasTagIn leafTags c

/-- The instances after the first one of the groups that are formed at a container. -/
def echoesAt (d : Document) (n : NodeId) : List NodeId := (instances d n).flatMap List.tail

/-- **The instances after the first one** of all groups that are formed in a container, so many levels
down. -/
def echoes (d : Document) : Nat → NodeId → List NodeId
  | 0, _ => []
  | depth + 1, n => echoesAt d n ++ (opened d n).flatMap (echoes d depth)

/-! A form has no instances, a list its items, and any other container its groups. -/

theorem instances_form {n : NodeId} (h : d.hasTag "form" n = true) : instances d n = [] :=
  if_pos h

theorem instances_list {n first : NodeId} {others : List NodeId} (h : d.hasTag "form" n = false)
    (hitems : items d n = first :: others) : instances d n = [first :: others] := by
  rw [instances, h, hitems]
  rfl

theorem instances_other {n : NodeId} (h : d.hasTag "form" n = false) (hitems : items d n = []) :
    instances d n = repeated d n := by
  rw [instances, h, hitems]
  rfl

theorem opened_form {n : NodeId} (h : d.hasTag "form" n = true) : opened d n = [] :=
  if_pos h

theorem opened_list {n first : NodeId} {others : List NodeId} (h : d.hasTag "form" n = false)
    (hitems : items d n = first :: others) : opened d n = [first] := by
  rw [opened, h, hitems]
  rfl

theorem opened_other {n : NodeId} (h : d.hasTag "form" n = false) (hitems : items d n = []) :
    opened d n = leaders d n ++ (singles d n).filter fun c =>
      isOpenItem (Page.ofDocument d) c || !d.hasTagIn leafTags c := by
  rw [opened, h, hitems]
  rfl

theorem echoes_form {n : NodeId} (h : d.hasTag "form" n = true) (depth : Nat) :
    echoes d (depth + 1) n = [] := by
  rw [echoes, echoesAt, instances_form h, opened_form h]
  rfl

theorem mem_echoes_succ {depth : Nat} {n x : NodeId} :
    x ∈ echoes d (depth + 1) n ↔ x ∈ echoesAt d n ∨ ∃ c ∈ opened d n, x ∈ echoes d depth c := by
  rw [echoes, List.mem_append, List.mem_flatMap]

/-! ### Members of groups -/

theorem items_subset (d : Document) (n : NodeId) : items d n ⊆ d.elementChildren n := by
  rw [items]
  split
  · exact List.filter_sublist.subset
  · exact List.nil_subset _

theorem nodup_elementChildren (hd : d.WellFormed) (n : NodeId) : (d.elementChildren n).Nodup :=
  (hd.nodes.nodup_children n).filter _

theorem nodup_items (hd : d.WellFormed) (n : NodeId) : (items d n).Nodup := by
  rw [items]
  split
  · exact (nodup_elementChildren hd n).filter _
  · exact List.nodup_nil

theorem nodup_repeated (hd : d.WellFormed) (n : NodeId) : (repeated d n).flatten.Nodup :=
  ((perm_groups d _).nodup_iff.2 (nodup_elementChildren hd n)).sublist (sublist_repeated d n)

/-- Every group has a first member. -/
theorem repeated_cons {n : NodeId} {group : List NodeId} (h : group ∈ repeated d n) :
    ∃ first second others, group = first :: second :: others :=
  exists_members (by simpa using (List.mem_filter.1 h).2)

/-- **The first members and the others** are the members of the groups. -/
theorem mem_leaders {n c : NodeId} :
    c ∈ leaders d n ↔ ∃ second others, (c :: second :: others) ∈ repeated d n := by
  rw [leaders, List.mem_filterMap]
  constructor
  · rintro ⟨group, hgroup, hhead⟩
    obtain ⟨first, second, others, rfl⟩ := repeated_cons hgroup
    obtain rfl : first = c := Option.some.inj hhead
    exact ⟨second, others, hgroup⟩
  · rintro ⟨second, others, hgroup⟩
    exact ⟨_, hgroup, rfl⟩

theorem leaders_subset (d : Document) (n : NodeId) : leaders d n ⊆ (repeated d n).flatten := by
  intro c hc
  obtain ⟨second, others, hgroup⟩ := mem_leaders.1 hc
  exact List.mem_flatten.2 ⟨_, hgroup, List.mem_cons_self⟩

/-- A first member is no later member of a group. -/
theorem not_mem_tail_of_leader {found : List (List NodeId)} (hnodup : found.flatten.Nodup)
    {group : List NodeId} (hgroup : group ∈ found) {c : NodeId} (hhead : group.head? = some c) :
    c ∉ found.flatMap List.tail := by
  intro hc
  obtain ⟨other, hother, htail⟩ := List.mem_flatMap.1 hc
  obtain ⟨hgroups, hapart⟩ := List.nodup_flatten.1 hnodup
  have hmem : c ∈ group := List.mem_of_mem_head? hhead
  by_cases heq : group = other
  · subst heq
    cases group with
    | nil => exact absurd hmem (by simp)
    | cons first rest =>
        obtain rfl : first = c := Option.some.inj hhead
        exact (List.nodup_cons.1 (hgroups _ hgroup)).1 htail
  · have : Std.Symm (List.Disjoint (α := NodeId)) := ⟨fun _ _ h => h.symm⟩
    exact hapart.forall hgroup hother heq hmem (List.mem_of_mem_tail htail)

theorem not_mem_repeated_of_single {n c : NodeId} (hc : c ∈ singles d n) :
    c ∉ (repeated d n).flatten := by
  simpa using (List.mem_filter.1 hc).2

/-- A child in no group is no later member of one. -/
theorem not_mem_tail_of_single {n c : NodeId} (hc : c ∈ singles d n) :
    c ∉ (repeated d n).flatMap List.tail := by
  intro hmem
  obtain ⟨group, hgroup, htail⟩ := List.mem_flatMap.1 hmem
  exact not_mem_repeated_of_single hc
    (List.mem_flatten.2 ⟨group, hgroup, List.mem_of_mem_tail htail⟩)

/-- **Which of the other children are looked into.** -/
theorem mem_opened_of_single {n c : NodeId} (hform : d.hasTag "form" n = false)
    (hitems : items d n = []) (hc : c ∈ singles d n) :
    c ∈ opened d n ↔
      isOpenItem (Page.ofDocument d) c = true ∨ d.hasTagIn leafTags c = false := by
  have hleader : c ∉ leaders d n := fun h => not_mem_repeated_of_single hc (leaders_subset d n h)
  rw [opened_other hform hitems, List.mem_append, List.mem_filter, Bool.or_eq_true,
    Bool.not_eq_true']
  exact ⟨fun h => (h.resolve_left hleader).2, fun h => Or.inr ⟨hc, h⟩⟩

/-! ### Where echoes are -/

theorem echoesAt_subset (d : Document) (n : NodeId) : echoesAt d n ⊆ d.elementChildren n := by
  intro c hc
  obtain ⟨group, hgroup, htail⟩ := List.mem_flatMap.1 hc
  have hmem := List.mem_of_mem_tail htail
  cases hform : d.hasTag "form" n with
  | true =>
      rw [instances_form hform] at hgroup
      exact absurd hgroup (by simp)
  | false =>
      cases hitems : items d n with
      | cons first others =>
          rw [instances_list hform hitems, List.mem_singleton] at hgroup
          rw [hgroup, ← hitems] at hmem
          exact items_subset d n hmem
      | nil =>
          rw [instances_other hform hitems] at hgroup
          exact mem_elementChildren_of_repeated (List.mem_flatten.2 ⟨group, hgroup, hmem⟩)

theorem opened_subset (d : Document) (n : NodeId) : opened d n ⊆ d.elementChildren n := by
  intro c hc
  cases hform : d.hasTag "form" n with
  | true =>
      rw [opened_form hform] at hc
      exact absurd hc (by simp)
  | false =>
      cases hitems : items d n with
      | cons first others =>
          rw [opened_list hform hitems, List.mem_singleton] at hc
          refine items_subset d n ?_
          rw [hitems, hc]
          exact List.mem_cons_self
      | nil =>
          rw [opened_other hform hitems] at hc
          rcases List.mem_append.1 hc with hc | hc
          · exact mem_elementChildren_of_repeated (leaders_subset d n hc)
          · exact (List.mem_filter.1 (List.mem_filter.1 hc).1).1

/-- **An echo is an element below the container.** -/
theorem mem_descendants_of_echo (hd : d.WellFormed) {depth : Nat} {n x : NodeId}
    (hx : x ∈ echoes d depth n) : x ∈ d.descendants n ∧ d.isElement x = true := by
  induction depth generalizing n with
  | zero => exact absurd hx (by simp [echoes])
  | succ depth ih =>
      rcases mem_echoes_succ.1 hx with hx | ⟨c, hc, hx⟩
      · obtain ⟨hchild, hel⟩ := Document.mem_elementChildren.1 (echoesAt_subset d n hx)
        exact ⟨hd.nodes.mem_descendants_of_mem hchild, hel⟩
      · obtain ⟨hbelow, hel⟩ := ih hx
        have hchild := (Document.mem_elementChildren.1 (opened_subset d n hc)).1
        exact ⟨hd.nodes.mem_descendants_trans (hd.nodes.mem_descendants_of_mem hchild) hbelow, hel⟩

/-- What is looked into is no echo. -/
theorem not_mem_echoesAt_of_opened (hd : d.WellFormed) {n c : NodeId} (hc : c ∈ opened d n) :
    c ∉ echoesAt d n := by
  cases hform : d.hasTag "form" n with
  | true =>
      rw [opened_form hform] at hc
      exact absurd hc (by simp)
  | false =>
      cases hitems : items d n with
      | cons first others =>
          rw [opened_list hform hitems, List.mem_singleton] at hc
          have hnodup := nodup_items hd n
          rw [hitems] at hnodup
          rw [echoesAt, instances_list hform hitems, hc]
          simpa using (List.nodup_cons.1 hnodup).1
      | nil =>
          rw [opened_other hform hitems] at hc
          rw [echoesAt, instances_other hform hitems]
          rcases List.mem_append.1 hc with hc | hc
          · obtain ⟨second, others, hgroup⟩ := mem_leaders.1 hc
            exact not_mem_tail_of_leader (nodup_repeated hd n) hgroup rfl
          · exact not_mem_tail_of_single (List.mem_filter.1 hc).1

/-- **What is in a child that is no echo and in an echo** is in an echo of the child, which is looked
into. -/
theorem echo_of_common (hd : d.WellFormed) {depth : Nat} {n c x m : NodeId}
    (hc : c ∈ d.elementChildren n) (hno : c ∉ echoesAt d n) (hx : x ∈ echoes d (depth + 1) n)
    (hmc : m ∈ c :: d.descendants c) (hmx : m ∈ x :: d.descendants x) :
    c ∈ opened d n ∧ x ∈ echoes d depth c := by
  have hchild := (Document.mem_elementChildren.1 hc).1
  rcases mem_echoes_succ.1 hx with hx | ⟨o, ho, hx⟩
  · -- an echo at the container is a sibling
    have hchild' := (Document.mem_elementChildren.1 (echoesAt_subset d n hx)).1
    exact absurd (hd.nodes.child_eq_of_common hchild hchild' hmc hmx ▸ hx) hno
  · have hbelow := (mem_descendants_of_echo hd hx).1
    have hmo : m ∈ o :: d.descendants o := below_trans hd (List.mem_cons_of_mem o hbelow) hmx
    have hchild' := (Document.mem_elementChildren.1 (opened_subset d n ho)).1
    obtain rfl := hd.nodes.child_eq_of_common hchild hchild' hmc hmo
    exact ⟨ho, hx⟩

/-- A container is no echo of its own and in none. -/
theorem not_in_own_echo (hd : d.WellFormed) {depth : Nat} {n x : NodeId}
    (hx : x ∈ echoes d depth n) : n ∉ x :: d.descendants x := by
  intro hnx
  have hbelow := (mem_descendants_of_echo hd hx).1
  rcases List.mem_cons.1 hnx with rfl | hnx
  · exact hd.nodes.not_mem_descendants_self _ hbelow
  · exact hd.nodes.not_mem_descendants_self _ (hd.nodes.mem_descendants_trans hbelow hnx)

/-- A child that is no echo at its container is no echo and in none. -/
theorem child_not_in_echo (hd : d.WellFormed) {depth : Nat} {n c x : NodeId}
    (hc : c ∈ d.elementChildren n) (hno : c ∉ echoesAt d n) (hx : x ∈ echoes d (depth + 1) n) :
    c ∉ x :: d.descendants x := fun hcx =>
  not_in_own_echo hd (echo_of_common hd hc hno hx List.mem_cons_self hcx).2 hcx

/-! ### Where nothing is found -/

theorem surveyAll_eq_nil {find : NodeId → Nat → List Draft × Nat} {nodes : List NodeId} {k : Nat}
    (h : (surveyAll find nodes k).1 = []) : ∀ n ∈ nodes, ∃ k', (find n k').1 = [] := by
  induction nodes generalizing k with
  | nil => exact fun n hn => absurd hn (by simp)
  | cons n rest ih =>
      obtain ⟨hfirst, hothers⟩ := List.append_eq_nil_iff.1 h
      intro m hm
      rcases List.mem_cons.1 hm with rfl | hm
      · exact ⟨k, hfirst⟩
      · exact ih hothers m hm

theorem sortDrafts_eq_nil {drafts : List Draft} (h : sortDrafts drafts = []) : drafts = [] := by
  cases drafts with
  | nil => rfl
  | cons a rest =>
      rw [sortDrafts] at h
      cases hsort : sortDrafts rest with
      | nil => exact absurd h (by rw [hsort]; exact List.cons_ne_nil _ _)
      | cons b others =>
          rw [hsort, insertDraft] at h
          split at h <;> exact absurd h (List.cons_ne_nil _ _)

/-- **Where nothing is found there are no echoes**: every group gives a repeater, and what is found
below counts. -/
theorem echoes_eq_nil {depth : Nat} {n : NodeId} {insideList : Bool} {context : String} {k : Nat}
    (h : (surveyNode (Page.ofDocument d) depth n insideList context k).1 = []) :
    echoes d depth n = [] := by
  induction depth generalizing n insideList context k with
  | zero => rfl
  | succ depth ih =>
      cases hform : d.hasTag "form" n with
      | true => exact echoes_form hform depth
      | false =>
          rw [surveyNode, doc_ofDocument, hform] at h
          cases hitems : items d n with
          | cons first others =>
              rw [hitems] at h
              exact absurd h (List.cons_ne_nil _ _)
          | nil =>
              rw [hitems] at h
              obtain ⟨hgrouped, hothers⟩ := List.append_eq_nil_iff.1 (sortDrafts_eq_nil h)
              have hleaders : leaders d n = [] := by
                refine List.eq_nil_iff_forall_not_mem.2 fun c hc => ?_
                obtain ⟨k', hk'⟩ := surveyAll_eq_nil hgrouped c hc
                exact absurd hk' (List.cons_ne_nil _ _)
              have hrepeated : repeated d n = [] := by
                refine List.eq_nil_iff_forall_not_mem.2 fun group hgroup => ?_
                obtain ⟨first, second, others, rfl⟩ := repeated_cons hgroup
                have hfirst : first ∈ leaders d n := mem_leaders.2 ⟨second, others, hgroup⟩
                rw [hleaders] at hfirst
                exact absurd hfirst (by simp)
              rw [echoes, echoesAt, instances_other hform hitems, hrepeated, List.flatMap_nil,
                List.nil_append, List.flatMap_eq_nil_iff]
              intro c hc
              have hsingle : c ∈ singles d n := by
                rw [opened_other hform hitems, hleaders] at hc
                exact (List.mem_filter.1 hc).1
              obtain ⟨k', hk'⟩ := surveyAll_eq_nil hothers c hsingle
              rw [surveySingle, doc_ofDocument] at hk'
              by_cases hitem : isOpenItem (Page.ofDocument d) c = true
              · rw [if_pos hitem] at hk'
                exact ih hk'
              · have hleaf := ((mem_opened_of_single hform hitems hsingle).1 hc).resolve_left hitem
                simp only [hitem, hleaf, Bool.false_eq_true, if_false] at hk'
                split at hk'
                · next hempty => exact ih (List.isEmpty_iff.1 hempty)
                · exact absurd hk' (List.cons_ne_nil _ _)

end Model

end ThemeCompiler
