/-
**The content model follows the document.**

A container is scanned in passes, and what is found in a list item may be put among the fields
around it.  But each pass looks into other children of the container, since the members of groups
are used when the rest is looked at, and everything below a child is on one side of everything below
another.  So after sorting by the places of the fields themselves all places are in order, and no
element is the source of two fields.  This holds of every call, whatever was used before.

Main definitions:

* `ThemeCompiler.Model.Draft.preorderAll` — the drafts of a forest, parents before children;
* `ThemeCompiler.Model.Gives` — a call of a scan that finds drafts in order and forgets nothing.

Main results:

* `ThemeCompiler.Model.gives_scanNode` — **every call finds drafts in order below its container**;
* `ThemeCompiler.Model.extract_in_order` — **the fields of a page in document order**.
-/

import ThemeCompiler.Proofs.Document.SameTags
import ThemeCompiler.Proofs.Model.Places
import ThemeCompiler.Proofs.Model.Renaming

set_option relaxedAutoImplicit false
set_option autoImplicit false

namespace ThemeCompiler

namespace Model

variable {d : Document} {n : NodeId}

open Draft (placesAll StandsIn)

/-! ### Drafts as they are made -/

theorem tag?_eq_tagOf (h : d.isElement n = true) :
    d.tag? n = some ((Page.ofDocument d).tagOf n) := by
  obtain ⟨tag, htag⟩ := Document.isElement_iff_tag?.1 h
  rw [Page.tagOf, doc_ofDocument, htag]
  rfl

theorem elementChildren_subset : d.elementChildren n ⊆ d.children n := List.filter_sublist.subset

theorem mem_attached_of_child (hd : d.WellFormed) (hn : d.isAttached n = true) {c : NodeId}
    (hc : c ∈ d.elementChildren n) : c ∈ d.attached :=
  hd.mem_attached_of_mem_below ((isAttached_iff hd).1 hn)
    (hd.nodes.mem_descendants_of_mem (elementChildren_subset hc))

/-! The drafts that stand for an instance have no place. -/

theorem exists_itemDraft_eq (p : Page) (first : NodeId) (slug : String) :
    ∃ info, itemDraft p first slug = .mk none info [] := by
  rw [itemDraft]
  split <;> exact ⟨_, rfl⟩

theorem exists_memberDraft_eq (p : Page) (first : NodeId) (slug : String) :
    ∃ info, memberDraft p first slug = .mk none info [] :=
  ⟨_, rfl⟩

section

variable {c : NodeId} (hd : d.WellFormed) (hn : d.isAttached n = true)
  (hc : c ∈ d.elementChildren n)

include hd hn hc

/-- A repeater stands in its first instance. -/
theorem standsIn_repeater {tag : String} (slug : String) (htag : d.tag? c = some tag)
    {found : List Draft} (h : InOrder d c found) {only : Draft}
    (honly : ∃ info, only = .mk none info []) :
    (Draft.make (some ((Page.ofDocument d).position c)) .repeater tag (d.classes c) slug ""
      (if found.isEmpty then [only] else found)).StandsIn d c := by
  obtain ⟨info, rfl⟩ := honly
  have hattached := mem_attached_of_child hd hn hc
  cases found with
  | nil =>
      exact h.standsIn hd hn (elementChildren_subset hc) rfl
        (.standIn hattached htag rfl rfl)
  | cons first rest =>
      exact h.standsIn hd hn (elementChildren_subset hc) rfl
        (.element hattached htag rfl h.sourced)

/-- A container stands in the element it was made from. -/
theorem standsIn_container {nested : List Draft} (h : InOrder d c nested) :
    (containerDraft (Page.ofDocument d) c nested).StandsIn d c :=
  h.standsIn hd hn (elementChildren_subset hc) rfl
    (.element (mem_attached_of_child hd hn hc)
      (tag?_eq_tagOf (Document.mem_elementChildren.1 hc).2) rfl h.sourced)

/-- A leaf stands in the element it was made from. -/
theorem standsIn_leaf {insideList : Bool} {context : String} {draft : Draft}
    (h : leafDraft? (Page.ofDocument d) c insideList context = some draft) :
    draft.StandsIn d c := by
  obtain ⟨kind, content, -, rfl⟩ := leafDraft?_eq_some h
  exact InOrder.nil.standsIn hd hn (elementChildren_subset hc) rfl
    (.element (mem_attached_of_child hd hn hc)
      (tag?_eq_tagOf (Document.mem_elementChildren.1 hc).2) rfl nofun)

end

/-! ### What a scan gives -/

/-- **A call of a scan that finds drafts in order** below its container, and forgets nothing that
was used. -/
structure Gives (d : Document) (n : NodeId) (s : Scan) (result : List Draft × Scan) : Prop where
  drafts : InOrder d n result.1
  mono : s.consumed ⊆ result.2.consumed

/-- A scanner that finds drafts in order, whatever was used. -/
def Orders (d : Document) (scan : Scanner) : Prop :=
  ∀ n insideList context s, d.isAttached n = true → Gives d n s (scan n insideList context s)

theorem consumed_subset_foldl (p : Page) (members : List NodeId) (s : Scan) :
    s.consumed ⊆ (members.foldl (Scan.consumeBelow p) s).consumed :=
  (Scan.Uses.consumeAll p members s).1.mono

/-! ### Forms -/

/-- The draft of a control that was not used. -/
theorem scanControls_cons {p : Page} {s : Scan} (rest : List NodeId) (h : n ∉ s.consumed) :
    ∃ slug k, let others := scanControls p rest ⟨n :: s.consumed, k⟩
      scanControls p (n :: rest) s = (controlDraft p n slug :: others.1, others.2) := by
  rw [scanControls, isConsumed_eq_false h]
  cases p.declaredSlug? n <;> exact ⟨_, _, rfl⟩

/-- **The controls of a form are scanned in their order.** -/
theorem scanControls_places {p : Page} (nodes : List NodeId) (s : Scan) :
    (placesAll (scanControls p nodes s).1).Sublist (nodes.map p.position) ∧
      (∀ a ∈ (scanControls p nodes s).1, ∃ c ∈ nodes, ∃ slug, a = controlDraft p c slug) ∧
      s.consumed ⊆ (scanControls p nodes s).2.consumed := by
  induction nodes generalizing s with
  | nil => exact ⟨.slnil, nofun, List.Subset.refl _⟩
  | cons n rest ih =>
      by_cases hn : n ∈ s.consumed
      · obtain ⟨hplaces, hdrafts, hmono⟩ := ih s
        rw [scanControls, isConsumed_eq_true hn, if_pos rfl]
        refine ⟨hplaces.trans (List.sublist_cons_self ..), fun a ha => ?_, hmono⟩
        obtain ⟨c, hc, hslug⟩ := hdrafts a ha
        exact ⟨c, List.mem_cons_of_mem n hc, hslug⟩
      · obtain ⟨slug, k, hscan⟩ := scanControls_cons (p := p) rest hn
        obtain ⟨hplaces, hdrafts, hmono⟩ := ih ⟨n :: s.consumed, k⟩
        rw [hscan]
        refine ⟨hplaces.cons_cons _, fun a ha => ?_,
          fun m hm => hmono (List.mem_cons_of_mem n hm)⟩
        rcases List.mem_cons.1 ha with rfl | ha
        · exact ⟨n, List.mem_cons_self, slug, rfl⟩
        · obtain ⟨c, hc, hslug⟩ := hdrafts a ha
          exact ⟨c, List.mem_cons_of_mem n hc, hslug⟩

theorem gives_scanForm (hd : d.WellFormed) (hn : d.isAttached n = true) (s : Scan) :
    Gives d n s (scanForm (Page.ofDocument d) n s) := by
  obtain ⟨hplaces, hdrafts, hmono⟩ := scanControls_places (p := Page.ofDocument d) (controls d n) s
  have hsub : controls d n ⊆ d.descendants n := List.filter_sublist.subset
  have hincreasing := List.pairwise_map.2 ((pairwise_position hd hn).sublist
    (List.filter_sublist (p := d.hasTagIn ["input", "textarea", "select"])))
  have hscattered : Scattered d (controls d n)
      (scanControls (Page.ofDocument d) (controls d n) s).1 := by
    refine ⟨fun a ha => ?_, apart_of_increasing (hincreasing.sublist hplaces)⟩
    obtain ⟨c, hc, slug, rfl⟩ := hdrafts a ha
    have hel := Document.isElement_of_hasTagIn (List.mem_filter.1 hc).2
    have hattached := hd.mem_attached_of_mem_below ((isAttached_iff hd).1 hn) (hsub hc)
    exact ⟨c, hc, .element hattached (tag?_eq_tagOf hel) rfl nofun, List.pairwise_singleton ..,
      List.cons_subset.2 ⟨List.mem_cons_self, List.nil_subset _⟩⟩
  exact ⟨hscattered.inOrder hd hsub, fun m hm => List.mem_append_right _ (hmono hm)⟩

/-! ### Lists and groups -/

section

variable {scan : Scanner}

theorem gives_scanList (hd : d.WellFormed) (hscan : Orders d scan) (hn : d.isAttached n = true)
    {s s' : Scan} {draft : Draft}
    (h : scanList (Page.ofDocument d) scan n s = some (draft, s')) : Gives d n s ([draft], s') := by
  rw [scanList, doc_ofDocument] at h
  split at h
  · exact absurd h (by simp)
  next first others hitems =>
    obtain ⟨rfl, rfl⟩ := Prod.mk.inj (Option.some.inj h)
    have hmem : first ∈ (d.elementChildren n).filter (d.hasTag "li") :=
      hitems ▸ List.mem_cons_self
    obtain ⟨hfirst, htag⟩ := List.mem_filter.1 hmem
    have hchild := elementChildren_subset hfirst
    let slug := orElse (Naming.classSlug (d.classes n)) "items"
    have hfound := hscan first true slug (s.consume (first :: others))
      (isAttached_of_child hd hn hchild)
    have hstands := standsIn_repeater hd hn hfirst slug (beq_iff_eq.1 htag) hfound.drafts
      (exists_itemDraft_eq (Page.ofDocument d) first slug)
    refine ⟨(Scattered.singleton hstands).inOrder hd ?_, ?_⟩
    · exact List.cons_subset.2 ⟨hd.nodes.mem_descendants_of_mem hchild, List.nil_subset _⟩
    · exact fun m hm => consumed_subset_foldl _ _ _ (hfound.mono (List.mem_append_right _ hm))

/-- **The groups give their repeaters**, and all of their members are used. -/
theorem scattered_scanMembers (hd : d.WellFormed) (hscan : Orders d scan)
    (hn : d.isAttached n = true) {found : List (List NodeId)}
    (hgroups : ∀ group ∈ found, 1 < group.length) (hsub : found.flatten ⊆ d.elementChildren n)
    (hnodup : found.flatten.Nodup) (s : Scan) :
    Scattered d found.flatten (scanMembers (Page.ofDocument d) scan found s).1 ∧
      s.consumed ⊆ (scanMembers (Page.ofDocument d) scan found s).2.consumed ∧
      found.flatten ⊆ (scanMembers (Page.ofDocument d) scan found s).2.consumed := by
  induction found generalizing s with
  | nil => exact ⟨.nil, List.Subset.refl _, List.nil_subset _⟩
  | cons group rest ih =>
      obtain ⟨first, second, others, rfl⟩ := exists_members (hgroups group List.mem_cons_self)
      rw [List.flatten_cons] at hsub hnodup ⊢
      obtain ⟨hmembers, hrest⟩ := List.append_subset.1 hsub
      obtain ⟨-, hnodup', hdisjoint⟩ := List.nodup_append.1 hnodup
      have hfirst : first ∈ d.elementChildren n := hmembers List.mem_cons_self
      let slug := orElse (Naming.classSlug (d.classes first)) "items"
      have hfound := hscan first false slug (s.consume (first :: second :: others))
        (isAttached_of_child hd hn (elementChildren_subset hfirst))
      have hstands := standsIn_repeater hd hn hfirst slug
        (tag?_eq_tagOf (Document.mem_elementChildren.1 hfirst).2) hfound.drafts
        (exists_memberDraft_eq (Page.ofDocument d) first slug)
      obtain ⟨hscattered, hmono, hused⟩ := ih
        (fun group hgroup => hgroups group (List.mem_cons_of_mem _ hgroup)) hrest hnodup'
        ((first :: second :: others).foldl (Scan.consumeBelow (Page.ofDocument d))
          (scan first false slug (s.consume (first :: second :: others))).2)
      rw [scanMembers_cons]
      have hone : Scattered d (first :: second :: others) _ := (Scattered.singleton hstands).mono
        (List.cons_subset.2 ⟨List.mem_cons_self, List.nil_subset _⟩)
      refine ⟨hone.append hd hn hscattered (fun c hc => elementChildren_subset (hmembers hc))
        (fun c hc => elementChildren_subset (hrest hc)) fun c hc hc' => hdisjoint c hc c hc' rfl,
        fun m hm => ?_, List.append_subset.2 ⟨fun c hc => ?_, hused⟩⟩
      · exact hmono (consumed_subset_foldl _ _ _ (hfound.mono (List.mem_append_right _ hm)))
      · exact hmono ((Scan.Uses.consumeAll _ _ _).2.2 c hc)

/-! ### What is left -/

/-- **What is left is found in the children that were not used.** -/
theorem scattered_scanRemaining (hd : d.WellFormed) (hscan : Orders d scan)
    (hn : d.isAttached n = true) (insideList : Bool) (context : String) {nodes : List NodeId}
    (hsub : nodes ⊆ d.elementChildren n) (hnodup : nodes.Nodup) (s : Scan) :
    let result := scanRemaining (Page.ofDocument d) scan insideList context nodes s
    Scattered d (nodes.filter (· ∉ s.consumed)) result.1 ∧ s.consumed ⊆ result.2.consumed := by
  induction nodes generalizing s with
  | nil => exact ⟨.nil, List.Subset.refl _⟩
  | cons c rest ih =>
      obtain ⟨hc, hrest⟩ := List.cons_subset.1 hsub
      obtain ⟨hnot, hnodup'⟩ := List.nodup_cons.1 hnodup
      by_cases hused : c ∈ s.consumed
      · rw [scanRemaining, isConsumed_eq_true hused, if_pos rfl,
          List.filter_cons_of_neg (by simpa using hused)]
        exact ih hrest hnodup' s
      -- whatever is found in this child, the others are looked at with at least as much used
      have hnext : ∀ {s' : Scan} {drafts : List Draft}, Scattered d [c] drafts →
          s.consumed ⊆ s'.consumed →
          let others := scanRemaining (Page.ofDocument d) scan insideList context rest s'
          Scattered d ((c :: rest).filter (· ∉ s.consumed)) (drafts ++ others.1) ∧
            s.consumed ⊆ others.2.consumed := by
        intro s' drafts hdrafts hmono
        obtain ⟨hothers, hmono'⟩ := ih hrest hnodup' s'
        have hfewer : rest.filter (· ∉ s'.consumed) ⊆ rest.filter (· ∉ s.consumed) := by
          intro m hm
          rw [List.mem_filter, decide_eq_true_eq] at hm ⊢
          exact ⟨hm.1, fun h => hm.2 (hmono h)⟩
        rw [List.filter_cons_of_pos (by simpa using hused)]
        refine ⟨hdrafts.append hd hn (hothers.mono hfewer) ?_ ?_ ?_, fun m hm => hmono' (hmono hm)⟩
        · exact List.cons_subset.2 ⟨elementChildren_subset hc, List.nil_subset _⟩
        · exact fun m hm => elementChildren_subset (hrest (List.mem_filter.1 hm).1)
        · intro m hm hm'
          exact hnot (List.mem_singleton.1 hm ▸ (List.mem_filter.1 hm').1)
      have hattached := isAttached_of_child hd hn (elementChildren_subset hc)
      have hmore : ∀ s' : Scan, s'.consumed ⊆ (s'.consume [c]).consumed := fun s' m hm =>
        List.mem_append_right _ hm
      rw [scanRemaining_cons _ _ _ _ hused]
      split
      · -- a list item that is looked into
        have hnested := hscan c true context s hattached
        exact hnext hnested.drafts.scattered hnested.mono
      split
      · -- a leaf
        cases hleaf : leafDraft? (Page.ofDocument d) c insideList context with
        | none => exact hnext .nil (List.Subset.refl _)
        | some draft => exact hnext (.singleton (standsIn_leaf hd hn hc hleaf)) (hmore s)
      · -- a container
        have hnested := hscan c insideList
          (orElse (Naming.classSlug ((Page.ofDocument d).doc.classes c)) context) s hattached
        dsimp only
        split
        · exact hnext .nil hnested.mono
        · exact hnext (.singleton (standsIn_container hd hn hc hnested.drafts))
            fun m hm => hmore _ (hnested.mono hm)

/-! ### Containers -/

theorem gives_scanChildren (hd : d.WellFormed) (hscan : Orders d scan) (hn : d.isAttached n = true)
    (insideList : Bool) (context : String) (s : Scan) :
    Gives d n s (scanChildren (Page.ofDocument d) scan n insideList context s) := by
  have hbelow : ∀ c ∈ d.elementChildren n, c ∈ d.descendants n := fun c hc =>
    hd.nodes.mem_descendants_of_mem (elementChildren_subset hc)
  have hnodup : (d.elementChildren n).Nodup := (hd.nodes.nodup_children n).filter _
  -- the groups of the children that were not used
  let free := (d.elementChildren n).filter (!s.isConsumed ·)
  let found := ((groups d free).map (·.2)).filter (1 < ·.length)
  have hperm := perm_groups d free
  have hfound : found.flatten.Sublist ((groups d free).map (·.2)).flatten :=
    List.filter_sublist.flatten
  have hsub : found.flatten ⊆ d.elementChildren n := fun c hc =>
    (List.mem_filter.1 (hperm.subset (hfound.subset hc))).1
  obtain ⟨hgrouped, hmono, hused⟩ := scattered_scanMembers hd hscan hn
    (fun group hgroup => by simpa using (List.mem_filter.1 hgroup).2) hsub
    ((hperm.nodup_iff.2 (hnodup.filter _)).sublist hfound) s
  obtain ⟨hremaining, hmono'⟩ := scattered_scanRemaining hd hscan hn insideList context
    (List.Subset.refl (d.elementChildren n)) hnodup
    (scanMembers (Page.ofDocument d) scan found s).2
  have hall := hgrouped.append hd hn hremaining (fun c hc => elementChildren_subset (hsub hc))
    (fun c hc => elementChildren_subset (List.mem_filter.1 hc).1) fun c hc hc' => by
      simpa [hused hc] using (List.mem_filter.1 hc').2
  rw [scanChildren, scanGroups, scanMembers_filter]
  refine ⟨hall.inOrder hd (List.append_subset.2 ⟨fun c hc => hbelow c (hsub hc), fun c hc => ?_⟩),
    fun m hm => hmono' (hmono hm)⟩
  exact hbelow c (List.mem_filter.1 hc).1

end

/-- **Every call finds drafts in order below its container**, at every depth and whatever was used
before. -/
theorem gives_scanNode (hd : d.WellFormed) (depth : Nat) :
    Orders d (scanNode (Page.ofDocument d) depth) := by
  induction depth with
  | zero => exact fun _ _ _ _ _ => ⟨.nil, List.Subset.refl _⟩
  | succ depth ih =>
      intro n insideList context s hn
      rw [scanNode]
      split
      · exact gives_scanForm hd hn s
      split
      · split
        · next draft s' hlist => exact gives_scanList hd ih hn hlist
        · exact gives_scanChildren hd ih hn insideList _ s
      · exact gives_scanChildren hd ih hn insideList _ s

/-! ### The fields of a page -/

namespace Draft

mutual

/-- A draft and the drafts inside of it. -/
def preorder : Draft → List Draft
  | mk place info children => mk place info children :: preorderAll children

/-- **The drafts of a forest**, parents before children. -/
def preorderAll : List Draft → List Draft
  | [] => []
  | a :: rest => preorder a ++ preorderAll rest

end

mutual

theorem map_toField_preorder : ∀ a : Draft, a.preorder.map toField = a.toField.preorder
  | mk place info children => by
      rw [preorder, List.map_cons, map_toField_preorderAll, toField, Field.preorder]

/-- The fields of the drafts of a forest are those of its forest of fields. -/
theorem map_toField_preorderAll : ∀ drafts : List Draft,
    (preorderAll drafts).map toField = Field.preorderAll (toFields drafts)
  | [] => rfl
  | a :: rest => by
      rw [preorderAll, List.map_append, map_toField_preorder, map_toField_preorderAll, toFields,
        Field.preorderAll]

end

mutual

theorem places_eq_filterMap : ∀ a : Draft, a.places = a.preorder.filterMap place
  | mk place info children => by
      rw [places, preorder, placesAll_eq_filterMap]
      cases place <;> rfl

/-- The places of a forest are those of its drafts. -/
theorem placesAll_eq_filterMap : ∀ drafts : List Draft,
    placesAll drafts = (preorderAll drafts).filterMap place
  | [] => rfl
  | a :: rest => by
      rw [placesAll, preorderAll, List.filterMap_append, places_eq_filterMap,
        placesAll_eq_filterMap]

end

end Draft

theorem exists_places_sublist {drafts : List Draft} (h : ∀ a ∈ drafts, a.Sourced d) :
    ∃ positions : List Nat, drafts.map Draft.place = positions.map some ∧
      positions.Sublist (placesAll drafts) := by
  induction drafts with
  | nil => exact ⟨[], rfl, .slnil⟩
  | cons a rest ih =>
      obtain ⟨ha, hrest⟩ := List.forall_mem_cons.1 h
      obtain ⟨x, hx, hplace⟩ := ha.exists_place
      obtain ⟨positions, hmap, hsub⟩ := ih hrest
      refine ⟨x :: positions, by rw [List.map_cons, List.map_cons, hplace, hmap], ?_⟩
      exact (List.singleton_sublist.2 hx).append hsub

/-- **What a call returns is in order**: its drafts have places of their own, which increase and are
below its container. -/
theorem InOrder.exists_positions {drafts : List Draft} (h : InOrder d n drafts) :
    ∃ positions, drafts.map Draft.place = positions.map some ∧ positions.Pairwise (· < ·) ∧
      positions ⊆ (d.descendants n).map (Page.ofDocument d).position := by
  obtain ⟨positions, hmap, hsub⟩ := exists_places_sublist h.sourced
  exact ⟨positions, hmap, h.increasing.sublist hsub, fun _ hx => h.inside (hsub.subset hx)⟩

theorem isAttached_body (hd : d.WellFormed) : d.isAttached (d.body?.getD Arena.root) = true := by
  rw [isAttached_iff hd]
  cases hbody : d.body? with
  | none => exact Or.inl rfl
  | some body =>
      exact Or.inr (List.mem_filter.1 (List.mem_of_head? hbody)).1

/-- **The fields of a page in document order.**  The fields of the content model are those of drafts
that are made from elements, a repeater from the first item of a list or the first member of a group;
parents before children these have increasing places.  And whatever call is made at an attached
container, in whatever state, the drafts that it returns are in order below the container. -/
theorem extract_in_order (hd : d.WellFormed) (maxDepth : Nat) :
    let p := Page.ofDocument d
    let found := drafts maxDepth d
    List.Forall₂ (fun draft f => Renamed draft.toField f) (Draft.preorderAll found)
        (Field.preorderAll (extract maxDepth d)) ∧
      (∀ draft ∈ found, draft.Sourced d) ∧
      (∀ row : Draft, row.Within found → row.info.kind = .repeater →
        ∃ n first others, row.place = some (p.position first) ∧
          (items d n = first :: others ∨ (first :: others) ∈ repeated d n)) ∧
      ((Draft.preorderAll found).filterMap Draft.place).Pairwise (· < ·) ∧
      ∀ depth n insideList context s, d.isAttached n = true →
        let result := (scanNode p depth n insideList context s).1
        InOrder d n result ∧
          ∃ positions, result.map Draft.place = positions.map some ∧ positions.Pairwise (· < ·) ∧
            positions ⊆ (d.descendants n).map p.position := by
  intro p found
  have horder : InOrder d (d.body?.getD Arena.root) found :=
    (gives_scanNode hd maxDepth _ false "" Scan.start (isAttached_body hd)).drafts
  refine ⟨?_, horder.sourced, ?_, ?_, ?_⟩
  · rw [← List.forall₂_map_left_iff, Draft.map_toField_preorderAll]
    exact renamed_extract maxDepth d
  · intro row hrow hkind
    rw [show found = _ from drafts_eq_survey hd maxDepth] at hrow
    obtain ⟨_, n, first, -, hrowOf⟩ := isRowOf_of_within_surveyNode hd hkind hrow
    refine ⟨n, first, ?_⟩
    rcases hrowOf.list_or_group with ⟨others, hitems⟩ | ⟨-, second, others, hgroup⟩
    · exact ⟨others, hrowOf.place_eq, Or.inl hitems⟩
    · exact ⟨second :: others, hrowOf.place_eq, Or.inr hgroup⟩
  · rw [← Draft.placesAll_eq_filterMap]
    exact horder.increasing
  · intro depth n insideList context s hn
    have hresult := (gives_scanNode hd depth n insideList context s hn).drafts
    exact ⟨hresult, hresult.exists_positions⟩

/-- The link of a list item stands beside the text around it, a text without a place stands for the
items of a list. -/
theorem extract_in_order_of_page :
    let d := Document.parse
      "<h2>A</h2><div><li><a href=b>B</a></li><p>C</p></div><ul><li>x</li><li>y</li></ul>"
    d.WellFormed ∧ d.isAttached Arena.root = true ∧
      (Draft.preorderAll (drafts 20 d)).map (fun a => (a.place, a.info.tag)) =
        [(some 3, "h2"), (some 5, "div"), (some 7, "a"), (some 9, "p"), (some 11, "ul"),
          (some 12, "li"), (none, "li")] ∧
      ((Draft.preorderAll (drafts 20 d)).filterMap Draft.place).Pairwise (· < ·) ∧
      InOrder d Arena.root
        (scanNode (Page.ofDocument d) 20 Arena.root false "" Scan.start).1 := by
  intro d
  have hd : d.WellFormed := Document.WellFormed.parse _
  have hroot : d.isAttached Arena.root = true := (isAttached_iff hd).2 (Or.inl rfl)
  obtain ⟨-, -, -, hincreasing, hcalls⟩ := extract_in_order hd 20
  exact ⟨hd, hroot, by decide +kernel, hincreasing,
    (hcalls 20 Arena.root false "" Scan.start hroot).1⟩

end Model

end ThemeCompiler
