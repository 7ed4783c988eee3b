/-
**What a scan finds, without what it remembers.**

A scan remembers the nodes it used.  But it comes to a container before anything below it was used,
and all it uses is in the container.  So the memory only tells the children of one container apart:
those of one structure, of which the first stands for all, and the others.  A survey makes this
choice beforehand and remembers nothing but the number of controls without a name.

Main definitions:

* `ThemeCompiler.Model.items`, `ThemeCompiler.Model.repeated`, `ThemeCompiler.Model.singles` — the items
  of a list, the groups of children of one structure, and the other children;
* `ThemeCompiler.Model.surveyNode` — **the drafts of a container**, found without a memory;
* `ThemeCompiler.Model.Scan.Clear`, `ThemeCompiler.Model.Scan.Uses` — nothing below a node was used;
  what was used between two states.

Main results:

* `ThemeCompiler.Model.perm_groups` — each child is in one group;
* `ThemeCompiler.Model.finds_scanNode` — **a scan finds what the survey finds**, and uses only what is
  in its container;
* `ThemeCompiler.Model.drafts_eq_survey` — the drafts of a page.
-/

import Mathlib.Data.List.Flatten
import ThemeCompiler.Model.Extraction
import ThemeCompiler.Proofs.Document.Steps

set_option relaxedAutoImplicit false
set_option autoImplicit false

namespace ThemeCompiler

namespace Model

@[simp] theorem doc_ofDocument (d : Document) : (Page.ofDocument d).doc = d := rfl

/-! ### What a container is made of -/

/-- The controls of a form. -/
def controls (d : Document) (form : NodeId) : List NodeId :=
  (d.descendants form).filter (d.hasTagIn ["input", "textarea", "select"])

/-- The items of a list. -/
def items (d : Document) (n : NodeId) : List NodeId :=
  if d.hasTagIn ["ul", "ol"] n then (d.elementChildren n).filter (d.hasTag "li") else []

/-- **The groups of a container**: its children of one structure, where there are at least two. -/
def repeated (d : Document) (n : NodeId) : List (List NodeId) :=
  ((groups d (d.elementChildren n)).map (·.2)).filter (1 < ·.length)

/-- The first members of the groups of a container. -/
def leaders (d : Document) (n : NodeId) : List NodeId := (repeated d n).filterMap List.head?

/-- **The children that are in no group.** -/
def singles (d : Document) (n : NodeId) : List NodeId :=
  (d.elementChildren n).filter (· ∉ (repeated d n).flatten)

/-! ### Surveys -/

/-- A function that finds the drafts of a container: inside of a list item or not, in a context, and
after a number of controls without a name. -/
abbrev Surveyor := NodeId → Bool → String → Nat → List Draft × Nat

/-- What is found at the nodes of a list, one after the other. -/
def surveyAll (find : NodeId → Nat → List Draft × Nat) : List NodeId → Nat → List Draft × Nat
  | [], k => ([], k)
  | n :: rest, k =>
      let found := find n k
      let others := surveyAll find rest found.2
      (found.1 ++ others.1, others.2)

/-- The draft of a control, by its name or by a number. -/
def surveyControl (p : Page) (n : NodeId) (k : Nat) : List Draft × Nat :=
  match p.declaredSlug? n with
  | some slug => ([controlDraft p n slug], k)
  | none => ([controlDraft p n ("field_" ++ toString (k + 1))], k + 1)

/-- The repeater of a list, made from its first item. -/
def surveyItem (p : Page) (survey : Surveyor) (list first : NodeId) (k : Nat) : List Draft × Nat :=
  let slug := orElse (Naming.classSlug (p.doc.classes list)) "items"
  let found := survey first true slug k
  let children := if found.1.isEmpty then [itemDraft p first slug] else found.1
  ([Draft.make (some (p.position first)) .repeater "li" (p.doc.classes first) slug "" children],
    found.2)

/-- The repeater of a group, made from its first member. -/
def surveyGroup (p : Page) (survey : Surveyor) (first : NodeId) (k : Nat) : List Draft × Nat :=
  let classes := p.doc.classes first
  let slug := orElse (Naming.classSlug classes) "items"
  let found := survey first false slug k
  let children := if found.1.isEmpty then [memberDraft p first slug] else found.1
  ([Draft.make (some (p.position first)) .repeater (p.tagOf first) classes slug "" children],
    found.2)

/-- Whether a list item is looked into because something in it can be clicked. -/
def isOpenItem (p : Page) (n : NodeId) : Bool := p.doc.hasTag "li" n && (p.clickable? n).isSome

/-- What is found at a child that is in no group: the fields of a list item, a leaf, or a container
that holds something. -/
def surveySingle (p : Page) (survey : Surveyor) (insideList : Bool) (context : String) (n : NodeId)
    (k : Nat) : List Draft × Nat :=
  if isOpenItem p n then survey n true context k
  else if p.doc.hasTagIn leafTags n then ((leafDraft? p n insideList context).toList, k)
  else
    let nested := survey n insideList (orElse (Naming.classSlug (p.doc.classes n)) context) k
    (if nested.1.isEmpty then [] else [containerDraft p n nested.1], nested.2)

/-- **The drafts of a container**, found without a memory. -/
def surveyNode (p : Page) : Nat → Surveyor
  | 0, _, _, _, k => ([], k)
  | depth + 1, n, insideList, context, k =>
      let survey := surveyNode p depth
      let context := orElse (Naming.classSlug (p.doc.classes n)) context
      if p.doc.hasTag "form" n then
        let found := surveyAll (surveyControl p) (controls p.doc n) k
        (sortDrafts found.1, found.2)
      else match items p.doc n with
        | first :: _ => surveyItem p survey n first k
        | [] =>
            let grouped := surveyAll (surveyGroup p survey) (leaders p.doc n) k
            let others := surveyAll (surveySingle p survey insideList context) (singles p.doc n)
              grouped.2
            (sortDrafts (grouped.1 ++ others.1), others.2)

/-! ### Groups -/

variable {d : Document} {p : Page}

theorem perm_addMember (sig : String) (n : NodeId) (found : List (String × List NodeId)) :
    ((addMember sig n found).map (·.2)).flatten.Perm (n :: (found.map (·.2)).flatten) := by
  induction found with
  | nil => exact List.Perm.refl _
  | cons group rest ih =>
      rw [addMember]
      split
      · simp only [List.map_cons, List.flatten_cons, List.append_assoc]
        exact List.perm_middle
      · simp only [List.map_cons, List.flatten_cons]
        exact (ih.append_left _).trans List.perm_middle

/-- **Each node of a list is in one of its groups**, once. -/
theorem perm_groups (d : Document) (nodes : List NodeId) :
    ((groups d nodes).map (·.2)).flatten.Perm nodes := by
  have hfold : ∀ (nodes : List NodeId) (found : List (String × List NodeId)),
      ((nodes.foldl (fun found n => addMember (signature d n) n found) found).map
        (·.2)).flatten.Perm (nodes ++ (found.map (·.2)).flatten) := by
    intro nodes
    induction nodes with
    | nil => exact fun found => List.Perm.refl _
    | cons n rest ih =>
        intro found
        exact ((ih _).trans ((perm_addMember ..).append_left rest)).trans List.perm_middle
  exact (hfold nodes []).trans (by simp)

theorem sublist_repeated (d : Document) (n : NodeId) :
    (repeated d n).flatten.Sublist ((groups d (d.elementChildren n)).map (·.2)).flatten :=
  List.filter_sublist.flatten

theorem mem_elementChildren_of_repeated {n c : NodeId} (hc : c ∈ (repeated d n).flatten) :
    c ∈ d.elementChildren n :=
  (perm_groups d _).subset ((sublist_repeated d n).subset hc)

/-! ### Children of one node -/

/-- What is in something in a node is in the node. -/
theorem below_trans (hd : d.WellFormed) {n m k : NodeId} (hm : m ∈ n :: d.descendants n)
    (hk : k ∈ m :: d.descendants m) : k ∈ n :: d.descendants n := by
  rcases List.mem_cons.1 hm with rfl | hm
  · exact hk
  · refine List.mem_cons_of_mem n ?_
    rcases List.mem_cons.1 hk with rfl | hk
    · exact hm
    · exact hd.nodes.mem_descendants_trans hm hk

/-- **Two nodes with nothing in common**: neither is the other or below it. -/
def Separate (d : Document) (a b : NodeId) : Prop :=
  ∀ m ∈ a :: d.descendants a, m ∉ b :: d.descendants b

theorem Separate.symm {a b : NodeId} (h : Separate d a b) : Separate d b a :=
  fun m hmb hma => h m hma hmb

/-- Different children of one node have nothing in common. -/
theorem separate_children (hd : d.WellFormed) {n a b : NodeId} (ha : a ∈ d.children n)
    (hb : b ∈ d.children n) (hne : a ≠ b) : Separate d a b :=
  fun _ hma hmb => hne (hd.nodes.child_eq_of_common ha hb hma hmb)

theorem pairwise_elementChildren (hd : d.WellFormed) (n : NodeId) :
    (d.elementChildren n).Pairwise (Separate d) := by
  refine List.Pairwise.sublist List.filter_sublist (List.Pairwise.imp_of_mem ?_
    (hd.nodes.nodup_children n))
  exact fun ha hb hne => separate_children hd ha hb hne

theorem pairwise_repeated (hd : d.WellFormed) (n : NodeId) :
    (repeated d n).flatten.Pairwise (Separate d) :=
  (((perm_groups d (d.elementChildren n)).pairwise_iff Separate.symm).2
    (pairwise_elementChildren hd n)).sublist (sublist_repeated d n)

/-! ### What a scan uses -/

/-- **Nothing below a node was used.** -/
def Scan.Clear (d : Document) (s : Scan) (n : NodeId) : Prop :=
  ∀ m ∈ d.descendants n, m ∉ s.consumed

/-- **What was used between two states** is among some nodes. -/
structure Scan.Uses (nodes : List NodeId) (s s' : Scan) : Prop where
  mono : ∀ m ∈ s.consumed, m ∈ s'.consumed
  only : ∀ m ∈ s'.consumed, m ∈ s.consumed ∨ m ∈ nodes

namespace Scan.Uses

variable {nodes more : List NodeId} {s s' s'' : Scan}

theorem refl (s : Scan) : Uses nodes s s := ⟨fun _ hm => hm, fun _ hm => Or.inl hm⟩

theorem trans (h : Uses nodes s s') (h' : Uses nodes s' s'') : Uses nodes s s'' where
  mono m hm := h'.mono m (h.mono m hm)
  only m hm := (h'.only m hm).elim (h.only m) Or.inr

theorem weaken (h : Uses nodes s s') (hsub : nodes ⊆ more) : Uses more s s' where
  mono := h.mono
  only m hm := (h.only m hm).imp_right fun hmem => hsub hmem

theorem consume (s : Scan) (hsub : more ⊆ nodes) : Uses nodes s (s.consume more) where
  mono _ hm := List.mem_append_right _ hm
  only _ hm := (List.mem_append.1 hm).symm.imp_right fun hmem => hsub hmem

/-- Several nodes are used with all that is below them. -/
theorem consumeAll (p : Page) (members : List NodeId) (s : Scan) :
    Uses (members.flatMap fun n => n :: p.doc.descendants n) s
        (members.foldl (Scan.consumeBelow p) s) ∧
      (members.foldl (Scan.consumeBelow p) s).fallbacks = s.fallbacks ∧
      ∀ n ∈ members, n ∈ (members.foldl (Scan.consumeBelow p) s).consumed := by
  induction members generalizing s with
  | nil => exact ⟨refl s, rfl, by simp⟩
  | cons n rest ih =>
      obtain ⟨huses, hfallbacks, hmem⟩ := ih (s.consumeBelow p n)
      rw [List.flatMap_cons]
      refine ⟨(consume s (List.subset_append_left _ _)).trans
        (huses.weaken (List.subset_append_right _ _)), hfallbacks, fun m hm => ?_⟩
      rcases List.mem_cons.1 hm with rfl | hm
      · exact huses.mono m (List.mem_append_left _ List.mem_cons_self)
      · exact hmem m hm

/-- Where nothing else was used a node stays clear. -/
theorem clear {n : NodeId} (h : Uses nodes s s') (hs : s.Clear d n)
    (hapart : ∀ m ∈ d.descendants n, m ∉ nodes) : s'.Clear d n :=
  fun m hm hused => (h.only m hused).elim (hs m hm) (hapart m hm)

end Scan.Uses

/-- **A scan from a state finds what a survey found**, and uses only some nodes. -/
structure Finds (nodes : List NodeId) (found : List Draft × Nat) (s : Scan)
    (result : List Draft × Scan) : Prop where
  drafts : result.1 = found.1
  fallbacks : result.2.fallbacks = found.2
  uses : Scan.Uses nodes s result.2

/-- What is found after something else was, for which other nodes were used. -/
theorem Finds.after {before nodes : List NodeId} {found : List Draft × Nat} {s s' : Scan}
    {result : List Draft × Scan} (huses : Scan.Uses before s s') (h : Finds nodes found s' result)
    (first : List Draft) :
    Finds (before ++ nodes) (first ++ found.1, found.2) s (first ++ result.1, result.2) where
  drafts := congrArg (first ++ ·) h.drafts
  fallbacks := h.fallbacks
  uses := (huses.weaken (List.subset_append_left _ _)).trans
    (h.uses.weaken (List.subset_append_right _ _))

/-- **A scanner that finds what a surveyor finds** in every container that is clear. -/
def Follows (p : Page) (survey : Surveyor) (scan : Scanner) : Prop :=
  ∀ n insideList context s, s.Clear p.doc n →
    Finds (n :: p.doc.descendants n) (survey n insideList context s.fallbacks) s
      (scan n insideList context s)

theorem isConsumed_eq_false {s : Scan} {n : NodeId} (h : n ∉ s.consumed) :
    s.isConsumed n = false := by
  rw [Scan.isConsumed, List.contains_eq_mem, decide_eq_false h]

theorem isConsumed_eq_true {s : Scan} {n : NodeId} (h : n ∈ s.consumed) :
    s.isConsumed n = true := by
  rw [Scan.isConsumed, List.contains_eq_mem, decide_eq_true h]

/-! ### Forms -/

theorem finds_scanControls {nodes : List NodeId} (hnodup : nodes.Nodup) {s : Scan}
    (hfree : ∀ m ∈ nodes, m ∉ s.consumed) :
    Finds nodes (surveyAll (surveyControl p) nodes s.fallbacks) s (scanControls p nodes s) := by
  induction nodes generalizing s with
  | nil => exact ⟨rfl, rfl, Scan.Uses.refl s⟩
  | cons n rest ih =>
      obtain ⟨hnot, hrest⟩ := List.nodup_cons.1 hnodup
      have hlater : ∀ k, Finds rest (surveyAll (surveyControl p) rest k) ⟨n :: s.consumed, k⟩
          (scanControls p rest ⟨n :: s.consumed, k⟩) := by
        refine fun k => ih (s := ⟨n :: s.consumed, k⟩) hrest fun m hm hused => ?_
        rcases List.mem_cons.1 hused with rfl | hused
        · exact hnot hm
        · exact hfree m (List.mem_cons_of_mem n hm) hused
      have huses : ∀ k, Scan.Uses [n] s ⟨n :: s.consumed, k⟩ := fun k =>
        ⟨fun m hm => List.mem_cons_of_mem n hm, fun m hm =>
          (List.mem_cons.1 hm).symm.imp_right List.mem_singleton.2⟩
      rw [scanControls, isConsumed_eq_false (hfree n List.mem_cons_self), surveyAll, surveyControl]
      cases hslug : p.declaredSlug? n with
      | some slug => exact (hlater s.fallbacks).after (huses _) [controlDraft p n slug]
      | none =>
          exact (hlater (s.fallbacks + 1)).after (huses _)
            [controlDraft p n ("field_" ++ toString (s.fallbacks + 1))]

theorem finds_scanForm (hd : p.doc.WellFormed) {form : NodeId} {s : Scan}
    (hclear : s.Clear p.doc form) :
    let found := surveyAll (surveyControl p) (controls p.doc form) s.fallbacks
    Finds (form :: p.doc.descendants form) (sortDrafts found.1, found.2) s (scanForm p form s) := by
  have hsub : controls p.doc form ⊆ p.doc.descendants form := List.filter_sublist.subset
  have h := finds_scanControls (p := p) ((hd.nodes.nodup_descendants form).filter _)
    fun m hm => hclear m (hsub hm)
  exact ⟨congrArg sortDrafts h.drafts, h.fallbacks,
    (h.uses.weaken fun m hm => List.mem_cons_of_mem form (hsub hm)).trans
      (Scan.Uses.consume _ (List.Subset.refl _))⟩

/-! ### Instances -/

/-- What is in children is below their parent. -/
theorem flatMap_subset_descendants (hd : d.WellFormed) {n : NodeId} {nodes : List NodeId}
    (hsub : nodes ⊆ d.children n) :
    (nodes.flatMap fun c => c :: d.descendants c) ⊆ n :: d.descendants n := by
  intro m hm
  obtain ⟨c, hc, hm⟩ := List.mem_flatMap.1 hm
  exact below_trans hd (List.mem_cons_of_mem n (hd.nodes.mem_descendants_of_mem (hsub hc))) hm

theorem clear_child (hd : d.WellFormed) {n c : NodeId} {s : Scan} (hclear : s.Clear d n)
    (hc : c ∈ d.children n) : s.Clear d c := fun m hm =>
  hclear m (hd.nodes.mem_descendants_trans (hd.nodes.mem_descendants_of_mem hc) hm)

/-- **The first of some instances is looked into**, after all of them were used, and then they are
used with all that is in them. -/
theorem finds_instances (hd : p.doc.WellFormed) {survey : Surveyor} {scan : Scanner}
    (hscan : Follows p survey scan) {first : NodeId} {others : List NodeId}
    (hsep : (first :: others).Pairwise (Separate p.doc)) {s : Scan} (hclear : s.Clear p.doc first)
    (insideList : Bool) (context : String) :
    let inner := scan first insideList context (s.consume (first :: others))
    let s' := (first :: others).foldl (Scan.consumeBelow p) inner.2
    Finds ((first :: others).flatMap fun c => c :: p.doc.descendants c)
        (survey first insideList context s.fallbacks) s (inner.1, s') ∧
      ∀ c ∈ first :: others, c ∈ s'.consumed := by
  -- the instances are used before the first one is looked into, but nothing below it is
  have hinner := hscan first insideList context (s.consume (first :: others)) fun m hm hused => by
    rcases List.mem_append.1 hused with hmember | hused
    · rcases List.mem_cons.1 hmember with rfl | hmember
      · exact hd.nodes.not_mem_descendants_self m hm
      · exact (List.pairwise_cons.1 hsep).1 m hmember m (List.mem_cons_of_mem first hm)
          List.mem_cons_self
    · exact hclear m hm hused
  obtain ⟨hall, hfallbacks, hconsumed⟩ := Scan.Uses.consumeAll p (first :: others)
    (scan first insideList context (s.consume (first :: others))).2
  have hmark : Scan.Uses ((first :: others).flatMap fun c => c :: p.doc.descendants c) s
      (s.consume (first :: others)) :=
    Scan.Uses.consume s fun m hm => List.mem_flatMap.2 ⟨m, hm, List.mem_cons_self⟩
  exact ⟨⟨hinner.drafts, hfallbacks.trans hinner.fallbacks,
    (hmark.trans (hinner.uses.weaken (List.subset_append_left _ _))).trans hall⟩, hconsumed⟩

/-! ### Lists -/

theorem scanList_nil {scan : Scanner} {list : NodeId} {s : Scan}
    (h : (p.doc.elementChildren list).filter (p.doc.hasTag "li") = []) :
    scanList p scan list s = none := by
  rw [scanList, h]

theorem finds_scanList (hd : p.doc.WellFormed) {survey : Surveyor} {scan : Scanner}
    (hscan : Follows p survey scan) {list first : NodeId} {others : List NodeId} {s : Scan}
    (hclear : s.Clear p.doc list)
    (hitems : (p.doc.elementChildren list).filter (p.doc.hasTag "li") = first :: others) :
    ∃ draft s', scanList p scan list s = some (draft, s') ∧
      Finds (list :: p.doc.descendants list) (surveyItem p survey list first s.fallbacks) s
        ([draft], s') := by
  have hsub : first :: others ⊆ p.doc.children list := fun m hm =>
    (Document.mem_elementChildren.1 (List.mem_filter.1 (hitems ▸ hm)).1).1
  have hsep : (first :: others).Pairwise (Separate p.doc) :=
    hitems ▸ (pairwise_elementChildren hd list).filter _
  have h := (finds_instances hd hscan hsep (clear_child hd hclear (hsub List.mem_cons_self)) true
    (orElse (Naming.classSlug (p.doc.classes list)) "items")).1
  rw [scanList, hitems]
  refine ⟨_, _, rfl, ?_, h.fallbacks, h.uses.weaken (flatMap_subset_descendants hd hsub)⟩
  simp only [surveyItem, ← h.drafts]

/-! ### Groups -/

theorem exists_members {group : List NodeId} (h : 1 < group.length) :
    ∃ first second others, group = first :: second :: others := by
  match group, h with
  | first :: second :: others, _ => exact ⟨first, second, others, rfl⟩

/-- The repeater of a group, with the other state. -/
theorem scanMembers_cons (scan : Scanner) (first second : NodeId) (others : List NodeId)
    (rest : List (List NodeId)) (s : Scan) :
    scanMembers p scan ((first :: second :: others) :: rest) s =
      let members := first :: second :: others
      let slug := orElse (Naming.classSlug (p.doc.classes first)) "items"
      let inner := scan first false slug (s.consume members)
      let more := scanMembers p scan rest (members.foldl (Scan.consumeBelow p) inner.2)
      (Draft.make (some (p.position first)) .repeater (p.tagOf first) (p.doc.classes first) slug ""
        (if inner.1.isEmpty then [memberDraft p first slug] else inner.1) :: more.1, more.2) := rfl

/-- Groups with a single member make no repeater. -/
theorem scanMembers_filter (scan : Scanner) (found : List (List NodeId)) (s : Scan) :
    scanMembers p scan found s = scanMembers p scan (found.filter (1 < ·.length)) s := by
  induction found generalizing s with
  | nil => rfl
  | cons group rest ih =>
      match group with
      | [] => exact ih s
      | [_] => exact ih s
      | first :: second :: others =>
          rw [List.filter_cons_of_pos (by simp), scanMembers_cons, scanMembers_cons]
          simp only [ih]

/-- **The groups give their repeaters**, and all of their members are used. -/
theorem finds_scanMembers (hd : p.doc.WellFormed) {survey : Surveyor} {scan : Scanner}
    (hscan : Follows p survey scan) {found : List (List NodeId)}
    (hgroups : ∀ group ∈ found, 1 < group.length)
    (hsep : found.flatten.Pairwise (Separate p.doc)) {s : Scan}
    (hclear : ∀ c ∈ found.flatten, s.Clear p.doc c) :
    Finds (found.flatten.flatMap fun c => c :: p.doc.descendants c)
        (surveyAll (surveyGroup p survey) (found.filterMap List.head?) s.fallbacks) s
        (scanMembers p scan found s) ∧
      ∀ c ∈ found.flatten, c ∈ (scanMembers p scan found s).2.consumed := by
  induction found generalizing s with
  | nil => exact ⟨⟨rfl, rfl, Scan.Uses.refl s⟩, by simp⟩
  | cons group rest ih =>
      obtain ⟨first, second, others, rfl⟩ := exists_members (hgroups group List.mem_cons_self)
      rw [List.flatten_cons] at hsep hclear ⊢
      obtain ⟨hmembers, hrest, hcross⟩ := List.pairwise_append.1 hsep
      obtain ⟨hfirst, hconsumed⟩ := finds_instances hd hscan hmembers
        (hclear first (List.mem_append_left _ List.mem_cons_self)) false
        (orElse (Naming.classSlug (p.doc.classes first)) "items")
      obtain ⟨hothers, hmem⟩ := ih (fun group hgroup => hgroups group (List.mem_cons_of_mem _ hgroup))
        hrest fun c hc => hfirst.uses.clear (hclear c (List.mem_append_right _ hc))
          fun m hm hmem => by
            obtain ⟨x, hx, hmx⟩ := List.mem_flatMap.1 hmem
            exact hcross x hx c hc m hmx (List.mem_cons_of_mem c hm)
      rw [hfirst.fallbacks] at hothers
      rw [scanMembers_cons, List.flatMap_append]
      refine ⟨?_, fun c hc => ?_⟩
      · simp only [List.filterMap_cons, List.head?_cons, surveyAll, surveyGroup, ← hfirst.drafts]
        exact hothers.after hfirst.uses [_]
      · rcases List.mem_append.1 hc with hc | hc
        · exact hothers.uses.mono c (hconsumed c hc)
        · exact hmem c hc

/-! ### Leaves and containers -/

/-- What is looked at of a child that was not used. -/
theorem scanRemaining_cons (scan : Scanner) (insideList : Bool) (context : String) {n : NodeId}
    (rest : List NodeId) {s : Scan} (h : n ∉ s.consumed) :
    scanRemaining p scan insideList context (n :: rest) s =
      let others := scanRemaining p scan insideList context rest
      if isOpenItem p n then
        let nested := scan n true context s
        (nested.1 ++ (others nested.2).1, (others nested.2).2)
      else if p.doc.hasTagIn leafTags n then
        match leafDraft? p n insideList context with
        | some draft => (draft :: (others (s.consume [n])).1, (others (s.consume [n])).2)
        | none => others s
      else
        let nested := scan n insideList (orElse (Naming.classSlug (p.doc.classes n)) context) s
        if nested.1.isEmpty then others nested.2
        else (containerDraft p n nested.1 :: (others (nested.2.consume [n])).1,
          (others (nested.2.consume [n])).2) := by
  rw [scanRemaining, isConsumed_eq_false h]
  rfl

/-- What is looked at of the other children, one after the other. -/
theorem finds_scanRemaining {survey : Surveyor} {scan : Scanner} (hscan : Follows p survey scan)
    (insideList : Bool) (context : String) (used : List NodeId) {nodes : List NodeId}
    (hsep : nodes.Pairwise (Separate p.doc)) {s : Scan} (hused : ∀ c ∈ used, c ∈ s.consumed)
    (hfree : ∀ c ∈ nodes, c ∉ used → c ∉ s.consumed ∧ s.Clear p.doc c) :
    Finds (nodes.flatMap fun c => c :: p.doc.descendants c)
      (surveyAll (surveySingle p survey insideList context) (nodes.filter (· ∉ used)) s.fallbacks) s
      (scanRemaining p scan insideList context nodes s) := by
  induction nodes generalizing s with
  | nil => exact ⟨rfl, rfl, Scan.Uses.refl s⟩
  | cons n rest ih =>
      obtain ⟨hn, hrest⟩ := List.pairwise_cons.1 hsep
      have hlater := fun c hc => hfree c (List.mem_cons_of_mem n hc)
      rw [List.flatMap_cons]
      by_cases hmem : n ∈ used
      · rw [scanRemaining, isConsumed_eq_true (hused n hmem), if_pos rfl,
          List.filter_cons_of_neg (by simpa using hmem)]
        have h := ih hrest hused hlater
        exact ⟨h.drafts, h.fallbacks, h.uses.weaken (List.subset_append_right _ _)⟩
      · obtain ⟨hnot, hclear⟩ := hfree n List.mem_cons_self hmem
        -- whatever is used of this child, the others are as they were
        have hnext : ∀ {s' : Scan}, Scan.Uses (n :: p.doc.descendants n) s s' →
            ∀ first, Finds ((n :: p.doc.descendants n) ++
                rest.flatMap fun c => c :: p.doc.descendants c)
              (let others := surveyAll (surveySingle p survey insideList context)
                (rest.filter (· ∉ used)) s'.fallbacks
              (first ++ others.1, others.2)) s
              (let others := scanRemaining p scan insideList context rest s'
              (first ++ others.1, others.2)) := by
          intro s' huses
          refine (ih hrest (fun c hc => huses.mono c (hused c hc)) fun c hc hcu => ?_).after huses
          obtain ⟨hcs, hcclear⟩ := hlater c hc hcu
          refine ⟨fun hcs' => ?_, huses.clear hcclear fun m hm hmn => ?_⟩
          · exact (huses.only c hcs').elim hcs fun hcn => hn c hc c hcn List.mem_cons_self
          · exact hn c hc m hmn (List.mem_cons_of_mem c hm)
        have hitself : ∀ s' : Scan, Scan.Uses (n :: p.doc.descendants n) s' (s'.consume [n]) :=
          fun s' => Scan.Uses.consume s' (by simp)
        rw [scanRemaining_cons _ _ _ _ hnot, List.filter_cons_of_pos (by simpa using hmem), surveyAll,
          surveySingle]
        by_cases hopen : isOpenItem p n = true
        · have hnested := hscan n true context s hclear
          simp only [hopen, if_true, ← hnested.drafts, ← hnested.fallbacks]
          exact hnext hnested.uses _
        by_cases hleaf : p.doc.hasTagIn leafTags n = true
        · simp only [hopen, hleaf, if_true, if_false, Bool.false_eq_true]
          cases leafDraft? p n insideList context with
          | none => exact hnext (Scan.Uses.refl s) []
          | some draft => exact hnext (hitself s) [draft]
        · have hnested := hscan n insideList
            (orElse (Naming.classSlug (p.doc.classes n)) context) s hclear
          simp only [hopen, hleaf, if_false, Bool.false_eq_true, ← hnested.drafts,
            ← hnested.fallbacks]
          split
          · exact hnext hnested.uses []
          · exact hnext (hnested.uses.trans (hitself _)) [_]

/-! ### Containers -/

/-- Before anything in a container is used its groups are those of all of its children. -/
theorem scanGroups_eq (hd : p.doc.WellFormed) (scan : Scanner) {n : NodeId} {s : Scan}
    (hclear : s.Clear p.doc n) :
    scanGroups p scan (p.doc.elementChildren n) s = scanMembers p scan (repeated p.doc n) s := by
  have hall : (p.doc.elementChildren n).filter (!s.isConsumed ·) = p.doc.elementChildren n := by
    refine List.filter_eq_self.2 fun c hc => ?_
    have hbelow := hd.nodes.mem_descendants_of_mem (Document.mem_elementChildren.1 hc).1
    rw [isConsumed_eq_false (hclear c hbelow)]
    rfl
  rw [scanGroups, hall, scanMembers_filter, repeated]

theorem finds_scanChildren (hd : p.doc.WellFormed) {survey : Surveyor} {scan : Scanner}
    (hscan : Follows p survey scan) (n : NodeId) (insideList : Bool) (context : String) {s : Scan}
    (hclear : s.Clear p.doc n) :
    let grouped := surveyAll (surveyGroup p survey) (leaders p.doc n) s.fallbacks
    let others := surveyAll (surveySingle p survey insideList context) (singles p.doc n) grouped.2
    Finds (n :: p.doc.descendants n) (sortDrafts (grouped.1 ++ others.1), others.2) s
      (scanChildren p scan n insideList context s) := by
  have hchild : ∀ c ∈ p.doc.elementChildren n, c ∈ p.doc.children n := fun c hc =>
    (Document.mem_elementChildren.1 hc).1
  have hused : ∀ c ∈ (repeated p.doc n).flatten, c ∈ p.doc.children n := fun c hc =>
    hchild c (mem_elementChildren_of_repeated hc)
  have hbelow : ∀ c ∈ p.doc.children n, s.Clear p.doc c := fun c hc =>
    clear_child hd hclear hc
  obtain ⟨hgrouped, hconsumed⟩ := finds_scanMembers hd hscan
    (fun group hgroup => by simpa using (List.mem_filter.1 hgroup).2) (pairwise_repeated hd n)
    fun c hc => hbelow c (hused c hc)
  have hothers := finds_scanRemaining hscan insideList context _ (pairwise_elementChildren hd n)
    hconsumed fun c hc hcu => by
      -- a child that is in no group has nothing in common with the members
      have hapart : ∀ m ∈ c :: p.doc.descendants c,
          m ∉ (repeated p.doc n).flatten.flatMap fun x => x :: p.doc.descendants x := by
        intro m hm hmem
        obtain ⟨x, hx, hmx⟩ := List.mem_flatMap.1 hmem
        exact separate_children hd (hchild c hc) (hused x hx) (fun hcx => hcu (hcx ▸ hx)) m hm hmx
      refine ⟨fun hcs => ?_, hgrouped.uses.clear (hbelow c (hchild c hc)) fun m hm =>
        hapart m (List.mem_cons_of_mem c hm)⟩
      rcases hgrouped.uses.only c hcs with hcs | hcs
      · exact hclear c (hd.nodes.mem_descendants_of_mem (hchild c hc)) hcs
      · exact hapart c List.mem_cons_self hcs
  rw [hgrouped.fallbacks] at hothers
  have huses := (hgrouped.uses.weaken (flatMap_subset_descendants hd hused)).trans
    (hothers.uses.weaken (flatMap_subset_descendants hd hchild))
  rw [scanChildren, scanGroups_eq hd scan hclear]
  exact ⟨congrArg sortDrafts (congrArg₂ (· ++ ·) hgrouped.drafts hothers.drafts),
    hothers.fallbacks, huses⟩

/-- **A scan finds what the survey finds**, at every depth. -/
theorem finds_scanNode (hd : p.doc.WellFormed) (depth : Nat) :
    Follows p (surveyNode p depth) (scanNode p depth) := by
  induction depth with
  | zero => exact fun n _ _ s _ => ⟨rfl, rfl, Scan.Uses.refl s⟩
  | succ depth ih =>
      intro n insideList context s hclear
      rw [scanNode, surveyNode]
      by_cases hform : p.doc.hasTag "form" n = true
      · simp only [hform, if_true]
        exact finds_scanForm hd hclear
      by_cases hlist : p.doc.hasTagIn ["ul", "ol"] n = true
      · simp only [hform, hlist, items, if_true, if_false, Bool.false_eq_true]
        cases hitems : (p.doc.elementChildren n).filter (p.doc.hasTag "li") with
        | nil =>
            rw [scanList_nil hitems]
            exact finds_scanChildren hd ih n insideList _ hclear
        | cons first others =>
            obtain ⟨draft, s', hscan, hfinds⟩ := finds_scanList hd ih hclear hitems
            rw [hscan]
            exact hfinds
      · simp only [hform, hlist, items, if_false, Bool.false_eq_true]
        exact finds_scanChildren hd ih n insideList _ hclear

/-- **The drafts of a page** are those of the survey. -/
theorem drafts_eq_survey {d : Document} (hd : d.WellFormed) (maxDepth : Nat) :
    drafts maxDepth d =
      (surveyNode (Page.ofDocument d) maxDepth (d.body?.getD Arena.root) false "" 0).1 :=
  (finds_scanNode (p := Page.ofDocument d) hd maxDepth _ _ _ Scan.start
    fun _ _ => List.not_mem_nil).drafts

end Model

end ThemeCompiler
