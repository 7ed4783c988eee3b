/-
**Only the first instances count.**

Two pages with the same tree of tags have the same content model when they agree beside the instances
after the first one: in these the texts and the attributes may differ as they like, down to the
comments and to how many texts there are; only the classes of the instances themselves, by which they
are grouped, must be the same.  The reason is that a survey of one page can be followed step by step
on the other one.  What is looked into is the same on both, so the drafts match: they have the same
fields and stand in corresponding places.

Main definitions:

* `ThemeCompiler.Model.AgreeBut` — **what two documents have in common** beside some subtrees;
* `ThemeCompiler.Model.Matches`, `ThemeCompiler.Model.Told` — drafts of the same fields in
  corresponding places.

Main results:

* `ThemeCompiler.Model.AgreeBut.child` — what is known of a container is known of what it is made of;
* `ThemeCompiler.Model.repeated_map` — **the same groups are formed**;
* `ThemeCompiler.Model.told_surveyNode` — **a survey finds matching drafts** at every depth;
* `ThemeCompiler.Model.extract_of_agreeBut` — **the content models are the same**, identifiers and
  component types included.
-/

import Mathlib.Data.List.Forall2
import ThemeCompiler.Proofs.Document.SameTags
import ThemeCompiler.Proofs.Model.Echoes

set_option relaxedAutoImplicit false
set_option autoImplicit false

namespace ThemeCompiler

namespace Model

open Document (SameTags)

variable {f : NodeId → NodeId} {d e : Document}

/-! ### Agreement beside some subtrees -/

/-- **What two documents have in common** below a node, beside some subtrees: the values of the nodes
and what is inside of them.  Of the subtrees only the classes of their tops are the same. -/
structure AgreeBut (f : NodeId → NodeId) (d e : Document) (aside : List NodeId) (n : NodeId) :
    Prop where
  value?_eq : ∀ m ∈ n :: d.descendants n, (∀ x ∈ aside, m ∉ x :: d.descendants x) →
    e.nodes.value? (f m) = d.nodes.value? m
  children_eq : ∀ m ∈ n :: d.descendants n, (∀ x ∈ aside, m ∉ x :: d.descendants x) →
    e.children (f m) = (d.children m).map f
  classes_eq : ∀ x ∈ aside, e.classes (f x) = d.classes x

/-- **Where the value is the same** all attributes are. -/
theorem attr?_of_value? {m n : NodeId} (h : e.nodes.value? m = d.nodes.value? n) (name : String) :
    e.attr? name m = d.attr? name n := by
  rw [Document.attr?, Document.attr?, Document.attrs, Document.attrs, h]

theorem classes_of_value? {m n : NodeId} (h : e.nodes.value? m = d.nodes.value? n) :
    e.classes m = d.classes n := by
  rw [Document.classes, Document.classes, attr?_of_value? h]

theorem tagOf_of_value? {m n : NodeId} (h : e.nodes.value? m = d.nodes.value? n) :
    (Page.ofDocument e).tagOf m = (Page.ofDocument d).tagOf n := by
  have htag : e.tag? m = d.tag? n := by rw [Document.tag?, Document.tag?, h]
  exact congrArg (Option.getD · "") htag

theorem filled?_of_value? {m n : NodeId} (h : e.nodes.value? m = d.nodes.value? n) (name : String) :
    (Page.ofDocument e).filled? name m = (Page.ofDocument d).filled? name n :=
  congrArg _ (attr?_of_value? h name)

namespace AgreeBut

variable {aside : List NodeId} {depth : Nat} {n m c : NodeId}

theorem mono (h : AgreeBut f d e aside n) (hd : d.WellFormed) (hm : m ∈ n :: d.descendants n) :
    AgreeBut f d e aside m where
  value?_eq k hk := h.value?_eq k (below_trans hd hm hk)
  children_eq k hk := h.children_eq k (below_trans hd hm hk)
  classes_eq := h.classes_eq

/-! Where nothing is set aside everything below a node is the same. -/

theorem value?_below (h : AgreeBut f d e [] n) (hm : m ∈ n :: d.descendants n) :
    e.nodes.value? (f m) = d.nodes.value? m :=
  h.value?_eq m hm (by simp)

theorem value?_self (h : AgreeBut f d e [] n) : e.nodes.value? (f n) = d.nodes.value? n :=
  h.value?_below List.mem_cons_self

/-- **The same text is below a node.** -/
theorem textOf_eq (h : AgreeBut f d e [] n) (hd : d.WellFormed) (he : e.WellFormed) :
    (Page.ofDocument e).textOf (f n) = (Page.ofDocument d).textOf n := by
  have hbelow : e.descendants (f n) = (d.descendants n).map f :=
    Arena.descendants_map hd.nodes he.nodes fun m hm =>
      h.children_eq m (List.mem_cons.2 hm) (by simp)
  have htext : e.textContent (f n) = d.textContent n := by
    rw [Document.textContent, Document.textContent, hbelow, ← List.map_cons, List.map_map]
    refine congrArg String.join (List.map_congr_left fun m hm => ?_)
    rw [Function.comp, Document.ownText, Document.ownText, h.value?_below hm]
  exact congrArg Text.trim htext

/-! The echoes of a container are set aside. -/

/-- The container itself is the same. -/
theorem value?_container (h : AgreeBut f d e (echoes d depth n) n) (hd : d.WellFormed) :
    e.nodes.value? (f n) = d.nodes.value? n :=
  h.value?_eq n List.mem_cons_self fun _ hx => not_in_own_echo hd hx

/-- **What is known of a container is known of a child that is no echo**: its own echoes are set aside
if it is looked into, and nothing is if it is not. -/
theorem child (h : AgreeBut f d e (echoes d (depth + 1) n) n) (hd : d.WellFormed)
    (hc : c ∈ d.elementChildren n) (hno : c ∉ echoesAt d n) :
    AgreeBut f d e (if c ∈ opened d n then echoes d depth c else []) c := by
  have hbelow : c ∈ n :: d.descendants n := List.mem_cons_of_mem n
    (hd.nodes.mem_descendants_of_mem (Document.mem_elementChildren.1 hc).1)
  have hapart : ∀ m ∈ c :: d.descendants c,
      (∀ x ∈ if c ∈ opened d n then echoes d depth c else [], m ∉ x :: d.descendants x) →
        ∀ x ∈ echoes d (depth + 1) n, m ∉ x :: d.descendants x := by
    intro m hm hfree x hx hmx
    obtain ⟨hopen, hxc⟩ := echo_of_common hd hc hno hx hm hmx
    exact hfree x (by rwa [if_pos hopen]) hmx
  refine ⟨fun m hm hfree => h.value?_eq m (below_trans hd hbelow hm) (hapart m hm hfree),
    fun m hm hfree => h.children_eq m (below_trans hd hbelow hm) (hapart m hm hfree),
    fun x hx => ?_⟩
  split at hx
  · next hopen => exact h.classes_eq x (mem_echoes_succ.2 (Or.inr ⟨c, hopen, hx⟩))
  · exact absurd hx (by simp)

theorem child_opened (h : AgreeBut f d e (echoes d (depth + 1) n) n) (hd : d.WellFormed)
    (hc : c ∈ opened d n) : AgreeBut f d e (echoes d depth c) c := by
  have hchild := h.child hd (opened_subset d n hc) (not_mem_echoesAt_of_opened hd hc)
  rwa [if_pos hc] at hchild

theorem value?_child (h : AgreeBut f d e (echoes d (depth + 1) n) n) (hd : d.WellFormed)
    (hc : c ∈ d.elementChildren n) (hno : c ∉ echoesAt d n) :
    e.nodes.value? (f c) = d.nodes.value? c :=
  h.value?_eq c (List.mem_cons_of_mem n
      (hd.nodes.mem_descendants_of_mem (Document.mem_elementChildren.1 hc).1))
    fun _ hx => child_not_in_echo hd hc hno hx

/-- **All children have the same classes**, the echoes among them too. -/
theorem classes_child (h : AgreeBut f d e (echoes d (depth + 1) n) n) (hd : d.WellFormed)
    (hc : c ∈ d.elementChildren n) : e.classes (f c) = d.classes c := by
  by_cases hecho : c ∈ echoesAt d n
  · exact h.classes_eq c (mem_echoes_succ.2 (Or.inl hecho))
  · exact classes_of_value? (h.value?_child hd hc hecho)

/-- **Where nothing is found nothing is set aside.** -/
theorem of_nil (h : AgreeBut f d e (echoes d depth n) n) {insideList : Bool} {context : String}
    {k : Nat} (hnil : (surveyNode (Page.ofDocument d) depth n insideList context k).1 = []) :
    AgreeBut f d e [] n := by
  rwa [echoes_eq_nil hnil] at h

end AgreeBut

/-! ### The same groups -/

section Groups

variable {n : NodeId}

theorem items_map (h : SameTags f d e) (hd : d.WellFormed) (hn : n ∈ d.frame) :
    items e (f n) = (items d n).map f := by
  rw [items, items, h.hasTagIn_eq hn]
  split
  · rw [h.elementChildren_eq n hn, List.filter_map]
    exact congrArg _ (List.filter_congr fun c hc => h.hasTag_eq (hd.mem_frame_of_child hn hc) "li")
  · rfl

theorem addMember_map (f : NodeId → NodeId) (sig : String) (n : NodeId)
    (found : List (String × List NodeId)) :
    addMember sig (f n) (found.map (Prod.map id (List.map f))) =
      (addMember sig n found).map (Prod.map id (List.map f)) := by
  induction found with
  | nil => rfl
  | cons group rest ih =>
      simp only [List.map_cons, addMember, Prod.map, id]
      split
      · simp [List.map_append, Prod.map]
      · rw [List.map_cons, ← ih]
        rfl

/-- **Nodes of the same structure are grouped in the same way.** -/
theorem groups_map {nodes : List NodeId} (h : ∀ c ∈ nodes, signature e (f c) = signature d c) :
    groups e (nodes.map f) = (groups d nodes).map (Prod.map id (List.map f)) := by
  have hfold : ∀ (nodes : List NodeId) (found : List (String × List NodeId)),
      (∀ c ∈ nodes, signature e (f c) = signature d c) →
        (nodes.map f).foldl (fun found c => addMember (signature e c) c found)
            (found.map (Prod.map id (List.map f))) =
          (nodes.foldl (fun found c => addMember (signature d c) c found) found).map
            (Prod.map id (List.map f)) := by
    intro nodes
    induction nodes with
    | nil => exact fun _ _ => rfl
    | cons c rest ih =>
        intro found hsame
        rw [List.map_cons, List.foldl_cons, List.foldl_cons, hsame c List.mem_cons_self,
          addMember_map]
        exact ih _ fun x hx => hsame x (List.mem_cons_of_mem c hx)
  exact hfold nodes [] h

variable {depth : Nat}

/-- **The structure of a child is the same**, that of an echo too. -/
theorem signature_child (h : SameTags f d e) (hd : d.WellFormed) (hn : n ∈ d.frame)
    (hsame : AgreeBut f d e (echoes d (depth + 1) n) n) {c : NodeId} (hc : c ∈ d.elementChildren n) :
    signature e (f c) = signature d c := by
  have hframe := hd.mem_frame_of_child hn hc
  have hinner : (e.elementChildren (f c)).filterMap e.tag? =
      (d.elementChildren c).filterMap d.tag? := by
    rw [h.elementChildren_eq c hframe, List.filterMap_map]
    exact List.filterMap_congr fun x hx => h.tag?_eq x (hd.mem_frame_of_child hframe hx)
  rw [signature, signature, hinner, h.tag?_eq c hframe, Document.firstClass?, Document.firstClass?,
    hsame.classes_child hd hc]

/-- **The same groups are formed.** -/
theorem repeated_map (h : SameTags f d e) (hd : d.WellFormed) (hn : n ∈ d.frame)
    (hsame : AgreeBut f d e (echoes d (depth + 1) n) n) :
    repeated e (f n) = (repeated d n).map (List.map f) := by
  rw [repeated, repeated, h.elementChildren_eq n hn,
    groups_map fun c hc => signature_child h hd hn hsame hc, List.map_map,
    show (fun group : String × List NodeId => group.2) ∘ Prod.map id (List.map f) =
      List.map f ∘ (·.2) from rfl, ← List.map_map, List.filter_map]
  exact congrArg _ (List.filter_congr fun group _ => by rw [Function.comp, List.length_map])

theorem leaders_map (h : SameTags f d e) (hd : d.WellFormed) (hn : n ∈ d.frame)
    (hsame : AgreeBut f d e (echoes d (depth + 1) n) n) :
    leaders e (f n) = (leaders d n).map f := by
  rw [leaders, leaders, repeated_map h hd hn hsame, List.filterMap_map, List.map_filterMap]
  exact List.filterMap_congr fun group _ => List.head?_map

theorem singles_map (h : SameTags f d e) (hd : d.WellFormed) (he : e.WellFormed) (hn : n ∈ d.frame)
    (hsame : AgreeBut f d e (echoes d (depth + 1) n) n) :
    singles e (f n) = (singles d n).map f := by
  rw [singles, singles, h.elementChildren_eq n hn, repeated_map h hd hn hsame, ← List.map_flatten,
    List.filter_map]
  refine congrArg _ (List.filter_congr fun c hc => ?_)
  rw [Function.comp, decide_eq_decide, not_iff_not, List.mem_map]
  refine ⟨fun ⟨x, hx, heq⟩ => ?_, fun hmem => ⟨c, hmem, rfl⟩⟩
  have hxc : x = c := h.inj hd he (hd.mem_elements_of_child hn (mem_elementChildren_of_repeated hx))
    (hd.mem_elements_of_child hn hc) heq
  rwa [← hxc]

end Groups

/-! ### Matching drafts -/

/-- **Matching drafts** have the same fields, and no places or those of an element and its image. -/
structure Matches (f : NodeId → NodeId) (d e : Document) (a b : Draft) : Prop where
  field_eq : b.toField = a.toField
  place_eq : a.place = none ∧ b.place = none ∨ ∃ n ∈ d.elementsBelow Arena.root,
    a.place = some ((Page.ofDocument d).position n) ∧
      b.place = some ((Page.ofDocument e).position (f n))

/-- **The same was found**: matching drafts, and as many controls without a name. -/
structure Told (f : NodeId → NodeId) (d e : Document) (found found' : List Draft × Nat) : Prop where
  drafts : List.Forall₂ (Matches f d e) found.1 found'.1
  counter_eq : found'.2 = found.2

theorem toFields_of_matches {drafts drafts' : List Draft}
    (h : List.Forall₂ (Matches f d e) drafts drafts') :
    Draft.toFields drafts' = Draft.toFields drafts := by
  induction h with
  | nil => rfl
  | cons hfirst _ ih => rw [Draft.toFields, Draft.toFields, hfirst.field_eq, ih]

theorem toField_make (place : Option Nat) (kind : FieldKind) (tag classes slug content : String)
    (children : List Draft) : (Draft.make place kind tag classes slug content children).toField =
      .mk ⟨"", kind, tag, classes, content, slug, none, none⟩ (Draft.toFields children) := by
  rw [Draft.make, Draft.toField]

namespace Matches

variable {a b : Draft} {children children' : List Draft}

theorem info_eq (h : Matches f d e a b) : b.info = a.info := by
  have hinfo : ∀ draft : Draft, draft.toField.info = draft.info := fun draft => by
    cases draft
    rw [Draft.toField]
    rfl
  rw [← hinfo, ← hinfo, h.field_eq]

/-- Drafts of an element and its image that say the same. -/
theorem make {n : NodeId} (hn : n ∈ d.elementsBelow Arena.root) (kind : FieldKind)
    (tag classes slug content : String) (h : List.Forall₂ (Matches f d e) children children') :
    Matches f d e
      (Draft.make (some ((Page.ofDocument d).position n)) kind tag classes slug content children)
      (Draft.make (some ((Page.ofDocument e).position (f n))) kind tag classes slug content
        children') where
  field_eq := by rw [toField_make, toField_make, toFields_of_matches h]
  place_eq := Or.inr ⟨n, hn, rfl, rfl⟩

/-- Drafts that have no place. -/
theorem refl_of_place (hplace : a.place = none) : Matches f d e a a :=
  ⟨rfl, Or.inl ⟨hplace, hplace⟩⟩

/-- Drafts that match still do when both say something else about themselves. -/
theorem mk_info {place place' : Option Nat} {info info' : FieldInfo}
    (h : Matches f d e (.mk place info children) (.mk place' info' children'))
    (g : FieldInfo → FieldInfo) :
    Matches f d e (.mk place (g info) children) (.mk place' (g info') children') := by
  have hfield := h.field_eq
  rw [Draft.toField, Draft.toField, Field.mk.injEq] at hfield
  refine ⟨?_, h.place_eq⟩
  rw [Draft.toField, Draft.toField, hfield.1, hfield.2]

theorem withComponent (h : Matches f d e a b) (component : Option ComponentType) :
    Matches f d e (a.withComponent component) (b.withComponent component) := by
  cases a
  cases b
  exact h.mk_info fun info => { info with component := component }

theorem withInput (h : Matches f d e a b) (input : InputType) :
    Matches f d e (a.withInput input) (b.withInput input) := by
  cases a
  cases b
  exact h.mk_info fun info => { info with input := some input }

/-- **Matching drafts are sorted in the same way.** -/
theorem mayPrecede_eq (ht : SameTags f d e) (hd : d.WellFormed) (he : e.WellFormed) {a' b' : Draft}
    (h : Matches f d e a b) (h' : Matches f d e a' b') : mayPrecede b b' = mayPrecede a a' := by
  rw [mayPrecede, mayPrecede]
  rcases h.place_eq with ⟨ha, hb⟩ | ⟨n, hn, ha, hb⟩ <;>
    rcases h'.place_eq with ⟨ha', hb'⟩ | ⟨m, hm, ha', hb'⟩ <;>
    rw [ha, hb, ha', hb']
  exact decide_eq_decide.2 (ht.idxOf_le_iff hd he hn hm)

end Matches

theorem matches_insertDraft (ht : SameTags f d e) (hd : d.WellFormed) (he : e.WellFormed)
    {a b : Draft} {drafts drafts' : List Draft} (hfirst : Matches f d e a b)
    (h : List.Forall₂ (Matches f d e) drafts drafts') :
    List.Forall₂ (Matches f d e) (insertDraft a drafts) (insertDraft b drafts') := by
  induction h with
  | nil => exact .cons hfirst .nil
  | cons hnext hrest ih =>
      rw [insertDraft, insertDraft, hfirst.mayPrecede_eq ht hd he hnext]
      split
      · exact .cons hfirst (.cons hnext hrest)
      · exact .cons hnext ih

theorem matches_sortDrafts (ht : SameTags f d e) (hd : d.WellFormed) (he : e.WellFormed)
    {drafts drafts' : List Draft} (h : List.Forall₂ (Matches f d e) drafts drafts') :
    List.Forall₂ (Matches f d e) (sortDrafts drafts) (sortDrafts drafts') := by
  induction h with
  | nil => exact .nil
  | cons hfirst _ ih => exact matches_insertDraft ht hd he hfirst ih

theorem isEmpty_of_matches {drafts drafts' : List Draft}
    (h : List.Forall₂ (Matches f d e) drafts drafts') : drafts'.isEmpty = drafts.isEmpty := by
  cases h <;> rfl

/-- **What is found at the nodes of a list** is found at their images. -/
theorem told_surveyAll {find find' : NodeId → Nat → List Draft × Nat} {nodes : List NodeId}
    (h : ∀ c ∈ nodes, ∀ k, Told f d e (find c k) (find' (f c) k)) (k : Nat) :
    Told f d e (surveyAll find nodes k) (surveyAll find' (nodes.map f) k) := by
  induction nodes generalizing k with
  | nil => exact ⟨.nil, rfl⟩
  | cons c rest ih =>
      have hfirst := h c List.mem_cons_self k
      have hothers := ih (fun x hx => h x (List.mem_cons_of_mem c hx)) (find c k).2
      simp only [List.map_cons, surveyAll, hfirst.counter_eq]
      exact ⟨List.rel_append hfirst.drafts hothers.drafts, hothers.counter_eq⟩

/-! ### Drafts of single nodes -/

/-- **Controls with the same attributes** give matching drafts. -/
theorem told_surveyControl {n : NodeId} (hn : n ∈ d.elementsBelow Arena.root)
    (hv : e.nodes.value? (f n) = d.nodes.value? n) (k : Nat) :
    Told f d e (surveyControl (Page.ofDocument d) n k)
      (surveyControl (Page.ofDocument e) (f n) k) := by
  have hslug : (Page.ofDocument e).declaredSlug? (f n) = (Page.ofDocument d).declaredSlug? n := by
    rw [Page.declaredSlug?, Page.declaredSlug?, filled?_of_value? hv, filled?_of_value? hv]
  have hdraft : ∀ slug, Matches f d e (controlDraft (Page.ofDocument d) n slug)
      (controlDraft (Page.ofDocument e) (f n) slug) := fun slug => by
    simp only [controlDraft, tagOf_of_value? hv, doc_ofDocument, classes_of_value? hv,
      attr?_of_value? hv]
    exact (Matches.make hn _ _ _ _ _ .nil).withInput _
  rw [surveyControl, surveyControl, hslug]
  split
  · exact ⟨.cons (hdraft _) .nil, rfl⟩
  · exact ⟨.cons (hdraft _) .nil, rfl⟩

/-- **Leaves with the same texts** give matching drafts. -/
theorem matches_leafDraft (hd : d.WellFormed) (he : e.WellFormed) {n : NodeId}
    (hn : n ∈ d.elementsBelow Arena.root) (h : AgreeBut f d e [] n) (insideList : Bool)
    (context : String) :
    List.Forall₂ (Matches f d e) (leafDraft? (Page.ofDocument d) n insideList context).toList
      (leafDraft? (Page.ofDocument e) (f n) insideList context).toList := by
  have hv := h.value?_self
  have hcontent : ∀ tag, leafContent (Page.ofDocument e) tag (f n) =
      leafContent (Page.ofDocument d) tag n := fun tag => by
    simp only [leafContent, h.textOf_eq hd he, filled?_of_value? hv, doc_ofDocument,
      attr?_of_value? hv]
  simp only [leafDraft?, tagOf_of_value? hv, doc_ofDocument, classes_of_value? hv, hcontent]
  split
  · exact .nil
  · exact .cons (Matches.make hn _ _ _ _ _ .nil) .nil

theorem any_of_matches {drafts drafts' : List Draft}
    (h : List.Forall₂ (Matches f d e) drafts drafts') (p : FieldInfo → Bool) :
    (drafts'.any fun draft => p draft.info) = drafts.any fun draft => p draft.info := by
  induction h with
  | nil => rfl
  | cons hfirst _ ih => rw [List.any_cons, List.any_cons, hfirst.info_eq, ih]

/-- **What a container is about** is seen from its tag, its classes, the headings in it and the fields
that were found. -/
theorem componentOf_eq (ht : SameTags f d e) (hd : d.WellFormed) (he : e.WellFormed) {n : NodeId}
    (hn : n ∈ d.frame) (hv : e.nodes.value? (f n) = d.nodes.value? n) {nested nested' : List Draft}
    (h : List.Forall₂ (Matches f d e) nested nested') :
    componentOf (Page.ofDocument e) (f n) nested' = componentOf (Page.ofDocument d) n nested := by
  have hheading : (e.findBelow (f n) (e.hasTag "h1")).isSome =
      (d.findBelow n (d.hasTag "h1")).isSome := by
    rw [ht.findBelow_eq hd he hn fun m hm => ht.hasTag_eq hm "h1", Option.isSome_map]
  have hcards := any_of_matches h fun info => info.kind == .repeater && Text.contains info.slug "card"
  simp only [componentOf, tagOf_of_value? hv, doc_ofDocument, classes_of_value? hv, hheading, hcards]

theorem matches_containerDraft (ht : SameTags f d e) (hd : d.WellFormed) (he : e.WellFormed)
    {n : NodeId} (hn : n ∈ d.elementsBelow Arena.root)
    (hv : e.nodes.value? (f n) = d.nodes.value? n) {nested nested' : List Draft}
    (h : List.Forall₂ (Matches f d e) nested nested') :
    Matches f d e (containerDraft (Page.ofDocument d) n nested)
      (containerDraft (Page.ofDocument e) (f n) nested') := by
  simp only [containerDraft, tagOf_of_value? hv, doc_ofDocument, classes_of_value? hv,
    componentOf_eq ht hd he (List.mem_cons_of_mem _ hn) hv h]
  exact (Matches.make hn _ _ _ _ _ h).withComponent _

theorem clickable?_map (ht : SameTags f d e) (hd : d.WellFormed) (he : e.WellFormed) {n : NodeId}
    (hn : n ∈ d.frame) : (Page.ofDocument e).clickable? (f n) =
      ((Page.ofDocument d).clickable? n).map f :=
  ht.findBelow_eq hd he hn fun _ hm => ht.hasTagIn_eq hm clickableTags

/-- **The draft that stands for an item** says the same where nothing in it differs. -/
theorem itemDraft_eq (ht : SameTags f d e) (hd : d.WellFormed) (he : e.WellFormed) {n : NodeId}
    (hn : n ∈ d.frame) (h : AgreeBut f d e [] n) (slug : String) :
    itemDraft (Page.ofDocument e) (f n) slug = itemDraft (Page.ofDocument d) n slug := by
  rw [itemDraft, itemDraft, clickable?_map ht hd he hn]
  cases hlink : (Page.ofDocument d).clickable? n with
  | none => simp only [Option.map_none, doc_ofDocument, classes_of_value? h.value?_self,
      h.textOf_eq hd he]
  | some link =>
      have hbelow : link ∈ d.descendants n := List.mem_of_find?_eq_some hlink
      have hsame := h.mono hd (List.mem_cons_of_mem n hbelow)
      simp only [Option.map_some, doc_ofDocument, tagOf_of_value? hsame.value?_self,
        classes_of_value? hsame.value?_self, hsame.textOf_eq hd he]

theorem memberDraft_eq (hd : d.WellFormed) (he : e.WellFormed) {n : NodeId}
    (h : AgreeBut f d e [] n) (slug : String) :
    memberDraft (Page.ofDocument e) (f n) slug = memberDraft (Page.ofDocument d) n slug := by
  simp only [memberDraft, doc_ofDocument, tagOf_of_value? h.value?_self,
    classes_of_value? h.value?_self, h.textOf_eq hd he]

/-! ### Surveys -/

/-- **Two surveyors find the same** in an element and in its image. -/
def TellAlike (f : NodeId → NodeId) (d e : Document) (survey survey' : Surveyor) (n : NodeId) : Prop :=
  ∀ insideList context k,
    Told f d e (survey n insideList context k) (survey' (f n) insideList context k)

section Surveys

variable {survey survey' : Surveyor} {n c : NodeId}

/-- The fields of an instance, or the draft that stands for it. -/
theorem matches_orDraft {found found' : List Draft} (h : List.Forall₂ (Matches f d e) found found')
    {draft draft' : Draft} (hplace : draft.place = none) (heq : found = [] → draft' = draft) :
    List.Forall₂ (Matches f d e) (if found.isEmpty then [draft] else found)
      (if found'.isEmpty then [draft'] else found') := by
  rw [isEmpty_of_matches h]
  split
  · next hempty =>
      rw [heq (List.isEmpty_iff.1 hempty)]
      exact .cons (Matches.refl_of_place hplace) .nil
  · exact h

/-- **The repeater of a list** is seen from the list and its first item. -/
theorem told_surveyItem (ht : SameTags f d e) (hd : d.WellFormed) (he : e.WellFormed)
    (hc : c ∈ d.elementsBelow Arena.root) (htold : TellAlike f d e survey survey' c)
    (hlist : e.nodes.value? (f n) = d.nodes.value? n)
    (hitem : e.nodes.value? (f c) = d.nodes.value? c)
    (hempty : ∀ insideList context k, (survey c insideList context k).1 = [] → AgreeBut f d e [] c)
    (k : Nat) : Told f d e (surveyItem (Page.ofDocument d) survey n c k)
      (surveyItem (Page.ofDocument e) survey' (f n) (f c) k) := by
  simp only [surveyItem, doc_ofDocument, classes_of_value? hlist, classes_of_value? hitem]
  have hfound := htold true (orElse (Naming.classSlug (d.classes n)) "items") k
  refine ⟨.cons (Matches.make hc _ _ _ _ _ (matches_orDraft hfound.drafts ?_ fun hnil =>
    itemDraft_eq ht hd he (List.mem_cons_of_mem _ hc) (hempty _ _ _ hnil) _)) .nil,
    hfound.counter_eq⟩
  rw [itemDraft]
  split <;> rfl

/-- **The repeater of a group** is seen from its first member. -/
theorem told_surveyGroup (hd : d.WellFormed) (he : e.WellFormed)
    (hc : c ∈ d.elementsBelow Arena.root) (htold : TellAlike f d e survey survey' c)
    (hmember : e.nodes.value? (f c) = d.nodes.value? c)
    (hempty : ∀ insideList context k, (survey c insideList context k).1 = [] → AgreeBut f d e [] c)
    (k : Nat) : Told f d e (surveyGroup (Page.ofDocument d) survey c k)
      (surveyGroup (Page.ofDocument e) survey' (f c) k) := by
  simp only [surveyGroup, doc_ofDocument, tagOf_of_value? hmember, classes_of_value? hmember]
  have hfound := htold false (orElse (Naming.classSlug (d.classes c)) "items") k
  exact ⟨.cons (Matches.make hc _ _ _ _ _ (matches_orDraft hfound.drafts rfl fun hnil =>
    memberDraft_eq hd he (hempty _ _ _ hnil) _)) .nil, hfound.counter_eq⟩

/-- **A child that is in no group** is looked into, or is the same all the way down. -/
theorem told_surveySingle (ht : SameTags f d e) (hd : d.WellFormed) (he : e.WellFormed)
    (hc : c ∈ d.elementsBelow Arena.root) (hv : e.nodes.value? (f c) = d.nodes.value? c)
    (hopen : isOpenItem (Page.ofDocument d) c = true ∨ d.hasTagIn leafTags c = false →
      TellAlike f d e survey survey' c)
    (hclosed : isOpenItem (Page.ofDocument d) c = false → d.hasTagIn leafTags c = true →
      AgreeBut f d e [] c) (insideList : Bool) (context : String) (k : Nat) :
    Told f d e (surveySingle (Page.ofDocument d) survey insideList context c k)
      (surveySingle (Page.ofDocument e) survey' insideList context (f c) k) := by
  have hframe : c ∈ d.frame := List.mem_cons_of_mem _ hc
  have hitem : isOpenItem (Page.ofDocument e) (f c) = isOpenItem (Page.ofDocument d) c := by
    rw [isOpenItem, isOpenItem, clickable?_map ht hd he hframe, Option.isSome_map]
    exact congrArg (· && _) (ht.hasTag_eq hframe "li")
  simp only [surveySingle, hitem, doc_ofDocument, ht.hasTagIn_eq hframe, classes_of_value? hv]
  by_cases hitem' : isOpenItem (Page.ofDocument d) c = true
  · simp only [hitem', if_true]
    exact hopen (Or.inl hitem') true context k
  by_cases hleaf : d.hasTagIn leafTags c = true
  · simp only [hitem', hleaf, if_true, if_false, Bool.false_eq_true]
    exact ⟨matches_leafDraft hd he hc (hclosed (by simpa using hitem') hleaf) insideList context,
      rfl⟩
  · have hnested := hopen (Or.inr (by simpa using hleaf)) insideList
      (orElse (Naming.classSlug (d.classes c)) context) k
    simp only [hitem', hleaf, if_false, Bool.false_eq_true, isEmpty_of_matches hnested.drafts]
    refine ⟨?_, hnested.counter_eq⟩
    by_cases hnil : (survey c insideList
        (orElse (Naming.classSlug (d.classes c)) context) k).1.isEmpty = true
    · simp only [hnil, if_true]
      exact .nil
    · simp only [hnil, if_false, Bool.false_eq_true]
      exact .cons (matches_containerDraft ht hd he hc hv hnested.drafts) .nil

end Surveys

/-! ### Surveys of containers -/

section Containers

variable {depth : Nat} {n : NodeId}

/-- **A form gives matching controls**: nothing in it is set aside. -/
theorem told_controls (ht : SameTags f d e) (hd : d.WellFormed) (he : e.WellFormed)
    (hn : n ∈ d.frame) (hsame : AgreeBut f d e [] n) (k : Nat) :
    Told f d e (surveyAll (surveyControl (Page.ofDocument d)) (controls d n) k)
      (surveyAll (surveyControl (Page.ofDocument e)) (controls e (f n)) k) := by
  have hcontrols : controls e (f n) = (controls d n).map f := ht.filter_eq hd he hn _
  rw [hcontrols]
  refine told_surveyAll (fun c hc => ?_) k
  obtain ⟨hbelow, htag⟩ := List.mem_filter.1 hc
  have hbelow' := Document.mem_elementsBelow.2 ⟨hbelow, Document.isElement_of_hasTagIn htag⟩
  exact told_surveyControl (hd.mem_elements hn hbelow')
    (hsame.value?_below (List.mem_cons_of_mem n hbelow))

variable (hsame : AgreeBut f d e (echoes d (depth + 1) n) n)
  (htold : ∀ c ∈ opened d n, TellAlike f d e (surveyNode (Page.ofDocument d) depth)
    (surveyNode (Page.ofDocument e) depth) c)

include hsame htold

/-- **A list gives matching repeaters.** -/
theorem told_items (ht : SameTags f d e) (hd : d.WellFormed) (he : e.WellFormed) (hn : n ∈ d.frame)
    (hform : d.hasTag "form" n = false) {first : NodeId} {others : List NodeId}
    (hitems : items d n = first :: others) (k : Nat) :
    Told f d e (surveyItem (Page.ofDocument d) (surveyNode (Page.ofDocument d) depth) n first k)
      (surveyItem (Page.ofDocument e) (surveyNode (Page.ofDocument e) depth) (f n) (f first) k) := by
  have hopen : first ∈ opened d n := by
    rw [opened_list hform hitems]
    exact List.mem_cons_self
  have hchild := hsame.child_opened hd hopen
  exact told_surveyItem ht hd he (hd.mem_elements_of_child hn (opened_subset d n hopen))
    (htold first hopen) (hsame.value?_container hd) (hchild.value?_container hd)
    (fun _ _ _ hnil => hchild.of_nil hnil) k

/-- **The groups of a container give matching repeaters.** -/
theorem told_leaders (ht : SameTags f d e) (hd : d.WellFormed) (he : e.WellFormed)
    (hn : n ∈ d.frame) (hform : d.hasTag "form" n = false) (hitems : items d n = []) (k : Nat) :
    Told f d e
      (surveyAll (surveyGroup (Page.ofDocument d) (surveyNode (Page.ofDocument d) depth))
        (leaders d n) k)
      (surveyAll (surveyGroup (Page.ofDocument e) (surveyNode (Page.ofDocument e) depth))
        (leaders e (f n)) k) := by
  rw [leaders_map ht hd hn hsame]
  refine told_surveyAll (fun c hc => ?_) k
  have hopen : c ∈ opened d n := by
    rw [opened_other hform hitems]
    exact List.mem_append_left _ hc
  have hchild := hsame.child_opened hd hopen
  exact told_surveyGroup hd he (hd.mem_elements_of_child hn (opened_subset d n hopen))
    (htold c hopen) (hchild.value?_container hd) (fun _ _ _ hnil => hchild.of_nil hnil)

/-- **The other children of a container give matching drafts.** -/
theorem told_singles (ht : SameTags f d e) (hd : d.WellFormed) (he : e.WellFormed)
    (hn : n ∈ d.frame) (hform : d.hasTag "form" n = false) (hitems : items d n = [])
    (insideList : Bool) (context : String) (k : Nat) :
    Told f d e
      (surveyAll (surveySingle (Page.ofDocument d) (surveyNode (Page.ofDocument d) depth) insideList
        context) (singles d n) k)
      (surveyAll (surveySingle (Page.ofDocument e) (surveyNode (Page.ofDocument e) depth) insideList
        context) (singles e (f n)) k) := by
  rw [singles_map ht hd he hn hsame]
  refine told_surveyAll (fun c hc => ?_) k
  have hchild : c ∈ d.elementChildren n := (List.mem_filter.1 hc).1
  have hno : c ∉ echoesAt d n := by
    rw [echoesAt, instances_other hform hitems]
    exact not_mem_tail_of_single hc
  refine told_surveySingle ht hd he (hd.mem_elements_of_child hn hchild)
    (hsame.value?_child hd hchild hno)
    (fun hlook => htold c ((mem_opened_of_single hform hitems hc).2 hlook))
    (fun hitem hleaf => ?_) insideList context
  have hclosed : c ∉ opened d n := by
    rw [mem_opened_of_single hform hitems hc, hitem, hleaf]
    simp
  have hbelow := hsame.child hd hchild hno
  rwa [if_neg hclosed] at hbelow

end Containers

/-- **A survey finds matching drafts** in an element and in its image, when the two documents agree
in it beside its echoes. -/
theorem told_surveyNode (ht : SameTags f d e) (hd : d.WellFormed) (he : e.WellFormed) {depth : Nat}
    {n : NodeId} (hn : n ∈ d.frame) (hsame : AgreeBut f d e (echoes d depth n) n) :
    TellAlike f d e (surveyNode (Page.ofDocument d) depth) (surveyNode (Page.ofDocument e) depth)
      n := by
  induction depth generalizing n with
  | zero => exact fun _ _ _ => ⟨.nil, rfl⟩
  | succ depth ih =>
      intro insideList context k
      have htold : ∀ c ∈ opened d n, TellAlike f d e (surveyNode (Page.ofDocument d) depth)
          (surveyNode (Page.ofDocument e) depth) c := fun c hc =>
        ih (hd.mem_frame_of_child hn (opened_subset d n hc)) (hsame.child_opened hd hc)
      simp only [surveyNode, doc_ofDocument, ht.hasTag_eq hn, items_map ht hd hn,
        classes_of_value? (hsame.value?_container hd)]
      by_cases hform : d.hasTag "form" n = true
      · simp only [hform, if_true]
        rw [echoes_form hform] at hsame
        have hfound := told_controls ht hd he hn hsame k
        exact ⟨matches_sortDrafts ht hd he hfound.drafts, hfound.counter_eq⟩
      rw [Bool.not_eq_true] at hform
      simp only [hform, Bool.false_eq_true, if_false]
      cases hitems : items d n with
      | cons first others => exact told_items hsame htold ht hd he hn hform hitems k
      | nil =>
          have hgrouped := told_leaders hsame htold ht hd he hn hform hitems k
          have hothers := told_singles hsame htold ht hd he hn hform hitems insideList
            (orElse (Naming.classSlug (d.classes n)) context)
          simp only [List.map_nil, hgrouped.counter_eq]
          exact ⟨matches_sortDrafts ht hd he
            (List.rel_append hgrouped.drafts (hothers _).drafts), (hothers _).counter_eq⟩

/-! ### Content models -/

/-- **Only the first instances count.**  Two documents with the same tree of tags have the same
content model, identifiers and component types included, when they agree beside the instances after
the first one that are formed in the first document; these may differ in everything but their tags
and their own classes. -/
theorem extract_of_agreeBut (hd : d.WellFormed) (he : e.WellFormed) (maxDepth : Nat)
    (htags : SameTags f d e)
    (hsame : AgreeBut f d e (echoes d maxDepth (d.body?.getD Arena.root)) Arena.root) :
    extract maxDepth e = extract maxDepth d := by
  have hbody : d.body?.getD Arena.root ∈ d.frame := by
    cases hb : d.body? with
    | none => exact List.mem_cons_self
    | some body =>
        obtain ⟨hattached, htag⟩ := Document.mem_elementsByTag.1 (List.mem_of_head? hb)
        exact Document.mem_frame.2
          (Or.inr ⟨hattached, Document.isElement_iff_tag?.2 ⟨_, htag⟩⟩)
  have hbelow : d.body?.getD Arena.root ∈ Arena.root :: d.descendants Arena.root :=
    List.mem_cons.2 ((Document.mem_frame.1 hbody).imp_right And.left)
  have htold := told_surveyNode htags hd he hbody (hsame.mono hd hbelow) false "" 0
  have hdrafts : Draft.toFields (drafts maxDepth e) = Draft.toFields (drafts maxDepth d) := by
    rw [drafts_eq_survey hd, drafts_eq_survey he, htags.body_eq hd he]
    exact toFields_of_matches htold.drafts
  rw [extract, extract, hdrafts]

/-- The second of two cards gets another text, in another place, and attributes. -/
theorem extract_of_agreeBut_cards :
    let card (attrs : List Html.Attribute) (inside : List Html.Tree) : Html.Tree :=
      .element "div" (⟨"class", "card"⟩ :: attrs) [] inside
    let d := Document.ofTree false (.document [.element "body" [] []
      [card [] [.element "p" [] [] [.text "a"]], card [] [.element "p" [] [] [.text "b"]]]])
    let e := Document.ofTree false (.document [.element "body" [] []
      [card [] [.element "p" [] [] [.text "a"]],
        card [⟨"id", "x"⟩] [.text "c", .element "p" [⟨"id", "y"⟩] [] []]]])
    let f : NodeId → NodeId := fun n => if n = 6 then 7 else n
    let body := d.body?.getD Arena.root
    d.WellFormed ∧ e.WellFormed ∧ echoes d 8 body = [5] ∧ SameTags f d e ∧
      AgreeBut f d e (echoes d 8 body) Arena.root ∧ extract 8 e = extract 8 d ∧
      (extract 8 d).length = 1 := by
  intro card d e f body
  have hd : d.WellFormed := Document.WellFormed.ofTree _ _
  have he : e.WellFormed := Document.WellFormed.ofTree _ _
  have htags : SameTags f d e := ⟨rfl, by decide +kernel, by decide +kernel⟩
  have hsame : AgreeBut f d e (echoes d 8 body) Arena.root :=
    ⟨by decide +kernel, by decide +kernel, by decide +kernel⟩
  exact ⟨hd, he, by decide +kernel, htags, hsame, extract_of_agreeBut hd he 8 htags hsame,
    by decide +kernel⟩

end Model

end ThemeCompiler
