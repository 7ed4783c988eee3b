/-
**What every scan finds.**

A scan of a container is made of passes that only collect drafts, so what holds of each draft as it
is made, given that it holds of the drafts inside of it, holds of all drafts of a page.  The context
of a scan is a class or a word of the scan itself.  One instance is that every slug is taken from a
class, an attribute or a rule, with a default where that is empty; another one is that exactly
containers and repeaters have fields inside.

Main definitions:

* `ThemeCompiler.Model.Draft.Everywhere` — what holds of every field of a draft;
* `ThemeCompiler.Model.Collects` — **what holds of each draft as it is made**;
* `ThemeCompiler.Model.Lifts` — what one level of a scan makes of the level below;
* `ThemeCompiler.Model.Draft.Named` — every field of a draft but a container has a slug.

Main results:

* `ThemeCompiler.Model.Lifts.scanNode` — one level of a scan;
* `ThemeCompiler.Model.Collects.scanNode`, `ThemeCompiler.Model.Collects.drafts` — **what holds of
  each draft as it is made holds of all drafts of a page**;
* `ThemeCompiler.Model.checkSlugs_extract` — **the slugs of a page pass their check**;
* `ThemeCompiler.Model.nests_drafts` — exactly the containers and repeaters of a page have fields
  inside.
-/

import ThemeCompiler.Proofs.Model.Slugs

set_option relaxedAutoImplicit false
set_option autoImplicit false

namespace ThemeCompiler

namespace Model

/-! ### The fields of drafts -/

namespace Draft

theorem mem_toFields {drafts : List Draft} {f : Field} :
    f ∈ toFields drafts ↔ ∃ draft ∈ drafts, draft.toField = f := by
  induction drafts with
  | nil => simp [toFields]
  | cons draft rest ih => simp [toFields, ih, eq_comm]

theorem toFields_ne_nil {drafts : List Draft} : toFields drafts ≠ [] ↔ drafts ≠ [] := by
  cases drafts <;> simp [toFields]

/-- **What holds of every field of a draft.** -/
def Everywhere (Q : Field → Prop) (draft : Draft) : Prop := ∀ f ∈ draft.toField.preorder, Q f

theorem everywhere_mk {Q : Field → Prop} {place : Option Nat} {info : FieldInfo}
    {children : List Draft} :
    (mk place info children).Everywhere Q ↔
      Q (.mk info (toFields children)) ∧ ∀ draft ∈ children, draft.Everywhere Q := by
  rw [Everywhere, toField, Field.forall_preorder_mk]
  simp only [mem_toFields, forall_exists_index, and_imp, forall_apply_eq_imp_iff₂]
  rfl

theorem everywhere_make {Q : Field → Prop} {place : Option Nat} {kind : FieldKind}
    {tag classes slug content : String} {children : List Draft} :
    (make place kind tag classes slug content children).Everywhere Q ↔
      Q (.mk ⟨"", kind, tag, classes, content, slug, none, none⟩ (toFields children)) ∧
        ∀ draft ∈ children, draft.Everywhere Q :=
  everywhere_mk

/-- **Every field of a draft but a container has a slug.** -/
def Named (draft : Draft) : Prop := draft.toField.Named

end Draft

theorem mem_insertDraft {a draft : Draft} {drafts : List Draft} :
    draft ∈ insertDraft a drafts ↔ draft = a ∨ draft ∈ drafts := by
  induction drafts with
  | nil => simp [insertDraft]
  | cons b rest ih =>
      rw [insertDraft]
      split
      · exact List.mem_cons
      · rw [List.mem_cons, ih, List.mem_cons, or_left_comm]

/-- Sorting keeps the drafts. -/
theorem mem_sortDrafts {draft : Draft} {drafts : List Draft} :
    draft ∈ sortDrafts drafts ↔ draft ∈ drafts := by
  induction drafts with
  | nil => rfl
  | cons a rest ih => rw [sortDrafts, mem_insertDraft, ih, List.mem_cons]

/-! ### Words with a default -/

theorem orElse_cases {C : String → Prop} {s default : String} (hs : C s) (hdefault : C default) :
    C (orElse s default) := by
  rw [orElse]
  split
  · exact hdefault
  · exact hs

theorem orElse_ne_empty {s default : String} (h : default ≠ "") : orElse s default ≠ "" := by
  rw [orElse]
  split
  · exact h
  · next hs => simpa using hs

theorem append_ne_empty {s t : String} (h : t ≠ "") : s ++ t ≠ "" := by
  intro heq
  have hlist := congrArg String.toList heq
  simp only [String.toList_append, String.toList_empty, List.append_eq_nil_iff] at hlist
  exact h (String.toList_inj.1 (hlist.2.trans String.toList_empty.symm))

theorem joined_ne_empty {context word bare : String} (hword : word ≠ "") (hbare : bare ≠ "") :
    joined context word bare ≠ "" := by
  rw [joined]
  split
  · exact hbare
  · exact append_ne_empty hword

theorem name_ne_empty (role : SlugRole) : role.name ≠ "" := by
  cases role <;> decide

/-- **The slug of a leaf is not empty.** -/
theorem leafSlug_ne_empty (tag classes : String) (insideList : Bool) (context : String) :
    leafSlug tag classes insideList context ≠ "" := by
  rw [leafSlug]
  split
  · rw [itemLeafSlug]
    split
    · exact joined_ne_empty (by decide) (by decide)
    · split
      · exact joined_ne_empty (name_ne_empty _) (name_ne_empty _)
      · exact orElse_ne_empty (by decide)
  · split
    · exact name_ne_empty _
    · next hcontext =>
        split
        · simpa using hcontext
        · exact append_ne_empty (name_ne_empty _)

/-! ### Drafts as they are made -/

/-- The slug of a control: declared, or a numbered one. -/
def IsControlSlug (p : Page) (n : NodeId) (slug : String) : Prop :=
  p.declaredSlug? n = some slug ∨ ∃ k : Nat, slug = "field_" ++ toString k

/-- **What holds of each draft as it is made**, where `C` holds of every context: of the drafts of
controls and leaves, of the drafts that stand for an instance without fields, and of repeaters and
containers with a draft inside if it holds of what is inside. -/
structure Collects (p : Page) (C : String → Prop) (P : Draft → Prop) : Prop where
  ofClasses : ∀ classes, C (Naming.classSlug classes)
  items : C "items"
  control : ∀ n slug, IsControlSlug p n slug → P (controlDraft p n slug)
  item : ∀ n slug, C slug → P (itemDraft p n slug)
  member : ∀ n slug, C slug → P (memberDraft p n slug)
  leaf : ∀ n insideList context draft, C context → leafDraft? p n insideList context = some draft →
    P draft
  repeater : ∀ place tag classes slug children, C slug → slug ≠ "" → children ≠ [] →
    (∀ draft ∈ children, P draft) → P (.make place .repeater tag classes slug "" children)
  container : ∀ n nested, nested ≠ [] → (∀ draft ∈ nested, P draft) → P (containerDraft p n nested)

/-- **What one level of a scan makes of the level below**: `Q` holds of each draft as it is made and
of each one that is handed up, if `P` holds of the drafts below and of those that stand for an
instance without fields. -/
structure Lifts (p : Page) (C : String → Prop) (P Q : Draft → Prop) : Prop where
  ofClasses : ∀ classes, C (Naming.classSlug classes)
  items : C "items"
  handed : ∀ draft, P draft → Q draft
  control : ∀ n slug, IsControlSlug p n slug → Q (controlDraft p n slug)
  item : ∀ n slug, C slug → P (itemDraft p n slug)
  member : ∀ n slug, C slug → P (memberDraft p n slug)
  leaf : ∀ n insideList context draft, C context → leafDraft? p n insideList context = some draft →
    Q draft
  repeater : ∀ place tag classes slug children, C slug → slug ≠ "" → children ≠ [] →
    (∀ draft ∈ children, P draft) → Q (.make place .repeater tag classes slug "" children)
  container : ∀ n nested, nested ≠ [] → (∀ draft ∈ nested, P draft) → Q (containerDraft p n nested)

/-- A scanner that finds only what `P` holds of. -/
def Yields (C : String → Prop) (P : Draft → Prop) (scan : Scanner) : Prop :=
  ∀ n insideList context s, C context → ∀ draft ∈ (scan n insideList context s).1, P draft

namespace Lifts

variable {p : Page} {C : String → Prop} {P Q : Draft → Prop} (h : Lifts p C P Q)

include h

theorem scanControls (nodes : List NodeId) (s : Scan) :
    ∀ draft ∈ (scanControls p nodes s).1, Q draft := by
  induction nodes generalizing s with
  | nil => simp [Model.scanControls]
  | cons n rest ih =>
      rw [Model.scanControls]
      split
      · exact ih s
      · intro draft hdraft
        cases hslug : p.declaredSlug? n with
        | some slug =>
            rw [hslug] at hdraft
            rcases List.mem_cons.1 hdraft with rfl | hdraft
            · exact h.control n slug (Or.inl hslug)
            · exact ih _ draft hdraft
        | none =>
            rw [hslug] at hdraft
            rcases List.mem_cons.1 hdraft with rfl | hdraft
            · exact h.control n _ (Or.inr ⟨_, rfl⟩)
            · exact ih _ draft hdraft

theorem scanForm (form : NodeId) (s : Scan) : ∀ draft ∈ (scanForm p form s).1, Q draft := by
  intro draft hdraft
  rw [Model.scanForm] at hdraft
  exact h.scanControls _ s draft (mem_sortDrafts.1 hdraft)

/-- The slug of a repeater. -/
private theorem repeaterSlug (classes : String) :
    C (orElse (Naming.classSlug classes) "items") ∧
      orElse (Naming.classSlug classes) "items" ≠ "" :=
  ⟨orElse_cases (h.ofClasses classes) h.items, orElse_ne_empty (by decide)⟩

/-- The repeater with what was found in its first instance, or else with the one draft that stands
for the instance. -/
private theorem repeaterOf {found : List Draft} {draft : Draft} {slug : String} (place : Option Nat)
    (tag classes : String) (hslug : C slug ∧ slug ≠ "") (hfound : ∀ a ∈ found, P a)
    (hdraft : P draft) :
    Q (.make place .repeater tag classes slug ""
      (if found.isEmpty then [draft] else found)) := by
  refine h.repeater _ _ _ _ _ hslug.1 hslug.2 ?_ ?_
  · split
    · simp
    · next hne => simpa using hne
  · split
    · simpa using hdraft
    · exact hfound

theorem scanList {scan : Scanner} (hscan : Yields C P scan) {list : NodeId} {s s' : Scan}
    {draft : Draft} (hlist : scanList p scan list s = some (draft, s')) : Q draft := by
  rw [Model.scanList] at hlist
  split at hlist
  · exact absurd hlist (by simp)
  · obtain ⟨rfl, _⟩ := Prod.mk.inj (Option.some.inj hlist)
    have hslug := h.repeaterSlug (p.doc.classes list)
    exact h.repeaterOf _ _ _ hslug (hscan _ _ _ _ hslug.1) (h.item _ _ hslug.1)

theorem scanMembers {scan : Scanner} (hscan : Yields C P scan) (groups : List (List NodeId))
    (s : Scan) : ∀ draft ∈ (scanMembers p scan groups s).1, Q draft := by
  induction groups generalizing s with
  | nil => simp [Model.scanMembers]
  | cons group rest ih =>
      match group with
      | [] => exact ih s
      | [_] => exact ih s
      | first :: second :: others =>
          -- a group with a second member becomes a repeater
          intro draft hdraft
          rw [Model.scanMembers] at hdraft
          have hslug := h.repeaterSlug (p.doc.classes first)
          rcases List.mem_cons.1 hdraft with rfl | hdraft
          · exact h.repeaterOf _ _ _ hslug (hscan _ _ _ _ hslug.1) (h.member _ _ hslug.1)
          · exact ih _ draft hdraft

theorem scanRemaining {scan : Scanner} (hscan : Yields C P scan) (insideList : Bool)
    {context : String} (hcontext : C context) (nodes : List NodeId) (s : Scan) :
    ∀ draft ∈ (scanRemaining p scan insideList context nodes s).1, Q draft := by
  induction nodes generalizing s with
  | nil => simp [Model.scanRemaining]
  | cons n rest ih =>
      rw [Model.scanRemaining]
      split
      · exact ih s
      split
      · -- a list item that is looked into
        intro draft hdraft
        rcases List.mem_append.1 hdraft with hdraft | hdraft
        · exact h.handed draft (hscan _ _ _ _ hcontext draft hdraft)
        · exact ih _ draft hdraft
      split
      · -- a leaf
        split
        · next draft hleaf =>
            intro other hother
            rcases List.mem_cons.1 hother with rfl | hother
            · exact h.leaf n insideList context _ hcontext hleaf
            · exact ih _ other hother
        · exact ih s
      · -- a container
        have hown := orElse_cases (h.ofClasses (p.doc.classes n)) hcontext
        intro draft hdraft
        dsimp only at hdraft
        split at hdraft
        · exact ih _ draft hdraft
        · next hnested =>
            rcases List.mem_cons.1 hdraft with rfl | hdraft
            · exact h.container n _ (by simpa using hnested) (hscan _ _ _ _ hown)
            · exact ih _ draft hdraft

theorem scanChildren {scan : Scanner} (hscan : Yields C P scan) (container : NodeId)
    (insideList : Bool) {context : String} (hcontext : C context) (s : Scan) :
    ∀ draft ∈ (scanChildren p scan container insideList context s).1, Q draft := by
  intro draft hdraft
  rw [Model.scanChildren] at hdraft
  rcases List.mem_append.1 (mem_sortDrafts.1 hdraft) with hdraft | hdraft
  · exact h.scanMembers hscan _ _ draft hdraft
  · exact h.scanRemaining hscan _ hcontext _ _ draft hdraft

/-- **One level of a scan**, above scans that find only what `P` holds of. -/
theorem scanNode {depth : Nat} (hscan : Yields C P (scanNode p depth)) :
    Yields C Q (Model.scanNode p (depth + 1)) := by
  intro n insideList context s hcontext
  have hown := orElse_cases (h.ofClasses (p.doc.classes n)) hcontext
  rw [Model.scanNode]
  split
  · exact h.scanForm n s
  split
  · split
    · next draft s' hlist => simpa using h.scanList hscan hlist
    · exact h.scanChildren hscan _ _ hown _
  · exact h.scanChildren hscan _ _ hown _

end Lifts

/-- What holds of each draft as it is made is the same on every level. -/
theorem Collects.lifts {p : Page} {C : String → Prop} {P : Draft → Prop} (h : Collects p C P) :
    Lifts p C P P where
  ofClasses := h.ofClasses
  items := h.items
  handed _ hdraft := hdraft
  control := h.control
  item := h.item
  member := h.member
  leaf := h.leaf
  repeater := h.repeater
  container := h.container

/-- With depth 0 nothing is found. -/
theorem yields_scanNode_zero (p : Page) (C : String → Prop) (P : Draft → Prop) :
    Yields C P (scanNode p 0) :=
  fun _ _ _ _ _ _ hdraft => absurd hdraft List.not_mem_nil

/-- **What holds of each draft as it is made holds of all that a scan finds**, at every depth. -/
theorem Collects.scanNode {p : Page} {C : String → Prop} {P : Draft → Prop} (h : Collects p C P)
    (depth : Nat) : Yields C P (scanNode p depth) := by
  induction depth with
  | zero => exact yields_scanNode_zero p C P
  | succ depth ih => exact h.lifts.scanNode ih

/-- **What holds of each draft as it is made holds of all drafts of a page**, if it may be scanned
without a context. -/
theorem Collects.drafts {maxDepth : Nat} {d : Document} {C : String → Prop} {P : Draft → Prop}
    (h : Collects (Page.ofDocument d) C P) (hempty : C "") :
    ∀ draft ∈ Model.drafts maxDepth d, P draft :=
  h.scanNode maxDepth _ _ _ _ hempty

/-- What holds of every field of each draft of a page holds of every field found in it. -/
theorem Collects.fields {maxDepth : Nat} {d : Document} {C : String → Prop} {Q : Field → Prop}
    (h : Collects (Page.ofDocument d) C (Draft.Everywhere Q)) (hempty : C "") :
    ∀ f ∈ Field.preorderAll (Draft.toFields (Model.drafts maxDepth d)), Q f := by
  rw [Field.forall_preorderAll]
  intro f hf
  obtain ⟨draft, hdraft, rfl⟩ := Draft.mem_toFields.1 hf
  exact h.drafts hempty draft hdraft

/-! ### Drafts have slugs -/

theorem declaredSlug?_ne_empty {p : Page} {n : NodeId} {slug : String}
    (h : p.declaredSlug? n = some slug) : slug ≠ "" := by
  simpa using (Option.filter_eq_some_iff.1 h).2

theorem IsControlSlug.ne_empty {p : Page} {n : NodeId} {slug : String}
    (h : IsControlSlug p n slug) : slug ≠ "" := by
  rcases h with h | ⟨k, rfl⟩
  · exact declaredSlug?_ne_empty h
  · intro hempty
    have hlist := congrArg String.toList hempty
    simp at hlist

theorem leafContent_kind (p : Page) (tag : String) (n : NodeId) :
    (leafContent p tag n).1 ≠ .container ∧ (leafContent p tag n).1 ≠ .repeater := by
  rw [leafContent]
  split
  · exact ⟨nofun, nofun⟩
  split
  · exact ⟨nofun, nofun⟩
  split <;> exact ⟨nofun, nofun⟩

/-- The draft of a leaf is no container and no repeater, and has nothing inside. -/
theorem leafDraft?_eq_some {p : Page} {n : NodeId} {insideList : Bool} {context : String}
    {draft : Draft} (h : leafDraft? p n insideList context = some draft) :
    ∃ kind content, (kind ≠ .container ∧ kind ≠ .repeater) ∧
      draft = .make (some (p.position n)) kind (p.tagOf n) (p.doc.classes n)
        (leafSlug (p.tagOf n) (p.doc.classes n) insideList context) content [] := by
  simp only [leafDraft?] at h
  split at h
  · exact absurd h (by simp)
  · exact ⟨_, _, leafContent_kind p (p.tagOf n) n, (Option.some.inj h).symm⟩

/-- **Every draft has a slug**, unless it is a container. -/
theorem collects_named (p : Page) : Collects p (fun _ => True)
    (Draft.Everywhere fun f => f.kind = .container ∨ f.slug ≠ "") where
  ofClasses _ := trivial
  items := trivial
  control n slug hslug := Draft.everywhere_mk.2 ⟨Or.inr hslug.ne_empty, by simp⟩
  item n slug _ := by
    rw [itemDraft]
    split
    · exact Draft.everywhere_make.2 ⟨Or.inr (joined_ne_empty (by decide) (by decide)), by simp⟩
    · exact Draft.everywhere_make.2 ⟨Or.inr (orElse_ne_empty (by decide)), by simp⟩
  member n slug _ := Draft.everywhere_make.2 ⟨Or.inr (orElse_ne_empty (by decide)), by simp⟩
  leaf n insideList context draft _ hdraft := by
    obtain ⟨kind, content, -, rfl⟩ := leafDraft?_eq_some hdraft
    refine Draft.everywhere_make.2 ⟨Or.inr ?_, by simp⟩
    dsimp only [Field.slug, Field.info]
    exact leafSlug_ne_empty _ _ _ _
  repeater _ _ _ _ _ _ hslug _ hinner := Draft.everywhere_make.2 ⟨Or.inr hslug, hinner⟩
  container _ _ _ hinner := Draft.everywhere_mk.2 ⟨Or.inl rfl, hinner⟩

/-- **Every field of a page has a slug.** -/
theorem named_drafts (maxDepth : Nat) (d : Document) :
    ∀ f ∈ Draft.toFields (drafts maxDepth d), f.Named :=
  Field.forall_preorderAll.1 ((collects_named _).fields trivial)

/-- **The slugs of a page pass their check.** -/
theorem checkSlugs_extract (maxDepth : Nat) (d : Document) :
    Validation.checkSlugs (extract maxDepth d) = .ok () :=
  checkSlugs_assignIds _ (named_drafts maxDepth d)

/-! ### Drafts inside of drafts -/

/-- **A field has fields inside exactly if it is a container or a repeater.** -/
def Nests (f : Field) : Prop := f.children ≠ [] ↔ f.kind = .container ∨ f.kind = .repeater

/-- A draft of a leaf has nothing inside. -/
private theorem nests_leaf {info : FieldInfo} (h : info.kind ≠ .container ∧ info.kind ≠ .repeater) :
    Nests (.mk info (Draft.toFields [])) := by
  simp [Nests, Draft.toFields, Field.children, Field.kind, Field.info, h]

theorem collects_nests (p : Page) : Collects p (fun _ => True) (Draft.Everywhere Nests) where
  ofClasses _ := trivial
  items := trivial
  control n slug _ := Draft.everywhere_mk.2 ⟨nests_leaf ⟨nofun, nofun⟩, by simp⟩
  item n slug _ := by
    rw [itemDraft]
    split <;> exact Draft.everywhere_make.2 ⟨nests_leaf ⟨nofun, nofun⟩, by simp⟩
  member n slug _ := Draft.everywhere_make.2 ⟨nests_leaf ⟨nofun, nofun⟩, by simp⟩
  leaf n insideList context draft _ hdraft := by
    obtain ⟨kind, content, hkind, rfl⟩ := leafDraft?_eq_some hdraft
    exact Draft.everywhere_make.2 ⟨nests_leaf hkind, by simp⟩
  repeater _ _ _ _ _ _ _ hne hinner := Draft.everywhere_make.2
    ⟨iff_of_true (Draft.toFields_ne_nil.2 hne) (Or.inr rfl), hinner⟩
  container _ _ hne hinner := Draft.everywhere_mk.2
    ⟨iff_of_true (Draft.toFields_ne_nil.2 hne) (Or.inl rfl), hinner⟩

/-- **Exactly the containers and repeaters of a page have fields inside.** -/
theorem nests_drafts (maxDepth : Nat) (d : Document) :
    ∀ f ∈ Field.preorderAll (Draft.toFields (drafts maxDepth d)), Nests f :=
  (collects_nests _).fields trivial

end Model

end ThemeCompiler
