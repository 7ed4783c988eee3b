/-
**A template binds what its field group offers.**

The template and the field group of a page are made from the same forest by two recursions of their
own: the template keeps the elements of containers and treats a row that is nothing but its own text
in a special way, the group flattens containers and hands on the keys that are taken.  Read as lists
of what is bound, with a list of its own for every row, the two are the same.

Main definitions:

* `ThemeCompiler.Binding` — a field that is bound, with what is bound in its rows;
* `ThemeCompiler.Template.Inlined.bindingsAll`, `ThemeCompiler.GroupField.bindings` — what a
  template and a field group bind.

Main results:

* `ThemeCompiler.Template.Laid.bindings_eq` — the template of a forest binds what its group offers;
* `ThemeCompiler.Template.lower_binds` — **so does a lowered forest**, in the same scopes, and every
  snippet is used once.
-/

import ThemeCompiler.FieldGroup
import ThemeCompiler.Proofs.Template.Inlined

set_option relaxedAutoImplicit false
set_option autoImplicit false

namespace ThemeCompiler

/-- **A field that is bound**: its slug, and for a field with rows what is bound in one of them. -/
inductive Binding where
  | mk (slug : String) (row : Option (List Binding))
  deriving Repr

/-! ### What a field group binds -/

namespace GroupField

mutual

/-- The binding that a field of a group offers. -/
def binding : GroupField → Binding
  | mk head _ none => .mk head.name none
  | mk head _ (some sub) => .mk head.name (some (bindings sub))

/-- **The bindings that the fields of a group offer.** -/
def bindings : List GroupField → List Binding
  | [] => []
  | f :: rest => binding f :: bindings rest

end

theorem bindings_append (fields others : List GroupField) :
    bindings (fields ++ others) = bindings fields ++ bindings others := by
  induction fields with
  | nil => rfl
  | cons f rest ih => simp only [List.cons_append, bindings, ih]

end GroupField

namespace Template

/-! ### What a template binds -/

/-- The slug of a snippet. -/
def Snippet.slug : Snippet → String
  | .value slug _ => slug
  | .image slug _ => slug
  | .link slug _ _ => slug
  | .loop slug _ => slug
  | .control _ slug _ _ => slug

/-- The scope in which a snippet reads its field.  Loops and form controls read none. -/
def Snippet.scope? : Snippet → Option Scope
  | .value _ scope => some scope
  | .image _ scope => some scope
  | .link _ scope _ => some scope
  | .loop _ _ => none
  | .control _ _ _ _ => none

namespace Inlined

mutual

/-- What a tree binds: an element what is inside of it, a snippet its field. -/
def bindings : Inlined → List Binding
  | element _ _ children => bindingsAll children
  | leaf _ snippet => [.mk snippet.slug none]
  | loop _ slug body => [.mk slug (some (bindingsAll body))]

/-- **What trees bind**, in order. -/
def bindingsAll : List Inlined → List Binding
  | [] => []
  | tree :: rest => tree.bindings ++ bindingsAll rest

end

end Inlined

open Inlined (bindingsAll entriesAll markups)

/-! ### The same bindings -/

/-- The group fields of a list that begins with a field that is neither a container nor a
repeater. -/
private theorem bindings_ofFields_leaf {info : FieldInfo}
    (hkind : info.kind ≠ .container ∧ info.kind ≠ .repeater) (around : String)
    (children rest : List Field) (taken : List String) : ∃ others,
    GroupField.bindings (FieldGroup.ofFields around (.mk info children :: rest) taken).1
      = .mk info.slug none :: GroupField.bindings (FieldGroup.ofFields around rest others).1 := by
  rw [FieldGroup.ofFields, FieldGroup.ofField]
  cases h : info.kind with
  | container => exact absurd h hkind.1
  | repeater => exact absurd h hkind.2
  | text | textarea | image | link | formField => exact ⟨_, rfl⟩

/-- The group fields of a list that begins with a repeater. -/
private theorem bindings_ofFields_repeater {info : FieldInfo} (hkind : info.kind = .repeater)
    (around : String) (children rest : List Field) (taken : List String) : ∃ key inside others,
    GroupField.bindings (FieldGroup.ofFields around (.mk info children :: rest) taken).1
      = .mk info.slug (some (GroupField.bindings (FieldGroup.ofFields key children inside).1))
        :: GroupField.bindings (FieldGroup.ofFields around rest others).1 := by
  rw [FieldGroup.ofFields, FieldGroup.ofField, hkind]
  exact ⟨_, _, _, rfl⟩

/-- **The template of a forest binds what its group offers**, whatever keys are taken. -/
theorem Laid.bindings_eq {scope : Scope} {fields : List Field} {trees : List Inlined}
    (h : Laid scope fields trees) : ∀ (around : String) (taken : List String),
    bindingsAll trees = GroupField.bindings (FieldGroup.ofFields around fields taken).1 := by
  induction h with
  | nil => intro around taken; rfl
  | @container _ info children _ _ _ hkind _ _ ihinner ih =>
      intro around taken
      have hfield : FieldGroup.ofField around (.mk info children) taken
          = FieldGroup.ofFields around children taken := by
        rw [FieldGroup.ofField, hkind]
      simp only [bindingsAll, Inlined.bindings, FieldGroup.ofFields, GroupField.bindings_append,
        hfield, ← ih, ← ihinner]
  | @text _ info children rest _ _ hkind _ ih =>
      intro around taken
      have hleaf : info.kind ≠ .container ∧ info.kind ≠ .repeater := by
        rcases hkind with h | h <;> simp [h]
      obtain ⟨others, hgroup⟩ := bindings_ofFields_leaf hleaf around children rest taken
      rw [hgroup, ← ih]
      rfl
  | @bare _ info children rest _ _ _ hbare _ ih =>
      intro around taken
      have hleaf : info.kind ≠ .container ∧ info.kind ≠ .repeater := by
        rcases bareSnippet?_cases hbare with ⟨h, -⟩ | ⟨h, -⟩ | ⟨h, -⟩ <;> simp [h]
      obtain ⟨others, hgroup⟩ := bindings_ofFields_leaf hleaf around children rest taken
      rw [hgroup, ← ih]
      rcases bareSnippet?_cases hbare with ⟨-, rfl⟩ | ⟨-, rfl⟩ | ⟨-, rfl⟩ <;> rfl
  | @repeater _ info children rest _ _ _ hkind _ _ _ ihinner ih =>
      intro around taken
      obtain ⟨key, inside, others, hgroup⟩ :=
        bindings_ofFields_repeater hkind around children rest taken
      rw [hgroup, ← ih, ← ihinner]
      simp only [bindingsAll, Inlined.bindings, List.append_nil, List.singleton_append]
  | @ownText _ info only children rest _ _ _ hkind hown _ ih =>
      intro around taken
      obtain ⟨key, inside, others, hgroup⟩ :=
        bindings_ofFields_repeater hkind around children rest taken
      -- the only field of the row is bound in both, with its element or without
      obtain ⟨honly, -, -, below, rfl⟩ := selfValue?_eq_some hown
      have hleaf : only.kind ≠ .container ∧ only.kind ≠ .repeater := by
        rcases honly with h | h <;> simp [h]
      obtain ⟨last, hrow⟩ := bindings_ofFields_leaf hleaf key below [] inside
      rw [hgroup, ← ih, hrow]
      rfl

/-! ### The same scopes -/

/-- The number of a snippet that reads its field in a scope: the markup around all of it refers to
it, or the body of a loop does, and then it reads a row. -/
private def ReadsIn (scope : Scope) (trees : List Inlined) (p : Nat × Snippet) : Prop :=
  ∀ reads, p.2.scope? = some reads →
    p.1 ∈ Markup.refsAll (markups trees) ∧ reads = scope ∨
      reads = .row ∧ ∃ q ∈ entriesAll trees, p.1 ∈ q.2.refs

/-- More trees refer to more snippets. -/
private theorem ReadsIn.mono {scope : Scope} {trees others : List Inlined} {p : Nat × Snippet}
    (h : ReadsIn scope trees p)
    (hrefs : Markup.refsAll (markups trees) ⊆ Markup.refsAll (markups others))
    (hentries : entriesAll trees ⊆ entriesAll others) : ReadsIn scope others p := by
  intro reads hreads
  rcases h reads hreads with ⟨hmem, hscope⟩ | ⟨hrow, q, hq, href⟩
  · exact .inl ⟨hrefs hmem, hscope⟩
  · exact .inr ⟨hrow, q, hentries hq, href⟩

/-- What reads a row in the body of a loop reads a row where the loop stands. -/
private theorem ReadsIn.of_body {scope : Scope} {body rest : List Inlined} {p : Nat × Snippet}
    (h : ReadsIn .row body p) (id : Nat) (slug : String) :
    ReadsIn scope (.loop id slug body :: rest) p := by
  intro reads hreads
  rcases h reads hreads with ⟨hmem, hrow⟩ | ⟨hrow, q, hq, href⟩
  · exact .inr ⟨hrow, (id, .loop slug (markups body)), by simp [entriesAll, Inlined.entries], hmem⟩
  · exact .inr ⟨hrow, q, by simp [entriesAll, Inlined.entries, hq], href⟩

/-- **A snippet reads its field in the scope that its place is in.** -/
private theorem Laid.readsIn {scope : Scope} {fields : List Field} {trees : List Inlined}
    (h : Laid scope fields trees) : ∀ p ∈ entriesAll trees, ReadsIn scope trees p := by
  induction h with
  | nil => simp [entriesAll]
  | container _ _ _ ihinner ih =>
      intro p hp
      rcases List.mem_append.1 hp with hp | hp
      · exact (ihinner p hp).mono (List.subset_append_left _ _) (List.subset_append_left _ _)
      · exact (ih p hp).mono (List.subset_append_right _ _) (List.subset_append_right _ _)
  | text _ _ ih =>
      intro p hp
      rcases List.mem_append.1 hp with hp | hp
      · obtain rfl := List.mem_singleton.1 hp
        intro reads hreads
        exact .inl ⟨by simp [markups, Inlined.markup, Markup.refsAll, Markup.refs],
          (Option.some.inj hreads).symm⟩
      · exact (ih p hp).mono (List.subset_append_right _ _) (List.subset_append_right _ _)
  | bare hbare _ ih =>
      intro p hp
      rcases List.mem_append.1 hp with hp | hp
      · obtain rfl := List.mem_singleton.1 hp
        intro reads hreads
        refine .inl ⟨by simp [markups, Inlined.markup, Markup.refsAll, Markup.refs], ?_⟩
        rcases bareSnippet?_cases hbare with ⟨-, rfl⟩ | ⟨-, rfl⟩ | ⟨-, rfl⟩
        · exact (Option.some.inj hreads).symm
        · exact (Option.some.inj hreads).symm
        · simp [Snippet.scope?] at hreads
      · exact (ih p hp).mono (List.subset_append_right _ _) (List.subset_append_right _ _)
  | repeater _ _ _ _ ihinner ih =>
      intro p hp
      rcases List.mem_append.1 hp with hp | hp
      · rcases List.mem_append.1 hp with hp | hp
        · have hbody := ihinner p (by simpa [entriesAll, Inlined.entries] using hp)
          refine ReadsIn.of_body (hbody.mono ?_ ?_) _ _
          · simp [markups, Inlined.markup, Markup.refsAll, Markup.refs]
          · simp [entriesAll, Inlined.entries]
        · -- a loop itself reads no field
          obtain rfl := List.mem_singleton.1 hp
          intro reads hreads
          simp [Snippet.scope?] at hreads
      · exact (ih p hp).mono (List.subset_append_right _ _) (List.subset_append_right _ _)
  | ownText _ _ _ ih =>
      intro p hp
      rcases List.mem_append.1 hp with hp | hp
      · rcases List.mem_append.1 hp with hp | hp
        · refine ReadsIn.of_body (p := p) ?_ _ _
          obtain rfl : p = _ := by simpa [entriesAll, Inlined.entries] using hp
          intro reads hreads
          exact .inl ⟨by simp [markups, Inlined.markup, Markup.refsAll, Markup.refs],
            (Option.some.inj hreads).symm⟩
        · obtain rfl := List.mem_singleton.1 hp
          intro reads hreads
          simp [Snippet.scope?] at hreads
      · exact (ih p hp).mono (List.subset_append_right _ _) (List.subset_append_right _ _)

section

variable (fields : List Field)

/-- Every snippet of the table is referred to once, by the markup or by the body of a loop. -/
theorem count_refs_lower (id : Nat) :
    (Markup.refsAll (lower fields).1 ++ (lower fields).2.toList.flatMap Snippet.refs).count id
      = if id < (lower fields).2.size then 1 else 0 := by
  rw [(refs_lower_perm fields).count_eq, List.nodup_range.count]
  simp only [List.mem_range]

/-- **A snippet reads a row exactly if the body of a loop refers to it.** -/
theorem scope_eq_row_iff {id : Nat} {snippet : Snippet} {scope : Scope}
    (hsnippet : (lower fields).2[id]? = some snippet) (hscope : snippet.scope? = some scope) :
    scope = .row ↔
      ∃ (i : Nat) (loop : Snippet), (lower fields).2[i]? = some loop ∧ id ∈ loop.refs := by
  have hentry := (getElem?_lower_iff fields id snippet).1 hsnippet
  rcases (laid_inline fields).readsIn _ hentry scope hscope with ⟨hmem, rfl⟩ | ⟨rfl, q, hq, href⟩
  · -- the markup around everything refers to it, so no loop does
    rw [markups_inline] at hmem
    refine ⟨fun h => (nomatch h), fun ⟨i, loop, hloop, href⟩ => ?_⟩
    have hnodup := (refs_lower_perm fields).nodup_iff.2 List.nodup_range
    rw [← Array.getElem?_toList] at hloop
    exact (List.disjoint_of_nodup_append hnodup hmem
      (List.mem_flatMap.2 ⟨loop, List.mem_of_getElem? hloop, href⟩)).elim
  · exact ⟨fun _ => ⟨q.1, q.2, (getElem?_lower_iff fields q.1 q.2).2 hq, href⟩, fun _ => rfl⟩

/-- **A template binds what its field group offers**: the same fields in the same order and nesting;
a snippet reads a row of a field exactly if it stands in a loop; every snippet of the table is
referred to once, and the body of a loop refers to snippets that come before the loop. -/
theorem lower_binds (name slug : String) (kind : TemplateKind) :
    bindingsAll (inline (lower fields).1 (lower fields).2)
        = GroupField.bindings (FieldGroup.generate fields name slug kind).fields ∧
      (∀ (id : Nat) (snippet : Snippet) (scope : Scope),
        (lower fields).2[id]? = some snippet → snippet.scope? = some scope →
        (scope = .row ↔
          ∃ (i : Nat) (loop : Snippet), (lower fields).2[i]? = some loop ∧ id ∈ loop.refs)) ∧
      (∀ id : Nat, (Markup.refsAll (lower fields).1 ++
          (lower fields).2.toList.flatMap Snippet.refs).count id
        = if id < (lower fields).2.size then 1 else 0) ∧
      ∀ (id : Nat) (snippet : Snippet), (lower fields).2[id]? = some snippet →
        ∀ i ∈ snippet.refs, i < id := by
  refine ⟨?bindings, ?scopes, count_refs_lower fields, ?order⟩
  case bindings => exact (laid_inline fields).bindings_eq _ _
  case scopes => exact fun id snippet scope => scope_eq_row_iff fields
  case order => exact fun id snippet => refs_lower_lt fields

end

end Template

end ThemeCompiler
