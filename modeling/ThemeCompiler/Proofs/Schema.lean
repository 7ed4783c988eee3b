/-
**What a component schema keeps of its model.**

A schema is made of insertions under slugs.  Inside of an entry they are all under different slugs,
because the fields of a scope have different ones.  At the top they are not: the slug of a container
may be that of another container, of a repeater, or the name of the component for single fields.  A
container or a repeater takes the place of what was there under its name, while a single field joins
what is there.  So a schema keeps all fields exactly when no two fields at the top clash in this
order, and what does not clash with a later field is kept in any case.

Main definitions:

* `ThemeCompiler.Schema.Lists`, `ThemeCompiler.Schema.Keeps` — entries list a field, a schema keeps
  a field at the top;
* `ThemeCompiler.Schema.SlotFree`, `ThemeCompiler.Schema.NothingOverwritten` — an insertion finds its
  place free, and all of them do;
* `ThemeCompiler.Schema.Clashes` — a field at the top takes the place of an earlier one.

Main results:

* `ThemeCompiler.Schema.listsAll_collect`, `ThemeCompiler.Schema.slotsFree` — **entries keep all
  fields**;
* `ThemeCompiler.Schema.keeps_generate` — what no later field clashes with is kept;
* `ThemeCompiler.Schema.generate_extract_keeps_iff` — **when the schema of a page keeps all**.
-/

import ThemeCompiler.Proofs.Json.SortedMaps
import ThemeCompiler.Proofs.Model.Scopes
import ThemeCompiler.Schema

set_option relaxedAutoImplicit false
set_option autoImplicit false

namespace ThemeCompiler

namespace Schema

open Field (inScope scope slugs preorderAll Distinct DistinctInside DistinctInsideAll)
open Model (Nests)

/-! ### Entries as insertions -/

/-- The entry of a field that is no container. -/
def entryOf (f : Field) : SchemaField :=
  match f.kind with
  | .repeater => .nested .repeater (collect f.children [])
  | _ => .scalar (scalarType f.info)

/-- The entries after fields were added under their slugs. -/
def addAll (fields : List Field) (entries : List (String × SchemaField)) :
    List (String × SchemaField) :=
  fields.foldl (fun sorted f => Sorted.insert f.slug (entryOf f) sorted) entries

mutual

theorem collectField_eq : ∀ (f : Field) (entries : List (String × SchemaField)),
    collectField f entries = addAll (inScope f) entries
  | .mk info children, entries => by
      rw [collectField]
      cases hkind : info.kind with
      | container =>
          rw [Field.inScope_container hkind]
          exact collect_eq children entries
      | repeater | text | textarea | image | link | formField =>
          rw [Field.inScope_of_ne (by simp [hkind])]
          simp [addAll, entryOf, Field.kind, Field.info, Field.slug, Field.children, hkind]

/-- **Entries are made by adding the fields of their scope.** -/
theorem collect_eq : ∀ (fields : List Field) (entries : List (String × SchemaField)),
    collect fields entries = addAll (scope fields) entries
  | [], _ => rfl
  | f :: rest, entries => by
      rw [collect, collectField_eq f entries, collect_eq rest, addAll, addAll, addAll, scope,
        List.foldl_append]

end

/-- Different slugs keep their entries. -/
theorem find?_collect {fields : List Field} (h : Distinct fields) {f : Field}
    (hf : f ∈ scope fields) (entries : List (String × SchemaField)) :
    Sorted.find? f.slug (collect fields entries) = some (entryOf f) := by
  rw [collect_eq]
  exact Sorted.find?_foldl_insert_of_mem h hf entries

/-- The slugs of entries are those of the fields of their scope. -/
theorem find?_collect_of_not_mem {fields : List Field} {key : String} (h : key ∉ slugs fields)
    (entries : List (String × SchemaField)) :
    Sorted.find? key (collect fields entries) = Sorted.find? key entries := by
  rw [collect_eq]
  exact Sorted.find?_foldl_insert_of_not_mem h entries

/-- Every insertion of the fields of a scope finds its place free. -/
def SlotsFree (fields : List Field) : Prop :=
  ∀ before f after, scope fields = before ++ f :: after →
    Sorted.find? f.slug (addAll before []) = none

/-- **In a scope with different slugs nothing is overwritten.** -/
theorem slotsFree {fields : List Field} (h : Distinct fields) : SlotsFree fields := by
  intro before f after hscope
  rw [Distinct, slugs, hscope, List.map_append, List.map_cons] at h
  have hnew : f.slug ∉ before.map Field.slug := fun hmem =>
    List.disjoint_of_nodup_append h hmem List.mem_cons_self
  exact Sorted.find?_foldl_insert_of_not_mem hnew []

/-! ### Entries that list fields -/

mutual

/-- **Entries list a field**: a container by what is inside, a repeater by an entry of its own that
lists what is inside, and a leaf, which has nothing inside, by its type. -/
def Lists (entries : List (String × SchemaField)) : Field → Prop
  | .mk info children =>
      match info.kind with
      | .container => ListsAll entries children
      | .repeater => ∃ inner, Sorted.find? info.slug entries = some (.nested .repeater inner) ∧
          ListsAll inner children
      | _ => Sorted.find? info.slug entries = some (.scalar (scalarType info)) ∧ children = []

/-- Entries list some fields. -/
def ListsAll (entries : List (String × SchemaField)) : List Field → Prop
  | [] => True
  | f :: rest => Lists entries f ∧ ListsAll entries rest

end

mutual

theorem lists_of_entries : ∀ (f : Field) (entries : List (String × SchemaField)),
    (∀ g ∈ inScope f, Sorted.find? g.slug entries = some (entryOf g)) → DistinctInside f →
    (∀ g ∈ f.preorder, Nests g) → Lists entries f
  | .mk info children, entries, hentries, hinside, hnests => by
      obtain ⟨hself, hchildren⟩ := Field.forall_preorder_mk.1 hnests
      have hchildren := Field.forall_preorderAll.2 hchildren
      rw [Lists]
      rw [DistinctInside] at hinside
      cases hkind : info.kind with
      | container =>
          rw [Field.inScope_container hkind] at hentries
          rw [hkind] at hinside
          exact listsAll_of_entries children entries hentries hinside hchildren
      | repeater =>
          rw [Field.inScope_of_ne (by simp [hkind]), List.forall_mem_singleton] at hentries
          rw [hkind] at hinside
          obtain ⟨hdistinct, hinside⟩ := hinside
          refine ⟨collect children [], ?_, listsAll_of_entries children _
            (fun g hg => find?_collect hdistinct hg []) hinside hchildren⟩
          simpa [entryOf, Field.kind, Field.info, Field.slug, Field.children, hkind] using hentries
      | text | textarea | image | link | formField =>
          rw [Field.inScope_of_ne (by simp [hkind]), List.forall_mem_singleton] at hentries
          constructor
          · simpa [entryOf, Field.kind, Field.info, Field.slug, hkind] using hentries
          · by_contra hne
            have := hself.1 hne
            simp [Field.kind, Field.info, hkind] at this

theorem listsAll_of_entries : ∀ (fields : List Field) (entries : List (String × SchemaField)),
    (∀ g ∈ scope fields, Sorted.find? g.slug entries = some (entryOf g)) →
    DistinctInsideAll fields → (∀ g ∈ preorderAll fields, Nests g) → ListsAll entries fields
  | [], _, _, _, _ => trivial
  | f :: rest, entries, hentries, hinside, hnests => by
      rw [scope, List.forall_mem_append] at hentries
      rw [Field.preorderAll, List.forall_mem_append] at hnests
      exact ⟨lists_of_entries f entries hentries.1 hinside.1 hnests.1,
        listsAll_of_entries rest entries hentries.2 hinside.2 hnests.2⟩

end

/-- **The entries of a scope list its fields.** -/
theorem listsAll_collect {fields : List Field} (hdistinct : Distinct fields)
    (hinside : DistinctInsideAll fields) (hnests : ∀ g ∈ preorderAll fields, Nests g) :
    ListsAll (collect fields []) fields :=
  listsAll_of_entries fields _ (fun _ hg => find?_collect hdistinct hg []) hinside hnests

mutual

/-- An entry under another slug leaves a field listed. -/
theorem lists_insert {slug : String} {value : SchemaField} :
    ∀ (f : Field) (entries : List (String × SchemaField)), slug ∉ (inScope f).map Field.slug →
      Lists entries f → Lists (Sorted.insert slug value entries) f
  | .mk info children, entries, hslug, h => by
      rw [Lists] at h ⊢
      cases hkind : info.kind with
      | container =>
          rw [Field.inScope_container hkind] at hslug
          rw [hkind] at h
          exact listsAll_insert children entries hslug h
      | repeater | text | textarea | image | link | formField =>
          rw [Field.inScope_of_ne (by simp [hkind]), List.map_singleton, List.mem_singleton] at hslug
          have hne : ¬ slug = info.slug := hslug
          simpa only [Sorted.find?_insert, if_neg hne, hkind] using h

theorem listsAll_insert {slug : String} {value : SchemaField} :
    ∀ (fields : List Field) (entries : List (String × SchemaField)), slug ∉ slugs fields →
      ListsAll entries fields → ListsAll (Sorted.insert slug value entries) fields
  | [], _, _, _ => trivial
  | f :: rest, entries, hslug, h => by
      rw [Field.slugs_cons, List.mem_append, not_or] at hslug
      exact ⟨lists_insert f entries hslug.1 h.1, listsAll_insert rest entries hslug.2 h.2⟩

end

mutual

/-- What entries list has a place in them. -/
theorem find?_ne_none_of_lists : ∀ (f : Field) (entries : List (String × SchemaField)),
    Lists entries f → ∀ {key : String}, key ∈ (inScope f).map Field.slug →
      Sorted.find? key entries ≠ none
  | .mk info children, entries, h, key, hkey => by
      rw [Lists] at h
      cases hkind : info.kind with
      | container =>
          rw [hkind] at h
          rw [Field.inScope_container hkind] at hkey
          exact find?_ne_none_of_listsAll children entries h hkey
      | repeater =>
          rw [Field.inScope_of_ne (by simp [hkind]), List.map_singleton, List.mem_singleton] at hkey
          rw [hkind] at h
          obtain ⟨inner, hfind, -⟩ := h
          obtain rfl : key = info.slug := hkey
          simp [hfind]
      | text | textarea | image | link | formField =>
          rw [Field.inScope_of_ne (by simp [hkind]), List.map_singleton, List.mem_singleton] at hkey
          rw [hkind] at h
          obtain rfl : key = info.slug := hkey
          simp [h.1]

theorem find?_ne_none_of_listsAll : ∀ (fields : List Field) (entries : List (String × SchemaField)),
    ListsAll entries fields → ∀ {key : String}, key ∈ slugs fields →
      Sorted.find? key entries ≠ none
  | [], _, _, _, hkey => absurd hkey List.not_mem_nil
  | f :: rest, entries, h, key, hkey => by
      rw [Field.slugs_cons] at hkey
      rcases List.mem_append.1 hkey with hkey | hkey
      · exact find?_ne_none_of_lists f entries h.1 hkey
      · exact find?_ne_none_of_listsAll rest entries h.2 hkey

end

/-! ### Fields at the top -/

/-- A container or a repeater, which has an entry of its own at the top. -/
def Groups (f : Field) : Prop := f.kind = .container ∨ f.kind = .repeater

instance (f : Field) : Decidable (Groups f) :=
  inferInstanceAs (Decidable (f.kind = .container ∨ f.kind = .repeater))

/-- **The name of the entry for a field at the top.**  Single fields share one. -/
def topKey (f : Field) : String := if Groups f then f.slug else globalComponent

/-- The kind of the entry for a field at the top. -/
def topKind (f : Field) : SchemaKind := if f.kind = .repeater then .repeater else .component

/-- The entry that single fields are added to. -/
def globalEntry (schema : Schema) : SchemaEntry :=
  (Sorted.find? globalComponent schema).getD ⟨.component, []⟩

/-- The entry for a field at the top once the field is added. -/
def topEntry (schema : Schema) (f : Field) : SchemaEntry :=
  if Groups f then ⟨topKind f, collect f.children []⟩
  else
    { globalEntry schema with
      fields := Sorted.insert f.slug (.scalar (scalarType f.info)) (globalEntry schema).fields }

/-- **Adding a field at the top is one insertion.** -/
theorem addTop_eq (schema : Schema) (f : Field) :
    addTop schema f = Sorted.insert (topKey f) (topEntry schema f) schema := by
  obtain ⟨info, children⟩ := f
  rw [addTop]
  cases hkind : info.kind <;>
    simp [topKey, topEntry, topKind, globalEntry, Groups, Field.kind, Field.info, Field.slug,
      Field.children, hkind]

theorem find?_addTop (schema : Schema) (f : Field) (key : String) :
    Sorted.find? key (addTop schema f)
      = if topKey f = key then some (topEntry schema f) else Sorted.find? key schema := by
  rw [addTop_eq, Sorted.find?_insert]

theorem generate_append (before : List Field) (f : Field) (after : List Field) :
    generate (before ++ f :: after) = after.foldl addTop (addTop (generate before) f) := by
  rw [generate, List.foldl_append, List.foldl_cons, generate]

theorem generate_concat (before : List Field) (f : Field) :
    generate (before ++ [f]) = addTop (generate before) f :=
  generate_append before f []

/-- **A schema keeps a field at the top**: in the entry of its name a container or a repeater has its
kind and all that is inside, and a single field its type. -/
def Keeps (schema : Schema) (f : Field) : Prop :=
  ∃ entry, Sorted.find? (topKey f) schema = some entry ∧
    if Groups f then entry.kind = topKind f ∧ ListsAll entry.fields f.children
    else Lists entry.fields f

/-- Entries list a single field by its type. -/
theorem lists_leaf {f : Field} (h : ¬ Groups f) {entries : List (String × SchemaField)} :
    Lists entries f ↔
      Sorted.find? f.slug entries = some (.scalar (scalarType f.info)) ∧ f.children = [] := by
  obtain ⟨info, children⟩ := f
  rw [Lists]
  cases hkind : info.kind with
  | container => exact absurd (.inl hkind) h
  | repeater => exact absurd (.inr hkind) h
  | text | textarea | image | link | formField => rfl

/-- **A field at the top takes the place of an earlier one**: a container or a repeater of one that
has its entry under the same name, and a single field of one inside of a repeater that has its entry
under the name for single fields. -/
def Clashes (earlier later : Field) : Prop :=
  if Groups later then topKey earlier = later.slug
  else earlier.kind = .repeater ∧ earlier.slug = globalComponent ∧
    later.slug ∈ slugs earlier.children

instance (earlier later : Field) : Decidable (Clashes earlier later) :=
  inferInstanceAs (Decidable (if Groups later then topKey earlier = later.slug
    else earlier.kind = .repeater ∧ earlier.slug = globalComponent ∧
      later.slug ∈ slugs earlier.children))

/-- The place of a field at the top is free. -/
def SlotFree (schema : Schema) (f : Field) : Prop :=
  if Groups f then Sorted.find? f.slug schema = none
  else ∀ entry, Sorted.find? globalComponent schema = some entry →
    Sorted.find? f.slug entry.fields = none

/-- **Every insertion of a field at the top finds its place free.** -/
def NothingOverwritten (fields : List Field) : Prop :=
  ∀ before f after, fields = before ++ f :: after → SlotFree (generate before) f

/-! ### Regular forests -/

/-- **A forest as extraction makes it**: the slugs of every scope differ, and exactly containers and
repeaters have fields inside. -/
structure Regular (fields : List Field) : Prop where
  distinct : Distinct fields
  inside : DistinctInsideAll fields
  nests : ∀ g ∈ preorderAll fields, Nests g

theorem regular_extract (maxDepth : Nat) (d : Document) : Regular (Model.extract maxDepth d) where
  distinct := (Model.distinct_extract maxDepth d).1
  inside := (Model.distinct_extract maxDepth d).2
  nests := Model.nests_extract maxDepth d

namespace Regular

variable {fields before after : List Field} {f g : Field}

theorem nil : Regular [] := ⟨List.nodup_nil, trivial, by simp [preorderAll]⟩

theorem left (h : Regular (before ++ after)) : Regular before where
  distinct := by
    have hdistinct := h.distinct
    rw [Distinct, Field.slugs_append] at hdistinct
    exact hdistinct.of_append_left
  inside := Field.distinctInsideAll_iff.2 fun f hf =>
    Field.distinctInsideAll_iff.1 h.inside f (List.mem_append_left _ hf)
  nests := Field.forall_preorderAll.2 fun f hf =>
    Field.forall_preorderAll.1 h.nests f (List.mem_append_left _ hf)

theorem right (h : Regular (before ++ after)) : Regular after where
  distinct := by
    have hdistinct := h.distinct
    rw [Distinct, Field.slugs_append] at hdistinct
    exact hdistinct.of_append_right
  inside := Field.distinctInsideAll_iff.2 fun f hf =>
    Field.distinctInsideAll_iff.1 h.inside f (List.mem_append_right _ hf)
  nests := Field.forall_preorderAll.2 fun f hf =>
    Field.forall_preorderAll.1 h.nests f (List.mem_append_right _ hf)

/-- What is inside of a field of a regular forest is regular. -/
theorem children (h : Regular fields) (hf : f ∈ fields) : Regular f.children := by
  obtain ⟨info, children⟩ := f
  have hinside := Field.distinctInsideAll_iff.1 h.inside _ hf
  obtain ⟨hself, hchildren⟩ := Field.forall_preorder_mk.1 (Field.forall_preorderAll.1 h.nests _ hf)
  have hchildren := Field.forall_preorderAll.2 hchildren
  rw [DistinctInside] at hinside
  cases hkind : info.kind with
  | container =>
      rw [hkind] at hinside
      refine ⟨?_, hinside, hchildren⟩
      -- a container shares the scope around it
      obtain ⟨before, after, hfields⟩ := List.append_of_mem hf
      have hdistinct := h.distinct
      rw [Distinct, hfields, Field.slugs_append, Field.slugs_cons,
        Field.inScope_container hkind] at hdistinct
      exact hdistinct.of_append_right.of_append_left
  | repeater =>
      rw [hkind] at hinside
      exact ⟨hinside.1, hinside.2, hchildren⟩
  | text | textarea | image | link | formField =>
      have hnil : children = [] := by
        by_contra hne
        have := hself.1 hne
        simp [Field.kind, Field.info, hkind] at this
      rw [Field.children, hnil]
      exact nil

mutual

private theorem preorder : ∀ f : Field, Regular f.children → ∀ g ∈ f.preorder, Regular g.children
  | .mk info children, h, g, hg => by
      rcases List.mem_cons.1 hg with rfl | hg
      · exact h
      · exact preorderAll children h g hg

/-- **What is inside of any field of a regular forest is regular.** -/
theorem preorderAll : ∀ fields : List Field, Regular fields →
    ∀ g ∈ Field.preorderAll fields, Regular g.children
  | [], _, _, hg => absurd hg List.not_mem_nil
  | f :: rest, h, g, hg => by
      rcases List.mem_append.1 hg with hg | hg
      · exact preorder f (h.children List.mem_cons_self) g hg
      · have hsplit : Regular ([f] ++ rest) := h
        exact preorderAll rest hsplit.right g hg

end

/-- Only containers and repeaters have fields inside. -/
theorem children_eq_nil (h : Regular fields) (hf : f ∈ fields) (hgroups : ¬ Groups f) :
    f.children = [] := by
  obtain ⟨info, children⟩ := f
  have hself := (Field.forall_preorder_mk.1 (Field.forall_preorderAll.1 h.nests _ hf)).1
  exact not_not.1 fun hne => hgroups (hself.1 hne)

/-- **A field that is added at the top is kept.** -/
theorem keeps_addTop (h : Regular fields) (hf : f ∈ fields) (schema : Schema) :
    Keeps (addTop schema f) f := by
  refine ⟨topEntry schema f, by rw [find?_addTop, if_pos rfl], ?_⟩
  split
  · next hgroups =>
      have hchildren := h.children hf
      rw [topEntry, if_pos hgroups]
      exact ⟨rfl, listsAll_collect hchildren.distinct hchildren.inside hchildren.nests⟩
  · next hgroups =>
      rw [topEntry, if_neg hgroups, lists_leaf hgroups, Sorted.find?_insert, if_pos rfl]
      exact ⟨rfl, h.children_eq_nil hf hgroups⟩

/-- Fields at the top that share a scope have different slugs. -/
theorem slug_not_mem (h : Regular (before ++ g :: after)) (hf : f ∈ before)
    (hg : g.kind ≠ .container) : g.slug ∉ (inScope f).map Field.slug := by
  intro hmem
  have hdistinct := h.distinct
  rw [Distinct, Field.slugs_append, Field.slugs_cons, Field.inScope_eq, if_neg hg] at hdistinct
  obtain ⟨k, hk, heq⟩ := List.mem_map.1 hmem
  exact List.disjoint_of_nodup_append hdistinct
    (List.mem_map_of_mem (Field.mem_scope.2 ⟨f, hf, hk⟩)) (heq ▸ List.mem_cons_self)

end Regular

/-- **A later field leaves one kept that it does not clash with.**  A single field may join the entry
of a container, where its slug is new. -/
theorem Keeps.addTop {schema : Schema} {f g : Field} (h : Keeps schema f) (hclash : ¬ Clashes f g)
    (hnew : ¬ Groups g → g.slug ∉ (inScope f).map Field.slug) : Keeps (addTop schema g) f := by
  obtain ⟨entry, hfind, hentry⟩ := h
  rw [Clashes] at hclash
  split at hclash
  · next hgroups =>
      -- the entry of a container or a repeater has another name
      refine ⟨entry, ?_, hentry⟩
      rw [find?_addTop, topKey, if_pos hgroups, if_neg (Ne.symm hclash), hfind]
  · next hgroups =>
      by_cases hkey : topKey f = globalComponent
      · have hglobal : globalEntry schema = entry := by
          rw [globalEntry, ← hkey, hfind]
          rfl
        refine ⟨topEntry schema g, ?_, ?_⟩
        · rw [find?_addTop, topKey, if_neg hgroups, hkey, if_pos rfl]
        · rw [topEntry, if_neg hgroups, hglobal]
          split at hentry
          · next hf =>
              rw [if_pos hf]
              refine ⟨hentry.1, listsAll_insert _ _ (fun hmem => ?_) hentry.2⟩
              rw [topKey, if_pos hf] at hkey
              rcases hf with hkind | hkind
              · refine hnew hgroups ?_
                rwa [Field.inScope_eq, if_pos hkind]
              · exact hclash ⟨hkind, hkey, hmem⟩
          · next hf =>
              rw [if_neg hf]
              exact lists_insert _ _ (hnew hgroups) hentry
      · refine ⟨entry, ?_, hentry⟩
        rw [find?_addTop, topKey, if_neg hgroups, if_neg (Ne.symm hkey), hfind]

/-- **What no later field clashes with is kept.** -/
theorem keeps_generate {before after : List Field} {f : Field}
    (h : Regular (before ++ f :: after)) (hclash : ∀ g ∈ after, ¬ Clashes f g) :
    Keeps (generate (before ++ f :: after)) f := by
  rw [generate_append]
  have hself := h.keeps_addTop (List.mem_append_right _ List.mem_cons_self) (generate before)
  suffices hrun : ∀ (rest done : List Field) (schema : Schema), after = done ++ rest →
      Keeps schema f → Keeps (rest.foldl addTop schema) f from hrun after [] _ rfl hself
  intro rest
  induction rest with
  | nil => exact fun _ _ _ hkeeps => hkeeps
  | cons g rest ih =>
      intro done schema hafter hkeeps
      have hg : g ∈ after := hafter ▸ List.mem_append_right _ List.mem_cons_self
      refine ih (done ++ [g]) _ (by simp [hafter]) (hkeeps.addTop (hclash g hg) fun hgroups => ?_)
      have hsplit : Regular ((before ++ f :: done) ++ g :: rest) := by
        simpa [hafter] using h
      exact hsplit.slug_not_mem (by simp) fun hkind => hgroups (.inl hkind)

/-! ### Places that are free -/

/-- **The names of the entries are those of the fields at the top.** -/
theorem find?_generate_eq_none_iff {fields : List Field} {key : String} :
    Sorted.find? key (generate fields) = none ↔ ∀ f ∈ fields, topKey f ≠ key := by
  induction fields using List.reverseRecOn with
  | nil => simp [generate]
  | append_singleton before f ih =>
      rw [generate_concat, find?_addTop, List.forall_mem_append, List.forall_mem_singleton, ← ih]
      by_cases hkey : topKey f = key <;> simp [hkey]

/-- What the entry for a field at the top lists. -/
def topSlugs (f : Field) : List String := if Groups f then slugs f.children else [f.slug]

/-- **What the entry for single fields lists** is one of them or inside of a field that has its entry
under this name. -/
theorem exists_mem_of_globalEntry {fields : List Field} {key : String}
    (h : Sorted.find? key (globalEntry (generate fields)).fields ≠ none) :
    ∃ f ∈ fields, topKey f = globalComponent ∧ key ∈ topSlugs f := by
  induction fields using List.reverseRecOn with
  | nil => exact absurd rfl h
  | append_singleton before f ih =>
      rw [generate_concat, globalEntry, find?_addTop] at h
      split at h
      · next hkey =>
          rw [Option.getD_some, topEntry] at h
          split at h
          · next hgroups =>
              refine ⟨f, by simp, hkey, ?_⟩
              rw [topSlugs, if_pos hgroups]
              by_contra hmem
              exact h (find?_collect_of_not_mem hmem [])
          · next hgroups =>
              rw [Sorted.find?_insert] at h
              split at h
              · next hslug => exact ⟨f, by simp, hkey, by simp [topSlugs, hgroups, hslug]⟩
              · obtain ⟨g, hg, hrest⟩ := ih h
                exact ⟨g, List.mem_append_left _ hg, hrest⟩
      · obtain ⟨g, hg, hrest⟩ := ih h
        exact ⟨g, List.mem_append_left _ hg, hrest⟩

theorem slotFree_leaf {schema : Schema} {f : Field} (h : ¬ Groups f) :
    SlotFree schema f ↔ Sorted.find? f.slug (globalEntry schema).fields = none := by
  rw [SlotFree, if_neg h, globalEntry]
  cases Sorted.find? globalComponent schema with
  | none => simp
  | some entry => simp

/-- **Where nothing clashed so far, a place is free for a field that clashes with nothing.** -/
theorem slotFree_iff {before : List Field} {g : Field} (h : Regular (before ++ [g]))
    (hbefore : before.Pairwise fun f g => ¬ Clashes f g) :
    SlotFree (generate before) g ↔ ∀ f ∈ before, ¬ Clashes f g := by
  by_cases hgroups : Groups g
  · rw [SlotFree, if_pos hgroups, find?_generate_eq_none_iff]
    simp only [Clashes, if_pos hgroups, ne_eq]
  rw [slotFree_leaf hgroups]
  constructor
  · -- a repeater with the name for single fields is kept with all that is inside
    intro hfree f hf hclash
    rw [Clashes, if_neg hgroups] at hclash
    obtain ⟨hkind, hslug, hmem⟩ := hclash
    obtain ⟨done, rest, rfl⟩ := List.append_of_mem hf
    have hrest := (List.pairwise_cons.1 (List.pairwise_append.1 hbefore).2.1).1
    obtain ⟨entry, hfind, hentry⟩ := keeps_generate h.left hrest
    have hf : Groups f := .inr hkind
    rw [topKey, if_pos hf, hslug] at hfind
    rw [if_pos hf] at hentry
    rw [globalEntry, hfind] at hfree
    exact find?_ne_none_of_listsAll _ _ hentry.2 hmem hfree
  · intro hnone
    by_contra hfind
    obtain ⟨f, hf, hkey, hmem⟩ := exists_mem_of_globalEntry hfind
    have hnew := h.slug_not_mem hf fun hkind => hgroups (.inl hkind)
    rw [Field.inScope_eq] at hnew
    rw [topSlugs] at hmem
    rw [topKey] at hkey
    -- in its own scope the slug is new, so it is inside of a repeater
    by_cases hcontainer : f.kind = .container
    · rw [if_pos (.inl hcontainer)] at hmem
      rw [if_pos hcontainer] at hnew
      exact hnew hmem
    by_cases hrepeater : f.kind = .repeater
    · rw [if_pos (.inr hrepeater)] at hmem hkey
      refine hnone f hf ?_
      rw [Clashes, if_neg hgroups]
      exact ⟨hrepeater, hkey, hmem⟩
    · have hf : ¬ Groups f := not_or.2 ⟨hcontainer, hrepeater⟩
      rw [if_neg hf] at hmem
      rw [if_neg hcontainer] at hnew
      exact hnew (by simpa using hmem)

theorem nothingOverwritten_concat {before : List Field} {g : Field} :
    NothingOverwritten (before ++ [g]) ↔
      NothingOverwritten before ∧ SlotFree (generate before) g := by
  refine ⟨fun h => ⟨fun done f rest hsplit => ?_, h before g [] rfl⟩, fun h done f rest hsplit => ?_⟩
  · exact h done f (rest ++ [g]) (by simp [hsplit])
  · rcases List.eq_nil_or_concat rest with rfl | ⟨rest, last, rfl⟩
    · obtain ⟨rfl, hlast⟩ := List.append_inj' hsplit rfl
      obtain rfl := List.head_eq_of_cons_eq hlast
      exact h.2
    · refine h.1 done f rest ?_
      have hlast : before ++ [g] = (done ++ f :: rest) ++ [last] := by simpa using hsplit
      exact (List.append_inj' hlast rfl).1

/-- **Nothing is overwritten exactly when nothing clashes.** -/
theorem nothingOverwritten_iff {fields : List Field} (h : Regular fields) :
    NothingOverwritten fields ↔ fields.Pairwise fun f g => ¬ Clashes f g := by
  induction fields using List.reverseRecOn with
  | nil => exact ⟨fun _ => List.Pairwise.nil, fun _ done f rest hsplit => by simp at hsplit⟩
  | append_singleton before g ih =>
      rw [nothingOverwritten_concat, ih h.left, List.pairwise_append]
      simp only [List.pairwise_singleton, List.forall_mem_singleton, true_and]
      exact and_congr_right fun hbefore => slotFree_iff h hbefore

/-! ### The schema of a page -/

/-- **When the schema of a page keeps all fields.**  In the entries nothing is overwritten; at the top
all fields are kept and nothing is overwritten exactly when no field clashes with an earlier one, and
a field that no later one clashes with is kept in any case. -/
theorem generate_extract_keeps_iff (maxDepth : Nat) (d : Document) :
    (∀ f ∈ preorderAll (Model.extract maxDepth d), SlotsFree f.children) ∧
      (∀ before f after, Model.extract maxDepth d = before ++ f :: after →
        (∀ g ∈ after, ¬ Clashes f g) → Keeps (generate (Model.extract maxDepth d)) f) ∧
      ((∀ f ∈ Model.extract maxDepth d, Keeps (generate (Model.extract maxDepth d)) f) ∧
          NothingOverwritten (Model.extract maxDepth d) ↔
        (Model.extract maxDepth d).Pairwise fun f g => ¬ Clashes f g) := by
  have h := regular_extract maxDepth d
  have hkept : ∀ before f after, Model.extract maxDepth d = before ++ f :: after →
      (∀ g ∈ after, ¬ Clashes f g) → Keeps (generate (Model.extract maxDepth d)) f := by
    intro before f after hsplit hclash
    rw [hsplit] at h ⊢
    exact keeps_generate h hclash
  refine ⟨fun f hf => slotsFree (h.preorderAll _ f hf).distinct, hkept, ?_⟩
  rw [nothingOverwritten_iff h, and_iff_right_iff_imp]
  intro hpairwise f hf
  obtain ⟨before, after, hsplit⟩ := List.append_of_mem hf
  rw [hsplit] at hpairwise
  exact hkept before f after hsplit
    (List.pairwise_cons.1 (List.pairwise_append.1 hpairwise).2.1).1

end Schema

end ThemeCompiler
