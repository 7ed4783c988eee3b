/-
**Markup with its snippets in place.**

Markup refers to snippets by their numbers in a table, and the body of a loop is markup again.  With
every snippet in the place of its number a template is a plain tree, which is treated by recursion.
Lowering registers the snippets of a forest one after the other, what is inside of a loop before the
loop itself.  So on a walk that comes to a loop after its body the numbers are met in order, and
nothing refers to a snippet that is not there yet.

Main definitions:

* `ThemeCompiler.Template.Markup.refs`, `ThemeCompiler.Template.Snippet.refs` — the numbers that
  markup and the bodies of loops refer to;
* `ThemeCompiler.Template.Inlined`, `ThemeCompiler.Template.inline` — markup with its snippets in
  place;
* `ThemeCompiler.Template.Laid` — the trees for a forest of fields in a scope.

Main results:

* `ThemeCompiler.Template.Laid.inductionOn` — induction on the trees of a forest;
* `ThemeCompiler.Template.laid_inline` — **a lowered forest with its snippets in place** is the
  template of its fields;
* `ThemeCompiler.Template.getElem?_lower_iff`, `ThemeCompiler.Template.ids_inline` — the table holds
  the snippets of that template, in order;
* `ThemeCompiler.Template.refs_lower_perm`, `ThemeCompiler.Template.refs_lower_lt` — every snippet
  is referred to once, and the body of a loop refers to earlier ones.
-/

import Mathlib.Data.List.Nodup
import Mathlib.Data.List.Range
import ThemeCompiler.Template.Markup

set_option relaxedAutoImplicit false
set_option autoImplicit false

namespace ThemeCompiler

namespace Template

/-! ### References -/

mutual

/-- The numbers that markup refers to, in order. -/
def Markup.refs : Markup → List Nat
  | .element _ _ children => Markup.refsAll children
  | .snippet id => [id]

/-- **The numbers that a list of markup refers to**, in order. -/
def Markup.refsAll : List Markup → List Nat
  | [] => []
  | m :: rest => m.refs ++ Markup.refsAll rest

end

/-- The numbers that the body of a snippet refers to. -/
def Snippet.refs : Snippet → List Nat
  | .loop _ body => Markup.refsAll body
  | _ => []

@[simp] theorem Snippet.refs_value (slug : String) (scope : Scope) :
    (Snippet.value slug scope).refs = [] := rfl

@[simp] theorem Snippet.refs_loop (slug : String) (body : List Markup) :
    (Snippet.loop slug body).refs = Markup.refsAll body := rfl

/-! ### Snippets in place -/

/-- **Markup with its snippets in place**; each keeps its number in the table. -/
inductive Inlined where
  | element (tag classes : String) (children : List Inlined)
  | leaf (id : Nat) (snippet : Snippet)
  | loop (id : Nat) (slug : String) (body : List Inlined)
  deriving Repr

section

variable (table : Table) (inlineBody : List Markup → List Inlined)

mutual

/-- A node of markup with its snippets in place, when it is known what becomes of the bodies of
loops. -/
def inlineNode : Markup → List Inlined
  | .element tag classes children => [.element tag classes (inlineNodes children)]
  | .snippet id =>
      match table[id]? with
      | none => []
      | some (.loop slug body) => [.loop id slug (inlineBody body)]
      | some leaf => [.leaf id leaf]

/-- A list of markup with its snippets in place, when it is known what becomes of the bodies of
loops. -/
def inlineNodes : List Markup → List Inlined
  | [] => []
  | m :: rest => inlineNode m ++ inlineNodes rest

end

end

/-- Markup with its snippets in place, for loops that are nested less than `fuel` deep. -/
def inlineWithin (table : Table) : Nat → List Markup → List Inlined
  | 0, _ => []
  | fuel + 1, markup => inlineNodes table (inlineWithin table fuel) markup

/-- **Markup with its snippets in place.**  Loops are nested at most as deep as there are
snippets. -/
def inline (markup : List Markup) (table : Table) : List Inlined :=
  inlineWithin table (table.size + 1) markup

namespace Inlined

mutual

/-- The markup of a tree, with numbers in the places of its snippets. -/
def markup : Inlined → Markup
  | element tag classes children => .element tag classes (markups children)
  | leaf id _ => .snippet id
  | loop id _ _ => .snippet id

/-- The markup of trees. -/
def markups : List Inlined → List Markup
  | [] => []
  | tree :: rest => tree.markup :: markups rest

end

mutual

/-- The snippets of a tree with their numbers; a loop comes after what is inside of it. -/
def entries : Inlined → List (Nat × Snippet)
  | element _ _ children => entriesAll children
  | leaf id snippet => [(id, snippet)]
  | loop id slug body => entriesAll body ++ [(id, .loop slug (markups body))]

/-- **The snippets of trees with their numbers**; a loop comes after what is inside of it. -/
def entriesAll : List Inlined → List (Nat × Snippet)
  | [] => []
  | tree :: rest => tree.entries ++ entriesAll rest

end

theorem markups_append (trees others : List Inlined) :
    markups (trees ++ others) = markups trees ++ markups others := by
  induction trees with
  | nil => rfl
  | cons tree trees ih => simp only [List.cons_append, markups, ih]

theorem entriesAll_append (trees others : List Inlined) :
    entriesAll (trees ++ others) = entriesAll trees ++ entriesAll others := by
  induction trees with
  | nil => rfl
  | cons tree trees ih => simp only [List.cons_append, entriesAll, ih, List.append_assoc]

end Inlined

open Inlined (markups entriesAll)

/-! ### The template of a forest -/

/-- The snippet that stands for a field by itself: an image, a link or a form control. -/
def bareSnippet? (scope : Scope) (info : FieldInfo) : Option Snippet :=
  match info.kind with
  | .image => some (.image info.slug scope)
  | .link => some (.link info.slug scope info.classes)
  | .formField =>
      some (.control info.tag info.slug (controlType info.tag info.input) info.classes)
  | _ => none

/-- **The trees for a forest of fields in a scope**, whatever the numbers of their snippets are. -/
inductive Laid : Scope → List Field → List Inlined → Prop
  | nil {scope : Scope} : Laid scope [] []
  /-- A container is an element around its fields. -/
  | container {scope : Scope} {info : FieldInfo} {children rest : List Field}
      {inner trees : List Inlined} (hkind : info.kind = .container)
      (hinner : Laid scope children inner) (hrest : Laid scope rest trees) :
      Laid scope (.mk info children :: rest) (.element info.tag info.classes inner :: trees)
  /-- A text is an element around its value. -/
  | text {scope : Scope} {info : FieldInfo} {children rest : List Field} {trees : List Inlined}
      {id : Nat} (hkind : info.kind = .text ∨ info.kind = .textarea)
      (hrest : Laid scope rest trees) :
      Laid scope (.mk info children :: rest)
        (.element info.tag info.classes [.leaf id (.value info.slug scope)] :: trees)
  /-- Images, links and controls bring their own elements. -/
  | bare {scope : Scope} {info : FieldInfo} {children rest : List Field} {trees : List Inlined}
      {id : Nat} {snippet : Snippet} (hbare : bareSnippet? scope info = some snippet)
      (hrest : Laid scope rest trees) :
      Laid scope (.mk info children :: rest) (.leaf id snippet :: trees)
  /-- A repeater is a loop over an element around the fields of a row. -/
  | repeater {scope : Scope} {info : FieldInfo} {children rest : List Field}
      {inner trees : List Inlined} {id : Nat} (hkind : info.kind = .repeater)
      (hown : selfValue? info children = none) (hinner : Laid .row children inner)
      (hrest : Laid scope rest trees) :
      Laid scope (.mk info children :: rest)
        (.loop id info.slug [.element info.tag info.classes inner] :: trees)
  /-- The element of a row is the one of its only field, if that is the text of the row itself. -/
  | ownText {scope : Scope} {info only : FieldInfo} {children rest : List Field}
      {trees : List Inlined} {id inside : Nat} (hkind : info.kind = .repeater)
      (hown : selfValue? info children = some only) (hrest : Laid scope rest trees) :
      Laid scope (.mk info children :: rest)
        (.loop id info.slug
          [.element info.tag info.classes [.leaf inside (.value only.slug .row)]] :: trees)

theorem Laid.append {scope : Scope} {fields others : List Field} {trees more : List Inlined}
    (h : Laid scope fields trees) (h' : Laid scope others more) :
    Laid scope (fields ++ others) (trees ++ more) := by
  induction h with
  | nil => exact h'
  | container hkind hinner _ _ ih => exact .container hkind hinner (ih h')
  | text hkind _ ih => exact .text hkind (ih h')
  | bare hbare _ ih => exact .bare hbare (ih h')
  | repeater hkind hown hinner _ _ ih => exact .repeater hkind hown hinner (ih h')
  | ownText hkind hown _ ih => exact .ownText hkind hown (ih h')

/-! ### Lowering registers snippets -/

/-- **The snippets of trees were registered**, one after the other from the end of a table on. -/
structure Registers (trees : List Inlined) (table table' : Table) : Prop where
  snippets : table'.toList = table.toList ++ (entriesAll trees).map Prod.snd
  ids : (entriesAll trees).map Prod.fst = List.range' table.size (entriesAll trees).length

namespace Registers

variable {trees others : List Inlined} {table table' table'' : Table}

theorem refl (table : Table) : Registers [] table table := ⟨by simp [entriesAll], rfl⟩

theorem size_eq (h : Registers trees table table') :
    table'.size = table.size + (entriesAll trees).length := by
  have hlength := congrArg List.length h.snippets
  simpa using hlength

theorem append (h : Registers trees table table') (h' : Registers others table' table'') :
    Registers (trees ++ others) table table'' where
  snippets := by
    rw [h'.snippets, h.snippets, Inlined.entriesAll_append, List.map_append, List.append_assoc]
  ids := by
    rw [Inlined.entriesAll_append, List.map_append, h.ids, h'.ids, h.size_eq, List.length_append,
      List.range'_append_1]

theorem leaf (snippet : Snippet) (table : Table) :
    Registers [.leaf table.size snippet] table (table.push snippet) :=
  ⟨by simp [entriesAll, Inlined.entries], rfl⟩

theorem element (h : Registers trees table table') (tag classes : String) :
    Registers [.element tag classes trees] table table' := by
  have hentries : entriesAll [.element tag classes trees] = entriesAll trees := by
    simp [entriesAll, Inlined.entries]
  exact ⟨by rw [hentries, h.snippets], by rw [hentries, h.ids]⟩

theorem loop (h : Registers trees table table') (slug : String) :
    Registers [.loop table'.size slug trees] table (table'.push (.loop slug (markups trees))) := by
  have hentries : entriesAll [.loop table'.size slug trees]
      = entriesAll trees ++ [(table'.size, .loop slug (markups trees))] := by
    simp [entriesAll, Inlined.entries]
  refine ⟨?_, ?_⟩
  · rw [hentries, Array.toList_push, h.snippets]
    simp
  · rw [hentries, List.map_append, h.ids, List.length_append, List.length_singleton,
      List.range'_1_concat, h.size_eq]
    rfl

end Registers

/-- What lowering makes of fields: the markup of the trees for them, whose snippets it
registers. -/
private def Lowers (scope : Scope) (table : Table) (fields : List Field)
    (lowered : List Markup × Table) : Prop :=
  ∃ trees, Laid scope fields trees ∧ markups trees = lowered.1 ∧ Registers trees table lowered.2

/-- A field that stands for a snippet by itself. -/
private theorem lowers_bare {scope : Scope} {info : FieldInfo} {snippet : Snippet}
    (h : bareSnippet? scope info = some snippet) (children : List Field) (table : Table) :
    Lowers scope table [.mk info children] ([.snippet table.size], table.push snippet) :=
  ⟨_, .bare h .nil, rfl, .leaf snippet table⟩

mutual

private theorem lowers_lowerField : ∀ (f : Field) (scope : Scope) (table : Table),
    Lowers scope table [f] ([(lowerField f scope table).1], (lowerField f scope table).2)
  | .mk info children, scope, table => by
      rw [lowerField]
      cases hkind : info.kind with
      | container =>
          obtain ⟨inner, hlaid, hmarkup, hreg⟩ := lowers_lowerAll children scope table
          refine ⟨_, .container hkind hlaid .nil, ?_, hreg.element info.tag info.classes⟩
          simp only [markups, Inlined.markup, hmarkup]
      | text =>
          exact ⟨_, .text (.inl hkind) .nil, rfl,
            (Registers.leaf _ table).element info.tag info.classes⟩
      | textarea =>
          exact ⟨_, .text (.inr hkind) .nil, rfl,
            (Registers.leaf _ table).element info.tag info.classes⟩
      | image => exact lowers_bare (by rw [bareSnippet?, hkind]) children table
      | link => exact lowers_bare (by rw [bareSnippet?, hkind]) children table
      | formField => exact lowers_bare (by rw [bareSnippet?, hkind]) children table
      | repeater =>
          cases hown : selfValue? info children with
          | some only =>
              have hreg := ((Registers.leaf (.value only.slug .row) table).element info.tag
                info.classes).loop info.slug
              exact ⟨_, .ownText hkind hown .nil, rfl, hreg⟩
          | none =>
              obtain ⟨inner, hlaid, hmarkup, hreg⟩ := lowers_lowerAll children .row table
              have hloop := (hreg.element info.tag info.classes).loop info.slug
              refine ⟨_, .repeater hkind hown hlaid .nil, rfl, ?_⟩
              simpa only [markups, Inlined.markup, hmarkup] using hloop

private theorem lowers_lowerAll : ∀ (fields : List Field) (scope : Scope) (table : Table),
    Lowers scope table fields (lowerAll fields scope table)
  | [], _, table => ⟨[], .nil, rfl, .refl table⟩
  | f :: rest, scope, table => by
      obtain ⟨trees, hlaid, hmarkup, hreg⟩ := lowers_lowerField f scope table
      obtain ⟨more, hlaid', hmarkup', hreg'⟩ :=
        lowers_lowerAll rest scope (lowerField f scope table).2
      refine ⟨trees ++ more, hlaid.append hlaid', ?_, hreg.append hreg'⟩
      rw [Inlined.markups_append, hmarkup, hmarkup']
      rfl

end

/-! ### What the table of a forest holds -/

theorem bareSnippet?_cases {scope : Scope} {info : FieldInfo} {snippet : Snippet}
    (h : bareSnippet? scope info = some snippet) :
    info.kind = .image ∧ snippet = .image info.slug scope ∨
      info.kind = .link ∧ snippet = .link info.slug scope info.classes ∨
      info.kind = .formField ∧
        snippet = .control info.tag info.slug (controlType info.tag info.input) info.classes := by
  cases hkind : info.kind with
  | image => exact .inl ⟨rfl, by simpa [bareSnippet?, hkind] using h.symm⟩
  | link => exact .inr (.inl ⟨rfl, by simpa [bareSnippet?, hkind] using h.symm⟩)
  | formField => exact .inr (.inr ⟨rfl, by simpa [bareSnippet?, hkind] using h.symm⟩)
  | text | textarea | repeater | container => simp [bareSnippet?, hkind] at h

/-- A row that is nothing but its own text has one field, a text. -/
theorem selfValue?_eq_some {info only : FieldInfo} {children : List Field}
    (h : selfValue? info children = some only) :
    (only.kind = .text ∨ only.kind = .textarea) ∧ only.tag = info.tag ∧
      only.classes = info.classes ∧ ∃ inside, children = [.mk only inside] := by
  match children with
  | [] => simp [selfValue?] at h
  | [.mk first inside] =>
      simp only [selfValue?, Option.ite_none_right_eq_some, Bool.and_eq_true, Bool.or_eq_true,
        beq_iff_eq, Option.some.injEq] at h
      obtain ⟨⟨⟨hkind, htag⟩, hclasses⟩, rfl⟩ := h
      exact ⟨hkind, htag, hclasses, inside, rfl⟩
  | _ :: _ :: _ => simp [selfValue?] at h

/-- **A table holds the snippets of trees** under their numbers. -/
def Holds (table : Table) (trees : List Inlined) : Prop :=
  ∀ p ∈ entriesAll trees, table[p.1]? = some p.2

section

variable {table : Table} {trees : List Inlined}

theorem holds_element_cons {tag classes : String} {inner : List Inlined} :
    Holds table (.element tag classes inner :: trees) ↔ Holds table inner ∧ Holds table trees := by
  simp only [Holds, entriesAll, Inlined.entries, List.forall_mem_append]

theorem holds_leaf_cons {id : Nat} {snippet : Snippet} :
    Holds table (.leaf id snippet :: trees) ↔ table[id]? = some snippet ∧ Holds table trees := by
  simp only [Holds, entriesAll, Inlined.entries, List.forall_mem_append, List.forall_mem_singleton]

theorem holds_loop_cons {id : Nat} {slug : String} {body : List Inlined} :
    Holds table (.loop id slug body :: trees) ↔
      (Holds table body ∧ table[id]? = some (.loop slug (markups body))) ∧ Holds table trees := by
  simp only [Holds, entriesAll, Inlined.entries, List.forall_mem_append, List.forall_mem_singleton]

/-- **Induction on the trees of a forest**, whose snippets a table holds: what holds without trees,
and of one more element, snippet or loop before others. -/
theorem Laid.inductionOn {P : List Inlined → Prop} {scope : Scope} {fields : List Field}
    (h : Laid scope fields trees) (htable : Holds table trees) (nil : P [])
    (element : ∀ tag classes inner rest, Holds table inner → P inner → P rest →
      P (.element tag classes inner :: rest))
    (leaf : ∀ id snippet rest, table[id]? = some snippet →
      (∀ slug body, snippet ≠ .loop slug body) → P rest → P (.leaf id snippet :: rest))
    (loop : ∀ id slug body rest, table[id]? = some (.loop slug (markups body)) → P body → P rest →
      P (.loop id slug body :: rest)) : P trees := by
  induction h with
  | nil => exact nil
  | container _ _ _ ihinner ih =>
      rw [holds_element_cons] at htable
      exact element _ _ _ _ htable.1 (ihinner htable.1) (ih htable.2)
  | text _ _ ih =>
      rw [holds_element_cons, holds_leaf_cons] at htable
      have hvalue := leaf _ _ _ htable.1.1 nofun nil
      exact element _ _ _ _ (holds_leaf_cons.2 htable.1) hvalue (ih htable.2)
  | bare hbare _ ih =>
      rw [holds_leaf_cons] at htable
      refine leaf _ _ _ htable.1 ?_ (ih htable.2)
      rcases bareSnippet?_cases hbare with ⟨-, rfl⟩ | ⟨-, rfl⟩ | ⟨-, rfl⟩ <;> exact nofun
  | @repeater _ info _ _ _ _ _ _ _ _ _ ihinner ih =>
      rw [holds_loop_cons, holds_element_cons] at htable
      have hrow := element info.tag info.classes _ _ htable.1.1.1 (ihinner htable.1.1.1) nil
      exact loop _ _ _ _ htable.1.2 hrow (ih htable.2)
  | @ownText _ info _ _ _ _ _ _ _ _ _ ih =>
      rw [holds_loop_cons, holds_element_cons, holds_leaf_cons] at htable
      have hvalue := leaf _ _ _ htable.1.1.1.1 nofun nil
      have hrow := element info.tag info.classes _ _ (holds_leaf_cons.2 htable.1.1.1) hvalue nil
      exact loop _ _ _ _ htable.1.2 hrow (ih htable.2)

end

/-- **Markup of trees becomes the trees again** where the table holds their snippets. -/
private theorem inlineNodes_markups {table : Table} {scope : Scope} {fields : List Field}
    {trees : List Inlined} (h : Laid scope fields trees) (htable : Holds table trees) :
    ∀ fuel, (entriesAll trees).length ≤ fuel →
      inlineNodes table (inlineWithin table fuel) (markups trees) = trees := by
  refine h.inductionOn (P := fun trees => ∀ fuel, (entriesAll trees).length ≤ fuel →
    inlineNodes table (inlineWithin table fuel) (markups trees) = trees) htable ?nil ?element ?leaf
    ?loop
  case nil => exact fun _ _ => rfl
  case element =>
    intro tag classes inner rest _ hinner hrest fuel hfuel
    simp only [entriesAll, Inlined.entries, List.length_append] at hfuel
    have hinner := hinner fuel (Nat.le_of_add_right_le hfuel)
    have hrest := hrest fuel (Nat.le_of_add_left_le hfuel)
    simp only [markups, Inlined.markup, inlineNodes, inlineNode, hinner, hrest,
      List.singleton_append]
  case leaf =>
    intro id snippet rest hsnippet hleaf hrest fuel hfuel
    simp only [entriesAll, Inlined.entries, List.length_append] at hfuel
    have hrest := hrest fuel (Nat.le_of_add_left_le hfuel)
    cases snippet with
    | loop slug body => exact absurd rfl (hleaf slug body)
    | value | image | link | control =>
        simp only [markups, Inlined.markup, inlineNodes, inlineNode, hsnippet, hrest,
          List.singleton_append]
  case loop =>
    intro id slug body rest hsnippet hbody hrest fuel hfuel
    simp only [entriesAll, Inlined.entries, List.length_append, List.length_singleton] at hfuel
    -- the body is one loop further in
    obtain ⟨fuel, rfl⟩ : ∃ k, fuel = k + 1 := ⟨fuel - 1, by omega⟩
    have hbody := hbody fuel (by omega)
    have hrest := hrest (fuel + 1) (by omega)
    simp only [markups, Inlined.markup, inlineNodes, inlineNode, hsnippet, inlineWithin, hbody]
    exact congrArg _ hrest

/-- A list whose numbers count from 0 holds each entry at its number. -/
private theorem getElem?_map_snd_iff {entries : List (Nat × Snippet)}
    (h : entries.map Prod.fst = List.range' 0 entries.length) (id : Nat) (snippet : Snippet) :
    (entries.map Prod.snd)[id]? = some snippet ↔ (id, snippet) ∈ entries := by
  have hnumber : ∀ {i : Nat} {p : Nat × Snippet}, entries[i]? = some p → p.1 = i := by
    intro i p hp
    have hfst : (entries.map Prod.fst)[i]? = some p.1 := by rw [List.getElem?_map, hp]; rfl
    rw [h] at hfst
    obtain ⟨hlt, heq⟩ := List.getElem?_eq_some_iff.1 hfst
    simpa using heq.symm
  constructor
  · intro hs
    rw [List.getElem?_map, Option.map_eq_some_iff] at hs
    obtain ⟨p, hp, rfl⟩ := hs
    rw [← hnumber hp]
    exact List.mem_of_getElem? hp
  · intro hmem
    obtain ⟨i, hi⟩ := List.mem_iff_getElem?.1 hmem
    obtain rfl : id = i := hnumber hi
    rw [List.getElem?_map, hi]
    rfl

section

variable (fields : List Field)

/-- **A forest that is lowered**: its markup with the snippets in place, which are those of the
table. -/
private theorem inline_lower :
    Laid .page fields (inline (lower fields).1 (lower fields).2) ∧
      markups (inline (lower fields).1 (lower fields).2) = (lower fields).1 ∧
      Registers (inline (lower fields).1 (lower fields).2) #[] (lower fields).2 := by
  obtain ⟨trees, hlaid, hmarkup, hreg⟩ := lowers_lowerAll fields .page #[]
  have htable : Holds (lower fields).2 trees := by
    intro p hp
    rw [← Array.getElem?_toList, lower, hreg.snippets]
    simpa using (getElem?_map_snd_iff (by simpa using hreg.ids) p.1 p.2).2 hp
  have hsize : (lower fields).2.size = (entriesAll trees).length := by
    rw [lower, hreg.size_eq, Array.size_empty, Nat.zero_add]
  have hinline : inline (lower fields).1 (lower fields).2 = trees := by
    rw [inline, inlineWithin, lower, ← hmarkup]
    exact inlineNodes_markups hlaid htable _ hsize.ge
  rw [hinline]
  exact ⟨hlaid, hmarkup, hreg⟩

/-- **A lowered forest with its snippets in place is the template of its fields.** -/
theorem laid_inline : Laid .page fields (inline (lower fields).1 (lower fields).2) :=
  (inline_lower fields).1

/-- The markup of a forest is that of its template. -/
theorem markups_inline : markups (inline (lower fields).1 (lower fields).2) = (lower fields).1 :=
  (inline_lower fields).2.1

/-- **The table holds the snippets of the template.** -/
theorem toList_lower :
    (lower fields).2.toList
      = (entriesAll (inline (lower fields).1 (lower fields).2)).map Prod.snd := by
  simpa using (inline_lower fields).2.2.snippets

/-- **The numbers of the snippets are met in order.** -/
theorem ids_inline :
    (entriesAll (inline (lower fields).1 (lower fields).2)).map Prod.fst
      = List.range (lower fields).2.size := by
  have hreg := (inline_lower fields).2.2
  have hsize := hreg.size_eq
  rw [hreg.ids, List.range_eq_range', hsize]
  simp

/-- A snippet of the table stands in its place in the template. -/
theorem getElem?_lower_iff (id : Nat) (snippet : Snippet) :
    (lower fields).2[id]? = some snippet ↔
      (id, snippet) ∈ entriesAll (inline (lower fields).1 (lower fields).2) := by
  rw [← Array.getElem?_toList, toList_lower]
  exact getElem?_map_snd_iff (by simpa using (inline_lower fields).2.2.ids) id snippet

end

/-! ### Who refers to a snippet -/

/-- **Every snippet of a template is referred to once**, by the markup around all of it or by the
body of a loop. -/
theorem Laid.refs_perm {scope : Scope} {fields : List Field} {trees : List Inlined}
    (h : Laid scope fields trees) :
    (Markup.refsAll (markups trees) ++ (entriesAll trees).flatMap (·.2.refs)).Perm
      ((entriesAll trees).map Prod.fst) := by
  induction h with
  | nil => exact .refl _
  | container _ _ _ ihinner ih =>
      rw [List.perm_iff_count] at ihinner ih ⊢
      intro id
      have hinner := ihinner id
      have hrest := ih id
      simp only [List.count_append, markups, Inlined.markup, Markup.refsAll, Markup.refs,
        entriesAll, Inlined.entries, List.flatMap_append, List.map_append] at hinner hrest ⊢
      omega
  | text _ _ ih => exact ih.cons _
  | bare hbare _ ih =>
      rcases bareSnippet?_cases hbare with ⟨-, rfl⟩ | ⟨-, rfl⟩ | ⟨-, rfl⟩ <;> exact ih.cons _
  | repeater _ _ _ _ ihinner ih =>
      rw [List.perm_iff_count] at ihinner ih ⊢
      intro id
      have hinner := ihinner id
      have hrest := ih id
      simp only [List.count_append, markups, Inlined.markup, Markup.refsAll, Markup.refs,
        entriesAll, Inlined.entries, Snippet.refs_loop, List.flatMap_append, List.map_append,
        List.append_nil, List.flatMap_singleton, List.map_cons, List.map_nil] at hinner hrest ⊢
      omega
  | ownText _ _ _ ih =>
      rw [List.perm_iff_count] at ih ⊢
      intro id
      have hrest := ih id
      simp only [List.count_append, markups, Inlined.markup, Markup.refsAll, Markup.refs,
        entriesAll, Inlined.entries, Snippet.refs_loop, Snippet.refs_value, List.flatMap_append,
        List.map_append, List.append_nil, List.flatMap_singleton, List.map_cons, List.map_nil,
        List.count_nil] at hrest ⊢
      omega

/-- The entries of a loop and of what comes after it, when the numbers are met in order: what the
body refers to comes earlier than the loop. -/
private theorem refs_lt_loop {id : Nat} {slug : String} {body rest : List Inlined}
    (hsorted : (entriesAll (.loop id slug body :: rest)).Pairwise (·.1 < ·.1))
    (hrefs : Markup.refsAll (markups body) ⊆ (entriesAll body).map Prod.fst) :
    ∀ i ∈ (Snippet.loop slug (markups body)).refs, i < id := by
  intro i hi
  rw [entriesAll, Inlined.entries, List.pairwise_append, List.pairwise_append] at hsorted
  obtain ⟨q, hq, rfl⟩ := List.mem_map.1 (hrefs hi)
  exact hsorted.1.2.2 q hq _ (List.mem_singleton_self _)

/-- Where numbers are met in order, the body of a loop refers to smaller ones than its own. -/
theorem Laid.refs_lt {scope : Scope} {fields : List Field} {trees : List Inlined}
    (h : Laid scope fields trees) :
    (entriesAll trees).Pairwise (·.1 < ·.1) →
      ∀ p ∈ entriesAll trees, ∀ id ∈ p.2.refs, id < p.1 := by
  induction h with
  | nil => simp [entriesAll]
  | container _ _ _ ihinner ih =>
      intro hsorted
      rw [entriesAll, Inlined.entries, List.pairwise_append] at hsorted
      rw [entriesAll, Inlined.entries, List.forall_mem_append]
      exact ⟨ihinner hsorted.1, ih hsorted.2.1⟩
  | text _ _ ih =>
      intro hsorted
      rw [entriesAll, List.pairwise_append] at hsorted
      rw [entriesAll, List.forall_mem_append]
      exact ⟨by simp [Inlined.entries, entriesAll, Snippet.refs], ih hsorted.2.1⟩
  | bare hbare _ ih =>
      intro hsorted
      rw [entriesAll, List.pairwise_append] at hsorted
      rw [entriesAll, List.forall_mem_append]
      refine ⟨?_, ih hsorted.2.1⟩
      rcases bareSnippet?_cases hbare with ⟨-, rfl⟩ | ⟨-, rfl⟩ | ⟨-, rfl⟩ <;>
        simp [Inlined.entries, Snippet.refs]
  | @repeater _ info _ _ inner trees id _ _ hinner _ ihinner ih =>
      intro hsorted
      have hloop := refs_lt_loop hsorted (by
        simpa [markups, Inlined.markup, Markup.refsAll, Markup.refs, entriesAll, Inlined.entries]
          using List.Subset.trans (List.subset_append_left _ _) hinner.refs_perm.subset)
      rw [entriesAll, Inlined.entries, List.pairwise_append, List.pairwise_append] at hsorted
      rw [entriesAll, Inlined.entries, List.forall_mem_append, List.forall_mem_append,
        List.forall_mem_singleton]
      have hbody : entriesAll [.element info.tag info.classes inner] = entriesAll inner := by
        simp [entriesAll, Inlined.entries]
      rw [hbody] at hsorted ⊢
      exact ⟨⟨ihinner hsorted.1.1, hloop⟩, ih hsorted.2.1⟩
  | ownText _ _ _ ih =>
      intro hsorted
      have hloop := refs_lt_loop hsorted (by
        simp [markups, Inlined.markup, Markup.refsAll, Markup.refs, entriesAll, Inlined.entries])
      rw [entriesAll, Inlined.entries, List.pairwise_append] at hsorted
      rw [entriesAll, Inlined.entries, List.forall_mem_append, List.forall_mem_append,
        List.forall_mem_singleton]
      exact ⟨⟨by simp [entriesAll, Inlined.entries], hloop⟩, ih hsorted.2.1⟩

section

variable (fields : List Field)

/-- **Every snippet of a lowered forest is referred to once.** -/
theorem refs_lower_perm :
    (Markup.refsAll (lower fields).1 ++ (lower fields).2.toList.flatMap Snippet.refs).Perm
      (List.range (lower fields).2.size) := by
  have hperm := (laid_inline fields).refs_perm
  rwa [markups_inline, ids_inline, ← List.flatMap_map, ← toList_lower] at hperm

/-- **The body of a loop refers to snippets that come before the loop.** -/
theorem refs_lower_lt {id : Nat} {snippet : Snippet} (h : (lower fields).2[id]? = some snippet) :
    ∀ i ∈ snippet.refs, i < id := by
  have hsorted : (entriesAll (inline (lower fields).1 (lower fields).2)).Pairwise (·.1 < ·.1) := by
    rw [← List.pairwise_map (f := Prod.fst) (R := (· < ·)), ids_inline]
    exact List.pairwise_lt_range
  exact (laid_inline fields).refs_lt hsorted _ ((getElem?_lower_iff fields id snippet).1 h)

end

end Template

end ThemeCompiler
