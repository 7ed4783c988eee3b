/-
**Which fields a template emits.**

Every snippet of a template is written once, unless it is inside of an element that the writer takes
for one without content: of such an element only the start tag is written.  Repeaters and containers
are made from elements of any name, `br` and `link` among them, so fields can be lost this way.  A
template emits all of its fields exactly if no element around one of them has the name of an
element without content.

Main definitions:

* `ThemeCompiler.Template.ownedBy` — the pieces that belong to a snippet;
* `ThemeCompiler.Template.Inlined.shownAll` — the snippets that are written;
* `ThemeCompiler.Field.Displays` — a field whose element is written with what is inside of it.

Main results:

* `ThemeCompiler.Template.ownedBy_of_mem` — **what is written belongs to the snippets that are
  shown**, and each has its pieces once;
* `ThemeCompiler.Template.Laid.allShown_iff` — everything is shown exactly if every field
  displays what is inside of it;
* `ThemeCompiler.Template.write_emits` — **the fields that a template of a page emits**.
-/

import ThemeCompiler.Proofs.Model.Renaming
import ThemeCompiler.Proofs.Template.Pieces

set_option relaxedAutoImplicit false
set_option autoImplicit false

namespace ThemeCompiler

/-- **A field whose element is written with what is inside of it**: images, links and controls have
elements of their own, all other elements must not have the name of one without content. -/
def Field.Displays (f : Field) : Prop :=
  f.kind = .image ∨ f.kind = .link ∨ f.kind = .formField ∨ Html.isVoid f.info.tag = false

/-- What is not an image, a link or a control displays what is inside of it unless it has the name
of an element without content. -/
theorem Field.displays_iff {info : FieldInfo} {children : List Field}
    (h : info.kind ≠ .image ∧ info.kind ≠ .link ∧ info.kind ≠ .formField) :
    (Field.mk info children).Displays ↔ Html.isVoid info.tag = false := by
  simp [Field.Displays, Field.kind, Field.info, h]

namespace Template

open Inlined (markups entriesAll chunksAll)

/-! ### The pieces of a snippet -/

/-- **The pieces that belong to a snippet**, in order. -/
def ownedBy (id : Nat) (chunks : List Chunk) : List Piece :=
  (chunks.filter (·.owner == some id)).map (·.piece)

section

variable (id depth : Nat)

theorem ownedBy_append (chunks others : List Chunk) :
    ownedBy id (chunks ++ others) = ownedBy id chunks ++ ownedBy id others := by
  rw [ownedBy, List.filter_append, List.map_append]
  rfl

theorem ownedBy_line (inner : List Chunk) : ownedBy id (line depth inner) = ownedBy id inner := by
  simp [line, ownedBy]

theorem ownedBy_startTag (tag classes : String) : ownedBy id (startTag tag classes) = [] := rfl

theorem ownedBy_endTag (tag : String) : ownedBy id (endTag tag) = [] := rfl

theorem ownedBy_linesFor (owner : Nat) (lines : List (Nat × List Piece)) :
    ownedBy id (linesFor owner depth lines)
      = if owner = id then lines.flatMap Prod.snd else [] := by
  induction lines with
  | nil => simp [linesFor, ownedBy]
  | cons l rest ih =>
      have hline : ownedBy id (l.2.map (Chunk.mk (some owner)))
          = if owner = id then l.2 else [] := by
        simp only [ownedBy, List.filter_map, List.map_map]
        split
        · next h => simp [h, Function.comp_def]
        · next h => simp [h, Function.comp_def]
      rw [linesFor, List.flatMap_cons, ownedBy_append, ownedBy_line, hline, ← linesFor, ih]
      split <;> simp

end

/-! ### The snippets that are written -/

namespace Inlined

mutual

/-- The snippets of a tree that are not inside of an element without content. -/
def shown : Inlined → List (Nat × Snippet)
  | element tag _ children => if Html.isVoid tag then [] else shownAll children
  | leaf id snippet => [(id, snippet)]
  | loop id slug body => shownAll body ++ [(id, .loop slug (markups body))]

/-- **The snippets that are written**: those that are not inside of an element without content. -/
def shownAll : List Inlined → List (Nat × Snippet)
  | [] => []
  | tree :: rest => shown tree ++ shownAll rest

end

mutual

theorem shown_sublist : ∀ tree : Inlined, tree.shown.Sublist tree.entries
  | element tag classes children => by
      rw [shown, entries]
      split
      · exact List.nil_sublist _
      · exact shownAll_sublist children
  | leaf id snippet => .refl _
  | loop id slug body => (shownAll_sublist body).append_right _

/-- The snippets that are written are snippets of the trees, in the same order. -/
theorem shownAll_sublist : ∀ trees : List Inlined, (shownAll trees).Sublist (entriesAll trees)
  | [] => .refl _
  | tree :: rest => (shown_sublist tree).append (shownAll_sublist rest)

end

end Inlined

open Inlined (shownAll shownAll_sublist)

/-- The pieces of the snippets in a list that have a number. -/
private def piecesOf (id : Nat) (snippets : List (Nat × Snippet)) : List Piece :=
  (snippets.filter (·.1 == id)).flatMap (·.2.pieces)

private theorem piecesOf_append (id : Nat) (snippets others : List (Nat × Snippet)) :
    piecesOf id (snippets ++ others) = piecesOf id snippets ++ piecesOf id others := by
  rw [piecesOf, List.filter_append, List.flatMap_append]
  rfl

private theorem piecesOf_singleton (id owner : Nat) (snippet : Snippet) :
    piecesOf id [(owner, snippet)] = if owner = id then snippet.pieces else [] := by
  by_cases h : owner = id <;> simp [piecesOf, h]

private theorem piecesOf_eq_nil {id : Nat} {snippets : List (Nat × Snippet)}
    (h : id ∉ snippets.map Prod.fst) : piecesOf id snippets = [] := by
  have hnone : snippets.filter (·.1 == id) = [] := by
    refine List.filter_eq_nil_iff.2 fun p hp heq => h ?_
    exact List.mem_map.2 ⟨p, hp, by simpa using heq⟩
  rw [piecesOf, hnone, List.flatMap_nil]

private theorem piecesOf_eq {id : Nat} {snippet : Snippet} {snippets : List (Nat × Snippet)}
    (hnodup : (snippets.map Prod.fst).Nodup) (h : (id, snippet) ∈ snippets) :
    piecesOf id snippets = snippet.pieces := by
  obtain ⟨before, after, rfl⟩ := List.append_of_mem h
  rw [List.map_append, List.map_cons, List.nodup_append, List.nodup_cons] at hnodup
  have hbefore : id ∉ before.map Prod.fst := fun hmem =>
    hnodup.2.2 id hmem id List.mem_cons_self rfl
  rw [piecesOf_append, ← List.singleton_append, piecesOf_append, piecesOf_eq_nil hbefore,
    piecesOf_eq_nil hnodup.2.1.1, piecesOf_singleton, if_pos rfl, List.nil_append, List.append_nil]

/-- A value on the line of its element. -/
private theorem ownedBy_value (id owner : Nat) (slug : String) (scope : Scope) (tag : String) :
    ownedBy id (⟨some owner, .code (.value scope slug)⟩ :: endTag tag)
      = if owner = id then (Snippet.value slug scope).pieces else [] := by
  by_cases h : owner = id <;> simp [ownedBy, endTag, h, Snippet.pieces, Snippet.lines]

mutual

private theorem ownedBy_chunks (id : Nat) : ∀ (tree : Inlined) (depth : Nat),
    (tree.shown.map Prod.fst).Nodup →
      ownedBy id (tree.chunks depth) = piecesOf id tree.shown
  | .element tag classes children, depth, hnodup => by
      rw [Inlined.chunks, Inlined.shown]
      split
      · rw [ownedBy_line, ownedBy_startTag]
        rfl
      · next hvoid =>
          rw [Inlined.shown, if_neg hvoid] at hnodup
          split
          · next owner slug scope honly =>
              -- the only value has its piece on the line of the element
              obtain rfl := onlyValue?_eq_some honly
              simp only [ownedBy_line, ownedBy_append, ownedBy_startTag, List.nil_append,
                shownAll, Inlined.shown, List.append_nil, piecesOf_singleton]
              exact ownedBy_value id owner slug scope tag
          · have hinner := ownedBy_chunksAll id children (depth + 1) hnodup
            simp only [ownedBy_append, ownedBy_line, ownedBy_startTag, ownedBy_endTag, hinner,
              List.nil_append, List.append_nil]
  | .leaf owner snippet, depth, _ => by
      rw [Inlined.chunks, Inlined.shown, ownedBy_linesFor, piecesOf_singleton]
      rfl
  | .loop owner slug body, depth, hnodup => by
      rw [Inlined.shown, List.map_append, List.nodup_append] at hnodup
      have hbody := ownedBy_chunksAll id body (depth + 2) hnodup.1
      simp only [Inlined.chunks, Inlined.shown, ownedBy_append, ownedBy_linesFor, hbody,
        piecesOf_append, piecesOf_singleton]
      split
      · next howner =>
          -- nothing inside of the loop has its number
          have hnot : id ∉ (shownAll body).map Prod.fst := fun hmem =>
            hnodup.2.2 id hmem owner (by simp) howner.symm
          simp only [piecesOf_eq_nil hnot, List.append_nil, List.nil_append, Snippet.pieces,
            Snippet.lines, List.flatMap_append]
      · simp only [List.nil_append, List.append_nil]

/-- **What is written belongs to the snippets that are shown**, and each has its pieces once. -/
private theorem ownedBy_chunksAll (id : Nat) : ∀ (trees : List Inlined) (depth : Nat),
    ((shownAll trees).map Prod.fst).Nodup →
      ownedBy id (chunksAll depth trees) = piecesOf id (shownAll trees)
  | [], _, _ => rfl
  | tree :: rest, depth, hnodup => by
      rw [shownAll, List.map_append, List.nodup_append] at hnodup
      rw [chunksAll, shownAll, ownedBy_append, piecesOf_append,
        ownedBy_chunks id tree depth hnodup.1, ownedBy_chunksAll id rest depth hnodup.2.1]

end

/-- **A snippet that is shown has its pieces once, any other none.** -/
theorem ownedBy_of_mem {trees : List Inlined} {id : Nat} {snippet : Snippet}
    (hnodup : ((entriesAll trees).map Prod.fst).Nodup) (h : (id, snippet) ∈ entriesAll trees)
    (depth : Nat) :
    ((id, snippet) ∈ shownAll trees → ownedBy id (chunksAll depth trees) = snippet.pieces) ∧
      ((id, snippet) ∉ shownAll trees → ownedBy id (chunksAll depth trees) = []) := by
  have hshown := hnodup.sublist ((shownAll_sublist trees).map Prod.fst)
  rw [ownedBy_chunksAll id trees depth hshown]
  refine ⟨piecesOf_eq hshown, fun hnot => piecesOf_eq_nil fun hmem => hnot ?_⟩
  -- the numbers of snippets are different, so it would be this one
  obtain ⟨q, hq, hid⟩ := List.mem_map.1 hmem
  have hentry := (shownAll_sublist trees).subset hq
  rwa [List.inj_on_of_nodup_map hnodup hentry h hid] at hq

theorem pieces_ne_nil (snippet : Snippet) : snippet.pieces ≠ [] := by
  cases snippet <;> simp [Snippet.pieces, Snippet.lines, guardedLines, controlPieces, loopStart]

/-! ### When everything is shown -/

open ThemeCompiler.Field (preorderAll)
open Model (Nests)

/-- **Everything of trees is written.** -/
def AllShown (trees : List Inlined) : Prop := shownAll trees = entriesAll trees

section

variable {trees : List Inlined}

private theorem append_eq_iff {α : Type} {a a' b b' : List α} (ha : a.Sublist a')
    (hb : b.Sublist b') : a ++ b = a' ++ b' ↔ a = a' ∧ b = b' := by
  constructor
  · intro h
    have hlength := congrArg List.length h
    rw [List.length_append, List.length_append] at hlength
    have hle := ha.length_le
    have hle' := hb.length_le
    exact ⟨ha.eq_of_length (by omega), hb.eq_of_length (by omega)⟩
  · rintro ⟨rfl, rfl⟩
    rfl

/-- What is inside of an element is lost if the element is taken for one without content. -/
theorem allShown_element_cons {tag classes : String} {inner : List Inlined}
    (hinner : entriesAll inner ≠ []) :
    AllShown (.element tag classes inner :: trees) ↔
      Html.isVoid tag = false ∧ AllShown inner ∧ AllShown trees := by
  rw [AllShown, shownAll, entriesAll,
    append_eq_iff (Inlined.shown_sublist _) (shownAll_sublist trees)]
  cases hvoid : Html.isVoid tag <;>
    simp [Inlined.shown, Inlined.entries, hvoid, AllShown, hinner.symm]

theorem allShown_leaf_cons {id : Nat} {snippet : Snippet} :
    AllShown (.leaf id snippet :: trees) ↔ AllShown trees := by
  rw [AllShown, shownAll, entriesAll, Inlined.shown, Inlined.entries,
    List.append_cancel_left_eq]
  rfl

theorem allShown_loop_cons {id : Nat} {slug : String} {body : List Inlined} :
    AllShown (.loop id slug body :: trees) ↔ AllShown body ∧ AllShown trees := by
  rw [AllShown, shownAll, entriesAll,
    append_eq_iff (Inlined.shown_sublist _) (shownAll_sublist trees), Inlined.shown,
    Inlined.entries, List.append_cancel_right_eq]
  rfl

theorem allShown_nil : AllShown [] := rfl

end

/-- A leaf has no fields inside. -/
private theorem children_eq_nil {info : FieldInfo} {children : List Field}
    (h : Nests (.mk info children)) (hkind : info.kind ≠ .container ∧ info.kind ≠ .repeater) :
    children = [] := by
  by_contra hne
  exact (h.1 hne).elim hkind.1 hkind.2

private theorem kind_of_bare {scope : Scope} {info : FieldInfo} {snippet : Snippet}
    (h : bareSnippet? scope info = some snippet) :
    info.kind = .image ∨ info.kind = .link ∨ info.kind = .formField := by
  rcases bareSnippet?_cases h with ⟨hkind, -⟩ | ⟨hkind, -⟩ | ⟨hkind, -⟩ <;> simp [hkind]

/-- A forest has snippets where containers and repeaters hold fields. -/
theorem Laid.entries_ne_nil {scope : Scope} {fields : List Field} {trees : List Inlined}
    (h : Laid scope fields trees) :
    (∀ f ∈ preorderAll fields, Nests f) → fields ≠ [] → entriesAll trees ≠ [] := by
  induction h with
  | nil => exact fun _ hne => absurd rfl hne
  | container hkind _ _ ihinner _ =>
      intro hnests _
      rw [Field.forall_preorderAll_cons] at hnests
      have hinner := ihinner hnests.2.1 (hnests.1.2 (Or.inl hkind))
      exact List.append_ne_nil_of_left_ne_nil hinner _
  | text | bare | repeater | ownText =>
      intro _ _
      simp [entriesAll, Inlined.entries]

/-- **Everything is shown exactly if every field displays what is inside of it.** -/
theorem Laid.allShown_iff {scope : Scope} {fields : List Field} {trees : List Inlined}
    (h : Laid scope fields trees) : (∀ f ∈ preorderAll fields, Nests f) →
      (AllShown trees ↔ ∀ f ∈ preorderAll fields, f.Displays) := by
  induction h with
  | nil => simp [preorderAll, allShown_nil]
  | @container _ info children _ inner trees hkind hinner _ ihinner ih =>
      intro hnests
      rw [Field.forall_preorderAll_cons] at hnests ⊢
      have hne := hinner.entries_ne_nil hnests.2.1 (hnests.1.2 (Or.inl hkind))
      rw [allShown_element_cons hne, ihinner hnests.2.1, ih hnests.2.2,
        Field.displays_iff (by simp [hkind])]
  | @text _ info children _ trees _ hkind _ ih =>
      intro hnests
      rw [Field.forall_preorderAll_cons] at hnests ⊢
      obtain rfl := children_eq_nil hnests.1 (by rcases hkind with h | h <;> simp [h])
      rw [allShown_element_cons (by simp [entriesAll, Inlined.entries]), ih hnests.2.2,
        allShown_leaf_cons, Field.displays_iff (by rcases hkind with h | h <;> simp [h])]
      simp [allShown_nil, preorderAll]
  | @bare _ info children _ trees _ _ hbare _ ih =>
      intro hnests
      rw [Field.forall_preorderAll_cons] at hnests ⊢
      have hkind := kind_of_bare hbare
      obtain rfl := children_eq_nil hnests.1 (by rcases hkind with h | h | h <;> simp [h])
      have hdisplays : (Field.mk info []).Displays := by
        rcases hkind with h | h | h <;> simp [Field.Displays, Field.kind, Field.info, h]
      rw [allShown_leaf_cons, ih hnests.2.2]
      simp [hdisplays, preorderAll]
  | @repeater _ info children _ inner trees _ hkind _ hinner _ ihinner ih =>
      intro hnests
      rw [Field.forall_preorderAll_cons] at hnests ⊢
      have hne := hinner.entries_ne_nil hnests.2.1 (hnests.1.2 (Or.inr hkind))
      rw [allShown_loop_cons, allShown_element_cons hne, ihinner hnests.2.1, ih hnests.2.2,
        Field.displays_iff (by simp [hkind])]
      simp [allShown_nil, and_assoc]
  | @ownText _ info only children _ trees _ _ hkind hown _ ih =>
      intro hnests
      rw [Field.forall_preorderAll_cons] at hnests ⊢
      -- the only field of the row has the same element and nothing inside
      obtain ⟨honly, htag, -, below, rfl⟩ := selfValue?_eq_some hown
      have hbelow := Field.forall_preorderAll_cons.1 hnests.2.1
      obtain rfl := children_eq_nil hbelow.1 (by rcases honly with h | h <;> simp [h])
      rw [allShown_loop_cons, allShown_element_cons (by simp [entriesAll, Inlined.entries]),
        allShown_leaf_cons, ih hnests.2.2, Field.forall_preorderAll_cons,
        Field.displays_iff (by simp [hkind]),
        Field.displays_iff (by rcases honly with h | h <;> simp [h]), htag]
      simp [allShown_nil, preorderAll]

/-- **The fields that a template of a page emits**: the text is that of the pieces; each snippet has
its pieces in it once or not at all; and all of them have theirs exactly if no field that is written
as an element around its value or its fields has the name of an element without content. -/
theorem write_emits (maxDepth : Nat) (d : Document) :
    let fields := Model.extract maxDepth d
    let table := (lower fields).2
    let chunks := chunksAll 0 (inline (lower fields).1 table)
    write (lower fields).1 table = textOf chunks ∧
      (∀ (id : Nat) (snippet : Snippet), table[id]? = some snippet →
        ownedBy id chunks = snippet.pieces ∨ ownedBy id chunks = []) ∧
      ((∀ (id : Nat) (snippet : Snippet), table[id]? = some snippet →
          ownedBy id chunks = snippet.pieces) ↔
        ∀ f ∈ preorderAll fields, f.Displays) := by
  intro fields table chunks
  have hnodup : ((entriesAll (inline (lower fields).1 table)).map Prod.fst).Nodup := by
    rw [ids_inline]
    exact List.nodup_range
  have howned : ∀ {id : Nat} {snippet : Snippet}, table[id]? = some snippet → _ :=
    fun h => ownedBy_of_mem hnodup ((getElem?_lower_iff fields _ _).1 h) 0
  refine ⟨write_lower fields, fun id snippet h => ?_, ?_⟩
  · by_cases hshown : (id, snippet) ∈ shownAll (inline (lower fields).1 table)
    · exact Or.inl ((howned h).1 hshown)
    · exact Or.inr ((howned h).2 hshown)
  · rw [← (laid_inline fields).allShown_iff (Model.nests_extract maxDepth d)]
    constructor
    · intro hall
      -- a snippet that is not shown has no pieces, but every snippet has some
      have hsubset : entriesAll (inline (lower fields).1 table) ⊆
          shownAll (inline (lower fields).1 table) := by
        rintro ⟨id, snippet⟩ hmem
        have hget := (getElem?_lower_iff fields id snippet).2 hmem
        by_contra hnot
        exact pieces_ne_nil snippet ((hall id snippet hget).symm.trans ((howned hget).2 hnot))
      have hlength := ((hnodup.of_map _).subperm hsubset).length_le
      exact (shownAll_sublist _).eq_of_length_le hlength
    · intro hshown id snippet h
      exact (howned h).1 (hshown ▸ (getElem?_lower_iff fields id snippet).1 h)

-- The text of the lines is a field, but nothing prints it.
example :
    let item : Field := .mk ⟨"", .text, "br", "", "", "item", none, none⟩ []
    let items : Field := .mk ⟨"", .repeater, "br", "", "", "items", none, none⟩ [item]
    ∀ owner ∈ (chunksAll 0 (inline (lower [items]).1 (lower [items]).2)).map (·.owner),
      owner ≠ some 0 := by
  decide +kernel

end Template

end ThemeCompiler
