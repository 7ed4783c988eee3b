/-
**Where a template opens code.**

The text of a page gets into its template by class lists, slugs, and the names of its elements.  An
attribute value is escaped and a slug has letters, digits and underscores only, so neither can open
a block of code.  The name of an element is written as it stands, and a name may hold any character
but a blank, a slash or an angle bracket that closes: so code is opened by the blocks of the writer,
and wherever the name of a tag does it.

Main definitions:

* `ThemeCompiler.Template.Piece.Over` — a piece whose names, slugs and attributes are as expected;
* `ThemeCompiler.Template.StartsBlock`, `ThemeCompiler.Template.InName` — what comes before a text
  that opens code: the pieces before a block, or the pieces before the name of a tag and a part of
  that.

Main results:

* `ThemeCompiler.Template.Laid.over` — the pieces of a forest have its names and slugs;
* `ThemeCompiler.Template.startsBlock_or_inName` — **code is opened by blocks and by names only**;
* `ThemeCompiler.Template.openings_write` — **where the template of a page opens code**.
-/

import ThemeCompiler.Proofs.Model.Words
import ThemeCompiler.Proofs.Template.Pieces

set_option relaxedAutoImplicit false
set_option autoImplicit false

namespace ThemeCompiler

namespace Template

open Inlined (chunksAll)
open ThemeCompiler.Field (preorderAll)
open Naming (IsSlug)

/-! ### Names, slugs and attributes -/

/-- The slug in a block of code. -/
def Block.slug? : Block → Option String
  | .value _ slug | .bind _ slug | .guard _ slug | .entry _ slug _ | .rows slug | .row slug =>
      some slug
  | .endif | .endwhile => none

/-- The name of a tag that a piece begins. -/
def Piece.name? : Piece → Option String
  | .opening tag | .closing tag => some tag
  | .plain _ | .code _ => none

/-- **A piece over names and slugs**: what is no name and no code opens nothing, also not together
with what stands before it. -/
def Piece.Over (T S : String → Prop) : Piece → Prop
  | .plain text => '<' ∉ text.toList ∧ text.toList.head? ≠ some '?'
  | .opening tag | .closing tag => T tag
  | .code block => ∀ slug ∈ block.slug?, S slug

theorem not_mem_escapeValue (s : String) : '<' ∉ (escapeValue s).toList := by
  intro hmem
  rw [escapeValue, String.toList_ofList, List.mem_flatMap] at hmem
  obtain ⟨c, -, hc⟩ := hmem
  rw [escapeValueChar] at hc
  split at hc
  · simp at hc
  split at hc
  · simp at hc
  split at hc
  · simp at hc
  split at hc
  · simp at hc
  · next hne _ =>
      rw [List.mem_singleton] at hc
      simp [← hc] at hne

theorem not_mem_classAttr (classes : String) : '<' ∉ (classAttr classes).toList := by
  rw [classAttr]
  split <;> simp [not_mem_escapeValue]

theorem toList_pad (depth : Nat) : (pad depth).toList = List.replicate (4 * depth) ' ' := by
  induction depth with
  | zero => simp [pad]
  | succ depth ih =>
      rw [pad, List.replicate_succ, String.join_cons, String.toList_append, ← pad, ih,
        Nat.mul_succ, Nat.add_comm, List.replicate_add]
      simp

section

variable {T S : String → Prop}

theorem over_pad (depth : Nat) : (Piece.plain (pad depth)).Over T S := by
  rw [Piece.Over, toList_pad]
  refine ⟨fun hmem => ?_, fun hhead => ?_⟩
  · simp at hmem
  · have hmem := List.mem_of_head? hhead
    simp at hmem

theorem over_newline : (Piece.plain "\n").Over T S := by
  simp [Piece.Over]

theorem over_classAttr (classes : String) : (Piece.plain (classAttr classes ++ ">")).Over T S := by
  refine ⟨by simp [not_mem_classAttr], ?_⟩
  rw [classAttr]
  split <;> simp

/-- What holds of all pieces of a list. -/
def AllOver (T S : String → Prop) (chunks : List Chunk) : Prop :=
  ∀ c ∈ chunks, c.piece.Over T S

theorem allOver_append {chunks others : List Chunk} :
    AllOver T S (chunks ++ others) ↔ AllOver T S chunks ∧ AllOver T S others :=
  List.forall_mem_append

theorem AllOver.line {inner : List Chunk} (h : AllOver T S inner) (depth : Nat) :
    AllOver T S (line depth inner) := by
  intro c hc
  rcases List.mem_append.1 hc with hc | hc
  · rcases List.mem_cons.1 hc with rfl | hc
    · exact over_pad depth
    · exact h c hc
  · obtain rfl := List.mem_singleton.1 hc
    exact over_newline

theorem allOver_linesFor {lines : List (Nat × List Piece)}
    (h : ∀ p ∈ lines.flatMap Prod.snd, p.Over T S) (id depth : Nat) :
    AllOver T S (linesFor id depth lines) := by
  intro c hc
  obtain ⟨l, hl, hc⟩ := List.mem_flatMap.1 hc
  refine AllOver.line (fun c hc => ?_) _ c hc
  obtain ⟨p, hp, rfl⟩ := List.mem_map.1 hc
  exact h p (List.mem_flatMap.2 ⟨l, hl, hp⟩)

theorem allOver_startTag {tag : String} (h : T tag) (classes : String) :
    AllOver T S (startTag tag classes) := by
  rw [AllOver, startTag, List.forall_mem_cons, List.forall_mem_singleton]
  exact ⟨h, over_classAttr classes⟩

theorem allOver_endTag {tag : String} (h : T tag) : AllOver T S (endTag tag) := by
  rw [AllOver, endTag, List.forall_mem_cons, List.forall_mem_singleton]
  exact ⟨h, by simp [Piece.Over]⟩

/-- The pieces of an element. -/
theorem allOver_element {tag : String} (htag : T tag) {inner : List Inlined}
    (h : ∀ depth, AllOver T S (chunksAll depth inner)) (classes : String) (depth : Nat) :
    AllOver T S (chunksAll depth [.element tag classes inner]) := by
  rw [chunksAll, chunksAll, List.append_nil, Inlined.chunks]
  have hstart := allOver_startTag (S := S) htag classes
  split
  · exact hstart.line depth
  split
  · next id slug scope honly =>
      -- the block is the one that is written for the value by itself
      obtain rfl := onlyValue?_eq_some honly
      have hvalue := h depth ⟨some id, .code (.value scope slug)⟩
        (by simp [chunksAll, Inlined.chunks, linesFor, Snippet.lines, line])
      refine AllOver.line ?_ depth
      rw [allOver_append, AllOver, AllOver, List.forall_mem_cons]
      exact ⟨hstart, hvalue, allOver_endTag htag⟩
  · rw [allOver_append, allOver_append]
    exact ⟨⟨hstart.line depth, h (depth + 1)⟩, (allOver_endTag htag).line depth⟩

/-! ### The pieces of a forest -/

/-- The types of controls are fixed words. -/
theorem not_mem_controlType {tag type : String} {input : Option InputType}
    (h : controlType tag input = some type) : '<' ∉ type.toList := by
  unfold controlType at h
  split at h
  · exact absurd h (by simp)
  · rcases input with - | (- | - | - | - | - | -) <;> cases h <;> decide

theorem over_controlAttributes (tag slug classes : String) (input : Option InputType) :
    (Piece.plain (((controlType tag input).map fun t => " type=\"" ++ t ++ "\"").getD ""
      ++ " name=\"" ++ escapeValue slug ++ "\"" ++ classAttr classes ++ ">")).Over T S := by
  cases h : controlType tag input with
  | none => simp [Piece.Over, not_mem_escapeValue, not_mem_classAttr]
  | some type =>
      simp [Piece.Over, not_mem_escapeValue, not_mem_classAttr, not_mem_controlType h]

/-- The pieces of an image, a link or a control. -/
theorem over_bareSnippet {scope : Scope} {info : FieldInfo} {snippet : Snippet}
    (h : bareSnippet? scope info = some snippet) (himg : T "img") (ha : T "a") (htag : T info.tag)
    (hslug : S info.slug) : ∀ p ∈ snippet.pieces, p.Over T S := by
  rcases bareSnippet?_cases h with ⟨-, rfl⟩ | ⟨-, rfl⟩ | ⟨-, rfl⟩
  · simp [Snippet.pieces, Snippet.lines, guardedLines, Piece.Over, Block.slug?, hslug, himg]
  · simp [Snippet.pieces, Snippet.lines, guardedLines, Piece.Over, Block.slug?, hslug, ha,
      not_mem_classAttr]
  · have hattributes := over_controlAttributes (T := T) (S := S) info.tag info.slug info.classes
      info.input
    have hend : (Piece.plain ">").Over T S := by simp [Piece.Over]
    rw [Snippet.pieces, Snippet.lines, List.flatMap_singleton, controlPieces,
      List.forall_mem_append, List.forall_mem_cons, List.forall_mem_singleton]
    refine ⟨⟨htag, hattributes⟩, ?_⟩
    split
    · exact fun p hp => absurd hp List.not_mem_nil
    · rw [List.forall_mem_cons, List.forall_mem_singleton]
      exact ⟨htag, hend⟩

/-- The block of a value. -/
theorem over_value {scope : Scope} {slug : String} (hslug : S slug) :
    ∀ p ∈ (Snippet.value slug scope).pieces, p.Over T S := by
  simp [Snippet.pieces, Snippet.lines, Piece.Over, Block.slug?, hslug]

theorem allOver_leaf {snippet : Snippet} (h : ∀ p ∈ snippet.pieces, p.Over T S) (id depth : Nat) :
    AllOver T S (chunksAll depth [.leaf id snippet]) := by
  rw [chunksAll, chunksAll, List.append_nil, Inlined.chunks]
  exact allOver_linesFor h id depth

theorem allOver_loop {slug : String} (hslug : S slug) {body : List Inlined}
    (h : ∀ depth, AllOver T S (chunksAll depth body)) (id depth : Nat) :
    AllOver T S (chunksAll depth [.loop id slug body]) := by
  rw [chunksAll, chunksAll, List.append_nil, Inlined.chunks, allOver_append, allOver_append]
  refine ⟨⟨allOver_linesFor ?_ id depth, h _⟩, allOver_linesFor ?_ id depth⟩
  · simp [loopStart, Piece.Over, Block.slug?, hslug]
  · simp [loopEnd, Piece.Over, Block.slug?]

/-- **The pieces of a forest have its names and slugs.** -/
theorem Laid.over {scope : Scope} {fields : List Field} {trees : List Inlined}
    (h : Laid scope fields trees) (himg : T "img") (ha : T "a") :
    (∀ f ∈ preorderAll fields, T f.info.tag ∧ (f.kind = .container ∨ S f.slug)) →
      ∀ depth, AllOver T S (chunksAll depth trees) := by
  induction h with
  | nil => exact fun _ _ => nofun
  | container _ _ _ ihinner ih =>
      intro hfields depth
      rw [Field.forall_preorderAll_cons] at hfields
      rw [← List.singleton_append, Inlined.chunksAll_append, allOver_append]
      exact ⟨allOver_element hfields.1.1 (ihinner hfields.2.1) _ depth, ih hfields.2.2 depth⟩
  | @text scope info _ _ _ id hkind _ ih =>
      intro hfields depth
      rw [Field.forall_preorderAll_cons] at hfields
      have hslug : S info.slug := hfields.1.2.resolve_left (by
        rcases hkind with h | h <;> simp [Field.kind, Field.info, h])
      have hvalue : ∀ depth, AllOver T S (chunksAll depth [.leaf id (.value info.slug scope)]) :=
        allOver_leaf (over_value hslug) id
      rw [← List.singleton_append, Inlined.chunksAll_append, allOver_append]
      exact ⟨allOver_element hfields.1.1 hvalue _ depth, ih hfields.2.2 depth⟩
  | @bare _ info _ _ _ id _ hbare _ ih =>
      intro hfields depth
      rw [Field.forall_preorderAll_cons] at hfields
      have hslug : S info.slug := hfields.1.2.resolve_left (by
        rcases bareSnippet?_cases hbare with ⟨h, -⟩ | ⟨h, -⟩ | ⟨h, -⟩ <;>
          simp [Field.kind, Field.info, h])
      have hsnippet := over_bareSnippet hbare himg ha hfields.1.1 hslug
      rw [← List.singleton_append, Inlined.chunksAll_append, allOver_append]
      exact ⟨allOver_leaf hsnippet id depth, ih hfields.2.2 depth⟩
  | @repeater _ info _ _ _ _ id hkind _ _ _ ihinner ih =>
      intro hfields depth
      rw [Field.forall_preorderAll_cons] at hfields
      have hslug : S info.slug := hfields.1.2.resolve_left (by simp [Field.kind, Field.info, hkind])
      have hrow := allOver_element hfields.1.1 (ihinner hfields.2.1) info.classes
      rw [← List.singleton_append, Inlined.chunksAll_append, allOver_append]
      exact ⟨allOver_loop hslug hrow id depth, ih hfields.2.2 depth⟩
  | @ownText _ info only _ _ _ id inside hkind hown _ ih =>
      intro hfields depth
      rw [Field.forall_preorderAll_cons] at hfields
      have hslug : S info.slug := hfields.1.2.resolve_left (by simp [Field.kind, Field.info, hkind])
      -- the value is that of the only field of the row
      obtain ⟨honly, -, -, below, rfl⟩ := selfValue?_eq_some hown
      have hfield := (Field.forall_preorderAll_cons.1 hfields.2.1).1.2
      have hslug' : S only.slug := hfield.resolve_left (by
        rcases honly with h | h <;> simp [Field.kind, Field.info, h])
      have hvalue : ∀ depth, AllOver T S (chunksAll depth [.leaf inside (.value only.slug .row)]) :=
        allOver_leaf (over_value hslug') inside
      have hrow := allOver_element hfields.1.1 hvalue info.classes
      rw [← List.singleton_append, Inlined.chunksAll_append, allOver_append]
      exact ⟨allOver_loop hslug hrow id depth, ih hfields.2.2 depth⟩

end

/-! ### Where code is opened -/

/-- Whether a text opens code somewhere. -/
def Opens (text : String) : Prop := ∃ before after, text = before ++ "<?" ++ after

/-- **What comes before a block of code**: the text of the pieces before it. -/
def StartsBlock (chunks : List Chunk) (before : String) : Prop :=
  ∃ earlier owner block later, chunks = earlier ++ ⟨owner, .code block⟩ :: later ∧
    before = textOf earlier

/-- **What comes before a place where the name of a tag opens code**: the text of the pieces before
it, and what of the piece itself stands before that place. -/
def InName (chunks : List Chunk) (before : String) : Prop :=
  ∃ earlier c later start rest, chunks = earlier ++ c :: later ∧ c.piece.name?.isSome ∧
    c.piece.text = start ++ "<?" ++ rest ∧ before = textOf earlier ++ start

theorem StartsBlock.cons {chunks : List Chunk} {before : String} (h : StartsBlock chunks before)
    (c : Chunk) : StartsBlock (c :: chunks) (c.piece.text ++ before) := by
  obtain ⟨earlier, owner, block, later, rfl, rfl⟩ := h
  exact ⟨c :: earlier, owner, block, later, rfl, rfl⟩

theorem InName.cons {chunks : List Chunk} {before : String} (h : InName chunks before)
    (c : Chunk) : InName (c :: chunks) (c.piece.text ++ before) := by
  obtain ⟨earlier, p, later, start, rest, rfl, hname, htext, rfl⟩ := h
  exact ⟨c :: earlier, p, later, start, rest, rfl, hname, htext, by
    rw [textOf, String.append_assoc]⟩

/-- A block has no angle bracket in it if its slug has none. -/
theorem not_mem_body {block : Block} (h : ∀ slug ∈ block.slug?, '<' ∉ slug.toList) :
    '<' ∉ block.body.toList := by
  have hvariable : ∀ (scope : Scope) (slug : String), '<' ∉ slug.toList →
      '<' ∉ (variableFor scope slug).toList := by
    intro scope slug hslug
    cases scope with
    | page =>
        rw [variableFor, Naming.variableName]
        split <;> simp [hslug]
    | row => simp [variableFor, hslug]
  cases block with
  | value scope slug => cases scope <;> simp [Block.body, call, printer, h slug rfl]
  | bind scope slug =>
      cases scope <;> simp [Block.body, call, getter, h slug rfl, hvariable _ slug (h slug rfl)]
  | guard scope slug => simp [Block.body, hvariable scope slug (h slug rfl)]
  | entry scope slug which =>
      cases which <;>
        simp [Block.body, Entry.escaper, Entry.key, hvariable scope slug (h slug rfl)]
  | rows slug => simp [Block.body, call, h slug rfl]
  | row slug => simp [Block.body, call, h slug rfl]
  | endif | endwhile => simp [Block.body]

/-- A block opens code at its beginning only. -/
theorem eq_empty_of_code {block : Block} (h : ∀ slug ∈ block.slug?, '<' ∉ slug.toList)
    {before after : String} (htext : code block.body = before ++ "<?" ++ after) : before = "" := by
  have hlist := congrArg String.toList htext
  have hstart : "<?php ".toList = '<' :: "?php ".toList := rfl
  simp only [code, String.toList_append, hstart, List.cons_append] at hlist
  cases hbefore : before.toList with
  | nil => exact String.toList_eq_nil_iff.1 hbefore
  | cons c cs =>
      -- the bracket would be a second one
      rw [hbefore] at hlist
      have hmem : '<' ∈ "?php ".toList ++ block.body.toList ++ " ?>".toList := by
        have htail := congrArg List.tail hlist
        simp only [List.cons_append, List.tail_cons] at htail
        rw [htail]
        simp
      simp [not_mem_body h] at hmem

section

variable {T S : String → Prop}

/-- No piece begins with what would open code after an angle bracket. -/
theorem Piece.Over.head {p : Piece} (h : p.Over T S) : p.text.toList.head? ≠ some '?' := by
  cases p with
  | plain text => exact h.2
  | opening | closing | code => simp [Piece.text, Template.code]

theorem AllOver.head {chunks : List Chunk} (h : AllOver T S chunks) :
    (textOf chunks).toList.head? ≠ some '?' := by
  induction chunks with
  | nil => simp [textOf]
  | cons c rest ih =>
      rw [AllOver, List.forall_mem_cons] at h
      rw [textOf, String.toList_append, List.head?_append]
      have hhead := h.1.head
      cases hc : c.piece.text.toList.head? with
      | none => exact ih h.2
      | some first => rwa [hc] at hhead

/-- Where a piece opens code by itself it is a block and begins there, or it is the name of a
tag. -/
theorem Piece.Over.opens {c : Chunk} (h : c.piece.Over T S)
    (hslug : ∀ slug, S slug → '<' ∉ slug.toList) {before after : String}
    (htext : c.piece.text = before ++ "<?" ++ after) (later : List Chunk) :
    StartsBlock (c :: later) before ∨ InName (c :: later) before := by
  obtain ⟨owner, p⟩ := c
  cases p with
  | plain text =>
      -- there is no angle bracket in it
      have hmem : '<' ∈ text.toList := by
        rw [show text = before ++ "<?" ++ after from htext]
        simp
      exact absurd hmem h.1
  | opening tag | closing tag =>
      exact Or.inr ⟨[], _, later, before, after, rfl, rfl, htext, by simp [textOf]⟩
  | code block =>
      obtain rfl := eq_empty_of_code (fun slug hmem => hslug slug (h slug hmem)) htext
      exact Or.inl ⟨[], owner, block, later, rfl, rfl⟩

/-- **Code is opened by blocks and by names only.** -/
theorem startsBlock_or_inName {chunks : List Chunk} (h : AllOver T S chunks)
    (hslug : ∀ slug, S slug → '<' ∉ slug.toList) {before after : String}
    (htext : textOf chunks = before ++ "<?" ++ after) :
    StartsBlock chunks before ∨ InName chunks before := by
  induction chunks generalizing before with
  | nil =>
      have hlist := congrArg String.toList htext
      simp [textOf] at hlist
  | cons c rest ih =>
      rw [AllOver, List.forall_mem_cons] at h
      have hlist := congrArg String.toList htext
      simp only [textOf, String.toList_append] at hlist
      rw [show "<?".toList = ['<', '?'] from rfl, List.append_assoc] at hlist
      rcases List.append_eq_append_iff.1 hlist with ⟨more, hbefore, hrest⟩ | ⟨more, hpiece, hrest⟩
      · -- the place is in what comes after the piece
        obtain rfl : before = c.piece.text ++ String.ofList more := by
          rw [← String.toList_inj]
          simpa using hbefore
        have htext' : textOf rest = String.ofList more ++ "<?" ++ after := by
          rw [← String.toList_inj]
          simpa using hrest
        exact (ih h.2 htext').imp (·.cons c) (·.cons c)
      · rcases more with _ | ⟨x, _ | ⟨y, more⟩⟩
        · -- so it is here
          obtain rfl : before = c.piece.text ++ "" := by
            rw [← String.toList_inj]
            simpa using hpiece.symm
          have htext' : textOf rest = "" ++ "<?" ++ after := by
            rw [← String.toList_inj]
            simpa using hrest.symm
          exact (ih h.2 htext').imp (·.cons c) (·.cons c)
        · -- what comes after the piece would begin with the second character
          have hhead := AllOver.head h.2
          simp only [List.cons_append, List.nil_append, List.cons.injEq] at hrest
          rw [← hrest.2] at hhead
          exact absurd rfl hhead
        · simp only [List.cons_append, List.nil_append, List.cons.injEq] at hrest
          obtain ⟨rfl, rfl, -⟩ := hrest
          have htext' : c.piece.text = before ++ "<?" ++ String.ofList more := by
            rw [← String.toList_inj]
            simpa using hpiece
          exact h.1.opens hslug htext' rest

end

/-- A place inside of the name of a tag is not the beginning of a block. -/
theorem InName.not_startsBlock {chunks : List Chunk} {before : String} (h : InName chunks before) :
    ¬ StartsBlock chunks before := by
  rintro ⟨earlier', owner, block, later', hblock, hbefore⟩
  obtain ⟨earlier, c, later, start, rest, hname, hsome, htext, hbefore'⟩ := h
  have hlength := congrArg String.length (hbefore.symm.trans hbefore')
  have htext' := congrArg String.length htext
  simp only [String.length_append, show "<?".length = 2 from rfl] at hlength htext'
  rw [hblock] at hname
  rcases List.append_eq_append_iff.1 hname with ⟨more, rfl, htail⟩ | ⟨more, rfl, htail⟩
  · -- the block would be earlier than the piece, or the piece itself
    cases more with
    | nil =>
        obtain ⟨rfl, -⟩ := List.cons.inj htail
        simp [Piece.name?] at hsome
    | cons _ more =>
        obtain ⟨rfl, -⟩ := List.cons.inj htail
        simp only [textOf_append, textOf, Piece.text, Template.code, String.length_append,
          show "<?php ".length = 6 from rfl] at hlength
        omega
  · cases more with
    | nil =>
        obtain ⟨rfl, -⟩ := List.cons.inj htail
        simp [Piece.name?] at hsome
    | cons _ more =>
        obtain ⟨rfl, -⟩ := List.cons.inj htail
        simp only [textOf_append, textOf, String.length_append] at hlength
        omega

/-- **Where the template of a page opens code**: at a block of the writer, or inside of the name of
a tag; so only blocks do it exactly if no name that is written does.  The names are those of images
and links and the tags of fields; the slugs in blocks are slugs of fields, with small letters,
digits and underscores only. -/
theorem openings_write (maxDepth : Nat) (d : Document) :
    let fields := Model.extract maxDepth d
    let chunks := chunksAll 0 (inline (lower fields).1 (lower fields).2)
    let text := write (lower fields).1 (lower fields).2
    (∀ before after, text = before ++ "<?" ++ after →
        StartsBlock chunks before ∨ InName chunks before) ∧
      ((∀ before after, text = before ++ "<?" ++ after → StartsBlock chunks before) ↔
        ∀ c ∈ chunks, c.piece.name?.isSome → ¬ Opens c.piece.text) ∧
      (∀ c ∈ chunks, ∀ tag ∈ c.piece.name?,
        tag = "img" ∨ tag = "a" ∨ ∃ f ∈ preorderAll fields, f.info.tag = tag) ∧
      ∀ c ∈ chunks, ∀ block, c.piece = .code block → ∀ slug ∈ block.slug?,
        IsSlug slug ∧ ∃ f ∈ preorderAll fields, f.kind ≠ .container ∧ f.slug = slug := by
  intro fields chunks text
  have htext : text = textOf chunks := write_lower fields
  have hover : AllOver
      (fun tag => tag = "img" ∨ tag = "a" ∨ ∃ f ∈ preorderAll fields, f.info.tag = tag)
      (fun slug => IsSlug slug ∧ ∃ f ∈ preorderAll fields, f.kind ≠ .container ∧ f.slug = slug)
      chunks := by
    refine (laid_inline fields).over (Or.inl rfl) (Or.inr (Or.inl rfl)) (fun f hf => ⟨?_, ?_⟩) 0
    · exact Or.inr (Or.inr ⟨f, hf, rfl⟩)
    · by_cases hkind : f.kind = .container
      · exact Or.inl hkind
      · have hslug := (Model.slugs_extract maxDepth d f hf).resolve_left hkind
        exact Or.inr ⟨hslug.1, f, hf, hkind, rfl⟩
  have hplaces : ∀ before after, text = before ++ "<?" ++ after →
      StartsBlock chunks before ∨ InName chunks before := by
    intro before after hopens
    refine startsBlock_or_inName hover (fun slug hslug hmem => ?_) (htext.symm.trans hopens)
    have hchar := hslug.1.chars _ hmem
    exact absurd hchar (by decide)
  refine ⟨hplaces, ⟨fun hall c hc hname hopens => ?_, fun hnames before after hopens => ?_⟩,
    fun c hc tag htag => ?_, fun c hc block hblock => ?_⟩
  · -- a name that opens code gives a place that is no block
    obtain ⟨start, rest, hpiece⟩ := hopens
    obtain ⟨earlier, later, hchunks⟩ := List.append_of_mem hc
    have hin : InName chunks (textOf earlier ++ start) :=
      ⟨earlier, c, later, start, rest, hchunks, hname, hpiece, rfl⟩
    refine hin.not_startsBlock (hall _ (rest ++ textOf later) ?_)
    rw [htext, hchunks, textOf_append, textOf, hpiece]
    simp only [String.append_assoc]
  · refine (hplaces before after hopens).resolve_right fun hin => ?_
    obtain ⟨earlier, c, later, start, rest, hchunks, hname, hpiece, -⟩ := hin
    exact hnames c (hchunks ▸ by simp) hname ⟨start, rest, hpiece⟩
  · have hpiece := hover c hc
    cases hp : c.piece <;> rw [hp] at hpiece htag <;> simp [Piece.name?] at htag <;>
      exact htag ▸ hpiece
  · have hpiece := hover c hc
    rw [hblock] at hpiece
    exact hpiece

end Template

end ThemeCompiler
