/-
**The text of a template in pieces.**

A template is written from a stack of what is still to be written.  What comes out is the text of a
plain recursion over the markup with its snippets in place, in which every piece is a blank or an
attribute, the name of a tag, or a block of code, and belongs to a snippet or to none.  An element
without content is one line, also where something is inside of it.

Main definitions:

* `ThemeCompiler.Template.Block`, `ThemeCompiler.Template.Piece` — the blocks of code of a template,
  and its pieces;
* `ThemeCompiler.Template.Chunk` — a piece with the snippet that it belongs to;
* `ThemeCompiler.Template.Inlined.chunksAll` — **the pieces of trees**;
* `ThemeCompiler.Template.Writes` — the stack writes trees.

Main results:

* `ThemeCompiler.Template.Laid.writes` — the stack writes the pieces of trees, in the steps that
  there are for them;
* `ThemeCompiler.Template.write_lower` — **the text of a lowered forest is that of its pieces**.
-/

import ThemeCompiler.Proofs.Template.Inlined
import ThemeCompiler.Template.Writer

set_option relaxedAutoImplicit false
set_option autoImplicit false

namespace ThemeCompiler

namespace Template

open Inlined (markups entriesAll)

/-! ### Pieces -/

/-- An entry of an image or a link. -/
inductive Entry where
  | url
  | alt
  | title
  deriving DecidableEq, Repr

/-- The function that makes the text of an entry harmless. -/
def Entry.escaper : Entry → String
  | .url => "esc_url"
  | .alt => "esc_attr"
  | .title => "esc_html"

/-- The key of an entry. -/
def Entry.key : Entry → String
  | .url => "url"
  | .alt => "alt"
  | .title => "title"

/-- **A block of code of a template**, for the field with a slug. -/
inductive Block where
  /-- Prints a field. -/
  | value (scope : Scope) (slug : String)
  /-- Sets the variable of a field. -/
  | bind (scope : Scope) (slug : String)
  /-- Begins what is written only if a field is set. -/
  | guard (scope : Scope) (slug : String)
  /-- Prints an entry of a field. -/
  | entry (scope : Scope) (slug : String) (which : Entry)
  /-- Begins what is written only if a field has rows. -/
  | rows (slug : String)
  /-- Begins what is written for every row. -/
  | row (slug : String)
  | endif
  | endwhile
  deriving DecidableEq, Repr

/-- The code in a block. -/
def Block.body : Block → String
  | .value scope slug => call (printer scope) slug ++ ";"
  | .bind scope slug => variableFor scope slug ++ " = " ++ call (getter scope) slug ++ ";"
  | .guard scope slug => "if (" ++ variableFor scope slug ++ "):"
  | .entry scope slug which =>
      "echo " ++ which.escaper ++ "(" ++ variableFor scope slug ++ "['" ++ which.key ++ "']);"
  | .rows slug => "if (" ++ call "have_rows" slug ++ "):"
  | .row slug => "while (" ++ call "have_rows" slug ++ "): the_row();"
  | .endif => "endif;"
  | .endwhile => "endwhile;"

/-- **A piece of a template.** -/
inductive Piece where
  /-- Blanks, line ends, attributes and the ends of tags. -/
  | plain (text : String)
  /-- The beginning of a start tag. -/
  | opening (tag : String)
  /-- The beginning of an end tag. -/
  | closing (tag : String)
  /-- A block of code. -/
  | code (block : Block)
  deriving DecidableEq, Repr

/-- The text of a piece. -/
def Piece.text : Piece → String
  | plain text => text
  | opening tag => "<" ++ tag
  | closing tag => "</" ++ tag
  | code block => Template.code block.body

/-- **A piece with the number of the snippet that it belongs to**, if it belongs to one. -/
structure Chunk where
  owner : Option Nat
  piece : Piece
  deriving DecidableEq, Repr

/-- **The text of pieces**, one after the other. -/
def textOf : List Chunk → String
  | [] => ""
  | c :: rest => c.piece.text ++ textOf rest

theorem textOf_append (chunks others : List Chunk) :
    textOf (chunks ++ others) = textOf chunks ++ textOf others := by
  induction chunks with
  | nil => simp [textOf]
  | cons c rest ih => simp only [List.cons_append, textOf, ih, String.append_assoc]

/-! ### The pieces of snippets and elements -/

/-- A line with blanks before it. -/
def line (depth : Nat) (inner : List Chunk) : List Chunk :=
  ⟨none, .plain (pad depth)⟩ :: inner ++ [⟨none, .plain "\n"⟩]

/-- The lines of a snippet, each with its own depth. -/
def linesFor (id depth : Nat) (lines : List (Nat × List Piece)) : List Chunk :=
  lines.flatMap fun l => line (depth + l.1) (l.2.map (Chunk.mk (some id)))

/-- The lines that write something for a field if the field is set. -/
def guardedLines (scope : Scope) (slug : String) (inner : List Piece) : List (Nat × List Piece) :=
  [(0, [.code (.bind scope slug)]), (0, [.code (.guard scope slug)]), (1, inner),
    (0, [.code .endif])]

/-- The pieces of a form control. -/
def controlPieces (tag slug : String) (type : Option String) (classes : String) : List Piece :=
  [.opening tag, .plain (((type.map fun t => " type=\"" ++ t ++ "\"").getD "")
      ++ " name=\"" ++ escapeValue slug ++ "\"" ++ classAttr classes ++ ">")]
    ++ (if Html.isVoid tag then [] else [.closing tag, .plain ">"])

/-- The lines before the rows of a repeater. -/
def loopStart (slug : String) : List (Nat × List Piece) :=
  [(0, [.code (.rows slug)]), (1, [.code (.row slug)])]

/-- The lines after the rows of a repeater. -/
def loopEnd : List (Nat × List Piece) := [(1, [.code .endwhile]), (0, [.code .endif])]

/-- **The lines of a snippet**; those of a loop without what is written for its rows. -/
def Snippet.lines : Snippet → List (Nat × List Piece)
  | .value slug scope => [(0, [.code (.value scope slug)])]
  | .image slug scope =>
      guardedLines scope slug [.opening "img", .plain " src=\"", .code (.entry scope slug .url),
        .plain "\" alt=\"", .code (.entry scope slug .alt), .plain "\">"]
  | .link slug scope classes =>
      guardedLines scope slug [.opening "a", .plain " href=\"", .code (.entry scope slug .url),
        .plain ("\"" ++ classAttr classes ++ ">"), .code (.entry scope slug .title), .closing "a",
        .plain ">"]
  | .control tag slug type classes => [(0, controlPieces tag slug type classes)]
  | .loop slug _ => loopStart slug ++ loopEnd

/-- **The pieces of a snippet**: those of its lines, without what separates the lines. -/
def Snippet.pieces (snippet : Snippet) : List Piece := snippet.lines.flatMap Prod.snd

/-- The pieces of a start tag. -/
def startTag (tag classes : String) : List Chunk :=
  [⟨none, .opening tag⟩, ⟨none, .plain (classAttr classes ++ ">")⟩]

/-- The pieces of an end tag. -/
def endTag (tag : String) : List Chunk := [⟨none, .closing tag⟩, ⟨none, .plain ">"⟩]

/-- The value that is the only thing inside of an element, with its number. -/
def onlyValue? : List Inlined → Option (Nat × String × Scope)
  | [.leaf id (.value slug scope)] => some (id, slug, scope)
  | _ => none

theorem onlyValue?_eq_some {children : List Inlined} {owner : Nat} {slug : String}
    {scope : Scope} (h : onlyValue? children = some (owner, slug, scope)) :
    children = [.leaf owner (.value slug scope)] := by
  unfold onlyValue? at h
  split at h
  · obtain ⟨rfl, rfl, rfl⟩ : _ ∧ _ ∧ _ := by simpa using h
    rfl
  · exact absurd h (by simp)

namespace Inlined

mutual

/-- The pieces of a tree at a depth. -/
def chunks (depth : Nat) : Inlined → List Chunk
  | element tag classes children =>
      if Html.isVoid tag then line depth (startTag tag classes)
      else match onlyValue? children with
        | some (id, slug, scope) =>
            line depth (startTag tag classes ++ ⟨some id, .code (.value scope slug)⟩ :: endTag tag)
        | none =>
            line depth (startTag tag classes) ++ chunksAll (depth + 1) children
              ++ line depth (endTag tag)
  | leaf id snippet => linesFor id depth snippet.lines
  | loop id slug body =>
      linesFor id depth (loopStart slug) ++ chunksAll (depth + 2) body
        ++ linesFor id depth loopEnd

/-- **The pieces of trees at a depth.** -/
def chunksAll (depth : Nat) : List Inlined → List Chunk
  | [] => []
  | tree :: rest => chunks depth tree ++ chunksAll depth rest

end

theorem chunksAll_append (depth : Nat) (trees others : List Inlined) :
    chunksAll depth (trees ++ others) = chunksAll depth trees ++ chunksAll depth others := by
  induction trees with
  | nil => rfl
  | cons tree trees ih => simp only [List.cons_append, chunksAll, ih, List.append_assoc]

end Inlined

open Inlined (chunks chunksAll)

/-! ### Their texts -/

theorem textOf_line (depth : Nat) (inner : List Chunk) :
    textOf (line depth inner) = pad depth ++ textOf inner ++ "\n" := by
  simp only [line, List.cons_append, textOf, textOf_append, Piece.text, String.append_empty,
    String.append_assoc]

theorem textOf_startTag (tag classes : String) :
    textOf (startTag tag classes) = openTag tag classes := by
  simp only [startTag, textOf, Piece.text, openTag, String.append_empty, String.append_assoc]

theorem textOf_endTag (tag : String) : textOf (endTag tag) = closeTag tag := by
  simp only [endTag, textOf, Piece.text, closeTag, String.append_empty, String.append_assoc]

theorem textOf_linesFor_cons (id depth k : Nat) (inner : List Piece)
    (rest : List (Nat × List Piece)) :
    textOf (linesFor id depth ((k, inner) :: rest))
      = pad (depth + k) ++ textOf (inner.map (Chunk.mk (some id))) ++ "\n"
        ++ textOf (linesFor id depth rest) := by
  rw [linesFor, List.flatMap_cons, textOf_append, textOf_line]
  rfl

theorem textOf_linesFor_nil (id depth : Nat) : textOf (linesFor id depth []) = "" := rfl

/-- The guarded lines are those that the writer puts around an image or a link. -/
theorem textOf_guardedLines (id depth : Nat) (scope : Scope) (slug : String) (inner : List Piece) :
    textOf (linesFor id depth (guardedLines scope slug inner))
      = guarded depth scope slug (textOf (inner.map (Chunk.mk (some id)))) := by
  simp only [guardedLines, textOf_linesFor_cons, textOf_linesFor_nil, guarded, List.map_cons,
    List.map_nil, textOf, Piece.text, Block.body, Nat.add_zero, String.append_empty,
    String.append_assoc]

/-- **The lines of a snippet that is no loop have the text that is written for it.** -/
theorem textOf_lines (id depth : Nat) {snippet : Snippet}
    (hleaf : ∀ slug body, snippet ≠ .loop slug body) :
    textOf (linesFor id depth snippet.lines) = writeLeaf depth snippet := by
  cases snippet with
  | value slug scope =>
      simp only [Snippet.lines, textOf_linesFor_cons, textOf_linesFor_nil, writeLeaf, List.map_cons,
        List.map_nil, textOf, Piece.text, Block.body, printValue, Nat.add_zero,
        String.append_empty, String.append_assoc]
  | image slug scope =>
      simp only [Snippet.lines, textOf_guardedLines, writeLeaf, imageTag, List.map_cons,
        List.map_nil, textOf, Piece.text, Block.body, printEntry, Entry.escaper, Entry.key,
        String.append_empty, String.append_assoc]
      rfl
  | link slug scope classes =>
      simp only [Snippet.lines, textOf_guardedLines, writeLeaf, linkTag, List.map_cons,
        List.map_nil, textOf, Piece.text, Block.body, printEntry, Entry.escaper, Entry.key,
        String.append_empty, String.append_assoc]
      rfl
  | control tag slug type classes =>
      simp only [Snippet.lines, textOf_linesFor_cons, textOf_linesFor_nil, writeLeaf, controlPieces,
        controlTag, closeTag, Nat.add_zero]
      split <;>
        simp only [List.cons_append, List.nil_append, List.append_nil, List.map_cons, List.map_nil,
          textOf, Piece.text, String.append_empty, String.append_assoc]
  | loop slug body => exact absurd rfl (hleaf slug body)

theorem textOf_loopStart (id depth : Nat) (slug : String) :
    textOf (linesFor id depth (loopStart slug))
      = pad depth ++ code ("if (" ++ call "have_rows" slug ++ "):") ++ "\n"
        ++ pad (depth + 1) ++ code ("while (" ++ call "have_rows" slug ++ "): the_row();")
        ++ "\n" := by
  simp only [loopStart, textOf_linesFor_cons, textOf_linesFor_nil, List.map_cons, List.map_nil,
    textOf, Piece.text, Block.body, Nat.add_zero, String.append_empty, String.append_assoc]

theorem textOf_loopEnd (id depth : Nat) :
    textOf (linesFor id depth loopEnd)
      = pad (depth + 1) ++ code "endwhile;" ++ "\n" ++ (pad depth ++ code "endif;" ++ "\n") := by
  simp only [loopEnd, textOf_linesFor_cons, textOf_linesFor_nil, List.map_cons, List.map_nil,
    textOf, Piece.text, Block.body, Nat.add_zero, String.append_empty, String.append_assoc]

/-! ### The stack writes the pieces -/

section

variable {table : Table} {trees others : List Inlined}

theorem writeWithin_cons (fuel : Nat) (text : String) (top : Pending) (rest : List Pending) :
    writeWithin table (fuel + 1) text (top :: rest)
      = writeWithin table fuel (text ++ (writeStep table top).1)
          ((writeStep table top).2 ++ rest) := rfl

theorem writeWithin_nil (fuel : Nat) (text : String) : writeWithin table fuel text [] = text := by
  cases fuel <;> rfl

/-- The steps that there are for trees. -/
def stepBound (trees : List Inlined) : Nat :=
  3 * (Markup.sizeAll (markups trees) + bodySizes ((entriesAll trees).map Prod.snd))

/-- **The stack writes trees**: in no more steps than there are for them it comes to what is below
them, and has written their pieces. -/
def Writes (table : Table) (trees : List Inlined) : Prop :=
  ∃ steps ≤ stepBound trees, ∀ (depth fuel : Nat) (text : String) (rest : List Pending),
    writeWithin table (fuel + steps) text ((markups trees).map (Pending.node · depth) ++ rest)
      = writeWithin table fuel (text ++ textOf (chunksAll depth trees)) rest

theorem sizeAll_append (markup more : List Markup) :
    Markup.sizeAll (markup ++ more) = Markup.sizeAll markup + Markup.sizeAll more := by
  induction markup with
  | nil => simp [Markup.sizeAll]
  | cons m rest ih => simp only [List.cons_append, Markup.sizeAll, ih, Nat.add_assoc]

theorem bodySizes_append (snippets more : List Snippet) :
    bodySizes (snippets ++ more) = bodySizes snippets + bodySizes more := by
  induction snippets with
  | nil => simp [bodySizes]
  | cons snippet rest ih => simp only [List.cons_append, bodySizes, ih, Nat.add_assoc]

theorem stepBound_append : stepBound (trees ++ others) = stepBound trees + stepBound others := by
  simp only [stepBound, Inlined.markups_append, sizeAll_append, Inlined.entriesAll_append,
    List.map_append, bodySizes_append]
  omega

/-- The value that is the only thing inside of an element is found in the table. -/
theorem inlineValue?_markups {inner : List Inlined} (h : Holds table inner) :
    inlineValue? table (markups inner) = (onlyValue? inner).map Prod.snd := by
  match inner with
  | [] | [.element _ _ _] => rfl
  | first :: second :: others => simp [markups, inlineValue?, onlyValue?]
  | [.leaf id snippet] =>
      simp only [markups, Inlined.markup, inlineValue?, (holds_leaf_cons.1 h).1]
      cases snippet <;> rfl
  | [.loop id slug body] =>
      simp only [markups, Inlined.markup, inlineValue?, (holds_loop_cons.1 h).1.2, onlyValue?,
        Option.map_none]

namespace Writes

theorem nil : Writes table [] :=
  ⟨0, Nat.zero_le _, fun _ _ _ _ => by simp [markups, chunksAll, textOf]⟩

theorem append (h : Writes table trees) (h' : Writes table others) :
    Writes table (trees ++ others) := by
  obtain ⟨steps, hbound, hrun⟩ := h
  obtain ⟨steps', hbound', hrun'⟩ := h'
  refine ⟨steps' + steps, ?_, fun depth fuel text rest => ?_⟩
  · rw [stepBound_append]
    omega
  · rw [Inlined.markups_append, List.map_append, List.append_assoc, ← Nat.add_assoc, hrun, hrun',
      Inlined.chunksAll_append, textOf_append, String.append_assoc]

/-- A tree whose markup is written in one step. -/
theorem of_step {tree : Inlined} (hsize : 1 ≤ stepBound [tree])
    (h : ∀ depth, writeStep table (.node tree.markup depth) = (textOf (tree.chunks depth), [])) :
    Writes table [tree] := by
  refine ⟨1, hsize, fun depth fuel text rest => ?_⟩
  simp only [markups, List.map_cons, List.map_nil, List.singleton_append, writeWithin_cons, h,
    List.nil_append, chunksAll, List.append_nil]

theorem leaf {id : Nat} {snippet : Snippet} (hsnippet : table[id]? = some snippet)
    (hleaf : ∀ slug body, snippet ≠ .loop slug body) : Writes table [.leaf id snippet] := by
  refine of_step (by simp [stepBound, markups, Inlined.markup, Markup.sizeAll, Markup.size]; omega)
    fun depth => ?_
  rw [Inlined.markup, writeStep, hsnippet, Inlined.chunks, textOf_lines id depth hleaf]
  cases snippet with
  | loop slug body => exact absurd rfl (hleaf slug body)
  | value | image | link | control => rfl

/-- An element is written in one step, or in two around what is inside of it. -/
theorem element {inner : List Inlined} (h : Writes table inner) (htable : Holds table inner)
    (tag classes : String) : Writes table [.element tag classes inner] := by
  have hsize : 2 + stepBound inner ≤ stepBound [.element tag classes inner] := by
    simp only [stepBound, markups, Inlined.markup, Markup.sizeAll, Markup.size, entriesAll,
      Inlined.entries, List.append_nil]
    omega
  have hvalue := inlineValue?_markups htable
  by_cases hvoid : Html.isVoid tag
  · refine of_step (by omega) fun depth => ?_
    simp only [Inlined.markup, writeStep, hvoid, if_true, Inlined.chunks, textOf_line,
      textOf_startTag]
  cases honly : onlyValue? inner with
  | some value =>
      obtain ⟨id, slug, scope⟩ := value
      refine of_step (by omega) fun depth => ?_
      simp only [Inlined.markup, writeStep, hvoid, hvalue, honly, Option.map_some, Inlined.chunks,
        textOf_line, textOf_append, textOf_startTag, textOf, textOf_endTag, Piece.text, Block.body,
        printValue, String.append_assoc, Bool.false_eq_true, if_false]
  | none =>
      obtain ⟨steps, hbound, hrun⟩ := h
      refine ⟨1 + steps + 1, by omega, fun depth fuel text rest => ?_⟩
      have hstep : writeStep table (.node (.element tag classes (markups inner)) depth)
          = (pad depth ++ openTag tag classes ++ "\n",
              (markups inner).map (Pending.node · (depth + 1))
                ++ [.close depth (closeTag tag)]) := by
        simp only [writeStep, hvoid, hvalue, honly, Option.map_none, Bool.false_eq_true, if_false]
      simp only [markups, Inlined.markup, List.map_cons, List.map_nil, List.singleton_append]
      -- one step for the start tag, then what is inside, then one for the end tag
      rw [← Nat.add_assoc, writeWithin_cons, hstep, ← Nat.add_assoc, List.append_assoc, hrun,
        List.singleton_append, writeWithin_cons]
      simp only [writeStep, List.nil_append, chunksAll, List.append_nil, Inlined.chunks, hvoid,
        honly, textOf_append, textOf_line, textOf_startTag, textOf_endTag, String.append_assoc,
        Bool.false_eq_true, if_false]

/-- A loop is written in one step before its body and two after it. -/
theorem loop {id : Nat} {slug : String} {body : List Inlined} (h : Writes table body)
    (htable : table[id]? = some (.loop slug (markups body))) :
    Writes table [.loop id slug body] := by
  obtain ⟨steps, hbound, hrun⟩ := h
  have hsize : 3 + stepBound body ≤ stepBound [.loop id slug body] := by
    simp only [stepBound, markups, Inlined.markup, Markup.sizeAll, Markup.size, entriesAll,
      Inlined.entries, List.append_nil, List.map_append, bodySizes_append, List.map_cons,
      List.map_nil, bodySizes, Snippet.bodySize]
    omega
  refine ⟨2 + steps + 1, by omega, fun depth fuel text rest => ?_⟩
  simp only [markups, Inlined.markup, List.map_cons, List.map_nil, List.singleton_append]
  rw [← Nat.add_assoc, writeWithin_cons]
  simp only [writeStep, htable]
  rw [← Nat.add_assoc, List.append_assoc, hrun]
  simp only [List.cons_append, List.nil_append, writeWithin_cons, writeStep, chunksAll,
    List.append_nil, Inlined.chunks, textOf_append, textOf_loopStart, textOf_loopEnd,
    String.append_assoc]

end Writes

/-- **The stack writes the pieces of trees.** -/
theorem Laid.writes {scope : Scope} {fields : List Field} (h : Laid scope fields trees)
    (htable : Holds table trees) : Writes table trees :=
  h.inductionOn htable .nil
    (fun tag classes _ _ hholds hinner hrest => (hinner.element hholds tag classes).append hrest)
    (fun _ _ _ hsnippet hleaf hrest => (Writes.leaf hsnippet hleaf).append hrest)
    (fun _ _ _ _ hsnippet hbody hrest => (hbody.loop hsnippet).append hrest)

end

section

variable (fields : List Field)

/-- The table of a forest holds the snippets of its template. -/
theorem holds_inline : Holds (lower fields).2 (inline (lower fields).1 (lower fields).2) :=
  fun p hp => (getElem?_lower_iff fields p.1 p.2).2 hp

/-- **The text of a lowered forest is that of its pieces.** -/
theorem write_lower :
    write (lower fields).1 (lower fields).2
      = textOf (chunksAll 0 (inline (lower fields).1 (lower fields).2)) := by
  obtain ⟨steps, hbound, hrun⟩ := (laid_inline fields).writes (holds_inline fields)
  have hwork : workBound (lower fields).1 (lower fields).2
      = stepBound (inline (lower fields).1 (lower fields).2) := by
    rw [workBound, stepBound, markups_inline, toList_lower]
  obtain ⟨fuel, hfuel⟩ := Nat.le.dest hbound
  have hwrite := hrun 0 fuel "" []
  rwa [markups_inline, List.append_nil, Nat.add_comm, hfuel, ← hwork, writeWithin_nil,
    String.empty_append] at hwrite

end

end Template

end ThemeCompiler
