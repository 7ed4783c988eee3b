/-
**Markup written by recursion.**

A template is written from a stack of nodes and of the lines that close them.  The text that comes
out is the one of a plain recursion: an element is written around what is inside of it, a loop
around its body, and the numbers of snippets are looked up where they stand.  Nothing keeps the
snippets of a table from referring to each other in a circle, so the recursion is a relation between
markup and texts.  Markup is related to one text at most, and where it is, the stack comes to its
end and has written that text.  The markup of a forest of fields always has a text.

Main definitions:

* `ThemeCompiler.Template.Renders` — **the text of markup at a depth**, by recursion;
* `ThemeCompiler.Template.workFor` — the text and the stack after a number of steps;
* `ThemeCompiler.Template.Opened`, `ThemeCompiler.Template.openAfter` — what is open after pieces of
  a template, where only the last opened may be closed.

Main results:

* `ThemeCompiler.Template.Renders.deterministic` — markup has one text;
* `ThemeCompiler.Template.Renders.exists_workFor` — the stack writes it and comes to its end;
* `ThemeCompiler.Template.closed_chunksAll` — what is opened is closed;
* `ThemeCompiler.Template.write_lower_renders` — **a template is written by recursion**.
-/

import ThemeCompiler.Proofs.Template.Openings

set_option relaxedAutoImplicit false
set_option autoImplicit false

namespace ThemeCompiler

namespace Template

open Inlined (markups chunksAll)

/-! ### The text of markup -/

/-- **The text of markup at a depth.** -/
inductive Renders (table : Table) : Nat → List Markup → String → Prop
  | nil {depth : Nat} : Renders table depth [] ""
  /-- An element without content is its start tag. -/
  | void {depth : Nat} {tag classes more : String} {children rest : List Markup}
      (hvoid : Html.isVoid tag = true) (hrest : Renders table depth rest more) :
      Renders table depth (.element tag classes children :: rest)
        (pad depth ++ openTag tag classes ++ "\n" ++ more)
  /-- An element whose only child is a value has it between its tags. -/
  | value {depth id : Nat} {tag classes slug more : String} {scope : Scope} {rest : List Markup}
      (hvoid : Html.isVoid tag = false) (hvalue : table[id]? = some (.value slug scope))
      (hrest : Renders table depth rest more) :
      Renders table depth (.element tag classes [.snippet id] :: rest)
        (pad depth ++ openTag tag classes ++ printValue scope slug ++ closeTag tag ++ "\n" ++ more)
  /-- Any other element has its children between the lines of its tags. -/
  | element {depth : Nat} {tag classes inner more : String} {children rest : List Markup}
      (hvoid : Html.isVoid tag = false)
      (hvalue : ∀ id slug scope, children = [.snippet id] → table[id]? ≠ some (.value slug scope))
      (hinner : Renders table (depth + 1) children inner) (hrest : Renders table depth rest more) :
      Renders table depth (.element tag classes children :: rest)
        (pad depth ++ openTag tag classes ++ "\n" ++ inner ++ pad depth ++ closeTag tag ++ "\n"
          ++ more)
  /-- A snippet that is no loop has lines of its own. -/
  | leaf {depth id : Nat} {snippet : Snippet} {more : String} {rest : List Markup}
      (hsnippet : table[id]? = some snippet) (hleaf : ∀ slug body, snippet ≠ .loop slug body)
      (hrest : Renders table depth rest more) :
      Renders table depth (.snippet id :: rest) (writeLeaf depth snippet ++ more)
  /-- A loop has its body between two lines that begin and two lines that end it. -/
  | loop {depth id : Nat} {slug inner more : String} {body rest : List Markup}
      (hsnippet : table[id]? = some (.loop slug body))
      (hinner : Renders table (depth + 2) body inner) (hrest : Renders table depth rest more) :
      Renders table depth (.snippet id :: rest)
        (pad depth ++ "<?php if (have_rows('" ++ slug ++ "')): ?>\n"
          ++ pad (depth + 1) ++ "<?php while (have_rows('" ++ slug ++ "')): the_row(); ?>\n"
          ++ inner
          ++ pad (depth + 1) ++ "<?php endwhile; ?>\n"
          ++ pad depth ++ "<?php endif; ?>\n"
          ++ more)

/-- **Markup has one text.** -/
theorem Renders.deterministic {table : Table} {depth : Nat} {markup : List Markup}
    {text text' : String} (h : Renders table depth markup text)
    (h' : Renders table depth markup text') : text = text' := by
  induction h generalizing text' with
  | nil =>
      cases h'
      rfl
  | void hvoid _ ih =>
      cases h' with
      | void _ hrest => rw [ih hrest]
      | value hvoid' | element hvoid' => rw [hvoid] at hvoid'; cases hvoid'
  | value hvoid hvalue _ ih =>
      cases h' with
      | void hvoid' => rw [hvoid] at hvoid'; cases hvoid'
      | value _ hvalue' hrest =>
          rw [hvalue] at hvalue'
          cases hvalue'
          rw [ih hrest]
      | element _ hvalue' => exact absurd hvalue (hvalue' _ _ _ rfl)
  | element hvoid hvalue _ _ ihinner ih =>
      cases h' with
      | void hvoid' => rw [hvoid] at hvoid'; cases hvoid'
      | value _ hvalue' => exact absurd hvalue' (hvalue _ _ _ rfl)
      | element _ _ hinner hrest => rw [ihinner hinner, ih hrest]
  | leaf hsnippet hleaf _ ih =>
      cases h' with
      | leaf hsnippet' _ hrest =>
          rw [hsnippet] at hsnippet'
          cases hsnippet'
          rw [ih hrest]
      | loop hsnippet' =>
          rw [hsnippet] at hsnippet'
          cases hsnippet'
          exact absurd rfl (hleaf _ _)
  | loop hsnippet _ _ ihinner ih =>
      cases h' with
      | leaf hsnippet' hleaf =>
          rw [hsnippet] at hsnippet'
          cases hsnippet'
          exact absurd rfl (hleaf _ _)
      | loop hsnippet' hinner hrest =>
          rw [hsnippet] at hsnippet'
          cases hsnippet'
          rw [ihinner hinner, ih hrest]

/-! ### The stack comes to its end -/

/-- **The text and the stack after a number of steps**; without a stack there is nothing to do. -/
def workFor (table : Table) : Nat → String × List Pending → String × List Pending
  | 0, state => state
  | _ + 1, (text, []) => (text, [])
  | steps + 1, (text, top :: rest) =>
      let step := writeStep table top
      workFor table steps (text ++ step.1, step.2 ++ rest)

section

variable {table : Table}

theorem workFor_cons (steps : Nat) (text : String) (top : Pending) (rest : List Pending) :
    workFor table (steps + 1) (text, top :: rest)
      = workFor table steps (text ++ (writeStep table top).1, (writeStep table top).2 ++ rest) :=
  rfl

theorem workFor_nil (steps : Nat) (text : String) :
    workFor table steps (text, []) = (text, []) := by
  cases steps <;> rfl

theorem workFor_add (steps more : Nat) (state : String × List Pending) :
    workFor table (steps + more) state = workFor table more (workFor table steps state) := by
  induction steps generalizing state with
  | zero => rw [Nat.zero_add]; rfl
  | succ steps ih =>
      obtain ⟨text, stack⟩ := state
      cases stack with
      | nil => rw [workFor_nil, workFor_nil, workFor_nil]
      | cons top rest => rw [Nat.add_right_comm, workFor_cons, ih, workFor_cons]

/-- What is written within a number of steps is the text after them. -/
theorem writeWithin_eq (fuel : Nat) (text : String) (stack : List Pending) :
    writeWithin table fuel text stack = (workFor table fuel (text, stack)).1 := by
  induction fuel generalizing text stack with
  | zero => rfl
  | succ fuel ih =>
      cases stack with
      | nil => rfl
      | cons top rest => rw [writeWithin_cons, ih, workFor_cons]

theorem inlineValue?_eq_none_iff {children : List Markup} :
    inlineValue? table children = none ↔
      ∀ id slug scope, children = [.snippet id] → table[id]? ≠ some (.value slug scope) := by
  unfold inlineValue?
  split
  · next id =>
      split
      · next slug scope hvalue => simp [hvalue]
      · next hnot =>
          simp only [List.cons.injEq, Markup.snippet.injEq, and_true, true_iff]
          rintro _ slug scope rfl hvalue
          exact hnot slug scope hvalue
  · next hnot => exact ⟨fun _ id _ _ hchildren => absurd hchildren (hnot id), fun _ => rfl⟩

theorem writeStep_leaf {id : Nat} {snippet : Snippet} (hsnippet : table[id]? = some snippet)
    (hleaf : ∀ slug body, snippet ≠ .loop slug body) (depth : Nat) :
    writeStep table (.node (.snippet id) depth) = (writeLeaf depth snippet, []) := by
  cases snippet with
  | loop slug body => exact absurd rfl (hleaf slug body)
  | value | image | link | control => simp only [writeStep, hsnippet]

/-- The lines around a body are those that the writer puts there. -/
theorem loop_text (depth : Nat) (slug inner more : String) :
    pad depth ++ "<?php if (have_rows('" ++ slug ++ "')): ?>\n"
        ++ pad (depth + 1) ++ "<?php while (have_rows('" ++ slug ++ "')): the_row(); ?>\n" ++ inner
        ++ pad (depth + 1) ++ "<?php endwhile; ?>\n" ++ pad depth ++ "<?php endif; ?>\n" ++ more
      = pad depth ++ code ("if (" ++ call "have_rows" slug ++ "):") ++ "\n" ++ pad (depth + 1)
        ++ code ("while (" ++ call "have_rows" slug ++ "): the_row();") ++ "\n" ++ inner
        ++ (pad (depth + 1) ++ code "endwhile;" ++ "\n")
        ++ (pad depth ++ code "endif;" ++ "\n") ++ more := by
  apply String.toList_inj.1
  simp [code, call]

/-- **The stack writes the text of markup**, and comes to what is below it. -/
theorem Renders.exists_workFor {depth : Nat} {markup : List Markup} {out : String}
    (h : Renders table depth markup out) : ∃ steps, ∀ (text : String) (below : List Pending),
      workFor table steps (text, markup.map (Pending.node · depth) ++ below)
        = (text ++ out, below) := by
  induction h with
  | nil => exact ⟨0, fun text below => by rw [String.append_empty]; rfl⟩
  | void hvoid _ ih =>
      obtain ⟨steps, hrest⟩ := ih
      refine ⟨steps + 1, fun text below => ?_⟩
      rw [List.map_cons, List.cons_append, workFor_cons]
      simp only [writeStep, hvoid, if_true, List.nil_append, hrest, String.append_assoc]
  | value hvoid hvalue _ ih =>
      obtain ⟨steps, hrest⟩ := ih
      refine ⟨steps + 1, fun text below => ?_⟩
      rw [List.map_cons, List.cons_append, workFor_cons]
      simp only [writeStep, hvoid, inlineValue?, hvalue, Bool.false_eq_true, if_false,
        List.nil_append, hrest, String.append_assoc]
  | @element depth tag classes _ _ children rest hvoid hvalue _ _ ihinner ih =>
      obtain ⟨inside, hinner⟩ := ihinner
      obtain ⟨steps, hrest⟩ := ih
      -- a step for the start tag, those for the children, and a step for the end tag
      refine ⟨inside + (steps + 1) + 1, fun text below => ?_⟩
      rw [List.map_cons, List.cons_append, workFor_cons]
      simp only [writeStep, hvoid, inlineValue?_eq_none_iff.2 hvalue, Bool.false_eq_true, if_false]
      rw [workFor_add, List.append_assoc, hinner, List.singleton_append, workFor_cons]
      simp only [writeStep, List.nil_append, hrest, String.append_assoc]
  | leaf hsnippet hleaf _ ih =>
      obtain ⟨steps, hrest⟩ := ih
      refine ⟨steps + 1, fun text below => ?_⟩
      rw [List.map_cons, List.cons_append, workFor_cons, writeStep_leaf hsnippet hleaf,
        List.nil_append, hrest, String.append_assoc]
  | @loop depth id slug _ _ body rest hsnippet _ _ ihinner ih =>
      obtain ⟨inside, hinner⟩ := ihinner
      obtain ⟨steps, hrest⟩ := ih
      refine ⟨inside + (steps + 2) + 1, fun text below => ?_⟩
      rw [List.map_cons, List.cons_append, workFor_cons]
      simp only [writeStep, hsnippet]
      rw [workFor_add, List.append_assoc, hinner, loop_text]
      simp only [List.cons_append, workFor_cons, writeStep, List.nil_append, hrest,
        String.append_assoc]

end

/-! ### Markup of fields has a text -/

/-- **The markup of trees has the text of their pieces**, at every depth. -/
def RendersPieces (table : Table) (trees : List Inlined) : Prop :=
  ∀ depth, Renders table depth (markups trees) (textOf (chunksAll depth trees))

namespace RendersPieces

variable {table : Table} {trees : List Inlined}

theorem nil : RendersPieces table [] := fun _ => .nil

theorem element_cons {inner : List Inlined} (hinner : RendersPieces table inner)
    (hrest : RendersPieces table trees) (htable : Holds table inner) (tag classes : String) :
    RendersPieces table (.element tag classes inner :: trees) := by
  intro depth
  rw [markups, Inlined.markup, chunksAll, Inlined.chunks, textOf_append]
  have hvalue := inlineValue?_markups htable
  cases hvoid : Html.isVoid tag with
  | true =>
      rw [if_pos rfl, textOf_line, textOf_startTag]
      exact .void hvoid (hrest depth)
  | false =>
      rw [if_neg Bool.false_ne_true]
      cases honly : onlyValue? inner with
      | some value =>
          obtain ⟨id, slug, scope⟩ := value
          obtain rfl := onlyValue?_eq_some honly
          have hline : Renders table depth
              (.element tag classes [.snippet id] :: markups trees) _ :=
            .value hvoid (holds_leaf_cons.1 htable).1 (hrest depth)
          simpa only [textOf_line, textOf_append, textOf_startTag, textOf, Piece.text, Block.body,
            textOf_endTag, printValue, markups, Inlined.markup, String.append_assoc] using hline
      | none =>
          rw [honly, Option.map_none, inlineValue?_eq_none_iff] at hvalue
          have hlines : Renders table depth
              (.element tag classes (markups inner) :: markups trees) _ :=
            .element hvoid hvalue (hinner (depth + 1)) (hrest depth)
          simpa only [textOf_append, textOf_line, textOf_startTag, textOf_endTag,
            String.append_assoc] using hlines

theorem leaf_cons {id : Nat} {snippet : Snippet} (hrest : RendersPieces table trees)
    (hsnippet : table[id]? = some snippet) (hleaf : ∀ slug body, snippet ≠ .loop slug body) :
    RendersPieces table (.leaf id snippet :: trees) := by
  intro depth
  rw [markups, Inlined.markup, chunksAll, Inlined.chunks, textOf_append, textOf_lines _ _ hleaf]
  exact .leaf hsnippet hleaf (hrest depth)

theorem loop_cons {id : Nat} {slug : String} {body : List Inlined}
    (hbody : RendersPieces table body) (hrest : RendersPieces table trees)
    (hsnippet : table[id]? = some (.loop slug (markups body))) :
    RendersPieces table (.loop id slug body :: trees) := by
  intro depth
  have hlines := Renders.loop hsnippet (hbody (depth + 2)) (hrest depth)
  rw [loop_text] at hlines
  simpa only [markups, Inlined.markup, chunksAll, Inlined.chunks, textOf_append, textOf_loopStart,
    textOf_loopEnd, String.append_assoc] using hlines

end RendersPieces

/-- **The trees of a forest have the text of their pieces** where the table holds their
snippets. -/
theorem Laid.renders {scope : Scope} {fields : List Field} {trees : List Inlined} {table : Table}
    (h : Laid scope fields trees) (htable : Holds table trees) : RendersPieces table trees :=
  h.inductionOn htable .nil
    (fun tag classes _ _ hholds hinner hrest => hinner.element_cons hrest hholds tag classes)
    (fun _ _ _ hsnippet hleaf hrest => hrest.leaf_cons hsnippet hleaf)
    (fun _ _ _ _ hsnippet hbody hrest => hbody.loop_cons hrest hsnippet)

/-! ### What is opened is closed -/

/-- What is opened by a piece of a template and has to be closed. -/
inductive Opened where
  | element (tag : String)
  | ifBlock
  | whileBlock
  deriving DecidableEq, Repr

/-- What a piece opens; an element without content is not open after its start tag. -/
def Piece.opens? : Piece → Option Opened
  | .opening tag => if Html.isVoid tag then none else some (.element tag)
  | .code (.guard _ _) | .code (.rows _) => some .ifBlock
  | .code (.row _) => some .whileBlock
  | _ => none

/-- What a piece closes. -/
def Piece.closes? : Piece → Option Opened
  | .closing tag => some (.element tag)
  | .code .endif => some .ifBlock
  | .code .endwhile => some .whileBlock
  | _ => none

/-- **What is open after pieces**, the last opened first, if what they close was always the last
opened. -/
def openAfter : List Opened → List Chunk → Option (List Opened)
  | opened, [] => some opened
  | opened, c :: rest =>
      match c.piece.closes?, opened with
      | none, opened => openAfter (c.piece.opens?.toList ++ opened) rest
      | some what, last :: below => if what = last then openAfter below rest else none
      | some _, [] => none

theorem openAfter_append (opened : List Opened) (chunks others : List Chunk) :
    openAfter opened (chunks ++ others)
      = (openAfter opened chunks).bind (openAfter · others) := by
  induction chunks generalizing opened with
  | nil => rfl
  | cons c rest ih =>
      simp only [List.cons_append, openAfter]
      cases c.piece.closes? with
      | none => exact ih _
      | some what =>
          cases opened with
          | nil => rfl
          | cons last below =>
              by_cases h : what = last
              · simpa only [h, if_true] using ih below
              · simp only [h, if_false, Option.bind_none]

theorem openAfter_plain (opened : List Opened) (owner : Option Nat) (text : String)
    (rest : List Chunk) :
    openAfter opened (⟨owner, .plain text⟩ :: rest) = openAfter opened rest := rfl

/-- Only what stands on a line opens and closes something. -/
theorem openAfter_line (opened : List Opened) (depth : Nat) (inner : List Chunk) :
    openAfter opened (line depth inner) = openAfter opened inner := by
  rw [line, List.cons_append, openAfter_plain, openAfter_append]
  cases openAfter opened inner <;> rfl

/-- **Pieces that close what they open**, and nothing else. -/
def Closed (chunks : List Chunk) : Prop := ∀ opened, openAfter opened chunks = some opened

theorem Closed.append {chunks others : List Chunk} (h : Closed chunks) (h' : Closed others) :
    Closed (chunks ++ others) := by
  intro opened
  rw [openAfter_append, h opened, Option.bind_some, h' opened]

/-- The start tag of an element with content opens it. -/
theorem openAfter_startTag (opened : List Opened) (tag classes : String) :
    openAfter opened (startTag tag classes)
      = some (if Html.isVoid tag then opened else .element tag :: opened) := by
  rw [startTag]
  cases hvoid : Html.isVoid tag <;> simp [openAfter, Piece.closes?, Piece.opens?, hvoid]

theorem openAfter_endTag (opened : List Opened) (tag : String) :
    openAfter (.element tag :: opened) (endTag tag) = some opened := by
  simp [endTag, openAfter, Piece.closes?, Piece.opens?]

/-- **A snippet closes what it opens**; a loop does so without its body. -/
theorem closed_lines (id depth : Nat) (snippet : Snippet) :
    Closed (linesFor id depth snippet.lines) := by
  intro opened
  cases snippet with
  | value slug scope =>
      simp [Snippet.lines, linesFor, openAfter_line, openAfter, Piece.closes?, Piece.opens?]
  | image slug scope =>
      have hvoid : Html.isVoid "img" = true := by decide
      simp [Snippet.lines, linesFor, guardedLines, openAfter_append, openAfter_line, openAfter,
        Piece.closes?, Piece.opens?, hvoid]
  | link slug scope classes =>
      have hvoid : Html.isVoid "a" = false := by decide
      simp [Snippet.lines, linesFor, guardedLines, openAfter_append, openAfter_line, openAfter,
        Piece.closes?, Piece.opens?, hvoid]
  | control tag slug type classes =>
      cases hvoid : Html.isVoid tag <;>
        simp [Snippet.lines, linesFor, controlPieces, hvoid, openAfter_line, openAfter,
          Piece.closes?, Piece.opens?]
  | loop slug body =>
      simp [Snippet.lines, linesFor, loopStart, loopEnd, openAfter_append, openAfter_line,
        openAfter, Piece.closes?, Piece.opens?]

theorem closed_element {tag : String} {inner : List Inlined} (classes : String) (depth : Nat)
    (h : Closed (chunksAll (depth + 1) inner)) :
    Closed (Inlined.chunks depth (.element tag classes inner)) := by
  intro opened
  rw [Inlined.chunks]
  cases hvoid : Html.isVoid tag with
  | true =>
      rw [if_pos rfl, openAfter_line, openAfter_startTag, hvoid]
      rfl
  | false =>
      rw [if_neg Bool.false_ne_true]
      cases onlyValue? inner with
      | some value =>
          simp only [openAfter_line, openAfter_append, openAfter_startTag, hvoid,
            Option.bind_some, Bool.false_eq_true, if_false]
          exact openAfter_endTag opened tag
      | none =>
          simp only [openAfter_line, openAfter_append, openAfter_startTag, hvoid,
            Option.bind_some, h (.element tag :: opened), openAfter_endTag, Bool.false_eq_true,
            if_false]

/-- The body of a loop stands inside of its two blocks. -/
theorem closed_loop {body : List Inlined} (id : Nat) (slug : String) (depth : Nat)
    (h : Closed (chunksAll (depth + 2) body)) :
    Closed (Inlined.chunks depth (.loop id slug body)) := by
  intro opened
  have hstart : openAfter opened (linesFor id depth (loopStart slug))
      = some (.whileBlock :: .ifBlock :: opened) := by
    simp [linesFor, loopStart, openAfter_append, openAfter_line, openAfter, Piece.closes?,
      Piece.opens?]
  have hend : openAfter (.whileBlock :: .ifBlock :: opened) (linesFor id depth loopEnd)
      = some opened := by
    simp [linesFor, loopEnd, openAfter_append, openAfter_line, openAfter, Piece.closes?]
  rw [Inlined.chunks, openAfter_append, openAfter_append, hstart, Option.bind_some, h,
    Option.bind_some, hend]

mutual

theorem closed_chunks : ∀ (tree : Inlined) (depth : Nat), Closed (tree.chunks depth)
  | .element _ classes inner, depth => closed_element classes depth (closed_chunksAll inner _)
  | .leaf id snippet, depth => by
      rw [Inlined.chunks]
      exact closed_lines id depth snippet
  | .loop id slug body, depth => closed_loop id slug depth (closed_chunksAll body _)

/-- **The pieces of trees close what they open**, the last opened first. -/
theorem closed_chunksAll : ∀ (trees : List Inlined) (depth : Nat), Closed (chunksAll depth trees)
  | [], _ => fun _ => rfl
  | tree :: rest, depth => (closed_chunks tree depth).append (closed_chunksAll rest depth)

end

/-! ### Templates -/

/-- **A template is written by recursion.**  The stack comes to its end, and more steps change
nothing; what is written is the one text of the markup; and this is a text of pieces of which only
blocks of code and the beginnings of tags have an angle bracket that opens, and in which every
element with content, every `if` and every `while` that is opened is closed, the last opened
first. -/
theorem write_lower_renders (fields : List Field) :
    let markup := (lower fields).1
    let table := (lower fields).2
    let stack := markup.map (Pending.node · 0)
    let chunks := chunksAll 0 (inline markup table)
    (∃ steps, workFor table steps ("", stack) = (write markup table, []) ∧
        ∀ fuel, steps ≤ fuel → writeWithin table fuel "" stack = write markup table) ∧
      (∀ text, Renders table 0 markup text ↔ text = write markup table) ∧
      write markup table = textOf chunks ∧
      (∀ owner text, ⟨owner, .plain text⟩ ∈ chunks → '<' ∉ text.toList) ∧
      openAfter [] chunks = some [] := by
  intro markup table stack chunks
  have hrenders : Renders table 0 markup (write markup table) := by
    rw [write_lower]
    have h := (laid_inline fields).renders (holds_inline fields) 0
    rwa [markups_inline] at h
  have hplain : AllOver (fun _ => True) (fun _ => True) chunks :=
    (laid_inline fields).over trivial trivial (fun _ _ => ⟨trivial, .inr trivial⟩) 0
  refine ⟨?_, fun text => ⟨fun h => h.deterministic hrenders, ?_⟩, write_lower fields, ?_,
    closed_chunksAll _ 0 []⟩
  · obtain ⟨steps, hsteps⟩ := hrenders.exists_workFor
    have hrun := hsteps "" []
    rw [List.append_nil, String.empty_append] at hrun
    refine ⟨steps, hrun, fun fuel hfuel => ?_⟩
    obtain ⟨more, rfl⟩ := Nat.le.dest hfuel
    rw [writeWithin_eq, workFor_add, hrun, workFor_nil]
  · rintro rfl
    exact hrenders
  · exact fun owner text hmem => (hplain _ hmem).1

-- A box inside of a section is closed before what comes after it.
example :
    let title : Field := .mk ⟨"", .text, "h2", "", "", "a_title", none, none⟩ []
    let description : Field := .mk ⟨"", .text, "p", "", "", "a_description", none, none⟩ []
    let box : Field := .mk ⟨"", .container, "div", "", "", "box", none, none⟩ [title]
    let hero : Field := .mk ⟨"", .container, "section", "a", "", "a", none, none⟩ [box, description]
    write (lower [hero]).1 (lower [hero]).2 =
      "<section class=\"a\">\n    <div>\n        <h2><?php the_field('a_title'); ?></h2>\n"
        ++ "    </div>\n    <p><?php the_field('a_description'); ?></p>\n</section>\n" := by
  decide +kernel

end Template

end ThemeCompiler
