/-
**Passes over a document.**

A pass changes a document and tells what it changed.  Most passes look at a list of nodes that is
made beforehand, one node after the other, and change some of them.

Main definitions:

* `ThemeCompiler.Pass` — a change of a document with a record of it;
* `ThemeCompiler.Pass.sweep` — the pass that visits the nodes of a list;
* `ThemeCompiler.Pass.inTurn` — passes one after the other.
-/

import ThemeCompiler.Document.Edit

set_option relaxedAutoImplicit false
set_option autoImplicit false

namespace ThemeCompiler

/-- **A change of a document with a record of what was changed.** -/
abbrev Pass (α : Type) := Document → Document × List α

namespace Pass

variable {α : Type}

/-- The document after the nodes of a list were visited, with the records of the visits that
changed something. -/
def visitAll (visit : Document → NodeId → Option (Document × α)) : List NodeId → Pass α
  | [], d => (d, [])
  | n :: rest, d =>
      match visit d n with
      | none => visitAll visit rest d
      | some (changed, entry) =>
          let result := visitAll visit rest changed
          (result.1, entry :: result.2)

/-- **The pass that visits the nodes a list of which is made beforehand.** -/
def sweep (nodes : Document → List NodeId)
    (visit : Document → NodeId → Option (Document × α)) : Pass α :=
  fun d => visitAll visit (nodes d) d

/-- **Passes one after the other**, with all records in order. -/
def inTurn : List (Pass α) → Pass α
  | [], d => (d, [])
  | pass :: rest, d =>
      let first := pass d
      let others := inTurn rest first.1
      (others.1, first.2 ++ others.2)

end Pass

end ThemeCompiler
