/-
**Landmarks and wrappers.**

A page has one main landmark: surplus ones become plain divisions, and without one the content of
the body is wrapped.  A division without attributes and without text of its own is redundant when
it has at most one element inside.

Main definitions:

* `ThemeCompiler.Landmarks.normalize` — the document with one main landmark;
* `ThemeCompiler.Landmarks.isWrapper` — a division that says nothing;
* `ThemeCompiler.Landmarks.flatten` — the document without redundant wrappers.
-/

import ThemeCompiler.Document.Edit

set_option relaxedAutoImplicit false
set_option autoImplicit false

namespace ThemeCompiler

namespace Landmarks

/-! ### The main landmark -/

/-- What was changed about the main landmark. -/
structure Outcome where
  /-- The number of surplus landmarks. -/
  demoted : Nat
  /-- Whether one was added. -/
  synthesized : Bool
  deriving DecidableEq, Repr

/-- **The document with one main landmark.**  The first one stays; without any the content of the
body, if there is one, goes into a new one with the given identifier. -/
def normalize (mainId : String) (d : Document) : Document × Outcome :=
  match d.elementsByTag "main" with
  | [] =>
      match d.body? with
      | some body =>
          let main := d.nextId
          ((d.createElement "main" [⟨"id", mainId⟩]).wrapChildren body main, ⟨0, true⟩)
      | none => (d, ⟨0, false⟩)
  | _ :: surplus => (surplus.foldl (fun e n => e.rename n "div") d, ⟨surplus.length, false⟩)

/-! ### Wrappers -/

/-- **Whether a node is a division that says nothing**: no attributes and no text of its own. -/
def isWrapper (d : Document) (n : NodeId) : Bool :=
  d.hasTag "div" n && (d.attrs n).isEmpty && !d.hasDirectText n

/-- The document without a wrapper, if it has at most one element inside: that element takes its
place. -/
def unwrapOne (d : Document) (n : NodeId) : Option Document :=
  if d.isAttached n && isWrapper d n then
    match d.elementChildren n with
    | [] => some (d.detach n)
    | [only] => some (d.replaceWith n only)
    | _ => none
  else none

/-- The document after the wrappers among the given nodes were looked at, with the number of those
that went. -/
def unwrapAll : List NodeId → Document → Document × Nat
  | [], d => (d, 0)
  | n :: rest, d =>
      match unwrapOne d n with
      | some changed =>
          let result := unwrapAll rest changed
          (result.1, result.2 + 1)
      | none => unwrapAll rest d

/-- One pass over the divisions of a document, innermost first. -/
def flattenOnce (d : Document) : Document × Nat := unwrapAll (d.elementsByTag "div").reverse d

/-- **The document without redundant wrappers, and their number.**  Passes are made until one
changes nothing, at most `cap`. -/
def flatten : Nat → Document → Document × Nat
  | 0, d => (d, 0)
  | cap + 1, d =>
      let once := flattenOnce d
      if once.2 = 0 then once
      else
        let more := flatten cap once.1
        (more.1, once.2 + more.2)

end Landmarks

end ThemeCompiler
