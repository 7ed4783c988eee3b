/-
**The markup of a template.**

A content model becomes a tree of elements whose leaves refer to snippets by their number in a
table.  A snippet binds a field: it prints a value, an image or a link, runs over the rows of a
repeater, or repeats a form control.

Main definitions:

* `ThemeCompiler.Template.Scope` — whether a field belongs to the page or to a row;
* `ThemeCompiler.Template.Markup`, `ThemeCompiler.Template.Snippet` — the tree and the table;
* `ThemeCompiler.Template.lower` — the markup of a content model.
-/

import ThemeCompiler.Field

set_option relaxedAutoImplicit false
set_option autoImplicit false

namespace ThemeCompiler

namespace Template

/-- Whether a field belongs to the page or to the row of the innermost repeater. -/
inductive Scope where
  | page
  | row
  deriving DecidableEq, Repr

/-- **A node of the markup of a template**: an element, or a snippet by its number. -/
inductive Markup where
  | element (tag classes : String) (children : List Markup)
  | snippet (id : Nat)
  deriving Repr

/-- **A snippet.** -/
inductive Snippet where
  /-- Prints a text. -/
  | value (slug : String) (scope : Scope)
  /-- Prints an image, if there is one. -/
  | image (slug : String) (scope : Scope)
  /-- Prints a link, if there is one. -/
  | link (slug : String) (scope : Scope) (classes : String)
  /-- Runs over the rows of a repeater. -/
  | loop (slug : String) (body : List Markup)
  /-- Repeats a form control. -/
  | control (tag slug : String) (type : Option String) (classes : String)
  deriving Repr

/-- The snippets of a template by their numbers. -/
abbrev Table := Array Snippet

/-- The type with which a control is repeated. -/
def controlType (tag : String) (input : Option InputType) : Option String :=
  if tag != "input" then none
  else some (match input with
    | some .email => "email"
    | some .boolean => "checkbox"
    | some .number => "number"
    | _ => "text")

/-- The only field of an instance when it is the text of the instance itself. -/
def selfValue? (info : FieldInfo) : List Field → Option FieldInfo
  | [.mk only _] =>
      if (only.kind == .text || only.kind == .textarea) && only.tag == info.tag
          && only.classes == info.classes then some only
      else none
  | _ => none

mutual

/-- The markup of a field, and the table with its snippets. -/
def lowerField : Field → Scope → Table → Markup × Table
  | .mk info children, scope, table =>
      match info.kind with
      | .repeater =>
          let (inner, table) : List Markup × Table :=
            match selfValue? info children with
            | some only => ([.snippet table.size], table.push (.value only.slug .row))
            | none => lowerAll children .row table
          (.snippet table.size,
            table.push (.loop info.slug [.element info.tag info.classes inner]))
      | .container =>
          let (inner, table) := lowerAll children scope table
          (.element info.tag info.classes inner, table)
      | .text | .textarea =>
          (.element info.tag info.classes [.snippet table.size],
            table.push (.value info.slug scope))
      | .image => (.snippet table.size, table.push (.image info.slug scope))
      | .link => (.snippet table.size, table.push (.link info.slug scope info.classes))
      | .formField =>
          (.snippet table.size,
            table.push (.control info.tag info.slug (controlType info.tag info.input)
              info.classes))

/-- The markup of fields, and the table with their snippets. -/
def lowerAll : List Field → Scope → Table → List Markup × Table
  | [], _, table => ([], table)
  | f :: rest, scope, table =>
      let (first, table) := lowerField f scope table
      let (others, table) := lowerAll rest scope table
      (first :: others, table)

end

/-- **The markup of a content model, with its table of snippets.** -/
def lower (fields : List Field) : List Markup × Table := lowerAll fields .page #[]

end Template

end ThemeCompiler
