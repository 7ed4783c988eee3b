/-
**Drafts of fields.**

While a page is scanned each field knows the place in the page that it was made from.  A field that
was made because nothing else was found has no place.

Main definitions:

* `ThemeCompiler.Model.Draft` — a field with its place;
* `ThemeCompiler.Model.Draft.toField` — the field alone;
* `ThemeCompiler.Model.Draft.places` — the places of a forest, parents before children;
* `ThemeCompiler.Model.sortDrafts` — drafts in the order of their places.
-/

import ThemeCompiler.Field

set_option relaxedAutoImplicit false
set_option autoImplicit false

namespace ThemeCompiler

namespace Model

/-- **A field with the place it was made from**, which is a position in document order. -/
inductive Draft where
  | mk (place : Option Nat) (info : FieldInfo) (children : List Draft)

namespace Draft

/-- The place of a draft. -/
def place : Draft → Option Nat
  | mk place _ _ => place

/-- What a draft says about itself. -/
def info : Draft → FieldInfo
  | mk _ info _ => info

mutual

/-- **The field of a draft.** -/
def toField : Draft → Field
  | mk _ info children => .mk info (toFields children)

/-- The fields of drafts. -/
def toFields : List Draft → List Field
  | [] => []
  | draft :: rest => toField draft :: toFields rest

end

mutual

/-- The places of a draft and of what is inside of it. -/
def places : Draft → List Nat
  | mk place _ children => place.toList ++ placesAll children

/-- **The places of a forest**, parents before children. -/
def placesAll : List Draft → List Nat
  | [] => []
  | draft :: rest => places draft ++ placesAll rest

end

/-- A draft of a field without an identifier. -/
def make (place : Option Nat) (kind : FieldKind) (tag classes slug content : String)
    (children : List Draft) : Draft :=
  mk place ⟨"", kind, tag, classes, content, slug, none, none⟩ children

/-- The draft with a component type. -/
def withComponent (component : Option ComponentType) : Draft → Draft
  | mk place info children => mk place { info with component := component } children

/-- The draft with an input type. -/
def withInput (input : InputType) : Draft → Draft
  | mk place info children => mk place { info with input := some input } children

end Draft

/-! ### Order -/

/-- Whether one draft may stand before another: not when it is from a later place. -/
def mayPrecede (a b : Draft) : Bool :=
  match a.place, b.place with
  | some p, some q => p ≤ q
  | some _, none => true
  | none, some _ => false
  | none, none => true

/-- Puts a draft before the first one that it may precede. -/
def insertDraft (a : Draft) : List Draft → List Draft
  | [] => [a]
  | b :: rest => if mayPrecede a b then a :: b :: rest else b :: insertDraft a rest

/-- **Drafts in the order of their places**; those of one place keep their order. -/
def sortDrafts : List Draft → List Draft
  | [] => []
  | a :: rest => insertDraft a (sortDrafts rest)

end Model

end ThemeCompiler
