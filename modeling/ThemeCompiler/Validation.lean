/-
**Validation of a compiled page.**

A page has one main landmark, at most one heading of the first level and no clickable element
without a meaning.  The fields of its model have different identifiers.  Their slugs are not empty
and differ within a scope: containers are transparent, and a repeater opens a scope of its own.

Main definitions:

* `ThemeCompiler.Violation`, `ThemeCompiler.ValidationRule` — what can be wrong, and which rule
  forbids it;
* `ThemeCompiler.Validation.checkDocument`, `ThemeCompiler.Validation.checkIds`,
  `ThemeCompiler.Validation.checkSlugs` — the parts of the check;
* `ThemeCompiler.Validation.check` — the whole check, which reports the first violation.
-/

import ThemeCompiler.Accessibility
import ThemeCompiler.Field

set_option relaxedAutoImplicit false
set_option autoImplicit false

namespace ThemeCompiler

/-- **The rules of validation.** -/
inductive ValidationRule where
  | mainLandmarkCount
  | multipleH1
  | clickablePrimitive
  | fieldIdCollision
  | slugCollision
  deriving DecidableEq, Repr

/-- **A violation of a rule.** -/
inductive Violation where
  | manyMains
  | noMain
  | manyH1s
  | clickablePrimitive
  | repeatedId (slug : String)
  | emptySlug
  | repeatedSlug (slug : String)
  deriving DecidableEq, Repr

namespace Violation

/-- The rule that forbids a violation. -/
def rule : Violation → ValidationRule
  | manyMains | noMain => .mainLandmarkCount
  | manyH1s => .multipleH1
  | clickablePrimitive => .clickablePrimitive
  | repeatedId _ => .fieldIdCollision
  | emptySlug | repeatedSlug _ => .slugCollision

/-- **The wording of a violation.** -/
def message : Violation → String
  | manyMains => "Multiple <main> landmarks detected after normalization."
  | noMain => "No <main> landmark present after normalization."
  | manyH1s => "Multiple <h1> headings remain after SEO optimization."
  | clickablePrimitive => "Non-semantic clickable primitives remain after accessibility pass."
  | repeatedId slug => "Field ID collision detected for " ++ slug ++ "."
  | emptySlug => "Field with an empty slug."
  | repeatedSlug slug => "Slug collision detected for " ++ slug ++ "."

end Violation

namespace Validation

/-! ### The document -/

/-- **What is wrong with a document.** -/
def checkDocument (d : Document) : Except Violation Unit :=
  let mains := (d.elementsByTag "main").length
  if 1 < mains then .error .manyMains
  else if mains = 0 then .error .noMain
  else if 1 < (d.elementsByTag "h1").length then .error .manyH1s
  else if (d.elementsByTags Accessibility.primitiveTags).any (d.hasAttr "onclick") then
    .error .clickablePrimitive
  else .ok ()

/-! ### The fields -/

/-- What is wrong with the identifiers of fields when some are taken already. -/
def checkIdsFrom : List Field → List String → Except Violation Unit
  | [], _ => .ok ()
  | f :: rest, taken =>
      if taken.contains f.info.id then .error (.repeatedId f.slug)
      else checkIdsFrom rest (f.info.id :: taken)

/-- **What is wrong with the identifiers of a forest.** -/
def checkIds (fields : List Field) : Except Violation Unit :=
  checkIdsFrom (Field.preorderAll fields) []

/-- What is wrong with a slug when some are taken in its scope. -/
def checkSlug (slug : String) (taken : List String) : Except Violation Unit :=
  if slug.isEmpty then .error .emptySlug
  else if taken.contains slug then .error (.repeatedSlug slug)
  else .ok ()

mutual

/-- The slugs taken in a scope after a field of it, unless one is wrong. -/
def checkField : Field → List String → Except Violation (List String)
  | .mk info children, taken =>
      match info.kind with
      | .container => checkScope children taken
      | .repeater => do
          checkSlug info.slug taken
          let _ ← checkScope children []
          return info.slug :: taken
      | _ => do
          checkSlug info.slug taken
          return info.slug :: taken

/-- The slugs taken in a scope after some fields of it, unless one is wrong. -/
def checkScope : List Field → List String → Except Violation (List String)
  | [], taken => .ok taken
  | f :: rest, taken => do
      let taken ← checkField f taken
      checkScope rest taken

end

/-- **What is wrong with the slugs of a forest.** -/
def checkSlugs (fields : List Field) : Except Violation Unit := do
  let _ ← checkScope fields []

/-- **The first violation of a page and its model.** -/
def check (d : Document) (fields : List Field) : Except Violation Unit := do
  checkDocument d
  checkIds fields
  checkSlugs fields

end Validation

end ThemeCompiler
