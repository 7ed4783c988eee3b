/-
**Field groups.**

The fields of a template are offered to the editors of a page as a group.  Containers are
transparent; the fields of a repeater are its sub-fields.  A key is made of the key around it and
the slug, and is numbered when it is taken in the group already.

Main definitions:

* `ThemeCompiler.GroupField`, `ThemeCompiler.FieldGroup` — a group and its fields;
* `ThemeCompiler.FieldGroup.ofFields` — the fields for a content model;
* `ThemeCompiler.FieldGroup.generate` — the group of a template.
-/

import ThemeCompiler.Field
import ThemeCompiler.Json.Basic
import ThemeCompiler.Template.Kind

set_option relaxedAutoImplicit false
set_option autoImplicit false

namespace ThemeCompiler

/-! ### Groups and their fields -/

/-- The frame around a field in the editor. -/
structure FieldWrapper where
  width : String
  className : String
  id : String
  deriving DecidableEq, Repr

/-- What every field of a group has. -/
structure FieldHead where
  key : String
  label : String
  name : String
  type : String
  instructions : String
  isRequired : Nat
  conditionalLogic : Nat
  wrapper : FieldWrapper
  defaultValue : String
  placeholder : String
  prepend : String
  append : String
  deriving DecidableEq, Repr

/-- What some types of fields have. -/
structure FieldSettings where
  returnFormat : Option String
  previewSize : Option String
  library : Option String
  collapsed : Option String
  min : Option Nat
  max : Option Nat
  layout : Option String
  buttonLabel : Option String
  choices : Option Json
  ui : Option Nat
  deriving Repr

/-- **A field of a group**, with its sub-fields if it is a repeater. -/
inductive GroupField where
  | mk (head : FieldHead) (settings : FieldSettings) (subFields : Option (List GroupField))
  deriving Repr

/-- A condition on the pages that show a group. -/
structure LocationRule where
  param : String
  operator : String
  value : String
  deriving DecidableEq, Repr

/-- **A field group.** -/
structure FieldGroup where
  key : String
  title : String
  fields : List GroupField
  location : List (List LocationRule)
  menuOrder : Int
  position : String
  style : String
  labelPlacement : String
  instructionPlacement : String
  hideOnScreen : String
  active : Bool
  description : String
  deriving Repr

namespace GroupField

/-- What every field has. -/
def head : GroupField → FieldHead
  | mk head _ _ => head

/-- The sub-fields of a field, none if it has no place for them. -/
def subFields : GroupField → List GroupField
  | mk _ _ sub => sub.getD []

end GroupField

namespace FieldGroup

/-! ### Fields for a content model -/

/-- **The type of the group field for a field.** -/
def fieldType (info : FieldInfo) : String :=
  match info.kind with
  | .text => "text"
  | .textarea => "textarea"
  | .image => "image"
  | .link => "link"
  | .repeater => "repeater"
  | .container => "group"
  | .formField =>
      match info.input with
      | some .text => "textarea"
      | some .email => "email"
      | some .boolean => "true_false"
      | some .enum => "select"
      | some .number => "number"
      | some .string | none => "text"

/-- No settings. -/
def noSettings : FieldSettings := ⟨none, none, none, none, none, none, none, none, none, none⟩

/-- The settings of a type of fields. -/
def settings : String → FieldSettings
  | "image" =>
      { noSettings with
        returnFormat := some "array", previewSize := some "medium", library := some "all" }
  | "link" => { noSettings with returnFormat := some "array" }
  | "repeater" =>
      { noSettings with
        collapsed := some "", min := some 0, max := some 0, layout := some "block",
        buttonLabel := some "Add Row" }
  | "select" => { noSettings with choices := some (.object []), returnFormat := some "value" }
  | "true_false" => { noSettings with ui := some 1 }
  | _ => noSettings

/-- What the group field for a field has. -/
def headOf (info : FieldInfo) (key : String) : FieldHead where
  key := key
  label := Naming.title info.slug
  name := info.slug
  type := fieldType info
  instructions := "Generated field for " ++ info.tag ++ " tag"
  isRequired := 0
  conditionalLogic := 0
  wrapper := ⟨"", "", ""⟩
  defaultValue := ""
  placeholder := ""
  prepend := ""
  append := ""

/-- The key of a field below another key, when some keys are taken in the group. -/
def keyFor (around slug : String) (taken : List String) : String :=
  Naming.fresh (around ++ "_" ++ slug) taken

mutual

/-- The group fields for a field below a key, and the keys taken after them. -/
def ofField (around : String) : Field → List String → List GroupField × List String
  | .mk info children, taken =>
      match info.kind with
      | .container => ofFields around children taken
      | .repeater =>
          let key := keyFor around info.slug taken
          let (sub, taken) := ofFields key children (key :: taken)
          ([.mk (headOf info key) (settings (fieldType info)) (some sub)], taken)
      | _ =>
          let key := keyFor around info.slug taken
          ([.mk (headOf info key) (settings (fieldType info)) none], key :: taken)

/-- **The group fields for fields below a key**, and the keys taken after them. -/
def ofFields (around : String) : List Field → List String → List GroupField × List String
  | [], taken => ([], taken)
  | f :: rest, taken =>
      let (first, taken) := ofField around f taken
      let (others, taken) := ofFields around rest taken
      (first ++ others, taken)

end

/-! ### The group of a template -/

/-- **The field group of a template.** -/
def generate (fields : List Field) (name slug : String) (kind : TemplateKind) : FieldGroup where
  key := "group_" ++ Naming.snakeCase name
  title := name ++ " Fields"
  fields := (ofFields "field" fields []).1
  location := [[⟨"page_template", "==", kind.fileFor slug⟩]]
  menuOrder := 0
  position := "normal"
  style := "default"
  labelPlacement := "top"
  instructionPlacement := "label"
  hideOnScreen := ""
  active := true
  description := "Auto-generated ACF fields for " ++ name

end FieldGroup

end ThemeCompiler
