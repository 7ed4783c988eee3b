/-
**The component schema of a content model.**

A compact summary: the top-level containers and repeaters with the types of their fields.  Fields
that stand at the top are summed up in a component of their own.  Containers inside of others are
transparent.

Main definitions:

* `ThemeCompiler.SchemaField`, `ThemeCompiler.SchemaEntry`, `ThemeCompiler.Schema` — schemas, whose
  keys are sorted;
* `ThemeCompiler.Schema.collect` — the fields of an entry;
* `ThemeCompiler.Schema.generate` — the schema of a content model.
-/

import ThemeCompiler.Field
import ThemeCompiler.Json.Basic

set_option relaxedAutoImplicit false
set_option autoImplicit false

namespace ThemeCompiler

/-- The kind of an entry. -/
inductive SchemaKind where
  | component
  | repeater
  deriving DecidableEq, Repr

/-- **A field of a schema**: the name of a type, or an entry inside of the entry. -/
inductive SchemaField where
  | scalar (type : String)
  | nested (kind : SchemaKind) (fields : List (String × SchemaField))
  deriving Repr

/-- An entry of a schema. -/
structure SchemaEntry where
  kind : SchemaKind
  fields : List (String × SchemaField)
  deriving Repr

/-- **A component schema.** -/
abbrev Schema := List (String × SchemaEntry)

namespace Schema

/-- The component of the fields at the top. -/
def globalComponent : String := "global"

/-- **The name of the type of a field.** -/
def scalarType (info : FieldInfo) : String :=
  match info.kind with
  | .text => "string"
  | .textarea => "text"
  | .image => "image"
  | .link => "url"
  | .formField => (info.input.map InputType.name).getD "string"
  | .repeater | .container => "string"

mutual

/-- The fields of an entry after a field was added. -/
def collectField : Field → List (String × SchemaField) → List (String × SchemaField)
  | .mk info children, fields =>
      match info.kind with
      | .container => collect children fields
      | .repeater => Sorted.insert info.slug (.nested .repeater (collect children [])) fields
      | _ => Sorted.insert info.slug (.scalar (scalarType info)) fields

/-- **The fields of an entry after some fields were added.** -/
def collect : List Field → List (String × SchemaField) → List (String × SchemaField)
  | [], fields => fields
  | f :: rest, fields => collect rest (collectField f fields)

end

/-- A schema after a field at the top was added. -/
def addTop (schema : Schema) : Field → Schema
  | .mk info children =>
      match info.kind with
      | .container => Sorted.insert info.slug ⟨.component, collect children []⟩ schema
      | .repeater => Sorted.insert info.slug ⟨.repeater, collect children []⟩ schema
      | _ =>
          let entry := (Sorted.find? globalComponent schema).getD ⟨.component, []⟩
          Sorted.insert globalComponent
            { entry with
              fields := Sorted.insert info.slug (.scalar (scalarType info)) entry.fields }
            schema

/-- **The schema of a content model.** -/
def generate (fields : List Field) : Schema := fields.foldl addTop []

end Schema

end ThemeCompiler
