/-
**Component schemas as JSON.**

A field of an entry is a string or an entry.  It is read as a whole before its shape is looked at,
so that what is wrong with its text comes before what is wrong with its shape.

Main definitions:

* `ThemeCompiler.SchemaField.toJson`, `ThemeCompiler.Schema.toJson` — the written form;
* `ThemeCompiler.SchemaField.ofJson?`, `ThemeCompiler.Schema.decoder` — its reader.
-/

import ThemeCompiler.Json.Decoder
import ThemeCompiler.Schema

set_option relaxedAutoImplicit false
set_option autoImplicit false

namespace ThemeCompiler

/-- The name of a kind of entries. -/
def SchemaKind.name : SchemaKind → String
  | .component => "component"
  | .repeater => "repeater"

/-- The kinds of entries by their names. -/
def SchemaKind.names : List (String × SchemaKind) :=
  [("component", .component), ("repeater", .repeater)]

/-! ### Writing -/

/-- An entry whose fields are written already, as JSON. -/
def entryJson (kind : SchemaKind) (fields : List (String × Json)) : Json :=
  .object [("type", .string kind.name), ("fields", .object fields)]

mutual

/-- **A field of a schema as JSON.** -/
def SchemaField.toJson : SchemaField → Json
  | .scalar type => .string type
  | .nested kind fields => entryJson kind (SchemaField.membersToJson fields)

/-- The fields of an entry as JSON. -/
def SchemaField.membersToJson : List (String × SchemaField) → List (String × Json)
  | [] => []
  | (key, field) :: rest => (key, field.toJson) :: SchemaField.membersToJson rest

end

/-- An entry of a schema as JSON. -/
def SchemaEntry.toJson (e : SchemaEntry) : Json :=
  entryJson e.kind (SchemaField.membersToJson e.fields)

/-- **A schema as JSON.** -/
def Schema.toJson (schema : Schema) : Json :=
  .object (schema.map fun entry => (entry.1, entry.2.toJson))

/-! ### Reading -/

/-- The kind of entries that a value names. -/
def SchemaKind.ofJson? : Json → Option SchemaKind
  | .string s => SchemaKind.names.lookup s
  | .object [(s, .null)] => SchemaKind.names.lookup s
  | _ => none

/-- The only value of a key. -/
def onlyMember? (key : String) (members : List (String × Json)) : Option Json :=
  match members.filter (·.1 == key) with
  | [(_, value)] => some value
  | _ => none

/-- The kind and the fields of an entry: two members, or two items. -/
def entryParts? : Json → Option (Json × Json)
  | .array [kind, fields] => some (kind, fields)
  | .object members => do
      let kind ← onlyMember? "type" members
      let fields ← onlyMember? "fields" members
      return (kind, fields)
  | _ => none

/-- The fields of an entry that is nested to at most `depth` levels. -/
def SchemaField.ofJson? : Nat → Json → Option SchemaField
  | _, .string s => some (.scalar s)
  | 0, _ => none
  | depth + 1, value => do
      let (kind, fields) ← entryParts? value
      let kind ← SchemaKind.ofJson? kind
      match fields with
      | .object members => do
          let fields ← members.mapM fun member =>
            (SchemaField.ofJson? depth member.2).map (member.1, ·)
          return .nested kind (Sorted.ofList fields)
      | _ => none

/-- The reader of a field of a schema where `depth` levels are left. -/
def SchemaField.decoder (depth : Nat) : Json.Decoder SchemaField := fun outline => do
  let value ← Json.whole depth outline
  match SchemaField.ofJson? depth value with
  | some field => return field
  | none => throw .shape

/-- The members of an entry whose values have `depth` levels left. -/
def SchemaEntry.slots (depth : Nat) : List (Json.Slot SchemaEntry) :=
  [Json.required "type" (Json.oneOf depth SchemaKind.names) fun k e => { e with kind := k },
   Json.required "fields" (Json.sortedMapOf depth (SchemaField.decoder (depth - 1)))
     fun fields e => { e with fields := fields }]

/-- The reader of an entry where `depth` levels are left. -/
def SchemaEntry.decoder (depth : Nat) : Json.Decoder SchemaEntry :=
  Json.record depth (SchemaEntry.slots (depth - 1)) ⟨.component, []⟩

/-- **The reader of a schema** where `depth` levels are left. -/
def Schema.decoder (depth : Nat) : Json.Decoder Schema :=
  Json.sortedMapOf depth (SchemaEntry.decoder (depth - 1))

end ThemeCompiler
