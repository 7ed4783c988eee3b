/-
**Content models as JSON.**

Children, the type of a component and the type of a form control are written only when there are
any.

Main definitions:

* `ThemeCompiler.Field.toJson`, `ThemeCompiler.Field.listToJson` — the written form;
* `ThemeCompiler.Field.decoder`, `ThemeCompiler.Field.listDecoder` — its reader.
-/

import ThemeCompiler.Field
import ThemeCompiler.Json.Decoder

set_option relaxedAutoImplicit false
set_option autoImplicit false

namespace ThemeCompiler

namespace Field

/-! ### Writing -/

/-- The members of a field before its children. -/
def leadingMembers (info : FieldInfo) : List (String × Json) :=
  [("id", .string info.id), ("type", .string info.kind.name), ("tag", .string info.tag),
   ("classes", .string info.classes), ("originalContent", .string info.content),
   ("slug", .string info.slug)]

/-- The members of a field after its children. -/
def trailingMembers (info : FieldInfo) : List (String × Json) :=
  Json.optional "componentType" (fun c => .string c.name) info.component
    ++ Json.optional "fieldType" (fun t => .string t.name) info.input

mutual

/-- **A field as JSON.** -/
def toJson : Field → Json
  | .mk info [] => .object (leadingMembers info ++ trailingMembers info)
  | .mk info (first :: rest) =>
      .object (leadingMembers info
        ++ ("children", .array (toJson first :: itemsToJson rest)) :: trailingMembers info)

/-- Fields as JSON. -/
def itemsToJson : List Field → List Json
  | [] => []
  | f :: rest => toJson f :: itemsToJson rest

end

/-- **A content model as JSON.** -/
def listToJson (fields : List Field) : Json := .array (itemsToJson fields)

/-! ### Reading -/

/-- The kinds of fields by their names. -/
def kindNames : List (String × FieldKind) := FieldKind.all.map fun k => (k.name, k)

/-- The component types by their names. -/
def componentNames : List (String × ComponentType) := ComponentType.all.map fun c => (c.name, c)

/-- The input types by their names. -/
def inputNames : List (String × InputType) := InputType.all.map fun t => (t.name, t)

/-- A member of a field itself. -/
def infoSlot {α : Type} (key : String) (value : Json.Decoder α)
    (put : α → FieldInfo → FieldInfo) : Json.Slot Field :=
  Json.required key value fun x f => .mk (put x f.info) f.children

/-- A member of a field itself that may be left out. -/
def optionalSlot {α : Type} (key : String) (value : Json.Decoder α)
    (put : α → FieldInfo → FieldInfo) : Json.Slot Field :=
  Json.defaulted key value fun x f => .mk (put x f.info) f.children

/-- The members of a field whose values have `depth` levels left. -/
def slots (depth : Nat) (children : Json.Decoder (List Field)) : List (Json.Slot Field) :=
  [infoSlot "id" Json.text fun s i => { i with id := s },
   infoSlot "type" (Json.oneOf depth kindNames) fun k i => { i with kind := k },
   infoSlot "tag" Json.text fun s i => { i with tag := s },
   infoSlot "classes" Json.text fun s i => { i with classes := s },
   infoSlot "originalContent" Json.text fun s i => { i with content := s },
   infoSlot "slug" Json.text fun s i => { i with slug := s },
   Json.defaulted "children" children fun fields f => .mk f.info fields,
   optionalSlot "componentType" (Json.orNone (Json.oneOf depth componentNames))
     fun c i => { i with component := c },
   optionalSlot "fieldType" (Json.orNone (Json.oneOf depth inputNames))
     fun t i => { i with input := t }]

/-- What a field is before it is read. -/
def blank : Field := Field.new .text "" "" ""

/-- **The reader of a field** where `depth` levels are left.  A field and its list of children take
one each. -/
def decoder : Nat → Json.Decoder Field
  | depth + 2 => Json.record (depth + 2) (slots (depth + 1)
      (Json.listOf (depth + 1) fun outline => decoder depth outline)) blank
  | depth => Json.record depth [] blank

/-- **The reader of a content model** where `depth` levels are left. -/
def listDecoder (depth : Nat) : Json.Decoder (List Field) :=
  Json.listOf depth (decoder (depth - 1))

end Field

end ThemeCompiler
