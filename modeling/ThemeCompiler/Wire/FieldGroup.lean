/-
**Field groups as JSON.**

What only some types of fields have is written only when there is a value for it.

Main definitions:

* `ThemeCompiler.GroupField.toJson`, `ThemeCompiler.FieldGroup.toJson` — the written form;
* `ThemeCompiler.GroupField.decoder`, `ThemeCompiler.FieldGroup.decoder` — its reader.
-/

import ThemeCompiler.FieldGroup
import ThemeCompiler.Json.Decoder

set_option relaxedAutoImplicit false
set_option autoImplicit false

namespace ThemeCompiler

/-! ### Writing -/

/-- The frame around a field as JSON. -/
def FieldWrapper.toJson (w : FieldWrapper) : Json :=
  .object [("width", .string w.width), ("class", .string w.className), ("id", .string w.id)]

namespace GroupField

/-- The members that every field has. -/
def headMembers (h : FieldHead) : List (String × Json) :=
  [("key", .string h.key), ("label", .string h.label), ("name", .string h.name),
   ("type", .string h.type), ("instructions", .string h.instructions),
   ("required", .nat h.isRequired), ("conditional_logic", .nat h.conditionalLogic),
   ("wrapper", h.wrapper.toJson), ("default_value", .string h.defaultValue),
   ("placeholder", .string h.placeholder), ("prepend", .string h.prepend),
   ("append", .string h.append)]

/-- The members before the sub-fields that only some fields have. -/
def leadingMembers (s : FieldSettings) : List (String × Json) :=
  Json.optional "return_format" .string s.returnFormat
    ++ Json.optional "preview_size" .string s.previewSize
    ++ Json.optional "library" .string s.library

/-- The members after the sub-fields that only some fields have. -/
def trailingMembers (s : FieldSettings) : List (String × Json) :=
  Json.optional "collapsed" .string s.collapsed
    ++ Json.optional "min" .nat s.min
    ++ Json.optional "max" .nat s.max
    ++ Json.optional "layout" .string s.layout
    ++ Json.optional "button_label" .string s.buttonLabel
    ++ Json.optional "choices" id s.choices
    ++ Json.optional "ui" .nat s.ui

mutual

/-- **A field of a group as JSON.** -/
def toJson : GroupField → Json
  | .mk head settings none =>
      .object (headMembers head ++ leadingMembers settings ++ trailingMembers settings)
  | .mk head settings (some sub) =>
      .object (headMembers head ++ leadingMembers settings
        ++ ("sub_fields", .array (itemsToJson sub)) :: trailingMembers settings)

/-- Fields of a group as JSON. -/
def itemsToJson : List GroupField → List Json
  | [] => []
  | f :: rest => toJson f :: itemsToJson rest

end

end GroupField

/-- A condition as JSON. -/
def LocationRule.toJson (r : LocationRule) : Json :=
  .object
    [("param", .string r.param), ("operator", .string r.operator), ("value", .string r.value)]

/-- **A field group as JSON.** -/
def FieldGroup.toJson (g : FieldGroup) : Json :=
  .object
    [("key", .string g.key), ("title", .string g.title),
     ("fields", .array (GroupField.itemsToJson g.fields)),
     ("location", .array (g.location.map fun rules => .array (rules.map LocationRule.toJson))),
     ("menu_order", .int g.menuOrder), ("position", .string g.position),
     ("style", .string g.style), ("label_placement", .string g.labelPlacement),
     ("instruction_placement", .string g.instructionPlacement),
     ("hide_on_screen", .string g.hideOnScreen), ("active", .bool g.active),
     ("description", .string g.description)]

/-! ### Reading -/

/-- The members of a frame. -/
def FieldWrapper.slots : List (Json.Slot FieldWrapper) :=
  [Json.required "width" Json.text fun s w => { w with width := s },
   Json.required "class" Json.text fun s w => { w with className := s },
   Json.required "id" Json.text fun s w => { w with id := s }]

/-- The reader of a frame where `depth` levels are left. -/
def FieldWrapper.decoder (depth : Nat) : Json.Decoder FieldWrapper :=
  Json.record depth FieldWrapper.slots ⟨"", "", ""⟩

namespace GroupField

/-- The settings of a field. -/
def settings : GroupField → FieldSettings
  | mk _ settings _ => settings

/-- A member that every field has. -/
def headSlot {α : Type} (key : String) (value : Json.Decoder α)
    (put : α → FieldHead → FieldHead) : Json.Slot GroupField :=
  Json.required key value fun x f =>
    match f with
    | mk head settings sub => mk (put x head) settings sub

/-- A member that only some fields have. -/
def settingsSlot {α : Type} (key : String) (value : Json.Decoder α)
    (put : Option α → FieldSettings → FieldSettings) : Json.Slot GroupField :=
  Json.optionalMember key (Json.orNone value) fun x f =>
    match f with
    | mk head settings sub => mk head (put x settings) sub

/-- The reader of the choices of a field where `depth` levels are left. -/
def choicesDecoder (depth : Nat) : Json.Decoder Json := fun outline =>
  (Json.whole depth outline).map Json.sorted

/-- The members of a field whose values have `depth` levels left. -/
def slots (depth : Nat) (sub : Json.Decoder (List GroupField)) : List (Json.Slot GroupField) :=
  [headSlot "key" Json.text fun s h => { h with key := s },
   headSlot "label" Json.text fun s h => { h with label := s },
   headSlot "name" Json.text fun s h => { h with name := s },
   headSlot "type" Json.text fun s h => { h with type := s },
   headSlot "instructions" Json.text fun s h => { h with instructions := s },
   headSlot "required" (Json.natural 8) fun n h => { h with isRequired := n },
   headSlot "conditional_logic" (Json.natural 8) fun n h => { h with conditionalLogic := n },
   headSlot "wrapper" (FieldWrapper.decoder depth) fun w h => { h with wrapper := w },
   headSlot "default_value" Json.text fun s h => { h with defaultValue := s },
   headSlot "placeholder" Json.text fun s h => { h with placeholder := s },
   headSlot "prepend" Json.text fun s h => { h with prepend := s },
   headSlot "append" Json.text fun s h => { h with append := s },
   settingsSlot "return_format" Json.text fun x s => { s with returnFormat := x },
   settingsSlot "preview_size" Json.text fun x s => { s with previewSize := x },
   settingsSlot "library" Json.text fun x s => { s with library := x },
   Json.optionalMember "sub_fields" (Json.orNone sub) fun x f => mk f.head f.settings x,
   settingsSlot "collapsed" Json.text fun x s => { s with collapsed := x },
   settingsSlot "min" (Json.natural 32) fun x s => { s with min := x },
   settingsSlot "max" (Json.natural 32) fun x s => { s with max := x },
   settingsSlot "layout" Json.text fun x s => { s with layout := x },
   settingsSlot "button_label" Json.text fun x s => { s with buttonLabel := x },
   settingsSlot "choices" (choicesDecoder depth) fun x s => { s with choices := x },
   settingsSlot "ui" (Json.natural 8) fun x s => { s with ui := x }]

/-- What a field is before it is read. -/
def blank : GroupField :=
  .mk ⟨"", "", "", "", "", 0, 0, ⟨"", "", ""⟩, "", "", "", ""⟩ FieldGroup.noSettings none

/-- **The reader of a field of a group** where `depth` levels are left.  A field and its list of
sub-fields take one each. -/
def decoder : Nat → Json.Decoder GroupField
  | depth + 2 => Json.record (depth + 2) (slots (depth + 1)
      (Json.listOf (depth + 1) fun outline => decoder depth outline)) blank
  | depth => Json.record depth [] blank

end GroupField

/-- The members of a condition. -/
def LocationRule.slots : List (Json.Slot LocationRule) :=
  [Json.required "param" Json.text fun s r => { r with param := s },
   Json.required "operator" Json.text fun s r => { r with operator := s },
   Json.required "value" Json.text fun s r => { r with value := s }]

/-- The reader of a condition where `depth` levels are left. -/
def LocationRule.decoder (depth : Nat) : Json.Decoder LocationRule :=
  Json.record depth LocationRule.slots ⟨"", "", ""⟩

namespace FieldGroup

/-- The reader of the location of a group where `depth` levels are left. -/
def locationDecoder (depth : Nat) : Json.Decoder (List (List LocationRule)) :=
  Json.listOf depth (Json.listOf (depth - 1) (LocationRule.decoder (depth - 2)))

/-- The members of a group whose values have `depth` levels left. -/
def slots (depth : Nat) : List (Json.Slot FieldGroup) :=
  [Json.required "key" Json.text fun s g => { g with key := s },
   Json.required "title" Json.text fun s g => { g with title := s },
   Json.required "fields" (Json.listOf depth (GroupField.decoder (depth - 1)))
     fun fields g => { g with fields := fields },
   Json.required "location" (locationDecoder depth) fun rules g => { g with location := rules },
   Json.required "menu_order" (Json.signed 32) fun n g => { g with menuOrder := n },
   Json.required "position" Json.text fun s g => { g with position := s },
   Json.required "style" Json.text fun s g => { g with style := s },
   Json.required "label_placement" Json.text fun s g => { g with labelPlacement := s },
   Json.required "instruction_placement" Json.text fun s g => { g with instructionPlacement := s },
   Json.required "hide_on_screen" Json.text fun s g => { g with hideOnScreen := s },
   Json.required "active" Json.truth fun b g => { g with active := b },
   Json.required "description" Json.text fun s g => { g with description := s }]

/-- **The reader of a field group** where `depth` levels are left. -/
def decoder (depth : Nat) : Json.Decoder FieldGroup :=
  Json.record depth (slots (depth - 1)) ⟨"", "", [], [], 0, "", "", "", "", "", false, ""⟩

end FieldGroup

end ThemeCompiler
