/-
**The written texts are a canonical form.**

Every reader of the wire takes back what it gave: the text that is written for a value is read as
that value, and written again it stays the same.  Two texts are written the same when they are read
as the same value.

Main results:

* `ThemeCompiler.wire_texts_canonical` — **the written texts are a canonical form** of content models,
  requests, settings, schemas, reports, and of field groups whose choices hold no doubles.
-/

import ThemeCompiler.Proofs.Wire.FieldGroup
import ThemeCompiler.Proofs.Wire.Model
import ThemeCompiler.Proofs.Wire.Records
import ThemeCompiler.Proofs.Wire.Schema

set_option relaxedAutoImplicit false
set_option autoImplicit false

namespace ThemeCompiler

open Json (Canonical printers decode)

/-- **The written texts are a canonical form.** -/
theorem wire_texts_canonical :
    Canonical (fun _ => True) Field.listDecoder Field.listToJson ∧
      Canonical (fun _ => True) CompileRequest.decoder CompileRequest.toJson ∧
      Canonical (fun _ => True) Config.decoder Config.toJson ∧
      Canonical (fun _ => True) Schema.decoder Schema.toJson ∧
      Canonical (fun _ => True) Seo.Report.decoder Seo.Report.toJson ∧
      Canonical (fun _ => True) Accessibility.Report.decoder Accessibility.Report.toJson ∧
      Canonical FieldGroup.IntegerChoices FieldGroup.decoder FieldGroup.toJson :=
  ⟨(Field.roundTrips_listDecoder _).canonical, (CompileRequest.roundTrips _).canonical,
    (Config.roundTrips _).canonical, (Schema.roundTrips (by decide)).canonical,
    (Seo.Report.roundTrips (by decide)).canonical,
    (Accessibility.Report.roundTrips (by decide)).canonical,
    (FieldGroup.roundTrips (by decide)).canonical⟩

/-! ### A group whose members are items -/

/-- A group with a field that has choices. -/
def groupWithChoices : FieldGroup where
  key := "g"
  title := "t"
  fields := [.mk ⟨"k", "", "", "select", "", 1, 0, ⟨"", "", ""⟩, "", "", "", ""⟩
    { FieldGroup.noSettings with
      choices := some (.object [("a", .array [.int (-1)]), ("b", .string "\n")]) } none]
  location := []
  menuOrder := -5
  position := ""
  style := ""
  labelPlacement := ""
  instructionPlacement := ""
  hideOnScreen := ""
  active := true
  description := ""

/-- The group, with the members of every record as items and the choices in another order. -/
def groupAsItems : Json :=
  .array [.string "g", .string "t",
    .array [.array [.string "k", .string "", .string "", .string "select", .string "", .int 1,
      .int 0, .array [.string "", .string "", .string ""], .string "", .string "", .string "",
      .string "", .null, .null, .null, .null, .null, .null, .null, .null, .null,
      .object [("b", .string "\n"), ("a", .array [.int (-1)])], .null]],
    .array [], .int (-5), .string "", .string "", .string "", .string "", .string "", .bool true,
    .string ""]

theorem wire_texts_canonical_group :
    decode FieldGroup.decoder (Json.compact groupAsItems) = .ok groupWithChoices ∧
      ∀ print ∈ printers,
        decode FieldGroup.decoder (print groupWithChoices.toJson) = .ok groupWithChoices := by
  have hread : decode FieldGroup.decoder (Json.compact groupAsItems) = .ok groupWithChoices :=
    Json.ReadsBack.decode
      ⟨by simp [groupAsItems, Json.OnlyIntegers, Json.OnlyIntegersIn, Json.OnlyIntegersInMembers],
        by rfl⟩ (by simp [printers])
  refine ⟨hread, fun print hprint => ?_⟩
  refine wire_texts_canonical.2.2.2.2.2.2.decode_print _ _ hread ?_ print hprint
  simp [groupWithChoices, FieldGroup.IntegerChoices, GroupField.IntegerChoicesIn,
    GroupField.IntegerChoices, Json.OnlyIntegers, Json.OnlyIntegersIn,
    Json.OnlyIntegersInMembers]

end ThemeCompiler
