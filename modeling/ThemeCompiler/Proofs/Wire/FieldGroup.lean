/-
**Field groups are taken back.**

A field of a group is read with the levels that its sub-fields leave, as a field of a content model
is.  What only some fields have is written only when there is a value for it, so a field without it
is read without it.  The choices of a field are any value; they are taken back when their numbers are
integers.

Main definitions:

* `ThemeCompiler.GroupField.IntegerChoices`, `ThemeCompiler.FieldGroup.IntegerChoices` — the choices
  of a field and of its sub-fields hold no doubles; so do those of a group.

Main results:

* `ThemeCompiler.GroupField.readsBack_choices` — **choices without doubles are taken back**;
* `ThemeCompiler.GroupField.roundTrips_decoder` — **fields of a group are taken back**;
* `ThemeCompiler.FieldGroup.roundTrips` — **so are groups**.
-/

import ThemeCompiler.Proofs.Json.Records
import ThemeCompiler.Proofs.Json.Wholes
import ThemeCompiler.Wire.FieldGroup

set_option relaxedAutoImplicit false
set_option autoImplicit false

namespace ThemeCompiler

open Json (ReadsBack RoundTrips Slot Fills OnlyIntegers)

/-! ### Choices -/

mutual

/-- **The choices of a field and of its sub-fields hold no doubles.** -/
def GroupField.IntegerChoices : GroupField → Prop
  | .mk _ settings none => ∀ j ∈ settings.choices, OnlyIntegers j
  | .mk _ settings (some sub) =>
      (∀ j ∈ settings.choices, OnlyIntegers j) ∧ GroupField.IntegerChoicesIn sub

/-- The choices of some fields hold no doubles. -/
def GroupField.IntegerChoicesIn : List GroupField → Prop
  | [] => True
  | f :: rest => f.IntegerChoices ∧ GroupField.IntegerChoicesIn rest

end

/-- **The choices of a group hold no doubles.** -/
def FieldGroup.IntegerChoices (g : FieldGroup) : Prop := GroupField.IntegerChoicesIn g.fields

namespace GroupField

theorem integerChoicesIn_iff {fields : List GroupField} :
    IntegerChoicesIn fields ↔ ∀ f ∈ fields, f.IntegerChoices := by
  induction fields with
  | nil => simp [IntegerChoicesIn]
  | cons f rest ih => simp [IntegerChoicesIn, ih]

theorem choices_ne_null {depth : Nat} {o : Json.Outline} {j : Json} (ho : o ≠ .null)
    (h : choicesDecoder depth o = .ok j) : j ≠ .null := by
  rintro rfl
  obtain ⟨read, hread, hsorted⟩ := map_eq_ok_iff.1 h
  obtain rfl : read = .null := by cases read <;> simp [Json.sorted] at hsorted ⊢
  exact ho (Json.eq_null_of_whole hread)

/-- **Choices without doubles are taken back.** -/
theorem readsBack_choices {depth : Nat} {o : Json.Outline} {choices : Option Json}
    (ho : o.Bounded) (h : Json.orNone (choicesDecoder depth) o = .ok choices) :
    ∀ j ∈ choices, OnlyIntegers j →
      ReadsBack (Json.orNone (choicesDecoder depth)) j (some j) := by
  rintro j rfl hj
  obtain ⟨hnull, hread⟩ := Json.orNone_eq_some h
  refine ReadsBack.orNone ?_ (choices_ne_null hnull hread)
  obtain ⟨whole, hwhole, rfl⟩ := map_eq_ok_iff.1 hread
  have hfits := Json.fits_sorted whole depth (Json.fits_of_whole depth o whole ho hwhole)
  refine ⟨hj, ?_⟩
  rw [choicesDecoder, (hfits.readsBack hj).reads]
  exact congrArg Except.ok (Json.sorted_sorted whole)

/-! ### Writing -/

theorem itemsToJson_eq_map (fields : List GroupField) : itemsToJson fields = fields.map toJson := by
  induction fields with
  | nil => rfl
  | cons f rest ih => rw [itemsToJson, ih, List.map_cons]

/-- A list of fields as JSON. -/
def listToJson (fields : List GroupField) : Json := .array (itemsToJson fields)

/-- The members of a field, one after the other. -/
theorem toJson_mk (head : FieldHead) (settings : FieldSettings) (sub : Option (List GroupField)) :
    toJson (.mk head settings sub) = .object (headMembers head
      ++ (Json.optional "return_format" .string settings.returnFormat
      ++ (Json.optional "preview_size" .string settings.previewSize
      ++ (Json.optional "library" .string settings.library
      ++ (Json.optional "sub_fields" listToJson sub
      ++ (Json.optional "collapsed" .string settings.collapsed
      ++ (Json.optional "min" .nat settings.min
      ++ (Json.optional "max" .nat settings.max
      ++ (Json.optional "layout" .string settings.layout
      ++ (Json.optional "button_label" .string settings.buttonLabel
      ++ (Json.optional "choices" id settings.choices
      ++ (Json.optional "ui" .nat settings.ui ++ [])))))))))))) := by
  cases sub <;> simp [toJson, leadingMembers, trailingMembers, Json.optional, listToJson]

theorem readsBack_wrapper {depth : Nat} (hdepth : 2 ≤ depth) (w : FieldWrapper) :
    ReadsBack (FieldWrapper.decoder depth) w.toJson w :=
  Fills.readsBack hdepth (by decide) <| .member (Json.readsBack_text w.width) <|
    .member (Json.readsBack_text w.className) <| .member (Json.readsBack_text w.id) <| .done w

theorem nodup_keys (depth : Nat) (read : Json.Decoder (List GroupField)) :
    ((slots depth read).map (·.key)).Nodup :=
  (by decide : ["key", "label", "name", "type", "instructions", "required", "conditional_logic",
    "wrapper", "default_value", "placeholder", "prepend", "append", "return_format",
    "preview_size", "library", "sub_fields", "collapsed", "min", "max", "layout", "button_label",
    "choices", "ui"].Nodup)

/-- What is known of a field that was read. -/
structure Read (depth : Nat) (read : Json.Decoder (List GroupField)) (head : FieldHead)
    (settings : FieldSettings) (sub : Option (List GroupField)) : Prop where
  isRequired : ReadsBack (Json.natural 8) (.nat head.isRequired) head.isRequired
  conditionalLogic : ReadsBack (Json.natural 8) (.nat head.conditionalLogic) head.conditionalLogic
  min : ∀ n ∈ settings.min, ReadsBack (Json.orNone (Json.natural 32)) (.nat n) (some n)
  max : ∀ n ∈ settings.max, ReadsBack (Json.orNone (Json.natural 32)) (.nat n) (some n)
  ui : ∀ n ∈ settings.ui, ReadsBack (Json.orNone (Json.natural 8)) (.nat n) (some n)
  choices : ∀ j ∈ settings.choices, OnlyIntegers j →
    ReadsBack (Json.orNone (choicesDecoder depth)) j (some j)
  sub : ∀ fields ∈ sub, IntegerChoicesIn fields →
    ReadsBack (Json.orNone read) (listToJson fields) (some fields)

/-- A text that may be missing is taken back. -/
theorem readsBack_someText (s : Option String) :
    ∀ t ∈ s, ReadsBack (Json.orNone Json.text) (.string t) (some t) :=
  fun t _ => (Json.readsBack_text t).orNone (by simp)

/-- **A field of a group is taken back** with its sub-fields. -/
theorem readsBack_mk {depth : Nat} (hdepth : 3 ≤ depth) {read : Json.Decoder (List GroupField)}
    {head : FieldHead} {settings : FieldSettings} {sub : Option (List GroupField)}
    (h : Read (depth - 1) read head settings sub) (hchoices : (mk head settings sub).IntegerChoices) :
    ReadsBack (Json.record depth (slots (depth - 1) read) blank) (toJson (.mk head settings sub))
      (.mk head settings sub) := by
  have hown : ∀ j ∈ settings.choices, OnlyIntegers j := by
    cases sub with
    | none => exact hchoices
    | some sub => exact hchoices.1
  have hsub : ∀ fields ∈ sub, IntegerChoicesIn fields := by
    rintro fields rfl
    exact hchoices.2
  rw [toJson_mk]
  exact Fills.readsBack (by omega) (nodup_keys _ _) <|
    .member (Json.readsBack_text head.key) <| .member (Json.readsBack_text head.label) <|
    .member (Json.readsBack_text head.name) <| .member (Json.readsBack_text head.type) <|
    .member (Json.readsBack_text head.instructions) <| .member h.isRequired <|
    .member h.conditionalLogic <| .member (readsBack_wrapper (by omega) head.wrapper) <|
    .member (Json.readsBack_text head.defaultValue) <|
    .member (Json.readsBack_text head.placeholder) <| .member (Json.readsBack_text head.prepend) <|
    .member (Json.readsBack_text head.append) <|
    .optional (readsBack_someText settings.returnFormat) (fun _ => rfl) <|
    .optional (readsBack_someText settings.previewSize) (fun _ => rfl) <|
    .optional (readsBack_someText settings.library) (fun _ => rfl) <|
    .optional (fun fields hf => h.sub fields hf (hsub fields hf)) (fun _ => rfl) <|
    .optional (readsBack_someText settings.collapsed) (fun _ => rfl) <|
    .optional h.min (fun _ => rfl) <| .optional h.max (fun _ => rfl) <|
    .optional (readsBack_someText settings.layout) (fun _ => rfl) <|
    .optional (readsBack_someText settings.buttonLabel) (fun _ => rfl) <|
    .optional (fun j hj => h.choices j hj (hown j hj)) (fun _ => rfl) <|
    .optional h.ui (fun _ => rfl) <| .done _

/-! ### Reading -/

/-- What is known of a field that was read, from its parts. -/
private def ReadField (depth : Nat) (read : Json.Decoder (List GroupField)) : GroupField → Prop
  | mk head settings sub => Read depth read head settings sub

private theorem keeps_head {α : Type} {depth : Nat} {read : Json.Decoder (List GroupField)}
    (key : String) (value : Json.Decoder α) (put : α → FieldHead → FieldHead)
    (h : ∀ o x head settings sub, o.Bounded → value o = .ok x → Read depth read head settings sub →
      Read depth read (put x head) settings sub) :
    (headSlot key value put).Keeps fun _ => ReadField depth read :=
  Slot.keeps fun _ o x f ho hx hf => by
    obtain ⟨head, settings, sub⟩ := f
    exact h o x head settings sub ho hx hf

private theorem keeps_settings {α : Type} {depth : Nat} {read : Json.Decoder (List GroupField)}
    (key : String) (value : Json.Decoder α) (put : Option α → FieldSettings → FieldSettings)
    (h : ∀ o x head settings sub, o.Bounded → Json.orNone value o = .ok x →
      Read depth read head settings sub → Read depth read head (put x settings) sub) :
    (settingsSlot key value put).Keeps fun _ => ReadField depth read :=
  Slot.keeps fun _ o x f ho hx hf => by
    obtain ⟨head, settings, sub⟩ := f
    exact h o x head settings sub ho hx hf

private theorem keeps_read (depth : Nat) {read : Json.Decoder (List GroupField)}
    (hread : RoundTrips IntegerChoicesIn read listToJson) :
    ∀ slot ∈ slots depth read, slot.Keeps fun _ => ReadField depth read := by
  have hnat8 := Json.roundTrips_natural 8 (by decide)
  have hnat32 := Json.roundTrips_natural 32 (by decide)
  simp only [slots, List.forall_mem_cons]
  exact ⟨keeps_head _ _ _ fun _ _ _ _ _ _ _ h => { h with },
    keeps_head _ _ _ fun _ _ _ _ _ _ _ h => { h with },
    keeps_head _ _ _ fun _ _ _ _ _ _ _ h => { h with },
    keeps_head _ _ _ fun _ _ _ _ _ _ _ h => { h with },
    keeps_head _ _ _ fun _ _ _ _ _ _ _ h => { h with },
    keeps_head _ _ _ fun o n _ _ _ ho hn h => { h with isRequired := hnat8 o n ho hn trivial },
    keeps_head _ _ _ fun o n _ _ _ ho hn h =>
      { h with conditionalLogic := hnat8 o n ho hn trivial },
    keeps_head _ _ _ fun _ _ _ _ _ _ _ h => { h with },
    keeps_head _ _ _ fun _ _ _ _ _ _ _ h => { h with },
    keeps_head _ _ _ fun _ _ _ _ _ _ _ h => { h with },
    keeps_head _ _ _ fun _ _ _ _ _ _ _ h => { h with },
    keeps_head _ _ _ fun _ _ _ _ _ _ _ h => { h with },
    keeps_settings _ _ _ fun _ _ _ _ _ _ _ h => { h with },
    keeps_settings _ _ _ fun _ _ _ _ _ _ _ h => { h with },
    keeps_settings _ _ _ fun _ _ _ _ _ _ _ h => { h with },
    Slot.keeps fun _ o _ (mk _ _ _) ho hsub h =>
      { h with sub := hread.orNone (by simp [listToJson]) ho hsub },
    keeps_settings _ _ _ fun _ _ _ _ _ _ _ h => { h with },
    keeps_settings _ _ _ fun _ _ _ _ _ ho hn h =>
      { h with min := fun n hmem => hnat32.orNone (by simp [Json.nat]) ho hn n hmem trivial },
    keeps_settings _ _ _ fun _ _ _ _ _ ho hn h =>
      { h with max := fun n hmem => hnat32.orNone (by simp [Json.nat]) ho hn n hmem trivial },
    keeps_settings _ _ _ fun _ _ _ _ _ _ _ h => { h with },
    keeps_settings _ _ _ fun _ _ _ _ _ _ _ h => { h with },
    keeps_settings _ _ _ fun _ _ _ _ _ ho hj h => { h with choices := readsBack_choices ho hj },
    keeps_settings _ _ _ fun _ _ _ _ _ ho hn h =>
      { h with ui := fun n hmem => hnat8.orNone (by simp [Json.nat]) ho hn n hmem trivial },
    by simp⟩

theorem roundTrips_list {item : Json.Decoder GroupField}
    (h : RoundTrips IntegerChoices item toJson) (depth : Nat) :
    RoundTrips IntegerChoicesIn (Json.listOf depth item) listToJson := by
  intro o fields ho hfields hchoices
  rw [listToJson, itemsToJson_eq_map]
  exact h.listOf depth o fields ho hfields (integerChoicesIn_iff.1 hchoices)

/-- A field is read where its frame is, which takes a level more. -/
theorem three_le_of_decoder {depth : Nat} {read : Json.Decoder (List GroupField)}
    {o : Json.Outline} {f : GroupField} (ho : o.Bounded)
    (h : Json.record depth (slots (depth - 1) read) blank o = .ok f) : 3 ≤ depth := by
  obtain ⟨member, _, _, hmember, hfill⟩ := Json.exists_fill_of_record (nodup_keys _ _)
    (headSlot "wrapper" (FieldWrapper.decoder (depth - 1)) fun w h => { h with wrapper := w })
    (by simp [slots]) rfl rfl ho h
  obtain ⟨w, hw, -⟩ := map_eq_ok_iff.1 hfill
  have hle := (Json.of_record (P := fun _ _ => True) trivial
    (fun _ _ _ _ _ _ _ _ _ => trivial) hmember hw).1
  omega

/-- **Fields of a group are taken back.** -/
theorem roundTrips_decoder : ∀ depth : Nat, RoundTrips IntegerChoices (decoder depth) toJson
  | 0 => fun _ _ ho h _ =>
      absurd (Json.of_record (P := fun _ _ => True) trivial (by simp) ho h).1 (by decide)
  | 1 => fun _ _ ho h _ =>
      absurd (Json.of_record (P := fun _ _ => True) trivial (by simp) ho h).1 (by decide)
  | depth + 2 => fun o f ho h hchoices => by
      have hread := roundTrips_list (roundTrips_decoder depth) (depth + 1)
      have hblank : ReadField (depth + 1) (Json.listOf (depth + 1) fun o => decoder depth o) blank :=
        ⟨Json.readsBack_nat (by decide) (by decide), Json.readsBack_nat (by decide) (by decide),
          by simp [FieldGroup.noSettings], by simp [FieldGroup.noSettings],
          by simp [FieldGroup.noSettings], by simp [FieldGroup.noSettings], by simp⟩
      obtain ⟨-, _, hfield, -⟩ := Json.of_record hblank (keeps_read (depth + 1) hread) ho h
      obtain ⟨head, settings, sub⟩ := f
      exact readsBack_mk (three_le_of_decoder ho h) hfield hchoices

end GroupField

/-! ### Groups -/

theorem LocationRule.roundTrips (depth : Nat) :
    RoundTrips (fun _ => True) (decoder depth) toJson := by
  intro o r ho h _
  obtain ⟨hdepth, -⟩ := Json.of_record (P := fun _ _ => True) trivial
    (fun _ _ _ _ _ _ _ _ _ => trivial) ho h
  exact Fills.readsBack hdepth (by decide) <| .member (Json.readsBack_text r.param) <|
    .member (Json.readsBack_text r.operator) <| .member (Json.readsBack_text r.value) <| .done r

namespace FieldGroup

/-- The location of a group as JSON. -/
def locationToJson (location : List (List LocationRule)) : Json :=
  .array (location.map fun rules => .array (rules.map LocationRule.toJson))

theorem roundTrips_location (depth : Nat) :
    RoundTrips (fun _ => True) (locationDecoder depth) locationToJson := fun o rules ho h _ =>
  (((LocationRule.roundTrips (depth - 2)).listOf (depth - 1)).listOf depth) o rules ho h (by simp)

theorem nodup_keys (depth : Nat) : ((slots depth).map (·.key)).Nodup :=
  (by decide : ["key", "title", "fields", "location", "menu_order", "position", "style",
    "label_placement", "instruction_placement", "hide_on_screen", "active", "description"].Nodup)

/-- What is known of a group that was read. -/
private structure Read (depth : Nat) (g : FieldGroup) : Prop where
  fields : g.IntegerChoices → ReadsBack (Json.listOf depth (GroupField.decoder (depth - 1)))
    (GroupField.listToJson g.fields) g.fields
  location : ReadsBack (locationDecoder depth) (locationToJson g.location) g.location
  menuOrder : ReadsBack (Json.signed 32) (.int g.menuOrder) g.menuOrder

private theorem keeps_read (depth : Nat) :
    ∀ slot ∈ slots depth, slot.Keeps fun _ => Read depth := by
  have hfields := GroupField.roundTrips_list (GroupField.roundTrips_decoder (depth - 1)) depth
  have hlocation := roundTrips_location depth
  have hint := Json.roundTrips_signed 32 (by decide)
  simp only [slots, List.forall_mem_cons]
  exact ⟨Slot.keeps fun _ _ _ _ _ _ h => { h with }, Slot.keeps fun _ _ _ _ _ _ h => { h with },
    Slot.keeps fun _ o fields _ ho hf h => { h with fields := hfields o fields ho hf },
    Slot.keeps fun _ o rules _ ho hr h => { h with location := hlocation o rules ho hr trivial },
    Slot.keeps fun _ o n _ ho hn h => { h with menuOrder := hint o n ho hn trivial },
    Slot.keeps fun _ _ _ _ _ _ h => { h with }, Slot.keeps fun _ _ _ _ _ _ h => { h with },
    Slot.keeps fun _ _ _ _ _ _ h => { h with }, Slot.keeps fun _ _ _ _ _ _ h => { h with },
    Slot.keeps fun _ _ _ _ _ _ h => { h with }, Slot.keeps fun _ _ _ _ _ _ h => { h with },
    Slot.keeps fun _ _ _ _ _ _ h => { h with }, by simp⟩

/-- **Field groups are taken back**, as far as their choices hold no doubles. -/
theorem roundTrips {depth : Nat} (hdepth : 3 ≤ depth) :
    RoundTrips IntegerChoices (decoder depth) toJson := by
  intro o g ho h hchoices
  have hblank : Read (depth - 1) ⟨"", "", [], [], 0, "", "", "", "", "", false, ""⟩ :=
    { fields := fun _ => Json.readsBack_nil (by omega) _
      location := Json.readsBack_nil (by omega) _
      menuOrder := Json.readsBack_signed (by decide) (by decide) (by decide) }
  obtain ⟨-, _, hread, -⟩ := Json.of_record hblank (keeps_read (depth - 1)) ho h
  exact Fills.readsBack (by omega) (nodup_keys _) <|
    .member (Json.readsBack_text g.key) <| .member (Json.readsBack_text g.title) <|
    .member (hread.fields hchoices) <| .member hread.location <| .member hread.menuOrder <|
    .member (Json.readsBack_text g.position) <| .member (Json.readsBack_text g.style) <|
    .member (Json.readsBack_text g.labelPlacement) <|
    .member (Json.readsBack_text g.instructionPlacement) <|
    .member (Json.readsBack_text g.hideOnScreen) <| .member (Json.readsBack_truth g.active) <|
    .member (Json.readsBack_text g.description) <| .done g

end FieldGroup

end ThemeCompiler
