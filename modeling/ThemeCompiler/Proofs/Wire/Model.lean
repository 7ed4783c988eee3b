/-
**Content models are taken back.**

A field is read with the levels that its children leave, so what is known of its children is known
by induction on the levels.  Children are written only when there are some; a field that is read
without them has none.

Main results:

* `ThemeCompiler.Field.readsBack_mk` — a field is taken back with its children;
* `ThemeCompiler.Field.roundTrips_listDecoder` — **content models are taken back**.
-/

import ThemeCompiler.Proofs.Json.Records
import ThemeCompiler.Wire.Model

set_option relaxedAutoImplicit false
set_option autoImplicit false

namespace ThemeCompiler

open Json (ReadsBack RoundTrips Slot Fills)

namespace Field

/-! ### Writing -/

theorem itemsToJson_eq_map (fields : List Field) : itemsToJson fields = fields.map toJson := by
  induction fields with
  | nil => rfl
  | cons f rest ih => rw [itemsToJson, ih, List.map_cons]

theorem named_kind (k : FieldKind) : Json.named kindNames k.name = .ok k := by
  cases k <;> rfl

theorem named_component (c : ComponentType) : Json.named componentNames c.name = .ok c := by
  cases c <;> rfl

theorem named_input (t : InputType) : Json.named inputNames t.name = .ok t := by
  cases t <;> rfl

theorem nodup_keys (depth : Nat) (children : Json.Decoder (List Field)) :
    ((slots depth children).map (·.key)).Nodup :=
  (by decide : ["id", "type", "tag", "classes", "originalContent", "slug", "children",
    "componentType", "fieldType"].Nodup)

/-- The members after the children fill their slots. -/
theorem fills_trailing (depth : Nat) (info : FieldInfo) (children : List Field) :
    Fills
      [optionalSlot "componentType" (Json.orNone (Json.oneOf depth componentNames))
        fun c i => { i with component := c },
       optionalSlot "fieldType" (Json.orNone (Json.oneOf depth inputNames))
        fun t i => { i with input := t }]
      (trailingMembers info) (.mk { info with component := none, input := none } children)
      (.mk info children) := by
  rw [trailingMembers, ← List.append_nil (_ ++ _), List.append_assoc]
  refine .optional (y := info.component) (fun c _ => ?_) (fun _ => rfl) <|
    .optional (y := info.input) (fun t _ => ?_) (fun _ => rfl) <| .done _
  · exact (Json.readsBack_oneOf depth (named_component c)).orNone (by simp)
  · exact (Json.readsBack_oneOf depth (named_input t)).orNone (by simp)

/-- **A field is taken back** with its children. -/
theorem readsBack_mk {depth : Nat} (hdepth : 2 ≤ depth) {read : Json.Decoder (List Field)}
    (info : FieldInfo) {children : List Field}
    (h : children ≠ [] → ReadsBack read (listToJson children) children) :
    ReadsBack (Json.record depth (slots (depth - 1) read) blank) (toJson (.mk info children))
      (.mk info children) := by
  have htrailing := fills_trailing (depth - 1) info children
  cases children with
  | nil =>
      exact Fills.readsBack hdepth (nodup_keys _ _) <|
        .member (Json.readsBack_text info.id) <|
        .member (Json.readsBack_oneOf _ (named_kind info.kind)) <|
        .member (Json.readsBack_text info.tag) <| .member (Json.readsBack_text info.classes) <|
        .member (Json.readsBack_text info.content) <| .member (Json.readsBack_text info.slug) <|
        .leave rfl htrailing
  | cons first rest =>
      exact Fills.readsBack hdepth (nodup_keys _ _) <|
        .member (Json.readsBack_text info.id) <|
        .member (Json.readsBack_oneOf _ (named_kind info.kind)) <|
        .member (Json.readsBack_text info.tag) <| .member (Json.readsBack_text info.classes) <|
        .member (Json.readsBack_text info.content) <| .member (Json.readsBack_text info.slug) <|
        .member (h (by simp)) htrailing

/-! ### Reading -/

/-- What is known of the children of a field that was read. -/
private def Read (read : Json.Decoder (List Field)) (f : Field) : Prop :=
  f.children ≠ [] → ReadsBack read (listToJson f.children) f.children

private theorem keeps_read (depth : Nat) {read : Json.Decoder (List Field)}
    (hread : RoundTrips (fun _ => True) read listToJson) :
    ∀ slot ∈ slots depth read, slot.Keeps fun _ => Read read := by
  have hinfo : ∀ {α : Type} (key : String) (value : Json.Decoder α)
      (put : α → FieldInfo → FieldInfo),
      (infoSlot key value put).Keeps (fun _ => Read read) ∧
        (optionalSlot key value put).Keeps fun _ => Read read :=
    fun _ _ _ => ⟨Slot.keeps fun _ _ _ _ _ _ h => h, Slot.keeps fun _ _ _ _ _ _ h => h⟩
  simp only [slots, List.forall_mem_cons]
  exact ⟨(hinfo _ _ _).1, (hinfo _ _ _).1, (hinfo _ _ _).1, (hinfo _ _ _).1, (hinfo _ _ _).1,
    (hinfo _ _ _).1, Slot.keeps fun _ o fields _ ho hf _ _ => hread o fields ho hf trivial,
    (hinfo _ _ _).2, (hinfo _ _ _).2, by simp⟩

theorem roundTrips_list {item : Json.Decoder Field} (h : RoundTrips (fun _ => True) item toJson)
    (depth : Nat) :
    RoundTrips (fun _ => True) (Json.listOf depth item) listToJson := by
  intro o fields ho hfields _
  rw [listToJson, itemsToJson_eq_map]
  exact h.listOf depth o fields ho hfields (by simp)

/-- **Fields are taken back.** -/
theorem roundTrips_decoder : ∀ depth : Nat,
    RoundTrips (fun _ => True) (decoder depth) toJson
  | 0 => fun _ _ ho h _ =>
      absurd (Json.of_record (P := fun _ _ => True) trivial (by simp) ho h).1 (by decide)
  | 1 => fun _ _ ho h _ =>
      absurd (Json.of_record (P := fun _ _ => True) trivial (by simp) ho h).1 (by decide)
  | depth + 2 => fun o f ho h _ => by
      have hread := roundTrips_list (roundTrips_decoder depth) (depth + 1)
      obtain ⟨info, children⟩ := f
      obtain ⟨hdepth, _, hchildren, -⟩ := Json.of_record
        (fun hne => absurd rfl hne) (keeps_read (depth + 1) hread) ho h
      exact readsBack_mk hdepth info hchildren

/-- **Content models are taken back.** -/
theorem roundTrips_listDecoder (depth : Nat) :
    RoundTrips (fun _ => True) (listDecoder depth) listToJson :=
  roundTrips_list (roundTrips_decoder (depth - 1)) depth

end Field

end ThemeCompiler
