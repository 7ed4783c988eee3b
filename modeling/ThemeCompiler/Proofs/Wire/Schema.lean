/-
**Component schemas are taken back.**

A field of an entry is looked at after it was read as a whole.  What is written for it fits where it
was read, since its entries take as many levels as those that they were read from; and its shape is
that of a field, whose entries are sorted already.

Main results:

* `ThemeCompiler.SchemaField.toJson_of_ofJson?` — **the written form of a field has its shape**;
* `ThemeCompiler.Schema.roundTrips` — **schemas are taken back**.
-/

import ThemeCompiler.Proofs.Json.Records
import ThemeCompiler.Proofs.Json.Wholes
import ThemeCompiler.Wire.Schema

set_option relaxedAutoImplicit false
set_option autoImplicit false

namespace ThemeCompiler

open Json (ReadsBack RoundTrips Slot Fills Fits OnlyIntegers)

/-! ### Entries -/

theorem SchemaField.membersToJson_eq_map (fields : List (String × SchemaField)) :
    membersToJson fields = fields.map fun field => (field.1, field.2.toJson) := by
  induction fields with
  | nil => rfl
  | cons field rest ih => rw [membersToJson, ih, List.map_cons]

theorem onlyIntegersInMembers_iff {members : List (String × Json)} :
    Json.OnlyIntegersInMembers members ↔ ∀ member ∈ members, OnlyIntegers member.2 := by
  induction members with
  | nil => simp [Json.OnlyIntegersInMembers]
  | cons member rest ih => simp [Json.OnlyIntegersInMembers, ih]

theorem SchemaKind.named_name (kind : SchemaKind) : Json.named names kind.name = .ok kind := by
  cases kind <;> rfl

/-- The parts of an entry fit with two levels less for the fields. -/
theorem fits_of_entryParts? {depth : Nat} {j kind fields : Json} (hj : Fits depth j)
    (h : entryParts? j = some (kind, fields)) : 2 ≤ depth ∧ Fits (depth - 1) fields := by
  have honly : ∀ {key : String} {members : List (String × Json)} {value : Json},
      onlyMember? key members = some value → ∃ member ∈ members, member.2 = value := by
    intro key members value h
    rw [onlyMember?] at h
    split at h
    · next name found hfilter =>
        have hmem : (name, found) ∈ members.filter (·.1 == key) := by simp [hfilter]
        exact ⟨_, (List.mem_filter.1 hmem).1, Option.some.inj h⟩
    · exact absurd h (by simp)
  cases j with
  | array items =>
      obtain ⟨hdepth, hitems⟩ := hj
      rw [entryParts?.eq_def] at h
      split at h
      · next heq =>
          obtain rfl := Json.array.inj heq
          obtain ⟨rfl, rfl⟩ := Prod.mk.inj (Option.some.inj h)
          exact ⟨hdepth, hitems.2.1⟩
      · next heq => exact absurd heq (by simp)
      · exact absurd h (by simp)
  | object members =>
      obtain ⟨hdepth, hmembers⟩ := hj
      simp only [entryParts?, Option.bind_eq_bind, Option.bind_eq_some_iff] at h
      obtain ⟨_, -, found, hfound, h⟩ := h
      obtain ⟨-, rfl⟩ := Prod.mk.inj (Option.some.inj h)
      obtain ⟨member, hmember, rfl⟩ := honly hfound
      exact ⟨hdepth, Json.fitsInMembers_iff.1 hmembers member hmember⟩
  | null | bool | int | double | string => exact absurd h (by simp [entryParts?])

/-! ### Fields -/

/-- What the steps of a list give, when all of them give something. -/
theorem exists_of_mapM {α β : Type} {step : α → Option β} :
    ∀ {xs : List α} {ys : List β}, xs.mapM step = some ys → ∀ y ∈ ys, ∃ x ∈ xs, step x = some y
  | [], ys, h => by
      obtain rfl : [] = ys := Option.some.inj h
      simp
  | x :: xs, ys, h => by
      simp only [List.mapM_cons, Option.bind_eq_bind, Option.bind_eq_some_iff] at h
      obtain ⟨y, hy, rest, hrest, h⟩ := h
      obtain rfl := Option.some.inj h
      refine List.forall_mem_cons.2 ⟨⟨x, List.mem_cons_self, hy⟩, fun z hz => ?_⟩
      obtain ⟨x', hx', hstep⟩ := exists_of_mapM hrest z hz
      exact ⟨x', List.mem_cons_of_mem x hx', hstep⟩

theorem mapM_map_eq_some {α β : Type} {step : α → Option β} {back : β → α} :
    ∀ {ys : List β}, (∀ y ∈ ys, step (back y) = some y) → (ys.map back).mapM step = some ys
  | [], _ => rfl
  | y :: ys, h => by
      obtain ⟨hy, hys⟩ := List.forall_mem_cons.1 h
      rw [List.map_cons, List.mapM_cons, hy, mapM_map_eq_some hys]
      rfl

namespace SchemaField

/-- The fields of an entry, each under its key. -/
def ofMembers? (levels : Nat) (members : List (String × Json)) :
    Option (List (String × SchemaField)) :=
  members.mapM fun member => (ofJson? levels member.2).map (member.1, ·)

/-- **The two shapes of a field.** -/
theorem ofJson?_eq_some {levels : Nat} {j : Json} {field : SchemaField}
    (h : ofJson? levels j = some field) :
    (∃ s, j = .string s ∧ field = .scalar s) ∨
      ∃ below name kind members fields, levels = below + 1 ∧
        entryParts? j = some (name, .object members) ∧ ofMembers? below members = some fields ∧
          field = .nested kind (Sorted.ofList fields) := by
  rw [ofJson?.eq_def] at h
  split at h
  · exact .inl ⟨_, rfl, (Option.some.inj h).symm⟩
  · exact absurd h (by simp)
  · next _ _ below _ =>
      simp only [Option.bind_eq_bind, Option.bind_eq_some_iff] at h
      obtain ⟨⟨name, entries⟩, hparts, kind, -, h⟩ := h
      split at h
      · next members heq =>
          obtain rfl : entries = .object members := heq
          simp only [Option.bind_eq_some_iff] at h
          obtain ⟨fields, hfields, h⟩ := h
          exact .inr ⟨below, name, kind, members, fields, rfl, hparts, hfields,
            (Option.some.inj h).symm⟩
      · exact absurd h (by simp)

theorem ofJson?_entryJson (levels : Nat) (kind : SchemaKind) (members : List (String × Json)) :
    ofJson? (levels + 1) (entryJson kind members) =
      (ofMembers? levels members).map fun fields => .nested kind (Sorted.ofList fields) := by
  have hbind : ∀ found : Option (List (String × SchemaField)),
      (do
        let fields ← found
        return nested kind (Sorted.ofList fields)) =
          found.map fun fields => nested kind (Sorted.ofList fields) := fun found => by
    cases found <;> rfl
  rw [ofMembers?, ← hbind]
  cases kind <;> rfl

/-- **The written form of a field has its shape**, and it fits where the field was read. -/
theorem toJson_of_ofJson? : ∀ (levels depth : Nat) (j : Json) (field : SchemaField),
    ofJson? levels j = some field → Fits depth j →
      Fits depth field.toJson ∧ OnlyIntegers field.toJson ∧
        ofJson? levels field.toJson = some field := by
  intro levels
  induction levels with
  | zero =>
      intro depth j field h hj
      rcases ofJson?_eq_some h with ⟨s, rfl, rfl⟩ | ⟨_, _, _, _, _, hlevels, _⟩
      · exact ⟨hj, trivial, rfl⟩
      · exact absurd hlevels (by simp)
  | succ levels ih =>
      intro depth j field h hj
      rcases ofJson?_eq_some h with ⟨s, rfl, rfl⟩ |
        ⟨below, name, kind, members, fields, hlevels, hparts, hfields, rfl⟩
      · exact ⟨hj, trivial, rfl⟩
      · obtain rfl := Nat.succ.inj hlevels
        obtain ⟨hdepth, hentries, hmembers⟩ := fits_of_entryParts? hj hparts
        have hall : ∀ entry ∈ Sorted.ofList fields, Fits (depth - 1 - 1) entry.2.toJson ∧
            OnlyIntegers entry.2.toJson ∧ ofJson? levels entry.2.toJson = some entry.2 := by
          intro entry hentry
          obtain ⟨member, hmember, hstep⟩ :=
            exists_of_mapM hfields entry (Sorted.mem_ofList hentry)
          obtain ⟨field, hfield, rfl⟩ := Option.map_eq_some_iff.1 hstep
          exact ih _ _ _ hfield (Json.fitsInMembers_iff.1 hmembers member hmember)
        have hback : ofMembers? levels (membersToJson (Sorted.ofList fields)) =
            some (Sorted.ofList fields) := by
          rw [membersToJson_eq_map]
          exact mapM_map_eq_some fun entry hentry => by rw [(hall entry hentry).2.2]; rfl
        refine ⟨⟨hdepth, Nat.le_sub_of_add_le hdepth, ⟨hentries, ?_⟩, trivial⟩,
          ⟨trivial, ?_, trivial⟩, ?_⟩
        · rw [membersToJson_eq_map, Json.fitsInMembers_iff]
          exact List.forall_mem_map.2 fun entry hentry => (hall entry hentry).1
        · change Json.OnlyIntegersInMembers _
          rw [membersToJson_eq_map, onlyIntegersInMembers_iff]
          exact List.forall_mem_map.2 fun entry hentry => (hall entry hentry).2.1
        · rw [toJson, ofJson?_entryJson, hback, Option.map_some,
            Sorted.ofList_eq_self (Sorted.ascending_ofList _)]

/-- Fields of a schema are taken back. -/
theorem roundTrips (depth : Nat) : RoundTrips (fun _ => True) (decoder depth) toJson := by
  intro o field ho h _
  rw [decoder] at h
  obtain ⟨j, hj, h⟩ := bind_eq_ok_iff.1 h
  split at h
  · next found hfound =>
      obtain rfl := Except.ok.inj h
      obtain ⟨hfits, hintegers, hshape⟩ :=
        toJson_of_ofJson? depth depth j found hfound (Json.fits_of_whole depth o j ho hj)
      refine ⟨hintegers, ?_⟩
      rw [decoder, (hfits.readsBack hintegers).reads]
      simp only [bind, Except.bind, hshape]
      rfl
  · exact absurd h (by simp [throw, throwThe, MonadExceptOf.throw])

end SchemaField

/-! ### Schemas -/

namespace SchemaEntry

theorem nodup_keys (depth : Nat) : ((slots depth).map (·.key)).Nodup :=
  (by decide : ["type", "fields"].Nodup)

/-- What is known of the fields of an entry that was read. -/
private def Read (depth : Nat) (e : SchemaEntry) : Prop :=
  ReadsBack (Json.sortedMapOf depth (SchemaField.decoder (depth - 1)))
    (.object (SchemaField.membersToJson e.fields)) e.fields

private theorem keeps_read (depth : Nat) :
    ∀ slot ∈ slots depth, slot.Keeps fun _ => Read depth := by
  have hfields := (SchemaField.roundTrips (depth - 1)).sortedMapOf depth
  simp only [slots, List.forall_mem_cons]
  refine ⟨Slot.keeps fun _ _ _ _ _ _ h => h, Slot.keeps fun _ o fields _ ho hf _ => ?_, by simp⟩
  change ReadsBack _ (.object (SchemaField.membersToJson fields)) fields
  rw [SchemaField.membersToJson_eq_map]
  exact hfields o fields ho hf trivial

/-- Entries of a schema are taken back. -/
theorem roundTrips {depth : Nat} (hdepth : 3 ≤ depth) :
    RoundTrips (fun _ => True) (decoder depth) toJson := by
  intro o e ho h _
  have hblank : Read (depth - 1) ⟨.component, []⟩ :=
    Json.readsBack_noEntries (by omega) _
  obtain ⟨-, _, hread, -⟩ := Json.of_record hblank (keeps_read (depth - 1)) ho h
  exact Fills.readsBack (by omega) (nodup_keys _) <|
    .member (Json.readsBack_oneOf _ e.kind.named_name) <| .member hread <| .done e

end SchemaEntry

/-- **Schemas are taken back.** -/
theorem Schema.roundTrips {depth : Nat} (hdepth : 4 ≤ depth) :
    RoundTrips (fun _ => True) (decoder depth) toJson :=
  (SchemaEntry.roundTrips (by omega)).sortedMapOf depth

end ThemeCompiler
