/-
**Records that are read and written.**

A record is put together by its slots, in the order in which the members of an object or the items
of an array are written.  What every slot keeps holds of a record that was read, and what has to be
there was filled.

A record is written with its members in the order of the slots.  A slot that is left out keeps what
the blank record has, so the members fill the slots one after the other.

Main definitions:

* `ThemeCompiler.Json.Slot.Keeps` — a property of the slots that are filled and the record that a
  slot keeps;
* `ThemeCompiler.Json.Fills` — members that fill slots.

Main results:

* `ThemeCompiler.Json.of_record`, `ThemeCompiler.Json.exists_fill_of_record` — **what is known of a
  record that was read**;
* `ThemeCompiler.Json.Fills.readsBack` — **a record is read from the members that fill its slots**.
-/

import Mathlib.Data.List.Nodup
import ThemeCompiler.Proofs.Json.Readers

set_option relaxedAutoImplicit false
set_option autoImplicit false

namespace ThemeCompiler

namespace Json

variable {α β : Type}

/-! ### Reading -/

/-- **A slot keeps a property** of the keys that are filled and of the record. -/
def Slot.Keeps (P : List String → α → Prop) (slot : Slot α) : Prop :=
  ∀ seen o x x', o.Bounded → P seen x → slot.fill o x = .ok x' → P (slot.key :: seen) x'

/-- A slot that puts a value into the record. -/
theorem Slot.keeps {P : List String → α → Prop} {key : String} {inObject inArray : Bool}
    {value : Decoder β} {put : β → α → α}
    (h : ∀ seen o y x, o.Bounded → value o = .ok y → P seen x → P (key :: seen) (put y x)) :
    Slot.Keeps P ⟨key, inObject, inArray, fun o x => (value o).map (put · x)⟩ := by
  intro seen o x x' ho hx hfill
  obtain ⟨y, hy, rfl⟩ := map_eq_ok_iff.1 hfill
  exact h seen o y x ho hy hx

variable {slots : List (Slot α)} {P : List String → α → Prop}

theorem keeps_fromMembers (hslots : ∀ slot ∈ slots, slot.Keeps P) :
    ∀ (members : List (Quoted × Outline)) (seen seen' : List String) (x x' : α),
      BoundedMembers members → P seen x → fromMembers slots members seen x = .ok (seen', x') →
        P seen' x'
  | [], seen, seen', x, x', _, hx, h => by
      obtain ⟨rfl, rfl⟩ := Prod.mk.inj (Except.ok.inj h)
      exact hx
  | (key, value) :: rest, seen, seen', x, x', ⟨hvalue, hrest⟩, hx, h => by
      rw [fromMembers] at h
      obtain ⟨name, -, h⟩ := bind_eq_ok_iff.1 h
      split at h
      · obtain ⟨_, -, h⟩ := bind_eq_ok_iff.1 h
        exact keeps_fromMembers hslots rest seen seen' x x' hrest hx h
      · next slot hslot =>
          split at h
          · exact absurd h (by simp)
          · obtain ⟨between, hfill, h⟩ := bind_eq_ok_iff.1 h
            have hkey : slot.key = name := by simpa using List.find?_some hslot
            have hkeep := hslots slot (List.mem_of_find?_eq_some hslot) seen value x between hvalue
              hx hfill
            rw [hkey] at hkeep
            exact keeps_fromMembers hslots rest (name :: seen) seen' between x' hrest hkeep h

theorem keeps_fromItems : ∀ (slots : List (Slot α)) (found : List Outline) (ending : Ending)
    (seen : List String) (x x' : α), (∀ slot ∈ slots, slot.Keeps P) → BoundedItems found →
      P seen x → fromItems slots found ending x = .ok x' →
        ∃ seen', P seen' x' ∧ seen ⊆ seen' ∧ ∀ slot ∈ slots, slot.inArray = true → slot.key ∈ seen'
  | [], [], ending, seen, x, x', _, _, hx, h => by
      cases ending with
      | closed =>
          obtain rfl := Except.ok.inj h
          exact ⟨seen, hx, List.Subset.refl seen, by simp⟩
      | unclosed | dangling | strayKey => exact absurd h (by simp [fromItems])
  | [], _ :: _, _, _, _, _, _, _, _, h => absurd h (by simp [fromItems])
  | slot :: slots, item :: rest, ending, seen, x, x', hslots, ⟨hitem, hrest⟩, hx, h => by
      rw [fromItems] at h
      obtain ⟨between, hfill, h⟩ := bind_eq_ok_iff.1 h
      obtain ⟨hslot, hslots⟩ := List.forall_mem_cons.1 hslots
      obtain ⟨seen', hx', hseen, hkeys⟩ := keeps_fromItems slots rest ending (slot.key :: seen)
        between x' hslots hrest (hslot seen item x between hitem hx hfill) h
      obtain ⟨hkey, hseen⟩ := List.cons_subset.1 hseen
      exact ⟨seen', hx', hseen, List.forall_mem_cons.2 ⟨fun _ => hkey, hkeys⟩⟩
  | slot :: slots, [], ending, seen, x, x', hslots, _, hx, h => by
      rw [fromItems] at h
      obtain ⟨_, -, h⟩ := bind_eq_ok_iff.1 h
      split at h
      · exact absurd h (by simp)
      · next harray =>
          obtain ⟨hslot, hslots⟩ := List.forall_mem_cons.1 hslots
          obtain ⟨seen', hx', hseen, hkeys⟩ := keeps_fromItems slots [] ending seen x x' hslots
            trivial hx h
          exact ⟨seen', hx', hseen, List.forall_mem_cons.2 ⟨fun h => absurd h harray, hkeys⟩⟩

/-- **What is known of a record that was read**: what all slots keep, and that the members which
every form of the record has were filled. -/
theorem of_record {depth : Nat} {blank : α} (hblank : P [] blank)
    (hslots : ∀ slot ∈ slots, slot.Keeps P) {o : Outline} {x : α} (ho : o.Bounded)
    (h : record depth slots blank o = .ok x) :
    2 ≤ depth ∧ ∃ seen, P seen x ∧
      ∀ slot ∈ slots, slot.inObject = true → slot.inArray = true → slot.key ∈ seen := by
  cases o with
  | object members ending =>
      rw [record] at h
      obtain ⟨_, hdepth, h⟩ := bind_eq_ok_iff.1 h
      obtain ⟨⟨seen, found⟩, hfound, h⟩ := bind_eq_ok_iff.1 h
      obtain ⟨_, -, h⟩ := bind_eq_ok_iff.1 h
      split at h
      · next hall =>
          obtain rfl := Except.ok.inj h
          refine ⟨enter_eq_ok hdepth, seen, keeps_fromMembers hslots members [] seen blank found ho
            hblank hfound, fun slot hslot hobject _ => ?_⟩
          have hseen := List.all_eq_true.1 hall slot hslot
          rw [hobject, Bool.not_true, Bool.false_or] at hseen
          exact List.contains_iff_mem.1 hseen
      · exact absurd h (by simp [throw, throwThe, MonadExceptOf.throw])
  | array found ending =>
      rw [record] at h
      obtain ⟨_, hdepth, h⟩ := bind_eq_ok_iff.1 h
      obtain ⟨seen, hx, -, hkeys⟩ := keeps_fromItems slots found ending [] blank x hslots ho hblank h
      exact ⟨enter_eq_ok hdepth, seen, hx, fun slot hslot _ harray => hkeys slot hslot harray⟩
  | null | bool | number | string | broken => exact absurd h (by simp [record])

/-- **A member that every form of the record has was read.** -/
theorem exists_fill_of_record {depth : Nat} {blank : α} (hnodup : (slots.map (·.key)).Nodup)
    (slot : Slot α) (hslot : slot ∈ slots) (hobject : slot.inObject = true)
    (harray : slot.inArray = true) {o : Outline} {x : α} (ho : o.Bounded)
    (h : record depth slots blank o = .ok x) :
    ∃ member y y', member.Bounded ∧ slot.fill member y = .ok y' := by
  have hkeeps : ∀ other ∈ slots, other.Keeps fun seen _ =>
      slot.key ∈ seen → ∃ member y y', member.Bounded ∧ slot.fill member y = .ok y' := by
    intro other hother seen member y y' hmember hseen hfill hkey
    rcases List.mem_cons.1 hkey with hkey | hkey
    · obtain rfl := List.inj_on_of_nodup_map hnodup hslot hother hkey
      exact ⟨member, y, y', hmember, hfill⟩
    · exact hseen hkey
  obtain ⟨-, seen, hread, hkeys⟩ := of_record (by simp) hkeeps ho h
  exact hread (hkeys slot hslot hobject harray)

/-! ### Writing -/

/-- **Members that fill slots**, from one record to another: every slot takes the next member or is
left out. -/
inductive Fills : List (Slot α) → List (String × Json) → α → α → Prop where
  | done (x : α) : Fills [] [] x x
  | put {slot : Slot α} {slots : List (Slot α)} {j : Json} {members : List (String × Json)}
      {x between x' : α} (integers : OnlyIntegers j) (fill : slot.fill (outlineOf j) x = .ok between)
      (rest : Fills slots members between x') : Fills (slot :: slots) ((slot.key, j) :: members) x x'
  | leave {slot : Slot α} {slots : List (Slot α)} {members : List (String × Json)} {x x' : α}
      (left : slot.inObject = false) (rest : Fills slots members x x') :
      Fills (slot :: slots) members x x'

namespace Fills

/-- A value that is taken back fills a slot. -/
theorem member {key : String} {inObject inArray : Bool} {value : Decoder β} {put : β → α → α}
    {slots : List (Slot α)} {j : Json} {members : List (String × Json)} {x x' : α} {y : β}
    (h : ReadsBack value j y) (rest : Fills slots members (put y x) x') :
    Fills (⟨key, inObject, inArray, fun o x => (value o).map (put · x)⟩ :: slots)
      ((key, j) :: members) x x' :=
  .put h.integers (by simp [h.reads, Except.map]) rest

/-- A value that may be missing fills a slot or leaves it out. -/
theorem optional {key : String} {inArray : Bool} {value : Decoder (Option β)}
    {put : Option β → α → α} {slots : List (Slot α)} {encode : β → Json}
    {members : List (String × Json)} {x x' : α} {y : Option β}
    (h : ∀ z ∈ y, ReadsBack value (encode z) (some z)) (hnone : y = none → put none x = x)
    (rest : Fills slots members (put y x) x') :
    Fills (⟨key, false, inArray, fun o x => (value o).map (put · x)⟩ :: slots)
      (Json.optional key encode y ++ members) x x' := by
  cases y with
  | none =>
      rw [hnone rfl] at rest
      exact .leave rfl rest
  | some z => exact .member (h z rfl) rest

theorem onlyIntegers {slots : List (Slot α)} {members : List (String × Json)} {x x' : α}
    (h : Fills slots members x x') : OnlyIntegersInMembers members := by
  induction h with
  | done => exact trivial
  | put integers _ _ ih => exact ⟨integers, ih⟩
  | leave _ _ ih => exact ih

/-- **The members are put into the record one after the other.**  The slots before them are those
that may be filled already. -/
theorem fromMembers {slots : List (Slot α)} {members : List (String × Json)} {x x' : α}
    (h : Fills slots members x x') : ∀ (before : List (Slot α)) (seen : List String),
      ((before ++ slots).map (·.key)).Nodup → seen ⊆ before.map (·.key) →
        ∃ seen', Json.fromMembers (before ++ slots) (outlinesOfMembers members) seen x =
            .ok (seen', x') ∧
          seen ⊆ seen' ∧ ∀ slot ∈ slots, slot.inObject = true → slot.key ∈ seen' := by
  induction h with
  | done x => exact fun before seen _ _ => ⟨seen, rfl, List.Subset.refl seen, by simp⟩
  | @put slot slots j members x between x' _ fill rest ih =>
      intro before seen hnodup hseen
      have hsplit : before ++ slot :: slots = (before ++ [slot]) ++ slots := by simp
      have hbefore : ∀ other ∈ before, other.key ≠ slot.key := fun other hother heq => by
        rw [List.map_append, List.map_cons] at hnodup
        exact (List.nodup_append.1 hnodup).2.2 _ (List.mem_map_of_mem hother) _
          List.mem_cons_self heq
      have hfind : (before ++ slot :: slots).find? (·.key == slot.key) = some slot := by
        rw [List.find?_append, List.find?_eq_none.2 fun other hother => by
          simpa using hbefore other hother]
        simp
      have hnew : seen.contains slot.key = false := by
        rw [Bool.eq_false_iff]
        intro hcontains
        obtain ⟨other, hother, hkey⟩ :=
          List.mem_map.1 (hseen (List.contains_iff_mem.1 hcontains))
        exact hbefore other hother hkey
      obtain ⟨seen', hread, hsub, hkeys⟩ := ih (before ++ [slot]) (slot.key :: seen)
        (hsplit ▸ hnodup) (by
          rw [List.map_append, List.cons_subset]
          exact ⟨by simp, List.Subset.trans hseen (List.subset_append_left _ _)⟩)
      rw [← hsplit] at hread
      obtain ⟨hkey, hsub⟩ := List.cons_subset.1 hsub
      refine ⟨seen', ?_, hsub, List.forall_mem_cons.2 ⟨fun _ => hkey, hkeys⟩⟩
      have hvalue : (Quoted.fine slot.key).value = .ok slot.key := rfl
      rw [outlinesOfMembers, Json.fromMembers, hvalue]
      simp only [bind, Except.bind, hfind, hnew, fill]
      exact hread
  | @leave slot slots members x x' left rest ih =>
      intro before seen hnodup hseen
      have hsplit : before ++ slot :: slots = (before ++ [slot]) ++ slots := by simp
      obtain ⟨seen', hread, hsub, hkeys⟩ := ih (before ++ [slot]) seen (hsplit ▸ hnodup) (by
        rw [List.map_append]
        exact List.Subset.trans hseen (List.subset_append_left _ _))
      rw [← hsplit] at hread
      exact ⟨seen', hread, hsub, List.forall_mem_cons.2
        ⟨fun h => absurd h (by simp [left]), hkeys⟩⟩

/-- **A record is read from the members that fill its slots.** -/
theorem readsBack {depth : Nat} (hdepth : 2 ≤ depth) {slots : List (Slot α)}
    (hnodup : (slots.map (·.key)).Nodup) {members : List (String × Json)} {blank x : α}
    (h : Fills slots members blank x) : ReadsBack (record depth slots blank) (object members) x := by
  obtain ⟨seen, hread, -, hkeys⟩ := h.fromMembers [] [] hnodup (List.nil_subset _)
  rw [List.nil_append] at hread
  refine ⟨h.onlyIntegers, ?_⟩
  have hall : (slots.all fun slot => !slot.inObject || seen.contains slot.key) = true := by
    refine List.all_eq_true.2 fun slot hslot => ?_
    cases hobject : slot.inObject with
    | false => rfl
    | true => simpa using hkeys slot hslot hobject
  rw [outlineOf, record, enter_of_le hdepth]
  change (Json.fromMembers slots (outlinesOfMembers members) [] blank >>= _) = _
  rw [hread]
  change (if (slots.all fun slot => !slot.inObject || seen.contains slot.key) = true then _ else _) =
    _
  rw [if_pos hall]
  rfl

end Fills

end Json

end ThemeCompiler
