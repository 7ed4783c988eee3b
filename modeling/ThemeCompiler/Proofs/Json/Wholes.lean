/-
**Values that are read as they are written.**

A value of any shape is read where it fits: its levels are within those that are left, and its
integers within 64 bits.  With sorted keys it fits as well, and to sort them again changes nothing.

Main definitions:

* `ThemeCompiler.Json.Fits` — a value that can be read where some levels are left.

Main results:

* `ThemeCompiler.Json.fits_of_whole`, `ThemeCompiler.Json.whole_outlineOf` — **what is read fits,
  and what fits is read**;
* `ThemeCompiler.Json.fits_sorted`, `ThemeCompiler.Json.sorted_sorted` — sorted keys.
-/

import ThemeCompiler.Proofs.Json.Readers

set_option relaxedAutoImplicit false
set_option autoImplicit false

namespace ThemeCompiler

namespace Json

/-! ### Values that fit -/

mutual

/-- **A value that can be read** where `depth` levels are left. -/
def Fits (depth : Nat) : Json → Prop
  | int n => 1 ≤ depth ∧ InRange n
  | array items => 2 ≤ depth ∧ FitsIn (depth - 1) items
  | object members => 2 ≤ depth ∧ FitsInMembers (depth - 1) members
  | _ => 1 ≤ depth

/-- Items that can be read. -/
def FitsIn (depth : Nat) : List Json → Prop
  | [] => True
  | item :: rest => Fits depth item ∧ FitsIn depth rest

/-- Members whose values can be read. -/
def FitsInMembers (depth : Nat) : List (String × Json) → Prop
  | [] => True
  | (_, value) :: rest => Fits depth value ∧ FitsInMembers depth rest

end

theorem fitsIn_iff {depth : Nat} {found : List Json} :
    FitsIn depth found ↔ ∀ item ∈ found, Fits depth item := by
  induction found with
  | nil => simp [FitsIn]
  | cons item rest ih => simp [FitsIn, ih]

theorem fitsInMembers_iff {depth : Nat} {members : List (String × Json)} :
    FitsInMembers depth members ↔ ∀ member ∈ members, Fits depth member.2 := by
  induction members with
  | nil => simp [FitsInMembers]
  | cons member rest ih => simp [FitsInMembers, ih]

theorem Fits.one_le {depth : Nat} {j : Json} (h : Fits depth j) : 1 ≤ depth := by
  cases j <;> simp only [Fits] at h <;> omega

/-- **What is read as it is written fits.** -/
theorem fits_of_whole : ∀ (depth : Nat) (o : Outline) (j : Json), o.Bounded →
    whole depth o = .ok j → Fits depth j
  | 0, o, j, _, h => absurd h (by simp [whole])
  | depth + 1, .null, j, _, h => by
      obtain rfl := Except.ok.inj h
      exact Nat.succ_pos depth
  | depth + 1, .bool b, j, _, h => by
      obtain rfl := Except.ok.inj h
      exact Nat.succ_pos depth
  | depth + 1, .number value _, j, ho, h => by
      obtain ⟨numeral, rfl, rfl⟩ := map_eq_ok_iff.1 h
      cases numeral with
      | int n => exact ⟨Nat.succ_pos depth, ho n rfl⟩
      | double d => exact Nat.succ_pos depth
  | depth + 1, .string s, j, _, h => by
      obtain ⟨t, -, rfl⟩ := map_eq_ok_iff.1 h
      exact Nat.succ_pos depth
  | depth + 1, .array found ending, j, ho, h => by
      rw [whole] at h
      obtain ⟨_, hdepth, h⟩ := bind_eq_ok_iff.1 h
      obtain ⟨values, hvalues, h⟩ := bind_eq_ok_iff.1 h
      obtain ⟨_, -, h⟩ := bind_eq_ok_iff.1 h
      obtain rfl := Except.ok.inj h
      exact ⟨enter_eq_ok hdepth, fitsIn_iff.2 (items_forall (fits_of_whole depth) found values ho
        hvalues)⟩
  | depth + 1, .object members ending, j, ho, h => by
      rw [whole] at h
      obtain ⟨_, hdepth, h⟩ := bind_eq_ok_iff.1 h
      obtain ⟨values, hvalues, h⟩ := bind_eq_ok_iff.1 h
      obtain ⟨_, -, h⟩ := bind_eq_ok_iff.1 h
      obtain rfl := Except.ok.inj h
      exact ⟨enter_eq_ok hdepth, fitsInMembers_iff.2 (entries_forall (fits_of_whole depth) members
        values ho hvalues)⟩
  | depth + 1, .broken _ problem, j, _, h => absurd h (by simp [whole])

/-- Only the word for no value is read as no value. -/
theorem eq_null_of_whole {depth : Nat} {o : Outline} (h : whole depth o = .ok null) :
    o = .null := by
  obtain _ | depth := depth
  · exact absurd h (by simp [whole])
  cases o with
  | null => rfl
  | bool | broken => exact absurd h (by simp [whole])
  | number value _ =>
      obtain ⟨numeral, -, hnull⟩ := map_eq_ok_iff.1 h
      cases numeral <;> exact absurd hnull (by simp [Numeral.toJson])
  | string s =>
      obtain ⟨t, -, hnull⟩ := map_eq_ok_iff.1 h
      exact absurd hnull (by simp)
  | array | object =>
      rw [whole] at h
      obtain ⟨_, -, h⟩ := bind_eq_ok_iff.1 h
      obtain ⟨_, -, h⟩ := bind_eq_ok_iff.1 h
      obtain ⟨_, -, h⟩ := bind_eq_ok_iff.1 h
      exact absurd (Except.ok.inj h) (by simp)

mutual

/-- **What fits is read as it is written.** -/
theorem whole_outlineOf : ∀ (j : Json) (depth : Nat), Fits (depth + 1) j →
    whole (depth + 1) (outlineOf j) = .ok j
  | null, _, _ => rfl
  | bool _, _, _ => rfl
  | int n, _, h => by
      rw [outlineOf, whole, value_integerText h.2.1 h.2.2]
      rfl
  | double _, _, _ => rfl
  | string _, _, _ => rfl
  | array found, depth, ⟨hdepth, h⟩ => by
      obtain ⟨depth, rfl⟩ := Nat.exists_eq_add_one.2 (Nat.lt_of_succ_lt_succ hdepth)
      rw [outlineOf, whole, enter_of_le hdepth, items_whole found depth h]
      rfl
  | object members, depth, ⟨hdepth, h⟩ => by
      obtain ⟨depth, rfl⟩ := Nat.exists_eq_add_one.2 (Nat.lt_of_succ_lt_succ hdepth)
      rw [outlineOf, whole, enter_of_le hdepth, entries_whole members depth h]
      rfl

theorem items_whole : ∀ (found : List Json) (depth : Nat), FitsIn (depth + 1) found →
    items (whole (depth + 1)) (outlinesOf found) = .ok found
  | [], _, _ => rfl
  | item :: rest, depth, ⟨hitem, hrest⟩ => by
      rw [outlinesOf, items, whole_outlineOf item depth hitem, items_whole rest depth hrest]
      rfl

theorem entries_whole : ∀ (members : List (String × Json)) (depth : Nat),
    FitsInMembers (depth + 1) members →
      entries (whole (depth + 1)) (outlinesOfMembers members) = .ok members
  | [], _, _ => rfl
  | (key, value) :: rest, depth, ⟨hvalue, hrest⟩ => by
      rw [outlinesOfMembers, entries, whole_outlineOf value depth hvalue,
        entries_whole rest depth hrest]
      rfl

end

/-- **A value that fits is taken back.** -/
theorem Fits.readsBack {depth : Nat} {j : Json} (h : Fits depth j) (hj : OnlyIntegers j) :
    ReadsBack (whole depth) j j := by
  obtain ⟨depth, rfl⟩ := Nat.exists_eq_add_one.2 h.one_le
  exact ⟨hj, whole_outlineOf j depth h⟩

/-! ### Sorted keys -/

/-- Values whose keys are sorted keep the keys that they are under. -/
theorem sortedMembers_eq_map (members : List (String × Json)) :
    sortedMembers members = members.map fun member => (member.1, sorted member.2) := by
  induction members with
  | nil => rfl
  | cons member rest ih => rw [sortedMembers, ih, List.map_cons]

mutual

theorem fits_sorted : ∀ (j : Json) (depth : Nat), Fits depth j → Fits depth (sorted j)
  | null, _, h => h
  | bool _, _, h => h
  | int _, _, h => h
  | double _, _, h => h
  | string _, _, h => h
  | array found, depth, ⟨hdepth, h⟩ => ⟨hdepth, fitsIn_sortedItems found (depth - 1) h⟩
  | object members, depth, ⟨hdepth, h⟩ =>
      ⟨hdepth, fitsInMembers_iff.2 fun member hmember =>
        fitsInMembers_iff.1 (fitsInMembers_sortedMembers members (depth - 1) h) member
          (Sorted.mem_ofList hmember)⟩

theorem fitsIn_sortedItems : ∀ (found : List Json) (depth : Nat), FitsIn depth found →
    FitsIn depth (sortedItems found)
  | [], _, _ => trivial
  | item :: rest, depth, ⟨hitem, hrest⟩ =>
      ⟨fits_sorted item depth hitem, fitsIn_sortedItems rest depth hrest⟩

theorem fitsInMembers_sortedMembers : ∀ (members : List (String × Json)) (depth : Nat),
    FitsInMembers depth members → FitsInMembers depth (sortedMembers members)
  | [], _, _ => trivial
  | (_, value) :: rest, depth, ⟨hvalue, hrest⟩ =>
      ⟨fits_sorted value depth hvalue, fitsInMembers_sortedMembers rest depth hrest⟩

end

mutual

/-- **To sort sorted keys changes nothing.** -/
theorem sorted_sorted : ∀ j : Json, sorted (sorted j) = sorted j
  | null => rfl
  | bool _ => rfl
  | int _ => rfl
  | double _ => rfl
  | string _ => rfl
  | array found => congrArg array (sortedItems_sortedItems found)
  | object members => by
      have hvalues := sorted_sortedMembers members
      have hmap : sortedMembers (Sorted.ofList (sortedMembers members)) =
          Sorted.ofList (sortedMembers members) := by
        rw [sortedMembers_eq_map]
        refine (List.map_congr_left fun member hmember => ?_).trans (List.map_id _)
        rw [hvalues member (Sorted.mem_ofList hmember)]
        rfl
      change object (Sorted.ofList (sortedMembers (Sorted.ofList (sortedMembers members)))) = _
      rw [hmap, Sorted.ofList_eq_self (Sorted.ascending_ofList _)]
      rfl

theorem sortedItems_sortedItems : ∀ found : List Json,
    sortedItems (sortedItems found) = sortedItems found
  | [] => rfl
  | item :: rest => by
      rw [sortedItems, sortedItems, sorted_sorted item, sortedItems_sortedItems rest]

theorem sorted_sortedMembers : ∀ members : List (String × Json),
    ∀ member ∈ sortedMembers members, sorted member.2 = member.2
  | [] => by simp [sortedMembers]
  | (key, value) :: rest => by
      rw [sortedMembers]
      exact List.forall_mem_cons.2 ⟨sorted_sorted value, sorted_sortedMembers rest⟩

end

end Json

end ThemeCompiler
