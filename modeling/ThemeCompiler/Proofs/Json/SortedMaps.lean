/-
**Maps with sorted keys.**

An insertion changes the value of one key and keeps the keys in ascending order.  So a list under
sorted keys is a normal form: it is the list itself when its keys ascend already.

Main definitions:

* `ThemeCompiler.Sorted.Ascending` — the keys of a list ascend.

Main results:

* `ThemeCompiler.Sorted.find?_insert` — **an insertion changes the value of its key only**;
* `ThemeCompiler.Sorted.ascending_ofList`, `ThemeCompiler.Sorted.ofList_eq_self` — **lists with
  ascending keys are the normal form**.
-/

import Mathlib.Data.String.Basic
import ThemeCompiler.Json.Basic

set_option relaxedAutoImplicit false
set_option autoImplicit false

namespace ThemeCompiler

namespace Sorted

variable {α : Type}

/-! ### Values of keys -/

@[simp] theorem find?_nil (key : String) : find? key ([] : List (String × α)) = none := rfl

theorem find?_cons (key : String) (entry : String × α) (rest : List (String × α)) :
    find? key (entry :: rest) = if entry.1 = key then some entry.2 else find? key rest := by
  by_cases h : entry.1 = key <;> simp [find?, h]

/-- **An insertion changes the value of its key only.** -/
theorem find?_insert (key other : String) (value : α) (entries : List (String × α)) :
    find? other (insert key value entries)
      = if key = other then some value else find? other entries := by
  induction entries with
  | nil => rw [insert, find?_cons]
  | cons entry rest ih =>
      obtain ⟨k, v⟩ := entry
      rw [insert]
      split
      · rw [find?_cons]
      split
      · next hkey =>
          have hkey : key = k := by simpa using hkey
          rw [find?_cons, find?_cons, hkey]
          split <;> rfl
      · next hkey =>
          have hkey : key ≠ k := by simpa using hkey
          rw [find?_cons, ih, find?_cons]
          -- both keys stand before the insertion or neither does
          by_cases hk : k = other
          · simp [hk, hk ▸ hkey]
          · simp [hk]

/-- Insertions of other keys leave the value of a key. -/
theorem find?_foldl_insert_of_not_mem {β : Type} {key : β → String} {value : β → α}
    {items : List β} {other : String} (h : other ∉ items.map key) (entries : List (String × α)) :
    find? other (items.foldl (fun sorted item => insert (key item) (value item) sorted) entries)
      = find? other entries := by
  induction items generalizing entries with
  | nil => rfl
  | cons item rest ih =>
      rw [List.map_cons, List.mem_cons, not_or] at h
      rw [List.foldl_cons, ih h.2, find?_insert, if_neg (Ne.symm h.1)]

/-- **Insertions under different keys all stay.** -/
theorem find?_foldl_insert_of_mem {β : Type} {key : β → String} {value : β → α}
    {items : List β} (h : (items.map key).Nodup) {item : β} (hitem : item ∈ items)
    (entries : List (String × α)) :
    find? (key item) (items.foldl (fun sorted item => insert (key item) (value item) sorted) entries)
      = some (value item) := by
  induction items generalizing entries with
  | nil => exact absurd hitem List.not_mem_nil
  | cons first rest ih =>
      rw [List.map_cons, List.nodup_cons] at h
      rw [List.foldl_cons]
      rcases List.mem_cons.1 hitem with rfl | hitem
      · rw [find?_foldl_insert_of_not_mem h.1, find?_insert, if_pos rfl]
      · exact ih h.2 hitem _

/-! ### Ascending keys -/

/-- **The keys of a list ascend.** -/
def Ascending (entries : List (String × α)) : Prop := entries.Pairwise fun a b => a.1 < b.1

theorem mem_insert {key : String} {value : α} {entries : List (String × α)} {entry : String × α}
    (h : entry ∈ insert key value entries) : entry = (key, value) ∨ entry ∈ entries := by
  induction entries with
  | nil => simpa [insert] using h
  | cons first rest ih =>
      obtain ⟨k, v⟩ := first
      rw [insert] at h
      split at h
      · simpa using h
      split at h
      · rcases List.mem_cons.1 h with h | h
        · exact .inl h
        · exact .inr (List.mem_cons_of_mem _ h)
      · rcases List.mem_cons.1 h with h | h
        · exact .inr (h ▸ List.mem_cons_self)
        · exact (ih h).imp_right (List.mem_cons_of_mem _)

/-- **An insertion keeps the keys in order.** -/
theorem Ascending.insert {entries : List (String × α)} (h : Ascending entries) (key : String)
    (value : α) : Ascending (insert key value entries) := by
  induction entries with
  | nil => exact List.pairwise_singleton _ _
  | cons entry rest ih =>
      obtain ⟨k, v⟩ := entry
      obtain ⟨hfirst, hrest⟩ := List.pairwise_cons.1 h
      rw [Sorted.insert]
      split
      · next hlt =>
          refine List.pairwise_cons.2 ⟨fun other hother => ?_, h⟩
          rcases List.mem_cons.1 hother with rfl | hother
          · exact hlt
          · exact hlt.trans (hfirst other hother)
      split
      · next hkey =>
          have hkey : key = k := by simpa using hkey
          exact List.pairwise_cons.2 ⟨hkey ▸ hfirst, hrest⟩
      · next hlt hkey =>
          have hkey : key ≠ k := by simpa using hkey
          refine List.pairwise_cons.2 ⟨fun other hother => ?_, ih hrest⟩
          rcases mem_insert hother with rfl | hother
          · exact lt_of_le_of_ne (not_lt.1 hlt) hkey.symm
          · exact hfirst other hother

/-- The keys of a list under sorted keys ascend. -/
theorem ascending_ofList (entries : List (String × α)) : Ascending (ofList entries) := by
  have hfold : ∀ sorted : List (String × α), Ascending sorted →
      Ascending (entries.foldl (fun sorted entry => insert entry.1 entry.2 sorted) sorted) := by
    induction entries with
    | nil => exact fun _ h => h
    | cons entry rest ih => exact fun sorted h => ih _ (h.insert entry.1 entry.2)
  exact hfold [] List.Pairwise.nil

/-- An insertion of the largest key goes to the end. -/
theorem insert_eq_append {entries : List (String × α)} {key : String} {value : α}
    (h : ∀ entry ∈ entries, entry.1 < key) : insert key value entries = entries ++ [(key, value)] := by
  induction entries with
  | nil => rfl
  | cons entry rest ih =>
      obtain ⟨k, v⟩ := entry
      have hlt : k < key := h _ List.mem_cons_self
      have hne : (key == k) = false := by simpa using hlt.ne'
      rw [insert, if_neg (not_lt.2 hlt.le), hne, ih fun other hother =>
        h other (List.mem_cons_of_mem _ hother)]
      rfl

/-- **A list with ascending keys is in normal form.** -/
theorem ofList_eq_self {entries : List (String × α)} (h : Ascending entries) :
    ofList entries = entries := by
  have hfold : ∀ sorted : List (String × α), Ascending (sorted ++ entries) →
      entries.foldl (fun sorted entry => insert entry.1 entry.2 sorted) sorted
        = sorted ++ entries := by
    induction entries with
    | nil => exact fun sorted _ => (List.append_nil sorted).symm
    | cons entry rest ih =>
        intro sorted hsorted
        have hlast : ∀ other ∈ sorted, other.1 < entry.1 := fun other hother =>
          (List.pairwise_append.1 hsorted).2.2 other hother entry List.mem_cons_self
        rw [List.foldl_cons, insert_eq_append hlast, ih (List.Pairwise.of_cons h) _
          (by simpa using hsorted), List.append_assoc, List.singleton_append]
  exact hfold [] h

/-- What holds of all entries of a list holds of those under sorted keys. -/
theorem mem_ofList {entries : List (String × α)} {entry : String × α} (h : entry ∈ ofList entries) :
    entry ∈ entries := by
  have hfold : ∀ sorted : List (String × α),
      entry ∈ entries.foldl (fun sorted entry => insert entry.1 entry.2 sorted) sorted →
        entry ∈ sorted ∨ entry ∈ entries := by
    clear h
    induction entries with
    | nil => exact fun _ h => .inl h
    | cons first rest ih =>
        intro sorted h
        rcases ih _ h with h | h
        · rcases mem_insert h with h | h
          · exact .inr (h ▸ List.mem_cons_self)
          · exact .inl h
        · exact .inr (List.mem_cons_of_mem _ h)
  exact (hfold [] h).resolve_left List.not_mem_nil

end Sorted

end ThemeCompiler
