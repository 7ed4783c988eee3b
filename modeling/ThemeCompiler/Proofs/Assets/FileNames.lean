/-
**The names of the files that references are to.**

The file name of a path is its last segment without query and fragment, so its characters come from
the path, and none of them separates segments or begins a query or a fragment.  A file with such a
name behind a directory is found again as the file name of the whole.

Main results:

* `ThemeCompiler.Assets.mem_fileName` — **the characters of a file name**;
* `ThemeCompiler.Assets.fileName_append` — the file name of a file in a directory;
* `ThemeCompiler.Assets.subdirectory_cases` — the directories for files.
-/

import Mathlib.Data.List.TakeWhile
import ThemeCompiler.Assets
import ThemeCompiler.Proofs.Text.Search

set_option relaxedAutoImplicit false
set_option autoImplicit false

namespace ThemeCompiler

namespace Assets

/-- **The characters of a file name** come from the path, and none of them ends a segment, begins a
query or begins a fragment. -/
theorem mem_fileName {path : String} {c : Char} (h : c ∈ (fileName path).toList) :
    c ∈ path.toList ∧ c ≠ '/' ∧ c ≠ '\\' ∧ c ≠ '?' ∧ c ≠ '#' := by
  rw [fileName, String.toList_ofList] at h
  cases hlast : (Text.splitAtChars (fun c => c == '/' || c == '\\')
      (withoutQuery path.toList)).getLast? with
  | none => simp [hlast] at h
  | some piece =>
      rw [hlast, Option.getD_some] at h
      have hpiece := List.mem_of_getLast? hlast
      have hsegment := Text.eq_false_of_mem_splitAtChars hpiece c h
      have hmem : c ∈ withoutQuery path.toList := Text.mem_of_mem_splitAtChars hpiece c h
      have hquery := List.mem_takeWhile_imp hmem
      simp only [Bool.or_eq_false_iff, beq_eq_false_iff_ne] at hsegment
      simp only [Bool.and_eq_true, bne_iff_ne] at hquery
      exact ⟨(List.takeWhile_sublist _).mem hmem, hsegment.1, hsegment.2, hquery.1, hquery.2⟩

/-- **The file behind a directory** is the file name of the whole. -/
theorem fileName_append {directory : List Char} {file : String}
    (hquery : ∀ c ∈ directory, c ≠ '?' ∧ c ≠ '#')
    (hfile : ∀ c ∈ file.toList, c ≠ '/' ∧ c ≠ '\\' ∧ c ≠ '?' ∧ c ≠ '#') :
    fileName (String.ofList (directory ++ '/' :: file.toList)) = file := by
  have hall : withoutQuery (directory ++ '/' :: file.toList) = directory ++ '/' :: file.toList := by
    rw [withoutQuery, List.takeWhile_eq_self_iff]
    intro c hc
    rcases List.mem_append.1 hc with hc | hc
    · simp [hquery c hc]
    rcases List.mem_cons.1 hc with rfl | hc
    · decide
    · simp [hfile c hc]
  have hone : Text.splitAtChars (fun c => c == '/' || c == '\\') file.toList = [file.toList] :=
    Text.splitAtChars_of_forall fun c hc => by simp [hfile c hc]
  rw [fileName, String.toList_ofList, hall, Text.splitAtChars_append_cons (by decide), hone]
  simp

theorem subdirectory_cases (file : String) :
    subdirectory file = "css/" ∨ subdirectory file = "js/" ∨ subdirectory file = "" := by
  rw [subdirectory]
  split
  · exact .inl rfl
  split
  · exact .inr (.inl rfl)
  · exact .inr (.inr rfl)

end Assets

end ThemeCompiler
