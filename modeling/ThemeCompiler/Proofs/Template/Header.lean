/-
**The comment that announces a template.**

A template of a document begins with a comment that holds its name.  The name is put on one line and
the ends of comments are removed from it, but only once: where the end of a comment stands around
others, removing these makes up a new one, and the comment of the template ends inside of the name.
Every other name leaves the comment as it is meant.

Main results:

* `ThemeCompiler.Template.contains_sanitizeName_iff` — **when the end of a comment is in a name that
  was made to fit**;
* `ThemeCompiler.Template.generate_comment` — **the comment of a template**.
-/

import ThemeCompiler.Proofs.Text.Lexemes
import ThemeCompiler.Proofs.Text.Removal
import ThemeCompiler.Template.Writer

set_option relaxedAutoImplicit false
set_option autoImplicit false

namespace ThemeCompiler

namespace Template

open Text (contains nested)

/-! ### Names -/

theorem lineChar_eq_iff {x : Char} (h : x ≠ '\r' ∧ x ≠ '\n' ∧ x ≠ ' ') (c : Char) :
    lineChar c = x ↔ c = x := by
  rw [lineChar]
  split
  · next hc =>
      rw [Bool.or_eq_true, beq_iff_eq, beq_iff_eq] at hc
      refine ⟨fun hx => absurd hx.symm h.2.2, ?_⟩
      rintro rfl
      exact absurd hc (not_or.2 ⟨h.1, h.2.1⟩)
  · rfl

theorem toList_sanitizeName (name : String) : (sanitizeName name).toList =
    Text.trimWith Text.isBlank ((Text.removeAll name "*/").toList.map lineChar) :=
  String.toList_ofList

/-- **The name is on one line.** -/
theorem line_of_mem_sanitizeName {name : String} {c : Char} (h : c ∈ (sanitizeName name).toList) :
    c ≠ '\r' ∧ c ≠ '\n' := by
  rw [toList_sanitizeName] at h
  obtain ⟨before, after, hcs, -⟩ :=
    Text.exists_trimWith Text.isBlank ((Text.removeAll name "*/").toList.map lineChar)
  have hmem : c ∈ (Text.removeAll name "*/").toList.map lineChar := by
    rw [hcs]
    simp [h]
  obtain ⟨original, -, rfl⟩ := List.mem_map.1 hmem
  rw [lineChar]
  split
  · exact ⟨by decide, by decide⟩
  · next hc => simpa [not_or] using hc

/-- **When the end of a comment is in a name that was made to fit**: when it stood around others. -/
theorem contains_sanitizeName_iff (name : String) : contains (sanitizeName name) "*/" = true ↔
    ∃ n, contains name (String.ofList (nested '*' '/' (n + 1))) = true := by
  have hend : "*/".toList = ['*', '/'] := rfl
  have hblank : ∀ c ∈ ['*', '/'], Text.isBlank c = false :=
    List.forall_mem_cons.2 ⟨rfl, List.forall_mem_singleton.2 rfl⟩
  simp only [contains, Text.occursIn_iff_infix, String.toList_ofList, toList_sanitizeName, hend]
  rw [Text.infix_trimWith_iff (by simp) hblank, Text.infix_map_iff, Text.removeAll,
    if_neg (by decide), String.toList_ofList, hend]
  · exact Text.infix_removeFrom_iff (by decide) name.toList
  · intro x hx
    refine lineChar_eq_iff ?_
    revert x
    simp

/-! ### The comment -/

/-- The parts of the text that announces a template. -/
theorem toList_header (name : String) : (header name).toList =
    "<?php\n".toList ++ ('/' :: '*' :: (("\nTemplate Name: " ++ sanitizeName name ++ "\n").toList ++
      '*' :: '/' :: "\n?>\n".toList)) := by
  have hfront : "<?php\n/*\nTemplate Name: ".toList =
      "<?php\n".toList ++ ('/' :: '*' :: "\nTemplate Name: ".toList) := by decide
  have hback : "\n*/\n?>\n".toList = "\n".toList ++ ('*' :: '/' :: "\n?>\n".toList) := by decide
  have hheader : header name =
      "<?php\n/*\nTemplate Name: " ++ sanitizeName name ++ "\n*/\n?>\n" := rfl
  simp only [hheader, String.toList_append, hfront, hback, List.append_assoc, List.cons_append]

/-- **The comment of a template.**  The name in it is on one line, without blanks around it; the end
of a comment is in it exactly if the original name has one around others; and the template begins
with a comment that ends where it is meant exactly if this is not so. -/
theorem generate_comment (fields : List Field) (name : String) :
    let kept := sanitizeName name
    let comment := "\nTemplate Name: " ++ kept ++ "\n"
    let after := "\n?>\n" ++ pageFrame (write (lower fields).1 (lower fields).2)
    (∀ c ∈ kept.toList, c ≠ '\r' ∧ c ≠ '\n') ∧
      (∀ c ∈ kept.toList.head?, Text.isBlank c = false) ∧
      (∀ c ∈ kept.toList.getLast?, Text.isBlank c = false) ∧
      (contains kept "*/" = true ↔
        ∃ n, contains name (String.ofList (nested '*' '/' (n + 1))) = true) ∧
      ∃ text, (generate fields .documentWithIdentity name).toList = "<?php\n".toList ++ text ∧
        (Text.readComment text = some (comment.toList, after.toList) ↔
          contains kept "*/" = false) := by
  intro kept comment after
  refine ⟨fun c => line_of_mem_sanitizeName, fun c hc => ?_, fun c hc => ?_,
    contains_sanitizeName_iff name, ?_⟩
  · rw [toList_sanitizeName] at hc
    exact Text.head?_trimWith hc
  · rw [toList_sanitizeName] at hc
    exact Text.getLast?_trimWith hc
  · refine ⟨'/' :: '*' :: (comment.toList ++ '*' :: '/' :: after.toList), ?_, ?_⟩
    · have hgenerate : generate fields .documentWithIdentity name =
          header name ++ pageFrame (write (lower fields).1 (lower fields).2) := by rw [generate]
      rw [hgenerate, String.toList_append, toList_header]
      simp only [comment, after, kept, String.toList_append, List.append_assoc, List.cons_append]
    · -- around the name there is nothing of the end of a comment
      have hbehind : ['*', '/'] <:+: comment.toList ↔ ['*', '/'] <:+: kept.toList := by
        rw [String.toList_append, String.toList_append, List.append_assoc,
          Text.infix_behind_iff (by decide), Text.infix_before_iff (by decide)]
      rw [Text.readComment_append_iff, hbehind, ← Bool.not_eq_true, contains,
        Text.occursIn_iff_infix]
      rfl

-- Removing the end of a comment makes up another one.
example : sanitizeName "Home */ Page\nX" = "Home  Page X" ∧ sanitizeName "**//" = "*/" := by decide

end Template

end ThemeCompiler
