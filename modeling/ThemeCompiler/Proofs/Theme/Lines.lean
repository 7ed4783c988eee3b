/-
**Texts of lines.**

In a text of lines a line is found behind those before it, if it is none of them; a text without
line ends occurs in it when it occurs in a line; and it is split into its lines.

Main definitions:

* `ThemeCompiler.Shell.IsLine` — a text without line ends.

Main results:

* `ThemeCompiler.Shell.splitFirst?_lines` — **the first occurrence of a line**;
* `ThemeCompiler.Shell.contains_lines` — **what occurs in a line**;
* `ThemeCompiler.Shell.infix_lines_iff`, `ThemeCompiler.Shell.splitFirst?_append` — where a line with its
  line ends stands;
* `ThemeCompiler.Shell.splitAtChars_lines` — the lines of a text.
-/

import ThemeCompiler.Proofs.Text.Search
import ThemeCompiler.Theme.Shell

set_option relaxedAutoImplicit false
set_option autoImplicit false

namespace ThemeCompiler

namespace Shell

/-! ### Lines -/

/-- **A text without line ends.** -/
def IsLine (s : String) : Prop := '\n' ∉ s.toList

instance : DecidablePred IsLine := fun s => inferInstanceAs (Decidable ('\n' ∉ s.toList))

theorem IsLine.append {s t : String} (hs : IsLine s) (ht : IsLine t) : IsLine (s ++ t) := by
  rw [IsLine, String.toList_append, List.mem_append, not_or]
  exact ⟨hs, ht⟩

theorem lines_nil : lines [] = "" := rfl

theorem lines_cons (s : String) (parts : List String) :
    lines (s :: parts) = s ++ "\n" ++ lines parts := by
  simp [lines]

theorem toList_lines (parts : List String) :
    (lines parts).toList = parts.flatMap fun s => s.toList ++ ['\n'] := by
  simp [lines, String.toList_join, List.flatMap_map]

theorem toList_lines_cons (s : String) (parts : List String) :
    (lines (s :: parts)).toList = s.toList ++ '\n' :: (lines parts).toList := by
  rw [toList_lines, toList_lines, List.flatMap_cons, List.append_assoc, List.singleton_append]

theorem lines_append (parts more : List String) :
    lines (parts ++ more) = lines parts ++ lines more := by
  rw [← String.toList_inj, String.toList_append, toList_lines, toList_lines, toList_lines,
    List.flatMap_append]

/-- What starts with a line end is looked for behind a line. -/
theorem splitFirst?_behind {part line : List Char} (hline : '\n' ∉ line) (cs : List Char) :
    Text.splitFirst? ('\n' :: part) (line ++ cs) =
      (Text.splitFirst? ('\n' :: part) cs).map fun found => (line ++ found.1, found.2) := by
  induction line with
  | nil => simp
  | cons c line ih =>
      rw [List.mem_cons, not_or] at hline
      have hc : ('\n' :: part).isPrefixOf (c :: (line ++ cs)) = false := by
        simp [List.isPrefixOf, hline.1]
      rw [List.cons_append, Text.splitFirst?, if_neg (by simp [hc]), ih hline.2, Option.map_map]
      rfl

/-- A line with its line ends begins in a text before a line end when it ends there as well. -/
theorem prefix_append_line_end {line before : List Char} {c : Char} (hline : '\n' ∉ line)
    (cs : List Char) (h : '\n' :: (line ++ ['\n']) <+: c :: (before ++ '\n' :: cs)) :
    '\n' :: (line ++ ['\n']) <+: c :: (before ++ ['\n']) := by
  have hfront : c :: (before ++ ['\n']) <+: c :: (before ++ '\n' :: cs) := ⟨cs, by simp⟩
  rcases List.prefix_or_prefix_of_prefix h hfront with hin | ⟨rest, hover⟩
  · exact hin
  · -- the line goes beyond the text, so its line end is the one behind the text
    obtain ⟨rfl, htail⟩ := List.cons.inj hover
    have htail : before ++ '\n' :: rest = line ++ ['\n'] := by simpa using htail
    rcases Text.split_at_first hline htail with ⟨rfl, -⟩ | ⟨s', -, hend⟩
    · exact List.prefix_rfl
    · exact absurd hend (by simp)

/-- **A line with its line ends** stands on one side of a line end. -/
theorem infix_append_line_end {line : List Char} (hline : '\n' ∉ line) (before cs : List Char) :
    '\n' :: (line ++ ['\n']) <:+: before ++ '\n' :: cs ↔
      '\n' :: (line ++ ['\n']) <:+: before ++ ['\n'] ∨
        '\n' :: (line ++ ['\n']) <:+: '\n' :: cs := by
  induction before with
  | nil =>
      refine ⟨.inr, fun h => h.resolve_left fun hend => ?_⟩
      exact absurd hend.length_le (by simp)
  | cons c before ih =>
      rw [List.cons_append, List.cons_append, List.infix_cons_iff, List.infix_cons_iff, ih, ← or_assoc]
      refine or_congr_left (or_congr_left ⟨prefix_append_line_end hline cs, fun h => ?_⟩)
      exact h.trans ⟨cs, by simp⟩

/-- A line with its line ends is looked for behind a text in which it does not stand. -/
theorem splitFirst?_append {line before : List Char} (hline : '\n' ∉ line)
    (hbefore : ¬ '\n' :: (line ++ ['\n']) <:+: before ++ ['\n']) (cs : List Char) :
    Text.splitFirst? ('\n' :: (line ++ ['\n'])) (before ++ '\n' :: cs) =
      (Text.splitFirst? ('\n' :: (line ++ ['\n'])) ('\n' :: cs)).map fun found =>
        (before ++ found.1, found.2) := by
  induction before with
  | nil => simp
  | cons c before ih =>
      rw [List.cons_append, List.infix_cons_iff, not_or] at hbefore
      obtain ⟨hstart, hbefore⟩ := hbefore
      have hnot : ¬ ('\n' :: (line ++ ['\n'])).isPrefixOf (c :: (before ++ '\n' :: cs)) = true := by
        rw [List.isPrefixOf_iff_prefix]
        exact fun h => hstart (prefix_append_line_end hline cs h)
      rw [List.cons_append, Text.splitFirst?, if_neg hnot, ih hbefore, Option.map_map]
      rfl

/-- Two lines that stand at one place are the same. -/
theorem eq_of_same_start {line other : String} (hline : IsLine line) (hother : IsLine other)
    {rest : List Char} (h : line.toList ++ ['\n'] <+: other.toList ++ '\n' :: rest) :
    line = other := by
  obtain ⟨t, h⟩ := h
  rw [List.append_assoc, List.singleton_append] at h
  rcases Text.split_at_first hother h with ⟨heq, -⟩ | ⟨s', hs, -⟩
  · exact String.toList_inj.1 heq
  · exact absurd (hs ▸ by simp) hline

/-- **The first occurrence of a line** is behind the lines before it. -/
theorem splitFirst?_lines (line : String) (hline : IsLine line) (after : List String) :
    ∀ (before : List String) (first : String), (∀ s ∈ first :: before, IsLine s) →
      line ∉ before → ∃ front,
        Text.splitFirst? ('\n' :: (line.toList ++ ['\n']))
          (lines (first :: (before ++ line :: after))).toList = some (front, (lines after).toList) ∧
        front ++ ['\n'] = (lines (first :: before)).toList
  | [], first, hlines, _ => by
      have hfirst : '\n' ∉ first.toList := hlines first List.mem_cons_self
      refine ⟨first.toList, ?_, toList_lines_cons first [] ▸ by simp [lines]⟩
      rw [List.nil_append, toList_lines_cons, toList_lines_cons, splitFirst?_behind hfirst,
        Text.splitFirst?, if_pos]
      · simp
      · rw [List.isPrefixOf_iff_prefix, List.prefix_cons_inj]
        exact ⟨(lines after).toList, by simp⟩
  | second :: before, first, hlines, hnew => by
      rw [List.mem_cons, not_or] at hnew
      obtain ⟨hfirst, hlines⟩ := List.forall_mem_cons.1 hlines
      obtain ⟨front, hfound, hfront⟩ := splitFirst?_lines line hline after before second hlines
        hnew.2
      refine ⟨first.toList ++ '\n' :: front, ?_, ?_⟩
      · have hsecond : ¬ ('\n' :: (line.toList ++ ['\n'])).isPrefixOf
            ('\n' :: (lines (second :: (before ++ line :: after))).toList) = true := by
          rw [List.isPrefixOf_iff_prefix, List.prefix_cons_inj, toList_lines_cons]
          exact fun h => hnew.1 (eq_of_same_start hline (hlines second List.mem_cons_self) h)
        rw [toList_lines_cons, splitFirst?_behind hfirst, List.cons_append, Text.splitFirst?,
          if_neg hsecond, hfound]
        rfl
      · rw [toList_lines_cons first, ← hfront, List.append_assoc, List.cons_append]

/-- **What occurs in a text of lines** occurs in a line, if it has no line ends. -/
theorem contains_lines {part : String} (hpart : IsLine part) (hne : part.toList ≠ [])
    (parts : List String) :
    Text.contains (lines parts) part = true ↔ ∃ s ∈ parts, Text.contains s part = true := by
  simp only [Text.contains, Text.occursIn_iff_infix]
  induction parts with
  | nil => simp [lines, hne]
  | cons s parts ih =>
      rw [toList_lines_cons, Text.infix_append_cons_iff hpart hne, ih]
      simp

/-- **A line with its line ends** stands in a text of lines when it stands in one of them with a line
end at each side. -/
theorem infix_lines_iff {line : List Char} (hline : '\n' ∉ line) (parts : List String) :
    '\n' :: (line ++ ['\n']) <:+: '\n' :: (lines parts).toList ↔
      ∃ s ∈ parts, '\n' :: (line ++ ['\n']) <:+: '\n' :: (s.toList ++ ['\n']) := by
  induction parts with
  | nil =>
      refine ⟨fun h => absurd h.length_le (by simp [lines]), ?_⟩
      rintro ⟨s, hs, -⟩
      exact absurd hs List.not_mem_nil
  | cons s parts ih =>
      have hsplit := infix_append_line_end hline ('\n' :: s.toList) (lines parts).toList
      rw [List.cons_append, List.cons_append] at hsplit
      rw [toList_lines_cons, hsplit, ih]
      simp only [List.mem_cons, exists_eq_or_imp]

/-- **A text of lines is split into its lines**, with nothing behind the last one. -/
theorem splitAtChars_lines {parts : List String} (h : ∀ s ∈ parts, IsLine s) :
    (Text.splitAtChars (· == '\n') (lines parts).toList).map String.ofList = parts ++ [""] := by
  induction parts with
  | nil => rfl
  | cons s parts ih =>
      obtain ⟨hs, hparts⟩ := List.forall_mem_cons.1 h
      have hline : ∀ c ∈ s.toList, (c == '\n') = false := fun c hc =>
        beq_eq_false_iff_ne.2 fun heq => hs (heq ▸ hc)
      rw [toList_lines_cons, Text.splitAtChars_append_cons (by rfl),
        Text.splitAtChars_of_forall hline, List.map_append, ih hparts, List.map_singleton,
        String.ofList_toList, List.singleton_append, List.cons_append]

end Shell

end ThemeCompiler
