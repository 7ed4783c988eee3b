/-
**Comments and literals of code.**

Free text gets into code in two places: between apostrophes, and in a comment.  A literal ends at
the first apostrophe without a backslash before it, and a backslash takes its meaning from an
apostrophe or another backslash only; a comment ends at the first place where its end stands,
whatever is meant.  So a text without the two characters denotes itself as a literal, and a comment
is as long as it should be exactly if its end does not stand in it.

Main definitions:

* `ThemeCompiler.Text.readQuoted` — the literal that a text begins with, and what follows it;
* `ThemeCompiler.Text.readComment` — the comment that a text begins with, and what follows it.

Main results:

* `ThemeCompiler.Text.readQuoted_append` — **a text without the two characters denotes itself**;
* `ThemeCompiler.Text.readComment_append_iff` — **where a comment ends**.
-/

import ThemeCompiler.Proofs.Text.Search

set_option relaxedAutoImplicit false
set_option autoImplicit false

namespace ThemeCompiler

namespace Text

/-! ### Literals -/

/-- **The literal that a text begins with**, behind the apostrophe that opens it: the characters
that it denotes, and what follows the apostrophe that closes it. -/
def readQuoted : List Char → Option (List Char × List Char)
  | [] => none
  | '\'' :: rest => some ([], rest)
  | '\\' :: '\'' :: rest => (readQuoted rest).map fun r => ('\'' :: r.1, r.2)
  | '\\' :: '\\' :: rest => (readQuoted rest).map fun r => ('\\' :: r.1, r.2)
  | c :: rest => (readQuoted rest).map fun r => (c :: r.1, r.2)

/-- A character without a meaning of its own is read as it stands. -/
theorem readQuoted_cons {c : Char} (hquote : c ≠ '\'') (hslash : c ≠ '\\') (rest : List Char) :
    readQuoted (c :: rest) = (readQuoted rest).map fun r => (c :: r.1, r.2) := by
  rw [readQuoted]
  · exact hquote
  · exact fun _ h _ => hslash h
  · exact fun _ h _ => hslash h

/-- **A text without apostrophe and backslash denotes itself**, and its literal ends behind it. -/
theorem readQuoted_append {cs : List Char} (hquote : '\'' ∉ cs) (hslash : '\\' ∉ cs)
    (rest : List Char) : readQuoted (cs ++ '\'' :: rest) = some (cs, rest) := by
  induction cs with
  | nil => rw [List.nil_append, readQuoted]
  | cons c cs ih =>
      rw [List.mem_cons, not_or] at hquote hslash
      rw [List.cons_append, readQuoted_cons (Ne.symm hquote.1) (Ne.symm hslash.1),
        ih hquote.2 hslash.2]
      rfl

-- A backslash at the end takes the closing apostrophe into the literal.
example : readQuoted "a\\'); b('c'".toList = some ("a'); b(".toList, "c'".toList) := by decide

/-! ### Comments -/

/-- **The comment that a text begins with**, without its two ends, and what follows it. -/
def readComment (cs : List Char) : Option (List Char × List Char) :=
  if ['/', '*'].isPrefixOf cs then splitFirst? ['*', '/'] (cs.drop 2) else none

/-- An occurrence is the first one when no earlier one begins before it. -/
theorem splitFirst?_append {part before : List Char} (h : ¬ part <:+: before ++ part.dropLast)
    (after : List Char) : splitFirst? part (before ++ (part ++ after)) = some (before, after) := by
  have hne : part ≠ [] := fun hnil => h (hnil ▸ List.nil_infix)
  induction before with
  | nil =>
      obtain ⟨c, part, rfl⟩ := List.exists_cons_of_ne_nil hne
      rw [List.nil_append, List.cons_append, splitFirst?, if_pos (by simp), ← List.cons_append,
        List.drop_left]
  | cons c before ih =>
      rw [List.cons_append, List.infix_cons_iff, not_or] at h
      have hfront : c :: (before ++ part.dropLast) <+: c :: (before ++ (part ++ after)) := by
        refine List.cons_prefix_cons.2 ⟨rfl, (List.prefix_append_right_inj before).2 ?_⟩
        exact (List.dropLast_prefix part).trans (List.prefix_append part after)
      -- an occurrence at the beginning would lie before this one
      have hnot : ¬ part <+: c :: (before ++ (part ++ after)) := fun hpart =>
        h.1 (List.prefix_of_prefix_length_le hpart hfront (by simp; omega))
      rw [List.cons_append, splitFirst?, if_neg (by rwa [List.isPrefixOf_iff_prefix]), ih h.2]
      rfl

/-- **Where a comment ends**: at the end that is meant, exactly if no other one stands before it. -/
theorem readComment_append_iff (cs after : List Char) :
    readComment ('/' :: '*' :: (cs ++ ('*' :: '/' :: after))) = some (cs, after) ↔
      ¬ ['*', '/'] <:+: cs := by
  have hread : readComment ('/' :: '*' :: (cs ++ ('*' :: '/' :: after))) =
      splitFirst? ['*', '/'] (cs ++ (['*', '/'] ++ after)) := rfl
  rw [hread]
  constructor
  · intro h hin
    exact not_infix_of_splitFirst? (by simp) h (hin.trans (List.prefix_append cs _).isInfix)
  · intro h
    refine splitFirst?_append (fun hin => ?_) after
    -- the end does not end with the character by which it begins
    rcases List.infix_concat_iff.1 hin with ⟨before, hbefore⟩ | hin
    · have hlast := congrArg List.getLast? hbefore
      simp at hlast
    · exact h hin

end Text

end ThemeCompiler
