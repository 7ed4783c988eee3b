/-
**Occurrences and pieces.**

A text occurs in another when it is an infix.  What a character separates is looked through part by
part, and cut into pieces part by part.  A name between apostrophes occurs in a text with two of them
when it is what stands between them.

Main definitions:

* `ThemeCompiler.Text.canBegin` — whether an occurrence can begin in a text, whatever follows.

Main results:

* `ThemeCompiler.Text.occursIn_iff_infix` — occurrences are infixes;
* `ThemeCompiler.Text.infix_append_cons_iff` — occurrences on both sides of a character;
* `ThemeCompiler.Text.infix_behind_iff`, `ThemeCompiler.Text.infix_before_iff` — occurrences beside a
  text in which none can begin or end;
* `ThemeCompiler.Text.quoted_infix_iff` — **a name between apostrophes**;
* `ThemeCompiler.Text.eq_of_splitFirst?`, `ThemeCompiler.Text.exists_splitFirst?` — the first
  occurrence;
* `ThemeCompiler.Text.splitAtChars_append_cons` — the pieces on both sides of a character;
* `ThemeCompiler.Text.infix_of_mem_splitAtChars` — where a piece stands.
-/

import ThemeCompiler.Text.Search

set_option relaxedAutoImplicit false
set_option autoImplicit false

namespace ThemeCompiler

namespace Text

/-! ### Occurrences -/

/-- **Occurrences are infixes.** -/
theorem occursIn_iff_infix (part cs : List Char) : occursIn part cs = true ↔ part <:+: cs := by
  induction cs with
  | nil => rw [occursIn, List.isEmpty_iff, List.infix_nil]
  | cons c cs ih =>
      rw [occursIn, Bool.or_eq_true, ih, List.isPrefixOf_iff_prefix, List.infix_cons_iff]

/-- What a character that occurs in no part of a text separates. -/
theorem infix_append_cons_iff {a : Char} {part : List Char} (hpart : a ∉ part) (hne : part ≠ [])
    (before after : List Char) :
    part <:+: before ++ a :: after ↔ part <:+: before ∨ part <:+: after := by
  constructor
  · intro h
    obtain ⟨s, t, h⟩ := h
    rw [List.append_assoc, List.append_eq_append_iff] at h
    rcases h with ⟨x, hbefore, hpt⟩ | ⟨x, rfl, hx⟩
    · -- the part starts before the character
      rcases List.append_eq_append_iff.1 hpt with ⟨y, rfl, -⟩ | ⟨y, rfl, hy⟩
      · exact .inl (hbefore ▸ ⟨s, y, by simp⟩)
      · cases y with
        | nil => exact .inl (hbefore ▸ ⟨s, [], by simp⟩)
        | cons b y =>
            obtain ⟨rfl, -⟩ := List.cons.inj hy
            exact absurd (by simp) hpart
    · -- it starts behind the first characters of the text
      cases x with
      | nil =>
          obtain ⟨b, part, rfl⟩ := List.exists_cons_of_ne_nil hne
          obtain ⟨rfl, -⟩ := List.cons.inj hx
          exact absurd List.mem_cons_self hpart
      | cons b x =>
          obtain ⟨-, rfl⟩ := List.cons.inj hx
          exact .inr ⟨x, t, by simp⟩
  · rintro (h | h)
    · exact h.trans (List.prefix_append before (a :: after)).isInfix
    · exact h.trans ((List.suffix_cons a after).trans (List.suffix_append before _)).isInfix

/-- **Whether an occurrence can begin in a text**, whatever follows it. -/
def canBegin (part : List Char) : List Char → Bool
  | [] => false
  | c :: cs => part.isPrefixOf (c :: cs) || (c :: cs).isPrefixOf part || canBegin part cs

/-- **Occurrences behind a text** in which none can begin. -/
theorem infix_behind_iff {part before : List Char} (h : canBegin part before = false)
    (after : List Char) : part <:+: before ++ after ↔ part <:+: after := by
  induction before with
  | nil => rw [List.nil_append]
  | cons c before ih =>
      rw [canBegin, Bool.or_eq_false_iff, Bool.or_eq_false_iff] at h
      obtain ⟨⟨hpart, hrest⟩, hbefore⟩ := h
      rw [List.cons_append, List.infix_cons_iff, ih hbefore, or_iff_right]
      intro hstart
      rcases List.prefix_or_prefix_of_prefix hstart
        (List.prefix_append (c :: before) after) with hin | hover
      · exact absurd (List.isPrefixOf_iff_prefix.2 hin) (by simp [hpart])
      · exact absurd (List.isPrefixOf_iff_prefix.2 hover) (by simp [hrest])

/-- **Occurrences before a text** in which none can end. -/
theorem infix_before_iff {part after : List Char}
    (h : canBegin part.reverse after.reverse = false) (before : List Char) :
    part <:+: before ++ after ↔ part <:+: before := by
  rw [← List.reverse_infix, List.reverse_append, infix_behind_iff h, List.reverse_infix]

/-- The first occurrence of a character splits a text in one way. -/
theorem split_at_first {a : Char} {x y s p : List Char} (hx : a ∉ x)
    (h : s ++ a :: p = x ++ a :: y) :
    (s = x ∧ p = y) ∨ ∃ s', s = x ++ a :: s' ∧ y = s' ++ a :: p := by
  induction x generalizing s with
  | nil =>
      cases s with
      | nil => exact .inl ⟨rfl, (List.cons.inj h).2⟩
      | cons b s =>
          obtain ⟨rfl, rfl⟩ := List.cons.inj h
          exact .inr ⟨s, rfl, rfl⟩
  | cons c x ih =>
      rw [List.mem_cons, not_or] at hx
      cases s with
      | nil => exact absurd (List.cons.inj h).1 hx.1
      | cons b s =>
          obtain ⟨rfl, htail⟩ := List.cons.inj h
          rcases ih hx.2 htail with ⟨rfl, rfl⟩ | ⟨s', rfl, rfl⟩
          · exact .inl ⟨rfl, rfl⟩
          · exact .inr ⟨s', rfl, rfl⟩

/-- A name between apostrophes. -/
def inQuotes (name : List Char) : List Char := '\'' :: (name ++ ['\''])

/-- **A name between apostrophes** occurs in a text with two of them when it stands there. -/
theorem quoted_infix_iff {before name after other : List Char} (hbefore : '\'' ∉ before)
    (hname : '\'' ∉ name) (hafter : '\'' ∉ after) :
    inQuotes other <:+: before ++ (inQuotes name ++ after) ↔ other = name := by
  constructor
  · rintro ⟨s, t, h⟩
    have h : s ++ '\'' :: (other ++ '\'' :: t) = before ++ '\'' :: (name ++ '\'' :: after) := by
      simpa [inQuotes] using h
    rcases split_at_first hbefore h with ⟨-, hnames⟩ | ⟨s', -, hbehind⟩
    · rcases split_at_first hname hnames with ⟨rfl, -⟩ | ⟨s', rfl, rfl⟩
      · rfl
      · exact absurd (by simp) hafter
    · rcases split_at_first hname hbehind.symm with ⟨-, rfl⟩ | ⟨s'', -, rfl⟩
      · exact absurd (by simp) hafter
      · exact absurd (by simp) hafter
  · rintro rfl
    exact ⟨before, after, by simp⟩

/-! ### The first occurrence -/

/-- **What is found** stands between the parts. -/
theorem eq_of_splitFirst? {part cs before after : List Char}
    (h : splitFirst? part cs = some (before, after)) : cs = before ++ (part ++ after) := by
  induction cs generalizing before with
  | nil =>
      rw [splitFirst?] at h
      split at h
      · next hpart =>
          obtain ⟨rfl, rfl⟩ := Prod.mk.inj (Option.some.inj h)
          rw [List.isEmpty_iff.1 hpart]
          rfl
      · exact absurd h (by simp)
  | cons c cs ih =>
      rw [splitFirst?] at h
      split at h
      · next hpart =>
          obtain ⟨rfl, rfl⟩ := Prod.mk.inj (Option.some.inj h)
          obtain ⟨rest, hrest⟩ := List.isPrefixOf_iff_prefix.1 hpart
          rw [← hrest, List.drop_left]
          rfl
      · obtain ⟨⟨first, rest⟩, hfound, hparts⟩ := Option.map_eq_some_iff.1 h
        obtain ⟨rfl, rfl⟩ := Prod.mk.inj hparts
        rw [ih hfound]
        rfl

/-- **What occurs is found.** -/
theorem exists_splitFirst? {part cs : List Char} (h : part <:+: cs) :
    ∃ before after, splitFirst? part cs = some (before, after) := by
  induction cs with
  | nil => exact ⟨[], [], by rw [splitFirst?, List.infix_nil.1 h]; rfl⟩
  | cons c cs ih =>
      rw [splitFirst?]
      split
      · exact ⟨_, _, rfl⟩
      · next hpart =>
          rw [List.isPrefixOf_iff_prefix] at hpart
          obtain ⟨before, after, hfound⟩ := ih ((List.infix_cons_iff.1 h).resolve_left hpart)
          exact ⟨c :: before, after, by rw [hfound]; rfl⟩

/-- Nothing is found before the first occurrence, also with the beginning of this one. -/
theorem not_infix_of_splitFirst? {a : Char} {part cs before after : List Char} (hpart : part ≠ [])
    (h : splitFirst? (a :: part) cs = some (before, after)) : ¬ a :: part <:+: before ++ [a] := by
  induction cs generalizing before with
  | nil => exact absurd h (by simp [splitFirst?])
  | cons c cs ih =>
      have hcs := eq_of_splitFirst? h
      rw [splitFirst?] at h
      split at h
      · obtain ⟨rfl, rfl⟩ := Prod.mk.inj (Option.some.inj h)
        intro hinfix
        obtain ⟨b, part, rfl⟩ := List.exists_cons_of_ne_nil hpart
        exact absurd hinfix.length_le (by simp)
      · next hnot =>
          obtain ⟨⟨first, rest⟩, hfound, hparts⟩ := Option.map_eq_some_iff.1 h
          obtain ⟨rfl, rfl⟩ := Prod.mk.inj hparts
          rw [List.cons_append, List.infix_cons_iff, not_or]
          refine ⟨fun hprefix => hnot ?_, ih hfound⟩
          rw [List.isPrefixOf_iff_prefix, hcs]
          refine hprefix.trans ⟨part ++ rest, ?_⟩
          simp

/-! ### Pieces -/

theorem splitAtChars_ne_nil (p : Char → Bool) (cs : List Char) : splitAtChars p cs ≠ [] := by
  fun_cases splitAtChars p cs <;> simp

/-- **The pieces on both sides of a character** that separates them. -/
theorem splitAtChars_append_cons {p : Char → Bool} {a : Char} (ha : p a = true)
    (before after : List Char) :
    splitAtChars p (before ++ a :: after) = splitAtChars p before ++ splitAtChars p after := by
  induction before with
  | nil => simp [splitAtChars, ha]
  | cons c before ih =>
      rw [List.cons_append, splitAtChars, splitAtChars, ih]
      split
      · rfl
      · obtain ⟨piece, pieces, hpieces⟩ :=
          List.exists_cons_of_ne_nil (splitAtChars_ne_nil p before)
        rw [hpieces]
        rfl

/-- No piece holds a character that separates. -/
theorem eq_false_of_mem_splitAtChars {p : Char → Bool} {cs piece : List Char}
    (h : piece ∈ splitAtChars p cs) : ∀ c ∈ piece, p c = false := by
  induction cs generalizing piece with
  | nil =>
      rw [splitAtChars, List.mem_singleton] at h
      simp [h]
  | cons c cs ih =>
      rw [splitAtChars] at h
      split at h
      · rcases List.mem_cons.1 h with rfl | h
        · simp
        · exact ih h
      · next hc =>
          obtain ⟨first, pieces, hpieces⟩ :=
            List.exists_cons_of_ne_nil (splitAtChars_ne_nil p cs)
          rw [hpieces] at h ih
          rcases List.mem_cons.1 h with rfl | h
          · exact List.forall_mem_cons.2 ⟨by simpa using hc, ih List.mem_cons_self⟩
          · exact ih (List.mem_cons_of_mem first h)

/-- The pieces are made of characters of the text. -/
theorem mem_of_mem_splitAtChars {p : Char → Bool} {cs piece : List Char}
    (h : piece ∈ splitAtChars p cs) : ∀ c ∈ piece, c ∈ cs := by
  induction cs generalizing piece with
  | nil =>
      rw [splitAtChars, List.mem_singleton] at h
      simp [h]
  | cons c cs ih =>
      have hlater : ∀ piece ∈ splitAtChars p cs, ∀ a ∈ piece, a ∈ c :: cs := fun piece hp a ha =>
        List.mem_cons_of_mem c (ih hp a ha)
      rw [splitAtChars] at h
      split at h
      · rcases List.mem_cons.1 h with rfl | h
        · simp
        · exact hlater piece h
      · obtain ⟨first, pieces, hpieces⟩ :=
          List.exists_cons_of_ne_nil (splitAtChars_ne_nil p cs)
        rw [hpieces] at h hlater
        rcases List.mem_cons.1 h with rfl | h
        · exact List.forall_mem_cons.2 ⟨List.mem_cons_self, hlater first List.mem_cons_self⟩
        · exact hlater piece (List.mem_cons_of_mem first h)

/-- Where the pieces stand, with one more separating character at the end: the first piece at the
beginning, the others behind a separating character. -/
theorem splitAtChars_cons_stand {a : Char} {cs first : List Char} {pieces : List (List Char)}
    (h : splitAtChars (· == a) cs = first :: pieces) :
    first ++ [a] <+: cs ++ [a] ∧ ∀ piece ∈ pieces, a :: (piece ++ [a]) <:+: cs ++ [a] := by
  induction cs generalizing first pieces with
  | nil =>
      obtain ⟨rfl, rfl⟩ := List.cons.inj h
      exact ⟨List.prefix_rfl, by simp⟩
  | cons c cs ih =>
      obtain ⟨next, more, hmore⟩ := List.exists_cons_of_ne_nil (splitAtChars_ne_nil (· == a) cs)
      obtain ⟨hnext, hothers⟩ := ih hmore
      have hlater : ∀ piece ∈ more, a :: (piece ++ [a]) <:+: c :: cs ++ [a] := fun piece hp =>
        (hothers piece hp).trans (List.suffix_cons c _).isInfix
      rw [splitAtChars, hmore] at h
      split at h
      · next hc =>
          obtain rfl := beq_iff_eq.1 hc
          obtain ⟨rfl, rfl⟩ := List.cons.inj h
          refine ⟨⟨cs ++ [c], rfl⟩, List.forall_mem_cons.2 ⟨?_, hlater⟩⟩
          exact ((List.cons_prefix_cons.2 ⟨rfl, hnext⟩ : c :: (next ++ [c]) <+: _)).isInfix
      · obtain ⟨rfl, rfl⟩ := List.cons.inj h
        exact ⟨List.cons_prefix_cons.2 ⟨rfl, hnext⟩, hlater⟩

/-- **A piece stands between two separating characters**, with one more of them at each end. -/
theorem infix_of_mem_splitAtChars {a : Char} {cs piece : List Char}
    (h : piece ∈ splitAtChars (· == a) cs) : a :: (piece ++ [a]) <:+: a :: (cs ++ [a]) := by
  obtain ⟨first, pieces, hpieces⟩ := List.exists_cons_of_ne_nil (splitAtChars_ne_nil (· == a) cs)
  obtain ⟨hfirst, hothers⟩ := splitAtChars_cons_stand hpieces
  rw [hpieces] at h
  rcases List.mem_cons.1 h with rfl | h
  · exact (List.cons_prefix_cons.2 ⟨rfl, hfirst⟩).isInfix
  · exact (hothers piece h).trans (List.suffix_cons a _).isInfix

/-- A text without such characters is one piece. -/
theorem splitAtChars_of_forall {p : Char → Bool} {cs : List Char} (h : ∀ c ∈ cs, p c = false) :
    splitAtChars p cs = [cs] := by
  induction cs with
  | nil => rfl
  | cons c cs ih =>
      obtain ⟨hc, hcs⟩ := List.forall_mem_cons.1 h
      rw [splitAtChars, if_neg (by simp [hc]), ih hcs]

end Text

end ThemeCompiler
