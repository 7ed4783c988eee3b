/-
**Names that are made again.**

A name is made of a text more than once: the command line makes a file name of the slug that it is
given, and the place of the template makes one of it again.  That does no harm, because what is made
has a normal form which the second time leaves alone.

In a snake case no two underscores stand side by side.  The one that stands for other characters is
not written after another one, and the one that begins a capitalised word is written after a letter.
Trimming takes underscores from the ends only, so the letters and digits of the text are all there,
and a text of this form has nothing to be changed.  A file name is made of a text in lower case,
where the mapping of Unicode leaves no capital of ASCII, whatever the text is.

Main definitions:

* `ThemeCompiler.Naming.IsSnake` — **words of small letters and digits, joined by single
  underscores**;
* `ThemeCompiler.Naming.Tidy` — the same, seen on the characters;
* `ThemeCompiler.Naming.isFileChar` — the characters of file names.

Main results:

* `ThemeCompiler.Naming.tidy_iff` — the two views agree;
* `ThemeCompiler.Naming.tidy_snakeCase`, `ThemeCompiler.Naming.snakeCase_of_tidy` — what is made is
  tidy, and what is tidy is left alone;
* `ThemeCompiler.Naming.isFileChar_of_mem_fileSlug`, `ThemeCompiler.Naming.fileSlug_of_chars` — the
  same for file names;
* `ThemeCompiler.Naming.normal_forms` — **both kinds of names**, and the file of a template that the
  command line asks for.
-/

import ThemeCompiler.Command.Run
import ThemeCompiler.Proofs.Naming
import ThemeCompiler.Proofs.Text.Removal

set_option relaxedAutoImplicit false
set_option autoImplicit false

namespace ThemeCompiler

namespace Naming

/-! ### Words joined by underscores -/

/-- **A word**: small letters and digits, at least one. -/
structure IsWord (w : String) : Prop where
  ne_empty : w ≠ ""
  chars : ∀ c ∈ w.toList, isWordChar c = true

/-- **Words joined by single underscores**; without a word the text is empty. -/
def IsSnake (s : String) : Prop :=
  ∃ words : List String, (∀ w ∈ words, IsWord w) ∧ s = "_".intercalate words

/-- At most one of two characters that stand side by side is an underscore. -/
def NotBoth (a b : Char) : Prop := a ≠ '_' ∨ b ≠ '_'

/-- **The characters of words joined by single underscores.** -/
structure Tidy (cs : List Char) : Prop where
  chars : ∀ c ∈ cs, isSlugChar c = true
  single : cs.IsChain NotBoth
  head : cs.head? ≠ some '_'
  last : cs.getLast? ≠ some '_'

theorem ne_underscore {c : Char} (h : isWordChar c = true) : c ≠ '_' := by
  rintro rfl
  exact absurd h (by decide)

/-- The first character of a tidy text belongs to a word, and a tidy text follows it, perhaps behind
an underscore. -/
theorem Tidy.cases_cons {c : Char} {cs : List Char} (h : Tidy (c :: cs)) : isWordChar c = true ∧
    (cs = [] ∨ (cs ≠ [] ∧ Tidy cs) ∨ ∃ rest, cs = '_' :: rest ∧ rest ≠ [] ∧ Tidy rest) := by
  obtain ⟨hc, hcs⟩ := List.forall_mem_cons.1 h.chars
  obtain ⟨-, hsingle⟩ := List.isChain_cons.1 h.single
  have hword : isWordChar c = true :=
    (isSlugChar_iff.1 hc).resolve_right fun heq => h.head (by rw [heq, List.head?_cons])
  refine ⟨hword, ?_⟩
  cases cs with
  | nil => exact Or.inl rfl
  | cons d rest =>
      have hlast := h.last
      rw [List.getLast?_cons_cons] at hlast
      by_cases hd : d = '_'
      · -- behind an underscore there is a character, which is none
        subst hd
        obtain ⟨hnext, hsingle'⟩ := List.isChain_cons.1 hsingle
        have hne : rest ≠ [] := by
          rintro rfl
          exact hlast rfl
        refine Or.inr (Or.inr ⟨rest, rfl, hne, ?_⟩)
        refine ⟨(List.forall_mem_cons.1 hcs).2, hsingle', fun hhead => ?_, ?_⟩
        · exact (hnext '_' hhead).elim (absurd rfl) (absurd rfl)
        · rwa [List.getLast?_cons_of_ne_nil hne] at hlast
      · exact Or.inr (Or.inl ⟨by simp, hcs, hsingle, by simpa using hd, hlast⟩)

/-- A tidy text that is not empty is made of words. -/
theorem Tidy.exists_words {cs : List Char} (h : Tidy cs) (hne : cs ≠ []) :
    ∃ word words, (∀ w ∈ word :: words, w ≠ [] ∧ ∀ c ∈ w, isWordChar c = true) ∧
      cs = ['_'].intercalate (word :: words) := by
  -- by the number of characters, since an underscore is read together with the character before it
  induction hn : cs.length using Nat.strong_induction_on generalizing cs with
  | _ n ih =>
      obtain ⟨c, cs, rfl⟩ := List.exists_cons_of_ne_nil hne
      rw [List.length_cons] at hn
      obtain ⟨hc, rfl | ⟨hne', hcs⟩ | ⟨rest, rfl, hne', hrest⟩⟩ := h.cases_cons
      · exact ⟨[c], [], by simpa using hc, by simp [List.intercalate]⟩
      · obtain ⟨word, words, hwords, heq⟩ := ih cs.length (by omega) hcs hne' rfl
        rw [List.forall_mem_cons] at hwords
        refine ⟨c :: word, words, List.forall_mem_cons.2 ⟨⟨by simp, ?_⟩, hwords.2⟩, ?_⟩
        · exact List.forall_mem_cons.2 ⟨hc, hwords.1.2⟩
        · rw [heq]
          cases words <;> simp [List.intercalate]
      · obtain ⟨word, words, hwords, heq⟩ := ih rest.length (by simp at hn; omega) hrest hne' rfl
        have hc' : [c] ≠ [] ∧ ∀ d ∈ [c], isWordChar d = true := ⟨by simp, by simpa using hc⟩
        refine ⟨[c], word :: words, List.forall_mem_cons.2 ⟨hc', hwords⟩, ?_⟩
        rw [heq]
        simp [List.intercalate]

/-- The characters of a word are tidy. -/
theorem tidy_of_word {w : List Char} (h : ∀ c ∈ w, isWordChar c = true) : Tidy w where
  chars c hc := isSlugChar_iff.2 (Or.inl (h c hc))
  single := by
    refine List.Pairwise.isChain (List.pairwise_of_forall_mem_list fun a ha b _ => ?_)
    exact Or.inl (ne_underscore (h a ha))
  head hhead := ne_underscore (h _ (List.mem_of_mem_head? hhead)) rfl
  last hlast := ne_underscore (h _ (List.mem_of_getLast? hlast)) rfl

/-- Two tidy texts joined by an underscore are tidy. -/
theorem Tidy.join {cs ds : List Char} (hcs : Tidy cs) (hds : Tidy ds) (hne : cs ≠ [])
    (hne' : ds ≠ []) : Tidy (cs ++ '_' :: ds) where
  chars := List.forall_mem_append.2 ⟨hcs.chars, List.forall_mem_cons.2 ⟨by decide, hds.chars⟩⟩
  single := by
    refine List.isChain_append.2 ⟨hcs.single, List.isChain_cons.2 ⟨fun y hy => ?_, hds.single⟩, ?_⟩
    · exact Or.inr fun heq => hds.head (heq ▸ hy)
    · exact fun x hx _ _ => Or.inl fun heq => hcs.last (heq ▸ hx)
  head := by
    rw [List.head?_append_of_ne_nil _ hne]
    exact hcs.head
  last := by
    rw [List.getLast?_append_of_ne_nil _ (by simp), List.getLast?_cons_of_ne_nil hne']
    exact hds.last

theorem tidy_intercalate {words : List (List Char)}
    (h : ∀ w ∈ words, w ≠ [] ∧ ∀ c ∈ w, isWordChar c = true) : Tidy (['_'].intercalate words) := by
  have hall : Tidy (['_'].intercalate words) ∧ (words ≠ [] → ['_'].intercalate words ≠ []) := by
    induction words with
    | nil => exact ⟨tidy_of_word nofun, absurd rfl⟩
    | cons word rest ih =>
        obtain ⟨⟨hne, hword⟩, hrest⟩ := List.forall_mem_cons.1 h
        obtain ⟨htidy, hnot⟩ := ih hrest
        cases rest with
        | nil =>
            rw [List.intercalate_singleton]
            exact ⟨tidy_of_word hword, fun _ => hne⟩
        | cons second others =>
            have heq : ['_'].intercalate (word :: second :: others) =
                word ++ '_' :: ['_'].intercalate (second :: others) := by
              simp [List.intercalate]
            rw [heq]
            exact ⟨(tidy_of_word hword).join htidy hne (hnot (by simp)), fun _ => by simp [hne]⟩
  exact hall.1

/-- **Tidy characters are those of words joined by single underscores.** -/
theorem tidy_iff {s : String} : Tidy s.toList ↔ IsSnake s := by
  constructor
  · intro h
    by_cases hne : s.toList = []
    · exact ⟨[], nofun, by rw [String.intercalate_nil]; exact String.toList_eq_nil_iff.1 hne⟩
    · obtain ⟨word, words, hwords, heq⟩ := h.exists_words hne
      refine ⟨(word :: words).map String.ofList, ?_, String.toList_inj.1 ?_⟩
      · intro w hw
        obtain ⟨cs, hcs, rfl⟩ := List.mem_map.1 hw
        obtain ⟨hnil, hchars⟩ := hwords cs hcs
        exact ⟨by simpa using hnil, by simpa using hchars⟩
      · rw [heq, String.toList_intercalate]
        simp [Function.comp_def]
  · rintro ⟨words, hwords, rfl⟩
    rw [String.toList_intercalate]
    refine tidy_intercalate fun cs hcs => ?_
    obtain ⟨w, hw, rfl⟩ := List.mem_map.1 hcs
    exact ⟨mt String.toList_eq_nil_iff.1 (hwords w hw).ne_empty, (hwords w hw).chars⟩

/-! ### Snake case -/

/-- **No two underscores are written side by side**, none after a gap. -/
theorem isChain_snakeFrom (prev : Option Char) (gap : Bool) (cs : List Char)
    (hgap : gap = true → prev.any Char.isLower = false) :
    (snakeFrom prev gap cs).IsChain NotBoth ∧
      (gap = true → (snakeFrom prev gap cs).head? ≠ some '_') := by
  induction cs generalizing prev gap with
  | nil =>
      rw [snakeFrom]
      exact ⟨.nil, fun _ => by simp⟩
  | cons c cs ih =>
      rw [snakeFrom]
      split
      · next hc =>
          have hword := ne_underscore (isWordChar_toLower hc)
          have hrest := (ih (some c) false (absurd · Bool.false_ne_true)).1
          have hown : (c.toLower :: snakeFrom (some c) false cs).IsChain NotBoth :=
            List.isChain_cons.2 ⟨fun _ _ => Or.inl hword, hrest⟩
          split
          · next hhump =>
              -- a hump stands after a small letter, so not after a gap
              refine ⟨List.isChain_cons.2 ⟨fun y hy => Or.inr ?_, hown⟩, fun h => ?_⟩
              · obtain rfl : c.toLower = y := Option.some.inj hy
                exact hword
              · rw [isHump, hgap h] at hhump
                exact absurd hhump (by simp)
          · exact ⟨hown, fun _ => by simpa using hword⟩
      · next hc =>
          have hlower : (some c).any Char.isLower = false := by
            simp only [Char.isAlphanum, Char.isAlpha, Bool.or_eq_true, not_or] at hc
            simpa using hc.1.2
          obtain ⟨hchain, hhead⟩ := ih (some c) true fun _ => hlower
          split
          · exact ⟨hchain, fun _ => hhead rfl⟩
          · next hno =>
              refine ⟨List.isChain_cons.2 ⟨fun y hy => Or.inr fun heq => ?_, hchain⟩,
                fun h => absurd h hno⟩
              exact hhead rfl (heq ▸ hy)

/-- **The snake case of a text is tidy.** -/
theorem tidy_snakeCase (s : String) : Tidy (snakeCase s).toList := by
  rw [snakeCase, String.toList_ofList]
  obtain ⟨before, after, heq, -, -⟩ :=
    Text.exists_trimWith (· == '_') (snakeFrom none false s.toList)
  have hpart : Text.trimWith (· == '_') (snakeFrom none false s.toList) <:+:
      snakeFrom none false s.toList := ⟨before, after, by rw [List.append_assoc]; exact heq.symm⟩
  have hchain := (isChain_snakeFrom none false s.toList nofun).1
  refine ⟨fun c hc => ?_, hchain.infix hpart, fun h => ?_, fun h => ?_⟩
  · exact isSlugChar_of_mem_snakeFrom _ _ _ c (hpart.subset hc)
  · exact absurd (Text.head?_trimWith h) (by decide)
  · exact absurd (Text.getLast?_trimWith h) (by decide)

/-- The characters of a word are letters and digits in lower case. -/
theorem isWordChar_iff {c : Char} :
    isWordChar c = true ↔ c.isAlphanum = true ∧ c.isUpper = false ∧ c.toLower = c := by
  simp only [Char.isAlphanum, Char.isAlpha, Char.isUpper, Char.isLower, Char.isDigit, Char.toLower,
    isWordChar, Bool.or_eq_true, Bool.and_eq_true, decide_eq_true_eq]
  grind

/-- **Without two underscores side by side nothing is changed.** -/
theorem snakeFrom_eq_self (prev : Option Char) (gap : Bool) {cs : List Char}
    (hchars : ∀ c ∈ cs, isSlugChar c = true) (hsingle : cs.IsChain NotBoth)
    (hgap : gap = true → cs.head? ≠ some '_') : snakeFrom prev gap cs = cs := by
  induction cs generalizing prev gap with
  | nil => rfl
  | cons c cs ih =>
      obtain ⟨hc, hcs⟩ := List.forall_mem_cons.1 hchars
      obtain ⟨hnext, hrest⟩ := List.isChain_cons.1 hsingle
      rw [snakeFrom]
      rcases isSlugChar_iff.1 hc with hword | rfl
      · obtain ⟨halnum, hupper, hlower⟩ := isWordChar_iff.1 hword
        rw [if_pos halnum, isHump, hupper, Bool.and_false, if_neg (by simp), hlower,
          ih (some c) false hcs hrest (absurd · Bool.false_ne_true)]
        rfl
      · have hno : gap = false := Bool.eq_false_iff.2 fun h => hgap h rfl
        rw [if_neg (by decide), hno, if_neg (by simp),
          ih (some '_') true hcs hrest fun _ hhead => ?_]
        · rfl
        · exact (hnext '_' hhead).elim (absurd rfl) (absurd rfl)

/-- **What is tidy is left alone.** -/
theorem snakeCase_of_tidy {s : String} (h : Tidy s.toList) : snakeCase s = s := by
  have hends : ∀ {cs : List Char}, cs.head? ≠ some '_' → cs.dropWhile (· == '_') = cs := by
    intro cs hhead
    cases cs with
    | nil => rfl
    | cons c cs => exact List.dropWhile_cons_of_neg (by simpa using hhead)
  rw [snakeCase, snakeFrom_eq_self none false h.chars h.single nofun, Text.trimWith, hends h.head,
    hends (by rw [List.head?_reverse]; exact h.last), List.reverse_reverse, String.ofList_toList]

/-- **The letters and digits of a text stay in order.** -/
theorem filter_snakeFrom (prev : Option Char) (gap : Bool) (cs : List Char) :
    (snakeFrom prev gap cs).filter (· != '_') = (cs.filter Char.isAlphanum).map Char.toLower := by
  induction cs generalizing prev gap with
  | nil => rfl
  | cons c cs ih =>
      rw [snakeFrom]
      by_cases hc : c.isAlphanum = true
      · have hword : (c.toLower != '_') = true :=
          bne_iff_ne.2 (ne_underscore (isWordChar_toLower hc))
        rw [if_pos hc, List.filter_append, ih, List.filter_cons_of_pos hc, List.map_cons]
        cases isHump prev c <;> simp [hword]
      · rw [if_neg hc, List.filter_append, ih, List.filter_cons_of_neg hc]
        cases gap <;> simp

theorem filter_snakeCase (s : String) : (snakeCase s).toList.filter (· != '_') =
    (s.toList.filter Char.isAlphanum).map Char.toLower := by
  obtain ⟨before, after, heq, hbefore, hafter⟩ :=
    Text.exists_trimWith (· == '_') (snakeFrom none false s.toList)
  have hnone : ∀ {cs : List Char}, (∀ c ∈ cs, (c == '_') = true) → cs.filter (· != '_') = [] := by
    intro cs hcs
    exact List.filter_eq_nil_iff.2 fun c hc => by simpa using hcs c hc
  rw [snakeCase, String.toList_ofList, ← filter_snakeFrom none false s.toList]
  conv_rhs => rw [heq]
  rw [List.filter_append, List.filter_append, hnone hbefore, hnone hafter, List.nil_append,
    List.append_nil]

/-! ### File names -/

/-- The characters of file names: small letters, digits and hyphens. -/
def isFileChar (c : Char) : Bool := isWordChar c || c == '-'

theorem isUpper_eq_false_iff {c : Char} : c.isUpper = false ↔ c.toNat < 65 ∨ 90 < c.toNat := by
  simp only [Char.isUpper, UInt32.le_iff_toNat_le, ge_iff_le, decide_eq_false_iff_not]
  change ¬ (65 ≤ c.toNat ∧ c.toNat ≤ 90) ↔ _
  omega

theorem isUpper_toLower (c : Char) : c.toLower.isUpper = false := by
  simp only [Char.isUpper, Char.toLower, decide_eq_false_iff_not]
  grind

/-- No partner in lower case is a capital of ASCII. -/
theorem large_of_mem_lowerRuns :
    ∀ r ∈ Text.lowerRuns, 90 < (r.first : Int) + r.distance := by
  decide +kernel

theorem isUpper_partnerIn {c : Char} (hc : 128 ≤ c.toNat) :
    (Text.partnerIn Text.lowerRuns c).isUpper = false := by
  rw [Text.partnerIn]
  split
  · next code hcode =>
      obtain ⟨r, hr, hpartner⟩ := List.exists_of_findSome?_eq_some hcode
      have hlarge := large_of_mem_lowerRuns r hr
      rw [Text.CaseRun.partner?] at hpartner
      split at hpartner
      · next hrun =>
          obtain rfl := Option.some.inj hpartner
          rw [isUpper_eq_false_iff, Char.toNat_ofNat]
          split <;> omega
      · exact absurd hpartner (by simp)
  · exact isUpper_eq_false_iff.2 (Or.inr (by omega))

/-- **A text in lower case has no capital of ASCII**, whatever its characters become. -/
theorem isUpper_of_mem_lowerFrom (before cs : List Char) :
    ∀ c ∈ Text.lowerFrom before cs, c.isUpper = false := by
  induction cs generalizing before with
  | nil => exact nofun
  | cons first rest ih =>
      rw [Text.lowerFrom, List.forall_mem_append]
      refine ⟨fun c hc => ?_, ih _⟩
      split at hc
      · -- a sigma becomes a sigma
        rcases ite_eq_or_eq (Text.endsWord before rest = true) 'ς' 'σ' with heq | heq
        · obtain rfl := (List.mem_singleton.1 hc).trans heq
          decide
        · obtain rfl := (List.mem_singleton.1 hc).trans heq
          decide
      · rw [Text.lowerChar] at hc
        split at hc
        · obtain rfl := List.mem_singleton.1 hc
          exact isUpper_toLower first
        split at hc
        · rcases List.mem_pair.1 hc with rfl | rfl <;> decide
        · next hlarge _ =>
            obtain rfl := List.mem_singleton.1 hc
            exact isUpper_partnerIn (Nat.le_of_not_lt hlarge)

/-- **A file name is made of small letters, digits and hyphens.** -/
theorem isFileChar_of_mem_fileSlug (s : String) :
    ∀ c ∈ (fileSlug s).toList, isFileChar c = true := by
  intro c hc
  rw [fileSlug, String.toList_ofList, Text.toLower, String.toList_ofList] at hc
  obtain ⟨d, hd, rfl⟩ := List.mem_map.1 hc
  have hupper := isUpper_of_mem_lowerFrom _ _ d hd
  split
  · next halnum =>
      rw [Char.isAlphanum, Char.isAlpha, hupper, Bool.false_or] at halnum
      rw [isFileChar, isWordChar, halnum, Bool.true_or]
  · rfl

theorem isFileChar_iff {c : Char} : isFileChar c = true ↔ isWordChar c = true ∨ c = '-' := by
  rw [isFileChar, Bool.or_eq_true, beq_iff_eq]

/-- The characters of file names are ASCII and in lower case. -/
theorem lowerChar_of_isFileChar {c : Char} (h : isFileChar c = true) :
    c ≠ 'Σ' ∧ Text.lowerChar c = [c] := by
  rcases isFileChar_iff.1 h with hword | rfl
  · have hsmall : c.toNat < 128 := by
      simp only [isWordChar, Char.isLower, Char.isDigit, Bool.or_eq_true, Bool.and_eq_true,
        decide_eq_true_eq, UInt32.le_iff_toNat_le, ge_iff_le] at hword
      change (97 ≤ c.toNat ∧ c.toNat ≤ 122) ∨ (48 ≤ c.toNat ∧ c.toNat ≤ 57) at hword
      omega
    refine ⟨fun heq => absurd hsmall (by rw [heq]; decide), ?_⟩
    rw [Text.lowerChar, if_pos hsmall, (isWordChar_iff.1 hword).2.2]
  · exact ⟨by decide, by decide⟩

theorem lowerFrom_of_chars (before : List Char) {cs : List Char}
    (h : ∀ c ∈ cs, isFileChar c = true) : Text.lowerFrom before cs = cs := by
  induction cs generalizing before with
  | nil => rfl
  | cons c cs ih =>
      obtain ⟨hc, hcs⟩ := List.forall_mem_cons.1 h
      obtain ⟨hne, hlower⟩ := lowerChar_of_isFileChar hc
      rw [Text.lowerFrom, if_neg (by simpa using hne), hlower, ih _ hcs]
      rfl

/-- **What is a file name is left alone.** -/
theorem fileSlug_of_chars {s : String} (h : ∀ c ∈ s.toList, isFileChar c = true) :
    fileSlug s = s := by
  have hkept : ∀ c ∈ s.toList, (if c.isAlphanum then c else '-') = c := by
    intro c hc
    rcases isFileChar_iff.1 (h c hc) with hword | rfl
    · exact if_pos (isWordChar_iff.1 hword).1
    · rfl
  rw [fileSlug, Text.toLower, String.toList_ofList, lowerFrom_of_chars [] h,
    List.map_congr_left hkept, List.map_id', String.ofList_toList]

theorem fileSlug_fileSlug (s : String) : fileSlug (fileSlug s) = fileSlug s :=
  fileSlug_of_chars (isFileChar_of_mem_fileSlug s)

theorem fileFor_fileSlug (kind : TemplateKind) (s : String) :
    kind.fileFor (fileSlug s) = kind.fileFor s := by
  have hslug := fileSlug_fileSlug s
  cases kind with
  | fragment => exact congrArg (fun slug => "template-parts/sections/" ++ slug ++ ".php") hslug
  | documentWithIdentity => exact congrArg (fun slug => "page-" ++ slug ++ ".php") hslug
  | documentByConvention => exact congrArg (fun slug => "page-" ++ slug ++ ".php") hslug

/-! ### Both kinds of names -/

/-- **The normal forms of names.**  The snake case of a text is empty or made of words of small
letters and digits, joined by single underscores; it leaves such texts and no others alone, so that
the second time changes nothing; and without its underscores it is what the text has of letters and
digits, in order and in lower case.  A file name has small letters, digits and hyphens only, and
such texts and no others are left alone.  So a template has the same file for a slug and for the
file name of the slug, which is what the command line asks for. -/
theorem normal_forms (s : String) :
    IsSnake (snakeCase s) ∧ (snakeCase s = s ↔ IsSnake s) ∧ snakeCase (snakeCase s) = snakeCase s ∧
      (snakeCase s).toList.filter (· != '_') = (s.toList.filter Char.isAlphanum).map Char.toLower ∧
      (∀ c ∈ (fileSlug s).toList, isFileChar c = true) ∧
      (fileSlug s = s ↔ ∀ c ∈ s.toList, isFileChar c = true) ∧
      fileSlug (fileSlug s) = fileSlug s ∧
      ∀ kind : TemplateKind, kind.fileFor (fileSlug s) = kind.fileFor s ∧
        ∀ (options : CompileOptions) (html : String),
          let request := Command.requestFor { options with slug := some s } html kind
          request.templateSlug = fileSlug s ∧
            request.kind.fileFor request.templateSlug = kind.fileFor s := by
  have hsnake := tidy_snakeCase s
  refine ⟨tidy_iff.1 hsnake, ⟨fun h => ?_, fun h => snakeCase_of_tidy (tidy_iff.2 h)⟩,
    snakeCase_of_tidy hsnake, filter_snakeCase s, isFileChar_of_mem_fileSlug s,
    ⟨fun h => ?_, fileSlug_of_chars⟩, fileSlug_fileSlug s, fun kind =>
      ⟨fileFor_fileSlug kind s, fun options html => ⟨rfl, fileFor_fileSlug kind s⟩⟩⟩
  · rw [← h]
    exact tidy_iff.1 hsnake
  · rw [← h]
    exact isFileChar_of_mem_fileSlug s

/-- Words in camel case, a letter that is no ASCII in lower case only, and characters that are
several in lower case. -/
example : snakeCase "  heroTitle--ÄB2!" = "hero_title_b2" ∧ fileSlug "\u212Aİ Σ" = "ki---" := by
  decide +kernel

end Naming

end ThemeCompiler
