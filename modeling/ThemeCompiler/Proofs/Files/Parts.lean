/-
**The parts of a path.**

What is no component at the end of a path is cut off before its parts are taken.  The path without its
last component is empty, the root, or stands before a slash; its last component and the stem of that
have no other characters than the path.

Main results:

* `ThemeCompiler.Path.parent?_cases` — **what is before the last component**;
* `ThemeCompiler.Path.mem_of_mem_stem`, `ThemeCompiler.Path.stem_prefix` — the characters of a stem,
  and where they stand in a name without slashes.
-/

import Mathlib.Data.List.TakeWhile
import ThemeCompiler.Files.Path

set_option relaxedAutoImplicit false
set_option autoImplicit false

namespace ThemeCompiler

namespace Path

/-! ### The text before the last component -/

/-- What is no component at the end of a path is cut off behind a slash, or the root is left. -/
theorem dropTrailing_cases {cs : List Char} (hne : cs ≠ []) :
    dropTrailing cs = cs ∨ (dropTrailing cs = ['/'] ∧ cs.getLast? = some '/') ∨
      (dropTrailing cs ≠ [] ∧ ∃ junk, cs = junk ++ '/' :: dropTrailing cs) := by
  fun_induction dropTrailing cs with
  | case1 rest hrest =>
      rw [List.isEmpty_iff.1 hrest]
      exact .inl rfl
  | case2 rest hrest ih =>
      have hrest : rest ≠ [] := by simpa using hrest
      rcases ih hrest with h | ⟨h, hlast⟩ | ⟨hleft, junk, h⟩
      · exact .inr (.inr ⟨by rwa [h], [], by rw [h, List.nil_append]⟩)
      · exact .inr (.inl ⟨h, by rw [List.getLast?_cons, hlast, Option.getD_some]⟩)
      · exact .inr (.inr ⟨hleft, '/' :: junk, by rw [List.cons_append, ← h]⟩)
  | case3 rest hrest =>
      rw [List.isEmpty_iff.1 hrest]
      exact .inr (.inl ⟨rfl, rfl⟩)
  | case4 rest hrest ih =>
      have hrest : rest ≠ [] := by simpa using hrest
      rcases ih hrest with h | ⟨h, hlast⟩ | ⟨hleft, junk, h⟩
      · exact .inr (.inr ⟨by rwa [h], ['.'], by rw [h]; rfl⟩)
      · refine .inr (.inl ⟨h, ?_⟩)
        rw [List.getLast?_cons, List.getLast?_cons, hlast, Option.getD_some, Option.getD_some]
      · exact .inr (.inr ⟨hleft, '.' :: '/' :: junk, by
          rw [List.cons_append, List.cons_append, ← h]⟩)
  | case5 cs => exact .inl rfl

/-- A text is a path below another when it goes on with a slash. -/
theorem exists_below {path parent : String} {front rest : List Char} (hne : front ≠ [])
    (hparent : parent.toList = front) (hpath : path.toList = front ++ '/' :: rest) :
    parent ≠ "" ∧ ∃ rest, path = parent ++ "/" ++ rest := by
  constructor
  · rintro rfl
    exact hne hparent.symm
  · refine ⟨String.ofList rest, ?_⟩
    rw [← String.toList_inj, String.toList_append, String.toList_append, hparent, hpath,
      List.append_assoc]
    simp

/-- **What is before the last component of a path**: nothing, the root, or what is before a slash. -/
theorem parent?_cases {path parent : String} (h : parent? path = some parent) :
    (parent = "" ∧ isAbsolute path = false) ∨ (parent = "/" ∧ isAbsolute path = true) ∨
      (parent ≠ "" ∧ ∃ rest, path = parent ++ "/" ++ rest) := by
  rw [parent?] at h
  split at h
  · exact absurd h (by simp)
  next hcut =>
  rw [Bool.or_eq_true, not_or, Bool.not_eq_true, Bool.not_eq_true] at hcut
  obtain ⟨hnil, hroot⟩ := hcut
  have hrev : path.toList.reverse ≠ [] := by
    intro hpath
    rw [hpath] at hnil
    exact absurd hnil (by decide)
  -- the path is its trimmed text with what was cut off behind it
  obtain ⟨junk, hpath⟩ : ∃ junk,
      path.toList.reverse = junk ++ dropTrailing path.toList.reverse := by
    rcases dropTrailing_cases hrev with h | ⟨h, -⟩ | ⟨-, junk, h⟩
    · exact ⟨[], by rw [h, List.nil_append]⟩
    · rw [h] at hroot
      exact absurd hroot (by decide)
    · exact ⟨junk ++ ['/'], by rw [List.append_assoc, List.singleton_append, ← h]⟩
  generalize dropTrailing path.toList.reverse = trimmed at h hpath hnil hroot
  have hsplit := List.takeWhile_append_dropWhile (p := (· != '/')) (l := trimmed)
  cases hbehind : trimmed.dropWhile (· != '/') with
  | nil =>
      -- one component only
      rw [hbehind] at h hsplit
      have hparent : parent = "" := (Option.some.inj h).symm
      refine .inl ⟨hparent, ?_⟩
      have hname : '/' ∉ trimmed := by
        intro hmem
        rw [List.append_nil] at hsplit
        rw [← hsplit] at hmem
        exact absurd (List.mem_takeWhile_imp hmem) (by decide)
      obtain ⟨first, hfirst⟩ : ∃ c, trimmed.getLast? = some c :=
        Option.isSome_iff_exists.1 (by simpa using hnil)
      have hhead : path.toList.head? = some first := by
        rw [← List.getLast?_reverse, hpath, List.getLast?_append, hfirst, Option.some_or]
      rw [isAbsolute, hhead]
      have hne : first ≠ '/' := fun heq => hname (heq ▸ List.mem_of_getLast? hfirst)
      simpa using hne
  | cons c cs =>
      have hc : c = '/' := by
        have hnot := List.head?_dropWhile_not (· != '/') trimmed
        rw [hbehind] at hnot
        simpa using hnot
      subst hc
      rw [hbehind] at h hsplit
      rw [← hsplit] at hpath
      have htext : path.toList = cs.reverse ++ '/' :: (junk ++ trimmed.takeWhile (· != '/')).reverse := by
        rw [← List.reverse_inj, hpath]
        simp
      rw [dropTrailing] at h
      by_cases hcs : cs = []
      · -- below the root
        subst hcs
        refine .inr (.inl ⟨(Option.some.inj h).symm, ?_⟩)
        rw [isAbsolute, htext]
        rfl
      · rw [if_neg (by simpa using hcs)] at h
        have hparent : parent.toList = (dropTrailing cs).reverse := by
          rw [← Option.some.inj h, String.toList_ofList]
        rcases dropTrailing_cases hcs with hkept | ⟨hroot, hlast⟩ | ⟨hleft, junk', hcut'⟩
        · rw [hkept] at hparent
          exact .inr (.inr (exists_below (by simpa using hcs) hparent htext))
        · refine .inr (.inl ⟨by rw [hroot] at h; exact (Option.some.inj h).symm, ?_⟩)
          have hhead : path.toList.head? = some '/' := by
            rw [htext, List.head?_append, List.head?_reverse, hlast, Option.some_or]
          rw [isAbsolute, hhead]
          rfl
        · have hcut : cs.reverse = (dropTrailing cs).reverse ++ '/' :: junk'.reverse := by
            rw [← List.reverse_inj, List.reverse_reverse, List.reverse_append, List.reverse_cons,
              List.reverse_reverse, List.reverse_reverse, List.append_assoc,
              List.singleton_append, ← hcut']
          rw [hcut, List.append_assoc, List.cons_append] at htext
          exact .inr (.inr (exists_below (by simpa using hleft) hparent htext))

/-! ### The last component -/

theorem mem_of_mem_dropTrailing {c : Char} {cs : List Char} (h : c ∈ dropTrailing cs) : c ∈ cs := by
  fun_induction dropTrailing cs with
  | case1 rest hrest => simpa [List.isEmpty_iff.1 hrest] using h
  | case2 rest _ ih => exact List.mem_cons_of_mem _ (ih h)
  | case3 rest hrest => simp at h; simp [h]
  | case4 rest _ ih => exact List.mem_cons_of_mem _ (List.mem_cons_of_mem _ (ih h))
  | case5 cs => exact h

theorem mem_of_fileName? {c : Char} {path name : String} (h : fileName? path = some name)
    (hc : c ∈ name.toList) : c ∈ path.toList := by
  rw [fileName?] at h
  split at h
  · exact absurd h (by simp)
  · rw [← Option.some.inj h, String.toList_ofList, List.mem_reverse] at hc
    exact List.mem_reverse.1 (mem_of_mem_dropTrailing (List.takeWhile_subset _ hc))

/-- The stem of a file has no other characters. -/
theorem mem_of_mem_stem {c : Char} {file : String} (h : c ∈ ((stem? file).getD file).toList) :
    c ∈ file.toList := by
  rw [stem?] at h
  cases hname : fileName? file with
  | none =>
      rw [hname] at h
      exact h
  | some name =>
      rw [hname, Option.map_some, Option.getD_some] at h
      refine mem_of_fileName? hname ?_
      split at h
      · next dot before hsplit =>
          rw [String.toList_ofList, List.mem_reverse] at h
          refine List.mem_reverse.1 (List.dropWhile_subset (· != '.') ?_)
          rw [hsplit]
          exact List.mem_cons_of_mem _ h
      · exact h

/-- Nothing is cut off where there is no slash. -/
theorem dropTrailing_of_notMem {cs : List Char} (h : '/' ∉ cs) : dropTrailing cs = cs := by
  rw [dropTrailing.eq_def]
  split
  · exact absurd List.mem_cons_self h
  · exact absurd (List.mem_cons_of_mem _ List.mem_cons_self) h
  · rfl

/-- **The stem of a name** without slashes is its beginning. -/
theorem stem_prefix {file : String} (h : '/' ∉ file.toList) :
    ((stem? file).getD file).toList <+: file.toList := by
  have hrev : '/' ∉ file.toList.reverse := fun hmem => h (List.mem_reverse.1 hmem)
  have hname : ∀ c ∈ file.toList.reverse, (c != '/') = true := fun c hc => by
    rw [bne_iff_ne]
    rintro rfl
    exact hrev hc
  rw [stem?, fileName?, dropTrailing_of_notMem hrev, List.takeWhile_eq_self_iff.2 hname,
    List.reverse_reverse, String.ofList_toList]
  split
  · exact List.prefix_rfl
  · rw [Option.map_some, Option.getD_some]
    split
    · next dot last before hsplit =>
        obtain ⟨ending, hending⟩ := List.dropWhile_suffix (l := file.toList.reverse) (· != '.')
        rw [hsplit] at hending
        rw [String.toList_ofList, ← List.reverse_suffix, List.reverse_reverse]
        exact ⟨ending ++ [dot], by rw [← hending]; simp⟩
    · exact List.prefix_rfl

end Path

end ThemeCompiler
