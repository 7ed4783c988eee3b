/-
**The way of a path.**

A path crosses directories until it comes to its own name.  It leads there when all of them are there
and all its names are short enough.  Making the directories of a path puts directories on its way and
nothing else, and a second time it changes nothing.  The way of what is before the last component of a
path consists of directories that the path itself crosses.

Main definitions:

* `ThemeCompiler.Disk.crossedFrom`, `ThemeCompiler.Disk.crossed` — the directories that a path
  crosses;
* `ThemeCompiler.Disk.way` — these, and the name of the path.

Main results:

* `ThemeCompiler.Disk.follow_eq_ok_iff`, `ThemeCompiler.Disk.resolve_iff_crossed` — **when a path
  leads to its name**;
* `ThemeCompiler.Disk.nameOf_join` — the name of a path below any other;
* `ThemeCompiler.Disk.mem_crossed_of_mem_way_parent` — the way to the directory of a file;
* `ThemeCompiler.Disk.prefix_foldl_advance`, `ThemeCompiler.Disk.prefix_of_mem_crossedFrom` — **names
  without two dots** lead to something below, and cross nothing else;
* `ThemeCompiler.Disk.makeAlong_again`, `ThemeCompiler.Disk.makeDirs_again` — **making directories a
  second time**;
* `ThemeCompiler.Disk.KeepsPaths.makeDirs` — directories that were made and kept;
* `ThemeCompiler.Disk.makeDirs_parent_of_resolve` — the directories before what is there are there.
-/

import ThemeCompiler.Proofs.Files.Disk
import ThemeCompiler.Proofs.Files.Parts

set_option relaxedAutoImplicit false
set_option autoImplicit false

namespace ThemeCompiler

namespace Disk

variable {disk changed : Disk} {here target : List String} {path parent : String}

/-! ### Crossed directories -/

/-- The directories that names cross from a directory, one for each name. -/
def crossedFrom (here : List String) : List String → List (List String)
  | [] => []
  | name :: rest => here :: crossedFrom (advance here name) rest

/-- **The directories that a path crosses.** -/
def crossed (disk : Disk) (path : String) : List (List String) :=
  crossedFrom (disk.startOf path) (Path.pieces path)

/-- **The way of a path**: the directories that it crosses, and its name. -/
def way (disk : Disk) (path : String) : List (List String) :=
  disk.crossed path ++ [disk.nameOf path]

theorem crossedFrom_append (here names more : List String) :
    crossedFrom here (names ++ more) =
      crossedFrom here names ++ crossedFrom (names.foldl advance here) more := by
  induction names generalizing here with
  | nil => rfl
  | cons name rest ih =>
      rw [List.cons_append, crossedFrom, crossedFrom, ih, List.foldl_cons, List.cons_append]

theorem mem_way_iff {name : List String} :
    name ∈ disk.way path ↔ name ∈ disk.crossed path ∨ name = disk.nameOf path := by
  rw [way, List.mem_append, List.mem_singleton]

theorem nameOf_mem_way (disk : Disk) (path : String) : disk.nameOf path ∈ disk.way path :=
  mem_way_iff.2 (.inr rfl)

theorem startOf_below {base : String} (hbase : base ≠ "") (path : String) :
    disk.startOf (base ++ "/" ++ path) = disk.startOf base := by
  have hne : base.toList ≠ [] := fun h => hbase (by simpa using h)
  obtain ⟨c, cs, hcs⟩ := List.exists_cons_of_ne_nil hne
  rw [startOf, startOf, Path.isAbsolute, Path.isAbsolute, String.toList_append,
    String.toList_append, hcs]
  rfl

/-- **The name of a path below another**, also when that one is empty or ends with a slash. -/
theorem nameOf_join (disk : Disk) (base : String) (hpath : Path.isAbsolute path = false) :
    disk.nameOf (Path.join base path) = (Path.pieces path).foldl advance (disk.nameOf base) := by
  rw [Path.join, if_neg (by simp [hpath])]
  by_cases hempty : base = ""
  · rw [if_pos (by simp [hempty]), hempty, String.empty_append, nameOf, startOf, hpath]
    rfl
  by_cases hslash : base.toList.getLast? = some '/'
  · -- the piece behind the last slash is empty
    obtain ⟨front, hfront⟩ : ∃ front, base = front ++ "/" ++ "" := by
      obtain ⟨cs, hcs⟩ := List.getLast?_eq_some_iff.1 hslash
      exact ⟨String.ofList cs, String.toList_inj.1 (by simp [hcs])⟩
    have hstart : disk.startOf (base ++ path) = disk.startOf base := by
      have hne : base.toList ≠ [] := fun h => hempty (by simpa using h)
      obtain ⟨c, cs, hcs⟩ := List.exists_cons_of_ne_nil hne
      rw [startOf, startOf, Path.isAbsolute, Path.isAbsolute, String.toList_append, hcs]
      rfl
    rw [if_pos (by simp [hslash]), nameOf, hstart, nameOf, hfront, String.append_empty,
      Path.pieces_slash, List.foldl_append, ← String.append_empty (s := front ++ "/"),
      Path.pieces_slash, List.foldl_append]
    rfl
  · rw [if_neg (by simp [hempty, hslash]), nameOf, startOf_below hempty, Path.pieces_slash,
      List.foldl_append]
    rfl

theorem pieces_ne_nil (path : String) : Path.pieces path ≠ [] := by
  rw [Path.pieces]
  exact fun h => Text.splitAtChars_ne_nil _ _ (List.map_eq_nil_iff.1 h)

/-- **What a path below another crosses.** -/
theorem crossed_below {base : String} (hbase : base ≠ "") (path : String) :
    disk.crossed (base ++ "/" ++ path) =
      disk.crossed base ++ crossedFrom (disk.nameOf base) (Path.pieces path) := by
  rw [crossed, startOf_below hbase, Path.pieces_slash, crossedFrom_append]
  rfl

theorem startOf_mem_crossed (disk : Disk) (path : String) :
    disk.startOf path ∈ disk.crossed path := by
  rw [crossed]
  cases hpieces : Path.pieces path with
  | nil => exact absurd hpieces (pieces_ne_nil path)
  | cons name rest => exact List.mem_cons_self

/-- **A file is behind its directory**: the way of that is crossed. -/
theorem mem_crossed_of_mem_way_parent (hparent : Path.parent? path = some parent)
    {name : List String} (hname : name ∈ disk.way parent) : name ∈ disk.crossed path := by
  rcases Path.parent?_cases hparent with ⟨rfl, hstart⟩ | ⟨rfl, hstart⟩ | ⟨hne, rest, rfl⟩
  · -- the directory in which relative paths start
    have hway : disk.way "" = [disk.start, disk.start] := rfl
    have hpath : disk.startOf path = disk.start := by rw [startOf, hstart]; rfl
    have hmem := startOf_mem_crossed disk path
    rw [hway] at hname
    rw [hpath] at hmem
    simp only [List.mem_cons, List.not_mem_nil, or_false, or_self] at hname
    rwa [hname]
  · have hway : disk.way "/" = [[], [], []] := rfl
    have hpath : disk.startOf path = [] := by rw [startOf, hstart]; rfl
    have hmem := startOf_mem_crossed disk path
    rw [hway] at hname
    rw [hpath] at hmem
    simp only [List.mem_cons, List.not_mem_nil, or_false, or_self] at hname
    rwa [hname]
  · rw [crossed_below hne, List.mem_append]
    rcases mem_way_iff.1 hname with h | rfl
    · exact .inl h
    · refine .inr ?_
      cases hpieces : Path.pieces rest with
      | nil => exact absurd hpieces (pieces_ne_nil rest)
      | cons first more => exact List.mem_cons_self

/-! ### Names that do not lead up -/

/-- A name that is not empty and no dot or two leads one level down. -/
theorem advance_eq {name : String} (hempty : name ≠ "") (hdot : name ≠ ".") (hup : name ≠ "..") :
    advance here name = here ++ [name] := by
  rw [advance, if_neg (by simp [hempty, hdot]), if_neg (by simp [hup])]

theorem prefix_advance {name : String} (hup : name ≠ "..") : here <+: advance here name := by
  rw [advance]
  split
  · exact List.prefix_rfl
  · rw [if_neg (by simp [hup])]
    exact List.prefix_append here [name]

/-- **Names without two dots** lead to something below. -/
theorem prefix_foldl_advance {base names : List String} (hup : ".." ∉ names) (h : base <+: here) :
    base <+: names.foldl advance here := by
  induction names generalizing here with
  | nil => exact h
  | cons name rest ih =>
      rw [List.mem_cons, not_or] at hup
      exact ih hup.2 (h.trans (prefix_advance (Ne.symm hup.1)))

/-- They cross nothing but what is below. -/
theorem prefix_of_mem_crossedFrom {base names : List String} (hup : ".." ∉ names)
    (h : base <+: here) : ∀ n ∈ crossedFrom here names, base <+: n := by
  induction names generalizing here with
  | nil => simp [crossedFrom]
  | cons name rest ih =>
      rw [List.mem_cons, not_or] at hup
      rw [crossedFrom, List.forall_mem_cons]
      exact ⟨h, ih hup.2 (h.trans (prefix_advance (Ne.symm hup.1)))⟩

/-! ### Following names -/

/-- **When names can be followed**: all directories that they cross are there, and all names are
short enough. -/
theorem follow_eq_ok_iff {names : List String} :
    disk.follow here names = .ok target ↔
      (∀ n ∈ crossedFrom here names, disk.entry? n = some .directory) ∧
        (∀ name ∈ names, isName name = true) ∧ target = names.foldl advance here := by
  induction names generalizing here with
  | nil =>
      rw [follow, Except.ok.injEq, eq_comm]
      simp [crossedFrom]
  | cons name rest ih =>
      rw [follow_cons_iff, ih, crossedFrom, List.forall_mem_cons, List.forall_mem_cons,
        List.foldl_cons]
      constructor
      · rintro ⟨hhere, hname, hcrossed, hnames, htarget⟩
        exact ⟨⟨hhere, hcrossed⟩, ⟨hname, hnames⟩, htarget⟩
      · rintro ⟨⟨hhere, hcrossed⟩, ⟨hname, hnames⟩, htarget⟩
        exact ⟨hhere, hname, hcrossed, hnames, htarget⟩

/-- **When a path leads to its name.** -/
theorem resolve_iff_crossed :
    disk.resolve path = .ok target ↔ path.isEmpty = false ∧ isPath path = true ∧
      (∀ n ∈ disk.crossed path, disk.entry? n = some .directory) ∧
      (∀ name ∈ Path.pieces path, isName name = true) ∧ target = disk.nameOf path := by
  rw [resolve_eq_ok, follow_eq_ok_iff, crossed, nameOf]

/-! ### Making directories -/

/-- **Making directories a second time** has the same outcome and changes nothing. -/
theorem makeAlong_again (names : List String) :
    ∀ (here : List String) (disk : Disk), (disk.makeAlong here names).2.makeAlong here names =
      disk.makeAlong here names := by
  induction names with
  | nil => exact fun here disk => rfl
  | cons name rest ih =>
      intro here disk
      -- the directory that is entered is still there after all others were made
      have hmade : ∀ d : Disk, d.entry? (here ++ [name]) = some .directory →
          entry? (d.makeAlong (here ++ [name]) rest).2 (here ++ [name]) = some .directory :=
        fun d hd => (keeps_makeAlong (here ++ [name]) rest (here ++ [name]) d).entry _ hd
      have hroot : here ++ [name] ≠ [] := by simp
      by_cases hdot : (name.isEmpty || name == ".") = true
      · simp only [makeAlong, if_pos hdot]
        exact ih here disk
      by_cases hup : (name == "..") = true
      · simp only [makeAlong, if_neg hdot, if_pos hup]
        exact ih here.dropLast disk
      by_cases hlong : (!isName name) = true
      · simp only [makeAlong, if_neg hdot, if_neg hup, if_pos hlong]
      cases hthere : disk.entry? (here ++ [name]) with
      | some entry =>
          cases entry with
          | directory =>
              simp only [makeAlong, if_neg hdot, if_neg hup, if_neg hlong, hthere,
                hmade disk hthere]
              exact ih (here ++ [name]) disk
          | file content =>
              simp only [makeAlong, if_neg hdot, if_neg hup, if_neg hlong, hthere]
      | none =>
          have hput : entry? (disk.put (here ++ [name]) .directory) (here ++ [name]) =
              some .directory := by
            rw [entry?_put hroot, if_pos rfl]
          simp only [makeAlong, if_neg hdot, if_neg hup, if_neg hlong, hthere, hmade _ hput]
          exact ih (here ++ [name]) (disk.put (here ++ [name]) .directory)

/-- **Making the directories of a path a second time** changes nothing. -/
theorem makeDirs_again (disk : Disk) (path : String) :
    (disk.makeDirs path).2.makeDirs path = disk.makeDirs path := by
  rw [makeDirs]
  split
  · next hpath =>
      have hstart := (keeps_makeAlong [] (Path.pieces path) (disk.startOf path) disk).startOf path
      rw [makeDirs, if_pos hpath, hstart, makeAlong_again]
  · next hpath => rw [makeDirs, if_neg hpath]

theorem KeepsPaths.makeAlong {names : List String} {made : Disk} (h : KeepsPaths made changed)
    (hmake : disk.makeAlong here names = (.ok (), made)) :
    changed.makeAlong here names = (.ok (), changed) := by
  induction names generalizing here disk with
  | nil => rfl
  | cons name rest ih =>
      -- the directory that is entered was kept while the others were made, and afterwards
      have hkept : ∀ {d : Disk}, d.entry? (here ++ [name]) = some .directory →
          d.makeAlong (here ++ [name]) rest = (.ok (), made) →
            changed.entry? (here ++ [name]) = some .directory := by
        intro d hd hrest
        have hmade := (keeps_makeAlong (here ++ [name]) rest (here ++ [name]) d).directory _ hd
        rw [hrest] at hmade
        exact h.directory _ hmade
      by_cases hdot : (name.isEmpty || name == ".") = true
      · simp only [Disk.makeAlong, if_pos hdot] at hmake ⊢
        exact ih hmake
      by_cases hup : (name == "..") = true
      · simp only [Disk.makeAlong, if_neg hdot, if_pos hup] at hmake ⊢
        exact ih hmake
      by_cases hlong : (!isName name) = true
      · simp only [Disk.makeAlong, if_neg hdot, if_neg hup, if_pos hlong] at hmake
        exact absurd hmake (by simp)
      simp only [Disk.makeAlong, if_neg hdot, if_neg hup, if_neg hlong] at hmake ⊢
      split at hmake
      · next hthere =>
          simp only [hkept hthere hmake]
          exact ih hmake
      · exact absurd hmake (by simp)
      · have hput : entry? (disk.put (here ++ [name]) .directory) (here ++ [name]) =
            some .directory := by
          rw [entry?_put (by simp), if_pos rfl]
        simp only [hkept hput hmake]
        exact ih hmake

/-- **Directories that were made** are not made again, as long as they are kept. -/
theorem KeepsPaths.makeDirs {made : Disk} (h : KeepsPaths made changed)
    (hmake : disk.makeDirs path = (.ok (), made)) : changed.makeDirs path = (.ok (), changed) := by
  have hkeeps := keeps_makeDirs [] disk path
  rw [hmake] at hkeeps
  rw [Disk.makeDirs] at hmake ⊢
  split at hmake
  · next hpath =>
      rw [if_pos hpath, h.startOf, hkeeps.startOf]
      exact h.makeAlong hmake
  · exact absurd hmake (by simp)

/-- Nothing is made where all directories are there. -/
theorem makeAlong_of_directories {names : List String}
    (hway : ∀ n ∈ crossedFrom here names ++ [names.foldl advance here],
      disk.entry? n = some .directory)
    (hnames : ∀ name ∈ names, isName name = true) :
    disk.makeAlong here names = (.ok (), disk) := by
  induction names generalizing here with
  | nil => rfl
  | cons name rest ih =>
      rw [crossedFrom, List.cons_append, List.forall_mem_cons, List.foldl_cons] at hway
      obtain ⟨hname, hrest⟩ := List.forall_mem_cons.1 hnames
      have hthere : disk.entry? (advance here name) = some .directory := by
        refine hway.2 _ ?_
        cases rest with
        | nil => exact List.mem_cons_self
        | cons next more => exact List.mem_cons_self
      rw [advance] at hthere hway
      rw [makeAlong]
      split
      · next hdot =>
          rw [if_pos hdot] at hway
          exact ih hway.2 hrest
      · next hdot =>
          rw [if_neg hdot] at hway hthere
          split
          · next hup =>
              rw [if_pos hup] at hway
              exact ih hway.2 hrest
          · next hup =>
              rw [if_neg hup] at hway hthere
              rw [if_neg (by simp [hname])]
              simp only [hthere]
              exact ih hway.2 hrest

/-- What is before the last component of a short path is short. -/
theorem isPath_parent (hparent : Path.parent? path = some parent) (hpath : isPath path = true) :
    isPath parent = true := by
  rcases Path.parent?_cases hparent with ⟨rfl, -⟩ | ⟨rfl, -⟩ | ⟨-, rest, rfl⟩
  · decide
  · decide
  · rw [isPath, Bool.and_eq_true, decide_eq_true_iff, String.utf8ByteSize_append,
      String.utf8ByteSize_append] at hpath
    obtain ⟨hsize, hnull⟩ := hpath
    rw [isPath, Bool.and_eq_true, decide_eq_true_iff]
    refine ⟨by omega, ?_⟩
    simp only [String.toList_append, Bool.not_eq_true', List.contains_eq_mem, decide_eq_false_iff_not,
      List.mem_append, not_or] at hnull ⊢
    exact hnull.1.1

/-- **The directories before what is there** are there, and nothing is made. -/
theorem makeDirs_parent_of_resolve (hparent : Path.parent? path = some parent)
    (hpath : disk.resolve path = .ok target) : disk.makeDirs parent = (.ok (), disk) := by
  obtain ⟨-, hshort, hcrossed, hnames, -⟩ := resolve_iff_crossed.1 hpath
  rw [makeDirs, if_pos (isPath_parent hparent hshort)]
  refine makeAlong_of_directories (fun n hn => ?_) fun name hname => ?_
  · exact hcrossed n (mem_crossed_of_mem_way_parent hparent hn)
  · rcases Path.parent?_cases hparent with ⟨rfl, -⟩ | ⟨rfl, -⟩ | ⟨-, rest, rfl⟩
    · revert name
      decide
    · revert name
      decide
    · rw [Path.pieces_slash] at hnames
      exact hnames name (List.mem_append_left _ hname)

end Disk

end ThemeCompiler
