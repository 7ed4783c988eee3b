/-
**What operations keep on a disk.**

Where a path leads to does not depend on what is there, and the name of a path below another goes on
from the name of that one.  Making directories puts entries only
where there are none, and writing changes the entry that its path leads to, which is no directory.
So all directories stay, every path leads to where it led before, and a text can be read again as
long as nothing is written in its place.

Main definitions:

* `ThemeCompiler.Path.EndsInName` — the paths that others can be put below with a slash;
* `ThemeCompiler.Disk.nameOf` — the full name that a path would lead to;
* `ThemeCompiler.Disk.KeepsPaths`, `ThemeCompiler.Disk.Keeps` — a disk on which the directories of
  another still are, and one of its entries.

Main results:

* `ThemeCompiler.Disk.eq_nameOf_of_resolve`, `ThemeCompiler.Disk.nameOf_below` — the names of paths,
  and of a path below another;
* `ThemeCompiler.Disk.KeepsPaths.resolve` — paths lead to where they led before;
* `ThemeCompiler.Disk.keeps_makeDirs`, `ThemeCompiler.Disk.keeps_write` — what the operations keep;
* `ThemeCompiler.Disk.Keeps.readText` — **a text that is kept**;
* `ThemeCompiler.Disk.readText_write` — a text that was written.
-/

import ThemeCompiler.Files.Disk
import ThemeCompiler.Proofs.Text.Search

set_option relaxedAutoImplicit false
set_option autoImplicit false

namespace ThemeCompiler

/-! ### Paths -/

namespace Path

/-- **A path with a name at its end**, so that another can be put below it with a slash. -/
def EndsInName (path : String) : Prop := ∃ c, path.toList.getLast? = some c ∧ c ≠ '/'

theorem EndsInName.append {base path : String} (h : EndsInName path) : EndsInName (base ++ path) := by
  obtain ⟨c, hlast, hc⟩ := h
  exact ⟨c, by rw [String.toList_append, List.getLast?_append, hlast, Option.some_or], hc⟩

theorem EndsInName.ne_nil {path : String} (h : EndsInName path) : path.toList ≠ [] := by
  obtain ⟨c, hlast, -⟩ := h
  rintro hnil
  rw [hnil] at hlast
  exact Option.some_ne_none c hlast.symm

/-- A path put below another. -/
theorem join_eq {base path : String} (hbase : EndsInName base) (hpath : isAbsolute path = false) :
    join base path = base ++ "/" ++ path := by
  obtain ⟨c, hlast, hc⟩ := hbase
  have hslash : (base.toList.getLast? == some '/') = false := by simp [hlast, hc]
  have hempty : base.isEmpty = false := by
    rw [← Bool.not_eq_true, String.isEmpty_iff]
    rintro rfl
    exact Option.some_ne_none c hlast.symm
  rw [join, if_neg (by simp [hpath]), if_neg (by simp [hslash, hempty])]

/-- A path put below another that ends with a slash. -/
theorem join_slash (base : String) {path : String} (hpath : isAbsolute path = false) :
    join (base ++ "/") path = base ++ "/" ++ path := by
  rw [join, if_neg (by simp [hpath]), if_pos (by simp [String.toList_append])]

theorem isAbsolute_of_notMem {path : String} (h : '/' ∉ path.toList) : isAbsolute path = false := by
  rw [isAbsolute]
  cases hpath : path.toList with
  | nil => rfl
  | cons c cs =>
      rw [hpath, List.mem_cons, not_or] at h
      simpa using Ne.symm h.1

theorem pieces_slash (base path : String) :
    pieces (base ++ "/" ++ path) = pieces base ++ pieces path := by
  have htext : (base ++ "/" ++ path).toList = base.toList ++ '/' :: path.toList := by
    simp [String.toList_append]
  rw [pieces, htext, Text.splitAtChars_append_cons (by rfl), List.map_append]
  rfl

theorem pieces_of_notMem {name : String} (h : '/' ∉ name.toList) : pieces name = [name] := by
  have hname : ∀ c ∈ name.toList, (c == '/') = false := fun c hc =>
    beq_eq_false_iff_ne.2 fun heq => h (heq ▸ hc)
  rw [pieces, Text.splitAtChars_of_forall hname, List.map_singleton, String.ofList_toList]

end Path

namespace Disk

variable {disk changed final : Disk} {name : List String}

/-! ### Entries -/

theorem lookup_cons_eq_ite (n m : List String) (e : Entry) (entries : List (List String × Entry)) :
    ((m, e) :: entries).lookup n = if n = m then some e else entries.lookup n := by
  by_cases h : n = m
  · rw [h, List.lookup_cons_self, if_pos rfl]
  · rw [List.lookup_cons, beq_false_of_ne h, if_neg h]

theorem lookup_putEntry (name n : List String) (entry : Entry)
    (entries : List (List String × Entry)) :
    (putEntry name entry entries).lookup n =
      if n = name then some entry else entries.lookup n := by
  induction entries with
  | nil => rw [putEntry, lookup_cons_eq_ite]
  | cons e entries ih =>
      obtain ⟨m, old⟩ := e
      rw [putEntry, lookup_cons_eq_ite]
      by_cases hm : m = name
      · rw [if_pos (beq_iff_eq.2 hm), lookup_cons_eq_ite, hm]
        by_cases hn : n = name
        · rw [if_pos hn, if_pos hn]
        · rw [if_neg hn, if_neg hn, if_neg hn]
      · rw [if_neg (fun h => hm (beq_iff_eq.1 h)), lookup_cons_eq_ite, ih]
        by_cases hn : n = m
        · rw [if_pos hn, if_neg (hn ▸ hm), if_pos hn]
        · rw [if_neg hn, if_neg hn]

/-- **The entries after one more**, which is not the root. -/
theorem entry?_put {name : List String} (hname : name ≠ []) (n : List String) (entry : Entry) :
    entry? (disk.put name entry) n = if n = name then some entry else disk.entry? n := by
  rw [ entry?, entry?, put, lookup_putEntry]
  cases n with
  | nil => exact (if_neg hname.symm).symm
  | cons first rest => rfl

/-! ### Following names -/

/-- Where a name leads from a directory. -/
def advance (here : List String) (name : String) : List String :=
  if name.isEmpty || name == "." then here
  else if name == ".." then here.dropLast
  else here ++ [name]

/-- **A name is followed** from a directory that is there, if it is short enough. -/
theorem follow_cons_iff {here : List String} {piece : String} {rest target : List String} :
    disk.follow here (piece :: rest) = .ok target ↔
      disk.entry? here = some .directory ∧ isName piece = true ∧
        disk.follow (advance here piece) rest = .ok target := by
  have hempty : ∀ s : String, (s.isEmpty || s == ".") = true → isName s = true := fun s hs => by
    rw [Bool.or_eq_true, String.isEmpty_iff, beq_iff_eq] at hs
    rcases hs with rfl | rfl <;> decide
  rw [follow, advance]
  split
  · next h => simp [h]
  · next h => simp [h]
  · next h =>
      rw [h]
      simp only [true_and]
      split
      · next hdot => simp [hempty piece hdot]
      · split
        · next hup =>
            have hname : isName piece = true := beq_iff_eq.1 hup ▸ by decide
            simp [hname]
        · split
          · next hname => simp [hname]
          · next hname => simp [hname]

/-- Where names lead does not depend on what is there. -/
theorem eq_foldl_of_follow {pieces here target : List String}
    (h : disk.follow here pieces = .ok target) : target = pieces.foldl advance here := by
  induction pieces generalizing here with
  | nil => exact (Except.ok.inj h).symm
  | cons piece rest ih => exact ih (follow_cons_iff.1 h).2.2

/-- **The full name that a path would lead to** if all directories were there. -/
def nameOf (disk : Disk) (path : String) : List String :=
  (Path.pieces path).foldl advance (disk.startOf path)

/-- **The name of a path below another** goes on from the name of that one. -/
theorem nameOf_below {base : String} (hbase : Path.EndsInName base) (path : String) :
    disk.nameOf (base ++ "/" ++ path) = (Path.pieces path).foldl advance (disk.nameOf base) := by
  have hstart : disk.startOf (base ++ "/" ++ path) = disk.startOf base := by
    obtain ⟨c, cs, hcs⟩ := List.exists_cons_of_ne_nil hbase.ne_nil
    rw [startOf, startOf, Path.isAbsolute, Path.isAbsolute, String.toList_append,
      String.toList_append, hcs]
    rfl
  rw [nameOf, nameOf, hstart, Path.pieces_slash, List.foldl_append]

/-- **The name of a path below another**, if that is one name. -/
theorem nameOf_below_name {base name : String} (hbase : Path.EndsInName base)
    (hname : '/' ∉ name.toList) :
    disk.nameOf (base ++ "/" ++ name) = advance (disk.nameOf base) name := by
  rw [nameOf_below hbase, Path.pieces_of_notMem hname, List.foldl_cons, List.foldl_nil]

theorem resolve_eq_ok {path : String} {target : List String} :
    disk.resolve path = .ok target ↔ path.isEmpty = false ∧ isPath path = true ∧
      disk.follow (disk.startOf path) (Path.pieces path) = .ok target := by
  rw [resolve]
  split
  · next h => simp [h]
  · next h =>
      split
      · next hpath => simp [h, hpath]
      · next hpath => simp [hpath]

theorem eq_nameOf_of_resolve {path : String} {target : List String}
    (h : disk.resolve path = .ok target) : target = disk.nameOf path :=
  eq_foldl_of_follow (resolve_eq_ok.1 h).2.2

/-! ### What is kept -/

/-- **A disk on which the directories of another still are.** -/
structure KeepsPaths (disk changed : Disk) : Prop where
  start : changed.start = disk.start
  directory : ∀ n, disk.entry? n = some .directory → changed.entry? n = some .directory

/-- **A disk on which an entry of another still is**, and its directories. -/
structure Keeps (name : List String) (disk changed : Disk) : Prop extends
    KeepsPaths disk changed where
  entry : ∀ e, disk.entry? name = some e → changed.entry? name = some e

theorem Keeps.refl (name : List String) (disk : Disk) : Keeps name disk disk :=
  ⟨⟨rfl, fun _ h => h⟩, fun _ h => h⟩

theorem KeepsPaths.trans (h : KeepsPaths disk changed) (h' : KeepsPaths changed final) :
    KeepsPaths disk final :=
  ⟨h'.start.trans h.start, fun n hn => h'.directory n (h.directory n hn)⟩

theorem Keeps.trans (h : Keeps name disk changed) (h' : Keeps name changed final) :
    Keeps name disk final :=
  ⟨h.toKeepsPaths.trans h'.toKeepsPaths, fun e he => h'.entry e (h.entry e he)⟩

theorem KeepsPaths.follow (h : KeepsPaths disk changed) {pieces here target : List String}
    (hfollow : disk.follow here pieces = .ok target) : changed.follow here pieces = .ok target := by
  induction pieces generalizing here with
  | nil => exact hfollow
  | cons piece rest ih =>
      obtain ⟨hhere, hpiece, hrest⟩ := follow_cons_iff.1 hfollow
      exact follow_cons_iff.2 ⟨h.directory here hhere, hpiece, ih hrest⟩

theorem KeepsPaths.startOf (h : KeepsPaths disk changed) (path : String) :
    changed.startOf path = disk.startOf path := by
  rw [Disk.startOf, Disk.startOf, h.start]

theorem KeepsPaths.nameOf (h : KeepsPaths disk changed) (path : String) :
    changed.nameOf path = disk.nameOf path := by
  rw [Disk.nameOf, Disk.nameOf, h.startOf]

/-- Paths lead to where they led before. -/
theorem KeepsPaths.resolve (h : KeepsPaths disk changed) {path : String} {target : List String}
    (hpath : disk.resolve path = .ok target) : changed.resolve path = .ok target := by
  obtain ⟨hempty, hshort, hfollow⟩ := resolve_eq_ok.1 hpath
  exact resolve_eq_ok.2 ⟨hempty, hshort, h.startOf path ▸ h.follow hfollow⟩

/-- The file that a text is read from. -/
theorem readText_eq_ok {path text : String} :
    disk.readText path = .ok text ↔
      ∃ name, disk.resolve path = .ok name ∧ disk.entry? name = some (.file (.text text)) := by
  rw [readText, read]
  cases disk.resolve path with
  | error fault => simp [bind, Except.bind]
  | ok name =>
      cases hentry : disk.entry? name with
      | none => simp [bind, Except.bind, hentry, throw, throwThe, MonadExceptOf.throw]
      | some entry =>
          cases entry with
          | directory => simp [bind, Except.bind, hentry, throw, throwThe, MonadExceptOf.throw]
          | file content =>
              cases content <;>
                simp [bind, Except.bind, hentry, throw, throwThe, MonadExceptOf.throw, pure, Except.pure]

theorem isThere_of_readText {path text : String} (h : disk.readText path = .ok text) :
    disk.isThere path = true := by
  obtain ⟨name, hname, hentry⟩ := readText_eq_ok.1 h
  rw [isThere, hname]
  simp [hentry]

/-- **A text that is kept** can be read again. -/
theorem Keeps.readText {path text : String} (h : Keeps (disk.nameOf path) disk changed)
    (hread : disk.readText path = .ok text) : changed.readText path = .ok text := by
  obtain ⟨target, htarget, hentry⟩ := readText_eq_ok.1 hread
  obtain rfl := eq_nameOf_of_resolve htarget
  exact readText_eq_ok.2 ⟨_, h.resolve htarget, h.entry _ hentry⟩

/-! ### Operations -/

/-- An entry that takes the place of no directory. -/
theorem keepsPaths_put {target : List String} (entry : Entry)
    (hdir : disk.entry? target ≠ some .directory) : KeepsPaths disk (disk.put target entry) := by
  refine ⟨rfl, fun n hn => ?_⟩
  have hroot : target ≠ [] := fun h => hdir (by rw [h]; rfl)
  have hne : n ≠ target := fun h => hdir (h ▸ hn)
  rw [entry?_put hroot, if_neg hne, hn]

/-- An entry with another name, or where there was none. -/
theorem keeps_put {target : List String} (entry : Entry)
    (hdir : disk.entry? target ≠ some .directory)
    (hother : name ≠ target ∨ disk.entry? target = none) :
    Keeps name disk (disk.put target entry) := by
  refine ⟨keepsPaths_put entry hdir, fun e he => ?_⟩
  have hroot : target ≠ [] := fun h => hdir (by rw [h]; rfl)
  have hne : name ≠ target := by
    rcases hother with hne | hnone
    · exact hne
    · rintro rfl
      exact Option.some_ne_none e (he.symm.trans hnone)
  rw [entry?_put hroot, if_neg hne, he]

theorem keeps_makeAlong (name : List String) (pieces : List String) :
    ∀ (here : List String) (disk : Disk), Keeps name disk (disk.makeAlong here pieces).2 := by
  induction pieces with
  | nil => exact fun here disk => Keeps.refl name disk
  | cons piece rest ih =>
      intro here disk
      rw [makeAlong]
      split
      · exact ih here disk
      split
      · exact ih here.dropLast disk
      split
      · exact Keeps.refl name disk
      dsimp only
      split
      · exact ih (here ++ [piece]) disk
      · exact Keeps.refl name disk
      · next hnone =>
          have hdir : disk.entry? (here ++ [piece]) ≠ some .directory := by simp [hnone]
          exact (keeps_put .directory hdir (.inr hnone)).trans (ih (here ++ [piece]) _)

/-- **Making directories** keeps everything. -/
theorem keeps_makeDirs (name : List String) (disk : Disk) (path : String) :
    Keeps name disk (disk.makeDirs path).2 := by
  rw [makeDirs]
  split
  · exact keeps_makeAlong name _ _ disk
  · exact Keeps.refl name disk

/-- What is written takes the place of what is no directory. -/
theorem exists_of_write {path : String} {content : FileContent}
    (h : disk.write path content = .ok changed) : ∃ target, disk.resolve path = .ok target ∧
      disk.entry? target ≠ some .directory ∧ changed = disk.put target (.file content) := by
  rw [write] at h
  cases htarget : disk.resolve path with
  | error fault =>
      rw [htarget] at h
      exact absurd h (by simp [bind, Except.bind])
  | ok target =>
      rw [htarget] at h
      simp only [bind, Except.bind] at h
      split at h
      · exact absurd h (by simp [throw, throwThe, MonadExceptOf.throw])
      · next hdir => exact ⟨target, rfl, hdir, (Except.ok.inj h).symm⟩

/-- **Writing** keeps what the path does not lead to. -/
theorem keeps_write {path : String} {content : FileContent}
    (hwrite : disk.write path content = .ok changed) (hother : disk.nameOf path ≠ name) :
    Keeps name disk changed := by
  obtain ⟨target, htarget, hdir, rfl⟩ := exists_of_write hwrite
  exact keeps_put (.file content) hdir (.inl (eq_nameOf_of_resolve htarget ▸ hother.symm))

/-- **A text that was written** can be read. -/
theorem readText_write {path text : String} (hwrite : disk.write path (.text text) = .ok changed) :
    changed.readText path = .ok text := by
  obtain ⟨target, htarget, hdir, rfl⟩ := exists_of_write hwrite
  have hroot : target ≠ [] := fun h => hdir (by rw [h]; rfl)
  refine readText_eq_ok.2 ⟨target, (keepsPaths_put _ hdir).resolve htarget, ?_⟩
  rw [entry?_put hroot, if_pos rfl]

end Disk

end ThemeCompiler
