/-
**What actions change on a disk.**

An action may fail at any of its parts, and what it has done before stays.  So what it changes is said
of the disk that it leaves, whatever its outcome: some files are written, and some directories are
made where there was nothing; everything else is as it was.

Main definitions:

* `ThemeCompiler.Disk.Touches` — a disk on which only some files were written and some directories
  made;
* `ThemeCompiler.Disk.Grows` — a disk on which everything that was there still is;
* `ThemeCompiler.Disk.after` — the disk that an action leaves;
* `ThemeCompiler.Disk.Preserves` — an action that keeps a property of the disk, also when it fails;
* `ThemeCompiler.Disk.Admits` — a path whose file and directories are among those that may change.

Main results:

* `ThemeCompiler.Disk.Touches.trans` — changes one after the other;
* `ThemeCompiler.Disk.Touches.read` — a file that is not among the written ones is kept;
* `ThemeCompiler.Disk.Touches.isThere`, `ThemeCompiler.Disk.Touches.isThere_before` — what is there
  before and afterwards;
* `ThemeCompiler.Disk.touches_makeDirs`, `ThemeCompiler.Disk.touches_write`,
  `ThemeCompiler.Disk.touches_copyFile` — what the operations change;
* `ThemeCompiler.Disk.write_of_read` — writing what is there changes nothing;
* `ThemeCompiler.Disk.Preserves.bind` — **the parts of an action**;
* `ThemeCompiler.Disk.preserves_makeDirs`, `ThemeCompiler.Disk.preserves_copyFile`,
  `ThemeCompiler.Disk.preserves_write` — operations as actions.
-/

import ThemeCompiler.Proofs.Files.Ways

set_option relaxedAutoImplicit false
set_option autoImplicit false

namespace ThemeCompiler

namespace Disk

variable {disk changed final : Disk} {files : List String → FileContent → Prop}
  {dirs : List String → Prop} {path : String}

/-! ### Changes -/

/-- **A disk on which only some files were written**, with some contents, **and some directories
made**, where nothing was before. -/
structure Touches (files : List String → FileContent → Prop) (dirs : List String → Prop)
    (disk changed : Disk) : Prop extends KeepsPaths disk changed where
  entry : ∀ name, changed.entry? name = disk.entry? name ∨
    (∃ content, files name content ∧ changed.entry? name = some (.file content)) ∨
    (dirs name ∧ disk.entry? name = none ∧ changed.entry? name = some .directory)

theorem Touches.refl (files : List String → FileContent → Prop) (dirs : List String → Prop)
    (disk : Disk) : Touches files dirs disk disk :=
  ⟨⟨rfl, fun _ h => h⟩, fun _ => .inl rfl⟩

/-- **Changes one after the other.** -/
theorem Touches.trans (h : Touches files dirs disk changed) (h' : Touches files dirs changed final) :
    Touches files dirs disk final := by
  refine ⟨h.toKeepsPaths.trans h'.toKeepsPaths, fun name => ?_⟩
  rcases h'.entry name with hsame | hwritten | ⟨hdir, hnone, hmade⟩
  · rcases h.entry name with hold | ⟨content, hfile, hcontent⟩ | ⟨hdir, hnone, hmade⟩
    · exact .inl (hsame.trans hold)
    · exact .inr (.inl ⟨content, hfile, hsame.trans hcontent⟩)
    · exact .inr (.inr ⟨hdir, hnone, hsame.trans hmade⟩)
  · exact .inr (.inl hwritten)
  · rcases h.entry name with hold | ⟨content, -, hcontent⟩ | ⟨-, -, hthere⟩
    · exact .inr (.inr ⟨hdir, hold ▸ hnone, hmade⟩)
    · rw [hnone] at hcontent
      exact absurd hcontent (by simp)
    · rw [hnone] at hthere
      exact absurd hthere (by simp)

/-- **A disk on which everything that was there still is**, maybe with other contents of files. -/
abbrev Grows (disk changed : Disk) : Prop := Touches (fun _ _ => True) (fun _ => True) disk changed

/-- What is not among the written files is kept. -/
theorem Touches.keeps {name : List String} (h : Touches files dirs disk changed)
    (hname : ∀ content, ¬ files name content) : Keeps name disk changed := by
  refine ⟨h.toKeepsPaths, fun e he => ?_⟩
  rcases h.entry name with hsame | ⟨content, hfile, -⟩ | ⟨-, hnone, -⟩
  · rw [hsame, he]
  · exact absurd hfile (hname content)
  · rw [he] at hnone
    exact absurd hnone (by simp)

theorem KeepsPaths.way (h : KeepsPaths disk changed) (path : String) :
    changed.way path = disk.way path := by
  rw [Disk.way, Disk.way, crossed, crossed, h.startOf, h.nameOf]

/-! ### Reading -/

/-- The file whose content is read. -/
theorem read_eq_ok {content : FileContent} :
    disk.read path = .ok content ↔
      ∃ name, disk.resolve path = .ok name ∧ disk.entry? name = some (.file content) := by
  rw [read]
  cases disk.resolve path with
  | error fault => simp [bind, Except.bind]
  | ok name =>
      cases hentry : disk.entry? name with
      | none => simp [bind, Except.bind, hentry, throw, throwThe, MonadExceptOf.throw]
      | some entry =>
          cases entry with
          | directory => simp [bind, Except.bind, hentry, throw, throwThe, MonadExceptOf.throw]
          | file other => simp [bind, Except.bind, hentry, pure, Except.pure]

theorem read_of_readText {text : String} (h : disk.readText path = .ok text) :
    disk.read path = .ok (.text text) :=
  read_eq_ok.2 (readText_eq_ok.1 h)

theorem readText_of_read {text : String} (h : disk.read path = .ok (.text text)) :
    disk.readText path = .ok text :=
  readText_eq_ok.2 (read_eq_ok.1 h)

/-- What is there has the name of its path. -/
theorem isThere_iff : disk.isThere path = true ↔
    disk.resolve path = .ok (disk.nameOf path) ∧ ∃ e, disk.entry? (disk.nameOf path) = some e := by
  rw [isThere]
  cases hname : disk.resolve path with
  | error fault => simp
  | ok name =>
      obtain rfl := eq_nameOf_of_resolve hname
      simp [Option.isSome_iff_exists]

theorem isThere_of_read {content : FileContent} (h : disk.read path = .ok content) :
    disk.isThere path = true := by
  obtain ⟨name, hname, hentry⟩ := read_eq_ok.1 h
  obtain rfl := eq_nameOf_of_resolve hname
  exact isThere_iff.2 ⟨hname, _, hentry⟩

/-- **A content that is kept** can be read again. -/
theorem Keeps.read {content : FileContent} (h : Keeps (disk.nameOf path) disk changed)
    (hread : disk.read path = .ok content) : changed.read path = .ok content := by
  obtain ⟨target, htarget, hentry⟩ := read_eq_ok.1 hread
  obtain rfl := eq_nameOf_of_resolve htarget
  exact read_eq_ok.2 ⟨_, h.resolve htarget, h.entry _ hentry⟩

/-- **A file that is not among the written ones** is kept. -/
theorem Touches.read {content : FileContent} (h : Touches files dirs disk changed)
    (hpath : ∀ content, ¬ files (disk.nameOf path) content) (hread : disk.read path = .ok content) :
    changed.read path = .ok content :=
  (h.keeps hpath).read hread

/-- A file stays there, with this or another content. -/
theorem Touches.exists_read {content : FileContent} (h : Touches files dirs disk changed)
    (hread : disk.read path = .ok content) : ∃ content, changed.read path = .ok content := by
  obtain ⟨name, hname, hentry⟩ := read_eq_ok.1 hread
  rcases h.entry name with hsame | ⟨new, -, hnew⟩ | ⟨-, hnone, -⟩
  · exact ⟨content, read_eq_ok.2 ⟨name, h.resolve hname, hsame.trans hentry⟩⟩
  · exact ⟨new, read_eq_ok.2 ⟨name, h.resolve hname, hnew⟩⟩
  · rw [hentry] at hnone
    exact absurd hnone (by simp)

/-- **What is there** stays there, with this or another content. -/
theorem Touches.isThere (h : Touches files dirs disk changed) (hthere : disk.isThere path = true) :
    changed.isThere path = true := by
  obtain ⟨hname, e, he⟩ := isThere_iff.1 hthere
  refine isThere_iff.2 ⟨h.nameOf path ▸ h.resolve hname, ?_⟩
  rw [h.nameOf]
  rcases h.entry (disk.nameOf path) with hsame | ⟨content, -, hcontent⟩ | ⟨-, -, hmade⟩
  · exact ⟨e, hsame.trans he⟩
  · exact ⟨_, hcontent⟩
  · exact ⟨_, hmade⟩

/-- **What is there afterwards** was there before, if nothing on its way was put where nothing was. -/
theorem Touches.isThere_before (h : Touches files dirs disk changed)
    (hway : ∀ n ∈ disk.way path, disk.entry? n = none → ¬ dirs n ∧ ∀ content, ¬ files n content)
    (hthere : changed.isThere path = true) : disk.isThere path = true := by
  have hold : ∀ n ∈ disk.way path, ∀ e, changed.entry? n = some e →
      ∃ old, disk.entry? n = some old ∧ (e = .directory → old = .directory) := by
    intro n hn e he
    cases hentry : disk.entry? n with
    | none =>
        obtain ⟨hdir, hfile⟩ := hway n hn hentry
        rcases h.entry n with hsame | ⟨content, hwritten, -⟩ | ⟨hmade, -, -⟩
        · rw [hsame, hentry] at he
          exact absurd he (by simp)
        · exact absurd hwritten (hfile content)
        · exact absurd hmade hdir
    | some old =>
        refine ⟨old, rfl, ?_⟩
        rintro rfl
        rcases h.entry n with hsame | ⟨content, -, hcontent⟩ | ⟨-, hnone, -⟩
        · rw [hsame, hentry] at he
          exact Option.some.inj he
        · rw [hcontent] at he
          exact absurd he (by simp)
        · rw [hentry] at hnone
          exact absurd hnone (by simp)
  obtain ⟨hname, e, he⟩ := isThere_iff.1 hthere
  obtain ⟨hempty, hpath, hcrossed, hnames, -⟩ := resolve_iff_crossed.1 hname
  obtain ⟨old, hentry, -⟩ := hold _ (nameOf_mem_way disk path) e (h.nameOf path ▸ he)
  refine isThere_iff.2 ⟨resolve_iff_crossed.2 ⟨hempty, hpath, fun n hn => ?_, hnames, rfl⟩, old, hentry⟩
  have hcrossed : changed.entry? n = some .directory := by
    refine hcrossed n ?_
    rwa [crossed, h.startOf]
  obtain ⟨entry, hdir, hsame⟩ := hold n (mem_way_iff.2 (.inl hn)) _ hcrossed
  rw [hdir, hsame rfl]

/-! ### Operations -/

theorem touches_put {name : List String} {content : FileContent} (hfile : files name content)
    (hdir : disk.entry? name ≠ some .directory) :
    Touches files dirs disk (disk.put name (.file content)) := by
  refine ⟨keepsPaths_put _ hdir, fun n => ?_⟩
  have hroot : name ≠ [] := fun h => hdir (by rw [h]; rfl)
  rw [entry?_put hroot]
  by_cases hn : n = name
  · rw [if_pos hn]
    exact .inr (.inl ⟨content, hn ▸ hfile, rfl⟩)
  · rw [if_neg hn]
    exact .inl rfl

theorem touches_put_directory {name : List String} (hdir : dirs name)
    (hnone : disk.entry? name = none) : Touches files dirs disk (disk.put name .directory) := by
  have hnot : disk.entry? name ≠ some .directory := by rw [hnone]; simp
  refine ⟨keepsPaths_put _ hnot, fun n => ?_⟩
  have hroot : name ≠ [] := fun h => hnot (by rw [h]; rfl)
  rw [entry?_put hroot]
  by_cases hn : n = name
  · rw [if_pos hn]
    exact .inr (.inr ⟨hn ▸ hdir, hn ▸ hnone, rfl⟩)
  · rw [if_neg hn]
    exact .inl rfl

theorem touches_makeAlong (names : List String) : ∀ (here : List String) (disk : Disk),
    (∀ n ∈ crossedFrom here names ++ [names.foldl advance here], dirs n) →
      Touches files dirs disk (disk.makeAlong here names).2 := by
  induction names with
  | nil => exact fun here disk _ => Touches.refl files dirs disk
  | cons name rest ih =>
      intro here disk hdirs
      rw [crossedFrom, List.cons_append, List.forall_mem_cons, List.foldl_cons] at hdirs
      have hnext : dirs (advance here name) := by
        refine hdirs.2 _ ?_
        cases rest with
        | nil => exact List.mem_cons_self
        | cons next more => exact List.mem_cons_self
      rw [advance] at hdirs hnext
      rw [makeAlong]
      split
      · next hdot =>
          rw [if_pos hdot] at hdirs
          exact ih here disk hdirs.2
      · next hdot =>
          rw [if_neg hdot] at hdirs hnext
          split
          · next hup =>
              rw [if_pos hup] at hdirs
              exact ih here.dropLast disk hdirs.2
          · next hup =>
              rw [if_neg hup] at hdirs hnext
              split
              · exact Touches.refl files dirs disk
              · dsimp only
                split
                · exact ih (here ++ [name]) disk hdirs.2
                · exact Touches.refl files dirs disk
                · next hnone =>
                    exact (touches_put_directory hnext hnone).trans (ih (here ++ [name]) _ hdirs.2)

/-- **Making directories** puts directories on the way of the path. -/
theorem touches_makeDirs (hdirs : ∀ n ∈ disk.way path, dirs n) :
    Touches files dirs disk (disk.makeDirs path).2 := by
  rw [makeDirs]
  split
  · exact touches_makeAlong _ _ disk hdirs
  · exact Touches.refl files dirs disk

/-- **Writing** changes the file that the path leads to. -/
theorem touches_write {content : FileContent} (hwrite : disk.write path content = .ok changed)
    (hfile : files (disk.nameOf path) content) : Touches files dirs disk changed := by
  obtain ⟨target, htarget, hdir, rfl⟩ := exists_of_write hwrite
  obtain rfl := eq_nameOf_of_resolve htarget
  exact touches_put hfile hdir

/-- An entry that is there is put in its own place. -/
theorem putEntry_of_lookup {name : List String} {entry : Entry}
    {entries : List (List String × Entry)} (h : entries.lookup name = some entry) :
    putEntry name entry entries = entries := by
  induction entries with
  | nil => exact absurd h (by simp)
  | cons e entries ih =>
      obtain ⟨m, old⟩ := e
      rw [lookup_cons_eq_ite] at h
      rw [putEntry]
      by_cases hm : name = m
      · rw [if_pos hm] at h
        rw [if_pos (beq_iff_eq.2 hm.symm), hm, Option.some.inj h]
      · rw [if_neg hm] at h
        rw [if_neg (fun heq => hm (beq_iff_eq.1 heq).symm), ih h]

/-- **Writing what is there** changes nothing. -/
theorem write_of_read {content : FileContent} (h : disk.read path = .ok content) :
    disk.write path content = .ok disk := by
  obtain ⟨name, hname, hentry⟩ := read_eq_ok.1 h
  have hput : disk.put name (.file content) = disk := by
    rw [ entry?] at hentry
    split at hentry
    · exact absurd hentry (by simp)
    · rw [put, putEntry_of_lookup hentry]
  rw [write, hname]
  simp [bind, Except.bind, hentry, hput, pure, Except.pure]

/-- **What was written** can be read. -/
theorem read_write {content : FileContent} (h : disk.write path content = .ok changed) :
    changed.read path = .ok content := by
  obtain ⟨target, htarget, hdir, rfl⟩ := exists_of_write h
  have hroot : target ≠ [] := fun h => hdir (by rw [h]; rfl)
  refine read_eq_ok.2 ⟨target, (keepsPaths_put _ hdir).resolve htarget, ?_⟩
  rw [entry?_put hroot, if_pos rfl]

/-- Something can be written where something is. -/
theorem exists_write_of_read {content : FileContent} (h : disk.read path = .ok content)
    (new : FileContent) : ∃ changed, disk.write path new = .ok changed := by
  obtain ⟨name, hname, hentry⟩ := read_eq_ok.1 h
  refine ⟨disk.put name (.file new), ?_⟩
  rw [write, hname]
  simp [bind, Except.bind, hentry, pure, Except.pure]

/-- What is copied was read. -/
theorem exists_of_copyFile {source : String} (h : disk.copyFile source path = .ok changed) :
    ∃ content, disk.read source = .ok content ∧ disk.write path content = .ok changed := by
  rw [copyFile] at h
  cases hread : disk.read source with
  | error fault =>
      rw [hread] at h
      exact absurd h (by simp [bind, Except.bind])
  | ok content =>
      rw [hread] at h
      exact ⟨content, rfl, h⟩

/-- **Copying** changes the file that the path of the copy leads to. -/
theorem touches_copyFile {source : String} (hcopy : disk.copyFile source path = .ok changed)
    (hfile : ∀ content, disk.read source = .ok content → files (disk.nameOf path) content) :
    Touches files dirs disk changed := by
  obtain ⟨content, hread, hwrite⟩ := exists_of_copyFile hcopy
  exact touches_write hwrite (hfile content hread)

/-! ### Actions -/

section

variable {ε α β : Type} {P : Disk → Prop}

/-- **The disk that an action leaves**, whatever its outcome. -/
def after (action : ExceptT ε (StateM Disk) α) (disk : Disk) : Disk := (action.run.run disk).2

/-- **An action that keeps a property of the disk**, also when it fails. -/
def Preserves (P : Disk → Prop) (action : ExceptT ε (StateM Disk) α) : Prop :=
  ∀ disk, P disk → P (after action disk)

theorem after_eq {action : ExceptT ε (StateM Disk) α} {result : Except ε α}
    (h : action.run.run disk = (result, changed)) : after action disk = changed := by
  rw [after, h]

/-- A run that gives a result. -/
theorem exists_run_of_isOk {run : Except ε α × Disk} (h : run.1.isOk = true) :
    ∃ changed a, run = (.ok a, changed) := by
  obtain ⟨result, changed⟩ := run
  cases result with
  | error e => exact absurd h (by simp [Except.isOk, Except.toBool])
  | ok a => exact ⟨changed, a, rfl⟩

/-- Where the first part fails nothing follows. -/
theorem run_bind_error {action : ExceptT ε (StateM Disk) α} {next : α → ExceptT ε (StateM Disk) β}
    {e : ε} (h : action.run.run disk = (.error e, changed)) :
    (action >>= next).run.run disk = (.error e, changed) := by
  have hrun : (action >>= next).run.run disk =
      (ExceptT.bindCont next (action.run.run disk).1).run (action.run.run disk).2 := rfl
  rw [hrun, h]
  rfl

/-- Where the first part succeeds the second one follows. -/
theorem run_bind_ok {action : ExceptT ε (StateM Disk) α} {next : α → ExceptT ε (StateM Disk) β}
    {a : α} (h : action.run.run disk = (.ok a, changed)) :
    (action >>= next).run.run disk = (next a).run.run changed := by
  have hrun : (action >>= next).run.run disk =
      (ExceptT.bindCont next (action.run.run disk).1).run (action.run.run disk).2 := rfl
  rw [hrun, h]
  rfl

/-- **An action with two parts** succeeds when they do, one after the other. -/
theorem run_bind_eq_ok_iff {action : ExceptT ε (StateM Disk) α}
    {next : α → ExceptT ε (StateM Disk) β} {b : β} :
    (action >>= next).run.run disk = (.ok b, changed) ↔
      ∃ a mid, action.run.run disk = (.ok a, mid) ∧ (next a).run.run mid = (.ok b, changed) := by
  cases hfirst : action.run.run disk with
  | mk first mid =>
      cases first with
      | error e =>
          rw [run_bind_error hfirst]
          constructor
          · exact fun h => absurd (Prod.mk.inj h).1 (by simp)
          · rintro ⟨a, last, h, -⟩
            exact absurd (Prod.mk.inj h).1 (by simp)
      | ok a =>
          rw [run_bind_ok hfirst]
          constructor
          · exact fun h => ⟨a, mid, rfl, h⟩
          · rintro ⟨b, last, h, hnext⟩
            obtain ⟨hvalue, rfl⟩ := Prod.mk.inj h
            obtain rfl := Except.ok.inj hvalue
            exact hnext

theorem preserves_pure (a : α) : Preserves P (pure a : ExceptT ε (StateM Disk) α) :=
  fun _ h => h

/-- **An action with two parts** keeps what both keep. -/
theorem Preserves.bind {action : ExceptT ε (StateM Disk) α}
    {next : α → ExceptT ε (StateM Disk) β} (hfirst : Preserves P action)
    (hnext : ∀ a, Preserves P (next a)) : Preserves P (action >>= next) := by
  intro disk hdisk
  have hmid := hfirst disk hdisk
  cases hrun : action.run.run disk with
  | mk result mid =>
      rw [after_eq hrun] at hmid
      cases result with
      | error e => rwa [after_eq (run_bind_error hrun)]
      | ok a =>
          rw [after, run_bind_ok hrun]
          exact hnext a mid hmid

/-- What comes of an operation whose fault is an error, and the disk after it. -/
theorem run_orThrow (fail : FileFault → ε) (operation : StateM Disk (Except FileFault α))
    (disk : Disk) :
    (FileStore.orThrow fail operation).run.run disk =
      ((operation.run disk).1.mapError fail, (operation.run disk).2) := by
  have hrun : (FileStore.orThrow fail operation).run =
      operation >>= fun result => pure (result.mapError fail) := by
    refine congrArg (operation >>= ·) (funext fun result => ?_)
    cases result <;> rfl
  rw [hrun]
  rfl

theorem preserves_orThrow {fail : FileFault → ε} {operation : StateM Disk (Except FileFault α)}
    (h : ∀ disk, P disk → P (operation.run disk).2) :
    Preserves P (FileStore.orThrow fail operation) := by
  intro disk hdisk
  rw [after_eq (run_orThrow fail operation disk)]
  exact h disk hdisk

theorem preserves_readText (fail : FileFault → ε) (path : String) :
    Preserves P (FileStore.orThrow fail (FileStore.readText (m := StateM Disk) path)) :=
  preserves_orThrow fun _ h => h

theorem preserves_makeDirs {fail : FileFault → ε} (hdirs : ∀ n ∈ disk.way path, dirs n) :
    Preserves (Touches files dirs disk)
      (FileStore.orThrow fail (FileStore.makeDirs (m := StateM Disk) path)) := by
  refine preserves_orThrow fun mid hmid => hmid.trans (touches_makeDirs ?_)
  rwa [hmid.way]

theorem preserves_writeText {fail : FileFault → ε} {text : String}
    (hfile : files (disk.nameOf path) (.text text)) :
    Preserves (Touches files dirs disk)
      (FileStore.orThrow fail (FileStore.writeText (m := StateM Disk) path text)) := by
  refine preserves_orThrow fun mid hmid => ?_
  change Touches files dirs disk (mid.outcome (mid.write path (.text text))).2
  cases hwrite : mid.write path (.text text) with
  | error fault => exact hmid
  | ok changed => exact hmid.trans (touches_write hwrite (by rwa [hmid.nameOf]))

theorem preserves_copyFile {fail : FileFault → ε}
    (hfile : ∀ content, files (disk.nameOf path) content) (source : String) :
    Preserves (Touches files dirs disk)
      (FileStore.orThrow fail (FileStore.copyFile (m := StateM Disk) source path)) := by
  refine preserves_orThrow fun mid hmid => ?_
  change Touches files dirs disk (mid.outcome (mid.copyFile source path)).2
  cases hcopy : mid.copyFile source path with
  | error fault => exact hmid
  | ok changed =>
      refine hmid.trans (touches_copyFile hcopy fun content _ => ?_)
      rw [hmid.nameOf]
      exact hfile content

/-- **A path at which a content may be put**: the file is among some files, and the directories that
it crosses are among some directories. -/
structure Admits (files : List String → FileContent → Prop) (dirs : List String → Prop) (disk : Disk)
    (path : String) (content : FileContent) : Prop where
  file : files (disk.nameOf path) content
  dirs : ∀ n ∈ disk.crossed path, dirs n

/-- **Writing a file with the directories before it** changes this file and these directories. -/
theorem preserves_write {directory : String → FileFault → ε} {file : FileFault → ε} {text : String}
    (h : disk.Admits files dirs path (.text text)) :
    Preserves (Touches files dirs disk) (do
      if let some parent := Path.parent? path then
        FileStore.orThrow (directory parent) (FileStore.makeDirs (m := StateM Disk) parent)
      FileStore.orThrow file (FileStore.writeText path text)) := by
  split
  · next parent hparent =>
      refine Preserves.bind (preserves_makeDirs fun n hn => ?_) fun _ => preserves_writeText h.file
      exact h.dirs n (mem_crossed_of_mem_way_parent hparent hn)
  · exact preserves_writeText h.file

end

end Disk

end ThemeCompiler
