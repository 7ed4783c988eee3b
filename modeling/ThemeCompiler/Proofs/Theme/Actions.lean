/-
**Actions on the disk of a workspace.**

An action succeeds when all its parts do, one after the other.  Putting a text into a file keeps what
has another name, and the files of the shell have different names below the theme; so the text that
declares the assets is kept while the others are written.  After the shell was put into a theme that
text is there and is no stub.

Main definitions:

* `ThemeCompiler.Workspace.Succeeds`, `ThemeCompiler.Workspace.Fails` — an action that succeeds or
  fails on a disk.

Main results:

* `ThemeCompiler.Workspace.succeeds_bind`, `ThemeCompiler.Workspace.fails_bind` — the parts of an
  action;
* `ThemeCompiler.Workspace.endsInName_themeDir` — the path of a theme;
* `ThemeCompiler.Workspace.keeps_putStub`, `ThemeCompiler.Workspace.exists_readText_putStub` — what is
  kept while a text is put somewhere, and what is there then;
* `ThemeCompiler.Workspace.exists_readText_ensureShell` — **the declarations after the shell**.
-/

import ThemeCompiler.Proofs.Attempts
import ThemeCompiler.Proofs.Files.Effects
import ThemeCompiler.Proofs.Theme.Lines
import ThemeCompiler.Theme.Enqueue
import ThemeCompiler.Theme.Shell

set_option relaxedAutoImplicit false
set_option autoImplicit false

namespace ThemeCompiler

namespace Workspace

/-! ### Success -/

section

variable {α β : Type} {disk changed : Disk}

/-- **An action that succeeds** on a disk, with a value and the disk after it. -/
def Succeeds (action : Action (StateM Disk) α) (disk : Disk) (value : α) (changed : Disk) : Prop :=
  action.run.run disk = (.ok value, changed)

/-- The outcome and the disk of a run, computed. -/
theorem succeeds_of_run {action : Action (StateM Disk) Unit}
    (h : ((action.run.run disk).1.isOk, (action.run.run disk).2) = (true, changed)) :
    Succeeds action disk () changed := by
  obtain ⟨hok, rfl⟩ := Prod.mk.inj h
  obtain ⟨_, _, hrun⟩ := Disk.exists_run_of_isOk hok
  rw [Succeeds, hrun]

theorem succeeds_pure {a value : α} :
    Succeeds (pure a) disk value changed ↔ value = a ∧ changed = disk := by
  constructor
  · intro h
    obtain ⟨hvalue, rfl⟩ := Prod.mk.inj h
    exact ⟨(Except.ok.inj hvalue).symm, rfl⟩
  · rintro ⟨rfl, rfl⟩
    rfl

/-- An action has one outcome. -/
theorem Succeeds.unique {action : Action (StateM Disk) α} {a b : α} {mid last : Disk}
    (h : Succeeds action disk a mid) (h' : Succeeds action disk b last) : a = b ∧ mid = last := by
  obtain ⟨hvalue, hdisk⟩ := Prod.mk.inj (Eq.trans (Eq.symm h) h')
  exact ⟨Except.ok.inj hvalue, hdisk⟩

/-- **An action with two parts** succeeds when they do, one after the other. -/
theorem succeeds_bind {action : Action (StateM Disk) α} {next : α → Action (StateM Disk) β}
    {value : β} :
    Succeeds (action >>= next) disk value changed ↔
      ∃ a mid, Succeeds action disk a mid ∧ Succeeds (next a) mid value changed :=
  Disk.run_bind_eq_ok_iff

/-- What the first part does is known. -/
theorem Succeeds.bind_iff {action : Action (StateM Disk) α} {next : α → Action (StateM Disk) β}
    {a : α} {mid : Disk} {value : β} (hfirst : Succeeds action disk a mid) :
    Succeeds (action >>= next) disk value changed ↔ Succeeds (next a) mid value changed := by
  rw [succeeds_bind]
  constructor
  · rintro ⟨b, last, hother, hnext⟩
    obtain ⟨rfl, rfl⟩ := hfirst.unique hother
    exact hnext
  · exact fun hnext => ⟨a, mid, hfirst, hnext⟩

theorem succeeds_attempt {operation : StateM Disk (Except FileFault α)} {value : α} :
    Succeeds (attempt operation) disk value changed ↔ operation.run disk = (.ok value, changed) := by
  rw [Succeeds, attempt, Disk.run_orThrow, Prod.ext_iff, Prod.ext_iff]
  exact and_congr_left' mapError_eq_ok_iff

theorem succeeds_isThere {path : String} {value : Bool} :
    Succeeds (isThere path) disk value changed ↔ value = disk.isThere path ∧ changed = disk := by
  have hrun : (isThere (m := StateM Disk) path).run.run disk = (.ok (disk.isThere path), disk) := rfl
  rw [Succeeds, hrun]
  constructor
  · intro h
    obtain ⟨hvalue, rfl⟩ := Prod.mk.inj h
    exact ⟨(Except.ok.inj hvalue).symm, rfl⟩
  · rintro ⟨rfl, rfl⟩
    rfl

theorem succeeds_ofExcept {result : Except CompileError α} {value : α} :
    Succeeds (MonadExcept.ofExcept result) disk value changed ↔
      result = .ok value ∧ changed = disk := by
  cases result with
  | error e =>
      refine ⟨fun h => ?_, fun h => absurd h.1 (by simp)⟩
      exact absurd (Prod.mk.inj h).1 (by simp)
  | ok a =>
      refine Iff.trans (succeeds_pure (a := a)) ?_
      rw [Except.ok.injEq, eq_comm]

theorem succeeds_readText {path text : String} :
    Succeeds (attempt (FileStore.readText path)) disk text changed ↔
      disk.readText path = .ok text ∧ changed = disk := by
  rw [succeeds_attempt]
  change (disk.readText path, disk) = (.ok text, changed) ↔ _
  rw [Prod.mk.injEq, eq_comm (a := disk)]

theorem run_outcome {result : Except FileFault Disk} :
    disk.outcome result = (.ok (), changed) ↔ result = .ok changed := by
  cases result <;> simp [Disk.outcome]

theorem succeeds_writeText {path text : String} :
    Succeeds (attempt (FileStore.writeText path text)) disk () changed ↔
      disk.write path (.text text) = .ok changed :=
  succeeds_attempt.trans run_outcome

theorem succeeds_makeDirs {path : String} :
    Succeeds (attempt (FileStore.makeDirs path)) disk () changed ↔
      disk.makeDirs path = (.ok (), changed) :=
  succeeds_attempt

theorem succeeds_copyFile {source target : String} :
    Succeeds (attempt (FileStore.copyFile source target)) disk () changed ↔
      disk.copyFile source target = .ok changed :=
  succeeds_attempt.trans run_outcome

end

/-! ### Failure -/

section

variable {α β : Type} {disk changed : Disk} {action : Action (StateM Disk) α}
  {next : α → Action (StateM Disk) β}

/-- **An action that fails** on a disk, with the disk after it. -/
def Fails (action : Action (StateM Disk) α) (disk changed : Disk) : Prop :=
  ∃ e, action.run.run disk = (.error e, changed)

theorem fails_iff_of_run {e : CompileError} {mid : Disk}
    (h : action.run.run disk = (.error e, mid)) : Fails action disk changed ↔ changed = mid := by
  constructor
  · rintro ⟨e', herror⟩
    exact (Prod.mk.inj (herror.symm.trans h)).2
  · rintro rfl
    exact ⟨e, h⟩

theorem Fails.after_eq (h : Fails action disk changed) : Disk.after action disk = changed := by
  obtain ⟨e, h⟩ := h
  exact Disk.after_eq h

theorem Succeeds.after_eq {a : α} (h : Succeeds action disk a changed) :
    Disk.after action disk = changed :=
  Disk.after_eq h

theorem Succeeds.preserves {P : Disk → Prop} {a : α} (h : Succeeds action disk a changed)
    (hkept : Disk.Preserves P action) (hdisk : P disk) : P changed :=
  h.after_eq ▸ hkept disk hdisk

theorem Succeeds.not_fails {a : α} {mid : Disk} (h : Succeeds action disk a mid) :
    ¬ Fails action disk changed := by
  rintro ⟨e, herror⟩
  exact absurd (Prod.mk.inj (Eq.trans (Eq.symm h) herror)).1 (by simp)

/-- **An action succeeds or fails.** -/
theorem succeeds_or_fails (action : Action (StateM Disk) α) (disk : Disk) :
    (∃ a changed, Succeeds action disk a changed) ∨ ∃ changed, Fails action disk changed := by
  cases hrun : action.run.run disk with
  | mk result changed =>
      cases result with
      | error e => exact .inr ⟨changed, e, hrun⟩
      | ok a => exact .inl ⟨a, changed, hrun⟩

/-- **An action with two parts** fails when one of them does. -/
theorem fails_bind : Fails (action >>= next) disk changed ↔
    Fails action disk changed ∨
      ∃ a mid, Succeeds action disk a mid ∧ Fails (next a) mid changed := by
  rcases succeeds_or_fails action disk with ⟨a, mid, hfirst⟩ | ⟨mid, e, hfirst⟩
  · rw [Fails, Disk.run_bind_ok hfirst, or_iff_right (Succeeds.not_fails hfirst)]
    constructor
    · exact fun h => ⟨a, mid, hfirst, h⟩
    · rintro ⟨b, last, hother, h⟩
      obtain ⟨rfl, rfl⟩ := Succeeds.unique hfirst hother
      exact h
  · rw [fails_iff_of_run (Disk.run_bind_error hfirst), fails_iff_of_run hfirst, or_iff_left]
    rintro ⟨b, last, hother, -⟩
    exact hother.not_fails ⟨e, hfirst⟩

/-- What the first part does is known. -/
theorem Succeeds.fails_bind_iff {a : α} {mid : Disk} (hfirst : Succeeds action disk a mid) :
    Fails (action >>= next) disk changed ↔ Fails (next a) mid changed := by
  rw [fails_bind, or_iff_right hfirst.not_fails]
  constructor
  · rintro ⟨b, last, hother, h⟩
    obtain ⟨rfl, rfl⟩ := hfirst.unique hother
    exact h
  · exact fun h => ⟨a, mid, hfirst, h⟩

theorem not_fails_pure {a : α} : ¬ Fails (pure a) disk changed :=
  Succeeds.not_fails (succeeds_pure.2 ⟨rfl, rfl⟩)

theorem fails_attempt {operation : StateM Disk (Except FileFault α)} :
    Fails (attempt operation) disk changed ↔
      ∃ fault, operation.run disk = (.error fault, changed) := by
  have hrun : (attempt operation).run.run disk = _ :=
    Disk.run_orThrow CompileError.file operation disk
  rcases hresult : operation.run disk with ⟨fault | value, last⟩
  · rw [hresult] at hrun
    rw [fails_iff_of_run hrun]
    constructor
    · rintro rfl
      exact ⟨fault, rfl⟩
    · rintro ⟨_, h⟩
      exact (Prod.mk.inj h).2.symm
  · rw [hresult] at hrun
    constructor
    · exact fun h => absurd h (Succeeds.not_fails hrun)
    · rintro ⟨_, h⟩
      exact absurd (Prod.mk.inj h).1 (by simp)

theorem fails_writeText {path text : String} :
    Fails (attempt (FileStore.writeText path text)) disk changed ↔
      changed = disk ∧ ∃ fault, disk.write path (.text text) = .error fault := by
  rw [fails_attempt]
  change (∃ fault, disk.outcome (disk.write path (.text text)) = (.error fault, changed)) ↔ _
  cases disk.write path (.text text) with
  | error fault => simp [Disk.outcome, eq_comm]
  | ok last => simp [Disk.outcome]

theorem fails_makeDirs {path : String} :
    Fails (attempt (FileStore.makeDirs path)) disk changed ↔
      ∃ fault, disk.makeDirs path = (.error fault, changed) :=
  fails_attempt

end

/-! ### Files of a theme -/

variable {disk changed : Disk} {theme text : String} {name : List String}

/-- **The path of a theme** ends in a name. -/
theorem endsInName_themeDir {w : Workspace} {project : String}
    (h : w.themeDir project = .ok theme) : Path.EndsInName theme := by
  have hname : Path.EndsInName "theme" := ⟨'e', rfl, by decide⟩
  rw [themeDir] at h
  split at h
  · exact absurd h (by simp)
  · rw [← Except.ok.inj h, Path.join]
    split
    · exact hname
    split
    · exact hname.append
    · exact hname.append

/-- Putting a text elsewhere keeps an entry. -/
theorem keeps_putFile {path content : String}
    (h : Succeeds (putFile path content) disk () changed) (hother : disk.nameOf path ≠ name) :
    Disk.Keeps name disk changed := by
  rw [putFile] at h
  split at h
  · next parent hparent =>
      obtain ⟨_, mid, hdirs, hwrite⟩ := succeeds_bind.1 h
      have hkeeps := Disk.keeps_makeDirs name disk parent
      rw [succeeds_makeDirs.1 hdirs] at hkeeps
      refine hkeeps.trans (Disk.keeps_write (succeeds_writeText.1 hwrite) ?_)
      rwa [hkeeps.nameOf]
  · exact Disk.keeps_write (succeeds_writeText.1 h) hother

/-- What was put there can be read. -/
theorem readText_putFile {path content : String}
    (h : Succeeds (putFile path content) disk () changed) :
    changed.readText path = .ok content := by
  rw [putFile] at h
  split at h
  · obtain ⟨_, mid, -, hwrite⟩ := succeeds_bind.1 h
    exact Disk.readText_write (succeeds_writeText.1 hwrite)
  · exact Disk.readText_write (succeeds_writeText.1 h)

/-- What the check of a file says. -/
theorem succeeds_isReplaceable {path : String} {marks : List String} {value : Bool}
    (h : Succeeds (isReplaceable path marks) disk value changed) : changed = disk ∧
      (value = false → ∃ text, disk.readText path = .ok text ∧ isStub marks text = false) := by
  rw [isReplaceable, (succeeds_isThere.2 ⟨rfl, rfl⟩).bind_iff] at h
  split at h
  · obtain ⟨text, _, hread, hvalue⟩ := succeeds_bind.1 h
    obtain ⟨hread, rfl⟩ := succeeds_readText.1 hread
    obtain ⟨rfl, rfl⟩ := succeeds_pure.1 hvalue
    exact ⟨rfl, fun hstub => ⟨text, hread, hstub⟩⟩
  · obtain ⟨rfl, rfl⟩ := succeeds_pure.1 h
    exact ⟨rfl, fun hfalse => absurd hfalse (by simp)⟩

/-- **Putting a text elsewhere** keeps an entry, also where a file is not replaced. -/
theorem keeps_putStub {path content : String} {marks : List String}
    (h : Succeeds (putStub path content marks) disk () changed)
    (hother : disk.nameOf path ≠ name) : Disk.Keeps name disk changed := by
  rw [putStub] at h
  obtain ⟨may, mid, hmay, hput⟩ := succeeds_bind.1 h
  obtain rfl := (succeeds_isReplaceable hmay).1
  split at hput
  · exact keeps_putFile hput hother
  · rw [(succeeds_pure.1 hput).2]
    exact Disk.Keeps.refl name mid

/-- **After a text was put into a file** this holds no stub, if the text is none. -/
theorem exists_readText_putStub {path content : String} {marks : List String}
    (h : Succeeds (putStub path content marks) disk () changed)
    (hcontent : isStub marks content = false) :
    ∃ text, changed.readText path = .ok text ∧ isStub marks text = false := by
  rw [putStub] at h
  obtain ⟨may, mid, hmay, hput⟩ := succeeds_bind.1 h
  obtain ⟨rfl, hkept⟩ := succeeds_isReplaceable hmay
  split at hput
  · exact ⟨content, readText_putFile hput, hcontent⟩
  · next hnot =>
      rw [(succeeds_pure.1 hput).2]
      exact hkept (Bool.eq_false_iff.2 hnot)

/-- A file that is no stub is left as it is. -/
theorem succeeds_putStub_kept {path content text : String} {marks : List String}
    (hread : disk.readText path = .ok text) (hstub : isStub marks text = false) :
    Succeeds (putStub path content marks) disk () disk := by
  have hcheck : Succeeds (isReplaceable path marks) disk false disk := by
    rw [isReplaceable, (succeeds_isThere.2 ⟨rfl, rfl⟩).bind_iff, Disk.isThere_of_readText hread,
      if_pos rfl, (succeeds_readText.2 ⟨hread, rfl⟩).bind_iff, hstub]
    exact succeeds_pure.2 ⟨rfl, rfl⟩
  exact hcheck.bind_iff.2 (succeeds_pure.2 ⟨rfl, rfl⟩)

/-- A file that is not there is put there. -/
theorem succeeds_putStub_new {path content parent : String} {marks : List String} {made : Disk}
    (hpath : disk.isThere path = false) (hparent : Path.parent? path = some parent)
    (hmake : disk.makeDirs parent = (.ok (), made))
    (hwrite : made.write path (.text content) = .ok changed) :
    Succeeds (putStub path content marks) disk () changed := by
  have hcheck : Succeeds (isReplaceable path marks) disk true disk := by
    rw [isReplaceable, (succeeds_isThere.2 ⟨rfl, rfl⟩).bind_iff, hpath]
    exact succeeds_pure.2 ⟨rfl, rfl⟩
  rw [putStub, hcheck.bind_iff, if_pos rfl, putFile, hparent]
  exact (succeeds_makeDirs.2 hmake).bind_iff.2 (succeeds_writeText.2 hwrite)

/-! ### The shell -/

theorem enqueuePath_eq (h : Path.EndsInName theme) :
    enqueuePath theme = theme ++ "/" ++ "inc/enqueue.php" := by
  have hinc : Path.EndsInName (theme ++ "/" ++ "inc") :=
    Path.EndsInName.append ⟨'c', rfl, by decide⟩
  have hfile : "inc/enqueue.php" = "inc" ++ "/" ++ "enqueue.php" := by decide
  rw [enqueuePath, Path.join_eq h (by rfl), Path.join_eq hinc (by rfl), hfile]
  simp only [String.append_assoc]

/-- The file of declarations is one of the shell. -/
theorem join_enqueue (h : Path.EndsInName theme) :
    Path.join theme Shell.File.enqueue.path = enqueuePath theme := by
  rw [enqueuePath_eq h, Path.join_eq h (by rfl)]
  rfl

/-- **The name of the file of declarations.** -/
theorem nameOf_enqueuePath (h : Path.EndsInName theme) :
    disk.nameOf (enqueuePath theme) = disk.nameOf theme ++ ["inc", "enqueue.php"] := by
  rw [enqueuePath_eq h, Disk.nameOf_below h]
  simp [Path.pieces, Text.splitAtChars, Disk.advance]

/-- The declarations are in a file of their own. -/
theorem nameOf_shell_ne (h : Path.EndsInName theme) {file : Shell.File} (hfile : file ≠ .enqueue) :
    disk.nameOf (Path.join theme file.path) ≠ disk.nameOf (enqueuePath theme) := by
  rw [nameOf_enqueuePath h, Path.join_eq h (by cases file <;> rfl), Disk.nameOf_below h]
  cases file with
  | enqueue => exact absurd rfl hfile
  | _ => simp [Shell.File.path, Path.pieces, Text.splitAtChars, Disk.advance]

/-- The text of the declarations is no stub. -/
theorem isStub_enqueuePhp : isStub Shell.marks Shell.enqueuePhp = false := by
  rw [isStub, Bool.or_eq_false_iff, Shell.enqueuePhp]
  constructor
  · rw [Text.isBlankText, List.all_eq_false, Shell.toList_lines_cons]
    exact ⟨'<', List.mem_append_left _ (by decide), by decide⟩
  · have hmarks : ∀ mark ∈ Shell.marks, Shell.IsLine mark ∧ mark.toList ≠ [] := by decide
    rw [List.any_eq_false]
    intro mark hmark
    rw [Shell.contains_lines (hmarks mark hmark).1 (hmarks mark hmark).2]
    revert mark
    decide +kernel

theorem exists_readText_putShell {project : String} (htheme : Path.EndsInName theme)
    {files : List Shell.File} (h : Succeeds (putShell theme project files) disk () changed)
    (hthere : .enqueue ∈ files ∨
      ∃ text, disk.readText (enqueuePath theme) = .ok text ∧ isStub Shell.marks text = false) :
    ∃ text, changed.readText (enqueuePath theme) = .ok text ∧ isStub Shell.marks text = false := by
  induction files generalizing disk with
  | nil =>
      rw [(succeeds_pure.1 h).2]
      exact hthere.resolve_left List.not_mem_nil
  | cons file files ih =>
      obtain ⟨_, mid, hput, hrest⟩ := succeeds_bind.1 h
      refine ih hrest ?_
      by_cases hfile : file = .enqueue
      · subst hfile
        exact .inr (join_enqueue htheme ▸ exists_readText_putStub hput isStub_enqueuePhp)
      · refine hthere.imp (fun hmem => ?_) fun ⟨text, hread, hstub⟩ => ⟨text, ?_, hstub⟩
        · exact (List.mem_cons.1 hmem).resolve_left (Ne.symm hfile)
        · exact (keeps_putStub hput (nameOf_shell_ne htheme hfile)).readText hread

/-- **After the shell was put into a theme** there is a text of declarations that is no stub. -/
theorem exists_readText_ensureShell {w : Workspace} {project : String}
    (h : Succeeds (w.ensureShell project) disk () changed) :
    ∃ theme text, w.themeDir project = .ok theme ∧
      changed.readText (enqueuePath theme) = .ok text ∧ isStub Shell.marks text = false := by
  obtain ⟨theme, mid, hdir, hput⟩ := succeeds_bind.1 h
  obtain ⟨htheme, rfl⟩ := succeeds_ofExcept.1 hdir
  obtain ⟨text, hread, hstub⟩ :=
    exists_readText_putShell (endsInName_themeDir htheme) hput (.inl (by decide))
  exact ⟨theme, text, htheme, hread, hstub⟩

end Workspace

end ThemeCompiler
