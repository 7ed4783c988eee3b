/-
**Customized files are kept.**

A file that somebody has edited is no stub, and neither the shell nor the layout is put over it, also
where a call fails at another file.  After the shell was put into a theme, each of its files up to the
one where the call failed is settled: it is no stub, or holds what would be put there.  So a second
call changes nothing, and fails at the same file.

Main definitions:

* `ThemeCompiler.Workspace.Settled` — a file that is not changed by putting a text into it;
* `ThemeCompiler.Workspace.Customized` — a content that is no stub;
* `ThemeCompiler.Workspace.IsWritten` — the files that the shell and the layout are put into.

Main results:

* `ThemeCompiler.Workspace.Fails.putStub_again` — what could not be put into a file cannot be put there
  the second time;
* `ThemeCompiler.Workspace.after_ensureShell_again` — **the shell a second time**;
* `ThemeCompiler.Workspace.kept_afterCalls` — **customized files, and all others, are kept**.
-/

import ThemeCompiler.Proofs.Theme.Writers

set_option relaxedAutoImplicit false
set_option autoImplicit false

namespace ThemeCompiler

namespace Workspace

variable {w : Workspace} {disk changed : Disk} {project theme path content : String}
  {marks : List String}

/-! ### Putting a text into a file -/

/-- The check of a file changes nothing. -/
theorem Fails.isReplaceable (h : Fails (isReplaceable path marks) disk changed) : changed = disk := by
  have hsame := preserves_isReplaceable (P := (· = disk)) path marks disk rfl
  rwa [h.after_eq] at hsame

/-- **A file that cannot be written** cannot be written the second time, when the directories before it
were made as far as they can be. -/
theorem Fails.putFile_again (h : Fails (putFile path content) disk changed) :
    Fails (putFile path content) changed changed := by
  rw [putFile] at h ⊢
  split at h
  · next parent hparent =>
      rcases fails_bind.1 h with hdirs | ⟨_, made, hdirs, hwrite⟩
      · obtain ⟨fault, hdirs⟩ := fails_makeDirs.1 hdirs
        have hagain := Disk.makeDirs_again disk parent
        rw [hdirs] at hagain
        exact fails_bind.2 (.inl (fails_makeDirs.2 ⟨fault, hagain⟩))
      · have hdirs := succeeds_makeDirs.1 hdirs
        obtain ⟨rfl, hfault⟩ := fails_writeText.1 hwrite
        have hagain := Disk.makeDirs_again disk parent
        rw [hdirs] at hagain
        exact fails_bind.2
          (.inr ⟨(), changed, succeeds_makeDirs.2 hagain, fails_writeText.2 ⟨rfl, hfault⟩⟩)
  · obtain ⟨rfl, hfault⟩ := fails_writeText.1 h
    exact fails_writeText.2 ⟨rfl, hfault⟩

/-- Where something can be read, a file is put without making directories. -/
theorem putFile_of_read {old : FileContent} (hread : disk.read path = .ok old)
    (hwrite : disk.write path (.text content) = .ok changed) :
    Succeeds (putFile path content) disk () changed := by
  rw [putFile]
  split
  · next parent hparent =>
      obtain ⟨name, hname, -⟩ := Disk.read_eq_ok.1 hread
      have hdirs := succeeds_makeDirs.2 (Disk.makeDirs_parent_of_resolve hparent hname)
      exact hdirs.bind_iff.2 (succeeds_writeText.2 hwrite)
  · exact succeeds_writeText.2 hwrite

/-- **What could not be put into a file** cannot be put there the second time. -/
theorem Fails.putStub_again (h : Fails (putStub path content marks) disk changed) :
    Fails (putStub path content marks) changed changed := by
  rcases fails_bind.1 h with hcheck | ⟨may, mid, hcheck, hput⟩
  · obtain rfl := hcheck.isReplaceable
    exact h
  split at hput
  · -- the check fails the second time, or lets the file be written, which fails again
    have hagain := hput.putFile_again
    refine fails_bind.2 ?_
    rcases succeeds_or_fails (Workspace.isReplaceable path marks) changed with
      ⟨may, last, hcheck⟩ | ⟨last, hcheck⟩
    · obtain ⟨rfl, hkept⟩ := succeeds_isReplaceable hcheck
      refine .inr ⟨may, last, hcheck, ?_⟩
      split
      · exact hagain
      · next hnot =>
          -- a file that is kept could be written
          obtain ⟨text, hread, -⟩ := hkept (Bool.eq_false_iff.2 hnot)
          have hread := Disk.read_of_readText hread
          obtain ⟨final, hwrite⟩ := Disk.exists_write_of_read hread (.text content)
          exact absurd hagain (putFile_of_read hread hwrite).not_fails
    · obtain rfl := hcheck.isReplaceable
      exact .inl hcheck
  · exact absurd hput not_fails_pure

/-! ### Settled files -/

/-- **A file that is not changed by putting a text into it**: it is no stub, or holds this text. -/
def Settled (path content : String) (marks : List String) (disk : Disk) : Prop :=
  ∃ text, disk.readText path = .ok text ∧ (isStub marks text = true → text = content)

/-- **After a text was put into a file** this is settled. -/
theorem settled_putStub (h : Succeeds (putStub path content marks) disk () changed) :
    Settled path content marks changed := by
  obtain ⟨may, mid, hcheck, hput⟩ := succeeds_bind.1 h
  obtain ⟨rfl, hkept⟩ := succeeds_isReplaceable hcheck
  split at hput
  · exact ⟨content, readText_putFile hput, fun _ => rfl⟩
  · next hnot =>
      obtain ⟨text, hread, hstub⟩ := hkept (Bool.eq_false_iff.2 hnot)
      rw [(succeeds_pure.1 hput).2]
      exact ⟨text, hread, fun h => absurd h (by simp [hstub])⟩

/-- **Putting a text into a settled file** changes nothing. -/
theorem Settled.putStub (h : Settled path content marks disk) :
    Succeeds (putStub path content marks) disk () disk := by
  obtain ⟨text, hread, hsame⟩ := h
  cases hstub : isStub marks text with
  | false => exact succeeds_putStub_kept hread hstub
  | true =>
      obtain rfl := hsame hstub
      have hcheck : Succeeds (isReplaceable path marks) disk true disk := by
        rw [Workspace.isReplaceable, (succeeds_isThere.2 ⟨rfl, rfl⟩).bind_iff,
          Disk.isThere_of_readText hread, if_pos rfl, (succeeds_readText.2 ⟨hread, rfl⟩).bind_iff, hstub]
        exact succeeds_pure.2 ⟨rfl, rfl⟩
      have hread := Disk.read_of_readText hread
      exact hcheck.bind_iff.2 (putFile_of_read hread (Disk.write_of_read hread))

/-- A file stays settled while others are written. -/
theorem Settled.touches {files : List String → FileContent → Prop} {dirs : List String → Prop}
    (h : Settled path content marks disk) (hpath : ∀ written, ¬ files (disk.nameOf path) written)
    (htouches : Disk.Touches files dirs disk changed) :
    Settled path content marks changed := by
  obtain ⟨text, hread, hsame⟩ := h
  refine ⟨text, Disk.readText_of_read ?_, hsame⟩
  exact htouches.read hpath (Disk.read_of_readText hread)

/-! ### The shell a second time -/

/-- A settled file of the shell stays so while others are put there. -/
theorem settled_putShell {shell : List Shell.File} {file : Shell.File} (hfile : file ∉ shell)
    (h : Settled (Path.join theme file.path) content marks disk) :
    Settled (Path.join theme file.path) content marks
      (Disk.after (putShell theme project shell) disk) := by
  have htouches : Disk.Touches (fun n _ => ∃ g ∈ shell, n = disk.nameOf (Path.join theme g.path))
      (fun _ => True) disk (Disk.after (putShell theme project shell) disk) :=
    preserves_putShell (fun g hg =>
      preserves_putStub ⟨⟨g, hg, rfl⟩, fun _ _ => trivial⟩ Shell.marks) disk (.refl _ _ disk)
  refine h.touches ?_ htouches
  rintro written ⟨g, hg, heq⟩
  have hnames : Path.pieces (ThemeFile.shell file).path = Path.pieces (ThemeFile.shell g).path :=
    List.append_cancel_left ((nameOf_themeFile disk theme (.shell file)).symm.trans
      (heq.trans (nameOf_themeFile disk theme (.shell g))))
  obtain rfl := ThemeFile.shell.inj (ThemeFile.pieces_path_inj hnames)
  exact hfile hg

theorem after_putShell_again {shell : List Shell.File} (hshell : shell.Nodup) (disk : Disk) :
    Disk.after (putShell theme project shell) (Disk.after (putShell theme project shell) disk) =
      Disk.after (putShell theme project shell) disk := by
  induction shell generalizing disk with
  | nil => rfl
  | cons file rest ih =>
      obtain ⟨hfile, hrest⟩ := List.nodup_cons.1 hshell
      rcases succeeds_or_fails
        (Workspace.putStub (Path.join theme file.path) (Shell.content project file) Shell.marks) disk with
        ⟨_, mid, hput⟩ | ⟨mid, hput⟩
      · have hfirst : ∀ {d last : Disk}, Succeeds (Workspace.putStub (Path.join theme file.path)
            (Shell.content project file) Shell.marks) d () last →
            Disk.after (putShell theme project (file :: rest)) d =
              Disk.after (putShell theme project rest) last := fun h =>
          congrArg Prod.snd (Disk.run_bind_ok h)
        rw [hfirst hput, hfirst (settled_putShell hfile (settled_putStub hput)).putStub, ih hrest]
      · have hfails : ∀ {d last : Disk}, Fails (Workspace.putStub (Path.join theme file.path)
            (Shell.content project file) Shell.marks) d last →
            Disk.after (putShell theme project (file :: rest)) d = last := fun h =>
          Fails.after_eq (fails_bind.2 (.inl h))
        rw [hfails hput, hfails hput.putStub_again]

/-- **The shell a second time** changes nothing, whatever the outcome of the first time. -/
theorem after_ensureShell_again (w : Workspace) (project : String) (disk : Disk) :
    Disk.after (w.ensureShell project) (Disk.after (w.ensureShell project) disk) =
      Disk.after (w.ensureShell project) disk := by
  cases htheme : w.themeDir project with
  | error e =>
      have hafter : ∀ d, Disk.after (w.ensureShell project) d = d := fun d => by
        rw [ensureShell, htheme]
        rfl
      rw [hafter, hafter]
  | ok theme =>
      have hafter : ∀ d, Disk.after (w.ensureShell project) d =
          Disk.after (putShell theme project Shell.files) d := fun d => by
        rw [ensureShell, htheme]
        rfl
      rw [hafter, hafter, after_putShell_again (by decide)]

/-! ### Customized files -/

/-- **A content that is no stub**: it is no text, or neither blank nor marked. -/
def Customized (marks : List String) (content : FileContent) : Prop :=
  ∀ text, content = .text text → isStub marks text = false

/-- Whether a name is that of a file that the shell or the layout of a project is put into. -/
def IsWritten (w : Workspace) (disk : Disk) (name : List String) : Prop :=
  ∃ project theme, w.themeDir project = .ok theme ∧
    ∃ file : ThemeFile, disk.nameOf (Path.join theme file.path) = name

variable {kept : FileContent}

/-- **A customized file is not written.** -/
theorem preserves_putStub_customized (h : Customized marks kept) (content : String) :
    Disk.Preserves (fun d => d.read path = .ok kept) (putStub path content marks) := by
  intro disk hread
  suffices hsame : Disk.after (putStub path content marks) disk = disk by rwa [hsame]
  cases kept with
  | text text => exact (succeeds_putStub_kept (Disk.readText_of_read hread) (h text rfl)).after_eq
  | binary bytes =>
      have hfault : disk.readText path = .error .notText := by
        rw [Disk.readText, hread]
        rfl
      refine Fails.after_eq (fails_bind.2 (.inl (fails_bind.2 (.inr ⟨true, disk, ?_, ?_⟩))))
      · exact succeeds_isThere.2 ⟨(Disk.isThere_of_read hread).symm, rfl⟩
      · exact fails_bind.2 (.inl (fails_attempt.2 ⟨.notText, congrArg (·, disk) hfault⟩))

/-- A file of a theme is kept while another is written, or the same if it is customized. -/
theorem preserves_putStub_other {other there : String} {file : ThemeFile}
    (htheme : w.themeDir project = .ok theme) (hkept : Customized file.marks kept)
    (hother : w.themeDir other = .ok there) (g : ThemeFile) (content : String) :
    Disk.Preserves (fun d => d.read (Path.join theme file.path) = .ok kept)
      (putStub (Path.join there g.path) content g.marks) := by
  by_cases hsame : theme = there ∧ file = g
  · obtain ⟨rfl, rfl⟩ := hsame
    exact preserves_putStub_customized hkept content
  · intro disk hread
    have hpath : disk.Admits (fun n _ => n = disk.nameOf (Path.join there g.path)) (fun _ => True)
        (Path.join there g.path) (.text content) := ⟨rfl, fun _ _ => trivial⟩
    have htouches := preserves_putStub hpath g.marks disk (.refl _ _ disk)
    exact htouches.read (fun _ heq => hsame (nameOf_themeFile_inj htheme hother heq)) hread

/-- **What is kept by any calls** that put the shell and the layout into themes, whatever their
outcomes: the files of these if they are customized, and all other files.  And the shell a second time
changes nothing, whatever the outcome of the first time. -/
theorem kept_afterCalls (w : Workspace) (disk : Disk) {calls : List Call}
    (hcalls : ∀ call ∈ calls, ∀ project paths, call ≠ .assets project paths) :
    (∀ project theme, w.themeDir project = .ok theme → ∀ (file : ThemeFile) (kept : FileContent),
      disk.read (Path.join theme file.path) = .ok kept → Customized file.marks kept →
        (w.afterCalls calls disk).read (Path.join theme file.path) = .ok kept) ∧
      (∀ name kept, disk.entry? name = some (.file kept) →
        ¬ w.IsWritten disk name → Disk.entry? (w.afterCalls calls disk) name = some (.file kept)) ∧
      ∀ project, Disk.after (w.ensureShell project) (Disk.after (w.ensureShell project) disk) =
        Disk.after (w.ensureShell project) disk := by
  -- a call keeps what is kept by putting a text into a file of a theme
  have hcall : ∀ {P : Disk → Prop}, (∀ other there, w.themeDir other = .ok there →
      ∀ (g : ThemeFile) (content : String),
        Disk.Preserves P (putStub (Path.join there g.path) content g.marks)) →
      ∀ call ∈ calls, ∀ d, P d → P (w.afterCall d call) := by
    intro P h call hmem d hd
    cases call with
    | shell other =>
        exact preserves_ensureShell (fun there hother file => h other there hother (.shell file) _) d hd
    | layout other page =>
        exact preserves_extractLayout (fun there hother => h other there hother .header)
          (fun there hother => h other there hother .footer) page d hd
    | assets other paths => exact absurd rfl (hcalls _ hmem other paths)
  refine ⟨?_, ?_, fun project => after_ensureShell_again w project disk⟩
  · intro project theme htheme file kept hread hkept
    exact afterCalls_invariant (P := fun d => d.read (Path.join theme file.path) = .ok kept)
      (hcall fun other there hother g => preserves_putStub_other htheme hkept hother g) hread
  · intro name kept hentry hname
    have htouches : Disk.Touches (fun n _ => w.IsWritten disk n) (fun _ => True) disk
        (w.afterCalls calls disk) := by
      refine afterCalls_invariant (hcall fun other there hother g content => ?_) (.refl _ _ disk)
      exact preserves_putStub ⟨⟨other, there, hother, g, rfl⟩, fun _ _ => trivial⟩ g.marks
    exact (htouches.keeps fun _ => hname).entry _ hentry

/-- Calls for the theme of a project, and for a key that leads elsewhere. -/
def demoCalls : List Call :=
  [.layout "d" "<header>h</header><p>a</p>", .shell "../d", .shell "d"]

/-- Files of that theme: a header that somebody wrote, and the template of a page. -/
def demoFiles : List (List String × Entry) :=
  [(["p", "d", "theme", "header.php"], .file (.text "mine")),
    (["p", "d", "theme", "page-a.php"], .file (.text "a"))]

/-- Header, style sheet and template are kept there. -/
theorem kept_afterCalls_demo :
    (∀ call ∈ demoCalls, ∀ project paths, call ≠ .assets project paths) ∧
      (demo.afterCalls demoCalls (demoDisk demoFiles)).read "p/d/theme/header.php" =
        .ok (.text "mine") ∧
      (demo.afterCalls demoCalls (demoDisk demoFiles)).read "p/d/theme/style.css" =
        .ok (.text "x") ∧
      Disk.entry? (demo.afterCalls demoCalls (demoDisk demoFiles)) ["p", "d", "theme", "page-a.php"] =
        some (.file (.text "a")) := by
  have hcalls : ∀ call ∈ demoCalls, ∀ project paths, call ≠ .assets project paths := by
    intro call hcall project paths
    simp only [demoCalls, List.mem_cons, List.not_mem_nil, or_false] at hcall
    rcases hcall with rfl | rfl | rfl <;> simp
  obtain ⟨hfiles, hothers, -⟩ := kept_afterCalls demo (demoDisk demoFiles) hcalls
  have hcustomized : ∀ {marks : List String} {text : String}, isStub marks text = false →
      Customized marks (.text text) := by
    rintro marks text h _ ⟨⟩
    exact h
  refine ⟨hcalls, ?_, ?_, ?_⟩
  · exact hfiles "d" "p/d/theme" (by rfl) .header _ (by rfl) (hcustomized (by decide))
  · exact hfiles "d" "p/d/theme" (by rfl) (.shell .style) _ (by rfl) (hcustomized (by decide))
  · refine hothers _ _ (by rfl) ?_
    rintro ⟨project, theme, htheme, file, heq⟩
    rw [nameOf_themeFile, nameOf_themeDir htheme] at heq
    have hpieces : Path.pieces file.path = ["page-a.php"] :=
      (List.cons.inj (List.cons.inj (List.cons.inj heq).2).2).2
    have hnone : ∀ file ∈ ThemeFile.all, Path.pieces file.path ≠ ["page-a.php"] := by decide
    exact hnone file (ThemeFile.mem_all file) hpieces

end Workspace

end ThemeCompiler
