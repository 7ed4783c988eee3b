/-
**What the writers of a theme touch.**

The shell, the layout and the assets of a page are put into the theme of a project part by part, and
any part may fail.  Whatever the outcome, what all parts keep is kept.  A part changes no file but its
own, and makes no directories but those before that file.

Main definitions:

* `ThemeCompiler.Workspace.ThemeFile` — the files that the shell and the layout are put into;
* `ThemeCompiler.Workspace.Call`, `ThemeCompiler.Workspace.afterCalls` — calls of the writers, and the
  disk after them.

Main results:

* `ThemeCompiler.Workspace.nameOf_themeDir` — the name of the theme of a project;
* `ThemeCompiler.Workspace.nameOf_themeFile`, `ThemeCompiler.Workspace.nameOf_themeFile_inj` — the
  names of these files, which tell the files and the themes apart;
* `ThemeCompiler.Workspace.preserves_ensureShell`, `ThemeCompiler.Workspace.preserves_extractLayout`,
  `ThemeCompiler.Workspace.preserves_registerAssets` — **what the writers touch**.
-/

import ThemeCompiler.Proofs.Files.Effects
import ThemeCompiler.Proofs.Theme.Registry
import ThemeCompiler.Theme.Frame

set_option relaxedAutoImplicit false
set_option autoImplicit false

namespace ThemeCompiler

namespace Workspace

variable {w : Workspace} {disk : Disk} {files : List String → FileContent → Prop}
  {dirs : List String → Prop} {project theme : String} {P : Disk → Prop}

/-! ### Parts of actions -/

theorem preserves_isThere (path : String) : Disk.Preserves P (isThere path) := fun _ h => h

/-- Whether a file may be written is found out without a change. -/
theorem preserves_isReplaceable (path : String) (marks : List String) :
    Disk.Preserves P (isReplaceable path marks) := by
  refine (preserves_isThere path).bind fun there => ?_
  split
  · exact (Disk.preserves_readText _ path).bind fun text => Disk.preserves_pure _
  · exact Disk.preserves_pure _

/-- **Putting a text into a file** changes this file and the directories before it. -/
theorem preserves_putFile {path content : String}
    (h : disk.Admits files dirs path (.text content)) :
    Disk.Preserves (Disk.Touches files dirs disk) (putFile path content) :=
  Disk.preserves_write h

theorem preserves_putStub {path content : String}
    (h : disk.Admits files dirs path (.text content)) (marks : List String) :
    Disk.Preserves (Disk.Touches files dirs disk) (putStub path content marks) := by
  refine (preserves_isReplaceable path marks).bind fun may => ?_
  split
  · exact preserves_putFile h
  · exact Disk.preserves_pure _

theorem preserves_putLayout {path : String} {frame : String → String}
    (h : ∀ content, Disk.Preserves P (putStub path content Frame.marks)) (part : Option String) :
    Disk.Preserves P (putLayout path frame part) := by
  cases part with
  | none => exact Disk.preserves_pure _
  | some part => exact h (frame part)

theorem preserves_putShell {shell : List Shell.File}
    (h : ∀ file ∈ shell, Disk.Preserves P
      (putStub (Path.join theme file.path) (Shell.content project file) Shell.marks)) :
    Disk.Preserves P (putShell theme project shell) := by
  induction shell with
  | nil => exact Disk.preserves_pure _
  | cons file rest ih =>
      obtain ⟨hfile, hrest⟩ := List.forall_mem_cons.1 h
      exact hfile.bind fun _ => ih hrest

/-! ### The theme of a project -/

/-- What the key of a project is. -/
theorem themeDir_eq_ok (h : w.themeDir project = .ok theme) :
    '/' ∉ (Text.trim project).toList ∧ Text.trim project ≠ "" ∧ Text.trim project ≠ "." ∧
      Text.trim project ≠ ".." ∧
      theme = Path.join (Path.join w.projectsDir (Text.trim project)) "theme" := by
  rw [themeDir] at h
  split at h
  · exact absurd h (by simp)
  next hkey =>
  refine ⟨fun hslash => hkey ?_, ?_, ?_, ?_, (Except.ok.inj h).symm⟩
  · have hany : (Text.trim project).toList.any (fun c => c == '/' || c == '\\') = true :=
      List.any_eq_true.2 ⟨'/', hslash, by decide⟩
    rw [escapes, hany]
    simp
  · intro hempty
    exact hkey (by rw [hempty]; decide)
  · intro hdot
    exact hkey (by rw [hdot]; decide)
  · intro hup
    exact hkey (by rw [hup]; decide)

/-- **The theme of a project** is two levels below the directory of the projects. -/
theorem nameOf_themeDir (h : w.themeDir project = .ok theme) (disk : Disk) :
    disk.nameOf theme = disk.nameOf w.projectsDir ++ [Text.trim project, "theme"] := by
  obtain ⟨hslash, hempty, hdot, hup, htheme⟩ := themeDir_eq_ok h
  rw [htheme, Disk.nameOf_join disk _ (by rfl),
    Disk.nameOf_join disk _ (Path.isAbsolute_of_notMem hslash), Path.pieces_of_notMem hslash,
    Path.pieces_of_notMem (by decide)]
  simp only [List.foldl_cons, List.foldl_nil]
  rw [Disk.advance_eq hempty hdot hup, Disk.advance_eq (by decide) (by decide) (by decide),
    List.append_assoc, List.singleton_append]

/-- Projects with one key have one theme. -/
theorem themeDir_inj {other there : String} (h : w.themeDir project = .ok theme)
    (hother : w.themeDir other = .ok there) (heq : disk.nameOf theme = disk.nameOf there) :
    theme = there := by
  rw [nameOf_themeDir h, nameOf_themeDir hother] at heq
  have hkeys : Text.trim project = Text.trim other := (List.cons.inj (List.append_cancel_left heq)).1
  obtain ⟨-, -, -, -, htheme⟩ := themeDir_eq_ok h
  obtain ⟨-, -, -, -, hthere⟩ := themeDir_eq_ok hother
  rw [htheme, hthere, hkeys]

/-! ### The files of the shell and the layout -/

/-- **A file that the shell or the layout is put into.** -/
inductive ThemeFile where
  | shell (file : Shell.File)
  | header
  | footer
  deriving DecidableEq, Repr

namespace ThemeFile

/-- All these files. -/
def all : List ThemeFile := Shell.files.map shell ++ [header, footer]

theorem mem_all (file : ThemeFile) : file ∈ all := by
  cases file with
  | shell file => cases file <;> decide
  | header => decide
  | footer => decide

/-- The path of a file in its theme. -/
def path : ThemeFile → String
  | shell file => file.path
  | header => "header.php"
  | footer => "footer.php"

/-- The marks of the stubs that stand for a file. -/
def marks : ThemeFile → List String
  | shell _ => Shell.marks
  | header | footer => Frame.marks

theorem isAbsolute_path (file : ThemeFile) : Path.isAbsolute file.path = false := by
  cases file with
  | shell file => cases file <;> rfl
  | header => rfl
  | footer => rfl

theorem pieces_path_inj {file g : ThemeFile} (h : Path.pieces file.path = Path.pieces g.path) :
    file = g := by
  have hall : ∀ file ∈ all, ∀ g ∈ all, Path.pieces file.path = Path.pieces g.path → file = g := by
    decide
  exact hall file (mem_all file) g (mem_all g) h

end ThemeFile

/-- **The name of a file of a theme.** -/
theorem nameOf_themeFile (disk : Disk) (theme : String) (file : ThemeFile) :
    disk.nameOf (Path.join theme file.path) = disk.nameOf theme ++ Path.pieces file.path := by
  have hfold : ∀ here : List String, (Path.pieces file.path).foldl Disk.advance here =
      here ++ Path.pieces file.path := fun here => by
    cases file with
    | shell file =>
        cases file <;>
          simp [ThemeFile.path, Shell.File.path, Path.pieces, Text.splitAtChars, Disk.advance]
    | header => simp [ThemeFile.path, Path.pieces, Text.splitAtChars, Disk.advance]
    | footer => simp [ThemeFile.path, Path.pieces, Text.splitAtChars, Disk.advance]
  rw [Disk.nameOf_join disk theme (ThemeFile.isAbsolute_path file), hfold]

/-- **The names tell the files and the themes apart.** -/
theorem nameOf_themeFile_inj {other there : String} {file g : ThemeFile}
    (h : w.themeDir project = .ok theme) (hother : w.themeDir other = .ok there)
    (heq : disk.nameOf (Path.join theme file.path) = disk.nameOf (Path.join there g.path)) :
    theme = there ∧ file = g := by
  have hnames := heq
  rw [nameOf_themeFile, nameOf_themeFile, nameOf_themeDir h, nameOf_themeDir hother,
    List.append_assoc, List.append_assoc, List.append_cancel_left_eq] at hnames
  -- both names go on with the key, the directory of the theme and the path of the file
  have hpieces : Path.pieces file.path = Path.pieces g.path :=
    (List.cons.inj (List.cons.inj hnames).2).2
  have hthemes : disk.nameOf theme = disk.nameOf there := by
    rw [nameOf_themeFile, nameOf_themeFile, hpieces] at heq
    exact List.append_cancel_right heq
  exact ⟨themeDir_inj h hother hthemes, ThemeFile.pieces_path_inj hpieces⟩

/-! ### Copies of assets -/

/-- What is before the last name leads below, whatever this is. -/
theorem prefix_advance_append {here : List String} {dirs : List String} (hdirs : dirs ≠ [])
    (name : String) : here <+: Disk.advance (here ++ dirs) name := by
  rw [Disk.advance]
  split
  · exact List.prefix_append here dirs
  split
  · rw [List.dropLast_append_of_ne_nil hdirs]
    exact List.prefix_append here dirs.dropLast
  · rw [List.append_assoc]
    exact List.prefix_append here _

/-- **A copy of an asset** lies in the theme, whatever its name. -/
theorem prefix_nameOf_asset (disk : Disk) (htheme : Path.EndsInName theme) (asset : String) :
    disk.nameOf theme <+:
      disk.nameOf (Path.join (assetDir theme (Assets.fileName asset)) (Assets.fileName asset)) := by
  obtain ⟨dirs, hdirs, hname⟩ := nameOf_assetDir disk htheme (Assets.fileName asset)
  rw [nameOf_asset disk (slash_notMem_fileName asset), hname]
  refine prefix_advance_append ?_ _
  rintro rfl
  exact absurd hdirs (by decide)

/-! ### The writers -/

/-- What is done in the theme of a project, if it has one. -/
theorem preserves_inTheme {α : Type} {next : String → Action (StateM Disk) α}
    (h : ∀ theme, w.themeDir project = .ok theme → Disk.Preserves P (next theme)) :
    Disk.Preserves P (MonadExcept.ofExcept (w.themeDir project) >>= next) := by
  cases htheme : w.themeDir project with
  | error e => exact fun _ hdisk => hdisk
  | ok theme => exact fun disk hdisk => h theme htheme disk hdisk

/-- **The shell** is put into files of its own. -/
theorem preserves_ensureShell
    (h : ∀ theme, w.themeDir project = .ok theme → ∀ file : Shell.File, Disk.Preserves P
      (putStub (Path.join theme file.path) (Shell.content project file) Shell.marks)) :
    Disk.Preserves P (w.ensureShell project) :=
  preserves_inTheme fun theme htheme => preserves_putShell fun file _ => h theme htheme file

/-- **The layout** is put into the header and the footer. -/
theorem preserves_extractLayout
    (hheader : ∀ theme, w.themeDir project = .ok theme → ∀ content, Disk.Preserves P
      (putStub (Path.join theme ThemeFile.header.path) content Frame.marks))
    (hfooter : ∀ theme, w.themeDir project = .ok theme → ∀ content, Disk.Preserves P
      (putStub (Path.join theme ThemeFile.footer.path) content Frame.marks)) (page : String) :
    Disk.Preserves P (w.extractLayout project page) := by
  refine preserves_inTheme fun theme htheme => ?_
  refine (preserves_putLayout (hheader theme htheme) _).bind fun _ => ?_
  exact (preserves_putLayout (hfooter theme htheme) _).bind fun _ => Disk.preserves_pure _

/-- **A theme into which a file may be copied**: the copy is among some files, and its directory, with
those before it, among some directories. -/
structure AdmitsAsset (files : List String → FileContent → Prop) (dirs : List String → Prop)
    (disk : Disk) (theme file : String) : Prop where
  copy : ∀ content, files (disk.nameOf (Path.join (assetDir theme file) file)) content
  way : ∀ n ∈ disk.way (assetDir theme file), dirs n

theorem preserves_copyAsset {file : String} (h : AdmitsAsset files dirs disk theme file)
    (asset : String) :
    Disk.Preserves (Disk.Touches files dirs disk) (w.copyAsset theme asset file) := by
  refine Disk.Preserves.bind (Disk.preserves_makeDirs h.way) fun _ => ?_
  refine (preserves_isThere _).bind fun source => ?_
  split
  · refine (preserves_isThere _).bind fun target => ?_
    split
    · exact Disk.preserves_copyFile h.copy _
    · exact Disk.preserves_pure _
  · exact Disk.preserves_pure _

theorem preserves_placeAssets {assets : List String}
    (h : ∀ asset ∈ assets, AdmitsAsset files dirs disk theme (Assets.fileName asset))
    (content : String) :
    Disk.Preserves (Disk.Touches files dirs disk) (w.placeAssets theme assets content) := by
  induction assets generalizing content with
  | nil => exact Disk.preserves_pure _
  | cons asset rest ih =>
      obtain ⟨hasset, hrest⟩ := List.forall_mem_cons.1 h
      rw [placeAssets]
      split
      · exact ih hrest content
      · exact (preserves_copyAsset hasset asset).bind fun _ => ih hrest _

/-- **The assets** are copied, and declared in the file of the declarations. -/
theorem preserves_registerAssets {assets : List String}
    (h : ∀ theme, w.themeDir project = .ok theme →
      (∀ content, files (disk.nameOf (enqueuePath theme)) content) ∧ ∀ asset ∈ assets,
        AdmitsAsset files dirs disk theme (Assets.fileName asset)) :
    Disk.Preserves (Disk.Touches files dirs disk) (w.registerAssets project assets) := by
  rw [registerAssets]
  split
  · exact Disk.preserves_pure _
  refine preserves_inTheme fun theme htheme => ?_
  obtain ⟨hdeclarations, hassets⟩ := h theme htheme
  have hwrite : ∀ old new : String, Disk.Preserves (Disk.Touches files dirs disk)
      (if new != old then attempt (FileStore.writeText (enqueuePath theme) new) else pure ()) := by
    intro old new
    split
    · exact Disk.preserves_writeText (hdeclarations _)
    · exact Disk.preserves_pure _
  have hplace : ∀ old, Disk.Preserves (Disk.Touches files dirs disk) (do
      let new ← w.placeAssets theme assets old
      if new != old then attempt (FileStore.writeText (enqueuePath theme) new) else pure ()) :=
    fun old => (preserves_placeAssets hassets old).bind fun new => hwrite old new
  refine (preserves_isThere _).bind fun there => ?_
  split
  · exact (Disk.preserves_readText _ _).bind hplace
  · exact (Disk.preserves_pure _).bind hplace

/-! ### Calls one after the other -/

/-- **A call of a writer.** -/
inductive Call where
  | shell (project : String)
  | layout (project page : String)
  | assets (project : String) (paths : List String)
  deriving DecidableEq, Repr

/-- The disk after a call, whatever its outcome. -/
def afterCall (w : Workspace) (disk : Disk) : Call → Disk
  | .shell project => Disk.after (w.ensureShell project) disk
  | .layout project page => Disk.after (w.extractLayout project page) disk
  | .assets project paths => Disk.after (w.registerAssets project paths) disk

/-- **The disk after some calls**, whatever their outcomes. -/
def afterCalls (w : Workspace) (calls : List Call) (disk : Disk) : Disk :=
  calls.foldl (afterCall w) disk

theorem afterCalls_singleton (w : Workspace) (call : Call) (disk : Disk) :
    w.afterCalls [call] disk = w.afterCall disk call := rfl

theorem afterCalls_append (w : Workspace) (before later : List Call) (disk : Disk) :
    w.afterCalls (before ++ later) disk = w.afterCalls later (w.afterCalls before disk) :=
  List.foldl_append

/-- **What every call keeps** is kept by any number of them. -/
theorem afterCalls_invariant {calls : List Call}
    (h : ∀ call ∈ calls, ∀ disk, P disk → P (w.afterCall disk call)) (hdisk : P disk) :
    P (w.afterCalls calls disk) := by
  induction calls generalizing disk with
  | nil => exact hdisk
  | cons call rest ih =>
      obtain ⟨hcall, hrest⟩ := List.forall_mem_cons.1 h
      exact ih hrest (hcall disk hdisk)

end Workspace

end ThemeCompiler
