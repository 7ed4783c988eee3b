/-
**The assets of a theme after several pages.**

The assets of a page are copied to where nothing is, which leaves the text of the declarations
alone; then this text is replaced by the one with their declarations. So after any number of pages
the text is that of the shell with the declarations of all files asked for, one after the other, and
a file that can be declared has one call exactly when it was the first one under its handle, and its
handle is not that of the style sheet of the theme.

Main definitions:

* `ThemeCompiler.Workspace.registerAll` — the assets of several pages.

Main results:

* `ThemeCompiler.Workspace.exists_of_copyAsset`, `ThemeCompiler.Workspace.keeps_copyAsset` — what is
  done when an asset is copied, which changes nothing that is there;
* `ThemeCompiler.Workspace.exists_of_registerAssets`,
  `ThemeCompiler.Workspace.succeeds_registerAssets` — what is done when the assets of a page are put
  into a theme;
* `ThemeCompiler.Workspace.readText_registerAssets`,
  `ThemeCompiler.Workspace.readText_registerAll` — the text after one page, and after several;
* `ThemeCompiler.Workspace.callCount_registerAll` — **the calls in the theme of a project**.
-/

import ThemeCompiler.Proofs.Assets.FileNames
import ThemeCompiler.Proofs.Theme.Actions
import ThemeCompiler.Proofs.Theme.Calls

set_option relaxedAutoImplicit false
set_option autoImplicit false

namespace ThemeCompiler

namespace Workspace

variable {w : Workspace} {project theme : String} {disk changed : Disk}

/-! ### Copies -/

theorem slash_notMem_fileName (asset : String) : '/' ∉ (Assets.fileName asset).toList := by
  intro h
  exact (Assets.mem_fileName h).2.1 rfl

/-- The directory of an asset is in that of all assets. -/
theorem assetDir_eq (htheme : Path.EndsInName theme) (file : String) :
    assetDir theme file =
      theme ++ "/" ++ ("assets" ++ "/" ++ dropSlashes (Assets.subdirectory file)) := by
  have hassets : Path.EndsInName (theme ++ "/" ++ "assets") :=
    Path.EndsInName.append ⟨'s', rfl, by decide⟩
  have hrelative : Path.isAbsolute (dropSlashes (Assets.subdirectory file)) = false := by
    rcases Assets.subdirectory_cases file with h | h | h <;> rw [h] <;> decide
  rw [assetDir, Path.join_eq htheme (by rfl), Path.join_eq hassets hrelative]
  simp only [String.append_assoc]

/-- The name of the directory of an asset. -/
theorem nameOf_assetDir (disk : Disk) (htheme : Path.EndsInName theme) (file : String) :
    ∃ dirs ∈ [["assets"], ["assets", "css"], ["assets", "js"]],
      disk.nameOf (assetDir theme file) = disk.nameOf theme ++ dirs := by
  have hdrop : dropSlashes "css/" = "css" ∧ dropSlashes "js/" = "js" ∧ dropSlashes "" = "" := by
    decide
  rw [assetDir_eq htheme, Disk.nameOf_below htheme]
  rcases Assets.subdirectory_cases file with h | h | h
  · exact ⟨["assets", "css"], by simp, by
      rw [h, hdrop.1]; simp [Path.pieces, Text.splitAtChars, Disk.advance]⟩
  · exact ⟨["assets", "js"], by simp, by
      rw [h, hdrop.2.1]; simp [Path.pieces, Text.splitAtChars, Disk.advance]⟩
  · exact ⟨["assets"], by simp, by
      rw [h, hdrop.2.2]; simp [Path.pieces, Text.splitAtChars, Disk.advance]⟩

/-- The name of a copy goes on from that of its directory. -/
theorem nameOf_asset (disk : Disk) {file : String} (hfile : '/' ∉ file.toList) :
    disk.nameOf (Path.join (assetDir theme file) file) =
      Disk.advance (disk.nameOf (assetDir theme file)) file := by
  rw [Disk.nameOf_join disk _ (Path.isAbsolute_of_notMem hfile), Path.pieces_of_notMem hfile,
    List.foldl_cons, List.foldl_nil]

/-- **A copy is not put in the place of the declarations.** -/
theorem nameOf_asset_ne (htheme : Path.EndsInName theme) {file : String}
    (hfile : '/' ∉ file.toList) :
    disk.nameOf (Path.join (assetDir theme file) file) ≠ disk.nameOf (enqueuePath theme) := by
  obtain ⟨dirs, hdirs, hname⟩ := nameOf_assetDir disk htheme file
  rw [nameOf_asset disk hfile, hname, nameOf_enqueuePath htheme, Disk.advance]
  simp only [List.mem_cons, List.not_mem_nil, or_false] at hdirs
  split
  · rcases hdirs with rfl | rfl | rfl <;> simp
  split
  · rcases hdirs with rfl | rfl | rfl <;> simp
  · rcases hdirs with rfl | rfl | rfl <;> simp

/-- **What is done when an asset is copied**: its directories are made, and it is put where nothing is,
if its source is there. -/
theorem exists_of_copyAsset {asset file : String}
    (h : Succeeds (w.copyAsset theme asset file) disk () changed) :
    ∃ mid, disk.makeDirs (assetDir theme file) = (.ok (), mid) ∧
      ((mid.isThere (w.sourcePath asset) = true →
          mid.isThere (Path.join (assetDir theme file) file) = true) ∧ changed = mid ∨
        mid.isThere (Path.join (assetDir theme file) file) = false ∧
          mid.copyFile (w.sourcePath asset) (Path.join (assetDir theme file) file) = .ok changed) := by
  obtain ⟨_, mid, hdirs, hcopy⟩ := succeeds_bind.1 h
  refine ⟨mid, succeeds_makeDirs.1 hdirs, ?_⟩
  rw [(succeeds_isThere.2 ⟨rfl, rfl⟩).bind_iff] at hcopy
  split at hcopy
  · rw [(succeeds_isThere.2 ⟨rfl, rfl⟩).bind_iff] at hcopy
    split at hcopy
    · next hnew => exact .inr ⟨by simpa using hnew, succeeds_copyFile.1 hcopy⟩
    · next hthere => exact .inl ⟨fun _ => by simpa using hthere, (succeeds_pure.1 hcopy).2⟩
  · next hsource => exact .inl ⟨fun h => absurd h hsource, (succeeds_pure.1 hcopy).2⟩

/-- **Copying an asset** changes nothing that is there. -/
theorem keeps_copyAsset {asset file : String}
    (h : Succeeds (w.copyAsset theme asset file) disk () changed) (name : List String) :
    Disk.Keeps name disk changed := by
  obtain ⟨mid, hmake, hcases⟩ := exists_of_copyAsset h
  have hmid := Disk.keeps_makeDirs name disk (assetDir theme file)
  rw [hmake] at hmid
  refine hmid.trans ?_
  rcases hcases with ⟨-, rfl⟩ | ⟨hnew, hcopy⟩
  · exact .refl name changed
  · obtain ⟨content, -, hwrite⟩ := Disk.exists_of_copyFile hcopy
    obtain ⟨target, htarget, hdir, rfl⟩ := Disk.exists_of_write hwrite
    obtain rfl := Disk.eq_nameOf_of_resolve htarget
    refine Disk.keeps_put _ hdir (.inr (Option.eq_none_iff_forall_ne_some.2 fun e he => ?_))
    rw [Disk.isThere_iff.2 ⟨htarget, e, he⟩] at hnew
    exact absurd hnew (by simp)

/-- An asset that is not there is given a directory only. -/
theorem succeeds_copyAsset_missing {asset file : String}
    (hmake : disk.makeDirs (assetDir theme file) = (.ok (), changed))
    (hsource : changed.isThere (w.sourcePath asset) = false) :
    Succeeds (w.copyAsset theme asset file) disk () changed := by
  refine (succeeds_makeDirs.2 hmake).bind_iff.2 ?_
  rw [(succeeds_isThere.2 ⟨rfl, rfl⟩).bind_iff, hsource]
  exact succeeds_pure.2 ⟨rfl, rfl⟩

/-! ### Declarations -/

/-- **The text with the declarations of some assets.**  Nothing that is on the disk is changed. -/
theorem succeeds_placeAssets {assets : List String} {content new : String}
    (h : Succeeds (w.placeAssets theme assets content) disk new changed) :
    new = Enqueue.declareAll (assets.map Assets.fileName) content ∧
      ∀ name, Disk.Keeps name disk changed := by
  induction assets generalizing disk content with
  | nil =>
      obtain ⟨rfl, rfl⟩ := succeeds_pure.1 h
      exact ⟨rfl, fun name => .refl name changed⟩
  | cons asset assets ih =>
      rw [placeAssets] at h
      split at h
      · next hempty =>
          obtain ⟨hnew, hkeeps⟩ := ih h
          rw [List.map_cons, String.isEmpty_iff.1 hempty, Enqueue.declareAll_cons, Enqueue.declare_empty]
          exact ⟨hnew, hkeeps⟩
      · obtain ⟨_, mid, hcopy, hrest⟩ := succeeds_bind.1 h
        obtain ⟨hnew, hkeeps⟩ := ih hrest
        rw [List.map_cons, Enqueue.declareAll_cons]
        exact ⟨hnew, fun name => (keeps_copyAsset hcopy name).trans (hkeeps name)⟩

/-- **What is done when the assets of a page are put into a theme**: the text of the declarations is
read, if it is there; the assets are placed; and the new text is written, if it is another one. -/
theorem exists_of_registerAssets (htheme : w.themeDir project = .ok theme) {assets : List String}
    (h : Succeeds (w.registerAssets project assets) disk () changed) :
    assets = [] ∧ changed = disk ∨ ∃ old new mid,
      (disk.readText (enqueuePath theme) = .ok old ∨
        disk.isThere (enqueuePath theme) = false ∧ old = "") ∧
      Succeeds (w.placeAssets theme assets old) disk new mid ∧
      (new = old ∧ changed = mid ∨
        new ≠ old ∧ mid.write (enqueuePath theme) (.text new) = .ok changed) := by
  rw [registerAssets] at h
  split at h
  · next hempty => exact .inl ⟨List.isEmpty_iff.1 hempty, (succeeds_pure.1 h).2⟩
  rw [(succeeds_ofExcept.2 ⟨htheme, rfl⟩).bind_iff, (succeeds_isThere.2 ⟨rfl, rfl⟩).bind_iff] at h
  obtain ⟨old, hold, hrest⟩ : ∃ old, (disk.readText (enqueuePath theme) = .ok old ∨
      disk.isThere (enqueuePath theme) = false ∧ old = "") ∧ Succeeds (do
        let new ← w.placeAssets theme assets old
        if new != old then attempt (FileStore.writeText (enqueuePath theme) new) else pure ()) disk ()
          changed := by
    split at h
    · obtain ⟨old, mid, hread, hrest⟩ := succeeds_bind.1 h
      obtain ⟨hread, rfl⟩ := succeeds_readText.1 hread
      exact ⟨old, .inl hread, hrest⟩
    · next hthere =>
        exact ⟨"", .inr ⟨Bool.eq_false_iff.2 hthere, rfl⟩, (succeeds_pure.2 ⟨rfl, rfl⟩).bind_iff.1 h⟩
  obtain ⟨new, mid, hplace, hwrite⟩ := succeeds_bind.1 hrest
  refine .inr ⟨old, new, mid, hold, hplace, ?_⟩
  split at hwrite
  · next hnew => exact .inr ⟨bne_iff_ne.1 hnew, succeeds_writeText.1 hwrite⟩
  · next hsame =>
      rw [bne_iff_ne, not_not] at hsame
      exact .inl ⟨hsame, (succeeds_pure.1 hwrite).2⟩

/-- **The assets of a page are put into a theme** when this is done. -/
theorem succeeds_registerAssets (htheme : w.themeDir project = .ok theme) {assets : List String}
    (hassets : assets ≠ []) {old new : String} {mid : Disk}
    (hold : disk.readText (enqueuePath theme) = .ok old ∨
      disk.isThere (enqueuePath theme) = false ∧ old = "")
    (hplace : Succeeds (w.placeAssets theme assets old) disk new mid)
    (hwritten : new = old ∧ changed = mid ∨
      new ≠ old ∧ mid.write (enqueuePath theme) (.text new) = .ok changed) :
    Succeeds (w.registerAssets project assets) disk () changed := by
  rw [registerAssets, if_neg (by simpa using hassets), (succeeds_ofExcept.2 ⟨htheme, rfl⟩).bind_iff,
    (succeeds_isThere.2 ⟨rfl, rfl⟩).bind_iff]
  have hrest : Succeeds (do
      let new ← w.placeAssets theme assets old
      if new != old then attempt (FileStore.writeText (enqueuePath theme) new) else pure ()) disk ()
        changed := by
    rw [hplace.bind_iff]
    rcases hwritten with ⟨rfl, rfl⟩ | ⟨hnew, hwrite⟩
    · rw [if_neg (by simp)]
      exact succeeds_pure.2 ⟨rfl, rfl⟩
    · rw [if_pos (by simpa using hnew)]
      exact succeeds_writeText.2 hwrite
  rcases hold with hread | ⟨hnot, rfl⟩
  · rw [Disk.isThere_of_readText hread, if_pos rfl, (succeeds_readText.2 ⟨hread, rfl⟩).bind_iff]
    exact hrest
  · rw [hnot, if_neg (by simp), (succeeds_pure.2 ⟨rfl, rfl⟩).bind_iff]
    exact hrest

/-- **The text after the assets of a page.** -/
theorem readText_registerAssets (htheme : w.themeDir project = .ok theme) {assets : List String}
    {content : String} (hread : disk.readText (enqueuePath theme) = .ok content)
    (h : Succeeds (w.registerAssets project assets) disk () changed) :
    changed.readText (enqueuePath theme) =
      .ok (Enqueue.declareAll (assets.map Assets.fileName) content) := by
  rcases exists_of_registerAssets htheme h with
    ⟨rfl, rfl⟩ | ⟨old, new, mid, hold | ⟨hnot, -⟩, hplace, hwritten⟩
  · exact hread
  · obtain rfl := Except.ok.inj (hread.symm.trans hold)
    obtain ⟨rfl, hkeeps⟩ := succeeds_placeAssets hplace
    rcases hwritten with ⟨hsame, rfl⟩ | ⟨-, hwrite⟩
    · rw [(hkeeps _).readText hread, hsame]
    · exact Disk.readText_write hwrite
  · rw [Disk.isThere_of_readText hread] at hnot
    exact absurd hnot (by decide)

/-- **The assets of several pages**, one page after the other. -/
def registerAll (w : Workspace) (project : String) : List (List String) → Action (StateM Disk) Unit
  | [] => return ()
  | assets :: pages => do
      w.registerAssets project assets
      registerAll w project pages

/-- **The text after several pages.** -/
theorem readText_registerAll (htheme : w.themeDir project = .ok theme) {pages : List (List String)}
    {content : String} (hread : disk.readText (enqueuePath theme) = .ok content)
    (h : Succeeds (w.registerAll project pages) disk () changed) :
    changed.readText (enqueuePath theme) =
      .ok (Enqueue.declareAll (pages.flatten.map Assets.fileName) content) := by
  induction pages generalizing disk content with
  | nil =>
      rw [(succeeds_pure.1 h).2]
      exact hread
  | cons assets pages ih =>
      obtain ⟨_, mid, hpage, hrest⟩ := succeeds_bind.1 h
      rw [ih (readText_registerAssets htheme hread hpage) hrest, List.flatten_cons, List.map_append,
        Enqueue.declareAll_append]

/-! ### A theme with two files of one name -/

/-- A workspace with two directories beside each other. -/
def demo : Workspace := ⟨"p", "s"⟩

/-- A disk with a theme in which files of its own stand for those of the shell, without the
declarations, and more. -/
def demoDisk (more : List (List String × Entry)) : Disk :=
  ⟨[], [(["p"], .directory), (["p", "d"], .directory), (["p", "d", "theme"], .directory),
    (["p", "d", "theme", "style.css"], .file (.text "x")),
    (["p", "d", "theme", "index.php"], .file (.text "x")),
    (["p", "d", "theme", "functions.php"], .file (.text "x")),
    (["p", "d", "theme", "inc"], .directory),
    (["p", "d", "theme", "inc", "setup.php"], .file (.text "x")),
    (["p", "d", "theme", "inc", "menus.php"], .file (.text "x")),
    (["p", "d", "theme", "inc", "supports.php"], .file (.text "x"))] ++ more⟩

/-- The declarations in that theme. -/
def demoDeclarations (text : String) : List String × Entry :=
  (["p", "d", "theme", "inc", "enqueue.php"], .file (.text text))

theorem succeeds_ensureShell_demo :
    Succeeds (demo.ensureShell "d") (demoDisk []) ()
      (demoDisk [demoDeclarations Shell.enqueuePhp]) := by
  have hkept : isStub Shell.marks "x" = false := by decide
  have hmake : (demoDisk []).makeDirs "p/d/theme/inc" = (.ok (), demoDisk []) := by rfl
  have hwrite : (demoDisk []).write "p/d/theme/inc/enqueue.php" (.text Shell.enqueuePhp) =
      .ok (demoDisk [demoDeclarations Shell.enqueuePhp]) := by rfl
  refine (succeeds_ofExcept.2 ⟨rfl, rfl⟩).bind_iff.2 ?_
  refine (succeeds_putStub_kept (by rfl) hkept).bind_iff.2 ?_
  refine (succeeds_putStub_kept (by rfl) hkept).bind_iff.2 ?_
  refine (succeeds_putStub_kept (by rfl) hkept).bind_iff.2 ?_
  refine (succeeds_putStub_kept (by rfl) hkept).bind_iff.2 ?_
  refine (succeeds_putStub_new (by rfl) (by rfl) hmake hwrite).bind_iff.2 ?_
  refine (succeeds_putStub_kept (by rfl) hkept).bind_iff.2 ?_
  refine (succeeds_putStub_kept (by rfl) hkept).bind_iff.2 ?_
  exact succeeds_pure.2 ⟨rfl, rfl⟩

/-- The pages of that theme: one that refers to a style sheet and a script of one name. -/
def demoPages : List (List String) := [["css/main.css", "js/main.js"]]

/-- The directories of the assets in that theme. -/
def demoAssets : List (List String × Entry) :=
  [(["p", "d", "theme", "assets"], .directory), (["p", "d", "theme", "assets", "css"], .directory),
    (["p", "d", "theme", "assets", "js"], .directory)]

theorem succeeds_registerAll_demo {text : String}
    (hnew : Enqueue.declareAll ["main.css", "main.js"] text ≠ text) :
    Succeeds (demo.registerAll "d" demoPages) (demoDisk [demoDeclarations text]) ()
      (demoDisk (demoDeclarations (Enqueue.declareAll ["main.css", "main.js"] text) ::
        demoAssets)) := by
  have htheme : demo.themeDir "d" = .ok "p/d/theme" := by rfl
  have hread : (demoDisk [demoDeclarations text]).readText (enqueuePath "p/d/theme") = .ok text := by
    rfl
  have hcss : (demoDisk [demoDeclarations text]).makeDirs (assetDir "p/d/theme" "main.css") =
      (.ok (), demoDisk (demoDeclarations text :: demoAssets.take 2)) := by rfl
  have hjs : (demoDisk (demoDeclarations text :: demoAssets.take 2)).makeDirs
      (assetDir "p/d/theme" "main.js") = (.ok (), demoDisk (demoDeclarations text :: demoAssets)) := by
    rfl
  have hplace : Succeeds (demo.placeAssets "p/d/theme" ["css/main.css", "js/main.js"] text)
      (demoDisk [demoDeclarations text]) (Enqueue.declareAll ["main.css", "main.js"] text)
      (demoDisk (demoDeclarations text :: demoAssets)) := by
    rw [placeAssets, if_neg (by decide)]
    refine (succeeds_copyAsset_missing hcss (by rfl)).bind_iff.2 ?_
    rw [placeAssets, if_neg (by decide)]
    refine (succeeds_copyAsset_missing hjs (by rfl)).bind_iff.2 ?_
    exact succeeds_pure.2 ⟨rfl, rfl⟩
  have hpage := succeeds_registerAssets htheme (by simp) (.inl hread) hplace (.inr ⟨hnew, by rfl⟩)
  exact hpage.bind_iff.2 (succeeds_pure.2 ⟨rfl, rfl⟩)

theorem plainName_demo : ∀ file ∈ ["main.css", "main.js"],
    Enqueue.isDeclarable file = true → Enqueue.PlainName file := by
  intro file hfile _
  rw [List.mem_cons, List.mem_singleton] at hfile
  rcases hfile with rfl | rfl
  · exact ⟨by decide, by decide⟩
  · exact ⟨by decide, by decide⟩

/-- A call is added there. -/
theorem declareAll_demo_ne :
    Enqueue.declareAll ["main.css", "main.js"] Shell.enqueuePhp ≠ Shell.enqueuePhp := by
  intro h
  have hcall : Enqueue.callCount (Enqueue.declareAll ["main.css", "main.js"] Shell.enqueuePhp)
      "main.css" = 1 := by
    rw [Enqueue.callCount_declareAll plainName_demo (by decide)]
    exact if_pos (by decide)
  have hnone : Enqueue.callCount (Enqueue.declareAll [] Shell.enqueuePhp) "main.css" = 0 := by
    rw [Enqueue.callCount_declareAll (by simp) (by decide)]
    exact if_neg (by decide)
  rw [Enqueue.declareAll, List.foldl_nil, ← h, hcall] at hnone
  exact absurd hnone (by decide)

/-! ### The theme of a project -/

/-- **The calls in the theme of a project**, into which the shell was put and then the assets of any
pages.  There is a text of declarations that was no stub before the assets.  If it was that of the
shell, and no file to be declared has an apostrophe or a line end in its name, then every file has one
call at its own path if it was the first one under its handle, and this is not that of the style sheet
of the theme.  Else it has none. -/
theorem callCount_registerAll {w : Workspace} {project : String} {before shell after : Disk}
    {pages : List (List String)} (hshell : Succeeds (w.ensureShell project) before () shell)
    (hpages : Succeeds (w.registerAll project pages) shell () after)
    (hnames : ∀ file ∈ pages.flatten.map Assets.fileName,
      Enqueue.isDeclarable file = true → Enqueue.PlainName file) :
    ∃ theme old new, w.themeDir project = .ok theme ∧
      shell.readText (enqueuePath theme) = .ok old ∧ isStub Shell.marks old = false ∧
      after.readText (enqueuePath theme) = .ok new ∧
      (old = Shell.enqueuePhp → ∀ file, Enqueue.isDeclarable file = true →
        Enqueue.callCount new file =
          if Enqueue.handle file ≠ Enqueue.shellHandle ∧
              (pages.flatten.map Assets.fileName).find? (Enqueue.takesHandleOf file) = some file
          then 1 else 0) := by
  obtain ⟨theme, old, htheme, hold, hstub⟩ := exists_readText_ensureShell hshell
  refine ⟨theme, old, _, htheme, hold, hstub, readText_registerAll htheme hold hpages, ?_⟩
  rintro rfl file hfile
  exact Enqueue.callCount_declareAll hnames hfile

/-- The script has no call, since the style sheet was the first one under their handle. -/
theorem callCount_registerAll_demo :
    Succeeds (demo.ensureShell "d") (demoDisk []) () (demoDisk [demoDeclarations Shell.enqueuePhp]) ∧
      ∃ after theme new, Succeeds (demo.registerAll "d" demoPages)
          (demoDisk [demoDeclarations Shell.enqueuePhp]) () after ∧
        (∀ file ∈ demoPages.flatten.map Assets.fileName,
          Enqueue.isDeclarable file = true → Enqueue.PlainName file) ∧
        demo.themeDir "d" = .ok theme ∧ after.readText (enqueuePath theme) = .ok new ∧
        Enqueue.callCount new "main.css" = 1 ∧ Enqueue.callCount new "main.js" = 0 := by
  have hpages := succeeds_registerAll_demo declareAll_demo_ne
  obtain ⟨theme, old, new, htheme, hold, -, hnew, hcalls⟩ :=
    callCount_registerAll succeeds_ensureShell_demo hpages plainName_demo
  obtain rfl : "p/d/theme" = theme := Except.ok.inj htheme
  have hread : (demoDisk [demoDeclarations Shell.enqueuePhp]).readText (enqueuePath "p/d/theme") =
      .ok Shell.enqueuePhp := by rfl
  have hold : old = Shell.enqueuePhp := Except.ok.inj (hold.symm.trans hread)
  have hcss := hcalls hold "main.css" (by decide)
  have hjs := hcalls hold "main.js" (by decide)
  rw [if_pos (by decide)] at hcss
  rw [if_neg (by decide)] at hjs
  exact ⟨succeeds_ensureShell_demo, _, _, new, hpages, plainName_demo, htheme, hnew, hcss, hjs⟩

end Workspace

end ThemeCompiler
