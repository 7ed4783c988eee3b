/-
**The same assets a second time.**

A file that was put into a text is declared there, and nothing that is put into the text later tears its
handle apart, since it begins with a line end and a handle has none.  So a text with the declarations of
some files is not changed by declaring them again.  The copies and their directories stay as well, and a
second call finds all that it looks for as the first one left it.  Nothing else can be wrong but that a
source has come to be there: a path with two dots may lead through directories that the first call made.

Main definitions:

* `ThemeCompiler.Workspace.Placed` — an asset that is in a theme, with the directories before it;
* `ThemeCompiler.Workspace.Steady` — a disk on which nothing that is looked for has come to be there.

Main results:

* `ThemeCompiler.Enqueue.declareAll_again` — **the declarations a second time**;
* `ThemeCompiler.Workspace.placed_placeAssets` — the assets that were placed;
* `ThemeCompiler.Workspace.steady_of_apart` — sources that are apart from the theme;
* `ThemeCompiler.Workspace.registerAssets_again` — **the assets a second time**.
-/

import ThemeCompiler.Proofs.Theme.Confinement
import ThemeCompiler.Proofs.Theme.Copies
import ThemeCompiler.Proofs.Theme.Insertion

set_option relaxedAutoImplicit false
set_option autoImplicit false

namespace ThemeCompiler

/-! ### Declarations -/

namespace Enqueue

variable {file g content : String} {names : List String}

theorem quoted_infix_declaration (what function handle url : String) (tail : List String) :
    Text.inQuotes handle.toList <:+: (declaration what function handle url tail).toList := by
  have hopen : "            '".toList = "            ".toList ++ ['\''] := by decide
  have hclose : "',\n".toList = '\'' :: ",\n".toList := by decide
  refine ⟨("\n        // Auto-enqueued " ++ what ++ "\n" ++ "        " ++ function ++ "(\n"
      ++ "            ").toList, (",\n" ++ "            get_template_directory_uri() . '" ++ url ++ "',\n"
      ++ "            array(),\n" ++ String.join (tail.map fun line => "            " ++ line ++ "\n")
      ++ "        );\n").toList, ?_⟩
  delta declaration
  simp only [String.toList_append, hopen, hclose, Text.inQuotes, List.append_assoc, List.cons_append,
    List.nil_append]

/-- The handle of a file stands in its declaration. -/
theorem quoted_infix_declarationOf (h : isDeclarable file = true) :
    Text.inQuotes (handle file).toList <:+: (declarationOf file).toList := by
  have hsnippet := snippet?_eq_declarationOf h
  rcases subdirectory_of_isDeclarable h with hdir | hdir
  · rw [hdir] at hsnippet
    rw [← Option.some.inj hsnippet]
    exact quoted_infix_declaration _ _ _ _ _
  · rw [hdir] at hsnippet
    rw [← Option.some.inj hsnippet]
    exact quoted_infix_declaration _ _ _ _ _

/-- **A file that was put into a text** is declared there. -/
theorem isDeclared_declare (h : isInserted content file = true) :
    isDeclared (declare file content) (handle file) = true := by
  obtain ⟨before, after, -, htext⟩ := toList_declare h
  rw [isDeclared, contains_quoted, htext]
  exact (quoted_infix_declarationOf (isDeclarable_of_isInserted h)).trans
    ⟨before, blockEnd.toList ++ after, List.append_assoc _ _ _⟩

/-- **A handle that stands in a text** stays there, if it has no line end. -/
theorem isDeclared_declare_of_isDeclared (hline : '\n' ∉ (handle g).toList)
    (h : isDeclared content (handle g) = true) (file : String) :
    isDeclared (declare file content) (handle g) = true := by
  cases hinserted : isInserted content file with
  | false => rwa [declare_of_not_isInserted hinserted]
  | true =>
      obtain ⟨before, after, hfound, htext⟩ := toList_declare hinserted
      obtain ⟨cs, hcs⟩ := exists_cons_declarationOf (isDeclarable_of_isInserted hinserted)
      have hold := Text.eq_of_splitFirst? hfound
      have hquoted : '\n' ∉ Text.inQuotes (handle g).toList := by
        simp [Text.inQuotes, hline]
      have hne : Text.inQuotes (handle g).toList ≠ [] := by simp [Text.inQuotes]
      -- the handle is on one side of the line end at which the declaration is put
      rw [isDeclared, contains_quoted, hold, blockEnd_eq, List.cons_append,
        Text.infix_append_cons_iff hquoted hne] at h
      rw [isDeclared, contains_quoted, htext, hcs, blockEnd_eq, List.cons_append, List.cons_append,
        Text.infix_append_cons_iff hquoted hne, Text.infix_append_cons_iff hquoted hne]
      exact h.imp_right .inr

/-- What is not put into a text is not put into it after another file was. -/
theorem isInserted_declare (hline : '\n' ∉ (handle g).toList) (h : isInserted content g = false)
    (file : String) : isInserted (declare file content) g = false := by
  cases hinserted : isInserted content file with
  | false =>
      rw [declare_of_not_isInserted hinserted]
      exact h
  | true =>
      -- there is a place in the text, so the file is none to be declared, or is declared
      have hplace : Text.contains content blockEnd = true := by
        rw [isInserted, Bool.and_eq_true] at hinserted
        exact hinserted.2
      rw [isInserted, hplace, Bool.and_true, Bool.and_eq_false_iff, Bool.not_eq_false'] at h
      rw [isInserted]
      rcases h with hother | hdeclared
      · rw [hother]
        rfl
      · rw [isDeclared_declare_of_isDeclared hline hdeclared file]
        simp

/-- **No file is put into a text a second time.** -/
theorem isInserted_declare_self (file content : String) :
    isInserted (declare file content) file = false := by
  cases hinserted : isInserted content file with
  | false => rwa [declare_of_not_isInserted hinserted]
  | true =>
      rw [isInserted, isDeclared_declare hinserted]
      simp

theorem isInserted_declareAll (hline : '\n' ∉ (handle g).toList) (h : isInserted content g = false)
    (names : List String) : isInserted (declareAll names content) g = false := by
  induction names generalizing content with
  | nil => exact h
  | cons file names ih =>
      rw [declareAll_cons]
      exact ih (isInserted_declare hline h file)

/-- **After the declarations of some files** none of these is put into the text. -/
theorem isInserted_declareAll_of_mem (hlines : ∀ g ∈ names, '\n' ∉ g.toList) (content : String) :
    ∀ g ∈ names, isInserted (declareAll names content) g = false := by
  induction names generalizing content with
  | nil => exact fun _ hg => absurd hg List.not_mem_nil
  | cons file names ih =>
      obtain ⟨hline, hlines⟩ := List.forall_mem_cons.1 hlines
      rw [declareAll_cons, List.forall_mem_cons]
      constructor
      · exact isInserted_declareAll (notMem_handle (by decide) hline)
          (isInserted_declare_self file content) names
      · exact ih hlines (declare file content)

theorem declareAll_of_not_isInserted (h : ∀ g ∈ names, isInserted content g = false) :
    declareAll names content = content := by
  induction names with
  | nil => rfl
  | cons file names ih =>
      obtain ⟨hfile, hrest⟩ := List.forall_mem_cons.1 h
      rw [declareAll_cons, declare_of_not_isInserted hfile, ih hrest]

/-- **The declarations a second time** change nothing, if no name has a line end. -/
theorem declareAll_again (hlines : ∀ g ∈ names, '\n' ∉ g.toList) (content : String) :
    declareAll names (declareAll names content) = declareAll names content :=
  declareAll_of_not_isInserted (isInserted_declareAll_of_mem hlines content)

end Enqueue

/-! ### Copies -/

namespace Workspace

variable {w : Workspace} {disk changed last : Disk} {project theme path file content new : String}
  {paths : List String}

/-- **An asset that is in a theme**: its directory is there, and so is its copy if its source is. -/
structure Placed (w : Workspace) (disk : Disk) (theme path : String) : Prop where
  directory : disk.makeDirs (assetDir theme (Assets.fileName path)) = (.ok (), disk)
  copy : disk.isThere (w.sourcePath path) = true →
    disk.isThere (Path.join (assetDir theme (Assets.fileName path)) (Assets.fileName path)) = true

/-- **An asset that is in a theme** is not copied again. -/
theorem Placed.copyAsset (h : w.Placed disk theme path) :
    Succeeds (w.copyAsset theme path (Assets.fileName path)) disk () disk := by
  refine (succeeds_makeDirs.2 h.directory).bind_iff.2 ?_
  rw [(succeeds_isThere.2 ⟨rfl, rfl⟩).bind_iff]
  split
  · next hsource =>
      rw [(succeeds_isThere.2 ⟨rfl, rfl⟩).bind_iff, h.copy hsource, if_neg (by simp)]
      exact succeeds_pure.2 ⟨rfl, rfl⟩
  · exact succeeds_pure.2 ⟨rfl, rfl⟩

/-- **Where all assets are**, nothing is placed. -/
theorem succeeds_placeAssets_of_placed
    (h : ∀ path ∈ paths, Assets.fileName path ≠ "" → w.Placed disk theme path) (content : String) :
    Succeeds (w.placeAssets theme paths content) disk
      (Enqueue.declareAll (paths.map Assets.fileName) content) disk := by
  induction paths generalizing content with
  | nil => exact succeeds_pure.2 ⟨rfl, rfl⟩
  | cons path rest ih =>
      obtain ⟨hpath, hrest⟩ := List.forall_mem_cons.1 h
      rw [placeAssets, List.map_cons, Enqueue.declareAll_cons]
      split
      · next hempty =>
          rw [String.isEmpty_iff.1 hempty, Enqueue.declare_empty]
          exact ih hrest content
      · next hname =>
          exact (hpath (by simpa using hname)).copyAsset.bind_iff.2 (ih hrest _)

/-- **After an asset was copied** it is in the theme, as long as everything stays there and its source
has not come to be there. -/
theorem placed_copyAsset
    (h : Succeeds (w.copyAsset theme path (Assets.fileName path)) disk () changed)
    (hlater : Disk.Grows changed last)
    (hsource : last.isThere (w.sourcePath path) = true → disk.isThere (w.sourcePath path) = true) :
    w.Placed last theme path := by
  obtain ⟨mid, hmake, hcases⟩ := exists_of_copyAsset h
  have hmade : Disk.Grows disk (disk.makeDirs (assetDir theme (Assets.fileName path))).2 :=
    Disk.touches_makeDirs fun _ _ => trivial
  rw [hmake] at hmade
  -- the directories stay, and where the source is there, so is the copy
  obtain ⟨hkeeps, hcopied⟩ : Disk.KeepsPaths mid changed ∧
      (mid.isThere (w.sourcePath path) = true →
        changed.isThere (Path.join (assetDir theme (Assets.fileName path)) (Assets.fileName path)) =
          true) := by
    rcases hcases with ⟨hthere, rfl⟩ | ⟨-, hcopy⟩
    · exact ⟨(Disk.Keeps.refl [] changed).toKeepsPaths, hthere⟩
    · obtain ⟨content, -, hwrite⟩ := Disk.exists_of_copyFile hcopy
      have hwritten : Disk.Grows mid changed := Disk.touches_write hwrite trivial
      exact ⟨hwritten.toKeepsPaths, fun _ => Disk.isThere_of_read (Disk.read_write hwrite)⟩
  exact ⟨(hkeeps.trans hlater.toKeepsPaths).makeDirs hmake,
    fun hthere => hlater.isThere (hcopied (hmade.isThere (hsource hthere)))⟩

theorem admitsAsset_all (disk : Disk) (theme file : String) :
    AdmitsAsset (fun _ _ => True) (fun _ => True) disk theme file :=
  ⟨fun _ => trivial, fun _ _ => trivial⟩

theorem grows_copyAsset (h : Succeeds (w.copyAsset theme path file) disk () changed) :
    Disk.Grows disk changed :=
  h.preserves (preserves_copyAsset (admitsAsset_all disk theme file) path) (.refl _ _ disk)

theorem grows_placeAssets (h : Succeeds (w.placeAssets theme paths content) disk new changed) :
    Disk.Grows disk changed :=
  h.preserves (preserves_placeAssets (fun _ _ => admitsAsset_all disk theme _) content)
    (.refl _ _ disk)

/-- **After assets were placed** they are in the theme. -/
theorem placed_placeAssets (h : Succeeds (w.placeAssets theme paths content) disk new changed)
    (hlater : Disk.Grows changed last)
    (hsources : ∀ path ∈ paths,
      last.isThere (w.sourcePath path) = true → disk.isThere (w.sourcePath path) = true) :
    ∀ path ∈ paths, Assets.fileName path ≠ "" → w.Placed last theme path := by
  induction paths generalizing disk content with
  | nil => exact fun _ hpath => absurd hpath List.not_mem_nil
  | cons path rest ih =>
      obtain ⟨hpath, hrest⟩ := List.forall_mem_cons.1 hsources
      rw [List.forall_mem_cons]
      by_cases hname : Assets.fileName path = ""
      · rw [placeAssets, if_pos (by simp [hname])] at h
        exact ⟨fun hne => absurd hname hne, ih h hrest⟩
      · obtain ⟨mid, hcopy, hplace⟩ := exists_of_placeAssets_cons hname h
        constructor
        · exact fun _ => placed_copyAsset hcopy ((grows_placeAssets hplace).trans hlater) hpath
        · refine ih hplace fun other hother hthere => ?_
          exact (grows_copyAsset hcopy).isThere (hrest other hother hthere)

/-! ### Sources apart from the theme -/

/-- **A disk on which nothing that is looked for has come to be there**: neither the file of the
declarations nor the source of an asset. -/
structure Steady (w : Workspace) (theme : String) (paths : List String) (disk changed : Disk) :
    Prop where
  declarations : changed.isThere (enqueuePath theme) = true → disk.isThere (enqueuePath theme) = true
  sources : ∀ path ∈ paths,
    changed.isThere (w.sourcePath path) = true → disk.isThere (w.sourcePath path) = true

/-- **What leads below a directory of the theme** leads to the theme, or is in that directory. -/
theorem mem_way_below {dir sub : String} {n : List String} (htheme : Path.EndsInName theme)
    (hdir : Path.EndsInName dir) (hslash : '/' ∉ dir.toList) (hdots : dir ≠ "." ∧ dir ≠ "..")
    (hup : ".." ∉ Path.pieces sub) (hn : n ∈ disk.way (theme ++ "/" ++ dir ++ "/" ++ sub)) :
    n ∈ disk.way theme ∨ disk.nameOf theme ++ [dir] <+: n := by
  have hends : Path.EndsInName (theme ++ "/" ++ dir) := hdir.append
  have hname : disk.nameOf (theme ++ "/" ++ dir) = disk.nameOf theme ++ [dir] := by
    rw [Disk.nameOf_below_name htheme hslash,
      Disk.advance_eq (Disk.ne_empty_of_endsInName hdir) hdots.1 hdots.2]
  have hcrossed : disk.crossed (theme ++ "/" ++ dir) = disk.way theme := by
    rw [Disk.crossed_below (Disk.ne_empty_of_endsInName htheme), Path.pieces_of_notMem hslash]
    rfl
  rcases Disk.mem_way_iff.1 hn with hn | hn
  · rcases Disk.mem_crossed_below hends hup hn with h | h
    · exact .inr (hname ▸ h)
    · rw [Disk.mem_way_iff, hcrossed, hname] at h
      rcases h with h | rfl
      · exact .inl h
      · exact .inr List.prefix_rfl
  · rw [hn, Disk.nameOf_below hends, hname]
    exact .inr (Disk.prefix_foldl_advance hup List.prefix_rfl)

/-- **What placing assets touches**: what leads to the theme, and what is in its directory of assets. -/
theorem admitsAsset_assets (htheme : Path.EndsInName theme) (disk : Disk) (path : String) :
    AdmitsAsset (fun n _ => n ∈ disk.way theme ∨ disk.nameOf theme ++ ["assets"] <+: n)
      (fun n => n ∈ disk.way theme ∨ disk.nameOf theme ++ ["assets"] <+: n) disk theme
      (Assets.fileName path) := by
  have hway : ∀ n ∈ disk.way (assetDir theme (Assets.fileName path)),
      n ∈ disk.way theme ∨ disk.nameOf theme ++ ["assets"] <+: n := by
    intro n hn
    have hup : ".." ∉ Path.pieces (dropSlashes (Assets.subdirectory (Assets.fileName path))) := by
      rcases Assets.subdirectory_cases (Assets.fileName path) with h | h | h <;> rw [h] <;> decide
    rw [assetDir_eq htheme, ← String.append_assoc, ← String.append_assoc] at hn
    exact mem_way_below htheme ⟨'s', rfl, by decide⟩ (by decide) (by decide) hup hn
  refine ⟨fun _ => ?_, hway⟩
  rw [← copyPath_eq htheme]
  rcases nameOf_copyPath_cases disk htheme path with hmem | heq
  · exact hway _ hmem
  · obtain ⟨dirs, hdirs, hname⟩ := nameOf_assetDir disk htheme (Assets.fileName path)
    have hbelow : ∀ dirs ∈ [["assets"], ["assets", "css"], ["assets", "js"]], ["assets"] <+: dirs := by
      decide
    rw [heq, hname, List.append_assoc, List.prefix_append_right_inj]
    exact .inr ((hbelow dirs hdirs).trans (List.prefix_append dirs _))

/-- **Sources apart from the theme** do not come to be there, and neither does the file of the
declarations, when all that leads to the theme is there. -/
theorem steady_of_apart (htheme : w.themeDir project = .ok theme)
    (hthere : ∀ n ∈ disk.way theme, disk.entry? n = some .directory)
    (hapart : ∀ path ∈ paths, ∀ n ∈ disk.way (w.sourcePath path), ¬ disk.nameOf theme <+: n)
    (h : Succeeds (w.registerAssets project paths) disk () changed) :
    w.Steady theme paths disk changed := by
  have hends := endsInName_themeDir htheme
  have hway : ∀ n, disk.entry? n = none → n ∉ disk.way theme := by
    intro n hnone hn
    rw [hthere n hn] at hnone
    exact absurd hnone (by simp)
  constructor
  · intro hlater
    by_contra hnot
    -- without a file of declarations nothing is written but the copies
    obtain ⟨old, new, hplace⟩ : ∃ old new,
        Succeeds (w.placeAssets theme paths old) disk new changed := by
      rcases exists_of_registerAssets htheme h with ⟨rfl, rfl⟩ | ⟨old, new, mid, hold, hplace, hwritten⟩
      · exact ⟨"", "", succeeds_pure.2 ⟨rfl, rfl⟩⟩
      · obtain ⟨-, rfl⟩ := hold.resolve_left fun hread => hnot (Disk.isThere_of_readText hread)
        obtain ⟨rfl, -⟩ := succeeds_placeAssets hplace
        rw [Enqueue.declareAll_empty] at hplace hwritten
        obtain ⟨-, rfl⟩ := hwritten.resolve_right fun hnew => hnew.1 rfl
        exact ⟨"", _, hplace⟩
    have htouches := hplace.preserves
      (preserves_placeAssets (fun path _ => admitsAsset_assets hends disk path) old) (.refl _ _ disk)
    refine hnot (htouches.isThere_before (fun n hn hnone => ?_) hlater)
    have hother : ¬ disk.nameOf theme ++ ["assets"] <+: n := by
      have hfile : "inc/enqueue.php" = "inc" ++ "/" ++ "enqueue.php" := by decide
      rw [enqueuePath_eq hends, hfile, ← String.append_assoc, ← String.append_assoc] at hn
      obtain ⟨rest, rfl⟩ := (mem_way_below hends ⟨'c', rfl, by decide⟩ (by decide) (by decide)
        (by decide) hn).resolve_left (hway n hnone)
      rw [List.append_assoc, List.prefix_append_right_inj]
      simp
    have hneither := not_or.2 ⟨hway n hnone, hother⟩
    exact ⟨hneither, fun _ => hneither⟩
  · intro path hpath hlater
    have htouches : disk.Confined theme changed := by
      refine h.preserves (preserves_registerAssets fun other hother => ?_) (.refl _ _ disk)
      obtain rfl := Except.ok.inj (htheme.symm.trans hother)
      refine ⟨fun _ => ?_, fun asset _ => admitsAsset hends disk asset⟩
      rw [nameOf_enqueuePath hends]
      exact List.prefix_append _ _
    refine htouches.isThere_before (fun n hn hnone => ?_) hlater
    exact ⟨not_or.2 ⟨hapart path hpath n hn, hway n hnone⟩, fun _ => hapart path hpath n hn⟩

/-! ### The assets a second time -/

/-- **The assets a second time**: after they were put into a theme, putting them there again succeeds
and changes nothing, if no path has a line end and nothing that is looked for has come to be there. -/
theorem registerAssets_again (hlines : ∀ path ∈ paths, '\n' ∉ path.toList)
    (h : Succeeds (w.registerAssets project paths) disk () changed)
    (hsteady : ∀ theme, w.themeDir project = .ok theme → w.Steady theme paths disk changed) :
    Succeeds (w.registerAssets project paths) changed () changed := by
  by_cases hempty : paths = []
  · subst hempty
    exact succeeds_pure.2 ⟨rfl, rfl⟩
  have hparts := h
  rw [registerAssets, if_neg (by simpa using hempty)] at hparts
  obtain ⟨theme, _, hdir, -⟩ := succeeds_bind.1 hparts
  have htheme := (succeeds_ofExcept.1 hdir).1
  have hsteady := hsteady theme htheme
  obtain ⟨old, new, mid, hold, hplace, hwritten⟩ :=
    (exists_of_registerAssets htheme h).resolve_left fun hnone => hempty hnone.1
  have hgrows : Disk.Grows mid changed := by
    rcases hwritten with ⟨-, rfl⟩ | ⟨-, hwrite⟩
    · exact .refl _ _ changed
    · exact Disk.touches_write hwrite trivial
  have hplaced := placed_placeAssets hplace hgrows hsteady.sources
  have hnames : ∀ g ∈ paths.map Assets.fileName, '\n' ∉ g.toList := by
    rw [List.forall_mem_map]
    exact fun path hpath hmem => hlines path hpath (Assets.mem_fileName hmem).1
  -- the declarations that the second call starts from are all that it asks for
  obtain ⟨text, htext, hsame⟩ : ∃ text, (changed.readText (enqueuePath theme) = .ok text ∨
      changed.isThere (enqueuePath theme) = false ∧ text = "") ∧
        Enqueue.declareAll (paths.map Assets.fileName) text = text := by
    rcases hold with hread | ⟨hnot, -⟩
    · exact ⟨_, .inl (readText_registerAssets htheme hread h), Enqueue.declareAll_again hnames old⟩
    · refine ⟨"", .inr ⟨Bool.eq_false_iff.2 fun hthere => ?_, rfl⟩, Enqueue.declareAll_empty _⟩
      rw [hsteady.declarations hthere] at hnot
      exact absurd hnot (by simp)
  have hagain := succeeds_placeAssets_of_placed hplaced text
  rw [hsame] at hagain
  exact succeeds_registerAssets htheme hempty htext hagain (.inl ⟨rfl, rfl⟩)

/-- A text of declarations with a block, and a style sheet beside that theme. -/
def demoSheet : List (List String × Entry) :=
  [demoDeclarations "\x7b\n    \x7d\n", (["s"], .directory), (["s", "css"], .directory),
    (["s", "css", "main.css"], .file (.text "a"))]

/-- The style sheet is copied and declared by the first call, and nothing is done by the second one. -/
theorem registerAssets_again_sheet :
    (∀ path ∈ ["css/main.css"], '\n' ∉ path.toList) ∧ ∃ changed,
      Succeeds (demo.registerAssets "d" ["css/main.css"]) (demoDisk demoSheet) () changed ∧
        demo.Steady "p/d/theme" ["css/main.css"] (demoDisk demoSheet) changed ∧
        changed ≠ demoDisk demoSheet ∧
        Succeeds (demo.registerAssets "d" ["css/main.css"]) changed () changed := by
  have hlines : ∀ path ∈ ["css/main.css"], '\n' ∉ path.toList := by decide
  have hok : ((registerAssets (m := StateM Disk) demo "d" ["css/main.css"]).run.run
      (demoDisk demoSheet)).1.isOk = true := by decide +kernel
  have hne : Disk.after (demo.registerAssets "d" ["css/main.css"]) (demoDisk demoSheet) ≠
      demoDisk demoSheet := by decide +kernel
  obtain ⟨changed, _, h⟩ : ∃ changed a, (registerAssets (m := StateM Disk) demo "d"
      ["css/main.css"]).run.run (demoDisk demoSheet) = (.ok a, changed) :=
    Disk.exists_run_of_isOk hok
  have hsteady : ∀ theme, demo.themeDir "d" = .ok theme →
      demo.Steady theme ["css/main.css"] (demoDisk demoSheet) changed := by
    intro theme htheme
    obtain rfl : "p/d/theme" = theme := Except.ok.inj htheme
    exact steady_of_apart htheme (by decide) (by decide +kernel) h
  rw [Disk.after_eq h] at hne
  exact ⟨hlines, changed, h, hsteady _ rfl, hne, registerAssets_again hlines h hsteady⟩

/-- An image beside that theme. -/
def demoImage : List (List String × Entry) :=
  [(["s"], .directory), (["s", "img"], .directory), (["s", "img", "a.png"], .file (.text "A"))]

/-- The image, by a path that leads through the directory of the style sheets, and a style sheet. -/
def demoDetour : List String := ["../p/d/theme/assets/css/../../../../../s/img/a.png", "x.css"]

/-- The image is not found by the first call, which makes the directory of the style sheets, but by the
second one, although nothing was changed beside the theme. -/
theorem registerAssets_again_ne :
    (¬ (demoDisk demoImage).nameOf "p/d/theme" <+: (demoDisk demoImage).nameOf demo.sourceRoot ∧
      ¬ (demoDisk demoImage).nameOf demo.sourceRoot <+: (demoDisk demoImage).nameOf "p/d/theme") ∧
    (∀ path ∈ demoDetour, '\n' ∉ path.toList) ∧
    Succeeds (demo.registerAssets "d" demoDetour) (demoDisk demoImage) ()
      (demoDisk (demoImage ++ demoAssets.take 2)) ∧
    Succeeds (demo.registerAssets "d" demoDetour) (demoDisk (demoImage ++ demoAssets.take 2)) ()
      (demoDisk (demoImage ++ demoAssets.take 2 ++
        [(["p", "d", "theme", "assets", "a.png"], .file (.text "A"))])) := by
  refine ⟨by decide +kernel, by decide +kernel, succeeds_of_run ?_, succeeds_of_run ?_⟩
  · decide +kernel
  · decide +kernel

end Workspace

end ThemeCompiler
