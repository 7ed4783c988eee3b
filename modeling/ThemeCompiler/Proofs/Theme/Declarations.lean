/-
**Declarations on the disk of a workspace.**

The text that declares the assets of a theme is written by two writers: the shell puts its own text
there unless another is no stub, and the assets put declarations into the text that they find.  So from
a disk on which that text is no stub, or not there, it never becomes a stub, as long as no file that is
declared has a mark of stubs in its name; and then the shell leaves it alone, and a declaration that was
put before the first end of a block is never lost.

Main definitions:

* `ThemeCompiler.Workspace.Unmarked` — a disk on which the text of the declarations is no stub;
* `ThemeCompiler.Workspace.Declares` — a disk on which a declaration stands in that text.

Main results:

* `ThemeCompiler.Workspace.registerAssets_cases` — what the assets do to that text, whatever the
  outcome;
* `ThemeCompiler.Workspace.unmarked_afterCall`, `ThemeCompiler.Workspace.declares_afterCall` — what one
  call keeps;
* `ThemeCompiler.Workspace.declared_afterCalls` — **the declarations after any calls**.
-/

import ThemeCompiler.Proofs.Theme.Customized
import ThemeCompiler.Proofs.Theme.Insertion

set_option relaxedAutoImplicit false
set_option autoImplicit false

namespace ThemeCompiler

namespace Workspace

variable {w : Workspace} {disk changed : Disk} {project other theme there : String}

/-! ### The file of the declarations -/

theorem join_themeFile_enqueue (h : Path.EndsInName theme) :
    Path.join theme (ThemeFile.shell .enqueue).path = enqueuePath theme :=
  join_enqueue h

/-- Everything below a theme tells it. -/
theorem theme_eq_of_prefix {name : List String} (htheme : w.themeDir project = .ok theme)
    (hother : w.themeDir other = .ok there) (h : disk.nameOf theme <+: name)
    (h' : disk.nameOf there <+: name) : theme = there := by
  have hlength : (disk.nameOf theme).length = (disk.nameOf there).length := by
    rw [nameOf_themeDir htheme, nameOf_themeDir hother, List.length_append, List.length_append]
    rfl
  exact themeDir_inj htheme hother
    ((List.prefix_of_prefix_length_le h h' hlength.le).eq_of_length hlength)

/-- **A copy is not put in the place of the declarations** of any theme. -/
theorem nameOf_copy_ne (htheme : w.themeDir project = .ok theme) (hother : w.themeDir other = .ok there)
    (asset : String) :
    disk.nameOf (Path.join (assetDir there (Assets.fileName asset)) (Assets.fileName asset)) ≠
      disk.nameOf (enqueuePath theme) := by
  intro heq
  have hinside := prefix_nameOf_asset disk (endsInName_themeDir hother) asset
  have hdeclarations : disk.nameOf theme <+: disk.nameOf (enqueuePath theme) := by
    rw [nameOf_enqueuePath (endsInName_themeDir htheme)]
    exact List.prefix_append _ _
  obtain rfl := theme_eq_of_prefix htheme hother hdeclarations (heq ▸ hinside)
  exact nameOf_asset_ne (endsInName_themeDir htheme) (slash_notMem_fileName asset) heq

/-- Everything but the file of the declarations of a theme. -/
def Elsewhere (theme : String) (disk : Disk) (name : List String) (_ : FileContent) : Prop :=
  name ≠ disk.nameOf (enqueuePath theme)

theorem touches_placeAssets (htheme : w.themeDir project = .ok theme)
    (hother : w.themeDir other = .ok there) (assets : List String) (content : String) (disk : Disk) :
    Disk.Touches (Elsewhere theme disk) (fun _ => True) disk
      (Disk.after (w.placeAssets there assets content) disk) :=
  preserves_placeAssets (fun asset _ => ⟨fun _ => nameOf_copy_ne htheme hother asset,
    fun _ _ => trivial⟩) content disk (.refl _ _ disk)

/-- Putting the assets into a theme and failing leaves the declarations alone. -/
theorem touches_of_fails (htheme : w.themeDir project = .ok theme) {assets : List String} {old : String}
    (h : Fails (do
      let new ← w.placeAssets theme assets old
      if new != old then attempt (FileStore.writeText (enqueuePath theme) new) else pure ()) disk
        changed) :
    Disk.Touches (Elsewhere theme disk) (fun _ => True) disk changed := by
  have hplaced := touches_placeAssets htheme htheme assets old disk
  rcases fails_bind.1 h with hfails | ⟨new, mid, hplace, hwrite⟩
  · rwa [hfails.after_eq] at hplaced
  · rw [hplace.after_eq] at hplaced
    split at hwrite
    · rwa [(fails_writeText.1 hwrite).1]
    · exact absurd hwrite not_fails_pure

/-- Putting the assets into a theme fails before the declarations are written. -/
theorem touches_of_fails_registerAssets (htheme : w.themeDir project = .ok theme)
    {assets : List String} (h : Fails (w.registerAssets project assets) disk changed) :
    Disk.Touches (Elsewhere theme disk) (fun _ => True) disk changed := by
  have hdir : Succeeds (MonadExcept.ofExcept (w.themeDir project)) disk theme disk :=
    succeeds_ofExcept.2 ⟨htheme, rfl⟩
  have hthere : Succeeds (isThere (enqueuePath theme)) disk (disk.isThere (enqueuePath theme)) disk :=
    succeeds_isThere.2 ⟨rfl, rfl⟩
  rw [registerAssets] at h
  split at h
  · exact absurd h not_fails_pure
  rw [hdir.fails_bind_iff, hthere.fails_bind_iff] at h
  split at h
  · rcases fails_bind.1 h with hread | ⟨old, mid, hread, hrest⟩
    · have hsame := Disk.preserves_readText (P := (· = disk)) CompileError.file (enqueuePath theme)
        disk rfl
      rw [hread.after_eq.symm.trans hsame]
      exact .refl _ _ disk
    · obtain ⟨-, rfl⟩ := succeeds_readText.1 hread
      exact touches_of_fails htheme hrest
  · rw [(succeeds_pure.2 ⟨rfl, rfl⟩).fails_bind_iff] at h
    exact touches_of_fails htheme h

/-- Where there is no text of declarations none is made. -/
theorem touches_of_readText_error (htheme : w.themeDir project = .ok theme) {assets : List String}
    {fault : FileFault} (hread : disk.readText (enqueuePath theme) = .error fault)
    (h : Succeeds (w.registerAssets project assets) disk () changed) :
    Disk.Touches (Elsewhere theme disk) (fun _ => True) disk changed := by
  rcases exists_of_registerAssets htheme h with
    ⟨-, rfl⟩ | ⟨old, new, mid, hold | ⟨-, rfl⟩, hplace, hwritten⟩
  · exact .refl _ _ changed
  · rw [hread] at hold
    exact absurd hold (by simp)
  · have hplaced := touches_placeAssets htheme htheme assets "" disk
    rw [hplace.after_eq] at hplaced
    obtain ⟨rfl, -⟩ := succeeds_placeAssets hplace
    rcases hwritten with ⟨-, rfl⟩ | ⟨hnew, -⟩
    · exact hplaced
    · exact absurd (Enqueue.declareAll_empty _) hnew

/-- **What the assets of a project do to the declarations of a theme**, whatever the outcome: they leave
the text alone, or put declarations into it, and then this is the theme of the project. -/
theorem registerAssets_cases (htheme : w.themeDir project = .ok theme) (other : String)
    (assets : List String) (disk : Disk) :
    Disk.Touches (Elsewhere theme disk) (fun _ => True) disk
        (Disk.after (w.registerAssets other assets) disk) ∨
      w.themeDir other = .ok theme ∧ ∃ old, disk.readText (enqueuePath theme) = .ok old ∧
        (Disk.after (w.registerAssets other assets) disk).readText (enqueuePath theme) =
          .ok (Enqueue.declareAll (assets.map Assets.fileName) old) := by
  by_cases hsame : w.themeDir other = .ok theme
  · rcases succeeds_or_fails (w.registerAssets other assets) disk with
      ⟨_, changed, h⟩ | ⟨changed, h⟩
    · rw [h.after_eq]
      cases hread : disk.readText (enqueuePath theme) with
      | ok old => exact .inr ⟨hsame, old, rfl, readText_registerAssets hsame hread h⟩
      | error fault => exact .inl (touches_of_readText_error hsame hread h)
    · rw [h.after_eq]
      exact .inl (touches_of_fails_registerAssets hsame h)
  · -- the files of another theme
    refine .inl (preserves_registerAssets (fun there hother => ⟨fun _ heq => hsame ?_, ?_⟩) disk
      (.refl _ _ disk))
    · rw [← join_themeFile_enqueue (endsInName_themeDir htheme),
        ← join_themeFile_enqueue (endsInName_themeDir hother)] at heq
      obtain ⟨rfl, -⟩ := nameOf_themeFile_inj hother htheme heq
      exact hother
    · exact fun asset _ => ⟨fun _ => nameOf_copy_ne htheme hother asset, fun _ _ => trivial⟩

/-! ### Disks without stubs -/

/-- **A disk on which the text of the declarations of a theme is no stub**, if there is one. -/
def Unmarked (theme : String) (disk : Disk) : Prop :=
  ∀ content, disk.entry? (disk.nameOf (enqueuePath theme)) = some (.file content) →
    Customized Shell.marks content

/-- What is put into the file of the declarations is no stub. -/
theorem Unmarked.touches {files : List String → FileContent → Prop} {dirs : List String → Prop}
    (h : Unmarked theme disk) (hfiles : ∀ content, files (disk.nameOf (enqueuePath theme)) content →
      Customized Shell.marks content)
    (htouches : Disk.Touches files dirs disk changed) : Unmarked theme changed := by
  intro content hentry
  rw [htouches.nameOf] at hentry
  rcases htouches.entry (disk.nameOf (enqueuePath theme)) with hsame | ⟨new, hnew, hput⟩ | ⟨-, -, hput⟩
  · exact h content (hsame.symm.trans hentry)
  · rw [hput, Option.some.injEq, Entry.file.injEq] at hentry
    exact hentry ▸ hfiles new hnew
  · rw [hput] at hentry
    exact absurd hentry (by simp)

/-- The only file that is put in the place of the declarations of a theme is that of the shell. -/
theorem themeFile_eq_enqueue {g : ThemeFile} (htheme : w.themeDir project = .ok theme)
    (hother : w.themeDir other = .ok there)
    (h : disk.nameOf (Path.join there g.path) = disk.nameOf (enqueuePath theme)) :
    g = .shell .enqueue := by
  rw [← join_themeFile_enqueue (endsInName_themeDir htheme)] at h
  exact (nameOf_themeFile_inj hother htheme h).2

/-- A text that is put into a file of a theme does not make a stub of the declarations. -/
theorem preserves_putStub_unmarked (htheme : w.themeDir project = .ok theme)
    (hother : w.themeDir other = .ok there) (g : ThemeFile) {content : String}
    (hcontent : g = .shell .enqueue → content = Shell.enqueuePhp) :
    Disk.Preserves (Unmarked theme) (putStub (Path.join there g.path) content g.marks) := by
  intro disk hdisk
  have hadmits : disk.Admits (fun n written => n = disk.nameOf (enqueuePath theme) →
      Customized Shell.marks written) (fun _ => True) (Path.join there g.path) (.text content) := by
    refine ⟨fun heq => ?_, fun _ _ => trivial⟩
    rintro _ ⟨⟩
    rw [hcontent (themeFile_eq_enqueue htheme hother heq)]
    exact isStub_enqueuePhp
  exact hdisk.touches (fun _ hwritten => hwritten rfl)
    (preserves_putStub hadmits g.marks disk (.refl _ _ disk))

/-- The assets of a call whose names hold no mark of stubs, if it is for the theme. -/
def PlainAssets (w : Workspace) (theme : String) (call : Call) : Prop :=
  ∀ project paths, call = .assets project paths → w.themeDir project = .ok theme →
    ∀ path ∈ paths, Enqueue.isDeclarable (Assets.fileName path) = true →
      Text.contains (Assets.fileName path) Enqueue.placeholder = false

/-- The text with more declarations is no stub. -/
theorem PlainAssets.isStub {assets : List String} {old : String}
    (h : PlainAssets w theme (.assets project assets)) (htheme : w.themeDir project = .ok theme)
    (hold : isStub Shell.marks old = false) :
    isStub Shell.marks (Enqueue.declareAll (assets.map Assets.fileName) old) = false := by
  refine Enqueue.isStub_declareAll hold ?_ ?_
  · rw [List.forall_mem_map]
    exact fun path _ => slash_notMem_fileName path
  · rw [List.forall_mem_map]
    exact h project assets rfl htheme

/-- **No call makes a stub of the declarations.** -/
theorem unmarked_afterCall (htheme : w.themeDir project = .ok theme) {call : Call}
    (hcall : PlainAssets w theme call) (h : Unmarked theme disk) :
    Unmarked theme (w.afterCall disk call) := by
  cases call with
  | shell other =>
      refine preserves_ensureShell (fun there hother file => ?_) disk h
      refine preserves_putStub_unmarked htheme hother (.shell file) fun henqueue => ?_
      rw [ThemeFile.shell.inj henqueue]
      rfl
  | layout other page =>
      exact preserves_extractLayout
        (fun there hother _ => preserves_putStub_unmarked htheme hother .header nofun)
        (fun there hother _ => preserves_putStub_unmarked htheme hother .footer nofun) page disk h
  | assets other paths =>
      rcases registerAssets_cases htheme other paths disk with helse | ⟨hother, old, hread, hnew⟩
      · exact h.touches (fun _ hname => absurd rfl hname) helse
      · intro content hentry
        obtain ⟨name, hname, hold⟩ := Disk.read_eq_ok.1 (Disk.read_of_readText hread)
        obtain ⟨name', hname', hput⟩ := Disk.read_eq_ok.1 (Disk.read_of_readText hnew)
        obtain rfl := Disk.eq_nameOf_of_resolve hname
        obtain rfl := Disk.eq_nameOf_of_resolve hname'
        obtain rfl := Entry.file.inj (Option.some.inj (hput.symm.trans hentry))
        rintro _ ⟨⟩
        exact hcall.isStub hother (h _ hold old rfl)

/-! ### Declarations that stay -/

/-- **A disk on which something is declared**: the text of the declarations of a theme is no stub, and
this stands there before the first end of a block. -/
def Declares (theme : String) (part : List Char) (disk : Disk) : Prop :=
  ∃ text, disk.readText (enqueuePath theme) = .ok text ∧ isStub Shell.marks text = false ∧
    Enqueue.StandsBefore part text

/-- **What is declared stays so** at each call. -/
theorem declares_afterCall (htheme : w.themeDir project = .ok theme) {part : List Char} {call : Call}
    (hcall : PlainAssets w theme call) (h : Declares theme part disk) :
    Declares theme part (w.afterCall disk call) := by
  obtain ⟨text, hread, hstub, hpart⟩ := h
  have hkept : Customized (ThemeFile.shell .enqueue).marks (.text text) := by
    rintro _ ⟨⟩
    exact hstub
  have hput : ∀ other there, w.themeDir other = .ok there → ∀ (g : ThemeFile) content,
      Disk.Preserves (fun d => d.read (enqueuePath theme) = .ok (.text text))
        (putStub (Path.join there g.path) content g.marks) := by
    intro other there hother g content
    rw [← join_themeFile_enqueue (endsInName_themeDir htheme)]
    exact preserves_putStub_other htheme hkept hother g content
  cases call with
  | shell other =>
      have hafter := preserves_ensureShell
        (fun there hother file => hput other there hother (.shell file) _) disk
        (Disk.read_of_readText hread)
      exact ⟨text, Disk.readText_of_read hafter, hstub, hpart⟩
  | layout other page =>
      have hafter := preserves_extractLayout (fun there hother => hput other there hother .header)
        (fun there hother => hput other there hother .footer) page disk
        (Disk.read_of_readText hread)
      exact ⟨text, Disk.readText_of_read hafter, hstub, hpart⟩
  | assets other paths =>
      rcases registerAssets_cases htheme other paths disk with helse | ⟨hother, old, hold, hnew⟩
      · have hafter := helse.read (fun _ hname => hname rfl) (Disk.read_of_readText hread)
        exact ⟨text, Disk.readText_of_read hafter, hstub, hpart⟩
      · obtain rfl := Except.ok.inj (hread.symm.trans hold)
        exact ⟨_, hnew, hcall.isStub hother hstub, hpart.declareAll _⟩

/-- **The declarations after any calls**, whatever their outcomes.  Let the text of the declarations of a
theme be no stub at the beginning, and no file that is to be declared there have the mark of stubs in
its name.  If the assets of a page changed this text, then every declaration that was put into it is
still there after all later calls, unless its file has an end of a block in its name. -/
theorem declared_afterCalls {paths : List String} {old : String} (before later : List Call)
    (htheme : w.themeDir project = .ok theme) (hmarks : Unmarked theme disk)
    (hcalls : ∀ call ∈ before ++ .assets project paths :: later, PlainAssets w theme call)
    (hold : (w.afterCalls before disk).readText (enqueuePath theme) = .ok old)
    (hchanged : (w.afterCalls (before ++ [.assets project paths]) disk).readText
      (enqueuePath theme) ≠ .ok old) :
    ∀ file ∈ Enqueue.inserted (paths.map Assets.fileName) old,
      Text.contains file Enqueue.blockEnd = false →
        ∃ text, (w.afterCalls (before ++ .assets project paths :: later) disk).readText
            (enqueuePath theme) = .ok text ∧
          Text.contains text (Enqueue.declarationOf file) = true := by
  intro file hfile hname
  obtain ⟨hbefore, hassets, hlater⟩ : (∀ call ∈ before, PlainAssets w theme call) ∧
      PlainAssets w theme (.assets project paths) ∧ ∀ call ∈ later, PlainAssets w theme call := by
    rw [List.forall_mem_append, List.forall_mem_cons] at hcalls
    exact hcalls
  have hstub : isStub Shell.marks old = false := by
    obtain ⟨name, hresolve, hentry⟩ := Disk.read_eq_ok.1 (Disk.read_of_readText hold)
    obtain rfl := Disk.eq_nameOf_of_resolve hresolve
    have hunmarked : Unmarked theme (w.afterCalls before disk) :=
      afterCalls_invariant (fun call hcall _ => unmarked_afterCall htheme (hbefore call hcall)) hmarks
    exact hunmarked _ hentry old rfl
  rw [afterCalls_append, afterCalls_singleton] at hchanged
  have hdeclares : Declares theme (Enqueue.declarationOf file).toList
      (w.afterCall (w.afterCalls before disk) (.assets project paths)) := by
    rcases registerAssets_cases htheme project paths (w.afterCalls before disk) with
      helse | ⟨-, text, hread, hnew⟩
    · refine absurd (Disk.readText_of_read ?_) hchanged
      exact helse.read (fun _ hname => hname rfl) (Disk.read_of_readText hold)
    · obtain rfl := Except.ok.inj (hread.symm.trans hold)
      refine ⟨_, hnew, hassets.isStub htheme hstub, ?_⟩
      refine Enqueue.standsBefore_of_mem_inserted ?_ hfile hname
      rw [List.forall_mem_map]
      exact fun path _ => slash_notMem_fileName path
  obtain ⟨text, hread, -, hpart⟩ : Declares theme (Enqueue.declarationOf file).toList
      (w.afterCalls (before ++ .assets project paths :: later) disk) := by
    rw [← List.singleton_append, afterCalls_append, afterCalls_append, afterCalls_singleton]
    exact afterCalls_invariant
      (fun call hcall _ => declares_afterCall htheme (hlater call hcall)) hdeclares
  exact ⟨text, hread, (Text.occursIn_iff_infix _ _).2 hpart.infix⟩

/-- A style sheet is put into the text of the shell. -/
theorem isInserted_demo : Enqueue.isInserted Shell.enqueuePhp "main.css" = true := by
  refine Enqueue.isInserted_of_declare_ne fun hsame => ?_
  have hplain : ∀ file ∈ ["main.css"],
      Enqueue.isDeclarable file = true → Enqueue.PlainName file := fun file hfile =>
    plainName_demo file (List.mem_cons.2 (.inl (List.mem_singleton.1 hfile)))
  have hcall : Enqueue.callCount (Enqueue.declareAll ["main.css"] Shell.enqueuePhp) "main.css" = 1 := by
    rw [Enqueue.callCount_declareAll hplain (by decide)]
    exact if_pos (by decide)
  have hnone : Enqueue.callCount (Enqueue.declareAll [] Shell.enqueuePhp) "main.css" = 0 := by
    rw [Enqueue.callCount_declareAll (by simp) (by decide)]
    exact if_neg (by decide)
  rw [Enqueue.declareAll_cons, hsame, hnone] at hcall
  exact absurd hcall (by decide)

/-- A style sheet and a script of one name are put into that theme, and then its shell again. -/
theorem declared_afterCalls_demo :
    Unmarked "p/d/theme" (demoDisk []) ∧
      "main.css" ∈ Enqueue.inserted ["main.css", "main.js"] Shell.enqueuePhp ∧
      ∃ text, (demo.afterCalls [.shell "d", .assets "d" ["css/main.css", "js/main.js"], .shell "d"]
          (demoDisk [])).readText (enqueuePath "p/d/theme") = .ok text ∧
        Text.contains text (Enqueue.declarationOf "main.css") = true := by
  have hmarks : Unmarked "p/d/theme" (demoDisk []) := by
    intro content hentry
    have hnone : Disk.entry? (demoDisk []) ((demoDisk []).nameOf (enqueuePath "p/d/theme")) = none := by
      rfl
    rw [hnone] at hentry
    exact absurd hentry (by simp)
  have hinserted : "main.css" ∈ Enqueue.inserted ["main.css", "main.js"] Shell.enqueuePhp := by
    rw [Enqueue.inserted, if_pos isInserted_demo]
    exact List.mem_cons_self
  have htheme : demo.themeDir "d" = .ok "p/d/theme" := by rfl
  have hshell : demo.afterCalls [.shell "d"] (demoDisk []) =
      demoDisk [demoDeclarations Shell.enqueuePhp] := succeeds_ensureShell_demo.after_eq
  have hold : (demoDisk [demoDeclarations Shell.enqueuePhp]).readText (enqueuePath "p/d/theme") =
      .ok Shell.enqueuePhp := by rfl
  obtain ⟨_, mid, hpage, -⟩ := succeeds_bind.1 (succeeds_registerAll_demo declareAll_demo_ne)
  have hassets : demo.afterCall (demoDisk [demoDeclarations Shell.enqueuePhp])
      (.assets "d" ["css/main.css", "js/main.js"]) = mid := hpage.after_eq
  have hfiles : ["css/main.css", "js/main.js"].map Assets.fileName = ["main.css", "main.js"] := by
    decide
  have hcalls : ∀ call ∈ [Call.shell "d"] ++ [.assets "d" ["css/main.css", "js/main.js"], .shell "d"],
      PlainAssets demo "p/d/theme" call := by
    intro call hcall project paths heq _ path hpath _
    subst heq
    simp only [List.cons_append, List.nil_append, List.mem_cons, List.not_mem_nil, or_false,
      reduceCtorEq, false_or, Call.assets.injEq] at hcall
    obtain ⟨rfl, rfl⟩ := hcall
    have hplain : ∀ path ∈ ["css/main.css", "js/main.js"],
        Text.contains (Assets.fileName path) Enqueue.placeholder = false := by decide
    exact hplain path hpath
  have hdeclared := declared_afterCalls [.shell "d"] [.shell "d"] htheme hmarks hcalls
    (hshell ▸ hold)
  rw [afterCalls_append, afterCalls_singleton, hshell, hassets, hfiles,
    readText_registerAssets htheme hold hpage, hfiles] at hdeclared
  exact ⟨hmarks, hinserted, hdeclared (fun h => declareAll_demo_ne (Except.ok.inj h)) "main.css"
    hinserted (by decide)⟩

end Workspace

end ThemeCompiler
