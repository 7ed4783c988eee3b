/-
**The copies that references lead to.**

An asset is copied to the place that its reference is redirected to, unless something is there.  So no
copy takes the place of another one or of a directory, and in a theme without assets the first path
with a file name decides what all references with this name lead to.

Main definitions:

* `ThemeCompiler.Workspace.copyPath` — the file of a theme that a reference is redirected to.

Main results:

* `ThemeCompiler.Workspace.copyPath_eq` — it is the one that the asset is copied to;
* `ThemeCompiler.Workspace.way_placeAssets` — the directories of the assets are there afterwards;
* `ThemeCompiler.Workspace.read_placeAssets` — **the first path with a file name is copied**;
* `ThemeCompiler.Workspace.read_copyPath_iff` — **when a copy has the content of its source**;
* `ThemeCompiler.Workspace.read_redirected_iff` — the references of a page.
-/

import ThemeCompiler.Proofs.Assets
import ThemeCompiler.Proofs.Theme.Writers

set_option relaxedAutoImplicit false
set_option autoImplicit false

namespace ThemeCompiler

namespace Workspace

variable {w : Workspace} {disk changed : Disk} {project theme path asset file : String}

/-! ### The place of a copy -/

/-- **The file of a theme that a reference is redirected to.** -/
def copyPath (theme path : String) : String := Path.join theme (Assets.placed "assets/" path)

/-- A directory below that of the assets is one name with a slash. -/
theorem exists_subdirectory (file : String) : Assets.subdirectory file = "" ∨
    ∃ name, Path.EndsInName name ∧ Assets.subdirectory file = name ++ "/" ∧
      dropSlashes (Assets.subdirectory file) = name := by
  have hcss : "css/" = "css" ++ "/" ∧ dropSlashes "css/" = "css" := by decide
  have hjs : "js/" = "js" ++ "/" ∧ dropSlashes "js/" = "js" := by decide
  rcases Assets.subdirectory_cases file with h | h | h
  · exact .inr ⟨"css", ⟨'s', rfl, by decide⟩, h.trans hcss.1, h ▸ hcss.2⟩
  · exact .inr ⟨"js", ⟨'s', rfl, by decide⟩, h.trans hjs.1, h ▸ hjs.2⟩
  · exact .inl h

/-- The directory of an asset, without a slash at its end, and the copy in it. -/
theorem exists_assetDir (htheme : Path.EndsInName theme) (path : String) :
    ∃ base, Path.EndsInName base ∧
      (assetDir theme (Assets.fileName path) = base ∨
        assetDir theme (Assets.fileName path) = base ++ "/" ++ "") ∧
      Path.join (assetDir theme (Assets.fileName path)) (Assets.fileName path) =
        base ++ "/" ++ Assets.fileName path ∧
      copyPath theme path = base ++ "/" ++ Assets.fileName path := by
  have hrelative := Path.isAbsolute_of_notMem (slash_notMem_fileName path)
  have hassets : Path.EndsInName (theme ++ "/" ++ "assets") :=
    Path.EndsInName.append ⟨'s', rfl, by decide⟩
  have hliterals : "assets/" = "assets" ++ "/" ∧ dropSlashes "" = "" := by decide
  have hcopy : copyPath theme path = theme ++ "/" ++ "assets" ++ "/" ++
      (Assets.subdirectory (Assets.fileName path) ++ Assets.fileName path) := by
    rw [copyPath, Path.join_eq htheme, Assets.placed, hliterals.1]
    · simp only [String.append_assoc]
    · rw [Path.isAbsolute, Assets.placed, String.toList_append, String.toList_append]
      rfl
  have hdir := assetDir_eq htheme (Assets.fileName path)
  rw [← String.append_assoc, ← String.append_assoc] at hdir
  rcases exists_subdirectory (Assets.fileName path) with h | ⟨name, hname, h, hdrop⟩
  · rw [h, hliterals.2] at hdir
    rw [h, String.empty_append] at hcopy
    refine ⟨_, hassets, .inr hdir, ?_, hcopy⟩
    rw [hdir, String.append_empty, Path.join_slash _ hrelative]
  · rw [hdrop] at hdir
    refine ⟨_, hname.append, .inl hdir, ?_, ?_⟩
    · rw [hdir, Path.join_eq hname.append hrelative]
    · rw [hcopy, h]
      simp only [String.append_assoc]

/-- **A reference is redirected to the file that the asset is copied to.** -/
theorem copyPath_eq (htheme : Path.EndsInName theme) (path : String) :
    copyPath theme path = Path.join (assetDir theme (Assets.fileName path)) (Assets.fileName path) := by
  obtain ⟨base, -, -, hjoin, hcopy⟩ := exists_assetDir htheme path
  rw [hjoin, hcopy]

/-- **The way to a copy** goes through that to its directory. -/
theorem mem_crossed_copyPath (htheme : Path.EndsInName theme) {n : List String}
    (hn : n ∈ disk.way (assetDir theme (Assets.fileName path))) :
    n ∈ disk.crossed (copyPath theme path) := by
  obtain ⟨base, hbase, hdir, -, hcopy⟩ := exists_assetDir htheme path
  have hne : base ≠ "" := by
    rintro rfl
    exact hbase.ne_nil rfl
  have hcrossed : ∀ name : String, '/' ∉ name.toList →
      disk.crossed (base ++ "/" ++ name) = disk.way base := fun name hname => by
    rw [Disk.crossed_below hne, Path.pieces_of_notMem hname]
    rfl
  rw [hcopy, hcrossed _ (slash_notMem_fileName path)]
  rcases hdir with hdir | hdir
  · rwa [hdir] at hn
  · rw [hdir, Disk.mem_way_iff, hcrossed "" (by decide)] at hn
    rcases hn with hn | rfl
    · exact hn
    · rw [Disk.nameOf_below_name hbase (by decide)]
      exact Disk.nameOf_mem_way disk base

/-- The theme is on the way to the directory of an asset. -/
theorem nameOf_theme_mem_way (disk : Disk) (htheme : Path.EndsInName theme) (file : String) :
    disk.nameOf theme ∈ disk.way (assetDir theme file) := by
  have hne : theme ≠ "" := by
    rintro rfl
    exact htheme.ne_nil rfl
  rw [assetDir_eq htheme, Disk.mem_way_iff, Disk.crossed_below hne, List.mem_append]
  refine .inl (.inr ?_)
  cases hpieces : Path.pieces ("assets" ++ "/" ++ dropSlashes (Assets.subdirectory file)) with
  | nil => exact absurd hpieces (Disk.pieces_ne_nil _)
  | cons name rest => exact List.mem_cons_self

/-- **The name of a copy**: that of a directory on the way to it, or the file name below its
directory. -/
theorem nameOf_copyPath_cases (disk : Disk) (htheme : Path.EndsInName theme) (path : String) :
    disk.nameOf (copyPath theme path) ∈ disk.way (assetDir theme (Assets.fileName path)) ∨
      disk.nameOf (copyPath theme path) =
        disk.nameOf (assetDir theme (Assets.fileName path)) ++ [Assets.fileName path] := by
  rw [copyPath_eq htheme, nameOf_asset disk (slash_notMem_fileName path)]
  by_cases hup : Assets.fileName path = ".."
  · -- what is above the directory of assets is the theme
    have hdir : disk.nameOf (assetDir theme "..") = disk.nameOf theme ++ ["assets"] := by
      have hpath : "assets" ++ "/" ++ dropSlashes (Assets.subdirectory "..") = "assets/" := by decide
      rw [assetDir_eq htheme, hpath, Disk.nameOf_below htheme]
      simp [Path.pieces, Text.splitAtChars, Disk.advance]
    rw [hup, hdir, Disk.advance, if_neg (by decide), if_pos (by decide), List.dropLast_concat]
    exact .inl (nameOf_theme_mem_way disk htheme "..")
  by_cases hhere : Assets.fileName path = "" ∨ Assets.fileName path = "."
  · rw [Disk.advance, if_pos (by simpa using hhere)]
    exact .inl (Disk.nameOf_mem_way disk _)
  · rw [not_or] at hhere
    exact .inr (Disk.advance_eq hhere.1 hhere.2 hup)

/-- Copies with other file names have other places, apart from those on the way to directories. -/
theorem nameOf_copyPath_ne (htheme : Path.EndsInName theme) {other : String}
    (hfile : Assets.fileName other ≠ Assets.fileName path)
    (hself : disk.nameOf (copyPath theme path) ∉ disk.way (assetDir theme (Assets.fileName path)))
    (hother : disk.nameOf (copyPath theme path) ∉ disk.way (assetDir theme (Assets.fileName other))) :
    disk.nameOf (copyPath theme path) ≠ disk.nameOf (copyPath theme other) := by
  intro heq
  have hname := (nameOf_copyPath_cases disk htheme path).resolve_left hself
  have hname' := (nameOf_copyPath_cases disk htheme other).resolve_left (heq ▸ hother)
  rw [hname, hname'] at heq
  exact hfile (List.singleton_inj.1 (List.append_inj' heq rfl).2).symm

/-! ### One copy -/

/-- **What copying does**, once the directory is there: a copy is made where nothing is. -/
theorem copyAsset_cases {content : FileContent} (hsource : disk.read (w.sourcePath asset) = .ok content)
    (h : Succeeds (w.copyAsset theme asset file) disk () changed) :
    ∃ mid, disk.makeDirs (assetDir theme file) = (.ok (), mid) ∧
      (mid.isThere (Path.join (assetDir theme file) file) = true ∧ changed = mid ∨
        mid.write (Path.join (assetDir theme file) file) content = .ok changed) := by
  obtain ⟨mid, hmake, hcases⟩ := exists_of_copyAsset h
  have hmid := Disk.keeps_makeDirs (disk.nameOf (w.sourcePath asset)) disk (assetDir theme file)
  rw [hmake] at hmid
  have hsource := hmid.read hsource
  refine ⟨mid, hmake, ?_⟩
  rcases hcases with ⟨hthere, hsame⟩ | ⟨-, hcopy⟩
  · exact .inl ⟨hthere (Disk.isThere_of_read hsource), hsame⟩
  · obtain ⟨copied, hread, hwrite⟩ := Disk.exists_of_copyFile hcopy
    obtain rfl := Except.ok.inj (hsource.symm.trans hread)
    exact .inr hwrite

/-- Afterwards all directories on the way to the copy are there. -/
theorem way_copyAsset (htheme : Path.EndsInName theme) {content : FileContent}
    (hsource : disk.read (w.sourcePath path) = .ok content)
    (h : Succeeds (w.copyAsset theme path (Assets.fileName path)) disk () changed) :
    ∀ n ∈ disk.way (assetDir theme (Assets.fileName path)), changed.entry? n = some .directory := by
  obtain ⟨target, htarget⟩ : ∃ target, changed.resolve (copyPath theme path) = .ok target := by
    obtain ⟨mid, -, ⟨hthere, rfl⟩ | hwrite⟩ := copyAsset_cases hsource h
    · rw [← copyPath_eq htheme] at hthere
      exact ⟨_, (Disk.isThere_iff.1 hthere).1⟩
    · rw [← copyPath_eq htheme] at hwrite
      obtain ⟨target, hresolve, hdir, rfl⟩ := Disk.exists_of_write hwrite
      exact ⟨target, (Disk.keepsPaths_put _ hdir).resolve hresolve⟩
  intro n hn
  rw [← (keeps_copyAsset h []).way] at hn
  exact (Disk.resolve_iff_crossed.1 htarget).2.2.1 n (mem_crossed_copyPath htheme hn)

/-- **An asset is copied** where nothing is. -/
theorem read_copyAsset (htheme : Path.EndsInName theme) {content : FileContent}
    (hsource : disk.read (w.sourcePath path) = .ok content)
    (hnone : disk.entry? (disk.nameOf (copyPath theme path)) = none)
    (hway : disk.nameOf (copyPath theme path) ∉ disk.way (assetDir theme (Assets.fileName path)))
    (h : Succeeds (w.copyAsset theme path (Assets.fileName path)) disk () changed) :
    changed.read (copyPath theme path) = .ok content := by
  obtain ⟨mid, hmake, hcases⟩ := copyAsset_cases hsource h
  rw [← copyPath_eq htheme] at hcases
  refine Disk.read_write (hcases.resolve_left ?_)
  rintro ⟨hthere, rfl⟩
  -- making directories puts nothing in the place of the copy
  have htouches : Disk.Touches (fun _ _ => False)
      (· ∈ disk.way (assetDir theme (Assets.fileName path))) disk
        (disk.makeDirs (assetDir theme (Assets.fileName path))).2 :=
    Disk.touches_makeDirs fun n hn => hn
  rw [hmake] at htouches
  obtain ⟨-, e, he⟩ := Disk.isThere_iff.1 hthere
  rw [htouches.nameOf] at he
  rcases htouches.entry (disk.nameOf (copyPath theme path)) with hsame | ⟨_, hfile, -⟩ | ⟨hdir, -, -⟩
  · rw [hnone] at hsame
    exact absurd (he.symm.trans hsame) (by simp)
  · exact hfile.elim
  · exact hway hdir

/-- Copying an asset puts nothing in other places. -/
theorem entry?_copyAsset_of_ne (htheme : Path.EndsInName theme) {name : List String}
    (hnone : disk.entry? name = none) (hname : name ≠ disk.nameOf (copyPath theme path))
    (hway : name ∉ disk.way (assetDir theme (Assets.fileName path)))
    (h : Succeeds (w.copyAsset theme path (Assets.fileName path)) disk () changed) :
    changed.entry? name = none := by
  have hadmits : AdmitsAsset (fun n _ => n = disk.nameOf (copyPath theme path))
      (· ∈ disk.way (assetDir theme (Assets.fileName path))) disk theme (Assets.fileName path) :=
    ⟨fun _ => copyPath_eq htheme path ▸ rfl, fun n hn => hn⟩
  have htouches := h.preserves (preserves_copyAsset hadmits path) (.refl _ _ disk)
  rcases htouches.entry name with hsame | ⟨_, hfile, -⟩ | ⟨hdir, -, -⟩
  · exact hsame.trans hnone
  · exact absurd hfile hname
  · exact absurd hdir hway

/-! ### Any number of copies -/

variable {paths : List String} {content new : String}

theorem exists_of_placeAssets_cons (hname : Assets.fileName path ≠ "")
    (h : Succeeds (w.placeAssets theme (path :: paths) content) disk new changed) :
    ∃ mid, Succeeds (w.copyAsset theme path (Assets.fileName path)) disk () mid ∧
      Succeeds (w.placeAssets theme paths (Enqueue.declare (Assets.fileName path) content)) mid new
        changed := by
  rw [placeAssets, if_neg (by simpa using hname)] at h
  obtain ⟨_, mid, hcopy, hrest⟩ := succeeds_bind.1 h
  exact ⟨mid, hcopy, hrest⟩

/-- **Paths with file names whose sources are there.** -/
def HasSources (w : Workspace) (disk : Disk) (paths : List String) : Prop :=
  ∀ path ∈ paths, Assets.fileName path ≠ "" ∧
    ∃ content, disk.read (w.sourcePath path) = .ok content

theorem HasSources.keeps (h : w.HasSources disk paths) (hkeeps : ∀ name, Disk.Keeps name disk changed) :
    w.HasSources changed paths := by
  intro path hpath
  obtain ⟨hname, content, hread⟩ := h path hpath
  exact ⟨hname, content, (hkeeps _).read hread⟩

/-- **The directories of the assets** are there afterwards, with all that are on the way to them. -/
theorem way_placeAssets (htheme : Path.EndsInName theme) (hsources : w.HasSources disk paths)
    (h : Succeeds (w.placeAssets theme paths content) disk new changed) :
    ∀ path ∈ paths, ∀ n ∈ disk.way (assetDir theme (Assets.fileName path)),
      changed.entry? n = some .directory := by
  induction paths generalizing disk content with
  | nil => exact fun _ hpath => absurd hpath List.not_mem_nil
  | cons path rest ih =>
      obtain ⟨⟨hname, source, hsource⟩, hrest⟩ := List.forall_mem_cons.1 hsources
      obtain ⟨mid, hcopy, hplace⟩ := exists_of_placeAssets_cons hname h
      have hmid := keeps_copyAsset hcopy
      rw [List.forall_mem_cons]
      constructor
      · intro n hn
        exact ((succeeds_placeAssets hplace).2 []).directory n (way_copyAsset htheme hsource hcopy n hn)
      · have hways := ih (HasSources.keeps hrest hmid) hplace
        simpa only [(hmid []).way] using hways

/-- **The first path with a file name is copied** where nothing is, if this is no directory on the way
to an asset. -/
theorem read_placeAssets (htheme : Path.EndsInName theme) (hsources : w.HasSources disk paths)
    (h : Succeeds (w.placeAssets theme paths content) disk new changed)
    (hnone : disk.entry? (disk.nameOf (copyPath theme path)) = none)
    (hself : disk.nameOf (copyPath theme path) ∉ disk.way (assetDir theme (Assets.fileName path)))
    (hways : ∀ other ∈ paths,
      disk.nameOf (copyPath theme path) ∉ disk.way (assetDir theme (Assets.fileName other)))
    {first : String}
    (hfirst : paths.find? (fun other => Assets.fileName other == Assets.fileName path) = some first) :
    changed.read (copyPath theme path) = disk.read (w.sourcePath first) := by
  induction paths generalizing disk content with
  | nil => exact absurd hfirst (by simp)
  | cons other rest ih =>
      obtain ⟨⟨hname, source, hsource⟩, hrest⟩ := List.forall_mem_cons.1 hsources
      obtain ⟨hother, hways⟩ := List.forall_mem_cons.1 hways
      obtain ⟨mid, hcopy, hplace⟩ := exists_of_placeAssets_cons hname h
      have hmid := keeps_copyAsset hcopy
      by_cases hfile : Assets.fileName other = Assets.fileName path
      · rw [List.find?_cons_of_pos (by simpa using hfile), Option.some.injEq] at hfirst
        obtain rfl := hfirst
        have hsame : copyPath theme other = copyPath theme path := by
          rw [copyPath, copyPath, Assets.placed, Assets.placed, hfile]
        rw [hsource, ← hsame]
        rw [← hsame] at hnone hother
        exact ((succeeds_placeAssets hplace).2 _).read (read_copyAsset htheme hsource hnone hother hcopy)
      · rw [List.find?_cons_of_neg (by simpa using hfile)] at hfirst
        have hne := nameOf_copyPath_ne htheme hfile hself hother
        have hmidnone := entry?_copyAsset_of_ne htheme hnone hne hother hcopy
        have hread := ih (HasSources.keeps hrest hmid) hplace
        simp only [(hmid []).way, (hmid []).nameOf] at hread
        obtain ⟨-, old, hold⟩ := hrest first (List.mem_of_find?_eq_some hfirst)
        rw [hread hmidnone hself hways hfirst, hold, (hmid _).read hold]

/-! ### The assets of a page -/

/-- In a theme without assets nothing is in the place of a copy. -/
theorem entry?_copyPath (htheme : Path.EndsInName theme)
    (hnew : ∀ n, disk.nameOf theme ++ ["assets"] <+: n → disk.entry? n = none)
    (hself : disk.nameOf (copyPath theme path) ∉ disk.way (assetDir theme (Assets.fileName path))) :
    disk.entry? (disk.nameOf (copyPath theme path)) = none := by
  rw [(nameOf_copyPath_cases disk htheme path).resolve_left hself]
  obtain ⟨dirs, hdirs, hname⟩ := nameOf_assetDir disk htheme (Assets.fileName path)
  obtain ⟨rest, rfl⟩ : ∃ rest, dirs = "assets" :: rest := by
    simp only [List.mem_cons, List.not_mem_nil, or_false] at hdirs
    rcases hdirs with rfl | rfl | rfl
    · exact ⟨[], rfl⟩
    · exact ⟨["css"], rfl⟩
    · exact ⟨["js"], rfl⟩
  refine hnew _ ⟨rest ++ [Assets.fileName path], ?_⟩
  rw [hname, List.append_assoc, List.append_assoc]
  rfl

/-- The declarations are written beside the copies. -/
theorem keeps_registerAssets (htheme : w.themeDir project = .ok theme)
    (h : Succeeds (w.registerAssets project paths) disk () changed) :
    ∃ old new mid, Succeeds (w.placeAssets theme paths old) disk new mid ∧
      ∀ name, name ≠ disk.nameOf (enqueuePath theme) → Disk.Keeps name mid changed := by
  rcases exists_of_registerAssets htheme h with ⟨rfl, rfl⟩ | ⟨old, new, mid, -, hplace, hwritten⟩
  · exact ⟨"", "", changed, succeeds_pure.2 ⟨rfl, rfl⟩, fun name _ => .refl name changed⟩
  refine ⟨old, new, mid, hplace, fun name hname => ?_⟩
  rcases hwritten with ⟨-, rfl⟩ | ⟨-, hwrite⟩
  · exact .refl name changed
  · refine Disk.keeps_write hwrite ?_
    rw [((succeeds_placeAssets hplace).2 []).nameOf]
    exact hname.symm

/-- **When a copy has the content of its source**, in a theme that had no assets: its place is no
directory on the way to an asset, and the first path with its file name has the same content. -/
theorem read_copyPath_iff (htheme : w.themeDir project = .ok theme)
    (hnew : ∀ n, disk.nameOf theme ++ ["assets"] <+: n → disk.entry? n = none)
    (hsources : w.HasSources disk paths)
    (h : Succeeds (w.registerAssets project paths) disk () changed) (hpath : path ∈ paths) :
    changed.read (copyPath theme path) = disk.read (w.sourcePath path) ↔
      (∀ other ∈ paths,
        disk.nameOf (copyPath theme path) ∉ disk.way (assetDir theme (Assets.fileName other))) ∧
      ∀ first, paths.find? (fun other => Assets.fileName other == Assets.fileName path) = some first →
        disk.read (w.sourcePath first) = disk.read (w.sourcePath path) := by
  have hname := endsInName_themeDir htheme
  obtain ⟨old, new, mid, hplace, hkeeps⟩ := keeps_registerAssets htheme h
  have hmid := (succeeds_placeAssets hplace).2
  have hcopy : disk.nameOf (copyPath theme path) ≠ disk.nameOf (enqueuePath theme) := by
    rw [copyPath_eq hname]
    exact nameOf_asset_ne hname (slash_notMem_fileName path)
  have hlast := hkeeps _ hcopy
  -- outside of directories, what is read is the content of the first source
  have hread : (∀ other ∈ paths,
      disk.nameOf (copyPath theme path) ∉ disk.way (assetDir theme (Assets.fileName other))) →
      ∀ first, paths.find? (fun other => Assets.fileName other == Assets.fileName path) = some first →
        changed.read (copyPath theme path) = disk.read (w.sourcePath first) := by
    intro hways first hfirst
    have hself := hways path hpath
    have hplaced := read_placeAssets hname hsources hplace (entry?_copyPath hname hnew hself) hself
      hways hfirst
    obtain ⟨-, content, hcontent⟩ := hsources first (List.mem_of_find?_eq_some hfirst)
    rw [hcontent] at hplaced ⊢
    rw [← (hmid []).nameOf] at hlast
    exact hlast.read hplaced
  constructor
  · intro heq
    obtain ⟨-, content, hcontent⟩ := hsources path hpath
    have hways : ∀ other ∈ paths,
        disk.nameOf (copyPath theme path) ∉ disk.way (assetDir theme (Assets.fileName other)) := by
      intro other hother hway
      have hdirectory := hlast.directory _ (way_placeAssets hname hsources hplace other hother _ hway)
      rw [hcontent] at heq
      obtain ⟨target, htarget, hfile⟩ := Disk.read_eq_ok.1 heq
      rw [Disk.eq_nameOf_of_resolve htarget, hlast.nameOf, (hmid []).nameOf, hdirectory] at hfile
      exact absurd hfile (by simp)
    exact ⟨hways, fun first hfirst => (hread hways first hfirst).symm.trans heq⟩
  · rintro ⟨hways, hsame⟩
    obtain ⟨first, hfirst⟩ : ∃ first,
        paths.find? (fun other => Assets.fileName other == Assets.fileName path) = some first := by
      rw [← Option.isSome_iff_exists, List.find?_isSome]
      exact ⟨path, hpath, by simp⟩
    exact (hread hways first hfirst).trans (hsame first hfirst)

/-- **What the references of a page lead to**, after they were redirected and the assets that were found
put into a theme that had none.  Each local reference is the one to its place, and its path was found.
The file at this place has the content of the source of the path exactly if the place is no directory
on the way to an asset, and the first path with this file name that was found has the same content. -/
theorem read_redirected_iff {d d' : Document} {found : List String} {urlBase : String}
    (hd : d.WellFormed) (hredirect : Assets.redirect urlBase d = (d', found))
    (htheme : w.themeDir project = .ok theme)
    (hnew : ∀ n, disk.nameOf theme ++ ["assets"] <+: n → disk.entry? n = none)
    (hsources : ∀ path ∈ found, ∃ content, disk.read (w.sourcePath path) = .ok content)
    (h : Succeeds (w.registerAssets project found) disk () changed) :
    ∀ n name path, (n, name) ∈ Assets.targets d → Assets.localPath? d (n, name) = some path →
      d'.attr? name n = some (Assets.placed urlBase path) ∧ path ∈ found ∧
        (changed.read (Path.join theme (Assets.placed "assets/" path)) =
            disk.read (w.sourcePath path) ↔
          (∀ other ∈ found, disk.nameOf (Path.join theme (Assets.placed "assets/" path)) ∉
            disk.way (assetDir theme (Assets.fileName other))) ∧
          ∀ first, found.find? (fun other => Assets.fileName other == Assets.fileName path) =
              some first → disk.read (w.sourcePath first) = disk.read (w.sourcePath path)) := by
  intro n name path htarget hpath
  have hattr := Assets.attr?_redirect hd urlBase htarget hpath
  have hmem := Assets.mem_redirect hd urlBase htarget hpath
  have hnames := Assets.fileName_ne_empty urlBase d
  rw [hredirect] at hattr hmem hnames
  exact ⟨hattr, hmem, read_copyPath_iff htheme hnew
    (fun other hother => ⟨hnames other hother, hsources other hother⟩) h hmem⟩

/-- Two images of one name, beside that theme. -/
def demoImages : List (List String × Entry) :=
  [(["s"], .directory), (["s", "a"], .directory), (["s", "a", "x.png"], .file (.text "A")),
    (["s", "b"], .directory), (["s", "b", "x.png"], .file (.text "B"))]

/-- A page with both of them. -/
def demoPage : String := "<img src=\"a/x.png\"><img src=\"b/x.png\">"

/-- Both references lead to the first image, so the second one is not what it was. -/
theorem read_redirected_demo :
    (Assets.redirect "" (Document.parse demoPage)).2 = ["a/x.png", "b/x.png"] ∧
      ∃ changed, Succeeds (demo.registerAssets "d" ["a/x.png", "b/x.png"]) (demoDisk demoImages) ()
          changed ∧
        changed.read (Path.join "p/d/theme" (Assets.placed "assets/" "a/x.png")) =
          (demoDisk demoImages).read (demo.sourcePath "a/x.png") ∧
        changed.read (Path.join "p/d/theme" (Assets.placed "assets/" "b/x.png")) ≠
          (demoDisk demoImages).read (demo.sourcePath "b/x.png") := by
  have hfound : (Assets.redirect "" (Document.parse demoPage)).2 = ["a/x.png", "b/x.png"] := by
    decide +kernel
  have hnew : ∀ n, (demoDisk demoImages).nameOf "p/d/theme" ++ ["assets"] <+: n →
      Disk.entry? (demoDisk demoImages) n = none := by
    rintro _ ⟨rest, rfl⟩
    rfl
  have hfirst : (demoDisk demoImages).read (demo.sourcePath "a/x.png") = .ok (.text "A") := by rfl
  have hsecond : (demoDisk demoImages).read (demo.sourcePath "b/x.png") = .ok (.text "B") := by rfl
  have hsources : ∀ path ∈ ["a/x.png", "b/x.png"],
      ∃ content, (demoDisk demoImages).read (demo.sourcePath path) = .ok content := by
    rw [List.forall_mem_cons, List.forall_mem_singleton]
    exact ⟨⟨_, hfirst⟩, ⟨_, hsecond⟩⟩
  have hpaths : (Assets.targets (Document.parse demoPage)).filterMap
      (Assets.localPath? (Document.parse demoPage)) = ["a/x.png", "b/x.png"] := by decide +kernel
  obtain ⟨⟨n, name⟩, hn, hpath⟩ : ∃ target ∈ Assets.targets (Document.parse demoPage),
      Assets.localPath? (Document.parse demoPage) target = some "a/x.png" :=
    List.mem_filterMap.1 (hpaths ▸ List.mem_cons_self)
  obtain ⟨⟨n', name'⟩, hn', hpath'⟩ : ∃ target ∈ Assets.targets (Document.parse demoPage),
      Assets.localPath? (Document.parse demoPage) target = some "b/x.png" :=
    List.mem_filterMap.1 (hpaths ▸ List.mem_cons_of_mem _ List.mem_cons_self)
  have hok : ((registerAssets (m := StateM Disk) demo "d" ["a/x.png", "b/x.png"]).run.run
      (demoDisk demoImages)).1.isOk = true := by decide +kernel
  obtain ⟨changed, _, h⟩ : ∃ changed a, (registerAssets (m := StateM Disk) demo "d"
      ["a/x.png", "b/x.png"]).run.run (demoDisk demoImages) = (.ok a, changed) :=
    Disk.exists_run_of_isOk hok
  have hredirect : Assets.redirect "" (Document.parse demoPage) =
      ((Assets.redirect "" (Document.parse demoPage)).1, ["a/x.png", "b/x.png"]) := by
    rw [← hfound]
  have htheme : demo.themeDir "d" = .ok "p/d/theme" := by rfl
  have hleads := read_redirected_iff (Document.WellFormed.parse demoPage) hredirect htheme hnew
    hsources h
  obtain ⟨-, -, ha⟩ := hleads n name "a/x.png" hn hpath
  obtain ⟨-, -, hb⟩ := hleads n' name' "b/x.png" hn' hpath'
  have hfind : ∀ path ∈ ["a/x.png", "b/x.png"], ["a/x.png", "b/x.png"].find? (fun other =>
      Assets.fileName other == Assets.fileName path) = some "a/x.png" := by decide
  refine ⟨hfound, changed, h, ha.2 ⟨by decide +kernel, ?_⟩, fun heq => ?_⟩
  · intro first hfirst
    rw [hfind _ (by simp), Option.some.injEq] at hfirst
    rw [hfirst]
  · have hsame := (hb.1 heq).2 "a/x.png" (hfind _ (by simp))
    rw [hfirst, hsecond] at hsame
    exact absurd hsame (by decide)

end Workspace

end ThemeCompiler
