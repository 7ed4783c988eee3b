/-
**What is written lies in the theme.**

The writers of a theme put files at paths below its directory.  A path without two dots between its
slashes leads to something below, and crosses nothing but what leads there.  The key of a project, the
files of the shell and the layout, the names of assets and the file of a template are of this kind,
whatever text they are made of.  The other artifacts of a compilation hold the slug of the template as
it is, and stay in the theme when there are no two dots between slashes in it.

Main definitions:

* `ThemeCompiler.Disk.Confined` — a disk on which nothing was changed but in a directory, and the
  directories that lead to it.

Main results:

* `ThemeCompiler.Disk.admits_below` — paths below a directory without two dots;
* `ThemeCompiler.Path.infix_of_up_mem_pieces` — where two dots in a path come from;
* `ThemeCompiler.Artifacts.preserves_write`, `ThemeCompiler.Artifacts.exists_read_of_write` — what is
  written for a compilation, and that it is there;
* `ThemeCompiler.Workspace.confined` — **what is written lies in the theme**.
-/

import ThemeCompiler.Proofs.Theme.Writers
import ThemeCompiler.Theme.Artifacts

set_option relaxedAutoImplicit false
set_option autoImplicit false

namespace ThemeCompiler

/-! ### Two dots in a path -/

namespace Path

/-- Two dots between slashes. -/
def up : List Char := ['/', '.', '.', '/']

/-- **Where two dots in a path come from**, if they neither begin in its front nor end in its back. -/
theorem infix_of_up_mem_pieces {path : String} (front mid back : List Char)
    (hpath : path.toList = front ++ (mid ++ back))
    (hfront : Text.canBegin up ('/' :: front) = false)
    (hback : Text.canBegin up.reverse (back ++ ['/']).reverse = false) (h : ".." ∈ pieces path) :
    up <:+: mid := by
  obtain ⟨piece, hpiece, hdots⟩ := List.mem_map.1 h
  have hdots : piece = ['.', '.'] := by rw [← String.toList_ofList (l := piece), hdots]; rfl
  have hinfix := Text.infix_of_mem_splitAtChars hpiece
  rw [hdots, hpath] at hinfix
  have htext : '/' :: (front ++ (mid ++ back) ++ ['/']) =
      ('/' :: front) ++ (mid ++ (back ++ ['/'])) := by
    simp only [List.append_assoc, List.cons_append]
  have hinfix : up <:+: ('/' :: front) ++ (mid ++ (back ++ ['/'])) := htext ▸ hinfix
  exact (Text.infix_before_iff hback mid).1 ((Text.infix_behind_iff hfront _).1 hinfix)

end Path

/-! ### Below a directory -/

namespace Disk

variable {disk changed : Disk} {base : String}

/-- **A disk on which nothing was changed but in a directory**, and directories were made that lead to
it. -/
def Confined (base : String) (disk changed : Disk) : Prop :=
  Touches (fun n _ => disk.nameOf base <+: n) (fun n => disk.nameOf base <+: n ∨ n ∈ disk.way base)
    disk changed

theorem ne_empty_of_endsInName (hbase : Path.EndsInName base) : base ≠ "" := by
  rintro rfl
  exact hbase.ne_nil rfl

/-- What a path below a directory crosses, if there are no two dots in it. -/
theorem mem_crossed_below (hbase : Path.EndsInName base) {path : String}
    (hup : ".." ∉ Path.pieces path) {n : List String} (hn : n ∈ disk.crossed (base ++ "/" ++ path)) :
    disk.nameOf base <+: n ∨ n ∈ disk.way base := by
  rw [crossed_below (ne_empty_of_endsInName hbase), List.mem_append] at hn
  rcases hn with hn | hn
  · exact .inr (mem_way_iff.2 (.inl hn))
  · exact .inl (prefix_of_mem_crossedFrom hup List.prefix_rfl n hn)

/-- **A path below a directory** may be written, if there are no two dots in it. -/
theorem admits_below (hbase : Path.EndsInName base) {path : String}
    (hup : ".." ∉ Path.pieces path) (content : FileContent) :
    disk.Admits (fun n _ => disk.nameOf base <+: n) (fun n => disk.nameOf base <+: n ∨ n ∈ disk.way base)
      (base ++ "/" ++ path) content where
  file := by
    rw [nameOf_below hbase]
    exact prefix_foldl_advance hup List.prefix_rfl
  dirs _ hn := mem_crossed_below hbase hup hn

end Disk

/-! ### Artifacts -/

namespace Artifacts

variable {disk changed : Disk} {files : List String → FileContent → Prop}
  {dirs : List String → Prop} {theme : String}
  {request : CompileRequest} {result : CompilationResult}

theorem preserves_writeEach {artifacts : List Artifact}
    (h : ∀ a ∈ artifacts, disk.Admits files dirs (Path.join theme a.path) (.text a.content)) :
    Disk.Preserves (Disk.Touches files dirs disk) (writeEach (m := StateM Disk) theme artifacts) := by
  induction artifacts with
  | nil => exact Disk.preserves_pure _
  | cons a rest ih =>
      obtain ⟨hfirst, hrest⟩ := List.forall_mem_cons.1 h
      exact (Disk.preserves_write hfirst).bind fun _ => ih hrest

/-- **What is written for a compilation**: its artifacts, and the directories before them. -/
theorem preserves_write
    (h : ∀ a ∈ all request result,
      disk.Admits files dirs (Path.join theme a.path) (.text a.content)) :
    Disk.Preserves (Disk.Touches files dirs disk) (write (m := StateM Disk) theme request result) :=
  (preserves_writeEach h).bind fun _ => Disk.preserves_pure _

/-- An artifact that was written is there. -/
theorem readText_of_writeOne {a : Artifact}
    (h : (writeOne (m := StateM Disk) theme a).run.run disk = (.ok (), changed)) :
    changed.readText (Path.join theme a.path) = .ok a.content := by
  have hwritten : ∀ {mid : Disk},
      (FileStore.orThrow (ArtifactFault.file (Path.join theme a.path))
        (FileStore.writeText (m := StateM Disk) (Path.join theme a.path) a.content)).run.run mid =
          (.ok (), changed) → changed.readText (Path.join theme a.path) = .ok a.content := by
    intro mid hwrite
    rw [Disk.run_orThrow, Prod.ext_iff] at hwrite
    have houtcome : mid.outcome (mid.write (Path.join theme a.path) (.text a.content)) =
        (.ok (), changed) := Prod.ext (mapError_eq_ok_iff.1 hwrite.1) hwrite.2
    exact Disk.readText_write (Workspace.run_outcome.1 houtcome)
  unfold writeOne at h
  dsimp only at h
  split at h
  · obtain ⟨_, mid, -, hwrite⟩ := Disk.run_bind_eq_ok_iff.1 h
    exact hwritten hwrite
  · exact hwritten h

theorem exists_read_of_writeEach {artifacts : List Artifact}
    (h : (writeEach (m := StateM Disk) theme artifacts).run.run disk = (.ok (), changed)) :
    ∀ a ∈ artifacts, ∃ content, changed.read (Path.join theme a.path) = .ok content := by
  induction artifacts generalizing disk with
  | nil => simp
  | cons a rest ih =>
      obtain ⟨_, mid, hfirst, hrest⟩ := Disk.run_bind_eq_ok_iff.1 h
      have htouches : Disk.Grows mid (Disk.after (writeEach (m := StateM Disk) theme rest) mid) :=
        preserves_writeEach (fun _ _ => ⟨trivial, fun _ _ => trivial⟩) mid (.refl _ _ mid)
      rw [Disk.after_eq hrest] at htouches
      have hread := Disk.read_of_readText (readText_of_writeOne hfirst)
      exact List.forall_mem_cons.2 ⟨htouches.exists_read hread, ih hrest⟩

/-- **After all was written** every artifact is at its place, or another one. -/
theorem exists_read_of_write {written : List Artifact}
    (h : (write (m := StateM Disk) theme request result).run.run disk = (.ok written, changed)) :
    ∀ a ∈ all request result, ∃ content, changed.read (Path.join theme a.path) = .ok content := by
  obtain ⟨_, mid, hwrite, hpure⟩ := Disk.run_bind_eq_ok_iff.1 h
  obtain ⟨-, rfl⟩ := Prod.mk.inj hpure
  exact exists_read_of_writeEach hwrite

theorem dot_notMem_fileSlug (slug : String) : '.' ∉ (Naming.fileSlug slug).toList := by
  rw [Naming.fileSlug, String.toList_ofList, List.mem_map]
  rintro ⟨c, -, hc⟩
  split at hc
  · next halnum =>
      rw [hc] at halnum
      exact absurd halnum (by decide)
  · exact absurd hc (by decide)

/-- There are no two dots in the path of a template. -/
theorem up_notMem_fileFor (kind : TemplateKind) (slug : String) :
    ".." ∉ Path.pieces (kind.fileFor slug) := by
  have hdot : ∀ {mid : List Char}, '.' ∉ mid → ¬ Path.up <:+: mid := fun hmid h =>
    hmid (h.subset (by decide))
  have hpage : ".." ∉ Path.pieces ("page-" ++ Naming.fileSlug slug ++ ".php") := fun h =>
    hdot (dot_notMem_fileSlug slug) (Path.infix_of_up_mem_pieces "page-".toList _ ".php".toList
      (by simp) (by decide) (by decide) h)
  cases kind with
  | fragment =>
      have hslash : '.' ∉ '/' :: (Naming.fileSlug slug).toList := by
        rw [List.mem_cons, not_or]
        exact ⟨by decide, dot_notMem_fileSlug slug⟩
      have hfront : "template-parts/sections/".toList = "template-parts/sections".toList ++ ['/'] := by
        decide
      have hpath : ("template-parts/sections/" ++ Naming.fileSlug slug ++ ".php").toList =
          "template-parts/sections".toList ++
            ('/' :: (Naming.fileSlug slug).toList ++ ".php".toList) := by
        rw [String.toList_append, String.toList_append, hfront, List.append_assoc, List.append_assoc,
          List.singleton_append, List.cons_append]
      exact fun h => hdot hslash
        (Path.infix_of_up_mem_pieces _ _ _ hpath (by decide +kernel) (by decide) h)
  | documentWithIdentity => exact hpage
  | documentByConvention => exact hpage

/-- **There are no two dots in the path of an artifact**, if there are none between slashes in the
slug. -/
theorem up_notMem_of_mem_all (hslug : Text.contains request.templateSlug "/../" = false)
    {a : Artifact} (ha : a ∈ all request result) : ".." ∉ Path.pieces a.path := by
  have hslug : ¬ Path.up <:+: request.templateSlug.toList := by
    rw [← Text.occursIn_iff_infix]
    exact Bool.eq_false_iff.1 hslug
  simp only [all, List.mem_cons, List.not_mem_nil, or_false] at ha
  rcases ha with rfl | rfl | rfl | rfl
  · exact up_notMem_fileFor _ _
  · exact fun h => hslug (Path.infix_of_up_mem_pieces "inc/acf-json/acf-".toList _ ".json".toList
      (by simp) (by decide) (by decide) h)
  · exact fun h => hslug (Path.infix_of_up_mem_pieces "inc/source-html/source-".toList _ ".html".toList
      (by simp) (by decide) (by decide) h)
  · exact fun h => hslug (Path.infix_of_up_mem_pieces "inc/reports/report-".toList _ ".json".toList
      (by simp) (by decide) (by decide) h)

theorem isAbsolute_of_head {s t u : String} {c : Char} (hs : s.toList.head? = some c)
    (hc : c ≠ '/') : Path.isAbsolute (s ++ t ++ u) = false := by
  rw [Path.isAbsolute, String.toList_append, String.toList_append, List.append_assoc,
    List.head?_append, hs]
  simpa using hc

theorem isAbsolute_fileFor (kind : TemplateKind) (slug : String) :
    Path.isAbsolute (kind.fileFor slug) = false := by
  cases kind with
  | fragment => exact isAbsolute_of_head (c := 't') (by rfl) (by decide)
  | documentWithIdentity => exact isAbsolute_of_head (c := 'p') (by rfl) (by decide)
  | documentByConvention => exact isAbsolute_of_head (c := 'p') (by rfl) (by decide)

/-- No path of an artifact starts at the root. -/
theorem isAbsolute_of_mem_all {a : Artifact} (ha : a ∈ all request result) :
    Path.isAbsolute a.path = false := by
  simp only [all, List.mem_cons, List.not_mem_nil, or_false] at ha
  rcases ha with rfl | rfl | rfl | rfl
  · exact isAbsolute_fileFor _ _
  · exact isAbsolute_of_head (c := 'i') (by rfl) (by decide)
  · exact isAbsolute_of_head (c := 'i') (by rfl) (by decide)
  · exact isAbsolute_of_head (c := 'i') (by rfl) (by decide)

end Artifacts

/-! ### The theme of a project -/

namespace Workspace

variable {w : Workspace} {disk : Disk} {project theme : String}

/-- **The files of the shell and the layout** lie in the theme. -/
theorem admits_themeFile (htheme : Path.EndsInName theme) (disk : Disk) (file : ThemeFile)
    (content : FileContent) :
    disk.Admits (fun n _ => disk.nameOf theme <+: n)
      (fun n => disk.nameOf theme <+: n ∨ n ∈ disk.way theme) (Path.join theme file.path) content := by
  have hup : ∀ file ∈ ThemeFile.all, ".." ∉ Path.pieces file.path := by decide
  rw [Path.join_eq htheme (ThemeFile.isAbsolute_path file)]
  exact Disk.admits_below htheme (hup file (ThemeFile.mem_all file)) content

/-- **Assets** are copied into the theme, whatever their names. -/
theorem admitsAsset (htheme : Path.EndsInName theme) (disk : Disk) (asset : String) :
    AdmitsAsset (fun n _ => disk.nameOf theme <+: n)
      (fun n => disk.nameOf theme <+: n ∨ n ∈ disk.way theme) disk theme (Assets.fileName asset) where
  copy _ := prefix_nameOf_asset disk htheme asset
  way n hn := by
    have hup : ".." ∉ Path.pieces
        ("assets" ++ "/" ++ dropSlashes (Assets.subdirectory (Assets.fileName asset))) := by
      rcases Assets.subdirectory_cases (Assets.fileName asset) with h | h | h <;> rw [h] <;> decide
    rw [assetDir_eq htheme] at hn
    rcases Disk.mem_way_iff.1 hn with hn | rfl
    · exact Disk.mem_crossed_below htheme hup hn
    · rw [Disk.nameOf_below htheme]
      exact .inl (Disk.prefix_foldl_advance hup List.prefix_rfl)

/-- **What is written lies in the theme of a project**, whatever the outcome.  For a key that is no name
of a directory nothing is written; else the theme is two levels below the directory of the projects, and
the shell, the layout and the assets change nothing but what is in it, and the directories that lead to
it.  The artifacts of a compilation are the only ones that may lie elsewhere.  Their template does not;
and none does if there are no two dots between slashes in the slug.  What is written are the artifacts
and the directories before them, and if all went well, there is a file at the place of each. -/
theorem confined (w : Workspace) (project page : String) (assets : List String)
    (request : CompileRequest) (result : CompilationResult) (disk : Disk) :
    (∀ e, w.themeDir project = .error e →
      Disk.after (w.ensureShell project) disk = disk ∧
        Disk.after (w.registerAssets project assets) disk = disk ∧
        Disk.after (w.extractLayout project page) disk = disk) ∧
      ∀ theme, w.themeDir project = .ok theme →
        disk.nameOf theme = disk.nameOf w.projectsDir ++ [Text.trim project, "theme"] ∧
          disk.Confined theme (Disk.after (w.ensureShell project) disk) ∧
          disk.Confined theme (Disk.after (w.registerAssets project assets) disk) ∧
          disk.Confined theme (Disk.after (w.extractLayout project page) disk) ∧
          (Text.contains request.templateSlug "/../" = false →
            disk.Confined theme (Disk.after (Artifacts.write theme request result) disk)) ∧
          disk.nameOf theme <+:
            disk.nameOf (Path.join theme (request.kind.fileFor request.templateSlug)) ∧
          Disk.Touches
            (fun n content => ∃ a ∈ Artifacts.all request result,
              n = disk.nameOf (Path.join theme a.path) ∧ content = .text a.content)
            (fun n => ∃ a ∈ Artifacts.all request result, n ∈ disk.crossed (Path.join theme a.path))
            disk (Disk.after (Artifacts.write theme request result) disk) ∧
          ∀ changed written,
            (Artifacts.write (m := StateM Disk) theme request result).run.run disk =
              (.ok written, changed) →
              ∀ a ∈ Artifacts.all request result,
                ∃ content, changed.read (Path.join theme a.path) = .ok content := by
  refine ⟨fun e herror => ?_, fun theme htheme => ?_⟩
  · have hnone : ∀ theme, w.themeDir project ≠ .ok theme := fun theme h => by
      rw [herror] at h
      exact absurd h (by simp)
    refine ⟨?_, ?_, ?_⟩
    · exact preserves_inTheme (P := (· = disk)) (fun theme h => absurd h (hnone theme)) disk rfl
    · rw [registerAssets]
      split
      · rfl
      · exact preserves_inTheme (P := (· = disk)) (fun theme h => absurd h (hnone theme)) disk rfl
    · exact preserves_inTheme (P := (· = disk)) (fun theme h => absurd h (hnone theme)) disk rfl
  · have hends := endsInName_themeDir htheme
    -- a project has one theme
    have hsame : ∀ {other}, w.themeDir project = .ok other → theme = other := fun h =>
      Except.ok.inj (htheme.symm.trans h)
    have hput : ∀ other, w.themeDir project = .ok other → ∀ (file : ThemeFile) (content : String),
        Disk.Preserves (disk.Confined theme)
          (putStub (Path.join other file.path) content file.marks) := by
      intro other hother file content
      obtain rfl := hsame hother
      exact preserves_putStub (admits_themeFile hends disk file _) file.marks
    refine ⟨nameOf_themeDir htheme disk, ?_, ?_, ?_, fun hslug => ?_, ?_, ?_, ?_⟩
    · exact preserves_ensureShell (fun other hother file => hput other hother (.shell file) _) disk
        (.refl _ _ disk)
    · refine preserves_registerAssets (fun other hother => ?_) disk (.refl _ _ disk)
      obtain rfl := hsame hother
      refine ⟨fun _ => ?_, fun asset _ => admitsAsset hends disk asset⟩
      rw [nameOf_enqueuePath hends]
      exact List.prefix_append _ _
    · exact preserves_extractLayout (fun other hother => hput other hother .header)
        (fun other hother => hput other hother .footer) page disk (.refl _ _ disk)
    · refine Artifacts.preserves_write (fun a ha => ?_) disk (.refl _ _ disk)
      rw [Path.join_eq hends (Artifacts.isAbsolute_of_mem_all ha)]
      exact Disk.admits_below hends (Artifacts.up_notMem_of_mem_all hslug ha) _
    · rw [Disk.nameOf_join disk theme (Artifacts.isAbsolute_fileFor _ _)]
      exact Disk.prefix_foldl_advance (Artifacts.up_notMem_fileFor _ _) List.prefix_rfl
    · exact Artifacts.preserves_write (fun a ha => ⟨⟨a, ha, rfl, rfl⟩, fun n hn => ⟨a, ha, hn⟩⟩) disk
        (.refl _ _ disk)
    · exact fun changed written hwrite => Artifacts.exists_read_of_write hwrite

/-- A request whose slug leads up. -/
def demoRequest : CompileRequest := ⟨"<p>a</p>", "T", "/../../../../x", .fragment, none⟩

/-- A result for that request. -/
def demoResult : CompilationResult :=
  ⟨"", FieldGroup.generate [] "T" "t" .fragment, [], [], "", ⟨⟨0, 0, 0, []⟩, ⟨0, 0, 0, []⟩⟩, [],
    false, false⟩

/-- The artifacts of that request leave the theme: a file is made in the directory of the project. -/
theorem confined_demo :
    demo.themeDir "d" = .ok "p/d/theme" ∧ ∃ changed written content,
      (Artifacts.write (m := StateM Disk) "p/d/theme" demoRequest demoResult).run.run (demoDisk []) =
          (.ok written, changed) ∧
        changed.entry? ["p", "d", "x.json"] = some (.file content) ∧
        ¬ (demoDisk []).Confined "p/d/theme" changed := by
  have htheme : demo.themeDir "d" = .ok "p/d/theme" := by rfl
  have hok : ((Artifacts.write (m := StateM Disk) "p/d/theme" demoRequest demoResult).run.run
      (demoDisk [])).1.isOk = true := by decide +kernel
  obtain ⟨changed, written, hrun⟩ : ∃ changed written,
      (Artifacts.write (m := StateM Disk) "p/d/theme" demoRequest demoResult).run.run (demoDisk []) =
        (.ok written, changed) := Disk.exists_run_of_isOk hok
  obtain ⟨-, hconfined⟩ := confined demo "d" "" [] demoRequest demoResult (demoDisk [])
  obtain ⟨-, -, -, -, -, -, htouches, hthere⟩ := hconfined "p/d/theme" htheme
  rw [Disk.after_eq hrun] at htouches
  obtain ⟨content, hread⟩ := hthere changed written hrun
    ⟨"inc/acf-json/acf-/../../../../x.json", Json.pretty demoResult.group.toJson⟩
    (List.mem_cons_of_mem _ List.mem_cons_self)
  obtain ⟨name, hname, hentry⟩ := Disk.read_eq_ok.1 hread
  obtain rfl := Disk.eq_nameOf_of_resolve hname
  have hpath : (demoDisk []).nameOf (Path.join "p/d/theme" "inc/acf-json/acf-/../../../../x.json") =
      ["p", "d", "x.json"] := by decide +kernel
  rw [htouches.nameOf, hpath] at hentry
  refine ⟨htheme, changed, written, content, hrun, hentry, fun h => ?_⟩
  have hnone : Disk.entry? (demoDisk []) ["p", "d", "x.json"] = none := by rfl
  have houtside : ¬ (demoDisk []).nameOf "p/d/theme" <+: ["p", "d", "x.json"] := by decide
  rcases h.entry ["p", "d", "x.json"] with hsame | ⟨-, hinside, -⟩ | ⟨-, -, hdirectory⟩
  · rw [hentry, hnone] at hsame
    exact absurd hsame (by simp)
  · exact houtside hinside
  · rw [hentry] at hdirectory
    exact absurd hdirectory (by simp)

end Workspace

end ThemeCompiler
