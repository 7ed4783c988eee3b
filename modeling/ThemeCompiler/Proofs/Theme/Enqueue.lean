/-
**The text that declares the assets of a theme.**

Declarations are put before the end of the first block, one behind the other.  So the text of a theme
is that of the shell with the declarations of some files, and a file is declared in it when its
handle is none of those that stand there: that of the style sheet of the theme, and those of the
files before it.

Main definitions:

* `ThemeCompiler.Enqueue.isDeclarable`, `ThemeCompiler.Enqueue.PlainName` — the files that are
  declared, and the names that a declaration can hold as they are;
* `ThemeCompiler.Enqueue.linesFor`, `ThemeCompiler.Enqueue.themeText` — the lines that declare a file,
  and the text with the declarations of some files;
* `ThemeCompiler.Enqueue.declareAll`, `ThemeCompiler.Enqueue.declared` — a text with the declarations
  of some files, and the files that are declared then.

Main results:

* `ThemeCompiler.Enqueue.inject?_themeText` — a declaration is put behind those that stand there;
* `ThemeCompiler.Enqueue.isDeclared_themeText` — **the handles that stand in the text of a theme**;
* `ThemeCompiler.Enqueue.declare_themeText`, `ThemeCompiler.Enqueue.declareAll_enqueuePhp` — **one more
  file**, and any number of them;
* `ThemeCompiler.Enqueue.mem_declared_iff` — which files are declared.
-/

import Mathlib.Data.List.Induction
import ThemeCompiler.Proofs.Assets.FileNames
import ThemeCompiler.Proofs.Files.Parts
import ThemeCompiler.Proofs.Theme.Lines
import ThemeCompiler.Theme.Enqueue

set_option relaxedAutoImplicit false
set_option autoImplicit false

namespace ThemeCompiler

namespace Enqueue

/-! ### Files -/

/-- **Whether files of its directory are declared**: style sheets and scripts are. -/
def isDeclarable (file : String) : Bool :=
  Assets.subdirectory file == "css/" || Assets.subdirectory file == "js/"

/-- **A name without line ends and apostrophes**, which a declaration can hold as it is. -/
structure PlainName (file : String) : Prop where
  line : '\n' ∉ file.toList
  quote : '\'' ∉ file.toList

/-- The handle of the style sheet of the theme. -/
def shellHandle : String := "press-stack-style"

theorem toList_handle (file : String) :
    (handle file).toList = "press-stack-".toList ++ ((Path.stem? file).getD file).toList := by
  rw [handle, String.toList_append]

/-- A character that is not in a name and not before it is not in its handle. -/
theorem notMem_handle {c : Char} {file : String} (hc : c ∉ "press-stack-".toList)
    (h : c ∉ file.toList) : c ∉ (handle file).toList := by
  rw [toList_handle, List.mem_append, not_or]
  exact ⟨hc, fun hmem => h (Path.mem_of_mem_stem hmem)⟩

theorem quote_notMem_handle {file : String} (h : PlainName file) : '\'' ∉ (handle file).toList :=
  notMem_handle (by decide) h.quote

theorem line_notMem_handle {file : String} (h : PlainName file) : '\n' ∉ (handle file).toList :=
  notMem_handle (by decide) h.line

/-! ### The lines of a declaration -/

/-- The path of a file in the theme. -/
def url (file : String) : String := "/assets/" ++ Assets.subdirectory file ++ file

/-- The line with the path of a file. -/
def urlLine (url : String) : String := "            get_template_directory_uri() . '" ++ url ++ "',"

/-- The line with a handle. -/
def handleLine (handle : String) : String := "            '" ++ handle ++ "',"

/-- The lines of a declaration, with the blank line behind them. -/
def declarationLines (what function handle url : String) (tail : List String) : List String :=
  ["        // Auto-enqueued " ++ what, "        " ++ function ++ "(", handleLine handle, urlLine url,
    "            array(),"] ++ tail.map ("            " ++ ·) ++ ["        );", ""]

/-- **A declaration is a text of lines.** -/
theorem declaration_eq (what function handle url : String) (tail : List String) :
    declaration what function handle url tail ++ "\n" =
      "\n" ++ Shell.lines (declarationLines what function handle url tail) := by
  have htail : Shell.lines (tail.map ("            " ++ ·)) =
      String.join (tail.map fun line => "            " ++ line ++ "\n") := by
    rw [Shell.lines, List.map_map]
    rfl
  have hcomment : "\n        // Auto-enqueued " = "\n" ++ "        // Auto-enqueued " := by
    decide
  have hopen : "(\n" = "(" ++ "\n" := by decide
  have hquote : "',\n" = "'," ++ "\n" := by decide
  have harray : "            array(),\n" = "            array()," ++ "\n" := by decide
  have hclose : "        );\n" = "        );" ++ "\n" := by decide
  delta declaration declarationLines handleLine urlLine
  rw [hcomment, hopen, hquote, harray, hclose, Shell.lines_append, Shell.lines_append, htail]
  simp only [Shell.lines_cons, Shell.lines_nil, String.append_assoc, String.append_empty,
    String.empty_append]

theorem isLine_of_mem_declarationLines {what function handle url : String} {tail : List String}
    (hwhat : Shell.IsLine what) (hfunction : Shell.IsLine function) (hhandle : Shell.IsLine handle)
    (hurl : Shell.IsLine url) (htail : ∀ s ∈ tail, Shell.IsLine s) :
    ∀ s ∈ declarationLines what function handle url tail, Shell.IsLine s := by
  simp only [declarationLines, List.forall_mem_append, List.forall_mem_cons, List.forall_mem_map]
  have hlit : ∀ {s t : String}, Shell.IsLine s → Shell.IsLine t → Shell.IsLine (s ++ t) :=
    Shell.IsLine.append
  exact ⟨⟨⟨hlit (by decide) hwhat, hlit (hlit (by decide) hfunction) (by decide),
    hlit (hlit (by decide) hhandle) (by decide), hlit (hlit (by decide) hurl) (by decide),
    by decide, by simp⟩, fun s hs => hlit (by decide) (htail s hs)⟩, by decide, by decide, by simp⟩

/-- The end of a block is not indented like these lines. -/
theorem end_notMem_declarationLines (what function handle url : String) (tail : List String) :
    "    \x7d" ∉ declarationLines what function handle url tail := by
  have hne : ∀ {s : String} (t : String), "     ".toList <+: s.toList → "    \x7d" ≠ s ++ t := by
    intro s t hindent heq
    have hstart := hindent.trans (List.prefix_append s.toList t.toList)
    rw [← String.toList_append, ← heq] at hstart
    exact absurd hstart (by decide)
  delta declarationLines handleLine urlLine
  simp only [List.mem_append, List.mem_cons, List.mem_map, List.not_mem_nil, or_false, not_or,
    not_exists, not_and, String.append_assoc]
  exact ⟨⟨⟨hne _ (by decide), hne _ (by decide), hne _ (by decide), hne _ (by decide),
    by decide⟩, fun s _ => (hne _ (by decide)).symm⟩, by decide, by decide⟩

/-- **The lines that declare a file.** -/
def linesFor (file : String) : List String :=
  if Assets.subdirectory file = "css/" then
    declarationLines ("style: " ++ file) "wp_enqueue_style" (handle file) (url file)
      ["wp_get_theme()->get('Version')"]
  else
    declarationLines ("script: " ++ file) "wp_enqueue_script" (handle file) (url file)
      ["wp_get_theme()->get('Version'),", "true"]

/-- **What is put into the text for a file** makes up its lines. -/
theorem snippet?_eq {file : String} (h : isDeclarable file = true) :
    ∃ snippet, snippet? (handle file) file (Assets.subdirectory file) = some snippet ∧
      snippet ++ "\n" = "\n" ++ Shell.lines (linesFor file) := by
  rw [isDeclarable, Bool.or_eq_true, beq_iff_eq, beq_iff_eq] at h
  have hcss : "/assets/" ++ "css/" = "/assets/css/" := by decide
  have hjs : "/assets/" ++ "js/" = "/assets/js/" := by decide
  rcases h with h | h
  · refine ⟨_, by rw [h]; rfl, ?_⟩
    rw [declaration_eq, linesFor, if_pos h, url, h, hcss]
  · refine ⟨_, by rw [h]; rfl, ?_⟩
    rw [declaration_eq, linesFor, if_neg (by rw [h]; decide), url, h, hjs]

theorem snippet?_eq_none {file : String} (h : isDeclarable file = false) :
    snippet? (handle file) file (Assets.subdirectory file) = none := by
  rw [isDeclarable, Bool.or_eq_false_iff] at h
  rw [snippet?, if_neg (by simp [h.1]), if_neg (by simp [h.2])]

/-- A character that is not in a name and in no directory is not in its path. -/
theorem notMem_url {c : Char} {file : String} (hc : c ∉ "/assets/css/js".toList)
    (h : c ∉ file.toList) : c ∉ (url file).toList := by
  have hdir : ∀ part ∈ ["/assets/", "css/", "js/", ""], part.toList ⊆ "/assets/css/js".toList := by
    decide
  have hsub : Assets.subdirectory file ∈ ["/assets/", "css/", "js/", ""] := by
    rcases Assets.subdirectory_cases file with h | h | h <;> rw [h] <;> decide
  rw [url, String.toList_append, String.toList_append, List.mem_append, List.mem_append, not_or,
    not_or]
  exact ⟨⟨fun hmem => hc (hdir _ (by decide) hmem), fun hmem => hc (hdir _ hsub hmem)⟩, h⟩

theorem isLine_url {file : String} (h : PlainName file) : Shell.IsLine (url file) :=
  notMem_url (by decide) h.line

theorem quote_notMem_url {file : String} (h : PlainName file) : '\'' ∉ (url file).toList :=
  notMem_url (by decide) h.quote

theorem isLine_of_mem_linesFor {file : String} (h : PlainName file) :
    ∀ s ∈ linesFor file, Shell.IsLine s := by
  rw [linesFor]
  split
  · exact isLine_of_mem_declarationLines (Shell.IsLine.append (by decide) h.line) (by decide)
      (line_notMem_handle h) (isLine_url h) (by decide)
  · exact isLine_of_mem_declarationLines (Shell.IsLine.append (by decide) h.line) (by decide)
      (line_notMem_handle h) (isLine_url h) (by decide)

theorem end_notMem_linesFor (file : String) : "    \x7d" ∉ linesFor file := by
  rw [linesFor]
  split
  · exact end_notMem_declarationLines _ _ _ _ _
  · exact end_notMem_declarationLines _ _ _ _ _

/-! ### The text of a theme -/

/-- The lines of the shell before the end of its first block. -/
def opening : List String :=
  ["<?php", "/**", " * Front-end styles and scripts. Compiled pages append their assets here.", " */",
   "", "if (!function_exists('press_stack_enqueue_assets')) \x7b",
   "    function press_stack_enqueue_assets() \x7b", "        wp_enqueue_style(",
   handleLine shellHandle, "            get_stylesheet_uri(),", "            array(),",
   "            wp_get_theme()->get('Version')", "        );"]

/-- The lines of the shell behind the end of its first block. -/
def closing : List String :=
  ["\x7d", "add_action('wp_enqueue_scripts', 'press_stack_enqueue_assets');"]

/-- **The text that declares some files** besides the style sheet of the theme. -/
def themeText (files : List String) : String :=
  Shell.lines (opening ++ files.flatMap linesFor ++ "    \x7d" :: closing)

theorem themeText_nil : themeText [] = Shell.enqueuePhp := rfl

variable {files : List String} {file : String}

theorem isLine_of_mem_front (hfiles : ∀ g ∈ files, PlainName g) :
    ∀ s ∈ opening ++ files.flatMap linesFor, Shell.IsLine s := by
  rw [List.forall_mem_append]
  refine ⟨by decide, fun s hs => ?_⟩
  obtain ⟨g, hg, hs⟩ := List.mem_flatMap.1 hs
  exact isLine_of_mem_linesFor (hfiles g hg) s hs

/-- **A declaration is put behind those that stand there.** -/
theorem inject?_themeText (hfiles : ∀ g ∈ files, PlainName g) {snippet : String}
    (hsnippet : snippet ++ "\n" = "\n" ++ Shell.lines (linesFor file)) :
    inject? (themeText files) snippet = some (themeText (files ++ [file])) := by
  have hnew : "    \x7d" ∉ opening.tail ++ files.flatMap linesFor := by
    rw [List.mem_append, not_or]
    refine ⟨by decide, fun h => ?_⟩
    obtain ⟨g, -, hg⟩ := List.mem_flatMap.1 h
    exact end_notMem_linesFor g hg
  obtain ⟨front, hfound, hfront⟩ := Shell.splitFirst?_lines "    \x7d" (by decide) closing
    (opening.tail ++ files.flatMap linesFor) "<?php" (isLine_of_mem_front hfiles) hnew
  have hend : blockEnd = "\n" ++ ("    \x7d" ++ "\n") := by decide
  have hbefore : String.ofList front ++ "\n" = Shell.lines (opening ++ files.flatMap linesFor) := by
    rw [← String.toList_inj, String.toList_append, String.toList_ofList]
    exact hfront
  have htext : (themeText files).toList = (Shell.lines
      ("<?php" :: (opening.tail ++ files.flatMap linesFor ++ "    \x7d" :: closing))).toList := rfl
  have hpart : blockEnd.toList = '\n' :: ("    \x7d".toList ++ ['\n']) := by decide
  rw [inject?, htext, hpart, hfound]
  refine congrArg some ?_
  change String.ofList front ++ snippet ++ blockEnd ++ String.ofList (Shell.lines closing).toList = _
  rw [String.ofList_toList]
  calc String.ofList front ++ snippet ++ blockEnd ++ Shell.lines closing
      = String.ofList front ++ (snippet ++ "\n") ++ ("    \x7d" ++ "\n" ++ Shell.lines closing) := by
        rw [hend]
        simp only [String.append_assoc]
    _ = Shell.lines (opening ++ files.flatMap linesFor) ++ Shell.lines (linesFor file)
          ++ Shell.lines ("    \x7d" :: closing) := by
        rw [hsnippet, ← hbefore, Shell.lines_cons]
        simp only [String.append_assoc]
    _ = themeText (files ++ [file]) := by
        rw [themeText, ← Shell.lines_append, ← Shell.lines_append, List.flatMap_append]
        simp

/-! ### Handles that stand in a text -/

theorem contains_quoted {s h : String} :
    Text.contains s ("'" ++ h ++ "'") = true ↔ Text.inQuotes h.toList <:+: s.toList := by
  rw [Text.contains, Text.occursIn_iff_infix, String.toList_append, String.toList_append]
  rfl

/-- A handle stands in its own line only. -/
theorem contains_handleLine {h k : String} (hk : '\'' ∉ k.toList) :
    Text.contains (handleLine k) ("'" ++ h ++ "'") = true ↔ h = k := by
  have hline : (handleLine k).toList =
      "            ".toList ++ (Text.inQuotes k.toList ++ [',']) := by
    have hopen : "            '".toList = "            ".toList ++ ['\''] := by decide
    have hclose : "',".toList = '\'' :: [','] := by decide
    delta handleLine
    simp only [String.toList_append, hopen, hclose, Text.inQuotes, List.append_assoc,
      List.cons_append, List.nil_append]
  rw [contains_quoted, hline, Text.quoted_infix_iff (by decide) hk (by decide), String.toList_inj]

theorem toList_urlLine (url : String) :
    (urlLine url).toList =
      "            get_template_directory_uri() . ".toList
        ++ (Text.inQuotes url.toList ++ [',']) := by
  have hopen : "            get_template_directory_uri() . '".toList =
      "            get_template_directory_uri() . ".toList ++ ['\''] := by decide
  have hclose : "',".toList = '\'' :: [','] := by decide
  delta urlLine
  simp only [String.toList_append, hopen, hclose, Text.inQuotes, List.append_assoc,
    List.cons_append, List.nil_append]

/-- No handle stands in the line with a path. -/
theorem not_contains_urlLine {file url : String} (hurl : '\'' ∉ url.toList)
    (hslash : url.toList.head? = some '/') :
    ¬ Text.contains (urlLine url) ("'" ++ handle file ++ "'") = true := by
  rw [contains_quoted, toList_urlLine, Text.quoted_infix_iff (by decide) hurl (by decide)]
  intro h
  rw [← h, toList_handle] at hslash
  exact absurd hslash (by simp)

/-- No handle stands in a line without the beginning of one. -/
theorem not_contains_of_start {file s : String}
    (h : Text.contains s "'press-stack-" = false) :
    ¬ Text.contains s ("'" ++ handle file ++ "'") = true := by
  rw [contains_quoted, toList_handle]
  intro hoccurs
  have hopen : "'press-stack-".toList <:+:
      Text.inQuotes ("press-stack-".toList ++ ((Path.stem? file).getD file).toList) :=
    ⟨[], ((Path.stem? file).getD file).toList ++ ['\''], by simp [Text.inQuotes]⟩
  rw [Text.contains, Bool.eq_false_iff, Ne, Text.occursIn_iff_infix] at h
  exact h (hopen.trans hoccurs)

theorem not_contains_of_quote_notMem {file s : String} (h : '\'' ∉ s.toList) :
    ¬ Text.contains s ("'" ++ handle file ++ "'") = true := by
  rw [contains_quoted]
  exact fun hoccurs => h (hoccurs.subset List.mem_cons_self)

/-- **The handle of a declaration** is the only one in its lines. -/
theorem contains_declarationLines {file what function h url : String} {tail : List String}
    (hwhat : '\'' ∉ what.toList) (hfunction : '\'' ∉ function.toList) (hh : '\'' ∉ h.toList)
    (hurl : '\'' ∉ url.toList) (hslash : url.toList.head? = some '/')
    (htail : ∀ s ∈ tail, Text.contains ("            " ++ s) "'press-stack-" = false) :
    (∃ s ∈ declarationLines what function h url tail,
      Text.contains s ("'" ++ handle file ++ "'") = true) ↔ handle file = h := by
  constructor
  · rintro ⟨s, hs, hcontains⟩
    simp only [declarationLines, List.mem_append, List.mem_cons, List.mem_map, List.not_mem_nil,
      or_false] at hs
    rcases hs with ((rfl | rfl | rfl | rfl | rfl) | ⟨s, hs, rfl⟩) | rfl | rfl
    · refine absurd hcontains (not_contains_of_quote_notMem ?_)
      rw [String.toList_append, List.mem_append, not_or]
      exact ⟨by decide, hwhat⟩
    · refine absurd hcontains (not_contains_of_quote_notMem ?_)
      rw [String.toList_append, String.toList_append, List.mem_append, List.mem_append, not_or,
        not_or]
      exact ⟨⟨by decide, hfunction⟩, by decide⟩
    · exact (contains_handleLine hh).1 hcontains
    · exact absurd hcontains (not_contains_urlLine hurl hslash)
    · exact absurd hcontains (not_contains_of_start (by decide))
    · exact absurd hcontains (not_contains_of_start (htail s hs))
    · exact absurd hcontains (not_contains_of_start (by decide))
    · exact absurd hcontains (not_contains_of_start (by decide))
  · intro heq
    exact ⟨handleLine h, by simp [declarationLines], (contains_handleLine hh).2 heq⟩

theorem contains_linesFor {g : String} (hg : PlainName g) :
    (∃ s ∈ linesFor g, Text.contains s ("'" ++ handle file ++ "'") = true) ↔
      handle file = handle g := by
  have hslash : (url g).toList.head? = some '/' := by
    rw [url, String.toList_append, String.toList_append]
    rfl
  have hwhat : ∀ s : String, '\'' ∉ s.toList → '\'' ∉ (s ++ g).toList := fun s hs => by
    rw [String.toList_append, List.mem_append, not_or]
    exact ⟨hs, hg.quote⟩
  rw [linesFor]
  split
  · exact contains_declarationLines (hwhat _ (by decide)) (by decide) (quote_notMem_handle hg)
      (quote_notMem_url hg) hslash (by decide)
  · exact contains_declarationLines (hwhat _ (by decide)) (by decide) (quote_notMem_handle hg)
      (quote_notMem_url hg) hslash (by decide)

/-- **The handles that stand in the text of a theme** are those of its style sheet and of the files
that are declared. -/
theorem isDeclared_themeText (hfiles : ∀ g ∈ files, PlainName g) (hfile : PlainName file) :
    isDeclared (themeText files) (handle file) = true ↔
      handle file = shellHandle ∨ ∃ g ∈ files, handle file = handle g := by
  have hline : Shell.IsLine ("'" ++ handle file ++ "'") :=
    (Shell.IsLine.append (by decide) (line_notMem_handle hfile)).append (by decide)
  have hne : ("'" ++ handle file ++ "'").toList ≠ [] := by simp
  have hshell : ∀ s ∈ opening ++ "    \x7d" :: closing, s ≠ handleLine shellHandle →
      Text.contains s "'press-stack-" = false := by decide
  have hfixed : ∀ s ∈ opening ++ "    \x7d" :: closing,
      Text.contains s ("'" ++ handle file ++ "'") = true → handle file = shellHandle := by
    intro s hs hcontains
    by_cases heq : s = handleLine shellHandle
    · exact (contains_handleLine (by decide)).1 (heq ▸ hcontains)
    · exact absurd hcontains (not_contains_of_start (hshell s hs heq))
  rw [isDeclared, themeText, Shell.contains_lines hline hne]
  constructor
  · rintro ⟨s, hs, hcontains⟩
    rcases List.mem_append.1 hs with hs | hs
    · rcases List.mem_append.1 hs with hs | hs
      · exact .inl (hfixed s (List.mem_append_left _ hs) hcontains)
      · obtain ⟨g, hg, hs⟩ := List.mem_flatMap.1 hs
        exact .inr ⟨g, hg, (contains_linesFor (hfiles g hg)).1 ⟨s, hs, hcontains⟩⟩
    · exact .inl (hfixed s (List.mem_append_right _ hs) hcontains)
  · rintro (heq | ⟨g, hg, heq⟩)
    · exact ⟨handleLine shellHandle, by simp [opening], (contains_handleLine (by decide)).2 heq⟩
    · obtain ⟨s, hs, hcontains⟩ := (contains_linesFor (hfiles g hg)).2 heq
      exact ⟨s, List.mem_append_left _ (List.mem_append_right _ (List.mem_flatMap.2 ⟨g, hg, hs⟩)),
        hcontains⟩

/-! ### One more file -/

/-- **The declared files after one more** that is asked for: it is new if it can be declared and its
handle is none of those that stand in the text. -/
def enlist (files : List String) (file : String) : List String :=
  if isDeclarable file ∧ handle file ≠ shellHandle ∧ ∀ g ∈ files, handle file ≠ handle g then
    files ++ [file]
  else files

theorem mem_enlist_iff {g : String} :
    g ∈ enlist files file ↔ g ∈ files ∨ g = file ∧ isDeclarable file = true ∧
      handle file ≠ shellHandle ∧ ∀ g ∈ files, handle file ≠ handle g := by
  rw [enlist]
  split
  · next h => rw [List.mem_append, List.mem_singleton, and_iff_left h]
  · next h => rw [or_iff_left fun hg => h hg.2]

/-- **One more file** is declared in the text of a theme. -/
theorem declare_themeText (hfiles : ∀ g ∈ files, PlainName g)
    (hfile : isDeclarable file = true → PlainName file) :
    declare file (themeText files) = themeText (enlist files file) := by
  by_cases hdecl : isDeclarable file = true
  · obtain ⟨snippet, hsome, hlines⟩ := snippet?_eq hdecl
    have hthere := isDeclared_themeText hfiles (hfile hdecl)
    rw [declare, hsome]
    by_cases htaken : isDeclared (themeText files) (handle file) = true
    · have hold : enlist files file = files := by
        refine if_neg fun h => ?_
        rcases hthere.1 htaken with heq | ⟨g, hg, heq⟩
        · exact h.2.1 heq
        · exact h.2.2 g hg heq
      rw [hold]
      exact if_pos htaken
    · have hnew : enlist files file = files ++ [file] :=
        if_pos ⟨hdecl, fun heq => htaken (hthere.2 (.inl heq)),
          fun g hg heq => htaken (hthere.2 (.inr ⟨g, hg, heq⟩))⟩
      rw [hnew]
      exact (if_neg htaken).trans (by rw [inject?_themeText hfiles hlines, Option.getD_some])
  · rw [declare, snippet?_eq_none (by simpa using hdecl), enlist, if_neg fun h => hdecl h.1]

/-- The files that are declared after some were asked for, one after the other. -/
def declared (names : List String) : List String := names.foldl enlist []

theorem declared_nil : declared [] = [] := rfl

theorem declared_concat (names : List String) (file : String) :
    declared (names ++ [file]) = enlist (declared names) file := by
  simp only [declared, List.foldl_append, List.foldl_cons, List.foldl_nil]

/-- Whether a file is one that takes the handle of another. -/
def takesHandleOf (file g : String) : Bool := isDeclarable g && handle g == handle file

theorem takesHandleOf_iff {g : String} :
    takesHandleOf file g = true ↔ isDeclarable g = true ∧ handle g = handle file := by
  rw [takesHandleOf, Bool.and_eq_true, beq_iff_eq]

theorem takesHandleOf_congr {g : String} (h : handle g = handle file) :
    takesHandleOf g = takesHandleOf file := by
  funext x
  rw [takesHandleOf, takesHandleOf, h]

/-- **Which files are declared**: the first ones that are asked for under their handle. -/
theorem mem_declared_iff {names : List String} {file : String} :
    file ∈ declared names ↔
      handle file ≠ shellHandle ∧ names.find? (takesHandleOf file) = some file := by
  induction names using List.reverseRecOn generalizing file with
  | nil => simp [declared]
  | append_singleton names last ih =>
      rw [declared_concat, mem_enlist_iff, List.find?_append, List.find?_singleton]
      cases hfound : names.find? (takesHandleOf file) with
      | some first =>
          have hhandle : handle first = handle file := (takesHandleOf_iff.1 (List.find?_some hfound)).2
          have hfirst : handle file ≠ shellHandle → first ∈ declared names := fun hshell => by
            rw [ih, hhandle, takesHandleOf_congr hhandle]
            exact ⟨hshell, hfound⟩
          rw [Option.some_or, or_iff_left, ih, hfound]
          rintro ⟨rfl, -, hshell, hnew⟩
          exact hnew first (hfirst hshell) hhandle.symm
      | none =>
          have hnew : ∀ g ∈ declared names, handle file ≠ handle g := fun g hg heq => by
            have hg := (ih.1 hg).2
            rw [takesHandleOf_congr heq.symm, hfound] at hg
            exact Option.some_ne_none g hg.symm
          rw [or_iff_right fun h => hnew file h rfl, Option.none_or, Option.ite_none_right_eq_some,
            takesHandleOf_iff]
          constructor
          · rintro ⟨rfl, hdecl, hshell, -⟩
            exact ⟨hshell, ⟨hdecl, rfl⟩, rfl⟩
          · rintro ⟨hshell, ⟨hdecl, -⟩, heq⟩
            obtain rfl := Option.some.inj heq
            exact ⟨rfl, hdecl, hshell, hnew⟩

theorem isDeclarable_of_mem_declared {names : List String} (h : file ∈ declared names) :
    isDeclarable file = true :=
  (takesHandleOf_iff.1 (List.find?_some (mem_declared_iff.1 h).2)).1

theorem mem_of_mem_declared {names : List String} (h : file ∈ declared names) : file ∈ names :=
  List.mem_of_find?_eq_some (mem_declared_iff.1 h).2

/-- No file is declared twice. -/
theorem nodup_declared (names : List String) : (declared names).Nodup := by
  induction names using List.reverseRecOn with
  | nil => exact List.nodup_nil
  | append_singleton names last ih =>
      rw [declared_concat, enlist]
      split
      · next h =>
          refine List.nodup_append.2 ⟨ih, by simp, fun g hg x hx heq => ?_⟩
          exact h.2.2 g hg (by rw [heq, List.mem_singleton.1 hx])
      · exact ih

/-- **A text with the declarations of some files**, one after the other. -/
def declareAll (names : List String) (content : String) : String :=
  names.foldl (fun content file => declare file content) content

theorem declareAll_cons (file : String) (names : List String) (content : String) :
    declareAll (file :: names) content = declareAll names (declare file content) := by
  rw [declareAll, declareAll, List.foldl_cons]

theorem declareAll_append (names more : List String) (content : String) :
    declareAll (names ++ more) content = declareAll more (declareAll names content) := by
  rw [declareAll, declareAll, declareAll, List.foldl_append]

/-- No file without a name is declared. -/
theorem declare_empty (content : String) : declare "" content = content := by
  rw [declare, snippet?_eq_none (by decide)]

/-- **The text after declarations** is that of the declared files. -/
theorem declareAll_enqueuePhp {names : List String}
    (hnames : ∀ g ∈ names, isDeclarable g = true → PlainName g) :
    declareAll names Shell.enqueuePhp = themeText (declared names) := by
  rw [← themeText_nil]
  induction names using List.reverseRecOn with
  | nil => rw [declareAll, List.foldl_nil, declared_nil]
  | append_singleton names file ih =>
      obtain ⟨hnames, hfile⟩ := List.forall_mem_append.1 hnames
      have hplain : ∀ g ∈ declared names, PlainName g := fun g hg =>
        hnames g (mem_of_mem_declared hg) (isDeclarable_of_mem_declared hg)
      rw [declareAll_append, ih hnames, declared_concat, declareAll, List.foldl_cons, List.foldl_nil]
      exact declare_themeText hplain (hfile file (List.mem_singleton_self file))

end Enqueue

end ThemeCompiler
