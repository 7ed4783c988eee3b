/-
**Calls in the text of a theme.**

A call is opened in a line of its own, and the path of its file stands two lines behind.  In the text
of a theme a file has one call when it is among the declared ones, and else none; and it is among
them when it was the first that was asked for under its handle.

Main definitions:

* `ThemeCompiler.Enqueue.callUrls` — the lines with the paths of the calls;
* `ThemeCompiler.Enqueue.callCount` — how many calls of a text declare a file.

Main results:

* `ThemeCompiler.Enqueue.callUrls_themeText` — the calls in the text of a theme;
* `ThemeCompiler.Enqueue.callCount_themeText` — how often a file is declared in it;
* `ThemeCompiler.Enqueue.callCount_declareAll` — **when a file is declared** by a list of files.
-/

import ThemeCompiler.Proofs.Theme.Enqueue

set_option relaxedAutoImplicit false
set_option autoImplicit false

namespace ThemeCompiler

namespace Enqueue

variable {files : List String} {file : String}

/-! ### Calls in a text -/

/-- The lines that open a call. -/
def callLines : List String := ["        wp_enqueue_style(", "        wp_enqueue_script("]

/-- **The lines with the paths of the calls** in some lines: each stands two lines behind the
opening of its call. -/
def callUrls : List String → List String
  | [] => []
  | line :: rest => (if line ∈ callLines then (rest[1]?).toList else []) ++ callUrls rest

/-- The lines of a text. -/
def textLines (content : String) : List String :=
  (Text.splitAtChars (· == '\n') content.toList).map String.ofList

/-- **How many calls of a text declare a file**, at its own path. -/
def callCount (content file : String) : Nat :=
  (callUrls (textLines content)).countP fun line => Text.contains line ("'" ++ url file ++ "'")

theorem callUrls_cons {line : String} (h : line ∉ callLines) (rest : List String) :
    callUrls (line :: rest) = callUrls rest := by
  rw [callUrls, if_neg h, List.nil_append]

theorem callUrls_call {line : String} (h : line ∈ callLines) (x y : String) (rest : List String) :
    callUrls (line :: x :: y :: rest) = y :: callUrls (x :: y :: rest) := by
  rw [callUrls, if_pos h]
  rfl

theorem callUrls_append {parts : List String} (h : ∀ s ∈ parts, s ∉ callLines)
    (rest : List String) : callUrls (parts ++ rest) = callUrls rest := by
  induction parts with
  | nil => rfl
  | cons s parts ih =>
      obtain ⟨hs, hparts⟩ := List.forall_mem_cons.1 h
      rw [List.cons_append, callUrls_cons hs, ih hparts]

/-- Lines with another indentation open no calls. -/
theorem append_notMem_callLines {s : String} (t : String)
    (h : ∀ line ∈ callLines, ¬ s.toList <+: line.toList) : s ++ t ∉ callLines := fun hmem =>
  h _ hmem (by rw [String.toList_append]; exact List.prefix_append _ _)

/-- **A declaration has one call**, at the path of its file. -/
theorem callUrls_declarationLines {what function handle url : String} {tail : List String}
    (hfunction : "        " ++ function ++ "(" ∈ callLines) (rest : List String) :
    callUrls (declarationLines what function handle url tail ++ rest) =
      urlLine url :: callUrls rest := by
  have hcomment : "        // Auto-enqueued " ++ what ∉ callLines :=
    append_notMem_callLines what (by decide)
  have hhandle : handleLine handle ∉ callLines := by
    delta handleLine
    rw [String.append_assoc]
    exact append_notMem_callLines _ (by decide)
  have hurl : urlLine url ∉ callLines := by
    delta urlLine
    rw [String.append_assoc]
    exact append_notMem_callLines _ (by decide)
  have htail : ∀ s ∈ tail.map ("            " ++ ·), s ∉ callLines := by
    rw [List.forall_mem_map]
    exact fun s _ => append_notMem_callLines s (by decide)
  rw [declarationLines]
  simp only [List.append_assoc, List.cons_append, List.nil_append]
  rw [callUrls_cons hcomment, callUrls_call hfunction, callUrls_cons hhandle, callUrls_cons hurl,
    callUrls_cons (by decide), callUrls_append htail, callUrls_cons (by decide),
    callUrls_cons (by decide)]

theorem callUrls_linesFor (g : String) (rest : List String) :
    callUrls (linesFor g ++ rest) = urlLine (url g) :: callUrls rest := by
  rw [linesFor]
  split
  · exact callUrls_declarationLines (by decide) rest
  · exact callUrls_declarationLines (by decide) rest

theorem callUrls_flatMap (files rest : List String) :
    callUrls (files.flatMap linesFor ++ rest) =
      files.map (fun g => urlLine (url g)) ++ callUrls rest := by
  induction files with
  | nil => rfl
  | cons g files ih =>
      rw [List.flatMap_cons, List.append_assoc, callUrls_linesFor, ih, List.map_cons,
        List.cons_append]

/-- **The calls in the text of a theme**: that for its style sheet, and one for each file. -/
theorem callUrls_themeText (hfiles : ∀ g ∈ files, PlainName g) :
    callUrls (textLines (themeText files)) =
      "            get_stylesheet_uri()," :: files.map fun g => urlLine (url g) := by
  have hlines : ∀ s ∈ opening ++ files.flatMap linesFor ++ "    \x7d" :: closing,
      Shell.IsLine s := by
    rw [List.forall_mem_append]
    exact ⟨isLine_of_mem_front hfiles, by decide⟩
  have hopening : ∀ rest : List String, callUrls (opening ++ rest) =
      "            get_stylesheet_uri()," :: callUrls rest := fun rest => rfl
  have hclosing : callUrls ("    \x7d" :: closing ++ [""]) = [] := by decide
  rw [textLines, themeText, Shell.splitAtChars_lines hlines, List.append_assoc, List.append_assoc,
    hopening, callUrls_flatMap, hclosing, List.append_nil]

theorem subdirectory_of_isDeclarable (h : isDeclarable file = true) :
    Assets.subdirectory file = "css/" ∨ Assets.subdirectory file = "js/" := by
  rw [isDeclarable, Bool.or_eq_true, beq_iff_eq, beq_iff_eq] at h
  exact h

/-- Declarable files have different paths. -/
theorem url_inj {g : String} (hfile : isDeclarable file = true) (hg : isDeclarable g = true) :
    url file = url g ↔ file = g := by
  refine ⟨fun h => ?_, fun h => by rw [h]⟩
  have hurl : ∀ {f sub : String}, Assets.subdirectory f = sub →
      (url f).toList = "/assets/".toList ++ (sub.toList ++ f.toList) := fun {f sub} hsub => by
    rw [url, hsub, String.toList_append, String.toList_append, List.append_assoc]
  have htexts := congrArg String.toList h
  rcases subdirectory_of_isDeclarable hfile with hf | hf <;>
    rcases subdirectory_of_isDeclarable hg with hg | hg <;>
    rw [hurl hf, hurl hg, List.append_right_inj] at htexts
  · exact String.toList_inj.1 (List.append_cancel_left htexts)
  · exact absurd (List.cons.inj htexts).1 (by decide)
  · exact absurd (List.cons.inj htexts).1 (by decide)
  · exact String.toList_inj.1 (List.append_cancel_left htexts)

/-- **The path of a file** stands in the line with it only. -/
theorem contains_urlLine {g : String} (hfile : isDeclarable file = true)
    (hg : isDeclarable g = true) (hplain : PlainName g) :
    Text.contains (urlLine (url g)) ("'" ++ url file ++ "'") = true ↔ file = g := by
  rw [contains_quoted, toList_urlLine,
    Text.quoted_infix_iff (by decide) (quote_notMem_url hplain) (by decide), String.toList_inj,
    url_inj hfile hg]

/-- **How often a file is declared** in the text of a theme. -/
theorem callCount_themeText (hfiles : ∀ g ∈ files, PlainName g)
    (hdecl : ∀ g ∈ files, isDeclarable g = true) (hfile : isDeclarable file = true) :
    callCount (themeText files) file = files.count file := by
  have hshell :
      ¬ Text.contains "            get_stylesheet_uri()," ("'" ++ url file ++ "'") = true := by
    rw [contains_quoted]
    exact fun h => absurd (h.subset List.mem_cons_self) (by decide)
  rw [callCount, callUrls_themeText hfiles, List.countP_cons, if_neg hshell, Nat.add_zero,
    List.countP_map, List.count]
  refine List.countP_congr fun g hg => ?_
  rw [Function.comp_apply, contains_urlLine hfile (hdecl g hg) (hfiles g hg), beq_iff_eq]
  exact eq_comm

/-- **When a file is declared** by the files that are asked for: once if it is the first one under
its handle and this is not that of the style sheet of the theme, and else not at all. -/
theorem callCount_declareAll {names : List String}
    (hnames : ∀ g ∈ names, isDeclarable g = true → PlainName g)
    (hfile : isDeclarable file = true) :
    callCount (declareAll names Shell.enqueuePhp) file =
      if handle file ≠ shellHandle ∧ names.find? (takesHandleOf file) = some file then 1 else 0 := by
  have hdecl : ∀ g ∈ declared names, isDeclarable g = true := fun g hg =>
    isDeclarable_of_mem_declared hg
  have hplain : ∀ g ∈ declared names, PlainName g := fun g hg =>
    hnames g (mem_of_mem_declared hg) (hdecl g hg)
  rw [declareAll_enqueuePhp hnames, callCount_themeText hplain hdecl hfile,
    (nodup_declared names).count]
  exact if_congr mem_declared_iff rfl rfl

end Enqueue

end ThemeCompiler
