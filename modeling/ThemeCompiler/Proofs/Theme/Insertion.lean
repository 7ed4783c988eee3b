/-
**Declarations that are inserted stay.**

A declaration is put before the first end of a block.  What stands before that end stays there, since a
declaration begins with a line end and so none of its characters can make up an end with those before
it.  The declaration itself stands before the first end when its file has no such end in its name.  And
a text that is no stub stays so, unless a file has a mark of stubs in its name, which can be one mark
only: the others hold a slash.

Main definitions:

* `ThemeCompiler.Enqueue.declarationOf` — the declaration of a file;
* `ThemeCompiler.Enqueue.isInserted`, `ThemeCompiler.Enqueue.inserted` — whether a file is put into a
  text, and the files of a list that are;
* `ThemeCompiler.Enqueue.StandsBefore` — what stands before the first end of a block.

Main results:

* `ThemeCompiler.Enqueue.infix_declarationOf` — what occurs in a declaration occurs in the name of the
  file;
* `ThemeCompiler.Enqueue.StandsBefore.declare` — **what stands before the end stays there**;
* `ThemeCompiler.Enqueue.isStub_declare` — **what is no stub stays so**;
* `ThemeCompiler.Enqueue.standsBefore_of_mem_inserted` — **the declarations that were put into a text**.
-/

import ThemeCompiler.Proofs.Theme.Enqueue

set_option relaxedAutoImplicit false
set_option autoImplicit false

namespace ThemeCompiler

namespace Enqueue

variable {file content : String}

/-! ### What occurs in a declaration -/

/-- **The declaration of a file**, if it can be declared. -/
def declarationOf (file : String) : String :=
  (snippet? (handle file) file (Assets.subdirectory file)).getD ""

theorem snippet?_eq_declarationOf (h : isDeclarable file = true) :
    snippet? (handle file) file (Assets.subdirectory file) = some (declarationOf file) := by
  obtain ⟨snippet, hsnippet, -⟩ := snippet?_eq h
  rw [declarationOf, hsnippet, Option.getD_some]

/-- **A declaration makes up the lines of its file**, with a line end before them. -/
theorem toList_declarationOf (h : isDeclarable file = true) :
    (declarationOf file).toList ++ ['\n'] = '\n' :: (Shell.lines (linesFor file)).toList := by
  obtain ⟨snippet, hsnippet, hlines⟩ := snippet?_eq h
  have hlit : "\n".toList = ['\n'] := by decide
  rw [declarationOf, hsnippet, Option.getD_some, ← hlit, ← String.toList_append, hlines,
    String.toList_append, hlit]
  rfl

/-- What tells the declarations of one kind of files from others. -/
structure Kind where
  what : String
  function : String
  directory : String
  tail : List String

/-- The two kinds: style sheets and scripts. -/
def kinds : List Kind :=
  [⟨"style: ", "wp_enqueue_style", "css", ["wp_get_theme()->get('Version')"]⟩,
    ⟨"script: ", "wp_enqueue_script", "js", ["wp_get_theme()->get('Version'),", "true"]⟩]

/-- The lines of a declaration of a kind that hold no name. -/
def Kind.fixedLines (kind : Kind) : List String :=
  ["        " ++ kind.function ++ "(", "            array(),"] ++
    kind.tail.map ("            " ++ ·) ++ ["        );", ""]

/-- The lines that declare a file are those of its kind. -/
theorem linesFor_eq (h : isDeclarable file = true) :
    ∃ kind ∈ kinds, linesFor file = declarationLines (kind.what ++ file) kind.function (handle file)
      ("/assets/" ++ kind.directory ++ "/" ++ file) kind.tail := by
  have hcss : "/assets/" ++ "css/" = "/assets/" ++ "css" ++ "/" := by decide
  have hjs : "/assets/" ++ "js/" = "/assets/" ++ "js" ++ "/" := by decide
  rw [isDeclarable, Bool.or_eq_true, beq_iff_eq, beq_iff_eq] at h
  rcases h with h | h
  · refine ⟨_, List.mem_cons_self, ?_⟩
    rw [linesFor, if_pos h, url, h, hcss]
  · refine ⟨_, List.mem_cons_of_mem _ List.mem_cons_self, ?_⟩
    rw [linesFor, if_neg (by rw [h]; decide), url, h, hjs]

/-- **Whether a text occurs in a declaration with names in it only**: it neither begins in the texts
before them nor ends in those behind them, and is in no line without a name. -/
def occursInNames (part : List Char) : Bool :=
  kinds.all fun kind =>
    !Text.canBegin part ('\n' :: ("        // Auto-enqueued " ++ kind.what).toList)
      && !Text.canBegin part "\n            'press-stack-".toList
      && !Text.canBegin part
        ("\n            get_template_directory_uri() . '/assets/" ++ kind.directory).toList
      && !Text.canBegin part.reverse "',\n".toList.reverse
      && kind.fixedLines.all fun line => !Text.occursIn part ('\n' :: (line.toList ++ ['\n']))

/-- **What occurs in a line of a declaration** occurs in the name of the file with a line end behind it
or a slash before it, or in its stem. -/
theorem infix_name_of_mem_linesFor {part : List Char} (hpart : occursInNames part = true)
    (hfile : isDeclarable file = true) {s : String} (hs : s ∈ linesFor file)
    (h : part <:+: '\n' :: (s.toList ++ ['\n'])) :
    part <:+: file.toList ++ ['\n'] ∨ part <:+: ((Path.stem? file).getD file).toList ∨
      part <:+: '/' :: file.toList := by
  obtain ⟨kind, hkind, hlines⟩ := linesFor_eq hfile
  have hpart := List.all_eq_true.1 hpart kind hkind
  simp only [Bool.and_eq_true, Bool.not_eq_true', List.all_eq_true] at hpart
  obtain ⟨⟨⟨⟨hwhat, hhandle⟩, hurl⟩, hend⟩, hfixed⟩ := hpart
  have hfixed : ∀ line ∈ kind.fixedLines, ¬ part <:+: '\n' :: (line.toList ++ ['\n']) :=
    fun line hline hinfix => by
      rw [← Text.occursIn_iff_infix, hfixed line hline] at hinfix
      exact absurd hinfix (by simp)
  rw [hlines, declarationLines] at hs
  simp only [List.mem_append, List.mem_cons, List.not_mem_nil, or_false] at hs
  have hclose : "',".toList ++ ['\n'] = "',\n".toList := by decide
  rcases hs with ((rfl | rfl | rfl | rfl | rfl) | hs) | rfl | rfl
  · have htext : '\n' :: (("        // Auto-enqueued " ++ (kind.what ++ file)).toList ++ ['\n']) =
        ('\n' :: ("        // Auto-enqueued " ++ kind.what).toList) ++ (file.toList ++ ['\n']) := by
      simp only [String.toList_append, List.cons_append, List.append_assoc]
    exact .inl ((Text.infix_behind_iff hwhat _).1 (htext ▸ h))
  · exact absurd h (hfixed _ (by simp [Kind.fixedLines]))
  · have hopen : '\n' :: ("            '".toList ++ "press-stack-".toList) =
        "\n            'press-stack-".toList := by decide
    have htext : '\n' :: ((handleLine (handle file)).toList ++ ['\n']) =
        "\n            'press-stack-".toList ++
          (((Path.stem? file).getD file).toList ++ "',\n".toList) := by
      delta handleLine
      rw [← hopen, ← hclose, String.toList_append, String.toList_append, toList_handle]
      simp only [List.cons_append, List.append_assoc]
    exact .inr (.inl ((Text.infix_before_iff hend _).1 ((Text.infix_behind_iff hhandle _).1 (htext ▸ h))))
  · have hopen : '\n' :: ("            get_template_directory_uri() . '".toList ++ "/assets/".toList) =
        "\n            get_template_directory_uri() . '/assets/".toList := by decide
    have htext : '\n' :: ((urlLine ("/assets/" ++ kind.directory ++ "/" ++ file)).toList ++ ['\n']) =
        ("\n            get_template_directory_uri() . '/assets/" ++ kind.directory).toList ++
          ('/' :: file.toList ++ "',\n".toList) := by
      have hslash : "/".toList = ['/'] := by decide
      delta urlLine
      simp only [String.toList_append, ← hopen, ← hclose, hslash, List.cons_append, List.nil_append,
        List.append_assoc]
    exact .inr (.inr ((Text.infix_before_iff hend _).1 ((Text.infix_behind_iff hurl _).1 (htext ▸ h))))
  · exact absurd h (hfixed _ (by simp [Kind.fixedLines]))
  · exact absurd h (hfixed _ (List.mem_append_left _ (List.mem_append_right _ hs)))
  · exact absurd h (hfixed _ (by simp [Kind.fixedLines]))
  · exact absurd h (hfixed _ (by simp [Kind.fixedLines]))

/-- **What occurs in a declaration** occurs in a name, if it is found line by line. -/
theorem infix_name_of_infix_declarationOf {part : List Char} (hpart : occursInNames part = true)
    (hlines : ∀ parts, part <:+: '\n' :: (Shell.lines parts).toList →
      ∃ s ∈ parts, part <:+: '\n' :: (s.toList ++ ['\n']))
    (hfile : isDeclarable file = true) (h : part <:+: (declarationOf file).toList ++ ['\n']) :
    part <:+: file.toList ++ ['\n'] ∨ part <:+: ((Path.stem? file).getD file).toList ∨
      part <:+: '/' :: file.toList := by
  obtain ⟨s, hs, hinfix⟩ := hlines _ (toList_declarationOf hfile ▸ h)
  exact infix_name_of_mem_linesFor hpart hfile hs hinfix

/-! ### Marks of stubs -/

/-- The mark of stubs that can be part of a name. -/
def placeholder : String := "<!-- THEME_SHELL_PLACEHOLDER -->"

/-- The beginning of the other marks, with slashes in it. -/
def commentStart : String := "// T"

theorem infix_line_of_infix_lines {part : String} (hpart : Shell.IsLine part)
    (hne : part.toList ≠ []) (parts : List String)
    (h : part.toList <:+: '\n' :: (Shell.lines parts).toList) :
    ∃ s ∈ parts, part.toList <:+: '\n' :: (s.toList ++ ['\n']) := by
  have hinfix := (Text.infix_append_cons_iff hpart hne [] (Shell.lines parts).toList).1 h
  have hlines : part.toList <:+: (Shell.lines parts).toList :=
    hinfix.resolve_left fun hnil => hne (List.infix_nil.1 hnil)
  have hcontains : Text.contains (Shell.lines parts) part = true :=
    (Text.occursIn_iff_infix _ _).2 hlines
  obtain ⟨s, hs, hoccurs⟩ := (Shell.contains_lines hpart hne parts).1 hcontains
  refine ⟨s, hs, ((Text.occursIn_iff_infix _ _).1 hoccurs).trans ⟨['\n'], ['\n'], by simp⟩⟩

/-- **There is no mark of stubs in a declaration**, if there is none in the name of the file. -/
theorem not_contains_declarationOf (hfile : isDeclarable file = true) (hslash : '/' ∉ file.toList)
    (hname : Text.contains file placeholder = false) {mark : String} (hmark : mark ∈ Shell.marks) :
    ¬ mark.toList <:+: (declarationOf file).toList := by
  have hstem := Path.stem_prefix hslash
  have hname : ¬ placeholder.toList <:+: file.toList := by
    rw [← Text.occursIn_iff_infix]
    exact Bool.eq_false_iff.1 hname
  -- either the mark is the placeholder, or it begins like a comment
  have hcases : ∀ mark ∈ Shell.marks, mark = placeholder ∨
      Text.occursIn commentStart.toList mark.toList = true := by decide +kernel
  intro h
  have h := h.trans (List.prefix_append _ ['\n']).isInfix
  rcases hcases mark hmark with rfl | hcomment
  · have hline : '\n' ∉ placeholder.toList := by decide
    have hne : placeholder.toList ≠ [] := by decide
    have hpath : '/' ∉ placeholder.toList := by decide
    rcases infix_name_of_infix_declarationOf (by decide +kernel)
      (infix_line_of_infix_lines hline hne) hfile h with h | h | h
    · rcases (Text.infix_append_cons_iff hline hne _ []).1 h with h | h
      · exact hname h
      · exact hne (List.infix_nil.1 h)
    · exact hname (h.trans hstem.isInfix)
    · rcases (Text.infix_append_cons_iff hpath hne [] _).1 h with h | h
      · exact hne (List.infix_nil.1 h)
      · exact hname h
  · have h := ((Text.occursIn_iff_infix _ _).1 hcomment).trans h
    have hslashes : ∀ {cs : List Char}, '/' ∉ cs → ¬ commentStart.toList <:+: cs := fun hcs h =>
      hcs (h.subset (by decide))
    rcases infix_name_of_infix_declarationOf (by decide +kernel)
      (infix_line_of_infix_lines (by decide) (by decide)) hfile h with h | h | h
    · exact hslashes (by simpa using hslash) h
    · exact hslashes (fun hmem => hslash (hstem.subset hmem)) h
    · rcases List.infix_cons_iff.1 h with ⟨rest, hrest⟩ | h
      · -- two slashes follow each other, so the second one is in the name
        have htail : ['/', ' ', 'T'] ++ rest = file.toList := (List.cons.inj hrest).2
        exact hslash (htail ▸ List.mem_cons_self)
      · exact hslashes hslash h

/-! ### Ends of blocks -/

theorem blockEnd_eq : blockEnd.toList = '\n' :: ("    \x7d".toList ++ ['\n']) := by decide

/-- A file that can be declared ends in a letter. -/
theorem exists_last_of_isDeclarable (h : isDeclarable file = true) :
    ∃ front c, file.toList = front ++ [c] ∧ c ∉ blockEnd.toList := by
  obtain ⟨ending, hending, hsuffix⟩ : ∃ ending ∈ [".css", ".js", ".mjs"],
      Text.endsWith (Text.lowerAscii file) ending = true := by
    by_contra hnone
    have hnot : ∀ ending ∈ [".css", ".js", ".mjs"],
        Text.endsWith (Text.lowerAscii file) ending = false := fun ending hmem =>
      Bool.eq_false_iff.2 fun hends => hnone ⟨ending, hmem, hends⟩
    have hother : isDeclarable file = false := by
      rw [isDeclarable, Assets.subdirectory, hnot _ (by simp), hnot _ (by simp), hnot _ (by simp)]
      decide
    rw [hother] at h
    exact absurd h (by decide)
  rw [Text.endsWith, List.isSuffixOf_iff_suffix, Text.lowerAscii, String.toList_ofList] at hsuffix
  have hlast : ∀ ending ∈ [".css", ".js", ".mjs"], ending.toList.getLast? = some 's' := by decide
  have hlower : (file.toList.map Char.toLower).getLast? = some 's' := by
    obtain ⟨front, hfront⟩ := hsuffix
    rw [← hfront, List.getLast?_append, hlast ending hending, Option.some_or]
  rw [List.getLast?_map, Option.map_eq_some_iff] at hlower
  obtain ⟨c, hc, hs⟩ := hlower
  obtain ⟨front, hfront⟩ := List.getLast?_eq_some_iff.1 hc
  have hletters : blockEnd.toList.all (fun d => d.toLower != 's') = true := by decide
  refine ⟨front, c, hfront, fun hmem => ?_⟩
  exact bne_iff_ne.1 (List.all_eq_true.1 hletters c hmem) hs

/-- **There is no end of a block in a declaration**, if there is none in the name of the file. -/
theorem not_blockEnd_declarationOf (hfile : isDeclarable file = true) (hslash : '/' ∉ file.toList)
    (hname : Text.contains file blockEnd = false) :
    ¬ blockEnd.toList <:+: (declarationOf file).toList ++ ['\n'] := by
  have hname : ¬ blockEnd.toList <:+: file.toList := by
    rw [← Text.occursIn_iff_infix]
    exact Bool.eq_false_iff.1 hname
  have hne : blockEnd.toList ≠ [] := by decide
  have hlines : ∀ parts, blockEnd.toList <:+: '\n' :: (Shell.lines parts).toList →
      ∃ s ∈ parts, blockEnd.toList <:+: '\n' :: (s.toList ++ ['\n']) := fun parts => by
    rw [blockEnd_eq]
    exact (Shell.infix_lines_iff (by decide) parts).1
  intro h
  rcases infix_name_of_infix_declarationOf (by decide +kernel) hlines hfile h with h | h | h
  · obtain ⟨front, c, hlast, hc⟩ := exists_last_of_isDeclarable hfile
    rw [hlast, List.append_assoc, List.singleton_append,
      Text.infix_append_cons_iff hc hne] at h
    rcases h with h | h
    · exact hname (hlast ▸ h.trans (List.prefix_append front [c]).isInfix)
    · exact absurd h.length_le (by decide)
  · exact hname (h.trans (Path.stem_prefix hslash).isInfix)
  · rcases (Text.infix_append_cons_iff (by decide) hne [] _).1 h with h | h
    · exact hne (List.infix_nil.1 h)
    · exact hname h

/-! ### Insertions -/

/-- **Whether a file is put into a text**: it can be declared, its handle does not stand there, and
there is a place for it. -/
def isInserted (content file : String) : Bool :=
  isDeclarable file && !isDeclared content (handle file) && Text.contains content blockEnd

/-- **A file that is put into a text** stands before the first end of a block. -/
theorem toList_declare (h : isInserted content file = true) :
    ∃ before after, Text.splitFirst? blockEnd.toList content.toList = some (before, after) ∧
      (declare file content).toList =
        before ++ ((declarationOf file).toList ++ (blockEnd.toList ++ after)) := by
  rw [isInserted, Bool.and_eq_true, Bool.and_eq_true, Bool.not_eq_true'] at h
  obtain ⟨⟨hfile, hnew⟩, hplace⟩ := h
  obtain ⟨before, after, hfound⟩ := Text.exists_splitFirst? ((Text.occursIn_iff_infix _ _).1 hplace)
  refine ⟨before, after, hfound, ?_⟩
  have hdeclare : declare file content =
      String.ofList before ++ declarationOf file ++ blockEnd ++ String.ofList after := by
    rw [declare, snippet?_eq_declarationOf hfile]
    dsimp only
    rw [hnew, if_neg (by simp), inject?, hfound]
    rfl
  rw [hdeclare]
  simp only [String.toList_append, String.toList_ofList, List.append_assoc]

/-- A file that is not put into a text leaves it as it is. -/
theorem declare_of_not_isInserted (h : isInserted content file = false) :
    declare file content = content := by
  by_cases hfile : isDeclarable file = true
  · rw [declare, snippet?_eq_declarationOf hfile]
    dsimp only
    split
    · rfl
    · next hnew =>
        have hnone : ¬ blockEnd.toList <:+: content.toList := by
          rw [← Text.occursIn_iff_infix]
          rw [isInserted, hfile, Bool.eq_false_iff.2 hnew] at h
          exact Bool.eq_false_iff.1 h
        cases hfound : Text.splitFirst? blockEnd.toList content.toList with
        | none =>
            rw [inject?, hfound]
            rfl
        | some found =>
            have htext : content.toList = found.1 ++ (blockEnd.toList ++ found.2) :=
              Text.eq_of_splitFirst? hfound
            exact absurd ⟨found.1, found.2, by rw [htext, List.append_assoc]⟩ hnone
  · rw [declare, snippet?_eq_none (Bool.eq_false_iff.2 hfile)]

/-- A file that changes a text is put into it. -/
theorem isInserted_of_declare_ne (h : declare file content ≠ content) :
    isInserted content file = true := by
  by_contra hnot
  exact h (declare_of_not_isInserted (Bool.eq_false_iff.2 hnot))

/-- A declaration begins with a line end. -/
theorem exists_cons_declarationOf (h : isDeclarable file = true) :
    ∃ cs, (declarationOf file).toList = '\n' :: cs := by
  have htext := toList_declarationOf h
  cases hcs : (declarationOf file).toList with
  | nil =>
      obtain ⟨kind, -, hlines⟩ := linesFor_eq h
      rw [hcs, hlines, declarationLines, List.append_assoc, List.cons_append,
        Shell.toList_lines_cons] at htext
      exact absurd htext (by simp)
  | cons c cs =>
      rw [hcs] at htext
      exact ⟨cs, by rw [(List.cons.inj htext).1]⟩

theorem isDeclarable_of_isInserted (h : isInserted content file = true) : isDeclarable file = true := by
  rw [isInserted, Bool.and_eq_true, Bool.and_eq_true] at h
  exact h.1.1

/-- Nothing is put into an empty text. -/
theorem declareAll_empty (names : List String) : declareAll names "" = "" := by
  induction names with
  | nil => rfl
  | cons file names ih =>
      have hplace : Text.contains "" blockEnd = false := by decide
      have hnot : isInserted "" file = false := by rw [isInserted, hplace, Bool.and_false]
      rw [declareAll_cons, declare_of_not_isInserted hnot, ih]

/-- **What stands before the first end of a block**, somewhere in it. -/
def StandsBefore (part : List Char) (content : String) : Prop :=
  ∃ before after, Text.splitFirst? blockEnd.toList content.toList = some (before, after) ∧
    part <:+: before

/-- The first end of a block in a text into which a file was put is behind all that stood before the
first end of a block. -/
theorem splitFirst?_declare (h : isInserted content file = true) {before after : List Char}
    (hfound : Text.splitFirst? blockEnd.toList content.toList = some (before, after)) :
    Text.splitFirst? blockEnd.toList (declare file content).toList =
      (Text.splitFirst? blockEnd.toList
        ((declarationOf file).toList ++ (blockEnd.toList ++ after))).map fun found =>
          (before ++ found.1, found.2) := by
  obtain ⟨before', after', hfound', htext⟩ := toList_declare h
  obtain ⟨rfl, rfl⟩ := Prod.mk.inj (Option.some.inj (hfound.symm.trans hfound'))
  obtain ⟨cs, hcs⟩ := exists_cons_declarationOf (isDeclarable_of_isInserted h)
  rw [blockEnd_eq] at hfound htext ⊢
  rw [htext, hcs]
  exact Shell.splitFirst?_append (by decide) (Text.not_infix_of_splitFirst? (by decide) hfound) _

/-- **What stands before the first end of a block** stays there when a file is put into the text. -/
theorem StandsBefore.declare {part : List Char} (h : StandsBefore part content) (file : String) :
    StandsBefore part (declare file content) := by
  obtain ⟨before, after, hfound, hpart⟩ := h
  cases hinserted : isInserted content file with
  | false =>
      rw [declare_of_not_isInserted hinserted]
      exact ⟨before, after, hfound, hpart⟩
  | true =>
      have hinfix : blockEnd.toList <:+: (declarationOf file).toList ++ (blockEnd.toList ++ after) :=
        ⟨(declarationOf file).toList, after, by rw [List.append_assoc]⟩
      obtain ⟨front, rest, hrest⟩ := Text.exists_splitFirst? hinfix
      refine ⟨before ++ front, rest, ?_, hpart.trans (List.prefix_append before front).isInfix⟩
      rw [splitFirst?_declare hinserted hfound, hrest]
      rfl

/-- **The declaration that was put into a text** stands before the first end of a block, if there is
none in the name of the file. -/
theorem standsBefore_declare (h : isInserted content file = true) (hslash : '/' ∉ file.toList)
    (hname : Text.contains file blockEnd = false) :
    StandsBefore (declarationOf file).toList (declare file content) := by
  obtain ⟨before, after, hfound, -⟩ := toList_declare h
  have hnone := not_blockEnd_declarationOf (isDeclarable_of_isInserted h) hslash hname
  have hfirst : Text.splitFirst? blockEnd.toList (blockEnd.toList ++ after) = some ([], after) := by
    rw [blockEnd_eq, List.cons_append, Text.splitFirst?, if_pos]
    · simp
    · rw [List.isPrefixOf_iff_prefix, ← List.cons_append]
      exact List.prefix_append _ after
  have hbehind : Text.splitFirst? blockEnd.toList
      ((declarationOf file).toList ++ (blockEnd.toList ++ after)) =
        some ((declarationOf file).toList ++ [], after) := by
    rw [blockEnd_eq] at hnone hfirst ⊢
    refine (Shell.splitFirst?_append (by decide) hnone ("    \x7d".toList ++ ['\n'] ++ after)).trans ?_
    exact congrArg (Option.map _) hfirst
  refine ⟨before ++ ((declarationOf file).toList ++ []), after, ?_, ?_⟩
  · rw [splitFirst?_declare h hfound, hbehind]
    rfl
  · rw [List.append_nil]
    exact (List.suffix_append before _).isInfix

theorem StandsBefore.infix {part : List Char} (h : StandsBefore part content) :
    part <:+: content.toList := by
  obtain ⟨before, after, hfound, hpart⟩ := h
  rw [Text.eq_of_splitFirst? hfound]
  exact hpart.trans (List.prefix_append before _).isInfix

/-! ### Any number of files -/

theorem StandsBefore.declareAll {part : List Char} (h : StandsBefore part content)
    (names : List String) : StandsBefore part (declareAll names content) := by
  induction names generalizing content with
  | nil => exact h
  | cons file names ih => exact ih (h.declare file)

/-- **The files of a list that are put into a text**, one after the other. -/
def inserted : List String → String → List String
  | [], _ => []
  | file :: rest, content =>
      if isInserted content file then file :: inserted rest (declare file content)
      else inserted rest content

/-- **The declarations that were put into a text** stand before the first end of a block. -/
theorem standsBefore_of_mem_inserted {names : List String} (hslash : ∀ g ∈ names, '/' ∉ g.toList)
    (h : file ∈ inserted names content) (hname : Text.contains file blockEnd = false) :
    StandsBefore (declarationOf file).toList (declareAll names content) := by
  induction names generalizing content with
  | nil => exact absurd h List.not_mem_nil
  | cons g names ih =>
      obtain ⟨hg, hslash⟩ := List.forall_mem_cons.1 hslash
      rw [inserted] at h
      rw [declareAll_cons]
      split at h
      · next hinserted =>
          rcases List.mem_cons.1 h with rfl | h
          · exact (standsBefore_declare hinserted hg hname).declareAll names
          · exact ih hslash h
      · next hnot =>
          rw [declare_of_not_isInserted (Bool.eq_false_iff.2 hnot)]
          exact ih hslash h

/-- A text is no stub after a file was put into it, if there is no mark of stubs in the name. -/
theorem isStub_declare (hstub : Workspace.isStub Shell.marks content = false)
    (hslash : '/' ∉ file.toList)
    (hname : isDeclarable file = true → Text.contains file placeholder = false) :
    Workspace.isStub Shell.marks (declare file content) = false := by
  cases hinserted : isInserted content file with
  | false => rwa [declare_of_not_isInserted hinserted]
  | true =>
      have hfile := isDeclarable_of_isInserted hinserted
      obtain ⟨before, after, hfound, htext⟩ := toList_declare hinserted
      have hold := Text.eq_of_splitFirst? hfound
      rw [Workspace.isStub, Bool.or_eq_false_iff] at hstub ⊢
      obtain ⟨hblank, hmarks⟩ := hstub
      constructor
      · -- all characters are still there
        rw [Text.isBlankText, List.all_eq_false] at hblank ⊢
        obtain ⟨c, hc, hnot⟩ := hblank
        refine ⟨c, ?_, hnot⟩
        rw [hold, List.mem_append] at hc
        rw [htext, List.mem_append, List.mem_append]
        exact hc.imp_right .inr
      · rw [List.any_eq_false] at hmarks ⊢
        intro mark hmark hin
        have hlines : ∀ mark ∈ Shell.marks, '\n' ∉ mark.toList ∧ mark.toList ≠ [] := by decide
        obtain ⟨hline, hne⟩ := hlines mark hmark
        have hnone : ¬ mark.toList <:+: content.toList := fun h =>
          hmarks mark hmark ((Text.occursIn_iff_infix _ _).2 h)
        obtain ⟨cs, hcs⟩ := exists_cons_declarationOf hfile
        have hdeclaration := not_contains_declarationOf hfile hslash (hname hfile) hmark
        have hin := (Text.occursIn_iff_infix _ _).1 hin
        rw [blockEnd_eq, List.cons_append] at hold htext
        rw [hold, Text.infix_append_cons_iff hline hne, not_or] at hnone
        rw [hcs] at hdeclaration
        -- a mark has no line end, so it is on one side of those around the declaration
        rw [htext, hcs, List.cons_append, Text.infix_append_cons_iff hline hne,
          Text.infix_append_cons_iff hline hne] at hin
        rcases hin with hin | hin | hin
        · exact hnone.1 hin
        · exact hdeclaration (hin.trans (List.suffix_cons _ cs).isInfix)
        · exact hnone.2 hin

theorem isStub_declareAll {names : List String}
    (hstub : Workspace.isStub Shell.marks content = false) (hslash : ∀ g ∈ names, '/' ∉ g.toList)
    (hnames : ∀ g ∈ names, isDeclarable g = true → Text.contains g placeholder = false) :
    Workspace.isStub Shell.marks (declareAll names content) = false := by
  induction names generalizing content with
  | nil => exact hstub
  | cons g names ih =>
      obtain ⟨hg, hslash⟩ := List.forall_mem_cons.1 hslash
      obtain ⟨hname, hnames⟩ := List.forall_mem_cons.1 hnames
      exact ih (isStub_declare hstub hg hname) hslash hnames

end Enqueue

end ThemeCompiler
