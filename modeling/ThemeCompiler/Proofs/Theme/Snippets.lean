/-
**Declarations as code.**

The declaration of a file is meant to be a comment and the call of a function.  The name of the file
stands in it as it is: in the comment, in the literal of the handle and in that of the path.  File
names have no backslash and no question mark, so there is nothing else that could end a comment or a
literal but the end of a line and an apostrophe; and each of them does.

Main definitions:

* `ThemeCompiler.Enqueue.declarationTokens`, `ThemeCompiler.Enqueue.tokensFor` — the tokens that a
  declaration is meant to have.

Main results:

* `ThemeCompiler.Enqueue.tokens?_declaration_iff` — when a declaration has them;
* `ThemeCompiler.Enqueue.tokens?_snippet_iff` — **when the declaration of a file is the call that is
  meant**.
-/

import ThemeCompiler.Proofs.Assets.FileNames
import ThemeCompiler.Proofs.Text.Code
import ThemeCompiler.Proofs.Theme.Enqueue

set_option relaxedAutoImplicit false
set_option autoImplicit false

namespace ThemeCompiler

namespace Enqueue

open Code (Token Mode scan read tokens? call arguments)

/-! ### What a declaration is meant to be -/

/-- **The tokens that a declaration is meant to have**: a comment, and the call of a function with
the handle and the path of a file as arguments. -/
def declarationTokens (what function handle url : String) (tail : List (List Token)) : List Token :=
  .comment (" Auto-enqueued " ++ what).toList ::
    (call function ([.literal handle.toList] ::
      (call "get_template_directory_uri" [] ++ [.sign '.', .literal url.toList]) ::
        call "array" [] :: tail) ++ [.sign ';'])

/-- The tokens of the version of the theme. -/
def versionTokens : List Token :=
  call "wp_get_theme" [] ++ [.sign '-', .sign '>'] ++ call "get" [[.literal "Version".toList]]

/-- **The tokens that the declaration of a file is meant to have.** -/
def tokensFor (file : String) : List Token :=
  if Assets.subdirectory file = "css/" then
    declarationTokens ("style: " ++ file) "wp_enqueue_style" (handle file) (url file) [versionTokens]
  else
    declarationTokens ("script: " ++ file) "wp_enqueue_script" (handle file) (url file)
      [versionTokens, [.word "true".toList]]

/-! ### What a declaration is -/

/-- What stands behind the path in a declaration. -/
def behindUrl (tail : List String) : String :=
  ",\n            array(),\n" ++ String.join (tail.map fun line => "            " ++ line ++ "\n")
    ++ "        );\n"

/-- **A declaration**, cut where free text stands in it. -/
theorem toList_declaration (label file function handle url : String) (tail : List String) :
    (declaration (label ++ file) function handle url tail).toList =
      ("\n        // Auto-enqueued " ++ label).toList ++ (file.toList ++ '\n' ::
        (("        " ++ function ++ "(\n            '").toList ++ (handle.toList ++ '\'' ::
          (",\n            get_template_directory_uri() . '".toList ++ (url.toList ++ '\'' ::
            (behindUrl tail).toList))))) := by
  have hopen : "(\n            '" = "(\n" ++ "            '" := by decide
  have hhandle : "',\n".toList = '\'' :: ",\n".toList := by decide
  have hurl : ",\n            get_template_directory_uri() . '" =
      ",\n" ++ "            get_template_directory_uri() . '" := by decide
  have harray : ",\n            array(),\n" = ",\n" ++ "            array(),\n" := by decide
  have hline : "\n".toList = ['\n'] := by decide
  delta declaration behindUrl
  rw [hopen, hurl, harray]
  simp only [String.toList_append, hhandle, hline, List.append_assoc, List.cons_append,
    List.nil_append]

section

variable {label function handle url file : String} {tail : List String}
  {tailTokens : List (List Token)}

/-- **When a declaration has the tokens that it is meant to have**: no line ends in what is put into
the comment, and there is no apostrophe in what is put into the literals. -/
theorem tokens?_declaration_iff
    (hlabel : scan .between ("\n        // Auto-enqueued " ++ label).toList =
      some ([], .comment (" Auto-enqueued " ++ label).toList.reverse))
    (hfunction : scan .between ("        " ++ function ++ "(\n            '").toList =
      some ([.word function.toList, .sign '('], .literal []))
    (htail : read .between (behindUrl tail).toList =
      some (.sign ',' :: (arguments (call "array" [] :: tailTokens) ++ [.sign ')', .sign ';'])))
    (hmark : '?' ∉ file.toList) (hhandle : '\\' ∉ handle.toList) (hurl : '\\' ∉ url.toList) :
    tokens? (declaration (label ++ file) function handle url tail).toList =
        some (declarationTokens (label ++ file) function handle url tailTokens) ↔
      (∀ c ∈ file.toList, Code.isLineEnd c = false) ∧ '\'' ∉ handle.toList ∧ '\'' ∉ url.toList := by
  have hbetween : scan .between ",\n            get_template_directory_uri() . '".toList =
      some ([.sign ',', .word "get_template_directory_uri".toList, .sign '(', .sign ')', .sign '.'],
        .literal []) := by decide
  have htokens : declarationTokens (label ++ file) function handle url tailTokens =
      .comment ((" Auto-enqueued " ++ label).toList ++ file.toList) ::
        ([.word function.toList, .sign '('] ++ .literal handle.toList ::
          ([.sign ',', .word "get_template_directory_uri".toList, .sign '(', .sign ')', .sign '.'] ++
            .literal url.toList ::
              .sign ',' :: (arguments (call "array" [] :: tailTokens) ++ [.sign ')', .sign ';'])))
      := by
    simp [declarationTokens, call, arguments, String.toList_append]
  have hcomment : ∀ {after : List Char} {rest : List Token},
      read (.comment (" Auto-enqueued " ++ label).toList.reverse) (file.toList ++ '\n' :: after) =
          some (.comment ((" Auto-enqueued " ++ label).toList ++ file.toList) :: rest) ↔
        (∀ c ∈ file.toList, Code.isLineEnd c = false) ∧ read .between after = some rest := by
    intro after rest
    rw [← Code.read_comment_iff hmark, List.reverse_reverse]
  rw [tokens?, toList_declaration, htokens, Code.read_append_nil hlabel, hcomment,
    Code.read_append_iff hfunction, Code.read_literal_iff hhandle, Code.read_append_iff hbetween,
    Code.read_literal_iff hurl, htail]
  simp

end

/-! ### The names of files -/

/-- **What ends a comment or a literal too early** does so in the name of the file. -/
theorem plain_iff (file : String) :
    ((∀ c ∈ file.toList, Code.isLineEnd c = false) ∧ '\'' ∉ (handle file).toList ∧
      '\'' ∉ (url file).toList) ↔ ∀ c ∈ file.toList, c ≠ '\'' ∧ c ≠ '\n' ∧ c ≠ '\r' := by
  have hline : ∀ c, Code.isLineEnd c = false ↔ c ≠ '\n' ∧ c ≠ '\r' := by
    intro c
    simp [Code.isLineEnd]
  constructor
  · rintro ⟨hlines, -, hurl⟩ c hc
    refine ⟨?_, (hline c).1 (hlines c hc)⟩
    rintro rfl
    rw [url, String.toList_append, List.mem_append, not_or] at hurl
    exact hurl.2 hc
  · intro h
    have hplain : PlainName file := ⟨fun hc => (h _ hc).2.1 rfl, fun hc => (h _ hc).1 rfl⟩
    exact ⟨fun c hc => (hline c).2 (h c hc).2, quote_notMem_handle hplain, quote_notMem_url hplain⟩

/-- **When the declaration of a file is the call that is meant**: the declaration of the file that a
path leads to is a comment and one call, with a literal for the handle and one for the path of the
file, exactly if the name of the file has no apostrophe and no line end. -/
theorem tokens?_snippet_iff (path : String) (hfile : isDeclarable (Assets.fileName path) = true) :
    ∃ snippet, snippet? (handle (Assets.fileName path)) (Assets.fileName path)
        (Assets.subdirectory (Assets.fileName path)) = some snippet ∧
      (tokens? snippet.toList = some (tokensFor (Assets.fileName path)) ↔
        ∀ c ∈ (Assets.fileName path).toList, c ≠ '\'' ∧ c ≠ '\n' ∧ c ≠ '\r') := by
  have hmark : '?' ∉ (Assets.fileName path).toList := fun h => (Assets.mem_fileName h).2.2.2.1 rfl
  have hslash : '\\' ∉ (Assets.fileName path).toList := fun h => (Assets.mem_fileName h).2.2.1 rfl
  generalize Assets.fileName path = file at *
  have hcss : "/assets/" ++ "css/" = "/assets/css/" := by decide
  have hjs : "/assets/" ++ "js/" = "/assets/js/" := by decide
  rw [← plain_iff file]
  rw [isDeclarable, Bool.or_eq_true, beq_iff_eq, beq_iff_eq] at hfile
  rcases hfile with h | h
  · refine ⟨_, by rw [h]; rfl, ?_⟩
    rw [tokensFor, if_pos h, ← hcss, ← h, ← url]
    exact tokens?_declaration_iff (by decide) (by decide) (by decide +kernel) hmark
      (notMem_handle (by decide) hslash) (notMem_url (by decide) hslash)
  · refine ⟨_, by rw [h]; rfl, ?_⟩
    rw [tokensFor, if_neg (by rw [h]; decide), ← hjs, ← h, ← url]
    exact tokens?_declaration_iff (by decide) (by decide) (by decide +kernel) hmark
      (notMem_handle (by decide) hslash) (notMem_url (by decide) hslash)

/-- A style sheet whose declaration is the call that is meant, and one with an apostrophe in its name,
whose declaration is not. -/
theorem tokens?_snippet_sheets :
    (isDeclarable (Assets.fileName "/css/main.css?v=2") = true ∧
      ∃ snippet, snippet? "press-stack-main" "main.css" "css/" = some snippet ∧
        tokens? snippet.toList = some (tokensFor "main.css")) ∧
    (isDeclarable (Assets.fileName "/css/it's.css?v=2") = true ∧
      ∃ snippet, snippet? "press-stack-it's" "it's.css" "css/" = some snippet ∧
        tokens? snippet.toList ≠ some (tokensFor "it's.css")) := by
  have hmain : Assets.fileName "/css/main.css?v=2" = "main.css" ∧ handle "main.css" =
      "press-stack-main" ∧ Assets.subdirectory "main.css" = "css/" := by decide +kernel
  have hits : Assets.fileName "/css/it's.css?v=2" = "it's.css" ∧ handle "it's.css" =
      "press-stack-it's" ∧ Assets.subdirectory "it's.css" = "css/" := by decide +kernel
  refine ⟨⟨by decide +kernel, ?_⟩, by decide +kernel, ?_⟩
  · obtain ⟨snippet, hsnippet, hiff⟩ := tokens?_snippet_iff "/css/main.css?v=2" (by decide +kernel)
    rw [hmain.1] at hsnippet hiff
    rw [hmain.2.1, hmain.2.2] at hsnippet
    obtain ⟨hquote, hfeed, hreturn⟩ : '\'' ∉ "main.css".toList ∧ '\n' ∉ "main.css".toList ∧
        '\r' ∉ "main.css".toList := by decide
    refine ⟨snippet, hsnippet, hiff.2 fun c hc => ⟨?_, ?_, ?_⟩⟩
    · exact fun h => hquote (h ▸ hc)
    · exact fun h => hfeed (h ▸ hc)
    · exact fun h => hreturn (h ▸ hc)
  · obtain ⟨snippet, hsnippet, hiff⟩ := tokens?_snippet_iff "/css/it's.css?v=2" (by decide +kernel)
    rw [hits.1] at hsnippet hiff
    rw [hits.2.1, hits.2.2] at hsnippet
    exact ⟨snippet, hsnippet, fun h => (hiff.1 h '\'' (by decide)).1 rfl⟩

end Enqueue

end ThemeCompiler
