/-
**Assets of a theme.**

The files that a page refers to are copied into the theme.  Style sheets and scripts are declared
as well, at the end of the first block of the file that declares those of the theme, unless their
handle stands there already.

Main definitions:

* `ThemeCompiler.Enqueue.snippet?` — the declaration of a style sheet or a script;
* `ThemeCompiler.Enqueue.inject?` — a declaration at its place;
* `ThemeCompiler.Workspace.registerAssets` — makes assets part of the theme of a project.
-/

import ThemeCompiler.Theme.Workspace

set_option relaxedAutoImplicit false
set_option autoImplicit false

namespace ThemeCompiler

namespace Enqueue

/-! ### Declarations -/

/-- A declaration: what is declared, by which function, and the lines before its end. -/
def declaration (what function handle url : String) (tail : List String) : String :=
  "\n        // Auto-enqueued " ++ what ++ "\n"
    ++ "        " ++ function ++ "(\n"
    ++ "            '" ++ handle ++ "',\n"
    ++ "            get_template_directory_uri() . '" ++ url ++ "',\n"
    ++ "            array(),\n"
    ++ String.join (tail.map fun line => "            " ++ line ++ "\n")
    ++ "        );\n"

/-- **The declaration of a file under a handle**, if files of its directory are declared. -/
def snippet? (handle file subdirectory : String) : Option String :=
  if subdirectory == "css/" then
    some (declaration ("style: " ++ file) "wp_enqueue_style" handle ("/assets/css/" ++ file)
      ["wp_get_theme()->get('Version')"])
  else if subdirectory == "js/" then
    some (declaration ("script: " ++ file) "wp_enqueue_script" handle ("/assets/js/" ++ file)
      ["wp_get_theme()->get('Version'),", "true"])
  else none

/-- The end of a block of declarations. -/
def blockEnd : String := "\n    \x7d\n"

/-- **A text with a declaration at the end of its first block**, if it has one. -/
def inject? (content snippet : String) : Option String :=
  (Text.splitFirst? blockEnd.toList content.toList).map fun (before, after) =>
    String.ofList before ++ snippet ++ blockEnd ++ String.ofList after

/-- The handle of a file. -/
def handle (file : String) : String := "press-stack-" ++ (Path.stem? file).getD file

/-- Whether a handle stands in a text. -/
def isDeclared (content handle : String) : Bool := Text.contains content ("'" ++ handle ++ "'")

/-- **A text in which a file is declared**: unchanged if the file is not declared at all, if its
handle stands there, or if there is no place for it. -/
def declare (file content : String) : String :=
  match snippet? (handle file) file (Assets.subdirectory file) with
  | none => content
  | some snippet =>
      if isDeclared content (handle file) then content
      else (inject? content snippet).getD content

end Enqueue

namespace Workspace

/-! ### Files -/

/-- A directory without the slashes at its end. -/
def dropSlashes (s : String) : String :=
  String.ofList (s.toList.reverse.dropWhile (· == '/')).reverse

/-- **The source of an asset**: its path without query, fragment and slashes at its beginning, in
the directory of sources. -/
def sourcePath (w : Workspace) (asset : String) : String :=
  Path.join w.sourceRoot
    (String.ofList ((Assets.withoutQuery asset.toList).dropWhile fun c => c == '/' || c == '\\'))

/-- The file that declares the style sheets and the scripts of a theme. -/
def enqueuePath (theme : String) : String := Path.join (Path.join theme "inc") "enqueue.php"

/-- The directory of a theme for a file. -/
def assetDir (theme file : String) : String :=
  Path.join (Path.join theme "assets") (dropSlashes (Assets.subdirectory file))

section

variable {m : Type → Type} [Monad m] [FileStore m]

/-- Copies an asset into a theme, unless a file is there already or the asset is not. -/
def copyAsset (w : Workspace) (theme asset file : String) : Action m Unit := do
  let target := Path.join (assetDir theme file) file
  attempt (FileStore.makeDirs (assetDir theme file))
  if ← isThere (w.sourcePath asset) then
    if !(← isThere target) then attempt (FileStore.copyFile (w.sourcePath asset) target)

/-- Copies assets into a theme, and declares them in a text. -/
def placeAssets (w : Workspace) (theme : String) : List String → String → Action m String
  | [], content => return content
  | asset :: rest, content => do
      let file := Assets.fileName asset
      if file.isEmpty then placeAssets w theme rest content
      else do
        copyAsset w theme asset file
        placeAssets w theme rest (Enqueue.declare file content)

/-- **Makes assets part of the theme of a project.** -/
def registerAssets (w : Workspace) (project : String) (assets : List String) : Action m Unit := do
  if assets.isEmpty then return ()
  let theme ← MonadExcept.ofExcept (w.themeDir project)
  let path := enqueuePath theme
  let old ← if ← isThere path then attempt (FileStore.readText path) else pure ""
  let new ← placeAssets w theme assets old
  if new != old then attempt (FileStore.writeText path new)

end

end Workspace

end ThemeCompiler
