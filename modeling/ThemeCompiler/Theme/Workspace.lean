/-
**Workspaces of themes.**

Every project has its theme below a common directory.  A file that somebody has edited is never
overwritten: a file is written only when it is not there, blank, or still carries one of the marks
of a stub.

Main definitions:

* `ThemeCompiler.Workspace` — the directories of projects and of sources;
* `ThemeCompiler.Workspace.themeDir` — the theme of a project;
* `ThemeCompiler.Workspace.isReplaceable` — whether a file may be written;
* `ThemeCompiler.Workspace.putFile` — a file with the directories around it.
-/

import ThemeCompiler.Compilation
import ThemeCompiler.Files.Path
import ThemeCompiler.Files.Store

set_option relaxedAutoImplicit false
set_option autoImplicit false

namespace ThemeCompiler

/-- **A workspace**: the directory of the projects, and the one in which the paths of assets
start. -/
structure Workspace where
  projectsDir : String
  sourceRoot : String
  deriving DecidableEq, Repr

namespace Workspace

/-- Whether a key would lead out of the directory of the projects. -/
def escapes (key : String) : Bool :=
  key.isEmpty || key == "." || key.toList.any (fun c => c == '/' || c == '\\')
    || Text.contains key ".."

/-- **The theme of a project**, unless its key is no name of a directory. -/
def themeDir (w : Workspace) (project : String) : Except CompileError String :=
  let key := Text.trim project
  if escapes key then .error (.input (.projectKey project))
  else .ok (Path.join (Path.join w.projectsDir key) "theme")

/-- Whether a text may be replaced: it is blank or carries a mark. -/
def isStub (marks : List String) (content : String) : Bool :=
  Text.isBlankText content || marks.any (Text.contains content)

section

variable {m : Type → Type} [Monad m] [FileStore m]

/-- A file operation as an action. -/
def attempt {α : Type} (operation : m (Except FileFault α)) : Action m α :=
  FileStore.orThrow .file operation

/-- Whether there is a file or a directory at a path. -/
def isThere (path : String) : Action m Bool := ExceptT.lift (FileStore.isThere path)

/-- **Whether the file at a path may be written.** -/
def isReplaceable (path : String) (marks : List String) : Action m Bool := do
  if ← isThere path then return isStub marks (← attempt (FileStore.readText path))
  else return true

/-- **Puts a text into a file**, with the directories around it. -/
def putFile (path content : String) : Action m Unit := do
  if let some parent := Path.parent? path then attempt (FileStore.makeDirs parent)
  attempt (FileStore.writeText path content)

/-- Puts a text into a file that may be written. -/
def putStub (path content : String) (marks : List String) : Action m Unit := do
  if ← isReplaceable path marks then putFile path content

end

end Workspace

end ThemeCompiler
