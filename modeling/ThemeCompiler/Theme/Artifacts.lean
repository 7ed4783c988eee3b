/-
**Artifacts of a compilation.**

The template, its field group, the source of the page and a report are written into the directory
of a theme.

Main definitions:

* `ThemeCompiler.Artifacts.all` — the files, with their contents;
* `ThemeCompiler.Artifacts.write` — writes them;
* `ThemeCompiler.ArtifactFault` — why that fails.
-/

import ThemeCompiler.Files.Path
import ThemeCompiler.Files.Store
import ThemeCompiler.Json.Printer
import ThemeCompiler.Wire.Result

set_option relaxedAutoImplicit false
set_option autoImplicit false

namespace ThemeCompiler

/-- **Why an artifact is not written**: its directory, or the file itself, cannot be made. -/
inductive ArtifactFault where
  | directory (path : String) (fault : FileFault)
  | file (path : String) (fault : FileFault)
  deriving DecidableEq, Repr

/-- The wording of the failure. -/
def ArtifactFault.message : ArtifactFault → String
  | directory path _ => "creating " ++ path
  | file path _ => "writing " ++ path

/-- **An artifact**: a file of a theme. -/
structure Artifact where
  path : String
  content : String
  deriving DecidableEq, Repr

/-- The size of an artifact in bytes. -/
def Artifact.size (a : Artifact) : Nat := a.content.utf8ByteSize

namespace Artifacts

/-- The report of a compilation: all that is no file of the theme. -/
def report (request : CompileRequest) (result : CompilationResult) : Json :=
  .object
    [("templateName", .string request.templateName), ("templateSlug", .string request.templateSlug),
     ("model", Field.listToJson result.model), ("schema", result.schema.toJson),
     ("reports", result.reports.toJson),
     ("assetDependencies", Json.names result.assetDependencies),
     ("headerExtracted", .bool result.headerExtracted),
     ("footerExtracted", .bool result.footerExtracted)]

/-- **The artifacts of a compilation**, in the order in which they are written. -/
def all (request : CompileRequest) (result : CompilationResult) : List Artifact :=
  let slug := request.templateSlug
  [⟨request.kind.fileFor slug, result.php⟩,
   ⟨"inc/acf-json/acf-" ++ slug ++ ".json", Json.pretty result.group.toJson⟩,
   ⟨"inc/source-html/source-" ++ slug ++ ".html", request.html⟩,
   ⟨"inc/reports/report-" ++ slug ++ ".json", Json.pretty (report request result)⟩]

section

variable {m : Type → Type} [Monad m] [FileStore m]

/-- Writes an artifact into the directory of a theme. -/
def writeOne (theme : String) (artifact : Artifact) : ExceptT ArtifactFault m Unit := do
  let path := Path.join theme artifact.path
  if let some parent := Path.parent? path then
    FileStore.orThrow (.directory parent) (FileStore.makeDirs parent)
  FileStore.orThrow (.file path) (FileStore.writeText path artifact.content)

/-- Writes artifacts into the directory of a theme. -/
def writeEach (theme : String) : List Artifact → ExceptT ArtifactFault m Unit
  | [] => return ()
  | artifact :: rest => do
      writeOne theme artifact
      writeEach theme rest

/-- **Writes the artifacts of a compilation** into the directory of a theme. -/
def write (theme : String) (request : CompileRequest) (result : CompilationResult) :
    ExceptT ArtifactFault m (List Artifact) := do
  writeEach theme (all request result)
  return all request result

end

end Artifacts

end ThemeCompiler
