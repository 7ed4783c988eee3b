/-
**Running a command.**

Main definitions:

* `ThemeCompiler.CommandError` — why a command fails;
* `ThemeCompiler.Command.compilePage`, `ThemeCompiler.Command.makeTheme` — the commands;
* `ThemeCompiler.Command.Outcome`, `ThemeCompiler.Command.run` — what a command leaves besides
  files.
-/

import ThemeCompiler.Command.Arguments
import ThemeCompiler.Command.Settings
import ThemeCompiler.Theme.Artifacts
import ThemeCompiler.Theme.Frame

set_option relaxedAutoImplicit false
set_option autoImplicit false

namespace ThemeCompiler

/-! ### Failures -/

/-- **Why a command fails.** -/
inductive CommandError where
  | unreadPage (path : String) (fault : FileFault)
  | emptyPage (path : String)
  | config (fault : ConfigFault)
  | compile (error : CompileError)
  | artifact (fault : ArtifactFault)
  deriving DecidableEq, Repr

namespace CommandError

/-- The wording of a failure. -/
def message : CommandError → String
  | unreadPage path _ => "reading " ++ path
  | emptyPage path => path ++ " is empty"
  | config fault => fault.message
  | compile error => error.message
  | artifact fault => fault.message

/-- The cause of a failure, if it has one. -/
def cause? : CommandError → Option String
  | unreadPage _ fault => some fault.message
  | emptyPage _ => none
  | config fault => some fault.cause
  | compile error => error.cause?
  | artifact (.directory _ fault) => some fault.message
  | artifact (.file _ fault) => some fault.message

/-- **The report of a failure**: its wording, and its cause on lines of its own. -/
def report (e : CommandError) : String :=
  "Error: " ++ e.message ++ "\n"
    ++ (e.cause?.map fun cause => "\nCaused by:\n    " ++ cause ++ "\n").getD ""

end CommandError

namespace Command

/-! ### Texts -/

/-- The name of the template for a page without a name. -/
def defaultName (input : String) : String :=
  match Path.stem? input with
  | some stem => String.ofList (stem.toList.map fun c => if c == '-' || c == '_' then ' ' else c)
  | none => "Untitled"

/-- A text with blanks behind it, up to a width. -/
def padRight (width : Nat) (s : String) : String :=
  s ++ String.ofList (List.replicate (width - s.length) ' ')

/-- A text with blanks before it, up to a width. -/
def padLeft (width : Nat) (s : String) : String :=
  String.ofList (List.replicate (width - s.length) ' ') ++ s

/-- The line about an artifact. -/
def artifactLine (a : Artifact) : String :=
  "  " ++ padRight 48 a.path ++ " " ++ padLeft 8 (toString a.size) ++ " bytes\n"

/-- **What is printed about written artifacts.** -/
def summary (request : CompileRequest) (theme : String) (written : List Artifact)
    (reports : Reports) : String :=
  "Compiled '" ++ request.templateName ++ "' into " ++ theme ++ "\n"
    ++ String.join (written.map artifactLine)
    ++ "  SEO " ++ toString reports.seo.initialScore
    ++ " -> " ++ toString reports.seo.optimizedScore
    ++ ", accessibility " ++ toString reports.accessibility.initialScore
    ++ " -> " ++ toString reports.accessibility.optimizedScore ++ "\n"

/-! ### The commands -/

/-- The request for a page. -/
def requestFor (options : CompileOptions) (html : String) (kind : TemplateKind) :
    CompileRequest :=
  let request := CompileRequest.new html (options.name.getD (defaultName options.input)) kind
  { request with
    templateSlug := (options.slug.map Naming.fileSlug).getD request.templateSlug
    projectKey := options.project }

/-- The workspace for a page: its assets lie beside it. -/
def workspaceFor (options : CompileOptions) (environment : Option String) : Workspace :=
  ⟨projectsDir options.projectsDir environment, (Path.parent? options.input).getD "."⟩

/-- The directory for the artifacts of a page: the one that is asked for, or the theme of its
project. -/
def artifactDir (options : CompileOptions) (w : Workspace) : Except CompileError (Option String) :=
  match options.out, options.project with
  | some out, _ => .ok (some out)
  | none, some project => (w.themeDir project).map some
  | none, none => .ok none

section

variable {m : Type → Type} [Monad m] [FileStore m]

/-- An action whose error is one of a command. -/
def wrap {ε α : Type} (f : ε → CommandError) (action : ExceptT ε m α) : ExceptT CommandError m α :=
  action.adapt f

/-- A result that may be an error of a compilation. -/
def orFail {α : Type} (result : Except CompileError α) : ExceptT CommandError m α :=
  ExceptT.mk (pure (result.mapError .compile))

/-- The page in a file. -/
def readPage (path : String) : ExceptT CommandError m String := do
  let html ← FileStore.orThrow (.unreadPage path) (FileStore.readText path)
  if Text.isBlankText html then throw (.emptyPage path) else return html

/-- **Compiles a page**, and tells what is printed. -/
def compilePage (options : CompileOptions) (environment : Option String) :
    ExceptT CommandError m String := do
  let html ← readPage options.input
  let kind ← orFail ((TemplateKind.ofWord options.kind).mapError .input)
  let config ← wrap .config (loadConfig options.config)
  let request := requestFor options html kind
  let w := workspaceFor options environment
  let theme ← orFail (artifactDir options w)
  let collaborators := if options.project.isSome then w.collaborators else .none
  let result ← wrap .compile (Compilation.compile collaborators config request)
  match theme with
  | some dir =>
      let written ← wrap .artifact (Artifacts.write dir request result)
      return summary request dir written result.reports
  | none => return Json.pretty result.toJson ++ "\n"

/-- **Makes the theme of a project**, and tells what is printed. -/
def makeTheme (project : String) (projects environment : Option String) :
    ExceptT CommandError m String := do
  let w : Workspace := ⟨projectsDir projects environment, "."⟩
  wrap .compile (w.ensureShell project)
  let theme ← orFail (w.themeDir project)
  return "Theme shell ready: " ++ theme ++ "\n"

/-! ### Outcomes -/

/-- **What a command leaves besides files.** -/
structure Outcome where
  exit : Nat
  stdout : String
  stderr : String
  deriving DecidableEq, Repr

/-- How the command is used. -/
def usage : String :=
  "Usage: press-stack [--log-level LEVEL] COMMAND\n\nCommands:\n"
    ++ "  compile INPUT [--name NAME] [--slug SLUG] [--kind KIND] [--project KEY]\n"
    ++ "          [--projects-dir DIR] [--out DIR] [--config FILE]\n"
    ++ "  init PROJECT [--projects-dir DIR]\n"
    ++ "  completions SHELL\n"

/-- The outcome without a command. -/
def Stop.outcome : Stop → Outcome
  | help => ⟨0, usage, ""⟩
  | version => ⟨0, "press-stack\n", ""⟩
  | misuse => ⟨2, "", usage⟩

/-- What a command does, and what it prints. -/
def perform (environment : Option String) : Command → ExceptT CommandError m String
  | .compile options => compilePage options environment
  | .init project projects => makeTheme project projects environment
  | .completions _ => return ""

/-- The outcome of what was done. -/
def Outcome.of : Except CommandError String → Outcome
  | .ok text => ⟨0, text, ""⟩
  | .error e => ⟨1, "", e.report⟩

/-- **Runs the command that arguments ask for**; `environment` is the directory of the projects
that the environment names. -/
def run (args : List String) (environment : Option String) : m Outcome :=
  match parse args with
  | .error stop => return stop.outcome
  | .ok command => do return .of (← (perform environment command).run)

end

end Command

end ThemeCompiler
