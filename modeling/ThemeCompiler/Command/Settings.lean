/-
**Settings of a command.**

Main definitions:

* `ThemeCompiler.Command.projectsDir` — the directory of the projects;
* `ThemeCompiler.Command.loadConfig` — the settings in a file;
* `ThemeCompiler.ConfigFault` — why they are not loaded.
-/

import ThemeCompiler.Files.Store
import ThemeCompiler.Text.Blank
import ThemeCompiler.Wire.Settings

set_option relaxedAutoImplicit false
set_option autoImplicit false

namespace ThemeCompiler

/-- **Why settings are not loaded**: their file is not read, or it holds none. -/
inductive ConfigFault where
  | unread (path : String) (fault : FileFault)
  | invalid (path : String) (problem : Json.Problem)
  deriving DecidableEq, Repr

namespace ConfigFault

/-- The wording of the failure. -/
def message : ConfigFault → String
  | unread path _ => "Cannot read config " ++ path
  | invalid path _ => "Invalid config " ++ path

/-- The cause of the failure. -/
def cause : ConfigFault → String
  | unread _ fault => fault.message
  | invalid _ .malformed => "The text is not JSON"
  | invalid _ .tooShort => "The text ends too early"
  | invalid _ .shape => "The text holds no settings"

end ConfigFault

namespace Command

/-- The variable of the environment that names the directory of the projects. -/
def projectsVariable : String := "PRESS_STACK_PROJECTS"

/-- **The directory of the projects**: the one that is asked for, the one that the environment
names, or the usual one. -/
def projectsDir (explicit environment : Option String) : String :=
  match explicit, environment with
  | some path, _ => path
  | none, some path => if Text.isBlankText path then "projects" else path
  | none, none => "projects"

/-- **The settings in a file**, or the usual ones without a file. -/
def loadConfig {m : Type → Type} [Monad m] [FileStore m] :
    Option String → ExceptT ConfigFault m Config
  | none => return Config.default
  | some path => do
      let source ← FileStore.orThrow (.unread path) (FileStore.readText path)
      match Json.decode Config.decoder source with
      | .ok config => return config
      | .error problem => throw (.invalid path problem)

end Command

end ThemeCompiler
