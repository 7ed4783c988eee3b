/-
**Failures of a compilation.**

Main definitions:

* `ThemeCompiler.InputFault` — what is wrong with a request;
* `ThemeCompiler.CompileError` — why a compilation fails, with its code and its wording.
-/

import ThemeCompiler.Files.Store
import ThemeCompiler.Template.Kind
import ThemeCompiler.Validation

set_option relaxedAutoImplicit false
set_option autoImplicit false

namespace ThemeCompiler

/-- **What is wrong with a request.** -/
inductive InputFault where
  | unknownKind (word : String)
  | projectKey (key : String)
  deriving DecidableEq, Repr

/-- The wording of an input fault. -/
def InputFault.message : InputFault → String
  | unknownKind word => "unknown template kind: " ++ word
  | projectKey key => "invalid project key '" ++ key ++ "'"

/-- **Why a compilation fails.** -/
inductive CompileError where
  /-- The compiled page breaks a rule. -/
  | validation (violation : Violation)
  /-- A collaborator refuses. -/
  | collaborator (reason : String)
  /-- A file operation fails. -/
  | file (fault : FileFault)
  /-- The request makes no sense. -/
  | input (fault : InputFault)
  deriving DecidableEq, Repr

namespace CompileError

/-- The code of a failure. -/
def code : CompileError → String
  | validation _ => "COMPILER_FATAL"
  | collaborator _ | file _ => "COLLABORATOR_FAILURE"
  | input _ => "INVALID_INPUT"

/-- What a failure says behind its code. -/
def detail : CompileError → String
  | validation violation => violation.message
  | collaborator reason => reason
  | file _ => "IO error"
  | input fault => fault.message

/-- **The wording of a failure**, which starts with its code. -/
def message (e : CompileError) : String := e.code ++ ": " ++ e.detail

/-- The cause of a failure, if it has one. -/
def cause? : CompileError → Option String
  | file fault => some fault.message
  | _ => none

end CompileError

/-- **The template kind that a word asks for.** -/
def TemplateKind.ofWord (word : String) : Except InputFault TemplateKind :=
  match TemplateKind.ofWord? word with
  | some kind => .ok kind
  | none => .error (.unknownKind (Text.lowerAscii word))

end ThemeCompiler
