/-
**Arguments of the command.**

A command has options with values and one operand.  The value of an option is joined to it or is
the next argument, which must not look like an option.  An option is given once.  Behind two dashes
all arguments are operands.  Arguments are read from left to right, and the first that is wrong or
asks for help decides.

Main definitions:

* `ThemeCompiler.Command.OptionRule`, `ThemeCompiler.Command.Form` — what a command takes;
* `ThemeCompiler.Command.scan` — the options and the operand;
* `ThemeCompiler.Command`, `ThemeCompiler.Command.parse` — the command that arguments ask for.
-/

set_option relaxedAutoImplicit false
set_option autoImplicit false

namespace ThemeCompiler

/-! ### Commands -/

/-- What the compilation of a page is asked for. -/
structure CompileOptions where
  input : String
  name : Option String
  slug : Option String
  kind : String
  project : Option String
  projectsDir : Option String
  out : Option String
  config : Option String
  deriving DecidableEq, Repr

/-- **A command.** -/
inductive Command where
  /-- Compiles a page. -/
  | compile (options : CompileOptions)
  /-- Makes the theme of a project. -/
  | init (project : String) (projectsDir : Option String)
  /-- Prints the completions for a shell. -/
  | completions (shell : String)
  deriving DecidableEq, Repr

namespace Command

/-- **Why there is no command to run.** -/
inductive Stop where
  | help
  | version
  | misuse
  deriving DecidableEq, Repr

/-! ### Options and operands -/

/-- **An option**: its names, and whether its value is a path, which is never empty. -/
structure OptionRule where
  name : String
  short : Option Char
  isPath : Bool

/-- **What a command takes**: options, operands, and whether it tells its version. -/
structure Form where
  options : List OptionRule
  isOperand : String → Bool
  hasVersion : Bool

/-- The arguments found so far: the values of options, and the operand. -/
structure Found where
  values : List (String × String)
  operand : Option String

/-- The value of an option. -/
def Found.value? (found : Found) (name : String) : Option String := found.values.lookup name

/-- Whether an argument looks like an option. -/
def looksLikeOption (arg : String) : Bool :=
  match arg.toList with
  | '-' :: _ :: _ => true
  | _ => false

/-- The arguments found, with the value of an option that was not given before. -/
def Found.add (found : Found) (rule : OptionRule) (value : String) : Except Stop Found :=
  if rule.isPath && value.isEmpty then .error .misuse
  else if (found.value? rule.name).isSome then .error .misuse
  else .ok { found with values := found.values ++ [(rule.name, value)] }

/-- The arguments found, with the operand of a command, which has one. -/
def Found.take (form : Form) (found : Found) (operand : String) : Except Stop Found :=
  if found.operand.isSome || !form.isOperand operand then .error .misuse
  else .ok { found with operand := some operand }

/-- What an option asks for. -/
inductive Asked where
  | help
  | version
  | value (rule : OptionRule) (joined : Option String)

/-- A long option: its name, and what is joined to it by an equals sign. -/
def splitLong (text : List Char) : String × Option String :=
  match text.dropWhile (· != '=') with
  | _ :: value => (String.ofList (text.takeWhile (· != '=')), some (String.ofList value))
  | [] => (String.ofList text, none)

/-- What is joined to a short option. -/
def joinedShort : List Char → Option String
  | [] => none
  | '=' :: value => some (String.ofList value)
  | value => some (String.ofList value)

/-- **What an option asks for**, if the command takes it. -/
def Form.asked? (form : Form) (arg : String) : Option Asked :=
  match arg.toList with
  | '-' :: '-' :: text =>
      let (name, joined) := splitLong text
      if name == "help" && joined.isNone then some .help
      else if form.hasVersion && name == "version" && joined.isNone then some .version
      else (form.options.find? (·.name == name)).map (.value · joined)
  | '-' :: c :: text =>
      if c == 'h' then some .help
      else if form.hasVersion && c == 'V' then some .version
      else (form.options.find? (·.short == some c)).map (.value · (joinedShort text))
  | _ => none

/-- **The options and the operand among arguments.** -/
def scan (form : Form) : List String → Found → Except Stop Found
  | [], found => .ok found
  | arg :: rest, found =>
      if arg == "--" then rest.foldlM (Found.take form) found
      else if looksLikeOption arg then
        match form.asked? arg with
        | none => .error .misuse
        | some .help => .error .help
        | some .version => .error .version
        | some (.value rule (some value)) => do scan form rest (← found.add rule value)
        | some (.value rule none) =>
            match rest with
            | [] => .error .misuse
            | value :: rest =>
                if looksLikeOption value then .error .misuse
                else do scan form rest (← found.add rule value)
      else do scan form rest (← found.take form arg)

/-- The options of a command, and its operand. -/
def findOperand (form : Form) (args : List String) : Except Stop (Found × String) := do
  let found ← scan form args ⟨[], none⟩
  match found.operand with
  | some operand => return (found, operand)
  | none => throw .misuse

/-! ### Forms -/

/-- The option that every command takes. -/
def logLevel : OptionRule := ⟨"log-level", none, false⟩

/-- The option for the directory of the projects. -/
def projectsOption : OptionRule := ⟨"projects-dir", none, true⟩

/-- What comes before the name of a command. -/
def topForm : Form := ⟨[logLevel], fun _ => false, true⟩

/-- What the compilation of a page takes: a path that is not empty. -/
def compileForm : Form :=
  ⟨[⟨"name", none, false⟩, ⟨"slug", none, false⟩, ⟨"kind", none, false⟩,
    ⟨"project", some 'p', false⟩, projectsOption, ⟨"out", some 'o', true⟩,
    ⟨"config", none, true⟩, logLevel], (!·.isEmpty), false⟩

/-- What the making of a theme takes: any key. -/
def initForm : Form := ⟨[projectsOption, logLevel], fun _ => true, false⟩

/-- The shells that have completions. -/
def shells : List String := ["bash", "elvish", "fish", "powershell", "zsh"]

/-- What the printing of completions takes: the name of a shell. -/
def completionsForm : Form := ⟨[logLevel], shells.contains, false⟩

/-! ### The command -/

/-- The compilation that arguments ask for. -/
def parseCompile (args : List String) : Except Stop Command := do
  let (found, input) ← findOperand compileForm args
  return .compile {
    input := input
    name := found.value? "name"
    slug := found.value? "slug"
    kind := (found.value? "kind").getD "fragment"
    project := found.value? "project"
    projectsDir := found.value? "projects-dir"
    out := found.value? "out"
    config := found.value? "config" }

/-- The making of a theme that arguments ask for. -/
def parseInit (args : List String) : Except Stop Command := do
  let (found, project) ← findOperand initForm args
  return .init project (found.value? "projects-dir")

/-- The printing of completions that arguments ask for. -/
def parseCompletions (args : List String) : Except Stop Command := do
  let (_, shell) ← findOperand completionsForm args
  return .completions shell

/-- The names of the commands. -/
def names : List String := ["compile", "init", "completions", "help"]

/-- The command that a name and the arguments behind it ask for.  Help is about all commands or
about one. -/
def parseNamed : List String → Except Stop Command
  | "compile" :: rest => parseCompile rest
  | "init" :: rest => parseInit rest
  | "completions" :: rest => parseCompletions rest
  | ["help"] => throw .help
  | ["help", name] => throw (if names.contains name then .help else .misuse)
  | _ => throw .misuse

/-- The command that arguments ask for behind those that are read already; `hasLevel` tells that
the log level is among these.  A value that is an argument of its own counts with the argument
behind it: a second level is wrong, but what the command behind it asks for comes first. -/
def parseFrom : Bool → List String → Except Stop Command
  | _, [] => throw .misuse
  | hasLevel, arg :: rest =>
      if looksLikeOption arg then
        match topForm.asked? arg with
        | none => throw .misuse
        | some .help => throw .help
        | some .version => throw .version
        | some (.value _ (some _)) => if hasLevel then throw .misuse else parseFrom true rest
        | some (.value _ none) =>
            match rest with
            | [] => throw .misuse
            | value :: rest =>
                if looksLikeOption value then throw .misuse
                else if hasLevel then do
                  let _ ← parseNamed rest
                  throw .misuse
                else parseFrom true rest
      else parseNamed (arg :: rest)

/-- **The command that arguments ask for.** -/
def parse (args : List String) : Except Stop Command := parseFrom false args

end Command

end ThemeCompiler
