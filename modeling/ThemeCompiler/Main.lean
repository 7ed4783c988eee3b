/-
**The command line.**

Main definitions:

* the instance `ThemeCompiler.FileStore` of actions on the files of the computer;
* `main` — runs the command that the arguments ask for.
-/

import ThemeCompiler.Command.Run

set_option relaxedAutoImplicit false
set_option autoImplicit false

namespace ThemeCompiler

/-- An action on files, whose error is a fault. -/
def fileAction {α : Type} (action : IO α) : IO (Except FileFault α) := do
  try return .ok (← action)
  catch e => return .error (.other (toString e))

/-- Whether a path leads to a file or a directory. -/
def leadsSomewhere (path : String) : IO Bool := do
  try
    let _ ← IO.FS.realPath path
    return true
  catch _ => return false

/-- **The files of the computer are a file store.** -/
instance : FileStore IO where
  isThere path := leadsSomewhere path
  readText path := fileAction (IO.FS.readFile path)
  writeText path text := fileAction (IO.FS.writeFile path text)
  makeDirs path := fileAction (if path.isEmpty then pure () else IO.FS.createDirAll path)
  copyFile source target := fileAction do IO.FS.writeBinFile target (← IO.FS.readBinFile source)

end ThemeCompiler

open ThemeCompiler in
/-- **Runs the command that the arguments ask for.** -/
def main (args : List String) : IO UInt32 := do
  let environment ← IO.getEnv Command.projectsVariable
  let outcome ← Command.run args environment
  IO.print outcome.stdout
  IO.eprint outcome.stderr
  return outcome.exit.toUInt32
