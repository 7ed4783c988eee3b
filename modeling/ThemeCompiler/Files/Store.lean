/-
**File stores.**

What a theme is read from and written to.  Every operation takes a path and says why it fails.

Main definitions:

* `ThemeCompiler.FileFault` — why an operation fails;
* `ThemeCompiler.FileStore` — the operations of a store;
* `ThemeCompiler.FileStore.orThrow` — an operation whose fault is an error.
-/

set_option relaxedAutoImplicit false
set_option autoImplicit false

namespace ThemeCompiler

/-- **Why a file operation fails.** -/
inductive FileFault where
  | missing
  | isDirectory
  | notDirectory
  | notText
  | badName
  | other (detail : String)
  deriving DecidableEq, Repr

/-- The wording of a file fault. -/
def FileFault.message : FileFault → String
  | missing => "No such file or directory"
  | isDirectory => "Is a directory"
  | notDirectory => "Not a directory"
  | notText => "The file is not text"
  | badName => "Invalid file name"
  | other detail => detail

/-- **A file store.** -/
class FileStore (m : Type → Type) where
  /-- Whether there is a file or a directory at a path. -/
  isThere : String → m Bool
  /-- The text of the file at a path. -/
  readText : String → m (Except FileFault String)
  /-- Puts a text into the file at a path, whose directory must be there. -/
  writeText : String → String → m (Except FileFault Unit)
  /-- Makes the directory at a path and those above it. -/
  makeDirs : String → m (Except FileFault Unit)
  /-- Copies a file to a path, whose directory must be there. -/
  copyFile : String → String → m (Except FileFault Unit)

/-- **An operation whose fault is an error.** -/
def FileStore.orThrow {m : Type → Type} [Monad m] {ε α : Type} (fail : FileFault → ε)
    (operation : m (Except FileFault α)) : ExceptT ε m α :=
  ExceptT.mk do
    match ← operation with
    | .ok value => return .ok value
    | .error fault => return .error (fail fault)

end ThemeCompiler
