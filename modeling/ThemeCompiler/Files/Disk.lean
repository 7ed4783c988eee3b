/-
**A disk.**

A tree of directories and files as a table from full names to entries.  A path that is too long as a
whole or holds a null character leads nowhere.  Any other is followed name by name: what stands
before another name must be a directory that is there, also before a dot or two.

Main definitions:

* `ThemeCompiler.FileContent`, `ThemeCompiler.Entry`, `ThemeCompiler.Disk` — the table;
* `ThemeCompiler.Disk.resolve` — the full name that a path leads to;
* `ThemeCompiler.Disk.readText`, `ThemeCompiler.Disk.write`, `ThemeCompiler.Disk.makeDirs`,
  `ThemeCompiler.Disk.copyFile` — the operations;
* the instance `ThemeCompiler.FileStore` of state with a disk.
-/

import ThemeCompiler.Files.Path
import ThemeCompiler.Files.Store

set_option relaxedAutoImplicit false
set_option autoImplicit false

namespace ThemeCompiler

/-- **The content of a file**: a text, or bytes that are no text. -/
inductive FileContent where
  | text (s : String)
  | binary (bytes : List UInt8)
  deriving DecidableEq, Repr

/-- **An entry of a disk.** -/
inductive Entry where
  | directory
  | file (content : FileContent)
  deriving DecidableEq, Repr

/-- **A disk**: its entries by their full names, and the directory in which paths start. -/
structure Disk where
  start : List String
  entries : List (List String × Entry)
  deriving DecidableEq, Repr

namespace Disk

/-! ### Entries -/

/-- **The entry with a full name.**  The root is always there. -/
def entry? (disk : Disk) (name : List String) : Option Entry :=
  if name.isEmpty then some .directory else disk.entries.lookup name

/-- The entries with one more, which takes the place of one with the same name. -/
def putEntry (name : List String) (entry : Entry) :
    List (List String × Entry) → List (List String × Entry)
  | [] => [(name, entry)]
  | (n, e) :: rest =>
      if n == name then (name, entry) :: rest else (n, e) :: putEntry name entry rest

/-- The disk with one more entry. -/
def put (disk : Disk) (name : List String) (entry : Entry) : Disk :=
  { disk with entries := putEntry name entry disk.entries }

/-- The disk without an entry and what is below it. -/
def erase (disk : Disk) (name : List String) : Disk :=
  { disk with entries := disk.entries.filter fun e => !name.isPrefixOf e.1 }

/-! ### Paths -/

/-- The longest name of an entry, in bytes. -/
def maxNameBytes : Nat := 255

/-- Whether a name is short enough to be that of an entry. -/
def isName (name : String) : Bool := name.utf8ByteSize ≤ maxNameBytes

/-- The longest path, in bytes. -/
def maxPathBytes : Nat := 4095

/-- Whether a text can be a path at all, wherever it may lead. -/
def isPath (path : String) : Bool :=
  path.utf8ByteSize ≤ maxPathBytes && !path.toList.contains '\x00'

/-- The full name that names lead to from a directory. -/
def follow (disk : Disk) : List String → List String → Except FileFault (List String)
  | here, [] => .ok here
  | here, name :: rest =>
      match disk.entry? here with
      | none => .error .missing
      | some (.file _) => .error .notDirectory
      | some .directory =>
          if name.isEmpty || name == "." then disk.follow here rest
          else if name == ".." then disk.follow here.dropLast rest
          else if isName name then disk.follow (here ++ [name]) rest
          else .error .badName

/-- The directory in which a path starts. -/
def startOf (disk : Disk) (path : String) : List String :=
  if Path.isAbsolute path then [] else disk.start

/-- **The full name that a path leads to.** -/
def resolve (disk : Disk) (path : String) : Except FileFault (List String) :=
  if path.isEmpty then .error .missing
  else if isPath path then disk.follow (disk.startOf path) (Path.pieces path)
  else .error .badName

/-! ### Operations -/

/-- Whether there is an entry at a path. -/
def isThere (disk : Disk) (path : String) : Bool :=
  match disk.resolve path with
  | .ok name => (disk.entry? name).isSome
  | .error _ => false

/-- The content of the file at a path. -/
def read (disk : Disk) (path : String) : Except FileFault FileContent := do
  match disk.entry? (← disk.resolve path) with
  | none => throw .missing
  | some .directory => throw .isDirectory
  | some (.file content) => return content

/-- **The text of the file at a path.** -/
def readText (disk : Disk) (path : String) : Except FileFault String := do
  match ← disk.read path with
  | .text s => return s
  | .binary _ => throw .notText

/-- **The disk with a content at a path.** -/
def write (disk : Disk) (path : String) (content : FileContent) : Except FileFault Disk := do
  let name ← disk.resolve path
  match disk.entry? name with
  | some .directory => throw .isDirectory
  | _ => return disk.put name (.file content)

/-- **The disk with a copy of a file at a path.** -/
def copyFile (disk : Disk) (source target : String) : Except FileFault Disk := do
  disk.write target (← disk.read source)

/-- The disk with the directories that names lead through, as far as they can be made. -/
def makeAlong (disk : Disk) : List String → List String → Except FileFault Unit × Disk
  | _, [] => (.ok (), disk)
  | here, name :: rest =>
      if name.isEmpty || name == "." then disk.makeAlong here rest
      else if name == ".." then disk.makeAlong here.dropLast rest
      else if !isName name then (.error .badName, disk)
      else
        let next := here ++ [name]
        match disk.entry? next with
        | some .directory => disk.makeAlong next rest
        | some (.file _) => (.error .notDirectory, disk)
        | none => (disk.put next .directory).makeAlong next rest

/-- **The disk with the directories of a path.** -/
def makeDirs (disk : Disk) (path : String) : Except FileFault Unit × Disk :=
  if isPath path then disk.makeAlong (disk.startOf path) (Path.pieces path)
  else (.error .badName, disk)

/-- The outcome of an operation, and the disk after it: the old one if it failed. -/
def outcome (disk : Disk) : Except FileFault Disk → Except FileFault Unit × Disk
  | .ok changed => (.ok (), changed)
  | .error fault => (.error fault, disk)

end Disk

/-- **State with a disk is a file store.** -/
instance : FileStore (StateM Disk) where
  isThere path := fun disk => (disk.isThere path, disk)
  readText path := fun disk => (disk.readText path, disk)
  writeText path text := fun disk => disk.outcome (disk.write path (.text text))
  makeDirs path := fun disk => disk.makeDirs path
  copyFile source target := fun disk => disk.outcome (disk.copyFile source target)

end ThemeCompiler
