/-
**Paths.**

A path is a text of names between slashes.  Empty names and single dots in it are no components,
except for a dot at the beginning.

Main definitions:

* `ThemeCompiler.Path.join` — a path below another;
* `ThemeCompiler.Path.parent?`, `ThemeCompiler.Path.fileName?`, `ThemeCompiler.Path.stem?` — the
  parts of a path;
* `ThemeCompiler.Path.pieces` — the names of a path.
-/

import ThemeCompiler.Text.Search

set_option relaxedAutoImplicit false
set_option autoImplicit false

namespace ThemeCompiler

namespace Path

/-- Whether a path starts at the root. -/
def isAbsolute (path : String) : Bool := path.toList.head? == some '/'

/-- **A path below another.**  An absolute path stands for itself. -/
def join (base path : String) : String :=
  if isAbsolute path then path
  else if base.isEmpty || base.toList.getLast? == some '/' then base ++ path
  else base ++ "/" ++ path

/-- A reversed path without what is no component at its end. -/
def dropTrailing : List Char → List Char
  | '/' :: rest => if rest.isEmpty then ['/'] else dropTrailing rest
  | '.' :: '/' :: rest => if rest.isEmpty then ['/'] else dropTrailing rest
  | cs => cs

/-- **The path without its last component**, if it has one. -/
def parent? (path : String) : Option String :=
  let trimmed := dropTrailing path.toList.reverse
  if trimmed.isEmpty || trimmed == ['/'] then none
  else some (String.ofList (dropTrailing (trimmed.dropWhile (· != '/'))).reverse)

/-- **The last component of a path**, unless it is a dot or two. -/
def fileName? (path : String) : Option String :=
  let name := String.ofList ((dropTrailing path.toList.reverse).takeWhile (· != '/')).reverse
  if name.isEmpty || name == "." || name == ".." then none else some name

/-- **The last component of a path without its extension.**  A dot at the beginning of a name
starts no extension. -/
def stem? (path : String) : Option String :=
  (fileName? path).map fun name =>
    match name.toList.reverse.dropWhile (· != '.') with
    | _ :: before@(_ :: _) => String.ofList before.reverse
    | _ => name

/-- **The names of a path**, with empty ones for slashes that follow each other. -/
def pieces (path : String) : List String :=
  (Text.splitAtChars (· == '/') path.toList).map String.ofList

end Path

end ThemeCompiler
