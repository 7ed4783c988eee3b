/-
**Assets of a page.**

Images, scripts, style sheets and icons that lie beside the page are referred to by paths.  These
references are redirected to the place that the files get in the theme.

Main definitions:

* `ThemeCompiler.Assets.isLocal` — whether a reference is to a file beside the page;
* `ThemeCompiler.Assets.fileName`, `ThemeCompiler.Assets.subdirectory` — where the file goes;
* `ThemeCompiler.Assets.redirect` — the document with redirected references, and their old paths.
-/

import ThemeCompiler.Document.Edit

set_option relaxedAutoImplicit false
set_option autoImplicit false

namespace ThemeCompiler

namespace Assets

/-! ### Paths -/

/-- The beginnings of references to something else than a file beside the page. -/
def remoteStarts : List String :=
  ["http://", "https://", "//", "data:", "mailto:", "tel:", "#", "javascript:"]

/-- **Whether a reference is to a file beside the page.**  References that a template computes are
not. -/
def isLocal (path : String) : Bool :=
  let trimmed := Text.trim path
  !trimmed.isEmpty && !Text.contains trimmed "<?php"
    && !remoteStarts.any (Text.startsWith (Text.lowerAscii trimmed))

/-- A path without its query and its fragment. -/
def withoutQuery (path : List Char) : List Char := path.takeWhile fun c => c != '?' && c != '#'

/-- **The last segment of a path** without its query and its fragment. -/
def fileName (path : String) : String :=
  String.ofList ((Text.splitAtChars (fun c => c == '/' || c == '\\')
    (withoutQuery path.toList)).getLast?.getD [])

/-- **The directory for a file in the assets directory of a theme.** -/
def subdirectory (file : String) : String :=
  let lowered := Text.lowerAscii file
  if Text.endsWith lowered ".css" then "css/"
  else if Text.endsWith lowered ".js" || Text.endsWith lowered ".mjs" then "js/"
  else ""

/-! ### References -/

/-- The attribute in which an element refers to an asset. -/
def targetAttr? (d : Document) (n : NodeId) : Option String :=
  if d.hasTagIn ["img", "source", "script"] n then some "src"
  else if d.hasTag "link" n
      && (Text.words (Text.lowerAscii ((d.attr? "rel" n).getD ""))).any
        (["stylesheet", "icon"].contains ·) then
    some "href"
  else none

/-- The elements that refer to assets, with the attribute. -/
def targets (d : Document) : List (NodeId × String) :=
  d.attached.filterMap fun n => (targetAttr? d n).map (n, ·)

/-- The path of a reference that is to be redirected. -/
def localPath? (d : Document) (target : NodeId × String) : Option String :=
  (d.attr? target.2 target.1).filter fun path => isLocal path && !(fileName path).isEmpty

/-- The reference to a file at its place in the theme. -/
def placed (urlBase path : String) : String :=
  urlBase ++ subdirectory (fileName path) ++ fileName path

/-- The document after the references of some elements were redirected, with the paths found so
far. -/
def redirectAll (urlBase : String) : List (NodeId × String) → Document × List String →
    Document × List String
  | [], state => state
  | target :: rest, (d, found) =>
      match localPath? d target with
      | none => redirectAll urlBase rest (d, found)
      | some path =>
          redirectAll urlBase rest
            (d.setAttr target.1 target.2 (placed urlBase path),
              if found.contains path then found else found ++ [path])

/-- **The document with redirected references, and their old paths**, each once, in the order of
their first occurrence. -/
def redirect (urlBase : String) (d : Document) : Document × List String :=
  redirectAll urlBase (targets d) (d, [])

end Assets

end ThemeCompiler
