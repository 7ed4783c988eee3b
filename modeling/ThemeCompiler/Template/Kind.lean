/-
**Kinds of templates.**

A template is a reusable section or the template of a whole page, which is announced by a name in
its head or found by its file name.

Main definitions:

* `ThemeCompiler.TemplateKind` — the kinds;
* `ThemeCompiler.TemplateKind.ofWord?` — the kind that a word asks for;
* `ThemeCompiler.TemplateKind.fileFor` — the file of a template in its theme.
-/

import ThemeCompiler.Naming

set_option relaxedAutoImplicit false
set_option autoImplicit false

namespace ThemeCompiler

/-- **The kind of a template.** -/
inductive TemplateKind where
  /-- A reusable section. -/
  | fragment
  /-- A page template that is announced by its name. -/
  | documentWithIdentity
  /-- A page template that is found by its file name. -/
  | documentByConvention
  deriving DecidableEq, Repr

namespace TemplateKind

/-- The kinds of templates. -/
def all : List TemplateKind := [.fragment, .documentWithIdentity, .documentByConvention]

/-- The name of a kind. -/
def name : TemplateKind → String
  | .fragment => "fragment"
  | .documentWithIdentity => "document_with_identity"
  | .documentByConvention => "document_by_convention"

/-- Whether a template is for a whole page. -/
def isDocument (kind : TemplateKind) : Bool := kind != .fragment

/-- **The file of a template in its theme.** -/
def fileFor (kind : TemplateKind) (slug : String) : String :=
  match kind with
  | .fragment => "template-parts/sections/" ++ Naming.fileSlug slug ++ ".php"
  | _ => "page-" ++ Naming.fileSlug slug ++ ".php"

/-- **The kind that a word asks for**, in whatever case it is written. -/
def ofWord? (word : String) : Option TemplateKind :=
  let word := Text.lowerAscii word
  if ["fragment", "section"].contains word then some .fragment
  else if ["page", "full-page", "document"].contains word then some .documentWithIdentity
  else if ["page-convention", "convention"].contains word then some .documentByConvention
  else none

end TemplateKind

end ThemeCompiler
