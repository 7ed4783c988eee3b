/-
**Requests as JSON.**

Main definitions:

* `ThemeCompiler.CompileRequest.toJson`, `ThemeCompiler.CompileRequest.decoder` — the written form
  and its reader.
-/

import ThemeCompiler.Compilation
import ThemeCompiler.Json.Decoder

set_option relaxedAutoImplicit false
set_option autoImplicit false

namespace ThemeCompiler

namespace CompileRequest

/-- **A request as JSON.** -/
def toJson (r : CompileRequest) : Json :=
  .object
    [("html", .string r.html), ("templateName", .string r.templateName),
     ("templateSlug", .string r.templateSlug), ("kind", .string r.kind.name),
     ("projectKey", Json.orNull .string r.projectKey)]

/-- The kinds of templates by their names. -/
def kindNames : List (String × TemplateKind) := TemplateKind.all.map fun k => (k.name, k)

/-- The members of a request whose values have `depth` levels left. -/
def slots (depth : Nat) : List (Json.Slot CompileRequest) :=
  [Json.required "html" Json.text fun s r => { r with html := s },
   Json.required "templateName" Json.text fun s r => { r with templateName := s },
   Json.required "templateSlug" Json.text fun s r => { r with templateSlug := s },
   Json.required "kind" (Json.oneOf depth kindNames) fun k r => { r with kind := k },
   Json.defaulted "projectKey" (Json.orNone Json.text) fun p r => { r with projectKey := p }]

/-- **The reader of a request** where `depth` levels are left. -/
def decoder (depth : Nat) : Json.Decoder CompileRequest :=
  Json.record depth (slots (depth - 1)) ⟨"", "", "", .fragment, none⟩

end CompileRequest

end ThemeCompiler
