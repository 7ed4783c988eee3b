/-
**Results as JSON.**

Main definitions:

* `ThemeCompiler.CompilationResult.toJson` — the written form of a result.
-/

import ThemeCompiler.Wire.FieldGroup
import ThemeCompiler.Wire.Model
import ThemeCompiler.Wire.Reports
import ThemeCompiler.Wire.Schema

set_option relaxedAutoImplicit false
set_option autoImplicit false

namespace ThemeCompiler

/-- **The result of a compilation as JSON.** -/
def CompilationResult.toJson (r : CompilationResult) : Json :=
  .object
    [("php", .string r.php), ("acf", r.group.toJson), ("model", Field.listToJson r.model),
     ("schema", r.schema.toJson), ("optimizedHtml", .string r.optimizedHtml),
     ("reports", r.reports.toJson), ("assetDependencies", Json.names r.assetDependencies),
     ("headerExtracted", .bool r.headerExtracted), ("footerExtracted", .bool r.footerExtracted)]

end ThemeCompiler
