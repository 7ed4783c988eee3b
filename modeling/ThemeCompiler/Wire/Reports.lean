/-
**Reports as JSON.**

Main definitions:

* `ThemeCompiler.Seo.Report.toJson`, `ThemeCompiler.Seo.Report.decoder` — the report of the search
  pass;
* `ThemeCompiler.Accessibility.Report.toJson`, `ThemeCompiler.Accessibility.Report.decoder` — the
  report of the accessibility pass;
* `ThemeCompiler.Reports.toJson` — both.
-/

import ThemeCompiler.Compilation
import ThemeCompiler.Json.Decoder

set_option relaxedAutoImplicit false
set_option autoImplicit false

namespace ThemeCompiler

namespace Seo

/-- An entry as JSON. -/
def Entry.toJson (e : Entry) : Json :=
  .object
    [("issue_type", .string e.issue), ("original_structure", .string e.before),
     ("optimized_structure", .string e.after), ("reason", .string e.reason),
     ("SEO_impact_score", .nat e.impact)]

/-- **A report of the search pass as JSON.** -/
def Report.toJson (r : Report) : Json :=
  .object
    [("initial_score", .int r.initialScore), ("optimized_score", .int r.optimizedScore),
     ("delta", .int r.delta), ("logs", .array (r.logs.map Entry.toJson))]

/-- The members of an entry. -/
def Entry.slots : List (Json.Slot Entry) :=
  [Json.required "issue_type" Json.text fun s e => { e with issue := s },
   Json.required "original_structure" Json.text fun s e => { e with before := s },
   Json.required "optimized_structure" Json.text fun s e => { e with after := s },
   Json.required "reason" Json.text fun s e => { e with reason := s },
   Json.required "SEO_impact_score" (Json.natural 32) fun n e => { e with impact := n }]

/-- The reader of an entry where `depth` levels are left. -/
def Entry.decoder (depth : Nat) : Json.Decoder Entry :=
  Json.record depth Entry.slots ⟨"", "", "", "", 0⟩

/-- The members of a report whose values have `depth` levels left. -/
def Report.slots (depth : Nat) : List (Json.Slot Report) :=
  [Json.required "initial_score" (Json.signed 32) fun n r => { r with initialScore := n },
   Json.required "optimized_score" (Json.signed 32) fun n r => { r with optimizedScore := n },
   Json.required "delta" (Json.signed 32) fun n r => { r with delta := n },
   Json.required "logs" (Json.listOf depth (Entry.decoder (depth - 1)))
     fun logs r => { r with logs := logs }]

/-- **The reader of a report of the search pass** where `depth` levels are left. -/
def Report.decoder (depth : Nat) : Json.Decoder Report :=
  Json.record depth (Report.slots (depth - 1)) ⟨0, 0, 0, []⟩

end Seo

namespace Accessibility

/-- An entry as JSON. -/
def Entry.toJson (e : Entry) : Json :=
  .object
    [("issue_type", .string e.issue), ("description", .string e.description),
     ("impact_score", .nat e.impact)]

/-- **A report of the accessibility pass as JSON.** -/
def Report.toJson (r : Report) : Json :=
  .object
    [("initial_score", .int r.initialScore), ("optimized_score", .int r.optimizedScore),
     ("delta", .int r.delta), ("logs", .array (r.logs.map Entry.toJson))]

/-- The members of an entry. -/
def Entry.slots : List (Json.Slot Entry) :=
  [Json.required "issue_type" Json.text fun s e => { e with issue := s },
   Json.required "description" Json.text fun s e => { e with description := s },
   Json.required "impact_score" (Json.natural 32) fun n e => { e with impact := n }]

/-- The reader of an entry where `depth` levels are left. -/
def Entry.decoder (depth : Nat) : Json.Decoder Entry :=
  Json.record depth Entry.slots ⟨"", "", 0⟩

/-- The members of a report whose values have `depth` levels left. -/
def Report.slots (depth : Nat) : List (Json.Slot Report) :=
  [Json.required "initial_score" (Json.signed 32) fun n r => { r with initialScore := n },
   Json.required "optimized_score" (Json.signed 32) fun n r => { r with optimizedScore := n },
   Json.required "delta" (Json.signed 32) fun n r => { r with delta := n },
   Json.required "logs" (Json.listOf depth (Entry.decoder (depth - 1)))
     fun logs r => { r with logs := logs }]

/-- **The reader of a report of the accessibility pass** where `depth` levels are left. -/
def Report.decoder (depth : Nat) : Json.Decoder Report :=
  Json.record depth (Report.slots (depth - 1)) ⟨0, 0, 0, []⟩

end Accessibility

/-- **The reports of the passes as JSON.** -/
def Reports.toJson (r : Reports) : Json :=
  .object [("seo", r.seo.toJson), ("accessibility", r.accessibility.toJson)]

end ThemeCompiler
