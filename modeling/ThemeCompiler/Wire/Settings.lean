/-
**Settings as JSON.**

Every setting may be left out and then has its default.

Main definitions:

* `ThemeCompiler.Config.toJson`, `ThemeCompiler.Config.decoder` — the written form and its reader.
-/

import ThemeCompiler.Config
import ThemeCompiler.Json.Decoder

set_option relaxedAutoImplicit false
set_option autoImplicit false

namespace ThemeCompiler

namespace Config

/-- **Settings as JSON.** -/
def toJson (c : Config) : Json :=
  .object
    [("flatten_iterations", .nat c.flattenIterations),
     ("prune_iterations", .nat c.pruneIterations),
     ("max_extraction_depth", .nat c.maxExtractionDepth),
     ("main_landmark_id", .string c.mainLandmarkId),
     ("asset_url_base", .string c.assetUrlBase)]

/-- The members of settings. -/
def slots : List (Json.Slot Config) :=
  [Json.defaulted "flatten_iterations" (Json.natural 64)
     fun n c => { c with flattenIterations := n },
   Json.defaulted "prune_iterations" (Json.natural 64) fun n c => { c with pruneIterations := n },
   Json.defaulted "max_extraction_depth" (Json.natural 64)
     fun n c => { c with maxExtractionDepth := n },
   Json.defaulted "main_landmark_id" Json.text fun s c => { c with mainLandmarkId := s },
   Json.defaulted "asset_url_base" Json.text fun s c => { c with assetUrlBase := s }]

/-- **The reader of settings** where `depth` levels are left. -/
def decoder (depth : Nat) : Json.Decoder Config := Json.record depth slots Config.default

end Config

end ThemeCompiler
