/-
**Settings of a compilation.**

Main definitions:

* `ThemeCompiler.Config` — the settings;
* `ThemeCompiler.Config.default` — what holds when nothing is set.
-/

set_option relaxedAutoImplicit false
set_option autoImplicit false

namespace ThemeCompiler

/-- **The settings of a compilation.** -/
structure Config where
  /-- How often the tree is searched for redundant wrappers. -/
  flattenIterations : Nat
  /-- How often the search pass searches for redundant wrappers. -/
  pruneIterations : Nat
  /-- How deep fields are looked for. -/
  maxExtractionDepth : Nat
  /-- The identifier of a main landmark that is added. -/
  mainLandmarkId : String
  /-- What goes before the path of an asset. -/
  assetUrlBase : String
  deriving DecidableEq, Repr

/-- The assets directory of the theme, as a template writes it. -/
def defaultAssetUrlBase : String := "<?php echo get_template_directory_uri(); ?>/assets/"

/-- **The settings when nothing is set.** -/
def Config.default : Config where
  flattenIterations := 10
  pruneIterations := 5
  maxExtractionDepth := 20
  mainLandmarkId := "main-content"
  assetUrlBase := defaultAssetUrlBase

end ThemeCompiler
