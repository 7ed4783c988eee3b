/-
**Compilation of a page.**

A page is parsed, its references to assets are redirected, its layout goes to the theme, its tree is
improved, and its content becomes a template with a field group and a schema.  What belongs to the
project of a page is done by collaborators, which may be missing and may fail.  What they have done
before a failure stays done.

Main definitions:

* `ThemeCompiler.CompileRequest`, `ThemeCompiler.CompilationResult` — what goes in and comes out;
* `ThemeCompiler.Collaborators` — the theme of a project, as the compiler sees it;
* `ThemeCompiler.Compilation.improve` — the passes over the tree, in their fixed order;
* `ThemeCompiler.Compilation.finish` — the result for a tree;
* `ThemeCompiler.Compilation.compile` — the whole compilation;
* `ThemeCompiler.Compilation.compileAlone` — a compilation without collaborators.
-/

import ThemeCompiler.Assets
import ThemeCompiler.Config
import ThemeCompiler.Failure
import ThemeCompiler.FieldGroup
import ThemeCompiler.Landmarks
import ThemeCompiler.Layout
import ThemeCompiler.Model.Extraction
import ThemeCompiler.Schema
import ThemeCompiler.Seo
import ThemeCompiler.Template.Writer

set_option relaxedAutoImplicit false
set_option autoImplicit false

namespace ThemeCompiler

/-! ### Requests and results -/

/-- **A page to compile.** -/
structure CompileRequest where
  html : String
  templateName : String
  templateSlug : String
  kind : TemplateKind
  projectKey : Option String
  deriving DecidableEq, Repr

/-- A request without a project, whose slug is made from the name. -/
def CompileRequest.new (html name : String) (kind : TemplateKind) : CompileRequest :=
  ⟨html, name, Naming.fileSlug name, kind, none⟩

/-- The reports of the passes. -/
structure Reports where
  seo : Seo.Report
  accessibility : Accessibility.Report
  deriving DecidableEq, Repr

/-- **The result of a compilation.** -/
structure CompilationResult where
  php : String
  group : FieldGroup
  model : List Field
  schema : Schema
  optimizedHtml : String
  reports : Reports
  assetDependencies : List String
  headerExtracted : Bool
  footerExtracted : Bool
  deriving Repr

/-! ### Collaborators -/

/-- A page whose layout has gone to the theme. -/
structure ExtractedLayout where
  stripped : String
  hasHeader : Bool
  hasFooter : Bool
  deriving DecidableEq, Repr

/-- The layout that a split takes out of a page. -/
def ExtractedLayout.ofSplit (split : Layout.Split) : ExtractedLayout :=
  ⟨split.stripped, split.header.isSome, split.footer.isSome⟩

/-- An action of a collaborator. -/
abbrev Action (m : Type → Type) (α : Type) := ExceptT CompileError m α

/-- **The collaborators of a compilation.** -/
structure Collaborators (m : Type → Type) where
  /-- Makes sure that the theme of a project is there. -/
  ensureShell : Option (String → Action m Unit)
  /-- Makes assets part of the theme of a project. -/
  registerAssets : Option (String → List String → Action m Unit)
  /-- Takes the layout out of a page, for the theme of a project. -/
  extractLayout : Option (String → String → Action m ExtractedLayout)

/-- No collaborators. -/
def Collaborators.none {m : Type → Type} : Collaborators m := ⟨.none, .none, .none⟩

namespace Compilation

/-! ### The tree -/

/-- The tree of a document with one main landmark, and of anything without redundant wrappers. -/
def structured (config : Config) (kind : TemplateKind) (d : Document) : Document :=
  let normal := if kind.isDocument then (Landmarks.normalize config.mainLandmarkId d).1 else d
  (Landmarks.flatten config.flattenIterations normal).1

/-- **The passes over the tree of a page.**  Wrappers are looked for again at the end, since a
surplus landmark becomes one. -/
def improve (config : Config) (kind : TemplateKind) (d : Document) : Document × Reports :=
  let (d, seo) := Seo.optimize config.pruneIterations (structured config kind d)
  let (d, accessibility) := Accessibility.optimize config.mainLandmarkId d
  ((Landmarks.flatten config.flattenIterations d).1, ⟨seo, accessibility⟩)

/-! ### The result -/

/-- **The result for the tree of a page**, unless the improved tree or its model breaks a rule. -/
def finish (config : Config) (request : CompileRequest) (assets : List String)
    (hasHeader hasFooter : Bool) (d : Document) : Except CompileError CompilationResult := do
  let (d, reports) := improve config request.kind d
  let model := Model.extract config.maxExtractionDepth d
  (Validation.check d model).mapError .validation
  return {
    php := Template.generate model request.kind request.templateName
    group := FieldGroup.generate model request.templateName request.templateSlug request.kind
    model := model
    schema := Schema.generate model
    optimizedHtml := d.markup
    reports := reports
    assetDependencies := assets
    headerExtracted := hasHeader
    footerExtracted := hasFooter }

/-! ### The whole compilation -/

section

variable {m : Type → Type} [Monad m]

/-- What the collaborators do for the project of a page before its layout. -/
def prepareTheme (collaborators : Collaborators m) (project : String) (assets : List String) :
    Action m Unit := do
  if let some ensure := collaborators.ensureShell then ensure project
  if !assets.isEmpty then
    if let some register := collaborators.registerAssets then register project assets

/-- The tree of a page after its layout, if it has one, was taken out. -/
def withoutLayout (collaborators : Collaborators m) (request : CompileRequest) (d : Document) :
    Action m (Document × Bool × Bool) :=
  match request.kind.isDocument, request.projectKey, collaborators.extractLayout with
  | true, some project, some extract => do
      let layout ← extract project d.markup
      return (Document.parse layout.stripped, layout.hasHeader, layout.hasFooter)
  | _, _, _ => return (d, false, false)

/-- **The compilation of a page.** -/
def compile (collaborators : Collaborators m) (config : Config) (request : CompileRequest) :
    Action m CompilationResult := do
  let (d, assets) := Assets.redirect config.assetUrlBase (Document.parse request.html)
  if let some project := request.projectKey then prepareTheme collaborators project assets
  let (d, hasHeader, hasFooter) ← withoutLayout collaborators request d
  match finish config request assets hasHeader hasFooter d with
  | .ok result => return result
  | .error e => throw e

end

/-- **A compilation without collaborators.** -/
def compileAlone (config : Config) (request : CompileRequest) :
    Except CompileError CompilationResult :=
  (compile (Collaborators.none : Collaborators Id) config request).run.run

end Compilation

end ThemeCompiler
