/-
**When a page compiles.**

Each rule of validation is established by a pass and kept by the later ones: normalization leaves one
main landmark, the search pass one heading of the first level, the extraction slugs and identifiers
that are unique.  The rule about clickable elements is the exception: in anything but a document a
surplus main landmark becomes a plain division after the sweep that makes buttons.  A page with a body
compiles unless such a landmark reacts to clicks.

Main results:

* `ThemeCompiler.Validation.checkDocument_eq` — the check of a document, as far as it can fail;
* `ThemeCompiler.Compilation.compileAlone_eq` — a compilation without collaborators is its last part;
* `ThemeCompiler.Compilation.compileAlone_of_body` — **which pages compile, and how the others
  fail**.
-/

import ThemeCompiler.Proofs.Assets
import ThemeCompiler.Proofs.Compilation.Clickables
import ThemeCompiler.Proofs.Model.Identifiers
import ThemeCompiler.Proofs.Model.Scan

set_option relaxedAutoImplicit false
set_option autoImplicit false

namespace ThemeCompiler

variable {d : Document}

/-! ### The check of a document -/

namespace Validation

open Accessibility (clickables)

/-- **The check of a document** with one main landmark and one heading of the first level. -/
theorem checkDocument_eq (hmain : ∃ m, d.elementsByTag "main" = [m])
    (hh1s : (d.elementsByTag "h1").length ≤ 1) :
    checkDocument d = if clickables d = [] then .ok () else .error .clickablePrimitive := by
  obtain ⟨m, hm⟩ := hmain
  have hany : (d.elementsByTags Accessibility.primitiveTags).any (d.hasAttr "onclick") = true ↔
      clickables d ≠ [] := by
    rw [clickables, ne_eq, List.filter_eq_nil_iff, List.any_eq_true]
    simp
  rw [checkDocument, hm, List.length_singleton, if_neg (by decide), if_neg (by decide),
    if_neg (by omega)]
  by_cases hclick : clickables d = []
  · rw [if_neg fun h => hany.1 h hclick, if_pos hclick]
  · rw [if_pos (hany.2 hclick), if_neg hclick]

/-- Only the rule about clickable elements is left to an improved page with a body. -/
theorem check_improve (hd : d.WellFormed) (hbody : d.body?.isSome = true) (config : Config)
    (kind : TemplateKind) :
    let page := (Compilation.improve config kind d).1
    Model.TellsApart config.maxExtractionDepth page →
      check page (Model.extract config.maxExtractionDepth page) =
        if clickables page = [] then .ok () else .error .clickablePrimitive := by
  intro page hids
  have hdocument : checkDocument page = _ :=
    checkDocument_eq (Compilation.exists_main_improve hd hbody config kind)
      (Compilation.length_h1s_improve hd config kind)
  rw [check, hdocument, Model.checkIds_extract hids, Model.checkSlugs_extract]
  split <;> rfl

end Validation

/-! ### The whole compilation -/

namespace Compilation

/-- **A compilation without collaborators is its last part**, after the references are redirected. -/
theorem compileAlone_eq {config : Config} {request : CompileRequest} {d : Document}
    {assets : List String}
    (h : Assets.redirect config.assetUrlBase (Document.parse request.html) = (d, assets)) :
    compileAlone config request = finish config request assets false false d := by
  have hprepare : ∀ project assets,
      prepareTheme (Collaborators.none : Collaborators Id) project assets = pure () := by
    intro project assets
    rw [prepareTheme]
    cases assets <;> rfl
  have hlayout : ∀ d, withoutLayout (Collaborators.none : Collaborators Id) request d =
      pure (d, false, false) := by
    intro d
    rw [withoutLayout]
    cases request.kind.isDocument <;> cases request.projectKey <;> rfl
  rw [compileAlone, compile, h]
  cases request.projectKey <;> simp only [hprepare, hlayout, pure_bind]
  all_goals cases finish config request assets false false d <;> rfl

/-- **Which pages compile, and how the others fail.**  A page with a body compiles, with any
configuration and any names, unless it is no document and a surplus main landmark of it reacts to
clicks; then it breaks the rule about clickable elements. -/
theorem compileAlone_of_body (config : Config) (request : CompileRequest)
    (hbody : (Document.parse request.html).body?.isSome = true)
    (hids : Model.TellsApart config.maxExtractionDepth (improve config request.kind
      (Assets.redirect config.assetUrlBase (Document.parse request.html)).1).1) :
    (request.kind.isDocument = true ∨ clickableSurplus (Document.parse request.html) = [] →
      ∃ result, compileAlone config request = .ok result) ∧
    (request.kind.isDocument = false → clickableSurplus (Document.parse request.html) ≠ [] →
      compileAlone config request = .error (.validation .clickablePrimitive)) := by
  have hparsed := Document.WellFormed.parse request.html
  have hrun := Assets.run_redirect config.assetUrlBase (Document.parse request.html)
  have hd := hrun.wellFormed hparsed
  have hbody' : (Assets.redirect config.assetUrlBase (Document.parse request.html)).1.body?.isSome
      = true := by
    rw [body?_run hrun hparsed (by decide), hbody]
  -- redirecting references changes neither the body nor the landmarks and their handlers
  have hcheck := Validation.check_improve hd hbody' config request.kind hids
  rw [clickables_improve hd, clickableSurplus_run hrun hparsed (by decide) (by decide)
    (by decide)] at hcheck
  rw [compileAlone_eq Prod.mk.eta.symm, finish]
  refine ⟨fun hfine => ?_, fun hkind hsurplus => ?_⟩
  · have hnone : (if request.kind.isDocument = true then [] else
        clickableSurplus (Document.parse request.html)) = [] := by
      rcases hfine with hkind | hnone
      · rw [if_pos hkind]
      · rw [hnone, ite_self]
    rw [if_pos hnone] at hcheck
    simp only [hcheck]
    exact ⟨_, rfl⟩
  · rw [if_neg (by simpa [hkind] using hsurplus)] at hcheck
    simp only [hcheck]
    rfl

/-- A fragment with a surplus main landmark that reacts to clicks does not compile. -/
theorem compileAlone_clickable_main :
    let request := CompileRequest.new "<main>a</main><main onclick=\"x()\">b</main>" "T" .fragment
    (Document.parse request.html).body?.isSome = true ∧
      compileAlone Config.default request = .error (.validation .clickablePrimitive) := by
  intro request
  have hbody : (Document.parse request.html).body?.isSome = true := by decide +kernel
  have hids : Model.TellsApart Config.default.maxExtractionDepth (improve Config.default
      request.kind (Assets.redirect Config.default.assetUrlBase
        (Document.parse request.html)).1).1 := by decide +kernel
  refine ⟨hbody, (compileAlone_of_body Config.default request hbody hids).2 rfl ?_⟩
  decide +kernel

end Compilation

end ThemeCompiler
