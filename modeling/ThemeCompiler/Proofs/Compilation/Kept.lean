/-
**The passes over the tree of a page lose nothing.**

All passes together are one run.  So the visible texts stay as they are, only divisions that say
nothing go, what stays keeps its order and what it is inside of, at most one main landmark comes,
and only a few attributes change.  A run is also a sequence of elementary edits, none of which takes
out more than such divisions.

Main definitions:

* `ThemeCompiler.Compilation.pageLicence` — what the passes together may change;
* `ThemeCompiler.Document.Spared` — a sequence of edits that takes out no element but divisions that
  say nothing.

Main results:

* `ThemeCompiler.Document.Run.exists_edits` — **a run is such a sequence of edits**;
* `ThemeCompiler.Compilation.run_improve` — **the passes over a page are a run**;
* `ThemeCompiler.Compilation.content_kept` — **the passes lose no content**.
-/

import ThemeCompiler.Compilation
import ThemeCompiler.Proofs.Accessibility
import ThemeCompiler.Proofs.Seo

set_option relaxedAutoImplicit false
set_option autoImplicit false

namespace ThemeCompiler

namespace Document

variable {l : Licence} {d e : Document}

/-! ### Runs as sequences of edits -/

/-- An element that an edit takes out is a division that says nothing. -/
def Spares (d : Document) (edit : Edit) : Prop :=
  ∀ n ∈ d.attached, d.isElement n = true → n ∉ (d.apply edit).attached →
    d.nodes.value? n = some (.element "div" [])

/-- **Edits that take out no element but divisions that say nothing**, each at the moment when it is
made. -/
def Spared : Document → List Edit → Prop
  | _, [] => True
  | d, edit :: rest => d.Spares edit ∧ Spared (d.apply edit) rest

theorem spared_append {edits more : List Edit} (h : d.Spared edits)
    (h' : (edits.foldl apply d).Spared more) : d.Spared (edits ++ more) := by
  induction edits generalizing d with
  | nil => exact h'
  | cons edit rest ih => exact ⟨h.1, ih h.2 h'⟩

/-- An edit that is a step takes out what says nothing. -/
theorem Step.spares (edit : Edit) (h : Step l d (d.apply edit)) (hd : d.WellFormed) :
    d.Spares edit := by
  intro n hn hel hgone
  refine (h.removed hd hn hgone).resolve_right fun hsilent => ?_
  rw [hel] at hsilent
  exact absurd hsilent.1 (by simp)

theorem attached_createElement (hd : d.WellFormed) (tag : String) (attrs : List Html.Attribute) :
    (d.createElement tag attrs).attached = d.attached :=
  Arena.descendants_congr hd.nodes (hd.nodes.add _) (fun _ => Arena.children_add ..) _

/-- **A step is one edit**, or two when a main landmark is made and then put in. -/
theorem Step.exists_edits (h : Step l d e) (hd : d.WellFormed) :
    ∃ edits : List Edit, edits.foldl apply d = e ∧ d.Spared edits := by
  have hstep := h
  cases h with
  | @rename n _ tag => exact ⟨[.rename n tag], rfl, hstep.spares (.rename n tag) hd, trivial⟩
  | @setAttrs n attrs =>
      exact ⟨[.setAttrs n attrs], rfl, hstep.spares (.setAttrs n attrs) hd, trivial⟩
  | @drop n => exact ⟨[.detach n], rfl, hstep.spares (.detach n) hd, trivial⟩
  | @lift n only =>
      exact ⟨[.replaceWith n only], rfl, hstep.spares (.replaceWith n only) hd, trivial⟩
  | @wrap body attrs allowed single found =>
      refine ⟨[.createElement "main" attrs, .wrapChildren body d.nextId], rfl, ?_, ?_, trivial⟩
      · intro n hn _ hgone
        have hsame : n ∈ (d.createElement "main" attrs).attached := by
          rwa [attached_createElement hd]
        exact absurd hsame hgone
      · intro n hn _ hgone
        change n ∈ (d.createElement "main" attrs).attached at hn
        rw [attached_createElement hd] at hn
        exact absurd (((putsIn_wrapBody hd found attrs).attached n).2 (Or.inl hn)) hgone

/-- **A run is a sequence of edits** none of which takes out more than divisions that say nothing. -/
theorem Run.exists_edits (h : Run l d e) (hd : d.WellFormed) :
    ∃ edits : List Edit, edits.foldl apply d = e ∧ d.Spared edits := by
  induction h with
  | refl => exact ⟨[], rfl, trivial⟩
  | tail run step ih =>
      obtain ⟨edits, rfl, hspared⟩ := ih
      obtain ⟨more, rfl, hmore⟩ := step.exists_edits (run.wellFormed hd)
      exact ⟨edits ++ more, List.foldl_append, spared_append hspared hmore⟩

/-- The visible texts with what they say. -/
def visibleTexts (d : Document) : List (NodeId × String) :=
  (d.attached.filter d.isVisibleText).map fun n => (n, d.ownText n)

/-- **A run keeps the visible texts**, what they say and their order. -/
theorem Run.visibleTexts_eq (h : Run l d e) (hd : d.WellFormed) :
    e.visibleTexts = d.visibleTexts := by
  rw [visibleTexts, visibleTexts, h.filter_isVisibleText hd]
  refine List.map_congr_left fun n hn => ?_
  obtain ⟨hmem, htext⟩ := List.mem_filter.1 hn
  have hno := isElement_of_isVisibleText htext
  rcases h.element_iff hd (hd.lt_nextId hmem) with hel | hel
  · rw [hel.1] at hno
    exact absurd hno (by simp)
  · rw [ownText, ownText, hel.2]

end Document

namespace Compilation

open Document (Licence Run)

variable {d : Document}

/-! ### The passes over a page -/

theorem improve_fst (config : Config) (kind : TemplateKind) (d : Document) :
    (improve config kind d).1 =
      (Landmarks.flatten config.flattenIterations
        (Accessibility.changes config.mainLandmarkId
          (Seo.changes config.pruneIterations (structured config kind d)).1).1).1 := by
  simp only [improve, Seo.optimize, Accessibility.optimize]

/-- **What the passes together may change.** -/
def pageLicence : Licence :=
  ⟨Seo.searchLicence.retags ++ Accessibility.accessLicence.retags,
    ["type", "alt", "aria-label", "role"], ["href", "target", "rel", "aria-hidden", "role"], true⟩

theorem wrapperLicence_within : Landmarks.wrapperLicence.Within pageLicence := by decide

theorem landmarkLicence_within : Landmarks.landmarkLicence.Within pageLicence := by decide

theorem searchLicence_within : Seo.searchLicence.Within pageLicence := by decide

theorem accessLicence_within : Accessibility.accessLicence.Within pageLicence := by decide

theorem upgradeLicence_within : Seo.upgradeLicence.Within pageLicence := by decide

theorem altLicence_within : Seo.altLicence.Within pageLicence := by decide

theorem hideLicence_within : Accessibility.hideLicence.Within pageLicence := by decide

theorem clickLicence_within : Accessibility.clickLicence.Within pageLicence := by decide

theorem run_structured (hd : d.WellFormed) (config : Config) (kind : TemplateKind) :
    Run pageLicence d (structured config kind d) := by
  have hflatten : ∀ {x : Document}, x.WellFormed →
      Run pageLicence x (Landmarks.flatten config.flattenIterations x).1 := fun hx =>
    (Landmarks.run_flatten hx _).mono wrapperLicence_within
  rw [structured]
  split
  · have hnormal := Landmarks.run_normalize hd config.mainLandmarkId
    exact (hnormal.mono landmarkLicence_within).trans (hflatten (hnormal.wellFormed hd))
  · exact hflatten hd

/-- **The passes over a page are a run.** -/
theorem run_improve (hd : d.WellFormed) (config : Config) (kind : TemplateKind) :
    Run pageLicence d (improve config kind d).1 := by
  have h₁ := run_structured hd config kind
  have hd₁ := h₁.wellFormed hd
  have h₂ := Seo.run_changes hd₁ config.pruneIterations
  have hd₂ := h₂.wellFormed hd₁
  have h₃ := Accessibility.run_changes hd₂ config.mainLandmarkId
  have h₄ := Landmarks.run_flatten (h₃.wellFormed hd₂) config.flattenIterations
  rw [improve_fst]
  exact ((h₁.trans (h₂.mono searchLicence_within)).trans (h₃.mono accessLicence_within)).trans
    (h₄.mono wrapperLicence_within)

/-- **The passes lose no content.**  The visible texts stay; elements that go are divisions without
attributes, each when it is taken out; what stays keeps its order and what it is inside of; a new
element is the main landmark; and only attributes of the given names change. -/
theorem content_kept (hd : d.WellFormed) (config : Config) (kind : TemplateKind) :
    let e := (improve config kind d).1
    e.visibleTexts = d.visibleTexts ∧
      ((∀ n ∈ d.attached, d.isElement n = true → n ∉ e.attached →
          e.nodes.value? n = some (.element "div" [])) ∧
        ∃ edits : List Edit, edits.foldl Document.apply d = e ∧ d.Spared edits) ∧
      (e.attached.filter (· ∈ d.attached) = d.attached.filter (· ∈ e.attached) ∧
        ∀ m n, m ∈ d.attached → m ∈ e.attached → n ∈ d.attached → n ∈ e.attached →
          (n ∈ e.descendants m ↔ n ∈ d.descendants m)) ∧
      (∀ n ∈ e.attached, n ∉ d.attached →
        n = d.nextId ∧ d.elementsByTag "main" = [] ∧ e.elementsByTag "main" = [n]) ∧
      ∀ n ∈ d.attached, n ∈ e.attached → ∀ name,
        name ∉ ["href", "target", "rel", "type", "alt", "role", "aria-hidden", "aria-label"] →
          e.attr? name n = d.attr? name n := by
  intro e
  have hrun : Run pageLicence d e := run_improve hd config kind
  have hkeeps := hrun.keeps hd
  refine ⟨hrun.visibleTexts_eq hd, ⟨fun n hn hel hgone => ?_, hrun.exists_edits hd⟩,
    ⟨hkeeps.filter_attached, fun m n hm hm' hn hn' => hkeeps.mem_descendants_iff hm hm' hn hn'⟩,
    fun n hn hn' => (hrun.added hd hn hn').2, fun n hn _ name hname => ?_⟩
  · refine (hrun.removed hd hn hgone).resolve_right fun hsilent => ?_
    rw [hrun.isElement_eq hd (hd.lt_nextId hn), hel] at hsilent
    exact absurd hsilent.1 (by simp)
  · simp only [List.mem_cons, not_or] at hname
    exact hrun.attr?_eq hd (hd.lt_nextId hn) (by simp [pageLicence, hname])
      (by simp [pageLicence, hname])

/-- The text of a wrapped paragraph that becomes a button is still there. -/
theorem content_kept_wrapped :
    (improve Config.default .fragment
      (Document.parse "<div><p onclick=\"go()\">text</p></div>")).1.visibleTexts = [(6, "text")] := by
  have hwf := Document.WellFormed.parse "<div><p onclick=\"go()\">text</p></div>"
  refine (content_kept hwf Config.default .fragment).1.trans ?_
  decide +kernel

end Compilation

end ThemeCompiler
