/-
**What the passes over a page achieve.**

Whatever a pass settles, the later ones leave: the page has one main landmark, no redundant wrapper,
headings in order, no link to nowhere, no control without a name and no image without a description.

Main definitions:

* `ThemeCompiler.Compilation.Optimized` — all of this.

Main results:

* `ThemeCompiler.Accessibility.mains_changes` — **the first main landmark is the one that stays**;
* `ThemeCompiler.Compilation.exists_main_improve`, `ThemeCompiler.Compilation.length_h1s_improve` — the
  improved page has one main landmark and at most one heading of the first level;
* `ThemeCompiler.Compilation.optimized_improve` — **the improved page is like that**.
-/

import ThemeCompiler.Proofs.Compilation.Kept
import ThemeCompiler.Proofs.Headings.Settled

set_option relaxedAutoImplicit false
set_option autoImplicit false

namespace ThemeCompiler

open Document (Licence Run)

namespace Accessibility

variable {d e : Document}

/-! ### The later parts of the accessibility pass -/

/-- What the sweeps over images and roles may change. -/
def lateLicence : Licence := ⟨[], ["alt", "role"], ["role"], false⟩

/-- The sweeps over images and roles are a run. -/
theorem run_late (hd : d.WellFormed) : Run lateLicence d (dropRoles (markDecorative d).1).1 := by
  have h₁ := run_markDecorative hd
  have h₂ := run_dropRoles (h₁.wellFormed hd)
  refine (h₁.mono ?_).trans (h₂.mono ?_)
  all_goals decide

/-- What comes before normalization is a run. -/
theorem run_buttons (hd : d.WellFormed) :
    Run ⟨clickLicence.retags, ["type"], ["aria-hidden"], false⟩ d
      (convertClickables (unhide d).1).1 := by
  have h₁ := run_unhide hd
  refine (h₁.mono ?_).trans ((run_convertClickables (h₁.wellFormed hd)).mono ?_)
  all_goals decide

/-- What comes after normalization is a run. -/
theorem run_after_normalize (hd : d.WellFormed) (mainId : String) :
    Run ⟨[], ["aria-label", "alt", "role"], ["role"], false⟩
      (Landmarks.normalize mainId (convertClickables (unhide d).1).1).1 (changes mainId d).1 := by
  have hd₂ := (run_buttons hd).wellFormed hd
  have hd₃ := (Landmarks.run_normalize hd₂ mainId).wellFormed hd₂
  have h₄ := run_labelControls hd₃
  rw [changes_fst, fixLandmarks_fst]
  refine (h₄.mono ?_).trans ((run_late (h₄.wellFormed hd₃)).mono ?_)
  all_goals decide

/-- **The first main landmark is the only one** after the accessibility pass. -/
theorem mains_changes (hd : d.WellFormed) (mainId : String) {first : NodeId}
    {surplus : List NodeId} (hm : d.elementsByTag "main" = first :: surplus) :
    (changes mainId d).1.elementsByTag "main" = [first] := by
  have h₂ := run_buttons hd
  have hd₂ := h₂.wellFormed hd
  have hmains := (h₂.mains_eq hd (by decide) (by simp [hm])).trans hm
  exact (run_after_normalize hd mainId).mains ((Landmarks.run_normalize hd₂ mainId).wellFormed hd₂)
    (Landmarks.mains_normalize_cons hd₂ hmains)

/-- What a label is for does not depend on what the sweeps change. -/
theorem labelTargets_eq {l : Licence} (h : Run l d e) (hd : d.WellFormed)
    (hretags : ∀ r ∈ l.retags, r.1 = "label" ↔ r.2 = "label") (hs : "for" ∉ l.sets)
    (hdr : "for" ∉ l.drops) : labelTargets e = labelTargets d := by
  rw [labelTargets, labelTargets,
    h.elementsByTag_eq hd hretags (by decide) fun _ => by decide]
  refine List.filterMap_congr fun n hn => ?_
  have hmem := (Document.mem_elementsByTag.1 hn).1
  rw [filled?, filled?, h.attr?_eq hd (hd.lt_nextId hmem) hs hdr]

/-- Whether a control has a name does not depend on descriptions and roles. -/
theorem isNamed_eq {l : Licence} (h : Run l d e) (hd : d.WellFormed) (hretags : l.retags = [])
    (hnames : ∀ name ∈ ["type", "id", "aria-label", "placeholder"], name ∉ l.sets ∧ name ∉ l.drops)
    (targets : List String) {n : NodeId} (hn : n ∈ d.attached) :
    isNamed e targets n = isNamed d targets n := by
  have hlt := hd.lt_nextId hn
  have hattr : ∀ name ∈ ["type", "id", "aria-label", "placeholder"],
      e.attr? name n = d.attr? name n := fun name hname =>
    h.attr?_eq hd hlt (hnames name hname).1 (hnames name hname).2
  simp only [isNamed, isHiddenInput, isLabelled, filled?, hattr "type" (by decide),
    hattr "id" (by decide), hattr "aria-label" (by decide), hattr "placeholder" (by decide),
    Document.hasTag_congr (h.tag?_eq_of_nil hd hretags hlt)]

/-- Dropping the role of other elements leaves an image as it is. -/
theorem value?_dropRole (tag role : String) {n : NodeId} (hne : d.tag? n ≠ some tag) :
    (dropRole tag role d).1.nodes.value? n = d.nodes.value? n := by
  refine (isVisit_removeAttr (l := roleLicence) (by decide) role _).value?_of_not_mem
    (fun hn => hne ?_) d
  exact (Document.mem_elementsByTag.1 hn).2

theorem value?_dropRoles {n : NodeId} (htag : d.tag? n = some "img") :
    (dropRoles d).1.nodes.value? n = d.nodes.value? n := by
  have h₁ := value?_dropRole "main" "main" (d := d) (n := n) (by rw [htag]; decide)
  have ht₁ := (Document.tag?_congr h₁).trans htag
  have h₂ := value?_dropRole "nav" "navigation" (n := n) (by rw [ht₁]; decide)
  have ht₂ := (Document.tag?_congr h₂).trans ht₁
  have h₃ := value?_dropRole "footer" "contentinfo" (n := n) (by rw [ht₂]; decide)
  rw [dropRoles_fst]
  exact h₃.trans (h₂.trans h₁)

/-- **After the accessibility pass there is one main landmark**, when there is a body. -/
theorem exists_mains_changes (hd : d.WellFormed) {body : NodeId} (hbody : d.body? = some body)
    (mainId : String) : ∃ m, (changes mainId d).1.elementsByTag "main" = [m] := by
  have h₂ := run_buttons hd
  have hd₂ := h₂.wellFormed hd
  have hbody₂ : (convertClickables (unhide d).1).1.body? = some body := by
    rw [Document.body?, h₂.elementsByTag_eq hd (by decide) (by decide) (by decide)]
    exact hbody
  obtain ⟨m, hm⟩ := Landmarks.exists_mains_normalize hd₂ hbody₂ mainId
  exact ⟨m, (run_after_normalize hd mainId).mains
    ((Landmarks.run_normalize hd₂ mainId).wellFormed hd₂) hm⟩

/-- **What the accessibility pass settles**: named controls and described images. -/
theorem settled_changes (hd : d.WellFormed) (mainId : String) :
    (∀ n ∈ (changes mainId d).1.attached, (changes mainId d).1.hasTagIn controlTags n = true →
        isNamed (changes mainId d).1 (labelTargets (changes mainId d).1) n = true) ∧
      ∀ n ∈ (changes mainId d).1.attached, (changes mainId d).1.tag? n = some "img" →
        isDescribed (changes mainId d).1 n = true := by
  have hd₂ := (run_buttons hd).wellFormed hd
  have hd₃ := (run_fixLandmarks hd₂ mainId).wellFormed hd₂
  have h₄ := run_labelControls hd₃
  have hd₄ := h₄.wellFormed hd₃
  have h₅ := run_markDecorative hd₄
  have hd₅ := h₅.wellFormed hd₄
  have hlate := run_late hd₄
  rw [changes_fst]
  refine ⟨fun n hn htag => ?_, fun n hn htag => ?_⟩
  · have hmem := hlate.mem_attached hd₄ rfl hn
    rw [labelTargets_eq hlate hd₄ (by decide) (by decide) (by decide),
      labelTargets_eq h₄ hd₃ (by decide) (by decide) (by decide),
      isNamed_eq hlate hd₄ rfl (by decide) _ hmem]
    rw [Document.hasTagIn_congr (hlate.tag?_eq_of_nil hd₄ rfl (hd₄.lt_nextId hmem))] at htag
    exact settled_labelControls hd₃ hmem htag
  · have hrun := run_dropRoles hd₅
    have hmem := hrun.mem_attached hd₅ rfl hn
    rw [hrun.tag?_eq_of_nil hd₅ rfl (hd₅.lt_nextId hmem)] at htag
    rw [isDescribed_congr (value?_dropRoles htag)]
    exact settled_markDecorative hd₄ hmem htag

end Accessibility

namespace Compilation

variable {d e : Document}

/-- **A page on which only some of the passes find something to do.** -/
structure Optimized (e : Document) : Prop where
  wellFormed : e.WellFormed
  main : ∃ m, e.elementsByTag "main" = [m]
  flat : Landmarks.Flat e
  single : (e.elementsByTag "h1").length ≤ 1
  first : e.elementsByTag "h1" = [] → e.elementsByTag "h2" = []
  levels : Seo.firstSkip (Seo.headings e) = none
  links : ∀ n ∈ e.attached, e.tag? n = some "a" → e.attr? "href" n ≠ some "#"
  controls : ∀ n ∈ e.attached, e.hasTagIn Accessibility.controlTags n = true →
    Accessibility.isNamed e (Accessibility.labelTargets e) n = true
  images : ∀ n ∈ e.attached, e.tag? n = some "img" → Accessibility.isDescribed e n = true

/-- The headings of the first level come before those of the second. -/
theorem h2s_eq_nil (hd : d.WellFormed) (cap : Nat)
    (hnone : (Seo.changes cap d).1.elementsByTag "h1" = []) :
    (Seo.changes cap d).1.elementsByTag "h2" = [] := by
  have hcount := Seo.length_h1s_changes hd cap
  rw [hnone] at hcount
  have hno : ¬ (1 ∈ Seo.levels d ∨ 2 ∈ Seo.levels d) := fun h => by
    rw [if_pos h] at hcount
    exact absurd hcount (by simp)
  have hthree : ∀ k ∈ Seo.levels d, 3 ≤ k := by
    intro k hk
    have h₁ := Seo.one_le_levels d k hk
    have hne₁ : k ≠ 1 := fun h => hno (Or.inl (h ▸ hk))
    have hne₂ : k ≠ 2 := fun h => hno (Or.inr (h ▸ hk))
    omega
  have hlevels := Seo.three_le_settledLevels hthree
  rw [← (Seo.firstSkip_changes hd cap).1] at hlevels
  by_contra hsome
  obtain ⟨n, hn⟩ := List.exists_mem_of_ne_nil _ hsome
  have heq : (Seo.changes cap d).1.elementsByTag "h2" = _ :=
    Seo.elementsByTag_headingTag _ (k := 2) (by decide) (by decide)
  rw [heq] at hn
  obtain ⟨p, hp, _⟩ := List.mem_map.1 hn
  obtain ⟨hp, hp₂⟩ := List.mem_filter.1 hp
  have hle := hlevels p.2 (List.mem_map.2 ⟨p, hp, rfl⟩)
  have htwo : p.2 = 2 := by simpa using hp₂
  omega

/-- A body stays the body. -/
theorem body?_run {l : Licence} (h : Run l d e) (hd : d.WellFormed)
    (hretags : ∀ r ∈ l.retags, r.1 = "body" ↔ r.2 = "body") : e.body? = d.body? := by
  rw [Document.body?, Document.body?, h.elementsByTag_eq hd hretags (by decide) fun _ => by decide]

/-- **The improved page has one main landmark.** -/
theorem exists_main_improve (hd : d.WellFormed) (hbody : d.body?.isSome = true) (config : Config)
    (kind : TemplateKind) : ∃ m, (improve config kind d).1.elementsByTag "main" = [m] := by
  have h₁ := run_structured hd config kind
  have hd₁ := h₁.wellFormed hd
  have h₂ := Seo.run_changes hd₁ config.pruneIterations
  have hd₂ := h₂.wellFormed hd₁
  have hd₃ := (Accessibility.run_changes hd₂ config.mainLandmarkId).wellFormed hd₂
  obtain ⟨body, hbody⟩ := Option.isSome_iff_exists.1 hbody
  have hbody₂ : (Seo.changes config.pruneIterations (structured config kind d)).1.body? =
      some body := by
    rw [body?_run h₂ hd₁ (by decide), body?_run h₁ hd (by decide), hbody]
  obtain ⟨m, hm⟩ := Accessibility.exists_mains_changes hd₂ hbody₂ config.mainLandmarkId
  rw [improve_fst]
  exact ⟨m, (Landmarks.run_flatten hd₃ _).mains hd₃ hm⟩

/-- The headings of the first two levels are those that the search pass leaves. -/
theorem headings_improve (hd : d.WellFormed) (config : Config) (kind : TemplateKind) {tag : String}
    (htag : tag ∈ ["h1", "h2"]) : (improve config kind d).1.elementsByTag tag =
      (Seo.changes config.pruneIterations (structured config kind d)).1.elementsByTag tag := by
  have hd₁ := (run_structured hd config kind).wellFormed hd
  have hd₂ := (Seo.run_changes hd₁ config.pruneIterations).wellFormed hd₁
  have h₃ := Accessibility.run_changes hd₂ config.mainLandmarkId
  have hd₃ := h₃.wellFormed hd₂
  have h₄ := Landmarks.run_flatten hd₃ config.flattenIterations
  have hkept : ∀ t ∈ ["h1", "h2"], (∀ r ∈ Accessibility.accessLicence.retags, r.1 = t ↔ r.2 = t) ∧
      t ≠ "div" ∧ t ≠ "main" := by decide
  obtain ⟨hretags, hdiv, hmain⟩ := hkept tag htag
  rw [improve_fst, h₄.elementsByTag_eq hd₃ (by simp [Landmarks.wrapperLicence]) hdiv fun _ => hmain]
  exact h₃.elementsByTag_eq hd₂ hretags hdiv fun _ => hmain

/-- **The improved page has at most one heading of the first level.** -/
theorem length_h1s_improve (hd : d.WellFormed) (config : Config) (kind : TemplateKind) :
    ((improve config kind d).1.elementsByTag "h1").length ≤ 1 := by
  have hd₁ := (run_structured hd config kind).wellFormed hd
  rw [headings_improve hd config kind (by decide), Seo.length_h1s_changes hd₁]
  split <;> omega

/-- **The improved page is optimized.** -/
theorem optimized_improve (hd : d.WellFormed) (hbody : d.body?.isSome = true) (config : Config)
    (hcap : 0 < config.flattenIterations) (kind : TemplateKind) :
    Optimized (improve config kind d).1 := by
  have hd₁ := (run_structured hd config kind).wellFormed hd
  have hd₂ := (Seo.run_changes hd₁ config.pruneIterations).wellFormed hd₁
  have h₃ := Accessibility.run_changes hd₂ config.mainLandmarkId
  have hd₃ := h₃.wellFormed hd₂
  have h₄ := Landmarks.run_flatten hd₃ config.flattenIterations
  obtain ⟨hcontrols, himages⟩ := Accessibility.settled_changes hd₂ config.mainLandmarkId
  have hfirst : (improve config kind d).1.elementsByTag "h1" = [] →
      (improve config kind d).1.elementsByTag "h2" = [] := by
    rw [headings_improve hd config kind (by decide), headings_improve hd config kind (by decide)]
    exact h2s_eq_nil hd₁ _
  refine ⟨(run_improve hd config kind).wellFormed hd, exists_main_improve hd hbody config kind, ?_,
    length_h1s_improve hd config kind, hfirst, ?_, ?_, ?_, ?_⟩
  all_goals rw [improve_fst]
  · exact Landmarks.flat_flatten hd₃ hcap
  · rw [h₄.headings_eq hd₃ (by decide), h₃.headings_eq hd₂ (by decide)]
    exact (Seo.firstSkip_changes hd₁ _).2
  · intro n hn htag
    refine h₄.forall_tag (P := (· ≠ some "#")) hd₃ (by decide) (by decide) (by decide) (by decide)
      (fun m hm htag => ?_) hn htag
    refine h₃.forall_tag (P := (· ≠ some "#")) hd₂ (by decide) (by decide) (by decide) (by decide)
      (fun m hm htag => ?_) hm htag
    exact Seo.href_changes hd₁ _ hm htag
  · intro n hn htag
    have hmem := h₄.mem_attached hd₃ rfl hn
    rw [Accessibility.labelTargets_eq h₄ hd₃ (by decide) (by decide) (by decide),
      Accessibility.isNamed_eq h₄ hd₃ rfl (by decide) _ hmem]
    rw [Document.hasTagIn_congr (h₄.tag?_eq_of_nil hd₃ rfl (hd₃.lt_nextId hmem))] at htag
    exact hcontrols n hmem htag
  · intro n hn htag
    have hmem := h₄.mem_attached hd₃ rfl hn
    have hlt := hd₃.lt_nextId hmem
    rw [h₄.tag?_eq_of_nil hd₃ rfl hlt] at htag
    have hsame := himages n hmem htag
    rw [Accessibility.isDescribed, Accessibility.filled?, Document.hasAttr] at hsame ⊢
    rwa [h₄.attr?_eq hd₃ hlt (by decide) (by decide), h₄.attr?_eq hd₃ hlt (by decide) (by decide)]

end Compilation

end ThemeCompiler
