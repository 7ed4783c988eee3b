/-
**What becomes of surplus main landmarks.**

In a document they are divisions before the sweeps over divisions and plain elements look at them.
In anything else they become divisions in the accessibility pass only, and are what these two sweeps
leave to do on an improved page.

Main definitions:

* `ThemeCompiler.Compilation.SurplusQuiet` — no surplus main landmark reacts to clicks or has a class
  that asks for another element.

Main results:

* `ThemeCompiler.Accessibility.tag?_of_mem_surplus`, `ThemeCompiler.Accessibility.mem_surplus_of_div`
  — **which elements are divisions after the accessibility pass**;
* `ThemeCompiler.Compilation.divisions_improve_iff`, `ThemeCompiler.Compilation.plain_improve_iff` —
  **when the two sweeps find nothing more to do**.
-/

import ThemeCompiler.Proofs.Compilation.Clickables

set_option relaxedAutoImplicit false
set_option autoImplicit false

namespace ThemeCompiler

open Document (Licence Run)

variable {d e : Document}

/-! ### Divisions after the accessibility pass -/

namespace Accessibility

/-- **A surplus main landmark becomes a division.** -/
theorem tag?_of_mem_surplus (hd : d.WellFormed) (mainId : String) {n : NodeId}
    (hn : n ∈ (d.elementsByTag "main").tail) : (changes mainId d).1.tag? n = some "div" := by
  have h₂ := run_buttons hd
  have hd₂ := h₂.wellFormed hd
  have h₃ := Landmarks.run_normalize hd₂ mainId
  cases hm : d.elementsByTag "main" with
  | nil =>
      rw [hm] at hn
      exact absurd hn (by simp)
  | cons first surplus =>
      have hmains := (h₂.mains_eq hd (by decide) (by simp [hm])).trans hm
      rw [hm, List.tail_cons] at hn
      obtain ⟨hmem, hmain⟩ := Document.mem_elementsByTag.1
        (hmains.symm ▸ List.mem_cons_of_mem first hn :
          n ∈ (convertClickables (unhide d).1).1.elementsByTag "main")
      have hdiv : (Landmarks.normalize mainId (convertClickables (unhide d).1).1).1.tag? n =
          some "div" := by
        rw [Landmarks.normalize_cons hmains, ((Document.foldl_rename "div" surplus _).2 n).2,
          if_pos hn, hmain]
        rfl
      rw [(run_after_normalize hd mainId).tag?_eq_of_nil (h₃.wellFormed hd₂) rfl
        ((hd₂.lt_nextId hmem).trans_le (h₃.keeps hd₂).nextId_le), hdiv]

/-- **A division was one before, or a surplus main landmark.** -/
theorem mem_surplus_of_div (hd : d.WellFormed) (mainId : String) {n : NodeId}
    (hn : n ∈ (changes mainId d).1.attached) (htag : (changes mainId d).1.tag? n = some "div") :
    n ∈ d.attached ∧ (d.tag? n = some "div" ∨ n ∈ (d.elementsByTag "main").tail) := by
  have hrun := run_changes hd mainId
  have hmem : n ∈ d.attached := by
    by_contra hnew
    rw [hrun.tag?_of_added hd hn hnew] at htag
    exact absurd htag (by decide)
  have hel : d.isElement n = true := by
    rw [← hrun.isElement_eq hd (hd.lt_nextId hmem)]
    exact Document.isElement_iff_tag?.2 ⟨_, htag⟩
  obtain ⟨old, hold⟩ := Document.isElement_iff_tag?.1 hel
  refine ⟨hmem, ?_⟩
  by_cases hdiv : old = "div"
  · exact Or.inl (hdiv ▸ hold)
  -- nothing but main landmarks becomes a division
  have hmain : old = "main" := by
    by_contra hmain
    obtain ⟨new, hnew, hne, _⟩ := hrun.tag?_inv hd (Q := fun t => t ≠ "div" ∧ t ≠ "main")
      (by decide) hold ⟨hdiv, hmain⟩
    exact hne (Option.some.inj (hnew.symm.trans htag))
  have hmains : n ∈ d.elementsByTag "main" := Document.mem_elementsByTag.2 ⟨hmem, hmain ▸ hold⟩
  cases hm : d.elementsByTag "main" with
  | nil =>
      rw [hm] at hmains
      exact absurd hmains (by simp)
  | cons first surplus =>
      rw [hm] at hmains
      refine Or.inr ((List.mem_cons.1 hmains).resolve_left fun hfirst => ?_)
      -- the first one stays a main landmark
      have hstays := mains_changes hd mainId hm
      rw [← hfirst] at hstays
      rw [(Document.mem_elementsByTag.1 (hstays ▸ List.mem_singleton_self n)).2] at htag
      exact absurd htag (by decide)

end Accessibility

namespace Compilation

/-! ### What the sweeps leave -/

/-- A class is telling on the improved page when it was. -/
theorem telling_improve (hd : d.WellFormed) (config : Config) (kind : TemplateKind) {n : NodeId}
    (hn : n ∈ d.attached) : Seo.Telling (improve config kind d).1 n ↔ Seo.Telling d n :=
  Seo.telling_congr ((run_improve hd config kind).attr?_eq hd (hd.lt_nextId hn) (by decide)
    (by decide))

/-- What says nothing has no telling class. -/
theorem not_telling_of_silent {n : NodeId} (h : d.Silent n) : ¬ Seo.Telling d n := by
  have hnone : d.attrs n = [] := by
    rcases h with hdiv | ⟨hel, _⟩
    · rw [Document.attrs, hdiv]
    · exact Document.attrs_of_not_isElement hel
  rintro ⟨rule, hrule, _⟩
  have hempty : Rule.firstOf Rule.upgrades (Facts.ofElement "div" "") = none := by decide
  rw [Document.classes, Document.attr?_eq_lookupAttr, hnone] at hrule
  exact absurd (hempty.symm.trans hrule) (by simp)

/-- **A surplus main landmark with a telling class is a division on the improved page**, unless the
page is a document. -/
theorem div_of_mem_surplus (hd : d.WellFormed) (config : Config) {kind : TemplateKind}
    (hkind : kind.isDocument = false) {n : NodeId} (hn : n ∈ (d.elementsByTag "main").tail)
    (htelling : Seo.Telling d n) : n ∈ (improve config kind d).1.attached ∧
      (improve config kind d).1.tag? n = some "div" := by
  have hd₁ := (run_structured hd config kind).wellFormed hd
  have hd₂ := (Seo.run_changes hd₁ config.pruneIterations).wellFormed hd₁
  have h₃ := Accessibility.run_changes hd₂ config.mainLandmarkId
  have hd₃ := h₃.wellFormed hd₂
  have h₄ := Landmarks.run_flatten hd₃ config.flattenIterations
  have hmem := (Document.mem_elementsByTag.1 (List.mem_of_mem_tail hn)).1
  refine ⟨?_, ?_⟩
  · -- its class keeps it from being a wrapper
    by_contra hgone
    exact not_telling_of_silent ((run_improve hd config kind).removed hd hmem hgone)
      ((telling_improve hd config kind hmem).2 htelling)
  · have hn₂ : n ∈ ((Seo.changes config.pruneIterations
        (structured config kind d)).1.elementsByTag "main").tail := by
      rwa [tail_mains_search hd, if_neg (by simp [hkind])]
    have hlt₂ := hd₂.lt_nextId (Document.mem_elementsByTag.1 (List.mem_of_mem_tail hn₂)).1
    rw [improve_fst, h₄.tag?_eq_of_nil hd₃ rfl (hlt₂.trans_le (h₃.keeps hd₂).nextId_le)]
    exact Accessibility.tag?_of_mem_surplus hd₂ _ hn₂

/-- **A division with a telling class on the improved page was a surplus main landmark.** -/
theorem mem_surplus_of_telling (hd : d.WellFormed) (config : Config) (kind : TemplateKind)
    {n : NodeId} (hn : n ∈ (improve config kind d).1.attached)
    (hdiv : (improve config kind d).1.tag? n = some "div")
    (htelling : Seo.Telling (improve config kind d).1 n) :
    kind.isDocument = false ∧ n ∈ (d.elementsByTag "main").tail := by
  have hd₁ := (run_structured hd config kind).wellFormed hd
  have hd₂ := (Seo.run_changes hd₁ config.pruneIterations).wellFormed hd₁
  have h₃ := Accessibility.run_changes hd₂ config.mainLandmarkId
  have hd₃ := h₃.wellFormed hd₂
  have h₄ := Landmarks.run_flatten hd₃ config.flattenIterations
  rw [improve_fst] at hn hdiv htelling
  have hmem₃ := h₄.mem_attached hd₃ rfl hn
  have hlt₃ := hd₃.lt_nextId hmem₃
  rw [h₄.tag?_eq_of_nil hd₃ rfl hlt₃] at hdiv
  rw [Seo.telling_congr (h₄.attr?_eq hd₃ hlt₃ (by decide) (by decide))] at htelling
  obtain ⟨hmem₂, hbefore | hsurplus⟩ :=
    Accessibility.mem_surplus_of_div hd₂ config.mainLandmarkId hmem₃ hdiv
  · rw [Seo.telling_congr (h₃.attr?_eq hd₂ (hd₂.lt_nextId hmem₂) (by decide) (by decide))]
      at htelling
    exact absurd htelling (Seo.not_telling_changes hd₁ _ hmem₂ hbefore)
  · rw [tail_mains_search hd] at hsurplus
    split at hsurplus
    · exact absurd hsurplus (by simp)
    · next hkind => exact ⟨by simpa using hkind, hsurplus⟩

/-- **When the sweep over the divisions finds nothing more to do**: on a document, and where no
surplus main landmark has a telling class. -/
theorem divisions_improve_iff (hd : d.WellFormed) (hbody : d.body?.isSome = true) (config : Config)
    (kind : TemplateKind) :
    (∀ n ∈ (improve config kind d).1.attached, (improve config kind d).1.tag? n = some "div" →
      Seo.upgrade? (improve config kind d).1 n = none) ↔
    kind.isDocument = true ∨ ∀ n ∈ (d.elementsByTag "main").tail, ¬ Seo.Telling d n := by
  have hmains : (improve config kind d).1.elementsByTag "main" ≠ [] := by
    obtain ⟨m, hm⟩ := exists_main_improve hd hbody config kind
    simp [hm]
  simp only [Seo.upgrade?_eq_none_iff hmains]
  constructor
  · intro hquiet
    by_cases hkind : kind.isDocument = true
    · exact Or.inl hkind
    refine Or.inr fun n hn htelling => ?_
    have hmem := (Document.mem_elementsByTag.1 (List.mem_of_mem_tail hn)).1
    obtain ⟨hstays, hdiv⟩ := div_of_mem_surplus hd config (by simpa using hkind) hn htelling
    exact hquiet n hstays hdiv ((telling_improve hd config kind hmem).2 htelling)
  · intro hquiet n hn hdiv htelling
    obtain ⟨hkind, hsurplus⟩ := mem_surplus_of_telling hd config kind hn hdiv htelling
    have hmem := (Document.mem_elementsByTag.1 (List.mem_of_mem_tail hsurplus)).1
    exact hquiet.resolve_left (by simp [hkind]) n hsurplus
      ((telling_improve hd config kind hmem).1 htelling)

/-- **When the sweep over the plain elements finds nothing more to do**: on a document, and where no
surplus main landmark reacts to clicks. -/
theorem plain_improve_iff (hd : d.WellFormed) (config : Config) (kind : TemplateKind) :
    (∀ n ∈ (improve config kind d).1.attached,
      (improve config kind d).1.hasTagIn Accessibility.primitiveTags n = true →
        (improve config kind d).1.attr? "onclick" n = none) ↔
    kind.isDocument = true ∨
      ∀ n ∈ (d.elementsByTag "main").tail, d.attr? "onclick" n = none := by
  have hleft : Accessibility.clickables (improve config kind d).1 = [] ↔
      ∀ n ∈ (improve config kind d).1.attached,
        (improve config kind d).1.hasTagIn Accessibility.primitiveTags n = true →
          (improve config kind d).1.attr? "onclick" n = none := by
    rw [Accessibility.clickables_eq, List.filter_eq_nil_iff]
    refine forall₂_congr fun n _ => ?_
    rw [Bool.and_eq_true, not_and', Document.hasAttr, Option.not_isSome_iff_eq_none]
  have hright : clickableSurplus d = [] ↔
      ∀ n ∈ (d.elementsByTag "main").tail, d.attr? "onclick" n = none := by
    rw [clickableSurplus, List.filter_eq_nil_iff]
    refine forall₂_congr fun n _ => ?_
    rw [Document.hasAttr, Option.not_isSome_iff_eq_none]
  rw [← hleft, clickables_improve hd, ← hright]
  by_cases hkind : kind.isDocument = true
  · simp [hkind]
  · simp [hkind]

/-- **No surplus main landmark is left over for the sweeps**: none reacts to clicks or has a telling
class. -/
def SurplusQuiet (d : Document) : Prop :=
  ∀ n ∈ (d.elementsByTag "main").tail, d.attr? "onclick" n = none ∧ ¬ Seo.Telling d n

end Compilation

end ThemeCompiler
