/-
**The plain elements that react to clicks.**

The sweep over the plain elements leaves none of them, but the surplus main landmarks become plain
divisions only after it.  Those that react to clicks are what is left on an improved page, unless the
landmarks were normalized at the beginning, as in a document.

Main definitions:

* `ThemeCompiler.Accessibility.clickables` — the plain elements that react to clicks;
* `ThemeCompiler.Compilation.clickableSurplus` — the surplus main landmarks that do.

Main results:

* `ThemeCompiler.Accessibility.clickables_normalize` — **normalization makes them of surplus main
  landmarks**;
* `ThemeCompiler.Compilation.clickables_improve` — **what is left of them on an improved page**.
-/

import ThemeCompiler.Proofs.Compilation.Optimized

set_option relaxedAutoImplicit false
set_option autoImplicit false

namespace ThemeCompiler

open Document (Licence Run)

namespace Accessibility

variable {l : Licence} {d e : Document}

/-- **The plain elements that react to clicks.** -/
def clickables (d : Document) : List NodeId :=
  (d.elementsByTags primitiveTags).filter (d.hasAttr "onclick")

theorem clickables_eq (d : Document) :
    clickables d = d.attached.filter fun n => d.hasAttr "onclick" n && d.hasTagIn primitiveTags n :=
  List.filter_filter

theorem hasAttr_eq (h : Run l d e) (hd : d.WellFormed) {n : NodeId} (hn : n ∈ d.attached)
    (hs : "onclick" ∉ l.sets) (hdr : "onclick" ∉ l.drops) :
    e.hasAttr "onclick" n = d.hasAttr "onclick" n := by
  rw [Document.hasAttr, Document.hasAttr, h.attr?_eq hd (hd.lt_nextId hn) hs hdr]

/-- **A run that gives no tags leaves them alone.** -/
theorem clickables_run (h : Run l d e) (hd : d.WellFormed) (hretags : l.retags = [])
    (hs : "onclick" ∉ l.sets) (hdr : "onclick" ∉ l.drops) : clickables e = clickables d := by
  have hsame : ∀ n ∈ d.attached, (e.hasAttr "onclick" n && e.hasTagIn primitiveTags n) =
      (d.hasAttr "onclick" n && d.hasTagIn primitiveTags n) := by
    intro n hn
    rw [hasAttr_eq h hd hn hs hdr,
      Document.hasTagIn_congr (h.tag?_eq_of_nil hd hretags (hd.lt_nextId hn))]
  rw [clickables_eq, clickables_eq]
  refine (h.keeps hd).filter_attached_eq (fun n hn _ => hsame n hn) (fun n hn hn' => ?_)
    fun n hn hn' => ?_
  · rw [← hsame n hn]
    -- what goes has no attributes, or no tag
    rcases h.removed hd hn hn' with hdiv | ⟨hel, _⟩
    · have hnone : e.attr? "onclick" n = none := by
        rw [Document.attr?_eq_lookupAttr, Document.attrs, hdiv]
        rfl
      rw [Document.hasAttr, hnone]
      rfl
    · have hnone : e.tag? n = none := by simpa [Document.isElement] using hel
      rw [Document.hasTagIn, hnone, Option.any_none, Bool.and_false]
  · rw [Document.hasTagIn, h.tag?_of_added hd hn hn']
    exact Bool.and_false _

/-- The sweep over the plain elements leaves none. -/
theorem clickables_convertClickables (hd : d.WellFormed) :
    clickables (convertClickables d).1 = [] := by
  rw [clickables_eq, List.filter_eq_nil_iff]
  intro n hn hclick
  obtain ⟨hattr, htag⟩ := Bool.and_eq_true_iff.1 hclick
  rw [Document.hasAttr, settled_convertClickables hd hn htag] at hattr
  exact absurd hattr (by simp)

/-- Wrapping the content of the body, the only change without a main landmark. -/
theorem run_normalize_of_nil (hm : d.elementsByTag "main" = []) (mainId : String) :
    Run ⟨[], [], [], true⟩ d (Landmarks.normalize mainId d).1 := by
  cases hb : d.body? with
  | none =>
      rw [Landmarks.normalize_nil_none hm hb]
      exact Run.refl
  | some body =>
      rw [Landmarks.normalize_nil_some hm hb]
      exact Run.single (Document.Step.wrap rfl hm hb)

/-- **Normalization makes plain elements of the surplus main landmarks.** -/
theorem clickables_normalize (hd : d.WellFormed) (hnone : clickables d = []) (mainId : String) :
    clickables (Landmarks.normalize mainId d).1 =
      (d.elementsByTag "main").tail.filter (d.hasAttr "onclick") := by
  cases hm : d.elementsByTag "main" with
  | nil =>
      rw [clickables_run (run_normalize_of_nil hm mainId) hd rfl (by simp) (by simp), hnone]
      rfl
  | cons first surplus =>
      obtain ⟨hrelabels, hlabels⟩ := Document.foldl_rename "div" surplus d
      obtain ⟨hnot, _⟩ : first ∉ surplus ∧ surplus.Nodup := by
        rw [← List.nodup_cons, ← hm]
        exact hd.nodup_attached.filter _
      have hplain : ∀ n ∈ d.attached,
          (d.hasAttr "onclick" n &&
            (surplus.foldl (fun e n => e.rename n "div") d).hasTagIn primitiveTags n) =
          (d.hasAttr "onclick" n && (decide (n ∈ surplus) && d.hasTag "main" n)) := by
        intro n hn
        -- a surplus landmark is a division now; anything else is as plain as it was
        by_cases hsurplus : n ∈ surplus
        · have hmain : d.tag? n = some "main" :=
            (Document.mem_elementsByTag.1 (hm ▸ List.mem_cons_of_mem first hsurplus)).2
          rw [Document.hasTagIn, (hlabels n).2, if_pos hsurplus, Document.hasTag, hmain]
          simp only [hsurplus, decide_true]
          rfl
        · have hquiet : (d.hasAttr "onclick" n && d.hasTagIn primitiveTags n) = false := by
            rw [clickables_eq, List.filter_eq_nil_iff] at hnone
            simpa using hnone n hn
          rw [Document.hasTagIn, (hlabels n).2, if_neg hsurplus, ← Document.hasTagIn, hquiet]
          simp [hsurplus]
      calc clickables (Landmarks.normalize mainId d).1
          = d.attached.filter fun n =>
              d.hasAttr "onclick" n && (decide (n ∈ surplus) && d.hasTag "main" n) := by
            rw [Landmarks.normalize_cons hm, clickables_eq, hrelabels.attached_eq]
            refine List.filter_congr fun n hn => ?_
            rw [← hplain n hn, Document.hasAttr, Document.attr?_congr (hlabels n).1,
              ← Document.hasAttr]
        _ = ((first :: surplus).filter (· ∈ surplus)).filter (d.hasAttr "onclick") := by
            rw [← hm, Document.elementsByTag, List.filter_filter, List.filter_filter]
            simp only [Bool.and_assoc]
        _ = surplus.filter (d.hasAttr "onclick") := by
            have hall : surplus.filter (· ∈ surplus) = surplus :=
              List.filter_eq_self.2 fun n hn => by simpa using hn
            rw [List.filter_cons_of_neg (by simpa using hnot), hall]

/-- **The accessibility pass leaves those that were surplus main landmarks.** -/
theorem clickables_changes (hd : d.WellFormed) (mainId : String) :
    clickables (changes mainId d).1 =
      (d.elementsByTag "main").tail.filter (d.hasAttr "onclick") := by
  have h₂ := run_buttons hd
  have hd₂ := h₂.wellFormed hd
  have hd₃ := (Landmarks.run_normalize hd₂ mainId).wellFormed hd₂
  have hquiet := clickables_convertClickables ((run_unhide hd).wellFormed hd)
  rw [clickables_run (run_after_normalize hd mainId) hd₃ rfl (by decide) (by decide),
    clickables_normalize hd₂ hquiet, h₂.tail_mains hd (by decide)]
  refine List.filter_congr fun n hn => ?_
  have hmem := (Document.mem_elementsByTag.1 (List.mem_of_mem_tail hn)).1
  exact hasAttr_eq h₂ hd hmem (by decide) (by decide)

end Accessibility

namespace Compilation

open Accessibility (clickables)

variable {l : Licence} {d e : Document}

/-- **The surplus main landmarks that react to clicks.** -/
def clickableSurplus (d : Document) : List NodeId :=
  (d.elementsByTag "main").tail.filter (d.hasAttr "onclick")

/-- A run that gives a main landmark no other tag keeps them. -/
theorem clickableSurplus_run (h : Run l d e) (hd : d.WellFormed)
    (hretags : ∀ r ∈ l.retags, r.1 ≠ "main") (hs : "onclick" ∉ l.sets) (hdr : "onclick" ∉ l.drops) :
    clickableSurplus e = clickableSurplus d := by
  rw [clickableSurplus, h.tail_mains hd hretags]
  refine List.filter_congr fun n hn => ?_
  exact Accessibility.hasAttr_eq h hd
    (Document.mem_elementsByTag.1 (List.mem_of_mem_tail hn)).1 hs hdr

/-- Normalization leaves no surplus. -/
theorem tail_mains_normalize (hd : d.WellFormed) (mainId : String) :
    ((Landmarks.normalize mainId d).1.elementsByTag "main").tail = [] := by
  cases hm : d.elementsByTag "main" with
  | nil =>
      rw [(Accessibility.run_normalize_of_nil hm mainId).tail_mains hd (by simp), hm]
      rfl
  | cons first surplus =>
      rw [Landmarks.mains_normalize_cons hd hm]
      rfl

/-- **The surplus that the accessibility pass finds**: none in a document, and in anything else what
was there. -/
theorem tail_mains_search (hd : d.WellFormed) (config : Config) (kind : TemplateKind) :
    ((Seo.changes config.pruneIterations (structured config kind d)).1.elementsByTag "main").tail =
      if kind.isDocument then [] else (d.elementsByTag "main").tail := by
  have hflatten : ∀ {x : Document}, x.WellFormed →
      ((Landmarks.flatten config.flattenIterations x).1.elementsByTag "main").tail =
        (x.elementsByTag "main").tail :=
    fun hx => (Landmarks.run_flatten hx _).tail_mains hx (by decide)
  have hd₁ := (run_structured hd config kind).wellFormed hd
  rw [(Seo.run_changes hd₁ config.pruneIterations).tail_mains hd₁ (by decide), structured]
  split
  · rw [hflatten ((Landmarks.run_normalize hd _).wellFormed hd), tail_mains_normalize hd]
  · exact hflatten hd

/-- **What is left on an improved page** of the plain elements that react to clicks: nothing in a
document, and the surplus main landmarks that do in anything else. -/
theorem clickables_improve (hd : d.WellFormed) (config : Config) (kind : TemplateKind) :
    clickables (improve config kind d).1 = if kind.isDocument then [] else clickableSurplus d := by
  have h₁ := run_structured hd config kind
  have hd₁ := h₁.wellFormed hd
  have h₂ := Seo.run_changes hd₁ config.pruneIterations
  have hd₂ := h₂.wellFormed hd₁
  have hd₃ := (Accessibility.run_changes hd₂ config.mainLandmarkId).wellFormed hd₂
  have h₄ := Landmarks.run_flatten hd₃ config.flattenIterations
  rw [improve_fst, Accessibility.clickables_run h₄ hd₃ rfl (by decide) (by decide),
    Accessibility.clickables_changes hd₂, tail_mains_search hd]
  split
  · rfl
  · refine List.filter_congr fun n hn => ?_
    exact Accessibility.hasAttr_eq (h₁.trans (h₂.mono searchLicence_within)) hd
      (Document.mem_elementsByTag.1 (List.mem_of_mem_tail hn)).1 (by decide) (by decide)

end Compilation

end ThemeCompiler
