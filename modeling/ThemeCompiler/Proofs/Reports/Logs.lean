/-
**What the reports of the two passes tell.**

A log is empty exactly when the pass changed nothing.  That a pass without a log changed nothing is
seen part by part: each change comes with its entry.  Conversely nothing is logged in vain.  A page
that comes out of the search pass with the same attached nodes is one on which no part of it finds
anything to do, and the page decides that.  For the accessibility pass the parts are taken one after
the other: what the first of them that does something changes, no later one changes back.

Main results:

* `ThemeCompiler.Seo.reported_changes`, `ThemeCompiler.Accessibility.reported_changes` — **what changes
  is logged**;
* `ThemeCompiler.Seo.changes_eq_self_of_unchanged`,
  `ThemeCompiler.Accessibility.changes_eq_self_of_unchanged` — **what is logged changes something**;
* `ThemeCompiler.Compilation.logs_eq_nil_iff` — both together, for both passes.
-/

import ThemeCompiler.Proofs.Compilation.Again
import ThemeCompiler.Proofs.Reports.Search

set_option relaxedAutoImplicit false
set_option autoImplicit false

namespace ThemeCompiler

open Document (Licence Run SameTree)
open Pass (Reported reported_sweep reported_inTurn)

/-! ### What changes is logged -/

namespace Landmarks

variable {d : Document}

theorem unwrapAll_of_zero {nodes : List NodeId} (h : (unwrapAll nodes d).2 = 0) :
    (unwrapAll nodes d).1 = d := by
  induction nodes with
  | nil => rfl
  | cons n rest ih =>
      rw [unwrapAll] at h ⊢
      cases hone : unwrapOne d n with
      | none =>
          rw [hone] at h
          exact ih h
      | some changed =>
          rw [hone] at h
          exact absurd h (Nat.succ_ne_zero _)

/-- A document from which no wrapper went is as it was. -/
theorem flatten_of_zero {cap : Nat} (h : (flatten cap d).2 = 0) : (flatten cap d).1 = d := by
  cases cap with
  | zero => rfl
  | succ cap =>
      rw [flatten] at h ⊢
      by_cases hone : (flattenOnce d).2 = 0
      · rw [if_pos hone]
        exact unwrapAll_of_zero hone
      · rw [if_neg hone] at h
        exact absurd (Nat.add_eq_zero_iff.1 h).1 hone

/-- A document whose main landmark needed no change is as it was. -/
theorem normalize_of_outcome {mainId : String} (hdemoted : (normalize mainId d).2.demoted = 0)
    (hadded : (normalize mainId d).2.synthesized = false) : (normalize mainId d).1 = d := by
  rw [normalize] at hdemoted hadded ⊢
  cases hmains : d.elementsByTag "main" with
  | nil =>
      cases hbody : d.body? with
      | none => rfl
      | some body =>
          rw [hmains, hbody] at hadded
          exact absurd hadded (by simp)
  | cons first surplus =>
      rw [hmains] at hdemoted
      rw [List.length_eq_zero_iff.1 hdemoted]
      rfl

end Landmarks

namespace Seo

theorem reported_promoteH2 : Reported promoteH2 := by
  intro d hlog
  rw [promoteH2] at hlog ⊢
  split at hlog
  · exact absurd hlog (List.cons_ne_nil _ _)
  · rfl

theorem reported_repairWithin (cap : Nat) : Reported (repairWithin cap) := by
  intro d hlog
  cases cap with
  | zero => rfl
  | succ cap =>
      rw [repairWithin] at hlog ⊢
      cases hskip : firstSkip (headings d) with
      | none => rfl
      | some skip =>
          rw [hskip] at hlog
          exact absurd hlog (List.cons_ne_nil _ _)

theorem reported_prune (cap : Nat) : Reported (prune cap) := by
  intro d hlog
  rw [prune] at hlog ⊢
  by_cases hzero : (Landmarks.flatten cap d).2 = 0
  · exact Landmarks.flatten_of_zero hzero
  · rw [if_neg hzero] at hlog
    exact absurd hlog (List.cons_ne_nil _ _)

/-- **The search pass logs what it changes.** -/
theorem reported_changes (cap : Nat) : Reported (changes cap) := by
  refine reported_inTurn fun pass hpass => ?_
  simp only [List.mem_cons, List.not_mem_nil, or_false] at hpass
  rcases hpass with rfl | rfl | rfl | rfl | rfl | rfl | rfl
  · exact reported_sweep _ _
  · exact reported_promoteH2
  · exact fun d => reported_repairWithin _ d
  · exact reported_prune cap
  · exact reported_sweep _ _
  · exact reported_sweep _ _
  · exact reported_sweep _ _

end Seo

namespace Accessibility

theorem reported_fixLandmarks (mainId : String) : Reported (fixLandmarks mainId) := by
  intro d hlog
  rw [fixLandmarks] at hlog ⊢
  obtain ⟨hdemoted, hadded⟩ := List.append_eq_nil_iff.1 hlog
  refine Landmarks.normalize_of_outcome ?_ ?_
  · by_contra hne
    rw [if_neg hne] at hdemoted
    exact absurd hdemoted (List.cons_ne_nil _ _)
  · by_contra hne
    rw [if_pos (by simpa using hne)] at hadded
    exact absurd hadded (List.cons_ne_nil _ _)

/-- **The accessibility pass logs what it changes.** -/
theorem reported_changes (mainId : String) : Reported (changes mainId) := by
  refine reported_inTurn fun pass hpass => ?_
  simp only [List.mem_cons, List.not_mem_nil, or_false] at hpass
  rcases hpass with rfl | rfl | rfl | rfl | rfl | rfl
  · exact reported_sweep _ _
  · exact reported_sweep _ _
  · exact reported_fixLandmarks mainId
  · exact fun d => reported_sweep _ _ d
  · exact reported_sweep _ _
  · refine reported_inTurn fun sweep hsweep => ?_
    obtain ⟨p, _, rfl⟩ := List.mem_map.1 hsweep
    exact reported_sweep _ _

end Accessibility

/-! ### Pages with the same attached nodes -/

namespace Compilation

variable {d e : Document} {l : Licence}

/-- **On an unchanged page every attached node is as it was.** -/
theorem Unchanged.value?_eq (h : Unchanged d e) (hrun : Run l d e) (hd : d.WellFormed) {n : NodeId}
    (hn : d.Placed n) : e.nodes.value? n = d.nodes.value? n := by
  rcases hn with rfl | hn
  · exact hrun.value?_of_not_mem hd hd.nodes.root_lt (hd.nodes.root_not_mem_descendants _)
  · rcases hrun.element_iff hd (hd.lt_nextId hn) with hel | hel
    · obtain ⟨tag, attrs, hv⟩ := Document.isElement_iff.1 hel.1
      obtain ⟨tag', attrs', hv'⟩ := Document.isElement_iff.1 hel.2
      have htag : tag' = tag := by
        simpa [Document.tag?, hv, hv'] using h.tag?_eq n (Or.inr hn)
      have hattrs : attrs' = attrs := by
        simpa [Document.attrs, hv, hv'] using h.attrs_eq n (Or.inr hn)
      rw [hv, hv', htag, hattrs]
    · exact hel.2

theorem Unchanged.sameTree (h : Unchanged d e) (hrun : Run l d e) (hd : d.WellFormed) :
    SameTree d e where
  children_eq := h.children_eq
  tag?_eq := h.tag?_eq
  ownText_eq n hn := by rw [Document.ownText, Document.ownText, h.value?_eq hrun hd hn]

end Compilation

/-! ### What is logged changes something -/

open Compilation (Unchanged)

/-- **A page that comes out of the search pass unchanged** gave it nothing to do. -/
theorem Seo.changes_eq_self_of_unchanged {d : Document} (hd : d.WellFormed) {cap : Nat}
    (hu : Unchanged d (Seo.changes cap d).1) : Seo.changes cap d = (d, []) := by
  have hrun := Seo.run_changes hd cap
  have hsearched := (Seo.searched_changes hd cap).of_sameTree (hu.sameTree hrun hd) hd
    (hrun.wellFormed hd) fun n hn => hu.attrs_eq n (Or.inr hn)
  exact hsearched.changes_eq_self

namespace Accessibility

variable {d : Document} {mainId : String}

/-- The main landmark of a page that comes out unchanged needed no change. -/
theorem fixLandmarks_eq_self_of_mains (hd : d.WellFormed)
    (hmains : (changes mainId d).1.elementsByTag "main" = d.elementsByTag "main") :
    fixLandmarks mainId d = (d, []) := by
  cases hm : d.elementsByTag "main" with
  | nil =>
      cases hbody : d.body? with
      | none =>
          rw [fixLandmarks, Landmarks.normalize, hm, hbody]
          rfl
      | some body =>
          obtain ⟨m, hone⟩ := exists_mains_changes hd hbody mainId
          rw [hmains, hm] at hone
          exact absurd hone (by simp)
  | cons first surplus =>
      have hone := mains_changes hd mainId hm
      exact fixLandmarks_eq_self (hmains.symm.trans hone)

/-- **A page that comes out of the accessibility pass unchanged** gave it nothing to do. -/
theorem changes_eq_self_of_unchanged (hd : d.WellFormed) (hu : Unchanged d (changes mainId d).1) :
    changes mainId d = (d, []) := by
  have hrun := run_changes hd mainId
  have htree := hu.sameTree hrun hd
  have hwf := hrun.wellFormed hd
  have htags : ∀ n ∈ d.attached, (changes mainId d).1.tag? n = d.tag? n := fun n hn =>
    hu.tag?_eq n (Or.inr hn)
  have hattrs : ∀ n ∈ d.attached, (changes mainId d).1.attrs n = d.attrs n := fun n hn =>
    hu.attrs_eq n (Or.inr hn)
  have hvalue : ∀ n ∈ d.attached, (changes mainId d).1.nodes.value? n = d.nodes.value? n :=
    fun n hn => hu.value?_eq hrun hd (Or.inr hn)
  have hmem : ∀ n ∈ d.attached, n ∈ (changes mainId d).1.attached := fun n hn => by
    rwa [htree.attached_eq hd hwf]
  -- what the later parts settle is settled on the page, since the page is the same
  have hlandmarks := fixLandmarks_eq_self_of_mains hd (htree.elementsByTag_eq hd hwf "main")
  have htargets : labelTargets (changes mainId d).1 = labelTargets d := by
    rw [labelTargets, labelTargets, htree.elementsByTag_eq hd hwf]
    refine List.filterMap_congr fun n hn => ?_
    rw [filled?, filled?, Document.attr?_congr (hattrs n (List.mem_filter.1 hn).1)]
  obtain ⟨hcontrols, himages⟩ := settled_changes hd mainId
  have hlabels : labelControls d = (d, []) := by
    refine labelControls_eq_self fun n hn htag => ?_
    rw [← isNamed_congr (hvalue n hn), ← htargets]
    exact hcontrols n (hmem n hn) ((Document.hasTagIn_congr (htags n hn) _).trans htag)
  have hmarks : markDecorative d = (d, []) := by
    refine markDecorative_eq_self fun n hn htag => ?_
    rw [← isDescribed_congr (hvalue n hn)]
    exact himages n (hmem n hn) ((htags n hn).trans htag)
  -- the sweep over the interactive elements removed no attribute, for none is put back
  rw [changes_fst] at htags hattrs
  have hshown : unhide d = (d, []) := by
    have hrest := run_from_clickables ((run_unhide hd).wellFormed hd) mainId
    exact unhide_eq_self (Compilation.Optimized.attr?_ne_of_attrs_eq (l := hideLicence) (by decide)
      (by decide) (by decide) hd hrest hattrs)
  rw [hshown] at htags hattrs
  -- nor did the one over the plain elements make a button
  have hplain : convertClickables d = (d, []) := by
    have hrest := run_from_landmarks ((run_convertClickables hd).wellFormed hd) mainId
    exact convertClickables_eq_self (Compilation.Optimized.plain_of_tag?_eq hd
      (hrest.mono Compilation.accessLicence_within) htags)
  rw [hplain, hlandmarks, hlabels, hmarks] at hattrs
  have hroles : dropRoles d = (d, []) :=
    dropRoles_eq_self (Compilation.Optimized.roles_of_attrs_eq hd Run.refl hattrs)
  refine Pass.inTurn_eq_self fun pass hpass => ?_
  simp only [List.mem_cons, List.not_mem_nil, or_false] at hpass
  rcases hpass with rfl | rfl | rfl | rfl | rfl | rfl
  · exact hshown
  · exact hplain
  · exact hlandmarks
  · exact hlabels
  · exact hmarks
  · exact hroles

end Accessibility

namespace Compilation

variable {d : Document}

/-- **The reports are faithful.**  Each pass logs nothing exactly when it left every attached node with
its tag, its attributes and its children. -/
theorem logs_eq_nil_iff (hd : d.WellFormed) (cap : Nat) (mainId : String) :
    ((Seo.optimize cap d).2.logs = [] ↔ Unchanged d (Seo.optimize cap d).1) ∧
      ((Accessibility.optimize mainId d).2.logs = [] ↔
        Unchanged d (Accessibility.optimize mainId d).1) := by
  rw [Seo.optimize_fst, Accessibility.optimize_fst, Seo.optimize, Accessibility.optimize,
    List.map_eq_nil_iff, List.map_eq_nil_iff]
  refine ⟨⟨fun hlog => ?_, fun hu => ?_⟩, fun hlog => ?_, fun hu => ?_⟩
  · rw [Seo.reported_changes cap d hlog]
    exact Unchanged.refl d
  · rw [Seo.changes_eq_self_of_unchanged hd hu]
  · rw [Accessibility.reported_changes mainId d hlog]
    exact Unchanged.refl d
  · rw [Accessibility.changes_eq_self_of_unchanged hd hu]

/-- A page on which the search pass finds nothing to do and the accessibility pass an image with an
empty description, which is not marked. -/
theorem logs_eq_nil_iff_image :
    let d := Document.parse "<main><h1>a</h1><img alt=\"\"></main>"
    d.WellFormed ∧ Unchanged d (Seo.optimize 5 d).1 ∧
      ¬ Unchanged d (Accessibility.optimize "main-content" d).1 := by
  have hwf := Document.WellFormed.parse "<main><h1>a</h1><img alt=\"\"></main>"
  obtain ⟨hsearch, haccess⟩ := logs_eq_nil_iff hwf 5 "main-content"
  refine ⟨hwf, hsearch.1 (by decide +kernel), fun hu => ?_⟩
  have hlog : (Accessibility.optimize "main-content"
      (Document.parse "<main><h1>a</h1><img alt=\"\"></main>")).2.logs.length = 1 := by
    decide +kernel
  rw [haccess.2 hu] at hlog
  exact absurd hlog (by decide)

end Compilation

end ThemeCompiler
