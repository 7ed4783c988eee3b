/-
**The accessibility pass as a run.**

Each part of the accessibility pass keeps to a licence of its own, and the whole pass to their
union.  What a part settles at the elements it looks at, it settles at all of them: afterwards no
plain element reacts to clicks, every control says what it is, and every image is described or
marked as decoration.

Main definitions:

* `ThemeCompiler.Accessibility.hideLicence`, `ThemeCompiler.Accessibility.clickLicence`,
  `ThemeCompiler.Accessibility.labelLicence`, `ThemeCompiler.Accessibility.imageLicence`,
  `ThemeCompiler.Accessibility.roleLicence` — what the parts may change;
* `ThemeCompiler.Accessibility.accessLicence` — what the whole pass may change.

Main results:

* `ThemeCompiler.Accessibility.run_changes` — **the accessibility pass is a run**;
* `ThemeCompiler.Accessibility.settled_convertClickables`,
  `ThemeCompiler.Accessibility.settled_labelControls`,
  `ThemeCompiler.Accessibility.settled_markDecorative` — what its parts settle.
-/

import ThemeCompiler.Accessibility
import ThemeCompiler.Proofs.Document.Sweeps
import ThemeCompiler.Proofs.Landmarks

set_option relaxedAutoImplicit false
set_option autoImplicit false

namespace ThemeCompiler

open Document (Licence Run Step Relabels RelabelsAt lookupAttr countAttr)
open Pass (IsVisit)

namespace Accessibility

variable {d e : Document}

/-! ### Interactive elements -/

/-- Elements may come out of hiding. -/
def hideLicence : Licence := ⟨[], [], ["aria-hidden"], false⟩

theorem isElement_of_attr? {name value : String} {n : NodeId} (h : d.attr? name n = some value) :
    d.isElement n = true := by
  by_contra hn
  rw [Document.attr?, Document.attrs_of_not_isElement (by simpa using hn)] at h
  exact absurd h (by simp)

/-- A sweep that removes an attribute of some value wherever the sweep finds it. -/
theorem isVisit_removeAttr {l : Licence} {name : String} (hname : name ∈ l.drops) (value : String)
    (entry : Change) : IsVisit l (fun _ => True) fun d n =>
      if d.attr? name n == some value then some (d.removeAttr n name, entry) else none where
  relabels h := by
    split at h
    · cases h
      exact Document.relabelsAt_setAttrs ..
    · exact absurd h (by simp)
  run hn _ h := by
    split at h
    · next hvalue =>
        cases h
        exact Run.single (Step.setAttrs hn (isElement_of_attr? (by simpa using hvalue))
          (Licence.allows_dropAttr hname _))
    · exact absurd h (by simp)

theorem run_unhide (hd : d.WellFormed) : Run hideLicence d (unhide d).1 :=
  (isVisit_removeAttr (by decide) _ _).run_sweep hd fun _ _ => trivial

/-! ### What reacts to clicks -/

/-- Plain elements may become buttons. -/
def clickLicence : Licence :=
  ⟨primitiveTags.map fun tag => (tag, "button"), ["type"], [], false⟩

/-- **A button takes over everything from a plain element.** -/
theorem allows_buttonAttrs {n : NodeId} {handler : String}
    (h : d.attr? "onclick" n = some handler) :
    clickLicence.Allows (d.attrs n) (buttonAttrs d n handler) := by
  have hkept : ∀ name, name ≠ "type" → name ≠ "onclick" → ∀ a : Html.Attribute, a.name = name →
      (a.name != "onclick" && a.name != "type") = true := by
    intro name htype hclick a ha
    simp [ha, htype, hclick]
  refine ⟨fun name hs _ => ?_, fun name hs => ?_⟩
  · have htype : name ≠ "type" := by simpa [clickLicence] using hs
    rw [buttonAttrs, Document.lookupAttr_append, Document.lookupAttr_append,
      Document.lookupAttr_cons, Document.lookupAttr_cons, if_neg (Ne.symm htype)]
    by_cases hname : name = "onclick"
    · rw [hname, if_pos rfl, Document.lookupAttr_filter_eq_none _ fun a ha => by rw [ha]; rfl,
        ← Document.attr?_eq_lookupAttr, h]
      rfl
    · rw [if_neg (Ne.symm hname), Document.lookupAttr_filter _ (hkept name htype hname)]
      exact Option.or_none
  · have htype : name ≠ "type" := by simpa [clickLicence] using hs
    rw [buttonAttrs, Document.countAttr_append, Document.countAttr_append,
      Document.countAttr_cons, Document.countAttr_cons, if_neg (Ne.symm htype)]
    by_cases hname : name = "onclick"
    · have hnone := Document.countAttr_filter_eq_zero name
        (p := fun a => a.name != "onclick" && a.name != "type") (d.attrs n)
        fun a ha => by rw [ha, hname]; rfl
      have hpos : 0 < countAttr name (d.attrs n) := Document.countAttr_pos (by
        rw [hname, ← Document.attr?_eq_lookupAttr, h]
        rfl)
      rw [if_pos hname.symm]
      simp only [countAttr, List.countP_nil] at *
      omega
    · have hrest := Document.countAttr_filter_le name
        (fun a => a.name != "onclick" && a.name != "type") (d.attrs n)
      rw [if_neg (Ne.symm hname)]
      simp only [countAttr, List.countP_nil] at *
      omega

/-- The visit of the sweep over the plain elements. -/
theorem isVisit_convert : IsVisit clickLicence (fun tag => ∃ t ∈ primitiveTags, tag = some t)
    fun d n => match d.attr? "onclick" n with
      | none => none
      | some handler => some ((d.rename n "button").setAttrs n (buttonAttrs d n handler),
          Change.madeButton ((d.tag? n).getD "")) where
  relabels h := by
    split at h
    · exact absurd h (by simp)
    · cases h
      exact (Document.relabelsAt_rename ..).trans (Document.relabelsAt_setAttrs ..)
  run {d _ n _} hn hready h := by
    split at h
    · exact absurd h (by simp)
    · next handler hclick =>
        cases h
        obtain ⟨old, hold, htag⟩ := hready
        have hmain : ∀ tag ∈ primitiveTags, tag ≠ "main" := by decide
        have hrename : Step clickLicence d (d.rename n "button") :=
          Step.rename hn htag (List.mem_map.2 ⟨old, hold, rfl⟩) (fun h => absurd h (hmain old hold))
            fun h => absurd h (by decide)
        refine (Run.single hrename).tail (Step.setAttrs ?_ ?_ ?_)
        · rwa [(Document.relabels_rename ..).attached_eq]
        · rw [(Document.relabels_rename ..).isElement_eq]
          exact Document.isElement_iff_tag?.2 ⟨_, htag⟩
        · rw [Document.attrs_rename]
          exact allows_buttonAttrs hclick

theorem run_convertClickables (hd : d.WellFormed) :
    Run clickLicence d (convertClickables d).1 :=
  isVisit_convert.run_sweep hd fun _ hn => Document.hasTagIn_iff.1 hn

/-! ### The main landmark -/

theorem fixLandmarks_fst (mainId : String) (d : Document) :
    (fixLandmarks mainId d).1 = (Landmarks.normalize mainId d).1 := rfl

theorem run_fixLandmarks (hd : d.WellFormed) (mainId : String) :
    Run Landmarks.landmarkLicence d (fixLandmarks mainId d).1 := by
  rw [fixLandmarks_fst]
  exact Landmarks.run_normalize hd mainId

/-! ### Controls -/

/-- Controls may get a label. -/
def labelLicence : Licence := ⟨[], ["aria-label"], [], false⟩

/-- Whether a control needs no label of its own any more. -/
def isNamed (d : Document) (targets : List String) (n : NodeId) : Bool :=
  isHiddenInput d n || isLabelled d targets n || (filled? d "placeholder" n).isSome

/-- The visit of the sweep over the controls. -/
theorem isVisit_label (targets : List String) : IsVisit labelLicence (·.isSome = true)
    fun d n => if isNamed d targets n then none
      else some (d.setAttr n "aria-label" (suggestedLabel d n), Change.labelled (suggestedLabel d n))
    where
  relabels h := by
    split at h
    · exact absurd h (by simp)
    · cases h
      exact Document.relabelsAt_setAttrs ..
  run hn hready h := by
    split at h
    · exact absurd h (by simp)
    · cases h
      exact Run.single (Step.setAttrs hn hready (Licence.allows_putAttr (by decide) ..))

theorem isSome_tag?_of_hasTagIn {tags : List String} {n : NodeId} (h : d.hasTagIn tags n = true) :
    (d.tag? n).isSome = true := by
  obtain ⟨tag, _, htag⟩ := Document.hasTagIn_iff.1 h
  rw [htag]
  rfl

theorem run_labelControls (hd : d.WellFormed) : Run labelLicence d (labelControls d).1 :=
  (isVisit_label (labelTargets d)).run_sweep hd fun _ hn => isSome_tag?_of_hasTagIn hn

/-! ### Images -/

/-- Images may get an empty description and a role. -/
def imageLicence : Licence := ⟨[], ["alt", "role"], [], false⟩

/-- Whether an image is described or marked as decoration. -/
def isDescribed (d : Document) (n : NodeId) : Bool :=
  (filled? d "alt" n).isSome || d.hasAttr "alt" n && d.attr? "role" n == some "presentation"

/-- The visit of the sweep over the images. -/
theorem isVisit_mark : IsVisit imageLicence (·.isSome = true) fun d n =>
    if (filled? d "alt" n).isSome then none
    else if d.hasAttr "alt" n && d.attr? "role" n == some "presentation" then none
    else some ((d.setAttr n "alt" "").setAttr n "role" "presentation", Change.markedDecorative)
    where
  relabels h := by
    split at h
    · exact absurd h (by simp)
    · split at h
      · exact absurd h (by simp)
      · cases h
        exact (Document.relabelsAt_setAttrs ..).trans (Document.relabelsAt_setAttrs ..)
  run hn hready h := by
    split at h
    · exact absurd h (by simp)
    · split at h
      · exact absurd h (by simp)
      · cases h
        refine (Run.single (Step.setAttrs hn hready (Licence.allows_putAttr (by decide) ..))).tail
          (Step.setAttrs ?_ ?_ (Licence.allows_putAttr (by decide) ..))
        · rwa [(Document.relabels_setAttrs ..).attached_eq]
        · rw [(Document.relabels_setAttrs ..).isElement_eq]
          exact hready

theorem run_markDecorative (hd : d.WellFormed) : Run imageLicence d (markDecorative d).1 :=
  isVisit_mark.run_sweep hd fun _ hn => by
    rw [Document.hasTag_iff.1 hn]
    rfl

/-! ### Roles -/

/-- Roles may be dropped. -/
def roleLicence : Licence := ⟨[], [], ["role"], false⟩

/-- The sweep that drops the role of the elements with a tag. -/
def dropRole (tag role : String) : Pass Change :=
  Pass.sweep (·.elementsByTag tag) fun d n =>
    if d.attr? "role" n == some role then some (d.removeAttr n "role", .droppedRole tag) else none

theorem run_dropRole (hd : d.WellFormed) (tag role : String) :
    Run roleLicence d (dropRole tag role d).1 :=
  (isVisit_removeAttr (by decide) _ _).run_sweep hd fun _ _ => trivial

theorem dropRoles_fst (d : Document) : (dropRoles d).1 =
    (dropRole "footer" "contentinfo" (dropRole "nav" "navigation"
      (dropRole "main" "main" d).1).1).1 := by
  simp only [dropRoles, impliedRoles, List.map_cons, List.map_nil, Pass.fst_inTurn_cons,
    Pass.fst_inTurn_nil, dropRole]

theorem run_dropRoles (hd : d.WellFormed) : Run roleLicence d (dropRoles d).1 := by
  have h₁ := run_dropRole hd "main" "main"
  have hd₁ := h₁.wellFormed hd
  have h₂ := run_dropRole hd₁ "nav" "navigation"
  rw [dropRoles_fst]
  exact (h₁.trans h₂).trans (run_dropRole (h₂.wellFormed hd₁) ..)

/-! ### The whole pass -/

/-- The accessibility pass is its parts, one after the other. -/
theorem changes_fst (mainId : String) (d : Document) :
    (changes mainId d).1 = (dropRoles (markDecorative (labelControls (fixLandmarks mainId
      (convertClickables (unhide d).1).1).1).1).1).1 := by
  rw [changes]
  iterate 6 rw [Pass.fst_inTurn_cons]
  rw [Pass.fst_inTurn_nil]

theorem optimize_fst (mainId : String) (d : Document) :
    (optimize mainId d).1 = (changes mainId d).1 := by
  rw [optimize]

/-- **What the accessibility pass may change.** -/
def accessLicence : Licence :=
  ⟨clickLicence.retags ++ Landmarks.landmarkLicence.retags, ["type", "aria-label", "alt", "role"],
    ["aria-hidden", "role"], true⟩

/-- What comes after the sweep over the plain elements is a run. -/
theorem run_from_landmarks (hd : d.WellFormed) (mainId : String) :
    Run accessLicence d (dropRoles (markDecorative (labelControls
      (fixLandmarks mainId d).1).1).1).1 := by
  have h₁ := run_fixLandmarks hd mainId
  have hd₁ := h₁.wellFormed hd
  have h₂ := run_labelControls hd₁
  have hd₂ := h₂.wellFormed hd₁
  have h₃ := run_markDecorative hd₂
  have h₄ := run_dropRoles (h₃.wellFormed hd₂)
  refine (((h₁.mono ?_).trans (h₂.mono ?_)).trans (h₃.mono ?_)).trans (h₄.mono ?_)
  all_goals decide

/-- What comes after the sweep over the interactive elements is a run. -/
theorem run_from_clickables (hd : d.WellFormed) (mainId : String) :
    Run accessLicence d (dropRoles (markDecorative (labelControls (fixLandmarks mainId
      (convertClickables d).1).1).1).1).1 := by
  have h₁ := run_convertClickables hd
  refine (h₁.mono ?_).trans (run_from_landmarks (h₁.wellFormed hd) mainId)
  decide

/-- **The accessibility pass is a run.** -/
theorem run_changes (hd : d.WellFormed) (mainId : String) :
    Run accessLicence d (changes mainId d).1 := by
  have h₁ := run_unhide hd
  rw [changes_fst]
  refine (h₁.mono ?_).trans (run_from_clickables (h₁.wellFormed hd) mainId)
  decide

/-! ### What is settled -/

/-- **No plain element reacts to clicks** after the sweep over the plain elements. -/
theorem settled_convertClickables (hd : d.WellFormed) {n : NodeId}
    (hn : n ∈ (convertClickables d).1.attached)
    (htag : (convertClickables d).1.hasTagIn primitiveTags n = true) :
    (convertClickables d).1.attr? "onclick" n = none := by
  have hrun := run_convertClickables hd
  have hmem := hrun.mem_attached hd rfl hn
  obtain ⟨tag, hplain, htag'⟩ := Document.hasTagIn_iff.1 htag
  have hbutton : ∀ r ∈ clickLicence.retags, r.2 ∉ primitiveTags := by decide
  have hold : d.tag? n = some tag := by
    refine hrun.tag?_of_tag? hd (fun r hr htag => ?_) (hd.lt_nextId hmem) htag'
    exact absurd (htag ▸ hplain) (hbutton r hr)
  refine isVisit_convert.settled_sweep hd (fun _ hn => Document.hasTagIn_iff.1 hn)
    (P := fun e m => e.hasTagIn primitiveTags m = true → e.attr? "onclick" m = none)
    (fun heq hdone => ?_) (fun _ hnone _ => ?_) (fun hready hsome htag => ?_) hmem
    (Document.hasTagIn_iff.2 ⟨tag, hplain, hold⟩) htag
  · rwa [Document.hasTagIn_congr (Document.tag?_congr heq),
      Document.attr?_congr (Document.attrs_congr heq)]
  · split at hnone
    · next hclick => exact hclick
    · exact absurd hnone (by simp)
  · split at hsome
    · exact absurd hsome (by simp)
    · cases hsome
      obtain ⟨old, _, hold⟩ := hready
      rw [Document.hasTagIn, Document.tag?_setAttrs, Document.tag?_rename, if_pos rfl, hold,
        Option.map_some] at htag
      exact absurd htag (by decide)

theorem isNamed_congr {n : NodeId} (h : e.nodes.value? n = d.nodes.value? n)
    (targets : List String) : isNamed e targets n = isNamed d targets n := by
  have hattr := Document.attr?_congr (Document.attrs_congr h)
  simp only [isNamed, isHiddenInput, isLabelled, filled?, hattr,
    Document.hasTag_congr (Document.tag?_congr h)]

/-- A control that got a label is named. -/
theorem isNamed_setLabel {n : NodeId} (hel : d.isElement n = true) (targets : List String) :
    isNamed (d.setAttr n "aria-label" (suggestedLabel d n)) targets n = true := by
  have hlabel : (d.setAttr n "aria-label" (suggestedLabel d n)).attr? "aria-label" n =
      some (suggestedLabel d n) := by
    rw [Document.attr?_eq_lookupAttr, Document.setAttr, Document.attrs_setAttrs,
      if_pos ⟨rfl, hel⟩, Document.lookupAttr_putAttr, if_pos rfl]
  have hfilled : (suggestedLabel d n).isEmpty = false := by
    have hsome : ∀ {name value : String}, filled? d name n = some value → value.isEmpty = false := by
      intro name value h
      simpa using (Option.filter_eq_some_iff.1 h).2
    rw [suggestedLabel]
    cases hname : filled? d "name" n with
    | some value => exact hsome hname
    | none =>
        cases htype : filled? d "type" n with
        | some value => exact hsome htype
        | none => rfl
  have hnamed : (filled? (d.setAttr n "aria-label" (suggestedLabel d n)) "aria-label" n).isSome =
      true := by
    rw [filled?, hlabel, Option.filter_some, hfilled]
    rfl
  simp only [isNamed, isLabelled, hnamed, Bool.or_true, Bool.true_or]

/-- **Every control says what it is** after the sweep over the controls. -/
theorem settled_labelControls (hd : d.WellFormed) {n : NodeId}
    (hn : n ∈ (labelControls d).1.attached)
    (htag : (labelControls d).1.hasTagIn controlTags n = true) :
    isNamed (labelControls d).1 (labelTargets d) n = true := by
  have hvisit := isVisit_label (labelTargets d)
  have hmem := (run_labelControls hd).mem_attached hd rfl hn
  obtain ⟨tag, hcontrol, htag'⟩ := Document.hasTagIn_iff.1 htag
  have hold : d.tag? n = some tag :=
    (run_labelControls hd).tag?_of_tag? hd (by simp [labelLicence]) (hd.lt_nextId hmem) htag'
  refine hvisit.settled_sweep hd (fun _ hn => isSome_tag?_of_hasTagIn hn)
    (P := fun e m => isNamed e (labelTargets d) m = true)
    (fun heq hdone => ?_) (fun _ hnone => ?_) (fun hready hsome => ?_) hmem
    (Document.hasTagIn_iff.2 ⟨tag, hcontrol, hold⟩)
  · rwa [isNamed_congr heq]
  · by_contra hno
    rw [if_neg hno] at hnone
    exact absurd hnone (by simp)
  · split at hsome
    · exact absurd hsome (by simp)
    · cases hsome
      exact isNamed_setLabel hready _

theorem isDescribed_congr {n : NodeId} (h : e.nodes.value? n = d.nodes.value? n) :
    isDescribed e n = isDescribed d n := by
  have hattr := Document.attr?_congr (Document.attrs_congr h)
  simp only [isDescribed, filled?, Document.hasAttr, hattr]

/-- An image that was marked is described. -/
theorem isDescribed_mark {n : NodeId} (hel : d.isElement n = true) :
    isDescribed ((d.setAttr n "alt" "").setAttr n "role" "presentation") n = true := by
  have hattrs : ((d.setAttr n "alt" "").setAttr n "role" "presentation").attrs n =
      Document.putAttr "role" "presentation" (Document.putAttr "alt" "" (d.attrs n)) := by
    have hel' : (d.setAttr n "alt" "").isElement n = true := by
      rw [Document.setAttr, (Document.relabels_setAttrs ..).isElement_eq, hel]
    rw [Document.setAttr, Document.attrs_setAttrs, if_pos ⟨rfl, hel'⟩, Document.setAttr,
      Document.attrs_setAttrs, if_pos ⟨rfl, hel⟩]
  have halt : ((d.setAttr n "alt" "").setAttr n "role" "presentation").attr? "alt" n = some "" := by
    rw [Document.attr?_eq_lookupAttr, hattrs, Document.lookupAttr_putAttr, if_neg (by decide),
      Document.lookupAttr_putAttr, if_pos rfl]
  have hrole : ((d.setAttr n "alt" "").setAttr n "role" "presentation").attr? "role" n =
      some "presentation" := by
    rw [Document.attr?_eq_lookupAttr, hattrs, Document.lookupAttr_putAttr, if_pos rfl]
  rw [isDescribed, Document.hasAttr, halt, hrole]
  simp

/-- **Every image is described or marked as decoration** after the sweep over the images. -/
theorem settled_markDecorative (hd : d.WellFormed) {n : NodeId}
    (hn : n ∈ (markDecorative d).1.attached) (htag : (markDecorative d).1.tag? n = some "img") :
    isDescribed (markDecorative d).1 n = true := by
  have hmem := (run_markDecorative hd).mem_attached hd rfl hn
  have hold : d.tag? n = some "img" :=
    (run_markDecorative hd).tag?_of_tag? hd (by simp [imageLicence]) (hd.lt_nextId hmem) htag
  have hready : ∀ m, d.hasTag "img" m = true → (d.tag? m).isSome = true := by
    intro m hm
    rw [Document.hasTag_iff.1 hm]
    rfl
  refine isVisit_mark.settled_sweep hd hready (P := fun e m => isDescribed e m = true)
    (fun heq hdone => ?_) (fun _ hnone => ?_) (fun hel hsome => ?_) hmem
    (Document.hasTag_iff.2 hold)
  · rwa [isDescribed_congr heq]
  · rw [isDescribed]
    split at hnone
    · next halt => rw [halt, Bool.true_or]
    · split at hnone
      · next hmarked => rw [hmarked, Bool.or_true]
      · exact absurd hnone (by simp)
  · split at hsome
    · exact absurd hsome (by simp)
    · split at hsome
      · exact absurd hsome (by simp)
      · cases hsome
        exact isDescribed_mark hel

/-! ### Where nothing is to do -/

theorem unhide_eq_self (h : ∀ n ∈ d.attached, isInteractive d n = true →
    d.attr? "aria-hidden" n ≠ some "true") : unhide d = (d, []) := by
  refine Pass.visitAll_eq_self fun n hn => if_neg ?_
  obtain ⟨hmem, hinteractive⟩ := List.mem_filter.1 hn
  simpa using h n hmem hinteractive

theorem convertClickables_eq_self (h : ∀ n ∈ d.attached, d.hasTagIn primitiveTags n = true →
    d.attr? "onclick" n = none) : convertClickables d = (d, []) := by
  refine Pass.visitAll_eq_self fun n hn => ?_
  obtain ⟨hmem, hplain⟩ := List.mem_filter.1 hn
  rw [h n hmem hplain]

theorem fixLandmarks_eq_self {mainId : String} {m : NodeId} (h : d.elementsByTag "main" = [m]) :
    fixLandmarks mainId d = (d, []) := by
  rw [fixLandmarks, Landmarks.normalize_eq_self h]
  rfl

theorem labelControls_eq_self (h : ∀ n ∈ d.attached, d.hasTagIn controlTags n = true →
    isNamed d (labelTargets d) n = true) : labelControls d = (d, []) := by
  refine Pass.visitAll_eq_self fun n hn => if_pos ?_
  obtain ⟨hmem, htag⟩ := List.mem_filter.1 hn
  exact h n hmem htag

theorem markDecorative_eq_self (h : ∀ n ∈ d.attached, d.tag? n = some "img" →
    isDescribed d n = true) : markDecorative d = (d, []) := by
  refine Pass.visitAll_eq_self fun n hn => ?_
  obtain ⟨hmem, htag⟩ := Document.mem_elementsByTag.1 hn
  have hdescribed := h n hmem htag
  rw [isDescribed, Bool.or_eq_true] at hdescribed
  rcases hdescribed with hfilled | hmarked
  · rw [if_pos hfilled]
  · rw [if_pos hmarked, ite_self]

theorem dropRole_eq_self {tag role : String} (h : ∀ n ∈ d.attached, d.tag? n = some tag →
    d.attr? "role" n ≠ some role) : dropRole tag role d = (d, []) := by
  refine Pass.visitAll_eq_self fun n hn => if_neg ?_
  obtain ⟨hmem, htag⟩ := Document.mem_elementsByTag.1 hn
  simpa using h n hmem htag

theorem dropRoles_eq_self (h : ∀ n ∈ d.attached, ∀ p ∈ impliedRoles, d.tag? n = some p.1 →
    d.attr? "role" n ≠ some p.2) : dropRoles d = (d, []) := by
  have hdrop : ∀ p ∈ impliedRoles, dropRole p.1 p.2 d = (d, []) := fun p hp =>
    dropRole_eq_self fun n hn htag => h n hn p hp htag
  exact Pass.inTurn_eq_self fun pass hpass => by
    obtain ⟨p, hp, rfl⟩ := List.mem_map.1 hpass
    exact hdrop p hp

end Accessibility

end ThemeCompiler
