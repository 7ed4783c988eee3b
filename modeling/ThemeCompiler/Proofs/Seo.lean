/-
**The search pass as a run.**

Each part of the search pass keeps to a licence of its own, and the whole pass to their union.  The
repair of headings renames headings into headings, links to nowhere become buttons, divisions
become specialised elements, and images get a description.

Main definitions:

* `ThemeCompiler.Seo.headingLicence`, `ThemeCompiler.Seo.anchorLicence`,
  `ThemeCompiler.Seo.upgradeLicence`, `ThemeCompiler.Seo.altLicence` — what the parts may change;
* `ThemeCompiler.Seo.searchLicence` — what the whole pass may change;
* `ThemeCompiler.Seo.Telling` — a class that asks for a specialised element.

Main results:

* `ThemeCompiler.Seo.firstSkip_eq_some` — where a level is skipped;
* `ThemeCompiler.Seo.run_changes` — **the search pass is a run**;
* `ThemeCompiler.Seo.href_changes`, `ThemeCompiler.Seo.not_telling_changes` — afterwards no link leads
  nowhere, and no division has a telling class.
-/

import Mathlib.Tactic.FinCases
import Mathlib.Tactic.IntervalCases
import ThemeCompiler.Proofs.Document.Sweeps
import ThemeCompiler.Proofs.Landmarks
import ThemeCompiler.Seo

set_option relaxedAutoImplicit false
set_option autoImplicit false

namespace ThemeCompiler

open Document (Licence Run Step Relabels RelabelsAt lookupAttr countAttr)
open Pass (IsVisit)

namespace Seo

variable {d e : Document}

/-! ### Levels and tags of headings -/

theorem level?_eq_some {tag : String} {k : Nat} :
    level? tag = some k ↔ tag = headingTag k ∧ 1 ≤ k ∧ k ≤ 6 := by
  constructor
  · intro h
    unfold level? at h
    split at h <;> first | cases h; exact ⟨rfl, by omega⟩ | exact absurd h (by simp)
  · rintro ⟨rfl, h₁, h₂⟩
    interval_cases k <;> rfl

theorem lowerAscii_headingTag {k : Nat} (h₁ : 1 ≤ k) (h₂ : k ≤ 6) :
    Text.lowerAscii (headingTag k) = headingTag k := by
  interval_cases k <;> rfl

/-- The tags of headings are the tags with a level. -/
theorem mem_headingTags {tag : String} : tag ∈ headingTags ↔ ∃ k, level? tag = some k := by
  constructor
  · intro h
    fin_cases h <;> exact ⟨_, rfl⟩
  · rintro ⟨k, hk⟩
    obtain ⟨rfl, h₁, h₂⟩ := level?_eq_some.1 hk
    interval_cases k <;> decide

theorem mem_headings {n : NodeId} {k : Nat} :
    (n, k) ∈ headings d ↔ n ∈ d.attached ∧ (d.tag? n).bind level? = some k := by
  rw [headings, List.mem_filterMap]
  constructor
  · rintro ⟨m, hm, heq⟩
    obtain ⟨k', hk', hpair⟩ := Option.map_eq_some_iff.1 heq
    cases hpair
    exact ⟨(List.mem_filter.1 hm).1, hk'⟩
  · rintro ⟨hn, hk⟩
    obtain ⟨tag, htag, hlevel⟩ := Option.bind_eq_some_iff.1 hk
    refine ⟨n, List.mem_filter.2 ⟨hn, Document.hasTagIn_iff.2 ⟨tag, ?_, htag⟩⟩, by rw [hk]; rfl⟩
    exact mem_headingTags.2 ⟨k, hlevel⟩

/-- **Where a level is skipped**: at two headings one after the other. -/
theorem firstSkip_eq_some {list : List (NodeId × Nat)} {n : NodeId} {b k : Nat}
    (h : firstSkip list = some (n, b, k)) :
    ∃ before m after, list = before ++ (m, k - 1) :: (n, b) :: after ∧ 1 ≤ k ∧ k < b := by
  induction list with
  | nil => exact absurd h (by simp [firstSkip])
  | cons first rest ih =>
      cases rest with
      | nil => exact absurd h (by simp [firstSkip])
      | cons second rest =>
          rw [firstSkip] at h
          split at h
          · next hskip =>
              cases h
              exact ⟨[], first.1, rest, by simp, by omega, hskip⟩
          · obtain ⟨before, m, after, heq, hk, hkb⟩ := ih h
            exact ⟨first :: before, m, after, by rw [heq]; rfl, hk, hkb⟩

/-! ### Headings -/

/-- Headings may become headings of another level. -/
def headingLicence : Licence :=
  ⟨headingTags.flatMap fun old => headingTags.map fun new => (old, new), [], [], false⟩

theorem mem_retags_headingLicence {old new : String} :
    (old, new) ∈ headingLicence.retags ↔ old ∈ headingTags ∧ new ∈ headingTags := by
  simp [headingLicence]

/-- Renaming a heading into a heading is a step. -/
theorem step_renameHeading {n : NodeId} {old : String} {k : Nat} (hn : n ∈ d.attached)
    (hold : d.tag? n = some old) (hheading : old ∈ headingTags) (h₁ : 1 ≤ k) (h₂ : k ≤ 6) :
    Step headingLicence d (d.rename n (headingTag k)) := by
  have hlower := lowerAscii_headingTag h₁ h₂
  have hnew : headingTag k ∈ headingTags := mem_headingTags.2 ⟨k, level?_eq_some.2 ⟨rfl, h₁, h₂⟩⟩
  have hmain : ∀ tag ∈ headingTags, tag ≠ "main" := by decide
  refine Step.rename hn hold ?_ (fun h => absurd h (hmain old hheading)) fun h => ?_
  · rw [hlower]
    exact mem_retags_headingLicence.2 ⟨hheading, hnew⟩
  · rw [hlower] at h
    exact absurd h (hmain _ hnew)

theorem isVisit_dedupe : IsVisit headingLicence (· = some "h1")
    fun d n => some (d.rename n "h2", Change.demotedH1) where
  relabels h := by
    cases h
    exact Document.relabelsAt_rename ..
  run hn hready h := by
    cases h
    exact Run.single (step_renameHeading (k := 2) hn hready (by decide) (by decide) (by decide))

theorem run_dedupeH1 (hd : d.WellFormed) : Run headingLicence d (dedupeH1 d).1 := by
  have hsub : ((d.elementsByTag "h1").drop 1).Sublist d.attached :=
    (List.drop_sublist ..).trans List.filter_sublist
  refine isVisit_dedupe.run_visitAll (hd.nodup_attached.sublist hsub) fun n hn => ?_
  exact Document.mem_elementsByTag.1 (List.mem_of_mem_drop hn)

theorem run_promoteH2 : Run headingLicence d (promoteH2 d).1 := by
  rw [promoteH2]
  split
  · next n rest _ h2s =>
      have hmem : n ∈ d.elementsByTag "h2" := by rw [h2s]; exact List.mem_cons_self
      obtain ⟨hn, htag⟩ := Document.mem_elementsByTag.1 hmem
      exact Run.single (step_renameHeading (k := 1) hn htag (by decide) (by decide) (by decide))
  · exact Run.refl

/-- Moving up a heading that skips a level is a step. -/
theorem step_repair {n : NodeId} {b k : Nat} (h : firstSkip (headings d) = some (n, b, k)) :
    Step headingLicence d (d.rename n (headingTag k)) := by
  obtain ⟨before, m, after, heq, hk, hkb⟩ := firstSkip_eq_some h
  have hmem : (n, b) ∈ headings d := by rw [heq]; simp
  obtain ⟨hn, hlevel⟩ := mem_headings.1 hmem
  obtain ⟨old, hold, hlevel⟩ := Option.bind_eq_some_iff.1 hlevel
  obtain ⟨_, _, hb⟩ := level?_eq_some.1 hlevel
  exact step_renameHeading hn hold (mem_headingTags.2 ⟨b, hlevel⟩) hk (by omega)

theorem run_repairWithin (cap : Nat) : Run headingLicence d (repairWithin cap d).1 := by
  induction cap generalizing d with
  | zero => exact Run.refl
  | succ cap ih =>
      rw [repairWithin]
      split
      · exact Run.refl
      · next n b k h => exact (Run.single (step_repair h)).trans ih

/-! ### Links -/

/-- Links may become buttons, without what belongs to a link. -/
def anchorLicence : Licence := ⟨[("a", "button")], ["type"], ["href", "target", "rel"], false⟩

/-- The class list that a button takes over comes out as it was. -/
theorem lookupAttr_class (d : Document) (n : NodeId) (name : String) :
    lookupAttr name ((d.attr? "class" n).map (Html.Attribute.mk "class")).toList =
      if name = "class" then d.attr? "class" n else none := by
  cases d.attr? "class" n with
  | none => simp [lookupAttr]
  | some value =>
      rw [Option.map_some, Option.toList_some, Document.lookupAttr_cons]
      by_cases h : name = "class"
      · rw [if_pos h.symm, if_pos h]
      · rw [if_neg (Ne.symm h), if_neg h]
        rfl

theorem countAttr_class_le (d : Document) (n : NodeId) (name : String) :
    countAttr name ((d.attr? "class" n).map (Html.Attribute.mk "class")).toList ≤
      if name = "class" then countAttr name (d.attrs n) else 0 := by
  cases hclass : d.attr? "class" n with
  | none => exact Nat.zero_le _
  | some value =>
      rw [Option.map_some, Option.toList_some, Document.countAttr_cons]
      by_cases h : name = "class"
      · subst h
        have hpos : 0 < countAttr "class" (d.attrs n) := Document.countAttr_pos (by
          rw [← Document.attr?_eq_lookupAttr, hclass]
          rfl)
        simpa [countAttr] using hpos
      · rw [if_neg (Ne.symm h), if_neg h]
        exact Nat.le_refl _

/-- **A button takes over from a link what does not belong to a link.** -/
theorem allows_buttonAttrs (d : Document) (n : NodeId) :
    anchorLicence.Allows (d.attrs n) (buttonAttrs d n) := by
  have hlinks : ∀ name, name ≠ "type" → name ∉ anchorLicence.drops → name ≠ "class" →
      linkAttrs.contains name = false := by
    intro name htype hdrops hclass
    simp_all [linkAttrs, anchorLicence]
  refine ⟨fun name hs hdr => ?_, fun name hs => ?_⟩
  · have htype : name ≠ "type" := by simpa [anchorLicence] using hs
    rw [buttonAttrs, Document.lookupAttr_append, Document.lookupAttr_append, lookupAttr_class,
      Document.lookupAttr_cons, if_neg (Ne.symm htype), ← Document.attr?_eq_lookupAttr]
    by_cases hname : name = "class"
    · subst hname
      rw [if_pos rfl, Document.lookupAttr_filter_eq_none _ fun a ha => by rw [ha]; rfl,
        Option.or_none]
      rfl
    · rw [if_neg hname, Document.lookupAttr_filter _ fun a ha => by
        rw [ha, hlinks name htype hdr hname]; rfl]
      rfl
  · have htype : name ≠ "type" := by simpa [anchorLicence] using hs
    have hclass := countAttr_class_le d n name
    have hrest := Document.countAttr_filter_le name (fun a => !linkAttrs.contains a.name) (d.attrs n)
    rw [buttonAttrs, Document.countAttr_append, Document.countAttr_append,
      Document.countAttr_cons, if_neg (Ne.symm htype)]
    by_cases hname : name = "class"
    · have hnone := Document.countAttr_filter_eq_zero name
        (p := fun a => !linkAttrs.contains a.name) (d.attrs n) fun a ha => by rw [ha, hname]; rfl
      rw [if_pos hname] at hclass
      simp only [countAttr, List.countP_nil] at *
      omega
    · rw [if_neg hname] at hclass
      simp only [countAttr, List.countP_nil] at *
      omega

/-- The visit of the sweep over the links. -/
theorem isVisit_fixAnchors : IsVisit anchorLicence (· = some "a")
    fun d n => if d.attr? "href" n == some "#" then
      some ((d.rename n "button").setAttrs n (buttonAttrs d n), Change.madeButton) else none where
  relabels h := by
    split at h
    · cases h
      exact (Document.relabelsAt_rename ..).trans (Document.relabelsAt_setAttrs ..)
    · exact absurd h (by simp)
  run {d _ n _} hn hready h := by
    split at h
    · cases h
      have hrename : Step anchorLicence d (d.rename n "button") :=
        Step.rename hn hready (by decide) (fun h => absurd h (by decide))
          fun h => absurd h (by decide)
      refine (Run.single hrename).tail (Step.setAttrs ?_ ?_ ?_)
      · rwa [(Document.relabels_rename ..).attached_eq]
      · rw [(Document.relabels_rename ..).isElement_eq]
        exact Document.isElement_iff_tag?.2 ⟨_, hready⟩
      · rw [Document.attrs_rename]
        exact allows_buttonAttrs d n
    · exact absurd h (by simp)

theorem run_fixAnchors (hd : d.WellFormed) : Run anchorLicence d (fixAnchors d).1 :=
  isVisit_fixAnchors.run_sweep hd fun _ hn => Document.hasTag_iff.1 hn

/-! ### Divisions -/

/-- Divisions may become specialised elements. -/
def upgradeLicence : Licence :=
  ⟨[("div", "section"), ("div", "nav"), ("div", "footer"), ("div", "main")], [], [], false⟩

/-- The rule that upgrades a division, if there is one and it makes no second main landmark. -/
def upgrade? (d : Document) (n : NodeId) : Option (Rule String) :=
  (Rule.firstOf Rule.upgrades (Facts.ofElement "div" (d.classes n))).filter fun rule =>
    !(rule.outcome == "main" && !(d.elementsByTag "main").isEmpty)

/-- The visit of the sweep over the divisions. -/
def upgradeVisit (d : Document) (n : NodeId) : Option (Document × Change) :=
  (upgrade? d n).map fun rule => (d.rename n rule.outcome,
    .upgradedTag (Facts.ofElement "div" (d.classes n)).classes rule.name rule.outcome)

theorem upgradeTags_eq (d : Document) :
    upgradeTags d = Pass.visitAll upgradeVisit (d.elementsByTag "div") d := by
  refine congrArg (fun visit => Pass.visitAll visit (d.elementsByTag "div") d) ?_
  funext e n
  simp only [upgradeVisit, upgrade?]
  cases Rule.firstOf Rule.upgrades (Facts.ofElement "div" (e.classes n)) with
  | none => rfl
  | some rule =>
      rw [Option.filter_some]
      by_cases h : (rule.outcome == "main" && !(e.elementsByTag "main").isEmpty) = true
      · simp [h]
      · simp [h]

theorem upgrade?_eq_some {n : NodeId} {rule : Rule String} (h : upgrade? d n = some rule) :
    ("div", rule.outcome) ∈ upgradeLicence.retags ∧ Text.lowerAscii rule.outcome = rule.outcome ∧
      (rule.outcome = "main" → d.elementsByTag "main" = []) := by
  obtain ⟨hfirst, hmain⟩ := Option.filter_eq_some_iff.1 h
  have htable : ∀ rule ∈ Rule.upgrades, ("div", rule.outcome) ∈ upgradeLicence.retags ∧
      Text.lowerAscii rule.outcome = rule.outcome := by decide
  obtain ⟨hretags, hlower⟩ := htable rule (List.mem_of_find?_eq_some hfirst)
  refine ⟨hretags, hlower, fun ho => ?_⟩
  simpa [ho] using hmain

/-- **A class that asks for another element** than a division or a main landmark. -/
def Telling (d : Document) (n : NodeId) : Prop :=
  ∃ rule, Rule.firstOf Rule.upgrades (Facts.ofElement "div" (d.classes n)) = some rule ∧
    rule.outcome ≠ "main"

theorem upgrade?_ne_none_of_telling {n : NodeId} (h : Telling d n) : upgrade? d n ≠ none := by
  obtain ⟨rule, hrule, hmain⟩ := h
  rw [upgrade?, hrule, Option.filter_some, beq_eq_false_iff_ne.2 hmain]
  simp

/-- Beside a main landmark only a telling class upgrades a division. -/
theorem upgrade?_eq_none_iff {n : NodeId} (hm : d.elementsByTag "main" ≠ []) :
    upgrade? d n = none ↔ ¬ Telling d n := by
  refine ⟨fun hnone htelling => upgrade?_ne_none_of_telling htelling hnone, fun hno => ?_⟩
  cases h : upgrade? d n with
  | none => rfl
  | some rule =>
      obtain ⟨hfirst, _⟩ := Option.filter_eq_some_iff.1 h
      exact absurd ⟨rule, hfirst, fun ho => hm ((upgrade?_eq_some h).2.2 ho)⟩ hno

theorem isVisit_upgrade : IsVisit upgradeLicence (· = some "div") upgradeVisit where
  relabels h := by
    obtain ⟨rule, _, heq⟩ := Option.map_eq_some_iff.1 h
    cases heq
    exact Document.relabelsAt_rename ..
  run hn hready h := by
    obtain ⟨rule, hrule, heq⟩ := Option.map_eq_some_iff.1 h
    cases heq
    obtain ⟨hretags, hlower, hmain⟩ := upgrade?_eq_some hrule
    refine Run.single (Step.rename hn hready ?_ (fun h => absurd h (by decide)) ?_)
    · rwa [hlower]
    · rwa [hlower]

theorem run_upgradeTags (hd : d.WellFormed) : Run upgradeLicence d (upgradeTags d).1 := by
  rw [upgradeTags_eq]
  exact isVisit_upgrade.run_sweep hd fun _ hn => Document.hasTag_iff.1 hn

/-! ### Images -/

/-- Images may get a description. -/
def altLicence : Licence := ⟨[], ["alt"], [], false⟩

/-- The visit of the sweep over the images. -/
theorem isVisit_inferAlts : IsVisit altLicence (· = some "img") fun d n =>
    if d.hasAttr "alt" n then none
    else
      let alt := nearbyHeading d n
      if alt.isEmpty then none else some (d.setAttr n "alt" alt, Change.inferredAlt alt) where
  relabels h := by
    split at h
    · exact absurd h (by simp)
    · simp only at h
      split at h
      · exact absurd h (by simp)
      · cases h
        exact Document.relabelsAt_setAttrs ..
  run hn hready h := by
    split at h
    · exact absurd h (by simp)
    · simp only at h
      split at h
      · exact absurd h (by simp)
      · cases h
        refine Run.single (Step.setAttrs hn (Document.isElement_iff_tag?.2 ⟨_, hready⟩) ?_)
        exact Licence.allows_putAttr (by decide) ..

theorem run_inferAlts (hd : d.WellFormed) : Run altLicence d (inferAlts d).1 :=
  isVisit_inferAlts.run_sweep hd fun _ hn => Document.hasTag_iff.1 hn

/-! ### The whole pass -/

/-- The search pass is its parts, one after the other. -/
theorem changes_fst (cap : Nat) (d : Document) :
    (changes cap d).1 = (inferAlts (upgradeTags (fixAnchors (prune cap (repairSkips
      (promoteH2 (dedupeH1 d).1).1).1).1).1).1).1 := by
  simp only [changes, Pass.fst_inTurn_cons, Pass.fst_inTurn_nil]

theorem optimize_fst (cap : Nat) (d : Document) : (optimize cap d).1 = (changes cap d).1 := by
  rw [optimize]

/-- **What the search pass may change.** -/
def searchLicence : Licence :=
  ⟨headingLicence.retags ++ anchorLicence.retags ++ upgradeLicence.retags, ["type", "alt"],
    ["href", "target", "rel"], false⟩

theorem run_repairSkips : Run headingLicence d (repairSkips d).1 := run_repairWithin _

/-- The headings of the first three parts of the pass. -/
theorem run_headings (hd : d.WellFormed) :
    Run headingLicence d (repairSkips (promoteH2 (dedupeH1 d).1).1).1 :=
  ((run_dedupeH1 hd).trans run_promoteH2).trans run_repairSkips

theorem run_prune (hd : d.WellFormed) (cap : Nat) : Run Landmarks.wrapperLicence d (prune cap d).1 :=
  Landmarks.run_flatten hd cap

/-- **The search pass is a run.** -/
theorem run_changes (hd : d.WellFormed) (cap : Nat) : Run searchLicence d (changes cap d).1 := by
  have hheadings : headingLicence.Within searchLicence := by decide
  have hanchors : anchorLicence.Within searchLicence := by decide
  have hupgrades : upgradeLicence.Within searchLicence := by decide
  have hwrappers : Landmarks.wrapperLicence.Within searchLicence := by decide
  have halts : altLicence.Within searchLicence := by decide
  have h₁ := run_headings hd
  have hd₁ := h₁.wellFormed hd
  have h₂ := run_prune hd₁ cap
  have hd₂ := h₂.wellFormed hd₁
  have h₃ := run_fixAnchors hd₂
  have hd₃ := h₃.wellFormed hd₂
  have h₄ := run_upgradeTags hd₃
  have h₅ := run_inferAlts (h₄.wellFormed hd₃)
  rw [changes_fst]
  exact ((((h₁.mono hheadings).trans (h₂.mono hwrappers)).trans (h₃.mono hanchors)).trans
    (h₄.mono hupgrades)).trans (h₅.mono halts)

/-! ### What is settled, and where nothing is to do -/

/-- **No link leads nowhere** after the sweep over the links. -/
theorem href_fixAnchors (hd : d.WellFormed) {n : NodeId} (hn : n ∈ (fixAnchors d).1.attached)
    (htag : (fixAnchors d).1.tag? n = some "a") : (fixAnchors d).1.attr? "href" n ≠ some "#" := by
  have hrun := run_fixAnchors hd
  have hmem := hrun.mem_attached hd rfl hn
  have hold : d.tag? n = some "a" :=
    hrun.tag?_of_tag? hd (by decide) (hd.lt_nextId hmem) htag
  refine isVisit_fixAnchors.settled_sweep hd (fun _ hn => Document.hasTag_iff.1 hn)
    (P := fun e m => e.tag? m = some "a" → e.attr? "href" m ≠ some "#")
    (fun heq hdone => ?_) (fun _ hnone _ hhref => ?_) (fun hready hsome htag => ?_) hmem
    (Document.hasTag_iff.2 hold) htag
  · rwa [Document.tag?_congr heq, Document.attr?_congr (Document.attrs_congr heq)]
  · rw [if_pos (by simpa using hhref)] at hnone
    exact absurd hnone (by simp)
  · split at hsome
    · cases hsome
      rw [Document.tag?_setAttrs, Document.tag?_rename, if_pos rfl, hready] at htag
      exact absurd htag (by decide)
    · exact absurd hsome (by simp)

/-- A class is telling or not whatever happens to other attributes. -/
theorem telling_congr {n : NodeId} (h : e.attr? "class" n = d.attr? "class" n) :
    Telling e n ↔ Telling d n := by
  rw [Telling, Telling, Document.classes, Document.classes, h]

/-- **No division has a telling class** after the sweep over the divisions. -/
theorem not_telling_upgradeTags (hd : d.WellFormed) {n : NodeId}
    (hn : n ∈ (upgradeTags d).1.attached) (htag : (upgradeTags d).1.tag? n = some "div") :
    ¬ Telling (upgradeTags d).1 n := by
  have hrun := run_upgradeTags hd
  have hmem := hrun.mem_attached hd rfl hn
  have hold : d.tag? n = some "div" :=
    hrun.tag?_of_tag? hd (by decide) (hd.lt_nextId hmem) htag
  rw [upgradeTags_eq] at htag ⊢
  refine isVisit_upgrade.settled_sweep hd (fun _ hn => Document.hasTag_iff.1 hn)
    (P := fun e m => e.tag? m = some "div" → ¬ Telling e m)
    (fun heq hdone => ?_) (fun _ hnone _ htelling => ?_) (fun hready hsome htag => ?_) hmem
    (Document.hasTag_iff.2 hold) htag
  · rwa [Document.tag?_congr heq, telling_congr (Document.attr?_congr (Document.attrs_congr heq) _)]
  · exact upgrade?_ne_none_of_telling htelling (Option.map_eq_none_iff.1 hnone)
  · obtain ⟨rule, hrule, heq⟩ := Option.map_eq_some_iff.1 hsome
    cases heq
    obtain ⟨hretag, hlower, _⟩ := upgrade?_eq_some hrule
    rw [Document.tag?_rename, if_pos rfl, hready, Option.map_some, hlower, Option.some.injEq] at htag
    have hspecial : ∀ r ∈ upgradeLicence.retags, r.2 ≠ "div" := by decide
    exact absurd htag (hspecial _ hretag)

/-- **No division has a telling class** after the search pass. -/
theorem not_telling_changes (hd : d.WellFormed) (cap : Nat) {n : NodeId}
    (hn : n ∈ (changes cap d).1.attached) (htag : (changes cap d).1.tag? n = some "div") :
    ¬ Telling (changes cap d).1 n := by
  have hd₁ := (run_headings hd).wellFormed hd
  have hd₂ := (run_prune hd₁ cap).wellFormed hd₁
  have hd₃ := (run_fixAnchors hd₂).wellFormed hd₂
  have hd₄ := (run_upgradeTags hd₃).wellFormed hd₃
  have halts := run_inferAlts hd₄
  rw [changes_fst] at hn htag ⊢
  have hmem := halts.mem_attached hd₄ rfl hn
  rw [halts.tag?_eq_of_nil hd₄ rfl (hd₄.lt_nextId hmem)] at htag
  rw [telling_congr (halts.attr?_eq hd₄ (hd₄.lt_nextId hmem) (by decide) (by decide))]
  exact not_telling_upgradeTags hd₃ hmem htag

/-- **No link leads nowhere** after the search pass. -/
theorem href_changes (hd : d.WellFormed) (cap : Nat) {n : NodeId}
    (hn : n ∈ (changes cap d).1.attached) (htag : (changes cap d).1.tag? n = some "a") :
    (changes cap d).1.attr? "href" n ≠ some "#" := by
  have hd₁ := (run_headings hd).wellFormed hd
  have hd₂ := (run_prune hd₁ cap).wellFormed hd₁
  have hd₃ := (run_fixAnchors hd₂).wellFormed hd₂
  have hupgrade := run_upgradeTags hd₃
  have halts := run_inferAlts (hupgrade.wellFormed hd₃)
  rw [changes_fst] at hn htag ⊢
  refine halts.forall_tag (P := (· ≠ some "#")) (hupgrade.wellFormed hd₃) (by decide) (by decide)
    (by decide) (by decide) (fun m hm htag => ?_) hn htag
  refine hupgrade.forall_tag (P := (· ≠ some "#")) hd₃ (by decide) (by decide) (by decide)
    (by decide) (fun m hm htag => ?_) hm htag
  exact href_fixAnchors hd₂ hm htag

theorem dedupeH1_eq_self (h : (d.elementsByTag "h1").length ≤ 1) : dedupeH1 d = (d, []) := by
  rw [dedupeH1, Pass.sweep, List.drop_eq_nil_of_le h]
  rfl

theorem promoteH2_eq_self (h : d.elementsByTag "h1" = [] → d.elementsByTag "h2" = []) :
    promoteH2 d = (d, []) := by
  rw [promoteH2]
  split
  · next hnone hsome =>
      rw [h hnone] at hsome
      exact absurd hsome (by simp)
  · rfl

theorem repairSkips_eq_self (h : firstSkip (headings d) = none) : repairSkips d = (d, []) := by
  rw [repairSkips]
  cases max 1 (6 * (d.elementsByTags headingTags).length) with
  | zero => rfl
  | succ cap => rw [repairWithin, h]

theorem prune_eq_self (h : Landmarks.Flat d) (cap : Nat) : prune cap d = (d, []) := by
  rw [prune, Landmarks.flatten_eq_self h]
  rfl

theorem fixAnchors_eq_self (h : ∀ n ∈ d.attached, d.tag? n = some "a" → d.attr? "href" n ≠ some "#") :
    fixAnchors d = (d, []) := by
  refine Pass.visitAll_eq_self fun n hn => if_neg ?_
  obtain ⟨hmem, htag⟩ := Document.mem_elementsByTag.1 hn
  simpa using h n hmem htag

theorem upgradeTags_eq_self (h : ∀ n ∈ d.attached, d.tag? n = some "div" → upgrade? d n = none) :
    upgradeTags d = (d, []) := by
  rw [upgradeTags_eq]
  refine Pass.visitAll_eq_self fun n hn => ?_
  obtain ⟨hmem, htag⟩ := Document.mem_elementsByTag.1 hn
  rw [upgradeVisit, h n hmem htag, Option.map_none]

theorem inferAlts_eq_self (h : ∀ n ∈ d.attached, d.tag? n = some "img" → d.hasAttr "alt" n = true) :
    inferAlts d = (d, []) := by
  refine Pass.visitAll_eq_self fun n hn => if_pos ?_
  obtain ⟨hmem, htag⟩ := Document.mem_elementsByTag.1 hn
  exact h n hmem htag

end Seo

end ThemeCompiler
