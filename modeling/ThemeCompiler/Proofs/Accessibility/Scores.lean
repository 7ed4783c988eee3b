/-
**What the accessibility pass does to the score.**

The score counts the images with a description, the controls with a label and the main landmarks.
The first are all of them in the end, no control loses a label that it had, and a single main
landmark stays the only one, so each summand of the score is at least what it was.

The labelling step looks at more than the score does: a placeholder is enough for it, and a control
that is not shown needs nothing.  What is said of the counts is therefore not read off what the step
settles, but off the controls that it leaves alone.

Main definitions:

* `ThemeCompiler.Accessibility.describedImages`, `ThemeCompiler.Accessibility.labelledControls` — what
  the score counts;
* `ThemeCompiler.Accessibility.exactScore` — the score in exact arithmetic;
* `ThemeCompiler.Accessibility.Perceivable` — controls with a name and images with a description;
* `ThemeCompiler.Accessibility.NoWorse` — as much as before of what the score counts.

Main results:

* `ThemeCompiler.Accessibility.score_eq_exactScore`, `ThemeCompiler.Accessibility.score_bounds` — the
  score is exact and keeps its bounds;
* `ThemeCompiler.Accessibility.perceivable_changes`, `ThemeCompiler.Accessibility.noWorse_changes` —
  what the pass settles and what it keeps;
* `ThemeCompiler.Accessibility.optimize_improves` — **the pass settles names and descriptions, and the
  score does not fall**.
-/

import Mathlib.Algebra.Order.Round
import Mathlib.Data.Rat.Floor
import ThemeCompiler.Proofs.Compilation.Optimized

set_option relaxedAutoImplicit false
set_option autoImplicit false

namespace ThemeCompiler

open Document (Licence Run)

namespace Accessibility

variable {l : Licence} {d e : Document}

/-! ### The score -/

/-- The images with a description, be it an empty one. -/
def describedImages (d : Document) : List NodeId :=
  (d.elementsByTag "img").filter (d.hasAttr "alt")

/-- The controls with a label. -/
def labelledControls (d : Document) : List NodeId :=
  (d.elementsByTags controlTags).filter (isLabelled d (labelTargets d))

/-- The part of a weight that is earned, as a quotient of exact numbers that is rounded to the
nearest number, a half upwards. -/
def exactCoverage (covered total weight : Nat) : ℤ :=
  if total = 0 then weight else round ((covered : ℚ) / total * weight)

/-- **The score in exact arithmetic.**  It needs no cap, since the weights add up to 100. -/
def exactScore (d : Document) : ℤ :=
  exactCoverage (describedImages d).length (d.elementsByTag "img").length 15
    + exactCoverage (labelledControls d).length (d.elementsByTags controlTags).length 20
    + (if (d.elementsByTag "main").length = 1 then 15 else 0) + 50

/-- **Coverage is exact**: no digit is lost before the result is rounded. -/
theorem coverage_eq_exactCoverage (covered total weight : Nat) :
    (coverage covered total weight : ℤ) = exactCoverage covered total weight := by
  by_cases ht : total = 0
  · rw [coverage, exactCoverage, if_pos ht, if_pos ht]
  · have hq : (total : ℚ) ≠ 0 := by exact_mod_cast ht
    have hhalf : (covered : ℚ) / total * weight + 1 / 2 =
        ((2 * covered * weight + total : ℕ) : ℚ) / ((2 * total : ℕ) : ℚ) := by
      push_cast
      field_simp
    rw [coverage, exactCoverage, if_neg ht, if_neg ht, round_eq, hhalf,
      Rat.floor_natCast_div_natCast, Int.natCast_ediv]

theorem score_eq (d : Document) : score d =
    ((min (coverage (describedImages d).length (d.elementsByTag "img").length 15
      + coverage (labelledControls d).length (d.elementsByTags controlTags).length 20
      + (if (d.elementsByTag "main").length = 1 then 15 else 0) + 50) 100 : Nat) : ℤ) :=
  rfl

/-- No more than the weight is earned. -/
theorem coverage_le {covered total : Nat} (h : covered ≤ total) (weight : Nat) :
    coverage covered total weight ≤ weight := by
  rw [coverage]
  split
  · exact Nat.le_refl _
  · next ht =>
      have hpos : 0 < 2 * total := by omega
      have hearned : covered * weight ≤ total * weight := Nat.mul_le_mul_right weight h
      refine Nat.lt_succ_iff.1 ((Nat.div_lt_iff_lt_mul hpos).2 ?_)
      calc 2 * covered * weight + total
          = 2 * (covered * weight) + total := by rw [Nat.mul_assoc]
        _ < 2 * (total * weight) + 2 * total := by omega
        _ = weight.succ * (2 * total) := by
          rw [Nat.succ_mul weight, Nat.mul_left_comm weight 2, Nat.mul_comm weight]

/-- **The score is the one in exact arithmetic.** -/
theorem score_eq_exactScore (d : Document) : score d = exactScore d := by
  have hi := coverage_le (List.length_filter_le (d.hasAttr "alt") (d.elementsByTag "img")) 15
  have hc := coverage_le
    (List.length_filter_le (isLabelled d (labelTargets d)) (d.elementsByTags controlTags)) 20
  have hcap : coverage (describedImages d).length (d.elementsByTag "img").length 15
      + coverage (labelledControls d).length (d.elementsByTags controlTags).length 20
      + (if (d.elementsByTag "main").length = 1 then 15 else 0) + 50 ≤ 100 := by
    rw [describedImages, labelledControls]
    split <;> omega
  rw [score_eq, Nat.min_eq_left hcap, exactScore, ← coverage_eq_exactCoverage,
    ← coverage_eq_exactCoverage]
  push_cast
  rfl

/-- More that is in order earns at least as much. -/
theorem coverage_mono {covered covered' : Nat} (h : covered ≤ covered') (total weight : Nat) :
    coverage covered total weight ≤ coverage covered' total weight := by
  rw [coverage, coverage]
  split
  · exact Nat.le_refl _
  · exact Nat.div_le_div_right
      (Nat.add_le_add_right (Nat.mul_le_mul_right weight (Nat.mul_le_mul_left 2 h)) total)

/-- **The score is at least 50 and at most 100.** -/
theorem score_bounds (d : Document) : 50 ≤ score d ∧ score d ≤ 100 := by
  rw [score_eq]
  omega

/-! ### What is settled -/

/-- **Controls with a name and images with a description**: a control that is shown has a label
element, a label of its own or a placeholder, and an image with an empty description is marked as
decoration. -/
structure Perceivable (e : Document) : Prop where
  controls : ∀ n ∈ e.elementsByTags controlTags, isHiddenInput e n = false →
    (∃ id, id ≠ "" ∧ e.attr? "id" n = some id ∧
      ∃ label ∈ e.elementsByTag "label", e.attr? "for" label = some id) ∨
    (∃ text, text ≠ "" ∧ e.attr? "aria-label" n = some text) ∨
    (∃ text, text ≠ "" ∧ e.attr? "placeholder" n = some text)
  images : ∀ n ∈ e.elementsByTag "img", ∃ alt, e.attr? "alt" n = some alt ∧
    (alt = "" → e.attr? "role" n = some "presentation")

theorem filled?_eq_some_iff {name value : String} {n : NodeId} :
    filled? d name n = some value ↔ value ≠ "" ∧ d.attr? name n = some value := by
  rw [filled?, Option.filter_eq_some_iff, and_comm]
  simp

theorem isSome_filled?_iff {name : String} {n : NodeId} : (filled? d name n).isSome = true ↔
    ∃ value, value ≠ "" ∧ d.attr? name n = some value := by
  rw [Option.isSome_iff_exists]
  exact exists_congr fun _ => filled?_eq_some_iff

theorem mem_labelTargets {id : String} : id ∈ labelTargets d ↔
    id ≠ "" ∧ ∃ label ∈ d.elementsByTag "label", d.attr? "for" label = some id := by
  simp only [labelTargets, List.mem_filterMap, filled?_eq_some_iff]
  constructor
  · rintro ⟨label, hlabel, hid, hfor⟩
    exact ⟨hid, label, hlabel, hfor⟩
  · rintro ⟨hid, label, hlabel, hfor⟩
    exact ⟨label, hlabel, hid, hfor⟩

/-- A description that is not filled is the empty one, and the image is marked as decoration. -/
theorem exists_alt_of_isDescribed {n : NodeId} (h : isDescribed d n = true) :
    ∃ alt, d.attr? "alt" n = some alt ∧ (alt = "" → d.attr? "role" n = some "presentation") := by
  rw [isDescribed, Bool.or_eq_true] at h
  rcases h with hfilled | hmarked
  · obtain ⟨alt, hne, halt⟩ := isSome_filled?_iff.1 hfilled
    exact ⟨alt, halt, fun hempty => absurd hempty hne⟩
  · obtain ⟨halt, hrole⟩ := Bool.and_eq_true_iff.1 hmarked
    obtain ⟨alt, halt⟩ := Option.isSome_iff_exists.1 halt
    exact ⟨alt, halt, fun _ => by simpa using hrole⟩

/-- **The pass gives every control a name and every image a description.** -/
theorem perceivable_changes (hd : d.WellFormed) (mainId : String) :
    Perceivable (changes mainId d).1 := by
  obtain ⟨hcontrols, himages⟩ := settled_changes hd mainId
  constructor
  · intro n hn hshown
    obtain ⟨hmem, htag⟩ := List.mem_filter.1 hn
    have hnamed := hcontrols n hmem htag
    rw [isNamed, hshown, Bool.false_or, Bool.or_eq_true, isLabelled, Bool.or_eq_true] at hnamed
    rcases hnamed with (htarget | hlabel) | hplaceholder
    · obtain ⟨id, hfilled, hid⟩ := (Option.any_eq_true _ _).1 htarget
      obtain ⟨hne, hattr⟩ := filled?_eq_some_iff.1 hfilled
      exact Or.inl ⟨id, hne, hattr, (mem_labelTargets.1 (List.contains_iff_mem.1 hid)).2⟩
    · exact Or.inr (Or.inl (isSome_filled?_iff.1 hlabel))
    · exact Or.inr (Or.inr (isSome_filled?_iff.1 hplaceholder))
  · intro n hn
    obtain ⟨hmem, htag⟩ := Document.mem_elementsByTag.1 hn
    exact exists_alt_of_isDescribed (himages n hmem htag)

/-- The score then counts every image. -/
theorem Perceivable.describedImages_eq (h : Perceivable e) :
    describedImages e = e.elementsByTag "img" := by
  refine List.filter_eq_self.2 fun n hn => ?_
  obtain ⟨alt, halt, -⟩ := h.images n hn
  rw [Document.hasAttr, halt]
  rfl

/-! ### What is counted -/

/-- **As much as before of what the score counts**, and no main landmark beside a single one. -/
structure NoWorse (d e : Document) : Prop where
  images : (describedImages d).length ≤ (describedImages e).length
  controls : (labelledControls d).length ≤ (labelledControls e).length
  main : ∀ m, d.elementsByTag "main" = [m] → e.elementsByTag "main" = [m]

/-- The score asks for the same things before and after the pass. -/
theorem images_changes (hd : d.WellFormed) (mainId : String) :
    (changes mainId d).1.elementsByTag "img" = d.elementsByTag "img" :=
  (run_changes hd mainId).elementsByTag_eq hd (by decide) (by decide) fun _ => by decide

theorem controls_changes (hd : d.WellFormed) (mainId : String) :
    (changes mainId d).1.elementsByTags controlTags = d.elementsByTags controlTags :=
  (run_changes hd mainId).elementsByTags_eq hd (by decide) (by decide) fun _ => by decide

/-- **Where as much is in order, the score is no lower.** -/
theorem score_le_of_noWorse (himages : e.elementsByTag "img" = d.elementsByTag "img")
    (hcontrols : e.elementsByTags controlTags = d.elementsByTags controlTags) (h : NoWorse d e) :
    score d ≤ score e := by
  have hmain : (d.elementsByTag "main").length = 1 → (e.elementsByTag "main").length = 1 := by
    intro hone
    obtain ⟨m, hm⟩ := List.length_eq_one_iff.1 hone
    rw [h.main m hm]
    rfl
  have hi := coverage_mono h.images (d.elementsByTag "img").length 15
  have hc := coverage_mono h.controls (d.elementsByTags controlTags).length 20
  rw [score_eq, score_eq, himages, hcontrols]
  split <;> split <;> omega

/-! ### Labels that stay -/

/-- Whether a control has a label depends on two of its attributes. -/
theorem isLabelled_eq (h : Run l d e) (hd : d.WellFormed)
    (hnames : ∀ name ∈ ["id", "aria-label"], name ∉ l.sets ∧ name ∉ l.drops)
    (targets : List String) {n : NodeId} (hn : n ∈ d.attached) :
    isLabelled e targets n = isLabelled d targets n := by
  have hattr : ∀ name ∈ ["id", "aria-label"], e.attr? name n = d.attr? name n := by
    intro name hname
    exact h.attr?_eq hd (hd.lt_nextId hn) (hnames name hname).1 (hnames name hname).2
  simp only [isLabelled, filled?, hattr "id" (by decide), hattr "aria-label" (by decide)]

/-- **The sweep over the controls leaves those alone that have a name.** -/
theorem value?_labelControls (hd : d.WellFormed) {n : NodeId} (hn : n ∈ d.attached)
    (hnamed : isNamed d (labelTargets d) n = true) :
    (labelControls d).1.nodes.value? n = d.nodes.value? n := by
  have hvisit := isVisit_label (labelTargets d)
  cases htag : d.hasTagIn controlTags n with
  | false => exact hvisit.value?_sweep_of_not d htag
  | true =>
      obtain ⟨x, hx, ⟨-, hlast⟩ | ⟨y, entry, hsome, -⟩⟩ :=
        hvisit.visited_sweep hd (fun _ hm => isSome_tag?_of_hasTagIn hm) hn htag
      · exact hlast
      · have hstill : isNamed x (labelTargets d) n = true := (isNamed_congr hx _).trans hnamed
        rw [if_pos hstill] at hsome
        exact absurd hsome (by simp)

/-- **A control with a label keeps one.** -/
theorem isLabelled_changes (hd : d.WellFormed) (mainId : String) {n : NodeId} (hn : n ∈ d.attached)
    (hlabel : isLabelled d (labelTargets d) n = true) (hkept : n ∈ (changes mainId d).1.attached) :
    isLabelled (changes mainId d).1 (labelTargets (changes mainId d).1) n = true := by
  have hlt := hd.lt_nextId hn
  -- the parts before the sweep over the controls, the sweep, and the parts after it
  have h₂ := run_buttons hd
  have hd₂ := h₂.wellFormed hd
  have h₃ := run_fixLandmarks hd₂ mainId
  have hd₃ := h₃.wellFormed hd₂
  have h₄ := run_labelControls hd₃
  have hd₄ := h₄.wellFormed hd₃
  have hlate := run_late hd₄
  rw [changes_fst] at hkept ⊢
  have hn₄ := hlate.mem_attached hd₄ rfl hkept
  have hn₃ := h₄.mem_attached hd₃ rfl hn₄
  have hn₂ := (h₃.keeps hd₂).mem_attached n hn₃ (hlt.trans_le (h₂.keeps hd).nextId_le)
  have htargets : labelTargets (fixLandmarks mainId (convertClickables (unhide d).1).1).1 =
      labelTargets d := by
    rw [labelTargets_eq h₃ hd₂ (by decide) (by decide) (by decide),
      labelTargets_eq h₂ hd (by decide) (by decide) (by decide)]
  have hbefore : isLabelled (fixLandmarks mainId (convertClickables (unhide d).1).1).1
      (labelTargets d) n = true := by
    rw [isLabelled_eq h₃ hd₂ (by decide) _ hn₂, isLabelled_eq h₂ hd (by decide) _ hn]
    exact hlabel
  have hnamed : isNamed (fixLandmarks mainId (convertClickables (unhide d).1).1).1
      (labelTargets (fixLandmarks mainId (convertClickables (unhide d).1).1).1) n = true := by
    rw [isNamed, htargets, hbefore, Bool.or_true, Bool.true_or]
  have hsame := Document.attr?_congr (Document.attrs_congr (value?_labelControls hd₃ hn₃ hnamed))
  rw [labelTargets_eq hlate hd₄ (by decide) (by decide) (by decide),
    labelTargets_eq h₄ hd₃ (by decide) (by decide) (by decide), htargets,
    isLabelled_eq hlate hd₄ (by decide) _ hn₄]
  rw [isLabelled, filled?, filled?, hsame, hsame]
  exact hbefore

/-- **The pass leaves as much in order as before.** -/
theorem noWorse_changes (hd : d.WellFormed) (mainId : String) : NoWorse d (changes mainId d).1 where
  images := by
    rw [(perceivable_changes hd mainId).describedImages_eq, images_changes hd]
    exact List.length_filter_le _ _
  controls := by
    rw [labelledControls, labelledControls, controls_changes hd, ← List.countP_eq_length_filter,
      ← List.countP_eq_length_filter]
    refine List.countP_mono_left fun n hn hlabel => ?_
    have hkept : n ∈ (changes mainId d).1.attached := by
      rw [← controls_changes hd mainId] at hn
      exact (List.mem_filter.1 hn).1
    exact isLabelled_changes hd mainId (List.mem_filter.1 hn).1 hlabel hkept
  main m hm := mains_changes hd mainId hm

/-! ### The report -/

/-- The report holds the scores of the document before and after the pass. -/
theorem optimize_snd (mainId : String) (d : Document) :
    (optimize mainId d).2 = ⟨score d, score (changes mainId d).1,
      score (changes mainId d).1 - score d, (optimize mainId d).2.logs⟩ := by
  rw [optimize]

/-- **What the accessibility pass achieves**: controls and images are settled, nothing that the score
counts becomes less, and so the score does not fall.  Both scores are those in exact arithmetic, and
lie between 50 and 100. -/
theorem optimize_improves (hd : d.WellFormed) (mainId : String) :
    let page := (optimize mainId d).1
    let report := (optimize mainId d).2
    Perceivable page ∧ NoWorse d page ∧ 0 ≤ report.delta ∧
      report.delta = report.optimizedScore - report.initialScore ∧
      (report.initialScore = exactScore d ∧ 50 ≤ report.initialScore ∧ report.initialScore ≤ 100) ∧
      report.optimizedScore = exactScore page ∧
      50 ≤ report.optimizedScore ∧ report.optimizedScore ≤ 100 := by
  intro page report
  have hpage : page = (changes mainId d).1 := optimize_fst mainId d
  have hreport : report = ⟨score d, score page, score page - score d, report.logs⟩ := by
    rw [hpage]
    exact optimize_snd mainId d
  clear_value page report
  rw [hreport]
  have hbetter : NoWorse d page := hpage ▸ noWorse_changes hd mainId
  have hscore : score d ≤ score page := by
    refine score_le_of_noWorse ?_ ?_ hbetter
    · rw [hpage, images_changes hd]
    · rw [hpage, controls_changes hd]
  exact ⟨hpage ▸ perceivable_changes hd mainId, hbetter, Int.sub_nonneg.2 hscore, rfl,
    ⟨score_eq_exactScore d, score_bounds d⟩, score_eq_exactScore page, score_bounds page⟩

/-- A placeholder is a name but no label: two of these three controls are labelled in the end. -/
theorem optimize_improves_form :
    let d := Document.parse
      "<label for=\"a\">A</label><input id=\"a\"><input placeholder=\"b\"><select></select><img>"
    let page := (optimize "main-content" d).1
    d.WellFormed ∧ Perceivable page ∧ NoWorse d page ∧ (labelledControls page).length = 2 ∧
      (optimize "main-content" d).2.initialScore = 57 ∧
      (optimize "main-content" d).2.optimizedScore = 93 := by
  intro d page
  have hwf : d.WellFormed := Document.WellFormed.parse _
  obtain ⟨hsettled, hkept, -⟩ := optimize_improves hwf "main-content"
  exact ⟨hwf, hsettled, hkept, by decide +kernel, by decide +kernel, by decide +kernel⟩

end Accessibility

end ThemeCompiler
