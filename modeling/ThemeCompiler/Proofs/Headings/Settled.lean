/-
**What becomes of the headings of a page.**

The search pass renames headings and nothing else becomes or stops being one.  So its work is that
of its three parts on the levels: moving up the first heading that skips a level, again and again,
comes to an end before it is cut off, with the levels that one pass from left to right would give.
Neither the accessibility pass nor flattening touches a heading.

Main definitions:

* `ThemeCompiler.Seo.levels` — the levels of the headings in document order.

Main results:

* `ThemeCompiler.Document.Run.headings_eq` — **a run that keeps levels keeps the headings**;
* `ThemeCompiler.Seo.repairWithin_settles` — **the repair of headings**: its levels and its log;
* `ThemeCompiler.Seo.headings_changes` — the headings after the search pass;
* `ThemeCompiler.Seo.headings_optimize` — **levels, log and score of the search pass**, and that they
  last.
-/

import ThemeCompiler.Proofs.Accessibility
import ThemeCompiler.Proofs.Headings.Levels

set_option relaxedAutoImplicit false
set_option autoImplicit false

namespace ThemeCompiler

open Document (Licence Run Relabels)

namespace Seo

variable {d e : Document}

/-! ### The headings of a document -/

/-- **The levels of the headings**, in document order. -/
def levels (d : Document) : List Nat := (headings d).map Prod.snd

theorem headings_eq (d : Document) :
    headings d = d.attached.filterMap fun n => ((d.tag? n).bind level?).map (n, ·) := by
  rw [headings, Document.elementsByTags, List.filterMap_filter]
  refine List.filterMap_congr fun n _ => ?_
  by_cases hn : d.hasTagIn headingTags n = true
  · rw [if_pos hn]
  · rw [if_neg hn]
    cases htag : d.tag? n with
    | none => rfl
    | some tag =>
        cases hlevel : level? tag with
        | none => rw [Option.bind_some, hlevel, Option.map_none]
        | some k =>
            exact absurd (Document.hasTagIn_iff.2 ⟨tag, mem_headingTags.2 ⟨k, hlevel⟩, htag⟩) hn

/-- The nodes of the headings are the attached elements with the tag of a heading. -/
theorem map_fst_headings (d : Document) :
    (headings d).map Prod.fst = d.elementsByTags headingTags := by
  have hlist : ∀ {ids : List NodeId} {g : NodeId → Option Nat}, (∀ n ∈ ids, (g n).isSome = true) →
      (ids.filterMap fun n => (g n).map (n, ·)).map Prod.fst = ids := by
    intro ids g h
    induction ids with
    | nil => rfl
    | cons n rest ih =>
        obtain ⟨k, hk⟩ := Option.isSome_iff_exists.1 (h n List.mem_cons_self)
        rw [List.filterMap_cons_some (b := (n, k)) (by rw [hk]; rfl), List.map_cons,
          ih fun m hm => h m (List.mem_cons_of_mem n hm)]
  refine hlist fun n hn => ?_
  obtain ⟨tag, htag, hn⟩ := Document.hasTagIn_iff.1 (List.mem_filter.1 hn).2
  obtain ⟨k, hk⟩ := mem_headingTags.1 htag
  rw [hn, Option.bind_some, hk]
  rfl

theorem nodup_headings (hd : d.WellFormed) : ((headings d).map Prod.fst).Nodup := by
  rw [map_fst_headings]
  exact hd.nodup_attached.filter _

theorem length_levels (d : Document) : (levels d).length = (d.elementsByTags headingTags).length := by
  rw [levels, List.length_map, ← map_fst_headings, List.length_map]

theorem one_le_levels (d : Document) : ∀ k ∈ levels d, 1 ≤ k := by
  intro k hk
  obtain ⟨p, hp, rfl⟩ := List.mem_map.1 hk
  obtain ⟨tag, _, hlevel⟩ := Option.bind_eq_some_iff.1 (mem_headings.1 hp).2
  exact (level?_eq_some.1 hlevel).2.1

/-- The elements with the tag of a heading are the headings of its level. -/
theorem elementsByTag_headingTag (d : Document) {k : Nat} (h₁ : 1 ≤ k) (h₂ : k ≤ 6) :
    d.elementsByTag (headingTag k) = ((headings d).filter (·.2 == k)).map Prod.fst := by
  rw [headings_eq, List.filter_filterMap, List.map_filterMap, Document.elementsByTag,
    ← List.filterMap_eq_filter]
  refine List.filterMap_congr fun n _ => ?_
  have hiff : d.hasTag (headingTag k) n = true ↔ (d.tag? n).bind level? = some k := by
    rw [Document.hasTag_iff, Option.bind_eq_some_iff]
    constructor
    · intro htag
      exact ⟨_, htag, level?_eq_some.2 ⟨rfl, h₁, h₂⟩⟩
    · rintro ⟨tag, htag, hlevel⟩
      rw [htag, (level?_eq_some.1 hlevel).1]
  cases hlevel : (d.tag? n).bind level? with
  | none =>
      rw [hlevel] at hiff
      simp [Option.guard, hiff]
  | some j =>
      rw [hlevel, Option.some.injEq] at hiff
      by_cases hj : j = k
      · simp [Option.guard, hiff, hj]
      · simp [Option.guard, hiff, hj]

theorem length_h1s (d : Document) : (d.elementsByTag "h1").length = (levels d).count 1 := by
  have heq : d.elementsByTag "h1" = _ := elementsByTag_headingTag d (k := 1) (by decide) (by decide)
  rw [heq, List.length_map, levels, List.count, List.countP_map, List.countP_eq_length_filter]
  rfl

/-- **Renaming headings** gives them another level. -/
theorem headings_foldl_rename (d : Document) (ids : List NodeId) {k : Nat} (h₁ : 1 ≤ k) (h₂ : k ≤ 6)
    (hids : ∀ n ∈ ids, n ∈ (headings d).map Prod.fst) :
    headings (ids.foldl (fun e n => e.rename n (headingTag k)) d) = relevel ids k (headings d) := by
  obtain ⟨hrelabels, hlabels⟩ := Document.foldl_rename (headingTag k) ids d
  rw [headings_eq, hrelabels.attached_eq, headings_eq d, relevel, List.map_filterMap]
  refine List.filterMap_congr fun n _ => ?_
  rw [(hlabels n).2]
  by_cases hn : n ∈ ids
  · obtain ⟨⟨m, b⟩, hp, rfl⟩ := List.mem_map.1 (hids n hn)
    obtain ⟨tag, htag, hlevel⟩ := Option.bind_eq_some_iff.1 (mem_headings.1 hp).2
    have hnew : level? (headingTag k) = some k := level?_eq_some.2 ⟨rfl, h₁, h₂⟩
    rw [if_pos hn, htag, Option.map_some, Option.bind_some, Option.bind_some,
      lowerAscii_headingTag h₁ h₂, hnew, hlevel]
    simp [hn]
  · rw [if_neg hn]
    cases (d.tag? n).bind level? <;> simp [hn]

theorem headings_rename (d : Document) {n : NodeId} {k : Nat} (h₁ : 1 ≤ k) (h₂ : k ≤ 6)
    (hn : n ∈ (headings d).map Prod.fst) :
    headings (d.rename n (headingTag k)) = relevel [n] k (headings d) :=
  headings_foldl_rename d [n] h₁ h₂ (by simpa using hn)

/-! ### The three parts -/

/-- **A second heading of the first level goes down.** -/
theorem headings_dedupeH1 (d : Document) : headings (dedupeH1 d).1 =
    relevel (((headings d).filter (·.2 == 1)).map Prod.fst |>.drop 1) 2 (headings d) := by
  have hh1s : d.elementsByTag "h1" = _ := elementsByTag_headingTag d (k := 1) (by decide) (by decide)
  rw [dedupeH1, Pass.sweep, Pass.visitAll_always, ← hh1s]
  refine headings_foldl_rename d _ (k := 2) (by decide) (by decide) fun n hn => ?_
  have hmem := List.mem_of_mem_drop hn
  rw [hh1s] at hmem
  exact (List.filter_sublist.map Prod.fst).subset hmem

theorem levels_dedupeH1 (hd : d.WellFormed) : levels (dedupeH1 d).1 = dedupeLevels (levels d) := by
  rw [levels, headings_dedupeH1, map_snd_relevel_dedupe (nodup_headings hd), levels]

/-- **Without a heading of the first level the first one of the second goes up.** -/
theorem levels_promoteH2 (hd : d.WellFormed) :
    levels (promoteH2 d).1 = promoteLevels (levels d) ∧
      (headings (promoteH2 d).1).map Prod.fst = (headings d).map Prod.fst := by
  have hh2s : d.elementsByTag "h2" = _ := elementsByTag_headingTag d (k := 2) (by decide) (by decide)
  have hone : 1 ∈ levels d ↔ d.elementsByTag "h1" ≠ [] := by
    rw [← List.count_pos_iff, ← length_h1s, List.length_pos_iff]
  rw [promoteH2]
  split
  · next n others hnone hsome =>
      have hno : 1 ∉ levels d := fun h => hone.1 h hnone
      have hfirst : ((headings d).filter (·.2 == 2)).map Prod.fst = n :: others := by
        rw [← hh2s, hsome]
      have hn : n ∈ (headings d).map Prod.fst := by
        refine (List.filter_sublist.map Prod.fst).subset
          (?_ : n ∈ ((headings d).filter (·.2 == 2)).map _)
        rw [hfirst]
        exact List.mem_cons_self
      have hrename := headings_rename d (k := 1) (by decide) (by decide) hn
      have htag : headingTag 1 = "h1" := rfl
      rw [htag] at hrename
      rw [levels, hrename, map_snd_relevel_first (nodup_headings hd) hfirst, map_fst_relevel,
        promoteLevels, if_neg hno]
      exact ⟨rfl, rfl⟩
  · next hcase =>
      refine ⟨?_, rfl⟩
      rw [promoteLevels]
      split
      · rfl
      · next hno =>
          have hnone : d.elementsByTag "h1" = [] := by
            by_contra h
            exact hno (hone.2 h)
          have hh2 : 2 ∉ levels d := by
            intro hmem
            obtain ⟨p, hp, hp₂⟩ := List.mem_map.1 hmem
            have hin : p.1 ∈ d.elementsByTag "h2" := by
              rw [hh2s]
              exact List.mem_map.2 ⟨p, List.mem_filter.2 ⟨hp, by simpa using hp₂⟩, rfl⟩
            obtain ⟨n, others, hsome⟩ := List.exists_cons_of_ne_nil (List.ne_nil_of_mem hin)
            exact hcase n others hnone hsome
          exact (List.replace_of_not_mem hh2).symm

/-- **The repair of headings.**  When it may go on for as many rounds as levels are to change, it
ends with no level skipped, and its log lists the changes from left to right. -/
theorem repairWithin_settles (hd : d.WellFormed) {cap : Nat}
    (hcap : (changed (levels d)).length ≤ cap) :
    levels (repairWithin cap d).1 = clamp (levels d) ∧
      (headings (repairWithin cap d).1).map Prod.fst = (headings d).map Prod.fst ∧
      (repairWithin cap d).2 = (changed (levels d)).map fun p => Change.closedSkip p.1 p.2 := by
  induction cap generalizing d with
  | zero =>
      cases hskip : firstSkip (headings d) with
      | none =>
          obtain ⟨hclamp, hchanged⟩ := changed_eq_nil hskip
          rw [repairWithin, levels, hclamp, hchanged]
          exact ⟨rfl, rfl, rfl⟩
      | some skip =>
          have hchanged := (clamp_relevel (nodup_headings hd) hskip).2
          rw [levels, hchanged] at hcap
          exact absurd hcap (by simp)
  | succ cap ih =>
      rw [repairWithin]
      cases hskip : firstSkip (headings d) with
      | none =>
          obtain ⟨hclamp, hchanged⟩ := changed_eq_nil hskip
          rw [levels, hclamp, hchanged]
          exact ⟨rfl, rfl, rfl⟩
      | some skip =>
          obtain ⟨n, b, k⟩ := skip
          obtain ⟨before, m, after, hlist, hk, hkb⟩ := firstSkip_eq_some hskip
          have hmem : (n, b) ∈ headings d := by rw [hlist]; simp
          obtain ⟨tag, _, hlevel⟩ := Option.bind_eq_some_iff.1 (mem_headings.1 hmem).2
          have hb : b ≤ 6 := (level?_eq_some.1 hlevel).2.2
          have hrename := headings_rename d hk (by omega) (List.mem_map.2 ⟨_, hmem, rfl⟩)
          -- one round does the first of the changes, so one fewer is left for one round fewer
          obtain ⟨hclamp, hchanged⟩ := clamp_relevel (nodup_headings hd) hskip
          rw [← hrename] at hclamp hchanged
          rw [levels, hchanged, List.length_cons] at hcap
          obtain ⟨hlevels, hnodes, hlog⟩ := ih ((step_repair hskip).wellFormed hd)
            (Nat.le_of_succ_le_succ hcap)
          refine ⟨hlevels.trans hclamp, hnodes.trans ?_, ?_⟩
          · rw [hrename, map_fst_relevel]
          · rw [levels, hchanged, List.map_cons]
            exact congrArg _ hlog

/-- Levels of which no more are to change than there are stay below the bound of the repair. -/
theorem length_changed_lt (d : Document) :
    (changed (levels d)).length < max 1 (6 * (d.elementsByTags headingTags).length) := by
  have hle := length_changed_le (levels d)
  rw [length_levels] at hle
  omega

/-! ### The whole pass -/

/-- **The headings after the search pass**: the same nodes with the levels in the end. -/
theorem headings_repair (hd : d.WellFormed) :
    (headings (repairSkips (promoteH2 (dedupeH1 d).1).1).1).map Prod.fst =
        (headings d).map Prod.fst ∧
      levels (repairSkips (promoteH2 (dedupeH1 d).1).1).1 = settledLevels (levels d) := by
  have hd₁ := (run_dedupeH1 hd).wellFormed hd
  obtain ⟨hlevels₂, hnodes₂⟩ := levels_promoteH2 hd₁
  obtain ⟨hlevels, hnodes, _⟩ := repairWithin_settles (run_promoteH2.wellFormed hd₁)
    (length_changed_lt _).le
  rw [levels_dedupeH1 hd] at hlevels₂
  rw [hlevels₂] at hlevels
  refine ⟨hnodes.trans (hnodes₂.trans ?_), hlevels⟩
  rw [headings_dedupeH1, map_fst_relevel]

end Seo

/-- **A run that keeps the levels of tags keeps the headings.** -/
theorem Document.Run.headings_eq {l : Licence} {d e : Document} (h : Run l d e) (hd : d.WellFormed)
    (hretags : ∀ r ∈ l.retags, Seo.level? r.1 = Seo.level? r.2) :
    Seo.headings e = Seo.headings d := by
  rw [Seo.headings_eq, Seo.headings_eq]
  exact h.tagged_eq hd hretags rfl fun _ => rfl

namespace Seo

variable {d : Document}

/-- The later parts of the search pass keep the headings. -/
theorem headings_changes (hd : d.WellFormed) (cap : Nat) : headings (changes cap d).1 =
    headings (repairSkips (promoteH2 (dedupeH1 d).1).1).1 := by
  have hd₁ := (run_headings hd).wellFormed hd
  have h₂ := run_prune hd₁ cap
  have hd₂ := h₂.wellFormed hd₁
  have h₃ := run_fixAnchors hd₂
  have hd₃ := h₃.wellFormed hd₂
  have h₄ := run_upgradeTags hd₃
  have hd₄ := h₄.wellFormed hd₃
  rw [changes_fst, (run_inferAlts hd₄).headings_eq hd₄ (by decide), h₄.headings_eq hd₃ (by decide),
    h₃.headings_eq hd₂ (by decide), h₂.headings_eq hd₁ (by decide)]

/-- **No level is skipped in the end.** -/
theorem firstSkip_changes (hd : d.WellFormed) (cap : Nat) :
    levels (changes cap d).1 = settledLevels (levels d) ∧
      firstSkip (headings (changes cap d).1) = none := by
  have hlevels : levels (changes cap d).1 = settledLevels (levels d) := by
    rw [levels, headings_changes hd]
    exact (headings_repair hd).2
  refine ⟨hlevels, firstSkip_eq_none_iff.2 ?_⟩
  rw [levels] at hlevels
  rw [hlevels]
  exact isChain_clamp _

/-- **How many headings of the first level there are in the end.** -/
theorem length_h1s_changes (hd : d.WellFormed) (cap : Nat) :
    ((changes cap d).1.elementsByTag "h1").length =
      if 1 ∈ levels d ∨ 2 ∈ levels d then 1 else 0 := by
  rw [length_h1s, (firstSkip_changes hd cap).1, count_settledLevels (one_le_levels d)]

/-- The score is full when there is a heading that can be the first. -/
theorem score_changes (hd : d.WellFormed) (cap : Nat) :
    score (changes cap d).1 = if 1 ∈ levels d ∨ 2 ∈ levels d then 25 else 0 := by
  rw [score, length_h1s_changes hd, (firstSkip_changes hd cap).2]
  by_cases h : 1 ∈ levels d ∨ 2 ∈ levels d <;> simp [h]

/-- A score is at most 25, and nothing without a heading of the first level. -/
theorem score_le (d : Document) : score d ≤ if 1 ∈ levels d ∨ 2 ∈ levels d then 25 else 0 := by
  rw [score, length_h1s]
  by_cases h₁ : 1 ∈ levels d
  · rw [if_pos (Or.inl h₁)]
    split <;> split <;> omega
  · have hcount : (levels d).count 1 = 0 := List.count_eq_zero.2 h₁
    rw [hcount]
    simp only [Nat.zero_ne_one, Nat.lt_irrefl, decide_false, Bool.and_false, if_false,
      Bool.false_eq_true]
    split <;> omega

/-- **The repair stops before it is cut off**, with one entry for every level it changes. -/
theorem log_repairSkips (hd : d.WellFormed) :
    (repairSkips (promoteH2 (dedupeH1 d).1).1).2 =
        (changed (promoteLevels (dedupeLevels (levels d)))).map
          (fun p => Change.closedSkip p.1 p.2) ∧
      (repairSkips (promoteH2 (dedupeH1 d).1).1).2.length <
        max 1 (6 * ((promoteH2 (dedupeH1 d).1).1.elementsByTags headingTags).length) ∧
      firstSkip (headings (repairSkips (promoteH2 (dedupeH1 d).1).1).1) = none := by
  have hd₁ := (run_dedupeH1 hd).wellFormed hd
  have hpromoted := (levels_promoteH2 hd₁).1
  rw [levels_dedupeH1 hd] at hpromoted
  have hlog := (repairWithin_settles (run_promoteH2.wellFormed hd₁) (length_changed_lt _).le).2.2
  rw [← repairSkips] at hlog
  refine ⟨by rw [hlog, hpromoted], ?_, ?_⟩
  · rw [hlog, List.length_map]
    exact length_changed_lt _
  · rw [← headings_changes hd 0]
    exact (firstSkip_changes hd 0).2

/-- **Nothing that comes after the search pass changes a heading.** -/
theorem headings_later (hd : d.WellFormed) (mainId : String) (flattenIterations : Nat) :
    headings (Accessibility.optimize mainId d).1 = headings d ∧
      headings (Landmarks.flatten flattenIterations (Accessibility.optimize mainId d).1).1 =
        headings d := by
  have hrun := Accessibility.run_changes hd mainId
  have haccess := hrun.headings_eq hd (by decide)
  have hflatten := (Landmarks.run_flatten (hrun.wellFormed hd) flattenIterations).headings_eq
    (hrun.wellFormed hd) (by decide)
  rw [Accessibility.optimize_fst]
  exact ⟨haccess, hflatten.trans haccess⟩

/-- **Headings, log and score of the search pass.**  The nodes stay, with the levels in the end.  The
repair stops before it is cut off, with one entry for every level it changes.  The score is as good
as it can be, and nothing that comes later changes a heading. -/
theorem headings_optimize (hd : d.WellFormed) (pruneIterations flattenIterations : Nat)
    (mainId : String) :
    let e := (optimize pruneIterations d).1
    let report := (optimize pruneIterations d).2
    let unrepaired := (promoteH2 (dedupeH1 d).1).1
    ((headings e).map Prod.fst = (headings d).map Prod.fst ∧
        levels e = settledLevels (levels d) ∧ (e.elementsByTag "h1").length ≤ 1 ∧
        firstSkip (headings e) = none) ∧
      ((repairSkips unrepaired).2 = (changed (promoteLevels (dedupeLevels (levels d)))).map
          (fun p => Change.closedSkip p.1 p.2) ∧
        (repairSkips unrepaired).2.length <
          max 1 (6 * (unrepaired.elementsByTags headingTags).length) ∧
        firstSkip (headings (repairSkips unrepaired).1) = none) ∧
      (report.optimizedScore = (if 1 ∈ levels d ∨ 2 ∈ levels d then 25 else 0) ∧
        0 ≤ report.delta) ∧
      headings (Accessibility.optimize mainId e).1 = headings e ∧
      headings (Landmarks.flatten flattenIterations (Accessibility.optimize mainId e).1).1 =
        headings e := by
  simp only [optimize]
  obtain ⟨hlevels, hskip⟩ := firstSkip_changes hd pruneIterations
  have hnodes : (headings (changes pruneIterations d).1).map Prod.fst =
      (headings d).map Prod.fst := by
    rw [headings_changes hd]
    exact (headings_repair hd).1
  have hsingle : ((changes pruneIterations d).1.elementsByTag "h1").length ≤ 1 := by
    rw [length_h1s_changes hd]
    split <;> omega
  have hscore := score_changes hd pruneIterations
  have hdelta : 0 ≤ score (changes pruneIterations d).1 - score d := by
    rw [hscore]
    exact Int.sub_nonneg_of_le (score_le d)
  have hlater := headings_later ((run_changes hd pruneIterations).wellFormed hd) mainId
    flattenIterations
  exact ⟨⟨hnodes, hlevels, hsingle, hskip⟩, log_repairSkips hd, ⟨hscore, hdelta⟩, hlater⟩

/-- The levels 3, 1, 5 and 1 come out as 3, 1, 2 and 2. -/
theorem headings_optimize_page :
    levels (optimize 5 (Document.parse "<h3>a</h3><h1>b</h1><h5>c</h5><h1>d</h1>")).1 =
      [3, 1, 2, 2] := by
  have hwf := Document.WellFormed.parse "<h3>a</h3><h1>b</h1><h5>c</h5><h1>d</h1>"
  have hlevels := (headings_optimize hwf 5 10 "main-content").1.2.1
  rw [hlevels]
  decide +kernel

end Seo

end ThemeCompiler
