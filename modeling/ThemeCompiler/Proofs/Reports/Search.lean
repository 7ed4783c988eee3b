/-
**Searching a page again.**

What a part of the search pass settles the later parts leave: links become buttons and divisions
specialised elements, so no new wrapper, heading or link comes up, and the heading that is nearest to
an image does not depend on descriptions.  So a second pass finds nothing to do in any of its parts,
whatever the number of passes over the wrappers.

Main definitions:

* `ThemeCompiler.Seo.Searched` — a page on which no part of the search pass finds anything to do.

Main results:

* `ThemeCompiler.Seo.Searched.changes_eq_self` — **such a page stays as it is**, without a log;
* `ThemeCompiler.Seo.searched_changes` — **after the search pass a page is like that**;
* `ThemeCompiler.Seo.Searched.of_sameTree` — the tree and the attributes decide whether it is;
* `ThemeCompiler.Seo.optimize_again` — **the search pass is idempotent**.
-/

import ThemeCompiler.Proofs.Compilation.Leading
import ThemeCompiler.Proofs.Compilation.Optimized
import ThemeCompiler.Proofs.Document.SameTree

set_option relaxedAutoImplicit false
set_option autoImplicit false

namespace ThemeCompiler

open Document (Licence Run Relabels SameTree)

namespace Landmarks

variable {d e : Document}

/-- **A relabelling that empties no division** keeps a page free of redundant wrappers. -/
theorem Flat.of_relabels (h : Flat d) (hd : d.WellFormed) (hrelabels : Relabels d e)
    (hdiv : ∀ n, e.nodes.value? n = some (.element "div" []) →
      d.nodes.value? n = some (.element "div" [])) : Flat e := by
  have hvisible : ∀ n, e.isVisibleText n = d.isVisibleText n := by
    intro n
    by_cases hel : d.isElement n = true
    · rw [Document.isVisibleText_of_isElement hel,
        Document.isVisibleText_of_isElement ((hrelabels.isElement_eq n).trans hel)]
    · rw [Document.isVisibleText, hrelabels.value?_eq n (by simpa using hel),
        ← Document.isVisibleText]
  have helement : e.isElement = d.isElement := funext hrelabels.isElement_eq
  intro n hn
  rw [hrelabels.attached_eq] at hn
  refine unwrapOne_eq_none_iff.2 fun _ hwrapper => ?_
  obtain ⟨hvalue, htext⟩ := Document.isWrapper_iff.1 hwrapper
  have hbefore : isWrapper d n = true := by
    refine Document.isWrapper_iff.2 ⟨hdiv n hvalue, ?_⟩
    rwa [Document.hasDirectText, hrelabels.children_eq, funext hvisible,
      ← Document.hasDirectText] at htext
  rw [Document.elementChildren, hrelabels.children_eq, helement]
  exact unwrapOne_eq_none_iff.1 (h n hn) (hd.isAttached_of_mem hn) hbefore

end Landmarks

namespace Seo

variable {d e : Document} {cap : Nat}

/-! ### Nothing to do -/

/-- **A page on which no part of the search pass finds anything to do.** -/
structure Searched (cap : Nat) (d : Document) : Prop where
  single : (d.elementsByTag "h1").length ≤ 1
  first : d.elementsByTag "h1" = [] → d.elementsByTag "h2" = []
  levels : firstSkip (headings d) = none
  flat : 0 < cap → Landmarks.Flat d
  links : ∀ n ∈ d.attached, d.tag? n = some "a" → d.attr? "href" n ≠ some "#"
  divisions : ∀ n ∈ d.attached, d.tag? n = some "div" → upgrade? d n = none
  images : ∀ n ∈ d.attached, d.tag? n = some "img" →
    d.hasAttr "alt" n = true ∨ (nearbyHeading d n).isEmpty = true

/-- **Such a page stays as it is**, and nothing is logged. -/
theorem Searched.changes_eq_self (h : Searched cap d) : changes cap d = (d, []) := by
  have hprune : prune cap d = (d, []) := by
    cases cap with
    | zero => rfl
    | succ cap => exact prune_eq_self (h.flat (Nat.succ_pos cap)) _
  have himages : inferAlts d = (d, []) := by
    refine Pass.visitAll_eq_self fun n hn => ?_
    obtain ⟨hmem, htag⟩ := Document.mem_elementsByTag.1 hn
    rcases h.images n hmem htag with halt | hempty
    · exact if_pos halt
    · rw [if_pos hempty, ite_self]
  simp only [changes, Pass.inTurn, dedupeH1_eq_self h.single, promoteH2_eq_self h.first,
    repairSkips_eq_self h.levels, hprune, fixAnchors_eq_self h.links,
    upgradeTags_eq_self h.divisions, himages, List.append_nil]

theorem Searched.optimize_eq_self (h : Searched cap d) :
    optimize cap d = (d, ⟨score d, score d, 0, []⟩) := by
  rw [optimize, h.changes_eq_self, Int.sub_self]
  rfl

/-! ### What decides it -/

/-- **Steps that give no element another tag** and move nothing keep the tree. -/
theorem sameTree_of_run {l : Licence} (hrun : Run l d e) (hd : d.WellFormed) (htags : l.retags = [])
    (hrelabels : Relabels d e) : SameTree d e := by
  refine hrelabels.sameTree fun m => ?_
  by_cases hlt : m < d.nextId
  · exact hrun.tag?_eq_of_nil hd htags hlt
  · have hout : ∀ z : Document, z.nextId = d.nextId → z.tag? m = none := fun z hz => by
      have hle : z.nodes.size ≤ m := hz.le.trans (Nat.le_of_not_lt hlt)
      rw [Document.tag?, Arena.value?_of_size_le hle]
    rw [hout e hrelabels.nextId_eq, hout d rfl]

/-- The nearest heading depends on the tree only. -/
theorem nearbyHeading_eq (h : SameTree d e) (hd : d.WellFormed) (he : e.WellFormed) {n : NodeId}
    (hn : d.Placed n) : nearbyHeading e n = nearbyHeading d n := by
  rw [nearbyHeading, nearbyHeading, h.ancestor_eq hd he hn]
  cases hscope : d.ancestor ["section", "div", "header", "main"] n with
  | none => rfl
  | some scope =>
      have hplaced := hd.placed_of_ancestor hn hscope
      simp only [h.findBelow_eq hd he hplaced]
      cases hheading : d.findBelow scope (d.hasTagIn ["h1", "h2", "h3", "h4"]) with
      | none => rfl
      | some heading =>
          have hbelow : heading ∈ d.descendants scope := List.mem_of_find?_eq_some hheading
          simp only [h.textContent_eq hd he (Or.inr (hd.mem_attached_of_mem_below hplaced hbelow))]

theorem headings_congr (h : SameTree d e) (hd : d.WellFormed) (he : e.WellFormed) :
    headings e = headings d := by
  rw [headings, headings, h.elementsByTags_eq hd he]
  refine List.filterMap_congr fun n hn => ?_
  rw [h.tag?_eq n (Or.inr (List.mem_filter.1 hn).1)]

/-- **The tree and the attributes decide** whether a part of the search pass finds anything to do. -/
theorem Searched.of_sameTree (h : Searched cap e) (htree : SameTree d e) (hd : d.WellFormed)
    (he : e.WellFormed) (hattrs : ∀ n ∈ d.attached, e.attrs n = d.attrs n) : Searched cap d := by
  have hattached := htree.attached_eq hd he
  have htag : ∀ n ∈ d.attached, e.tag? n = d.tag? n := fun n hn => htree.tag?_eq n (Or.inr hn)
  have hattr : ∀ name, ∀ n ∈ d.attached, e.attr? name n = d.attr? name n := fun name n hn =>
    Document.attr?_congr (hattrs n hn) name
  refine ⟨?_, ?_, ?_, fun hcap n hn => ?_, fun n hn hlink => ?_, fun n hn hdiv => ?_,
    fun n hn himg => ?_⟩
  · rw [← htree.elementsByTag_eq hd he]
    exact h.single
  · rw [← htree.elementsByTag_eq hd he, ← htree.elementsByTag_eq hd he]
    exact h.first
  · rw [← headings_congr htree hd he]
    exact h.levels
  · have hplaced : d.Placed n := Or.inr hn
    have hflat := Landmarks.unwrapOne_eq_none_iff.1 (h.flat hcap n (hattached ▸ hn))
    rw [htree.elementChildren_eq hd hplaced, Landmarks.isWrapper, htree.hasDirectText_eq hd hplaced,
      Document.hasTag_congr (htag n hn), hattrs n hn, ← Landmarks.isWrapper] at hflat
    exact Landmarks.unwrapOne_eq_none_iff.2 fun _ => hflat (he.isAttached_of_mem (hattached ▸ hn))
  · rw [← hattr "href" n hn]
    exact h.links n (hattached ▸ hn) ((htag n hn).trans hlink)
  · have hsame : upgrade? e n = upgrade? d n := by
      rw [upgrade?, upgrade?, Document.classes, Document.classes, hattr "class" n hn,
        htree.elementsByTag_eq hd he]
    exact hsame.symm.trans (h.divisions n (hattached ▸ hn) ((htag n hn).trans hdiv))
  · have himages := h.images n (hattached ▸ hn) ((htag n hn).trans himg)
    rwa [Document.hasAttr, hattr "alt" n hn, ← Document.hasAttr,
      nearbyHeading_eq htree hd he (Or.inr hn)] at himages

/-! ### After the search pass -/

/-- A node with another tag is no division without attributes. -/
theorem value?_ne_div {n : NodeId} (h : d.tag? n ≠ some "div") :
    d.nodes.value? n ≠ some (.element "div" []) := fun hvalue =>
  h (by rw [Document.tag?, hvalue])

/-- A link that changes becomes a button. -/
theorem flat_fixAnchors (h : Landmarks.Flat d) (hd : d.WellFormed) :
    Landmarks.Flat (fixAnchors d).1 := by
  refine h.of_relabels hd (isVisit_fixAnchors.relabels_visitAll ..) fun n => ?_
  refine isVisit_fixAnchors.value?_of_unmade (fun hready hsome => value?_ne_div ?_)
    (hd.nodup_attached.filter _) fun m hm => (Document.mem_elementsByTag.1 hm).2
  split at hsome
  · cases hsome
    rw [Document.tag?_setAttrs, Document.tag?_rename, if_pos rfl, hready, Option.map_some]
    decide
  · exact absurd hsome (by simp)

/-- A division that changes is none any more. -/
theorem flat_upgradeTags (h : Landmarks.Flat d) (hd : d.WellFormed) :
    Landmarks.Flat (upgradeTags d).1 := by
  rw [upgradeTags_eq]
  refine h.of_relabels hd (isVisit_upgrade.relabels_visitAll ..) fun n => ?_
  refine isVisit_upgrade.value?_of_unmade (fun hready hsome => value?_ne_div ?_)
    (hd.nodup_attached.filter _) fun m hm => (Document.mem_elementsByTag.1 hm).2
  obtain ⟨rule, hrule, heq⟩ := Option.map_eq_some_iff.1 hsome
  cases heq
  obtain ⟨hretag, hlower, _⟩ := upgrade?_eq_some hrule
  have hspecial : ∀ r ∈ upgradeLicence.retags, some r.2 ≠ some "div" := by decide
  rw [Document.tag?_rename, if_pos rfl, hready, Option.map_some, hlower]
  exact hspecial _ hretag

/-- An image that changes stays an image. -/
theorem flat_inferAlts (h : Landmarks.Flat d) (hd : d.WellFormed) :
    Landmarks.Flat (inferAlts d).1 := by
  refine h.of_relabels hd (isVisit_inferAlts.relabels_visitAll ..) fun n => ?_
  refine isVisit_inferAlts.value?_of_unmade (fun hready hsome => value?_ne_div ?_)
    (hd.nodup_attached.filter _) fun m hm => (Document.mem_elementsByTag.1 hm).2
  split at hsome
  · exact absurd hsome (by simp)
  · simp only at hsome
    split at hsome
    · exact absurd hsome (by simp)
    · cases hsome
      rw [Document.setAttr, Document.tag?_setAttrs, hready]
      decide

/-- **No redundant wrapper comes up** after they were taken out. -/
theorem flat_changes (hd : d.WellFormed) (hcap : 0 < cap) :
    Landmarks.Flat (changes cap d).1 := by
  have hd₁ := (run_headings hd).wellFormed hd
  have hd₂ := (run_prune hd₁ cap).wellFormed hd₁
  have hd₃ := (run_fixAnchors hd₂).wellFormed hd₂
  have hd₄ := (run_upgradeTags hd₃).wellFormed hd₃
  have hflat₂ := Landmarks.flat_flatten hd₁ hcap
  rw [changes_fst]
  exact flat_inferAlts (flat_upgradeTags (flat_fixAnchors hflat₂ hd₂) hd₃) hd₄

/-- **No class asks for another element than a division**, or there is a main landmark that the
division may not become. -/
theorem upgrade?_changes (hd : d.WellFormed) (cap : Nat) {n : NodeId}
    (hn : n ∈ (changes cap d).1.attached) (htag : (changes cap d).1.tag? n = some "div") :
    upgrade? (changes cap d).1 n = none := by
  have hrun := run_changes hd cap
  by_cases hnone : (changes cap d).1.elementsByTag "main" = []
  · -- without a main landmark in the end no division ever asked for one
    have hbefore : d.elementsByTag "main" = [] := by
      by_contra hm
      exact hrun.exists_main hd hm hnone
    have hmem := hrun.mem_attached hd rfl hn
    have hold : d.tag? n = some "div" :=
      hrun.tag?_of_tag? hd (by decide) (hd.lt_nextId hmem) htag
    rw [upgrade?_eq_of_nil hnone]
    cases hrule : Rule.firstOf Rule.upgrades
        (Facts.ofElement "div" ((changes cap d).1.classes n)) with
    | none => rfl
    | some rule =>
        exfalso
        by_cases hmain : rule.outcome = "main"
        · have hasks : AsksMain d n :=
            (asksMain_congr (hrun.attr?_eq hd (hd.lt_nextId hmem) (by decide) (by decide))).1
              ⟨rule, hrule, hmain⟩
          have hasker : n ∈ askers d :=
            List.mem_filter.2 ⟨Document.mem_elementsByTag.2 ⟨hmem, hold⟩, by simpa using hasks⟩
          rw [mains_changes_of_nil hd cap hbefore, List.take_eq_nil_iff] at hnone
          rw [hnone.resolve_left (by decide)] at hasker
          exact absurd hasker (by simp)
        · exact not_telling_changes hd cap hn htag ⟨rule, hrule, hmain⟩
  · exact (upgrade?_eq_none_iff hnone).2 (not_telling_changes hd cap hn htag)

/-- **Images without a description have no heading near them.** -/
theorem image_inferAlts (hd : d.WellFormed) {n : NodeId} (hn : n ∈ (inferAlts d).1.attached)
    (htag : (inferAlts d).1.tag? n = some "img") :
    (inferAlts d).1.hasAttr "alt" n = true ∨
      (nearbyHeading (inferAlts d).1 n).isEmpty = true := by
  have hrun := run_inferAlts hd
  have hmem := hrun.mem_attached hd rfl hn
  have hold : d.tag? n = some "img" := (hrun.tag?_eq_of_nil hd rfl (hd.lt_nextId hmem)).symm.trans htag
  obtain ⟨x, y, hx, hvalue, hvisit, hy, hrelabels, hlast⟩ := isVisit_inferAlts.when_visited
    (hd.nodup_attached.filter _) (fun m hm => Document.mem_elementsByTag.1 hm)
    (Document.mem_elementsByTag.2 ⟨hmem, hold⟩)
  have hwf := hx.wellFormed hd
  have halt : (inferAlts d).1.hasAttr "alt" n = y.hasAttr "alt" n :=
    congrArg Option.isSome (Document.attr?_congr (Document.attrs_congr hlast) "alt")
  rw [halt]
  rcases hvisit with ⟨hnone, rfl⟩ | ⟨entry, hsome⟩
  · split at hnone
    · next halt => exact Or.inl halt
    · -- the later visits change descriptions only, so the nearest heading stays
      refine Or.inr ?_
      simp only at hnone
      split at hnone
      · next hempty =>
          have htree : SameTree y (inferAlts d).1 := sameTree_of_run hy hwf rfl hrelabels
          have hplaced : y.Placed n := Or.inr (by rwa [← hrelabels.attached_eq])
          rwa [nearbyHeading_eq htree hwf (hrun.wellFormed hd) hplaced]
      · exact absurd hnone (by simp)
  · refine Or.inl ?_
    split at hsome
    · exact absurd hsome (by simp)
    · simp only at hsome
      split at hsome
      · exact absurd hsome (by simp)
      · cases hsome
        have hel : x.isElement n = true :=
          Document.isElement_iff_tag?.2 ⟨_, (Document.tag?_congr hvalue).trans hold⟩
        rw [Document.hasAttr, Document.attr?_eq_lookupAttr, Document.setAttr,
          Document.attrs_setAttrs, if_pos ⟨rfl, hel⟩, Document.lookupAttr_putAttr, if_pos rfl]
        rfl

/-- **After the search pass no part of it finds anything to do.** -/
theorem searched_changes (hd : d.WellFormed) (cap : Nat) : Searched cap (changes cap d).1 where
  single := by
    rw [length_h1s_changes hd]
    split <;> omega
  first := Compilation.h2s_eq_nil hd cap
  levels := (firstSkip_changes hd cap).2
  flat hcap := flat_changes hd hcap
  links n hn htag := href_changes hd cap hn htag
  divisions n hn htag := upgrade?_changes hd cap hn htag
  images n hn htag := by
    have hd₁ := (run_headings hd).wellFormed hd
    have hd₂ := (run_prune hd₁ cap).wellFormed hd₁
    have hd₃ := (run_fixAnchors hd₂).wellFormed hd₂
    rw [changes_fst] at hn htag ⊢
    exact image_inferAlts ((run_upgradeTags hd₃).wellFormed hd₃) hn htag

/-- **The search pass is idempotent.**  The second time it changes no node, logs nothing and reports
no difference, whatever the number of passes over the wrappers. -/
theorem optimize_again (hd : d.WellFormed) (cap : Nat) :
    let once := (optimize cap d).1
    let again := optimize cap once
    again.1 = once ∧ again.2.logs = [] ∧ again.2.delta = 0 := by
  have heq := (searched_changes hd cap).optimize_eq_self
  rw [← optimize_fst] at heq
  simp only [heq, and_self]

/-- A page on which six parts find something to do, the first time. -/
theorem optimize_again_page :
    let d := Document.parse
      "<h1>a</h1><h1>b</h1><a href=\"#\">c</a><div class=\"main\"><h4>d</h4><div><img></div></div>"
    let once := (optimize 1 d).1
    d.WellFormed ∧ (optimize 1 d).2.logs.length = 6 ∧
      (optimize 1 once).1 = once ∧ (optimize 1 once).2.logs = [] ∧
      (optimize 1 once).2.delta = 0 := by
  have hwf := Document.WellFormed.parse
    "<h1>a</h1><h1>b</h1><a href=\"#\">c</a><div class=\"main\"><h4>d</h4><div><img></div></div>"
  exact ⟨hwf, by decide +kernel, optimize_again hwf 1⟩

end Seo

end ThemeCompiler
