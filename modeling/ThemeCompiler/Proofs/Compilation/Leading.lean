/-
**The main landmark that the passes leave.**

The first main landmark of a page stays.  On a page without one the first division whose class asks
for a main landmark becomes it, unless the page is a document: there the content of the body is
wrapped before the divisions are looked at.  Otherwise the content of the body is wrapped in the end,
so the new landmark is inside of the body.

Main definitions:

* `ThemeCompiler.Seo.AsksMain`, `ThemeCompiler.Seo.askers` — the divisions whose class asks for a main
  landmark;
* `ThemeCompiler.Compilation.leading?` — the element of a page that becomes its main landmark.

Main results:

* `ThemeCompiler.Document.Run.below_body` — **what a run puts in is inside of the body**;
* `ThemeCompiler.Seo.mains_upgradeTags` — without a main landmark the first of these divisions becomes
  one;
* `ThemeCompiler.Compilation.mains_improve` — **which main landmark an improved page has**.
-/

import ThemeCompiler.Proofs.Compilation.Surplus

set_option relaxedAutoImplicit false
set_option autoImplicit false

namespace ThemeCompiler

open Document (Licence Run Step)

/-! ### What a run puts in -/

namespace Document

variable {l : Licence} {d e : Document}

/-- What a step puts in is inside of the body. -/
theorem Step.below_body (h : Step l d e) (hd : d.WellFormed) {n : NodeId} (hn : n ∈ e.attached)
    (hn' : n ∉ d.attached) : ∃ body, d.body? = some body ∧ n ∈ e.descendants body := by
  have hnew := (h.added hd hn hn').2.2.1
  cases h with
  | rename =>
      rw [(relabels_rename ..).attached_eq] at hn
      exact absurd hn hn'
  | setAttrs =>
      rw [(relabels_setAttrs ..).attached_eq] at hn
      exact absurd hn hn'
  | drop attached wrapper inner =>
      exact absurd ((takesOut_detach hd attached wrapper inner).attached n hn) hn'
  | lift attached wrapper inner =>
      exact absurd ((takesOut_replaceWith hd attached wrapper inner).attached n hn) hn'
  | @wrap body attrs allowed single found =>
      have hwf := (putsIn_wrapBody hd found attrs).wellFormed
      obtain ⟨_, _, _, hchildren, _⟩ := hd.nodes.wrapNew (hd.lt_nextId (mem_of_body? found).1)
        (.element (Text.lowerAscii "main") attrs)
      have honly : (d.wrapBody body attrs).children body = [d.nextId] :=
        (hchildren body).trans (if_pos rfl)
      have hmem : d.nextId ∈ (d.wrapBody body attrs).children body := by
        rw [honly]
        exact List.mem_singleton_self _
      exact ⟨body, found, hnew ▸ hwf.nodes.mem_descendants_of_mem hmem⟩

/-- **What a run puts in is inside of the body.** -/
theorem Run.below_body (h : Run l d e) (hd : d.WellFormed)
    (hretags : ∀ r ∈ l.retags, r.1 = "body" ↔ r.2 = "body") {n : NodeId} (hn : n ∈ e.attached)
    (hn' : n ∉ d.attached) : ∃ body, d.body? = some body ∧ n ∈ e.descendants body := by
  induction h with
  | refl => exact absurd hn hn'
  | @tail e f run step ih =>
      have he := run.wellFormed hd
      have hbody : ∀ body, e.body? = some body → body ∈ e.attached ∧ body ∈ f.attached :=
        fun body hbody => ⟨(mem_of_body? hbody).1, (mem_of_body?
          ((Compilation.body?_run (Run.single step) he hretags).trans hbody)).1⟩
      by_cases hmem : n ∈ e.attached
      · obtain ⟨body, hfound, hbelow⟩ := ih hmem
        obtain ⟨hbe, hbf⟩ := hbody body ((Compilation.body?_run run hd hretags).trans hfound)
        exact ⟨body, hfound, ((step.keeps he).mem_descendants_iff hbe hbf hmem hn).2 hbelow⟩
      · obtain ⟨body, hfound, hbelow⟩ := step.below_body he hn hmem
        exact ⟨body, (Compilation.body?_run run hd hretags).symm.trans hfound, hbelow⟩

end Document

/-! ### Divisions that ask for a main landmark -/

namespace Seo

variable {l : Licence} {d e : Document}

/-- **Whether the class of an element asks for a main landmark** in place of a division. -/
def AsksMain (d : Document) (n : NodeId) : Prop :=
  ∃ rule, Rule.firstOf Rule.upgrades (Facts.ofElement "div" (d.classes n)) = some rule ∧
    rule.outcome = "main"

instance (d : Document) (n : NodeId) : Decidable (AsksMain d n) :=
  match h : Rule.firstOf Rule.upgrades (Facts.ofElement "div" (d.classes n)) with
  | none => isFalse fun ⟨_, hrule, _⟩ => nomatch h.symm.trans hrule
  | some rule => decidable_of_iff (rule.outcome = "main")
      ⟨fun ho => ⟨rule, h, ho⟩, fun ⟨_, hrule, ho⟩ => Option.some.inj (h.symm.trans hrule) ▸ ho⟩

/-- **The divisions whose class asks for a main landmark**, in document order. -/
def askers (d : Document) : List NodeId := (d.elementsByTag "div").filter (AsksMain d ·)

theorem asksMain_congr {n : NodeId} (h : e.attr? "class" n = d.attr? "class" n) :
    AsksMain e n ↔ AsksMain d n := by
  rw [AsksMain, AsksMain, Document.classes, Document.classes, h]

/-- What says nothing has no class. -/
theorem not_asksMain_of_silent {n : NodeId} (h : d.Silent n) : ¬ AsksMain d n := by
  have hnone : d.attrs n = [] := by
    rcases h with hdiv | ⟨hel, _⟩
    · rw [Document.attrs, hdiv]
    · exact Document.attrs_of_not_isElement hel
  rintro ⟨rule, hrule, _⟩
  have hempty : Rule.firstOf Rule.upgrades (Facts.ofElement "div" "") = none := by decide
  rw [Document.classes, Document.attr?_eq_lookupAttr, hnone] at hrule
  exact absurd (hempty.symm.trans hrule) (by simp)

/-- **A run that leaves divisions and classes alone keeps these divisions.** -/
theorem askers_run (h : Run l d e) (hd : d.WellFormed)
    (hretags : ∀ r ∈ l.retags, r.1 = "div" ↔ r.2 = "div") (hs : "class" ∉ l.sets)
    (hdr : "class" ∉ l.drops) : askers e = askers d := by
  have hasks : ∀ n ∈ d.attached, (AsksMain e n ↔ AsksMain d n) := fun n hn =>
    asksMain_congr (h.attr?_eq hd (hd.lt_nextId hn) hs hdr)
  rw [askers, askers, Document.elementsByTag, Document.elementsByTag, List.filter_filter,
    List.filter_filter]
  refine (h.keeps hd).filter_attached_eq (fun n hn _ => ?_) (fun n hn hn' => ?_)
    fun n hn hn' => ?_
  · rw [Bool.eq_iff_iff]
    simp only [Bool.and_eq_true, decide_eq_true_eq, Document.hasTag_iff]
    exact and_congr (hasks n hn) ⟨h.tag?_of_tag? hd (fun r hr => (hretags r hr).2) (hd.lt_nextId hn),
      h.tag?_eq hd fun r hr => (hretags r hr).1⟩
  · have hno : ¬ AsksMain d n := mt (hasks n hn).2 (not_asksMain_of_silent (h.removed hd hn hn'))
    simp [hno]
  · rw [Bool.and_eq_false_iff]
    exact Or.inr (by rw [Document.hasTag, h.tag?_of_added hd hn hn']; decide)

/-- Without a main landmark a division is upgraded as its class says. -/
theorem upgrade?_eq_of_nil (hnone : d.elementsByTag "main" = []) (n : NodeId) :
    upgrade? d n = Rule.firstOf Rule.upgrades (Facts.ofElement "div" (d.classes n)) := by
  rw [upgrade?, hnone]
  simp only [List.isEmpty_nil, Bool.not_true, Bool.and_false, Bool.not_false]
  cases Rule.firstOf Rule.upgrades (Facts.ofElement "div" (d.classes n)) <;> rfl

/-- Giving one element the tag of a main landmark on a page without one. -/
theorem mains_rename_main (hd : d.WellFormed) {n : NodeId} (hn : n ∈ d.attached)
    (htag : d.tag? n = some "div") (hnone : d.elementsByTag "main" = []) :
    (d.rename n "main").elementsByTag "main" = [n] := by
  have hstep : Step upgradeLicence d (d.rename n "main") :=
    Step.rename hn htag (by decide) (fun h => absurd h (by decide)) fun _ => hnone
  have hmem : n ∈ (d.rename n "main").elementsByTag "main" := by
    rw [Document.mem_elementsByTag, (Document.relabels_rename ..).attached_eq,
      Document.tag?_rename, if_pos rfl, htag]
    exact ⟨hn, rfl⟩
  have htail := hstep.tail_mains_of_nil hd hnone
  cases hm : (d.rename n "main").elementsByTag "main" with
  | nil => exact absurd (hm ▸ hmem) (by simp)
  | cons first rest =>
      rw [hm, List.tail_cons] at htail
      subst htail
      rw [hm, List.mem_singleton] at hmem
      rw [hmem]

/-- Giving an element another tag makes no main landmark. -/
theorem mains_rename_of_ne {n : NodeId} {tag : String} (hne : Text.lowerAscii tag ≠ "main")
    (hnone : d.elementsByTag "main" = []) : (d.rename n tag).elementsByTag "main" = [] := by
  rw [Document.elementsByTag, List.filter_eq_nil_iff] at hnone ⊢
  rw [(Document.relabels_rename ..).attached_eq]
  intro m hm
  rw [Document.hasTag_iff, Document.tag?_rename]
  split
  · cases d.tag? m <;> simp [hne]
  · rw [← Document.hasTag_iff]
    exact hnone m hm

/-- The sweep over some divisions of a page without a main landmark. -/
private theorem mains_visitAll {nodes : List NodeId} (hd : d.WellFormed) (hnodup : nodes.Nodup)
    (hnodes : ∀ n ∈ nodes, n ∈ d.attached ∧ d.tag? n = some "div")
    (hnone : d.elementsByTag "main" = []) :
    (Pass.visitAll upgradeVisit nodes d).1.elementsByTag "main" =
      (nodes.filter (AsksMain d ·)).take 1 := by
  induction nodes generalizing d with
  | nil => exact hnone
  | cons n rest ih =>
      obtain ⟨hnot, hrest⟩ := List.nodup_cons.1 hnodup
      obtain ⟨hn, htag⟩ := hnodes n List.mem_cons_self
      have hlater := fun m hm => hnodes m (List.mem_cons_of_mem n hm)
      cases hrule : Rule.firstOf Rule.upgrades (Facts.ofElement "div" (d.classes n)) with
      | none =>
          have hvisit : upgradeVisit d n = none := by
            rw [upgradeVisit, upgrade?_eq_of_nil hnone, hrule, Option.map_none]
          have hno : ¬ AsksMain d n := by
            rintro ⟨rule, h, -⟩
            exact Option.some_ne_none rule (h.symm.trans hrule)
          rw [Pass.visitAll_cons_none hvisit, List.filter_cons_of_neg (by simpa using hno)]
          exact ih hd hrest hlater hnone
      | some rule =>
          have hupgrade : upgrade? d n = some rule := (upgrade?_eq_of_nil hnone n).trans hrule
          obtain ⟨_, hlower, _⟩ := upgrade?_eq_some hupgrade
          obtain ⟨entry, hvisit⟩ : ∃ entry,
              upgradeVisit d n = some (d.rename n rule.outcome, entry) :=
            ⟨_, by rw [upgradeVisit, hupgrade, Option.map_some]⟩
          have hrelabels := Document.relabelsAt_rename d n rule.outcome
          have hne : ∀ m ∈ rest, m ≠ n := fun m hm h => hnot (h ▸ hm)
          -- the divisions still to come are as they were
          have hstill : ∀ m ∈ rest, m ∈ (d.rename n rule.outcome).attached ∧
              (d.rename n rule.outcome).tag? m = some "div" := fun m hm => by
            rw [hrelabels.attached_eq, Document.tag?_rename, if_neg (hne m hm)]
            exact hlater m hm
          rw [Pass.visitAll_cons_some hvisit]
          by_cases hmain : rule.outcome = "main"
          · rw [List.filter_cons_of_pos (by simpa using ⟨rule, hrule, hmain⟩), List.take_succ_cons,
              List.take_zero, hmain]
            rw [hmain] at hstill
            exact (isVisit_upgrade.run_visitAll hrest hstill).mains
              ((Document.relabels_rename ..).wellFormed hd) (mains_rename_main hd hn htag hnone)
          · have hno : ¬ AsksMain d n := by
              rintro ⟨other, h, hother⟩
              exact hmain (Option.some.inj (hrule.symm.trans h) ▸ hother)
            have hasks : ∀ m, AsksMain (d.rename n rule.outcome) m ↔ AsksMain d m := fun m =>
              asksMain_congr (Document.attr?_congr (Document.attrs_rename ..) _)
            rw [List.filter_cons_of_neg (by simpa using hno), ih (hrelabels.wellFormed hd) hrest
              hstill (mains_rename_of_ne (by rwa [hlower]) hnone)]
            simp only [hasks]

/-- **Without a main landmark the first division that asks for it becomes one.** -/
theorem mains_upgradeTags (hd : d.WellFormed) (hnone : d.elementsByTag "main" = []) :
    (upgradeTags d).1.elementsByTag "main" = (askers d).take 1 := by
  rw [upgradeTags_eq]
  exact mains_visitAll hd (hd.nodup_attached.filter _)
    (fun n hn => Document.mem_elementsByTag.1 hn) hnone

/-- What comes before the sweep over the divisions. -/
def earlyLicence : Licence :=
  ⟨headingLicence.retags ++ anchorLicence.retags, anchorLicence.sets, anchorLicence.drops, false⟩

theorem run_early (hd : d.WellFormed) (cap : Nat) : Run earlyLicence d
    (fixAnchors (prune cap (repairSkips (promoteH2 (dedupeH1 d).1).1).1).1).1 := by
  have h₁ := run_headings hd
  have hd₁ := h₁.wellFormed hd
  have h₂ := run_prune hd₁ cap
  have h₃ := run_fixAnchors (h₂.wellFormed hd₁)
  refine ((h₁.mono ?_).trans (h₂.mono ?_)).trans (h₃.mono ?_)
  all_goals decide

/-- **Without a main landmark the search pass makes at most this one.** -/
theorem mains_changes_of_nil (hd : d.WellFormed) (cap : Nat)
    (hnone : d.elementsByTag "main" = []) :
    (changes cap d).1.elementsByTag "main" = (askers d).take 1 := by
  have hearly := run_early hd cap
  have hd₃ := hearly.wellFormed hd
  have hd₄ := (run_upgradeTags hd₃).wellFormed hd₃
  have hsame := hearly.elementsByTag_eq hd (by decide : ∀ r ∈ earlyLicence.retags,
    r.1 = "main" ↔ r.2 = "main") (by decide) (by decide)
  have hnone₃ := hsame.trans hnone
  rw [changes_fst, (run_inferAlts hd₄).elementsByTag_eq hd₄ (by decide) (by decide) (by decide),
    mains_upgradeTags hd₃ hnone₃, askers_run hearly hd (by decide) (by decide) (by decide)]

end Seo

/-! ### The main landmark of an improved page -/

namespace Compilation

variable {d : Document}

/-- **The element of a page that becomes its main landmark**: the first one that is there; or the
first division that asks for it, unless the page is a document whose body is wrapped before. -/
def leading? (kind : TemplateKind) (d : Document) : Option NodeId :=
  match d.elementsByTag "main" with
  | first :: _ => some first
  | [] => if kind.isDocument && d.body?.isSome then none else (Seo.askers d).head?

theorem leading?_of_cons {kind : TemplateKind} {first : NodeId} {surplus : List NodeId}
    (h : d.elementsByTag "main" = first :: surplus) : leading? kind d = some first := by
  rw [leading?, h]

theorem leading?_of_nil {kind : TemplateKind} (h : d.elementsByTag "main" = []) :
    leading? kind d = if kind.isDocument && d.body?.isSome then none else (Seo.askers d).head? := by
  rw [leading?, h]

theorem mem_attached_of_leading? {kind : TemplateKind} {n : NodeId}
    (h : leading? kind d = some n) : n ∈ d.attached := by
  rw [leading?] at h
  split at h
  · next first surplus hmains =>
      obtain rfl := Option.some.inj h
      exact (Document.mem_elementsByTag.1 (hmains ▸ List.mem_cons_self)).1
  · split at h
    · exact absurd h (by simp)
    · exact (Document.mem_elementsByTag.1 (List.mem_filter.1 (List.mem_of_mem_head? h)).1).1

/-- A run that changes neither tags nor classes keeps it. -/
theorem leading?_run {l : Licence} {e : Document} (h : Run l d e) (hd : d.WellFormed)
    (hretags : l.retags = []) (hs : "class" ∉ l.sets) (hdr : "class" ∉ l.drops)
    (hw : l.wraps = false) (kind : TemplateKind) : leading? kind e = leading? kind d := by
  rw [leading?, leading?, body?_run h hd (by simp [hretags]),
    h.elementsByTag_eq hd (by simp [hretags]) (by decide) (by simp [hw]),
    Seo.askers_run h hd (by simp [hretags]) hs hdr]

/-- The main landmark of an improved page is the one that the search pass leaves, if it leaves
one. -/
theorem mains_improve_of_search (hd : d.WellFormed) (config : Config) (kind : TemplateKind)
    {first : NodeId} {surplus : List NodeId}
    (h : (Seo.changes config.pruneIterations (structured config kind d)).1.elementsByTag "main" =
      first :: surplus) : (improve config kind d).1.elementsByTag "main" = [first] := by
  have hd₁ := (run_structured hd config kind).wellFormed hd
  have hd₂ := (Seo.run_changes hd₁ config.pruneIterations).wellFormed hd₁
  have hd₃ := (Accessibility.run_changes hd₂ config.mainLandmarkId).wellFormed hd₂
  rw [improve_fst]
  exact (Landmarks.run_flatten hd₃ _).mains hd₃ (Accessibility.mains_changes hd₂ _ h)

/-- **The first main landmark stays.** -/
theorem mains_improve_of_cons (hd : d.WellFormed) (config : Config) (kind : TemplateKind)
    {first : NodeId} {surplus : List NodeId} (h : d.elementsByTag "main" = first :: surplus) :
    (improve config kind d).1.elementsByTag "main" = [first] := by
  have hd₁ := (run_structured hd config kind).wellFormed hd
  have hflatten : ∀ {x : Document} {rest : List NodeId}, x.WellFormed →
      x.elementsByTag "main" = first :: rest →
        (Landmarks.flatten config.flattenIterations x).1.elementsByTag "main" = first :: rest :=
    fun hx hm => ((Landmarks.run_flatten hx _).mains_eq hx (by decide) (by simp [hm])).trans hm
  obtain ⟨rest, hstructured⟩ : ∃ rest,
      (structured config kind d).elementsByTag "main" = first :: rest := by
    rw [structured]
    split
    · have hnormal := Landmarks.run_normalize hd config.mainLandmarkId
      exact ⟨[], hflatten (hnormal.wellFormed hd) (Landmarks.mains_normalize_cons hd h)⟩
    · exact ⟨surplus, hflatten hd h⟩
  suffices hsearch : (Seo.changes config.pruneIterations (structured config kind d)).1.elementsByTag
      "main" = first :: rest from mains_improve_of_search hd config kind hsearch
  rw [(Seo.run_changes hd₁ _).mains_eq hd₁ (by decide) (by simp [hstructured]), hstructured]

/-- A document without a main landmark has one that is new after its structure is settled. -/
theorem mains_structured_of_nil (hd : d.WellFormed) (config : Config) {kind : TemplateKind}
    (hnone : d.elementsByTag "main" = []) (hkind : (kind.isDocument && d.body?.isSome) = true) :
    (structured config kind d).elementsByTag "main" = [d.nextId] := by
  obtain ⟨hdocument, hbody⟩ := Bool.and_eq_true_iff.1 hkind
  obtain ⟨body, hbody⟩ := Option.isSome_iff_exists.1 hbody
  have hputs := Document.putsIn_wrapBody hd hbody [⟨"id", config.mainLandmarkId⟩]
  rw [structured, if_pos hdocument, Landmarks.normalize_nil_some hnone hbody]
  exact (Landmarks.run_flatten hputs.wellFormed _).mains hputs.wellFormed (hputs.mains hd hnone)

/-- Otherwise only wrappers go. -/
theorem structured_of_nil (config : Config) {kind : TemplateKind}
    (hnone : d.elementsByTag "main" = []) (hkind : (kind.isDocument && d.body?.isSome) ≠ true) :
    structured config kind d = (Landmarks.flatten config.flattenIterations d).1 := by
  rw [structured]
  split
  · next hdocument =>
      have hbody : d.body? = none := by simpa [hdocument] using hkind
      rw [Landmarks.normalize_nil_none hnone hbody]
  · rfl

/-- When the search pass leaves no main landmark, the accessibility pass puts a new one in. -/
theorem not_mem_attached_of_search (hd : d.WellFormed) (config : Config) (kind : TemplateKind)
    {m : NodeId}
    (hnone : (Seo.changes config.pruneIterations (structured config kind d)).1.elementsByTag
      "main" = [])
    (hm : (improve config kind d).1.elementsByTag "main" = [m]) : m ∉ d.attached := by
  have h₁ := run_structured hd config kind
  have hd₁ := h₁.wellFormed hd
  have h₂ := Seo.run_changes hd₁ config.pruneIterations
  have hd₂ := h₂.wellFormed hd₁
  have h₃ := Accessibility.run_changes hd₂ config.mainLandmarkId
  have hwithin : Landmarks.wrapperLicence.Within Accessibility.accessLicence := by decide
  have hlate := h₃.trans ((Landmarks.run_flatten (h₃.wellFormed hd₂)
    config.flattenIterations).mono hwithin)
  rw [← improve_fst] at hlate
  obtain ⟨hmem, htag⟩ := Document.mem_elementsByTag.1 (hm ▸ List.mem_singleton_self m)
  -- an old element would have been a main landmark before
  have hnew : m ∉ (Seo.changes config.pruneIterations (structured config kind d)).1.attached := by
    intro hold
    have hmain := Document.mem_elementsByTag.2
      ⟨hold, hlate.tag?_of_tag? hd₂ (by decide) (hd₂.lt_nextId hold) htag⟩
    rw [hnone] at hmain
    exact absurd hmain (by simp)
  have hnext := (hlate.added hd₂ hmem hnew).2.1
  intro hold
  have hlt := ((hd.lt_nextId hold).trans_le (h₁.keeps hd).nextId_le).trans_le
    (h₂.keeps hd₁).nextId_le
  rw [hnext] at hlt
  exact Nat.lt_irrefl _ hlt

/-- **Which main landmark an improved page has**: the leading one of the page, and one that is new
when there is none. -/
theorem mains_improve (hd : d.WellFormed) (config : Config) (kind : TemplateKind) {m : NodeId}
    (hm : (improve config kind d).1.elementsByTag "main" = [m]) :
    leading? kind d = some m ∨ leading? kind d = none ∧ m ∉ d.attached := by
  have hsearch : ∀ {first : NodeId}, (Seo.changes config.pruneIterations
      (structured config kind d)).1.elementsByTag "main" = [first] → m = first := fun h => by
    simpa using hm.symm.trans (mains_improve_of_search hd config kind h)
  have hd₁ := (run_structured hd config kind).wellFormed hd
  cases hmains : d.elementsByTag "main" with
  | cons first surplus =>
      have hfirst : [m] = [first] :=
        hm.symm.trans (mains_improve_of_cons hd config kind hmains)
      rw [leading?_of_cons hmains, List.head_eq_of_cons_eq hfirst]
      exact Or.inl rfl
  | nil =>
      rw [leading?_of_nil hmains]
      by_cases hkind : (kind.isDocument && d.body?.isSome) = true
      · have hnew : m = d.nextId := hsearch ((Seo.run_changes hd₁ _).mains hd₁
          (mains_structured_of_nil hd config hmains hkind))
        exact Or.inr ⟨if_pos hkind, fun hmem => Nat.ne_of_lt (hd.lt_nextId hmem) hnew⟩
      · rw [if_neg hkind]
        have hflat := Landmarks.run_flatten hd config.flattenIterations
        have hstructured := structured_of_nil config hmains hkind
        have hmains₂ : (Seo.changes config.pruneIterations
            (structured config kind d)).1.elementsByTag "main" = (Seo.askers d).take 1 := by
          rw [hstructured] at hd₁ ⊢
          rw [Seo.mains_changes_of_nil hd₁, Seo.askers_run hflat hd (by decide) (by decide)
            (by decide)]
          rw [hflat.elementsByTag_eq hd (by decide) (by decide) (by decide), hmains]
        cases haskers : Seo.askers d with
        | cons first rest =>
            rw [haskers] at hmains₂
            exact Or.inl (by rw [hsearch hmains₂]; rfl)
        | nil =>
            rw [haskers, List.take_nil] at hmains₂
            exact Or.inr ⟨rfl, not_mem_attached_of_search hd config kind hmains₂ hm⟩

end Compilation

end ThemeCompiler
