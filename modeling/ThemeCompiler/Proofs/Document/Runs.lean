/-
**What whole passes leave alone.**

A run is a sequence of steps under one licence.  What one step keeps, a run keeps: the places of the
nodes, the visible texts, the attributes and tags that the licence does not mention.  A run puts at
most one element in, and what it takes out are divisions that say nothing.

Main definitions:

* `ThemeCompiler.Document.Run` — a sequence of steps.

Main results:

* `ThemeCompiler.Document.Run.wellFormed`, `ThemeCompiler.Document.Run.keeps` — well-formedness and
  the places of nodes;
* `ThemeCompiler.Document.Run.content_inv` — **what every change of a node keeps, a run keeps**, and
  `ThemeCompiler.Document.Run.attr?_eq`, `ThemeCompiler.Document.Run.tag?_eq` as cases of it;
* `ThemeCompiler.Document.Run.removed`, `ThemeCompiler.Document.Run.added` — what goes and comes;
* `ThemeCompiler.Document.Run.filter_isVisibleText`, `ThemeCompiler.Document.Run.tagged_eq` —
  **lists of texts and of elements by tag** that a run does not change;
* `ThemeCompiler.Document.Run.mains`, `ThemeCompiler.Document.Run.tail_mains` — a single main landmark
  stays the only one, and which runs keep the surplus ones.
-/

import ThemeCompiler.Proofs.Document.Steps

set_option relaxedAutoImplicit false
set_option autoImplicit false

namespace ThemeCompiler

open Html (Attribute)

namespace Document

variable {l l' : Licence} {d e f : Document}

/-- **A run**: a sequence of steps under one licence. -/
inductive Run (l : Licence) (d : Document) : Document → Prop
  | refl : Run l d d
  | tail {e f : Document} (run : Run l d e) (step : Step l e f) : Run l d f

namespace Run

/-! ### Sequences -/

theorem single (h : Step l d e) : Run l d e := refl.tail h

theorem trans (h : Run l d e) (h' : Run l e f) : Run l d f := by
  induction h' with
  | refl => exact h
  | tail _ step ih => exact ih.tail step

theorem mono (hl : l.Within l') (h : Run l d e) : Run l' d e := by
  induction h with
  | refl => exact refl
  | tail _ step ih => exact ih.tail (step.mono hl)

/-! ### Places of nodes -/

/-- **A run keeps a document well-formed.** -/
theorem wellFormed (h : Run l d e) (hd : d.WellFormed) : e.WellFormed := by
  induction h with
  | refl => exact hd
  | tail _ step ih => exact step.wellFormed ih

/-- **A run keeps the places of the nodes.** -/
theorem keeps (h : Run l d e) (hd : d.WellFormed) : Keeps d e := by
  induction h with
  | refl => exact Keeps.refl d
  | tail run step ih =>
      have he := run.wellFormed hd
      exact ih.trans (step.keeps he) hd (step.wellFormed he)

/-! ### Contents of nodes -/

/-- **What every change of a node keeps, a run keeps.** -/
theorem content_inv {P : Content → Prop} (h : Run l d e) (hd : d.WellFormed)
    (hP : ∀ old new, l.Changes old new → P old → P new) {n : NodeId} {c : Content}
    (hn : d.nodes.value? n = some c) (hc : P c) : ∃ c', e.nodes.value? n = some c' ∧ P c' := by
  induction h with
  | refl => exact ⟨c, hn, hc⟩
  | @tail e f run step ih =>
      obtain ⟨c', hn', hc'⟩ := ih
      rcases step.value?_cases (run.wellFormed hd) (Arena.lt_size_of_value? hn') with
        hsame | ⟨_, _, old, new, hold, hnew, hchange⟩
      · exact ⟨c', hsame.trans hn', hc'⟩
      · obtain rfl : old = c' := Option.some.inj (hold.symm.trans hn')
        exact ⟨new, hnew, hP old new hchange hc'⟩

/-- A node that is not attached stays as it is. -/
theorem value?_of_not_mem (h : Run l d e) (hd : d.WellFormed) {n : NodeId} (hlt : n < d.nextId)
    (hn : n ∉ d.attached) : e.nodes.value? n = d.nodes.value? n := by
  induction h with
  | refl => rfl
  | @tail e f run step ih =>
      have hkeeps := run.keeps hd
      rcases step.value?_cases (run.wellFormed hd) (hlt.trans_le hkeeps.nextId_le) with
        hsame | ⟨hmem, _⟩
      · exact hsame.trans ih
      · exact absurd (hkeeps.mem_attached n hmem hlt) hn

/-- **Only elements change**, and they stay elements. -/
theorem element_iff (h : Run l d e) (hd : d.WellFormed) {n : NodeId} (hlt : n < d.nextId) :
    (d.isElement n = true ∧ e.isElement n = true) ∨
      d.isElement n = false ∧ e.nodes.value? n = d.nodes.value? n := by
  obtain ⟨c, hc⟩ : ∃ c, d.nodes.value? n = some c := Arena.exists_value?_of_lt hlt
  by_cases hel : d.isElement n = true
  · obtain ⟨tag, attrs, hv⟩ := isElement_iff.1 hel
    obtain ⟨c', hc', tag', attrs', rfl⟩ := h.content_inv hd
      (P := fun c => ∃ tag attrs, c = .element tag attrs)
      (by rintro _ _ (_ | _) _ <;> exact ⟨_, _, rfl⟩) hv ⟨tag, attrs, rfl⟩
    exact Or.inl ⟨hel, isElement_iff.2 ⟨tag', attrs', hc'⟩⟩
  · have hno : ∀ tag attrs, c ≠ .element tag attrs := by
      rintro tag attrs rfl
      exact hel (isElement_iff.2 ⟨tag, attrs, hc⟩)
    obtain ⟨c', hc', rfl⟩ := h.content_inv hd (P := fun c' => c' = c)
      (by rintro _ _ (_ | _) rfl <;> exact absurd rfl (hno _ _)) hc rfl
    exact Or.inr ⟨by simpa using hel, hc'.trans hc.symm⟩

theorem isElement_eq (h : Run l d e) (hd : d.WellFormed) {n : NodeId} (hlt : n < d.nextId) :
    e.isElement n = d.isElement n := by
  rcases h.element_iff hd hlt with hel | hel
  · rw [hel.1, hel.2]
  · exact isElement_congr hel.2

theorem isVisibleText_eq (h : Run l d e) (hd : d.WellFormed) {n : NodeId} (hlt : n < d.nextId) :
    e.isVisibleText n = d.isVisibleText n := by
  rcases h.element_iff hd hlt with hel | hel
  · rw [isVisibleText_of_isElement hel.1, isVisibleText_of_isElement hel.2]
  · rw [isVisibleText, isVisibleText, hel.2]

/-- What is preserved of the attributes of an element. -/
theorem attrs_inv {Q : List Attribute → Prop} (h : Run l d e) (hd : d.WellFormed)
    (hQ : ∀ old new, l.Allows old new → Q old → Q new) {n : NodeId} (hlt : n < d.nextId)
    (hn : Q (d.attrs n)) : Q (e.attrs n) := by
  rcases h.element_iff hd hlt with hel | hel
  · obtain ⟨tag, attrs, hv⟩ := isElement_iff.1 hel.1
    have hstep : ∀ old new, l.Changes old new →
        (∃ tag attrs, old = .element tag attrs ∧ Q attrs) →
          ∃ tag attrs, new = .element tag attrs ∧ Q attrs := by
      rintro _ _ (_ | hallows) ⟨_, _, heq, hq⟩
      · cases heq
        exact ⟨_, _, rfl, hq⟩
      · cases heq
        exact ⟨_, _, rfl, hQ _ _ hallows hq⟩
    obtain ⟨c', hc', tag', attrs', rfl, hq⟩ := h.content_inv hd hstep hv
      ⟨tag, attrs, rfl, by rwa [Document.attrs, hv] at hn⟩
    rwa [Document.attrs, hc']
  · rwa [attrs_congr hel.2]

/-- **Attributes that a licence does not mention keep their values.** -/
theorem attr?_eq (h : Run l d e) (hd : d.WellFormed) {n : NodeId} (hlt : n < d.nextId)
    {name : String} (hs : name ∉ l.sets) (hdr : name ∉ l.drops) :
    e.attr? name n = d.attr? name n :=
  h.attrs_inv hd (Q := fun attrs => lookupAttr name attrs = d.attr? name n)
    (fun _ _ hallows hq => (hallows.lookup name hs hdr).trans hq) hlt rfl

/-- **Attributes that a licence does not set become no more.** -/
theorem countAttr_le (h : Run l d e) (hd : d.WellFormed) {n : NodeId} (hlt : n < d.nextId)
    {name : String} (hs : name ∉ l.sets) :
    countAttr name (e.attrs n) ≤ countAttr name (d.attrs n) :=
  h.attrs_inv hd (Q := fun attrs => countAttr name attrs ≤ countAttr name (d.attrs n))
    (fun _ _ hallows hq => (hallows.count name hs).trans hq) hlt (Nat.le_refl _)

/-- What is preserved of the tag of an element. -/
theorem tag?_inv {Q : String → Prop} (h : Run l d e) (hd : d.WellFormed)
    (hQ : ∀ r ∈ l.retags, Q r.1 → Q r.2) {n : NodeId} {tag : String} (hn : d.tag? n = some tag)
    (htag : Q tag) : ∃ tag', e.tag? n = some tag' ∧ Q tag' := by
  obtain ⟨old, attrs, hv⟩ := isElement_iff.1 (isElement_iff_tag?.2 ⟨tag, hn⟩)
  have hold : old = tag := by simpa [tag?, hv] using hn
  subst hold
  have hstep : ∀ old new, l.Changes old new → (∃ tag attrs, old = .element tag attrs ∧ Q tag) →
      ∃ tag attrs, new = .element tag attrs ∧ Q tag := by
    rintro _ _ (hretag | _) ⟨_, _, heq, hq⟩
    · cases heq
      exact ⟨_, _, rfl, hQ _ hretag hq⟩
    · cases heq
      exact ⟨_, _, rfl, hq⟩
  obtain ⟨c', hc', tag', attrs', rfl, hq⟩ := h.content_inv hd hstep hv ⟨old, attrs, rfl, htag⟩
  exact ⟨tag', by rw [tag?, hc'], hq⟩

/-- A tag that nothing is made into was there before. -/
theorem tag?_of_tag? (h : Run l d e) (hd : d.WellFormed) {tag : String}
    (hretags : ∀ r ∈ l.retags, r.2 = tag → r.1 = tag) {n : NodeId} (hlt : n < d.nextId)
    (hn : e.tag? n = some tag) : d.tag? n = some tag := by
  have hel : d.isElement n = true := by
    rw [← h.isElement_eq hd hlt]
    exact isElement_iff_tag?.2 ⟨tag, hn⟩
  obtain ⟨old, hold⟩ := isElement_iff_tag?.1 hel
  by_contra hne
  obtain ⟨new, hnew, hneq⟩ := h.tag?_inv hd (Q := fun t => t ≠ tag)
    (fun r hr hr₁ hr₂ => hr₁ (hretags r hr hr₂)) hold (fun ht => hne (ht ▸ hold))
  exact hneq (Option.some.inj (hnew.symm.trans hn))

/-- A tag that is made into nothing else stays. -/
theorem tag?_eq (h : Run l d e) (hd : d.WellFormed) {tag : String}
    (hretags : ∀ r ∈ l.retags, r.1 = tag → r.2 = tag) {n : NodeId} (hn : d.tag? n = some tag) :
    e.tag? n = some tag := by
  obtain ⟨new, hnew, rfl⟩ := h.tag?_inv hd (Q := fun t => t = tag) hretags hn rfl
  exact hnew

/-- A run that gives no tags keeps them all. -/
theorem tag?_eq_of_nil (h : Run l d e) (hd : d.WellFormed) (hretags : l.retags = []) {n : NodeId}
    (hlt : n < d.nextId) : e.tag? n = d.tag? n := by
  rcases h.element_iff hd hlt with hel | hel
  · obtain ⟨tag, htag⟩ := isElement_iff_tag?.1 hel.1
    rw [htag]
    exact h.tag?_eq hd (by simp [hretags]) htag
  · exact tag?_congr hel.2

/-- **Whether an element has one of some tags stays** when none of them is given or taken. -/
theorem hasTagIn_eq (h : Run l d e) (hd : d.WellFormed) {tags : List String}
    (hretags : ∀ r ∈ l.retags, r.1 ∈ tags ↔ r.2 ∈ tags) {n : NodeId} (hlt : n < d.nextId) :
    e.hasTagIn tags n = d.hasTagIn tags n := by
  rcases h.element_iff hd hlt with hel | hel
  · obtain ⟨tag, htag⟩ := isElement_iff_tag?.1 hel.1
    obtain ⟨tag', htag', hmem⟩ := h.tag?_inv hd (Q := fun t => t ∈ tags ↔ tag ∈ tags)
      (fun r hr hq => (hretags r hr).symm.trans hq) htag Iff.rfl
    simp only [hasTagIn, htag, htag', Option.any_some, List.contains_eq_mem, hmem]
  · exact hasTagIn_congr (tag?_congr hel.2) tags

/-! ### What goes -/

/-- **What a run takes out says nothing**, and says nothing afterwards. -/
theorem removed (h : Run l d e) (hd : d.WellFormed) {n : NodeId} (hn : n ∈ d.attached)
    (hn' : n ∉ e.attached) : e.Silent n := by
  induction h with
  | refl => exact absurd hn hn'
  | @tail e f run step ih =>
      have he := run.wellFormed hd
      have hsame : f.nodes.value? n = e.nodes.value? n := by
        rcases step.value?_cases he ((hd.lt_nextId hn).trans_le (run.keeps hd).nextId_le) with
          hsame | ⟨_, hmem, _⟩
        · exact hsame
        · exact absurd hmem hn'
      -- a node goes with this step, or went before and is not changed any more
      have hsilent : e.Silent n := by
        by_cases hmem : n ∈ e.attached
        · exact step.removed he hmem hn'
        · exact ih hmem
      rcases hsilent with hdiv | ⟨hel, htext⟩
      · exact Or.inl (hsame.trans hdiv)
      · refine Or.inr ⟨(isElement_congr hsame).trans hel, ?_⟩
        rwa [isVisibleText, hsame, ← isVisibleText]

/-! ### The main landmark -/

/-- **A single main landmark stays the only one.** -/
theorem mains (h : Run l d e) (hd : d.WellFormed) {m : NodeId}
    (hm : d.elementsByTag "main" = [m]) : e.elementsByTag "main" = [m] := by
  induction h with
  | refl => exact hm
  | tail run step ih => exact step.mains (run.wellFormed hd) ih

/-- **The main landmarks stay** when none of them may get another tag. -/
theorem mains_eq (h : Run l d e) (hd : d.WellFormed) (hkept : ∀ r ∈ l.retags, r.1 ≠ "main")
    (hne : d.elementsByTag "main" ≠ []) : e.elementsByTag "main" = d.elementsByTag "main" := by
  induction h with
  | refl => rfl
  | tail run step ih =>
      exact (step.mains_eq (run.wellFormed hd) (by rwa [ih]) (Or.inl hkept)).trans ih

/-- **The surplus of main landmarks stays** when none of them may get another tag. -/
theorem tail_mains (h : Run l d e) (hd : d.WellFormed) (hkept : ∀ r ∈ l.retags, r.1 ≠ "main") :
    (e.elementsByTag "main").tail = (d.elementsByTag "main").tail := by
  induction h with
  | refl => rfl
  | tail run step ih => exact (step.tail_mains (run.wellFormed hd) hkept).trans ih

/-- A document with a main landmark keeps one. -/
theorem exists_main (h : Run l d e) (hd : d.WellFormed) (hm : d.elementsByTag "main" ≠ []) :
    e.elementsByTag "main" ≠ [] := by
  induction h with
  | refl => exact hm
  | tail run step ih => exact step.exists_main (run.wellFormed hd) ih

/-- While there is no main landmark nothing was put in. -/
theorem nextId_eq (h : Run l d e) (hd : d.WellFormed) (hnone : e.elementsByTag "main" = []) :
    e.nextId = d.nextId := by
  induction h with
  | refl => rfl
  | @tail e f run step ih =>
      have he := run.wellFormed hd
      have hbefore : e.elementsByTag "main" = [] := by
        by_contra hm
        exact step.exists_main he hm hnone
      rcases step.kinds he with hkind | hkind | ⟨_, _, _, hkind⟩
      · exact hkind.nextId_eq.trans (ih hbefore)
      · exact hkind.nextId_eq.trans (ih hbefore)
      · rw [hkind.mains he hbefore] at hnone
        exact absurd hnone (by simp)

/-- **A run puts at most one element in**, a main landmark that stays the only one. -/
theorem added (h : Run l d e) (hd : d.WellFormed) {n : NodeId} (hn : n ∈ e.attached)
    (hn' : n ∉ d.attached) :
    l.wraps = true ∧ n = d.nextId ∧ d.elementsByTag "main" = [] ∧
      e.elementsByTag "main" = [n] := by
  induction h with
  | refl => exact absurd hn hn'
  | @tail e f run step ih =>
      have he := run.wellFormed hd
      by_cases hmem : n ∈ e.attached
      · obtain ⟨hwraps, hnext, hnone, hm⟩ := ih hmem
        exact ⟨hwraps, hnext, hnone, step.mains he hm⟩
      · obtain ⟨hwraps, hbefore, rfl, _⟩ := step.added he hn hmem
        have hnone : d.elementsByTag "main" = [] := by
          by_contra hm
          exact run.exists_main hd hm hbefore
        refine ⟨hwraps, run.nextId_eq hd hbefore, hnone, ?_⟩
        rcases step.kinds he with hkind | hkind | ⟨_, _, _, hkind⟩
        · rw [hkind.attached_eq] at hn
          exact absurd hn hmem
        · exact absurd (hkind.attached _ hn) hmem
        · exact hkind.mains he hbefore

/-- A run that puts nothing in attaches no node. -/
theorem mem_attached (h : Run l d e) (hd : d.WellFormed) (hw : l.wraps = false) {n : NodeId}
    (hn : n ∈ e.attached) : n ∈ d.attached := by
  by_contra hnew
  have hwraps := (h.added hd hn hnew).1
  rw [hw] at hwraps
  exact absurd hwraps (by simp)

/-- A new node is a main landmark. -/
theorem tag?_of_added (h : Run l d e) (hd : d.WellFormed) {n : NodeId} (hn : n ∈ e.attached)
    (hn' : n ∉ d.attached) : e.tag? n = some "main" := by
  obtain ⟨_, _, _, hm⟩ := h.added hd hn hn'
  exact (mem_elementsByTag.1 (hm ▸ List.mem_singleton_self n)).2

/-- An element whose tag is given to no other was attached with it before. -/
theorem mem_attached_of_tag? (h : Run l d e) (hd : d.WellFormed) {tag : String}
    (hretags : ∀ r ∈ l.retags, r.2 = tag → r.1 = tag) (hmain : tag ≠ "main") {n : NodeId}
    (hn : n ∈ e.attached) (htag : e.tag? n = some tag) : n ∈ d.attached ∧ d.tag? n = some tag := by
  have hmem : n ∈ d.attached := by
    by_contra hnew
    exact hmain (Option.some.inj (htag.symm.trans (h.tag?_of_added hd hn hnew)))
  exact ⟨hmem, h.tag?_of_tag? hd hretags (hd.lt_nextId hmem) htag⟩

/-- **What holds of an attribute of all elements with a tag** goes on to hold. -/
theorem forall_tag {P : Option String → Prop} (h : Run l d e) (hd : d.WellFormed)
    {tag name : String} (hretags : ∀ r ∈ l.retags, r.2 = tag → r.1 = tag) (hmain : tag ≠ "main")
    (hs : name ∉ l.sets) (hdr : name ∉ l.drops)
    (hP : ∀ n ∈ d.attached, d.tag? n = some tag → P (d.attr? name n)) {n : NodeId}
    (hn : n ∈ e.attached) (htag : e.tag? n = some tag) : P (e.attr? name n) := by
  obtain ⟨hmem, hold⟩ := h.mem_attached_of_tag? hd hretags hmain hn htag
  rw [h.attr?_eq hd (hd.lt_nextId hmem) hs hdr]
  exact hP n hmem hold

/-! ### Lists of nodes -/

/-- **The visible texts stay**, in their order. -/
theorem filter_isVisibleText (h : Run l d e) (hd : d.WellFormed) :
    e.attached.filter e.isVisibleText = d.attached.filter d.isVisibleText := by
  refine (h.keeps hd).filter_attached_eq
    (fun n hn _ => h.isVisibleText_eq hd (hd.lt_nextId hn)) (fun n hn hn' => ?_)
    fun n hn hn' => isVisibleText_of_isElement (isElement_iff_tag?.2 ⟨_, h.tag?_of_added hd hn hn'⟩)
  rw [← h.isVisibleText_eq hd (hd.lt_nextId hn)]
  rcases h.removed hd hn hn' with hdiv | hsilent
  · exact isVisibleText_of_isElement (isElement_iff.2 ⟨_, _, hdiv⟩)
  · exact hsilent.2

/-- **What is made of the tags of the attached elements stays** when it does not tell apart the tags
that become one another, and makes nothing of divisions and of main landmarks that may be new. -/
theorem tagged_eq {β : Type} (h : Run l d e) (hd : d.WellFormed) {q : String → Option β}
    (hretags : ∀ r ∈ l.retags, q r.1 = q r.2) (hdiv : q "div" = none)
    (hmain : l.wraps = true → q "main" = none) :
    (e.attached.filterMap fun n => ((e.tag? n).bind q).map (n, ·)) =
      d.attached.filterMap fun n => ((d.tag? n).bind q).map (n, ·) := by
  have hsame : ∀ n ∈ d.attached, (e.tag? n).bind q = (d.tag? n).bind q := by
    intro n hn
    rcases h.element_iff hd (hd.lt_nextId hn) with hel | hel
    · obtain ⟨tag, htag⟩ := isElement_iff_tag?.1 hel.1
      obtain ⟨tag', htag', hq⟩ := h.tag?_inv hd (Q := fun t => q t = q tag)
        (fun r hr hq => (hretags r hr).symm.trans hq) htag rfl
      rw [htag, htag', Option.bind_some, Option.bind_some, hq]
    · rw [tag?_congr hel.2]
  refine (h.keeps hd).filterMap_attached (fun n hn _ => by rw [hsame n hn])
    (fun n hn hn' => ?_) fun n hn hn' => ?_
  · rw [← hsame n hn]
    rcases h.removed hd hn hn' with hempty | ⟨hel, _⟩
    · rw [tag?, hempty, Option.bind_some, hdiv, Option.map_none]
    · have hnone : e.tag? n = none := by simpa [isElement] using hel
      rw [hnone]
      rfl
  · rw [h.tag?_of_added hd hn hn', Option.bind_some, hmain (h.added hd hn hn').1]
    rfl

/-- **The list of elements with some tags stays** when none of these tags is taken or given. -/
theorem elementsByTags_eq (h : Run l d e) (hd : d.WellFormed) {tags : List String}
    (hretags : ∀ r ∈ l.retags, r.1 ∈ tags ↔ r.2 ∈ tags) (hdiv : "div" ∉ tags)
    (hmain : l.wraps = true → "main" ∉ tags) : e.elementsByTags tags = d.elementsByTags tags := by
  have hfst : ∀ (x : Document) (ids : List NodeId),
      (ids.filterMap fun n => ((x.tag? n).bind fun t => if t ∈ tags then some () else none).map
        (n, ·)).map Prod.fst = ids.filter (x.hasTagIn tags) := by
    intro x ids
    rw [List.map_filterMap, ← List.filterMap_eq_filter]
    refine List.filterMap_congr fun n _ => ?_
    cases htag : x.tag? n with
    | none => simp [Option.guard, hasTagIn, htag]
    | some t => by_cases ht : t ∈ tags <;> simp [Option.guard, hasTagIn, htag, ht]
  rw [elementsByTags, elementsByTags, ← hfst, ← hfst]
  refine congrArg _ (h.tagged_eq hd (fun r hr => ?_) (if_neg hdiv) fun hw => if_neg (hmain hw))
  simp only [hretags r hr]

theorem elementsByTag_eq (h : Run l d e) (hd : d.WellFormed) {tag : String}
    (hretags : ∀ r ∈ l.retags, r.1 = tag ↔ r.2 = tag) (hdiv : tag ≠ "div")
    (hmain : l.wraps = true → tag ≠ "main") : e.elementsByTag tag = d.elementsByTag tag := by
  rw [elementsByTag_eq_elementsByTags, elementsByTag_eq_elementsByTags]
  exact h.elementsByTags_eq hd (by simpa using hretags) (by simpa using hdiv.symm)
    fun hw => by simpa using (hmain hw).symm

end Run

end Document

end ThemeCompiler
