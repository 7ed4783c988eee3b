/-
**Landmarks and wrappers: what the two passes achieve.**

After normalization a document with a body has one main landmark, and normalizing it again changes
nothing.  One pass over the divisions, innermost first, leaves no redundant wrapper: taking a
division out changes the children of its parent only, and the parent is looked at later.

Main definitions:

* `ThemeCompiler.Landmarks.landmarkLicence`, `ThemeCompiler.Landmarks.wrapperLicence` — what the
  passes may change;
* `ThemeCompiler.Landmarks.Flat` — no redundant wrapper is attached.

Main results:

* `ThemeCompiler.Landmarks.run_normalize`, `ThemeCompiler.Landmarks.exists_mains_normalize` —
  normalization is a run, after which **there is one main landmark**;
* `ThemeCompiler.Landmarks.run_flatten`, `ThemeCompiler.Landmarks.flat_flatten` — **one pass finds all
  redundant wrappers**;
* `ThemeCompiler.Landmarks.divs_unwrapOne`, `ThemeCompiler.Landmarks.count_flattenOnce` — one division
  goes with each change, so **the number that is returned counts the divisions that were lost**;
* `ThemeCompiler.Landmarks.flatten_settles` — what flattening achieves, for every number of passes that
  is allowed;
* `ThemeCompiler.Landmarks.normalize_eq_self`, `ThemeCompiler.Landmarks.flatten_eq_self` — where
  nothing is to do nothing happens.
-/

import ThemeCompiler.Proofs.Document.Runs

set_option relaxedAutoImplicit false
set_option autoImplicit false

namespace ThemeCompiler

open Document (Licence Run Step TakesOut Relabels)

namespace Landmarks

variable {d e : Document}

/-! ### The main landmark -/

/-- Surplus main landmarks become divisions, a missing one is put in. -/
def landmarkLicence : Licence := ⟨[("main", "div")], [], [], true⟩

/-- Surplus main landmarks beside a first one become divisions, one after the other. -/
private theorem run_demote {first : NodeId} {surplus : List NodeId} (hnodup : surplus.Nodup)
    (hfirst : first ∉ surplus) (hmain : first ∈ d.attached ∧ d.tag? first = some "main")
    (hsurplus : ∀ n ∈ surplus, n ∈ d.attached ∧ d.tag? n = some "main") :
    Run landmarkLicence d (surplus.foldl (fun e n => e.rename n "div") d) := by
  induction surplus generalizing d with
  | nil => exact Run.refl
  | cons n rest ih =>
      obtain ⟨hnot, hrest⟩ := List.nodup_cons.1 hnodup
      obtain ⟨hn, htag⟩ := hsurplus n List.mem_cons_self
      have hne : first ≠ n := fun h => hfirst (h ▸ List.mem_cons_self)
      have hstep : Step landmarkLicence d (d.rename n "div") :=
        Step.rename hn htag (by decide) (fun _ => ⟨first, hmain.1, hne, hmain.2⟩)
          fun h => absurd h (by decide)
      have hstays : ∀ m, m ≠ n → m ∈ d.attached ∧ d.tag? m = some "main" →
          m ∈ (d.rename n "div").attached ∧ (d.rename n "div").tag? m = some "main" := by
        intro m hmn hm
        rw [(Document.relabels_rename ..).attached_eq, Document.tag?_rename, if_neg hmn]
        exact hm
      refine (Run.single hstep).trans (ih hrest (fun h => hfirst (List.mem_cons_of_mem n h))
        (hstays first hne hmain) fun m hm => ?_)
      exact hstays m (fun h => hnot (h ▸ hm)) (hsurplus m (List.mem_cons_of_mem n hm))

theorem normalize_nil_some {mainId : String} {body : NodeId} (h : d.elementsByTag "main" = [])
    (hbody : d.body? = some body) :
    (normalize mainId d).1 = d.wrapBody body [⟨"id", mainId⟩] := by
  rw [normalize, h, hbody]
  rfl

theorem normalize_nil_none {mainId : String} (h : d.elementsByTag "main" = [])
    (hbody : d.body? = none) : (normalize mainId d).1 = d := by
  rw [normalize, h, hbody]

theorem normalize_cons {mainId : String} {first : NodeId} {surplus : List NodeId}
    (h : d.elementsByTag "main" = first :: surplus) :
    (normalize mainId d).1 = surplus.foldl (fun e n => e.rename n "div") d := by
  rw [normalize, h]

/-- **Normalization is a run.** -/
theorem run_normalize (hd : d.WellFormed) (mainId : String) :
    Run landmarkLicence d (normalize mainId d).1 := by
  cases hm : d.elementsByTag "main" with
  | nil =>
      cases hb : d.body? with
      | none =>
          rw [normalize_nil_none hm hb]
          exact Run.refl
      | some body =>
          rw [normalize_nil_some hm hb]
          exact Run.single (Step.wrap rfl hm hb)
  | cons first surplus =>
      have hmem : ∀ n ∈ first :: surplus, n ∈ d.attached ∧ d.tag? n = some "main" := by
        intro n hn
        rw [← hm] at hn
        exact Document.mem_elementsByTag.1 hn
      have hnodup : (first :: surplus).Nodup := by
        rw [← hm]
        exact hd.nodup_attached.filter _
      obtain ⟨hfirst, hnodup⟩ := List.nodup_cons.1 hnodup
      rw [normalize_cons hm]
      exact run_demote hnodup hfirst (hmem first List.mem_cons_self)
        fun n hn => hmem n (List.mem_cons_of_mem first hn)

/-- The first main landmark is the only one after normalization. -/
theorem mains_normalize_cons (hd : d.WellFormed) {mainId : String} {first : NodeId}
    {surplus : List NodeId} (h : d.elementsByTag "main" = first :: surplus) :
    (normalize mainId d).1.elementsByTag "main" = [first] := by
  obtain ⟨hrelabels, hlabels⟩ := Document.foldl_rename "div" surplus d
  have hnodup : (first :: surplus).Nodup := by
    rw [← h]
    exact hd.nodup_attached.filter _
  have hnot : first ∉ surplus := (List.nodup_cons.1 hnodup).1
  have hdiv : Text.lowerAscii "div" ≠ "main" := by decide
  have hkeep : ∀ n, (surplus.foldl (fun e n => e.rename n "div") d).hasTag "main" n
      = (decide (n ∉ surplus) && d.hasTag "main" n) := by
    intro n
    rw [Bool.eq_iff_iff, Document.hasTag_iff, (hlabels n).2, Bool.and_eq_true, Document.hasTag_iff]
    by_cases hn : n ∈ surplus
    · cases d.tag? n <;> simp [hn, hdiv]
    · simp [hn]
  calc (normalize mainId d).1.elementsByTag "main"
      = d.attached.filter fun n => decide (n ∉ surplus) && d.hasTag "main" n := by
        rw [normalize_cons h, Document.elementsByTag, hrelabels.attached_eq]
        exact List.filter_congr fun n _ => hkeep n
    _ = (first :: surplus).filter (· ∉ surplus) := by
        rw [← h, Document.elementsByTag, List.filter_filter]
    _ = [first] := by
        rw [List.filter_cons_of_pos (by simpa using hnot),
          List.filter_eq_nil_iff.2 fun n hn => by simpa using hn]

/-- **After normalization there is one main landmark**, when there is a body. -/
theorem exists_mains_normalize (hd : d.WellFormed) {body : NodeId} (hbody : d.body? = some body)
    (mainId : String) : ∃ m, (normalize mainId d).1.elementsByTag "main" = [m] := by
  cases hm : d.elementsByTag "main" with
  | nil =>
      rw [normalize_nil_some hm hbody]
      exact ⟨_, (Document.putsIn_wrapBody hd hbody _).mains hd hm⟩
  | cons first surplus => exact ⟨first, mains_normalize_cons hd hm⟩

/-- **A document with one main landmark is normal.** -/
theorem normalize_eq_self {mainId : String} {m : NodeId} (h : d.elementsByTag "main" = [m]) :
    normalize mainId d = (d, ⟨0, false⟩) := by
  rw [normalize, h]
  rfl

/-! ### Wrappers -/

/-- Nothing but wrappers goes. -/
def wrapperLicence : Licence := ⟨[], [], [], false⟩

/-- **No redundant wrapper is attached.** -/
def Flat (d : Document) : Prop := ∀ n ∈ d.attached, unwrapOne d n = none

/-- A node at which nothing goes is no wrapper, or has two elements inside. -/
theorem unwrapOne_eq_none_iff {n : NodeId} : unwrapOne d n = none ↔
    d.isAttached n = true → isWrapper d n = true → 1 < (d.elementChildren n).length := by
  rw [unwrapOne]
  by_cases hn : d.isAttached n = true
  · by_cases hw : isWrapper d n = true
    · rw [if_pos (by simp [hn, hw])]
      cases d.elementChildren n with
      | nil => simp [hn, hw]
      | cons only rest => cases rest <;> simp [hn, hw]
    · simp [hw]
  · simp [hn]

/-- **Where a wrapper goes**: it is attached and has at most one element inside, which takes its
place. -/
theorem unwrapOne_cases (hd : d.WellFormed) {n : NodeId} (hroot : n ≠ Arena.root)
    (h : unwrapOne d n = some e) :
    n ∈ d.attached ∧ isWrapper d n = true ∧
      (d.elementChildren n = [] ∧ e = d.detach n ∨
        ∃ only, d.elementChildren n = [only] ∧ e = d.replaceWith n only) := by
  rw [unwrapOne] at h
  split at h
  · next hn =>
      obtain ⟨hattached, hwrapper⟩ := Bool.and_eq_true_iff.1 hn
      refine ⟨hd.mem_attached_iff.2 ⟨hroot, hattached⟩, hwrapper, ?_⟩
      split at h
      · next hinner => exact Or.inl ⟨hinner, (Option.some.inj h).symm⟩
      · next only hinner => exact Or.inr ⟨only, hinner, (Option.some.inj h).symm⟩
      · exact absurd h (by simp)
  · exact absurd h (by simp)

theorem takesOut_unwrapOne (hd : d.WellFormed) {n : NodeId} (hroot : n ≠ Arena.root)
    (h : unwrapOne d n = some e) : TakesOut d e := by
  obtain ⟨hn, hwrapper, ⟨hinner, rfl⟩ | ⟨only, hinner, rfl⟩⟩ := unwrapOne_cases hd hroot h
  · exact Document.takesOut_detach hd hn hwrapper hinner
  · exact Document.takesOut_replaceWith hd hn hwrapper hinner

/-- **Taking wrappers out is a run.** -/
theorem run_unwrapAll {nodes : List NodeId} (hd : d.WellFormed)
    (hroot : ∀ n ∈ nodes, n ≠ Arena.root) : Run wrapperLicence d (unwrapAll nodes d).1 := by
  induction nodes generalizing d with
  | nil => exact Run.refl
  | cons n rest ih =>
      have hrest : ∀ m ∈ rest, m ≠ Arena.root := fun m hm => hroot m (List.mem_cons_of_mem n hm)
      rw [unwrapAll]
      cases h : unwrapOne d n with
      | none => exact ih hd hrest
      | some changed =>
          have hstep : Step wrapperLicence d changed := by
            obtain ⟨hn, hwrapper, ⟨hinner, rfl⟩ | ⟨only, hinner, rfl⟩⟩ :=
              unwrapOne_cases hd (hroot n List.mem_cons_self) h
            · exact Step.drop hn hwrapper hinner
            · exact Step.lift hn hwrapper hinner
          exact (Run.single hstep).trans (ih (hstep.wellFormed hd) hrest)

theorem ne_root_of_mem_divs (hd : d.WellFormed) {n : NodeId}
    (hn : n ∈ (d.elementsByTag "div").reverse) : n ≠ Arena.root :=
  hd.ne_root (Document.mem_elementsByTag.1 (List.mem_reverse.1 hn)).1

theorem run_flattenOnce (hd : d.WellFormed) : Run wrapperLicence d (flattenOnce d).1 :=
  run_unwrapAll hd fun _ hn => ne_root_of_mem_divs hd hn

/-- **Flattening is a run.** -/
theorem run_flatten (hd : d.WellFormed) (cap : Nat) :
    Run wrapperLicence d (flatten cap d).1 := by
  induction cap generalizing d with
  | zero => exact Run.refl
  | succ cap ih =>
      have honce := run_flattenOnce hd
      rw [flatten]
      split
      · exact honce
      · exact honce.trans (ih (honce.wellFormed hd))

/-! ### One pass finds all wrappers -/

theorem unwrapAll_eq_self {nodes : List NodeId} (h : ∀ n ∈ nodes, unwrapOne d n = none) :
    unwrapAll nodes d = (d, 0) := by
  induction nodes with
  | nil => rfl
  | cons n rest ih =>
      rw [unwrapAll, h n List.mem_cons_self]
      exact ih fun m hm => h m (List.mem_cons_of_mem n hm)

theorem flattenOnce_eq_self (h : Flat d) : flattenOnce d = (d, 0) :=
  unwrapAll_eq_self fun n hn =>
    h n (Document.mem_elementsByTag.1 (List.mem_reverse.1 hn)).1

/-- **A document without redundant wrappers is flat already.** -/
theorem flatten_eq_self (h : Flat d) (cap : Nat) : flatten cap d = (d, 0) := by
  cases cap with
  | zero => rfl
  | succ cap => rw [flatten, flattenOnce_eq_self h]; rfl

/-- What went is not attached any more. -/
theorem not_mem_attached_unwrapOne (hd : d.WellFormed) {n : NodeId} (hroot : n ≠ Arena.root)
    (h : unwrapOne d n = some e) : n ∉ e.attached := by
  have hwf := (takesOut_unwrapOne hd hroot h).wellFormed
  intro hn
  obtain ⟨p, hp, _⟩ := hwf.exists_parent? hn
  obtain ⟨hmem, _, ⟨_, rfl⟩ | ⟨only, hinner, rfl⟩⟩ := unwrapOne_cases hd hroot h
  · have hnone : (d.detach n).parent? n = none := (Arena.parent?_detach ..).trans (if_pos rfl)
    rw [hnone] at hp
    exact absurd hp (by simp)
  · obtain ⟨q, hq, _⟩ := hd.exists_parent? hmem
    have honly : only ∈ d.children n :=
      (Document.mem_elementChildren.1 (hinner ▸ List.mem_singleton_self only)).1
    obtain ⟨hne, hlt, _⟩ := hd.nodes.child_fits hq honly
    have hnone : (d.replaceWith n only).parent? n = none :=
      (Arena.parent?_replaceWith hne hq hlt n).trans (if_pos rfl)
    rw [hnone] at hp
    exact absurd hp (by simp)

/-- **Of the elements only the wrapper itself goes.** -/
theorem mem_attached_unwrapOne (hd : d.WellFormed) {n m : NodeId} (hroot : n ≠ Arena.root)
    (h : unwrapOne d n = some e) (hm : m ∈ d.attached) (hel : d.isElement m = true)
    (hne : m ≠ n) : m ∈ e.attached := by
  obtain ⟨hn, _, ⟨hinner, rfl⟩ | ⟨only, hinner, rfl⟩⟩ := unwrapOne_cases hd hroot h
  · have hnot : m ∉ d.descendants n := fun hmn => by
      obtain ⟨c, hc, _⟩ := Document.exists_elementChild hd hmn hel
      rw [hinner] at hc
      exact absurd hc (by simp)
    have hleft : (d.detach n).attached = _ :=
      (Arena.contracts_detach hd.nodes n).descendants_eq hd.nodes (hd.nodes.detach n)
        (by simpa using ⟨hroot.symm, hd.nodes.root_not_mem_descendants n⟩)
    rw [hleft, List.mem_filter]
    exact ⟨hm, by simpa using ⟨hne, hnot⟩⟩
  · obtain ⟨p, hp, _⟩ := hd.exists_parent? hn
    have honly : only ∈ d.children n :=
      (Document.mem_elementChildren.1 (hinner ▸ List.mem_singleton_self only)).1
    have hnot : ¬ d.nodes.Displaced n only m := by
      rintro (hmn | ⟨hmn, hmo, hmo'⟩)
      · exact hne hmn
      · obtain ⟨c, hc, hmc⟩ := Document.exists_elementChild hd hmn hel
        rw [hinner, List.mem_singleton] at hc
        subst hc
        exact hmc.elim hmo hmo'
    have hleft : (d.replaceWith n only).attached = _ :=
      (Arena.contracts_replaceWith hd.nodes hp honly).descendants_eq hd.nodes
        (hd.nodes.replaceWith_child hp honly)
        (decide_eq_false fun hgone => hgone.elim hroot.symm
          fun h => hd.nodes.root_not_mem_descendants n h.1)
    rw [hleft, List.mem_filter]
    exact ⟨hm, by simpa using hnot⟩

/-- **One division goes** with a wrapper, the wrapper itself. -/
theorem divs_unwrapOne (hd : d.WellFormed) {n : NodeId} (hroot : n ≠ Arena.root)
    (h : unwrapOne d n = some e) :
    e.elementsByTag "div" = (d.elementsByTag "div").filter (· != n) := by
  have htakes := takesOut_unwrapOne hd hroot h
  have htag : ∀ m, e.hasTag "div" m = d.hasTag "div" m := fun m =>
    Document.hasTag_congr (Document.tag?_congr (htakes.value?_eq m)) "div"
  rw [Document.elementsByTag, Document.elementsByTag, List.filter_filter]
  refine htakes.keeps.filter_attached_eq (fun m _ hm => ?_) (fun m hm hgone => ?_)
    fun m hm hnew => absurd (htakes.attached m hm) hnew
  · have hne : m ≠ n := by
      rintro rfl
      exact not_mem_attached_unwrapOne hd hroot h hm
    rw [htag, bne_iff_ne.2 hne, Bool.true_and]
  · by_contra hdiv
    obtain ⟨hne, hdiv⟩ := Bool.and_eq_true_iff.1 (Bool.eq_true_of_not_eq_false hdiv)
    have hel : d.isElement m = true := Document.isElement_iff_tag?.2 ⟨_, Document.hasTag_iff.1 hdiv⟩
    exact hgone (mem_attached_unwrapOne hd hroot h hm hel (bne_iff_ne.1 hne))

/-- **The number of changes is the number of divisions that went.** -/
theorem length_divs_unwrapAll {nodes : List NodeId} (hd : d.WellFormed)
    (hroot : ∀ n ∈ nodes, n ≠ Arena.root) :
    ((unwrapAll nodes d).1.elementsByTag "div").length + (unwrapAll nodes d).2 =
      (d.elementsByTag "div").length := by
  induction nodes generalizing d with
  | nil => rfl
  | cons n rest ih =>
      have hn : n ≠ Arena.root := hroot n List.mem_cons_self
      have hrest : ∀ m ∈ rest, m ≠ Arena.root := fun m hm => hroot m (List.mem_cons_of_mem n hm)
      rw [unwrapAll]
      cases h : unwrapOne d n with
      | none => exact ih hd hrest
      | some changed =>
          obtain ⟨hmem, hwrapper, _⟩ := unwrapOne_cases hd hn h
          have hdiv : n ∈ d.elementsByTag "div" := Document.mem_elementsByTag.2
            ⟨hmem, by rw [Document.tag?, (Document.isWrapper_iff.1 hwrapper).1]⟩
          have hone : (changed.elementsByTag "div").length + 1 =
              (d.elementsByTag "div").length := by
            have hnodup : (d.elementsByTag "div").Nodup := hd.nodup_attached.filter _
            rw [divs_unwrapOne hd hn h, ← hnodup.erase_eq_filter]
            exact List.length_erase_add_one hdiv
          rw [← hone, ← ih (takesOut_unwrapOne hd hn h).wellFormed hrest]
          rfl

/-- Taking a node out changes the children of its parent only. -/
theorem children_unwrapOne (hd : d.WellFormed) {n m : NodeId} (hroot : n ≠ Arena.root)
    (h : unwrapOne d n = some e) (hne : m ≠ n) (hm : n ∉ d.children m) :
    e.children m = d.children m := by
  obtain ⟨hn, _, ⟨_, rfl⟩ | ⟨only, hinner, rfl⟩⟩ := unwrapOne_cases hd hroot h
  · exact (Arena.children_detach hd.nodes n m).trans (Arena.filter_bne_eq_self hm)
  · obtain ⟨p, hp, _⟩ := hd.exists_parent? hn
    have honly : only ∈ d.children n :=
      (Document.mem_elementChildren.1 (hinner ▸ List.mem_singleton_self only)).1
    have hnot : only ∉ d.children m := fun hmem =>
      hne (Option.some.inj ((hd.nodes.parent?_of_mem hmem).symm.trans (hd.nodes.parent?_of_mem honly)))
    refine (hd.nodes.children_replaceWith_child hp honly m).trans ?_
    have hsame := Arena.filter_bne_eq_self hnot
    rw [Document.children] at hsame hm
    rw [hsame, Arena.substitute_eq_self hm]
    rfl

/-- **Nothing becomes a redundant wrapper** when another node goes that is not its child. -/
theorem unwrapOne_stays_none (hd : d.WellFormed) {n m : NodeId} (hroot : n ≠ Arena.root)
    (h : unwrapOne d n = some e) (hne : m ≠ n) (hm : n ∉ d.children m) (hmroot : m ≠ Arena.root)
    (hnone : unwrapOne d m = none) : unwrapOne e m = none := by
  have htakes := takesOut_unwrapOne hd hroot h
  have hchildren := children_unwrapOne hd hroot h hne hm
  have hvalue := htakes.value?_eq
  have hinner : e.elementChildren m = d.elementChildren m := by
    rw [Document.elementChildren, Document.elementChildren, hchildren]
    exact List.filter_congr fun c _ => Document.isElement_congr (hvalue c)
  have htext : e.hasDirectText m = d.hasDirectText m := by
    rw [Document.hasDirectText, Document.hasDirectText, hchildren]
    refine List.any_congr rfl fun c => ?_
    rw [Document.isVisibleText, hvalue, ← Document.isVisibleText]
  have hwrapper : isWrapper e m = true ↔ isWrapper d m = true := by
    rw [Document.isWrapper_iff, Document.isWrapper_iff, hvalue, htext]
  rw [unwrapOne_eq_none_iff] at hnone ⊢
  intro hattached hw
  rw [hinner]
  refine hnone ?_ (hwrapper.1 hw)
  have hmem := htakes.attached m (htakes.wellFormed.mem_attached_iff.2 ⟨hmroot, hattached⟩)
  exact hd.isAttached_of_mem hmem

/-- Taking nodes out puts nothing below a node. -/
theorem mem_descendants_of_takesOut (h : TakesOut d e) {m n : NodeId} (hm : m ∈ e.attached)
    (hn : n ∈ e.descendants m) : n ∈ d.descendants m := by
  have hn' : n ∈ e.attached := h.wellFormed.mem_attached_of_mem_descendants hm hn
  exact (h.keeps.mem_descendants_iff (h.attached m hm) hm (h.attached n hn') hn').1 hn

/-- What is no redundant wrapper stays none while nodes go that are not below it. -/
private theorem unwrapOne_unwrapAll_of_none {nodes : List NodeId} (hd : d.WellFormed)
    (hroot : ∀ n ∈ nodes, n ≠ Arena.root) {m : NodeId} (hmroot : m ≠ Arena.root)
    (hnone : unwrapOne d m = none)
    (hnot : ∀ n ∈ nodes, m ≠ n ∧ (m ∈ d.attached → n ∉ d.descendants m)) :
    unwrapOne (unwrapAll nodes d).1 m = none := by
  induction nodes generalizing d with
  | nil => exact hnone
  | cons n rest ih =>
      have hrest : ∀ x ∈ rest, x ≠ Arena.root := fun x hx => hroot x (List.mem_cons_of_mem n hx)
      have hlater := fun x hx => hnot x (List.mem_cons_of_mem n hx)
      rw [unwrapAll]
      cases h : unwrapOne d n with
      | none => exact ih hd hrest hnone hlater
      | some changed =>
          have hn : n ≠ Arena.root := hroot n List.mem_cons_self
          have htakes := takesOut_unwrapOne hd hn h
          obtain ⟨hne, hbelow⟩ := hnot n List.mem_cons_self
          -- only the parent of what goes gets other children, and that is not the node
          refine ih htakes.wellFormed hrest ?_ fun x hx => ⟨(hlater x hx).1, fun hm hxm => ?_⟩
          · by_cases hm : m ∈ changed.attached
            · have hchild : n ∉ d.children m := fun hc =>
                hbelow (htakes.attached m hm) (hd.nodes.mem_descendants_of_mem hc)
              exact unwrapOne_stays_none hd hn h hne hchild hmroot hnone
            · refine unwrapOne_eq_none_iff.2 fun hattached => absurd ?_ hm
              exact htakes.wellFormed.mem_attached_iff.2 ⟨hmroot, hattached⟩
          · exact (hlater x hx).2 (htakes.attached m hm) (mem_descendants_of_takesOut htakes hm hxm)

/-- Nodes that are looked at innermost first are no redundant wrappers afterwards. -/
private theorem unwrapOne_unwrapAll {nodes : List NodeId} (hd : d.WellFormed)
    (hroot : ∀ n ∈ nodes, n ≠ Arena.root)
    (hinner : nodes.Pairwise fun m n => m ≠ n ∧ (m ∈ d.attached → n ∉ d.descendants m)) :
    ∀ n ∈ nodes, unwrapOne (unwrapAll nodes d).1 n = none := by
  induction nodes generalizing d with
  | nil => exact fun n hn => absurd hn (by simp)
  | cons n rest ih =>
      obtain ⟨hfirst, hlater⟩ := List.pairwise_cons.1 hinner
      have hn : n ≠ Arena.root := hroot n List.mem_cons_self
      have hrest : ∀ x ∈ rest, x ≠ Arena.root := fun x hx => hroot x (List.mem_cons_of_mem n hx)
      rw [unwrapAll]
      cases h : unwrapOne d n with
      | none =>
          intro x hx
          rcases List.mem_cons.1 hx with rfl | hx
          · exact unwrapOne_unwrapAll_of_none hd hrest hn h hfirst
          · exact ih hd hrest hlater x hx
      | some changed =>
          have htakes := takesOut_unwrapOne hd hn h
          have hgone : n ∉ changed.attached := not_mem_attached_unwrapOne hd hn h
          intro x hx
          rcases List.mem_cons.1 hx with rfl | hx
          · -- what went is not attached any more, so nothing is below it
            refine unwrapOne_unwrapAll_of_none htakes.wellFormed hrest hn ?_
              fun y hy => ⟨(hfirst y hy).1, fun hx => absurd hx hgone⟩
            refine unwrapOne_eq_none_iff.2 fun hattached => absurd ?_ hgone
            exact htakes.wellFormed.mem_attached_iff.2 ⟨hn, hattached⟩
          · refine ih htakes.wellFormed hrest (hlater.imp fun hmn => ⟨hmn.1, fun hm hmem => ?_⟩) x hx
            exact hmn.2 (htakes.attached _ hm) (mem_descendants_of_takesOut htakes hm hmem)

/-- **One pass finds all redundant wrappers.** -/
theorem flat_flattenOnce (hd : d.WellFormed) : Flat (flattenOnce d).1 := by
  have hnodes : (d.elementsByTag "div").reverse.Pairwise
      fun m n => m ≠ n ∧ (m ∈ d.attached → n ∉ d.descendants m) := by
    -- in document order a node comes before what is below it, so afterwards when reversed
    rw [List.pairwise_reverse]
    refine ((hd.nodup_attached.imp Ne.symm).and (hd.nodes.pairwise_descendants Arena.root)).filter
      _ |>.imp ?_
    exact fun h => ⟨h.1, fun _ => h.2⟩
  have hrun := run_flattenOnce hd
  intro n hn
  by_contra hsome
  obtain ⟨changed, hchanged⟩ := Option.ne_none_iff_exists'.1 hsome
  have hwf := hrun.wellFormed hd
  obtain ⟨_, hwrapper, _⟩ := unwrapOne_cases hwf (hwf.ne_root hn) hchanged
  -- what is a division now was one before, and was looked at
  have htag : (flattenOnce d).1.tag? n = some "div" := by
    rw [Document.tag?, (Document.isWrapper_iff.1 hwrapper).1]
  have hold : n ∈ d.attached := by
    by_contra hnew
    exact absurd (hrun.added hd hn hnew).1 (by decide)
  have hdiv : n ∈ d.elementsByTag "div" := Document.mem_elementsByTag.2
    ⟨hold, hrun.tag?_of_tag? hd (by simp [wrapperLicence]) (hd.lt_nextId hold) htag⟩
  refine hsome (unwrapOne_unwrapAll hd (fun x hx => ne_root_of_mem_divs hd hx) hnodes n ?_)
  exact List.mem_reverse.2 hdiv

/-- **The first pass does all the work**: with more passes allowed the document and the number stay
the same. -/
theorem flatten_eq_flattenOnce (hd : d.WellFormed) {cap : Nat} (hcap : 0 < cap) :
    flatten cap d = flattenOnce d := by
  obtain ⟨k, rfl⟩ := Nat.exists_eq_add_one.2 hcap
  rw [flatten]
  split
  · rfl
  · rw [flatten_eq_self (flat_flattenOnce hd)]
    rfl

/-- **Flattening leaves no redundant wrapper.** -/
theorem flat_flatten (hd : d.WellFormed) {cap : Nat} (hcap : 0 < cap) : Flat (flatten cap d).1 := by
  rw [flatten_eq_flattenOnce hd hcap]
  exact flat_flattenOnce hd

/-- **The number that is returned counts the divisions that were lost.** -/
theorem count_flattenOnce (hd : d.WellFormed) : (flattenOnce d).2 =
    ((d.elementsByTag "div").filter (· ∉ (flattenOnce d).1.attached)).length := by
  have hrun := run_flattenOnce hd
  have hleft : (flattenOnce d).1.elementsByTag "div" =
      (d.elementsByTag "div").filter (· ∈ (flattenOnce d).1.attached) := by
    rw [Document.elementsByTag, Document.elementsByTag, List.filter_filter]
    refine (hrun.keeps hd).filter_attached_eq (fun n hn hn' => ?_) (fun n _ hn' => by simp [hn'])
      fun n hn hn' => absurd (hrun.mem_attached hd rfl hn) hn'
    rw [Document.hasTag_congr (hrun.tag?_eq_of_nil hd rfl (hd.lt_nextId hn)), decide_eq_true hn',
      Bool.true_and]
  have hcount := length_divs_unwrapAll hd fun n hn => ne_root_of_mem_divs hd hn
  have hsplit := List.length_eq_length_filter_add (l := d.elementsByTag "div")
    fun n => decide (n ∈ (flattenOnce d).1.attached)
  rw [← flattenOnce, hleft] at hcount
  simp only [decide_not]
  omega

/-- **Flattening settles everything in one pass.**  Afterwards a wrapper has at least two elements
inside; the document and the number do not depend on how many passes are allowed; flattening again
changes nothing, and the number counts the divisions that were lost. -/
theorem flatten_settles (hd : d.WellFormed) {cap : Nat} (hcap : 0 < cap) :
    let flat := flatten cap d
    (∀ n ∈ flat.1.attached, isWrapper flat.1 n = true →
        1 < (flat.1.elementChildren n).length) ∧
      flat = flattenOnce d ∧
      (∀ other, 0 < other → flatten other d = flat) ∧
      (∀ again, flatten again flat.1 = (flat.1, 0)) ∧
      flat.2 = ((d.elementsByTag "div").filter (· ∉ flat.1.attached)).length := by
  have honce : flatten cap d = flattenOnce d := flatten_eq_flattenOnce hd hcap
  have hflat : Flat (flatten cap d).1 := flat_flatten hd hcap
  have hwf : (flatten cap d).1.WellFormed := (run_flatten hd cap).wellFormed hd
  refine ⟨fun n hn => ?_, honce, fun other hother => ?_, flatten_eq_self hflat, ?_⟩
  · exact unwrapOne_eq_none_iff.1 (hflat n hn) (hwf.isAttached_of_mem hn)
  · rw [honce, flatten_eq_flattenOnce hd hother]
  · rw [honce]
    exact count_flattenOnce hd

/-- A chain of wrappers around a paragraph, beside a wrapper that stays. -/
theorem flatten_settles_chain :
    let d := Document.parse "<div><div><div><p>x</p></div></div></div><div><i>a</i><b>b</b></div>"
    d.WellFormed ∧ 0 < 8 ∧ (flatten 8 d).2 = 3 ∧
      ((d.elementsByTag "div").filter (· ∉ (flatten 8 d).1.attached)).length = 3 ∧
      ∀ again, flatten again (flatten 8 d).1 = ((flatten 8 d).1, 0) := by
  have hwf := Document.WellFormed.parse
    "<div><div><div><p>x</p></div></div></div><div><i>a</i><b>b</b></div>"
  obtain ⟨_, _, _, hagain, hcount⟩ := flatten_settles hwf (show 0 < 8 by decide)
  have hthree : (flatten 8 (Document.parse
      "<div><div><div><p>x</p></div></div></div><div><i>a</i><b>b</b></div>")).2 = 3 := by
    decide +kernel
  exact ⟨hwf, by decide, hthree, hcount ▸ hthree, hagain⟩

end Landmarks

end ThemeCompiler
