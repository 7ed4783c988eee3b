/-
**Improving an improved page.**

On an improved page most passes find nothing to do.  The others do something exactly when one of
four patterns is left: a division whose class asks for another element, an interactive element that
is hidden, a plain element that reacts to clicks, or a role that repeats what the element says.  The
first and the third are left by surplus main landmarks, which become divisions after the parts that
look for them, and in a document not even by these; the second is left because clickable elements
become buttons after hidden buttons were looked for, and the last because a role can be there twice.
What such a part changes no later one changes back: the tag is never plain again, and an attribute
that was removed is not set.

Main definitions:

* `ThemeCompiler.Compilation.Unchanged` — every attached node keeps its tag, its attributes and its
  children;
* `ThemeCompiler.Compilation.AllShown`, `ThemeCompiler.Compilation.NoRoleRepeated` — no interactive
  element is hidden, no role is redundant;
* `ThemeCompiler.Compilation.Settled` — none of the four patterns is left.

Main results:

* `ThemeCompiler.Compilation.Optimized.improve_eq_self` — **a settled page comes out as it is**;
* `ThemeCompiler.Compilation.Optimized.settled_of_unchanged` — and only a settled one does;
* `ThemeCompiler.Compilation.settled_improve_iff` — which pages are settled once they are improved;
* `ThemeCompiler.Compilation.unchanged_improve_iff` — **when improving a page again does nothing**.
-/

import ThemeCompiler.Proofs.Compilation.Surplus

set_option relaxedAutoImplicit false
set_option autoImplicit false

namespace ThemeCompiler

open Document (Licence Run lookupAttr countAttr)
open Pass (IsVisit)

namespace Compilation

variable {d e f : Document}

/-- **Every attached node keeps its tag, its attributes and its children.** -/
structure Unchanged (d e : Document) : Prop where
  tag?_eq : ∀ n, n = Arena.root ∨ n ∈ d.attached → e.tag? n = d.tag? n
  attrs_eq : ∀ n, n = Arena.root ∨ n ∈ d.attached → e.attrs n = d.attrs n
  children_eq : ∀ n, n = Arena.root ∨ n ∈ d.attached → e.children n = d.children n

theorem Unchanged.refl (d : Document) : Unchanged d d :=
  ⟨fun _ _ => rfl, fun _ _ => rfl, fun _ _ => rfl⟩

/-- **No interactive element is hidden.** -/
def AllShown (e : Document) : Prop :=
  ∀ n ∈ e.attached, Accessibility.isInteractive e n = true → e.attr? "aria-hidden" n ≠ some "true"

/-- **No role repeats what the element says.** -/
def NoRoleRepeated (e : Document) : Prop :=
  ∀ n ∈ e.attached, ∀ p ∈ Accessibility.impliedRoles, e.tag? n = some p.1 →
    e.attr? "role" n ≠ some p.2

/-- **None of the patterns is left that the passes look for** and may leave behind. -/
structure Settled (e : Document) : Prop where
  /-- No class asks for another element than a division. -/
  divisions : ∀ n ∈ e.attached, e.tag? n = some "div" → Seo.upgrade? e n = none
  shown : AllShown e
  /-- No plain element reacts to clicks. -/
  plain : ∀ n ∈ e.attached, e.hasTagIn Accessibility.primitiveTags n = true →
    e.attr? "onclick" n = none
  roles : NoRoleRepeated e

namespace Optimized

/-! ### Passes with nothing to do -/

theorem structured_eq (h : Optimized e) (config : Config) (kind : TemplateKind) :
    structured config kind e = e := by
  obtain ⟨m, hm⟩ := h.main
  rw [structured, Landmarks.normalize_eq_self hm, ite_self, Landmarks.flatten_eq_self h.flat]

/-- Of the search pass only the sweep over the divisions may change anything. -/
theorem search_eq (h : Optimized e) (cap : Nat) :
    (Seo.changes cap e).1 = (Seo.inferAlts (Seo.upgradeTags e).1).1 := by
  rw [Seo.changes_fst, Seo.dedupeH1_eq_self h.single, Seo.promoteH2_eq_self h.first,
    Seo.repairSkips_eq_self h.levels, Seo.prune_eq_self h.flat, Seo.fixAnchors_eq_self h.links]

theorem inferAlts_eq (h : Optimized e) : (Seo.inferAlts e).1 = e := by
  rw [Seo.inferAlts_eq_self fun n hn htag => ?_]
  have hdescribed := h.images n hn htag
  rw [Accessibility.isDescribed, Bool.or_eq_true] at hdescribed
  rcases hdescribed with hfilled | hmarked
  · rw [Document.hasAttr]
    cases halt : e.attr? "alt" n with
    | none => simp [Accessibility.filled?, halt] at hfilled
    | some value => rfl
  · exact (Bool.and_eq_true_iff.1 hmarked).1

theorem fixLandmarks_eq (h : Optimized e) (mainId : String) :
    (Accessibility.fixLandmarks mainId e).1 = e := by
  obtain ⟨m, hm⟩ := h.main
  rw [Accessibility.fixLandmarks_eq_self hm]

theorem labelControls_eq (h : Optimized e) : (Accessibility.labelControls e).1 = e := by
  rw [Accessibility.labelControls_eq_self h.controls]

theorem markDecorative_eq (h : Optimized e) : (Accessibility.markDecorative e).1 = e := by
  rw [Accessibility.markDecorative_eq_self h.images]

/-! ### Settled pages -/

/-- **A settled page comes out as it is.** -/
theorem improve_eq_self (h : Optimized e) (hs : Settled e) (config : Config) (kind : TemplateKind) :
    (improve config kind e).1 = e := by
  rw [improve_fst, h.structured_eq, h.search_eq, Seo.upgradeTags_eq_self hs.divisions,
    h.inferAlts_eq, Accessibility.changes_fst, Accessibility.unhide_eq_self hs.shown,
    Accessibility.convertClickables_eq_self hs.plain, h.fixLandmarks_eq, h.labelControls_eq,
    h.markDecorative_eq, Accessibility.dropRoles_eq_self hs.roles, Landmarks.flatten_eq_self h.flat]

/-! ### Changes that last -/

/-- The tags that may become other tags, apart from those of headings and links. -/
def plainTags : List String := ["div", "span", "p", "main"]

/-- **An element that is not plain never becomes plain again.** -/
theorem tag?_not_plain (hrun : Run pageLicence d e) (hd : d.WellFormed) {n : NodeId} {tag : String}
    (htag : d.tag? n = some tag) (hplain : tag ∉ plainTags) :
    ∃ tag', e.tag? n = some tag' ∧ tag' ∉ plainTags :=
  hrun.tag?_inv hd (Q := (· ∉ plainTags)) (by decide) htag hplain

/-- **An attribute that a sweep removes stays away**, so where all attributes stay it removed none. -/
theorem attr?_ne_of_attrs_eq {l l' : Licence} {name value : String} {p : NodeId → Bool}
    {entry : Accessibility.Change} (hname : name ∈ l.drops) (hl : l.Within l')
    (hs : name ∉ l'.sets) (hd : d.WellFormed)
    (hrest : Run l' (Pass.visitAll (fun d n => if d.attr? name n == some value then
      some (d.removeAttr n name, entry) else none) (d.attached.filter p) d).1 e)
    (hattrs : ∀ n ∈ d.attached, e.attrs n = d.attrs n) :
    ∀ n ∈ d.attached, p n = true → d.attr? name n ≠ some value := by
  have hvisit := Accessibility.isVisit_removeAttr hname value entry
  rcases hvisit.first_change_sweep hd (p := p) (fun _ _ => trivial) with
    hnone | ⟨n, hn, hpn, y, change, hv, hchange, hlater⟩
  · intro n hn hpn hvalue
    have hv := hnone n hn hpn
    rw [if_pos (by simpa using hvalue)] at hv
    exact absurd hv (by simp)
  · -- an attribute fewer is there after the first change, and none is put back
    exfalso
    split at hv
    · next hvalue =>
        have hvalue : d.attr? name n = some value := by simpa using hvalue
        have hel := Accessibility.isElement_of_attr? hvalue
        cases hv
        have hwf := hchange.wellFormed hd
        have hrun := (hlater.mono hl).trans hrest
        have hlt : n < (d.removeAttr n name).nextId :=
          (hd.lt_nextId hn).trans_le (hchange.keeps hd).nextId_le
        have hcount := hrun.countAttr_le hwf hlt hs
        have hdrop := Document.countAttr_dropAttr name (by
          rw [← Document.attr?_eq_lookupAttr, hvalue]
          rfl : (lookupAttr name (d.attrs n)).isSome = true)
        rw [hattrs n hn, Document.removeAttr, Document.attrs_setAttrs, if_pos ⟨rfl, hel⟩] at hcount
        omega
    · exact absurd hv (by simp)

/-- Where all tags stay the sweep over the divisions changed none. -/
theorem divisions_of_tag?_eq (hd : d.WellFormed) (hrest : Run pageLicence (Seo.upgradeTags d).1 e)
    (htags : ∀ n ∈ d.attached, e.tag? n = d.tag? n) (hmain : d.elementsByTag "main" ≠ []) :
    ∀ n ∈ d.attached, d.tag? n = some "div" → Seo.upgrade? d n = none := by
  rw [Seo.upgradeTags_eq] at hrest
  rcases Seo.isVisit_upgrade.first_change_sweep hd (p := d.hasTag "div")
    (fun _ hn => Document.hasTag_iff.1 hn) with hnone | ⟨n, hn, hdiv, y, change, hv, hchange, hlater⟩
  · intro n hn htag
    exact Option.map_eq_none_iff.1 (hnone n hn (Document.hasTag_iff.2 htag))
  · -- the first division that was changed is none any more, whatever comes later
    exfalso
    have hdiv := Document.hasTag_iff.1 hdiv
    obtain ⟨rule, hrule, heq⟩ := Option.map_eq_some_iff.1 hv
    cases heq
    obtain ⟨hretag, hlower, hsingle⟩ := Seo.upgrade?_eq_some hrule
    have hnew : (d.rename n rule.outcome).tag? n = some rule.outcome := by
      rw [Document.tag?_rename, if_pos rfl, hdiv, Option.map_some, hlower]
    have hspecial : ∀ r ∈ Seo.upgradeLicence.retags, r.2 ≠ "main" → r.2 ∉ plainTags := by decide
    have hrun := (hlater.mono upgradeLicence_within).trans hrest
    obtain ⟨tag, htag, hplain⟩ := tag?_not_plain hrun (hchange.wellFormed hd) hnew
      (hspecial _ hretag fun ho => hmain (hsingle ho))
    rw [htags n hn, hdiv, Option.some.injEq] at htag
    exact hplain (htag ▸ by decide)

/-- Where all tags stay no plain element reacted to clicks. -/
theorem plain_of_tag?_eq (hd : d.WellFormed)
    (hrest : Run pageLicence (Accessibility.convertClickables d).1 e)
    (htags : ∀ n ∈ d.attached, e.tag? n = d.tag? n) :
    ∀ n ∈ d.attached, d.hasTagIn Accessibility.primitiveTags n = true →
      d.attr? "onclick" n = none := by
  rcases Accessibility.isVisit_convert.first_change_sweep hd
    (p := d.hasTagIn Accessibility.primitiveTags) (fun _ hn => Document.hasTagIn_iff.1 hn) with
    hnone | ⟨n, hn, hplain, y, change, hv, hchange, hlater⟩
  · intro n hn hplain
    have hv := hnone n hn hplain
    split at hv
    · next hclick => exact hclick
    · exact absurd hv (by simp)
  · exfalso
    obtain ⟨old, hold, htag⟩ := Document.hasTagIn_iff.1 hplain
    split at hv
    · exact absurd hv (by simp)
    · next handler _ =>
      cases hv
      have hbutton : ((d.rename n "button").setAttrs n
          (Accessibility.buttonAttrs d n handler)).tag? n = some "button" := by
        rw [Document.tag?_setAttrs, Document.tag?_rename, if_pos rfl, htag]
        rfl
      have hrun := (hlater.mono clickLicence_within).trans hrest
      obtain ⟨tag, htag', hnot⟩ := tag?_not_plain hrun (hchange.wellFormed hd) hbutton (by decide)
      rw [htags n hn, htag, Option.some.injEq] at htag'
      have hsub : ∀ t ∈ Accessibility.primitiveTags, t ∈ plainTags := by decide
      exact hnot (htag' ▸ hsub old hold)

/-- Where all attributes stay no role was dropped. -/
theorem roles_of_attrs_eq (hd : d.WellFormed)
    (hrest : Run Accessibility.roleLicence (Accessibility.dropRoles d).1 e)
    (hattrs : ∀ n ∈ d.attached, e.attrs n = d.attrs n) : NoRoleRepeated d := by
  have hsame : Accessibility.roleLicence.Within Accessibility.roleLicence :=
    ⟨fun _ h => h, fun _ h => h, fun _ h => h, id⟩
  have hdrop : ∀ {x : Document} (tag role : String), x.WellFormed →
      Run Accessibility.roleLicence x (Accessibility.dropRole tag role x).1 := fun tag role hx =>
    Accessibility.run_dropRole hx tag role
  have hroles : ∀ tag role : String, Run Accessibility.roleLicence
      (Accessibility.dropRole tag role d).1 e → ∀ n ∈ d.attached, d.tag? n = some tag →
        d.attr? "role" n ≠ some role := fun tag role hrest n hn htag =>
    attr?_ne_of_attrs_eq (p := d.hasTag tag) (by decide) hsame (by decide) hd hrest hattrs n hn
      (Document.hasTag_iff.2 htag)
  rw [Accessibility.dropRoles_fst] at hrest
  have hmain : ∀ n ∈ d.attached, d.tag? n = some "main" → d.attr? "role" n ≠ some "main" := by
    have hd₁ := (hdrop "main" "main" hd).wellFormed hd
    have hnav := hdrop "nav" "navigation" hd₁
    have hfooter := hdrop "footer" "contentinfo" (hnav.wellFormed hd₁)
    exact hroles _ _ (hnav.trans (hfooter.trans hrest))
  rw [Accessibility.dropRole_eq_self hmain] at hrest
  have hnav : ∀ n ∈ d.attached, d.tag? n = some "nav" → d.attr? "role" n ≠ some "navigation" := by
    have hd₁ := (hdrop "nav" "navigation" hd).wellFormed hd
    exact hroles _ _ ((hdrop "footer" "contentinfo" hd₁).trans hrest)
  rw [Accessibility.dropRole_eq_self hnav] at hrest
  have hfooter : ∀ n ∈ d.attached, d.tag? n = some "footer" →
      d.attr? "role" n ≠ some "contentinfo" := hroles _ _ hrest
  intro n hn p hp htag
  simp only [Accessibility.impliedRoles, List.mem_cons, List.not_mem_nil, or_false] at hp
  rcases hp with rfl | rfl | rfl
  · exact hmain n hn htag
  · exact hnav n hn htag
  · exact hfooter n hn htag

/-- **Only a settled page comes out as it is.** -/
theorem settled_of_unchanged (h : Optimized e) {config : Config} {kind : TemplateKind}
    (hu : Unchanged e (improve config kind e).1) : Settled e := by
  have hd := h.wellFormed
  have htags : ∀ n ∈ e.attached, (improve config kind e).1.tag? n = e.tag? n := fun n hn =>
    hu.tag?_eq n (Or.inr hn)
  have hattrs : ∀ n ∈ e.attached, (improve config kind e).1.attrs n = e.attrs n := fun n hn =>
    hu.attrs_eq n (Or.inr hn)
  rw [improve_fst, h.structured_eq, h.search_eq] at htags hattrs
  have hflatten : ∀ {x : Document}, x.WellFormed →
      Run pageLicence x (Landmarks.flatten config.flattenIterations x).1 := fun hx =>
    (Landmarks.run_flatten hx _).mono wrapperLicence_within
  -- the sweep over the divisions changed nothing, so the search pass did not
  have hmain : e.elementsByTag "main" ≠ [] := by
    obtain ⟨m, hm⟩ := h.main
    rw [hm]
    exact List.cons_ne_nil m []
  have hdivisions : ∀ n ∈ e.attached, e.tag? n = some "div" → Seo.upgrade? e n = none := by
    have hd₁ := (Seo.run_upgradeTags hd).wellFormed hd
    have h₂ := Seo.run_inferAlts hd₁
    have hd₂ := h₂.wellFormed hd₁
    have h₃ := Accessibility.run_changes hd₂ config.mainLandmarkId
    have hrest := (h₂.mono altLicence_within).trans ((h₃.mono accessLicence_within).trans
      (hflatten (h₃.wellFormed hd₂)))
    exact divisions_of_tag?_eq hd hrest htags hmain
  rw [Seo.upgradeTags_eq_self hdivisions, h.inferAlts_eq, Accessibility.changes_fst] at htags hattrs
  -- nor did the sweep over the interactive elements
  have hshown : AllShown e := by
    have hd₁ := (Accessibility.run_unhide hd).wellFormed hd
    have h₂ := Accessibility.run_from_clickables hd₁ config.mainLandmarkId
    have hrest := (h₂.mono accessLicence_within).trans (hflatten (h₂.wellFormed hd₁))
    exact attr?_ne_of_attrs_eq (l := Accessibility.hideLicence) (by decide) hideLicence_within
      (by decide) hd hrest hattrs
  rw [Accessibility.unhide_eq_self hshown] at htags hattrs
  -- nor the one over the plain elements
  have hplain : ∀ n ∈ e.attached, e.hasTagIn Accessibility.primitiveTags n = true →
      e.attr? "onclick" n = none := by
    have hd₁ := (Accessibility.run_convertClickables hd).wellFormed hd
    have h₂ := Accessibility.run_from_landmarks hd₁ config.mainLandmarkId
    have hrest := (h₂.mono accessLicence_within).trans (hflatten (h₂.wellFormed hd₁))
    exact plain_of_tag?_eq hd hrest htags
  rw [Accessibility.convertClickables_eq_self hplain, h.fixLandmarks_eq, h.labelControls_eq,
    h.markDecorative_eq] at hattrs
  have hwithin : Landmarks.wrapperLicence.Within Accessibility.roleLicence := by decide
  have hrest := (Landmarks.run_flatten ((Accessibility.run_dropRoles hd).wellFormed hd)
    config.flattenIterations).mono hwithin
  exact ⟨hdivisions, hshown, hplain, roles_of_attrs_eq hd hrest hattrs⟩

end Optimized

/-- **Which pages are settled once they are improved.** -/
theorem settled_improve_iff (hd : d.WellFormed) (hbody : d.body?.isSome = true) (config : Config)
    (kind : TemplateKind) :
    let once := (improve config kind d).1
    Settled once ↔ AllShown once ∧ NoRoleRepeated once ∧
      (kind.isDocument = true ∨ SurplusQuiet d) := by
  intro once
  have hdivisions := divisions_improve_iff hd hbody config kind
  have hplain := plain_improve_iff hd config kind
  constructor
  · intro h
    refine ⟨h.shown, h.roles, ?_⟩
    rcases hdivisions.1 h.divisions with hkind | htelling
    · exact Or.inl hkind
    · refine (hplain.1 h.plain).imp id fun hclick n hn => ⟨hclick n hn, htelling n hn⟩
  · rintro ⟨hshown, hroles, hquiet⟩
    refine ⟨hdivisions.2 ?_, hshown, hplain.2 ?_, hroles⟩
    · exact hquiet.imp id fun hquiet n hn => (hquiet n hn).2
    · exact hquiet.imp id fun hquiet n hn => (hquiet n hn).1

/-- **When improving a page again does nothing.**  The page comes out unchanged exactly when no
interactive element of it is hidden, no role on it is redundant, and it is a document or had no
surplus main landmark with a click handler or a telling class.  Then it is the same document. -/
theorem unchanged_improve_iff (hd : d.WellFormed) (hbody : d.body?.isSome = true)
    (kind : TemplateKind) :
    let once := (improve Config.default kind d).1
    let again := (improve Config.default kind once).1
    (Unchanged once again ↔ AllShown once ∧ NoRoleRepeated once ∧
      (kind.isDocument = true ∨ SurplusQuiet d)) ∧ (Unchanged once again → again = once) := by
  intro once again
  have h : Optimized once := optimized_improve hd hbody Config.default (by decide) kind
  have hsame : Unchanged once again → again = once := fun hu =>
    h.improve_eq_self (h.settled_of_unchanged hu) _ _
  have hsettled : Unchanged once again ↔ Settled once := by
    refine ⟨h.settled_of_unchanged, fun hs => ?_⟩
    have heq : again = once := h.improve_eq_self hs _ _
    rw [heq]
    exact Unchanged.refl once
  exact ⟨hsettled.trans (settled_improve_iff hd hbody Config.default kind), hsame⟩

/-- A hidden division that reacts to clicks is a hidden button in the end, which only a second round
shows. -/
theorem unchanged_improve_hidden :
    let once := (improve Config.default .fragment
      (Document.parse "<div onclick=\"x()\" aria-hidden=\"true\">y</div>")).1
    ¬ Unchanged once (improve Config.default .fragment once).1 := by
  intro once hunchanged
  have hwf := Document.WellFormed.parse "<div onclick=\"x()\" aria-hidden=\"true\">y</div>"
  have hbody : (Document.parse
      "<div onclick=\"x()\" aria-hidden=\"true\">y</div>").body?.isSome = true := by
    decide +kernel
  have hshown := ((unchanged_improve_iff hwf hbody .fragment).1.1 hunchanged).1
  refine hshown 4 ?_ ?_ ?_
  · decide +kernel
  · decide +kernel
  · decide +kernel

end Compilation

end ThemeCompiler
