/-
**The interactive elements that stay hidden.**

The accessibility pass takes interactive elements out of hiding first and makes buttons of the plain
elements that react to clicks afterwards.  A plain element is not interactive when the first sweep
comes to it, and it takes over all its attributes when it becomes a button: the hidden ones among
them are interactive and hidden in the end.  Nothing else is, when no element has two attributes of
one name: what the later parts do makes no element interactive and hides none.

Main definitions:

* `ThemeCompiler.Accessibility.DistinctAttrs` — no element has two attributes of one name;
* `ThemeCompiler.Accessibility.hiddenControls` — the interactive elements that are hidden;
* `ThemeCompiler.Accessibility.hiddenClickables` — the plain elements that react to clicks and are
  hidden.

Main results:

* `ThemeCompiler.Accessibility.attr?_removeAttr_sweep`,
  `ThemeCompiler.Accessibility.tag?_convertClickables` — what the sweeps make of an element;
* `ThemeCompiler.Accessibility.hidden_changes_iff`, `ThemeCompiler.Accessibility.role_of_changes` —
  which elements are hidden in the end, and which have the role of a button;
* `ThemeCompiler.Accessibility.hiddenControls_optimize` — **the second are what becomes of the
  first**.
-/

import ThemeCompiler.Proofs.Compilation.Clickables

set_option relaxedAutoImplicit false
set_option autoImplicit false

namespace ThemeCompiler

open Document (Licence Run Relabels lookupAttr countAttr)

namespace Accessibility

variable {d e : Document}

/-! ### Attributes of different names -/

/-- **No element has two attributes of one name.** -/
def DistinctAttrs (d : Document) : Prop :=
  ∀ n ∈ d.attached, ((d.attrs n).map (·.name)).Nodup

instance (d : Document) : Decidable (DistinctAttrs d) :=
  inferInstanceAs (Decidable (∀ n ∈ d.attached, ((d.attrs n).map (·.name)).Nodup))

theorem DistinctAttrs.countAttr_le_one (h : DistinctAttrs d) {n : NodeId} (hn : n ∈ d.attached)
    (name : String) : countAttr name (d.attrs n) ≤ 1 := by
  have hcount := List.nodup_iff_count_le_one.1 (h n hn) name
  rwa [List.count, List.countP_map] at hcount

/-- An attribute whose name is there once is gone when it is removed. -/
theorem lookupAttr_dropAttr_self {name : String} {attrs : List Html.Attribute}
    (hsome : (lookupAttr name attrs).isSome = true) (hone : countAttr name attrs ≤ 1) :
    lookupAttr name (Document.dropAttr name attrs) = none := by
  have hdrop := Document.countAttr_dropAttr name hsome
  by_contra hrest
  have hpos := Document.countAttr_pos (Option.isSome_iff_ne_none.2 hrest)
  omega

/-! ### What the sweeps make of an element -/

/-- A sweep that removes an attribute relabels. -/
theorem relabels_removeAttr_sweep (name value : String) (entry : Change) (nodes : List NodeId)
    (d : Document) : Relabels d (Pass.visitAll (fun d n => if d.attr? name n == some value then
      some (d.removeAttr n name, entry) else none) nodes d).1 :=
  (isVisit_removeAttr (l := ⟨[], [], [name], false⟩) (List.mem_singleton_self name)
    value entry).relabels_visitAll nodes d

theorem relabels_unhide (d : Document) : Relabels d (unhide d).1 := relabels_removeAttr_sweep ..

theorem relabels_dropRole (tag role : String) (d : Document) : Relabels d (dropRole tag role d).1 :=
  relabels_removeAttr_sweep ..

theorem relabels_markDecorative (d : Document) : Relabels d (markDecorative d).1 :=
  isVisit_mark.relabels_visitAll ..

/-- **A sweep that removes an attribute of some value**, where the sweep finds it. -/
theorem attr?_removeAttr_sweep (hd : d.WellFormed) {name : String} (value : String) (entry : Change)
    (p : NodeId → Bool) {n : NodeId} (hn : n ∈ d.attached)
    (hone : countAttr name (d.attrs n) ≤ 1) :
    (Pass.visitAll (fun d n => if d.attr? name n == some value then
        some (d.removeAttr n name, entry) else none) (d.attached.filter p) d).1.attr? name n =
      if p n = true ∧ d.attr? name n = some value then none else d.attr? name n := by
  have hvisit := isVisit_removeAttr (l := ⟨[], [], [name], false⟩) (List.mem_singleton_self name)
    value entry
  cases hp : p n with
  | false =>
      rw [if_neg fun h => absurd h.1 (by simp)]
      exact Document.attr?_congr (Document.attrs_congr (hvisit.value?_sweep_of_not d hp)) name
  | true =>
      obtain ⟨x, hx, hcases⟩ := hvisit.visited_sweep hd (fun _ _ => trivial) hn hp
      have hattrs := Document.attrs_congr hx
      have hattr := Document.attr?_congr hattrs name
      rcases hcases with ⟨hnone, hlast⟩ | ⟨y, _, hsome, hlast⟩
      · -- the attribute has another value
        have hne : d.attr? name n ≠ some value := by
          intro hvalue
          rw [if_pos (by rw [hattr, hvalue, beq_self_eq_true])] at hnone
          exact absurd hnone (by simp)
        rw [if_neg fun h => hne h.2]
        exact Document.attr?_congr (Document.attrs_congr hlast) name
      · split at hsome
        · next hvalue =>
            cases hsome
            have hvalue : x.attr? name n = some value := by simpa using hvalue
            have hel := isElement_of_attr? hvalue
            rw [if_pos ⟨rfl, hattr.symm.trans hvalue⟩,
              Document.attr?_congr (Document.attrs_congr hlast), Document.attr?_eq_lookupAttr,
              Document.removeAttr, Document.attrs_setAttrs, if_pos ⟨rfl, hel⟩]
            refine lookupAttr_dropAttr_self ?_ (by rwa [hattrs])
            rw [← Document.attr?_eq_lookupAttr, hvalue]
            rfl
        · exact absurd hsome (by simp)

/-- An element is still hidden after the first sweep unless it is interactive. -/
theorem hidden_unhide_iff (hd : d.WellFormed) {n : NodeId} (hn : n ∈ d.attached)
    (hone : countAttr "aria-hidden" (d.attrs n) ≤ 1) :
    (unhide d).1.attr? "aria-hidden" n = some "true" ↔
      d.attr? "aria-hidden" n = some "true" ∧ isInteractive d n = false := by
  have hattr : (unhide d).1.attr? "aria-hidden" n = _ :=
    attr?_removeAttr_sweep hd "true" .unhidden (isInteractive d) hn hone
  rw [hattr]
  cases isInteractive d n with
  | false => simp
  | true =>
      by_cases hhidden : d.attr? "aria-hidden" n = some "true" <;> simp [hhidden]

/-- A role that is there after a sweep over the roles was there before. -/
theorem role_of_dropRole (hd : d.WellFormed) (tag role : String) {n : NodeId} (hn : n ∈ d.attached)
    (hone : countAttr "role" (d.attrs n) ≤ 1) {value : String}
    (h : (dropRole tag role d).1.attr? "role" n = some value) : d.attr? "role" n = some value := by
  have hattr : (dropRole tag role d).1.attr? "role" n = _ :=
    attr?_removeAttr_sweep hd role (.droppedRole tag) (d.hasTag tag) hn hone
  rw [hattr] at h
  split at h
  · exact absurd h (by simp)
  · exact h

theorem role_of_dropRoles (hd : d.WellFormed) {n : NodeId} (hn : n ∈ d.attached)
    (hone : countAttr "role" (d.attrs n) ≤ 1) {value : String}
    (h : (dropRoles d).1.attr? "role" n = some value) : d.attr? "role" n = some value := by
  have h₁ := run_dropRole hd "main" "main"
  have hd₁ := h₁.wellFormed hd
  have h₂ := run_dropRole hd₁ "nav" "navigation"
  have hd₂ := h₂.wellFormed hd₁
  have hn₁ : n ∈ (dropRole "main" "main" d).1.attached := by
    rwa [(relabels_dropRole ..).attached_eq]
  have hn₂ : n ∈ (dropRole "nav" "navigation" (dropRole "main" "main" d).1).1.attached := by
    rwa [(relabels_dropRole ..).attached_eq]
  have hone₁ := (h₁.countAttr_le hd (hd.lt_nextId hn) (by decide)).trans hone
  have hone₂ := (h₂.countAttr_le hd₁ (hd₁.lt_nextId hn₁) (by decide)).trans hone₁
  rw [dropRoles_fst] at h
  exact role_of_dropRole hd _ _ hn hone (role_of_dropRole hd₁ _ _ hn₁ hone₁
    (role_of_dropRole hd₂ _ _ hn₂ hone₂ h))

/-- **What the second sweep makes of an element**: a button, if it is a plain element that reacts to
clicks. -/
theorem tag?_convertClickables (hd : d.WellFormed) {n : NodeId} (hn : n ∈ d.attached) :
    (convertClickables d).1.tag? n =
      if d.hasTagIn primitiveTags n = true ∧ d.hasAttr "onclick" n = true then some "button"
      else d.tag? n := by
  cases htag : d.hasTagIn primitiveTags n with
  | false =>
      rw [if_neg fun h => absurd h.1 (by simp)]
      exact Document.tag?_congr (isVisit_convert.value?_sweep_of_not d htag)
  | true =>
      obtain ⟨x, hx, hcases⟩ :=
        isVisit_convert.visited_sweep hd (fun _ hm => Document.hasTagIn_iff.1 hm) hn htag
      have hattr := Document.attr?_congr (Document.attrs_congr hx) "onclick"
      rcases hcases with ⟨hnone, hlast⟩ | ⟨y, _, hsome, hlast⟩
      · split at hnone
        · next hquiet =>
            have hno : d.hasAttr "onclick" n = false := by
              rw [Document.hasAttr, ← hattr, hquiet]
              rfl
            rw [if_neg fun h => absurd (hno.symm.trans h.2) (by simp)]
            exact Document.tag?_congr hlast
        · exact absurd hnone (by simp)
      · split at hsome
        · exact absurd hsome (by simp)
        · next handler hclick =>
            cases hsome
            obtain ⟨old, -, hold⟩ := Document.hasTagIn_iff.1 htag
            have hyes : d.hasAttr "onclick" n = true := by
              rw [Document.hasAttr, ← hattr, hclick]
              rfl
            rw [if_pos ⟨rfl, hyes⟩]
            refine (Document.tag?_congr hlast).trans ?_
            rw [Document.tag?_setAttrs, Document.tag?_rename, if_pos rfl, Document.tag?_congr hx, hold]
            rfl

/-- The sweep over the images makes no role but that of a decoration. -/
theorem role_of_markDecorative (hd : d.WellFormed) {n : NodeId} (hn : n ∈ d.attached)
    {value : String} (hvalue : value ≠ "presentation")
    (h : (markDecorative d).1.attr? "role" n = some value) : d.attr? "role" n = some value := by
  have hsame : (markDecorative d).1.nodes.value? n = d.nodes.value? n →
      d.attr? "role" n = some value := by
    intro heq
    exact (Document.attr?_congr (Document.attrs_congr heq) "role").symm.trans h
  cases htag : d.hasTag "img" n with
  | false => exact hsame (isVisit_mark.value?_sweep_of_not d htag)
  | true =>
      have hready : ∀ m, d.hasTag "img" m = true → (d.tag? m).isSome = true := by
        intro m hm
        rw [Document.hasTag_iff.1 hm]
        rfl
      obtain ⟨x, hx, ⟨-, hlast⟩ | ⟨y, _, hsome, hlast⟩⟩ :=
        isVisit_mark.visited_sweep hd hready hn htag
      · exact hsame hlast
      · -- a marked image has the role of a decoration
        exfalso
        have hmark : y = (x.setAttr n "alt" "").setAttr n "role" "presentation" := by
          split at hsome
          · exact absurd hsome (by simp)
          · split at hsome
            · exact absurd hsome (by simp)
            · cases hsome
              rfl
        have hel : (x.setAttr n "alt" "").isElement n = true := by
          rw [Document.setAttr, (Document.relabels_setAttrs ..).isElement_eq,
            Document.isElement_congr hx]
          exact Document.isElement_iff_tag?.2 ⟨_, Document.hasTag_iff.1 htag⟩
        have hrole := (Document.attr?_congr (Document.attrs_congr hlast) "role").symm.trans h
        rw [Document.attr?_eq_lookupAttr, hmark, Document.setAttr, Document.attrs_setAttrs,
          if_pos ⟨rfl, hel⟩, Document.lookupAttr_putAttr, if_pos rfl, Option.some.injEq] at hrole
        exact hvalue hrole.symm

/-- **No later sweep makes a role of a button.** -/
theorem role_of_late (hd : d.WellFormed) {n : NodeId} (hn : n ∈ d.attached)
    (hone : countAttr "role" (d.attrs n) ≤ 1)
    (h : (dropRoles (markDecorative d).1).1.attr? "role" n = some "button") :
    d.attr? "role" n = some "button" := by
  have hmark := run_markDecorative hd
  have hd₁ := hmark.wellFormed hd
  have hlt := hd.lt_nextId hn
  refine role_of_markDecorative hd hn (by decide) ?_
  by_cases htag : d.tag? n = some "img"
  · -- the sweeps over the roles look at no image
    have htag₁ := (hmark.tag?_eq_of_nil hd rfl hlt).trans htag
    have hsame := Document.attr?_congr (Document.attrs_congr (value?_dropRoles htag₁)) "role"
    exact hsame.symm.trans h
  · -- and the sweep over the images looks at nothing else
    have hsame : (markDecorative d).1.nodes.value? n = d.nodes.value? n := by
      refine isVisit_mark.value?_sweep_of_not d (p := d.hasTag "img") ?_
      rw [Bool.eq_false_iff]
      exact fun himg => htag (Document.hasTag_iff.1 himg)
    have hn₁ : n ∈ (markDecorative d).1.attached := by
      rwa [relabels_markDecorative d |>.attached_eq]
    refine role_of_dropRoles hd₁ hn₁ ?_ h
    rwa [Document.attrs_congr hsame]

/-! ### What the whole pass makes of an element -/

/-- The tags of the elements that are interactive by themselves. -/
def interactiveTags : List String := ["button", "a", "input", "select", "textarea"]

theorem isInteractive_iff {n : NodeId} : isInteractive d n = true ↔
    d.hasTagIn interactiveTags n = true ∨ d.attr? "role" n = some "button" := by
  rw [isInteractive, Bool.or_eq_true, beq_iff_eq]
  rfl

/-- What follows the sweep over the plain elements. -/
theorem run_after_buttons (hd : d.WellFormed) (mainId : String) :
    Run ⟨[("main", "div")], ["aria-label", "alt", "role"], ["role"], true⟩
      (convertClickables (unhide d).1).1 (changes mainId d).1 := by
  have hd₂ := (run_buttons hd).wellFormed hd
  refine ((Landmarks.run_normalize hd₂ mainId).mono ?_).trans ((run_after_normalize hd mainId).mono ?_)
  all_goals decide

/-- **Which elements are hidden in the end**: those that were and are not interactive. -/
theorem hidden_changes_iff (hd : d.WellFormed) (mainId : String) {n : NodeId} (hn : n ∈ d.attached)
    (hone : countAttr "aria-hidden" (d.attrs n) ≤ 1) :
    (changes mainId d).1.attr? "aria-hidden" n = some "true" ↔
      d.attr? "aria-hidden" n = some "true" ∧ isInteractive d n = false := by
  have h₁ := run_unhide hd
  have hd₁ := h₁.wellFormed hd
  have hlt := hd.lt_nextId hn
  have hlt₁ := hlt.trans_le (h₁.keeps hd).nextId_le
  have hlt₂ := hlt.trans_le ((run_buttons hd).keeps hd).nextId_le
  rw [(run_after_buttons hd mainId).attr?_eq ((run_buttons hd).wellFormed hd) hlt₂ (by decide)
    (by decide), (run_convertClickables hd₁).attr?_eq hd₁ hlt₁ (by decide) (by decide)]
  exact hidden_unhide_iff hd hn hone

/-- **Which elements are interactive by themselves in the end**: those that were, and the plain ones
that react to clicks. -/
theorem hasTagIn_changes_iff (hd : d.WellFormed) (mainId : String) {n : NodeId}
    (hn : n ∈ d.attached) : (changes mainId d).1.hasTagIn interactiveTags n = true ↔
      d.hasTagIn interactiveTags n = true ∨
        d.hasTagIn primitiveTags n = true ∧ d.hasAttr "onclick" n = true := by
  have h₁ := run_unhide hd
  have hd₁ := h₁.wellFormed hd
  have hlt := hd.lt_nextId hn
  have hlt₂ := hlt.trans_le ((run_buttons hd).keeps hd).nextId_le
  have hn₁ : n ∈ (unhide d).1.attached := by
    rwa [(relabels_unhide d).attached_eq]
  have htag₁ : (unhide d).1.tag? n = d.tag? n := h₁.tag?_eq_of_nil hd rfl hlt
  have hclick₁ := hasAttr_eq h₁ hd hn (by decide) (by decide)
  rw [(run_after_buttons hd mainId).hasTagIn_eq ((run_buttons hd).wellFormed hd) (by decide) hlt₂,
    Document.hasTagIn, tag?_convertClickables hd₁ hn₁, Document.hasTagIn_congr htag₁, hclick₁, htag₁]
  split
  · next hclickable => exact ⟨fun _ => Or.inr hclickable, fun _ => by decide⟩
  · next hclickable =>
      rw [← Document.hasTagIn]
      exact ⟨Or.inl, fun h => h.resolve_right hclickable⟩

/-- **A role of a button was there before**, where the name is not there twice. -/
theorem role_of_changes (hd : d.WellFormed) (mainId : String) {n : NodeId} (hn : n ∈ d.attached)
    (hone : countAttr "role" (d.attrs n) ≤ 1) (hkept : n ∈ (changes mainId d).1.attached)
    (hrole : (changes mainId d).1.attr? "role" n = some "button") :
    d.attr? "role" n = some "button" := by
  have h₂ := run_buttons hd
  have hd₂ := h₂.wellFormed hd
  have h₃ := run_fixLandmarks hd₂ mainId
  have hd₃ := h₃.wellFormed hd₂
  have h₄ := run_labelControls hd₃
  have hd₄ := h₄.wellFormed hd₃
  have h₅ := run_markDecorative hd₄
  have hd₅ := h₅.wellFormed hd₄
  have hlt₂ := (hd.lt_nextId hn).trans_le (h₂.keeps hd).nextId_le
  have hlt₃ := hlt₂.trans_le (h₃.keeps hd₂).nextId_le
  rw [changes_fst] at hkept hrole
  have hn₅ := (run_dropRoles hd₅).mem_attached hd₅ rfl hkept
  have hn₄ := h₅.mem_attached hd₄ rfl hn₅
  -- up to the sweep over the controls no role is touched
  have hone₄ : countAttr "role" ((labelControls (fixLandmarks mainId
      (convertClickables (unhide d).1).1).1).1.attrs n) ≤ 1 :=
    (h₄.countAttr_le hd₃ hlt₃ (by decide)).trans ((h₃.countAttr_le hd₂ hlt₂ (by decide)).trans
      ((h₂.countAttr_le hd (hd.lt_nextId hn) (by decide)).trans hone))
  have hsame₄ : (labelControls (fixLandmarks mainId (convertClickables (unhide d).1).1).1).1.attr?
      "role" n = d.attr? "role" n := by
    rw [h₄.attr?_eq hd₃ hlt₃ (by decide) (by decide), h₃.attr?_eq hd₂ hlt₂ (by decide) (by decide),
      h₂.attr?_eq hd (hd.lt_nextId hn) (by decide) (by decide)]
  rw [← hsame₄]
  exact role_of_late hd₄ hn₄ hone₄ hrole

/-- A new main landmark is not hidden. -/
theorem attr?_of_added (hd : d.WellFormed) (mainId : String) {n : NodeId}
    (hn : n ∈ (changes mainId d).1.attached) (hnew : n ∉ d.attached) :
    (changes mainId d).1.attr? "aria-hidden" n = none := by
  have h₂ := run_buttons hd
  have hd₂ := h₂.wellFormed hd
  have h₃ := Landmarks.run_normalize hd₂ mainId
  have hd₃ := h₃.wellFormed hd₂
  have hlater := run_after_normalize hd mainId
  have hn₃ := hlater.mem_attached hd₃ rfl hn
  have hnew₂ : n ∉ (convertClickables (unhide d).1).1.attached := fun hn₂ =>
    hnew (h₂.mem_attached hd rfl hn₂)
  obtain ⟨-, hnext, hmains, -⟩ := h₃.added hd₂ hn₃ hnew₂
  rw [hlater.attr?_eq hd₃ (hd₃.lt_nextId hn₃) (by decide) (by decide)]
  cases hbody : (convertClickables (unhide d).1).1.body? with
  | none =>
      rw [Landmarks.normalize_nil_none hmains hbody] at hn₃
      exact absurd hn₃ hnew₂
  | some body =>
      rw [Landmarks.normalize_nil_some hmains hbody, Document.attr?_eq_lookupAttr, Document.attrs, hnext,
        (Document.putsIn_wrapBody hd₂ hbody _).value?_new]
      rfl

/-! ### The hidden interactive elements -/

/-- Whether an element is interactive and hidden. -/
def isHiddenControl (d : Document) (n : NodeId) : Bool :=
  isInteractive d n && d.attr? "aria-hidden" n == some "true"

/-- **The interactive elements that are hidden.** -/
def hiddenControls (d : Document) : List NodeId := d.attached.filter (isHiddenControl d)

/-- Whether a plain element reacts to clicks, is hidden and has not the role of a button. -/
def isHiddenClickable (d : Document) (n : NodeId) : Bool :=
  (d.hasTagIn primitiveTags n && d.hasAttr "onclick" n) &&
    (d.attr? "aria-hidden" n == some "true" && d.attr? "role" n != some "button")

/-- **The plain elements that react to clicks, are hidden** and are not interactive yet. -/
def hiddenClickables (d : Document) : List NodeId := d.attached.filter (isHiddenClickable d)

theorem isHiddenControl_iff {n : NodeId} : isHiddenControl d n = true ↔
    isInteractive d n = true ∧ d.attr? "aria-hidden" n = some "true" := by
  rw [isHiddenControl, Bool.and_eq_true, beq_iff_eq]

theorem isHiddenClickable_iff {n : NodeId} : isHiddenClickable d n = true ↔
    (d.hasTagIn primitiveTags n = true ∧ d.hasAttr "onclick" n = true) ∧
      d.attr? "aria-hidden" n = some "true" ∧ d.attr? "role" n ≠ some "button" := by
  rw [isHiddenClickable, Bool.and_eq_true, Bool.and_eq_true, Bool.and_eq_true, beq_iff_eq, bne_iff_ne]

/-- A plain element is interactive by its role only. -/
theorem isInteractive_of_plain {n : NodeId} (hplain : d.hasTagIn primitiveTags n = true)
    (hrole : d.attr? "role" n ≠ some "button") : isInteractive d n = false := by
  obtain ⟨tag, htag, heq⟩ := Document.hasTagIn_iff.1 hplain
  have hother : ∀ t ∈ primitiveTags, t ∉ interactiveTags := by decide
  rw [Bool.eq_false_iff, ne_eq, isInteractive_iff]
  rintro (hin | hbutton)
  · obtain ⟨tag', htag', heq'⟩ := Document.hasTagIn_iff.1 hin
    obtain rfl : tag = tag' := Option.some.inj (heq.symm.trans heq')
    exact hother tag htag htag'
  · exact hrole hbutton

/-- **What is interactive and hidden in the end** was plain, reacted to clicks and was hidden. -/
theorem isHiddenControl_changes_iff (hd : d.WellFormed) (hnames : DistinctAttrs d) (mainId : String)
    {n : NodeId} (hn : n ∈ d.attached) (hkept : n ∈ (changes mainId d).1.attached) :
    isHiddenControl (changes mainId d).1 n = true ↔ isHiddenClickable d n = true := by
  rw [isHiddenControl_iff, isHiddenClickable_iff, isInteractive_iff,
    hidden_changes_iff hd mainId hn (hnames.countAttr_le_one hn _), hasTagIn_changes_iff hd mainId hn]
  constructor
  · rintro ⟨hinteractive, hhidden, hno⟩
    have hnot : ¬ (d.hasTagIn interactiveTags n = true ∨ d.attr? "role" n = some "button") := by
      rw [← isInteractive_iff, hno]
      exact Bool.false_ne_true
    refine ⟨?_, hhidden, fun hrole => hnot (Or.inr hrole)⟩
    rcases hinteractive with (htag | hclick) | hrole
    · exact absurd (Or.inl htag) hnot
    · exact hclick
    · have hrole := role_of_changes hd mainId hn (hnames.countAttr_le_one hn _) hkept hrole
      exact absurd (Or.inr hrole) hnot
  · rintro ⟨hclick, hhidden, hrole⟩
    exact ⟨Or.inl (Or.inr hclick), hhidden, isInteractive_of_plain hclick.1 hrole⟩

/-- **The interactive elements that are hidden after the accessibility pass** are, in their order, the
plain elements that react to clicks, were hidden and had not the role of a button.  So there are none
exactly when no such element is there. -/
theorem hiddenControls_optimize (hd : d.WellFormed) (hnames : DistinctAttrs d) (mainId : String) :
    hiddenControls (optimize mainId d).1 = hiddenClickables d := by
  have hrun := run_changes hd mainId
  rw [optimize_fst]
  refine (hrun.keeps hd).filter_attached_eq (fun n hn hkept => ?_) (fun n hn hgone => ?_)
    fun n hn hnew => ?_
  · exact Bool.eq_iff_iff.2 (isHiddenControl_changes_iff hd hnames mainId hn hkept)
  · -- what goes has no attributes, so it was not hidden
    rw [Bool.eq_false_iff]
    intro hclickable
    obtain ⟨hclick, hhidden, hrole⟩ := isHiddenClickable_iff.1 hclickable
    have hstill := (hidden_changes_iff hd mainId hn (hnames.countAttr_le_one hn _)).2
      ⟨hhidden, isInteractive_of_plain hclick.1 hrole⟩
    rcases hrun.removed hd hn hgone with hdiv | ⟨hel, -⟩
    · rw [Document.attr?_eq_lookupAttr, Document.attrs, hdiv] at hstill
      exact absurd hstill (by simp [lookupAttr])
    · rw [isElement_of_attr? hstill] at hel
      exact absurd hel (by simp)
  · rw [isHiddenControl, attr?_of_added hd mainId hn hnew]
    exact Bool.and_false _

/-- A hidden division that reacts to clicks becomes a hidden button. -/
theorem hiddenControls_optimize_button :
    let d := Document.parse "<div onclick=\"x()\" aria-hidden=\"true\">y</div>"
    d.WellFormed ∧ DistinctAttrs d ∧ (optimize "main-content" d).1.tag? 4 = some "button" ∧
      hiddenControls (optimize "main-content" d).1 = [4] := by
  intro d
  have hwf : d.WellFormed := Document.WellFormed.parse _
  have hnames : DistinctAttrs d := by decide +kernel
  refine ⟨hwf, hnames, by decide +kernel, ?_⟩
  rw [hiddenControls_optimize hwf hnames]
  decide +kernel

end Accessibility

end ThemeCompiler
