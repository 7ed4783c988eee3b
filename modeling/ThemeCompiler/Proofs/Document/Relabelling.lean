/-
**Documents that differ in their labels only.**

Most passes leave the tree as it is and change tags and attributes of elements.  Such a change keeps
every walk, every text and every list of nodes that is made from the tree alone.

Main definitions:

* `ThemeCompiler.Document.Relabels` — the same tree with other tags and attributes;
* `ThemeCompiler.Document.RelabelsAt` — the same with other labels of one node only;
* `ThemeCompiler.Document.lookupAttr`, `ThemeCompiler.Document.countAttr` — the value and the number
  of a name in a list of attributes.

Main results:

* `ThemeCompiler.Document.tag?_rename`, `ThemeCompiler.Document.attrs_setAttrs` — an edit in place
  changes one label of one node;
* `ThemeCompiler.Document.relabels_rename`, `ThemeCompiler.Document.relabels_setAttrs` — and nothing
  else;
* `ThemeCompiler.Document.lookupAttr_putAttr`, `ThemeCompiler.Document.lookupAttr_dropAttr` —
  looking up after setting and removing, and `ThemeCompiler.Document.countAttr_dropAttr` — counting.
-/

import ThemeCompiler.Document.Edit
import ThemeCompiler.Proofs.Arena.Edits

set_option relaxedAutoImplicit false
set_option autoImplicit false

namespace ThemeCompiler

open Html (Attribute)

namespace Document

variable {d e f : Document}

/-! ### What a node says is determined by its value -/

theorem tag?_congr {n : NodeId} (h : e.nodes.value? n = d.nodes.value? n) :
    e.tag? n = d.tag? n := by
  rw [tag?, tag?, h]

theorem isElement_congr {n : NodeId} (h : e.nodes.value? n = d.nodes.value? n) :
    e.isElement n = d.isElement n := by
  rw [isElement, isElement, tag?_congr h]

theorem attrs_congr {n : NodeId} (h : e.nodes.value? n = d.nodes.value? n) :
    e.attrs n = d.attrs n := by
  rw [attrs, attrs, h]

theorem attr?_congr {n : NodeId} (h : e.attrs n = d.attrs n) (name : String) :
    e.attr? name n = d.attr? name n := by
  rw [attr?, attr?, h]

theorem hasTag_congr {n : NodeId} (h : e.tag? n = d.tag? n) (tag : String) :
    e.hasTag tag n = d.hasTag tag n := by
  rw [hasTag, hasTag, h]

theorem hasTagIn_congr {n : NodeId} (h : e.tag? n = d.tag? n) (tags : List String) :
    e.hasTagIn tags n = d.hasTagIn tags n := by
  rw [hasTagIn, hasTagIn, h]

theorem hasTag_iff {tag : String} {n : NodeId} : d.hasTag tag n = true ↔ d.tag? n = some tag := by
  rw [hasTag, beq_iff_eq]

theorem hasTagIn_iff {tags : List String} {n : NodeId} :
    d.hasTagIn tags n = true ↔ ∃ tag ∈ tags, d.tag? n = some tag := by
  cases h : d.tag? n with
  | none => simp [hasTagIn, h]
  | some tag => simp [hasTagIn, h]

theorem elementsByTag_eq_elementsByTags (d : Document) (tag : String) :
    d.elementsByTag tag = d.elementsByTags [tag] := by
  refine List.filter_congr fun n _ => ?_
  rw [Bool.eq_iff_iff, hasTag_iff, hasTagIn_iff]
  simp

theorem isElement_iff_tag? {n : NodeId} : d.isElement n = true ↔ ∃ tag, d.tag? n = some tag :=
  Option.isSome_iff_exists

theorem isElement_iff {n : NodeId} :
    d.isElement n = true ↔ ∃ tag attrs, d.nodes.value? n = some (.element tag attrs) := by
  rw [isElement, tag?]
  split <;> simp_all

/-- Only elements have attributes. -/
theorem attrs_of_not_isElement {n : NodeId} (h : d.isElement n = false) : d.attrs n = [] := by
  rw [attrs]
  split
  · next tag attrs hv =>
      have : d.isElement n = true := isElement_iff.2 ⟨tag, attrs, hv⟩
      rw [h] at this
      exact absurd this (by simp)
  · rfl

/-- A visible text is not an element. -/
theorem isElement_of_isVisibleText {n : NodeId} (h : d.isVisibleText n = true) :
    d.isElement n = false := by
  rw [isVisibleText] at h
  rw [isElement, tag?]
  split at h <;> simp_all

theorem isVisibleText_of_isElement {n : NodeId} (h : d.isElement n = true) :
    d.isVisibleText n = false := by
  by_contra hvis
  rw [isElement_of_isVisibleText (by simpa using hvis)] at h
  exact absurd h (by simp)

/-! ### Relabelling -/

/-- **The same tree with other labels**: elements stay elements, whatever their tag and attributes,
and all other nodes stay as they are. -/
structure Relabels (d e : Document) : Prop where
  links : Arena.SameLinks d.nodes e.nodes
  isElement_eq : ∀ n, e.isElement n = d.isElement n
  value?_eq : ∀ n, d.isElement n = false → e.nodes.value? n = d.nodes.value? n
  isFull_eq : e.isFull = d.isFull

namespace Relabels

theorem refl (d : Document) : Relabels d d :=
  ⟨Arena.SameLinks.refl _, fun _ => rfl, fun _ _ => rfl, rfl⟩

theorem trans (h : Relabels d e) (h' : Relabels e f) : Relabels d f where
  links := h.links.trans h'.links
  isElement_eq n := (h'.isElement_eq n).trans (h.isElement_eq n)
  value?_eq n hn := by
    rw [h'.value?_eq n (by rw [h.isElement_eq, hn]), h.value?_eq n hn]
  isFull_eq := h'.isFull_eq.trans h.isFull_eq

theorem nextId_eq (h : Relabels d e) : e.nextId = d.nextId := h.links.size_eq

theorem children_eq (h : Relabels d e) (n : NodeId) : e.children n = d.children n :=
  h.links.children_eq n

theorem descendants_eq (h : Relabels d e) (n : NodeId) : e.descendants n = d.descendants n :=
  h.links.descendants_eq n

theorem attached_eq (h : Relabels d e) : e.attached = d.attached := h.descendants_eq _

end Relabels

/-! ### Edits in place -/

theorem value?_modifyContent (d : Document) (n m : NodeId) (g : Content → Content) :
    (d.modifyContent n g).nodes.value? m =
      if m = n then (d.nodes.value? m).map g else d.nodes.value? m :=
  Arena.value?_modifyValue ..

theorem tag?_rename (d : Document) (n : NodeId) (tag : String) (m : NodeId) :
    (d.rename n tag).tag? m =
      if m = n then (d.tag? m).map fun _ => Text.lowerAscii tag else d.tag? m := by
  rw [tag?, tag?, rename, value?_modifyContent]
  by_cases hm : m = n
  · rw [if_pos hm, if_pos hm]
    cases d.nodes.value? m with
    | none => rfl
    | some c => cases c <;> rfl
  · rw [if_neg hm, if_neg hm]

theorem attrs_rename (d : Document) (n : NodeId) (tag : String) (m : NodeId) :
    (d.rename n tag).attrs m = d.attrs m := by
  rw [attrs, attrs, rename, value?_modifyContent]
  by_cases hm : m = n
  · rw [if_pos hm]
    cases d.nodes.value? m with
    | none => rfl
    | some c => cases c <;> rfl
  · rw [if_neg hm]

theorem tag?_setAttrs (d : Document) (n : NodeId) (attrs : List Attribute) (m : NodeId) :
    (d.setAttrs n attrs).tag? m = d.tag? m := by
  rw [tag?, tag?, setAttrs, value?_modifyContent]
  by_cases hm : m = n
  · rw [if_pos hm]
    cases d.nodes.value? m with
    | none => rfl
    | some c => cases c <;> rfl
  · rw [if_neg hm]

theorem attrs_setAttrs (d : Document) (n : NodeId) (attrs : List Attribute) (m : NodeId) :
    (d.setAttrs n attrs).attrs m =
      if m = n ∧ d.isElement m = true then attrs else d.attrs m := by
  rw [Document.attrs, Document.attrs, setAttrs, value?_modifyContent, isElement, tag?]
  by_cases hm : m = n
  · rw [if_pos hm]
    cases d.nodes.value? m with
    | none => simp
    | some c => cases c <;> simp [hm]
  · rw [if_neg hm, if_neg (fun h => hm h.1)]

/-- Changing elements into elements, and nothing else, is a relabelling. -/
private theorem relabels_modifyContent (d : Document) (n : NodeId) {g : Content → Content}
    (helement : ∀ tag attrs, ∃ tag' attrs', g (.element tag attrs) = .element tag' attrs')
    (hother : ∀ c, (∀ tag attrs, c ≠ .element tag attrs) → g c = c) :
    Relabels d (d.modifyContent n g) where
  links := Arena.sameLinks_modifyValue ..
  isElement_eq m := by
    rw [isElement, isElement, tag?, tag?, value?_modifyContent]
    by_cases hm : m = n
    · rw [if_pos hm]
      cases d.nodes.value? m with
      | none => rfl
      | some c =>
          cases c with
          | element tag attrs =>
              obtain ⟨tag', attrs', hg⟩ := helement tag attrs
              simp [hg]
          | root => simp [hother .root (by simp)]
          | doctype name => simp [hother (.doctype name) (by simp)]
          | text content => simp [hother (.text content) (by simp)]
          | comment content => simp [hother (.comment content) (by simp)]
    · rw [if_neg hm]
  value?_eq m hm := by
    rw [value?_modifyContent]
    split
    · cases hv : d.nodes.value? m with
      | none => rfl
      | some c =>
          rw [Option.map_some, hother c]
          rintro tag attrs rfl
          rw [isElement_iff.2 ⟨tag, attrs, hv⟩] at hm
          exact absurd hm (by simp)
    · rfl
  isFull_eq := rfl

theorem relabels_rename (d : Document) (n : NodeId) (tag : String) :
    Relabels d (d.rename n tag) := by
  refine relabels_modifyContent d n (fun _ _ => ⟨_, _, rfl⟩) fun c hc => ?_
  split
  · next tag attrs => exact absurd rfl (hc tag attrs)
  · rfl

theorem relabels_setAttrs (d : Document) (n : NodeId) (attrs : List Attribute) :
    Relabels d (d.setAttrs n attrs) := by
  refine relabels_modifyContent d n (fun _ _ => ⟨_, _, rfl⟩) fun c hc => ?_
  split
  · next tag attrs => exact absurd rfl (hc tag attrs)
  · rfl

theorem value?_rename_of_ne (d : Document) {n m : NodeId} (tag : String) (h : m ≠ n) :
    (d.rename n tag).nodes.value? m = d.nodes.value? m := by
  rw [rename, value?_modifyContent, if_neg h]

theorem value?_setAttrs_of_ne (d : Document) {n m : NodeId} (attrs : List Attribute) (h : m ≠ n) :
    (d.setAttrs n attrs).nodes.value? m = d.nodes.value? m := by
  rw [setAttrs, value?_modifyContent, if_neg h]

/-- **A relabelling of a single node.** -/
structure RelabelsAt (d : Document) (n : NodeId) (e : Document) : Prop extends Relabels d e where
  value?_of_ne : ∀ m, m ≠ n → e.nodes.value? m = d.nodes.value? m

theorem RelabelsAt.trans {n : NodeId} (h : RelabelsAt d n e) (h' : RelabelsAt e n f) :
    RelabelsAt d n f :=
  ⟨h.toRelabels.trans h'.toRelabels,
    fun m hm => (h'.value?_of_ne m hm).trans (h.value?_of_ne m hm)⟩

theorem relabelsAt_rename (d : Document) (n : NodeId) (tag : String) :
    RelabelsAt d n (d.rename n tag) :=
  ⟨relabels_rename .., fun _ hm => value?_rename_of_ne d tag hm⟩

theorem relabelsAt_setAttrs (d : Document) (n : NodeId) (attrs : List Attribute) :
    RelabelsAt d n (d.setAttrs n attrs) :=
  ⟨relabels_setAttrs .., fun _ hm => value?_setAttrs_of_ne d attrs hm⟩

/-- **Renaming several nodes** relabels these and keeps all attributes. -/
theorem foldl_rename (tag : String) (ids : List NodeId) (d : Document) :
    Relabels d (ids.foldl (fun e n => e.rename n tag) d) ∧ ∀ m,
      (ids.foldl (fun e n => e.rename n tag) d).attrs m = d.attrs m ∧
      (ids.foldl (fun e n => e.rename n tag) d).tag? m =
        if m ∈ ids then (d.tag? m).map fun _ => Text.lowerAscii tag else d.tag? m := by
  induction ids generalizing d with
  | nil => exact ⟨Relabels.refl d, fun m => ⟨rfl, by simp⟩⟩
  | cons n rest ih =>
      obtain ⟨hrelabels, hlabels⟩ := ih (d.rename n tag)
      refine ⟨(relabels_rename d n tag).trans hrelabels, fun m => ?_⟩
      obtain ⟨hattrs, htag⟩ := hlabels m
      refine ⟨hattrs.trans (attrs_rename ..), htag.trans ?_⟩
      rw [tag?_rename]
      by_cases hmn : m = n
      · cases d.tag? m <;> simp [hmn]
      · simp [hmn]

/-! ### Looking up attributes -/

/-- The value of the first attribute with a name in a list. -/
def lookupAttr (name : String) (attrs : List Attribute) : Option String :=
  (attrs.find? (·.name == name)).map (·.value)

theorem attr?_eq_lookupAttr (d : Document) (name : String) (n : NodeId) :
    d.attr? name n = lookupAttr name (d.attrs n) := rfl

theorem lookupAttr_cons (name : String) (a : Attribute) (attrs : List Attribute) :
    lookupAttr name (a :: attrs) = if a.name = name then some a.value else lookupAttr name attrs := by
  by_cases h : a.name = name <;> simp [lookupAttr, h]

theorem lookupAttr_append (name : String) (attrs more : List Attribute) :
    lookupAttr name (attrs ++ more) = (lookupAttr name attrs).or (lookupAttr name more) := by
  induction attrs with
  | nil => rfl
  | cons a attrs ih =>
      rw [List.cons_append, lookupAttr_cons, lookupAttr_cons, ih]
      split <;> simp

/-- Looking up a name does not depend on attributes of other names. -/
theorem lookupAttr_filter {name : String} {p : Attribute → Bool} (attrs : List Attribute)
    (h : ∀ a : Attribute, a.name = name → p a = true) :
    lookupAttr name (attrs.filter p) = lookupAttr name attrs := by
  induction attrs with
  | nil => rfl
  | cons a attrs ih =>
      by_cases hp : p a = true
      · rw [List.filter_cons_of_pos hp, lookupAttr_cons, lookupAttr_cons, ih]
      · have hne : a.name ≠ name := fun ha => hp (h a ha)
        rw [List.filter_cons_of_neg hp, ih, lookupAttr_cons, if_neg hne]

theorem lookupAttr_filter_eq_none {name : String} {p : Attribute → Bool} (attrs : List Attribute)
    (h : ∀ a : Attribute, a.name = name → p a = false) :
    lookupAttr name (attrs.filter p) = none := by
  induction attrs with
  | nil => rfl
  | cons a attrs ih =>
      by_cases hp : p a = true
      · have hne : a.name ≠ name := fun ha => by rw [h a ha] at hp; exact absurd hp (by simp)
        rw [List.filter_cons_of_pos hp, lookupAttr_cons, if_neg hne, ih]
      · rw [List.filter_cons_of_neg hp, ih]

/-- **Looking up after setting.** -/
theorem lookupAttr_putAttr (name value other : String) (attrs : List Attribute) :
    lookupAttr other (putAttr name value attrs) =
      if other = name then some value else lookupAttr other attrs := by
  induction attrs with
  | nil =>
      rw [putAttr, lookupAttr_cons]
      by_cases h : other = name
      · simp [h]
      · simp [h, Ne.symm h, lookupAttr]
  | cons a attrs ih =>
      rw [putAttr]
      by_cases ha : a.name = name
      · rw [if_pos (by simpa using ha), lookupAttr_cons, lookupAttr_cons, ha]
        by_cases h : other = name
        · simp [h]
        · simp [h, Ne.symm h]
      · rw [if_neg (by simpa using ha), lookupAttr_cons, lookupAttr_cons, ih]
        by_cases h : other = name
        · simp [h, ha]
        · simp [h]

/-- An attribute with the value that it has is there already. -/
theorem putAttr_eq_self {name value : String} {attrs : List Attribute}
    (h : lookupAttr name attrs = some value) : putAttr name value attrs = attrs := by
  induction attrs with
  | nil => exact absurd h (by simp [lookupAttr])
  | cons a attrs ih =>
      rw [lookupAttr_cons] at h
      rw [putAttr]
      by_cases ha : a.name = name
      · rw [if_pos ha] at h
        rw [if_pos (by simpa using ha), ← ha, ← Option.some.inj h]
      · rw [if_neg ha] at h
        rw [if_neg (by simpa using ha), ih h]

/-- **Setting an attribute to the value that it has** changes nothing. -/
theorem setAttr_eq_self {n : NodeId} {name value : String} (h : d.attr? name n = some value) :
    d.setAttr n name value = d := by
  rw [setAttr, putAttr_eq_self h, setAttrs, modifyContent, Arena.modifyValue_eq_self]
  intro v hv
  cases v with
  | element tag list => simp only [Document.attrs, hv]
  | _ => rfl

/-- **Looking up after removing** another name. -/
theorem lookupAttr_dropAttr {name other : String} (h : other ≠ name) (attrs : List Attribute) :
    lookupAttr other (dropAttr name attrs) = lookupAttr other attrs := by
  induction attrs with
  | nil => rfl
  | cons a attrs ih =>
      by_cases ha : a.name = name
      · rw [dropAttr, List.eraseP_cons_of_pos (by simpa using ha), lookupAttr_cons, if_neg]
        rw [ha]
        exact h.symm
      · rw [dropAttr, List.eraseP_cons_of_neg (by simpa using ha), lookupAttr_cons, lookupAttr_cons,
          ← ih, dropAttr]

/-! ### Counting attributes -/

/-- The number of attributes with a name in a list. -/
def countAttr (name : String) (attrs : List Attribute) : Nat := attrs.countP (·.name == name)

theorem countAttr_cons (name : String) (a : Attribute) (attrs : List Attribute) :
    countAttr name (a :: attrs) = countAttr name attrs + if a.name = name then 1 else 0 := by
  rw [countAttr, countAttr, List.countP_cons]
  by_cases h : a.name = name <;> simp [h]

theorem countAttr_append (name : String) (attrs more : List Attribute) :
    countAttr name (attrs ++ more) = countAttr name attrs + countAttr name more :=
  List.countP_append

theorem countAttr_filter_le (name : String) (p : Attribute → Bool) (attrs : List Attribute) :
    countAttr name (attrs.filter p) ≤ countAttr name attrs :=
  (List.filter_sublist).countP_le

theorem countAttr_filter_eq_zero (name : String) {p : Attribute → Bool} (attrs : List Attribute)
    (h : ∀ a : Attribute, a.name = name → p a = false) : countAttr name (attrs.filter p) = 0 := by
  refine List.countP_eq_zero.2 fun a ha hname => ?_
  rw [List.mem_filter, h a (by simpa using hname)] at ha
  exact absurd ha.2 (by simp)

/-- A name that can be looked up is counted. -/
theorem countAttr_pos {name : String} {attrs : List Attribute}
    (h : (lookupAttr name attrs).isSome = true) : 0 < countAttr name attrs := by
  rw [lookupAttr, Option.isSome_map, List.find?_isSome] at h
  exact List.countP_pos_iff.2 h

theorem countAttr_putAttr {name other : String} (h : other ≠ name) (value : String)
    (attrs : List Attribute) : countAttr other (putAttr name value attrs) = countAttr other attrs := by
  induction attrs with
  | nil => rw [putAttr, countAttr_cons, if_neg h.symm, Nat.add_zero]
  | cons a attrs ih =>
      rw [putAttr]
      by_cases ha : a.name = name
      · rw [if_pos (by simpa using ha), countAttr_cons, countAttr_cons, ha]
      · rw [if_neg (by simpa using ha), countAttr_cons, countAttr_cons, ih]

/-- **Removing an attribute** leaves one less of its name. -/
theorem countAttr_dropAttr (name : String) {attrs : List Attribute}
    (h : (lookupAttr name attrs).isSome = true) :
    countAttr name (dropAttr name attrs) + 1 = countAttr name attrs := by
  induction attrs with
  | nil => exact absurd h (by simp [lookupAttr])
  | cons a attrs ih =>
      by_cases ha : a.name = name
      · rw [dropAttr, List.eraseP_cons_of_pos (by simpa using ha), countAttr_cons, if_pos ha]
      · rw [lookupAttr_cons, if_neg ha] at h
        have hrest := ih h
        rw [dropAttr] at hrest
        rw [dropAttr, List.eraseP_cons_of_neg (by simpa using ha), countAttr_cons, countAttr_cons,
          if_neg ha]
        omega

theorem countAttr_dropAttr_le (name other : String) (attrs : List Attribute) :
    countAttr other (dropAttr name attrs) ≤ countAttr other attrs :=
  (List.eraseP_sublist).countP_le

end Document

end ThemeCompiler
