/-
**A page and its layout.**

Taking an element out of a document takes out what is below it and nothing else, so the nodes of the
document are those that are left and those of the element, each once, in their order and below each
other as before.  This is used twice: the header is taken out of the page, then the footer out of
what is left, whatever stands in which.  An element is outside of the parts of a page when no such
part is above it, and taking out another element does not change this for what is left.

Main definitions:

* `ThemeCompiler.Layout.part` — the nodes of an element that is taken out;
* `ThemeCompiler.Layout.StandsAs` — some nodes of a document stand in another one as they stood;
* `ThemeCompiler.Layout.PageLevel`, `ThemeCompiler.Layout.IsFirst`, `ThemeCompiler.Layout.IsLast` —
  the elements outside of the parts of a page, the first and the last one;
* `ThemeCompiler.Layout.Divides` — the parts that a page is divided into.

Main results:

* `ThemeCompiler.Layout.perm_without`, `ThemeCompiler.Layout.standsAs_without` — what is left, and
  what is taken out;
* `ThemeCompiler.Layout.isFirst_header?`, `ThemeCompiler.Layout.isLast_footer?` — what the header
  and the footer are;
* `ThemeCompiler.Layout.split_parts` — **splitting a page divides its nodes**.
-/

import ThemeCompiler.Layout
import ThemeCompiler.Proofs.Arena.Contraction
import ThemeCompiler.Proofs.Document.Formed

set_option relaxedAutoImplicit false
set_option autoImplicit false

namespace ThemeCompiler

namespace Document

variable {d : Document}

/-! ### Taking a node out -/

theorem WellFormed.detach (hd : d.WellFormed) (n : NodeId) : (d.detach n).WellFormed where
  nodes := hd.nodes.detach n
  leaves m hm he := by
    have hel : d.isElement m = false := by
      rw [← he]
      exact isElement_congr (Arena.value?_detach d.nodes n m).symm
    have hnone : d.nodes.children m = [] := hd.leaves m hm hel
    exact (Arena.children_detach hd.nodes n m).trans (by rw [hnone, List.filter_nil])

/-- **What is below a node that stays** when another is taken out. -/
theorem WellFormed.descendants_detach (hd : d.WellFormed) {n m : NodeId}
    (hm : m ∉ n :: d.descendants n) :
    (d.detach n).descendants m = (d.descendants m).filter (· ∉ n :: d.descendants n) := by
  have hstays : decide (m = n ∨ m ∈ d.nodes.descendants n) = false := by
    simpa [Document.descendants] using hm
  have hfilter := (Arena.contracts_detach hd.nodes n).descendants_eq hd.nodes (hd.nodes.detach n)
    hstays
  refine hfilter.trans (List.filter_congr fun j _ => ?_)
  simp [Document.descendants]

/-! ### What is above a node -/

/-- The walk upwards meets the node and what is above it. -/
theorem WellFormed.mem_lineage (hd : d.WellFormed) {n m : NodeId} :
    m ∈ d.nodes.lineage n ↔ m = n ∨ n ∈ d.descendants m := by
  induction n using hd.nodes.parentInduction with
  | step n ih =>
      rw [hd.nodes.lineage_eq, List.mem_cons, Document.descendants,
        hd.nodes.mem_descendants_iff_parent]
      refine or_congr_right ?_
      cases hp : d.nodes.parent? n with
      | none => simp
      | some p =>
          rw [ih p hp]
          simp [Document.descendants, eq_comm]

/-- **No element with some tags is above a node.** -/
theorem WellFormed.ancestor_eq_none_iff (hd : d.WellFormed) {tags : List String} {n : NodeId} :
    d.ancestor tags n = none ↔ ∀ m, n ∈ d.descendants m → d.hasTagIn tags m = false := by
  have hup : ∀ m, n ∈ d.descendants m ↔ ∃ p, d.parent? n = some p ∧ m ∈ d.nodes.lineage p := by
    intro m
    rw [Document.descendants, hd.nodes.mem_descendants_iff_parent]
    simp only [hd.mem_lineage, Document.descendants, Document.parent?, eq_comm]
  rw [Document.ancestor, Option.bind_eq_none_iff]
  simp only [Document.closest, List.find?_eq_none, hup, Bool.not_eq_true]
  constructor
  · rintro h m ⟨p, hp, hm⟩
    exact h p hp m hm
  · intro h p hp m hm
    exact h m ⟨p, hp, hm⟩

end Document

namespace Layout

variable {d e : Document}

/-! ### The document and the element that is taken out -/

/-- **The nodes of an element**, if there is one: the element itself and what is below it. -/
def part (d : Document) : Option NodeId → List NodeId
  | some n => n :: d.descendants n
  | none => []

theorem wellFormed_without (hd : d.WellFormed) (top : Option NodeId) :
    (without d top).WellFormed := by
  cases top with
  | none => exact hd
  | some n => exact hd.detach n

theorem value?_without (d : Document) (top : Option NodeId) (m : NodeId) :
    (without d top).nodes.value? m = d.nodes.value? m := by
  cases top with
  | none => rfl
  | some n => exact Arena.value?_detach d.nodes n m

/-- **What is below a node that is left.** -/
theorem descendants_without (hd : d.WellFormed) {top : Option NodeId} {m : NodeId}
    (hm : m ∉ part d top) :
    (without d top).descendants m = (d.descendants m).filter (· ∉ part d top) := by
  cases top with
  | none => simp [without, part]
  | some n => exact hd.descendants_detach hm

/-- Nothing comes below a node by taking out another. -/
theorem mem_descendants_of_without (hd : d.WellFormed) {top : Option NodeId} {n m : NodeId}
    (hn : n ∈ (without d top).descendants m) : n ∈ d.descendants m := by
  cases top with
  | none => exact hn
  | some top =>
      have habove := (hd.nodes.detach top).mem_descendants_iff_above.1 hn
      refine hd.nodes.mem_descendants_iff_above.2 (Relation.TransGen.mono ?_ m n habove)
      intro p c hp
      rw [Arena.parent?_detach] at hp
      split at hp
      · exact absurd hp (by simp)
      · exact hp

theorem root_notMem_part (hd : d.WellFormed) {top : Option NodeId}
    (htop : ∀ n ∈ top, n ∈ d.attached) : Arena.root ∉ part d top := by
  cases top with
  | none => exact List.not_mem_nil
  | some n =>
      intro hroot
      rcases List.mem_cons.1 hroot with heq | hbelow
      · exact hd.ne_root (htop n rfl) heq.symm
      · exact hd.nodes.root_not_mem_descendants n hbelow

/-- **The nodes that are left.** -/
theorem attached_without (hd : d.WellFormed) {top : Option NodeId}
    (htop : ∀ n ∈ top, n ∈ d.attached) :
    (without d top).attached = d.attached.filter (· ∉ part d top) :=
  descendants_without hd (root_notMem_part hd htop)

/-- The nodes of an element stand in document order. -/
theorem sublist_part (hd : d.WellFormed) {top : Option NodeId} (htop : ∀ n ∈ top, n ∈ d.attached) :
    (part d top).Sublist d.attached := by
  cases top with
  | none => exact List.nil_sublist _
  | some n => exact hd.nodes.sublist_descendants (htop n rfl)

/-- **Each node is left, or it is one of the element that is taken out.** -/
theorem perm_without (hd : d.WellFormed) {top : Option NodeId} (htop : ∀ n ∈ top, n ∈ d.attached) :
    ((without d top).attached ++ part d top).Perm d.attached := by
  have hpart : (part d top).Perm (d.attached.filter (· ∈ part d top)) := by
    refine (List.perm_ext_iff_of_nodup ((sublist_part hd htop).nodup hd.nodup_attached)
      (hd.nodup_attached.filter _)).2 fun n => ?_
    rw [List.mem_filter, decide_eq_true_iff]
    exact ⟨fun hn => ⟨(sublist_part hd htop).mem hn, hn⟩, And.right⟩
  rw [attached_without hd htop]
  refine ((hpart.append_left _).trans List.perm_append_comm).trans ?_
  simpa using List.filter_append_perm (fun n => decide (n ∈ part d top)) d.attached

/-! ### Nodes that stand as they stood -/

/-- **Some nodes of a document stand in another one as they stood**: in document order, with what
they hold, and one above another exactly where it was so. -/
structure StandsAs (d e : Document) (nodes : List NodeId) : Prop where
  order : nodes.Sublist d.attached
  value?_eq : ∀ n ∈ nodes, e.nodes.value? n = d.nodes.value? n
  below : ∀ m ∈ nodes, ∀ n ∈ nodes, (n ∈ e.descendants m ↔ n ∈ d.descendants m)

/-- What stands as it stood in a document of which everything stands as it stood. -/
theorem StandsAs.trans {f : Document} {nodes : List NodeId} (h : StandsAs d e e.attached)
    (h' : StandsAs e f nodes) : StandsAs d f nodes where
  order := h'.order.trans h.order
  value?_eq n hn := (h'.value?_eq n hn).trans (h.value?_eq n (h'.order.mem hn))
  below m hm n hn :=
    (h'.below m hm n hn).trans (h.below m (h'.order.mem hm) n (h'.order.mem hn))

/-- **What is left** stands as it stood. -/
theorem standsAs_without (hd : d.WellFormed) {top : Option NodeId}
    (htop : ∀ n ∈ top, n ∈ d.attached) :
    StandsAs d (without d top) (without d top).attached where
  order := by
    rw [attached_without hd htop]
    exact List.filter_sublist
  value?_eq n _ := value?_without d top n
  below m hm n hn := by
    rw [attached_without hd htop, List.mem_filter, decide_eq_true_iff] at hm hn
    rw [descendants_without hd hm.2, List.mem_filter, decide_eq_true_iff]
    exact and_iff_left hn.2

/-- What is taken out stands as it stood. -/
theorem standsAs_part (hd : d.WellFormed) {top : Option NodeId} (htop : ∀ n ∈ top, n ∈ d.attached) :
    StandsAs d d (part d top) where
  order := sublist_part hd htop
  value?_eq _ _ := rfl
  below _ _ _ _ := Iff.rfl

/-! ### Elements outside of the parts of a page -/

/-- **An element outside of the parts of a page**: it is attached, and no element that has headers
and footers of its own is above it. -/
structure PageLevel (d : Document) (tag : String) (n : NodeId) : Prop where
  attached : n ∈ d.attached
  tag?_eq : d.tag? n = some tag
  outside : ∀ m, n ∈ d.descendants m → ∀ other ∈ sectioningTags, d.tag? m ≠ some other

/-- **The first element with a tag** outside of the parts of a page; none if there is none. -/
def IsFirst (d : Document) (tag : String) : Option NodeId → Prop
  | some n => PageLevel d tag n ∧
      ∀ m, PageLevel d tag m → d.attached.idxOf n ≤ d.attached.idxOf m
  | none => ∀ m, ¬ PageLevel d tag m

/-- **The last element with a tag** outside of the parts of a page; none if there is none. -/
def IsLast (d : Document) (tag : String) : Option NodeId → Prop
  | some n => PageLevel d tag n ∧
      ∀ m, PageLevel d tag m → d.attached.idxOf m ≤ d.attached.idxOf n
  | none => ∀ m, ¬ PageLevel d tag m

theorem hasTagIn_eq_false_iff {tags : List String} {n : NodeId} :
    d.hasTagIn tags n = false ↔ ∀ tag ∈ tags, d.tag? n ≠ some tag := by
  rw [Document.hasTagIn]
  cases d.tag? n with
  | none => simp
  | some tag =>
      rw [Option.any_some, ← Bool.not_eq_true, List.contains_iff_mem]
      exact ⟨fun h other hother heq => h (Option.some.inj heq ▸ hother),
        fun h hmem => h tag hmem rfl⟩

theorem mem_pageLevel (hd : d.WellFormed) {tag : String} {n : NodeId} :
    n ∈ pageLevel d tag ↔ PageLevel d tag n := by
  rw [pageLevel, List.mem_filter, Document.elementsByTag, List.mem_filter, Document.hasTag,
    beq_iff_eq, Option.isNone_iff_eq_none, hd.ancestor_eq_none_iff]
  simp only [hasTagIn_eq_false_iff]
  constructor
  · rintro ⟨⟨hattached, htag⟩, houtside⟩
    exact ⟨hattached, htag, houtside⟩
  · rintro ⟨hattached, htag, houtside⟩
    exact ⟨⟨hattached, htag⟩, houtside⟩

/-- Elements outside of the parts of a page are listed in document order. -/
theorem pairwise_pageLevel (hd : d.WellFormed) (tag : String) :
    (pageLevel d tag).Pairwise fun m n => d.attached.idxOf m < d.attached.idxOf n := by
  have hattached : d.attached.Pairwise fun m n => d.attached.idxOf m < d.attached.idxOf n := by
    refine List.pairwise_iff_getElem.2 fun i j hi hj hij => ?_
    rwa [hd.nodup_attached.idxOf_getElem, hd.nodup_attached.idxOf_getElem]
  exact hattached.sublist (List.filter_sublist.trans List.filter_sublist)

/-- **The header** is the first one outside of the parts of the page. -/
theorem isFirst_header? (hd : d.WellFormed) : IsFirst d "header" (header? d) := by
  have hpairwise := pairwise_pageLevel hd "header"
  rw [header?]
  cases hlist : pageLevel d "header" with
  | nil =>
      intro m hm
      rw [← mem_pageLevel hd, hlist] at hm
      exact List.not_mem_nil hm
  | cons first rest =>
      refine ⟨(mem_pageLevel hd).1 (by rw [hlist]; exact List.mem_cons_self), fun m hm => ?_⟩
      rw [← mem_pageLevel hd, hlist] at hm
      rw [hlist] at hpairwise
      rcases List.mem_cons.1 hm with rfl | hm
      · exact Nat.le_refl _
      · exact Nat.le_of_lt ((List.pairwise_cons.1 hpairwise).1 m hm)

/-- **The footer** is the last one outside of the parts of the page. -/
theorem isLast_footer? (hd : d.WellFormed) : IsLast d "footer" (footer? d) := by
  have hpairwise := pairwise_pageLevel hd "footer"
  rw [footer?]
  rcases List.eq_nil_or_concat' (pageLevel d "footer") with hlist | ⟨before, last, hlist⟩
  · rw [hlist]
    intro m hm
    rw [← mem_pageLevel hd, hlist] at hm
    exact List.not_mem_nil hm
  · rw [hlist, List.getLast?_concat]
    refine ⟨(mem_pageLevel hd).1 (by rw [hlist]; simp), fun m hm => ?_⟩
    rw [← mem_pageLevel hd, hlist] at hm
    rw [hlist] at hpairwise
    rcases List.mem_append.1 hm with hm | hm
    · exact Nat.le_of_lt ((List.pairwise_append.1 hpairwise).2.2 m hm last List.mem_cons_self)
    · rw [List.mem_singleton.1 hm]

theorem mem_attached_of_isFirst {tag : String} {top : Option NodeId} (h : IsFirst d tag top) :
    ∀ n ∈ top, n ∈ d.attached := by
  rintro n rfl
  exact h.1.attached

theorem mem_attached_of_isLast {tag : String} {top : Option NodeId} (h : IsLast d tag top) :
    ∀ n ∈ top, n ∈ d.attached := by
  rintro n rfl
  exact h.1.attached

/-- **What is outside of the parts of a page** is so among what is left. -/
theorem pageLevel_without_iff (hd : d.WellFormed) {top : Option NodeId}
    (htop : ∀ n ∈ top, n ∈ d.attached) {tag : String} {n : NodeId} :
    PageLevel (without d top) tag n ↔ PageLevel d tag n ∧ n ∉ part d top := by
  have htag : ∀ m, (without d top).tag? m = d.tag? m := fun m =>
    Document.tag?_congr (value?_without d top m)
  have hmem : n ∈ (without d top).attached ↔ n ∈ d.attached ∧ n ∉ part d top := by
    rw [attached_without hd htop, List.mem_filter, decide_eq_true_iff]
  -- what is above a node that is left is left
  have habove : n ∉ part d top → ∀ m, n ∈ d.descendants m → m ∉ part d top := by
    intro hn m hm hpart
    cases top with
    | none => exact List.not_mem_nil hpart
    | some top =>
        refine hn (List.mem_cons_of_mem top ?_)
        rcases List.mem_cons.1 hpart with rfl | hbelow
        · exact hm
        · exact hd.nodes.mem_descendants_trans hbelow hm
  constructor
  · rintro ⟨hattached, htagged, houtside⟩
    obtain ⟨hattached, hn⟩ := hmem.1 hattached
    refine ⟨⟨hattached, (htag n).symm.trans htagged, fun m hm other hother => ?_⟩, hn⟩
    rw [← htag m]
    refine houtside m ?_ other hother
    rw [descendants_without hd (habove hn m hm), List.mem_filter, decide_eq_true_iff]
    exact ⟨hm, hn⟩
  · rintro ⟨⟨hattached, htagged, houtside⟩, hn⟩
    refine ⟨hmem.2 ⟨hattached, hn⟩, (htag n).trans htagged, fun m hm other hother => ?_⟩
    rw [htag m]
    exact houtside m (mem_descendants_of_without hd hm) other hother

/-! ### Splitting a page -/

/-- The page without its header. -/
def headless (d : Document) : Document := without d (header? d)

/-- The page without its layout. -/
def stripped (d : Document) : Document := without (headless d) (footer? (headless d))

/-- **The parts that a page is divided into**: each attached node of the page is once in the page
that is left, in the footer or in the header, and stands there as it stood.  The header is the first
one outside of the parts of the page.  The footer is the last one of the page without its header,
where the elements outside of the parts of the page are those of the page that are not in it. -/
structure Divides (d : Document) : Prop where
  nodup : d.attached.Nodup
  perm : ((stripped d).attached ++ part (headless d) (footer? (headless d)) ++
    part d (header? d)).Perm d.attached
  rest : StandsAs d (stripped d) (stripped d).attached
  footer : StandsAs d (headless d) (part (headless d) (footer? (headless d)))
  header : StandsAs d d (part d (header? d))
  isFirst : IsFirst d "header" (header? d)
  isLast : IsLast (headless d) "footer" (footer? (headless d))
  pageLevel_iff : ∀ tag n,
    PageLevel (headless d) tag n ↔ PageLevel d tag n ∧ n ∉ part d (header? d)

/-- **A page is divided into its parts.** -/
theorem divides (hd : d.WellFormed) : Divides d := by
  have hfirst : IsFirst d "header" (header? d) := isFirst_header? hd
  have htop := mem_attached_of_isFirst hfirst
  have hbody : (headless d).WellFormed := wellFormed_without hd _
  have hlast : IsLast (headless d) "footer" (footer? (headless d)) := isLast_footer? hbody
  have hbottom := mem_attached_of_isLast hlast
  have hleft : StandsAs d (headless d) (headless d).attached := standsAs_without hd htop
  have hperm : ((stripped d).attached ++ part (headless d) (footer? (headless d))).Perm
      (headless d).attached := perm_without hbody hbottom
  exact {
    nodup := hd.nodup_attached
    perm := (hperm.append_right _).trans (perm_without hd htop)
    rest := hleft.trans (standsAs_without hbody hbottom)
    footer := hleft.trans (standsAs_part hbody hbottom)
    header := standsAs_part hd htop
    isFirst := hfirst
    isLast := hlast
    pageLevel_iff := fun _ _ => pageLevel_without_iff hd htop }

/-- **Splitting a page divides its nodes**, and gives the markup of the page that is left, of the
header and of the footer. -/
theorem split_parts (source : String) :
    Divides (Document.parse source) ∧ split source =
      ⟨(stripped (Document.parse source)).markup,
        (header? (Document.parse source)).map (Document.parse source).outerMarkup,
        (footer? (headless (Document.parse source))).map
          (headless (Document.parse source)).outerMarkup⟩ :=
  ⟨divides (Document.WellFormed.parse source), rfl⟩

end Layout

end ThemeCompiler
