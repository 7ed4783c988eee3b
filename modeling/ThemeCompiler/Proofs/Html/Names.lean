/-
**What a builder makes has a name.**

Elements are made from start tags, from remembered formatting elements and where a rule asks for one
by its name.  A builder whose nodes and remembered elements have names keeps to that with everything
it does to its nodes and to its list.  The stack, the modes and the other fields do not count, so a
change of them needs no argument.

Main definitions:

* `ThemeCompiler.Html.Builder.Named` — what a builder holds has a name;
* `ThemeCompiler.Html.Token.Named` — a start tag has a name.

Main results:

* `ThemeCompiler.Html.Builder.Named.addAt`, `ThemeCompiler.Html.Builder.Named.insertElement` — new
  nodes;
* `ThemeCompiler.Html.Builder.Named.reopen`, `ThemeCompiler.Html.Builder.Named.insertFormatting`,
  `ThemeCompiler.Html.Builder.Named.closeFormatting` — formatting elements;
* `ThemeCompiler.Html.Builder.Named.insertForeign` — foreign elements.
-/

import ThemeCompiler.Html.Builder.Foreign
import ThemeCompiler.Proofs.Arena.Edits

set_option relaxedAutoImplicit false
set_option autoImplicit false

namespace ThemeCompiler

namespace Html

/-! ### Things with names -/

/-- An element under construction has a name. -/
def Item.Named : Item → Prop
  | .element _ name _ _ _ => name ≠ ""
  | _ => True

/-- A remembered element has a name. -/
def Formatting.Named : Formatting → Prop
  | .marker => True
  | .element _ tag => tag.name ≠ ""

/-- **A start tag has a name.**  No other token makes an element. -/
def Token.Named : Token → Prop
  | .startTag tag => tag.name ≠ ""
  | _ => True

/-- The nodes of an arena have names. -/
def NamedNodes (nodes : Arena Item) : Prop := ∀ n item, nodes.value? n = some item → item.Named

/-- **What a builder holds has a name.** -/
def Builder.Named (b : Builder) : Prop :=
  NamedNodes b.nodes ∧ ∀ entry ∈ b.formatting, entry.Named

/-- What the builder after a rule holds has a name. -/
def Step.Named (s : Step) : Prop := s.builder.Named

/-! ### Nodes -/

namespace NamedNodes

variable {nodes : Arena Item}

theorem congr (h : NamedNodes nodes) {other : Arena Item}
    (heq : ∀ n, other.value? n = nodes.value? n) : NamedNodes other := by
  intro n item hn
  rw [heq] at hn
  exact h n item hn

theorem singleton {item : Item} (hitem : item.Named) : NamedNodes (Arena.singleton item) := by
  intro n other hn
  obtain ⟨cell, hcell, rfl⟩ := Option.map_eq_some_iff.1 hn
  obtain rfl := Array.eq_of_mem_singleton (Array.mem_of_getElem? hcell)
  exact hitem

theorem add (h : NamedNodes nodes) {item : Item} (hitem : item.Named) :
    NamedNodes (nodes.add item) := by
  intro n other hn
  rw [Arena.value?_add] at hn
  split at hn
  · cases hn
    exact hitem
  · exact h n other hn

theorem modifyValue (h : NamedNodes nodes) (n : NodeId) {f : Item → Item}
    (hf : ∀ item, item.Named → (f item).Named) : NamedNodes (nodes.modifyValue n f) := by
  intro m item hm
  rw [Arena.value?_modifyValue] at hm
  split at hm
  · obtain ⟨old, hold, rfl⟩ := Option.map_eq_some_iff.1 hm
    exact hf old (h m old hold)
  · exact h m item hm

theorem appendChild (h : NamedNodes nodes) (parent n : NodeId) :
    NamedNodes (nodes.appendChild parent n) :=
  h.congr fun _ => Arena.value?_appendChild ..

theorem insertBefore (h : NamedNodes nodes) (n m : NodeId) : NamedNodes (nodes.insertBefore n m) :=
  h.congr fun _ => Arena.value?_insertBefore ..

theorem detach (h : NamedNodes nodes) (n : NodeId) : NamedNodes (nodes.detach n) :=
  h.congr fun _ => Arena.value?_detach ..

end NamedNodes

namespace Builder

namespace Named

variable {b : Builder} {tag : Tag}

theorem start : Builder.start.Named := by
  have hdocument : Item.Named .document := trivial
  exact ⟨.singleton hdocument, fun entry hentry => absurd hentry List.not_mem_nil⟩

theorem ite {c : Prop} [Decidable c] {x y : Builder} (hx : x.Named) (hy : y.Named) :
    (if c then x else y).Named := by
  split
  · exact hx
  · exact hy

theorem withNodes (h : b.Named) {nodes : Arena Item} (hnodes : NamedNodes nodes) :
    (b.withNodes nodes).Named :=
  ⟨hnodes, h.2⟩

theorem insertAt (h : b.Named) (place : Place) (n : NodeId) : (b.insertAt place n).Named := by
  cases place with
  | lastChild parent => exact h.withNodes (h.1.appendChild parent n)
  | beforeTable table below =>
      exact ite (h.withNodes (h.1.insertBefore table n)) (h.withNodes (h.1.appendChild below n))

theorem addAt (h : b.Named) (place : Place) {item : Item} (hitem : item.Named) :
    (b.addAt place item).Named := by
  have hadded : (b.withNodes (b.nodes.add item)).Named := h.withNodes (h.1.add hitem)
  exact hadded.insertAt place b.nodes.size

theorem appendText (h : b.Named) (content : String) : (b.appendText content).Named := by
  have htext : Item.Named (.text content) := trivial
  rw [Builder.appendText]
  split
  · refine h.withNodes (h.1.modifyValue _ fun item hitem => ?_)
    cases item with
    | text => trivial
    | _ => exact hitem
  · exact h.addAt _ htext

theorem appendCommentTo (h : b.Named) (parent : NodeId) (content : String) :
    (b.appendCommentTo parent content).Named := by
  have hcomment : Item.Named (.comment content) := trivial
  exact h.addAt _ hcomment

theorem appendComment (h : b.Named) (content : String) : (b.appendComment content).Named := by
  have hcomment : Item.Named (.comment content) := trivial
  exact h.addAt _ hcomment

/-! ### New elements -/

theorem create (h : b.Named) (vocabulary : Vocabulary) {name : String} (hname : name ≠ "")
    (attrs : List Attribute) : (b.create vocabulary name attrs).Named := by
  have hcontents : Item.Named .contents := trivial
  refine ite (h.withNodes ((h.1.add hcontents).add ?_)) (h.withNodes (h.1.add ?_))
  · exact hname
  · exact hname

theorem insertClosed (h : b.Named) (vocabulary : Vocabulary) {name : String} (hname : name ≠ "")
    (attrs : List Attribute) : (b.insertClosed vocabulary name attrs).Named :=
  (h.create vocabulary hname attrs).insertAt _ _

theorem insertElement (h : b.Named) (vocabulary : Vocabulary) {name : String} (hname : name ≠ "")
    (attrs : List Attribute) : (b.insertElement vocabulary name attrs).Named :=
  h.insertClosed vocabulary hname attrs

theorem insertTag (h : b.Named) (ht : tag.name ≠ "") : (b.insertTag tag).Named :=
  h.insertElement .html ht tag.attrs

theorem insertEmpty (h : b.Named) (ht : tag.name ≠ "") : (b.insertEmpty tag).Named :=
  h.insertClosed .html ht tag.attrs

theorem insertTextElement (h : b.Named) (ht : tag.name ≠ "") (textMode : TextMode) :
    (b.insertTextElement tag textMode).Named :=
  h.insertTag ht

theorem mergeAttrs (h : b.Named) (n : NodeId) (attrs : List Attribute) :
    (b.mergeAttrs n attrs).Named := by
  refine h.withNodes (h.1.modifyValue n fun item hitem => ?_)
  cases item with
  | _ => exact hitem

theorem mergeRootAttrs (h : b.Named) (tag : Tag) : (b.mergeRootAttrs tag).Named :=
  ite h (h.mergeAttrs _ _)

/-! ### The list of formatting elements -/

theorem remember (h : b.Named) {entry : Formatting} (hentry : entry.Named) :
    Named { b with formatting := entry :: b.formatting } := by
  refine ⟨h.1, fun other hother => ?_⟩
  rcases List.mem_cons.1 hother with rfl | hother
  · exact hentry
  · exact h.2 other hother

theorem addMarker (h : b.Named) : b.addMarker.Named := by
  have hmarker : Formatting.Named .marker := trivial
  exact h.remember hmarker

theorem clearToMarker (h : b.Named) : b.clearToMarker.Named := by
  refine ⟨h.1, fun entry hentry => h.2 entry ?_⟩
  exact (List.dropWhile_suffix _).subset (List.mem_of_mem_drop hentry)

theorem forget (h : b.Named) (n : NodeId) : (b.forget n).Named :=
  ⟨h.1, fun entry hentry => h.2 entry (List.mem_of_mem_eraseP hentry)⟩

theorem replaceEntry (h : b.Named) (old : NodeId) {entry : Formatting} (hentry : entry.Named) :
    (b.replaceEntry old entry).Named := by
  refine ⟨h.1, fun other hother => ?_⟩
  obtain ⟨before, hbefore, rfl⟩ := List.mem_map.1 hother
  split
  · exact hentry
  · exact h.2 before hbefore

theorem reopenEntry (h : b.Named) {entry : Formatting} (hentry : entry.Named) :
    (b.reopenEntry entry).Named := by
  cases entry with
  | marker => exact h
  | element node tag => exact (h.insertTag hentry).replaceEntry _ hentry

theorem reopen (h : b.Named) : b.reopen.Named := by
  refine List.foldlRecOn _ _ h fun opened hopened entry hentry => ?_
  refine hopened.reopenEntry (h.2 entry ?_)
  exact (List.takeWhile_prefix _).subset (List.mem_reverse.1 hentry)

theorem limitTwins (h : b.Named) (tag : Tag) : (b.limitTwins tag).Named := by
  rw [Builder.limitTwins]
  split
  · exact ite (h.forget _) h
  · exact h

theorem insertFormatting (h : b.Named) (ht : tag.name ≠ "") : (b.insertFormatting tag).Named :=
  ((h.limitTwins tag).insertTag ht).remember ht

theorem closeGeneric (h : b.Named) (name : String) : (b.closeGeneric name).Named := by
  rw [Builder.closeGeneric]
  split
  · exact ite h h
  · exact h

/-! ### Closing a formatting element -/

theorem visit {w : Walk} (h : w.builder.Named) (block n : NodeId) :
    (w.visit block n).builder.Named := by
  rw [Walk.visit]
  split
  · exact h.forget n
  split
  · next node tag hfind =>
      -- the copy is made from the remembered tag
      have htag : tag.name ≠ "" := h.2 _ (List.mem_of_find?_eq_some hfind)
      have hmade := h.create .html htag tag.attrs
      have hcopy : Formatting.Named
          (.element (w.builder.create .html tag.name tag.attrs).newest tag) := htag
      exact ⟨hmade.1.appendChild _ _, (hmade.replaceEntry n hcopy).2⟩
  · exact h

theorem mem_rememberAfter {mark : NodeId} {entry other : Formatting} {entries : List Formatting}
    (h : other ∈ Builder.rememberAfter mark entry entries) : other = entry ∨ other ∈ entries := by
  induction entries with
  | nil => exact absurd h List.not_mem_nil
  | cons first rest ih =>
      rw [Builder.rememberAfter] at h
      split at h
      · exact List.mem_cons.1 h
      · rcases List.mem_cons.1 h with rfl | hrest
        · exact Or.inr List.mem_cons_self
        · exact (ih hrest).imp_right (List.mem_cons_of_mem first)

theorem rememberAfter (h : b.Named) (mark : NodeId) {entry : Formatting} (hentry : entry.Named) :
    Named { b with formatting := Builder.rememberAfter mark entry b.formatting } := by
  refine ⟨h.1, fun other hother => ?_⟩
  rcases mem_rememberAfter hother with rfl | hother
  · exact hentry
  · exact h.2 other hother

theorem liftBlock (h : b.Named) (element : NodeId) (ht : tag.name ≠ "") (block : NodeId) :
    (b.liftBlock element tag block).Named := by
  unfold Builder.liftBlock
  extract_lets above ancestor between w loose lifted made copy content filled entry remembered
    closed
  have hw : w.builder.Named :=
    List.foldlRecOn (motive := fun walk : Walk => walk.builder.Named) between _ h
      fun walk hwalk n _ => Named.visit hwalk block n
  have hloose : loose.Named := hw.withNodes (hw.1.detach w.last)
  have hmade : made.Named := (hloose.insertAt _ _).create .html ht tag.attrs
  have hcontent : NamedNodes content :=
    List.foldlRecOn _ _ hmade.1 fun nodes hnodes c _ => NamedNodes.appendChild hnodes copy c
  have hfilled : filled.Named := hmade.withNodes (hcontent.appendChild block copy)
  have hentry : entry.Named := ht
  have hremembered : remembered.Named := by
    unfold remembered
    split
    · exact hfilled.replaceEntry element hentry
    · exact (hfilled.rememberAfter _ hentry).forget element
  exact hremembered

theorem closeFormattingRound (h : b.Named) (name : String) :
    (b.closeFormattingRound name).1.Named := by
  rw [Builder.closeFormattingRound]
  split
  · next element tag hfind =>
      have htag : tag.name ≠ "" :=
        h.2 _ ((List.takeWhile_prefix _).subset (List.mem_of_find?_eq_some hfind))
      split
      · exact h.forget element
      split
      · exact h
      split
      · exact h.forget element
      · exact h.liftBlock element htag _
  · exact h.closeGeneric name

theorem closeFormattingRounds (h : b.Named) (name : String) (rounds : Nat) :
    (Builder.closeFormattingRounds name rounds b).Named := by
  induction rounds generalizing b with
  | zero => exact h
  | succ rounds ih =>
      have hround := h.closeFormattingRound name
      rw [Builder.closeFormattingRounds]
      split
      · next next hnext =>
          rw [hnext] at hround
          exact ih hround
      · next next hnext =>
          rw [hnext] at hround
          exact hround

theorem closeFormatting (h : b.Named) (name : String) : (b.closeFormatting name).Named :=
  ite h (closeFormattingRounds h name 8)

theorem closeMisnestedLink (h : b.Named) : b.closeMisnestedLink.Named := by
  rw [Builder.closeMisnestedLink]
  split
  · exact (h.closeFormatting "a").forget _
  · exact h

/-! ### Foreign elements -/

theorem respell_ne_empty {names : List String} (hnames : "" ∉ names) {name : String}
    (hname : name ≠ "") : respell names name ≠ "" := by
  intro hempty
  rw [respell] at hempty
  cases hfind : names.find? fun s => Text.lowerAscii s == name with
  | none => exact hname (by simpa [hfind] using hempty)
  | some found =>
      have hfound : found = "" := by simpa [hfind] using hempty
      exact hnames (hfound ▸ List.mem_of_find?_eq_some hfind)

theorem insertForeign (h : b.Named) (vocabulary : Vocabulary) (ht : tag.name ≠ "") :
    (b.insertForeign vocabulary tag).Named := by
  have hname : (if vocabulary == .svg then respell svgElementNames tag.name else tag.name) ≠ "" := by
    split
    · exact respell_ne_empty (by decide) ht
    · exact ht
  exact ite (h.insertClosed vocabulary hname _) (h.insertElement vocabulary hname _)

theorem closeForeign (h : b.Named) (name : String) (isFirst : Bool) (below : List NodeId) :
    (b.closeForeign name isFirst below).1.Named := by
  fun_induction Builder.closeForeign b name isFirst below with
  | case6 _ _ _ _ _ _ _ _ _ ih => exact ih
  | _ => exact h

end Named

end Builder

end Html

end ThemeCompiler
