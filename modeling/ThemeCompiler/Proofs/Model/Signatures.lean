/-
**What a signature tells about an element.**

Siblings are grouped by a text that is written from the tag, the first class and the tags of the child
elements.  Elements of one structure have one signature, but the text has no escapes: a tag may hold
the characters that separate its parts, and then elements of different structure may share it.  Where
they do not occur in the tags the signature can be read back.  The last bracket that opens is the one
before the children, whose tags hold none; in front of it the first dot is the one before the class,
unless the tag has one.  Nothing is asked of the class, which is in the middle.

An empty tag would be lost between the brackets, but a parsed element has a name.

Main definitions:

* `ThemeCompiler.Model.childTags`, `ThemeCompiler.Model.SameStructure` — the structure of an element;
* `ThemeCompiler.Model.Legible` — tags without the characters that separate them;
* `ThemeCompiler.Model.Merged` — two nodes that become instances of one repeater.

Main results:

* `ThemeCompiler.Model.SameStructure.signature_eq` — elements of one structure have one signature;
* `ThemeCompiler.Model.sameStructure_of_signature_eq` — **legible elements of one signature have one
  structure**;
* `ThemeCompiler.Model.groups_spec`, `ThemeCompiler.Model.grouped_iff` — the groups of a list of
  nodes;
* `ThemeCompiler.Model.merged_parse_iff` — **which siblings of a parsed page are merged**.
-/

import Mathlib.Data.List.Induction
import Mathlib.Data.List.Nodup
import ThemeCompiler.Model.Scan
import ThemeCompiler.Proofs.Document.Names
import ThemeCompiler.Proofs.Text.Search

set_option relaxedAutoImplicit false
set_option autoImplicit false

namespace ThemeCompiler

namespace Model

variable {d : Document}

/-! ### The structure of an element -/

/-- The tags of the child elements of an element. -/
def childTags (d : Document) (n : NodeId) : List String := (d.elementChildren n).filterMap d.tag?

/-- **Two elements of one structure**: the tag, the first class and the tags of the children are the
same. -/
structure SameStructure (d : Document) (a b : NodeId) : Prop where
  tag : d.tag? a = d.tag? b
  firstClass : d.firstClass? a = d.firstClass? b
  children : childTags d a = childTags d b

/-- **An element whose signature can be read back**: its tag has no dot, and the tags of its children
have no hyphen and no bracket that opens. -/
structure Legible (d : Document) (n : NodeId) : Prop where
  tag : ∀ tag ∈ d.tag? n, '.' ∉ tag.toList
  children : ∀ tag ∈ childTags d n, '-' ∉ tag.toList ∧ '[' ∉ tag.toList

instance (a b : NodeId) : Decidable (SameStructure d a b) :=
  decidable_of_iff (d.tag? a = d.tag? b ∧ d.firstClass? a = d.firstClass? b ∧
      childTags d a = childTags d b)
    ⟨fun ⟨ht, hc, hs⟩ => ⟨ht, hc, hs⟩, fun ⟨ht, hc, hs⟩ => ⟨ht, hc, hs⟩⟩

instance (n : NodeId) : Decidable (Legible d n) :=
  decidable_of_iff ((∀ tag ∈ d.tag? n, '.' ∉ tag.toList) ∧
      ∀ tag ∈ childTags d n, '-' ∉ tag.toList ∧ '[' ∉ tag.toList)
    ⟨fun ⟨ht, hc⟩ => ⟨ht, hc⟩, fun ⟨ht, hc⟩ => ⟨ht, hc⟩⟩

/-- **Elements of one structure have one signature.** -/
theorem SameStructure.signature_eq {a b : NodeId} (h : SameStructure d a b) :
    signature d a = signature d b := by
  have hchildren := h.children
  rw [childTags, childTags] at hchildren
  rw [signature, signature, h.tag, h.firstClass, hchildren]

/-! ### Reading a signature back -/

/-- The characters of a class behind its dot. -/
def classPart : Option String → List Char
  | none => []
  | some name => '.' :: name.toList

/-- The characters of a signature. -/
theorem toList_signature {n : NodeId} {tag : String} (htag : d.tag? n = some tag) :
    (signature d n).toList = (tag.toList ++ classPart (d.firstClass? n)) ++
      '[' :: (['-'].intercalate ((childTags d n).map String.toList) ++ [']']) := by
  have hclass : (((d.firstClass? n).map ("." ++ ·)).getD "").toList =
      classPart (d.firstClass? n) := by
    cases d.firstClass? n with
    | none => rfl
    | some name => simp [classPart]
  rw [signature, htag, Option.getD_some, String.toList_append, String.toList_append,
    String.toList_append, String.toList_append, hclass, String.toList_intercalate, ← childTags]
  simp

/-- The last occurrence of a character splits a text in one way. -/
theorem split_at_last {a : Char} {s x p y : List Char} (hp : a ∉ p) (hy : a ∉ y)
    (h : s ++ a :: p = x ++ a :: y) : s = x ∧ p = y := by
  have hreverse : p.reverse ++ a :: s.reverse = y.reverse ++ a :: x.reverse := by
    simpa using congrArg List.reverse h
  rcases Text.split_at_first (by simpa using hy) hreverse with ⟨hpy, hsx⟩ | ⟨rest, hlong, -⟩
  · exact ⟨List.reverse_injective hsx, List.reverse_injective hpy⟩
  · have hmem : a ∈ p.reverse := by
      rw [hlong]
      exact List.mem_append_right _ List.mem_cons_self
    exact absurd (List.mem_reverse.1 hmem) hp

/-- A name without a dot and the class behind it can be told apart. -/
theorem append_classPart_inj {s t : List Char} {o o' : Option String} (hs : '.' ∉ s) (ht : '.' ∉ t)
    (h : s ++ classPart o = t ++ classPart o') : s = t ∧ o = o' := by
  have hdot : ∀ {u v : List Char} {name : String}, '.' ∉ u → u ≠ v ++ '.' :: name.toList := by
    rintro u v name hu rfl
    exact hu (List.mem_append_right v List.mem_cons_self)
  cases o with
  | none =>
      cases o' with
      | none => exact ⟨by simpa [classPart] using h, rfl⟩
      | some name => exact absurd (by simpa [classPart] using h) (hdot hs)
  | some name =>
      cases o' with
      | none => exact absurd (by simpa [classPart] using h.symm) (hdot ht)
      | some name' =>
          rcases Text.split_at_first ht h with ⟨hst, hname⟩ | ⟨rest, hlong, -⟩
          · exact ⟨hst, congrArg some (String.toList_inj.1 hname)⟩
          · exact absurd (hlong ▸ List.mem_append_right t List.mem_cons_self) hs

/-- Joined names have no character that is not in them and does not join them. -/
theorem not_mem_intercalate {a joint : Char} (hne : a ≠ joint) {names : List (List Char)}
    (h : ∀ name ∈ names, a ∉ name) : a ∉ [joint].intercalate names := by
  induction names with
  | nil => simp
  | cons first rest ih =>
      have hrest := ih fun name hname => h name (List.mem_cons_of_mem first hname)
      cases rest with
      | nil => simpa using h first List.mem_cons_self
      | cons second others =>
          rw [List.intercalate_cons_cons, List.append_assoc, List.mem_append, not_or]
          refine ⟨h first List.mem_cons_self, ?_⟩
          rw [List.singleton_append, List.mem_cons, not_or]
          exact ⟨hne, hrest⟩

/-- **Joined names can be told apart**, where none is empty or holds the character that joins them. -/
theorem intercalate_inj {joint : Char} {names others : List (List Char)}
    (hnames : ∀ name ∈ names, name ≠ [] ∧ joint ∉ name)
    (hothers : ∀ name ∈ others, name ≠ [] ∧ joint ∉ name)
    (h : [joint].intercalate names = [joint].intercalate others) : names = others := by
  have hsome : ∀ {l : List (List Char)}, (∀ name ∈ l, name ≠ [] ∧ joint ∉ name) →
      [joint].intercalate l = [] → l = [] := by
    intro l hl hempty
    match l with
    | [] => rfl
    | [first] => exact absurd (by simpa using hempty) (hl first List.mem_cons_self).1
    | first :: second :: rest =>
        rw [List.intercalate_cons_cons] at hempty
        exact absurd hempty (by simp)
  by_cases hnil : names = []
  · subst hnil
    exact (hsome hothers h.symm).symm
  · have hnil' : others ≠ [] := by
      rintro rfl
      exact hnil (hsome hnames h)
    rw [← List.splitOn_intercalate joint (fun name hname => (hnames name hname).2) hnil, h,
      List.splitOn_intercalate joint (fun name hname => (hothers name hname).2) hnil']

/-- **Legible elements of one signature have one structure.** -/
theorem sameStructure_of_signature_eq {a b : NodeId}
    (hnames : ∀ n tag, d.tag? n = some tag → tag ≠ "") (ha : d.isElement a = true)
    (hb : d.isElement b = true) (hla : Legible d a) (hlb : Legible d b)
    (h : signature d a = signature d b) : SameStructure d a b := by
  obtain ⟨tag, htag⟩ := Option.isSome_iff_exists.1 ha
  obtain ⟨tag', htag'⟩ := Option.isSome_iff_exists.1 hb
  -- the names of children are neither empty nor do they hold the characters around them
  have hchildren : ∀ {n : NodeId}, Legible d n →
      ∀ name ∈ (childTags d n).map String.toList, name ≠ [] ∧ '-' ∉ name ∧ '[' ∉ name := by
    intro n hn name hname
    obtain ⟨child, hchild, rfl⟩ := List.mem_map.1 hname
    obtain ⟨c, -, hc⟩ := List.mem_filterMap.1 hchild
    exact ⟨fun hnil => hnames c child hc (String.toList_eq_nil_iff.1 hnil), hn.children child hchild⟩
  have hinner : ∀ {n : NodeId}, Legible d n →
      '[' ∉ ['-'].intercalate ((childTags d n).map String.toList) ++ [']'] := by
    intro n hn
    rw [List.mem_append, not_or]
    refine ⟨not_mem_intercalate (by decide) fun name hname => (hchildren hn name hname).2.2, ?_⟩
    decide
  have hchars := congrArg String.toList h
  rw [toList_signature htag, toList_signature htag'] at hchars
  obtain ⟨hhead, hrest⟩ := split_at_last (hinner hla) (hinner hlb) hchars
  obtain ⟨hname, hclass⟩ := append_classPart_inj (hla.tag tag htag) (hlb.tag tag' htag') hhead
  have hjoined := intercalate_inj
    (fun name hname => ⟨(hchildren hla name hname).1, (hchildren hla name hname).2.1⟩)
    (fun name hname => ⟨(hchildren hlb name hname).1, (hchildren hlb name hname).2.1⟩)
    (List.append_cancel_right hrest)
  refine ⟨?_, hclass, ?_⟩
  · rw [htag, htag', String.toList_inj.1 hname]
  · exact List.map_injective_iff.2 (fun s t hst => String.toList_inj.1 hst) hjoined

/-! ### Groups -/

theorem map_fst_addMember (sig : String) (n : NodeId) (found : List (String × List NodeId)) :
    (addMember sig n found).map (·.1) =
      if sig ∈ found.map (·.1) then found.map (·.1) else found.map (·.1) ++ [sig] := by
  induction found with
  | nil => rfl
  | cons group rest ih =>
      obtain ⟨key, members⟩ := group
      rw [addMember]
      by_cases hkey : key = sig
      · rw [if_pos (by simpa using hkey), if_pos (by simp [hkey])]
        rfl
      · rw [if_neg (by simpa using hkey), List.map_cons, ih, List.map_cons]
        by_cases hmem : sig ∈ rest.map (·.1)
        · rw [if_pos hmem, if_pos (List.mem_cons_of_mem key hmem)]
        · have hnot : sig ∉ key :: rest.map (·.1) := by
            rw [List.mem_cons, not_or]
            exact ⟨Ne.symm hkey, hmem⟩
          rw [if_neg hmem, if_neg hnot]
          rfl

/-- **One more member**: the group of its signature has it in the end, and the others are as they
were. -/
theorem mem_addMember_iff {sig key : String} {n : NodeId} {members : List NodeId}
    {found : List (String × List NodeId)} (hkeys : (found.map (·.1)).Nodup) :
    (key, members) ∈ addMember sig n found ↔
      if key = sig then ∃ old, members = old ++ [n] ∧
        ((sig, old) ∈ found ∨ sig ∉ found.map (·.1) ∧ old = [])
      else (key, members) ∈ found := by
  induction found with
  | nil => by_cases hkey : key = sig <;> simp [addMember, hkey]
  | cons group rest ih =>
      obtain ⟨other, old⟩ := group
      obtain ⟨hnot, hrest⟩ := List.nodup_cons.1 hkeys
      have hfree : ∀ found, (other, found) ∉ rest := fun found hfound =>
        hnot (List.mem_map.2 ⟨_, hfound, rfl⟩)
      rw [addMember]
      by_cases hother : other = sig
      · subst hother
        rw [if_pos (by simp)]
        by_cases hkey : key = other
        · subst hkey
          simp [hfree]
        · simp [hkey]
      · rw [if_neg (by simpa using hother), List.mem_cons, ih hrest]
        by_cases hkey : key = sig
        · subst hkey
          simp [Ne.symm hother]
        · simp [hkey]

theorem nodup_map_fst_addMember {sig : String} {n : NodeId} {found : List (String × List NodeId)}
    (hkeys : (found.map (·.1)).Nodup) : ((addMember sig n found).map (·.1)).Nodup := by
  rw [map_fst_addMember]
  split
  · exact hkeys
  · next hnew =>
      refine List.nodup_append.2 ⟨hkeys, List.nodup_singleton _, ?_⟩
      rintro key hold other hother rfl
      exact hnew (List.mem_singleton.1 hother ▸ hold)

/-- **The groups of a list of nodes**: for each signature those that have it, in their order. -/
theorem groups_spec (d : Document) (nodes : List NodeId) :
    ((groups d nodes).map (·.1)).Nodup ∧ ∀ key members, (key, members) ∈ groups d nodes ↔
      members ≠ [] ∧ members = nodes.filter (signature d · == key) := by
  induction nodes using List.reverseRecOn with
  | nil => exact ⟨List.nodup_nil, by simp [groups]⟩
  | append_singleton nodes n ih =>
      obtain ⟨hkeys, hmem⟩ := ih
      have hgroups : groups d (nodes ++ [n]) = addMember (signature d n) n (groups d nodes) := by
        rw [groups, List.foldl_append]
        rfl
      have hkey : signature d n ∈ (groups d nodes).map (·.1) ↔
          nodes.filter (signature d · == signature d n) ≠ [] := by
        rw [List.mem_map]
        constructor
        · rintro ⟨⟨key, members⟩, hgroup, hkey⟩
          obtain ⟨hne, rfl⟩ := (hmem key members).1 hgroup
          exact hkey ▸ hne
        · intro hne
          exact ⟨⟨_, _⟩, (hmem _ _).2 ⟨hne, rfl⟩, rfl⟩
      rw [hgroups]
      refine ⟨nodup_map_fst_addMember hkeys, fun key members => ?_⟩
      rw [mem_addMember_iff hkeys, List.filter_append]
      by_cases hsig : key = signature d n
      · -- the group of the new node, which may have been begun before
        subst hsig
        rw [if_pos rfl, List.filter_cons_of_pos (by simp), List.filter_nil]
        simp only [hmem, hkey, not_not]
        constructor
        · rintro ⟨old, rfl, ⟨-, rfl⟩ | ⟨hnone, rfl⟩⟩
          · exact ⟨by simp, rfl⟩
          · exact ⟨by simp, by rw [hnone]⟩
        · rintro ⟨-, rfl⟩
          refine ⟨_, rfl, ?_⟩
          by_cases hnone : nodes.filter (signature d · == signature d n) = []
          · exact Or.inr ⟨hnone, hnone⟩
          · exact Or.inl ⟨hnone, rfl⟩
      · rw [if_neg hsig, hmem, List.filter_cons_of_neg (by simpa using Ne.symm hsig),
          List.filter_nil, List.append_nil]

/-- **Two nodes of a list are in one group exactly if they have one signature.** -/
theorem grouped_iff {nodes : List NodeId} {a b : NodeId} (ha : a ∈ nodes) (hb : b ∈ nodes) :
    (∃ group ∈ (groups d nodes).map (·.2), a ∈ group ∧ b ∈ group) ↔
      signature d a = signature d b := by
  obtain ⟨-, hmem⟩ := groups_spec d nodes
  constructor
  · rintro ⟨group, hgroup, hag, hbg⟩
    obtain ⟨⟨key, members⟩, hfound, rfl⟩ := List.mem_map.1 hgroup
    obtain ⟨-, rfl⟩ := (hmem key members).1 hfound
    have hakey : signature d a = key := by simpa using (List.mem_filter.1 hag).2
    have hbkey : signature d b = key := by simpa using (List.mem_filter.1 hbg).2
    rw [hakey, hbkey]
  · intro hsig
    have hag : a ∈ nodes.filter (signature d · == signature d b) :=
      List.mem_filter.2 ⟨ha, by simpa using hsig⟩
    have hbg : b ∈ nodes.filter (signature d · == signature d b) :=
      List.mem_filter.2 ⟨hb, by simp⟩
    exact ⟨_, List.mem_map.2 ⟨_, (hmem _ _).2 ⟨List.ne_nil_of_mem hag, rfl⟩, rfl⟩, hag, hbg⟩

/-! ### Merged siblings -/

/-- **Two nodes of a list become instances of one repeater**: they are in one group of unused nodes
that has more than one member. -/
def Merged (d : Document) (s : Scan) (nodes : List NodeId) (a b : NodeId) : Prop :=
  ∃ group ∈ (groups d (nodes.filter (!s.isConsumed ·))).map (·.2),
    2 ≤ group.length ∧ a ∈ group ∧ b ∈ group

/-- The groups with more than one member become repeaters at the places of their first members. -/
theorem map_place_scanMembers (p : Page) (scan : Scanner) (found : List (List NodeId)) (s : Scan) :
    (scanMembers p scan found s).1.map (fun draft => (draft.place, draft.info.kind)) =
      (found.filter (2 ≤ ·.length)).map
        fun group => (group.head?.map p.position, FieldKind.repeater) := by
  induction found generalizing s with
  | nil => rfl
  | cons group rest ih =>
      match group with
      | [] => exact ih s
      | [_] => exact ih s
      | first :: second :: others =>
          rw [List.filter_cons_of_pos (by simp), List.map_cons, ← ih]
          rfl

/-- **Unused siblings are merged exactly if they have one signature.** -/
theorem merged_iff {s : Scan} {nodes : List NodeId} {a b : NodeId} (hne : a ≠ b)
    (ha : a ∈ nodes ∧ s.isConsumed a = false) (hb : b ∈ nodes ∧ s.isConsumed b = false) :
    Merged d s nodes a b ↔ signature d a = signature d b := by
  have hunused : ∀ {n : NodeId}, n ∈ nodes ∧ s.isConsumed n = false →
      n ∈ nodes.filter (!s.isConsumed ·) := fun ⟨hn, hfree⟩ =>
    List.mem_filter.2 ⟨hn, by rw [hfree]; rfl⟩
  rw [← grouped_iff (hunused ha) (hunused hb)]
  constructor
  · rintro ⟨group, hgroup, -, hag, hbg⟩
    exact ⟨group, hgroup, hag, hbg⟩
  · rintro ⟨group, hgroup, hag, hbg⟩
    have htwo : [a, b].Subperm group :=
      List.Nodup.subperm (by simpa using hne) (by simp [hag, hbg])
    exact ⟨group, hgroup, htwo.length_le, hag, hbg⟩

/-- **Which siblings of a parsed page are merged.**  Elements of one structure have one signature; the
converse holds for legible elements, and unused siblings are merged exactly if they have one
signature. -/
theorem merged_parse_iff (source : String) {a b : NodeId}
    (ha : (Document.parse source).isElement a = true)
    (hb : (Document.parse source).isElement b = true) :
    let d := Document.parse source
    (SameStructure d a b → signature d a = signature d b) ∧
      (Legible d a → Legible d b → (signature d a = signature d b ↔ SameStructure d a b)) ∧
      ∀ (s : Scan) (nodes : List NodeId), a ≠ b → a ∈ nodes ∧ s.isConsumed a = false →
        b ∈ nodes ∧ s.isConsumed b = false →
        (Merged d s nodes a b ↔ signature d a = signature d b) := by
  intro d
  refine ⟨SameStructure.signature_eq, fun hla hlb => ⟨fun hsig => ?_, SameStructure.signature_eq⟩,
    fun s nodes hne => merged_iff hne⟩
  have hnames : ∀ n tag, d.tag? n = some tag → tag ≠ "" := fun n tag =>
    Document.tag?_parse_ne_empty source
  exact sameStructure_of_signature_eq hnames ha hb hla hlb hsig

/-- Two cards of one class are merged. -/
theorem merged_parse_cards :
    let d := Document.parse "<p class=\"card a.b\"><i></i></p><p class=\"card c\"><i></i></p>"
    Legible d 4 ∧ Legible d 6 ∧ SameStructure d 4 6 ∧ Merged d .start (d.elementChildren 3) 4 6 := by
  intro d
  have hpage : (d.isElement 4 = true ∧ d.isElement 6 = true) ∧
      (4 ∈ d.elementChildren 3 ∧ 6 ∈ d.elementChildren 3) ∧
      (Legible d 4 ∧ Legible d 6) ∧ SameStructure d 4 6 := by decide +kernel
  obtain ⟨⟨ha, hb⟩, ⟨hchild, hchild'⟩, ⟨hlegible, hlegible'⟩, hsame⟩ := hpage
  obtain ⟨-, hiff, hmerged⟩ := merged_parse_iff
    "<p class=\"card a.b\"><i></i></p><p class=\"card c\"><i></i></p>" ha hb
  have hsignature : signature d 4 = signature d 6 := (hiff hlegible hlegible').2 hsame
  exact ⟨hlegible, hlegible', hsame, (hmerged .start (d.elementChildren 3) (by decide)
    ⟨hchild, rfl⟩ ⟨hchild', rfl⟩).2 hsignature⟩

/-- **The text of a signature does not tell all structures apart**: a hyphen in the tag of a child is
taken for the joint of two, a dot in a tag for a class, and a bracket in the tag of a child for the
beginning of the children. -/
theorem signature_eq_of_different_structure :
    let d := Document.parse ("<div><x-y></x-y></div><div><x></x><y></y></div>" ++
      "<x.y></x.y><x class=y></x>" ++ "<x><a[b></a[b></x><x[a><b></b></x[a>")
    (∀ n ∈ [4, 6, 9, 10, 11, 13], d.isElement n = true) ∧
      (signature d 4 = signature d 6 ∧ ¬ SameStructure d 4 6) ∧
      (signature d 9 = signature d 10 ∧ ¬ SameStructure d 9 10) ∧
      signature d 11 = signature d 13 ∧ ¬ SameStructure d 11 13 := by
  decide +kernel

end Model

end ThemeCompiler
