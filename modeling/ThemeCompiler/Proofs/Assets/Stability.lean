/-
**Redirecting references once more.**

A redirected reference is the base, the directory for the file and the file in a row.  Behind a base
that a template computes, or that lies on another server, it is no longer a reference to a file
beside the page.  Behind a directory, its last segment is the file again, so it is at the place that
it would be redirected to.  Whatever holds of all references at their place holds of all local
references of a redirected document, because nothing but references is set; and a document whose
local references are at their place is not changed by redirecting.

Main definitions:

* `ThemeCompiler.Assets.IsRemoteBase`, `ThemeCompiler.Assets.IsDirectoryBase` — the two kinds of
  bases;
* `ThemeCompiler.Assets.IfLocal` — a property of the path in a reference that is local.

Main results:

* `ThemeCompiler.Assets.isLocal_placed`, `ThemeCompiler.Assets.placed_placed` — what a reference at
  its place is, behind both kinds of bases;
* `ThemeCompiler.Assets.ifLocal_redirect` — the local references of a redirected document;
* `ThemeCompiler.Assets.redirect_redirect` — **redirecting the references of a document twice**.
-/

import ThemeCompiler.Proofs.Assets
import ThemeCompiler.Proofs.Assets.FileNames
import ThemeCompiler.Proofs.Text.Removal

set_option relaxedAutoImplicit false
set_option autoImplicit false

namespace ThemeCompiler

namespace Assets

variable {d : Document} {urlBase path : String}

/-! ### References behind a remote base -/

/-- **A base that makes references remote**: a template computes it, or it begins like a reference
to something else than a file beside the page. -/
def IsRemoteBase (urlBase : String) : Prop :=
  Text.contains urlBase "<?php" = true ∨
    remoteStarts.any (Text.startsWith (Text.lowerAscii (Text.trim urlBase))) = true

/-- Small letters of ASCII are no blanks. -/
theorem isBlank_toLower {c : Char} (h : Text.isBlank c = true) : Text.isBlank c.toLower = true := by
  have hnot : ¬ (c.val ≥ 'A'.val ∧ c.val ≤ 'Z'.val) := by
    intro hupper
    simp only [Text.isBlank, Bool.or_eq_true, Bool.and_eq_true, decide_eq_true_eq, beq_iff_eq,
      Char.le_def] at h
    rcases h with (((((((((h | rfl) | rfl) | rfl) | rfl) | h) | rfl) | rfl) | rfl) | rfl) | rfl
    all_goals grind
  have hsame : c.toLower = c := dif_neg hnot
  rw [hsame]
  exact h

/-- What a text begins with, in small letters, stays its beginning when more is put behind. -/
theorem startsWith_trim_append {start : String} (hne : start.toList ≠ [])
    (hstart : start.toList.any Text.isBlank = false) {text : String}
    (h : Text.startsWith (Text.lowerAscii (Text.trim text)) start = true) (more : String) :
    Text.startsWith (Text.lowerAscii (Text.trim (text ++ more))) start = true := by
  simp only [Text.startsWith, Text.lowerAscii, Text.trim, String.toList_ofList,
    List.isPrefixOf_iff_prefix, String.toList_append] at h ⊢
  obtain ⟨part, hpart, hmap⟩ := List.prefix_map_iff.1 h
  rw [hmap]
  refine List.IsPrefix.map Char.toLower (Text.prefix_trimWith_append ?_ ?_ hpart more.toList)
  · intro hnil
    exact hne (by rw [hmap, hnil]; rfl)
  · intro c hc
    rw [← Bool.not_eq_true]
    intro hblank
    have hsmall : c.toLower ∈ start.toList := by
      rw [hmap]
      exact List.mem_map_of_mem hc
    exact List.any_eq_false.1 hstart _ hsmall (isBlank_toLower hblank)

/-- The code that a template computes a reference with is not trimmed away. -/
theorem contains_trim {code : String} (hne : code.toList ≠ [])
    (hcode : code.toList.any Text.isBlank = false) (text : String) :
    Text.contains (Text.trim text) code = Text.contains text code := by
  have hcode : ∀ c ∈ code.toList, Text.isBlank c = false := fun c hc =>
    Bool.eq_false_iff.2 (List.any_eq_false.1 hcode c hc)
  rw [Bool.eq_iff_iff, Text.contains, Text.contains, Text.occursIn_iff_infix,
    Text.occursIn_iff_infix, Text.trim, String.toList_ofList, Text.infix_trimWith_iff hne hcode]

/-- **Behind a remote base, a reference is remote.** -/
theorem isLocal_append (hbase : IsRemoteBase urlBase) (more : String) :
    isLocal (urlBase ++ more) = false := by
  rcases hbase with hcode | hstart
  · have hmore : Text.contains (Text.trim (urlBase ++ more)) "<?php" = true := by
      rw [contains_trim (by decide) (by decide)]
      rw [Text.contains, Text.occursIn_iff_infix] at hcode ⊢
      rw [String.toList_append]
      exact hcode.trans (List.prefix_append _ _).isInfix
    simp [isLocal, hmore]
  · obtain ⟨start, hmem, hstart⟩ := List.any_eq_true.1 hstart
    have hblank : ∀ start ∈ remoteStarts,
        start.toList ≠ [] ∧ start.toList.any Text.isBlank = false := by decide
    have hmore : remoteStarts.any
        (Text.startsWith (Text.lowerAscii (Text.trim (urlBase ++ more)))) = true :=
      List.any_eq_true.2 ⟨start, hmem,
        startsWith_trim_append (hblank start hmem).1 (hblank start hmem).2 hstart more⟩
    simp [isLocal, hmore]

theorem isLocal_placed (hbase : IsRemoteBase urlBase) (path : String) :
    isLocal (placed urlBase path) = false := by
  rw [placed, String.append_assoc]
  exact isLocal_append hbase _

/-! ### References in a directory -/

/-- **A base that is a directory**, without a query and without a fragment. -/
def IsDirectoryBase (urlBase : String) : Prop :=
  Text.endsWith urlBase "/" = true ∧ '?' ∉ urlBase.toList ∧ '#' ∉ urlBase.toList
  deriving Decidable

/-- A directory base with the directory for a file behind it ends in a slash. -/
theorem exists_directory (hbase : IsDirectoryBase urlBase) (file : String) :
    ∃ directory, (urlBase ++ subdirectory file).toList = directory ++ ['/'] ∧
      ∀ c ∈ directory, c ≠ '?' ∧ c ≠ '#' := by
  obtain ⟨hslash, hquery, hfragment⟩ := hbase
  have hfree : ∀ name : List Char, '?' ∉ name ∧ '#' ∉ name →
      ∀ c ∈ urlBase.toList ++ name, c ≠ '?' ∧ c ≠ '#' := by
    rintro name ⟨hmark, hhash⟩ c hc
    rw [List.mem_append] at hc
    constructor
    · rintro rfl
      exact hc.elim hquery hmark
    · rintro rfl
      exact hc.elim hfragment hhash
  rw [String.toList_append]
  rcases subdirectory_cases file with h | h | h
  · exact ⟨urlBase.toList ++ ['c', 's', 's'], by rw [h]; simp, hfree _ (by decide)⟩
  · exact ⟨urlBase.toList ++ ['j', 's'], by rw [h]; simp, hfree _ (by decide)⟩
  · obtain ⟨directory, hdirectory⟩ := List.isSuffixOf_iff_suffix.1 hslash
    refine ⟨directory, by rw [h, ← hdirectory]; simp, fun c hc => hfree [] (by decide) c ?_⟩
    rw [List.append_nil, ← hdirectory]
    exact List.mem_append_left _ hc

/-- **Behind a directory base, a reference is at its place.** -/
theorem placed_placed (hbase : IsDirectoryBase urlBase) (path : String) :
    placed urlBase (placed urlBase path) = placed urlBase path := by
  have hname : fileName (placed urlBase path) = fileName path := by
    obtain ⟨directory, hdirectory, hfree⟩ := exists_directory hbase (fileName path)
    rw [placed, ← String.ofList_toList (s := _ ++ _), String.toList_append, hdirectory,
      List.append_assoc]
    exact fileName_append hfree fun c hc => (mem_fileName hc).2
  rw [placed, hname, ← placed]

/-! ### The references of a redirected document -/

/-- The property `P` of the path in a reference, if this is local. -/
def IfLocal (P : String → Prop) (d : Document) (target : NodeId × String) : Prop :=
  ∀ path, localPath? d target = some path → P path

section

variable {P : String → Prop}

theorem attr?_setAttr_of_name_ne {other name : String} (h : other ≠ name) (n m : NodeId)
    (value : String) : (d.setAttr n name value).attr? other m = d.attr? other m := by
  rw [Document.attr?_eq_lookupAttr, Document.attr?_eq_lookupAttr, Document.setAttr,
    Document.attrs_setAttrs]
  split
  · next hm => rw [Document.lookupAttr_putAttr, if_neg h, hm.1]
  · rfl

/-- The reference that is set has the property if its new path has it. -/
theorem ifLocal_setAttr_self {target : NodeId × String} (hel : d.isElement target.1 = true)
    {value : String} (hvalue : isLocal value = true → P value) :
    IfLocal P (d.setAttr target.1 target.2 value) target := by
  intro path hpath
  rw [localPath?, attr?_setAttr hel, Option.filter_some] at hpath
  split at hpath
  · next hlocal =>
      obtain rfl := Option.some.inj hpath
      exact hvalue (Bool.and_eq_true_iff.1 hlocal).1
  · exact absurd hpath (by simp)

/-- **Setting a reference** keeps the property of all of them if its new path has it. -/
theorem ifLocal_setAttr {target other : NodeId × String} (h : IfLocal P d other)
    (hel : d.isElement target.1 = true) {value : String} (hvalue : isLocal value = true → P value) :
    IfLocal P (d.setAttr target.1 target.2 value) other := by
  by_cases hname : other.2 = target.2
  · by_cases hnode : other.1 = target.1
    · obtain rfl : other = target := Prod.ext hnode hname
      exact ifLocal_setAttr_self hel hvalue
    · intro path hpath
      rw [localPath?_setAttr_of_ne hnode] at hpath
      exact h path hpath
  · intro path hpath
    rw [localPath?, attr?_setAttr_of_name_ne hname] at hpath
    exact h path hpath

/-- What holds of the references at their place holds of all that were redirected, and stays. -/
theorem ifLocal_redirectAll (hplaced : ∀ path, isLocal (placed urlBase path) = true →
      P (placed urlBase path)) {targets : List (NodeId × String)} {found : List String}
    {target : NodeId × String} (h : target ∈ targets ∨ IfLocal P d target) :
    IfLocal P (redirectAll urlBase targets (d, found)).1 target := by
  induction targets generalizing d found with
  | nil => exact h.resolve_left List.not_mem_nil
  | cons first rest ih =>
      rw [redirectAll]
      split
      · next hnone =>
          refine ih ?_
          rcases h with h | h
          · rcases List.mem_cons.1 h with rfl | h
            · exact .inr fun path hpath => by simp [hnone] at hpath
            · exact .inl h
          · exact .inr h
      · next path hpath =>
          have hel := isElement_of_localPath? hpath
          refine ih ?_
          rcases h with h | h
          · rcases List.mem_cons.1 h with rfl | h
            · exact .inr (ifLocal_setAttr_self hel (hplaced path))
            · exact .inl h
          · exact .inr (ifLocal_setAttr h hel (hplaced path))

/-- Only references are set, so the same elements have them in the same attributes. -/
theorem targets_setAttr {n : NodeId} {name : String} (hname : name ≠ "rel") (value : String) :
    targets (d.setAttr n name value) = targets d := by
  have htag : ∀ m, (d.setAttr n name value).tag? m = d.tag? m := Document.tag?_setAttrs d n _
  have htarget : targetAttr? (d.setAttr n name value) = targetAttr? d := by
    funext m
    rw [targetAttr?, targetAttr?, Document.hasTagIn, Document.hasTagIn, Document.hasTag,
      Document.hasTag, htag, attr?_setAttr_of_name_ne hname.symm]
  rw [targets, targets, htarget, Document.setAttr, (Document.relabels_setAttrs ..).attached_eq]

theorem targets_redirectAll (urlBase : String) {targets : List (NodeId × String)}
    (htargets : ∀ target ∈ targets, target.2 ≠ "rel") (d : Document) (found : List String) :
    Assets.targets (redirectAll urlBase targets (d, found)).1 = Assets.targets d := by
  induction targets generalizing d found with
  | nil => rfl
  | cons target rest ih =>
      obtain ⟨hname, hrest⟩ := List.forall_mem_cons.1 htargets
      rw [redirectAll]
      split
      · exact ih hrest d found
      · rw [ih hrest, targets_setAttr hname]

/-- **The elements with references** stay the same. -/
theorem targets_redirect (urlBase : String) (d : Document) :
    targets (redirect urlBase d).1 = targets d := by
  refine targets_redirectAll urlBase (fun target htarget => ?_) d []
  obtain ⟨n, -, h⟩ := List.mem_filterMap.1 htarget
  obtain ⟨name, hname, rfl⟩ := Option.map_eq_some_iff.1 h
  have hmem := targetAttr?_mem hname
  intro hrel
  rw [show name = "rel" from hrel] at hmem
  exact absurd hmem (by decide)

/-- **The local references of a redirected document** have what all references at their place
have. -/
theorem ifLocal_redirect (hplaced : ∀ path, isLocal (placed urlBase path) = true →
      P (placed urlBase path)) (d : Document) :
    ∀ target ∈ targets (redirect urlBase d).1, IfLocal P (redirect urlBase d).1 target := by
  intro target htarget
  rw [targets_redirect] at htarget
  exact ifLocal_redirectAll hplaced (.inl htarget)

end

/-! ### Redirecting again -/

/-- Redirecting references that are at their place changes nothing. -/
theorem redirectAll_eq_self {targets : List (NodeId × String)}
    (h : ∀ target ∈ targets, IfLocal (fun path => placed urlBase path = path) d target)
    (found : List String) : (redirectAll urlBase targets (d, found)).1 = d := by
  induction targets generalizing found with
  | nil => rfl
  | cons target rest ih =>
      obtain ⟨htarget, hrest⟩ := List.forall_mem_cons.1 h
      rw [redirectAll]
      split
      · exact ih hrest found
      · next path hpath =>
          have hattr : d.attr? target.2 target.1 = some path := (Option.filter_eq_some_iff.1 hpath).1
          rw [htarget path hpath, Document.setAttr_eq_self hattr]
          exact ih hrest _

/-- Without local references nothing is found. -/
theorem redirectAll_of_remote {targets : List (NodeId × String)}
    (h : ∀ target ∈ targets, IfLocal (fun _ => False) d target) (found : List String) :
    redirectAll urlBase targets (d, found) = (d, found) := by
  induction targets with
  | nil => rfl
  | cons target rest ih =>
      obtain ⟨htarget, hrest⟩ := List.forall_mem_cons.1 h
      have hnone : localPath? d target = none := Option.eq_none_iff_forall_ne_some.2 htarget
      rw [redirectAll, hnone]
      exact ih hrest

/-- **Redirecting the references of a document twice** to a remote base or into a directory gives the
document that redirecting them once gives, and to a remote base nothing is found any more. -/
theorem redirect_redirect (urlBase : String) (hbase : IsRemoteBase urlBase ∨ IsDirectoryBase urlBase)
    (d : Document) :
    (redirect urlBase (redirect urlBase d).1).1 = (redirect urlBase d).1 ∧
      (IsRemoteBase urlBase → (redirect urlBase (redirect urlBase d).1).2 = []) := by
  have hremote : IsRemoteBase urlBase →
      redirect urlBase (redirect urlBase d).1 = ((redirect urlBase d).1, []) := by
    intro hbase
    refine redirectAll_of_remote (ifLocal_redirect (fun path hlocal => ?_) d) []
    rw [isLocal_placed hbase] at hlocal
    exact absurd hlocal (by simp)
  refine ⟨?_, fun hbase => by rw [hremote hbase]⟩
  rcases hbase with hbase | hbase
  · rw [hremote hbase]
  · exact redirectAll_eq_self (ifLocal_redirect (fun path _ => placed_placed hbase path) d) []

/-- An image that is redirected, to a base of each kind, and then stays. -/
theorem redirect_redirect_image :
    let d := Document.parse "<img src=' a.png?v=1'>"
    (redirect "/assets/" d).2 = [" a.png?v=1"] ∧ IsDirectoryBase "/assets/" ∧
      (redirect "/assets/" (redirect "/assets/" d).1).1 = (redirect "/assets/" d).1 ∧
      IsRemoteBase "<?php echo $base; ?>/" ∧
      (redirect "<?php echo $base; ?>/" (redirect "<?php echo $base; ?>/" d).1).2 = [] :=
  ⟨by decide +kernel, by decide, (redirect_redirect _ (.inr (by decide)) _).1, .inl (by decide),
    (redirect_redirect _ (.inl (.inl (by decide))) _).2 (.inl (by decide))⟩

end Assets

end ThemeCompiler
