/-
**Redirecting references is a run.**

Only elements that have the reference already get another value for it, so nothing but the two
attributes that refer to assets may change.  In a well-formed document every element is visited once,
so a local reference becomes the one to its place, and its old path is found.

Main definitions:

* `ThemeCompiler.Assets.referenceLicence` — what redirecting may change.

Main results:

* `ThemeCompiler.Assets.run_redirect` — **redirecting the references of a document is a run**;
* `ThemeCompiler.Assets.attr?_redirect`, `ThemeCompiler.Assets.mem_redirect` — what a reference becomes,
  and that its path is found;
* `ThemeCompiler.Assets.fileName_ne_empty` — every path that is found has a file name.
-/

import ThemeCompiler.Assets
import ThemeCompiler.Proofs.Document.Runs

set_option relaxedAutoImplicit false
set_option autoImplicit false

namespace ThemeCompiler

open Document (Licence Run Step)

namespace Assets

variable {d : Document}

/-- References to assets may be set. -/
def referenceLicence : Licence := ⟨[], ["src", "href"], [], false⟩

theorem targetAttr?_mem {n : NodeId} {name : String} (h : targetAttr? d n = some name) :
    name ∈ referenceLicence.sets := by
  rw [targetAttr?] at h
  split at h
  · cases h
    decide
  · split at h
    · cases h
      decide
    · exact absurd h (by simp)

/-- What is redirected is a reference of an element. -/
theorem isElement_of_localPath? {target : NodeId × String} {path : String}
    (h : localPath? d target = some path) : d.isElement target.1 = true := by
  have hattr : d.attr? target.2 target.1 = some path := (Option.filter_eq_some_iff.1 h).1
  by_contra hel
  rw [Document.attr?_eq_lookupAttr, Document.attrs_of_not_isElement (by simpa using hel)] at hattr
  exact absurd hattr (by simp [Document.lookupAttr])

theorem run_redirectAll (urlBase : String) {targets : List (NodeId × String)}
    (htargets : ∀ target ∈ targets, target.1 ∈ d.attached ∧ target.2 ∈ referenceLicence.sets)
    (found : List String) : Run referenceLicence d (redirectAll urlBase targets (d, found)).1 := by
  induction targets generalizing d found with
  | nil => exact Run.refl
  | cons target rest ih =>
      have hrest := fun other hother => htargets other (List.mem_cons_of_mem target hother)
      obtain ⟨hmem, hname⟩ := htargets target List.mem_cons_self
      rw [redirectAll]
      split
      · exact ih hrest found
      · next path hpath =>
          have hstep : Step referenceLicence d
              (d.setAttr target.1 target.2 (placed urlBase path)) :=
            Step.setAttrs hmem (isElement_of_localPath? hpath) (Licence.allows_putAttr hname ..)
          -- setting an attribute attaches and detaches nothing
          refine (Run.single hstep).trans (ih (fun other hother => ?_) _)
          rw [Document.setAttr, (Document.relabels_setAttrs ..).attached_eq]
          exact hrest other hother

/-- **Redirecting the references of a document is a run.** -/
theorem run_redirect (urlBase : String) (d : Document) :
    Run referenceLicence d (redirect urlBase d).1 := by
  refine run_redirectAll urlBase (fun target htarget => ?_) []
  obtain ⟨n, hn, h⟩ := List.mem_filterMap.1 htarget
  obtain ⟨name, hname, rfl⟩ := Option.map_eq_some_iff.1 h
  exact ⟨hn, targetAttr?_mem hname⟩

/-! ### Redirected references -/

theorem attr?_setAttr_of_ne {n m : NodeId} (h : m ≠ n) (name value other : String) :
    (d.setAttr n name value).attr? other m = d.attr? other m :=
  Document.attr?_congr (Document.attrs_congr (Document.value?_setAttrs_of_ne d _ h)) other

theorem attr?_setAttr {n : NodeId} (h : d.isElement n = true) (name value : String) :
    (d.setAttr n name value).attr? name n = some value := by
  rw [Document.attr?_eq_lookupAttr, Document.setAttr, Document.attrs_setAttrs, if_pos ⟨rfl, h⟩,
    Document.lookupAttr_putAttr, if_pos rfl]

/-- A reference is redirected independently of those of other elements. -/
theorem localPath?_setAttr_of_ne {n : NodeId} {target : NodeId × String} (h : target.1 ≠ n)
    (name value : String) : localPath? (d.setAttr n name value) target = localPath? d target := by
  rw [localPath?, localPath?, attr?_setAttr_of_ne h]

/-- What is not among the references stays. -/
theorem attr?_redirectAll_of_notMem (urlBase : String) {targets : List (NodeId × String)} {n : NodeId}
    (hn : n ∉ targets.map Prod.fst) (d : Document) (found : List String) (name : String) :
    (redirectAll urlBase targets (d, found)).1.attr? name n = d.attr? name n := by
  induction targets generalizing d found with
  | nil => rfl
  | cons target rest ih =>
      rw [List.map_cons, List.mem_cons, not_or] at hn
      rw [redirectAll]
      split
      · exact ih hn.2 d found
      · exact (ih hn.2 _ _).trans (attr?_setAttr_of_ne hn.1 ..)

/-- What was found stays found. -/
theorem subset_redirectAll (urlBase : String) (targets : List (NodeId × String)) (d : Document)
    (found : List String) : found ⊆ (redirectAll urlBase targets (d, found)).2 := by
  induction targets generalizing d found with
  | nil => exact List.Subset.refl found
  | cons target rest ih =>
      rw [redirectAll]
      split
      · exact ih d found
      · refine List.Subset.trans ?_ (ih _ _)
        split
        · exact List.Subset.refl found
        · exact List.subset_append_left found _

/-- A reference becomes the one to its place, and its path is found. -/
theorem redirectAll_of_mem (urlBase : String) {targets : List (NodeId × String)}
    (hnodup : (targets.map Prod.fst).Nodup) {target : NodeId × String} (htarget : target ∈ targets)
    {path : String} (hpath : localPath? d target = some path) (found : List String) :
    (redirectAll urlBase targets (d, found)).1.attr? target.2 target.1 =
        some (placed urlBase path) ∧
      path ∈ (redirectAll urlBase targets (d, found)).2 := by
  induction targets generalizing d found with
  | nil => exact absurd htarget List.not_mem_nil
  | cons first rest ih =>
      obtain ⟨hfirst, hrest⟩ := List.nodup_cons.1 hnodup
      rw [redirectAll]
      rcases List.mem_cons.1 htarget with rfl | htarget
      · -- the others are other elements, so they leave this one as it is
        simp only [hpath]
        rw [attr?_redirectAll_of_notMem urlBase hfirst]
        refine ⟨attr?_setAttr (isElement_of_localPath? hpath) .., subset_redirectAll urlBase rest _ _ ?_⟩
        split
        · next hfound => exact List.contains_iff_mem.1 hfound
        · exact List.mem_append_right found List.mem_cons_self
      · have hne : target.1 ≠ first.1 := by
          intro heq
          exact hfirst (heq ▸ List.mem_map_of_mem htarget)
        split
        · exact ih hrest htarget hpath found
        · exact ih hrest htarget ((localPath?_setAttr_of_ne hne ..).trans hpath) _

theorem nodup_targets (hd : d.WellFormed) : ((targets d).map Prod.fst).Nodup := by
  have hfst : (targets d).map Prod.fst = d.attached.filter fun n => (targetAttr? d n).isSome := by
    rw [targets, List.map_filterMap, ← List.filterMap_eq_filter]
    refine List.filterMap_congr fun n _ => ?_
    cases h : targetAttr? d n <;> simp [Option.guard, h]
  rw [hfst]
  exact hd.nodup_attached.filter _

/-- **A local reference becomes the one to its place.** -/
theorem attr?_redirect (hd : d.WellFormed) (urlBase : String) {n : NodeId} {name path : String}
    (h : (n, name) ∈ targets d) (hpath : localPath? d (n, name) = some path) :
    (redirect urlBase d).1.attr? name n = some (placed urlBase path) :=
  (redirectAll_of_mem urlBase (nodup_targets hd) h hpath []).1

/-- **The path of a local reference is found.** -/
theorem mem_redirect (hd : d.WellFormed) (urlBase : String) {target : NodeId × String} {path : String}
    (h : target ∈ targets d) (hpath : localPath? d target = some path) :
    path ∈ (redirect urlBase d).2 :=
  (redirectAll_of_mem urlBase (nodup_targets hd) h hpath []).2

theorem fileName_redirectAll (urlBase : String) {targets : List (NodeId × String)}
    {found : List String} (hfound : ∀ path ∈ found, fileName path ≠ "") :
    ∀ path ∈ (redirectAll urlBase targets (d, found)).2, fileName path ≠ "" := by
  induction targets generalizing d found with
  | nil => exact hfound
  | cons target rest ih =>
      rw [redirectAll]
      split
      · exact ih hfound
      · next path hpath =>
          refine ih ?_
          split
          · exact hfound
          · have hlocal := (Option.filter_eq_some_iff.1 hpath).2
            rw [Bool.and_eq_true, Bool.not_eq_true', ← Bool.not_eq_true, String.isEmpty_iff] at hlocal
            rw [List.forall_mem_append, List.forall_mem_singleton]
            exact ⟨hfound, hlocal.2⟩

/-- **Every path that is found has a file name.** -/
theorem fileName_ne_empty (urlBase : String) (d : Document) :
    ∀ path ∈ (redirect urlBase d).2, fileName path ≠ "" :=
  fileName_redirectAll urlBase (by simp)

end Assets

end ThemeCompiler
