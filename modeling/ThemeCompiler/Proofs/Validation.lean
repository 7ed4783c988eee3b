/-
**What validation accepts, and what it reports.**

The rules are checked one after the other, and the first one that is broken is reported.  Each part
of the check settles its own rules: it goes through exactly when they are obeyed, and otherwise it
reports the first one of them that is not.  Parts that settle some rules each settle all of these in
a row, so the whole check is put together from them.  The checks of the identifiers and of the slugs
hand on what is taken; identifiers count in the whole forest, slugs in their scope.

Main definitions:

* `ThemeCompiler.ValidationRule.inOrder` — the rules in the order of the check;
* `ThemeCompiler.Validation.Obeys` — **what the rules say**;
* `ThemeCompiler.Validation.FirstBroken`, `ThemeCompiler.Validation.Settles` — the first rule that is
  broken, and a check that reports it.

Main results:

* `ThemeCompiler.Validation.rule_of_checkScope` — what can be wrong with the slugs of a scope;
* `ThemeCompiler.Validation.settles_checkDocument`, `ThemeCompiler.Validation.settles_check` — the
  parts of the check and the whole of it settle their rules;
* `ThemeCompiler.Validation.check_reports_first` — **a page passes exactly when it obeys all rules**,
  and otherwise the first broken one is reported.
-/

import ThemeCompiler.Proofs.Model.Identifiers
import ThemeCompiler.Proofs.Model.Scopes

set_option relaxedAutoImplicit false
set_option autoImplicit false

namespace ThemeCompiler

/-- **The rules in the order in which they are checked.** -/
def ValidationRule.inOrder : List ValidationRule :=
  [.mainLandmarkCount, .multipleH1, .clickablePrimitive, .fieldIdCollision, .slugCollision]

namespace Validation

open Field (preorderAll IsScope)

/-! ### The rules -/

/-- **What a rule says** of a document and the fields of its model. -/
def Obeys (d : Document) (fields : List Field) : ValidationRule → Prop
  | .mainLandmarkCount => d.attached.countP (d.hasTag "main") = 1
  | .multipleH1 => d.attached.countP (d.hasTag "h1") ≤ 1
  | .clickablePrimitive => ∀ n ∈ d.attached,
      d.hasTagIn ["div", "span", "p"] n = true → d.hasAttr "onclick" n = false
  | .fieldIdCollision => ((preorderAll fields).map (·.info.id)).Nodup
  | .slugCollision => ∀ fs, IsScope fields fs → WellNamed fs

/-- **The first rule of a list that is broken**: all before it are obeyed. -/
def FirstBroken (obeys : ValidationRule → Prop) (rules : List ValidationRule)
    (rule : ValidationRule) : Prop :=
  ∃ before after, rules = before ++ rule :: after ∧ (∀ q ∈ before, obeys q) ∧ ¬ obeys rule

/-- **A check that settles some rules**: it goes through only if all of them are obeyed, and else it
reports the first one that is broken. -/
def Settles (obeys : ValidationRule → Prop) (rules : List ValidationRule) :
    Except Violation Unit → Prop
  | .ok () => ∀ rule ∈ rules, obeys rule
  | .error violation => FirstBroken obeys rules violation.rule

variable {obeys : ValidationRule → Prop} {rules others : List ValidationRule}

theorem FirstBroken.append {rule : ValidationRule} (h : FirstBroken obeys rules rule)
    (others : List ValidationRule) : FirstBroken obeys (rules ++ others) rule := by
  obtain ⟨before, after, rfl, hbefore, hrule⟩ := h
  exact ⟨before, after ++ others, by rw [List.append_assoc, List.cons_append], hbefore, hrule⟩

theorem FirstBroken.after {rule : ValidationRule} (h : FirstBroken obeys others rule)
    (hrules : ∀ q ∈ rules, obeys q) : FirstBroken obeys (rules ++ others) rule := by
  obtain ⟨before, after, rfl, hbefore, hrule⟩ := h
  refine ⟨rules ++ before, after, (List.append_assoc ..).symm, ?_, hrule⟩
  rw [List.forall_mem_append]
  exact ⟨hrules, hbefore⟩

/-- **Checks in a row settle the rules of all of them.** -/
theorem Settles.bind {first second : Except Violation Unit} (h : Settles obeys rules first)
    (h' : Settles obeys others second) :
    Settles obeys (rules ++ others) (first >>= fun _ => second) := by
  cases first with
  | error violation => exact FirstBroken.append h others
  | ok _ =>
      cases second with
      | error violation => exact FirstBroken.after h' h
      | ok _ =>
          intro rule hrule
          exact (List.mem_append.1 hrule).elim (h rule) (h' rule)

/-- A check of one rule. -/
theorem settles_one {rule : ValidationRule} {result : Except Violation Unit}
    (hok : result = .ok () ↔ obeys rule)
    (hrule : ∀ violation, result = .error violation → violation.rule = rule) :
    Settles obeys [rule] result := by
  cases result with
  | ok _ => exact List.forall_mem_singleton.2 (hok.1 rfl)
  | error violation =>
      rw [Settles, hrule violation rfl]
      exact ⟨[], [], rfl, nofun, fun hobeys => nomatch hok.2 hobeys⟩

theorem Settles.eq_ok_iff {result : Except Violation Unit} (h : Settles obeys rules result) :
    result = .ok () ↔ ∀ rule ∈ rules, obeys rule := by
  cases result with
  | ok _ => exact iff_of_true rfl h
  | error violation =>
      obtain ⟨before, after, rfl, -, hbroken⟩ := h
      exact iff_of_false nofun fun hall => hbroken (hall _ (by simp))

/-! ### The parts of the check -/

variable {d : Document} {fields : List Field}

theorem any_clickable_iff :
    (d.elementsByTags Accessibility.primitiveTags).any (d.hasAttr "onclick") = true ↔
      ¬ Obeys d fields .clickablePrimitive := by
  rw [Obeys, List.any_eq_true]
  simp only [Document.elementsByTags, List.mem_filter, Accessibility.primitiveTags, not_forall,
    Bool.not_eq_false, exists_prop, and_assoc]

/-- **The check of the document settles the first three rules.** -/
theorem settles_checkDocument :
    Settles (Obeys d fields) [.mainLandmarkCount, .multipleH1, .clickablePrimitive]
      (checkDocument d) := by
  have hmains : (d.elementsByTag "main").length = d.attached.countP (d.hasTag "main") :=
    List.countP_eq_length_filter.symm
  have hh1s : (d.elementsByTag "h1").length = d.attached.countP (d.hasTag "h1") :=
    List.countP_eq_length_filter.symm
  rw [checkDocument, hmains, hh1s]
  split
  · next hmany =>
      exact ⟨[], _, rfl, nofun, fun h : d.attached.countP (d.hasTag "main") = 1 => by omega⟩
  split
  · next hnone =>
      exact ⟨[], _, rfl, nofun, fun h : d.attached.countP (d.hasTag "main") = 1 => by omega⟩
  next hmany hnone =>
  have hmain : Obeys d fields .mainLandmarkCount := by rw [Obeys]; omega
  split
  · next hh1 =>
      refine ⟨[.mainLandmarkCount], _, rfl, List.forall_mem_singleton.2 hmain, ?_⟩
      exact fun h : d.attached.countP (d.hasTag "h1") ≤ 1 => Nat.not_lt.2 h hh1
  next hh1 =>
  have hh1' : Obeys d fields .multipleH1 := Nat.le_of_not_lt hh1
  split
  · next hclick =>
      refine ⟨[.mainLandmarkCount, .multipleH1], [], rfl, ?_, any_clickable_iff.1 hclick⟩
      rw [List.forall_mem_cons, List.forall_mem_singleton]
      exact ⟨hmain, hh1'⟩
  · next hclick =>
      have hclick' : Obeys d fields .clickablePrimitive :=
        not_not.1 (mt any_clickable_iff.2 hclick)
      rw [Settles, List.forall_mem_cons, List.forall_mem_cons, List.forall_mem_singleton]
      exact ⟨hmain, hh1', hclick'⟩

theorem rule_of_checkIdsFrom {violation : Violation} : ∀ (fields : List Field)
    (taken : List String), checkIdsFrom fields taken = .error violation →
      violation.rule = .fieldIdCollision
  | [], _, h => by cases h
  | f :: rest, taken, h => by
      rw [checkIdsFrom] at h
      split at h
      · obtain rfl := Except.error.inj h
        rfl
      · exact rule_of_checkIdsFrom rest _ h

theorem rule_of_checkSlug {slug : String} {taken : List String} {violation : Violation}
    (h : checkSlug slug taken = .error violation) : violation.rule = .slugCollision := by
  rw [checkSlug] at h
  split at h
  · obtain rfl := Except.error.inj h
    rfl
  split at h
  · obtain rfl := Except.error.inj h
    rfl
  · cases h

mutual

private theorem rule_of_checkField {violation : Violation} : ∀ (f : Field) (taken : List String),
    checkField f taken = .error violation → violation.rule = .slugCollision
  | .mk info children, taken, h => by
      rw [checkField] at h
      cases hkind : info.kind with
      | container =>
          rw [hkind] at h
          exact rule_of_checkScope children taken h
      | repeater =>
          rw [hkind] at h
          rcases bind_eq_error_iff.1 h with hslug | ⟨_, -, h⟩
          · exact rule_of_checkSlug hslug
          rcases bind_eq_error_iff.1 h with hinside | ⟨_, -, h⟩
          · exact rule_of_checkScope children [] hinside
          · cases h
      | text | textarea | image | link | formField =>
          rw [hkind] at h
          rcases bind_eq_error_iff.1 h with hslug | ⟨_, -, h⟩
          · exact rule_of_checkSlug hslug
          · cases h

/-- **Only slugs can be wrong in a scope.** -/
theorem rule_of_checkScope {violation : Violation} : ∀ (fields : List Field)
    (taken : List String), checkScope fields taken = .error violation →
      violation.rule = .slugCollision
  | [], _, h => by cases h
  | f :: rest, taken, h => by
      rw [checkScope] at h
      rcases bind_eq_error_iff.1 h with hfirst | ⟨taken', -, hrest⟩
      · exact rule_of_checkField f taken hfirst
      · exact rule_of_checkScope rest taken' hrest

end

theorem settles_checkIds : Settles (Obeys d fields) [.fieldIdCollision] (checkIds fields) :=
  settles_one Model.checkIds_eq_ok_iff fun _ h => rule_of_checkIdsFrom _ [] h

theorem settles_checkSlugs : Settles (Obeys d fields) [.slugCollision] (checkSlugs fields) := by
  refine settles_one checkSlugs_eq_ok_iff fun violation h => ?_
  rcases bind_eq_error_iff.1 h with hscope | ⟨_, -, h⟩
  · exact rule_of_checkScope fields [] hscope
  · cases h

/-! ### The whole check -/

/-- **The check settles all rules.** -/
theorem settles_check (d : Document) (fields : List Field) :
    Settles (Obeys d fields) ValidationRule.inOrder (check d fields) :=
  settles_checkDocument.bind (settles_checkIds.bind settles_checkSlugs)

/-- **A page and its model pass the check exactly when all rules are obeyed**: one main landmark and
at most one heading of the first level are attached, no attached division, span or paragraph reacts
to clicks, all identifiers are different, and in every scope all slugs are different and not empty.
Otherwise the first rule that is broken is reported. -/
theorem check_reports_first (d : Document) (fields : List Field) :
    (check d fields = .ok () ↔ ∀ rule, Obeys d fields rule) ∧
      ∀ violation, check d fields = .error violation →
        FirstBroken (Obeys d fields) ValidationRule.inOrder violation.rule := by
  have hsettles := settles_check d fields
  constructor
  · rw [hsettles.eq_ok_iff]
    refine forall_congr' fun rule => ?_
    have hmem : rule ∈ ValidationRule.inOrder := by cases rule <;> decide
    exact imp_iff_right hmem
  · intro violation h
    rwa [h] at hsettles

end Validation

end ThemeCompiler
