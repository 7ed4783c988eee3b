/-
**Keys of a field group.**

The key of a field is the key around it and its slug, with an underscore between them.  Such a path
tells nothing about where one slug ends and the next one begins, so that fields at different depths
can come to the same key; the later one gets a number then, and a repeater with a number hands it on
to the keys below.  All keys of a group are taken one after the other from the same list: a repeater
takes its own key first, and what is inside of it goes on from there.  That is why they differ,
whatever the slugs are.

Main definitions:

* `ThemeCompiler.GroupField.keys` — the keys of some fields and of all that is below them;
* `ThemeCompiler.FieldGroup.Keyed` — **group fields beside the fields of a scope**, with keys below a
  key.

Main results:

* `ThemeCompiler.FieldGroup.issues_ofFields` — the fields for a forest are keyed, and take their keys;
* `ThemeCompiler.FieldGroup.keys_generate` — **the keys of a group**.
-/

import ThemeCompiler.FieldGroup
import ThemeCompiler.Proofs.Model.Scopes

set_option relaxedAutoImplicit false
set_option autoImplicit false

namespace ThemeCompiler

/-! ### The keys of fields -/

namespace GroupField

mutual

/-- The key of a field, and those of its sub-fields. -/
def ownKeys : GroupField → List String
  | .mk head _ none => [head.key]
  | .mk head _ (some sub) => head.key :: keys sub

/-- **The keys of some fields and of all their sub-fields**, each before those below it. -/
def keys : List GroupField → List String
  | [] => []
  | f :: rest => ownKeys f ++ keys rest

end

theorem keys_append (fields others : List GroupField) :
    keys (fields ++ others) = keys fields ++ keys others := by
  induction fields with
  | nil => rfl
  | cons f rest ih => rw [List.cons_append, keys, keys, ih, List.append_assoc]

theorem keys_singleton (f : GroupField) : keys [f] = f.ownKeys := by
  rw [keys, keys, List.append_nil]

end GroupField

namespace FieldGroup

open Field (inScope scope)
open GroupField (keys ownKeys keys_append keys_singleton)
open Naming (Takes numbered takes_nil takes_append takes_singleton takes_fresh)

/-- **A key below another one**: that one, an underscore and the slug, and perhaps a number from 2
on. -/
def IsKeyBelow (around slug key : String) : Prop :=
  key = around ++ "_" ++ slug ∨ ∃ n, 2 ≤ n ∧ key = numbered (around ++ "_" ++ slug) n

theorem isKeyBelow_keyFor (around slug : String) (taken : List String) :
    IsKeyBelow around slug (keyFor around slug taken) :=
  Naming.fresh_cases _ taken

/-- **Group fields beside the fields of a scope**, with keys below a key: each has the slug of its
field for a name, and exactly the repeaters have sub-fields, which are beside the fields of the scope
inside and have keys below that of the repeater. -/
inductive Keyed : String → List Field → List GroupField → Prop
  | nil {around : String} : Keyed around [] []
  | repeater {around : String} {info : FieldInfo} {children rest : List Field} {head : FieldHead}
      {settings : FieldSettings} {sub others : List GroupField} :
      info.kind = .repeater → head.name = info.slug → IsKeyBelow around info.slug head.key →
      Keyed head.key (scope children) sub → Keyed around rest others →
      Keyed around (.mk info children :: rest) (.mk head settings (some sub) :: others)
  | leaf {around : String} {info : FieldInfo} {children rest : List Field} {head : FieldHead}
      {settings : FieldSettings} {others : List GroupField} :
      info.kind ≠ .repeater → head.name = info.slug → IsKeyBelow around info.slug head.key →
      Keyed around rest others →
      Keyed around (.mk info children :: rest) (.mk head settings none :: others)

theorem Keyed.append {around : String} {fields fields' : List Field}
    {groups groups' : List GroupField} (h : Keyed around fields groups)
    (h' : Keyed around fields' groups') : Keyed around (fields ++ fields') (groups ++ groups') := by
  induction h with
  | nil => exact h'
  | repeater hkind hname hkey hsub _ _ ih => exact .repeater hkind hname hkey hsub (ih h')
  | leaf hkind hname hkey _ ih => exact .leaf hkind hname hkey (ih h')

/-! ### How keys are issued -/

/-- **What is made of the fields of a scope** below a key, when some keys are taken in the group:
group fields beside them, and their keys are taken in addition. -/
structure Issues (around : String) (fields : List Field) (taken : List String)
    (made : List GroupField × List String) : Prop where
  keyed : Keyed around fields made.1
  takes : Takes (keys made.1) taken made.2

namespace Issues

variable {around : String} {taken : List String}

theorem nil : Issues around [] taken ([], taken) := ⟨.nil, takes_nil.2 rfl⟩

theorem append {fields fields' : List Field} {made made' : List GroupField × List String}
    (h : Issues around fields taken made) (h' : Issues around fields' made.2 made') :
    Issues around (fields ++ fields') taken (made.1 ++ made'.1, made'.2) := by
  refine ⟨h.keyed.append h'.keyed, ?_⟩
  rw [keys_append, takes_append]
  exact ⟨made.2, h.takes, h'.takes⟩

variable {info : FieldInfo} {children : List Field} {settings : FieldSettings}

theorem leaf (hkind : info.kind ≠ .repeater) :
    let key := keyFor around info.slug taken
    Issues around [.mk info children] taken
      ([.mk (headOf info key) settings none], key :: taken) := by
  intro key
  refine ⟨.leaf hkind rfl (isKeyBelow_keyFor around info.slug taken) .nil, ?_⟩
  rw [keys_singleton, ownKeys]
  exact takes_fresh _ taken

/-- The key of a repeater is taken before those below it. -/
theorem repeater (hkind : info.kind = .repeater) {made : List GroupField × List String} :
    let key := keyFor around info.slug taken
    Issues key (scope children) (key :: taken) made →
      Issues around [.mk info children] taken
        ([.mk (headOf info key) settings (some made.1)], made.2) := by
  intro key h
  refine ⟨.repeater hkind rfl (isKeyBelow_keyFor around info.slug taken) h.keyed .nil, ?_⟩
  rw [keys_singleton, ownKeys, ← List.singleton_append, takes_append]
  exact ⟨key :: taken, takes_fresh _ taken, h.takes⟩

end Issues

mutual

/-- What is made of a field. -/
theorem issues_ofField : ∀ (around : String) (f : Field) (taken : List String),
    Issues around (inScope f) taken (ofField around f taken)
  | around, .mk info children, taken => by
      rw [ofField]
      -- containers are transparent, repeaters open a scope, all else is a leaf
      cases hkind : info.kind with
      | container =>
          rw [Field.inScope_container hkind]
          exact issues_ofFields around children taken
      | repeater =>
          rw [Field.inScope_of_ne (by simp [hkind])]
          exact .repeater hkind (issues_ofFields _ children _)
      | text | textarea | image | link | formField =>
          rw [Field.inScope_of_ne (by simp [hkind])]
          exact .leaf (by simp [hkind])

/-- **What is made of a forest** is keyed scope by scope, and takes its keys. -/
theorem issues_ofFields : ∀ (around : String) (fields : List Field) (taken : List String),
    Issues around (scope fields) taken (ofFields around fields taken)
  | _, [], _ => .nil
  | around, f :: rest, taken => by
      rw [ofFields, scope]
      exact (issues_ofField around f taken).append (issues_ofFields around rest _)

end

/-! ### The keys of a group -/

/-- **The keys of a group**, at all depths, are different, and each is below that of the repeater
around it or, outermost, below `field`.  The search for a number ends at the first one that gives a
free key. -/
theorem keys_generate (fields : List Field) (name slug : String) (kind : TemplateKind) :
    (keys (generate fields name slug kind).fields).Nodup ∧
      Keyed "field" (scope fields) (generate fields name slug kind).fields ∧
      ∀ (around own : String) (taken : List String), around ++ "_" ++ own ∈ taken → ∃ n,
        IsLeast {n | 2 ≤ n ∧ numbered (around ++ "_" ++ own) n ∉ taken} n ∧
          keyFor around own taken = numbered (around ++ "_" ++ own) n := by
  have hissues := issues_ofFields "field" fields []
  exact ⟨hissues.takes.nodup, hissues.keyed, fun _ _ _ => Naming.fresh_eq_numbered⟩

/-- A path that two fields share, and a key below the one that got a number. -/
example :
    let leaf := Field.new .text "p" ""
    let rows := fun slug children => (Field.new .repeater "ul" "" slug).withChildren children
    let fields := [rows "a" [leaf "b"], rows "a_b" [leaf "c"], leaf "a_b_2_c"]
    keys (generate fields "" "" .fragment).fields =
      ["field_a", "field_a_b", "field_a_b_2", "field_a_b_2_c", "field_a_b_2_c_2"] := by
  decide

end FieldGroup

end ThemeCompiler
