/-
**Attempts that went well.**

A sequence of steps that may fail gives a result when every step gives one, and otherwise fails as
the first step does that gives none.

Main results:

* `ThemeCompiler.bind_eq_ok_iff`, `ThemeCompiler.bind_eq_error_iff`, `ThemeCompiler.map_eq_ok_iff`,
  `ThemeCompiler.mapError_eq_ok_iff` — **what a result tells of the steps before it**.
-/

set_option relaxedAutoImplicit false
set_option autoImplicit false

namespace ThemeCompiler

variable {ε α β : Type}

/-- **A sequence gives a result** when its first step does and what follows does with that. -/
theorem bind_eq_ok_iff {first : Except ε α} {next : α → Except ε β} {result : β} :
    first >>= next = .ok result ↔ ∃ a, first = .ok a ∧ next a = .ok result := by
  cases first with
  | error e => exact ⟨fun h => (nomatch h), fun ⟨_, h, _⟩ => (nomatch h)⟩
  | ok a => exact ⟨fun h => ⟨a, rfl, h⟩, fun ⟨_, h, h'⟩ => Except.ok.inj h ▸ h'⟩

/-- **A sequence fails** when its first step does, or what follows does with the result of that. -/
theorem bind_eq_error_iff {first : Except ε α} {next : α → Except ε β} {e : ε} :
    first >>= next = .error e ↔ first = .error e ∨ ∃ a, first = .ok a ∧ next a = .error e := by
  cases first with
  | error e' =>
      exact ⟨fun h => Or.inl (congrArg Except.error (Except.error.inj h)), fun h =>
        h.elim (fun h => congrArg Except.error (Except.error.inj h)) fun ⟨_, h, _⟩ => (nomatch h)⟩
  | ok a =>
      exact ⟨fun h => Or.inr ⟨a, rfl, h⟩, fun h =>
        h.elim (fun h => (nomatch h)) fun ⟨_, h, h'⟩ => Except.ok.inj h ▸ h'⟩

theorem map_eq_ok_iff {first : Except ε α} {f : α → β} {result : β} :
    first.map f = .ok result ↔ ∃ a, first = .ok a ∧ f a = result := by
  cases first with
  | error e => exact ⟨fun h => (nomatch h), fun ⟨_, h, _⟩ => (nomatch h)⟩
  | ok a =>
      exact ⟨fun h => ⟨a, rfl, Except.ok.inj h⟩, fun ⟨_, h, h'⟩ => by
        rw [← h', ← Except.ok.inj h]
        rfl⟩

theorem mapError_eq_ok_iff {ε' : Type} {first : Except ε α} {f : ε → ε'} {result : α} :
    first.mapError f = .ok result ↔ first = .ok result := by
  cases first with
  | error e => exact ⟨fun h => (nomatch h), fun h => (nomatch h)⟩
  | ok a => exact ⟨fun h => congrArg Except.ok (Except.ok.inj h), fun h => h ▸ rfl⟩

end ThemeCompiler
