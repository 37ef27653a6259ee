import Mathlib.Tactic

set_option autoImplicit false

namespace Swtrust.Library

-- What a computation that may fail did when it succeeded.

variable {ε ε' α β : Type}

def found (result : Except ε α) (test : α → Bool) : Bool :=
  match result with
  | .ok a => test a
  | .error _ => false

theorem ok_of_found (result : Except ε α) (test : α → Bool) (passed : found result test = true) :
    ∃ a, result = .ok a ∧ test a = true := by
  cases result with
  | ok a => exact ⟨a, rfl, passed⟩
  | error e => cases passed

theorem bind_is_ok (result : Except ε α) (next : α → Except ε β) (b : β) :
    result >>= next = .ok b ↔ ∃ a, result = .ok a ∧ next a = .ok b := by
  cases result <;> simp [bind, Except.bind]

@[simp] theorem pure_is_ok (a b : α) : (pure a : Except ε α) = .ok b ↔ a = b := by
  simp [pure, Except.pure]

theorem map_is_ok (f : α → β) (result : Except ε α) (b : β) :
    f <$> result = .ok b ↔ ∃ a, result = .ok a ∧ f a = b := by
  cases result <;> simp [Functor.map, Except.map]

@[simp] theorem map_error_is_ok (f : ε → ε') (result : Except ε α) (a : α) :
    result.mapError f = .ok a ↔ result = .ok a := by
  cases result <;> simp [Except.mapError]

theorem refused_is_ok (c : Prop) [Decidable c] (e : ε) (rest : Except ε α) (a : α) :
    (if c then .error e else rest) = .ok a ↔ ¬ c ∧ rest = .ok a := by
  by_cases holds : c
  · simp [holds]
  · simp [holds]

theorem guarded_is_ok (c : Prop) [Decidable c] (e : ε) (rest : Except ε α) (a : α) :
    (if c then throw e else rest) = .ok a ↔ ¬ c ∧ rest = .ok a :=
  refused_is_ok c e rest a

-- A guard in the middle of a sequence.
theorem guarded_then_is_ok (c : Prop) [Decidable c] (e : ε) (next : β → Except ε α) (rest : Except ε α) (a : α) :
    (if c then (throw e : Except ε β) >>= next else rest) = .ok a ↔ ¬ c ∧ rest = .ok a :=
  refused_is_ok c e rest a

theorem skipped_is_ok (c : Prop) [Decidable c] (rest : Except ε Unit) :
    (if c then pure () else rest) = .ok () ↔ c ∨ rest = .ok () := by
  by_cases holds : c
  · simp [holds]
  · simp [holds]

end Swtrust.Library
