import Swtrust.Library.Action

set_option autoImplicit false

-- One run foretells another when, from related states, whenever the first succeeds the second succeeds too and ends
-- in a related state.

namespace Swtrust.Library.Action

variable {ε σ τ α β γ δ : Type} (R : σ → τ → Prop)

def Foretells (Q : α → β → Prop) (action : Action ε σ α) (other : Action ε τ β) : Prop :=
  ∀ s t a s', R s t → Succeeds action s a s' → ∃ b t', Succeeds other t b t' ∧ R s' t' ∧ Q a b

theorem foretells_pure (Q : α → β → Prop) (a : α) (b : β) (related : Q a b) :
    Foretells R Q (pure a : Action ε σ α) (pure b : Action ε τ β) := by
  intro s t c s' close ran
  rw [succeeds_pure] at ran
  obtain ⟨rfl, rfl⟩ := ran
  exact ⟨b, t, (succeeds_pure b b t t).mpr ⟨rfl, rfl⟩, close, related⟩

theorem foretells_bind (Q : α → β → Prop) (P : γ → δ → Prop) (action : Action ε σ α) (other : Action ε τ β)
    (next : α → Action ε σ γ) (follow : β → Action ε τ δ) (first : Foretells R Q action other)
    (rest : ∀ a b, Q a b → Foretells R P (next a) (follow b)) :
    Foretells R P (action >>= next) (other >>= follow) := by
  intro s t c s'' close ran
  rw [succeeds_bind] at ran
  obtain ⟨a, s', here, there⟩ := ran
  obtain ⟨b, t', ran', close', related⟩ := first s t a s' close here
  obtain ⟨d, t'', ran'', close'', related'⟩ := rest a b related s' t' c s'' close' there
  exact ⟨d, t'', (succeeds_bind _ _ _ _ _).mpr ⟨b, t', ran', ran''⟩, close'', related'⟩

-- Each run reads a value from outside its state; where the first finds one the second does.
theorem foretells_lift (P : γ → δ → Prop) (result : Except ε α) (other : Except ε β) (next : α → Action ε σ γ)
    (follow : β → Action ε τ δ)
    (rest : ∀ a, result = .ok a → ∃ b, other = .ok b ∧ Foretells R P (next a) (follow b)) :
    Foretells R P (liftM result >>= next) (liftM other >>= follow) := by
  intro s t c s'' close ran
  rw [succeeds_bind] at ran
  obtain ⟨a, s', lifted, there⟩ := ran
  rw [succeeds_lift] at lifted
  obtain ⟨read, rfl⟩ := lifted
  obtain ⟨b, found, foretold⟩ := rest a read
  obtain ⟨d, t'', ran'', close'', related⟩ := foretold s t c s'' close there
  refine ⟨d, t'', (succeeds_bind _ _ _ _ _).mpr ⟨b, t, ?_, ran''⟩, close'', related⟩
  rw [succeeds_lift]
  exact ⟨found, rfl⟩

theorem foretells_same (P : γ → δ → Prop) (result : Except ε α) (next : α → Action ε σ γ) (follow : α → Action ε τ δ)
    (rest : ∀ a, result = .ok a → Foretells R P (next a) (follow a)) :
    Foretells R P (liftM result >>= next) (liftM result >>= follow) :=
  foretells_lift R P result result next follow fun a read => ⟨a, read, rest a read⟩

theorem foretells_get (P : γ → δ → Prop) (next : σ → Action ε σ γ) (follow : τ → Action ε τ δ)
    (rest : ∀ s t, R s t → Foretells R P (next s) (follow t)) : Foretells R P (get >>= next) (get >>= follow) := by
  intro s t c s' close ran
  exact rest s t close s t c s' close ran

theorem foretells_modify (f : σ → σ) (g : τ → τ) (keeps : ∀ s t, R s t → R (f s) (g t)) :
    Foretells R (fun _ _ => True) (modify f : Action ε σ PUnit) (modify g : Action ε τ PUnit) := by
  intro s t u s' close ran
  rw [succeeds_modify] at ran
  refine ⟨u, g t, (succeeds_modify _ _ _ _).mpr rfl, ?_, trivial⟩
  rw [ran]
  exact keeps s t close

end Swtrust.Library.Action
