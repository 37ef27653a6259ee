import Swtrust.Library.Result

set_option autoImplicit false

namespace Swtrust.Library

-- A stateful computation that may fail keeps the state it had reached when it failed, as a function
-- over `&mut` does. `Succeeds` inverts a run that ended well; `Keeps` is the frame rule for either end.

abbrev Action := EStateM

namespace Action

variable {ε σ τ υ α β : Type}

def final : EStateM.Result ε σ α → σ
  | .ok _ s => s
  | .error _ s => s

def ofExcept (result : Except ε α) : Action ε σ α := fun s =>
  match result with
  | .ok a => .ok a s
  | .error e => .error e s

instance : MonadLift (Except ε) (EStateM ε σ) := ⟨ofExcept⟩

def eval (action : Action ε σ α) (s : σ) : Except ε α :=
  match action s with
  | .ok a _ => .ok a
  | .error e _ => .error e

def withErr (f : ε → ε) (action : Action ε σ α) : Action ε σ α := fun s =>
  match action s with
  | .ok a s' => .ok a s'
  | .error e s' => .error (f e) s'

def zoom (get : σ → τ) (put : τ → σ → σ) (action : Action ε τ α) : Action ε σ α := fun s =>
  match action (get s) with
  | .ok a t => .ok a (put t s)
  | .error e t => .error e (put t s)

def Succeeds (action : Action ε σ α) (s : σ) (a : α) (s' : σ) : Prop := action s = .ok a s'

@[simp] theorem succeeds_pure (a b : α) (s s' : σ) : Succeeds (pure a : Action ε σ α) s b s' ↔ a = b ∧ s = s' := by
  simp [Succeeds, pure, EStateM.pure]

@[simp] theorem succeeds_throw (e : ε) (s s' : σ) (a : α) : ¬ Succeeds (throw e : Action ε σ α) s a s' := by
  intro ran
  have failed : (EStateM.Result.error e s : EStateM.Result ε σ α) = .ok a s' := ran
  cases failed

@[simp] theorem succeeds_get (s s' t : σ) : Succeeds (get : Action ε σ σ) s t s' ↔ t = s ∧ s' = s := by
  change (EStateM.Result.ok s s : EStateM.Result ε σ σ) = .ok t s' ↔ _
  rw [EStateM.Result.ok.injEq]
  exact ⟨fun both => ⟨both.1.symm, both.2.symm⟩, fun both => ⟨both.1.symm, both.2.symm⟩⟩

@[simp] theorem succeeds_set (s s' t : σ) (u : PUnit) : Succeeds (set t : Action ε σ PUnit) s u s' ↔ s' = t := by
  change (EStateM.Result.ok PUnit.unit t : EStateM.Result ε σ PUnit) = .ok u s' ↔ _
  rw [EStateM.Result.ok.injEq]
  exact ⟨fun both => both.2.symm, fun same => ⟨rfl, same.symm⟩⟩

@[simp] theorem succeeds_modify (f : σ → σ) (s s' : σ) (u : PUnit) :
    Succeeds (modify f : Action ε σ PUnit) s u s' ↔ s' = f s := by
  change (EStateM.Result.ok PUnit.unit (f s) : EStateM.Result ε σ PUnit) = .ok u s' ↔ _
  rw [EStateM.Result.ok.injEq]
  exact ⟨fun both => both.2.symm, fun same => ⟨rfl, same.symm⟩⟩

@[simp] theorem succeeds_of_except (result : Except ε α) (s s' : σ) (a : α) :
    Succeeds (ofExcept result : Action ε σ α) s a s' ↔ result = .ok a ∧ s = s' := by
  cases result <;> simp [Succeeds, ofExcept]

@[simp] theorem succeeds_lift (result : Except ε α) (s s' : σ) (a : α) :
    Succeeds (liftM result : Action ε σ α) s a s' ↔ result = .ok a ∧ s = s' :=
  succeeds_of_except result s s' a

theorem succeeds_bind (action : Action ε σ α) (next : α → Action ε σ β) (s s'' : σ) (b : β) :
    Succeeds (action >>= next) s b s'' ↔ ∃ a s', Succeeds action s a s' ∧ Succeeds (next a) s' b s'' := by
  simp only [Succeeds, bind, EStateM.bind]
  cases action s <;> simp

theorem succeeds_get_bind (next : σ → Action ε σ β) (s s' : σ) (b : β) :
    Succeeds (get >>= next) s b s' ↔ Succeeds (next s) s b s' :=
  Iff.rfl

-- A guard in the middle of a sequence.
theorem succeeds_guard (c : Prop) [Decidable c] (e : ε) (next : β → Action ε σ α) (rest : Action ε σ α)
    (s s' : σ) (a : α) : Succeeds (if c then throw e >>= next else rest) s a s' ↔ ¬ c ∧ Succeeds rest s a s' := by
  by_cases given : c
  · simp [given, succeeds_bind]
  · simp [given]

@[simp] theorem succeeds_with_err (f : ε → ε) (action : Action ε σ α) (s s' : σ) (a : α) :
    Succeeds (withErr f action) s a s' ↔ Succeeds action s a s' := by
  simp only [Succeeds, withErr]
  cases action s <;> simp

theorem succeeds_zoom (get : σ → τ) (put : τ → σ → σ) (action : Action ε τ α) (s s' : σ) (a : α) :
    Succeeds (zoom get put action) s a s' ↔ ∃ t, Succeeds action (get s) a t ∧ s' = put t s := by
  simp only [Succeeds, zoom]
  cases action (get s) <;> simp [eq_comm]

theorem succeeds_map (f : α → β) (action : Action ε σ α) (s s' : σ) (b : β) :
    Succeeds (f <$> action) s b s' ↔ ∃ a, Succeeds action s a s' ∧ f a = b := by
  simp only [Succeeds, Functor.map, EStateM.map]
  cases action s with
  | ok a t => simp only [EStateM.Result.ok.injEq]; exact ⟨fun ⟨l, r⟩ => ⟨a, ⟨rfl, r⟩, l⟩, fun ⟨_, ⟨l, r⟩, e⟩ => ⟨l ▸ e, r⟩⟩
  | error e t => simp

-- A test of a run that ends well.
def endsWith (action : Action ε σ α) (s : σ) (test : α → σ → Bool) : Bool :=
  match action s with
  | .ok a s' => test a s'
  | .error _ _ => false

theorem eval_is_ok (action : Action ε σ α) (s : σ) (a : α) : action.eval s = .ok a ↔ ∃ t, Succeeds action s a t := by
  unfold eval Succeeds
  cases action s <;> simp

theorem succeeds_of_ends_with (action : Action ε σ α) (s : σ) (test : α → σ → Bool)
    (ends : endsWith action s test = true) : ∃ a s', Succeeds action s a s' ∧ test a s' = true := by
  unfold endsWith at ends
  cases ran : action s with
  | ok a s' =>
      rw [ran] at ends
      exact ⟨a, s', ran, ends⟩
  | error e s' =>
      rw [ran] at ends
      cases ends

def failsWith (action : Action ε σ α) (s : σ) (test : ε → σ → Bool) : Bool :=
  match action s with
  | .ok _ _ => false
  | .error e s' => test e s'

theorem fails_of_fails_with (action : Action ε σ α) (s : σ) (test : ε → σ → Bool)
    (fails : failsWith action s test = true) : ∃ e s', action s = .error e s' ∧ test e s' = true := by
  unfold failsWith at fails
  cases ran : action s with
  | ok a s' =>
      rw [ran] at fails
      cases fails
  | error e s' =>
      rw [ran] at fails
      exact ⟨e, s', rfl, fails⟩

theorem run_get_bind (next : σ → Action ε σ β) (s : σ) : (get >>= next) s = next s s := rfl

theorem run_lift_bind (result : Except ε α) (next : α → Action ε σ β) (s : σ) :
    (liftM result >>= next : Action ε σ β) s =
      match result with
      | .ok a => next a s
      | .error e => .error e s := by
  cases result <;> rfl

theorem run_throw_bind (e : ε) (next : α → Action ε σ β) (s : σ) :
    ((throw e : Action ε σ α) >>= next) s = .error e s := rfl

def Keeps (view : σ → υ) (action : Action ε σ α) : Prop := ∀ s, view (final (action s)) = view s

theorem keeps_pure (view : σ → υ) (a : α) : Keeps view (pure a : Action ε σ α) := fun _ => rfl

theorem keeps_throw (view : σ → υ) (e : ε) : Keeps view (throw e : Action ε σ α) := fun _ => rfl

theorem keeps_of_except (view : σ → υ) (result : Except ε α) : Keeps view (ofExcept result : Action ε σ α) := by
  intro s
  cases result <;> rfl

theorem keeps_lift (view : σ → υ) (result : Except ε α) : Keeps view (liftM result : Action ε σ α) :=
  keeps_of_except view result

theorem keeps_get (view : σ → υ) : Keeps view (get : Action ε σ σ) := fun _ => rfl

theorem keeps_modify (view : σ → υ) (f : σ → σ) (same : ∀ s, view (f s) = view s) :
    Keeps view (modify f : Action ε σ PUnit) :=
  same

theorem keeps_bind (view : σ → υ) (action : Action ε σ α) (next : α → Action ε σ β)
    (first : Keeps view action) (second : ∀ a, Keeps view (next a)) : Keeps view (action >>= next) := by
  intro s
  have before := first s
  simp only [bind, EStateM.bind]
  cases ran : action s with
  | error e s' =>
      rw [ran] at before
      exact before
  | ok a s' =>
      rw [ran] at before
      exact (second a s').trans before

-- What follows an action may be left out of a view that it keeps.
theorem final_bind_of_keeps (view : σ → υ) (action : Action ε σ α) (next : α → Action ε σ β)
    (kept : ∀ a, Keeps view (next a)) (s : σ) : view (final ((action >>= next) s)) = view (final (action s)) := by
  simp only [bind, EStateM.bind]
  cases action s with
  | ok a s' => exact kept a s'
  | error e s' => rfl

theorem keeps_map (view : σ → υ) (f : α → β) (action : Action ε σ α) (kept : Keeps view action) :
    Keeps view (f <$> action) := by
  intro s
  have before := kept s
  simp only [Functor.map, EStateM.map]
  cases ran : action s <;> rw [ran] at before <;> exact before

theorem keeps_zoom (view : σ → υ) (get : σ → τ) (put : τ → σ → σ) (action : Action ε τ α)
    (same : ∀ t s, view (put t s) = view s) : Keeps view (zoom get put action) := by
  intro s
  simp only [zoom]
  cases action (get s) <;> exact same _ s

theorem keeps_ite (view : σ → υ) (c : Prop) [Decidable c] (yes no : Action ε σ α)
    (left : Keeps view yes) (right : Keeps view no) : Keeps view (if c then yes else no) := by
  split
  · exact left
  · exact right

theorem keeps_choice (view : σ → υ) (c : Prop) [Decidable c] (first second : Action ε σ α) (next : α → Action ε σ β)
    (left : Keeps view first) (right : Keeps view second) (rest : ∀ a, Keeps view (next a)) :
    Keeps view (if c then first >>= next else second >>= next) :=
  keeps_ite view c _ _ (keeps_bind view first next left rest) (keeps_bind view second next right rest)

def Moves (R : σ → σ → Prop) (action : Action ε σ α) : Prop := ∀ s a s', Succeeds action s a s' → R s s'

section

variable (R : σ → σ → Prop) (refl : ∀ s, R s s) (trans : ∀ s t u, R s t → R t u → R s u)

include refl in
theorem moves_pure (a : α) : Moves R (pure a : Action ε σ α) := by
  intro s b s' ran
  rw [succeeds_pure] at ran
  exact ran.2 ▸ refl s

include refl in
theorem moves_lift (result : Except ε α) : Moves R (liftM result : Action ε σ α) := by
  intro s a s' ran
  rw [succeeds_lift] at ran
  exact ran.2 ▸ refl s

include refl in
theorem moves_get : Moves R (get : Action ε σ σ) := by
  intro s a s' ran
  rw [succeeds_get] at ran
  exact ran.2 ▸ refl s

include trans in
theorem moves_bind (action : Action ε σ α) (next : α → Action ε σ β) (first : Moves R action)
    (second : ∀ a, Moves R (next a)) : Moves R (action >>= next) := by
  intro s b s'' ran
  obtain ⟨a, s', here, there⟩ := (succeeds_bind action next s s'' b).mp ran
  exact trans s s' s'' (first s a s' here) (second a s' b s'' there)

theorem moves_after_lift (result : Except ε α) (next : α → Action ε σ β)
    (rest : ∀ a, result = .ok a → Moves R (next a)) : Moves R (liftM result >>= next) := by
  intro s b s' ran
  obtain ⟨a, t, lifted, there⟩ := (succeeds_bind _ next s s' b).mp ran
  obtain ⟨read, same⟩ := (succeeds_lift result s t a).mp lifted
  subst same
  exact rest a read s b s' there

end

theorem keeps_succeeds (view : σ → υ) (action : Action ε σ α) (s s' : σ) (a : α) (kept : Keeps view action)
    (ran : Succeeds action s a s') : view s' = view s := by
  have same := kept s
  rw [show action s = _ from ran] at same
  exact same

end Action

end Swtrust.Library
