import Swtrust.Library.Triple

set_option autoImplicit false
set_option linter.unusedSectionVars false

namespace Swtrust.Library.Action

-- What a computation does to the state, as a relation between the state it finds and the one it leaves, however it ends.
-- A relation that is reflexive and transitive goes through sequences.

variable {ε σ τ υ α β : Type}

theorem run_set_bind (t : σ) (next : PUnit → Action ε σ α) (s : σ) : (set t >>= next) s = next ⟨⟩ t := rfl

theorem run_modify_bind (f : σ → σ) (next : PUnit → Action ε σ α) (s : σ) : (modify f >>= next) s = next ⟨⟩ (f s) := rfl

theorem final_map (f : α → β) (action : Action ε σ α) (s : σ) : final ((f <$> action) s) = final (action s) := by
  simp only [Functor.map, EStateM.map]
  cases action s <;> rfl

-- What holds of the state a sequence leaves, by the end of its first part.
theorem final_bind (holds : σ → Prop) (action : Action ε σ β) (next : β → Action ε σ α) (s : σ)
    (ended : ∀ b t, action s = .ok b t → holds (final (next b t))) (failed : ∀ e t, action s = .error e t → holds t) :
    holds (final ((action >>= next) s)) := by
  simp only [bind, EStateM.bind]
  cases ran : action s with
  | ok b t => exact ended b t ran
  | error e t => exact failed e t ran

theorem final_lift_bind (holds : σ → Prop) (result : Except ε β) (next : β → Action ε σ α) (s : σ) (here : holds s)
    (ended : ∀ b, result = .ok b → holds (final (next b s))) : holds (final ((liftM result >>= next : Action ε σ α) s)) := by
  rw [run_lift_bind]
  cases result with
  | ok b => exact ended b rfl
  | error e => exact here

theorem keeps_lift_bind (view : σ → υ) (result : Except ε β) (next : β → Action ε σ α)
    (rest : ∀ b, Keeps view (next b)) : Keeps view (liftM result >>= next) :=
  keeps_bind view _ _ (keeps_lift view result) rest

-- A view of the part of the state an action is about.
theorem keeps_zoom_inner (view : σ → υ) (inner : τ → υ) (get : σ → τ) (put : τ → σ → σ) (action : Action ε τ α)
    (seen : ∀ t s, view (put t s) = inner t) (read : ∀ s, view s = inner (get s)) (kept : Keeps inner action) :
    Keeps view (zoom get put action) := by
  intro s
  have here := kept (get s)
  unfold zoom
  cases ran : action (get s) with
  | ok a t =>
      rw [ran] at here
      exact (seen t s).trans (here.trans (read s).symm)
  | error e t =>
      rw [ran] at here
      exact (seen t s).trans (here.trans (read s).symm)

def Guarantees (relation : σ → σ → Prop) (action : Action ε σ α) : Prop := ∀ s, relation s (final (action s))

-- To leave the state alone is to follow the relation.
def Idle (relation : σ → σ → Prop) : Prop := ∀ s, relation s s

structure Steady (relation : σ → σ → Prop) : Prop where
  refl : Idle relation
  trans : ∀ s t u, relation s t → relation t u → relation s u

-- An invariant is preserved.
theorem steady_of_invariant (invariant : σ → Prop) : Steady fun s t => invariant s → invariant t where
  refl _ := id
  trans _ _ _ first second := second ∘ first

theorem steady_of_view (view : σ → υ) : Steady fun s t => view t = view s where
  refl _ := rfl
  trans _ _ _ first second := second.trans first

theorem keeps_iff_guarantees (view : σ → υ) (action : Action ε σ α) :
    Keeps view action ↔ Guarantees (fun s t => view t = view s) action := Iff.rfl

section

variable {relation : σ → σ → Prop} (refl : Idle relation)

include refl

theorem guarantees_pure (a : α) : Guarantees relation (pure a : Action ε σ α) := refl

theorem guarantees_throw (e : ε) : Guarantees relation (throw e : Action ε σ α) := refl

theorem guarantees_lift (result : Except ε α) : Guarantees relation (liftM result : Action ε σ α) := by
  intro s
  cases result <;> exact refl s

theorem guarantees_lift_bind (result : Except ε β) (next : β → Action ε σ α)
    (rest : ∀ b, result = .ok b → Guarantees relation (next b)) : Guarantees relation (liftM result >>= next) := by
  intro s
  rw [run_lift_bind]
  cases result with
  | ok b => exact rest b rfl s
  | error e => exact refl s

-- A guard in the middle of a sequence.
theorem guarantees_guard (c : Prop) [Decidable c] (e : ε) (next : β → Action ε σ α) (rest : Action ε σ α)
    (ensured : ¬ c → Guarantees relation rest) :
    Guarantees relation (if c then throw e >>= next else rest) := by
  by_cases given : c
  · rw [if_pos given]
    exact refl
  · rw [if_neg given]
    exact ensured given

end

section

variable {relation : σ → σ → Prop} (steady : Steady relation)

include steady

-- The second part knows what the first may give.
theorem guarantees_bind_known (action : Action ε σ β) (next : β → Action ε σ α) (first : Guarantees relation action)
    (second : ∀ s b t, Succeeds action s b t → Guarantees relation (next b)) : Guarantees relation (action >>= next) := by
  intro s
  have here := first s
  simp only [bind, EStateM.bind]
  cases ran : action s with
  | ok b t =>
      rw [ran] at here
      exact steady.trans s t _ here (second s b t ran t)
  | error e t =>
      rw [ran] at here
      exact here

theorem guarantees_bind (action : Action ε σ β) (next : β → Action ε σ α) (first : Guarantees relation action)
    (second : ∀ b, Guarantees relation (next b)) : Guarantees relation (action >>= next) :=
  guarantees_bind_known steady action next first fun _ b _ _ => second b

theorem ensures_of_guarantees (s : σ) (action : Action ε σ α) (ensured : Guarantees relation action) :
    Ensures (relation s) action (fun _ => relation s) (relation s) := by
  intro t reached
  have ended := steady.trans s t _ reached (ensured t)
  cases ran : action t with
  | ok a u =>
      rw [ran] at ended
      exact ended
  | error e u =>
      rw [ran] at ended
      exact ended

end

-- A relation between views of the state that holds of one step and not of two: it goes through a sequence of which one
-- part takes the step and the others keep the view.
section

variable (view : σ → υ) (step : υ → υ → Prop)

theorem guarantees_step_bind (action : Action ε σ β) (next : β → Action ε σ α)
    (first : Guarantees (fun s t => step (view s) (view t)) action) (rest : ∀ b, Keeps view (next b)) :
    Guarantees (fun s t => step (view s) (view t)) (action >>= next) := by
  intro s
  have same := final_bind_of_keeps view action next rest s
  change step (view s) (view (final ((action >>= next) s)))
  rw [same]
  exact first s

theorem guarantees_bind_step (refl : ∀ s, step (view s) (view s)) (action : Action ε σ β) (next : β → Action ε σ α)
    (kept : Keeps view action) (second : ∀ b, Guarantees (fun s t => step (view s) (view t)) (next b)) :
    Guarantees (fun s t => step (view s) (view t)) (action >>= next) := by
  intro s
  have same := kept s
  simp only [bind, EStateM.bind]
  cases ran : action s with
  | ok b t =>
      rw [ran] at same
      have stepped : step (view t) (view (final (next b t))) := second b t
      rw [show view t = view s from same] at stepped
      exact stepped
  | error e t =>
      rw [ran] at same
      change step (view s) (view t)
      rw [show view t = view s from same]
      exact refl s

end

section

variable (relation : σ → σ → Prop)

theorem guarantees_modify (f : σ → σ) (holds : ∀ s, relation s (f s)) :
    Guarantees relation (modify f : Action ε σ PUnit) := holds

theorem guarantees_get_bind (next : σ → Action ε σ α) (rest : ∀ s, relation s (final (next s s))) :
    Guarantees relation (get >>= next) := rest

theorem guarantees_ite (c : Prop) [Decidable c] (yes no : Action ε σ α) (left : c → Guarantees relation yes)
    (right : ¬ c → Guarantees relation no) : Guarantees relation (if c then yes else no) := by
  split
  next holds => exact left holds
  next fails => exact right fails

theorem guarantees_zoom (get : σ → τ) (put : τ → σ → σ) (action : Action ε τ α)
    (holds : ∀ s, relation s (put (final (action (get s))) s)) : Guarantees relation (zoom get put action) := by
  intro s
  have here := holds s
  unfold zoom
  cases ran : action (get s) with
  | ok a t =>
      rw [ran] at here
      exact here
  | error e t =>
      rw [ran] at here
      exact here

theorem guarantees_map (f : α → β) (action : Action ε σ α) (ensured : Guarantees relation action) :
    Guarantees relation (f <$> action) := by
  intro s
  have here := ensured s
  simp only [Functor.map, EStateM.map]
  cases ran : action s with
  | ok a t =>
      rw [ran] at here
      exact here
  | error e t =>
      rw [ran] at here
      exact here

theorem guarantees_with_err (f : ε → ε) (action : Action ε σ α) (ensured : Guarantees relation action) :
    Guarantees relation (withErr f action) := by
  intro s
  have here := ensured s
  unfold withErr
  cases ran : action s with
  | ok a t =>
      rw [ran] at here
      exact here
  | error e t =>
      rw [ran] at here
      exact here

theorem guarantees_imply (stronger : σ → σ → Prop) (action : Action ε σ α) (ensured : Guarantees stronger action)
    (implied : ∀ s t, stronger s t → relation s t) : Guarantees relation action :=
  fun s => implied s _ (ensured s)

-- What an action ensures of every state it starts from.
theorem guarantees_of_ensures (action : Action ε σ α)
    (ensured : ∀ s, Ensures (fun t => t = s) action (fun _ => relation s) (relation s)) : Guarantees relation action := by
  intro s
  rcases ensures_final _ _ _ _ s (ensured s) rfl with ⟨_, ended⟩ | ended
  · exact ended
  · exact ended

end

end Swtrust.Library.Action
