import Swtrust.Library.Action

set_option autoImplicit false

namespace Swtrust.Library.Action

-- Triples for a computation that keeps its state when it fails: `post` is what holds when it ends well, `failed` what
-- holds of the state an error leaves behind.

variable {ε σ τ υ α β : Type}

def Ensures (pre : σ → Prop) (action : Action ε σ α) (post : α → σ → Prop) (failed : σ → Prop) : Prop :=
  ∀ s, pre s → match action s with
    | .ok a t => post a t
    | .error _ t => failed t

section

variable (pre : σ → Prop) (post : α → σ → Prop) (failed : σ → Prop)

theorem ensures_of_succeeds (action : Action ε σ α) (s t : σ) (a : α) (ensured : Ensures pre action post failed)
    (holds : pre s) (ran : Succeeds action s a t) : post a t := by
  have ended := ensured s holds
  rw [show action s = _ from ran] at ended
  exact ended

theorem ensures_final (action : Action ε σ α) (s : σ) (ensured : Ensures pre action post failed) (holds : pre s) :
    (∃ a, post a (final (action s))) ∨ failed (final (action s)) := by
  have ended := ensured s holds
  cases ran : action s with
  | ok a t =>
      rw [ran] at ended
      exact .inl ⟨a, ended⟩
  | error e t =>
      rw [ran] at ended
      exact .inr ended

theorem ensures_pure (a : α) (holds : ∀ s, pre s → post a s) : Ensures pre (pure a : Action ε σ α) post failed :=
  holds

theorem ensures_throw (e : ε) (holds : ∀ s, pre s → failed s) : Ensures pre (throw e : Action ε σ α) post failed :=
  holds

theorem ensures_lift (result : Except ε α) (ended : ∀ s a, pre s → result = .ok a → post a s)
    (fails : ∀ s, pre s → failed s) : Ensures pre (liftM result : Action ε σ α) post failed := by
  intro s holds
  cases result with
  | ok a => exact ended s a holds rfl
  | error e => exact fails s holds

theorem ensures_modify (f : σ → σ) (post : σ → Prop) (holds : ∀ s, pre s → post (f s)) :
    Ensures pre (modify f : Action ε σ PUnit) (fun _ => post) failed :=
  holds

theorem ensures_bind (mid : β → σ → Prop) (action : Action ε σ β) (next : β → Action ε σ α)
    (first : Ensures pre action mid failed) (second : ∀ b, Ensures (mid b) (next b) post failed) :
    Ensures pre (action >>= next) post failed := by
  intro s holds
  have ended := first s holds
  simp only [bind, EStateM.bind]
  cases ran : action s with
  | ok b t =>
      rw [ran] at ended
      exact second b t ended
  | error e t =>
      rw [ran] at ended
      exact ended

theorem ensures_get_bind (next : σ → Action ε σ α)
    (rest : ∀ s, pre s → Ensures (fun t => t = s) (next s) post failed) :
    Ensures pre (get >>= next) post failed :=
  fun s holds => rest s holds s rfl

theorem ensures_lift_bind (s : σ) (result : Except ε β) (next : β → Action ε σ α) (falls : failed s)
    (rest : ∀ b, result = .ok b → Ensures (fun t => t = s) (next b) post failed) :
    Ensures (fun t => t = s) (liftM result >>= next) post failed := by
  rintro _ rfl
  cases made : result with
  | ok b => exact rest b made _ rfl
  | error e => exact falls

theorem ensures_weaken (weaker : σ → Prop) (action : Action ε σ α) (ensured : Ensures weaker action post failed)
    (implied : ∀ s, pre s → weaker s) : Ensures pre action post failed :=
  fun s holds => ensured s (implied s holds)

theorem ensures_imply (stronger : α → σ → Prop) (left : σ → Prop) (action : Action ε σ α)
    (ensured : Ensures pre action stronger left) (ended : ∀ a s, stronger a s → post a s)
    (falls : ∀ s, left s → failed s) : Ensures pre action post failed := by
  intro s holds
  have result := ensured s holds
  cases ran : action s with
  | ok a t =>
      rw [ran] at result
      exact ended a t result
  | error e t =>
      rw [ran] at result
      exact falls t result

theorem ensures_ite (c : Prop) [Decidable c] (yes no : Action ε σ α) (left : c → Ensures pre yes post failed)
    (right : ¬ c → Ensures pre no post failed) : Ensures pre (if c then yes else no) post failed := by
  split
  next holds => exact left holds
  next fails => exact right fails

-- A guard in the middle of a sequence.
theorem ensures_guard (c : Prop) [Decidable c] (e : ε) (next : β → Action ε σ α) (rest : Action ε σ α)
    (falls : ∀ s, pre s → failed s) (ensured : ¬ c → Ensures pre rest post failed) :
    Ensures pre (if c then (throw e : Action ε σ β) >>= next else rest) post failed :=
  ensures_ite _ _ _ c _ _ (fun _ => falls) ensured

end

-- What an action keeps holds after it, however it ends.
theorem ensures_of_keeps (view : σ → υ) (holds : υ → Prop) (action : Action ε σ α) (kept : Keeps view action) :
    Ensures (fun s => holds (view s)) action (fun _ s => holds (view s)) fun s => holds (view s) := by
  intro s before
  have same := kept s
  cases ran : action s with
  | ok a t =>
      rw [ran] at same
      change view t = view s at same
      change holds (view t)
      rw [same]
      exact before
  | error e t =>
      rw [ran] at same
      change view t = view s at same
      change holds (view t)
      rw [same]
      exact before

theorem ensures_keeps_bind (view : σ → υ) (holds : υ → Prop) (action : Action ε σ β) (next : β → Action ε σ α)
    (post : α → σ → Prop) (failed : σ → Prop) (kept : Keeps view action) (falls : ∀ s, holds (view s) → failed s)
    (rest : ∀ b, Ensures (fun s => holds (view s)) (next b) post failed) :
    Ensures (fun s => holds (view s)) (action >>= next) post failed := by
  refine ensures_bind _ _ _ (fun _ s => holds (view s)) _ _ ?_ rest
  intro s before
  have ended := ensures_of_keeps view holds action kept s before
  cases ran : action s with
  | ok b t =>
      rw [ran] at ended
      exact ended
  | error e t =>
      rw [ran] at ended
      exact falls t ended

-- Where an action leaves a view of the state, from states where it shows a given value, however the action ends.
def Reaches (view : σ → υ) (start : υ) (action : Action ε σ α) (holds : υ → Prop) : Prop :=
  ∀ s, view s = start → holds (view (final (action s)))

section

variable (view : σ → υ) (start : υ) (holds : υ → Prop) (stays : holds start)

include stays

theorem reaches_keeps (action : Action ε σ α) (kept : Keeps view action) : Reaches view start action holds := by
  intro s same
  rw [kept s, same]
  exact stays

theorem reaches_lift (result : Except ε β) (next : β → Action ε σ α)
    (rest : ∀ b, result = .ok b → Reaches view start (next b) holds) :
    Reaches view start (liftM result >>= next) holds := by
  intro s same
  rw [run_lift_bind]
  cases made : result with
  | ok b => exact rest b made s same
  | error e =>
      change holds (view s)
      rw [same]
      exact stays

theorem reaches_guard (c : Prop) [Decidable c] (e : ε) (next : β → Action ε σ α) (rest : Action ε σ α)
    (reached : ¬ c → Reaches view start rest holds) :
    Reaches view start (if c then (throw e : Action ε σ β) >>= next else rest) holds := by
  by_cases holds : c
  · rw [if_pos holds]
    intro s same
    rw [run_throw_bind]
    exact reaches_keeps view start _ stays (throw e : Action ε σ α) (keeps_throw _ _) s same
  · rw [if_neg holds]
    exact reached holds

omit stays

theorem reaches_then (action : Action ε σ β) (next : β → Action ε σ α) (kept : ∀ b, Keeps view (next b))
    (reached : Reaches view start action holds) : Reaches view start (action >>= next) holds := by
  intro s same
  rw [final_bind_of_keeps view action next kept s]
  exact reached s same

end

end Swtrust.Library.Action
