import Swtrust.Library.Action

set_option autoImplicit false

namespace Swtrust.Library

-- What is drawn one after the other, whether one asks for all of it at once or for a part at a time. A draw may fail,
-- and what was drawn before it then stands.

namespace Action

variable {ε σ α β : Type}

theorem bind_of_ok (action : Action ε σ α) (next : α → Action ε σ β) {s s' : σ} {a : α} (ran : action s = .ok a s') :
    (action >>= next) s = next a s' := by
  simp only [Bind.bind, EStateM.bind, ran]

theorem bind_of_error (action : Action ε σ α) (next : α → Action ε σ β) {s s' : σ} {e : ε}
    (ran : action s = .error e s') : (action >>= next) s = .error e s' := by
  simp only [Bind.bind, EStateM.bind, ran]

theorem keeps_each {υ : Type} (view : σ → υ) (step : β → Action ε σ α) (kept : ∀ b, Keeps view (step b)) (items : List β) :
    Keeps view (items.mapM step) := by
  induction items with
  | nil => exact keeps_pure view []
  | cons item items ih =>
      rw [List.mapM_cons]
      apply keeps_bind view _ _ (kept item)
      intro first
      apply keeps_bind view _ _ ih
      exact fun rest => keeps_pure view _

end Action

section

variable {ε σ α : Type} (draw : Action ε σ α)

def draws : Nat → Action ε σ (List α)
  | 0 => return []
  | count + 1 => do
    let first ← draw
    let rest ← draws count
    return first :: rest

theorem draws_add (a b : Nat) : draws draw (a + b) = (do
    let front ← draws draw a
    let back ← draws draw b
    return front ++ back) := by
  induction a with
  | zero => simp only [Nat.zero_add, draws, pure_bind, List.nil_append, bind_pure]
  | succ a ih =>
      rw [Nat.succ_add]
      simp only [draws, ih, bind_assoc, pure_bind, List.cons_append]

theorem draws_chunks (chunks : List Nat) : List.flatten <$> chunks.mapM (draws draw) = draws draw chunks.sum := by
  induction chunks with
  | nil => simp only [List.mapM_nil, map_pure, List.flatten_nil, List.sum_nil, draws]
  | cons chunk chunks ih =>
      rw [List.sum_cons, draws_add, ← ih]
      simp only [List.mapM_cons, List.flatten_cons, map_eq_pure_bind, bind_assoc, pure_bind]

-- What fails before the first draw changes nothing if the draw begins with it anyway.
theorem draws_after (first : Action ε σ Unit) (absorbed : (first >>= fun _ => draw) = draw) (count : Nat) :
    (first >>= fun _ => draws draw (count + 1)) = draws draw (count + 1) := by
  simp only [draws, ← bind_assoc, absorbed]

theorem draws_keeps {υ : Type} (view : σ → υ) (kept : Action.Keeps view draw) (count : Nat) :
    Action.Keeps view (draws draw count) := by
  induction count with
  | zero => exact Action.keeps_pure view []
  | succ count ih =>
      apply Action.keeps_bind view _ _ kept
      intro first
      apply Action.keeps_bind view _ _ ih
      exact fun rest => Action.keeps_pure view _

end

end Swtrust.Library
