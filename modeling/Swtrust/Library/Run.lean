set_option autoImplicit false

namespace Swtrust.Library

-- Runs of a deterministic machine, and ledgers kept beside them. A condition on a run is a condition on every step of
-- it; an invariant that every step meeting the condition preserves holds wherever the run gets to.

section

variable {State Event : Type} (step : State → Event → State) (condition : State → Event → Prop)

-- Every event of a run meets the condition in the state it finds.
def Every : State → List Event → Prop
  | _, [] => True
  | s, event :: rest => condition s event ∧ Every (step s event) rest

instance everyDecidable [∀ s event, Decidable (condition s event)] :
    (s : State) → (events : List Event) → Decidable (Every step condition s events)
  | _, [] => .isTrue trivial
  | s, event :: rest =>
    have := everyDecidable (step s event) rest
    inferInstanceAs (Decidable (condition s event ∧ Every step condition (step s event) rest))

theorem every_of_all (s : State) (events : List Event) (all : ∀ s event, event ∈ events → condition s event) :
    Every step condition s events := by
  induction events generalizing s with
  | nil => trivial
  | cons event rest ih =>
      exact ⟨all s event List.mem_cons_self, ih (step s event) fun s later member =>
        all s later (List.mem_cons_of_mem _ member)⟩

theorem every_and (other : State → Event → Prop) (s : State) (events : List Event)
    (left : Every step condition s events) (right : Every step other s events) :
    Every step (fun s event => condition s event ∧ other s event) s events := by
  induction events generalizing s with
  | nil => trivial
  | cons event rest ih => exact ⟨⟨left.1, right.1⟩, ih (step s event) left.2 right.2⟩

theorem every_imply (other : State → Event → Prop) (weaker : ∀ s event, condition s event → other s event) (s : State)
    (events : List Event) (every : Every step condition s events) : Every step other s events := by
  induction events generalizing s with
  | nil => trivial
  | cons event rest ih => exact ⟨weaker s event every.1, ih (step s event) every.2⟩

theorem every_split (s : State) (before after : List Event) (event : Event)
    (every : Every step condition s (before ++ event :: after)) :
    Every step condition s before ∧ condition (before.foldl step s) event := by
  induction before generalizing s with
  | nil => exact ⟨trivial, every.1⟩
  | cons first rest ih =>
      obtain ⟨first, every⟩ := every
      obtain ⟨every, here⟩ := ih _ every
      exact ⟨⟨first, every⟩, here⟩

theorem invariant_of_every (invariant : State → Prop)
    (preserves : ∀ s event, condition s event → invariant s → invariant (step s event)) (s : State)
    (events : List Event) (every : Every step condition s events) (start : invariant s) :
    invariant (events.foldl step s) := by
  induction events generalizing s with
  | nil => exact start
  | cons event rest ih => exact ih (step s event) every.2 (preserves s event every.1 start)

theorem every_append (s : State) (before after : List Event) :
    Every step condition s (before ++ after) ↔
      Every step condition s before ∧ Every step condition (before.foldl step s) after := by
  induction before generalizing s with
  | nil => simp [Every]
  | cons first rest ih => simp only [List.cons_append, Every, List.foldl_cons, ih, and_assoc]

-- A preorder that every step meeting the condition follows relates the two ends of a run.
theorem related_of_every (invariant : State → Prop) (related : State → State → Prop) (self : ∀ s, related s s)
    (follows : ∀ a b c, related a b → related b c → related a c)
    (preserves : ∀ s event, condition s event → invariant s → related s (step s event) ∧ invariant (step s event))
    (s : State) (events : List Event) (every : Every step condition s events) (start : invariant s) :
    related s (events.foldl step s) ∧ invariant (events.foldl step s) := by
  induction events generalizing s with
  | nil => exact ⟨self s, start⟩
  | cons event rest ih =>
      obtain ⟨first, held⟩ := preserves s event every.1 start
      obtain ⟨others, ended⟩ := ih (step s event) every.2 held
      exact ⟨follows _ _ _ first others, ended⟩

-- A ledger whose view runs as the machine does is under the conditions of the machine.
theorem every_of_view {Ledger : Type} (next : Ledger → Event → Ledger) (view : Ledger → State)
    (follows : ∀ ledger event, view (next ledger event) = step (view ledger) event) (ledger : Ledger)
    (events : List Event) (every : Every step condition (view ledger) events) :
    Every next (fun ledger event => condition (view ledger) event) ledger events := by
  induction events generalizing ledger with
  | nil => trivial
  | cons event rest ih =>
      refine ⟨every.1, ih (next ledger event) ?_⟩
      rw [follows]
      exact every.2

-- What holds in every state of a run, and of each of its steps.
def Throughout (holds : State → Prop) : State → List Event → Prop
  | s, [] => holds s
  | s, event :: rest => holds s ∧ condition s event ∧ Throughout holds (step s event) rest

theorem throughout_concat (holds : State → Prop) (s : State) (events : List Event) (event : Event)
    (before : Throughout step condition holds s events) (met : condition (events.foldl step s) event)
    (after : holds (step (events.foldl step s) event)) : Throughout step condition holds s (events ++ [event]) := by
  induction events generalizing s with
  | nil => exact ⟨before, met, after⟩
  | cons first rest ih => exact ⟨before.1, before.2.1, ih (step s first) before.2.2 met after⟩

theorem throughout_last (holds : State → Prop) (s : State) (events : List Event)
    (run : Throughout step condition holds s events) : holds (events.foldl step s) := by
  induction events generalizing s with
  | nil => exact run
  | cons first rest ih => exact ih (step s first) run.2.2

end

end Swtrust.Library
