import Mathlib.Order.Basic

set_option autoImplicit false

-- A record of optional restrictions is narrowed when no restriction is dropped and each one that stands is at least
-- as strong as before, in the order `r` that belongs to it.

namespace Swtrust.Library

variable {α : Type}

def Restricts (r : α → α → Prop) (before after : Option α) : Prop := ∀ b, before = some b → ∃ a, after = some a ∧ r a b

theorem restricts_refl (r : α → α → Prop) (reflexive : ∀ a, r a a) (before : Option α) : Restricts r before before := by
  intro b recorded
  exact ⟨b, recorded, reflexive b⟩

theorem restricts_trans (r : α → α → Prop) (transitive : ∀ a b c, r a b → r b c → r a c) (first middle last : Option α)
    (earlier : Restricts r first middle) (later : Restricts r middle last) : Restricts r first last := by
  intro c recorded
  obtain ⟨b, held, below⟩ := earlier c recorded
  obtain ⟨a, holds, lower⟩ := later b held
  exact ⟨a, holds, transitive a b c lower below⟩

-- What passes the stronger restriction passes the weaker one.
theorem passes_of_restricts (r : α → α → Prop) (passes : Option α → Prop) (free : passes none)
    (antitone : ∀ a b, r a b → passes (some a) → passes (some b)) (before after : Option α)
    (narrowed : Restricts r before after) (passed : passes after) : passes before := by
  cases before with
  | none => exact free
  | some b =>
      obtain ⟨a, holds, stronger⟩ := narrowed b rfl
      rw [holds] at passed
      exact antitone a b stronger passed

abbrev Kept (before after : Option α) : Prop := Restricts (· = ·) before after

theorem kept_refl (before : Option α) : Kept before before := restricts_refl _ (fun _ => rfl) before

theorem kept_trans (first middle last : Option α) (earlier : Kept first middle) (later : Kept middle last) :
    Kept first last :=
  restricts_trans _ (fun _ _ _ left right => left.trans right) first middle last earlier later

theorem kept_of_agrees (before : Option α) (a : α) (agrees : before = none ∨ before = some a) : Kept before (some a) := by
  intro b recorded
  rcases agrees with free | same
  · rw [free] at recorded
    cases recorded
  · rw [same] at recorded
    exact ⟨a, rfl, Option.some.inj recorded⟩

theorem passes_of_kept (passes : Option α → Prop) (free : passes none) (before after : Option α)
    (kept : Kept before after) (passed : passes after) : passes before := by
  refine passes_of_restricts _ passes free ?_ before after kept passed
  intro a b same accepted
  rw [← same]
  exact accepted

end Swtrust.Library
