import Mathlib.Tactic

set_option autoImplicit false

namespace Swtrust.Library

-- Words that carry their own length, and what a concatenation of them without further framing determines.

section

variable {α : Type} (measure : List α → Nat)

-- `measure` reads the length of the word off its front, whatever follows.
def Delimited (word : List α) : Prop := ∀ tail, measure (word ++ tail) = word.length

-- Two words that a reader takes off the front of their concatenations alike.
def Alike (a b : List α) : Prop := a.length = b.length ∨ Delimited measure a ∧ Delimited measure b

theorem alike_split (a b restA restB : List α) (alike : Alike measure a b) (same : a ++ restA = b ++ restB) :
    a = b ∧ restA = restB := by
  cases alike with
  | inl lengths => exact List.append_inj same lengths
  | inr delimited =>
      have lengths : a.length = b.length := by
        rw [← delimited.1 restA, ← delimited.2 restB, same]
      exact List.append_inj same lengths

theorem flatten_split (as bs : List (List α)) (restA restB : List α) (alike : List.Forall₂ (Alike measure) as bs)
    (same : as.flatten ++ restA = bs.flatten ++ restB) : as = bs ∧ restA = restB := by
  induction alike with
  | nil => exact ⟨rfl, same⟩
  | cons head _ ih =>
      rw [List.flatten_cons, List.flatten_cons, List.append_assoc, List.append_assoc] at same
      obtain ⟨rfl, rest⟩ := alike_split measure _ _ _ _ head same
      obtain ⟨rfl, ends⟩ := ih rest
      exact ⟨rfl, ends⟩

end

-- Two splits of one word agree unless the tail of one runs into the head of the other.
theorem splits_agree {α : Type} (a b restA restB : List α) (same : a ++ restA = b ++ restB)
    (left : restA <:+ restB → restA = restB) (right : restB <:+ restA → restB = restA) : a = b ∧ restA = restB := by
  have tails : restA = restB := by
    cases List.append_eq_append_iff.mp same with
    | inl shorter =>
        obtain ⟨middle, _, splits⟩ := shorter
        exact (right ⟨middle, splits.symm⟩).symm
    | inr longer =>
        obtain ⟨middle, _, splits⟩ := longer
        exact left ⟨middle, splits.symm⟩
  subst tails
  exact ⟨List.append_cancel_right same, rfl⟩

end Swtrust.Library
