import Mathlib.Data.List.Sort
import Mathlib.Order.Basic

set_option autoImplicit false

-- Lists that are given out in pages, each from a place that the caller names.
namespace Swtrust.Library.Paging

section

variable {κ : Type} (ask : κ → Nat → Option (Bool × List κ)) (next : κ → κ) (counts : Nat → Nat)

-- A caller that goes on past the last element it was given, while more is promised.
inductive Pages : Nat → κ → List κ → Prop where
  | last (asked : Nat) (start : κ) (items : List κ) (answered : ask start (counts asked) = some (false, items)) :
      Pages asked start items
  | more (asked : Nat) (start : κ) (items : List κ) (final : κ) (rest : List κ)
      (answered : ask start (counts asked) = some (true, items)) (ends : items.getLast? = some final)
      (later : Pages (asked + 1) (next final) rest) : Pages asked start (items ++ rest)

-- However many are asked for at a time, the caller comes to an end, with every element once and in order.
def Enumerates [LT κ] (first : κ) (elements : List κ) : Prop :=
  ∀ counts : Nat → Nat, (∀ i, 0 < counts i) →
    ∃ items, Pages ask next counts 0 first items ∧ items.Pairwise (· < ·) ∧ items.Perm elements

end

section

variable {κ : Type} [LinearOrder κ] (covers : κ → Bool) (listed : List κ) (most : Nat)

def page (start : κ) (count : Nat) : Option (Bool × List κ) :=
  let left := listed.filter fun element => decide (start ≤ element)
  if covers start then some (decide (min count most < left.length), left.take (min count most)) else none

theorem page_covers (start : κ) (count : Nat) (answer : Bool × List κ)
    (given : page covers listed most start count = some answer) : covers start = true ∧
      answer = (decide (min count most < (listed.filter fun element => decide (start ≤ element)).length),
        (listed.filter fun element => decide (start ≤ element)).take (min count most)) := by
  unfold page at given
  dsimp only at given
  split at given
  next covered => exact ⟨covered, (Option.some.inj given).symm⟩
  next => cases given

-- Where the elements lie: in order, none before the first, and past each but the greatest the list goes on.
structure Placed (next : κ → κ) (first : κ) : Prop where
  ascending : listed.Pairwise (· < ·)
  above : ∀ element ∈ listed, first ≤ element
  goesOn : ∀ element ∈ listed, (∀ other ∈ listed, other ≤ element) ∨ covers (next element) = true

variable (next : κ → κ) (successor : ∀ a b, a < b → ∀ c, next a ≤ c ↔ a < c) (some' : 0 < most)

include successor some'

theorem pages_of_placed (first : κ) (placed : Placed covers listed next first) (counts : Nat → Nat)
    (positive : ∀ i, 0 < counts i) (size : Nat) (given left : List κ) (split : listed = given ++ left)
    (small : left.length ≤ size) (asked : Nat) (start : κ) (covered : covers start = true)
    (remaining : (listed.filter fun element => decide (start ≤ element)) = left) :
    Pages (page covers listed most) next counts asked start left := by
  induction size generalizing given left asked start with
  | zero =>
      have none : left = [] := List.length_eq_zero_iff.mp (Nat.le_zero.mp small)
      refine .last asked start left ?_
      simp only [page, remaining, covered, none]
      simp
  | succ size ih =>
      have count := positive asked
      by_cases fits : left.length ≤ min (counts asked) most
      · refine .last asked start left ?_
        simp only [page, remaining, covered, if_true, List.take_of_length_le fits, Nat.not_lt.mpr fits, decide_false]
      · have more : min (counts asked) most < left.length := Nat.lt_of_not_le fits
        -- The page ends with an element that others follow.
        have nonempty : left.take (min (counts asked) most) ≠ [] := by
          intro none
          have length := congrArg List.length none
          rw [List.length_take, List.length_nil] at length
          omega
        have ends := List.getLast?_eq_some_getLast nonempty
        have member := List.getLast_mem nonempty
        generalize (left.take (min (counts asked) most)).getLast nonempty = final at ends member
        have parts : listed = (given ++ left.take (min (counts asked) most)) ++ left.drop (min (counts asked) most) := by
          rw [List.append_assoc, List.take_append_drop]
          exact split
        have sorted := placed.ascending
        rw [parts, List.pairwise_append] at sorted
        obtain ⟨before, _, across⟩ := sorted
        have last : ∀ element ∈ given ++ left.take (min (counts asked) most), element ≤ final := by
          intro element listed
          obtain ⟨others, same⟩ := List.getLast?_eq_some_iff.mp ends
          rw [same, ← List.append_assoc, List.pairwise_append] at before
          rw [same, ← List.append_assoc, List.mem_append] at listed
          rcases listed with early | here
          · exact le_of_lt (before.2.2 element early final List.mem_cons_self)
          · exact le_of_eq (List.mem_singleton.mp here)
        have below : ∀ element ∈ left.drop (min (counts asked) most), final < element := fun element later =>
          across final (List.mem_append_right _ member) element later
        have follows : ∃ other, other ∈ left.drop (min (counts asked) most) :=
          List.exists_mem_of_length_pos (by rw [List.length_drop]; omega)
        obtain ⟨other, follows⟩ := follows
        have inside : final ∈ listed := by
          rw [parts]
          exact List.mem_append_left _ (List.mem_append_right _ member)
        have goes : covers (next final) = true := by
          refine (placed.goesOn final inside).resolve_left fun greatest => ?_
          have listed' : other ∈ listed := by
            rw [parts]
            exact List.mem_append_right _ follows
          exact absurd (below other follows) (not_lt_of_ge (greatest other listed'))
        have above := successor final other (below other follows)
        have rest : (listed.filter fun element => decide (next final ≤ element)) = left.drop (min (counts asked) most) := by
          rw [parts, List.filter_append]
          have gone : (given ++ left.take (min (counts asked) most)).filter
              (fun element => decide (next final ≤ element)) = [] := by
            refine List.filter_eq_nil_iff.mpr fun element early => ?_
            simp only [decide_eq_true_eq, above]
            exact not_lt_of_ge (last element early)
          have stays : (left.drop (min (counts asked) most)).filter (fun element => decide (next final ≤ element)) =
              left.drop (min (counts asked) most) := by
            refine List.filter_eq_self.mpr fun element later => ?_
            simp only [decide_eq_true_eq, above]
            exact below element later
          rw [gone, stays, List.nil_append]
        have later := ih _ _ parts (by rw [List.length_drop]; omega) (asked + 1) (next final) goes rest
        have answered : page covers listed most start (counts asked) =
            some (true, left.take (min (counts asked) most)) := by
          simp only [page, remaining, covered, if_true, more, decide_true]
        have pages := Pages.more asked start _ final _ answered ends later
        rw [List.take_append_drop] at pages
        exact pages

-- One by one the elements come in the order of the list, so that order is the only one.
theorem placed_of_ones (asked : Nat) (start : κ) (items : List κ)
    (pages : Pages (page covers listed most) next (fun _ => 1) asked start items) (ascending : items.Pairwise (· < ·))
    (all : items.Perm (listed.filter fun element => decide (start ≤ element))) :
    covers start = true ∧ (listed.filter fun element => decide (start ≤ element)) = items ∧
      ∀ element ∈ items, (∀ other ∈ items, other ≤ element) ∨ covers (next element) = true := by
  have one : min 1 most = 1 := Nat.min_eq_left some'
  induction pages with
  | last asked start items answered =>
      obtain ⟨covered, answer⟩ := page_covers covers listed most start 1 _ answered
      rw [one, Prod.mk.injEq] at answer
      have short := answer.1
      have few := all.length_eq
      have single : items.length ≤ 1 := by
        rw [few]
        exact Nat.le_of_not_lt (of_decide_eq_false short.symm)
      refine ⟨covered, ?_, fun element member => .inl fun other member' => ?_⟩
      · rw [answer.2, List.take_of_length_le (few ▸ single)]
      · match items, single, member, member' with
        | [only], _, member, member' =>
            rw [List.mem_singleton.mp member, List.mem_singleton.mp member']
  | more asked start items final rest answered ends later ih =>
      obtain ⟨covered, answer⟩ := page_covers covers listed most start 1 _ answered
      rw [one, Prod.mk.injEq] at answer
      have long := of_decide_eq_true answer.1.symm
      cases shape : listed.filter fun element => decide (start ≤ element) with
      | nil =>
          rw [shape] at long
          exact absurd long (by simp)
      | cons head tail =>
          rw [shape] at all answer
          have page : items = [head] := answer.2
          rw [page] at ends all ascending ⊢
          obtain rfl : head = final := by simpa using ends
          obtain ⟨above, ordered⟩ := List.pairwise_cons.mp ascending
          have others : rest.Perm tail := List.perm_cons head |>.mp all
          -- What the next request finds is what this one left.
          have follows : (listed.filter fun element => decide (next head ≤ element)) = tail := by
            have reach : ∀ element ∈ tail, head < element := fun element member =>
              above element (others.mem_iff.mpr member)
            have some'' : ∃ other, other ∈ tail := by
              rw [shape] at long
              exact List.exists_mem_of_length_pos (by simpa using long)
            obtain ⟨other, member⟩ := some''
            have past := successor head other (reach other member)
            have first : start ≤ head := by
              have member : head ∈ listed.filter fun element => decide (start ≤ element) := by
                rw [shape]
                exact List.mem_cons_self
              simpa using (List.mem_filter.mp member).2
            have narrowed : (listed.filter fun element => decide (next head ≤ element)) =
                (listed.filter fun element => decide (start ≤ element)).filter fun element => decide (next head ≤ element) := by
              rw [List.filter_filter]
              refine List.filter_congr fun element _ => ?_
              by_cases beyond : next head ≤ element
              · simp [beyond, le_trans first (le_of_lt ((past element).mp beyond))]
              · simp [beyond]
            rw [narrowed, shape, List.filter_cons_of_neg (by simp [past])]
            exact List.filter_eq_self.mpr fun element member => by simpa [past] using reach element member
          obtain ⟨goes, same, onward⟩ := ih ordered (follows ▸ others)
          refine ⟨covered, ?_, fun element member => ?_⟩
          · rw [← follows, same]
            rfl
          · rcases List.mem_cons.mp member with here | member
            · exact .inr (here ▸ goes)
            · refine (onward element member).imp (fun greatest other member' => ?_) id
              rcases List.mem_cons.mp member' with here | member'
              · exact here ▸ le_of_lt (above element member)
              · exact greatest other member'

omit successor some' in
theorem pages_above (counts : Nat → Nat) (asked : Nat) (start : κ) (items : List κ)
    (pages : Pages (page covers listed most) next counts asked start items) (ascending : items.Pairwise (· < ·)) :
    ∀ element ∈ items, start ≤ element := by
  have first : ∀ start count more items, page covers listed most start count = some (more, items) →
      ∀ element ∈ items, start ≤ element := by
    intro start count more items answered element member
    obtain ⟨_, answer⟩ := page_covers covers listed most start count _ answered
    rw [Prod.mk.injEq] at answer
    rw [answer.2] at member
    simpa using (List.mem_filter.mp (List.mem_of_mem_take member)).2
  cases pages with
  | last asked start items answered => exact first _ _ _ _ answered
  | more asked start items final rest answered ends later =>
      intro element member
      rcases List.mem_append.mp member with here | member
      · exact first _ _ _ _ answered element here
      · have listed' := List.mem_of_getLast? ends
        have across := (List.pairwise_append.mp ascending).2.2 final listed' element member
        exact le_trans (first _ _ _ _ answered final listed') (le_of_lt across)

-- Pages enumerate a list exactly when its elements are placed so.
theorem enumerates_iff (first : κ) (covered : covers first = true) :
    Enumerates (page covers listed most) next first listed ↔ Placed covers listed next first := by
  constructor
  · intro enumerated
    obtain ⟨items, pages, ascending, all⟩ := enumerated (fun _ => 1) fun _ => Nat.one_pos
    have above : ∀ element ∈ listed, first ≤ element := fun element member =>
      pages_above covers listed most next _ _ _ _ pages ascending element (all.mem_iff.mpr member)
    have whole : (listed.filter fun element => decide (first ≤ element)) = listed :=
      List.filter_eq_self.mpr fun element member => by simpa using above element member
    obtain ⟨_, same, onward⟩ := placed_of_ones covers listed most next successor some' _ _ _ pages ascending
      (by rw [whole]; exact all)
    rw [whole] at same
    subst same
    exact ⟨ascending, above, onward⟩
  · intro placed counts positive
    refine ⟨listed, ?_, placed.ascending, .refl _⟩
    refine pages_of_placed covers listed most next successor some' first placed counts positive listed.length [] listed rfl
      le_rfl 0 first covered ?_
    exact List.filter_eq_self.mpr fun element member => by simpa using placed.above element member

end

end Swtrust.Library.Paging
