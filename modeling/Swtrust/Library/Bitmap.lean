import Mathlib.Data.List.Sort
import Mathlib.Data.Nat.Bitwise
import Mathlib.Tactic.IntervalCases

set_option autoImplicit false

-- Sets of numbers as bits of octets, the least bit of an octet first.
namespace Swtrust.Library.Bitmap

def bit (octets : List UInt8) (i : Nat) : Bool :=
  match octets[i / 8]? with
  | some octet => octet.toNat.testBit (i % 8)
  | none => false

def raise (octets : List UInt8) (i : Nat) : List UInt8 :=
  octets.modify (i / 8) (· ||| ((1 : UInt8) <<< UInt8.ofNat (i % 8)))

def lower (octets : List UInt8) (i : Nat) : List UInt8 :=
  octets.modify (i / 8) (· &&& ~~~((1 : UInt8) <<< UInt8.ofNat (i % 8)))

def without (octets others : List UInt8) : List UInt8 := octets.zipWith (fun a b => a &&& ~~~b) others

def members (octets : List UInt8) : List Nat := (List.range (8 * octets.length)).filter (bit octets)

theorem octet_set (octet : UInt8) (i j : Nat) (small : i < 8) :
    (octet ||| (1 : UInt8) <<< UInt8.ofNat i).toNat.testBit j = (decide (i = j) || octet.toNat.testBit j) := by
  have shift : ((1 : UInt8) <<< UInt8.ofNat i).toNat = 2 ^ i := by
    interval_cases i <;> rfl
  rw [UInt8.toNat_or, Nat.testBit_or, shift, Nat.testBit_two_pow, Bool.or_comm]

theorem octet_cleared (octet : UInt8) (i j : Nat) (small : i < 8) (other : j < 8) :
    (octet &&& ~~~((1 : UInt8) <<< UInt8.ofNat i)).toNat.testBit j = (!decide (i = j) && octet.toNat.testBit j) := by
  have shift : (~~~((1 : UInt8) <<< UInt8.ofNat i)).toNat = 255 - 2 ^ i := by
    interval_cases i <;> rfl
  rw [UInt8.toNat_and, Nat.testBit_and, shift, Bool.and_comm]
  have digit : (255 - 2 ^ i).testBit j = !decide (i = j) := by
    interval_cases i <;> interval_cases j <;> rfl
  rw [digit]

theorem octet_without (a b : UInt8) (j : Nat) (small : j < 8) :
    (a &&& ~~~b).toNat.testBit j = (a.toNat.testBit j && !b.toNat.testBit j) := by
  have digit : (~~~b).toNat.testBit j = !b.toNat.testBit j := by
    have size : UInt8.size - 1 - b.toNat = 2 ^ 8 - (b.toNat + 1) := by
      rw [UInt8.size]
      omega
    rw [UInt8.toNat_not, size, Nat.testBit_two_pow_sub_succ b.toNat_lt]
    simp [small]
  rw [UInt8.toNat_and, Nat.testBit_and, digit]

-- Two places in one octet are the same where they are the same place in it.
theorem same_place (i j : Nat) (octet : i / 8 = j / 8) : decide (i % 8 = j % 8) = decide (i = j) := by
  refine decide_eq_decide.mpr ⟨fun low => ?_, fun whole => by rw [whole]⟩
  omega

theorem bit_raise (octets : List UInt8) (i j : Nat) (inside : i / 8 < octets.length) :
    bit (raise octets i) j = (decide (i = j) || bit octets j) := by
  have small : i % 8 < 8 := Nat.mod_lt _ (by decide)
  unfold bit raise
  simp only [List.getElem?_modify]
  by_cases same : i / 8 = j / 8
  · have here : octets[j / 8]? = some octets[j / 8] := List.getElem?_eq_getElem (same ▸ inside)
    simp only [same, if_true, here, Option.map_eq_map, Option.map_some]
    rw [octet_set _ _ _ small, same_place i j same]
  · have other : i ≠ j := fun whole => same (by rw [whole])
    simp [same, other]

theorem bit_lower (octets : List UInt8) (i j : Nat) : bit (lower octets i) j = (!decide (i = j) && bit octets j) := by
  have small : i % 8 < 8 := Nat.mod_lt _ (by decide)
  have second : j % 8 < 8 := Nat.mod_lt _ (by decide)
  unfold bit lower
  simp only [List.getElem?_modify]
  by_cases same : i / 8 = j / 8
  · cases here : octets[j / 8]? with
    | none => simp [same]
    | some octet =>
        simp only [same, if_true, Option.map_eq_map, Option.map_some]
        rw [octet_cleared _ _ _ small second, same_place i j same]
  · have other : i ≠ j := fun whole => same (by rw [whole])
    simp [same, other]

theorem bit_without (octets others : List UInt8) (i : Nat) (covered : octets.length ≤ others.length) :
    bit (without octets others) i = (bit octets i && !bit others i) := by
  have small : i % 8 < 8 := Nat.mod_lt _ (by decide)
  unfold bit without
  rw [List.getElem?_zipWith]
  by_cases inside : i / 8 < octets.length
  · have first : octets[i / 8]? = some octets[i / 8] := List.getElem?_eq_getElem inside
    have second : others[i / 8]? = some others[i / 8] := List.getElem?_eq_getElem (by omega)
    rw [first, second]
    exact octet_without _ _ _ small
  · have first : octets[i / 8]? = none := List.getElem?_eq_none (by omega)
    rw [first]
    rfl

theorem bit_zeros (count i : Nat) : bit (List.replicate count 0) i = false := by
  unfold bit
  rw [List.getElem?_replicate]
  split
  · rename_i found
    split at found
    · obtain rfl := Option.some.inj found
      simp
    · cases found
  · rfl

theorem mem_members (octets : List UInt8) (i : Nat) : i ∈ members octets ↔ bit octets i = true := by
  unfold members
  rw [List.mem_filter, List.mem_range]
  refine ⟨fun both => both.2, fun raised => ⟨?_, raised⟩⟩
  by_contra outside
  have none : octets[i / 8]? = none := List.getElem?_eq_none (by omega)
  unfold bit at raised
  rw [none] at raised
  cases raised

theorem members_ascending (octets : List UInt8) : (members octets).Pairwise (· < ·) :=
  List.Pairwise.filter _ List.pairwise_lt_range

theorem members_eq (octets : List UInt8) (list : List Nat) (ascending : list.Pairwise (· < ·))
    (same : ∀ i, bit octets i = true ↔ i ∈ list) : members octets = list :=
  (members_ascending octets).eq_of_mem_iff ascending fun i => (mem_members octets i).trans (same i)

theorem length_raise_all (octets : List UInt8) (list : List Nat) : (list.foldl raise octets).length = octets.length := by
  induction list generalizing octets with
  | nil => rfl
  | cons i rest ih => rw [List.foldl_cons, ih, raise, List.length_modify]

theorem length_lower_all (octets : List UInt8) (list : List Nat) : (list.foldl lower octets).length = octets.length := by
  induction list generalizing octets with
  | nil => rfl
  | cons i rest ih => rw [List.foldl_cons, ih, lower, List.length_modify]

theorem bit_raise_all (octets : List UInt8) (list : List Nat) (inside : ∀ i ∈ list, i / 8 < octets.length) (j : Nat) :
    bit (list.foldl raise octets) j = (decide (j ∈ list) || bit octets j) := by
  induction list generalizing octets with
  | nil => simp
  | cons i rest ih =>
      have length : (raise octets i).length = octets.length := List.length_modify _ _ _
      rw [List.foldl_cons, ih _ fun k member => length ▸ inside k (List.mem_cons_of_mem _ member),
        bit_raise _ _ _ (inside i List.mem_cons_self)]
      by_cases here : i = j
      · simp [here]
      · have apart : j ≠ i := fun same => here same.symm
        simp [here, apart]

theorem bit_lower_all (octets : List UInt8) (list : List Nat) (j : Nat) :
    bit (list.foldl lower octets) j = (!decide (j ∈ list) && bit octets j) := by
  induction list generalizing octets with
  | nil => simp
  | cons i rest ih =>
      rw [List.foldl_cons, ih, bit_lower]
      by_cases here : i = j
      · simp [here]
      · have apart : j ≠ i := fun same => here same.symm
        simp [here, apart]

-- Lowering all but the first members leaves those.
theorem members_lower_drop (octets : List UInt8) (count : Nat) :
    members (((members octets).drop count).foldl lower octets) = (members octets).take count := by
  have ascending := members_ascending octets
  have parts := ascending
  rw [← List.take_append_drop count (members octets), List.pairwise_append] at parts
  refine members_eq _ _ parts.1 fun i => ?_
  rw [bit_lower_all]
  simp only [Bool.and_eq_true, Bool.not_eq_true', decide_eq_false_iff_not]
  rw [← mem_members]
  constructor
  · rintro ⟨outside, member⟩
    rw [← List.take_append_drop count (members octets), List.mem_append] at member
    exact member.resolve_right outside
  · intro member
    exact ⟨fun later => Nat.lt_irrefl _ (parts.2.2 i member i later), List.mem_of_mem_take member⟩

-- What is left without the first members are the others.
theorem members_without_take (octets others : List UInt8) (count : Nat) (covered : octets.length ≤ others.length)
    (taken : members others = (members octets).take count) :
    members (without octets others) = (members octets).drop count := by
  have parts := members_ascending octets
  rw [← List.take_append_drop count (members octets), List.pairwise_append] at parts
  refine members_eq _ _ parts.2.1 fun i => ?_
  rw [bit_without _ _ _ covered]
  simp only [Bool.and_eq_true, Bool.not_eq_true', ← Bool.not_eq_true]
  rw [← mem_members, ← mem_members, taken]
  constructor
  · rintro ⟨member, outside⟩
    rw [← List.take_append_drop count (members octets), List.mem_append] at member
    exact member.resolve_left outside
  · intro later
    exact ⟨List.mem_of_mem_drop later, fun early => Nat.lt_irrefl _ (parts.2.2 i early i later)⟩

end Swtrust.Library.Bitmap
