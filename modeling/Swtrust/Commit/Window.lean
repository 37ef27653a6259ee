import Swtrust.Core.State
import Swtrust.Library.Bitmap
import Mathlib.Data.List.Nodup

set_option autoImplicit false

namespace Swtrust

open Library

namespace Commits

-- The array is there, or has not been made yet.
def Sized (commits : Commits) : Prop :=
  commits.used = [] ∨ commits.used.length = Config.maxCommitSequences / 8

def bit (commits : Commits) (i : Nat) : Bool :=
  match commits.used[i / 8]? with
  | some octet => octet.toNat.testBit (i % 8)
  | none => false

theorem is_set_bit (commits : Commits) (counter : UInt64) : commits.isSet counter = commits.bit (index counter) := rfl

theorem bit_set_bit (commits : Commits) (counter : UInt64) (on : Bool) (i : Nat)
    (made : commits.used.length = Config.maxCommitSequences / 8) :
    (commits.setBit counter on).bit i = if index counter = i then on else commits.bit i := by
  have held : Bitmap.bit commits.used i = commits.bit i := rfl
  have room : index counter / 8 < commits.used.length := by
    rw [made, index]
    simp only [Config.maxCommitSequences]
    omega
  cases on with
  | true =>
      have raised : (commits.setBit counter true).bit i = Bitmap.bit (Bitmap.raise commits.used (index counter)) i := rfl
      rw [raised, Bitmap.bit_raise _ _ _ room, held]
      by_cases same : index counter = i <;> simp [same]
  | false =>
      have lowered : (commits.setBit counter false).bit i = Bitmap.bit (Bitmap.lower commits.used (index counter)) i := rfl
      rw [lowered, Bitmap.bit_lower, held]
      by_cases same : index counter = i <;> simp [same]

theorem sized_set_bit (commits : Commits) (counter : UInt64) (on : Bool) (sized : commits.Sized) :
    (commits.setBit counter on).Sized := by
  unfold Sized setBit at *
  rcases sized with none | made
  · exact .inl (by simp [none])
  · exact .inr (by simpa using made)

-- The array once it is made.
theorem made_of_ready (commits : Commits) (sized : commits.Sized) (ready : commits.isReady = true) :
    commits.used.length = Config.maxCommitSequences / 8 := by
  refine sized.resolve_left fun none => ?_
  simp [isReady, none] at ready

end Commits

-- What was done with the commits since the last TPM Reset: how many were taken, and which of them were used.
structure CommitLog where
  issued : Nat := 0
  spent : List Nat := []

namespace CommitLog

-- A commit that the array still speaks for.
def Outstanding (log : CommitLog) (j : Nat) : Prop :=
  j < log.issued ∧ log.issued ≤ j + Config.maxCommitSequences ∧ j ∉ log.spent

-- The commit as far before the last one as sixteen bits say.
def named (log : CommitLog) (commits : Commits) (counter : UInt16) : Nat :=
  log.issued - (commits.count.toUInt16 - counter).toNat

def take (log : CommitLog) : CommitLog := { log with issued := log.issued + 1 }

def spend (log : CommitLog) (commits : Commits) (counter : UInt16) : CommitLog :=
  { log with spent := log.named commits counter :: log.spent }

-- The array holds the outstanding commits of the log, and no other.
structure Held (log : CommitLog) (commits : Commits) : Prop where
  sized : commits.Sized
  count : commits.count = UInt64.ofNat log.issued
  past : ∀ j ∈ log.spent, j < log.issued
  once : log.spent.Nodup
  bits : ∀ i, i < Config.maxCommitSequences → (commits.bit i = true ↔
    ∃ j, log.Outstanding j ∧ j % Config.maxCommitSequences = i)

theorem held_empty : ({} : CommitLog).Held {} where
  sized := .inl rfl
  count := rfl
  past _ member := by simp at member
  once := List.nodup_nil
  bits i inside := by
    constructor
    · intro set
      cases set
    · rintro ⟨j, ⟨none, _⟩, _⟩
      exact absurd none (Nat.not_lt_zero j)

theorem held_reset (random : Bytes) :
    ({} : CommitLog).Held ⟨random, 0, List.replicate (Config.maxCommitSequences / 8) 0⟩ where
  sized := .inr (by simp)
  count := rfl
  past _ member := by simp at member
  once := List.nodup_nil
  bits i inside := by
    constructor
    · intro set
      simp only [Commits.bit, List.getElem?_replicate] at set
      split at set
      next octet found =>
        split at found
        · obtain rfl := Option.some.inj found
          simp at set
        · cases found
      next => cases set
    · rintro ⟨j, ⟨none, _⟩, _⟩
      exact absurd none (Nat.not_lt_zero j)

variable (log : CommitLog) (commits : Commits) (held : log.Held commits)

include held

-- Sixteen bits that are let through name one outstanding commit.
theorem full_counter_names (counter : UInt16) (full : UInt64) (named : commits.fullCounter counter = .ok full) :
    log.Outstanding (log.named commits counter) ∧ counter.toNat = log.named commits counter % 2 ^ 16 ∧
      full = UInt64.ofNat (log.named commits counter) := by
  unfold Commits.fullCounter at named
  dsimp only at named
  split at named
  · cases named
  next inside =>
    split at named
    · cases named
    next set =>
      split at named
      · cases named
      next early =>
        obtain rfl := Except.ok.inj named
        simp only [not_or, not_le] at inside
        obtain ⟨old, young⟩ := inside
        rw [Bool.not_eq_true', Bool.not_eq_false, Commits.is_set_bit] at set
        have slot : Commits.index counter.toUInt64 = counter.toNat % Config.maxCommitSequences := by
          simp [Commits.index]
        rw [slot] at set
        obtain ⟨j, outstanding, same⟩ := (held.bits _ (Nat.mod_lt _ (by decide))).mp set
        have count : commits.count.toNat = log.issued % 2 ^ 64 := by rw [held.count]; simp
        have age : (commits.count.toUInt16 - counter).toNat =
            (2 ^ 16 - counter.toNat + log.issued % 2 ^ 64 % 2 ^ 16) % 2 ^ 16 := by
          rw [UInt16.toNat_sub]
          simp [count]
        have fits := counter.toNat_lt
        have started : (commits.count.toUInt16 - counter).toNat ≠ 0 := fun none => old (UInt16.toNat_inj.mp none)
        have late : (commits.count.toUInt16 - counter).toNat ≤ log.issued % 2 ^ 64 := by
          rw [UInt64.lt_iff_toNat_lt, not_lt, count, UInt16.toNat_toUInt64] at early
          exact early
        -- The slot fixes the commit up to the size of the array, and the window holds one of each.
        have place : log.named commits counter = j := by
          obtain ⟨below, above, _⟩ := outstanding
          unfold CommitLog.named
          simp only [Config.maxCommitSequences] at *
          omega
        rw [place]
        refine ⟨outstanding, ?_, ?_⟩
        all_goals
          obtain ⟨below, above, _⟩ := outstanding
          simp only [Config.maxCommitSequences] at *
        · omega
        · apply UInt64.toNat_inj.mp
          rw [UInt64.toNat_sub_of_le _ _ (UInt64.not_lt.mp early), count]
          simp only [UInt16.toNat_toUInt64, UInt64.toNat_ofNat']
          omega

omit held in
-- The window of the array is open at its end: the commit a whole turn back is refused.
theorem full_counter_young (counter : UInt16) (full : UInt64) (named : commits.fullCounter counter = .ok full) :
    log.issued < log.named commits counter + Config.maxCommitSequences := by
  have young : (commits.count.toUInt16 - counter).toNat < Config.maxCommitSequences := by
    unfold Commits.fullCounter at named
    dsimp only at named
    split at named
    · cases named
    next inside =>
      simp only [not_or, not_le] at inside
      exact inside.2
  unfold CommitLog.named
  omega

-- The low sixteen bits of an outstanding commit inside the window are let through for it.
theorem full_counter_accepts (j : Nat) (outstanding : log.Outstanding j)
    (young : log.issued < j + Config.maxCommitSequences) (few : log.issued < 2 ^ 64) :
    commits.fullCounter (UInt16.ofNat j) = .ok (UInt64.ofNat j) := by
  obtain ⟨below, above, fresh⟩ := outstanding
  simp only [Config.maxCommitSequences] at young above
  have count : commits.count.toNat = log.issued := by
    rw [held.count, UInt64.toNat_ofNat', Nat.mod_eq_of_lt few]
  have age : (commits.count.toUInt16 - UInt16.ofNat j).toNat = log.issued - j := by
    rw [UInt16.toNat_sub, UInt64.toNat_toUInt16, count, UInt16.toNat_ofNat']
    omega
  have started : commits.count.toUInt16 - UInt16.ofNat j ≠ 0 := by
    intro none
    rw [none] at age
    change 0 = log.issued - j at age
    omega
  have slot : Commits.index (UInt16.ofNat j).toUInt64 = j % Config.maxCommitSequences := by
    simp only [Commits.index, UInt16.toNat_toUInt64, UInt16.toNat_ofNat', Config.maxCommitSequences]
    omega
  have set : commits.isSet (UInt16.ofNat j).toUInt64 = true := by
    rw [Commits.is_set_bit, slot]
    exact (held.bits _ (Nat.mod_lt _ (by decide))).mpr ⟨j, ⟨below, above, fresh⟩, rfl⟩
  have late : ¬ commits.count < (commits.count.toUInt16 - UInt16.ofNat j).toUInt64 := by
    rw [UInt64.lt_iff_toNat_lt, UInt16.toNat_toUInt64, age, count]
    omega
  have inside : ¬ (commits.count.toUInt16 - UInt16.ofNat j = 0 ∨
      (commits.count.toUInt16 - UInt16.ofNat j).toNat ≥ Config.maxCommitSequences) := by
    rw [age]
    simp only [Config.maxCommitSequences]
    rintro (none | old)
    · exact started none
    · omega
  unfold Commits.fullCounter
  dsimp only
  rw [if_neg inside, if_neg (by simp [set]), if_neg late]
  refine congrArg Except.ok (UInt64.toNat_inj.mp ?_)
  rw [UInt64.toNat_sub_of_le _ _ (UInt64.not_lt.mp late), UInt16.toNat_toUInt64, age, count, UInt64.toNat_ofNat']
  omega

-- A counter that is let through is the one outstanding commit that it names, and using it spends that one.
theorem held_spent (counter : UInt16) (full : UInt64) (named : commits.fullCounter counter = .ok full) :
    (log.spend commits counter).Held (commits.setBit full false) := by
  obtain ⟨outstanding, _, rfl⟩ := log.full_counter_names commits held counter full named
  unfold spend
  generalize log.named commits counter = j at outstanding
  have slot : Commits.index (UInt64.ofNat j) = j % Config.maxCommitSequences := by
    simp only [Commits.index, UInt64.toNat_ofNat', Config.maxCommitSequences]
    omega
  have set : commits.bit (j % Config.maxCommitSequences) = true :=
    (held.bits _ (Nat.mod_lt _ (by decide))).mpr ⟨j, outstanding, rfl⟩
  have made : commits.used.length = Config.maxCommitSequences / 8 := by
    refine held.sized.resolve_left fun none => ?_
    simp [Commits.bit, none] at set
  refine ⟨commits.sized_set_bit _ _ held.sized, held.count, ?_, List.nodup_cons.mpr ⟨outstanding.2.2, held.once⟩, ?_⟩
  · intro other member
    rcases List.mem_cons.mp member with rfl | member
    · exact outstanding.1
    · exact held.past other member
  · intro i inside
    rw [commits.bit_set_bit _ _ i made, slot]
    by_cases same : j % Config.maxCommitSequences = i
    · -- Another outstanding commit of this slot would lie a turn of the array away.
      simp only [same, if_true, Bool.false_eq_true, false_iff]
      rintro ⟨other, ⟨below, above, fresh⟩, place⟩
      obtain ⟨below', above', _⟩ := outstanding
      refine fresh (List.mem_cons.mpr (.inl ?_))
      simp only [Config.maxCommitSequences] at *
      omega
    · rw [if_neg same, held.bits i inside]
      constructor
      · rintro ⟨other, ⟨below, above, fresh⟩, place⟩
        refine ⟨other, ⟨below, above, fun member => ?_⟩, place⟩
        rcases List.mem_cons.mp member with rfl | member
        · exact same place
        · exact fresh member
      · rintro ⟨other, ⟨below, above, fresh⟩, place⟩
        exact ⟨other, ⟨below, above, fun member => fresh (List.mem_cons_of_mem _ member)⟩, place⟩

-- Using one counter leaves every other one to be used.
theorem full_counter_spared (counter other : UInt16) (full rest : UInt64)
    (named : commits.fullCounter counter = .ok full) (accepted : commits.fullCounter other = .ok rest)
    (apart : other ≠ counter) : (commits.setBit full false).fullCounter other = .ok rest := by
  obtain ⟨first, low, rfl⟩ := log.full_counter_names commits held counter full named
  obtain ⟨second, low', _⟩ := log.full_counter_names commits held other rest accepted
  have set : commits.bit (log.named commits counter % Config.maxCommitSequences) = true :=
    (held.bits _ (Nat.mod_lt _ (by decide))).mpr ⟨_, first, rfl⟩
  have made : commits.used.length = Config.maxCommitSequences / 8 := by
    refine held.sized.resolve_left fun none => ?_
    simp [Commits.bit, none] at set
  -- Two commits inside the window have different slots.
  have slots : Commits.index (UInt64.ofNat (log.named commits counter)) ≠ Commits.index other.toUInt64 := by
    intro same
    simp only [Commits.index, UInt64.toNat_ofNat', UInt16.toNat_toUInt64, Config.maxCommitSequences] at same
    obtain ⟨below, above, _⟩ := first
    obtain ⟨below', above', _⟩ := second
    simp only [Config.maxCommitSequences] at above above'
    refine apart (UInt16.toNat_inj.mp ?_)
    omega
  have kept : (commits.setBit (UInt64.ofNat (log.named commits counter)) false).isSet other.toUInt64 =
      commits.isSet other.toUInt64 := by
    rw [Commits.is_set_bit, Commits.is_set_bit, commits.bit_set_bit _ _ _ made, if_neg slots]
  unfold Commits.fullCounter at accepted ⊢
  rw [kept]
  exact accepted

-- A commit takes the place of the one a whole turn of the array before it.
theorem held_taken (ready : commits.isReady = true) :
    log.take.Held commits.take := by
  change ({ log with issued := log.issued + 1 } : CommitLog).Held commits.take
  have made := commits.made_of_ready held.sized ready
  have slot : Commits.index commits.count = log.issued % Config.maxCommitSequences := by
    simp only [Commits.index, held.count, UInt64.toNat_ofNat', Config.maxCommitSequences]
    omega
  refine ⟨commits.sized_set_bit _ _ held.sized, ?_, fun j member => Nat.lt_succ_of_lt (held.past j member), held.once, ?_⟩
  · change commits.count + 1 = _
    rw [held.count, UInt64.ofNat_add]
    rfl
  · intro i inside
    change (commits.setBit commits.count true).bit i = true ↔ _
    rw [commits.bit_set_bit _ _ i made, slot]
    by_cases same : log.issued % Config.maxCommitSequences = i
    · -- The commit that had this slot before has left the window.
      simp only [same, if_true, true_iff]
      refine ⟨log.issued, ⟨Nat.lt_succ_self _, ?_, fun member => ?_⟩, same⟩
      · simp only [Config.maxCommitSequences]
        omega
      · exact Nat.lt_irrefl _ (held.past _ member)
    · rw [if_neg same, held.bits i inside]
      constructor
      · rintro ⟨j, ⟨below, above, fresh⟩, place⟩
        refine ⟨j, ⟨Nat.lt_succ_of_lt below, ?_, fresh⟩, place⟩
        simp only [Config.maxCommitSequences] at *
        omega
      · rintro ⟨j, ⟨below, above, fresh⟩, place⟩
        refine ⟨j, ⟨?_, ?_, fresh⟩, place⟩
        · simp only [Config.maxCommitSequences] at *
          omega
        · simp only at above
          omega

-- Of those inside the window the next commit puts out only the oldest.
theorem full_counter_shifted (ready : commits.isReady = true) (counter : UInt16) (full : UInt64)
    (accepted : commits.fullCounter counter = .ok full)
    (young : log.issued + 1 < log.named commits counter + Config.maxCommitSequences) (few : log.issued + 1 < 2 ^ 64) :
    commits.take.fullCounter counter = .ok full := by
  obtain ⟨⟨below, _, fresh⟩, low, rfl⟩ := log.full_counter_names commits held counter full accepted
  have same : counter = UInt16.ofNat (log.named commits counter) := by
    apply UInt16.toNat_inj.mp
    rw [low, UInt16.toNat_ofNat']
  have later := log.held_taken commits held ready
  have outstanding : log.take.Outstanding (log.named commits counter) :=
    ⟨Nat.lt_succ_of_lt below, Nat.le_of_lt young, fresh⟩
  have let_through := log.take.full_counter_accepts commits.take later _ outstanding young few
  rw [← same] at let_through
  exact let_through

end CommitLog

end Swtrust
