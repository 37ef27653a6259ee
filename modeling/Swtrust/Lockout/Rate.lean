import Swtrust.Lockout.Events

set_option autoImplicit false
set_option linter.unusedSectionVars false

namespace Swtrust

open Library Action

theorem sat_add_to_nat (a b : UInt64) : (satAdd a b).toNat = min (a.toNat + b.toNat) (2 ^ 64 - 1) := by
  have ha := a.toNat_lt
  have hb := b.toNat_lt
  unfold satAdd
  split
  next overflow =>
    rw [UInt64.lt_iff_toNat_lt, UInt64.toNat_add] at overflow
    simp only [UInt64.reduceToNat]
    omega
  next fits =>
    rw [UInt64.lt_iff_toNat_lt, UInt64.toNat_add] at fits
    rw [UInt64.toNat_add]
    omega

namespace LockoutState

-- The milliseconds after which one failure is forgiven.
def interval (lockout : LockoutState) : Nat := lockout.recoveryTime.toNat * 1000

theorem interval_to_nat (lockout : LockoutState) : (lockout.recoveryTime.toUInt64 * 1000).toNat = lockout.interval := by
  have bound := lockout.recoveryTime.toNat_lt
  rw [UInt64.toNat_mul, UInt32.toNat_toUInt64]
  simp only [UInt64.reduceToNat, interval]
  omega

-- What draining forgives: `count` failures, each when its deadline had passed.
structure Drained (time interval : UInt64) (tries next : Nat) (left : Nat × UInt64) (count : Nat) : Prop where
  forgiven : tries = left.1 + count
  due : 0 < count → next + (count - 1) * interval.toNat ≤ time.toNat
  deadline : left.2.toNat = min (next + count * interval.toNat) (2 ^ 64 - 1)
  later : left.1 = 0 ∨ time < left.2

theorem drain_drained (time interval : UInt64) (tries : Nat) (next : UInt64) (runs : time.toNat < 2 ^ 64 - 1) :
    ∃ count, Drained time interval tries next.toNat (drain time interval tries next) count := by
  have bound := next.toNat_lt
  induction tries generalizing next with
  | zero => exact ⟨0, rfl, by omega, by simp only [drain, Nat.zero_mul, Nat.add_zero]; omega, .inl rfl⟩
  | succ tries ih =>
      unfold drain
      by_cases due : next ≤ time
      · rw [if_pos due]
        rw [UInt64.le_iff_toNat_le] at due
        obtain ⟨count, drained⟩ := ih (satAdd next interval) (satAdd next interval).toNat_lt
        have step := sat_add_to_nat next interval
        have more : (count + 1) * interval.toNat = count * interval.toNat + interval.toNat := Nat.succ_mul _ _
        refine ⟨count + 1, ?_, fun _ => ?_, ?_, drained.later⟩
        · have forgiven := drained.forgiven
          omega
        · rw [Nat.add_sub_cancel]
          rcases Nat.eq_zero_or_pos count with rfl | some
          · omega
          · have last := drained.due some
            have less : (count - 1) * interval.toNat + interval.toNat = count * interval.toNat := by
              rw [← Nat.succ_mul, Nat.succ_eq_add_one, Nat.sub_add_cancel some]
            omega
        · rw [drained.deadline, step, more]
          omega
      · rw [if_neg due]
        exact ⟨0, rfl, by omega, by simp only [Nat.zero_mul, Nat.add_zero]; omega, .inr (UInt64.not_le.mp due)⟩

-- What the passing of Time forgives.
structure Recovers (time : UInt64) (before after : LockoutState) (count : Nat) : Prop where
  recoveryTime : after.recoveryTime = before.recoveryTime
  maxTries : after.maxTries = before.maxTries
  forgiven : before.failedTries.toNat = after.failedTries.toNat + count
  off : before.recoveryTime = 0 → count = 0
  due : 0 < count → before.nextRecovery.toNat + (count - 1) * before.interval ≤ time.toNat
  deadline : 0 < after.failedTries.toNat → before.recoveryTime ≠ 0 →
    after.nextRecovery.toNat = min (before.nextRecovery.toNat + count * before.interval) (2 ^ 64 - 1)

theorem release_recovers (lockout : LockoutState) (time : UInt64) :
    (lockout.release time).recoveryTime = lockout.recoveryTime ∧ (lockout.release time).maxTries = lockout.maxTries ∧
      (lockout.release time).failedTries = lockout.failedTries ∧
      (lockout.release time).nextRecovery = lockout.nextRecovery := by
  unfold release
  split <;> exact ⟨rfl, rfl, rfl, rfl⟩

theorem recover_recovers (lockout : LockoutState) (time : UInt64) (runs : time.toNat < 2 ^ 64 - 1) :
    ∃ count, Recovers time lockout (lockout.recover time) count := by
  unfold recover
  dsimp only
  split
  next running =>
    obtain ⟨count, drained⟩ := drain_drained time (lockout.recoveryTime.toUInt64 * 1000) lockout.failedTries.toNat
      lockout.nextRecovery runs
    have interval := lockout.interval_to_nat
    have bound := lockout.failedTries.toNat_lt
    have forgiven := drained.forgiven
    have left : (UInt32.ofNat (drain time (lockout.recoveryTime.toUInt64 * 1000) lockout.failedTries.toNat
        lockout.nextRecovery).1).toNat =
        (drain time (lockout.recoveryTime.toUInt64 * 1000) lockout.failedTries.toNat lockout.nextRecovery).1 :=
      UInt32.toNat_ofNat_of_lt' (by rw [UInt32.size]; omega)
    refine ⟨count, rfl, rfl, ?_, ?_, ?_, ?_⟩
    · dsimp only
      rw [left]
      exact forgiven
    · intro off
      simp [protectionOff, off] at running
    · rw [← interval]
      exact drained.due
    · intro some _
      dsimp only at some ⊢
      rw [left] at some
      rw [if_neg (by omega), drained.deadline, interval]
  next stopped =>
    have bound := lockout.nextRecovery.toNat_lt
    refine ⟨0, rfl, rfl, rfl, fun _ => rfl, by omega, fun _ running => ?_⟩
    omega

theorem on_time_recovers (lockout : LockoutState) (time : UInt64) (runs : time.toNat < 2 ^ 64 - 1) :
    ∃ count, Recovers time lockout (lockout.onTime time) count := by
  obtain ⟨count, recovers⟩ := lockout.recover_recovers time runs
  obtain ⟨recoveryTime, maxTries, failedTries, nextRecovery⟩ := (lockout.recover time).release_recovers time
  refine ⟨count, ?_, ?_, ?_, recovers.off, recovers.due, ?_⟩
  · exact recoveryTime.trans recovers.recoveryTime
  · exact maxTries.trans recovers.maxTries
  · rw [onTime, failedTries]
    exact recovers.forgiven
  · rw [onTime, failedTries, nextRecovery]
    exact recovers.deadline

theorem on_startup_recovers (lockout : LockoutState) :
    lockout.onStartup.recoveryTime = lockout.recoveryTime ∧ lockout.onStartup.maxTries = lockout.maxTries ∧
      lockout.onStartup.failedTries = lockout.failedTries ∧
      (0 < lockout.failedTries.toNat → lockout.onStartup.nextRecovery.toNat = lockout.interval) := by
  have started : 0 < lockout.failedTries.toNat →
      (if 0 < lockout.failedTries then lockout.recoveryTime.toUInt64 * 1000 else 0).toNat = lockout.interval := by
    intro some
    rw [if_pos (by rw [UInt32.lt_iff_toNat_lt]; exact some), interval_to_nat]
  unfold onStartup
  dsimp only
  split
  · split <;> exact ⟨rfl, rfl, rfl, started⟩
  · exact ⟨rfl, rfl, rfl, started⟩

theorem count_pending_failure_recovers (lockout : LockoutState) :
    lockout.countPendingFailure.recoveryTime = lockout.recoveryTime ∧
      lockout.countPendingFailure.maxTries = lockout.maxTries ∧
      lockout.countPendingFailure.nextRecovery = lockout.nextRecovery ∧
      lockout.failedTries.toNat ≤ lockout.countPendingFailure.failedTries.toNat := by
  unfold countPendingFailure
  split
  · exact ⟨rfl, rfl, rfl, Nat.le_refl _⟩
  · split
    next fewer =>
      refine ⟨rfl, rfl, rfl, ?_⟩
      have bound := lockout.maxTries.toNat_lt
      rw [UInt32.lt_iff_toNat_lt] at fewer
      simp only [UInt32.toNat_add, UInt32.reduceToNat]
      omega
    · exact ⟨rfl, rfl, rfl, Nat.le_refl _⟩

end LockoutState

namespace TpmState

-- What a failed comparison does to the counter and its deadline.
structure Penalized (s : TpmState) (guarded : Bool) (after : LockoutState) : Prop where
  recoveryTime : after.recoveryTime = s.lockout.recoveryTime
  maxTries : after.maxTries = s.lockout.maxTries
  free : guarded = false ∨ s.lockout.recoveryTime = 0 →
    after.failedTries = s.lockout.failedTries ∧ after.nextRecovery = s.lockout.nextRecovery
  counted : guarded = true → s.lockout.recoveryTime ≠ 0 →
    after.failedTries.toNat = min (s.lockout.failedTries.toNat + 1) (2 ^ 32 - 1) ∧
      after.nextRecovery.toNat = min (s.clock.time.toNat + s.lockout.interval) (2 ^ 64 - 1)

theorem record_failure_penalizes (s : TpmState) (guarded : Bool) :
    Penalized s guarded (s.recordFailure guarded).lockout := by
  unfold recordFailure LockoutState.protectionOff
  cases guarded with
  | false => exact ⟨rfl, rfl, fun _ => ⟨rfl, rfl⟩, fun impossible => nomatch impossible⟩
  | true =>
      by_cases off : s.lockout.recoveryTime = 0
      · simp only [off, Bool.not_true, Bool.false_eq_true, if_false, beq_self_eq_true, if_true]
        exact ⟨rfl, rfl, fun _ => ⟨rfl, rfl⟩, fun _ running => absurd off running⟩
      · have running : (s.lockout.recoveryTime == 0) = false := by simpa using off
        simp only [running, Bool.not_true, Bool.false_eq_true, if_false]
        refine ⟨rfl, rfl, fun free => ?_, fun _ _ => ⟨?_, ?_⟩⟩
        · rcases free with impossible | impossible
          · cases impossible
          · exact absurd impossible off
        · have bound := s.lockout.failedTries.toNat_lt
          dsimp only
          split
          next capped =>
            rw [capped]
            rfl
          next more =>
            have apart : s.lockout.failedTries.toNat ≠ 2 ^ 32 - 1 := fun same =>
              more (UInt32.toNat_inj.mp same)
            rw [UInt32.toNat_add]
            simp only [UInt32.reduceToNat]
            omega
        · rw [sat_add_to_nat, LockoutState.interval_to_nat]

theorem penalize_penalizes (request : Request) (position : Nat) (attempt : Attempt) (s : TpmState) :
    Penalized s attempt.guarded (penalize request position attempt s).lockout := by
  unfold penalize
  split
  · have counted := record_failure_penalizes s.recordLockoutFailure attempt.guarded
    exact ⟨counted.recoveryTime, counted.maxTries, counted.free, counted.counted⟩
  · exact record_failure_penalizes s attempt.guarded

end TpmState

end Swtrust
