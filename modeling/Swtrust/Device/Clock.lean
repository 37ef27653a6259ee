import Swtrust.Device.Frame
import Swtrust.Lockout.Rate

set_option autoImplicit false
set_option linter.unusedSectionVars false

namespace Swtrust

open Library Action

theorem sat_add_assoc (a b c : UInt64) (fits : b.toNat + c.toNat < 2 ^ 64) :
    satAdd (satAdd a b) c = satAdd a (b + c) := by
  apply UInt64.toNat_inj.mp
  have sum : (b + c).toNat = b.toNat + c.toNat := by
    rw [UInt64.toNat_add]
    omega
  rw [sat_add_to_nat, sat_add_to_nat, sat_add_to_nat, sum]
  omega

theorem sat_add_zero (a : UInt64) : satAdd a 0 = a := by
  have bound := a.toNat_lt
  apply UInt64.toNat_inj.mp
  rw [sat_add_to_nat]
  change min (a.toNat + 0) _ = _
  omega

theorem sat_add_ge (a b : UInt64) : a ≤ satAdd a b := by
  have bound := a.toNat_lt
  rw [UInt64.le_iff_toNat_le, sat_add_to_nat]
  omega

namespace LockoutState

theorem drain_drain (early late interval : UInt64) (tries : Nat) (next : UInt64) (later : early ≤ late) :
    drain late interval (drain early interval tries next).1 (drain early interval tries next).2 =
      drain late interval tries next := by
  induction tries generalizing next with
  | zero => rfl
  | succ tries ih =>
      by_cases due : next ≤ early
      · have dueLate : next ≤ late := UInt64.le_trans due later
        simp only [drain, if_pos due, if_pos dueLate]
        exact ih _
      · simp only [drain, if_neg due]

theorem drain_le (time interval : UInt64) (tries : Nat) (next : UInt64) : (drain time interval tries next).1 ≤ tries := by
  induction tries generalizing next with
  | zero => exact le_refl 0
  | succ tries ih =>
      unfold drain
      split
      · exact Nat.le_succ_of_le (ih _)
      · exact le_refl _

def runs (lockout : LockoutState) : Prop := !lockout.protectionOff ∧ 0 < lockout.recoveryTime.toUInt64 * 1000

-- What a recovery leaves: the failures that are left and the instant of the next forgiving.
def left (lockout : LockoutState) (time : UInt64) : Nat × UInt64 :=
  drain time (lockout.recoveryTime.toUInt64 * 1000) lockout.failedTries.toNat lockout.nextRecovery

theorem recover_running (lockout : LockoutState) (time : UInt64) (running : lockout.runs) :
    lockout.recover time = { lockout with
      failedTries := UInt32.ofNat (lockout.left time).1
      nextRecovery := if (lockout.left time).1 = 0 then 0 else (lockout.left time).2 } := by
  unfold recover
  exact if_pos running

theorem recover_stopped (lockout : LockoutState) (time : UInt64) (stopped : ¬ lockout.runs) :
    lockout.recover time = lockout := by
  unfold recover
  exact if_neg stopped

theorem left_fits (lockout : LockoutState) (time : UInt64) :
    (UInt32.ofNat (lockout.left time).1).toNat = (lockout.left time).1 := by
  have fewer := drain_le time (lockout.recoveryTime.toUInt64 * 1000) lockout.failedTries.toNat lockout.nextRecovery
  have bound := lockout.failedTries.toNat_lt
  apply UInt32.toNat_ofNat_of_lt'
  rw [UInt32.size]
  unfold left
  omega

theorem recover_recover (lockout : LockoutState) (early late : UInt64) (later : early ≤ late) :
    (lockout.recover early).recover late = lockout.recover late := by
  by_cases running : lockout.runs
  · have composed : drain late (lockout.recoveryTime.toUInt64 * 1000) (lockout.left early).1 (lockout.left early).2 =
        lockout.left late := drain_drain early late _ _ _ later
    have again : (lockout.recover early).runs := by
      rw [recover_running lockout early running]
      exact running
    have whole : (lockout.recover early).left late =
        if (lockout.left early).1 = 0 then (0, 0) else lockout.left late := by
      rw [← composed, recover_running lockout early running]
      unfold left
      dsimp only
      rw [← left, left_fits]
      by_cases none : (lockout.left early).1 = 0
      · rw [if_pos none, if_pos none, none]
        rfl
      · rw [if_neg none, if_neg none]
    rw [recover_running _ late again, whole, recover_running lockout late running]
    by_cases none : (lockout.left early).1 = 0
    · have noneLate : lockout.left late = (0, (lockout.left early).2) := by
        rw [← composed, none]
        rfl
      rw [if_pos none, noneLate, recover_running lockout early running]
      rfl
    · rw [if_neg none, recover_running lockout early running]
  · rw [recover_stopped lockout early running]

theorem release_release (lockout : LockoutState) (early late : UInt64) (later : early ≤ late) :
    (lockout.release early).release late = lockout.release late := by
  unfold release
  by_cases early' : lockout.inLockout ∧ lockout.lockoutUntil ≠ 0 ∧ lockout.lockoutUntil ≤ early
  · have late' : lockout.inLockout ∧ lockout.lockoutUntil ≠ 0 ∧ lockout.lockoutUntil ≤ late :=
      ⟨early'.1, early'.2.1, UInt64.le_trans early'.2.2 later⟩
    rw [if_pos early', if_pos late']
    simp
  · rw [if_neg early']

-- Recovery and the end of the special lockout touch different fields.
theorem release_recover (lockout : LockoutState) (early late : UInt64) :
    (lockout.release early).recover late = (lockout.recover late).release early := by
  have apart : ∀ inLockout lockoutUntil, ({ lockout with inLockout, lockoutUntil } : LockoutState).recover late =
      { lockout.recover late with inLockout, lockoutUntil } := by
    intro inLockout lockoutUntil
    by_cases running : lockout.runs
    · rw [recover_running lockout late running]
      exact recover_running _ late running
    · rw [recover_stopped lockout late running]
      exact recover_stopped _ late running
  have barred : (lockout.recover late).inLockout = lockout.inLockout ∧
      (lockout.recover late).lockoutUntil = lockout.lockoutUntil := by
    by_cases running : lockout.runs
    · rw [recover_running lockout late running]
      exact ⟨rfl, rfl⟩
    · rw [recover_stopped lockout late running]
      exact ⟨rfl, rfl⟩
  unfold release
  rw [barred.1, barred.2]
  split
  · exact apart false 0
  · rfl

theorem on_time_on_time (lockout : LockoutState) (early late : UInt64) (later : early ≤ late) :
    (lockout.onTime early).onTime late = lockout.onTime late := by
  unfold onTime
  rw [release_recover, release_release _ _ _ later, recover_recover _ _ _ later]

end LockoutState

namespace Act

-- The fraction of a second is looked at only while the timer runs.
def countdown (act : Act) : Act := if act.timeout = 0 then { act with fraction := 0 } else act

theorem countdown_stopped (act : Act) (stopped : act.timeout = 0) : act.countdown = { act with fraction := 0 } :=
  if_pos stopped

theorem countdown_running (act : Act) (running : act.timeout ≠ 0) : act.countdown = act := if_neg running

theorem advance_stopped (act : Act) (millis : UInt64) (stopped : act.timeout = 0) : act.advance millis = act :=
  if_pos stopped

theorem countdown_advance (act : Act) (millis : UInt64) :
    (act.countdown.advance millis).countdown = (act.advance millis).countdown := by
  by_cases stopped : act.timeout = 0
  · rw [advance_stopped act millis stopped, countdown_stopped act stopped,
      advance_stopped { act with fraction := 0 } millis stopped]
    exact countdown_stopped { act with fraction := 0 } stopped
  · rw [countdown_running act stopped]

-- What the timer is after so many milliseconds, in numbers.
theorem advance_running (act : Act) (millis : UInt64) (running : act.timeout ≠ 0)
    (fits : act.fraction.toNat + millis.toNat < 2 ^ 64) :
    act.advance millis =
      if act.timeout.toNat ≤ (act.fraction.toNat + millis.toNat) / 1000 then
        { act with fraction := UInt64.ofNat ((act.fraction.toNat + millis.toNat) % 1000), timeout := 0, signaled := true }
      else { act with
        fraction := UInt64.ofNat ((act.fraction.toNat + millis.toNat) % 1000)
        timeout := UInt32.ofNat (act.timeout.toNat - (act.fraction.toNat + millis.toNat) / 1000) } := by
  have total : (satAdd act.fraction millis).toNat = act.fraction.toNat + millis.toNat := by
    rw [sat_add_to_nat]
    omega
  have seconds : (satAdd act.fraction millis / 1000).toNat = (act.fraction.toNat + millis.toNat) / 1000 := by
    rw [UInt64.toNat_div, total]
    rfl
  have rest : satAdd act.fraction millis % 1000 = UInt64.ofNat ((act.fraction.toNat + millis.toNat) % 1000) := by
    apply UInt64.toNat_inj.mp
    rw [UInt64.toNat_mod, total, UInt64.toNat_ofNat_of_lt' (by rw [UInt64.size]; omega)]
    rfl
  have small := act.timeout.toNat_lt
  have some : act.timeout.toNat ≠ 0 := fun none => running (UInt32.toNat_inj.mp none)
  unfold advance
  rw [if_neg running]
  dsimp only
  rw [rest]
  by_cases whole : satAdd act.fraction millis / 1000 = 0
  · have none : (act.fraction.toNat + millis.toNat) / 1000 = 0 := by
      rw [← seconds, whole]
      rfl
    rw [if_pos whole, none, if_neg (by omega), Nat.sub_zero, UInt32.ofNat_toNat]
  · rw [if_neg whole]
    have due : act.timeout.toUInt64 ≤ satAdd act.fraction millis / 1000 ↔
        act.timeout.toNat ≤ (act.fraction.toNat + millis.toNat) / 1000 := by
      rw [UInt64.le_iff_toNat_le, seconds, UInt32.toNat_toUInt64]
    by_cases spent : act.timeout.toNat ≤ (act.fraction.toNat + millis.toNat) / 1000
    · rw [if_pos (due.mpr spent), if_pos spent]
    · rw [if_neg (mt due.mp spent), if_neg spent]
      have less : act.timeout - (satAdd act.fraction millis / 1000).toUInt32 =
          UInt32.ofNat (act.timeout.toNat - (act.fraction.toNat + millis.toNat) / 1000) := by
        apply UInt32.toNat_inj.mp
        rw [UInt32.toNat_sub, UInt64.toNat_toUInt32, seconds,
          UInt32.toNat_ofNat_of_lt' (by rw [UInt32.size]; omega)]
        omega
      rw [less]

theorem advance_advance (act : Act) (first second : UInt64) (fraction : act.fraction.toNat < 1000)
    (fits : 1000 + first.toNat + second.toNat < 2 ^ 64) :
    ((act.advance first).advance second).countdown = (act.advance (first + second)).countdown := by
  have sum : (first + second).toNat = first.toNat + second.toNat := by
    rw [UInt64.toNat_add]
    omega
  by_cases stopped : act.timeout = 0
  · rw [advance_stopped act first stopped, advance_stopped act second stopped, advance_stopped act _ stopped]
  · have small := act.timeout.toNat_lt
    rw [advance_running act (first + second) stopped (by omega), sum]
    rw [advance_running act first stopped (by omega)]
    by_cases spent : act.timeout.toNat ≤ (act.fraction.toNat + first.toNat) / 1000
    · rw [if_pos spent, if_pos (by omega), advance_stopped _ _ rfl]
      rfl
    · rw [if_neg spent]
      have rest : (UInt64.ofNat ((act.fraction.toNat + first.toNat) % 1000)).toNat =
          (act.fraction.toNat + first.toNat) % 1000 :=
        UInt64.toNat_ofNat_of_lt' (by rw [UInt64.size]; omega)
      have remaining : (UInt32.ofNat (act.timeout.toNat - (act.fraction.toNat + first.toNat) / 1000)).toNat =
          act.timeout.toNat - (act.fraction.toNat + first.toNat) / 1000 :=
        UInt32.toNat_ofNat_of_lt' (by rw [UInt32.size]; omega)
      have running : UInt32.ofNat (act.timeout.toNat - (act.fraction.toNat + first.toNat) / 1000) ≠ 0 := by
        intro none
        rw [none] at remaining
        change 0 = _ at remaining
        omega
      rw [advance_running _ second running (by dsimp only; omega)]
      dsimp only
      rw [rest, remaining]
      have seconds : ((act.fraction.toNat + first.toNat) % 1000 + second.toNat) / 1000 +
          (act.fraction.toNat + first.toNat) / 1000 = (act.fraction.toNat + (first.toNat + second.toNat)) / 1000 := by
        omega
      have fractions : ((act.fraction.toNat + first.toNat) % 1000 + second.toNat) % 1000 =
          (act.fraction.toNat + (first.toNat + second.toNat)) % 1000 := by
        omega
      rw [fractions, ← seconds]
      by_cases later : act.timeout.toNat - (act.fraction.toNat + first.toNat) / 1000 ≤
          ((act.fraction.toNat + first.toNat) % 1000 + second.toNat) / 1000
      · rw [if_pos later, if_pos (by omega)]
      · rw [if_neg later, if_neg (by omega), Nat.sub_sub, Nat.add_comm]

end Act

-- What of a TPM the passing of time moves.
structure Timed where
  clock : UInt64
  time : UInt64
  rateAdjust : Int
  rateRemainder : Int
  lockout : LockoutState
  act : Act
  deriving DecidableEq

namespace Timed

-- The rate is one that TPM2_ClockRateAdjust accepts, and what is carried is less than a whole unit.
structure Paced (t : Timed) : Prop where
  slow : -100 ≤ t.rateAdjust
  fast : t.rateAdjust ≤ 100
  carried : 0 ≤ t.rateRemainder
  small : t.rateRemainder < 1000
  fraction : t.act.fraction.toNat < 1000

-- The thousandths of a millisecond that are due after `millis`.
def due (t : Timed) (millis : Nat) : Int := millis * (1000 + t.rateAdjust) + t.rateRemainder

-- The thousandths fit the `i64` that the source counts them in.
def Fits (t : Timed) (millis : Nat) : Prop := t.due millis ≤ 2 ^ 63 - 1

def credit (t : Timed) (millis : UInt64) (rateRemainder : Int) : Timed :=
  if millis = 0 then { t with rateRemainder }
  else { t with
    rateRemainder
    clock := satAdd t.clock millis
    time := satAdd t.time millis
    lockout := t.lockout.onTime (satAdd t.time millis)
    act := (t.act.advance millis).countdown }

def elapse (t : Timed) (millis : Nat) : Timed :=
  t.credit (UInt64.ofNat (t.due millis / 1000).toNat) (t.due millis % 1000)

theorem credit_credit (t : Timed) (first second : UInt64) (carried last : Int) (fraction : t.act.fraction.toNat < 1000)
    (fits : 1000 + first.toNat + second.toNat < 2 ^ 64) :
    (t.credit first carried).credit second last = t.credit (first + second) last := by
  have sum : (first + second).toNat = first.toNat + second.toNat := by
    rw [UInt64.toNat_add]
    omega
  by_cases none : first = 0
  · subst none
    rw [UInt64.zero_add]
    rfl
  · by_cases last : second = 0
    · subst last
      rw [UInt64.add_zero]
      unfold credit
      rw [if_neg none, if_neg none, if_pos rfl]
    · have some : first + second ≠ 0 := by
        intro zero
        have numbers := congrArg UInt64.toNat zero
        rw [sum] at numbers
        exact none (UInt64.toNat_inj.mp (by change _ = 0; change _ = 0 at numbers; omega))
      have later : satAdd t.time first ≤ satAdd (satAdd t.time first) second := sat_add_ge _ _
      unfold credit
      rw [if_neg none, if_neg last, if_neg some]
      dsimp only
      rw [Act.countdown_advance, Act.advance_advance t.act first second fraction fits,
        LockoutState.on_time_on_time _ _ _ later, sat_add_assoc _ _ _ (by omega), sat_add_assoc _ _ _ (by omega)]

theorem countdown_fraction (act : Act) (fraction : act.fraction.toNat < 1000) : act.countdown.fraction.toNat < 1000 := by
  unfold Act.countdown
  split
  · exact Nat.zero_lt_succ _
  · exact fraction

theorem advance_fraction (act : Act) (millis : UInt64) (fraction : act.fraction.toNat < 1000)
    (fits : 1000 + millis.toNat < 2 ^ 64) : (act.advance millis).countdown.fraction.toNat < 1000 := by
  apply countdown_fraction
  by_cases stopped : act.timeout = 0
  · rw [Act.advance_stopped act millis stopped]
    exact fraction
  · have rest : (UInt64.ofNat ((act.fraction.toNat + millis.toNat) % 1000)).toNat =
        (act.fraction.toNat + millis.toNat) % 1000 := UInt64.toNat_ofNat_of_lt' (by rw [UInt64.size]; omega)
    rw [Act.advance_running act millis stopped (by omega)]
    split
    · dsimp only
      omega
    · dsimp only
      omega

section

variable (t : Timed) (paced : t.Paced)

include paced

theorem due_nonneg (millis : Nat) : 0 ≤ t.due millis := by
  have slow := paced.slow
  have carried := paced.carried
  have product : 0 ≤ (millis : Int) * (1000 + t.rateAdjust) := Int.mul_nonneg (by omega) (by omega)
  unfold due
  omega

theorem credited_fits (millis : Nat) (fits : t.Fits millis) : (t.due millis / 1000).toNat < 2 ^ 63 := by
  have whole := t.due_nonneg paced millis
  unfold Fits at fits
  omega

theorem elapse_paced (millis : Nat) (fits : t.Fits millis) : (t.elapse millis).Paced := by
  have small := t.credited_fits paced millis fits
  have bound : (UInt64.ofNat (t.due millis / 1000).toNat).toNat = (t.due millis / 1000).toNat :=
    UInt64.toNat_ofNat_of_lt' (by rw [UInt64.size]; omega)
  unfold elapse credit
  split
  · exact ⟨paced.slow, paced.fast, by dsimp only; omega, by dsimp only; omega, paced.fraction⟩
  · exact ⟨paced.slow, paced.fast, by dsimp only; omega, by dsimp only; omega,
      advance_fraction t.act _ paced.fraction (by omega)⟩

-- The thousandths of two intervals are those of the first and then those of the second.
theorem due_add (first second : Nat) :
    t.due (first + second) = 1000 * (t.due first / 1000) + (t.elapse first).due second := by
  have rate : (t.elapse first).rateAdjust = t.rateAdjust := by
    unfold elapse credit
    split
    · rfl
    · rfl
  have carried : (t.elapse first).rateRemainder = t.due first % 1000 := by
    unfold elapse credit
    split
    · rfl
    · rfl
  have parts := Int.mul_ediv_add_emod (t.due first) 1000
  have split : ((first + second : Nat) : Int) * (1000 + t.rateAdjust) =
      first * (1000 + t.rateAdjust) + second * (1000 + t.rateAdjust) := by
    rw [Nat.cast_add, Int.add_mul]
  have whole : t.due first = first * (1000 + t.rateAdjust) + t.rateRemainder := rfl
  have later : (t.elapse first).due second = second * (1000 + t.rateAdjust) + t.due first % 1000 := by
    rw [due, rate, carried]
  have total : t.due (first + second) = ((first + second : Nat) : Int) * (1000 + t.rateAdjust) + t.rateRemainder := rfl
  omega

theorem fits_parts (first second : Nat) (fits : t.Fits (first + second)) :
    t.Fits first ∧ (t.elapse first).Fits second := by
  have slow := paced.slow
  have carried := paced.carried
  have whole := t.due_nonneg paced first
  have sum := t.due_add paced first second
  have product : 0 ≤ (second : Int) * (1000 + t.rateAdjust) := Int.mul_nonneg (by omega) (by omega)
  have split : ((first + second : Nat) : Int) * (1000 + t.rateAdjust) =
      first * (1000 + t.rateAdjust) + second * (1000 + t.rateAdjust) := by
    rw [Nat.cast_add, Int.add_mul]
  unfold Fits at *
  refine ⟨?_, by omega⟩
  unfold due at *
  omega

theorem elapse_elapse (first second : Nat) (fits : t.Fits (first + second)) :
    (t.elapse first).elapse second = t.elapse (first + second) := by
  obtain ⟨here, there⟩ := t.fits_parts paced first second fits
  have pacedLater := t.elapse_paced paced first here
  have sum := t.due_add paced first second
  have smallFirst := t.credited_fits paced first here
  have smallSecond := (t.elapse first).credited_fits pacedLater second there
  have smallBoth := t.credited_fits paced (first + second) fits
  have positive := t.due_nonneg paced first
  have later := (t.elapse first).due_nonneg pacedLater second
  have read : ∀ n, n < 2 ^ 63 → (UInt64.ofNat n).toNat = n := fun n small =>
    UInt64.toNat_ofNat_of_lt' (by rw [UInt64.size]; omega)
  have credits : UInt64.ofNat (t.due first / 1000).toNat + UInt64.ofNat ((t.elapse first).due second / 1000).toNat =
      UInt64.ofNat (t.due (first + second) / 1000).toNat := by
    apply UInt64.toNat_inj.mp
    rw [UInt64.toNat_add, read _ smallFirst, read _ smallSecond, read _ smallBoth]
    omega
  have carried : (t.elapse first).due second % 1000 = t.due (first + second) % 1000 := by omega
  have composed := t.credit_credit (UInt64.ofNat (t.due first / 1000).toNat)
    (UInt64.ofNat ((t.elapse first).due second / 1000).toNat) (t.due first % 1000) ((t.elapse first).due second % 1000)
    paced.fraction (by rw [read _ smallFirst, read _ smallSecond]; omega)
  rw [credits, carried] at composed
  rw [← carried] at composed
  exact composed.trans (by rw [carried]; rfl)

end

end Timed

end Swtrust
