import Swtrust.Lockout.Rate
import Swtrust.Library.Run
import Swtrust.Toy

set_option autoImplicit false
set_option linter.unusedSectionVars false

namespace Swtrust

open Library Action

namespace TpmState

section

variable [Primitives]

def recordsFailure (s : TpmState) (event : Event) : Bool :=
  match event with
  | .command locality octets =>
    found (s.received.refused locality octets) (fun ended => ended.any fun e => e.2.2.guarded) &&
      !s.lockout.protectionOff
  | _ => false

-- A failure has been recorded, or another recoveryTime has come into force.
def marks (s : TpmState) (event : Event) : Bool :=
  s.recordsFailure event || decide (s.lockout.failedTries < (s.after event).lockout.failedTries) ||
    (s.after event).lockout.recoveryTime != s.lockout.recoveryTime

def forgives (event : Event) : Bool := event.isCommand Cc.dictionaryAttackLockReset || event.isCommand Cc.clear

def fallen (s : TpmState) (event : Event) : Nat :=
  if forgives event then 0 else s.lockout.failedTries.toNat - (s.after event).lockout.failedTries.toNat

end

end TpmState

-- By how much failedTries has come down, and how much Time has passed, since the last mark.
structure Recovery where
  state : TpmState
  drops : Nat
  elapsed : Nat

namespace Recovery

variable [Primitives]

def next (recovery : Recovery) (event : Event) : Recovery :=
  if recovery.state.marks event then ⟨recovery.state.after event, recovery.state.fallen event, 0⟩
  else ⟨recovery.state.after event, recovery.drops + recovery.state.fallen event,
    recovery.elapsed + recovery.state.passed event⟩

def afterAll (recovery : Recovery) (events : List Event) : Recovery := events.foldl next recovery

end Recovery

-- The next failure is forgiven no sooner than the interval allows.
structure OnSchedule (lockout : LockoutState) (time drops elapsed : Nat) : Prop where
  rate : drops * lockout.interval ≤ elapsed
  off : lockout.recoveryTime = 0 → drops = 0
  whole : 0 < lockout.failedTries.toNat → lockout.recoveryTime ≠ 0 → lockout.interval ≤ lockout.nextRecovery.toNat
  deadline : 0 < lockout.failedTries.toNat → lockout.recoveryTime ≠ 0 →
    lockout.nextRecovery.toNat = 2 ^ 64 - 1 ∨
      time + (drops + 1) * lockout.interval ≤ lockout.nextRecovery.toNat + elapsed

namespace OnSchedule

variable (before after : LockoutState) (time drops elapsed : Nat)

theorem interval_lt (lockout : LockoutState) : lockout.interval < 2 ^ 64 - 1 := by
  have bound := lockout.recoveryTime.toNat_lt
  unfold LockoutState.interval
  omega

-- Time starting again only puts the deadline further away.
theorem sooner (schedule : OnSchedule before time drops elapsed) (now : Nat) (earlier : now ≤ time) :
    OnSchedule before now drops elapsed where
  rate := schedule.rate
  off := schedule.off
  whole := schedule.whole
  deadline some running := by
    rcases schedule.deadline some running with never | due
    · exact .inl never
    · exact .inr (by omega)

theorem same_counter (schedule : OnSchedule before time drops elapsed)
    (recoveryTime : after.recoveryTime = before.recoveryTime) (failedTries : after.failedTries = before.failedTries)
    (nextRecovery : after.nextRecovery = before.nextRecovery) : OnSchedule after time drops elapsed := by
  have interval : after.interval = before.interval := by
    unfold LockoutState.interval
    rw [recoveryTime]
  refine ⟨?_, ?_, ?_, ?_⟩
  · rw [interval]
    exact schedule.rate
  · rw [recoveryTime]
    exact schedule.off
  · rw [recoveryTime, failedTries, nextRecovery, interval]
    exact schedule.whole
  · rw [recoveryTime, failedTries, nextRecovery, interval]
    exact schedule.deadline

theorem of_none_failed (lockout : LockoutState) (none : lockout.failedTries = 0)
    (rate : drops * lockout.interval ≤ elapsed) (off : lockout.recoveryTime = 0 → drops = 0) :
    OnSchedule lockout time drops elapsed where
  rate := rate
  off := off
  whole some := by simp [none] at some
  deadline some := by simp [none] at some

theorem start (lockout : LockoutState)
    (deadline : 0 < lockout.failedTries.toNat → lockout.recoveryTime ≠ 0 →
      lockout.nextRecovery.toNat = 2 ^ 64 - 1 ∨ time + lockout.interval ≤ lockout.nextRecovery.toNat) :
    OnSchedule lockout time 0 0 where
  rate := by omega
  off _ := rfl
  whole some running := by
    have bound := interval_lt lockout
    rcases deadline some running with never | due
    · omega
    · omega
  deadline some running := by
    rcases deadline some running with never | due
    · exact .inl never
    · exact .inr (by omega)

theorem restart (lockout : LockoutState) (rate : drops * lockout.interval ≤ elapsed)
    (off : lockout.recoveryTime = 0 → drops = 0)
    (whole : 0 < lockout.failedTries.toNat → lockout.recoveryTime ≠ 0 →
      lockout.interval ≤ lockout.nextRecovery.toNat) : OnSchedule lockout 0 drops elapsed where
  rate := rate
  off := off
  whole := whole
  deadline some running := by
    have whole := whole some running
    have more : (drops + 1) * lockout.interval = drops * lockout.interval + lockout.interval := Nat.succ_mul _ _
    exact .inr (by omega)

theorem pass (now : UInt64) (schedule : OnSchedule before time drops elapsed) (later : time ≤ now.toNat)
    (count : Nat) (recovers : before.Recovers now after count) (runs : now.toNat < 2 ^ 64 - 1) :
    OnSchedule after now.toNat (drops + count) (elapsed + (now.toNat - time)) := by
  have interval : after.interval = before.interval := by
    unfold LockoutState.interval
    rw [recovers.recoveryTime]
  have forgiven := recovers.forgiven
  have due := recovers.due
  have sum : (drops + count) * before.interval = drops * before.interval + count * before.interval := Nat.add_mul _ _ _
  have rate : (drops + count) * before.interval ≤ elapsed + (now.toNat - time) := by
    rcases Nat.eq_zero_or_pos count with rfl | some
    · have rate := schedule.rate
      omega
    · have failed : 0 < before.failedTries.toNat := by omega
      have running : before.recoveryTime ≠ 0 := fun off => by
        have none := recovers.off off
        omega
      have less : (count - 1) * before.interval + before.interval = count * before.interval := by
        rw [← Nat.succ_mul, Nat.succ_eq_add_one, Nat.sub_add_cancel some]
      have more : (drops + 1) * before.interval = drops * before.interval + before.interval := Nat.succ_mul _ _
      have last := due some
      rcases schedule.deadline failed running with never | soon
      · omega
      · omega
  refine ⟨?_, ?_, ?_, ?_⟩
  · rw [interval]
    exact rate
  · intro off
    rw [recovers.recoveryTime] at off
    rw [schedule.off off, recovers.off off]
  · intro some running
    rw [recovers.recoveryTime] at running
    have whole := schedule.whole (by omega) running
    have bound := interval_lt before
    rw [interval, recovers.deadline some running]
    omega
  · intro some running
    rw [recovers.recoveryTime] at running
    have more : (drops + count + 1) * before.interval = (drops + count) * before.interval + before.interval :=
      Nat.succ_mul _ _
    have one : (drops + 1) * before.interval = drops * before.interval + before.interval := Nat.succ_mul _ _
    rw [interval, recovers.deadline some running]
    rcases schedule.deadline (by omega) running with never | soon
    · exact .inl (by omega)
    · omega

end OnSchedule

namespace TpmState

section

variable [Primitives]

-- What keeps a stale deadline from being acted on: another recoveryTime is set while nothing is counted or the deadline
-- is still an interval away, a startup that counts a hidden failure starts the timers, and Time does not saturate.
structure KeepsRate (s : TpmState) (event : Event) : Prop where
  time : (s.after event).clock.time.toNat < 2 ^ 64 - 1
  interval : (s.after event).lockout.recoveryTime ≠ s.lockout.recoveryTime →
    (s.after event).lockout.recoveryTime = 0 ∨ (s.after event).lockout.failedTries = 0 ∨
      s.clock.time.toNat + (s.after event).lockout.interval ≤ s.lockout.nextRecovery.toNat
  startup : event.isCommand Cc.startup = true → s.lockout.failedTries = 0 →
    (s.after event).lockout.failedTries ≠ 0 → (s.after event).started = true

instance (s : TpmState) (event : Event) : Decidable (s.KeepsRate event) :=
  decidable_of_iff (_ ∧ _ ∧ _) ⟨fun ⟨time, interval, startup⟩ => ⟨time, interval, startup⟩,
    fun keeps => ⟨keeps.time, keeps.interval, keeps.startup⟩⟩

theorem records_failure_of_unrefused (s : TpmState) (event : Event) (unrefused : s.Unrefused event) :
    s.recordsFailure event = false := by
  unfold recordsFailure
  split
  next locality octets =>
    rw [Bool.and_eq_false_iff]
    refine .inl ?_
    cases judged : s.received.refused locality octets with
    | error e => rfl
    | ok ended =>
        cases ended with
        | none => rfl
        | some ended => exact absurd judged (unrefused locality octets ended rfl)
  next => rfl

theorem marks_of_same (s : TpmState) (event : Event) (unrecorded : s.recordsFailure event = false)
    (recoveryTime : (s.after event).lockout.recoveryTime = s.lockout.recoveryTime)
    (failedTries : (s.after event).lockout.failedTries.toNat ≤ s.lockout.failedTries.toNat) :
    s.marks event = false := by
  have fewer : ¬ s.lockout.failedTries < (s.after event).lockout.failedTries := by
    rw [UInt32.lt_iff_toNat_lt]
    omega
  simp [marks, unrecorded, recoveryTime, fewer]

theorem fallen_of_more (s : TpmState) (event : Event)
    (failedTries : s.lockout.failedTries.toNat ≤ (s.after event).lockout.failedTries.toNat) : s.fallen event = 0 := by
  unfold fallen
  split
  · rfl
  · omega

theorem is_command_of_parse (locality : UInt8) (octets : Bytes) (request : Request)
    (parsed : parse octets locality = .ok request) : (Event.command locality octets).isCommand request.code = true := by
  simp [Event.isCommand, parsed, found]

end

end TpmState

namespace Recovery

open TpmState

section

variable [Primitives]

def Scheduled (recovery : Recovery) : Prop :=
  OnSchedule recovery.state.lockout recovery.state.clock.time.toNat recovery.drops recovery.elapsed

variable (recovery : Recovery) (event : Event)

theorem next_unmarked (unmarked : recovery.state.marks event = false) :
    recovery.next event = ⟨recovery.state.after event, recovery.drops + recovery.state.fallen event,
      recovery.elapsed + recovery.state.passed event⟩ := by
  simp [next, unmarked]

theorem next_marked (marked : recovery.state.marks event = true) :
    recovery.next event = ⟨recovery.state.after event, recovery.state.fallen event, 0⟩ := by
  simp [next, marked]

-- An event that neither counts nor forgives, and lets no Time pass.
theorem scheduled_of_still (scheduled : recovery.Scheduled) (unrecorded : recovery.state.recordsFailure event = false)
    (stands : recovery.state.passed event = 0)
    (lockout : (recovery.state.after event).lockout = recovery.state.lockout)
    (sooner : (recovery.state.after event).clock.time.toNat ≤ recovery.state.clock.time.toNat) :
    (recovery.next event).Scheduled := by
  have unmarked := marks_of_same recovery.state event unrecorded (by rw [lockout]) (by rw [lockout])
  have kept := fallen_of_more recovery.state event (by rw [lockout])
  rw [next_unmarked recovery event unmarked, stands, kept]
  unfold Scheduled
  dsimp only
  rw [lockout]
  exact scheduled.sooner _ _ _ _ _ sooner

-- A startup: Time is zero again, and what is counted is forgiven no sooner than an interval from there.
theorem scheduled_of_started (scheduled : recovery.Scheduled) (stands : recovery.state.passed event = 0)
    (time : (recovery.state.after event).clock.time = 0)
    (recoveryTime : (recovery.state.after event).lockout.recoveryTime = recovery.state.lockout.recoveryTime)
    (failedTries : recovery.state.lockout.failedTries.toNat ≤ (recovery.state.after event).lockout.failedTries.toNat)
    (whole : 0 < (recovery.state.after event).lockout.failedTries.toNat →
      (recovery.state.after event).lockout.recoveryTime ≠ 0 →
      (recovery.state.after event).lockout.interval ≤ (recovery.state.after event).lockout.nextRecovery.toNat) :
    (recovery.next event).Scheduled := by
  have interval : (recovery.state.after event).lockout.interval = recovery.state.lockout.interval := by
    unfold LockoutState.interval
    rw [recoveryTime]
  have kept := fallen_of_more recovery.state event failedTries
  cases marked : recovery.state.marks event with
  | true =>
      rw [next_marked recovery event marked, kept]
      unfold Scheduled
      dsimp only
      rw [time]
      exact OnSchedule.restart 0 0 _ (by omega) (fun _ => rfl) whole
  | false =>
      rw [next_unmarked recovery event marked, kept, stands]
      unfold Scheduled
      dsimp only
      rw [time]
      refine OnSchedule.restart _ _ _ ?_ ?_ whole
      · rw [interval]
        exact scheduled.rate
      · rw [recoveryTime]
        exact scheduled.off

theorem scheduled_of_restarted (scheduled : recovery.Scheduled) (stands : recovery.state.passed event = 0)
    (restarted : recovery.state.lockoutView.Restarted (recovery.state.after event).lockoutView) :
    (recovery.next event).Scheduled := by
  obtain ⟨lockout, counted, moved⟩ := restarted
  have same := lockout_of_view _ _ moved
  have time := time_of_view _ _ moved
  have started := lockout.on_startup_recovers
  obtain ⟨recoveryTime, failedTries⟩ : lockout.recoveryTime = recovery.state.lockout.recoveryTime ∧
      recovery.state.lockout.failedTries.toNat ≤ lockout.failedTries.toNat := by
    rcases counted with rfl | rfl
    · exact ⟨rfl, Nat.le_refl _⟩
    · have pending := recovery.state.lockout.count_pending_failure_recovers
      exact ⟨pending.1, pending.2.2.2⟩
  refine scheduled_of_started recovery event scheduled stands time ?_ ?_ ?_
  · rw [same]
    exact started.1.trans recoveryTime
  · rw [same]
    dsimp only
    rw [started.2.2.1]
    exact failedTries
  · rw [same]
    dsimp only
    rw [started.2.2.1]
    intro some _
    rw [started.2.2.2 some]
    unfold LockoutState.interval
    rw [started.1]

theorem scheduled_of_half_restarted (scheduled : recovery.Scheduled)
    (unrecorded : recovery.state.recordsFailure event = false) (stands : recovery.state.passed event = 0)
    (half : recovery.state.lockoutView.HalfRestarted (recovery.state.after event).lockoutView)
    (idle : recovery.state.started = false)
    (completes : recovery.state.lockout.failedTries = 0 → (recovery.state.after event).lockout.failedTries ≠ 0 →
      (recovery.state.after event).started = true) :
    (recovery.next event).Scheduled := by
  rcases half with same | ⟨lockout, counted, moved⟩
  · refine scheduled_of_still recovery event scheduled unrecorded stands (lockout_of_view _ _ same) ?_
    have time := time_of_view _ _ same
    exact le_of_eq (congrArg UInt64.toNat time)
  · have same := lockout_of_view _ _ moved
    have time := time_of_view _ _ moved
    have still := started_of_view _ _ moved
    dsimp only at same still
    obtain ⟨recoveryTime, nextRecovery, failedTries⟩ : lockout.recoveryTime = recovery.state.lockout.recoveryTime ∧
        lockout.nextRecovery = recovery.state.lockout.nextRecovery ∧
        recovery.state.lockout.failedTries.toNat ≤ lockout.failedTries.toNat := by
      rcases counted with rfl | rfl
      · exact ⟨rfl, rfl, Nat.le_refl _⟩
      · have pending := recovery.state.lockout.count_pending_failure_recovers
        exact ⟨pending.1, pending.2.2.1, pending.2.2.2⟩
    rw [same] at completes
    refine scheduled_of_started recovery event scheduled stands time ?_ ?_ ?_
    · rw [same]
      exact recoveryTime
    · rw [same]
      exact failedTries
    · rw [same]
      intro some running
      have failed : 0 < recovery.state.lockout.failedTries.toNat := by
        by_contra none
        have zero : recovery.state.lockout.failedTries = 0 := UInt32.toNat_inj.mp (by simpa using none)
        have counting : lockout.failedTries ≠ 0 := fun impossible => by simp [impossible] at some
        have started := completes zero counting
        rw [still] at started
        exact absurd (started.symm.trans idle) (by decide)
      have whole := scheduled.whole failed (recoveryTime ▸ running)
      unfold LockoutState.interval at whole ⊢
      rw [recoveryTime, nextRecovery]
      exact whole

theorem idle_of_startup (s : TpmState) (request : Request) (startup : request.code = Cc.startup)
    (passes : s.received.checkStarted request = .ok ()) : s.started = false := by
  cases started : s.started with
  | false => rfl
  | true =>
      have running : s.received.started = true := started
      simp only [checkStarted, guarded_then_is_ok, guarded_is_ok] at passes
      exact absurd ⟨running, startup⟩ passes.2.2.1

theorem scheduled_of_forgiven (scheduled : recovery.Scheduled) (stands : recovery.state.passed event = 0)
    (forgiven : forgives event = true) (none : (recovery.state.after event).lockout.failedTries = 0) :
    (recovery.next event).Scheduled := by
  have paid : recovery.state.fallen event = 0 := by simp [fallen, forgiven]
  cases marked : recovery.state.marks event with
  | true =>
      rw [next_marked recovery event marked, paid]
      exact OnSchedule.of_none_failed _ _ _ _ none (Nat.zero_mul _).le fun _ => rfl
  | false =>
      have same : (recovery.state.after event).lockout.recoveryTime = recovery.state.lockout.recoveryTime := by
        simp only [marks, Bool.or_eq_false_iff, bne_eq_false_iff_eq] at marked
        exact marked.2
      have interval : (recovery.state.after event).lockout.interval = recovery.state.lockout.interval := by
        unfold LockoutState.interval
        rw [same]
      rw [next_unmarked recovery event marked, paid, stands]
      refine OnSchedule.of_none_failed _ _ _ _ none ?_ ?_
      · rw [interval]
        exact scheduled.rate
      · rw [same]
        exact scheduled.off

theorem scheduled_of_parameters (scheduled : recovery.Scheduled) (keeps : recovery.state.KeepsRate event)
    (unrecorded : recovery.state.recordsFailure event = false) (stands : recovery.state.passed event = 0)
    (maxTries recoveryTime lockoutRecovery : UInt32)
    (set : (recovery.state.after event).lockoutView = { recovery.state.lockoutView with
      lockout := { recovery.state.lockout with maxTries, recoveryTime, lockoutRecovery } }) :
    (recovery.next event).Scheduled := by
  have lockout := lockout_of_view _ _ set
  have now := time_of_view _ _ set
  dsimp only at lockout
  change (recovery.state.after event).clock.time = recovery.state.clock.time at now
  have failedTries : (recovery.state.after event).lockout.failedTries = recovery.state.lockout.failedTries := by
    rw [lockout]
  have nextRecovery : (recovery.state.after event).lockout.nextRecovery = recovery.state.lockout.nextRecovery := by
    rw [lockout]
  have kept := fallen_of_more recovery.state event (by rw [failedTries])
  by_cases same : (recovery.state.after event).lockout.recoveryTime = recovery.state.lockout.recoveryTime
  · have unmarked := marks_of_same recovery.state event unrecorded same (by rw [failedTries])
    rw [next_unmarked recovery event unmarked, kept, stands]
    unfold Scheduled
    dsimp only
    rw [now]
    exact scheduled.same_counter _ _ _ _ _ same failedTries nextRecovery
  · have marked : recovery.state.marks event = true := by simp [marks, same]
    rw [next_marked recovery event marked, kept]
    unfold Scheduled
    dsimp only
    rw [now]
    refine OnSchedule.start _ _ fun some running => .inr ?_
    rw [nextRecovery]
    rcases keeps.interval same with off | none | soon
    · exact absurd off running
    · rw [none] at some
      exact absurd some (by decide)
    · exact soon

theorem scheduled_next (scheduled : recovery.Scheduled) (keeps : recovery.state.KeepsRate event) :
    (recovery.next event).Scheduled := by
  have moves := recovery.state.event_moves_lockout event
  cases moves with
  | quiet unrefused stands same =>
      refine scheduled_of_still recovery event scheduled (records_failure_of_unrefused _ _ unrefused) stands ?_ ?_
      · exact lockout_of_view _ _ same
      · have time := time_of_view _ _ same
        exact le_of_eq (congrArg UInt64.toNat time)
  | initialized unrefused stands time sooner moved =>
      refine scheduled_of_still recovery event scheduled (records_failure_of_unrefused _ _ unrefused) stands ?_ ?_
      · exact lockout_of_view _ _ moved
      · have later := time_of_view _ _ moved
        dsimp only at later
        rw [later]
        rcases sooner with rfl | rfl
        · exact Nat.zero_le _
        · exact Nat.le_refl _
  | elapsed millis time passing later passes moved =>
      have lockout := lockout_of_view _ _ moved
      have now := time_of_view _ _ moved
      dsimp only at lockout now
      have runs := keeps.time
      rw [now] at runs
      obtain ⟨count, recovers⟩ := recovery.state.lockout.on_time_recovers time runs
      have forgiven := recovers.forgiven
      have unrecorded : recovery.state.recordsFailure event = false := by
        rw [passing]
        rfl
      have unmarked := marks_of_same recovery.state event unrecorded (by rw [lockout, recovers.recoveryTime])
        (by rw [lockout]; omega)
      have fell : recovery.state.fallen event = count := by
        have paid : forgives event = false := by
          rw [passing]
          rfl
        simp only [fallen, paid, Bool.false_eq_true, if_false, lockout]
        omega
      rw [next_unmarked recovery event unmarked, fell, passes]
      unfold Scheduled
      dsimp only
      rw [lockout, now]
      exact scheduled.pass _ _ _ _ _ time (UInt64.le_iff_toNat_le.mp later) count recovers runs
  | refused locality octets request position attempt sent ended moved =>
      have lockout := lockout_of_view _ _ moved
      have now := time_of_view _ _ moved
      dsimp only at lockout now
      have penalized := penalize_penalizes request position attempt recovery.state
      rw [← lockout] at penalized
      have stands : recovery.state.passed event = 0 := by
        rw [sent]
        rfl
      -- A refusal that counts starts the interval anew; any other leaves the counter and its date.
      by_cases counts : attempt.guarded = true ∧ recovery.state.lockout.recoveryTime ≠ 0
      · obtain ⟨failedTries, nextRecovery⟩ := penalized.counted counts.1 counts.2
        have bound := recovery.state.lockout.failedTries.toNat_lt
        have kept := fallen_of_more recovery.state event (by omega)
        have marked : recovery.state.marks event = true := by
          have running : recovery.state.lockout.protectionOff = false := by
            simpa [LockoutState.protectionOff] using counts.2
          have recorded : recovery.state.recordsFailure event = true := by
            simp [recordsFailure, sent, found, ended, counts.1, running]
          simp [marks, recorded]
        rw [next_marked recovery event marked, kept]
        unfold Scheduled
        dsimp only
        rw [now]
        refine OnSchedule.start _ _ fun _ _ => ?_
        have interval : (recovery.state.after event).lockout.interval = recovery.state.lockout.interval := by
          unfold LockoutState.interval
          rw [penalized.recoveryTime]
        rw [nextRecovery, interval]
        omega
      · have free : attempt.guarded = false ∨ recovery.state.lockout.recoveryTime = 0 := by
          cases guarded : attempt.guarded with
          | false => exact .inl rfl
          | true => exact .inr (not_not.mp fun running => counts ⟨guarded, running⟩)
        obtain ⟨failedTries, nextRecovery⟩ := penalized.free free
        have unrecorded : recovery.state.recordsFailure event = false := by
          rcases free with unguarded | off
          · simp [recordsFailure, sent, found, ended, unguarded]
          · simp [recordsFailure, sent, LockoutState.protectionOff, off]
        have unmarked := marks_of_same recovery.state event unrecorded penalized.recoveryTime (by rw [failedTries])
        have kept := fallen_of_more recovery.state event (by rw [failedTries])
        rw [next_unmarked recovery event unmarked, stands, kept]
        unfold Scheduled
        dsimp only
        rw [now]
        exact scheduled.same_counter _ _ _ _ _ penalized.recoveryTime failedTries nextRecovery
  | administered unrefused locality octets request sent parsed started authorized moved =>
      have unrecorded := records_failure_of_unrefused recovery.state event unrefused
      have stands : recovery.state.passed event = 0 := by
        rw [sent]
        rfl
      cases moved with
      | quiet same =>
          refine scheduled_of_still recovery event scheduled unrecorded stands (lockout_of_view _ _ same) ?_
          have time := time_of_view _ _ same
          exact le_of_eq (congrArg UInt64.toNat time)
      | restarted startup restarted => exact scheduled_of_restarted recovery event scheduled stands restarted
      | halfRestarted startup half =>
          refine scheduled_of_half_restarted recovery event scheduled unrecorded stands half ?_
            (keeps.startup ?_)
          · exact idle_of_startup recovery.state request startup started
          · rw [sent, ← startup]
            exact is_command_of_parse locality octets request parsed
      | cleared clear reset =>
          refine scheduled_of_forgiven recovery event scheduled stands ?_ ?_
          · have named := is_command_of_parse locality octets request parsed
            rw [clear] at named
            rw [sent, forgives, named, Bool.or_true]
          · exact congrArg LockoutState.failedTries (lockout_of_view _ _ reset)
      | lockReset code cleared =>
          refine scheduled_of_forgiven recovery event scheduled stands ?_ ?_
          · have named := is_command_of_parse locality octets request parsed
            rw [code] at named
            rw [sent, forgives, named, Bool.true_or]
          · exact congrArg LockoutState.failedTries (lockout_of_view _ _ cleared)
      | parameters code maxTries recoveryTime lockoutRecovery set =>
          exact scheduled_of_parameters recovery event scheduled keeps unrecorded stands maxTries recoveryTime
            lockoutRecovery set

end

end Recovery

section

variable [Primitives]

theorem Recovery.state_next (recovery : Recovery) (event : Event) :
    (recovery.next event).state = recovery.state.after event := by
  unfold Recovery.next
  split <;> rfl

theorem Recovery.scheduled_after_all (recovery : Recovery) (events : List Event) (scheduled : recovery.Scheduled)
    (keeps : recovery.state.EveryEvent TpmState.KeepsRate events) : (recovery.afterAll events).Scheduled := by
  have every := every_of_view _ _ Recovery.next Recovery.state Recovery.state_next recovery events keeps
  exact invariant_of_every _ _ Recovery.Scheduled (fun recovery event keeps scheduled =>
    recovery.scheduled_next event scheduled keeps) recovery events every scheduled

theorem manufactured_lockout (seed : Bytes) (s : TpmState) (made : TpmState.manufacture seed = .ok s) :
    s.lockout = {} := by
  simp only [TpmState.manufacture, bind_is_ok, pure_is_ok] at made
  obtain ⟨_, _, _, _, _, _, rfl⟩ := made
  rfl

theorem failed_tries_recover_at_rate (seed : Bytes) (s : TpmState) (made : TpmState.manufacture seed = .ok s)
    (events : List Event) (keeps : s.EveryEvent TpmState.KeepsRate events) :
    ((⟨s, 0, 0⟩ : Recovery).afterAll events).drops ≤
      ((⟨s, 0, 0⟩ : Recovery).afterAll events).elapsed /
        ((⟨s, 0, 0⟩ : Recovery).afterAll events).state.lockout.interval := by
  have started : Recovery.Scheduled ⟨s, 0, 0⟩ := by
    refine OnSchedule.of_none_failed _ _ _ _ ?_ (Nat.zero_mul _).le fun _ => rfl
    rw [manufactured_lockout seed s made]
  have scheduled := Recovery.scheduled_after_all ⟨s, 0, 0⟩ events started keeps
  generalize (⟨s, 0, 0⟩ : Recovery).afterAll events = recovery at scheduled
  by_cases off : recovery.state.lockout.recoveryTime = 0
  · rw [scheduled.off off]
    exact Nat.zero_le _
  · have running : 0 < recovery.state.lockout.interval := by
      have positive : recovery.state.lockout.recoveryTime.toNat ≠ 0 := fun zero => off (UInt32.toNat_inj.mp zero)
      unfold LockoutState.interval
      omega
    rw [Nat.le_div_iff_mul_le running]
    exact scheduled.rate

end

namespace Toy

def parametersCommand (maxTries recoveryTime lockoutRecovery : UInt32) : Bytes :=
  authorizedCommand Cc.dictionaryAttackParameters [Rh.lockout] [(Rh.rsPw, [])]
    (be32 maxTries ++ be32 recoveryTime ++ be32 lockoutRecovery)

-- lockoutAuth is empty, and one octet is a wrong guess at it.
def lockoutGuess : Bytes := authorizedCommand Cc.dictionaryAttackLockReset [Rh.lockout] [(Rh.rsPw, [9])] []

def startupEvents : List Event := [.powerOn, .command 0 (plainCommand Cc.startup [] (be16 Su.clear))]

-- Protection is switched off over a deadline, and on again with a shorter interval long after it.
def staleDeadline : List Event := startupEvents ++ [
  .command 0 (parametersCommand 32 10000 1), .command 0 lockoutGuess, .command 0 lockoutGuess, .elapse 1000,
  .command 0 (parametersCommand 32 0 1), .elapse 20000000, .command 0 (parametersCommand 32 1 1), .elapse 1]

-- The same failure, forgiven ten seconds after it.
def pacedRecovery : List Event := startupEvents ++ [
  .command 0 (parametersCommand 32 10 1), .command 0 lockoutGuess, .elapse 4000, .elapse 6000]

def manufactured (test : TpmState → Bool) : Bool := found (TpmState.manufacture (List.replicate 48 7)) test

theorem stale_deadline_forgives_at_once :
    ¬ ∀ seed s, TpmState.manufacture seed = .ok s → ∀ events,
      ((⟨s, 0, 0⟩ : Recovery).afterAll events).drops ≤
        ((⟨s, 0, 0⟩ : Recovery).afterAll events).elapsed /
          ((⟨s, 0, 0⟩ : Recovery).afterAll events).state.lockout.interval := by
  have fell : manufactured (fun s =>
      let recovery := (⟨s, 0, 0⟩ : Recovery).afterAll staleDeadline
      decide (recovery.elapsed / recovery.state.lockout.interval < recovery.drops)) = true := by
    unfold manufactured
    rw [manufacture_made]
    decide +kernel
  obtain ⟨s, made, fell⟩ := ok_of_found _ _ fell
  intro atRate
  have kept := atRate _ s made staleDeadline
  simp only [decide_eq_true_eq] at fell
  omega

theorem paced_recovery_keeps_rate : ∃ s, TpmState.manufacture (List.replicate 48 7) = .ok s ∧
    ((⟨s, 0, 0⟩ : Recovery).afterAll pacedRecovery).drops = 1 ∧
    ((⟨s, 0, 0⟩ : Recovery).afterAll pacedRecovery).drops ≤
      ((⟨s, 0, 0⟩ : Recovery).afterAll pacedRecovery).elapsed /
        ((⟨s, 0, 0⟩ : Recovery).afterAll pacedRecovery).state.lockout.interval := by
  have paced : manufactured (fun s => decide (s.EveryEvent TpmState.KeepsRate pacedRecovery) &&
      ((⟨s, 0, 0⟩ : Recovery).afterAll pacedRecovery).drops == 1) = true := by
    unfold manufactured
    rw [manufacture_made]
    decide +kernel
  obtain ⟨s, made, paced⟩ := ok_of_found _ _ paced
  simp only [Bool.and_eq_true, decide_eq_true_eq, beq_iff_eq] at paced
  exact ⟨s, made, paced.2, failed_tries_recover_at_rate _ s made pacedRecovery paced.1⟩

end Toy

end Swtrust
