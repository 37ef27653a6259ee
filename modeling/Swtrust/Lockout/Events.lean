import Swtrust.Lockout.Handlers

set_option autoImplicit false
set_option linter.unusedSectionVars false

namespace Swtrust

open Library Action

namespace TpmState

section

variable [Primitives]

-- The state a command finds.
def received (s : TpmState) : TpmState := { s with hcrtmSequence := none }

-- The milliseconds by which an event advances Time.
def passed (s : TpmState) (event : Event) : Nat :=
  match event with
  | .elapse millis => (s.after (.elapse millis)).clock.time.toNat - s.clock.time.toNat
  | _ => 0

def Unrefused (s : TpmState) (event : Event) : Prop :=
  ∀ locality octets ended, event = .command locality octets →
    s.received.refused locality octets ≠ .ok (some ended)

-- The ways an event moves the dictionary attack logic.
inductive LockoutMove (s : TpmState) (event : Event) (after : LockoutView) : Prop where
  | quiet (unrefused : s.Unrefused event) (stands : s.passed event = 0) (same : after = s.lockoutView)
  | elapsed (millis time : UInt64) (passing : event = .elapse millis) (later : s.clock.time ≤ time)
      (passes : s.passed event = time.toNat - s.clock.time.toNat)
      (moved : after = ⟨s.lockout.onTime time, time, s.started⟩)
  | initialized (unrefused : s.Unrefused event) (stands : s.passed event = 0) (time : UInt64)
      (sooner : time = 0 ∨ time = s.clock.time) (moved : after = ⟨s.lockout, time, false⟩)
  | refused (locality : UInt8) (octets : Bytes) (request : Request) (position : Nat) (attempt : Attempt)
      (sent : event = .command locality octets)
      (ended : s.received.refused locality octets = .ok (some (request, position, attempt)))
      (moved : after = ⟨(penalize request position attempt s).lockout, s.clock.time, s.started⟩)
  | administered (unrefused : s.Unrefused event) (locality : UInt8) (octets : Bytes) (request : Request)
      (sent : event = .command locality octets) (parsed : parse octets locality = .ok request)
      (started : s.received.checkStarted request = .ok ())
      (authorized : s.received.authorized locality octets = .ok true) (moved : Administers request.code s.lockoutView after)

theorem sat_add_later (a b : UInt64) : a ≤ satAdd a b := by
  unfold satAdd
  split
  · have bound := a.toNat_lt
    rw [UInt64.le_iff_toNat_le]
    simp only [UInt64.reduceToNat]
    omega
  next fits => exact UInt64.not_lt.mp fits

theorem keeps_on_init : Keeps lockoutView onInit := by
  have last : Keeps lockoutView (modify fun s : TpmState => { s with
      hcrtmBeforeStartup := false
      hcrtmSequence := none
      pcrAllocationPending := false
      hierarchies := { s.hierarchies with platform := { s.hierarchies.platform with enabled := true } } } :
      TpmM PUnit) := keeps_modify _ _ fun s => rfl
  intro s
  unfold onInit
  rw [run_get_bind]
  split
  · rw [run_lift_bind]
    split
    · rfl
    · rfl
  · exact last s

theorem power_on_view (s : TpmState) : s.powerOn.lockoutView = ⟨s.lockout, 0, false⟩ := by
  have start : ∀ s : TpmState, (final (onInit { s with started := false })).lockoutView =
      ⟨s.lockout, s.clock.time, false⟩ := fun s => keeps_on_init { s with started := false }
  have tested : Keeps lockoutView (zoomTest runSelfTests) := keeps_zoom _ _ _ _ fun _ _ => rfl
  unfold powerOn
  refine (tested _).trans ?_
  split
  · have kept := start { s with failureMode := true, testFailure := some "nv write" }
    exact LockoutView.ext (lockout_of_view _ ⟨s.lockout, s.clock.time, false⟩ kept) rfl
      (started_of_view _ ⟨s.lockout, s.clock.time, false⟩ kept)
  · have kept := start s
    exact LockoutView.ext (lockout_of_view _ ⟨s.lockout, s.clock.time, false⟩ kept) rfl
      (started_of_view _ ⟨s.lockout, s.clock.time, false⟩ kept)

theorem hash_end_view (s : TpmState) : s.hashEnd.lockoutView = s.lockoutView := by
  have measured : ∀ (s : TpmState) digest, (measureHcrtm s digest).lockoutView = s.lockoutView := by
    intro s digest
    unfold measureHcrtm
    split
    · rfl
    · rfl
    · split <;> rfl
  have folded : ∀ (digests : List (UInt16 × Bytes)) (s : TpmState),
      (digests.foldl measureHcrtm s).lockoutView = s.lockoutView := by
    intro digests
    induction digests with
    | nil => exact fun s => rfl
    | cons digest rest ih => exact fun s => (ih _).trans (measured s digest)
  unfold hashEnd
  split
  · rfl
  · dsimp only
    split
    · rfl
    · exact folded _ _

theorem advance_time_moves (s : TpmState) (millis : UInt64) :
    LockoutMove s (.elapse millis) (s.after (.elapse millis)).lockoutView := by
  have passes : s.passed (.elapse millis) = (s.after (.elapse millis)).clock.time.toNat - s.clock.time.toNat := rfl
  have unrefused : s.Unrefused (.elapse millis) := fun _ _ _ command => nomatch command
  revert passes
  simp only [after, advanceTime]
  by_cases none : millis = 0
  · simp only [none, if_true]
    exact fun passes => .quiet (none ▸ unrefused) (passes.trans (Nat.sub_self _)) rfl
  · simp only [none, if_false]
    by_cases short : (scaledMillis s.clock millis).1 = 0
    · simp only [short, if_true]
      exact fun passes => .quiet unrefused (passes.trans (Nat.sub_self _)) rfl
    · simp only [short, if_false]
      have later := sat_add_later s.clock.time (scaledMillis s.clock millis).1
      split
      · exact fun passes => .elapsed millis _ rfl later passes rfl
      · exact fun passes => .elapsed millis _ rfl later passes rfl

theorem event_moves_lockout (s : TpmState) (event : Event) : LockoutMove s event (s.after event).lockoutView := by
  cases event with
  | elapse millis => exact advance_time_moves s millis
  | powerOn => exact .initialized (fun _ _ _ command => nomatch command) rfl 0 (.inl rfl) (power_on_view s)
  | powerOff => exact .initialized (fun _ _ _ command => nomatch command) rfl s.clock.time (.inr rfl) rfl
  | nv available => exact .quiet (fun _ _ _ command => nomatch command) rfl rfl
  | physicalPresence asserted => exact .quiet (fun _ _ _ command => nomatch command) rfl rfl
  | hashStart => exact .quiet (fun _ _ _ command => nomatch command) rfl rfl
  | hashData data => exact .quiet (fun _ _ _ command => nomatch command) rfl rfl
  | hashEnd => exact .quiet (fun _ _ _ command => nomatch command) rfl (hash_end_view s)
  | command locality octets =>
      have effect := run_effect locality octets s.received
      by_cases ended : ∃ ended, s.received.refused locality octets = .ok (some ended)
      · obtain ⟨⟨request, position, attempt⟩, ended⟩ := ended
        have moved := effect.refused request position attempt ended
        rw [penalize_lockout_of_view request position attempt s s.received rfl] at moved
        exact .refused locality octets request position attempt rfl ended moved
      · have unrefused : s.Unrefused (.command locality octets) := by
          rintro _ _ other same impossible
          cases same
          exact ended ⟨other, impossible⟩
        rcases effect.otherwise ended with quiet | ⟨request, parsed, started, authorized, handled⟩
        · exact .quiet unrefused rfl quiet
        · obtain ⟨decrypted, v, sameCode, before, handled⟩ := handled
          refine .administered unrefused locality octets request rfl parsed started authorized ?_
          have moved := run_command_administers decrypted v
          rw [sameCode, before, ← handled] at moved
          exact moved

end

end TpmState

end Swtrust
