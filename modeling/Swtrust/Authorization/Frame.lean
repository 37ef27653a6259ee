import Swtrust.Authorization.Attempt

set_option autoImplicit false
set_option linter.unusedSectionVars false

namespace Swtrust

open Library Action

namespace TpmState

-- What no authorization changes, whether it is accepted or not.
def outsideGuards (s : TpmState) : TpmState := { s with lockout := {}, nv := NvStore.new }

section

variable [Primitives]

theorem record_pin_attempt_changes (s s' : TpmState) (entity : Entity) (succeeded : Bool)
    (recorded : s.recordPinAttempt entity succeeded = .ok s') : ∃ nv, s' = { s with nv } := by
  unfold recordPinAttempt at recorded
  cases pin : entity.pin with
  | none =>
      simp only [pin, pure_is_ok] at recorded
      exact ⟨s.nv, recorded.symm⟩
  | some handle =>
      simp only [pin, bind_is_ok, pure_is_ok] at recorded
      obtain ⟨_, _, _, _, index, _, rfl⟩ := recorded
      exact ⟨s.nv.put handle index, rfl⟩

-- A view that neither a failed authorization nor a PIN attempt touches.
structure SparedByGuards {υ : Type} (view : TpmState → υ) : Prop where
  pinned : ∀ s nv, view { s with nv } = view s
  counted : ∀ (s : TpmState) failedTries nextRecovery,
    view { s with lockout := { s.lockout with failedTries, nextRecovery } } = view s
  locked : ∀ (s : TpmState) inLockout lockoutUntil,
    view { s with lockout := { s.lockout with inLockout, lockoutUntil } } = view s

theorem outside_guards_spared : SparedByGuards outsideGuards := ⟨fun _ _ => rfl, fun _ _ _ => rfl, fun _ _ _ => rfl⟩

section

variable {υ : Type} {view : TpmState → υ} (spared : SparedByGuards view)

include spared

theorem keeps_pin_attempt (entity : Entity) (succeeded : Bool) : Keeps view (pinAttempt entity succeeded) := by
  intro s
  simp only [pinAttempt, run_get_bind, run_lift_bind]
  cases recorded : s.recordPinAttempt entity succeeded with
  | error e => rfl
  | ok s' =>
      obtain ⟨nv, rfl⟩ := record_pin_attempt_changes s s' entity succeeded recorded
      exact spared.pinned s nv

theorem keeps_count (guarded : Bool) : Keeps view (modify (·.recordFailure guarded) : TpmM PUnit) := by
  refine keeps_modify _ _ fun s => ?_
  unfold recordFailure
  split
  · rfl
  · split
    · rfl
    · exact spared.counted s _ _

theorem keeps_refuse (isLockout guarded : Bool) (position : Nat) :
    Keeps view (refuse isLockout guarded position) := by
  have counted := keeps_bind _ _ _ (keeps_count spared guarded) fun _ =>
    keeps_throw (α := Unit) view ((failureCode guarded).withSession position)
  cases isLockout with
  | false => exact counted
  | true => exact keeps_bind _ _ _ (keeps_modify _ recordLockoutFailure fun s => spared.locked s _ _) fun _ => counted

theorem keeps_refuse_unless (accepted isLockout guarded : Bool) (position : Nat) :
    Keeps view (if !accepted then refuse isLockout guarded position else pure ()) :=
  keeps_ite _ _ _ _ (keeps_refuse spared isLockout guarded position) (keeps_pure _ ())

theorem keeps_settle (request : Request) (index : Nat) (entity : Entity) (attempt : Attempt) :
    Keeps view (settle request index entity attempt) := by
  obtain ⟨form, guarded, accepted⟩ := attempt
  have password : Keeps view (settle request index entity ⟨.password, guarded, accepted⟩) := by
    have pinned := keeps_bind _ _ _ (keeps_pin_attempt spared entity accepted) fun _ =>
      keeps_ite _ (!accepted) _ _ (keeps_throw view ((failureCode guarded).withSession (index + 1)))
        (keeps_pure _ ())
    have counted := keeps_bind _ _ _ (keeps_count spared guarded) fun _ => pinned
    cases accepted with
    | true => exact pinned
    | false =>
        simp only [settle, Bool.not_false, if_true]
        cases request.names index Rh.lockout with
        | false => exact counted
        | true =>
            exact keeps_bind _ _ _ (keeps_modify _ recordLockoutFailure fun s => spared.locked s _ _) fun _ => counted
  have answered : ∀ isLockout, Keeps view (do
      pinAttempt entity accepted
      if !accepted then refuse isLockout guarded (index + 1) : TpmM Unit) := fun isLockout =>
    keeps_bind _ _ _ (keeps_pin_attempt spared entity accepted) fun _ => keeps_refuse_unless spared _ _ _ _
  cases form with
  | password => exact password
  | policyPassword => exact password
  | hmac => exact answered _
  | policyAuthValue => exact answered _
  | policyKey => exact keeps_refuse_unless spared _ _ _ _

end

theorem keeps_check_authorization (request : Request) (index : Nat) (entity : Entity) (cp : Bytes) :
    Keeps outsideGuards (checkAuthorization request index entity cp) := by
  intro s
  rw [s.check_authorization_follows request index entity cp]
  unfold settled
  cases s.attempt request index entity cp with
  | error e => rfl
  | ok attempt => exact keeps_settle outside_guards_spared request index entity attempt s

theorem settle_refuses (request : Request) (index : Nat) (entity : Entity) (attempt : Attempt) (s s' : TpmState)
    (u : Unit) (refused : attempt.accepted = false) : ¬ Succeeds (settle request index entity attempt) s u s' := by
  intro ran
  obtain ⟨form, guarded, accepted⟩ := attempt
  obtain rfl : accepted = false := refused
  cases form <;> cases named : request.names index Rh.lockout <;> simp [settle, refuse, named, succeeds_bind] at ran

theorem succeeds_check_authorization (request : Request) (index : Nat) (entity : Entity) (cp : Bytes)
    (s s' : TpmState) (u : Unit) (ran : Succeeds (checkAuthorization request index entity cp) s u s') :
    ∃ attempt, s.attempt request index entity cp = .ok attempt ∧ attempt.accepted = true ∧
      Succeeds (settle request index entity attempt) s u s' := by
  have follows := s.check_authorization_follows request index entity cp
  rw [Follows] at follows
  rw [Succeeds, follows] at ran
  unfold settled at ran
  cases judged : s.attempt request index entity cp with
  | error e =>
      rw [judged] at ran
      cases ran
  | ok attempt =>
      rw [judged] at ran
      refine ⟨attempt, rfl, ?_, ran⟩
      cases outcome : attempt.accepted with
      | true => rfl
      | false => exact (settle_refuses request index entity attempt s s' u outcome ran).elim

end

end TpmState

end Swtrust
