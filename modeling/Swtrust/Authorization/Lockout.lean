import Swtrust.Authorization.Assertions
import Swtrust.Toy

set_option autoImplicit false
set_option linter.unusedSectionVars false

namespace Swtrust

open Library Action

def LockoutState.releaseTime (lockout : LockoutState) (time : UInt64) : UInt64 :=
  if lockout.lockoutRecovery = 0 then 0 else satAdd time (lockout.lockoutRecovery.toUInt64 * 1000)

def LockoutState.Entered (lockout : LockoutState) (time : UInt64) : Prop :=
  lockout.inLockout = true ∧ lockout.lockoutUntil = lockout.releaseTime time

namespace TpmState

theorem entered_of_record_lockout_failure (s : TpmState) :
    s.recordLockoutFailure.lockout.Entered s.recordLockoutFailure.clock.time :=
  ⟨rfl, rfl⟩

theorem record_failure_entered (s : TpmState) (guarded : Bool) :
    (s.recordFailure guarded).lockout.Entered (s.recordFailure guarded).clock.time ↔ s.lockout.Entered s.clock.time := by
  unfold recordFailure
  split
  · rfl
  · split
    · rfl
    · rfl

-- The session at `index` is a policy session that called for the authValue in its HMAC.
def UsesPolicyAuthValue (s : TpmState) (request : Request) (index : Nat) : Prop :=
  ∃ input session, request.sessionAt index = .ok input ∧ input.handle ≠ Rh.rsPw ∧
    s.sessions.get input.handle = .ok session ∧ session.isPolicy = true ∧ session.policy.passwordNeeded = false ∧
    session.policy.authValueNeeded = true

section

variable [Primitives]

theorem entity_of_lockout (s : TpmState) (entity : Entity) (found : s.entity Rh.lockout = .ok entity) :
    entity.pin = none := by
  have name : s.handleName Rh.lockout = .ok (Swtrust.handleName Rh.lockout) := by rfl
  unfold TpmState.entity at found
  rw [name] at found
  obtain rfl := Except.ok.inj found
  rfl

theorem pin_attempt_without_pin (entity : Entity) (none : entity.pin = none) (accepted : Bool) (s : TpmState) :
    pinAttempt entity accepted s = .ok () s := by
  simp only [pinAttempt, run_get_bind, recordPinAttempt, none]
  rfl

theorem attempt_form_iff (s : TpmState) (request : Request) (index : Nat) (entity : Entity) (cp : Bytes)
    (attempt : Attempt) (judged : s.attempt request index entity cp = .ok attempt) :
    attempt.form = .policyAuthValue ↔ s.UsesPolicyAuthValue request index := by
  obtain ⟨input, given, kinds⟩ := attempt_cases s request index entity cp attempt judged
  constructor
  · intro form
    rcases kinds with ⟨_, password⟩ | ⟨notPassword, session, found, ⟨_, hmac⟩ | ⟨policy, facts⟩⟩
    · rw [password] at form
      cases form
    · rw [hmac] at form
      cases form
    · refine ⟨input, session, given, notPassword, found, policy, ?_⟩
      cases password : session.policy.passwordNeeded with
      | true =>
          rw [facts.password password] at form
          cases form
      | false =>
          cases value : session.policy.authValueNeeded with
          | true => exact ⟨rfl, rfl⟩
          | false =>
              rw [facts.neither password value] at form
              cases form
  · rintro ⟨input', session', given', notPassword, found', policy, password, value⟩
    obtain rfl := Except.ok.inj (given.symm.trans given')
    exact (s.attempt_of_policy_session request index entity cp input session' attempt given notPassword found' policy
      judged).authValue password value

-- Where a failed comparison against lockoutAuth leaves the TPM, form by form.
theorem settle_lockout_failure (request : Request) (index : Nat) (entity : Entity) (attempt : Attempt) (s : TpmState)
    (named : request.names index Rh.lockout = true) (pin : entity.pin = none) (failed : attempt.accepted = false)
    (uses : attempt.form ≠ .policyKey) :
    settle request index entity attempt s = .error ((failureCode attempt.guarded).withSession (index + 1))
      (if attempt.form = .policyAuthValue then s.recordFailure attempt.guarded
        else s.recordLockoutFailure.recordFailure attempt.guarded) := by
  obtain ⟨form, guarded, accepted⟩ := attempt
  obtain rfl : accepted = false := failed
  have pinned := pin_attempt_without_pin entity pin false
  cases form with
  | policyKey => exact absurd rfl uses
  | password =>
      simp only [settle, named, Bool.not_false, if_true]
      change (pinAttempt entity false >>= _) _ = _
      simp only [bind, EStateM.bind, pinned]
      rfl
  | policyPassword =>
      simp only [settle, named, Bool.not_false, if_true]
      change (pinAttempt entity false >>= _) _ = _
      simp only [bind, EStateM.bind, pinned]
      rfl
  | hmac =>
      simp only [settle, named, bind, EStateM.bind, pinned]
      rfl
  | policyAuthValue =>
      simp only [settle, bind, EStateM.bind, pinned]
      rfl

theorem lockout_failure_enters_special_lockout (s : TpmState) (request : Request) (index : Nat) (entity : Entity)
    (cp : Bytes) (attempt : Attempt) (named : request.names index Rh.lockout = true)
    (found : s.entity Rh.lockout = .ok entity) (judged : s.attempt request index entity cp = .ok attempt)
    (uses : attempt.form ≠ .policyKey) (failed : attempt.accepted = false) :
    (∃ e s', checkAuthorization request index entity cp s = .error e s' ∧ s'.lockout.Entered s'.clock.time) ↔
      (¬ s.UsesPolicyAuthValue request index ∨ s.lockout.Entered s.clock.time) := by
  have settles := settle_lockout_failure request index entity attempt s named (entity_of_lockout s entity found) failed
    uses
  have follows := s.check_authorization_follows request index entity cp
  rw [Follows, judged] at follows
  unfold settled at follows
  rw [follows]
  simp only [settles, EStateM.Result.error.injEq, ← attempt_form_iff s request index entity cp attempt judged]
  by_cases value : attempt.form = .policyAuthValue
  · simp only [value, if_true, not_true, false_or]
    constructor
    · rintro ⟨_, _, ⟨rfl, rfl⟩, entered⟩
      exact (record_failure_entered s attempt.guarded).mp entered
    · intro entered
      exact ⟨_, _, ⟨rfl, rfl⟩, (record_failure_entered s attempt.guarded).mpr entered⟩
  · simp only [value, if_false, not_false_eq_true, true_or, iff_true]
    exact ⟨_, _, ⟨rfl, rfl⟩, (record_failure_entered s.recordLockoutFailure attempt.guarded).mpr
      (entered_of_record_lockout_failure s)⟩

end

end TpmState

namespace Toy

-- lockoutAuth is one octet and lockoutPolicy asks for it through PolicyAuthValue.
def lockoutGuarded : TpmState :=
  let s := afterCommands [startSession Se.policy, plainCommand Cc.policyAuthValue [policyHandle] []] booted
  let digest := ((s.sessions.sessions.get policyHandle).map (·.policy.digest)).getD []
  { s with lockoutAuth := [1], lockoutPolicy := ⟨Alg.sha256, digest⟩ }

def setsParameters (session : UInt32) (hmac : Bytes) : Request :=
  requestOf (authorizedCommand Cc.dictionaryAttackParameters [Rh.lockout] [(session, hmac)] (List.replicate 12 0))

def guesses (session : UInt32) (hmac : Bytes) (form : AuthForm) (test : TpmState → Bool) : Bool :=
  found (lockoutGuarded.entity Rh.lockout) fun entity =>
    found (lockoutGuarded.attempt (setsParameters session hmac) 0 entity []) (fun attempt =>
      attempt.form == form && !attempt.accepted) &&
    failsWith (TpmState.checkAuthorization (setsParameters session hmac) 0 entity []) lockoutGuarded fun _ s => test s

theorem guess_found (session : UInt32) (hmac : Bytes) (form : AuthForm) (test : TpmState → Bool)
    (guessed : guesses session hmac form test = true) :
    ∃ entity attempt e s', lockoutGuarded.entity Rh.lockout = .ok entity ∧
      lockoutGuarded.attempt (setsParameters session hmac) 0 entity [] = .ok attempt ∧ attempt.form = form ∧
      attempt.accepted = false ∧
      TpmState.checkAuthorization (setsParameters session hmac) 0 entity [] lockoutGuarded = .error e s' ∧
      test s' = true := by
  obtain ⟨entity, named, guessed⟩ := ok_of_found _ _ guessed
  rw [Bool.and_eq_true] at guessed
  obtain ⟨attempt, judged, tried⟩ := ok_of_found _ _ guessed.1
  obtain ⟨e, s', ran, tested⟩ := fails_of_fails_with _ _ _ guessed.2
  simp only [Bool.and_eq_true, beq_iff_eq, Bool.not_eq_true'] at tried
  exact ⟨entity, attempt, e, s', named, judged, tried.1, tried.2, ran, tested⟩

-- A wrong HMAC under PolicyAuthValue leaves the special lockout off.
theorem policy_auth_value_guess_is_free : ∃ entity attempt e s', lockoutGuarded.entity Rh.lockout = .ok entity ∧
    lockoutGuarded.attempt (setsParameters policyHandle [0]) 0 entity [] = .ok attempt ∧
    attempt.form = .policyAuthValue ∧ attempt.accepted = false ∧
    TpmState.checkAuthorization (setsParameters policyHandle [0]) 0 entity [] lockoutGuarded = .error e s' ∧
    s'.lockout.inLockout = false := by
  have guessed : guesses policyHandle [0] .policyAuthValue (fun s => !s.lockout.inLockout) = true := by
    unfold guesses lockoutGuarded
    rw [booted_made]
    decide +kernel
  obtain ⟨entity, attempt, e, s', named, judged, form, failed, ran, tested⟩ := guess_found _ _ _ _ guessed
  exact ⟨entity, attempt, e, s', named, judged, form, failed, ran, by simpa using tested⟩

theorem password_guess_enters_special_lockout : ∃ entity e s', lockoutGuarded.entity Rh.lockout = .ok entity ∧
    TpmState.checkAuthorization (setsParameters Rh.rsPw [0]) 0 entity [] lockoutGuarded = .error e s' ∧
    s'.lockout.Entered s'.clock.time := by
  have guessed : guesses Rh.rsPw [0] .password (fun _ => true) = true := by
    unfold guesses lockoutGuarded
    rw [booted_made]
    decide +kernel
  obtain ⟨entity, attempt, _, _, named, judged, form, failed, _, _⟩ := guess_found _ _ _ _ guessed
  have uses : attempt.form ≠ .policyKey := by
    rw [form]
    decide
  have password : ¬ lockoutGuarded.UsesPolicyAuthValue (setsParameters Rh.rsPw [0]) 0 := by
    rw [← TpmState.attempt_form_iff _ _ _ _ _ _ judged, form]
    decide
  obtain ⟨e, s', ran, entered⟩ := (TpmState.lockout_failure_enters_special_lockout lockoutGuarded
    (setsParameters Rh.rsPw [0]) 0 entity [] attempt (by decide +kernel) named judged uses failed).mpr (.inl password)
  exact ⟨entity, e, s', named, ran, entered⟩

end Toy

end Swtrust
