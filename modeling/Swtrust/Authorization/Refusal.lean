import Swtrust.Authorization.Assertions
import Swtrust.Commands.Execute

set_option autoImplicit false
set_option linter.unusedSectionVars false

namespace Swtrust

open Library Action

-- The forms that enter the special lockout themselves when lockoutAuth is what failed.
def AuthForm.entersLockout : AuthForm → Bool
  | .password | .policyPassword | .hmac => true
  | .policyAuthValue | .policyKey => false

namespace TpmState

def penalize (request : Request) (index : Nat) (attempt : Attempt) (s : TpmState) : TpmState :=
  (if attempt.form.entersLockout && request.names index Rh.lockout then s.recordLockoutFailure else s).recordFailure
    attempt.guarded

section

variable [Primitives]

-- The comparison that authorizes the handle at `index`, and the entity it is for.
def attemptAt (s : TpmState) (request : Request) (names : List Bytes) (index : Nat) : TpmResult (Entity × Attempt) := do
  match request.sessions[index]? with
  | none => throw (Rc.authMissing.withSession (index + 1))
  | some input => do
    let handle ← request.handle index
    let entity ← withHandle (index + 1) (s.entity handle)
    let hashAlg ← s.authHash input
    let cp ← cpHash hashAlg request.code names request.parameters
    let attempt ← s.attempt request index entity cp
    return (entity, attempt)

theorem attempt_at_is_ok (s : TpmState) (request : Request) (names : List Bytes) (index : Nat) (entity : Entity)
    (attempt : Attempt) :
    s.attemptAt request names index = .ok (entity, attempt) ↔
      ∃ input handle hashAlg cp, request.sessionAt index = .ok input ∧ request.handle index = .ok handle ∧
        s.entity handle = .ok entity ∧ s.authHash input = .ok hashAlg ∧
        Swtrust.cpHash hashAlg request.code names request.parameters = .ok cp ∧
        s.attempt request index entity cp = .ok attempt := by
  unfold attemptAt Request.sessionAt
  cases request.sessions[index]? with
  | none => simp
  | some input =>
      simp only [bind_is_ok, withHandle, map_error_is_ok, pure_is_ok, Prod.mk.injEq, Except.ok.injEq]
      constructor
      · rintro ⟨handle, named, entity, found, hashAlg, hashed, cp, computed, attempt, judged, rfl, rfl⟩
        exact ⟨input, handle, hashAlg, cp, rfl, named, found, hashed, computed, judged⟩
      · rintro ⟨_, handle, hashAlg, cp, rfl, named, found, hashed, computed, judged⟩
        exact ⟨handle, named, entity, found, hashAlg, hashed, cp, computed, attempt, judged, rfl, rfl⟩

theorem authorize_at_follows (s : TpmState) (request : Request) (names : List Bytes) (index : Nat) :
    authorizeAt request names index s = match s.attemptAt request names index with
      | .error e => .error e s
      | .ok (entity, attempt) =>
        (settle request index entity attempt >>= fun _ => pure ⟨entity.name, entity.auth⟩ : TpmM AuthContext) s := by
  unfold authorizeAt attemptAt
  cases request.sessions[index]? with
  | none => rfl
  | some input =>
      simp only [run_get_bind, run_lift_bind]
      cases request.handle index with
      | error e => rfl
      | ok handle =>
          simp only [bind, Except.bind]
          cases withHandle (index + 1) (s.entity handle) with
          | error e => rfl
          | ok entity =>
              dsimp only
              cases s.authHash input with
              | error e => rfl
              | ok hashAlg =>
                  dsimp only
                  cases Swtrust.cpHash hashAlg request.code names request.parameters with
                  | error e => rfl
                  | ok cp =>
                      have follows := s.check_authorization_follows request index entity cp
                      rw [Follows] at follows
                      simp only [EStateM.bind, follows]
                      unfold settled
                      cases s.attempt request index entity cp <;> rfl

theorem pin_attempt_of_available (s : TpmState) (entity : Entity) (accepted : Bool)
    (available : s.checkPinAvailable entity = .ok ()) :
    ∃ nv, pinAttempt entity accepted s = .ok () { s with nv } := by
  simp only [pinAttempt, run_get_bind, run_lift_bind]
  unfold checkPinAvailable at available
  unfold recordPinAttempt
  cases pin : entity.pin with
  | none => exact ⟨s.nv, rfl⟩
  | some handle =>
      simp only [pin, bind_is_ok, guarded_then_is_ok] at available
      obtain ⟨index, found, _, counters, read, _⟩ := available
      have pinned : index.isPin = true := by
        unfold NvIndex.pinCounters at read
        split at read
        · cases read
        next isPin => simpa using isPin
      simp only [found, read, NvIndex.setPinCounters, pinned, bind, Except.bind]
      exact ⟨_, rfl⟩

def policyForm (policy : PolicyState) : AuthForm :=
  if policy.passwordNeeded then .policyPassword else if policy.authValueNeeded then .policyAuthValue else .policyKey

-- Which session an authorization was made with, and so which comparison it came to.
inductive MadeWith (s : TpmState) (input : SessionInput) (form : AuthForm) : Prop where
  | password (handle : input.handle = Rh.rsPw) (same : form = .password)
  | hmac (apart : input.handle ≠ Rh.rsPw) (session : Session) (held : s.sessions.get input.handle = .ok session)
      (plain : session.isPolicy = false) (same : form = .hmac)
  | policy (apart : input.handle ≠ Rh.rsPw) (session : Session) (held : s.sessions.get input.handle = .ok session)
      (policy : session.isPolicy = true) (same : form = policyForm session.policy)

-- What was asked before a comparison was made.
structure Asked (s : TpmState) (request : Request) (index : Nat) (entity : Entity) (input : SessionInput)
    (attempt : Attempt) : Prop where
  guarded : attempt.guarded = s.daProtected input entity
  lockout : s.checkLockout request index input attempt.guarded = .ok ()
  madeWith : s.MadeWith input attempt.form
  available : attempt.form = .policyKey ∨ s.checkPinAvailable entity = .ok ()

theorem attempt_policy_asked (s : TpmState) (request : Request) (index : Nat) (entity : Entity) (cp : Bytes)
    (input : SessionInput) (session : Session) (guarded : Bool) (attempt : Attempt)
    (judged : s.attemptPolicy request index entity cp input session guarded = .ok attempt) :
    attempt.guarded = guarded ∧ attempt.form = policyForm session.policy ∧
      (attempt.form = .policyKey ∨ s.checkPinAvailable entity = .ok ()) := by
  simp only [attemptPolicy, bind_is_ok] at judged
  obtain ⟨_, _, _, _, judged⟩ := judged
  unfold policyForm
  by_cases password : session.policy.passwordNeeded = true
  · rw [if_pos password] at judged ⊢
    obtain ⟨rfl, available⟩ := attempt_password_form s _ _ _ _ _ _ judged
    exact ⟨rfl, rfl, .inr available⟩
  · rw [if_neg password] at judged ⊢
    rw [bind_is_ok] at judged
    obtain ⟨_, _, judged⟩ := judged
    by_cases value : session.policy.authValueNeeded = true
    · rw [if_pos value] at judged ⊢
      simp only [bind_is_ok, withSession, map_error_is_ok, pure_is_ok] at judged
      obtain ⟨_, available, rfl⟩ := judged
      exact ⟨rfl, rfl, .inr available⟩
    · rw [if_neg value] at judged ⊢
      rw [pure_is_ok] at judged
      subst judged
      exact ⟨rfl, rfl, .inl rfl⟩

theorem attempt_asked (s : TpmState) (request : Request) (index : Nat) (entity : Entity) (cp : Bytes)
    (attempt : Attempt) (judged : s.attempt request index entity cp = .ok attempt) :
    ∃ input, request.sessionAt index = .ok input ∧ s.Asked request index entity input attempt := by
  simp only [TpmState.attempt, bind_is_ok] at judged
  obtain ⟨input, given, _, lockout, _, _, judged⟩ := judged
  refine ⟨input, given, ?_⟩
  by_cases password : input.handle = Rh.rsPw
  · rw [if_pos password] at judged
    simp only [bind_is_ok, guarded_then_is_ok] at judged
    obtain ⟨_, _, _, judged⟩ := judged
    obtain ⟨rfl, available⟩ := attempt_password_form s _ _ _ _ _ _ judged
    exact ⟨rfl, lockout, .password password rfl, .inr available⟩
  · rw [if_neg password] at judged
    simp only [bind_is_ok, guarded_then_is_ok] at judged
    obtain ⟨session, held, _, judged⟩ := judged
    by_cases policy : session.isPolicy = true
    · rw [if_pos policy, guarded_then_is_ok] at judged
      obtain ⟨guarded, form, available⟩ :=
        attempt_policy_asked s request index entity cp input session _ attempt judged.2
      exact ⟨guarded, guarded ▸ lockout, .policy password session held policy form, available⟩
    · rw [if_neg policy] at judged
      simp only [bind_is_ok, guarded_then_is_ok, attemptHmac, withSession, map_error_is_ok, pure_is_ok] at judged
      obtain ⟨_, _, _, _, _, _, available, rfl⟩ := judged
      exact ⟨rfl, lockout, .hmac password session held (by simpa using policy) rfl, .inr available⟩

-- Only a policy that asks for no authValue is compared without asking whether a PIN is still available.
theorem attempt_available (s : TpmState) (request : Request) (index : Nat) (entity : Entity) (cp : Bytes)
    (attempt : Attempt) (judged : s.attempt request index entity cp = .ok attempt) :
    attempt.form = .policyKey ∨ s.checkPinAvailable entity = .ok () := by
  obtain ⟨_, _, asked⟩ := s.attempt_asked request index entity cp attempt judged
  exact asked.available

-- A comparison that any authValue enters is made with a session that lockout mode would have barred.
theorem MadeWith.uses_auth_value (s : TpmState) (input : SessionInput) (form : AuthForm)
    (madeWith : s.MadeWith input form) (value : form ≠ .policyKey) : s.usesAuthValue input = true := by
  unfold usesAuthValue
  cases madeWith with
  | password handle same => rw [if_pos handle]
  | hmac apart session held plain same => simp [apart, held, plain]
  | policy apart session held policy same =>
      rw [if_neg apart, held]
      by_contra unused
      simp only [Bool.or_eq_true, not_or, Bool.not_eq_true] at unused
      obtain ⟨⟨_, authValue⟩, password⟩ := unused
      exact value (by simp [same, policyForm, authValue, password])

theorem available_of_same_nv (s t : TpmState) (entity : Entity) (same : t.nv = s.nv)
    (available : s.checkPinAvailable entity = .ok ()) : t.checkPinAvailable entity = .ok () := by
  unfold checkPinAvailable at available ⊢
  rw [same]
  exact available

theorem record_failure_nv (s : TpmState) (guarded : Bool) : (s.recordFailure guarded).nv = s.nv := by
  unfold recordFailure
  split
  · rfl
  · split <;> rfl

theorem penalize_nv (request : Request) (index : Nat) (attempt : Attempt) (s : TpmState) :
    (penalize request index attempt s).nv = s.nv := by
  unfold penalize
  rw [record_failure_nv]
  split <;> rfl

theorem record_failure_with_nv (s : TpmState) (guarded : Bool) (nv : NvStore) :
    ({ s with nv } : TpmState).recordFailure guarded = { s.recordFailure guarded with nv } := by
  unfold recordFailure
  cases guarded with
  | false => rfl
  | true =>
      by_cases off : s.lockout.protectionOff = true
      · simp only [off, if_true]
        rfl
      · simp only [off]
        rfl

theorem penalize_with_nv (request : Request) (index : Nat) (attempt : Attempt) (s : TpmState) (nv : NvStore) :
    penalize request index attempt { s with nv } = { penalize request index attempt s with nv } := by
  unfold penalize
  split
  · exact record_failure_with_nv s.recordLockoutFailure attempt.guarded nv
  · exact record_failure_with_nv s attempt.guarded nv

section

variable (request : Request) (index : Nat) (entity : Entity) (attempt : Attempt) (s : TpmState)
  (available : attempt.form = .policyKey ∨ s.checkPinAvailable entity = .ok ())

include available

-- An accepted comparison moves at most the counter of a PIN Index.
theorem settle_accepted (accepted : attempt.accepted = true) :
    ∃ nv, settle request index entity attempt s = .ok () { s with nv } := by
  obtain ⟨form, guarded, outcome⟩ := attempt
  obtain rfl : outcome = true := accepted
  rcases available with keyed | available
  · obtain rfl : form = .policyKey := keyed
    exact ⟨s.nv, rfl⟩
  · obtain ⟨nv, pinned⟩ := pin_attempt_of_available s entity true available
    cases form with
    | policyKey => exact ⟨s.nv, rfl⟩
    | password =>
        refine ⟨nv, ?_⟩
        change (pinAttempt entity true >>= fun _ => pure ()) s = _
        simp only [bind, EStateM.bind, pinned]
        rfl
    | policyPassword =>
        refine ⟨nv, ?_⟩
        change (pinAttempt entity true >>= fun _ => pure ()) s = _
        simp only [bind, EStateM.bind, pinned]
        rfl
    | hmac =>
        refine ⟨nv, ?_⟩
        simp only [settle, bind, EStateM.bind, pinned]
        rfl
    | policyAuthValue =>
        refine ⟨nv, ?_⟩
        simp only [settle, bind, EStateM.bind, pinned]
        rfl

-- A refused comparison answers an error, and is recorded.
theorem settle_refused (refused : attempt.accepted = false) :
    ∃ e nv, settle request index entity attempt s = .error e { penalize request index attempt s with nv } := by
  obtain ⟨form, guarded, outcome⟩ := attempt
  obtain rfl : outcome = false := refused
  refine ⟨(failureCode guarded).withSession (index + 1), ?_⟩
  rcases available with keyed | available
  · obtain rfl : form = .policyKey := keyed
    exact ⟨(penalize request index ⟨.policyKey, guarded, false⟩ s).nv, rfl⟩
  · have after : ∀ form : AuthForm, ∃ nv, pinAttempt entity false (penalize request index ⟨form, guarded, false⟩ s) =
        .ok () { penalize request index ⟨form, guarded, false⟩ s with nv } := fun form =>
      pin_attempt_of_available _ entity false (available_of_same_nv s _ entity (penalize_nv _ _ _ _) available)
    obtain ⟨nv, pinned⟩ := pin_attempt_of_available s entity false available
    cases form with
    | policyKey => exact ⟨(penalize request index ⟨.policyKey, guarded, false⟩ s).nv, rfl⟩
    | password =>
        obtain ⟨nv, pinned⟩ := after .password
        refine ⟨nv, ?_⟩
        unfold penalize at pinned ⊢
        simp only [settle, Bool.not_false, if_true, AuthForm.entersLockout, Bool.true_and] at pinned ⊢
        cases named : request.names index Rh.lockout with
        | true =>
            simp only [named, if_true] at pinned ⊢
            change (pinAttempt entity false >>= _) _ = _
            simp only [bind, EStateM.bind, pinned]
            rfl
        | false =>
            simp only [named] at pinned ⊢
            change (pinAttempt entity false >>= _) _ = _
            simp only [bind, EStateM.bind]
            erw [pinned]
            rfl
    | policyPassword =>
        obtain ⟨nv, pinned⟩ := after .policyPassword
        refine ⟨nv, ?_⟩
        unfold penalize at pinned ⊢
        simp only [settle, Bool.not_false, if_true, AuthForm.entersLockout, Bool.true_and] at pinned ⊢
        cases named : request.names index Rh.lockout with
        | true =>
            simp only [named, if_true] at pinned ⊢
            change (pinAttempt entity false >>= _) _ = _
            simp only [bind, EStateM.bind, pinned]
            rfl
        | false =>
            simp only [named] at pinned ⊢
            change (pinAttempt entity false >>= _) _ = _
            simp only [bind, EStateM.bind]
            erw [pinned]
            rfl
    | hmac =>
        refine ⟨nv, ?_⟩
        rw [← penalize_with_nv]
        simp only [settle, bind, EStateM.bind, pinned]
        unfold penalize
        cases named : request.names index Rh.lockout <;> rfl
    | policyAuthValue =>
        refine ⟨nv, ?_⟩
        rw [← penalize_with_nv]
        simp only [settle, bind, EStateM.bind, pinned]
        rfl

end

-- The first comparison that fails among those of the authorized handles, if one does.
def refusal (request : Request) (names : List Bytes) : Nat → Nat → TpmState → Option (Nat × Attempt)
  | 0, _, _ => none
  | count + 1, index, s =>
    match s.attemptAt request names index with
    | .error _ => none
    | .ok (entity, attempt) =>
      if attempt.accepted then
        refusal request names count (index + 1) (final (settle request index entity attempt s))
      else some (index, attempt)

-- How a run of authorizations ends: no comparison failed and the lockout is as it was, or one did and is recorded.
structure Authorized (request : Request) (names : List Bytes) (count index : Nat) (s : TpmState)
    (result : EStateM.Result TpmRc TpmState (List AuthContext)) : Prop where
  accepted : refusal request names count index s = none → (final result).lockout = s.lockout
  refused : ∀ position attempt, refusal request names count index s = some (position, attempt) →
    (∃ e s', result = .error e s') ∧ (final result).lockout = (penalize request position attempt s).lockout

theorem record_failure_lockout_of_same (s t : TpmState) (guarded : Bool) (lockout : t.lockout = s.lockout)
    (time : t.clock.time = s.clock.time) : (t.recordFailure guarded).lockout = (s.recordFailure guarded).lockout := by
  unfold recordFailure
  rw [lockout, time]
  split
  · exact lockout
  · split
    · exact lockout
    · rfl

theorem penalize_lockout_of_same (request : Request) (index : Nat) (attempt : Attempt) (s t : TpmState)
    (lockout : t.lockout = s.lockout) (time : t.clock.time = s.clock.time) :
    (penalize request index attempt t).lockout = (penalize request index attempt s).lockout := by
  have entered : t.recordLockoutFailure.lockout = s.recordLockoutFailure.lockout := by
    unfold recordLockoutFailure
    rw [lockout, time]
  unfold penalize
  split
  · exact record_failure_lockout_of_same _ _ _ entered time
  · exact record_failure_lockout_of_same _ _ _ lockout time

theorem authorize_from_settles (request : Request) (names : List Bytes) (count index : Nat) (s : TpmState) :
    Authorized request names count index s (authorizeFrom request names count index s) := by
  induction count generalizing index s with
  | zero => exact ⟨fun _ => rfl, fun _ _ impossible => nomatch impossible⟩
  | succ count ih =>
      have follows := s.authorize_at_follows request names index
      unfold authorizeFrom
      cases judged : s.attemptAt request names index with
      | error e =>
          rw [judged] at follows
          simp only [bind, EStateM.bind, follows]
          refine ⟨fun _ => rfl, fun _ _ impossible => ?_⟩
          simp [refusal, judged] at impossible
      | ok pair =>
          obtain ⟨entity, attempt⟩ := pair
          rw [judged] at follows
          obtain ⟨_, _, _, cp, _, _, _, _, _, tried⟩ :=
            (s.attempt_at_is_ok request names index entity attempt).mp judged
          have available := s.attempt_available request index entity cp attempt tried
          cases outcome : attempt.accepted with
          | true =>
              obtain ⟨nv, settles⟩ := settle_accepted request index entity attempt s available outcome
              simp only [bind, EStateM.bind, settles] at follows
              have rest := ih (index + 1) { s with nv }
              have same : refusal request names (count + 1) index s = refusal request names count (index + 1)
                  { s with nv } := by
                simp only [refusal, judged, outcome, if_true, settles]
                rfl
              simp only [bind, EStateM.bind, follows, pure, EStateM.pure]
              constructor
              · intro none
                rw [same] at none
                have kept := rest.accepted none
                cases ran : authorizeFrom request names count (index + 1) { s with nv } with
                | ok contexts s' =>
                    rw [ran] at kept
                    exact kept
                | error e s' =>
                    rw [ran] at kept
                    exact kept
              · intro position attempt some
                rw [same] at some
                obtain ⟨⟨e, s', ran⟩, kept⟩ := rest.refused position attempt some
                rw [ran] at kept ⊢
                refine ⟨⟨e, s', rfl⟩, kept.trans ?_⟩
                exact penalize_lockout_of_same request position attempt s { s with nv } rfl rfl
          | false =>
              obtain ⟨e, nv, settles⟩ := settle_refused request index entity attempt s available outcome
              simp only [bind, EStateM.bind, settles] at follows
              have here : refusal request names (count + 1) index s = some (index, attempt) := by
                simp only [refusal, judged, outcome]
                rfl
              simp only [bind, EStateM.bind, follows]
              constructor
              · intro none
                rw [here] at none
                cases none
              · intro position other some
                rw [here] at some
                cases some
                exact ⟨⟨e, _, rfl⟩, rfl⟩

end

end TpmState

end Swtrust
