import Swtrust.Authorization.Frame
import Swtrust.Policy.Narrowing

set_option autoImplicit false
set_option linter.unusedSectionVars false

namespace Swtrust

open Library Action

namespace TpmState

section

variable [Primitives]

-- Every deferred assertion of the session holds for the command.
structure AssertionsHold (s : TpmState) (request : Request) (position : Nat) (cp : Bytes) (session : Session) : Prop where
  commandCode : checkRecorded session.policy.commandCode request.code (Rc.policyCc.withSession position) = .ok ()
  cpHash : checkRecorded session.policy.cpHash cp (Rc.policyFail.withSession position) = .ok ()
  locality : checkLocality session.policy.locality request.locality = .ok ()
  pcrUpdateCounter : checkRecorded session.policy.pcrUpdateCounter s.pcr.updateCounter
    (Rc.pcrChanged.withSession position) = .ok ()
  expiration : s.checkExpiration session position = .ok ()
  secureChannel : checkSecureChannel session.policy = .ok ()
  presence : s.checkPresence session.policy = .ok ()
  nvWritten : s.checkNvWritten session.policy.nvWritten request.handles position = .ok ()
  nameHash : checkRecordedHash session.policy.nameHash (s.hashNames session.authHash request.handles) position = .ok ()
  templateHash : checkTemplateHash session.authHash session.policy.templateHash request.parameters position = .ok ()
  parametersHash : checkRecordedHash session.policy.parametersHash
    (Hash.digestParts session.authHash [be32 request.code, request.parameters]) position = .ok ()

theorem check_assertions_iff (s : TpmState) (request : Request) (position : Nat) (cp : Bytes) (session : Session) :
    s.checkAssertions request position cp session = .ok () ↔ s.AssertionsHold request position cp session := by
  simp only [checkAssertions, bind_is_ok]
  constructor
  · rintro ⟨_, commandCode, _, cpHash, _, locality, _, pcr, _, expiration, _, channel, _, presence, _, written, _, names,
      _, template, parameters⟩
    exact ⟨commandCode, cpHash, locality, pcr, expiration, channel, presence, written, names, template, parameters⟩
  · intro holds
    exact ⟨(), holds.commandCode, (), holds.cpHash, (), holds.locality, (), holds.pcrUpdateCounter, (), holds.expiration,
      (), holds.secureChannel, (), holds.presence, (), holds.nvWritten, (), holds.nameHash, (), holds.templateHash,
      holds.parametersHash⟩

theorem check_locality_masked (locality : UInt8) (a b : UInt8) (masked : ∃ other, a = b &&& other)
    (accepted : checkLocality (some a) locality = .ok ()) : checkLocality (some b) locality = .ok () := by
  obtain ⟨other, rfl⟩ := masked
  simp only [checkLocality, refused_is_ok, and_true] at accepted ⊢
  intro none
  apply accepted
  rw [UInt8.and_assoc, UInt8.and_comm other, ← UInt8.and_assoc, none, UInt8.zero_and]

theorem check_expiration_sooner (s : TpmState) (session : Session) (a b : UInt64) (sooner : a ≤ b)
    (accepted : ¬ (session.timeEpoch ≠ s.clock.timeEpoch ∨ a < s.clock.time)) :
    ¬ (session.timeEpoch ≠ s.clock.timeEpoch ∨ b < s.clock.time) := by
  rintro (apart | later)
  · exact accepted (.inl apart)
  · exact accepted (.inr (UInt64.lt_of_le_of_lt sooner later))

theorem assertions_hold_of_narrows (s : TpmState) (request : Request) (position : Nat) (cp : Bytes)
    (before after : Session) (narrowed : before.Narrows after) (holds : s.AssertionsHold request position cp after) :
    s.AssertionsHold request position cp before where
  commandCode := passes_of_kept (fun r => checkRecorded r _ _ = .ok ()) rfl _ _ narrowed.policy.commandCode
    holds.commandCode
  cpHash := passes_of_kept (fun r => checkRecorded r _ _ = .ok ()) rfl _ _ narrowed.policy.cpHash holds.cpHash
  locality := passes_of_restricts _ (fun r => checkLocality r request.locality = .ok ()) rfl
    (check_locality_masked request.locality) _ _ narrowed.policy.locality holds.locality
  pcrUpdateCounter := passes_of_kept (fun r => checkRecorded r _ _ = .ok ()) rfl _ _ narrowed.policy.pcrUpdateCounter
    holds.pcrUpdateCounter
  expiration := by
    have accepted := holds.expiration
    unfold checkExpiration at accepted ⊢
    cases recorded : before.policy.expiration with
    | none => rfl
    | some limit =>
        obtain ⟨earlier, stands, sooner⟩ := narrowed.policy.expiration limit recorded
        rw [stands] at accepted
        simp only [refused_is_ok, failAt, and_true] at accepted ⊢
        rw [narrowed.sameEpoch] at accepted
        exact check_expiration_sooner s before earlier limit sooner accepted
  secureChannel := by
    have accepted := holds.secureChannel
    unfold checkSecureChannel at accepted ⊢
    cases required : before.policy.secureChannelRequired with
    | false => rfl
    | true => simp [narrowed.policy.secureChannel required] at accepted
  presence := by
    have accepted := holds.presence
    unfold checkPresence at accepted ⊢
    cases required : before.policy.physicalPresenceRequired with
    | false => rfl
    | true =>
        rw [narrowed.policy.physicalPresence required] at accepted
        exact accepted
  nvWritten := passes_of_kept (fun r => s.checkNvWritten r request.handles position = .ok ()) rfl _ _
    narrowed.policy.nvWritten holds.nvWritten
  nameHash := by
    have accepted := holds.nameHash
    rw [narrowed.sameHash] at accepted
    exact passes_of_kept (fun r => checkRecordedHash r _ position = .ok ()) rfl _ _ narrowed.policy.nameHash accepted
  templateHash := by
    have accepted := holds.templateHash
    rw [narrowed.sameHash] at accepted
    exact passes_of_kept (fun r => checkTemplateHash _ r _ position = .ok ()) rfl _ _ narrowed.policy.templateHash accepted
  parametersHash := by
    have accepted := holds.parametersHash
    rw [narrowed.sameHash] at accepted
    exact passes_of_kept (fun r => checkRecordedHash r _ position = .ok ()) rfl _ _ narrowed.policy.parametersHash accepted

-- How a policy session came to be accepted.
structure PolicyAccepted (s : TpmState) (request : Request) (index : Nat) (entity : Entity) (cp : Bytes)
    (input : SessionInput) (session : Session) (attempt : Attempt) : Prop where
  real : session.isTrial = false
  role : (Handles.role request.code index = .admin ∨ Handles.role request.code index = .dup) →
    session.policy.commandCode = some request.code
  digest : checkPolicyDigest entity session (index + 1) = .ok ()
  assertions : s.AssertionsHold request (index + 1) cp session
  password : session.policy.passwordNeeded = true → attempt.form = .policyPassword
  authValue : session.policy.passwordNeeded = false → session.policy.authValueNeeded = true →
    attempt.form = .policyAuthValue
  neither : session.policy.passwordNeeded = false → session.policy.authValueNeeded = false → attempt.form = .policyKey

theorem attempt_policy_form (s : TpmState) (request : Request) (index : Nat) (entity : Entity) (cp : Bytes)
    (input : SessionInput) (session : Session) (guarded : Bool) (attempt : Attempt)
    (judged : s.attemptPolicy request index entity cp input session guarded = .ok attempt) :
    checkPolicyDigest entity session (index + 1) = .ok () ∧ s.AssertionsHold request (index + 1) cp session ∧
      (session.policy.passwordNeeded = true → attempt.form = .policyPassword) ∧
      (session.policy.passwordNeeded = false → session.policy.authValueNeeded = true →
        attempt.form = .policyAuthValue) ∧
      (session.policy.passwordNeeded = false → session.policy.authValueNeeded = false → attempt.form = .policyKey) := by
  simp only [attemptPolicy, bind_is_ok] at judged
  obtain ⟨_, digest, _, assertions, judged⟩ := judged
  refine ⟨digest, (check_assertions_iff s request _ cp session).mp assertions, ?_⟩
  cases password : session.policy.passwordNeeded with
  | true =>
      simp only [password, if_true, attemptPassword, bind_is_ok, pure_is_ok] at judged
      obtain ⟨_, _, rfl⟩ := judged
      simp
  | false =>
      simp only [password, Bool.false_eq_true, if_false, bind_is_ok] at judged
      obtain ⟨expected, _, judged⟩ := judged
      cases value : session.policy.authValueNeeded with
      | true =>
          simp only [value, if_true, bind_is_ok, pure_is_ok] at judged
          obtain ⟨_, _, rfl⟩ := judged
          simp
      | false =>
          simp only [value, Bool.false_eq_true, if_false, pure_is_ok] at judged
          subst judged
          simp

theorem attempt_of_policy_session (s : TpmState) (request : Request) (index : Nat) (entity : Entity) (cp : Bytes)
    (input : SessionInput) (session : Session) (attempt : Attempt) (given : request.sessionAt index = .ok input)
    (notPassword : input.handle ≠ Rh.rsPw) (found : s.sessions.get input.handle = .ok session)
    (policy : session.isPolicy = true) (judged : s.attempt request index entity cp = .ok attempt) :
    s.PolicyAccepted request index entity cp input session attempt := by
  simp only [TpmState.attempt, bind_is_ok, given, Except.ok.injEq, exists_eq_left', if_neg notPassword, found,
    guarded_then_is_ok, policy, if_true] at judged
  obtain ⟨_, _, _, _, real, named, judged⟩ := judged
  obtain ⟨digest, assertions, password, authValue, neither⟩ :=
    attempt_policy_form s request index entity cp input session _ attempt judged
  refine ⟨by simpa using real, ?_, digest, assertions, password, authValue, neither⟩
  intro either
  by_contra other
  exact named ⟨either, other⟩

theorem attempt_password_form (s : TpmState) (form : AuthForm) (index : Nat) (entity : Entity) (input : SessionInput)
    (guarded : Bool) (attempt : Attempt) (judged : s.attemptPassword form index entity input guarded = .ok attempt) :
    attempt = ⟨form, guarded, trimAuth input.hmac == trimAuth entity.auth⟩ ∧ s.checkPinAvailable entity = .ok () := by
  simp only [attemptPassword, bind_is_ok, pure_is_ok, withSession, map_error_is_ok] at judged
  obtain ⟨_, available, rfl⟩ := judged
  exact ⟨rfl, available⟩

-- The three kinds of session, and the form of comparison each leads to.
theorem attempt_cases (s : TpmState) (request : Request) (index : Nat) (entity : Entity) (cp : Bytes)
    (attempt : Attempt) (judged : s.attempt request index entity cp = .ok attempt) :
    ∃ input, request.sessionAt index = .ok input ∧
      (input.handle = Rh.rsPw ∧ attempt.form = .password ∨
        input.handle ≠ Rh.rsPw ∧ ∃ session, s.sessions.get input.handle = .ok session ∧
          (session.isPolicy = false ∧ attempt.form = .hmac ∨
            session.isPolicy = true ∧ s.PolicyAccepted request index entity cp input session attempt)) := by
  have whole := judged
  simp only [TpmState.attempt, bind_is_ok] at judged
  obtain ⟨input, given, _, _, _, _, judged⟩ := judged
  refine ⟨input, given, ?_⟩
  by_cases password : input.handle = Rh.rsPw
  · rw [if_pos password] at judged
    simp only [bind_is_ok, guarded_then_is_ok] at judged
    obtain ⟨_, _, _, judged⟩ := judged
    obtain ⟨rfl, _⟩ := attempt_password_form s _ _ _ _ _ _ judged
    exact .inl ⟨password, rfl⟩
  · rw [if_neg password] at judged
    simp only [bind_is_ok, guarded_then_is_ok] at judged
    obtain ⟨session, found, _, judged⟩ := judged
    refine .inr ⟨password, session, found, ?_⟩
    cases policy : session.isPolicy with
    | true =>
        exact .inr ⟨rfl, s.attempt_of_policy_session request index entity cp input session attempt given password found
          policy whole⟩
    | false =>
        simp only [policy, Bool.false_eq_true, if_false, bind_is_ok, guarded_then_is_ok, attemptHmac, pure_is_ok] at judged
        obtain ⟨_, _, _, _, _, _, _, rfl⟩ := judged
        exact .inl ⟨rfl, rfl⟩

end

end TpmState

end Swtrust
