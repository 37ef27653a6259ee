import Swtrust.Execution
import Swtrust.Authorization.Assertions
import Swtrust.Toy

set_option autoImplicit false
set_option linter.unusedSectionVars false

namespace Swtrust

open Library Action

-- A recorded locality below 32 is a set of the first five; any other is one extended locality.
def Designates (recorded locality : UInt8) : Prop :=
  if recorded < 32 then locality < 5 ∧ recorded &&& (1 <<< locality) ≠ 0 else locality = recorded

def isCreation (code : UInt32) : Bool := ([Cc.create, Cc.createPrimary, Cc.createLoaded] : List UInt32).contains code

namespace TpmState

section

variable [Primitives]

-- What an accepted policy session is to mean for the entity named by `handle` at position `index`.
structure PolicySound (s : TpmState) (request : Request) (index : Nat) (handle : UInt32) (entity : Entity) (cp : Bytes)
    (session : Session) : Prop where
  real : session.isTrial = false
  authPolicy : entity.policy = some (session.authHash, session.policy.digest)
  role : (Handles.role request.code index = .admin ∨ Handles.role request.code index = .dup) →
    session.policy.commandCode = some request.code
  commandCode : ∀ code, session.policy.commandCode = some code → code = request.code
  cpHash : ∀ digest, session.policy.cpHash = some digest → digest = cp
  nameHash : ∀ digest, session.policy.nameHash = some digest →
    s.hashNames session.authHash request.handles = .ok digest
  parametersHash : ∀ digest, session.policy.parametersHash = some digest →
    Hash.digestParts session.authHash [be32 request.code, request.parameters] = .ok digest
  locality : ∀ recorded, session.policy.locality = some recorded → Designates recorded request.locality
  pcrUpdateCounter : ∀ counter, session.policy.pcrUpdateCounter = some counter → counter = s.pcr.updateCounter
  expiration : ∀ limit, session.policy.expiration = some limit →
    session.timeEpoch = s.clock.timeEpoch ∧ s.clock.time ≤ limit
  presence : session.policy.physicalPresenceRequired = true → s.physicalPresence = true
  nvWritten : ∀ written, session.policy.nvWritten = some written →
    ∀ nv, s.nv.get handle = .ok nv → nv.written = written
  templateHash : ∀ digest, session.policy.templateHash = some digest → isCreation request.code = true ∧
    ∃ template, firstSizedParameterAt request.parameters 1 = some template ∧
      Hash.digest session.authHash template = .ok digest

-- The branches of `check_policy` that read the record otherwise than it was meant are not taken.
structure ReadAsMeant (s : TpmState) (request : Request) (handle : UInt32) (session : Session) : Prop where
  locality : ∀ recorded, session.policy.locality = some recorded → recorded < 32
  templateHash : session.policy.templateHash.isSome = true → isCreation request.code = true
  nvWritten : session.policy.nvWritten.isSome = true → ∀ nv, s.nv.get handle = .ok nv →
    ∀ first, s.nv.get (request.handles.headD 0) = .ok first → nv.written = first.written

theorem recorded_equals {α : Type} [DecidableEq α] (recorded : Option α) (actual : α) (e : TpmRc)
    (accepted : checkRecorded recorded actual e = .ok ()) (expected : α) (held : recorded = some expected) :
    expected = actual := by
  simp only [checkRecorded, held, refused_is_ok, ne_eq, not_not] at accepted
  exact accepted.1

theorem recorded_hash_equals (recorded : Option Bytes) (actual : TpmResult Bytes) (position : Nat)
    (accepted : checkRecordedHash recorded actual position = .ok ()) (expected : Bytes) (held : recorded = some expected) :
    actual = .ok expected := by
  simp only [checkRecordedHash, held, bind_is_ok] at accepted
  obtain ⟨made, computed, accepted⟩ := accepted
  by_cases same : expected = made
  · rw [same]
    exact computed
  · rw [if_pos same] at accepted
    cases accepted

theorem policy_digest_equals (entity : Entity) (session : Session) (position : Nat)
    (accepted : checkPolicyDigest entity session position = .ok ()) :
    entity.policy = some (session.authHash, session.policy.digest) := by
  unfold checkPolicyDigest at accepted
  cases policy : entity.policy with
  | none =>
      rw [policy] at accepted
      cases accepted
  | some pair =>
      obtain ⟨policyAlg, policyDigest⟩ := pair
      simp only [policy, refused_is_ok, failAt, not_or, ne_eq, not_not] at accepted
      rw [accepted.1.1, accepted.1.2]

theorem locality_designated_iff (recorded locality : UInt8) (accepted : checkLocality (some recorded) locality = .ok ()) :
    Designates recorded locality ↔ recorded < 32 := by
  simp only [checkLocality, refused_is_ok, and_true] at accepted
  have near : locality < 5 := by
    by_contra far
    rw [if_neg far] at accepted
    simp at accepted
  rw [if_pos near] at accepted
  unfold Designates
  by_cases low : recorded < 32
  · simp only [low, if_true, iff_true]
    exact ⟨near, accepted⟩
  · simp only [low, if_false, iff_false]
    intro same
    rw [← same] at low
    exact low (UInt8.lt_trans near (by decide))

theorem nv_written_first (s : TpmState) (written : Bool) (handles : List UInt32) (position : Nat)
    (accepted : s.checkNvWritten (some written) handles position = .ok ()) :
    ∃ first, s.nv.get (handles.headD 0) = .ok first ∧ first.written = written := by
  unfold checkNvWritten at accepted
  cases found : s.nv.get (handles.headD 0) with
  | error e =>
      rw [found] at accepted
      cases accepted
  | ok first =>
      simp only [found, refused_is_ok, failAt, ne_eq, not_not] at accepted
      exact ⟨first, rfl, accepted.1⟩

theorem template_matches (hashAlg : UInt16) (expected parameters : Bytes) (position : Nat)
    (accepted : checkTemplateHash hashAlg (some expected) parameters position = .ok ()) :
    ∃ template, firstSizedParameterAt parameters 1 = some template ∧ Hash.digest hashAlg template = .ok expected := by
  unfold checkTemplateHash at accepted
  cases given : firstSizedParameterAt parameters 1 with
  | none =>
      rw [given] at accepted
      cases accepted
  | some template =>
      simp only [given, bind_is_ok] at accepted
      obtain ⟨made, computed, accepted⟩ := accepted
      refine ⟨template, rfl, ?_⟩
      by_cases same : expected = made
      · rw [same]
        exact computed
      · rw [if_pos same] at accepted
        cases accepted

theorem policy_accepted_sound_iff (s : TpmState) (request : Request) (index : Nat) (handle : UInt32) (entity : Entity)
    (cp : Bytes) (input : SessionInput) (session : Session) (attempt : Attempt)
    (facts : s.PolicyAccepted request index entity cp input session attempt) :
    s.PolicySound request index handle entity cp session ↔ s.ReadAsMeant request handle session := by
  have holds := facts.assertions
  have localityIff : ∀ recorded, session.policy.locality = some recorded →
      (Designates recorded request.locality ↔ recorded < 32) := by
    intro recorded held
    have accepted := holds.locality
    rw [held] at accepted
    exact locality_designated_iff recorded request.locality accepted
  -- The check of nvWritten reads the Index of the first handle, whichever one is authorized.
  have writtenFirst : ∀ written, session.policy.nvWritten = some written →
      ∃ first, s.nv.get (request.handles.headD 0) = .ok first ∧ first.written = written := by
    intro written held
    have accepted := holds.nvWritten
    rw [held] at accepted
    exact nv_written_first s written request.handles _ accepted
  constructor
  · intro sound
    refine ⟨fun recorded held => (localityIff recorded held).mp (sound.locality recorded held), ?_, ?_⟩
    · intro some
      obtain ⟨digest, held⟩ := Option.isSome_iff_exists.mp some
      exact (sound.templateHash digest held).1
    · intro some nv found first foundFirst
      obtain ⟨written, held⟩ := Option.isSome_iff_exists.mp some
      obtain ⟨first', foundFirst', same⟩ := writtenFirst written held
      obtain rfl := Except.ok.inj (foundFirst.symm.trans foundFirst')
      rw [sound.nvWritten written held nv found, same]
  · intro meant
    exact {
      real := facts.real
      authPolicy := policy_digest_equals entity session _ facts.digest
      role := facts.role
      commandCode := recorded_equals _ _ _ holds.commandCode
      cpHash := recorded_equals _ _ _ holds.cpHash
      nameHash := recorded_hash_equals _ _ _ holds.nameHash
      parametersHash := recorded_hash_equals _ _ _ holds.parametersHash
      locality := fun recorded held => (localityIff recorded held).mpr (meant.locality recorded held)
      pcrUpdateCounter := recorded_equals _ _ _ holds.pcrUpdateCounter
      expiration := by
        intro limit held
        have accepted := holds.expiration
        simp only [checkExpiration, held, refused_is_ok, failAt, not_or, ne_eq, not_not, and_true] at accepted
        exact ⟨accepted.1, UInt64.not_lt.mp accepted.2⟩
      presence := by
        intro required
        have accepted := holds.presence
        simp only [checkPresence, required, refused_is_ok, true_and, and_true] at accepted
        simpa using accepted
      nvWritten := by
        intro written held nv found
        obtain ⟨first, foundFirst, same⟩ := writtenFirst written held
        rw [meant.nvWritten (by rw [held]; rfl) nv found first foundFirst, same]
      templateHash := by
        intro digest held
        have accepted := holds.templateHash
        rw [held] at accepted
        exact ⟨meant.templateHash (by rw [held]; rfl), template_matches _ _ _ _ accepted⟩ }

theorem succeeds_authorize_at (request : Request) (names : List Bytes) (index : Nat) (s s' : TpmState)
    (context : AuthContext) (ran : Succeeds (authorizeAt request names index) s context s') :
    ∃ input handle entity hashAlg cp, request.sessionAt index = .ok input ∧ request.handle index = .ok handle ∧
      s.entity handle = .ok entity ∧ s.authHash input = .ok hashAlg ∧
      Swtrust.cpHash hashAlg request.code names request.parameters = .ok cp ∧
      Succeeds (checkAuthorization request index entity cp) s () s' := by
  unfold authorizeAt at ran
  cases given : request.sessions[index]? with
  | none =>
      rw [given] at ran
      exact (succeeds_throw _ _ _ _ ran).elim
  | some input =>
      rw [given] at ran
      simp only [succeeds_bind, succeeds_get, succeeds_lift, withHandle, map_error_is_ok, succeeds_pure] at ran
      obtain ⟨_, _, ⟨rfl, rfl⟩, handle, _, ⟨named, rfl⟩, entity, _, ⟨found, rfl⟩, hashAlg, _, ⟨hashed, rfl⟩, cp, _,
        ⟨computed, rfl⟩, _, _, authorized, _, rfl⟩ := ran
      refine ⟨input, handle, entity, hashAlg, cp, ?_, named, found, hashed, computed, authorized⟩
      rw [Request.sessionAt, given]

theorem authorized_policy_sound_iff (request : Request) (names : List Bytes) (index : Nat) (s s' : TpmState)
    (context : AuthContext) (input : SessionInput) (session : Session) (handle : UInt32) (entity : Entity)
    (ran : Succeeds (authorizeAt request names index) s context s') (given : request.sessionAt index = .ok input)
    (notPassword : input.handle ≠ Rh.rsPw) (held : s.sessions.get input.handle = .ok session)
    (policy : session.isPolicy = true) (named : request.handle index = .ok handle)
    (found : s.entity handle = .ok entity) :
    ∃ cp, Swtrust.cpHash session.authHash request.code names request.parameters = .ok cp ∧
      (s.PolicySound request index handle entity cp session ↔ s.ReadAsMeant request handle session) := by
  obtain ⟨input', handle', entity', hashAlg, cp, given', named', found', hashed, computed, authorized⟩ :=
    succeeds_authorize_at request names index s s' context ran
  obtain rfl := Except.ok.inj (given.symm.trans given')
  obtain rfl := Except.ok.inj (named.symm.trans named')
  obtain rfl := Except.ok.inj (found.symm.trans found')
  simp only [TpmState.authHash, if_neg notPassword, bind_is_ok, pure_is_ok, held, Except.ok.injEq, exists_eq_left'] at hashed
  obtain ⟨attempt, judged, _, _⟩ := succeeds_check_authorization request index entity cp s s' () authorized
  have facts := s.attempt_of_policy_session request index entity cp input session attempt given notPassword held policy
    judged
  exact ⟨cp, hashed ▸ computed, policy_accepted_sound_iff s request index handle entity cp input session attempt facts⟩

end

end TpmState

namespace Toy

-- lockoutPolicy is the policy of a session on which PolicyLocality was made.
def localityGuarded (locality : UInt8) : TpmState :=
  let s := afterCommands [startSession Se.policy, plainCommand Cc.policyLocality [policyHandle] [locality]] booted
  let digest := ((s.sessions.sessions.get policyHandle).map (·.policy.digest)).getD []
  { s with lockoutPolicy := ⟨Alg.sha256, digest⟩ }

def setsLockout : Request :=
  requestOf (authorizedCommand Cc.dictionaryAttackParameters [Rh.lockout] [(policyHandle, [])] (List.replicate 12 0))

def lockoutNames : List Bytes := [be32 Rh.lockout]

def accepts (locality : UInt8) : Bool :=
  let s := localityGuarded locality
  (s.entity Rh.lockout).isOk && ((s.sessions.sessions.get policyHandle).any fun session =>
    session.isPolicy && session.policy.locality == some locality && session.policy.templateHash.isNone &&
      session.policy.nvWritten.isNone) &&
    endsWith (TpmState.authorizeAt setsLockout lockoutNames 0) s fun _ _ => true

theorem accepted_of_accepts (locality : UInt8) (accepted : accepts locality = true) :
    ∃ entity session context s', (localityGuarded locality).entity Rh.lockout = .ok entity ∧
      (localityGuarded locality).sessions.get policyHandle = .ok session ∧ session.isPolicy = true ∧
      session.policy.locality = some locality ∧ session.policy.templateHash = none ∧ session.policy.nvWritten = none ∧
      Succeeds (TpmState.authorizeAt setsLockout lockoutNames 0) (localityGuarded locality) context s' := by
  simp only [accepts, Bool.and_eq_true, Option.any_eq_true] at accepted
  obtain ⟨⟨made, session, held, ⟨⟨policy, recorded⟩, template⟩, written⟩, ends⟩ := accepted
  obtain ⟨context, s', ran, _⟩ := succeeds_of_ends_with _ _ _ ends
  have stands : (localityGuarded locality).sessions.get policyHandle = .ok session := by
    rw [SessionSlots.get, held]
  cases found : (localityGuarded locality).entity Rh.lockout with
  | error e =>
      rw [found] at made
      cases made
  | ok entity =>
      exact ⟨entity, session, context, s', rfl, stands, policy, by simpa using recorded, by simpa using template,
        by simpa using written, ran⟩

-- A session for the extended locality 33 authorizes at locality 0.
theorem extended_locality_authorizes_elsewhere : ∃ entity session context s',
    (localityGuarded 33).entity Rh.lockout = .ok entity ∧
    (localityGuarded 33).sessions.get policyHandle = .ok session ∧ session.isPolicy = true ∧
    Succeeds (TpmState.authorizeAt setsLockout lockoutNames 0) (localityGuarded 33) context s' ∧
    ∀ cp, ¬ (localityGuarded 33).PolicySound setsLockout 0 Rh.lockout entity cp session := by
  obtain ⟨entity, session, context, s', found, held, policy, recorded, _, _, ran⟩ :=
    accepted_of_accepts 33 (by decide +kernel)
  refine ⟨entity, session, context, s', found, held, policy, ran, fun cp sound => ?_⟩
  have here : Designates 33 0 := sound.locality 33 recorded
  revert here
  unfold Designates
  decide

theorem first_locality_sound : ∃ entity session cp, (localityGuarded 1).sessions.get policyHandle = .ok session ∧
    session.policy.locality = some 1 ∧
    (localityGuarded 1).PolicySound setsLockout 0 Rh.lockout entity cp session := by
  obtain ⟨entity, session, context, s', found, held, policy, recorded, template, written, ran⟩ :=
    accepted_of_accepts 1 (by decide +kernel)
  obtain ⟨cp, _, sound⟩ := TpmState.authorized_policy_sound_iff setsLockout lockoutNames 0 (localityGuarded 1) s' context
    ⟨policyHandle, [], ⟨1⟩, []⟩ session Rh.lockout entity ran (by rfl) (by decide) held policy (by rfl) found
  refine ⟨entity, session, cp, held, recorded, sound.mpr ⟨?_, ?_, ?_⟩⟩
  · intro mask same
    obtain rfl := Option.some.inj (recorded.symm.trans same)
    decide
  · intro some
    rw [template] at some
    cases some
  · intro some
    rw [written] at some
    cases some

end Toy

end Swtrust
