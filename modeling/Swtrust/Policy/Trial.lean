import Swtrust.Library.Simulation
import Swtrust.Policy.Monotone

set_option autoImplicit false
set_option linter.unusedSectionVars false

namespace Swtrust

open Library Action

-- A trial session that has followed the real one so far.
structure Predicts (real trial : Session) : Prop where
  isReal : real.isTrial = false
  isTrial : trial.isTrial = true
  sameHash : trial.authHash = real.authHash
  sameDigest : trial.policy.digest = real.policy.digest

def Request.retarget (request : Request) (position : Nat) (handle : UInt32) : Request :=
  { request with handles := request.handles.set position handle }

theorem trial_is_policy (session : Session) (trial : session.isTrial = true) : session.isPolicy = true := by
  unfold Session.isTrial at trial
  rw [Session.isPolicy, trial, Bool.or_true]

abbrev Agrees {α β : Type} : Action TpmRc Session α → Action TpmRc Session β → Prop :=
  Foretells Predicts fun _ _ => True

theorem agrees_set_policy (f g : PolicyState → PolicyState)
    (same : ∀ real trial, trial.digest = real.digest → (g trial).digest = (f real).digest) :
    Agrees (setPolicy f) (setPolicy g) :=
  foretells_modify Predicts _ _ fun real trial predicts =>
    ⟨predicts.isReal, predicts.isTrial, predicts.sameHash, same real.policy trial.policy predicts.sameDigest⟩

section

variable [Crypto]

theorem agrees_extend_policy (commandCode : UInt32) (data : Bytes) :
    Agrees (extendPolicy commandCode data) (extendPolicy commandCode data) := by
  intro real trial u real' predicts ran
  obtain ⟨digest, rfl⟩ := extend_policy_digest_only _ _ _ _ _ ran
  refine ⟨(), { trial with policy := { trial.policy with digest } }, ?_, ⟨predicts.isReal, predicts.isTrial,
    predicts.sameHash, rfl⟩, trivial⟩
  simp only [extendPolicy, succeeds_bind, succeeds_get, succeeds_lift, succeeds_set] at ran ⊢
  obtain ⟨_, _, ⟨rfl, rfl⟩, extended, _, ⟨made, rfl⟩, same⟩ := ran
  refine ⟨trial, trial, ⟨rfl, rfl⟩, _, trial, ⟨?_, rfl⟩, rfl⟩
  rw [Session.extendPolicy, bind_is_ok] at made ⊢
  obtain ⟨hashed, computed, shape⟩ := made
  rw [pure_is_ok] at shape
  rw [← shape] at same
  have equal : digest = hashed := congrArg (·.policy.digest) same
  refine ⟨hashed, ?_, ?_⟩
  · rw [predicts.sameHash, predicts.sameDigest]
    exact computed
  · rw [pure_is_ok, equal]

theorem agrees_clear_policy_digest : Agrees clearPolicyDigest clearPolicyDigest := by
  refine foretells_get _ _ _ _ fun real trial predicts => ?_
  rw [predicts.sameHash]
  refine foretells_same _ _ _ _ _ fun size _ => ?_
  exact agrees_set_policy _ _ fun _ _ _ => rfl

theorem agrees_policy_authorization_update (commandCode : UInt32) (authName policyRef : Bytes) :
    Agrees (policyAuthorizationUpdate commandCode authName policyRef)
      (policyAuthorizationUpdate commandCode authName policyRef) := by
  refine foretells_bind _ _ _ _ _ _ _ (agrees_extend_policy commandCode authName) fun _ _ _ => ?_
  refine foretells_get _ _ _ _ fun real trial predicts => ?_
  rw [predicts.sameHash, predicts.sameDigest]
  refine foretells_same _ _ _ _ _ fun digest _ => ?_
  exact agrees_set_policy _ _ fun _ _ _ => rfl

-- The trial session skips the check, or passes it.
theorem agrees_checked {α β : Type} (check other : Session → TpmResult Unit) (next : Action TpmRc Session α)
    (follow : Action TpmRc Session β) (skips : ∀ trial, trial.isTrial = true → other trial = .ok ())
    (rest : Agrees next follow) :
    Agrees (do check (← get); next) (do other (← get); follow) := by
  refine foretells_get _ _ _ _ fun real trial predicts => ?_
  exact foretells_lift _ _ _ _ _ _ fun u _ => ⟨(), skips trial predicts.isTrial, rest⟩

end

-- The real session stands at `handle` among the first slots, the trial at `other` among the second.
def Paired (handle other : UInt32) (slots slots' : SessionSlots) : Prop :=
  ∃ real trial, slots.get handle = .ok real ∧ slots'.get other = .ok trial ∧ Predicts real trial

theorem on_policy_session_succeeds {α : Type} (handle : UInt32) (action : Action TpmRc Session α)
    (slots : SessionSlots) (session session' : Session) (a : α) (found : slots.get handle = .ok session)
    (policy : session.isPolicy = true) (ran : Succeeds action session a session') :
    Succeeds (onPolicySession handle action) slots a (slots.put handle session') := by
  simp only [onPolicySession, succeeds_bind, succeeds_get, succeeds_lift]
  refine ⟨slots, slots, ⟨rfl, rfl⟩, session, slots, ⟨?_, rfl⟩, ?_⟩
  · rw [found]
    rfl
  · simp only [policy, Bool.not_true, Bool.false_eq_true, if_false, succeeds_zoom]
    exact ⟨session', ran, rfl⟩

theorem on_policy_session_foretells {α β : Type} (handle other : UInt32) (action : Action TpmRc Session α)
    (follow : Action TpmRc Session β) (agrees : Agrees action follow) :
    Foretells (Paired handle other) (fun _ _ => True) (onPolicySession handle action) (onPolicySession other follow) := by
  intro slots slotsT a slots' paired ran
  obtain ⟨real, trial, held, heldT, predicts⟩ := paired
  obtain ⟨session, session', found, _, inner, rfl⟩ := succeeds_on_policy_session handle action slots slots' a ran
  obtain rfl := Except.ok.inj (held.symm.trans found)
  obtain ⟨b, trial', ran', predicts', _⟩ := agrees real trial a session' predicts inner
  have policy := trial_is_policy trial predicts.isTrial
  refine ⟨b, slotsT.put other trial', on_policy_session_succeeds other follow slotsT trial trial' b heldT policy ran',
    ?_, trivial⟩
  exact ⟨session', trial', SessionSlots.get_put_same _ _ _, SessionSlots.get_put_same _ _ _, predicts'⟩

theorem session_step_foretells {α β γ δ : Type} (handle other : UInt32) (action : Action TpmRc Session α)
    (follow : Action TpmRc Session β) (c : γ) (d : δ) (agrees : Agrees action follow) :
    Foretells (Paired handle other) (fun _ _ => True) (onPolicySession handle action >>= fun _ => pure c)
      (onPolicySession other follow >>= fun _ => pure d) :=
  foretells_bind _ _ _ _ _ _ _ (on_policy_session_foretells handle other action follow agrees)
    fun _ _ _ => foretells_pure _ _ c d trivial

-- The state in which a policy command is made on the real session, and the trial session that it is also made on.
structure TrialSetting (s : TpmState) (request : Request) (handle other : UInt32) (real trial : Session) : Prop where
  held : s.sessions.get handle = .ok real
  predicts : Predicts real trial
  apart : ∀ input ∈ request.sessions, input.handle ≠ other

namespace TrialSetting

variable {s : TpmState} {request : Request} {handle other : UInt32} {real trial : Session}
  (setting : TrialSetting s request handle other real trial)

include setting in
theorem session_of_read (session : Session) (read : s.policySession handle = .ok session) : session = real := by
  simp only [TpmState.policySession, bind_is_ok, withHandle, map_error_is_ok, guarded_then_is_ok, pure_is_ok] at read
  obtain ⟨found, got, _, rfl⟩ := read
  exact Except.ok.inj (got.symm.trans setting.held)

include setting in
theorem trial_read : (s.putSession other trial).policySession other = .ok trial := by
  have found : (s.putSession other trial).sessions.get other = .ok trial := SessionSlots.get_put_same _ _ _
  simp only [TpmState.policySession, bind_is_ok, withHandle, map_error_is_ok, guarded_then_is_ok, pure_is_ok]
  exact ⟨trial, found, by simp [trial_is_policy trial setting.predicts.isTrial], rfl⟩

include setting in
theorem auth_is_policy_same (index : Nat) (request' : Request) (sessions : request'.sessions = request.sessions) :
    (s.putSession other trial).authIsPolicy request' index = s.authIsPolicy request index := by
  simp only [TpmState.authIsPolicy, sessions]
  cases given : request.sessions[index]? with
  | none => rfl
  | some input =>
      have different := setting.apart input (List.mem_of_getElem? given)
      have same : (s.putSession other trial).sessions.get input.handle = s.sessions.get input.handle :=
        SessionSlots.get_put_other _ _ _ _ different
      simp only [same]

end TrialSetting

theorem retarget_handle (request : Request) (position : Nat) (handle other : UInt32)
    (read : request.handle position = .ok handle) : (request.retarget position other).handle position = .ok other := by
  unfold Request.handle at read ⊢
  cases given : request.handles[position]? with
  | none =>
      rw [given] at read
      cases read
  | some found =>
      have inside : position < request.handles.length := by
        by_contra outside
        rw [List.getElem?_eq_none (by omega)] at given
        cases given
      simp [Request.retarget, inside]

theorem retarget_other (request : Request) (position index : Nat) (other : UInt32) (different : index ≠ position) :
    (request.retarget position other).handle index = request.handle index := by
  unfold Request.handle Request.retarget
  rw [List.getElem?_set_ne (Ne.symm different)]

section

variable {s : TpmState} {request : Request} {handle other : UInt32} {real trial : Session}
  (setting : TrialSetting s request handle other real trial) {α β γ δ : Type} (P : γ → δ → Prop)

include setting in
theorem foretells_session (next : Session → PolicyM γ) (follow : Session → PolicyM δ)
    (rest : Foretells (Paired handle other) P (next real) (follow trial)) :
    Foretells (Paired handle other) P (liftM (s.policySession handle) >>= next)
      (liftM ((s.putSession other trial).policySession other) >>= follow) :=
  foretells_lift _ _ _ _ _ _ fun session read =>
    ⟨trial, setting.trial_read, setting.session_of_read session read ▸ rest⟩

theorem foretells_target (position : Nat) (target : request.handle position = .ok handle) (next : UInt32 → PolicyM γ)
    (follow : UInt32 → PolicyM δ) (rest : Foretells (Paired handle other) P (next handle) (follow other)) :
    Foretells (Paired handle other) P (liftM (request.handle position) >>= next)
      (liftM ((request.retarget position other).handle position) >>= follow) := by
  refine foretells_lift _ _ _ _ _ _ fun found read => ⟨other, retarget_handle request position handle other target, ?_⟩
  obtain rfl := Except.ok.inj (target.symm.trans read)
  exact rest

theorem foretells_other (position index : Nat) (different : index ≠ position) (next : UInt32 → PolicyM γ)
    (follow : UInt32 → PolicyM δ)
    (rest : ∀ found, request.handle index = .ok found → Foretells (Paired handle other) P (next found) (follow found)) :
    Foretells (Paired handle other) P (liftM (request.handle index) >>= next)
      (liftM ((request.retarget position other).handle index) >>= follow) := by
  rw [retarget_other request position index other different]
  exact foretells_same _ _ _ _ _ rest

theorem foretells_skips (check skip : TpmResult Unit) (skips : skip = .ok ()) (next : Unit → PolicyM γ)
    (follow : Unit → PolicyM δ) (rest : Foretells (Paired handle other) P (next ()) (follow ())) :
    Foretells (Paired handle other) P (liftM check >>= next) (liftM skip >>= follow) :=
  foretells_lift _ _ _ _ _ _ fun _ _ => ⟨(), skips, rest⟩

end

section

variable [Primitives] {s : TpmState} {request : Request} {handle other : UInt32} {real trial : Session}
  (setting : TrialSetting s request handle other real trial)

theorem record_authorization_agrees (commandCode : UInt32) (cpHashA authName policyRef timeout timeout' : Bytes) :
    Agrees (do
        checkCpHash (← get) cpHashA
        policyAuthorizationUpdate commandCode authName policyRef
        setCpHash cpHashA
        recordExpiration timeout)
      (do
        checkCpHash (← get) cpHashA
        policyAuthorizationUpdate commandCode authName policyRef
        setCpHash cpHashA
        recordExpiration timeout') := by
  refine agrees_checked _ _ _ _ (fun trial isTrial => ?_) ?_
  · simp [checkCpHash, isTrial, pure, Except.pure]
  · refine foretells_bind _ _ _ _ _ _ _ (agrees_policy_authorization_update _ _ _) fun _ _ _ => ?_
    refine foretells_bind _ _ _ _ _ _ _ (agrees_set_policy _ _ fun real trial same => ?_) fun _ _ _ => ?_
    · split
      · exact same
      · exact same
    · refine agrees_set_policy _ _ fun real trial same => ?_
      have left : (real.withExpiration timeout).digest = real.digest := by
        unfold PolicyState.withExpiration
        split <;> rfl
      have right : (trial.withExpiration timeout').digest = trial.digest := by
        unfold PolicyState.withExpiration
        split <;> rfl
      rw [left, right, same]

include setting in
theorem policy_ticket_foretells (target : request.handle 0 = .ok handle) :
    Foretells (Paired handle other) (fun _ _ => True) (policyTicket s request)
      (policyTicket (s.putSession other trial) (request.retarget 0 other)) := by
  refine foretells_target _ 0 target _ _ ?_
  refine foretells_same _ _ _ _ _ fun use _ => ?_
  refine foretells_session setting _ _ _ ?_
  refine foretells_skips _ _ _ ?_ _ _ ?_
  · simp [checkTicket, setting.predicts.isTrial]
  · exact session_step_foretells _ _ _ _ _ _ (record_authorization_agrees _ _ _ _ _ _)

theorem foretells_last {α β : Type} (R : SessionSlots → SessionSlots → Prop) (result : TpmResult α) (other : TpmResult β)
    (ends : ∃ b, other = .ok b) :
    Foretells R (fun _ _ => True) (liftM result : PolicyM α) (liftM other : PolicyM β) := by
  intro slots slotsT a slots' related ran
  rw [succeeds_lift] at ran
  obtain ⟨_, rfl⟩ := ran
  obtain ⟨b, found⟩ := ends
  exact ⟨b, slotsT, (succeeds_lift _ _ _ _).mpr ⟨found, rfl⟩, related, trivial⟩

theorem authorization_timeout_length (start : UInt64) (expiration : UInt32) (withoutNonce : Bool) :
    (authorizationTimeout start expiration withoutNonce).length ≤ 8 := by
  unfold authorizationTimeout
  split
  · simp
  · simp

theorem ticket_response_ok (timeout : Bytes) (ticket : Ticket × List Mac) (short : timeout.length ≤ 8) :
    ∃ reply, ticketResponse timeout ticket = .ok reply := by
  have made : (Tpm2b.new timeout : TpmResult Tpm2bTimeout) = .ok ⟨timeout, short⟩ := dif_pos short
  refine ⟨{ parameters := sized16 timeout ++ ticket.1.marshal, macs := ticket.2 }, ?_⟩
  rw [ticketResponse, made]
  rfl

theorem check_expires_skipped (s : TpmState) (session : Session) (timeout : Bytes) (isTrial : session.isTrial = true) :
    checkExpires s session timeout = .ok () := by
  unfold checkExpires
  cases timeoutValue timeout with
  | none => rfl
  | some expires => simp [isTrial, pure, Except.pure]

include setting in
theorem policy_signed_foretells (target : request.handle 1 = .ok handle) :
    Foretells (Paired handle other) (fun _ _ => True) (policySigned s request)
      (policySigned (s.putSession other trial) (request.retarget 1 other)) := by
  have isTrial := setting.predicts.isTrial
  refine foretells_other _ 1 0 (by decide) _ _ fun authObject _ => ?_
  refine foretells_target _ 1 target _ _ ?_
  refine foretells_same _ _ _ _ _ fun (a, signature) _ => ?_
  refine foretells_same _ _ _ _ _ fun authName _ => ?_
  refine foretells_session setting _ _ _ ?_
  refine foretells_skips _ _ _ (by simp [checkSigner, isTrial, pure, Except.pure]) _ _ ?_
  refine foretells_skips _ _ _ (check_expires_skipped _ _ _ isTrial) _ _ ?_
  refine foretells_lift _ _ _ _ _ _ fun ticket _ => ⟨(Ticket.null St.authSigned, []), ?_, ?_⟩
  · simp [buildAuthorizationTicket, isTrial, pure, Except.pure]
  · refine foretells_bind _ _ _ _ _ _ _ (on_policy_session_foretells _ _ _ _ (record_authorization_agrees _ _ _ _ _ _))
      fun _ _ _ => ?_
    exact foretells_last _ _ _ (ticket_response_ok _ _ (authorization_timeout_length _ _ _))

include setting in
theorem check_secret_session_same :
    checkSecretSession (s.putSession other trial) (request.retarget 1 other) = checkSecretSession s request := by
  have sessions : (request.retarget 1 other).sessions = request.sessions := rfl
  unfold checkSecretSession
  rw [sessions]
  cases given : request.sessions.head? with
  | none => rfl
  | some input =>
      have different := setting.apart input (List.mem_of_head? given)
      have same : (s.putSession other trial).sessions.get input.handle = s.sessions.get input.handle :=
        SessionSlots.get_put_other _ _ _ _ different
      simp only [same]

include setting in
theorem policy_secret_foretells (target : request.handle 1 = .ok handle) :
    Foretells (Paired handle other) (fun _ _ => True) (policySecret s request)
      (policySecret (s.putSession other trial) (request.retarget 1 other)) := by
  have isTrial := setting.predicts.isTrial
  refine foretells_other _ 1 0 (by decide) _ _ fun authObject _ => ?_
  refine foretells_target _ 1 target _ _ ?_
  refine foretells_same _ _ _ _ _ fun a _ => ?_
  refine foretells_same _ _ _ _ _ fun authName _ => ?_
  refine foretells_same _ _ _ _ _ fun _ _ => ?_
  rw [check_secret_session_same setting]
  refine foretells_same _ _ _ _ _ fun _ _ => ?_
  refine foretells_session setting _ _ _ ?_
  refine foretells_skips _ _ _ (by simp [checkSecretNonce, isTrial]) _ _ ?_
  refine foretells_skips _ _ _ (check_expires_skipped _ _ _ isTrial) _ _ ?_
  refine foretells_lift _ _ _ _ _ _ fun ticket _ => ⟨(Ticket.null St.authSecret, []), ?_, ?_⟩
  · simp [secretTicket, buildAuthorizationTicket, isTrial, pure, Except.pure]
  · refine foretells_bind _ _ _ _ _ _ _ (on_policy_session_foretells _ _ _ _ (record_authorization_agrees _ _ _ _ _ _))
      fun _ _ _ => ?_
    refine foretells_last _ _ _ (ticket_response_ok _ _ ?_)
    split
    · simp
    · exact authorization_timeout_length _ _ _

-- The shape of most assertions on either session: a check the trial passes, the digest, and the new record.
theorem agrees_assertion (check : Session → TpmResult Unit) (commandCode : UInt32) (data : Bytes)
    (f g : PolicyState → PolicyState) (skips : ∀ trial, trial.isTrial = true → check trial = .ok ())
    (same : ∀ real trial, trial.digest = real.digest → (g trial).digest = (f real).digest) :
    Agrees (do check (← get); extendPolicy commandCode data; setPolicy f)
      (do check (← get); extendPolicy commandCode data; setPolicy g) :=
  agrees_checked check check _ _ skips
    (foretells_bind _ _ _ _ _ _ _ (agrees_extend_policy commandCode data) fun _ _ _ => agrees_set_policy f g same)

theorem agrees_unchecked (commandCode : UInt32) (data : Bytes) (f : PolicyState → PolicyState)
    (same : ∀ policy, (f policy).digest = policy.digest) :
    Agrees (do extendPolicy commandCode data; setPolicy f) (do extendPolicy commandCode data; setPolicy f) :=
  foretells_bind _ _ _ _ _ _ _ (agrees_extend_policy commandCode data)
    fun _ _ _ => agrees_set_policy f f fun real trial equal => by rw [same, same, equal]

theorem policy_digest_size_skipped (session : Session) (digest : Bytes) (parameter : Nat)
    (isTrial : session.isTrial = true) : checkPolicyDigestSize session digest parameter = .ok () := by
  simp [checkPolicyDigestSize, isTrial, pure, Except.pure]

theorem shared_free_of_trial (session : Session) (isTrial : session.isTrial = true) :
    sharedCpHashTaken session = false := by
  simp [sharedCpHashTaken, isTrial]

theorem hash_free_skipped (session : Session) (digest : Bytes) (isTrial : session.isTrial = true) :
    checkHashFree session digest = .ok () := by
  simp [checkHashFree, policy_digest_size_skipped, shared_free_of_trial, isTrial, bind, Except.bind, pure, Except.pure]

theorem new_cp_hash_skipped (session : Session) (cpHashA : Bytes) (isTrial : session.isTrial = true) :
    checkNewCpHash session cpHashA = .ok () := by
  simp [checkNewCpHash, policy_digest_size_skipped, shared_free_of_trial, isTrial, bind, Except.bind, pure, Except.pure]

theorem template_skipped (session : Session) (templateHash : Bytes) (isTrial : session.isTrial = true) :
    checkTemplate session templateHash = .ok () := by
  simp only [checkTemplate, policy_digest_size_skipped session templateHash 1 isTrial, bind, Except.bind]
  cases session.policy.templateHash with
  | none => simp [shared_free_of_trial, isTrial, pure, Except.pure]
  | some existing => simp [isTrial, pure, Except.pure]

theorem written_skipped (session : Session) (written : Bool) (isTrial : session.isTrial = true) :
    checkWritten session written = .ok () := by
  unfold checkWritten
  cases session.policy.nvWritten <;> simp [isTrial]

theorem combined_locality_of_trial (session : Session) (locality : UInt8) (isTrial : session.isTrial = true) :
    ∃ combined, combineLocality session locality = .ok combined := by
  unfold combineLocality
  cases session.policy.locality with
  | none => exact ⟨locality, by simp [isTrial, pure, Except.pure]⟩
  | some existing => exact ⟨existing &&& locality, by simp [isTrial, pure, Except.pure]⟩

theorem policy_or_foretells (target : request.handle 0 = .ok handle) :
    Foretells (Paired handle other) (fun _ _ => True) (policyOr request) (policyOr (request.retarget 0 other)) := by
  refine foretells_target _ 0 target _ _ ?_
  refine foretells_same _ _ _ _ _ fun list _ => ?_
  refine session_step_foretells _ _ _ _ _ _ (agrees_checked _ _ _ _ (fun trial isTrial => ?_) ?_)
  · simp [checkBranch, isTrial]
  · exact foretells_bind _ _ _ _ _ _ _ agrees_clear_policy_digest fun _ _ _ => agrees_extend_policy _ _

theorem policy_locality_foretells (target : request.handle 0 = .ok handle) :
    Foretells (Paired handle other) (fun _ _ => True) (policyLocality request)
      (policyLocality (request.retarget 0 other)) := by
  refine foretells_target _ 0 target _ _ ?_
  refine foretells_same _ _ _ _ _ fun locality _ => ?_
  refine session_step_foretells _ _ _ _ _ _ ?_
  refine foretells_get _ _ _ _ fun real trial predicts => ?_
  obtain ⟨combined, made⟩ := combined_locality_of_trial trial locality.value predicts.isTrial
  refine foretells_lift _ _ _ _ _ _ fun _ _ => ⟨combined, made, ?_⟩
  exact foretells_bind _ _ _ _ _ _ _ (agrees_extend_policy _ _) fun _ _ _ => agrees_set_policy _ _ fun _ _ same => same

theorem policy_command_code_foretells (target : request.handle 0 = .ok handle) :
    Foretells (Paired handle other) (fun _ _ => True) (policyCommandCode request)
      (policyCommandCode (request.retarget 0 other)) := by
  refine foretells_target _ 0 target _ _ ?_
  refine foretells_same _ _ _ _ _ fun code _ => ?_
  refine session_step_foretells _ _ _ _ _ _ (agrees_assertion _ _ _ _ _ (fun trial isTrial => ?_) fun _ _ same => same)
  simp [checkCommandCode, isTrial, pure, Except.pure]

theorem policy_physical_presence_foretells (target : request.handle 0 = .ok handle) :
    Foretells (Paired handle other) (fun _ _ => True) (policyPhysicalPresence request)
      (policyPhysicalPresence (request.retarget 0 other)) := by
  refine foretells_target _ 0 target _ _ ?_
  exact session_step_foretells _ _ _ _ _ _ (agrees_unchecked _ _ _ fun _ => rfl)

theorem policy_auth_value_foretells (target : request.handle 0 = .ok handle) :
    Foretells (Paired handle other) (fun _ _ => True) (policyAuthValue request)
      (policyAuthValue (request.retarget 0 other)) := by
  refine foretells_target _ 0 target _ _ ?_
  exact session_step_foretells _ _ _ _ _ _ (agrees_unchecked _ _ _ fun _ => rfl)

theorem policy_password_foretells (target : request.handle 0 = .ok handle) :
    Foretells (Paired handle other) (fun _ _ => True) (policyPassword request)
      (policyPassword (request.retarget 0 other)) := by
  refine foretells_target _ 0 target _ _ ?_
  exact session_step_foretells _ _ _ _ _ _ (agrees_unchecked _ _ _ fun _ => rfl)

theorem policy_cp_hash_foretells (target : request.handle 0 = .ok handle) :
    Foretells (Paired handle other) (fun _ _ => True) (policyCpHash request)
      (policyCpHash (request.retarget 0 other)) := by
  refine foretells_target _ 0 target _ _ ?_
  refine foretells_same _ _ _ _ _ fun cpHashA _ => ?_
  exact session_step_foretells _ _ _ _ _ _ (agrees_assertion _ _ _ _ _
    (fun trial isTrial => new_cp_hash_skipped trial _ isTrial) fun _ _ same => same)

theorem policy_name_hash_foretells (target : request.handle 0 = .ok handle) :
    Foretells (Paired handle other) (fun _ _ => True) (policyNameHash request)
      (policyNameHash (request.retarget 0 other)) := by
  refine foretells_target _ 0 target _ _ ?_
  refine foretells_same _ _ _ _ _ fun nameHash _ => ?_
  exact session_step_foretells _ _ _ _ _ _ (agrees_assertion _ _ _ _ _
    (fun trial isTrial => hash_free_skipped trial _ isTrial) fun _ _ same => same)

theorem policy_parameters_foretells (target : request.handle 0 = .ok handle) :
    Foretells (Paired handle other) (fun _ _ => True) (policyParameters request)
      (policyParameters (request.retarget 0 other)) := by
  refine foretells_target _ 0 target _ _ ?_
  refine foretells_same _ _ _ _ _ fun pHash _ => ?_
  exact session_step_foretells _ _ _ _ _ _ (agrees_assertion _ _ _ _ _
    (fun trial isTrial => hash_free_skipped trial _ isTrial) fun _ _ same => same)

theorem policy_nv_written_foretells (target : request.handle 0 = .ok handle) :
    Foretells (Paired handle other) (fun _ _ => True) (policyNvWritten request)
      (policyNvWritten (request.retarget 0 other)) := by
  refine foretells_target _ 0 target _ _ ?_
  refine foretells_same _ _ _ _ _ fun written _ => ?_
  exact session_step_foretells _ _ _ _ _ _ (agrees_assertion _ _ _ _ _
    (fun trial isTrial => written_skipped trial _ isTrial) fun _ _ same => same)

theorem policy_template_foretells (target : request.handle 0 = .ok handle) :
    Foretells (Paired handle other) (fun _ _ => True) (policyTemplate request)
      (policyTemplate (request.retarget 0 other)) := by
  refine foretells_target _ 0 target _ _ ?_
  refine foretells_same _ _ _ _ _ fun templateHash _ => ?_
  exact session_step_foretells _ _ _ _ _ _ (agrees_assertion _ _ _ _ _
    (fun trial isTrial => template_skipped trial _ isTrial) fun _ _ same => same)

theorem policy_transport_spdm_foretells (target : request.handle 0 = .ok handle) :
    Foretells (Paired handle other) (fun _ _ => True) (policyTransportSpdm request)
      (policyTransportSpdm (request.retarget 0 other)) := by
  refine foretells_target _ 0 target _ _ ?_
  refine foretells_same _ _ _ _ _ fun (reqKeyName, tpmKeyName) _ => ?_
  refine foretells_same _ _ _ _ _ fun _ _ => ?_
  refine foretells_same _ _ _ _ _ fun _ _ => ?_
  refine session_step_foretells _ _ _ _ _ _ (foretells_get _ _ _ _ fun real trial predicts => ?_)
  refine foretells_lift _ _ _ _ _ _ fun _ _ => ⟨(), by simp [checkChannelFree, predicts.isTrial], ?_⟩
  have sameKeys : channelKeyHash trial reqKeyName tpmKeyName = channelKeyHash real reqKeyName tpmKeyName := by
    simp only [channelKeyHash, predicts.sameHash]
  rw [sameKeys]
  refine foretells_same _ _ _ _ _ fun keyHash _ => ?_
  exact foretells_bind _ _ _ _ _ _ _ (agrees_extend_policy _ _) fun _ _ _ => agrees_set_policy _ _ fun _ _ same => same

theorem policy_ac_send_select_foretells (target : request.handle 0 = .ok handle) :
    Foretells (Paired handle other) (fun _ _ => True) (policyAcSendSelect request)
      (policyAcSendSelect (request.retarget 0 other)) := by
  refine foretells_target _ 0 target _ _ ?_
  refine foretells_same _ _ _ _ _ fun (objectName, authHandleName, acName, includeObject) _ => ?_
  refine session_step_foretells _ _ _ _ _ _ (foretells_get _ _ _ _ fun real trial predicts => ?_)
  refine foretells_lift _ _ _ _ _ _ fun _ _ =>
    ⟨(), by simp [checkSharedFree, shared_free_of_trial, predicts.isTrial], ?_⟩
  refine foretells_bind _ _ _ _ _ _ _ (agrees_extend_policy _ _) fun _ _ _ => ?_
  rw [predicts.sameHash]
  refine foretells_same _ _ _ _ _ fun nameHash _ => ?_
  exact agrees_set_policy _ _ fun _ _ same => same

-- PolicyPCR is given the digest it is to find, and a selection that filtering leaves as it is.
def PcrExplicit (s : TpmState) (request : Request) : Prop :=
  request.code = Cc.policyPcr → ∀ expected selection,
    request.params (do
      let expected : Tpm2bDigest ← Reader.withParameter 1 Tpm2b.unmarshal
      return (expected.buffer, ← Reader.withParameter 2 TpmlPcrSelection.unmarshal)) = .ok (expected, selection) →
    expected.isEmpty = false ∧ s.pcr.filterSelection selection = selection

theorem check_pcrs_found (session : Session) (expected digest : Bytes) (counter : UInt32)
    (isReal : session.isTrial = false) (given : expected.isEmpty = false)
    (checked : checkPcrs session expected digest counter = .ok ()) : expected = digest := by
  simp only [checkPcrs, skipped_is_ok, guarded_then_is_ok, isReal, Bool.false_eq_true, false_or] at checked
  by_contra different
  exact checked.1 ⟨by simp [given], different⟩

include setting in
theorem policy_pcr_foretells (target : request.handle 0 = .ok handle) (pcr : request.code = Cc.policyPcr)
    (explicit : PcrExplicit s request) :
    Foretells (Paired handle other) (fun _ _ => True) (policyPcr s request)
      (policyPcr (s.putSession other trial) (request.retarget 0 other)) := by
  refine foretells_target _ 0 target _ _ ?_
  refine foretells_same _ _ _ _ _ fun (expected, selection) read => ?_
  obtain ⟨given, filtered⟩ := explicit pcr expected selection read
  refine foretells_session setting _ _ _ ?_
  have filteredT : (s.putSession other trial).pcr.filterSelection selection = selection := filtered
  simp only [filtered, filteredT, setting.predicts.sameHash]
  refine foretells_same _ _ _ _ _ fun digest _ => ?_
  refine session_step_foretells _ _ _ _ _ _ (foretells_get _ _ _ _ fun real trial predicts => ?_)
  refine foretells_lift _ _ _ _ _ _ fun _ checked =>
    ⟨(), by simp [checkPcrs, predicts.isTrial, pure, Except.pure], ?_⟩
  have found := check_pcrs_found real expected digest _ predicts.isReal given checked
  simp only [predicts.isReal, predicts.isTrial, given, ← found, Bool.false_eq_true, if_false, if_true, and_self,
    Bool.not_false]
  refine foretells_bind _ _ _ _ _ _ _ (agrees_set_policy _ _ fun _ _ same => same) fun _ _ _ => ?_
  exact agrees_extend_policy _ _

include setting in
theorem readable_index_same (position : Nat) (later : 2 ≤ position) :
    readableIndex (s.putSession other trial) (request.retarget position other) = readableIndex s request := by
  unfold readableIndex
  rw [retarget_other request position 1 other (by omega), retarget_other request position 0 other (by omega),
    setting.auth_is_policy_same 0 (request.retarget position other) rfl]
  rfl

include setting in
theorem policy_nv_foretells (target : request.handle 2 = .ok handle) :
    Foretells (Paired handle other) (fun _ _ => True) (policyNv s request)
      (policyNv (s.putSession other trial) (request.retarget 2 other)) := by
  have isTrial := setting.predicts.isTrial
  refine foretells_other _ 2 1 (by decide) _ _ fun _ _ => ?_
  refine foretells_target _ 2 target _ _ ?_
  refine foretells_same _ _ _ _ _ fun c _ => ?_
  refine foretells_same _ _ _ _ _ fun _ _ => ?_
  rw [readable_index_same setting 2 (by decide)]
  refine foretells_same _ _ _ _ _ fun index _ => ?_
  refine foretells_same _ _ _ _ _ fun nvName _ => ?_
  refine foretells_session setting _ _ _ ?_
  refine foretells_skips _ _ _ (by simp [checkNv, isTrial, pure, Except.pure]) _ _ ?_
  rw [setting.predicts.sameHash]
  refine foretells_same _ _ _ _ _ fun args _ => ?_
  exact session_step_foretells _ _ _ _ _ _ (agrees_extend_policy _ _)

include setting in
theorem policy_authorize_nv_foretells (target : request.handle 2 = .ok handle) :
    Foretells (Paired handle other) (fun _ _ => True) (policyAuthorizeNv s request)
      (policyAuthorizeNv (s.putSession other trial) (request.retarget 2 other)) := by
  have isTrial := setting.predicts.isTrial
  refine foretells_other _ 2 1 (by decide) _ _ fun _ _ => ?_
  refine foretells_target _ 2 target _ _ ?_
  rw [readable_index_same setting 2 (by decide)]
  refine foretells_same _ _ _ _ _ fun index _ => ?_
  refine foretells_same _ _ _ _ _ fun nvName _ => ?_
  refine foretells_session setting _ _ _ ?_
  refine foretells_skips _ _ _ (by simp [checkStoredPolicy, isTrial, pure, Except.pure]) _ _ ?_
  refine session_step_foretells _ _ _ _ _ _ ?_
  exact foretells_bind _ _ _ _ _ _ _ agrees_clear_policy_digest fun _ _ _ => agrees_extend_policy _ _

include setting in
theorem policy_counter_timer_foretells (target : request.handle 0 = .ok handle) :
    Foretells (Paired handle other) (fun _ _ => True) (policyCounterTimer s request)
      (policyCounterTimer (s.putSession other trial) (request.retarget 0 other)) := by
  have isTrial := setting.predicts.isTrial
  refine foretells_target _ 0 target _ _ ?_
  refine foretells_same _ _ _ _ _ fun c _ => ?_
  refine foretells_same _ _ _ _ _ fun _ _ => ?_
  refine foretells_session setting _ _ _ ?_
  refine foretells_skips _ _ _ (by simp [checkCounterTimer, isTrial, pure, Except.pure]) _ _ ?_
  rw [setting.predicts.sameHash]
  refine foretells_same _ _ _ _ _ fun args _ => ?_
  exact session_step_foretells _ _ _ _ _ _ (agrees_extend_policy _ _)

include setting in
theorem policy_capability_foretells (target : request.handle 0 = .ok handle) :
    Foretells (Paired handle other) (fun _ _ => True) (policyCapability s request)
      (policyCapability (s.putSession other trial) (request.retarget 0 other)) := by
  have isTrial := setting.predicts.isTrial
  refine foretells_target _ 0 target _ _ ?_
  refine foretells_same _ _ _ _ _ fun (c, capability, property) _ => ?_
  refine foretells_same _ _ _ _ _ fun _ _ => ?_
  refine foretells_same _ _ _ _ _ fun _ _ => ?_
  refine foretells_session setting _ _ _ ?_
  refine foretells_skips _ _ _ (by simp [capabilityHolds, isTrial, pure, Except.pure]) _ _ ?_
  rw [setting.predicts.sameHash]
  refine foretells_same _ _ _ _ _ fun args _ => ?_
  exact session_step_foretells _ _ _ _ _ _ (agrees_extend_policy _ _)

include setting in
theorem policy_authorize_foretells (target : request.handle 0 = .ok handle) :
    Foretells (Paired handle other) (fun _ _ => True) (policyAuthorize s request)
      (policyAuthorize (s.putSession other trial) (request.retarget 0 other)) := by
  have isTrial := setting.predicts.isTrial
  refine foretells_target _ 0 target _ _ ?_
  refine foretells_same _ _ _ _ _ fun approval _ => ?_
  refine foretells_same _ _ _ _ _ fun _ _ => ?_
  refine foretells_session setting _ _ _ ?_
  refine foretells_skips _ _ _ (by simp [Approval.check, isTrial, pure, Except.pure]) _ _ ?_
  refine session_step_foretells _ _ _ _ _ _ ?_
  exact foretells_bind _ _ _ _ _ _ _ agrees_clear_policy_digest
    fun _ _ _ => agrees_policy_authorization_update _ _ _

include setting in
theorem policy_duplication_select_foretells (target : request.handle 0 = .ok handle) :
    Foretells (Paired handle other) (fun _ _ => True) (policyDuplicationSelect s request)
      (policyDuplicationSelect (s.putSession other trial) (request.retarget 0 other)) := by
  refine foretells_target _ 0 target _ _ ?_
  refine foretells_same _ _ _ _ _ fun (objectName, newParentName, includeObject) _ => ?_
  refine foretells_session setting _ _ _ ?_
  rw [setting.predicts.sameHash]
  refine foretells_same _ _ _ _ _ fun nameHash _ => ?_
  refine session_step_foretells _ _ _ _ _ _ (agrees_assertion _ _ _ _ _ (fun trial isTrial => ?_) fun _ _ same => same)
  simp [checkSharedFree, shared_free_of_trial, isTrial]

theorem policy_restart_foretells (target : request.handle 0 = .ok handle) :
    Foretells (Paired handle other) (fun _ _ => True) (policyRestart request)
      (policyRestart (request.retarget 0 other)) := by
  refine foretells_target _ 0 target _ _ ?_
  refine foretells_get _ _ _ _ fun slots slotsT paired => ?_
  obtain ⟨real, trial, held, heldT, predicts⟩ := paired
  refine foretells_lift _ _ _ _ _ _ fun session read => ⟨trial, by rw [heldT]; rfl, ?_⟩
  rw [held] at read
  obtain rfl := Except.ok.inj read
  refine foretells_lift _ _ _ _ _ _ fun restarted made => ?_
  simp only [Session.restartPolicy, bind_is_ok, pure_is_ok] at made
  obtain ⟨size, sized, rfl⟩ := made
  refine ⟨{ trial with policy := { digest := List.replicate size 0 } }, ?_, ?_⟩
  · simp only [Session.restartPolicy, bind_is_ok, pure_is_ok, predicts.sameHash]
    exact ⟨size, sized, rfl⟩
  · refine foretells_bind _ _ _ _ _ _ _ (foretells_modify _ _ _ fun slots slotsT _ => ?_)
      fun _ _ _ => foretells_pure _ _ _ _ trivial
    exact ⟨_, _, SessionSlots.get_put_same _ _ _, SessionSlots.get_put_same _ _ _,
      predicts.isReal, predicts.isTrial, predicts.sameHash, rfl⟩

-- Where in its handle area a policy command names the session it is made on.
def policyPosition (code : UInt32) : Nat :=
  if code = Cc.policySigned ∨ code = Cc.policySecret then 1
  else if code = Cc.policyNv ∨ code = Cc.policyAuthorizeNv then 2
  else 0

def RowForetells (row : UInt32 × Handler) : Prop :=
  ∀ s request handle other real trial reply s', TrialSetting s request handle other real trial → request.code = row.1 →
    request.handle (policyPosition row.1) = .ok handle → PcrExplicit s request →
    Succeeds (row.2.run request) s reply s' →
    ∃ reply' s'', Succeeds (row.2.run (request.retarget (policyPosition row.1) other)) (s.putSession other trial) reply'
      s'' ∧ Paired handle other s'.sessions s''.sessions

theorem paired_at_start (s : TpmState) (request : Request) (handle other : UInt32) (real trial : Session)
    (setting : TrialSetting s request handle other real trial) :
    Paired handle other s.sessions (s.putSession other trial).sessions :=
  ⟨real, trial, setting.held, SessionSlots.get_put_same _ _ _, setting.predicts⟩

theorem succeeds_policy_zoom {α : Type} (action : PolicyM α) (s : TpmState) (slots : SessionSlots) (a : α)
    (ran : Succeeds action s.sessions a slots) : Succeeds (Scope.policy.zoom action) s a { s with sessions := slots } := by
  simp only [Scope.zoom, succeeds_zoom]
  exact ⟨slots, ran, rfl⟩

theorem plain_row_foretells (code : UInt32) (run : TpmState → Request → PolicyM Response)
    (foretells : ∀ s request handle other real trial, TrialSetting s request handle other real trial →
      request.code = code → request.handle (policyPosition code) = .ok handle → PcrExplicit s request →
      Foretells (Paired handle other) (fun _ _ => True) (run s request)
        (run (s.putSession other trial) (request.retarget (policyPosition code) other))) :
    RowForetells (code, .plain .policy run) := by
  intro s request handle other real trial reply s' setting named target explicit ran
  obtain ⟨response, inner⟩ := Handler.succeeds_plain request .policy run s s' reply ran
  obtain ⟨response', slots, ran', paired, _⟩ := foretells s request handle other real trial setting named target explicit
    _ _ _ _ (paired_at_start s request handle other real trial setting) (succeeds_policy_scope _ s s' response inner)
  refine ⟨response'.reply, { s.putSession other trial with sessions := slots }, ?_, paired⟩
  simp only [Handler.run, succeeds_bind, succeeds_get, succeeds_map]
  exact ⟨_, _, ⟨rfl, rfl⟩, response', succeeds_policy_zoom _ _ _ _ ran', rfl⟩

theorem issuing_row_foretells (code : UInt32) (run : TpmState → Request → PolicyM Reply)
    (foretells : ∀ s request handle other real trial, TrialSetting s request handle other real trial →
      request.handle (policyPosition code) = .ok handle →
      Foretells (Paired handle other) (fun _ _ => True) (run s request)
        (run (s.putSession other trial) (request.retarget (policyPosition code) other))) :
    RowForetells (code, .issuing .policy run) := by
  intro s request handle other real trial reply s' setting _ target _ ran
  have inner := Handler.succeeds_issuing request .policy run s s' reply ran
  obtain ⟨reply', slots, ran', paired, _⟩ := foretells s request handle other real trial setting target
    _ _ _ _ (paired_at_start s request handle other real trial setting) (succeeds_policy_scope _ s s' reply inner)
  refine ⟨reply', { s.putSession other trial with sessions := slots }, ?_, paired⟩
  simp only [Handler.run, succeeds_bind, succeeds_get]
  exact ⟨_, _, ⟨rfl, rfl⟩, succeeds_policy_zoom _ _ _ _ ran'⟩

theorem get_digest_row_foretells : RowForetells (Cc.policyGetDigest, queryHandler policyGetDigest) := by
  intro s request handle other real trial reply s' setting _ target _ ran
  have target : request.handle 0 = .ok handle := target
  obtain ⟨response, inner⟩ := Handler.succeeds_plain request .query _ s s' reply ran
  simp only [Scope.zoom, succeeds_zoom] at inner
  obtain ⟨_, read, unchanged⟩ := inner
  rw [unchanged]
  have answered : policyGetDigest s request = .ok response := ((succeeds_of_except _ _ _ _).mp read).1
  have sameAnswer : policyGetDigest (s.putSession other trial) (request.retarget 0 other) = .ok response := by
    simp only [policyGetDigest, bind_is_ok, pure_is_ok] at answered ⊢
    obtain ⟨_, named, session, found, digest, made, rfl⟩ := answered
    obtain rfl := Except.ok.inj (target.symm.trans named)
    obtain rfl := setting.session_of_read session found
    refine ⟨other, retarget_handle _ _ _ _ target, trial, setting.trial_read, digest, ?_, rfl⟩
    rw [setting.predicts.sameDigest]
    exact made
  refine ⟨response.reply, s.putSession other trial, ?_, paired_at_start _ _ _ _ _ _ setting⟩
  simp only [Handler.run, queryHandler, succeeds_bind, succeeds_get, succeeds_map, Scope.zoom, succeeds_zoom]
  exact ⟨_, _, ⟨rfl, rfl⟩, response, ⟨(), (succeeds_of_except _ _ _ _).mpr ⟨sameAnswer, rfl⟩, rfl⟩, rfl⟩

theorem policy_handlers_foretell (row : UInt32 × Handler) (member : row ∈ policyHandlers) : RowForetells row := by
  have rows : ∀ row ∈ policyHandlers, RowForetells row := by
    simp only [policyHandlers, List.forall_mem_cons]
    refine ⟨?_, ?_, ?_, ?_, ?_, ?_, ?_, ?_, ?_, ?_, ?_, ?_, ?_, ?_, ?_, ?_, ?_, ?_, ?_, ?_, ?_, ?_, ?_, ?_, ?_,
      fun _ none => by cases none⟩
    · exact plain_row_foretells _ _ fun _ _ _ _ _ _ _ _ target _ => policy_restart_foretells target
    · exact issuing_row_foretells _ _ fun _ _ _ _ _ _ setting target => policy_signed_foretells setting target
    · exact issuing_row_foretells _ _ fun _ _ _ _ _ _ setting target => policy_secret_foretells setting target
    · exact plain_row_foretells _ _ fun _ _ _ _ _ _ setting _ target _ => policy_ticket_foretells setting target
    · exact plain_row_foretells _ _ fun _ _ _ _ _ _ _ _ target _ => policy_or_foretells target
    · exact plain_row_foretells _ _ fun _ _ _ _ _ _ setting named target explicit =>
        policy_pcr_foretells setting target named explicit
    · exact plain_row_foretells _ _ fun _ _ _ _ _ _ _ _ target _ => policy_locality_foretells target
    · exact plain_row_foretells _ _ fun _ _ _ _ _ _ setting _ target _ => policy_nv_foretells setting target
    · exact plain_row_foretells _ _ fun _ _ _ _ _ _ setting _ target _ => policy_counter_timer_foretells setting target
    · exact plain_row_foretells _ _ fun _ _ _ _ _ _ _ _ target _ => policy_command_code_foretells target
    · exact plain_row_foretells _ _ fun _ _ _ _ _ _ _ _ target _ => policy_physical_presence_foretells target
    · exact plain_row_foretells _ _ fun _ _ _ _ _ _ _ _ target _ => policy_cp_hash_foretells target
    · exact plain_row_foretells _ _ fun _ _ _ _ _ _ _ _ target _ => policy_name_hash_foretells target
    · exact plain_row_foretells _ _ fun _ _ _ _ _ _ setting _ target _ =>
        policy_duplication_select_foretells setting target
    · exact plain_row_foretells _ _ fun _ _ _ _ _ _ setting _ target _ => policy_authorize_foretells setting target
    · exact plain_row_foretells _ _ fun _ _ _ _ _ _ _ _ target _ => policy_auth_value_foretells target
    · exact plain_row_foretells _ _ fun _ _ _ _ _ _ _ _ target _ => policy_password_foretells target
    · exact get_digest_row_foretells
    · exact plain_row_foretells _ _ fun _ _ _ _ _ _ _ _ target _ => policy_nv_written_foretells target
    · exact plain_row_foretells _ _ fun _ _ _ _ _ _ _ _ target _ => policy_template_foretells target
    · exact plain_row_foretells _ _ fun _ _ _ _ _ _ setting _ target _ => policy_authorize_nv_foretells setting target
    · exact plain_row_foretells _ _ fun _ _ _ _ _ _ setting _ target _ => policy_capability_foretells setting target
    · exact plain_row_foretells _ _ fun _ _ _ _ _ _ _ _ target _ => policy_parameters_foretells target
    · exact plain_row_foretells _ _ fun _ _ _ _ _ _ _ _ target _ => policy_transport_spdm_foretells target
    · exact plain_row_foretells _ _ fun _ _ _ _ _ _ _ _ target _ => policy_ac_send_select_foretells target
  exact rows row member

-- The policy commands of a run, each with the state it was made in.
abbrev PolicySteps := List (TpmState × Request)

inductive RealRun (handle : UInt32) : Session → PolicySteps → Session → Prop where
  | done (real : Session) : RealRun handle real [] real
  | step (real next last : Session) (s s' : TpmState) (request : Request) (reply : Reply) (rest : PolicySteps)
      (held : s.sessions.get handle = .ok real) (policy : isPolicyCommand request.code = true)
      (target : request.handle (policyPosition request.code) = .ok handle)
      (accepted : Succeeds (runCommand request) s reply s') (left : s'.sessions.get handle = .ok next)
      (later : RealRun handle next rest last) : RealRun handle real ((s, request) :: rest) last

-- The same commands in the same states, on a trial session at `other`.
inductive TrialRun (other : UInt32) : Session → PolicySteps → Session → Prop where
  | done (trial : Session) : TrialRun other trial [] trial
  | step (trial next last : Session) (s s' : TpmState) (request : Request) (reply : Reply) (rest : PolicySteps)
      (accepted : Succeeds (runCommand (request.retarget (policyPosition request.code) other))
        (s.putSession other trial) reply s') (left : s'.sessions.get other = .ok next)
      (later : TrialRun other next rest last) : TrialRun other trial ((s, request) :: rest) last

theorem policy_command_foretells (s s' : TpmState) (request : Request) (handle other : UInt32) (real trial : Session)
    (reply : Reply) (setting : TrialSetting s request handle other real trial)
    (policy : isPolicyCommand request.code = true)
    (target : request.handle (policyPosition request.code) = .ok handle) (explicit : PcrExplicit s request)
    (ran : Succeeds (runCommand request) s reply s') :
    ∃ reply' s'', Succeeds (runCommand (request.retarget (policyPosition request.code) other)) (s.putSession other trial)
      reply' s'' ∧ Paired handle other s'.sessions s''.sessions := by
  obtain ⟨handler, found, member⟩ := policy_command_row request.code policy
  have foretells := policy_handlers_foretell (request.code, handler) member
  rw [runCommand, found] at ran
  have sameCode : (request.retarget (policyPosition request.code) other).code = request.code := rfl
  rw [runCommand, sameCode, found]
  exact foretells s request handle other real trial reply s' setting rfl target explicit ran

theorem trial_predicts_policy (handle other : UInt32) (real last trial : Session) (steps : PolicySteps)
    (run : RealRun handle real steps last) (start : Predicts real trial)
    (apart : ∀ step ∈ steps, ∀ input ∈ step.2.sessions, input.handle ≠ other)
    (explicit : ∀ step ∈ steps, PcrExplicit step.1 step.2) :
    ∃ trial', TrialRun other trial steps trial' ∧ trial'.policy.digest = last.policy.digest := by
  induction run generalizing trial with
  | done real => exact ⟨trial, .done trial, start.sameDigest⟩
  | step real next last s s' request reply rest held policy target accepted left _ ih =>
      have setting : TrialSetting s request handle other real trial :=
        ⟨held, start, apart (s, request) List.mem_cons_self⟩
      obtain ⟨reply', s'', accepted', real', trial', held', heldT', predicts⟩ :=
        policy_command_foretells s s' request handle other real trial reply setting policy target
          (explicit (s, request) List.mem_cons_self) accepted
      obtain rfl := Except.ok.inj (left.symm.trans held')
      obtain ⟨lastTrial, run', same⟩ := ih trial' predicts
        (fun step member => apart step (List.mem_cons_of_mem _ member))
        (fun step member => explicit step (List.mem_cons_of_mem _ member))
      exact ⟨lastTrial, .step trial trial' lastTrial s s'' request reply' rest accepted' heldT' run', same⟩

end

namespace Toy

def trialHandle : UInt32 := 0x03000001

def bothSessions : TpmState := afterCommands [startSession Se.policy, startSession Se.trial] booted

def namesSign : Request := requestOf (plainCommand Cc.policyCommandCode [policyHandle] (be32 Cc.sign))

def bothStarted : Bool :=
  (heldSession bothSessions).any fun real => (bothSessions.sessions.sessions.get trialHandle).any fun trial =>
    !real.isTrial && trial.isTrial && trial.authHash == real.authHash && trial.policy.digest == real.policy.digest &&
      endsWith (runCommand namesSign) bothSessions fun _ s =>
        (heldSession s).any fun next => next.policy.digest != real.policy.digest

theorem trial_predicts_command_code : ∃ real trial last trial', Predicts real trial ∧
    RealRun policyHandle real [(bothSessions, namesSign)] last ∧
    TrialRun trialHandle trial [(bothSessions, namesSign)] trial' ∧ trial'.policy.digest = last.policy.digest ∧
    last.policy.digest ≠ real.policy.digest := by
  have started : bothStarted = true := by decide +kernel
  simp only [bothStarted, Option.any_eq_true, Bool.and_eq_true, Bool.not_eq_true', beq_iff_eq] at started
  obtain ⟨real, held, trial, _, ⟨⟨⟨isReal, isTrial⟩, sameHash⟩, sameDigest⟩, ends⟩ := started
  obtain ⟨reply, s, accepted, found⟩ := succeeds_of_ends_with _ _ _ ends
  simp only [Option.any_eq_true, bne_iff_ne, ne_eq] at found
  obtain ⟨last, left, moved⟩ := found
  have start : Predicts real trial := ⟨isReal, isTrial, sameHash, sameDigest⟩
  have run : RealRun policyHandle real [(bothSessions, namesSign)] last :=
    .step real last last bothSessions s namesSign reply [] (held_session_get _ real held) (by rfl) (by rfl) accepted
      (held_session_get s last left) (.done last)
  have apart : ∀ step ∈ [(bothSessions, namesSign)], ∀ input ∈ step.2.sessions, input.handle ≠ trialHandle := by
    intro step member input given
    obtain rfl := List.mem_singleton.mp member
    cases given
  have explicit : ∀ step ∈ [(bothSessions, namesSign)], PcrExplicit step.1 step.2 := by
    intro step member pcr
    obtain rfl := List.mem_singleton.mp member
    exact absurd pcr (by decide)
  obtain ⟨trial', trialRun, same⟩ :=
    trial_predicts_policy policyHandle trialHandle real last trial _ run start apart explicit
  exact ⟨real, trial, last, trial', start, run, trialRun, same, moved⟩

end Toy

end Swtrust
