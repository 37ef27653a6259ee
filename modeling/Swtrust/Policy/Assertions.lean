import Swtrust.Policy.Narrowing

set_option autoImplicit false
set_option linter.unusedSectionVars false

namespace Swtrust

open Library Action

section

variable [Primitives]

theorem check_cp_hash_agrees (session : Session) (cpHashA : Bytes) (real : session.isTrial = false)
    (checked : checkCpHash session cpHashA = .ok ()) :
    cpHashA.isEmpty = true ∨ session.policy.cpHash = none ∨ session.policy.cpHash = some cpHashA := by
  unfold checkCpHash at checked
  by_cases free : cpHashA.isEmpty = true
  · exact .inl free
  · rw [if_neg (by simp [free, real])] at checked
    cases recorded : session.policy.cpHash with
    | none => exact .inr (.inl rfl)
    | some current =>
        rw [recorded] at checked
        by_cases same : current = cpHashA
        · exact .inr (.inr (by rw [same]))
        · simp [same] at checked

theorem record_authorization_narrowing (commandCode : UInt32) (cpHashA authName policyRef timeout : Bytes) :
    Narrowing (do
      checkCpHash (← get) cpHashA
      policyAuthorizationUpdate commandCode authName policyRef
      setCpHash cpHashA
      recordExpiration timeout) := by
  intro session u session' real ran
  simp only [succeeds_bind, succeeds_get, succeeds_lift] at ran
  obtain ⟨_, _, ⟨rfl, rfl⟩, _, _, ⟨checked, rfl⟩, _, _, updated, _, _, recorded, expiring⟩ := ran
  obtain ⟨digest, rfl⟩ := policy_authorization_update_digest_only _ _ _ _ _ _ updated
  rw [setCpHash] at recorded
  rw [recordExpiration] at expiring
  rw [succeeds_set_policy _ _ _ _ recorded] at expiring
  rw [succeeds_set_policy _ _ _ _ expiring]
  refine Session.narrows_of_policy _ _ (PolicyState.narrows_trans _ _ _ ?_ (PolicyState.with_expiration_narrows _ _))
  rcases check_cp_hash_agrees _ _ real checked with free | agrees
  · rw [if_pos free]
    exact { PolicyState.narrows_refl _ with }
  · by_cases free : cpHashA.isEmpty = true
    · rw [if_pos free]
      exact { PolicyState.narrows_refl _ with }
    · rw [if_neg free]
      exact { PolicyState.narrows_refl _ with cpHash := kept_of_agrees _ _ agrees }

theorem check_pcrs_agrees (session : Session) (expected digest : Bytes) (counter : UInt32)
    (real : session.isTrial = false) (checked : checkPcrs session expected digest counter = .ok ()) :
    session.policy.pcrUpdateCounter = none ∨ session.policy.pcrUpdateCounter = some counter := by
  simp only [checkPcrs, skipped_is_ok, guarded_then_is_ok, real, Bool.false_eq_true, false_or] at checked
  obtain ⟨_, checked⟩ := checked
  cases recorded : session.policy.pcrUpdateCounter with
  | none => exact .inl rfl
  | some current =>
      simp only [recorded, guarded_is_ok, ne_eq, not_not] at checked
      exact .inr (by rw [checked.1])

theorem check_command_code_agrees (session : Session) (code : UInt32) (real : session.isTrial = false)
    (checked : checkCommandCode session code = .ok ()) :
    session.policy.commandCode = none ∨ session.policy.commandCode = some code := by
  simp only [checkCommandCode, skipped_is_ok, guarded_then_is_ok, real, Bool.false_eq_true, false_or] at checked
  obtain ⟨_, checked⟩ := checked
  cases recorded : session.policy.commandCode with
  | none => exact .inl rfl
  | some current =>
      simp only [recorded, guarded_is_ok, ne_eq, not_not] at checked
      exact .inr (by rw [checked.1])

theorem combine_locality_masks (session : Session) (locality combined : UInt8)
    (made : combineLocality session locality = .ok combined) :
    Restricts (fun a b => ∃ other, a = b &&& other) session.policy.locality (some combined) := by
  intro existing recorded
  simp only [combineLocality, recorded, guarded_then_is_ok, pure_is_ok] at made
  exact ⟨combined, rfl, locality, made.2.2.symm⟩

theorem check_written_agrees (session : Session) (written : Bool) (real : session.isTrial = false)
    (checked : checkWritten session written = .ok ()) :
    session.policy.nvWritten = none ∨ session.policy.nvWritten = some written := by
  unfold checkWritten at checked
  cases recorded : session.policy.nvWritten with
  | none => exact .inl rfl
  | some current =>
      simp only [recorded, refused_is_ok, real, Bool.not_false, and_true, ne_eq, not_not] at checked
      exact .inr (by rw [checked])

structure PolicyState.HashFree (policy : PolicyState) : Prop where
  cpHash : policy.cpHash = none
  nameHash : policy.nameHash = none
  parametersHash : policy.parametersHash = none
  templateHash : policy.templateHash = none

theorem hash_free_of_shared_free (session : Session) (real : session.isTrial = false)
    (free : sharedCpHashTaken session = false) : session.policy.HashFree := by
  simp only [sharedCpHashTaken, real, Bool.false_eq_true, if_false, Bool.or_eq_false_iff] at free
  obtain ⟨⟨⟨⟨_, cpHash⟩, nameHash⟩, parametersHash⟩, templateHash⟩ := free
  exact ⟨by simpa using cpHash, by simpa using nameHash, by simpa using parametersHash, by simpa using templateHash⟩

theorem check_hash_free_free (session : Session) (digest : Bytes) (real : session.isTrial = false)
    (checked : checkHashFree session digest = .ok ()) : session.policy.HashFree := by
  simp only [checkHashFree, bind_is_ok, guarded_is_ok] at checked
  obtain ⟨_, _, free, _⟩ := checked
  exact hash_free_of_shared_free session real (by simpa using free)

theorem check_new_cp_hash_agrees (session : Session) (cpHashA : Bytes) (real : session.isTrial = false)
    (checked : checkNewCpHash session cpHashA = .ok ()) :
    session.policy.cpHash = none ∨ session.policy.cpHash = some cpHashA := by
  simp only [checkNewCpHash, bind_is_ok, guarded_is_ok] at checked
  obtain ⟨_, _, free, _⟩ := checked
  by_cases same : session.policy.cpHash = some cpHashA
  · exact .inr same
  · have shared : sharedCpHashTaken session = false := by simpa [same] using free
    exact .inl (hash_free_of_shared_free session real shared).cpHash

theorem check_template_agrees (session : Session) (templateHash : Bytes) (real : session.isTrial = false)
    (checked : checkTemplate session templateHash = .ok ()) :
    session.policy.templateHash = none ∨ session.policy.templateHash = some templateHash := by
  simp only [checkTemplate, bind_is_ok] at checked
  obtain ⟨_, _, checked⟩ := checked
  cases recorded : session.policy.templateHash with
  | none => exact .inl rfl
  | some current =>
      simp only [recorded, guarded_is_ok, real, Bool.not_false, and_true, ne_eq, not_not] at checked
      exact .inr (by rw [checked.1])

theorem check_shared_free_free (session : Session) (real : session.isTrial = false)
    (checked : checkSharedFree session = .ok ()) : session.policy.HashFree := by
  simp only [checkSharedFree, refused_is_ok, Bool.not_eq_true] at checked
  exact hash_free_of_shared_free session real checked.1

section

variable (s : TpmState) (request : Request) (handle : UInt32)

theorem policy_signed_narrows : Moves (NarrowsAt handle) (policySigned s request) := by
  unfold policySigned
  repeat refine moves_after_lift _ _ _ fun _ _ => ?_
  refine session_step_narrows _ _ _ _ (record_authorization_narrowing _ _ _ _ _) fun _ => ?_
  exact narrows_then_lift _ _

theorem policy_secret_narrows : Moves (NarrowsAt handle) (policySecret s request) := by
  unfold policySecret
  repeat refine moves_after_lift _ _ _ fun _ _ => ?_
  refine session_step_narrows _ _ _ _ (record_authorization_narrowing _ _ _ _ _) fun _ => ?_
  exact narrows_then_lift _ _

theorem policy_ticket_narrows : Moves (NarrowsAt handle) (policyTicket s request) := by
  unfold policyTicket
  repeat refine moves_after_lift _ _ _ fun _ _ => ?_
  exact session_step_narrows _ _ _ _ (record_authorization_narrowing _ _ _ _ _) fun _ => narrows_then_pure _ _

theorem policy_or_narrows : Moves (NarrowsAt handle) (policyOr request) := by
  unfold policyOr
  repeat refine moves_after_lift _ _ _ fun _ _ => ?_
  refine session_step_narrows _ _ _ _ (narrowing_of_digest_only _ ?_) fun _ => narrows_then_pure _ _
  refine moves_bind _ Session.digest_only_trans _ _ (moves_get _ Session.digest_only_refl) fun _ => ?_
  refine moves_after_lift _ _ _ fun _ _ => ?_
  exact moves_bind _ Session.digest_only_trans _ _ clear_policy_digest_only fun _ => extend_policy_digest_only _ _

theorem policy_pcr_narrows : Moves (NarrowsAt handle) (policyPcr s request) := by
  unfold policyPcr
  repeat refine moves_after_lift _ _ _ fun _ _ => ?_
  refine session_step_narrows _ _ _ _ ?_ fun _ => narrows_then_pure _ _
  intro session u session' real ran
  simp only [succeeds_bind, succeeds_get, succeeds_lift] at ran
  obtain ⟨_, _, ⟨rfl, rfl⟩, _, _, ⟨checked, rfl⟩, _, _, set, extended⟩ := ran
  obtain ⟨digest, rfl⟩ := extend_policy_digest_only _ _ _ _ _ extended
  rw [succeeds_set_policy _ _ _ _ set]
  refine Session.narrows_of_policy _ _ ?_
  simp only [real, Bool.false_eq_true, if_false]
  exact { PolicyState.narrows_refl _ with
    pcrUpdateCounter := kept_of_agrees _ _ (check_pcrs_agrees _ _ _ _ real checked) }

theorem policy_locality_narrows : Moves (NarrowsAt handle) (policyLocality request) := by
  unfold policyLocality
  repeat refine moves_after_lift _ _ _ fun _ _ => ?_
  refine session_step_narrows _ _ _ _ ?_ fun _ => narrows_then_pure _ _
  refine narrowing_assertion _ _ _ (fun _ => extend_policy_digest_only _ _) fun session combined digest real made => ?_
  exact { PolicyState.narrows_refl _ with locality := combine_locality_masks _ _ _ made }

theorem policy_nv_narrows : Moves (NarrowsAt handle) (policyNv s request) := by
  unfold policyNv
  repeat refine moves_after_lift _ _ _ fun _ _ => ?_
  exact session_step_narrows _ _ _ _ (narrowing_of_digest_only _ (extend_policy_digest_only _ _))
    fun _ => narrows_then_pure _ _

theorem policy_counter_timer_narrows : Moves (NarrowsAt handle) (policyCounterTimer s request) := by
  unfold policyCounterTimer
  repeat refine moves_after_lift _ _ _ fun _ _ => ?_
  exact session_step_narrows _ _ _ _ (narrowing_of_digest_only _ (extend_policy_digest_only _ _))
    fun _ => narrows_then_pure _ _

theorem policy_command_code_narrows : Moves (NarrowsAt handle) (policyCommandCode request) := by
  unfold policyCommandCode
  repeat refine moves_after_lift _ _ _ fun _ _ => ?_
  refine session_step_narrows _ _ _ _ ?_ fun _ => narrows_then_pure _ _
  refine narrowing_assertion _ (fun _ => _) (fun _ => _) (fun _ => extend_policy_digest_only _ _)
    fun session _ digest real checked => ?_
  exact { PolicyState.narrows_refl _ with
    commandCode := kept_of_agrees _ _ (check_command_code_agrees _ _ real checked) }

-- An assertion that checks nothing: the digest and the new record.
theorem narrowing_unchecked (commandCode : UInt32) (data : Bytes) (f : PolicyState → PolicyState)
    (narrows : ∀ policy digest, PolicyState.Narrows policy (f { policy with digest })) :
    Narrowing (do
      extendPolicy commandCode data
      setPolicy f) := by
  intro session u session' _ ran
  simp only [succeeds_bind] at ran
  obtain ⟨_, _, extended, set⟩ := ran
  obtain ⟨digest, rfl⟩ := extend_policy_digest_only _ _ _ _ _ extended
  rw [succeeds_set_policy _ _ _ _ set]
  exact Session.narrows_of_policy _ _ (narrows _ digest)

theorem policy_physical_presence_narrows : Moves (NarrowsAt handle) (policyPhysicalPresence request) := by
  unfold policyPhysicalPresence
  repeat refine moves_after_lift _ _ _ fun _ _ => ?_
  refine session_step_narrows _ _ _ _ (narrowing_unchecked _ _ _ fun policy digest => ?_)
    fun _ => narrows_then_pure _ _
  exact { PolicyState.narrows_refl _ with physicalPresence := fun _ => rfl }

theorem policy_auth_value_narrows : Moves (NarrowsAt handle) (policyAuthValue request) := by
  unfold policyAuthValue
  repeat refine moves_after_lift _ _ _ fun _ _ => ?_
  refine session_step_narrows _ _ _ _ (narrowing_unchecked _ _ _ fun policy digest => ?_)
    fun _ => narrows_then_pure _ _
  exact { PolicyState.narrows_refl _ with authValue := fun _ => .inl rfl }

theorem policy_password_narrows : Moves (NarrowsAt handle) (policyPassword request) := by
  unfold policyPassword
  repeat refine moves_after_lift _ _ _ fun _ _ => ?_
  refine session_step_narrows _ _ _ _ (narrowing_unchecked _ _ _ fun policy digest => ?_)
    fun _ => narrows_then_pure _ _
  exact { PolicyState.narrows_refl _ with authValue := fun _ => .inr rfl }

theorem policy_cp_hash_narrows : Moves (NarrowsAt handle) (policyCpHash request) := by
  unfold policyCpHash
  repeat refine moves_after_lift _ _ _ fun _ _ => ?_
  refine session_step_narrows _ _ _ _ ?_ fun _ => narrows_then_pure _ _
  refine narrowing_assertion _ (fun _ => _) (fun _ => _) (fun _ => extend_policy_digest_only _ _)
    fun session _ digest real checked => ?_
  exact { PolicyState.narrows_refl _ with
    cpHash := kept_of_agrees _ _ (check_new_cp_hash_agrees _ _ real checked) }

theorem policy_name_hash_narrows : Moves (NarrowsAt handle) (policyNameHash request) := by
  unfold policyNameHash
  repeat refine moves_after_lift _ _ _ fun _ _ => ?_
  refine session_step_narrows _ _ _ _ ?_ fun _ => narrows_then_pure _ _
  refine narrowing_assertion _ (fun _ => _) (fun _ => _) (fun _ => extend_policy_digest_only _ _)
    fun session _ digest real checked => ?_
  exact { PolicyState.narrows_refl _ with
    nameHash := kept_of_agrees _ _ (.inl (check_hash_free_free _ _ real checked).nameHash) }

theorem policy_parameters_narrows : Moves (NarrowsAt handle) (policyParameters request) := by
  unfold policyParameters
  repeat refine moves_after_lift _ _ _ fun _ _ => ?_
  refine session_step_narrows _ _ _ _ ?_ fun _ => narrows_then_pure _ _
  refine narrowing_assertion _ (fun _ => _) (fun _ => _) (fun _ => extend_policy_digest_only _ _)
    fun session _ digest real checked => ?_
  exact { PolicyState.narrows_refl _ with
    parametersHash := kept_of_agrees _ _ (.inl (check_hash_free_free _ _ real checked).parametersHash) }

theorem policy_nv_written_narrows : Moves (NarrowsAt handle) (policyNvWritten request) := by
  unfold policyNvWritten
  repeat refine moves_after_lift _ _ _ fun _ _ => ?_
  refine session_step_narrows _ _ _ _ ?_ fun _ => narrows_then_pure _ _
  refine narrowing_assertion _ (fun _ => _) (fun _ => _) (fun _ => extend_policy_digest_only _ _)
    fun session _ digest real checked => ?_
  exact { PolicyState.narrows_refl _ with
    nvWritten := kept_of_agrees _ _ (check_written_agrees _ _ real checked) }

theorem policy_template_narrows : Moves (NarrowsAt handle) (policyTemplate request) := by
  unfold policyTemplate
  repeat refine moves_after_lift _ _ _ fun _ _ => ?_
  refine session_step_narrows _ _ _ _ ?_ fun _ => narrows_then_pure _ _
  refine narrowing_assertion _ (fun _ => _) (fun _ => _) (fun _ => extend_policy_digest_only _ _)
    fun session _ digest real checked => ?_
  exact { PolicyState.narrows_refl _ with
    templateHash := kept_of_agrees _ _ (check_template_agrees _ _ real checked) }

theorem policy_authorize_narrows : Moves (NarrowsAt handle) (policyAuthorize s request) := by
  unfold policyAuthorize
  repeat refine moves_after_lift _ _ _ fun _ _ => ?_
  refine session_step_narrows _ _ _ _ (narrowing_of_digest_only _ ?_) fun _ => narrows_then_pure _ _
  exact moves_bind _ Session.digest_only_trans _ _ clear_policy_digest_only
    fun _ => policy_authorization_update_digest_only _ _ _

theorem policy_authorize_nv_narrows : Moves (NarrowsAt handle) (policyAuthorizeNv s request) := by
  unfold policyAuthorizeNv
  repeat refine moves_after_lift _ _ _ fun _ _ => ?_
  refine session_step_narrows _ _ _ _ (narrowing_of_digest_only _ ?_) fun _ => narrows_then_pure _ _
  exact moves_bind _ Session.digest_only_trans _ _ clear_policy_digest_only fun _ => extend_policy_digest_only _ _

theorem policy_capability_narrows : Moves (NarrowsAt handle) (policyCapability s request) := by
  unfold policyCapability
  repeat refine moves_after_lift _ _ _ fun _ _ => ?_
  exact session_step_narrows _ _ _ _ (narrowing_of_digest_only _ (extend_policy_digest_only _ _))
    fun _ => narrows_then_pure _ _

theorem policy_transport_spdm_narrows : Moves (NarrowsAt handle) (policyTransportSpdm request) := by
  unfold policyTransportSpdm
  repeat refine moves_after_lift _ _ _ fun _ _ => ?_
  refine session_step_narrows _ _ _ _ ?_ fun _ => narrows_then_pure _ _
  intro session u session' _ ran
  simp only [succeeds_bind, succeeds_get, succeeds_lift] at ran
  obtain ⟨_, _, ⟨rfl, rfl⟩, _, _, ⟨_, rfl⟩, _, _, ⟨_, rfl⟩, _, _, extended, set⟩ := ran
  obtain ⟨digest, rfl⟩ := extend_policy_digest_only _ _ _ _ _ extended
  rw [succeeds_set_policy _ _ _ _ set]
  exact Session.narrows_of_policy _ _ { PolicyState.narrows_refl _ with secureChannel := fun _ => rfl }

-- The two assertions that record a command code without looking at the one recorded.
theorem overwrites_kept (other : UInt32) (action : Action TpmRc Session Unit) (commandCode : UInt32) (slots : SessionSlots)
    (reply : Response) (slots' : SessionSlots)
    (narrowing : ∀ session u session', session.isTrial = false →
      (session.policy.commandCode = none ∨ session.policy.commandCode = some commandCode) →
      Succeeds action session u session' → session.Narrows session')
    (agrees : other = handle → ∀ before, slots.get handle = .ok before →
      before.policy.commandCode = none ∨ before.policy.commandCode = some commandCode)
    (ran : Succeeds (onPolicySession other action >>= fun _ => pure .empty) slots reply slots') :
    NarrowsAt handle slots slots' := by
  rw [succeeds_bind] at ran
  obtain ⟨u, middle, inner, ends⟩ := ran
  rw [succeeds_pure] at ends
  obtain ⟨session, session', found, _, asserted, rfl⟩ := succeeds_on_policy_session other action slots middle u inner
  rw [← ends.2]
  refine SessionSlots.narrows_at_put handle other slots session session' found fun same real => ?_
  exact narrowing session u session' real (agrees same.symm session (same ▸ found)) asserted

def CommandCodeKept (commandCode : UInt32) (slots slots' : SessionSlots) : Prop :=
  (request.handle 0 = .ok handle → ∀ before, slots.get handle = .ok before →
    before.policy.commandCode = none ∨ before.policy.commandCode = some commandCode) → NarrowsAt handle slots slots'

theorem policy_duplication_select_narrows :
    Moves (CommandCodeKept request handle Cc.duplicate) (policyDuplicationSelect s request) := by
  unfold policyDuplicationSelect
  refine moves_after_lift _ _ _ fun other read => ?_
  repeat refine moves_after_lift _ _ _ fun _ _ => ?_
  intro slots reply slots' ran agrees
  refine overwrites_kept handle _ _ _ _ _ _ ?_ (fun same => agrees (same ▸ read)) ran
  intro session u session' real free asserted
  simp only [succeeds_bind, succeeds_get, succeeds_lift] at asserted
  obtain ⟨_, _, ⟨rfl, rfl⟩, _, _, ⟨checked, rfl⟩, _, _, extended, set⟩ := asserted
  obtain ⟨digest, rfl⟩ := extend_policy_digest_only _ _ _ _ _ extended
  rw [succeeds_set_policy _ _ _ _ set]
  exact Session.narrows_of_policy _ _ { PolicyState.narrows_refl _ with
    commandCode := kept_of_agrees _ _ free
    nameHash := kept_of_agrees _ _ (.inl (check_shared_free_free _ real checked).nameHash) }

theorem policy_ac_send_select_narrows :
    Moves (CommandCodeKept request handle Cc.acSend) (policyAcSendSelect request) := by
  unfold policyAcSendSelect
  refine moves_after_lift _ _ _ fun other read => ?_
  repeat refine moves_after_lift _ _ _ fun _ _ => ?_
  intro slots reply slots' ran agrees
  refine overwrites_kept handle _ _ _ _ _ _ ?_ (fun same => agrees (same ▸ read)) ran
  intro session u session' real free asserted
  simp only [succeeds_bind, succeeds_get, succeeds_lift] at asserted
  obtain ⟨_, _, ⟨rfl, rfl⟩, _, _, ⟨checked, rfl⟩, _, _, extended, _, _, ⟨_, rfl⟩, set⟩ := asserted
  obtain ⟨digest, rfl⟩ := extend_policy_digest_only _ _ _ _ _ extended
  rw [succeeds_set_policy _ _ _ _ set]
  exact Session.narrows_of_policy _ _ { PolicyState.narrows_refl _ with
    commandCode := kept_of_agrees _ _ free
    nameHash := kept_of_agrees _ _ (.inl (check_shared_free_free _ real checked).nameHash) }

end

end

end Swtrust
