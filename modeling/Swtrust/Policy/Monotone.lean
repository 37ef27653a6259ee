import Swtrust.Authorization.Assertions
import Swtrust.Execution
import Swtrust.Policy.Assertions
import Swtrust.Toy

set_option autoImplicit false
set_option linter.unusedSectionVars false

namespace Swtrust

open Library Action

section

variable [Primitives]

namespace Handler

theorem succeeds_plain (request : Request) (scope : Scope)
    (run : TpmState → Request → Action TpmRc scope.State Response) (s s' : TpmState) (reply : Reply)
    (ran : Succeeds ((plain scope run).run request) s reply s') :
    ∃ response, Succeeds (scope.zoom (run s request)) s response s' := by
  simp only [Handler.run, succeeds_bind, succeeds_get, succeeds_map] at ran
  obtain ⟨_, _, ⟨rfl, rfl⟩, response, inner, _⟩ := ran
  exact ⟨response, inner⟩

theorem succeeds_issuing (request : Request) (scope : Scope)
    (run : TpmState → Request → Action TpmRc scope.State Reply) (s s' : TpmState) (reply : Reply)
    (ran : Succeeds ((issuing scope run).run request) s reply s') :
    Succeeds (scope.zoom (run s request)) s reply s' := by
  simp only [Handler.run, succeeds_bind, succeeds_get] at ran
  obtain ⟨_, _, ⟨rfl, rfl⟩, inner⟩ := ran
  exact inner

end Handler

theorem succeeds_policy_scope {α : Type} (action : PolicyM α) (s s' : TpmState) (a : α)
    (ran : Succeeds (Scope.policy.zoom action) s a s') : Succeeds action s.sessions a s'.sessions := by
  simp only [Scope.zoom, succeeds_zoom] at ran
  obtain ⟨slots, inner, rfl⟩ := ran
  exact inner

-- PolicyDuplicationSelect and Policy_AC_SendSelect find no other command code on the session they are made on.
structure OverwritesNothing (handle : UInt32) (request : Request) (slots : SessionSlots) : Prop where
  duplication : request.code = Cc.policyDuplicationSelect → request.handle 0 = .ok handle →
    ∀ before, slots.get handle = .ok before →
      before.policy.commandCode = none ∨ before.policy.commandCode = some Cc.duplicate
  acSend : request.code = Cc.policyAcSendSelect → request.handle 0 = .ok handle →
    ∀ before, slots.get handle = .ok before →
      before.policy.commandCode = none ∨ before.policy.commandCode = some Cc.acSend

-- What a row of the table of policy commands does to the session at `handle`.
def RowNarrows (handle : UInt32) (row : UInt32 × Handler) : Prop :=
  ∀ request s reply s', request.code = row.1 → OverwritesNothing handle request s.sessions →
    Succeeds (row.2.run request) s reply s' → NarrowsAt handle s.sessions s'.sessions

theorem plain_row_narrows (handle code : UInt32) (run : TpmState → Request → PolicyM Response)
    (narrows : ∀ s request, Moves (NarrowsAt handle) (run s request)) :
    RowNarrows handle (code, .plain .policy run) := by
  intro request s reply s' _ _ ran
  obtain ⟨response, inner⟩ := Handler.succeeds_plain request .policy run s s' reply ran
  exact narrows s request _ _ _ (succeeds_policy_scope _ s s' response inner)

theorem issuing_row_narrows (handle code : UInt32) (run : TpmState → Request → PolicyM Reply)
    (narrows : ∀ s request, Moves (NarrowsAt handle) (run s request)) :
    RowNarrows handle (code, .issuing .policy run) := by
  intro request s reply s' _ _ ran
  have inner := Handler.succeeds_issuing request .policy run s s' reply ran
  exact narrows s request _ _ _ (succeeds_policy_scope _ s s' reply inner)

theorem query_row_narrows (handle code : UInt32) (run : TpmState → Request → TpmResult Response) :
    RowNarrows handle (code, queryHandler run) := by
  intro request s reply s' _ _ ran
  obtain ⟨response, inner⟩ := Handler.succeeds_plain request .query _ s s' reply ran
  simp only [Scope.zoom, succeeds_zoom] at inner
  obtain ⟨_, _, rfl⟩ := inner
  exact SessionSlots.narrows_at_refl handle _

theorem overwriting_row_narrows (handle code commandCode : UInt32) (run : TpmState → Request → PolicyM Response)
    (agrees : ∀ request slots, request.code = code → OverwritesNothing handle request slots →
      request.handle 0 = .ok handle → ∀ before, slots.get handle = .ok before →
        before.policy.commandCode = none ∨ before.policy.commandCode = some commandCode)
    (narrows : ∀ s request, Moves (CommandCodeKept request handle commandCode) (run s request)) :
    RowNarrows handle (code, .plain .policy run) := by
  intro request s reply s' named nothing ran
  obtain ⟨response, inner⟩ := Handler.succeeds_plain request .policy run s s' reply ran
  exact narrows s request _ _ _ (succeeds_policy_scope _ s s' response inner)
    (agrees request s.sessions named nothing)

theorem policy_handlers_narrow (handle : UInt32) (row : UInt32 × Handler) (member : row ∈ policyHandlers)
    (noRestart : row.1 ≠ Cc.policyRestart) : RowNarrows handle row := by
  have plain := plain_row_narrows handle
  have rows : ∀ row ∈ policyHandlers, row.1 ≠ Cc.policyRestart → RowNarrows handle row := by
    simp only [policyHandlers, List.forall_mem_cons]
    refine ⟨fun restart => (restart rfl).elim, fun _ => ?_, fun _ => ?_, fun _ => ?_, fun _ => ?_, fun _ => ?_, fun _ => ?_,
      fun _ => ?_, fun _ => ?_, fun _ => ?_, fun _ => ?_, fun _ => ?_, fun _ => ?_, fun _ => ?_, fun _ => ?_, fun _ => ?_,
      fun _ => ?_, fun _ => ?_, fun _ => ?_, fun _ => ?_, fun _ => ?_, fun _ => ?_, fun _ => ?_, fun _ => ?_, fun _ => ?_,
      fun _ none => by cases none⟩
    · exact issuing_row_narrows handle _ _ fun s request => policy_signed_narrows s request handle
    · exact issuing_row_narrows handle _ _ fun s request => policy_secret_narrows s request handle
    · exact plain _ _ fun s request => policy_ticket_narrows s request handle
    · exact plain _ _ fun _ request => policy_or_narrows request handle
    · exact plain _ _ fun s request => policy_pcr_narrows s request handle
    · exact plain _ _ fun _ request => policy_locality_narrows request handle
    · exact plain _ _ fun s request => policy_nv_narrows s request handle
    · exact plain _ _ fun s request => policy_counter_timer_narrows s request handle
    · exact plain _ _ fun _ request => policy_command_code_narrows request handle
    · exact plain _ _ fun _ request => policy_physical_presence_narrows request handle
    · exact plain _ _ fun _ request => policy_cp_hash_narrows request handle
    · exact plain _ _ fun _ request => policy_name_hash_narrows request handle
    · exact overwriting_row_narrows handle _ _ _ (fun _ _ named nothing => nothing.duplication named)
        fun s request => policy_duplication_select_narrows s request handle
    · exact plain _ _ fun s request => policy_authorize_narrows s request handle
    · exact plain _ _ fun _ request => policy_auth_value_narrows request handle
    · exact plain _ _ fun _ request => policy_password_narrows request handle
    · exact query_row_narrows handle _ _
    · exact plain _ _ fun _ request => policy_nv_written_narrows request handle
    · exact plain _ _ fun _ request => policy_template_narrows request handle
    · exact plain _ _ fun s request => policy_authorize_nv_narrows s request handle
    · exact plain _ _ fun s request => policy_capability_narrows s request handle
    · exact plain _ _ fun _ request => policy_parameters_narrows request handle
    · exact plain _ _ fun _ request => policy_transport_spdm_narrows request handle
    · exact overwriting_row_narrows handle _ _ _ (fun _ _ named nothing => nothing.acSend named)
        fun _ request => policy_ac_send_select_narrows request handle
  exact rows row member noRestart

def isPolicyCommand (code : UInt32) : Bool := policyHandlers.any fun row => row.1 == code

theorem policy_command_row (code : UInt32) (policy : isPolicyCommand code = true) :
    ∃ handler, handlerOf code = some handler ∧ (code, handler) ∈ policyHandlers := by
  have found : (policyHandlers.find? fun row => row.1 == code).isSome = true := by
    rw [List.find?_isSome]
    simpa [isPolicyCommand] using policy
  obtain ⟨row, first⟩ := Option.isSome_iff_exists.mp found
  have member := List.mem_of_find?_eq_some first
  have named : row.1 = code := by simpa using List.find?_some first
  refine ⟨row.2, ?_, ?_⟩
  · rw [handlerOf, handlers, List.find?_append, first]
    rfl
  · rw [← named]
    exact member

theorem policy_command_narrows (handle : UInt32) (request : Request) (s s' : TpmState) (reply : Reply)
    (policy : isPolicyCommand request.code = true) (noRestart : request.code ≠ Cc.policyRestart)
    (nothing : OverwritesNothing handle request s.sessions) (ran : Succeeds (runCommand request) s reply s') :
    NarrowsAt handle s.sessions s'.sessions := by
  obtain ⟨handler, found, member⟩ := policy_command_row request.code policy
  rw [runCommand, found] at ran
  exact policy_handlers_narrow handle (request.code, handler) member noRestart request s reply s' rfl nothing ran

-- One accepted policy command, in a state of its own, that does not use the session at `handle` to authorize.
structure PolicyStep (handle : UInt32) (before after : Session) (s : TpmState) (request : Request)
    (executed : Executed) (s' : TpmState) : Prop where
  held : s.sessions.get handle = .ok before
  policy : isPolicyCommand request.code = true
  noRestart : request.code ≠ Cc.policyRestart
  unused : ∀ input ∈ request.sessions, handle ≠ input.handle
  ran : Succeeds (TpmState.executeRequest request) s executed s'
  left : s'.sessions.get handle = .ok after

-- Between two policy commands the nonces of a session may move, as when it encrypts or is saved and loaded.
structure Session.SamePolicy (before after : Session) : Prop where
  sameHash : after.authHash = before.authHash
  sameType : after.sessionType = before.sessionType
  sameEpoch : after.timeEpoch = before.timeEpoch
  samePolicy : after.policy = before.policy

theorem Session.narrows_of_same_policy (before after : Session) (same : before.SamePolicy after) :
    before.Narrows after :=
  ⟨same.sameHash, same.sameType, same.sameEpoch, same.samePolicy ▸ PolicyState.narrows_refl before.policy⟩

inductive PolicyRun (handle : UInt32) (allowed : Request → SessionSlots → Prop) : Session → Session → Prop where
  | done (session : Session) : PolicyRun handle allowed session session
  | idle (before middle after : Session) (same : before.SamePolicy middle)
      (rest : PolicyRun handle allowed middle after) : PolicyRun handle allowed before after
  | step (before middle after : Session) (s : TpmState) (request : Request) (executed : Executed) (s' : TpmState)
      (first : PolicyStep handle before middle s request executed s') (allows : allowed request s.sessions)
      (rest : PolicyRun handle allowed middle after) : PolicyRun handle allowed before after

-- What an accepted policy command leaves of the session is what its handler left.
theorem policy_step_handled (handle : UInt32) (before after : Session) (s : TpmState) (request : Request)
    (executed : Executed) (s' : TpmState) (step : PolicyStep handle before after s request executed s') :
    ∃ (handed : Request) (t t' : TpmState) (reply : Reply), handed.code = request.code ∧
      handed.handles = request.handles ∧ t.sessions = s.sessions ∧ Succeeds (runCommand handed) t reply t' ∧
      t'.sessions.get handle = .ok after := by
  obtain ⟨execution⟩ := TpmState.execution_of_succeeds request s s' executed step.ran
  obtain ⟨parameters, same⟩ := execution.request_changes
  refine ⟨executed.request, { execution.authorized with commandAuditSuppressed := false }, execution.handled,
    executed.reply, execution.same_code, ?_, execution.authorized_sessions, execution.running, ?_⟩
  · rw [same]
  · exact (execution.session_kept handle step.unused).symm.trans step.left

theorem policy_step_narrows (handle : UInt32) (before after : Session) (s : TpmState) (request : Request)
    (executed : Executed) (s' : TpmState) (step : PolicyStep handle before after s request executed s')
    (nothing : OverwritesNothing handle request s.sessions) (real : before.isTrial = false) : before.Narrows after := by
  obtain ⟨handed, t, t', reply, code, handles, sessions, ran, left⟩ :=
    policy_step_handled handle before after s request executed s' step
  have stillNothing : OverwritesNothing handle handed t.sessions := by
    have same : handed.handle 0 = request.handle 0 := by
      unfold Request.handle
      rw [handles]
    refine ⟨fun named => ?_, fun named => ?_⟩
    · rw [same, sessions]
      exact nothing.duplication (code.symm.trans named)
    · rw [same, sessions]
      exact nothing.acSend (code.symm.trans named)
  have narrowed := policy_command_narrows handle handed t t' reply (code ▸ step.policy) (code ▸ step.noRestart)
    stillNothing ran
  obtain ⟨handled, found, narrows⟩ := narrowed before ((congrArg (·.get handle) sessions).trans step.held) real
  obtain rfl := Except.ok.inj (found.symm.trans left)
  exact narrows

theorem policy_run_narrows (handle : UInt32) (first last : Session)
    (run : PolicyRun handle (OverwritesNothing handle) first last) (real : first.isTrial = false) :
    first.Narrows last := by
  induction run with
  | done session => exact session.narrows_refl
  | idle before middle after same _ ih =>
      have stillReal : middle.isTrial = false := by
        rw [Session.isTrial, same.sameType]
        exact real
      exact Session.narrows_trans before middle after (Session.narrows_of_same_policy before middle same) (ih stillReal)
  | step before middle after s request executed s' step nothing _ ih =>
      have narrowed := policy_step_narrows handle before middle s request executed s' step nothing real
      have stillReal : middle.isTrial = false := by
        rw [Session.isTrial, narrowed.sameType]
        exact real
      exact Session.narrows_trans before middle after narrowed (ih stillReal)

-- At position `index` of `request` the session authorizes `entity` in `t` only as `recorded` would have allowed.
structure AuthorizesWithin (recorded : Session) (t : TpmState) (request : Request) (index : Nat) (entity : Entity)
    (cp : Bytes) : Prop where
  assertions : t.checkAssertions request (index + 1) cp recorded = .ok ()
  authValue : recorded.policy.needsAuthValue → ∃ attempt, t.attempt request index entity cp = .ok attempt ∧
    attempt.accepted = true ∧ (attempt.form = .policyPassword ∨ attempt.form = .policyAuthValue)

theorem policy_restrictions_monotone (handle : UInt32) (first last : Session)
    (run : PolicyRun handle (OverwritesNothing handle) first last) (policy : first.isPolicy = true)
    (real : first.isTrial = false) (t t' : TpmState) (u : Unit) (request : Request) (index : Nat) (entity : Entity)
    (cp : Bytes) (input : SessionInput) (given : request.sessionAt index = .ok input)
    (notPassword : input.handle ≠ Rh.rsPw) (held : t.sessions.get input.handle = .ok last)
    (accepted : Succeeds (TpmState.checkAuthorization request index entity cp) t u t') :
    AuthorizesWithin first t request index entity cp := by
  have narrowed := policy_run_narrows handle first last run real
  have stillPolicy : last.isPolicy = true := by
    rw [Session.isPolicy, narrowed.sameType]
    exact policy
  obtain ⟨attempt, judged, outcome, _⟩ := TpmState.succeeds_check_authorization request index entity cp t t' u accepted
  have facts := t.attempt_of_policy_session request index entity cp input last attempt given notPassword held
    stillPolicy judged
  refine ⟨?_, fun needed => ⟨attempt, judged, outcome, ?_⟩⟩
  · rw [TpmState.check_assertions_iff]
    exact t.assertions_hold_of_narrows request _ cp first last narrowed facts.assertions
  · cases password : last.policy.passwordNeeded with
    | true => exact .inl (facts.password password)
    | false =>
        rcases narrowed.policy.authValue needed with value | other
        · exact .inr (facts.authValue password value)
        · rw [password] at other
          cases other

end

namespace Toy

def keyHandle : UInt32 := 0x80000000

def heldSession (s : TpmState) : Option Session := s.sessions.sessions.get policyHandle

-- A policy session on which PolicyCommandCode was made.
def coded (code : UInt32) : TpmState :=
  afterCommands [startSession Se.policy, plainCommand Cc.policyCommandCode [policyHandle] (be32 code)] booted

def selectParent (objectName : Bytes) : Request :=
  requestOf (plainCommand Cc.policyDuplicationSelect [policyHandle]
    (sized16 objectName ++ sized16 (be32 Rh.null) ++ [0]))

-- An object whose policy the session satisfies once it has selected the parent.
def movable (code : UInt32) : Option Object :=
  match TpmState.executeRequest (selectParent []) (coded code) with
  | .error _ _ => none
  | .ok _ s =>
    (heldSession s).bind fun session =>
      (Object.new (sealedArea session.policy.digest)
        (some ⟨Alg.keyedhash, Tpm2b.empty, Tpm2b.empty, .bits Tpm2b.empty⟩) Rh.null [] false).toOption

def duplicateRequest : Request :=
  requestOf (authorizedCommand Cc.duplicate [keyHandle, Rh.null] [(policyHandle, [])] (sized16 [] ++ be16 Alg.null))

def withKey (key : Object) (s : TpmState) : TpmState := { s with objects := s.objects.insert keyHandle (.object key) }

def duplicates (t : TpmState) : Bool :=
  match t.entity keyHandle with
  | .ok entity => endsWith (TpmState.checkAuthorization duplicateRequest 0 entity []) t fun _ _ => true
  | .error _ => false

def selects (code : UInt32) (test : Session → TpmState → Bool) : Bool :=
  (movable code).any fun key => (heldSession (coded code)).any fun first =>
    let request := selectParent key.name
    request.code == Cc.policyDuplicationSelect && request.sessions.isEmpty && first.isPolicy && !first.isTrial &&
      endsWith (TpmState.executeRequest request) (coded code) fun _ s =>
        (heldSession s).isSome && duplicates (withKey key s) && test first (withKey key s)

theorem held_session_get (s : TpmState) (session : Session) (held : heldSession s = some session) :
    s.sessions.get policyHandle = .ok session := by
  rw [SessionSlots.get]
  rw [heldSession] at held
  rw [held]

theorem duplicates_accepted (t : TpmState) (accepted : duplicates t = true) : ∃ entity, t.entity keyHandle = .ok entity ∧
    ∃ u t', Succeeds (TpmState.checkAuthorization duplicateRequest 0 entity []) t u t' := by
  unfold duplicates at accepted
  cases found : t.entity keyHandle with
  | error e =>
      rw [found] at accepted
      cases accepted
  | ok entity =>
      rw [found] at accepted
      obtain ⟨u, t', ran, _⟩ := succeeds_of_ends_with _ _ _ accepted
      exact ⟨entity, rfl, u, t', ran⟩

def duplicateInput : SessionInput := ⟨policyHandle, [], ⟨1⟩, []⟩

-- The session was made to name `code`, then to select a parent, and then it authorized a duplication.
structure Selected (code : UInt32) (first last : Session) (t t' : TpmState) (entity : Entity) (u : Unit) : Prop where
  started : (coded code).sessions.get policyHandle = .ok first
  stepped : ∃ request executed s, request.code = Cc.policyDuplicationSelect ∧
    PolicyStep policyHandle first last (coded code) request executed s
  policy : first.isPolicy = true
  real : first.isTrial = false
  held : t.sessions.get duplicateInput.handle = .ok last
  named : t.entity keyHandle = .ok entity
  accepted : Succeeds (TpmState.checkAuthorization duplicateRequest 0 entity []) t u t'

theorem selected_of_selects (code : UInt32) (test : Session → TpmState → Bool) (found : selects code test = true) :
    ∃ first last t t' entity u, Selected code first last t t' entity u ∧ test first t = true := by
  simp only [selects, Option.any_eq_true, Bool.and_eq_true, Bool.not_eq_true'] at found
  obtain ⟨key, _, first, before, ⟨⟨⟨command, unused⟩, policy⟩, real⟩, found⟩ := found
  obtain ⟨executed, s, ran, found⟩ := succeeds_of_ends_with _ _ _ found
  simp only [Bool.and_eq_true, Option.isSome_iff_exists] at found
  obtain ⟨⟨⟨last, after⟩, accepted⟩, tested⟩ := found
  obtain ⟨entity, named, u, t', authorized⟩ := duplicates_accepted _ accepted
  have select : (selectParent key.name).code = Cc.policyDuplicationSelect := by simpa using command
  have step : PolicyStep policyHandle first last (coded code) (selectParent key.name) executed s := {
    held := held_session_get (coded code) first before
    policy := by
      rw [select]
      decide
    noRestart := by
      rw [select]
      decide
    unused := by
      intro input member
      rw [List.isEmpty_iff.mp unused] at member
      cases member
    ran
    left := held_session_get s last after }
  exact ⟨first, last, withKey key s, t', entity, u, ⟨step.held, ⟨_, _, _, select, step⟩, policy, real,
    held_session_get s last after, named, authorized⟩, tested⟩

-- After PolicyDuplicationSelect a session that was only to sign authorizes TPM2_Duplicate.
theorem duplication_select_undoes_command_code : ∃ first last, PolicyRun policyHandle (fun _ _ => True) first last ∧
    first.isPolicy = true ∧ first.isTrial = false ∧ ∃ t t' u entity,
      duplicateRequest.sessionAt 0 = .ok duplicateInput ∧ duplicateInput.handle ≠ Rh.rsPw ∧
      t.sessions.get duplicateInput.handle = .ok last ∧ t.entity keyHandle = .ok entity ∧
      Succeeds (TpmState.checkAuthorization duplicateRequest 0 entity []) t u t' ∧
      ¬ AuthorizesWithin first t duplicateRequest 0 entity [] := by
  have found : selects Cc.sign (fun first t => !(t.checkAssertions duplicateRequest 1 [] first).isOk) = true := by
    decide +kernel
  obtain ⟨first, last, t, t', entity, u, selected, refused⟩ := selected_of_selects _ _ found
  obtain ⟨request, executed, s, _, step⟩ := selected.stepped
  have run : PolicyRun policyHandle (fun _ _ => True) first last :=
    .step first last last _ request executed s step trivial (.done last)
  refine ⟨first, last, run, selected.policy, selected.real, t, t', u, entity, by rfl, by decide, selected.held,
    selected.named, selected.accepted, fun within => ?_⟩
  rw [within.assertions] at refused
  cases refused

theorem selecting_twice_is_monotone : ∃ first t entity, first.policy.commandCode = some Cc.duplicate ∧
    AuthorizesWithin first t duplicateRequest 0 entity [] := by
  have found : selects Cc.duplicate (fun first _ => first.policy.commandCode == some Cc.duplicate) = true := by
    decide +kernel
  obtain ⟨first, last, t, t', entity, u, selected, code⟩ := selected_of_selects _ _ found
  obtain ⟨request, executed, s, select, step⟩ := selected.stepped
  have named : first.policy.commandCode = some Cc.duplicate := by simpa using code
  have same (before : Session) (held : (coded Cc.duplicate).sessions.get policyHandle = .ok before) : before = first :=
    Except.ok.inj (held.symm.trans selected.started)
  have nothing : OverwritesNothing policyHandle request (coded Cc.duplicate).sessions := {
    duplication := fun _ _ before held => .inr (same before held ▸ named)
    acSend := fun other => absurd (select.symm.trans other) (by decide) }
  have run : PolicyRun policyHandle (OverwritesNothing policyHandle) first last :=
    .step first last last _ request executed s step nothing (.done last)
  exact ⟨first, t, entity, named, policy_restrictions_monotone policyHandle first last run selected.policy selected.real t
    t' u duplicateRequest 0 entity [] duplicateInput (by rfl) (by decide) selected.held selected.accepted⟩

end Toy

end Swtrust
