import Swtrust.Authorization.Frame
import Swtrust.Commands.Execute

set_option autoImplicit false
set_option linter.unusedSectionVars false

namespace Swtrust

open Library Action

namespace TpmState

section

variable [Primitives]

theorem keeps_authorize_at (request : Request) (names : List Bytes) (index : Nat) :
    Keeps outsideGuards (authorizeAt request names index) := by
  unfold authorizeAt
  cases request.sessions[index]? with
  | none => exact keeps_throw _ _
  | some input =>
      refine keeps_bind _ _ _ (keeps_get _) fun s => ?_
      refine keeps_bind _ _ _ (keeps_lift _ _) fun handle => ?_
      refine keeps_bind _ _ _ (keeps_lift _ _) fun entity => ?_
      refine keeps_bind _ _ _ (keeps_lift _ _) fun hashAlg => ?_
      refine keeps_bind _ _ _ (keeps_lift _ _) fun cp => ?_
      exact keeps_bind _ _ _ (keeps_check_authorization request index entity cp) fun _ => keeps_pure _ _

theorem keeps_authorize_from (request : Request) (names : List Bytes) (count index : Nat) :
    Keeps outsideGuards (authorizeFrom request names count index) := by
  induction count generalizing index with
  | zero => exact keeps_pure _ _
  | succ count ih =>
      refine keeps_bind _ _ _ (keeps_authorize_at request names index) fun context => ?_
      exact keeps_bind _ _ _ (ih (index + 1)) fun _ => keeps_pure _ _

-- A view of the state that no response changes: it shows neither the generator, the audit, the flushed object nor
-- the sessions of the request.
structure SparedByResponse {υ : Type} (request : Request) (view : TpmState → υ) : Prop where
  rng : ∀ s rng, view { s with rng } = view s
  audit : ∀ s audit, view { s with audit } = view s
  objects : ∀ s objects, view { s with objects } = view s
  put : ∀ s session, ∀ input ∈ request.sessions, view (s.putSession input.handle session) = view s
  remove : ∀ s, ∀ input ∈ request.sessions, view { s with sessions := s.sessions.remove input.handle } = view s

-- A view that nothing in the response of a command touches but what it flushes.
structure SparedByAnswer {υ : Type} (request : Request) (view : TpmState → υ) : Prop where
  rng : ∀ s rng, view { s with rng } = view s
  audit : ∀ s digest counter exclusiveSession,
    view { s with audit := { s.audit with digest, counter, exclusiveSession } } = view s
  put : ∀ s session, ∀ input ∈ request.sessions, view (s.putSession input.handle session) = view s
  remove : ∀ s, ∀ input ∈ request.sessions, view { s with sessions := s.sessions.remove input.handle } = view s

theorem session_at_mem (request : Request) (index : Nat) (input : SessionInput)
    (found : request.sessionAt index = .ok input) : input ∈ request.sessions := by
  unfold Request.sessionAt at found
  split at found
  next given =>
    obtain rfl := Except.ok.inj found
    exact List.mem_of_getElem? given
  next => cases found

section

variable {υ : Type} {view : TpmState → υ} {request : Request} (spared : SparedByAnswer request view)

include spared

theorem keeps_roll_response_nonces (inputs : List SessionInput) (given : ∀ input ∈ inputs, input ∈ request.sessions) :
    Keeps view (rollResponseNonces inputs) := by
  induction inputs with
  | nil => exact keeps_pure _ _
  | cons input rest ih =>
      have later := ih fun input member => given input (List.mem_cons_of_mem _ member)
      unfold rollResponseNonces
      refine keeps_bind _ _ _ (keeps_get _) fun s => ?_
      by_cases password : input.handle = Rh.rsPw
      · simp only [password, if_true]
        exact keeps_bind _ _ _ later fun _ => keeps_pure _ _
      · simp only [password, if_false]
        cases s.sessions.get input.handle with
        | error e => exact keeps_bind _ _ _ later fun _ => keeps_pure _ _
        | ok session =>
            refine keeps_bind _ _ _ (keeps_zoom _ _ _ _ fun rng s => spared.rng s rng) fun nonce => ?_
            refine keeps_bind _ _ _ (keeps_modify _ _ fun s => ?_) fun _ => ?_
            · exact spared.put s _ input (given input List.mem_cons_self)
            · exact keeps_bind _ _ _ later fun _ => keeps_pure _ _

theorem keeps_audit_session (names : List Bytes) (input : SessionInput) (given : input ∈ request.sessions)
    (commandParameters responseParameters : Bytes) :
    Keeps view (auditSession request names input commandParameters responseParameters) := by
  intro s
  simp only [auditSession, run_get_bind]
  cases s.sessions.get input.handle with
  | error e => rfl
  | ok session =>
      simp only [run_lift_bind]
      split
      · split
        · split
          · exact spared.put s _ input given
          · rfl
        · rfl
      · rfl

theorem keeps_audit_command (names : List Bytes) (commandParameters responseParameters : Bytes) :
    Keeps view (auditCommand request names commandParameters responseParameters) := by
  unfold auditCommand
  refine keeps_bind _ _ _ (keeps_get _) fun s => ?_
  refine keeps_bind _ _ _ (keeps_lift _ _) fun cp => ?_
  refine keeps_bind _ _ _ (keeps_lift _ _) fun rp => ?_
  refine keeps_bind _ _ _ (keeps_lift _ _) fun size => ?_
  refine keeps_bind _ _ _ (keeps_modify _ _ fun s => ?_) fun _ => ?_
  · split
    · exact spared.audit s _ _ _
    · rfl
  · refine keeps_bind _ _ _ (keeps_get _) fun s => ?_
    refine keeps_bind _ _ _ (keeps_lift _ _) fun digest => ?_
    exact keeps_modify _ _ fun s => spared.audit s _ _ _

theorem keeps_update_audit (names : List Bytes) (commandParameters responseParameters : Bytes) :
    Keeps view (updateAudit request names commandParameters responseParameters) := by
  have commandAudit : Keeps view (do
      if (← get).commandAuditApplies request.code then
        auditCommand request names commandParameters responseParameters : TpmM Unit) :=
    keeps_bind _ _ _ (keeps_get _) fun s =>
      keeps_ite _ _ _ _ (keeps_audit_command spared names _ _) (keeps_pure _ _)
  unfold updateAudit
  cases auditSessionIndex request with
  | none =>
      by_cases kept : keepsExclusiveAudit request.code = true
      · simp only [kept, Bool.not_true, Bool.false_eq_true, if_false]
        exact commandAudit
      · simp only [kept, Bool.not_false, if_true]
        exact keeps_bind _ _ _ (keeps_modify _ _ fun s => spared.audit s _ _ _) fun _ => commandAudit
  | some index =>
      intro s
      simp only [run_lift_bind]
      cases found : request.sessionAt index with
      | error e => rfl
      | ok input =>
          have member := session_at_mem request index input found
          refine keeps_bind view _ _ (keeps_audit_session spared names input member _ _) (fun _ => ?_) s
          exact keeps_bind _ _ _ (keeps_modify _ _ fun s => spared.audit s _ _ _) fun _ => commandAudit

theorem close_session_spared (index : Nat) (input : SessionInput) (given : input ∈ request.sessions) (s : TpmState) :
    view (closeSession request index input s) = view s := by
  have removed := spared.remove s input given
  unfold closeSession
  split
  · rfl
  · split
    · dsimp only
      split
      · rw [← removed]
        exact spared.audit { s with sessions := s.sessions.remove input.handle } _ _ _
      · exact removed
    · split
      · rfl
      · exact spared.put s _ input given

theorem close_sessions_from_spared (inputs : List SessionInput) (index : Nat) (s : TpmState)
    (given : ∀ input ∈ inputs, input ∈ request.sessions) :
    view (closeSessionsFrom request index inputs s) = view s := by
  induction inputs generalizing index s with
  | nil => rfl
  | cons input rest ih =>
      rw [closeSessionsFrom, ih _ _ fun input member => given input (List.mem_cons_of_mem _ member)]
      exact close_session_spared spared index input (given input List.mem_cons_self) s

theorem keeps_answer (flushed : ∀ s, view (flushIfNeeded request s) = view s) (reply : Reply) (names : List Bytes)
    (contexts : List AuthContext) (commandParameters : Bytes) :
    Keeps view (respond request reply names contexts commandParameters) := by
  unfold respond
  refine keeps_choice _ _ _ _ _ (keeps_roll_response_nonces spared _ fun _ given => given) (keeps_pure _ _)
    fun nonces => ?_
  refine keeps_bind _ _ _ (keeps_get _) fun s => ?_
  refine keeps_bind _ _ _ (keeps_get _) fun t => ?_
  refine keeps_bind _ _ _ (keeps_lift _ _) fun parameters => ?_
  refine keeps_bind _ _ _ (keeps_update_audit spared names _ _) fun _ => ?_
  have closed : ∀ area, Keeps view (do
      modify fun s => flushIfNeeded request (closeSessions request s)
      pure (successResponse request.tag (responseBody request reply.handle parameters area)) : TpmM Bytes) := by
    intro area
    refine keeps_bind _ _ _ (keeps_modify _ _ fun s => ?_) fun _ => keeps_pure _ _
    rw [flushed]
    exact close_sessions_from_spared spared _ _ _ fun _ given => given
  refine keeps_ite _ _ _ _ ?_ (keeps_bind _ _ _ (keeps_pure _ _) closed)
  exact keeps_bind _ _ _ (keeps_get _) fun s => keeps_bind _ _ _ (keeps_lift _ _) closed

end

section

variable {υ : Type} {view : TpmState → υ} {request : Request} (spared : SparedByResponse request view)

include spared

theorem flush_if_needed_spared (s : TpmState) : view (flushIfNeeded request s) = view s := by
  unfold flushIfNeeded
  split
  · rfl
  · split
    · exact spared.objects s _
    · rfl

theorem keeps_respond (reply : Reply) (names : List Bytes) (contexts : List AuthContext) (commandParameters : Bytes) :
    Keeps view (respond request reply names contexts commandParameters) :=
  keeps_answer ⟨spared.rng, fun s _ _ _ => spared.audit s _, spared.put, spared.remove⟩ (flush_if_needed_spared spared)
    reply names contexts
    commandParameters

end

-- A session the request does not carry is one of these views.
theorem session_spared (request : Request) (handle : UInt32) (apart : ∀ input ∈ request.sessions, handle ≠ input.handle) :
    SparedByResponse request fun s => s.sessions.get handle where
  rng _ _ := rfl
  audit _ _ := rfl
  objects _ _ := rfl
  put s session input given := SessionSlots.get_put_other s.sessions _ _ session (apart input given)
  remove s input given := SessionSlots.get_remove_other s.sessions _ _ (apart input given)

variable (request : Request)

-- A command that succeeded: what was checked, in which state the handler ran, and what followed it.
structure Execution (s : TpmState) (executed : Executed) (s' : TpmState) where
  names : List Bytes
  contexts : List AuthContext
  authorized : TpmState
  handled : TpmState
  started : s.checkStarted request = .ok ()
  checked : (nullifyShutdown request s).checkRequest request = .ok names
  authorizing : Succeeds (authorizeFrom request names request.info.authHandles 0) (nullifyShutdown request s) contexts
    authorized
  unauthorized : authorized.checkUnauthorized request names = .ok ()
  decrypting : authorized.decryptParameters request (contexts.map (·.auth)) = .ok executed.request
  running : Succeeds (runCommand executed.request) { authorized with commandAuditSuppressed := false } executed.reply
    handled
  consumed : executed.reply.unread = []
  responding : Succeeds (respond executed.request executed.reply names contexts request.parameters) handled
    executed.octets s'

theorem succeeds_run_guarded (s s' : TpmState) (reply : Reply) (ran : Succeeds (runGuarded request) s reply s') :
    Succeeds (runCommand request) { s with commandAuditSuppressed := false } reply s' := by
  unfold Succeeds runGuarded at ran
  unfold Succeeds
  split at ran
  next made =>
    rw [made]
    exact ran
  next => cases ran

theorem execution_of_succeeds (s s' : TpmState) (executed : Executed)
    (ran : Succeeds (executeRequest request) s executed s') : Nonempty (Execution request s executed s') := by
  simp only [executeRequest, succeeds_bind, succeeds_get, succeeds_lift, succeeds_modify] at ran
  obtain ⟨_, _, ⟨rfl, rfl⟩, _, _, ⟨started, rfl⟩, _, _, rfl, _, _, ⟨rfl, rfl⟩, names, _, ⟨checked, rfl⟩, contexts,
    _, authorizing, _, _, ⟨rfl, rfl⟩, _, _, ⟨unauthorized, rfl⟩, _, _, ⟨rfl, rfl⟩, _, _, ⟨_, rfl⟩,
    _, _, ⟨rfl, rfl⟩, decrypted, _, ⟨decrypting, rfl⟩, reply, handled, running, ending⟩ := ran
  by_cases unread : reply.unread.isEmpty = true
  · simp only [unread, Bool.not_true, Bool.false_eq_true, if_false, succeeds_bind, succeeds_pure] at ending
    obtain ⟨octets, _, responding, rfl, rfl⟩ := ending
    have consumed : reply.unread = [] := by simpa using unread
    have ran := succeeds_run_guarded decrypted _ _ _ running
    exact ⟨names, contexts, _, _, started, checked, authorizing, unauthorized, decrypting, ran, consumed, responding⟩
  · simp [unread, succeeds_bind] at ending

theorem request_of_execute (s s' : TpmState) (locality : UInt8) (octets : Bytes) (executed : Executed)
    (ran : Succeeds (execute locality octets) s executed s') :
    ∃ request, parse octets locality = .ok request ∧ Succeeds (executeRequest request) s executed s' := by
  unfold Succeeds execute at ran
  simp only [run_get_bind, run_lift_bind] at ran
  cases available : s.checkFailureMode octets with
  | error e => simp [available] at ran
  | ok u =>
      cases parsed : parse octets locality with
      | error e => simp [available, parsed] at ran
      | ok request =>
          simp only [available, parsed] at ran
          exact ⟨request, rfl, ran⟩

-- Without sessions nothing is encrypted.
theorem decrypt_parameters_bare (s : TpmState) (decrypted : Request) (authValues : List Bytes)
    (bare : request.sessions = []) (made : s.decryptParameters request authValues = .ok decrypted) : decrypted = request := by
  unfold decryptParameters Request.position at made
  rw [bare] at made
  exact ((pure_is_ok _ _).mp made).symm

theorem decrypt_parameters_only (s : TpmState) (decrypted : Request) (authValues : List Bytes)
    (made : s.decryptParameters request authValues = .ok decrypted) :
    ∃ parameters, decrypted = { request with parameters } := by
  unfold decryptParameters at made
  cases chosen : request.position SessionAttributes.decrypt with
  | none =>
      rw [chosen, pure_is_ok] at made
      exact ⟨request.parameters, made.symm⟩
  | some index =>
      rw [chosen] at made
      simp only [bind_is_ok] at made
      obtain ⟨input, _, made⟩ := made
      by_cases password : input.handle = Rh.rsPw
      · rw [if_pos password] at made
        cases made
      · rw [if_neg password, bind_is_ok] at made
        obtain ⟨session, _, made⟩ := made
        cases given : firstSizedParameter request.parameters with
        | none =>
            rw [given] at made
            cases made
        | some body =>
            rw [given, bind_is_ok] at made
            obtain ⟨plain, _, made⟩ := made
            rw [pure_is_ok] at made
            exact ⟨_, made.symm⟩

theorem same_outside_guards (s t : TpmState) (same : t.outsideGuards = s.outsideGuards) :
    ∃ lockout nv, t = { s with lockout, nv } := by
  refine ⟨t.lockout, t.nv, ?_⟩
  cases s
  cases t
  simp only [outsideGuards, mk.injEq] at same
  simp [same]

namespace Execution

variable {request} {s s' : TpmState} {executed : Executed} (execution : Execution request s executed s')

theorem authorized_changes : ∃ lockout nv, execution.authorized = { nullifyShutdown request s with lockout, nv } := by
  have kept := keeps_succeeds _ _ _ _ _ (keeps_authorize_from request execution.names _ _) execution.authorizing
  exact same_outside_guards _ _ kept

include execution in
theorem request_changes : ∃ parameters, executed.request = { request with parameters } :=
  decrypt_parameters_only request _ _ _ execution.decrypting

include execution in
theorem same_code : executed.request.code = request.code := by
  obtain ⟨_, same⟩ := execution.request_changes
  rw [same]

include execution in
theorem same_sessions : executed.request.sessions = request.sessions := by
  obtain ⟨_, same⟩ := execution.request_changes
  rw [same]

theorem authorized_sessions : execution.authorized.sessions = s.sessions := by
  obtain ⟨_, _, same⟩ := execution.authorized_changes
  rw [same]
  unfold nullifyShutdown
  split <;> rfl

theorem session_kept (handle : UInt32) (apart : ∀ input ∈ request.sessions, handle ≠ input.handle) :
    s'.sessions.get handle = execution.handled.sessions.get handle := by
  rw [← execution.same_sessions] at apart
  exact keeps_succeeds _ _ _ _ _ (keeps_respond (session_spared executed.request handle apart) _ _ _ _)
    execution.responding

end Execution

end

end TpmState

end Swtrust
