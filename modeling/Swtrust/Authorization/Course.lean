import Swtrust.Authorization.Comparisons
import Swtrust.Execution

set_option autoImplicit false
set_option linter.unusedSectionVars false

namespace Swtrust

open Library Action

namespace TpmState

section

variable [Primitives]

-- The request, and the Names of its handles, if the command comes as far as its authorizations.
def prepare (s : TpmState) (locality : UInt8) (command : Bytes) : TpmResult (Request × List Bytes) := do
  s.checkFailureMode command
  let request ← parse command locality
  s.checkStarted request
  let names ← (nullifyShutdown request s).checkRequest request
  return (request, names)

theorem prepare_is_ok (s : TpmState) (locality : UInt8) (command : Bytes) (request : Request) (names : List Bytes) :
    s.prepare locality command = .ok (request, names) ↔
      s.checkFailureMode command = .ok () ∧ parse command locality = .ok request ∧ s.checkStarted request = .ok () ∧
        (nullifyShutdown request s).checkRequest request = .ok names := by
  simp only [prepare, bind_is_ok, pure_is_ok, Prod.mk.injEq]
  constructor
  · rintro ⟨_, available, found, parsed, _, started, checked, named, rfl, rfl⟩
    exact ⟨available, parsed, started, named⟩
  · rintro ⟨available, parsed, started, named⟩
    exact ⟨(), available, request, parsed, (), started, names, named, rfl, rfl⟩

-- The part of a command after the authorized handles are authorized.
def afterAuthorization (request : Request) (names : List Bytes) (contexts : List AuthContext) : TpmM Executed := do
  (← get).checkUnauthorized request names
  (← get).checkAuditSession request
  let decrypted ← (← get).decryptParameters request (contexts.map (·.auth))
  let reply ← runGuarded decrypted
  if !reply.unread.isEmpty then throw Rc.size
  let octets ← respond decrypted reply names contexts request.parameters
  return ⟨octets, decrypted, reply⟩

-- The request as its handler gets it, if the checks after the authorizations let it through.
def admitted (t : TpmState) (request : Request) (names : List Bytes) (contexts : List AuthContext) : TpmResult Request := do
  t.checkUnauthorized request names
  t.checkAuditSession request
  t.decryptParameters request (contexts.map (·.auth))

-- What a command has compared before its handler runs.
structure Compared where
  request : Request
  authorizing : List (Nat × Entity × Attempt)
  keys : List Session

def compared (s : TpmState) (locality : UInt8) (command : Bytes) : TpmResult Compared := do
  let (request, names) ← s.prepare locality command
  let count := request.info.authHandles
  let s := nullifyShutdown request s
  return ⟨request, comparisons request names count 0 s, match authorizeFrom request names count 0 s with
    | .ok _ t => t.keyComparisons request names count (request.sessions.drop count)
    | .error _ _ => []⟩

-- How far a command comes: it is not prepared, or not authorized, or goes on from there.
inductive Course (s : TpmState) (locality : UInt8) (command : Bytes) (s' : TpmState) : Prop where
  | unprepared (e : TpmRc) (stopped : s.prepare locality command = .error e)
      (same : s' = s ∨ ∃ request, parse command locality = .ok request ∧ s' = nullifyShutdown request s)
  | unauthorized (request : Request) (names : List Bytes) (prepared : s.prepare locality command = .ok (request, names))
      (e : TpmRc) (ran : authorizeFrom request names request.info.authHandles 0 (nullifyShutdown request s) = .error e s')
  | authorized (request : Request) (names : List Bytes) (prepared : s.prepare locality command = .ok (request, names))
      (contexts : List AuthContext) (t : TpmState)
      (ran : authorizeFrom request names request.info.authHandles 0 (nullifyShutdown request s) = .ok contexts t)
      (ended : s' = final (afterAuthorization request names contexts t))

theorem run_course (locality : UInt8) (command : Bytes) (s : TpmState) :
    Course s locality command (run locality command s).2 := by
  have state : (run locality command s).2 = final (execute locality command s) := by
    unfold run
    cases execute locality command s <;> rfl
  rw [state]
  unfold execute
  simp only [run_get_bind, run_lift_bind]
  cases available : s.checkFailureMode command with
  | error e => exact .unprepared e (by simp [prepare, available, bind, Except.bind]) (.inl rfl)
  | ok u =>
      dsimp only
      cases parsed : parse command locality with
      | error e => exact .unprepared e (by simp [prepare, available, parsed, bind, Except.bind]) (.inl rfl)
      | ok request =>
          simp only [executeRequest, run_get_bind, run_lift_bind]
          cases started : s.checkStarted request with
          | error e => exact .unprepared e (by simp [prepare, available, parsed, started, bind, Except.bind]) (.inl rfl)
          | ok u =>
              change Course s locality command (final ((get >>= fun t : TpmState => (do
                let names ← t.checkRequest request
                let contexts ← authorizeFrom request names request.info.authHandles 0
                afterAuthorization request names contexts : TpmM Executed)) (nullifyShutdown request s)))
              simp only [run_get_bind, run_lift_bind]
              cases checked : (nullifyShutdown request s).checkRequest request with
              | error e =>
                  refine .unprepared e ?_ (.inr ⟨request, parsed, rfl⟩)
                  simp [prepare, available, parsed, started, checked, bind, Except.bind]
              | ok names =>
                  have prepared := (s.prepare_is_ok locality command request names).mpr ⟨available, parsed, started, checked⟩
                  simp only [bind, EStateM.bind]
                  cases ran : authorizeFrom request names request.info.authHandles 0 (nullifyShutdown request s) with
                  | error e t => exact .unauthorized request names prepared e ran
                  | ok contexts t => exact .authorized request names prepared contexts t ran rfl

-- A command that is prepared and authorized comes to the rest of it.
theorem execute_authorized (locality : UInt8) (command : Bytes) (s : TpmState) (request : Request) (names : List Bytes)
    (prepared : s.prepare locality command = .ok (request, names)) (contexts : List AuthContext) (t : TpmState)
    (ran : authorizeFrom request names request.info.authHandles 0 (nullifyShutdown request s) = .ok contexts t) :
    execute locality command s = afterAuthorization request names contexts t := by
  obtain ⟨available, parsed, started, checked⟩ := (s.prepare_is_ok locality command request names).mp prepared
  unfold execute
  simp only [run_get_bind, run_lift_bind, available, parsed, executeRequest, started]
  change (get >>= fun u : TpmState => (do
    let names ← u.checkRequest request
    let contexts ← authorizeFrom request names request.info.authHandles 0
    afterAuthorization request names contexts : TpmM Executed)) (nullifyShutdown request s) = _
  simp only [run_get_bind, run_lift_bind, checked]
  simp only [bind, EStateM.bind, ran]

-- A command that succeeds has run to its end.
theorem execute_is_ok (locality : UInt8) (command : Bytes) (s s' : TpmState) (executed : Executed)
    (ran : execute locality command s = .ok executed s') :
    ∃ request names contexts t, s.prepare locality command = .ok (request, names) ∧
      authorizeFrom request names request.info.authHandles 0 (nullifyShutdown request s) = .ok contexts t ∧
      afterAuthorization request names contexts t = .ok executed s' := by
  unfold execute at ran
  simp only [run_get_bind, run_lift_bind] at ran
  cases available : s.checkFailureMode command with
  | error e => simp [available] at ran
  | ok u =>
      cases parsed : parse command locality with
      | error e => simp [available, parsed] at ran
      | ok request =>
          simp only [available, parsed, executeRequest, run_get_bind, run_lift_bind] at ran
          cases started : s.checkStarted request with
          | error e => simp [started] at ran
          | ok u =>
              rw [started] at ran
              change (get >>= fun t : TpmState => (do
                let names ← t.checkRequest request
                let contexts ← authorizeFrom request names request.info.authHandles 0
                afterAuthorization request names contexts : TpmM Executed)) (nullifyShutdown request s) =
                  .ok executed s' at ran
              simp only [run_get_bind, run_lift_bind] at ran
              cases checked : (nullifyShutdown request s).checkRequest request with
              | error e => simp [checked] at ran
              | ok names =>
                  have prepared := (s.prepare_is_ok locality command request names).mpr ⟨available, parsed, started, checked⟩
                  simp only [checked, bind, EStateM.bind] at ran
                  cases authorized : authorizeFrom request names request.info.authHandles 0 (nullifyShutdown request s) with
                  | error e t => simp [authorized] at ran
                  | ok contexts t =>
                      rw [authorized] at ran
                      exact ⟨request, names, contexts, t, prepared, authorized, ran⟩

-- A view that neither the response of a command nor what guards its handler touches.
structure SparedByExecution {υ : Type} (view : TpmState → υ) : Prop where
  response : ∀ request, SparedByResponse request view
  suppressed : ∀ s suppressed, view { s with commandAuditSuppressed := suppressed } = view s
  failed : ∀ s, view s.enterFailureMode = view s

section

variable {υ : Type} (view : TpmState → υ) (spared : SparedByExecution view)

include spared

theorem final_run_guarded (request : Request) (s : TpmState) :
    view (final (runGuarded request s)) = view (final (runCommand request { s with commandAuditSuppressed := false })) := by
  unfold runGuarded
  cases runCommand request { s with commandAuditSuppressed := false } with
  | ok reply s' => rfl
  | error e s' =>
      dsimp only
      split
      · exact spared.failed s'
      · rfl

-- Past the authorizations a view is as it was, or as the handler leaves it.
theorem after_authorization_ends (request : Request) (names : List Bytes) (contexts : List AuthContext) (t : TpmState) :
    view (final (afterAuthorization request names contexts t)) =
      match t.admitted request names contexts with
      | .ok decrypted => view (final (runCommand decrypted { t with commandAuditSuppressed := false }))
      | .error _ => view t := by
  simp only [afterAuthorization, admitted, run_get_bind, run_lift_bind]
  cases t.checkUnauthorized request names with
  | error e => rfl
  | ok u =>
      simp only [bind, Except.bind]
      cases t.checkAuditSession request with
      | error e => rfl
      | ok u =>
          dsimp only
          cases t.decryptParameters request (contexts.map (·.auth)) with
          | error e => rfl
          | ok decrypted =>
              dsimp only
              rw [← final_run_guarded view spared]
              simp only [EStateM.bind]
              cases runGuarded decrypted t with
              | error e s' => rfl
              | ok reply s' =>
                  have responding : Keeps view (do
                      if !reply.unread.isEmpty then throw Rc.size
                      let octets ← respond decrypted reply names contexts request.parameters
                      return ⟨octets, decrypted, reply⟩ : TpmM Executed) := by
                    refine keeps_ite _ _ _ _ (keeps_bind _ _ _ (keeps_throw _ _) fun _ => ?_) ?_
                    all_goals
                      exact keeps_bind _ _ _ (keeps_respond (spared.response _) _ _ _ _) fun _ => keeps_pure _ _
                  exact responding s'

theorem after_authorization_runs (request : Request) (names : List Bytes) (contexts : List AuthContext) (t : TpmState) :
    view (final (afterAuthorization request names contexts t)) = view t ∨
      ∃ parameters, view (final (afterAuthorization request names contexts t)) =
        view (final (runCommand { request with parameters } { t with commandAuditSuppressed := false })) := by
  rw [after_authorization_ends view spared]
  cases admits : t.admitted request names contexts with
  | error e => exact .inl rfl
  | ok decrypted =>
      simp only [admitted, bind_is_ok] at admits
      obtain ⟨_, _, _, _, made⟩ := admits
      obtain ⟨parameters, rfl⟩ := decrypt_parameters_only request t decrypted _ made
      exact .inr ⟨parameters, rfl⟩

end

end

end TpmState

end Swtrust
