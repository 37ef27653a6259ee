import Swtrust.Authorization.Course
import Swtrust.Library.Guarantee
import Swtrust.Lockout.Frame

set_option autoImplicit false
set_option linter.unusedSectionVars false

namespace Swtrust

open Library Action

section

variable [Primitives]

-- A relation that every stage of a command but its handler guarantees.
structure Undisturbed (relation : TpmState → TpmState → Prop) : Prop where
  steady : Steady relation
  nullified : ∀ request s, relation s (TpmState.nullifyShutdown request s)
  authorized : ∀ request names count index, Guarantees relation (TpmState.authorizeFrom request names count index)
  suppressed : ∀ s suppressed, relation s { s with commandAuditSuppressed := suppressed }
  failed : ∀ s, relation s s.enterFailureMode
  responded : ∀ request reply names contexts parameters,
    Guarantees relation (TpmState.respond request reply names contexts parameters)

-- What a step of a relation is a step of as well.
theorem undisturbed_imply (stronger relation : TpmState → TpmState → Prop) (undisturbed : Undisturbed stronger)
    (steady : Steady relation) (implied : ∀ s t, stronger s t → relation s t) : Undisturbed relation where
  steady := steady
  nullified request s := implied _ _ (undisturbed.nullified request s)
  authorized request names count index :=
    guarantees_imply _ _ _ (undisturbed.authorized request names count index) implied
  suppressed s suppressed := implied _ _ (undisturbed.suppressed s suppressed)
  failed s := implied _ _ (undisturbed.failed s)
  responded request reply names contexts parameters :=
    guarantees_imply _ _ _ (undisturbed.responded request reply names contexts parameters) implied

theorem guarantees_handler_run (relation : TpmState → TpmState → Prop) (request : Request) (handler : Handler)
    (ensured : ∀ {α : Type} (action : Action TpmRc handler.scope.State α),
      Guarantees relation (handler.scope.zoom action)) : Guarantees relation (handler.run request) := by
  cases handler with
  | plain scope run => exact fun s => guarantees_map relation _ _ (ensured (run s request)) s
  | issuing scope run => exact fun s => ensured (run s request) s

theorem run_command_of (request : Request) (handler : Handler) (named : handlerOf request.code = some handler) :
    runCommand request = handler.run request := by
  unfold runCommand
  rw [named]

-- What the scopes guarantee, a command does, but for those whose handlers are seen to one by one.
theorem guarantees_run_listed (relation : TpmState → TpmState → Prop) (refl : Idle relation) (spares : Scope → Bool)
    (codes : List UInt32) (table : (handlers.all fun row => spares row.2.scope || codes.contains row.1) = true)
    (outside : ∀ {α : Type} (scope : Scope) (action : Action TpmRc scope.State α), spares scope = true →
      Guarantees relation (scope.zoom action)) (request : Request)
    (listed : request.code ∈ codes → Guarantees relation (runCommand request)) :
    Guarantees relation (runCommand request) := by
  cases named : handlerOf request.code with
  | none =>
      unfold runCommand
      rw [named]
      exact guarantees_throw refl _
  | some handler =>
      have row := List.all_eq_true.mp table _ (handler_mem _ _ named)
      simp only [Bool.or_eq_true, List.contains_eq_mem, decide_eq_true_eq] at row
      rcases row with spared | member
      · rw [run_command_of request handler named]
        exact guarantees_handler_run relation request handler fun action => outside handler.scope action spared
      · exact listed member

namespace TpmState

theorem guarantees_authorize_from_of_settle (relation : TpmState → TpmState → Prop) (steady : Steady relation)
    (request : Request) (names : List Bytes)
    (settled : ∀ index entity attempt, Guarantees relation (settle request index entity attempt)) (count index : Nat) :
    Guarantees relation (authorizeFrom request names count index) := by
  have here : ∀ index, Guarantees relation (authorizeAt request names index) := by
    intro index s
    rw [s.authorize_at_follows request names index]
    cases s.attemptAt request names index with
    | error e => exact steady.refl s
    | ok pair =>
        exact guarantees_bind steady _ _ (settled index pair.1 pair.2) (fun _ => guarantees_pure steady.refl _) s
  induction count generalizing index with
  | zero => exact guarantees_pure steady.refl _
  | succ count ih =>
      exact guarantees_bind steady _ _ (here index) fun _ =>
        guarantees_bind steady _ _ (ih (index + 1)) fun _ => guarantees_pure steady.refl _

-- A stage that leaves all but the lockout and the Indices as they were.
theorem guarantees_authorize_from (relation : TpmState → TpmState → Prop)
    (guarded : ∀ s lockout nv, relation s { s with lockout, nv }) (request : Request) (names : List Bytes)
    (count index : Nat) : Guarantees relation (authorizeFrom request names count index) := by
  intro s
  obtain ⟨lockout, nv, same⟩ := same_outside_guards _ _ (keeps_authorize_from request names count index s)
  rw [same]
  exact guarded s lockout nv

theorem guarantees_respond_of_view {υ : Type} (view : TpmState → υ) (relation : TpmState → TpmState → Prop)
    (holds : ∀ s t, view t = view s → relation s t) (request : Request) (spared : SparedByResponse request view)
    (reply : Reply) (names : List Bytes) (contexts : List AuthContext) (parameters : Bytes) :
    Guarantees relation (respond request reply names contexts parameters) :=
  fun s => holds s _ (keeps_respond spared reply names contexts parameters s)

section

variable (relation : TpmState → TpmState → Prop) (undisturbed : Undisturbed relation)

include undisturbed

theorem guarantees_run_guarded (request : Request) (handled : Guarantees relation (runCommand request)) :
    Guarantees relation (runGuarded request) := by
  intro s
  have suppressed := undisturbed.suppressed s false
  have ran := undisturbed.steady.trans _ _ _ suppressed (handled { s with commandAuditSuppressed := false })
  unfold runGuarded
  cases ended : runCommand request { s with commandAuditSuppressed := false } with
  | ok reply s' =>
      rw [ended] at ran
      exact ran
  | error e s' =>
      rw [ended] at ran
      dsimp only
      split
      · exact undisturbed.steady.trans _ _ _ ran (undisturbed.failed s')
      · exact ran

theorem guarantees_after_authorization (request : Request) (names : List Bytes) (contexts : List AuthContext)
    (handled : ∀ parameters, (request.sessions = [] → parameters = request.parameters) →
      Guarantees relation (runCommand { request with parameters })) :
    Guarantees relation (afterAuthorization request names contexts) := by
  intro s
  simp only [afterAuthorization, run_get_bind, run_lift_bind]
  cases s.checkUnauthorized request names with
  | error e => exact undisturbed.steady.refl s
  | ok u =>
      dsimp only
      cases s.checkAuditSession request with
      | error e => exact undisturbed.steady.refl s
      | ok u =>
          dsimp only
          cases made : s.decryptParameters request (contexts.map (·.auth)) with
          | error e => exact undisturbed.steady.refl s
          | ok decrypted =>
              obtain ⟨parameters, rfl⟩ := decrypt_parameters_only request s decrypted _ made
              have plain : request.sessions = [] → parameters = request.parameters := fun bare =>
                congrArg Request.parameters (decrypt_parameters_bare request s _ _ bare made)
              refine guarantees_bind undisturbed.steady _ _
                (guarantees_run_guarded relation undisturbed _ (handled parameters plain)) (fun reply => ?_) s
              have answered : Guarantees relation (do
                  let octets ← respond { request with parameters } reply names contexts request.parameters
                  return ⟨octets, { request with parameters }, reply⟩ : TpmM Executed) :=
                guarantees_bind undisturbed.steady _ _ (undisturbed.responded _ _ _ _ _) fun _ =>
                  guarantees_pure undisturbed.steady.refl _
              exact guarantees_ite relation _ _ _ (fun _ => guarantees_bind undisturbed.steady _ _
                (guarantees_throw undisturbed.steady.refl _) fun _ => answered) fun _ => answered

-- What every stage guarantees, a whole command does, whatever its outcome.
theorem run_guarantees_plain (s : TpmState) (locality : UInt8) (octets : Bytes)
    (handled : ∀ request names parameters, s.prepare locality octets = .ok (request, names) →
      (request.sessions = [] → parameters = request.parameters) →
        Guarantees relation (runCommand { request with parameters })) : relation s (run locality octets s).2 := by
  have authorized : ∀ request names, relation s (final (authorizeFrom request names request.info.authHandles 0
      (nullifyShutdown request s))) := fun request names =>
    undisturbed.steady.trans _ _ _ (undisturbed.nullified request s) (undisturbed.authorized request names _ _ _)
  cases s.run_course locality octets with
  | unprepared e stopped same =>
      rcases same with same | ⟨request, parsed, same⟩
      · rw [same]
        exact undisturbed.steady.refl s
      · rw [same]
        exact undisturbed.nullified request s
  | unauthorized request names prepared e ran =>
      have ended := authorized request names
      rw [ran] at ended
      exact ended
  | authorized request names prepared contexts t ran ended =>
      have guarded := authorized request names
      rw [ran] at guarded
      rw [ended]
      exact undisturbed.steady.trans _ _ _ guarded (guarantees_after_authorization relation undisturbed request names
        contexts (fun parameters => handled request names parameters prepared) t)

theorem run_guarantees_prepared (s : TpmState) (locality : UInt8) (octets : Bytes)
    (handled : ∀ request names parameters, s.prepare locality octets = .ok (request, names) →
      Guarantees relation (runCommand { request with parameters })) : relation s (run locality octets s).2 :=
  run_guarantees_plain relation undisturbed s locality octets fun request names parameters prepared _ =>
    handled request names parameters prepared

theorem run_guarantees (s : TpmState) (locality : UInt8) (octets : Bytes)
    (handled : ∀ request parameters, parse octets locality = .ok request →
      Guarantees relation (runCommand { request with parameters })) : relation s (run locality octets s).2 :=
  run_guarantees_prepared relation undisturbed s locality octets fun request names parameters prepared =>
    handled request parameters ((s.prepare_is_ok locality octets request names).mp prepared).2.1

end

end TpmState

end

end Swtrust
