import Swtrust.Startup.Kinds

set_option autoImplicit false
set_option linter.unusedSectionVars false

namespace Swtrust

open Library Action

section

variable [Primitives]

namespace TpmState

-- The request, and the state its handler finds, if a command comes so far.
def reaching (s : TpmState) (locality : UInt8) (octets : Bytes) : Option (Request × TpmState) :=
  match s.prepare locality octets with
  | .error _ => none
  | .ok (request, names) =>
    match authorizeFrom request names request.info.authHandles 0 (nullifyShutdown request s) with
    | .error _ _ => none
    | .ok contexts t =>
      match t.admitted request names contexts with
      | .error _ => none
      | .ok decrypted => some (decrypted, { t with commandAuditSuppressed := false })

-- The request whose handler ran to its end.
def carried (s : TpmState) (locality : UInt8) (octets : Bytes) : Option Request :=
  match s.reaching locality octets with
  | none => none
  | some (request, t) =>
    match runCommand request t with
    | .ok _ _ => some request
    | .error _ _ => none

theorem nullify_shutdown_again (request : Request) (s : TpmState) :
    nullifyShutdown request (nullifyShutdown request s) = nullifyShutdown request s := by
  by_cases undoes : s.started ∧ request.code ≠ Cc.shutdown ∧ s.shutdownType ≠ Su.none
  · have nullified : nullifyShutdown request s = { s with
        shutdownType := Su.none
        startupClear := s.startupClear.without StartupClearAttributes.orderly } := by
      unfold nullifyShutdown
      rw [if_pos undoes]
    rw [nullified]
    unfold nullifyShutdown
    exact if_neg fun again => again.2.2 rfl
  · have same : nullifyShutdown request s = s := by
      unfold nullifyShutdown
      rw [if_neg undoes]
    rw [same, same]

theorem nullify_shutdown_changes (request : Request) (s : TpmState) :
    ∃ shutdownType startupClear, nullifyShutdown request s = { s with shutdownType, startupClear } := by
  unfold nullifyShutdown
  split
  · exact ⟨_, _, rfl⟩
  · exact ⟨s.shutdownType, s.startupClear, rfl⟩

theorem taken_of_nullified (s : TpmState) (locality : UInt8) (octets : Bytes) (request : Request)
    (took : s.taken locality octets = .ok request) : (nullifyShutdown request s).taken locality octets = .ok request := by
  obtain ⟨available, parsed, started⟩ := (s.taken_is_ok locality octets request).mp took
  obtain ⟨_, _, same⟩ := nullify_shutdown_changes request s
  refine (taken_is_ok _ locality octets request).mpr ⟨?_, parsed, ?_⟩
  · rw [same]
    exact available
  · rw [same]
    exact started

theorem prepare_of_taken (s : TpmState) (locality : UInt8) (octets : Bytes) (request : Request)
    (took : s.taken locality octets = .ok request) : s.prepare locality octets = (do
      let names ← (nullifyShutdown request s).checkRequest request
      return (request, names)) := by
  obtain ⟨available, parsed, started⟩ := (s.taken_is_ok locality octets request).mp took
  simp only [prepare, available, parsed, started, bind, Except.bind]

theorem reaching_of_refused (s : TpmState) (locality : UInt8) (octets : Bytes) (e : TpmRc)
    (refused : s.taken locality octets = .error e) : s.reaching locality octets = none := by
  unfold reaching
  cases prepared : s.prepare locality octets with
  | error e => rfl
  | ok pair =>
      obtain ⟨available, parsed, started, _⟩ := (s.prepare_is_ok locality octets pair.1 pair.2).mp prepared
      rw [(s.taken_is_ok locality octets pair.1).mpr ⟨available, parsed, started⟩] at refused
      cases refused

theorem reaching_of_nullified (s : TpmState) (locality : UInt8) (octets : Bytes) (request : Request)
    (took : s.taken locality octets = .ok request) :
    (nullifyShutdown request s).reaching locality octets = s.reaching locality octets := by
  have later := prepare_of_taken _ locality octets request (s.taken_of_nullified locality octets request took)
  have now := s.prepare_of_taken locality octets request took
  rw [nullify_shutdown_again, ← now] at later
  unfold reaching
  rw [later]
  cases prepared : s.prepare locality octets with
  | error e => rfl
  | ok pair =>
      obtain ⟨_, parsed, _⟩ := (s.prepare_is_ok locality octets pair.1 pair.2).mp prepared
      rw [((s.taken_is_ok locality octets request).mp took).2.1] at parsed
      obtain rfl := Except.ok.inj parsed
      simp only [nullify_shutdown_again]

-- A view that nothing touches but the handlers, and what undoes a shutdown.
structure SparedByCourse {υ : Type} (view : TpmState → υ) : Prop where
  execution : SparedByExecution view
  guarded : ∀ s lockout nv, view { s with lockout, nv } = view s

theorem run_reaches {υ : Type} (view : TpmState → υ) (spared : SparedByCourse view) (s : TpmState) (locality : UInt8)
    (octets : Bytes) (request : Request) (took : s.taken locality octets = .ok request) :
    view (run locality octets s).2 = match s.reaching locality octets with
      | none => view (nullifyShutdown request s)
      | some (decrypted, t) => view (final (runCommand decrypted t)) := by
  have taken := s.taken_of_nullified locality octets request took
  have again := nullify_shutdown_again request s
  rw [s.run_of_taken locality octets request took, ← s.reaching_of_nullified locality octets request took]
  generalize nullifyShutdown request s = n at taken again ⊢
  have parsed := ((n.taken_is_ok locality octets request).mp taken).2.1
  have same : ∀ other, parse octets locality = .ok other → nullifyShutdown other n = n := by
    intro other found
    rw [parsed] at found
    obtain rfl := Except.ok.inj found
    exact again
  have authorized : ∀ other names, parse octets locality = .ok other →
      view (final (authorizeFrom other names other.info.authHandles 0 (nullifyShutdown other n))) = view n := by
    intro other names found
    obtain ⟨lockout, nv, guarded⟩ := same_outside_guards _ _
      (keeps_authorize_from other names other.info.authHandles 0 (nullifyShutdown other n))
    rw [guarded, spared.guarded, same other found]
  cases n.run_course locality octets with
  | unprepared e stopped ended =>
      unfold reaching
      rw [stopped]
      rcases ended with ended | ⟨other, found, ended⟩
      · rw [ended]
      · rw [ended, same other found]
  | unauthorized other names prepared e ran =>
      have found := ((n.prepare_is_ok locality octets other names).mp prepared).2.1
      have ended := authorized other names found
      unfold reaching
      rw [prepared]
      simp only [ran] at ended ⊢
      exact ended
  | authorized other names prepared contexts t ran ended =>
      have found := ((n.prepare_is_ok locality octets other names).mp prepared).2.1
      have guarded := authorized other names found
      unfold reaching
      rw [prepared, ended, after_authorization_ends view spared.execution]
      simp only [ran] at guarded ⊢
      cases t.admitted other names contexts with
      | error e => exact guarded
      | ok decrypted => rfl

-- What the handler finds is what the command found, but for what the authorizations change.
theorem reaching_finds (s : TpmState) (locality : UInt8) (octets : Bytes) (decrypted : Request) (t : TpmState)
    (reached : s.reaching locality octets = some (decrypted, t)) :
    ∃ request parameters lockout nv, s.taken locality octets = .ok request ∧ decrypted = { request with parameters } ∧
      t = { nullifyShutdown request s with lockout, nv, commandAuditSuppressed := false } := by
  unfold reaching at reached
  cases prepared : s.prepare locality octets with
  | error e => rw [prepared] at reached; cases reached
  | ok pair =>
      obtain ⟨request, names⟩ := pair
      obtain ⟨available, parsed, started, _⟩ := (s.prepare_is_ok locality octets request names).mp prepared
      simp only [prepared] at reached
      have kept := keeps_authorize_from request names request.info.authHandles 0 (nullifyShutdown request s)
      cases ran : authorizeFrom request names request.info.authHandles 0 (nullifyShutdown request s) with
      | error e u => rw [ran] at reached; cases reached
      | ok contexts u =>
          obtain ⟨lockout, nv, same⟩ := same_outside_guards _ _ kept
          rw [ran] at same reached
          change u = _ at same
          subst same
          dsimp only at reached
          split at reached
          · cases reached
          next admits =>
            cases reached
            simp only [admitted, bind_is_ok] at admits
            obtain ⟨_, _, _, _, made⟩ := admits
            obtain ⟨parameters, same⟩ := decrypt_parameters_only request _ _ _ made
            exact ⟨request, parameters, lockout, nv, (s.taken_is_ok locality octets request).mpr ⟨available, parsed, started⟩,
              same, rfl⟩

end TpmState

end

end Swtrust
