import Swtrust.Authorization.Course
import Swtrust.Device

set_option autoImplicit false
set_option linter.unusedSectionVars false

namespace Swtrust

open Library Action

namespace Scope

def sparesLockout : Scope → Bool
  | .lockout | .clock | .whole => false
  | _ => true

end Scope

-- What the dictionary attack logic depends on.
@[ext] structure LockoutView where
  lockout : LockoutState
  time : UInt64
  started : Bool

namespace TpmState

def lockoutView (s : TpmState) : LockoutView := ⟨s.lockout, s.clock.time, s.started⟩

theorem lockout_of_view (s : TpmState) (view : LockoutView) (same : s.lockoutView = view) : s.lockout = view.lockout :=
  congrArg LockoutView.lockout same

theorem time_of_view (s : TpmState) (view : LockoutView) (same : s.lockoutView = view) : s.clock.time = view.time :=
  congrArg LockoutView.time same

theorem started_of_view (s : TpmState) (view : LockoutView) (same : s.lockoutView = view) : s.started = view.started :=
  congrArg LockoutView.started same

end TpmState

open TpmState

theorem Scope.keeps_lockout {α : Type} (scope : Scope) (action : Action TpmRc scope.State α)
    (spares : scope.sparesLockout = true) : Keeps lockoutView (scope.zoom action) := by
  cases scope with
  | lockout => cases spares
  | clock => cases spares
  | whole => cases spares
  | _ => exact keeps_zoom _ _ _ action fun _ _ => rfl

section

variable [Primitives]

namespace Handler

theorem keeps_run {υ : Type} (view : TpmState → υ) (request : Request) (handler : Handler)
    (keeps : ∀ {α : Type} (action : Action TpmRc handler.scope.State α), Keeps view (handler.scope.zoom action)) :
    Keeps view (handler.run request) := by
  cases handler with
  | plain scope run =>
      refine keeps_bind _ _ _ (keeps_get _) fun s => ?_
      exact keeps_map _ _ _ (keeps (run s request))
  | issuing scope run => exact keeps_bind _ _ _ (keeps_get _) fun s => keeps (run s request)

end Handler

theorem handler_mem (code : UInt32) (handler : Handler) (found : handlerOf code = some handler) :
    (code, handler) ∈ handlers := by
  unfold handlerOf at found
  obtain ⟨row, first, same⟩ := Option.map_eq_some_iff.mp found
  have named : row.1 = code := by simpa using List.find?_some first
  rw [← named, ← same]
  exact List.mem_of_find?_eq_some first

-- The commands that change the dictionary attack logic, or start Time again.
def lockoutCommands : List UInt32 :=
  [Cc.startup, Cc.clear, Cc.dictionaryAttackLockReset, Cc.dictionaryAttackParameters]

theorem handlers_spare_lockout :
    (handlers.all fun row => row.2.scope.sparesLockout ||
      (Cc.shutdown :: Cc.clockSet :: Cc.clockRateAdjust :: lockoutCommands).contains row.1) = true := by
  rfl

theorem keeps_shutdown (request : Request) : Keeps lockoutView (shutdown request) := by
  unfold shutdown
  refine keeps_bind _ _ _ (keeps_lift _ _) fun shutdownType => ?_
  refine keeps_bind _ _ _ (keeps_get _) fun s => ?_
  refine keeps_ite _ _ _ _ (keeps_bind _ _ _ (keeps_throw _ _) fun _ => ?_) ?_
  all_goals
    refine keeps_ite _ _ _ _ (keeps_bind _ _ _ (keeps_throw _ _) fun _ => ?_) ?_
    all_goals exact keeps_bind _ _ _ (keeps_modify _ _ fun s => rfl) fun _ => keeps_pure _ _

theorem keeps_clock_set (request : Request) : Keeps (·.time) (clockSet request) := by
  unfold clockSet
  refine keeps_bind _ _ _ (keeps_lift _ _) fun newTime => ?_
  intro clock
  rw [run_get_bind]
  split
  · rfl
  · dsimp only
    split <;> rfl

theorem keeps_clock_rate_adjust (request : Request) : Keeps (·.time) (clockRateAdjust request) := by
  unfold clockRateAdjust
  refine keeps_bind _ _ _ (keeps_lift _ _) fun adjust => ?_
  refine keeps_bind _ _ _ (keeps_lift _ _) fun step => ?_
  refine keeps_bind _ _ _ (keeps_get _) fun clock => ?_
  refine keeps_ite _ _ _ _ (keeps_bind _ _ _ (keeps_throw _ _) fun _ => ?_) ?_
  all_goals exact keeps_bind _ _ _ (keeps_modify _ _ fun clock => rfl) fun _ => keeps_pure _ _

theorem keeps_clock_scope {α : Type} (action : Action TpmRc ClockState α) (keeps : Keeps (·.time) action) :
    Keeps lockoutView (Scope.clock.zoom action) := by
  intro s
  have same := keeps s.clock
  simp only [Scope.zoom, Action.zoom]
  cases ran : action s.clock with
  | ok a clock =>
      rw [ran] at same
      exact LockoutView.ext rfl same rfl
  | error e clock =>
      rw [ran] at same
      exact LockoutView.ext rfl same rfl

theorem keeps_run_command (request : Request) (other : request.code ∉ lockoutCommands) :
    Keeps lockoutView (runCommand request) := by
  unfold runCommand
  cases found : handlerOf request.code with
  | none => exact keeps_throw _ _
  | some handler =>
      have spares := List.all_eq_true.mp handlers_spare_lockout _ (handler_mem _ _ found)
      simp only [Bool.or_eq_true, List.contains_eq_mem, decide_eq_true_eq, List.mem_cons] at spares
      rcases spares with spares | shutdownCode | setCode | adjustCode | listed
      · exact handler.keeps_run _ request fun action => handler.scope.keeps_lockout action spares
      · rw [shutdownCode] at found
        obtain rfl := Option.some.inj found
        refine keeps_bind _ _ _ (keeps_get _) fun s => ?_
        exact keeps_map _ _ _ (keeps_shutdown request)
      · rw [setCode] at found
        obtain rfl := Option.some.inj found
        refine keeps_bind _ _ _ (keeps_get _) fun s => ?_
        exact keeps_map _ _ _ (keeps_clock_scope _ (keeps_clock_set request))
      · rw [adjustCode] at found
        obtain rfl := Option.some.inj found
        refine keeps_bind _ _ _ (keeps_get _) fun s => ?_
        exact keeps_map _ _ _ (keeps_clock_scope _ (keeps_clock_rate_adjust request))
      · exact absurd listed other

namespace TpmState

theorem lockout_spared (request : Request) : SparedByResponse request lockoutView where
  rng _ _ := rfl
  audit _ _ := rfl
  objects _ _ := rfl
  put _ _ _ _ := rfl
  remove _ _ _ := rfl

-- Where a handler leaves the lockout, if the command gets as far as its handler.
def Handled (request : Request) (t u : TpmState) : Prop :=
  ∃ decrypted v, decrypted.code = request.code ∧ v.lockoutView = t.lockoutView ∧
    u.lockoutView = (final (runCommand decrypted v)).lockoutView

theorem lockout_spared_by_execution : SparedByExecution lockoutView where
  response := lockout_spared
  suppressed _ _ := rfl
  failed _ := rfl

theorem after_authorization_handled (request : Request) (names : List Bytes) (contexts : List AuthContext)
    (t : TpmState) :
    (final (afterAuthorization request names contexts t)).lockoutView = t.lockoutView ∨
      Handled request t (final (afterAuthorization request names contexts t)) := by
  rcases after_authorization_runs lockoutView lockout_spared_by_execution request names contexts t with
    same | ⟨parameters, ended⟩
  · exact .inl same
  · exact .inr ⟨{ request with parameters }, { t with commandAuditSuppressed := false }, rfl, rfl, ended⟩

theorem lockout_view_of_outside_guards (s t : TpmState) (same : t.outsideGuards = s.outsideGuards) :
    t.lockoutView = ⟨t.lockout, s.clock.time, s.started⟩ := by
  obtain ⟨_, _, rfl⟩ := same_outside_guards s t same
  rfl

-- The comparison that ended the command, if one did.
def refused (s : TpmState) (locality : UInt8) (command : Bytes) : TpmResult (Option (Request × Nat × Attempt)) := do
  let (request, names) ← s.prepare locality command
  return (refusal request names request.info.authHandles 0 (nullifyShutdown request s)).map fun ended => (request, ended)

theorem nullify_shutdown_lockout (request : Request) (s : TpmState) :
    (nullifyShutdown request s).lockoutView = s.lockoutView := by
  unfold nullifyShutdown
  split <;> rfl

-- Every handle of the command that needs it was authorized.
def authorized (s : TpmState) (locality : UInt8) (command : Bytes) : TpmResult Bool := do
  let (request, names) ← s.prepare locality command
  match authorizeFrom request names request.info.authHandles 0 (nullifyShutdown request s) with
  | .ok _ _ => return true
  | .error _ _ => return false

-- What a command does to the lockout: a failed comparison is recorded, or its handler runs, or nothing.
structure CommandEffect (s : TpmState) (locality : UInt8) (command : Bytes) (s' : TpmState) : Prop where
  refused : ∀ request position attempt, s.refused locality command = .ok (some (request, position, attempt)) →
    s'.lockoutView = ⟨(penalize request position attempt s).lockout, s.clock.time, s.started⟩
  otherwise : (¬ ∃ ended, s.refused locality command = .ok (some ended)) →
    s'.lockoutView = s.lockoutView ∨
      ∃ request, parse command locality = .ok request ∧ s.checkStarted request = .ok () ∧
        s.authorized locality command = .ok true ∧ Handled request s s'

theorem penalize_lockout_of_view (request : Request) (position : Nat) (attempt : Attempt) (s t : TpmState)
    (same : t.lockoutView = s.lockoutView) :
    (penalize request position attempt t).lockout = (penalize request position attempt s).lockout :=
  penalize_lockout_of_same request position attempt s t (lockout_of_view t _ same) (time_of_view t _ same)

theorem command_effect_unrefused (s s' : TpmState) (locality : UInt8) (command : Bytes)
    (none : ∀ ended, s.refused locality command ≠ .ok (some ended))
    (same : s'.lockoutView = s.lockoutView) : CommandEffect s locality command s' :=
  ⟨fun _ _ _ some => absurd some (none _), fun _ => .inl same⟩

theorem refused_of_prepared (s : TpmState) (locality : UInt8) (command : Bytes) (request : Request) (names : List Bytes)
    (prepared : s.prepare locality command = .ok (request, names)) :
    s.refused locality command = .ok ((refusal request names request.info.authHandles 0 (nullifyShutdown request s)).map
      fun ended => (request, ended)) := by
  simp [TpmState.refused, prepared, bind, Except.bind, pure, Except.pure]

-- What the authorizations of a command leave of the lockout.
theorem authorizations_effect (s t : TpmState) (locality : UInt8) (command : Bytes) (request : Request)
    (names : List Bytes) (prepared : s.prepare locality command = .ok (request, names))
    (result : EStateM.Result TpmRc TpmState (List AuthContext))
    (ran : authorizeFrom request names request.info.authHandles 0 (nullifyShutdown request s) = result)
    (left : t = final result) :
    (∃ e t', result = .error e t' ∧ CommandEffect s locality command t) ∨
      (∀ ended, s.refused locality command ≠ .ok (some ended)) ∧ t.lockoutView = s.lockoutView := by
  have nullified := nullify_shutdown_lockout request s
  have judged := s.refused_of_prepared locality command request names prepared
  have settles := authorize_from_settles request names request.info.authHandles 0 (nullifyShutdown request s)
  have frame := keeps_authorize_from request names request.info.authHandles 0 (nullifyShutdown request s)
  rw [ran] at settles frame
  have view := lockout_view_of_outside_guards _ _ frame
  subst left
  cases ended : refusal request names request.info.authHandles 0 (nullifyShutdown request s) with
  | some pair =>
      obtain ⟨position, attempt⟩ := pair
      obtain ⟨⟨e, t', failed⟩, lockout⟩ := settles.refused position attempt ended
      rw [ended] at judged
      refine .inl ⟨e, t', failed, ?_, fun impossible => absurd ⟨_, judged⟩ impossible⟩
      intro request' position' attempt' some
      rw [judged] at some
      obtain ⟨rfl, rfl, rfl⟩ : request = request' ∧ position = position' ∧ attempt = attempt' := by
        simpa using some
      refine view.trans (LockoutView.ext ?_ ?_ ?_)
      · exact lockout.trans (penalize_lockout_of_view _ _ _ _ _ nullified)
      · exact time_of_view _ s.lockoutView nullified
      · exact started_of_view _ s.lockoutView nullified
  | none =>
      rw [ended] at judged
      refine .inr ⟨fun ended some => ?_, ?_⟩
      · rw [judged] at some
        simp at some
      · rw [← nullified]
        exact view.trans (LockoutView.ext (settles.accepted ended) rfl rfl)

theorem run_effect (locality : UInt8) (command : Bytes) (s : TpmState) :
    CommandEffect s locality command (run locality command s).2 := by
  cases s.run_course locality command with
  | unprepared e stopped same =>
      refine command_effect_unrefused s _ locality command (fun ended => ?_) ?_
      · simp [TpmState.refused, stopped, bind, Except.bind]
      · rcases same with same | ⟨request, _, same⟩
        · rw [same]
        · rw [same]
          exact nullify_shutdown_lockout request s
  | unauthorized request names prepared e ran =>
      rcases authorizations_effect s _ locality command request names prepared _ ran rfl with
        ⟨_, _, _, effect⟩ | ⟨unrefused, same⟩
      · exact effect
      · exact command_effect_unrefused s _ locality command unrefused same
  | authorized request names prepared contexts t ran ended =>
      rcases authorizations_effect s _ locality command request names prepared _ ran rfl with
        ⟨_, _, failed, _⟩ | ⟨unrefused, same⟩
      · cases failed
      · change t.lockoutView = s.lockoutView at same
        obtain ⟨_, parsed, started, _⟩ := (s.prepare_is_ok locality command request names).mp prepared
        refine ⟨fun _ _ _ some => absurd some (unrefused _), fun _ => ?_⟩
        rw [ended]
        rcases after_authorization_handled request names contexts t with quiet | handled
        · exact .inl (quiet.trans same)
        · obtain ⟨decrypted, v, sameCode, before, after⟩ := handled
          have accepted : s.authorized locality command = .ok true := by
            simp [TpmState.authorized, prepared, ran, bind, Except.bind, pure, Except.pure]
          exact .inr ⟨request, parsed, started, accepted, decrypted, v, sameCode, before.trans same, after⟩

end TpmState

end

end Swtrust
