import Swtrust.Library.Triple
import Swtrust.Lockout.Frame

set_option autoImplicit false
set_option linter.unusedSectionVars false

namespace Swtrust

open Library Action

namespace LockoutView

-- The failures a startup sees: those recorded, and the one an unclean shutdown may have hidden.
def Counted (before : LockoutView) (lockout : LockoutState) : Prop :=
  lockout = before.lockout ∨ lockout = before.lockout.countPendingFailure

def Restarted (before after : LockoutView) : Prop :=
  ∃ lockout, before.Counted lockout ∧ after = ⟨lockout.onStartup, 0, true⟩

-- Time has started again, and the timers have not.
structure HalfCounted (before after : LockoutView) : Prop where
  counted : before.Counted after.lockout
  time : after.time = 0
  started : after.started = before.started

-- A startup that fails may have started Time again, and counted, without starting the timers.
def HalfRestarted (before after : LockoutView) : Prop :=
  after = before ∨ ∃ lockout, before.Counted lockout ∧ after = ⟨lockout, 0, before.started⟩

end LockoutView

open TpmState

section

variable [Primitives]

namespace TpmState

theorem keeps_zoom_hierarchies {α : Type} (action : Action TpmRc (Hierarchies × Drbg) α) :
    Keeps lockoutView (zoomHierarchies action) :=
  keeps_zoom _ _ _ _ fun _ _ => rfl

theorem keeps_zoom_rng {α : Type} (action : Action TpmRc Drbg α) : Keeps lockoutView (zoomRng action) :=
  keeps_zoom _ _ _ _ fun _ _ => rfl

theorem keeps_zoom_commits {α : Type} (action : Action TpmRc (Commits × Drbg) α) :
    Keeps lockoutView (zoomCommits action) :=
  keeps_zoom _ _ _ _ fun _ _ => rfl

section

variable (before : LockoutView)

theorem half_restarted_of_same (s : TpmState) (kept : s.lockoutView = before) :
    before.HalfRestarted s.lockoutView :=
  .inl kept

theorem half_restarted_of_counted (s : TpmState) (half : before.HalfCounted s.lockoutView) :
    before.HalfRestarted s.lockoutView :=
  .inr ⟨s.lockout, half.counted, LockoutView.ext rfl half.time half.started⟩

theorem timers_start (orderly keepReadOnly : Bool) (act : TpmState → Act) :
    Ensures (fun s : TpmState => before.HalfCounted s.lockoutView)
      (modify fun s => beginOperation orderly keepReadOnly { s with act := act s, lockout := s.lockout.onStartup } :
        TpmM PUnit)
      (fun _ t => before.Restarted t.lockoutView) fun t => before.HalfRestarted t.lockoutView := by
  refine ensures_modify _ _ _ _ fun s half => ?_
  exact ⟨s.lockout, half.counted, LockoutView.ext rfl half.time rfl⟩

theorem after_time_restarts (counts : Bool) (rest : TpmM Unit)
    (restarts : Ensures (fun s : TpmState => before.HalfCounted s.lockoutView) rest
      (fun _ t => before.Restarted t.lockoutView) fun t => before.HalfRestarted t.lockoutView) :
    Ensures (fun s => s.lockoutView = before) (do
      modify fun s => { s with clock := { s.clock with time := 0, nvElapsed := 0 } }
      if counts then
        modify fun s => { s with
          clock := { s.clock with safe := false }
          lockout := s.lockout.countPendingFailure }
      rest : TpmM Unit)
      (fun _ t => before.Restarted t.lockoutView) fun t => before.HalfRestarted t.lockoutView := by
  refine ensures_bind _ _ _ (fun _ s => s.lockoutView = ⟨before.lockout, 0, before.started⟩) _ _ ?_ fun _ => ?_
  · refine ensures_modify _ _ _ _ fun s kept => ?_
    exact LockoutView.ext (lockout_of_view s before kept) rfl (started_of_view s before kept)
  · refine ensures_ite _ _ _ _ _ _ (fun _ => ?_) fun _ => ?_
    · refine ensures_bind _ _ _ (fun _ s => before.HalfCounted s.lockoutView) _ _ ?_ fun _ => restarts
      refine ensures_modify _ _ _ _ fun s kept => ?_
      have lockout := lockout_of_view s _ kept
      have started := started_of_view s _ kept
      exact ⟨.inr (congrArg LockoutState.countPendingFailure lockout), time_of_view s _ kept, started⟩
    · refine ensures_weaken _ _ _ _ _ restarts fun s kept => ?_
      have lockout := lockout_of_view s _ kept
      have started := started_of_view s _ kept
      exact ⟨.inl lockout, time_of_view s _ kept, started⟩

theorem startup_clear_restarts (locality : UInt8) :
    Ensures (fun s => s.lockoutView = before) (onStartupClear locality)
      (fun _ t => before.Restarted t.lockoutView) fun t => before.HalfRestarted t.lockoutView := by
  have falls := half_restarted_of_same before
  refine ensures_keeps_bind _ (· = before) _ _ _ _ (keeps_get _) falls fun s => ?_
  refine ensures_keeps_bind _ (· = before) _ _ _ _ (keeps_zoom_hierarchies _) falls fun _ => ?_
  refine ensures_keeps_bind _ (· = before) _ _ _ _ (keeps_modify _ _ fun _ => rfl) falls fun _ => ?_
  by_cases restart : (s.shutdownType == Su.state) = true
  · simp only [restart, Bool.not_true, Bool.false_eq_true, if_false, if_true]
    refine ensures_keeps_bind _ (· = before) _ _ _ _ (keeps_modify _ _ fun _ => rfl) falls fun _ => ?_
    refine ensures_keeps_bind _ (· = before) _ _ _ _ (keeps_modify _ _ fun _ => rfl) falls fun _ => ?_
    refine ensures_keeps_bind _ (· = before) _ _ _ _ (keeps_modify _ _ fun _ => rfl) falls fun _ => ?_
    refine ensures_keeps_bind _ (· = before) _ _ _ _ (keeps_modify _ _ fun _ => rfl) falls fun _ => ?_
    refine ensures_keeps_bind _ (· = before) _ _ _ _ (keeps_modify _ _ fun _ => rfl) falls fun _ => ?_
    exact after_time_restarts before _ _ (timers_start before _ _ _)
  · have falls' := half_restarted_of_counted before
    simp only [restart, Bool.not_false, Bool.false_eq_true, if_false, if_true]
    refine ensures_keeps_bind _ (· = before) _ _ _ _ (keeps_modify _ _ fun _ => rfl) falls fun _ => ?_
    refine ensures_keeps_bind _ (· = before) _ _ _ _ (keeps_modify _ _ fun _ => rfl) falls fun _ => ?_
    refine ensures_keeps_bind _ (· = before) _ _ _ _ (keeps_modify _ _ fun _ => rfl) falls fun _ => ?_
    refine ensures_keeps_bind _ (· = before) _ _ _ _ (keeps_modify _ _ fun _ => rfl) falls fun _ => ?_
    refine ensures_keeps_bind _ (· = before) _ _ _ _ (keeps_modify _ _ fun _ => rfl) falls fun _ => ?_
    refine ensures_keeps_bind _ (· = before) _ _ _ _ (keeps_zoom_rng _) falls fun _ => ?_
    refine ensures_keeps_bind _ (· = before) _ _ _ _ (keeps_modify _ _ fun _ => rfl) falls fun _ => ?_
    refine ensures_keeps_bind _ (· = before) _ _ _ _ (keeps_modify _ _ fun _ => rfl) falls fun _ => ?_
    refine after_time_restarts before _ _ ?_
    refine ensures_keeps_bind lockoutView before.HalfCounted _ _ _ _
      (keeps_modify _ _ fun _ => rfl) falls' fun _ => ?_
    refine ensures_keeps_bind lockoutView before.HalfCounted _ _ _ _
      (keeps_zoom_commits _) falls' fun _ => ?_
    exact timers_start before _ _ _

theorem startup_state_restarts (locality : UInt8) :
    Ensures (fun s => s.lockoutView = before) (onStartupState locality)
      (fun _ t => before.Restarted t.lockoutView) fun t => before.HalfRestarted t.lockoutView := by
  have falls := half_restarted_of_same before
  have falls' := half_restarted_of_counted before
  unfold onStartupState
  refine ensures_get_bind _ _ _ _ fun s kept => ?_
  have same : ∀ t : TpmState, t = s → before.HalfRestarted t.lockoutView := fun t same => same ▸ falls s kept
  refine ensures_guard _ _ _ _ _ _ _ same fun _ => ?_
  refine ensures_guard _ _ _ _ _ _ _ same fun _ => ?_
  refine ensures_guard _ _ _ _ _ _ _ same fun _ => ?_
  refine ensures_bind _ _ _ (fun _ t => before.HalfCounted t.lockoutView) _ _ ?_ fun _ => ?_
  · rintro _ rfl
    exact ⟨.inl (lockout_of_view _ before kept), rfl, started_of_view _ before kept⟩
  · refine ensures_get_bind _ _ _ _ fun t counted => ?_
    refine ensures_ite _ _ _ _ _ _ (fun _ => ?_) fun _ => ?_
    · refine ensures_weaken _ _ _ (fun t : TpmState => before.HalfCounted t.lockoutView) _ ?_
        fun u same => same ▸ counted
      refine ensures_keeps_bind lockoutView before.HalfCounted _ _ _ _
        (keeps_zoom_commits _) falls' fun _ => ?_
      exact timers_start before _ _ _
    · exact ensures_weaken _ _ _ _ _ (timers_start before _ _ _) fun u same => same ▸ counted

theorem startup_restarts (request : Request) :
    Ensures (fun s => s.lockoutView = before) (startup request)
      (fun _ t => before.Restarted t.lockoutView) fun t => before.HalfRestarted t.lockoutView := by
  have falls := half_restarted_of_same before
  have answers : ∀ action : TpmM Unit, Ensures (fun s => s.lockoutView = before) action
      (fun _ t => before.Restarted t.lockoutView) (fun t => before.HalfRestarted t.lockoutView) →
      Ensures (fun s => s.lockoutView = before) (action >>= fun _ => pure Response.empty)
        (fun _ t => before.Restarted t.lockoutView) fun t => before.HalfRestarted t.lockoutView :=
    fun action restarts => ensures_bind _ _ _ _ _ _ restarts fun _ => ensures_pure _ _ _ _ fun _ restarted => restarted
  unfold startup
  refine ensures_keeps_bind _ (· = before) _ _ _ _ (keeps_lift _ _) falls fun startupType => ?_
  refine ensures_guard _ _ _ _ _ _ _ falls fun _ => ?_
  refine ensures_ite _ _ _ _ _ _ (fun _ => answers _ (startup_clear_restarts before _)) fun _ => ?_
  refine ensures_ite _ _ _ _ _ _ (fun _ => ?_) fun _ => ?_
  · refine ensures_keeps_bind _ (· = before) _ _ _ _ (keeps_get _) falls fun s => ?_
    refine ensures_guard _ _ _ _ _ _ _ falls fun _ => ?_
    exact answers _ (startup_state_restarts before _)
  · exact ensures_throw _ _ _ _ falls

theorem lock_reset_resets (request : Request) (lockout : LockoutState) :
    final (dictionaryAttackLockReset request lockout) =
      { lockout with failedTries := 0, nextRecovery := 0, inLockout := false, lockoutUntil := 0 } :=
  rfl

theorem parameters_set (request : Request) (lockout : LockoutState) :
    final (dictionaryAttackParameters request lockout) = lockout ∨
      ∃ maxTries recoveryTime lockoutRecovery,
        final (dictionaryAttackParameters request lockout) =
          { lockout with maxTries, recoveryTime, lockoutRecovery } := by
  simp only [dictionaryAttackParameters, run_lift_bind]
  split
  next parameters read => exact .inr ⟨parameters.1, parameters.2.1, parameters.2.2, rfl⟩
  next => exact .inl rfl

theorem clear_resets (request : Request) :
    Ensures (fun s => s.lockoutView = before) (clear request)
      (fun _ t => t.lockoutView = ⟨{}, before.time, before.started⟩) fun t => t.lockoutView = before := by
  unfold clear
  refine ensures_keeps_bind _ (· = before) _ _ _ _ (keeps_get _) (fun _ same => same) fun s => ?_
  refine ensures_guard _ _ _ _ _ _ _ (fun _ same => same) fun _ => ?_
  refine ensures_bind _ _ _ (fun _ t => t.lockoutView = ⟨{}, before.time, before.started⟩) _ _ ?_ fun _ => ?_
  · unfold onClear
    refine ensures_keeps_bind _ (· = before) _ _ _ _ (keeps_zoom_hierarchies _) (fun _ same => same) fun _ => ?_
    refine ensures_modify _ _ _ _ fun s kept => ?_
    subst kept
    rfl
  · refine ensures_bind _ _ _ (fun _ t => t.lockoutView = ⟨{}, before.time, before.started⟩) _ _ ?_ fun _ => ?_
    · exact ensures_modify _ _ _ _ fun _ reset => reset
    · exact ensures_pure _ _ _ _ fun _ reset => reset

end

-- Where the handlers that are not outside the dictionary attack logic leave it.
inductive Administers (code : UInt32) (before after : LockoutView) : Prop where
  | quiet (same : after = before)
  | restarted (startup : code = Cc.startup) (restarted : before.Restarted after)
  | halfRestarted (startup : code = Cc.startup) (half : before.HalfRestarted after)
  | cleared (clear : code = Cc.clear) (reset : after = { before with lockout := {} })
  | lockReset (reset : code = Cc.dictionaryAttackLockReset)
      (cleared : after = { before with lockout := { before.lockout with
        failedTries := 0, nextRecovery := 0, inLockout := false, lockoutUntil := 0 } })
  | parameters (code : code = Cc.dictionaryAttackParameters) (maxTries recoveryTime lockoutRecovery : UInt32)
      (set : after = { before with lockout := { before.lockout with maxTries, recoveryTime, lockoutRecovery } })

theorem final_whole_plain (request : Request) (run : TpmState → Request → TpmM Response) (s : TpmState) :
    final ((Handler.plain .whole run).run request s) = final (run s request s) := by
  change final ((Response.reply <$> run s request : TpmM Reply) s) = _
  simp only [Functor.map, EStateM.map]
  cases run s request s <;> rfl

theorem final_lockout_plain (request : Request) (run : TpmState → Request → Action TpmRc LockoutState Response)
    (s : TpmState) :
    (final ((Handler.plain .lockout run).run request s)).lockoutView =
      { s.lockoutView with lockout := final (run s request s.lockout) } := by
  change (final ((Response.reply <$> Scope.lockout.zoom (run s request) : TpmM Reply) s)).lockoutView = _
  simp only [Functor.map, EStateM.map, Scope.zoom, Action.zoom]
  cases run s request s.lockout <;> rfl

theorem run_command_administers (request : Request) (s : TpmState) :
    Administers request.code s.lockoutView (final (runCommand request s)).lockoutView := by
  by_cases listed : request.code ∈ lockoutCommands
  · unfold runCommand
    simp only [lockoutCommands, List.mem_cons, List.not_mem_nil, or_false] at listed
    rcases listed with code | code | code | code
    · rw [code]
      change Administers _ _ (final ((Handler.plain .whole fun _ request => startup request).run request s)).lockoutView
      rw [final_whole_plain]
      rcases ensures_final _ _ _ _ s (startup_restarts s.lockoutView request) rfl with ⟨_, restarted⟩ | half
      · exact .restarted rfl restarted
      · exact .halfRestarted rfl half
    · rw [code]
      change Administers _ _ (final ((Handler.plain .whole fun _ request => clear request).run request s)).lockoutView
      rw [final_whole_plain]
      rcases ensures_final _ _ _ _ s (clear_resets s.lockoutView request) rfl with ⟨_, reset⟩ | same
      · exact .cleared rfl reset
      · exact .quiet same
    · rw [code]
      change Administers _ _ (final ((Handler.plain .lockout fun _ request =>
        dictionaryAttackLockReset request).run request s)).lockoutView
      rw [final_lockout_plain, lock_reset_resets]
      exact .lockReset rfl rfl
    · rw [code]
      change Administers _ _ (final ((Handler.plain .lockout fun _ request =>
        dictionaryAttackParameters request).run request s)).lockoutView
      rw [final_lockout_plain]
      rcases parameters_set request s.lockout with same | ⟨maxTries, recoveryTime, lockoutRecovery, set⟩
      · rw [same]
        exact .quiet rfl
      · rw [set]
        exact .parameters rfl maxTries recoveryTime lockoutRecovery rfl
  · exact .quiet (keeps_run_command request listed s)

end TpmState

end

end Swtrust
