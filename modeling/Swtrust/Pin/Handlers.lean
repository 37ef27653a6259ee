import Swtrust.Pin.Frame
import Swtrust.Lockout.Handlers

set_option autoImplicit false
set_option linter.unusedSectionVars false

namespace Swtrust

open Library Action TpmState

def Scope.sparesNv : Scope → Bool
  | .nv | .whole => false
  | _ => true

theorem Scope.keeps_nv {α : Type} (scope : Scope) (action : Action TpmRc scope.State α) (spares : scope.sparesNv = true) :
    Keeps (·.nv) (scope.zoom action) := by
  cases scope with
  | nv => cases spares
  | whole => cases spares
  | _ => exact keeps_zoom _ _ _ action fun _ _ => rfl

-- The commands whose handlers may change the NV store.
def nvCommands : List UInt32 := [
  Cc.nvDefineSpace, Cc.nvDefineSpace2, Cc.nvUndefineSpace, Cc.nvUndefineSpaceSpecial, Cc.nvWrite, Cc.nvIncrement,
  Cc.nvExtend, Cc.nvSetBits, Cc.nvWriteLock, Cc.nvGlobalWriteLock, Cc.nvReadLock, Cc.nvChangeAuth]

section

variable [Primitives]

theorem handlers_spare_nv :
    (handlers.all fun row => row.2.scope.sparesNv || (Cc.startup :: Cc.shutdown :: Cc.clear :: nvCommands).contains row.1) =
      true := by
  rfl

theorem keeps_nv_shutdown (request : Request) : Keeps (·.nv) (shutdown request) := by
  unfold shutdown
  refine keeps_bind _ _ _ (keeps_lift _ _) fun shutdownType => ?_
  refine keeps_bind _ _ _ (keeps_get _) fun s => ?_
  refine keeps_ite _ _ _ _ (keeps_bind _ _ _ (keeps_throw _ _) fun _ => ?_) ?_
  all_goals
    refine keeps_ite _ _ _ _ (keeps_bind _ _ _ (keeps_throw _ _) fun _ => ?_) ?_
    all_goals exact keeps_bind _ _ _ (keeps_modify _ _ fun s => rfl) fun _ => keeps_pure _ _

namespace TpmState

variable (store : NvStore) (handle : UInt32) (pin : Pin) (read : store.pinAt handle = .ok pin)

include read

omit read in
theorem keeps_nv_start_timers (orderly keepReadOnly : Bool) (act : TpmState → Act) :
    Keeps (·.nv) (modify fun s => beginOperation orderly keepReadOnly
      { s with act := act s, lockout := s.lockout.onStartup } : TpmM PUnit) :=
  keeps_modify _ _ fun _ => rfl

omit read in
-- What a startup does once the Indexes are dealt with.
theorem keeps_nv_after_time (counts : Bool) (rest : TpmM Unit) (kept : Keeps (·.nv) rest) : Keeps (·.nv) (do
    modify fun s => { s with clock := { s.clock with time := 0, nvElapsed := 0 } }
    if counts then
      modify fun s => { s with
        clock := { s.clock with safe := false }
        lockout := s.lockout.countPendingFailure }
    rest : TpmM Unit) := by
  refine keeps_bind _ _ _ (keeps_modify _ _ fun _ => rfl) fun _ => ?_
  exact keeps_ite _ _ _ _ (keeps_bind _ _ _ (keeps_modify _ _ fun _ => rfl) fun _ => kept) kept

theorem startup_clear_undisturbed (locality : UInt8) :
    Ensures (fun s : TpmState => s.nv = store) (onStartupClear locality)
      (fun _ s => store.Undisturbed handle pin s.nv) fun s => store.Undisturbed handle pin s.nv := by
  have falls : ∀ s : TpmState, s.nv = store → store.Undisturbed handle pin s.nv := fun s same => by
    rw [same]
    exact store.undisturbed_self handle pin read
  have cleared : ∀ restart disorderly : Bool, Ensures (fun s : TpmState => s.nv = store)
      (modify fun s => { s with nv := s.nv.onStartupClearWith restart disorderly } : TpmM PUnit)
      (fun _ s => store.Undisturbed handle pin s.nv) fun s => store.Undisturbed handle pin s.nv := by
    intro restart disorderly
    refine ensures_modify _ _ _ _ fun s same => ?_
    change store.Undisturbed handle pin (s.nv.onStartupClearWith restart disorderly)
    rw [same]
    refine store.undisturbed_map handle pin read _ fun index found => ?_
    obtain ⟨held, got, counters⟩ := (store.pin_at_is_ok handle pin).mp read
    rw [found] at got
    cases got
    have isPin := index.is_pin_of_pin pin counters
    exact index.worn_pin _ (index.clear_index_worn restart disorderly isPin) isPin
  refine ensures_keeps_bind (fun s : TpmState => s.nv) (· = store) _ _ _ _ (keeps_get _) falls fun s => ?_
  refine ensures_keeps_bind (fun s : TpmState => s.nv) (· = store) _ _ _ _ (keeps_zoom _ _ _ _ fun _ _ => rfl) falls fun _ => ?_
  refine ensures_keeps_bind (fun s : TpmState => s.nv) (· = store) _ _ _ _ (keeps_modify _ _ fun _ => rfl) falls fun _ => ?_
  by_cases restart : (s.shutdownType == Su.state) = true
  · simp only [restart, Bool.not_true, Bool.false_eq_true, if_false, if_true]
    refine ensures_keeps_bind (fun s : TpmState => s.nv) (· = store) _ _ _ _ (keeps_modify _ _ fun _ => rfl) falls fun _ => ?_
    refine ensures_keeps_bind (fun s : TpmState => s.nv) (· = store) _ _ _ _ (keeps_modify _ _ fun _ => rfl) falls fun _ => ?_
    refine ensures_bind _ _ _ _ _ _ (cleared _ _) fun _ => ?_
    refine ensures_of_keeps (fun s : TpmState => s.nv) (store.Undisturbed handle pin) _ ?_
    refine keeps_bind _ _ _ (keeps_modify _ _ fun _ => rfl) fun _ => ?_
    refine keeps_bind _ _ _ (keeps_modify _ _ fun _ => rfl) fun _ => ?_
    exact keeps_nv_after_time _ _ (keeps_nv_start_timers _ _ _)
  · simp only [restart, Bool.not_false, Bool.false_eq_true, if_false, if_true]
    refine ensures_keeps_bind (fun s : TpmState => s.nv) (· = store) _ _ _ _ (keeps_modify _ _ fun _ => rfl) falls fun _ => ?_
    refine ensures_keeps_bind (fun s : TpmState => s.nv) (· = store) _ _ _ _ (keeps_modify _ _ fun _ => rfl) falls fun _ => ?_
    refine ensures_keeps_bind (fun s : TpmState => s.nv) (· = store) _ _ _ _ (keeps_modify _ _ fun _ => rfl) falls fun _ => ?_
    refine ensures_bind _ _ _ _ _ _ (cleared _ _) fun _ => ?_
    refine ensures_of_keeps (fun s : TpmState => s.nv) (store.Undisturbed handle pin) _ ?_
    refine keeps_bind _ _ _ (keeps_modify _ _ fun _ => rfl) fun _ => ?_
    refine keeps_bind _ _ _ (keeps_zoom _ _ _ _ fun _ _ => rfl) fun _ => ?_
    refine keeps_bind _ _ _ (keeps_modify _ _ fun _ => rfl) fun _ => ?_
    refine keeps_bind _ _ _ (keeps_modify _ _ fun _ => rfl) fun _ => ?_
    refine keeps_nv_after_time _ _ ?_
    refine keeps_bind _ _ _ (keeps_modify _ _ fun _ => rfl) fun _ => ?_
    exact keeps_bind _ _ _ (keeps_zoom _ _ _ _ fun _ _ => rfl) fun _ => keeps_nv_start_timers _ _ _

omit read in
theorem startup_state_nv (locality : UInt8) :
    Ensures (fun s : TpmState => s.nv = store) (onStartupState locality) (fun _ s => s.nv = store) fun s => s.nv = store := by
  unfold onStartupState
  refine ensures_get_bind _ _ _ _ fun s kept => ?_
  have same : ∀ t : TpmState, t = s → t.nv = store := fun t same => same ▸ kept
  refine ensures_guard _ _ _ _ _ _ _ same fun _ => ?_
  refine ensures_guard _ _ _ _ _ _ _ same fun _ => ?_
  refine ensures_guard _ _ _ _ _ _ _ same fun _ => ?_
  refine ensures_bind _ _ _ (fun _ t => t.nv = store) _ _ ?_ fun _ => ?_
  · rintro _ rfl
    exact kept
  · refine ensures_of_keeps (fun s : TpmState => s.nv) (· = store) _ ?_
    refine keeps_bind _ _ _ (keeps_get _) fun t => ?_
    refine keeps_ite _ _ _ _ (keeps_bind _ _ _ (keeps_zoom _ _ _ _ fun _ _ => rfl) fun _ => ?_) ?_
    all_goals exact keeps_nv_start_timers _ _ _

theorem startup_undisturbed (request : Request) :
    Ensures (fun s : TpmState => s.nv = store) (startup request)
      (fun _ s => store.Undisturbed handle pin s.nv) fun s => store.Undisturbed handle pin s.nv := by
  have falls : ∀ s : TpmState, s.nv = store → store.Undisturbed handle pin s.nv := fun s same => by
    rw [same]
    exact store.undisturbed_self handle pin read
  unfold startup
  refine ensures_keeps_bind (fun s : TpmState => s.nv) (· = store) _ _ _ _ (keeps_lift _ _) falls fun startupType => ?_
  refine ensures_guard _ _ _ _ _ _ _ falls fun _ => ?_
  refine ensures_ite _ _ _ _ _ _ (fun _ => ?_) fun _ => ?_
  · refine ensures_bind _ _ _ _ _ _ (startup_clear_undisturbed store handle pin read _) fun _ => ?_
    exact ensures_pure _ _ _ _ fun _ kept => kept
  · refine ensures_ite _ _ _ _ _ _ (fun _ => ?_) fun _ => ensures_throw _ _ _ _ falls
    refine ensures_keeps_bind (fun s : TpmState => s.nv) (· = store) _ _ _ _ (keeps_get _) falls fun s => ?_
    refine ensures_guard _ _ _ _ _ _ _ falls fun _ => ?_
    refine ensures_bind _ _ _ (fun _ t => store.Undisturbed handle pin t.nv) _ _ ?_ fun _ => ?_
    · exact ensures_imply _ _ _ _ _ _ (startup_state_nv store request.locality) (fun _ => falls) falls
    · exact ensures_pure _ _ _ _ fun _ kept => kept

theorem clear_undisturbed (request : Request) :
    Ensures (fun s : TpmState => s.nv = store) (clear request)
      (fun _ s => store.Undisturbed handle pin s.nv) fun s => store.Undisturbed handle pin s.nv := by
  have falls : ∀ s : TpmState, s.nv = store → store.Undisturbed handle pin s.nv := fun s same => by
    rw [same]
    exact store.undisturbed_self handle pin read
  unfold clear
  refine ensures_keeps_bind (fun s : TpmState => s.nv) (· = store) _ _ _ _ (keeps_get _) falls fun s => ?_
  refine ensures_guard _ _ _ _ _ _ _ falls fun _ => ?_
  refine ensures_bind _ _ _ (fun _ t => store.Undisturbed handle pin t.nv) _ _ ?_ fun _ => ?_
  · unfold onClear
    refine ensures_keeps_bind (fun s : TpmState => s.nv) (· = store) _ _ _ _ (keeps_zoom _ _ _ _ fun _ _ => rfl)
      falls fun _ => ?_
    refine ensures_modify _ _ _ _ fun s same => ?_
    change store.Undisturbed handle pin s.nv.clearOwnerIndices
    rw [same]
    exact store.undisturbed_retain handle pin read _
  · refine ensures_bind _ _ _ (fun _ t => store.Undisturbed handle pin t.nv) _ _ ?_ fun _ => ?_
    · exact ensures_modify _ _ _ _ fun _ kept => kept
    · exact ensures_pure _ _ _ _ fun _ kept => kept

end TpmState

section

variable (s : TpmState) (request : Request) (handle : UInt32) (pin : Pin)

theorem nv_handler_undisturbed (run : TpmState → Request → Action TpmRc NvScope Response)
    (harmless : Harmless s.nv handle pin (run s request)) (handler : handlerOf request.code = some (.plain .nv run)) :
    s.nv.Undisturbed handle pin (final (runCommand request s)).nv := by
  have ended := harmless ⟨s.nv, s.startupClear⟩ rfl
  unfold runCommand
  rw [handler]
  change s.nv.Undisturbed handle pin (final ((Response.reply <$> TpmState.zoomNvScope (run s request) : TpmM Reply) s)).nv
  simp only [Functor.map, EStateM.map, TpmState.zoomNvScope, Action.zoom]
  cases ran : run s request ⟨s.nv, s.startupClear⟩ with
  | ok response t =>
      rw [ran] at ended
      exact ended
  | error e t =>
      rw [ran] at ended
      exact ended

-- A writing command that fails has not touched the store.
theorem write_index_failed {α : Type} (parameters : Reader α) (change : α → NvIndex → TpmResult NvIndex)
    (t t' : NvScope) (e : TpmRc) (failed : writeIndex s request parameters change t = .error e t') : t' = t := by
  simp only [writeIndex, run_lift_bind] at failed
  repeat
    split at failed
    on_goal 2 => cases failed; rfl
  cases failed

theorem nv_write_failed (e : TpmRc) (t : TpmState) (code : request.code = Cc.nvWrite)
    (failed : runCommand request s = .error e t) : t.nv = s.nv := by
  have handler : handlerOf request.code = some (.plain .nv nvWrite) := by
    rw [code]
    rfl
  simp only [runCommand, handler] at failed
  change (Response.reply <$> TpmState.zoomNvScope (nvWrite s request) : TpmM Reply) s = .error e t at failed
  simp only [Functor.map, EStateM.map, TpmState.zoomNvScope, Action.zoom] at failed
  cases ran : nvWrite s request ⟨s.nv, s.startupClear⟩ with
  | ok response u =>
      rw [ran] at failed
      cases failed
  | error e u =>
      have still := write_index_failed s request _ _ _ u e ran
      rw [ran] at failed
      cases failed
      rw [still]

variable (read : s.nv.pinAt handle = .ok pin)

include read

-- `unwritten` is about a TPM2_NV_Write that succeeds: one that is refused changes nothing.
theorem nv_command_undisturbed (listed : request.code ∈ nvCommands)
    (unwritten : ∀ reply t, runCommand request s = .ok reply t → request.code = Cc.nvWrite →
      request.handle 1 ≠ .ok handle) :
    s.nv.Undisturbed handle pin (final (runCommand request s)).nv := by
  simp only [nvCommands, List.mem_cons, List.not_mem_nil, or_false] at listed
  rcases listed with code | code | code | code | code | code | code | code | code | code | code | code
  · exact nv_handler_undisturbed s request handle pin _ (harmless_define_space s request handle pin read) (by rw [code]; rfl)
  · exact nv_handler_undisturbed s request handle pin _ (harmless_define_space2 s request handle pin read) (by rw [code]; rfl)
  · exact nv_handler_undisturbed s request handle pin _ (harmless_undefine_space s request handle pin read) (by rw [code]; rfl)
  · exact nv_handler_undisturbed s request handle pin _ (harmless_undefine_space_special s request handle pin read)
      (by rw [code]; rfl)
  · cases ran : runCommand request s with
    | ok reply t =>
        rw [← ran]
        exact nv_handler_undisturbed s request handle pin _
          (harmless_write_index s request handle pin read _ _ (.inl (unwritten reply t ran code))) (by rw [code]; rfl)
    | error e t =>
        change s.nv.Undisturbed handle pin t.nv
        rw [nv_write_failed s request e t code ran]
        exact s.nv.undisturbed_self handle pin read
  · exact nv_handler_undisturbed s request handle pin _ (harmless_increment s request handle pin read) (by rw [code]; rfl)
  · exact nv_handler_undisturbed s request handle pin _
      (harmless_write_index s request handle pin read _ _ (.inr NvIndex.pin_not_extended)) (by rw [code]; rfl)
  · exact nv_handler_undisturbed s request handle pin _
      (harmless_write_index s request handle pin read _ _ (.inr NvIndex.pin_not_set)) (by rw [code]; rfl)
  · exact nv_handler_undisturbed s request handle pin _ (harmless_write_lock s request handle pin read) (by rw [code]; rfl)
  · exact nv_handler_undisturbed s request handle pin _ (harmless_global_write_lock s request handle pin read)
      (by rw [code]; rfl)
  · exact nv_handler_undisturbed s request handle pin _ (harmless_read_lock s request handle pin read) (by rw [code]; rfl)
  · exact nv_handler_undisturbed s request handle pin _ (harmless_change_auth s request handle pin read) (by rw [code]; rfl)

theorem run_command_undisturbed (unwritten : ∀ reply t, runCommand request s = .ok reply t →
    request.code = Cc.nvWrite → request.handle 1 ≠ .ok handle) :
    s.nv.Undisturbed handle pin (final (runCommand request s)).nv := by
  have kept : (final (runCommand request s)).nv = s.nv → s.nv.Undisturbed handle pin (final (runCommand request s)).nv :=
    fun same => by
      rw [same]
      exact s.nv.undisturbed_self handle pin read
  cases named : handlerOf request.code with
  | none =>
      refine kept ?_
      unfold runCommand
      rw [named]
      rfl
  | some handler =>
      have spares := List.all_eq_true.mp handlers_spare_nv _ (handler_mem _ _ named)
      simp only [Bool.or_eq_true, List.contains_eq_mem, decide_eq_true_eq, List.mem_cons] at spares
      rcases spares with spares | startupCode | shutdownCode | clearCode | listed
      · refine kept ?_
        unfold runCommand
        rw [named]
        exact handler.keeps_run _ request (fun action => handler.scope.keeps_nv action spares) s
      · unfold runCommand
        rw [startupCode]
        change s.nv.Undisturbed handle pin
          (final ((Handler.plain .whole fun _ request => startup request).run request s)).nv
        rw [final_whole_plain]
        rcases ensures_final _ _ _ _ s (startup_undisturbed s.nv handle pin read request) rfl with ⟨_, left⟩ | left
        · exact left
        · exact left
      · refine kept ?_
        unfold runCommand
        rw [shutdownCode]
        change (final ((Handler.plain .whole fun _ request => shutdown request).run request s)).nv = s.nv
        rw [final_whole_plain]
        exact keeps_nv_shutdown request s
      · unfold runCommand
        rw [clearCode]
        change s.nv.Undisturbed handle pin
          (final ((Handler.plain .whole fun _ request => clear request).run request s)).nv
        rw [final_whole_plain]
        rcases ensures_final _ _ _ _ s (clear_undisturbed s.nv handle pin read request) rfl with ⟨_, left⟩ | left
        · exact left
        · exact left
      · exact nv_command_undisturbed s request handle pin read listed unwritten

end

end

end Swtrust
