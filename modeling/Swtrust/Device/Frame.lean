import Swtrust.Device.Persist
import Swtrust.Guarantee

set_option autoImplicit false
set_option linter.unusedSectionVars false

namespace Swtrust

open Library Action TpmState

-- What every handler but those of the whole state guarantees.
def OutsideScopes (relation : TpmState → TpmState → Prop) : Prop :=
  ∀ {α : Type} (scope : Scope) (action : Action TpmRc scope.State α), scope ≠ .whole →
    Guarantees relation (scope.zoom action)

-- A startup keeps whether the last write failed, and records no shutdown.
structure Settles (s t : TpmState) : Prop where
  writeFailed : t.nvWriteFailed = s.nvWriteFailed
  shutdownType : t.shutdownType = s.shutdownType ∨ t.shutdownType = Su.none

theorem settles_steady : Steady Settles where
  refl s := ⟨rfl, .inl rfl⟩
  trans s t u first second := by
    refine ⟨second.writeFailed.trans first.writeFailed, ?_⟩
    rcases second.shutdownType with same | none
    · rw [same]
      exact first.shutdownType
    · exact .inr none

theorem settles_of_same (s t : TpmState) (failed : t.nvWriteFailed = s.nvWriteFailed)
    (shutdown : t.shutdownType = s.shutdownType) : Settles s t := ⟨failed, .inl shutdown⟩

theorem settles_outside_scopes : OutsideScopes Settles := by
  intro α scope action part
  cases scope with
  | whole => exact absurd rfl part
  | _ => exact guarantees_zoom _ _ _ action fun s => settles_of_same _ _ rfl rfl

theorem NvStore.note_counter_indices (store : NvStore) (index : NvIndex) :
    (store.noteCounter index).indices = store.indices := by
  unfold noteCounter
  split
  · split <;> rfl
  · rfl

-- What is read of the Indices is what was written of them.
theorem TpmState.restored_nv_indices (saved : NvStore) : (TpmState.restoredNv saved).indices = saved.indices := by
  have noted : ∀ (indices : List NvIndex) (nv : NvStore), (indices.foldl NvStore.noteCounter nv).indices = nv.indices := by
    intro indices
    induction indices with
    | nil => exact fun _ => rfl
    | cons index rest ih => exact fun nv => (ih (nv.noteCounter index)).trans (nv.note_counter_indices index)
  exact noted _ saved

section

variable [Primitives]

theorem whole_handlers :
    (handlers.all fun row => row.2.scope != .whole || ([Cc.startup, Cc.shutdown, Cc.clear] : List UInt32).contains row.1) =
      true := by
  rfl

theorem guarantees_run_outside (relation : TpmState → TpmState → Prop) (steady : Steady relation)
    (outside : OutsideScopes relation) (request : Request)
    (startup : request.code = Cc.startup → Guarantees relation (startup request))
    (shutdown : request.code = Cc.shutdown → Guarantees relation (shutdown request))
    (clear : request.code = Cc.clear → Guarantees relation (clear request)) :
    Guarantees relation (runCommand request) := by
  have whole : ∀ run : Request → TpmM Response, Guarantees relation (run request) →
      Guarantees relation ((Handler.plain .whole fun _ request => run request).run request) := fun run ensured s =>
    guarantees_map relation _ _ ensured s
  unfold runCommand
  cases named : handlerOf request.code with
  | none => exact guarantees_throw steady.refl _
  | some handler =>
      have parts := List.all_eq_true.mp whole_handlers _ (handler_mem _ _ named)
      simp only [Bool.or_eq_true, bne_iff_ne, ne_eq, List.contains_eq_mem, decide_eq_true_eq, List.mem_cons,
        List.not_mem_nil, or_false] at parts
      rcases parts with part | code | code | code
      · exact guarantees_handler_run relation request handler fun action => outside handler.scope action part
      · rw [code] at named
        obtain rfl := Option.some.inj named
        exact whole _ (startup code)
      · rw [code] at named
        obtain rfl := Option.some.inj named
        exact whole _ (shutdown code)
      · rw [code] at named
        obtain rfl := Option.some.inj named
        exact whole _ (clear code)

-- A relation that allows what a startup changes.
structure AllowsStartup (relation : TpmState → TpmState → Prop) : Prop where
  steady : Steady relation
  emptied : ∀ s, relation s { s with objects := SortedMap.empty }
  changed : ∀ s hierarchies rng pcr sessions digest exclusiveSession nv clock lockout commits act
    hcrtmAtLastStartup startupLocality startupMethodUnknown hcrtmBeforeStartup, relation s { s with
      hierarchies, rng, pcr, sessions, nv, clock, lockout, commits, act, hcrtmAtLastStartup
      startupLocality, startupMethodUnknown, hcrtmBeforeStartup
      audit := { s.audit with digest, exclusiveSession } }
  begun : ∀ orderly keepReadOnly s, relation s (beginOperation orderly keepReadOnly s)

section

variable (relation : TpmState → TpmState → Prop) (allows : AllowsStartup relation)

include allows

theorem allows_modify (f : TpmState → TpmState) (changes : ∀ s, relation s (f s)) (rest : PUnit → TpmM Unit)
    (ensured : ∀ u, Guarantees relation (rest u)) : Guarantees relation (modify f >>= rest) :=
  guarantees_bind allows.steady _ _ (guarantees_modify _ _ changes) ensured

theorem allows_begin (orderly keepReadOnly : Bool) (act : Act → Act) : Guarantees relation
    (modify fun s => beginOperation orderly keepReadOnly { s with act := act s.act, lockout := s.lockout.onStartup } :
      TpmM Unit) :=
  guarantees_modify _ _ fun s => allows.steady.trans _ _ _
    (allows.changed s _ _ _ _ _ _ _ _ s.lockout.onStartup _ (act s.act) _ _ _ _) (allows.begun orderly keepReadOnly _)

theorem guarantees_startup_clear (locality : UInt8) : Guarantees relation (onStartupClear locality) := by
  have timed : ∀ counts : Bool, ∀ rest : TpmM Unit, Guarantees relation rest → Guarantees relation (do
      modify fun s => { s with clock := { s.clock with time := 0, nvElapsed := 0 } }
      if counts then
        modify fun s => { s with
          clock := { s.clock with safe := false }
          lockout := s.lockout.countPendingFailure }
      rest : TpmM Unit) := by
    intro counts rest ensured
    refine allows_modify relation allows _ (fun s => allows.changed s _ _ _ _ _ _ _ _ _ _ _ _ _ _ _) _ fun _ => ?_
    refine guarantees_ite _ _ _ _ (fun _ => ?_) fun _ => ensured
    exact allows_modify relation allows _ (fun s => allows.changed s _ _ _ _ _ _ _ _ _ _ _ _ _ _ _) _ fun _ => ensured
  refine guarantees_get_bind _ _ fun s => ?_
  refine guarantees_bind allows.steady _ _
    (guarantees_zoom _ _ _ _ fun s => allows.changed s _ _ _ _ _ _ _ _ _ _ _ _ _ _ _) (fun _ => ?_) s
  refine allows_modify relation allows _ (fun s => allows.changed s _ _ _ _ _ _ _ _ _ _ _ _ _ _ _) _ fun _ => ?_
  by_cases restart : (s.shutdownType == Su.state) = true
  · simp only [restart, Bool.not_true, Bool.false_eq_true, if_false, if_true]
    refine allows_modify relation allows _ allows.emptied _ fun _ => ?_
    iterate 4
      refine allows_modify relation allows _ (fun s => allows.changed s _ _ _ _ _ _ _ _ _ _ _ _ _ _ _) _ fun _ => ?_
    exact timed _ _ (allows_begin relation allows _ _ _)
  · simp only [restart, Bool.not_false, Bool.false_eq_true, if_false, if_true]
    refine allows_modify relation allows _ (fun s => allows.changed s _ _ _ _ _ _ _ _ _ _ _ _ _ _ _) _ fun _ => ?_
    refine allows_modify relation allows _ allows.emptied _ fun _ => ?_
    iterate 3
      refine allows_modify relation allows _ (fun s => allows.changed s _ _ _ _ _ _ _ _ _ _ _ _ _ _ _) _ fun _ => ?_
    refine guarantees_bind allows.steady _ _
      (guarantees_zoom _ _ _ _ fun s => allows.changed s _ _ _ _ _ _ _ _ _ _ _ _ _ _ _) fun _ => ?_
    iterate 2
      refine allows_modify relation allows _ (fun s => allows.changed s _ _ _ _ _ _ _ _ _ _ _ _ _ _ _) _ fun _ => ?_
    refine timed _ _ ?_
    refine allows_modify relation allows _ (fun s => allows.changed s _ _ _ _ _ _ _ _ _ _ _ _ _ _ _) _ fun _ => ?_
    exact guarantees_bind allows.steady _ _
      (guarantees_zoom _ _ _ _ fun s => allows.changed s _ _ _ _ _ _ _ _ _ _ _ _ _ _ _) fun _ =>
        allows_begin relation allows _ _ _

theorem guarantees_startup_state (locality : UInt8) : Guarantees relation (onStartupState locality) := by
  refine guarantees_get_bind _ _ fun s => ?_
  have kept : ∀ t : TpmState, t = s → relation s t := fun t found => found ▸ allows.steady.refl s
  suffices ensured : Ensures (fun t => t = s) (do
      if s.startupMethodUnknown then throw (Rc.value.withParameter 1)
      if s.hcrtmBeforeStartup ≠ s.hcrtmAtLastStartup then throw Rc.locality
      if !s.hcrtmBeforeStartup ∧ locality ≠ s.startupLocality then throw Rc.locality
      set { s with
        hcrtmBeforeStartup := false
        objects := SortedMap.empty
        sessions := s.sessions.flushLoaded
        pcr := s.pcr.onResume
        clock := { s.clock with restartCount := s.clock.restartCount + 1, time := 0 } }
      if !s.commits.isReady then
        zoomCommits Commits.reset
      modify fun s => beginOperation true true { s with act := s.act.onResume, lockout := s.lockout.onStartup } :
        TpmM Unit) (fun _ => relation s) (relation s) by
    rcases ensures_final _ _ _ _ s ensured rfl with ⟨_, ended⟩ | ended
    · exact ended
    · exact ended
  refine ensures_guard _ _ _ _ _ _ _ kept fun _ => ?_
  refine ensures_guard _ _ _ _ _ _ _ kept fun _ => ?_
  refine ensures_guard _ _ _ _ _ _ _ kept fun _ => ?_
  refine ensures_bind _ _ _ (fun _ t => relation s t) _ _ ?_ fun _ => ?_
  · intro t found
    exact allows.steady.trans s _ _ (allows.emptied s) (allows.changed _ _ _ _ _ _ _ _ _ _ _ _ _ _ _ _)
  · have began := allows_begin relation allows true true Act.onResume
    have readied : Guarantees relation (do
        if !s.commits.isReady then zoomCommits Commits.reset
        modify fun s => beginOperation true true { s with act := s.act.onResume, lockout := s.lockout.onStartup } :
          TpmM Unit) := by
      refine guarantees_ite _ _ _ _ (fun _ => guarantees_bind allows.steady _ _ ?_ fun _ => began) fun _ => began
      exact guarantees_zoom _ _ _ _ fun s => allows.changed s _ _ _ _ _ _ _ _ _ _ _ _ _ _ _
    exact ensures_of_guarantees allows.steady s _ readied

theorem guarantees_startup (request : Request) : Guarantees relation (startup request) := by
  refine guarantees_lift_bind allows.steady.refl _ _ fun startupType _ => ?_
  have refused : ∀ (e : TpmRc) (rest : PUnit → TpmM Response), Guarantees relation ((throw e : TpmM PUnit) >>= rest) :=
    fun e rest => allows.steady.refl
  have resumed : Guarantees relation (do
      onStartupState request.locality
      return .empty : TpmM Response) :=
    guarantees_bind allows.steady _ _ (guarantees_startup_state relation allows _) fun _ =>
      guarantees_pure allows.steady.refl _
  refine guarantees_ite _ _ _ _ (fun _ => refused _ _) fun _ => ?_
  refine guarantees_ite _ _ _ _ (fun _ => ?_) fun _ => guarantees_ite _ _ _ _ (fun _ => ?_) fun _ => refused _ _
  · exact guarantees_bind allows.steady _ _ (guarantees_startup_clear relation allows _) fun _ =>
      guarantees_pure allows.steady.refl _
  · refine guarantees_get_bind _ _ fun s => ?_
    exact guarantees_ite _ _ _ _ (fun _ => refused _ _) (fun _ => resumed) s

end

theorem settles_startup (request : Request) : Guarantees Settles (startup request) :=
  guarantees_startup _ ⟨settles_steady, fun _ => settles_of_same _ _ rfl rfl,
    fun _ _ _ _ _ _ _ _ _ _ _ _ _ _ _ _ => settles_of_same _ _ rfl rfl,
    fun _ _ _ => ⟨rfl, .inr rfl⟩⟩ request

theorem guarantees_shutdown (relation : TpmState → TpmState → Prop) (steady : Steady relation)
    (changed : ∀ s shutdownType act startupClear, relation s { s with shutdownType, act, startupClear })
    (request : Request) : Guarantees relation (shutdown request) := by
  refine guarantees_lift_bind steady.refl _ _ fun shutdownType _ => guarantees_get_bind _ _ fun s => ?_
  have refused : ∀ (e : TpmRc) (rest : PUnit → TpmM Response), Guarantees relation ((throw e : TpmM PUnit) >>= rest) :=
    fun e rest => steady.refl
  refine guarantees_ite _ _ _ _ (fun _ => refused _ _) (fun _ => ?_) s
  refine guarantees_ite _ _ _ _ (fun _ => refused _ _) fun _ => ?_
  exact guarantees_bind steady _ _ (guarantees_modify _ _ fun s => changed s _ _ _) fun _ => guarantees_pure steady.refl _

theorem keeps_write_failed_shutdown (request : Request) : Keeps (fun s => s.nvWriteFailed) (shutdown request) := by
  refine keeps_bind _ _ _ (keeps_lift _ _) fun shutdownType => ?_
  refine keeps_bind _ _ _ (keeps_get _) fun s => ?_
  refine keeps_ite _ _ _ _ (keeps_bind _ _ _ (keeps_throw _ _) fun _ => ?_) ?_
  all_goals
    refine keeps_ite _ _ _ _ (keeps_bind _ _ _ (keeps_throw _ _) fun _ => ?_) ?_
    all_goals exact keeps_bind _ _ _ (keeps_modify _ _ fun s => rfl) fun _ => keeps_pure _ _

theorem settles_clear (request : Request) : Guarantees Settles (clear request) := by
  have cleared : Guarantees Settles (do
      onClear
      modify fun s => { s with lockoutAuth := [], lockoutPolicy := TpmtHa.null }
      return .notReading request [] : TpmM Response) := by
    refine guarantees_bind settles_steady _ _ ?_ fun _ => guarantees_bind settles_steady _ _ ?_ fun _ =>
      guarantees_pure settles_steady.refl _
    · refine guarantees_bind settles_steady _ _ ?_ fun _ => ?_
      · exact guarantees_zoom _ _ _ _ fun _ => settles_of_same _ _ rfl rfl
      · exact guarantees_modify _ _ fun _ => settles_of_same _ _ rfl rfl
    · exact guarantees_modify _ _ fun _ => settles_of_same _ _ rfl rfl
  refine guarantees_get_bind _ _ fun s => ?_
  exact guarantees_ite _ _ _ _ (fun _ t => settles_steady.refl t) (fun _ => cleared) s

namespace TpmState

theorem settles_undisturbed : Undisturbed Settles where
  steady := settles_steady
  nullified request s := by
    unfold nullifyShutdown
    split
    · exact ⟨rfl, .inr rfl⟩
    · exact settles_steady.refl s
  authorized request names count index :=
    guarantees_authorize_from _ (fun _ _ _ => settles_of_same _ _ rfl rfl) request names count index
  suppressed _ _ := settles_of_same _ _ rfl rfl
  failed _ := settles_of_same _ _ rfl rfl
  responded request reply names contexts parameters := by
    refine guarantees_respond_of_view (fun s => (s.nvWriteFailed, s.shutdownType)) _ ?_ request ?_ reply names contexts
      parameters
    · intro s t same
      exact settles_of_same _ _ (congrArg Prod.fst same) (congrArg Prod.snd same)
    · exact ⟨fun _ _ => rfl, fun _ _ => rfl, fun _ _ => rfl, fun _ _ _ _ => rfl, fun _ _ _ => rfl⟩

theorem settles_run_command (request : Request) (apart : request.code ≠ Cc.shutdown) :
    Guarantees Settles (runCommand request) :=
  guarantees_run_outside _ settles_steady settles_outside_scopes request (fun _ => settles_startup request)
    (fun code => absurd code apart) fun _ => settles_clear request

theorem run_command_keeps_write_failed (request : Request) : Keeps (fun s => s.nvWriteFailed) (runCommand request) := by
  by_cases apart : request.code = Cc.shutdown
  · refine guarantees_run_outside (fun s t => t.nvWriteFailed = s.nvWriteFailed)
      (steady_of_view fun s : TpmState => s.nvWriteFailed) (fun scope action part => ?_) request
      (fun _ => ?_) (fun _ => keeps_write_failed_shutdown request) fun _ => ?_
    · exact guarantees_imply _ _ _ (settles_outside_scopes scope action part) fun _ _ settled => settled.writeFailed
    · exact guarantees_imply _ _ _ (settles_startup request) fun _ _ settled => settled.writeFailed
    · exact guarantees_imply _ _ _ (settles_clear request) fun _ _ settled => settled.writeFailed
  · exact guarantees_imply _ _ _ (settles_run_command request apart) fun _ _ settled => settled.writeFailed

theorem run_keeps_write_failed (s : TpmState) (locality : UInt8) (octets : Bytes) :
    (run locality octets s).2.nvWriteFailed = s.nvWriteFailed := by
  refine run_guarantees (fun s t => t.nvWriteFailed = s.nvWriteFailed) ⟨steady_of_view fun s : TpmState =>
    s.nvWriteFailed,
    fun request s => (settles_undisturbed.nullified request s).writeFailed, fun request names count index s =>
      (settles_undisturbed.authorized request names count index s).writeFailed, fun _ _ => rfl, fun _ => rfl,
    fun request reply names contexts parameters s =>
      (settles_undisturbed.responded request reply names contexts parameters s).writeFailed⟩ s locality octets ?_
  exact fun request parameters _ => run_command_keeps_write_failed { request with parameters }

theorem advance_time_changes (s : TpmState) (millis : UInt64) :
    ∃ clock act lockout, (s.advanceTime millis).2 = { s with clock, act, lockout } := by
  unfold advanceTime
  split
  · exact ⟨s.clock, s.act, s.lockout, rfl⟩
  · dsimp only
    split
    · exact ⟨_, s.act, s.lockout, rfl⟩
    · split
      · exact ⟨_, _, _, rfl⟩
      · exact ⟨_, _, _, rfl⟩

theorem measure_hcrtm_changes (s : TpmState) (digest : UInt16 × Bytes) :
    ∃ pcr hcrtmBeforeStartup, measureHcrtm s digest = { s with pcr, hcrtmBeforeStartup } := by
  unfold measureHcrtm
  split
  · exact ⟨s.pcr, s.hcrtmBeforeStartup, rfl⟩
  · exact ⟨s.pcr, s.hcrtmBeforeStartup, rfl⟩
  · split
    · exact ⟨s.pcr, s.hcrtmBeforeStartup, rfl⟩
    · exact ⟨_, _, rfl⟩

theorem hash_end_changes (s : TpmState) :
    ∃ pcr clock hcrtmSequence hcrtmBeforeStartup,
      s.hashEnd = { s with pcr, clock, hcrtmSequence, hcrtmBeforeStartup } := by
  have folded : ∀ (digests : List (UInt16 × Bytes)) (s : TpmState),
      ∃ pcr hcrtmBeforeStartup, digests.foldl measureHcrtm s = { s with pcr, hcrtmBeforeStartup } := by
    intro digests
    induction digests with
    | nil => exact fun s => ⟨s.pcr, s.hcrtmBeforeStartup, rfl⟩
    | cons digest rest ih =>
        intro s
        obtain ⟨_, _, here⟩ := measure_hcrtm_changes s digest
        obtain ⟨pcr, hcrtmBeforeStartup, later⟩ := ih (measureHcrtm s digest)
        exact ⟨pcr, hcrtmBeforeStartup, by rw [List.foldl_cons, later, here]⟩
  unfold hashEnd
  split
  · exact ⟨s.pcr, s.clock, s.hcrtmSequence, s.hcrtmBeforeStartup, rfl⟩
  · dsimp only
    split
    · exact ⟨_, _, _, s.hcrtmBeforeStartup, rfl⟩
    · obtain ⟨pcr, hcrtmBeforeStartup, same⟩ := folded (sequenceDigests _) { s with hcrtmSequence := none }
      exact ⟨_, s.clock, none, hcrtmBeforeStartup, by rw [same]⟩

-- Of the state that `on_init` starts from it keeps what is not of the platform.
theorem on_init_changes (s : TpmState) :
    ∃ pcr hierarchies pcrAllocationPending hcrtmSequence hcrtmBeforeStartup, final (onInit s) =
      { s with pcr, hierarchies, pcrAllocationPending, hcrtmSequence, hcrtmBeforeStartup } := by
  unfold onInit
  rw [run_get_bind]
  split
  · rw [run_lift_bind]
    split
    · exact ⟨_, _, _, _, _, rfl⟩
    · exact ⟨s.pcr, s.hierarchies, s.pcrAllocationPending, s.hcrtmSequence, s.hcrtmBeforeStartup, rfl⟩
  · exact ⟨_, _, _, _, _, rfl⟩

theorem power_on_changes (s : TpmState) :
    ∃ pcr hierarchies pcrAllocationPending hcrtmSequence hcrtmBeforeStartup failureMode selfTestDone testDigest
        testFailure clock, s.powerOn = { s with
      pcr, hierarchies, pcrAllocationPending, hcrtmSequence, hcrtmBeforeStartup, failureMode, selfTestDone, testDigest
      testFailure, clock
      started := false
      objects := SortedMap.empty
      sessions := s.sessions.flushLoaded
      physicalPresence := false } := by
  have tested : ∀ s : TpmState, ∃ failureMode selfTestDone testDigest testFailure,
      final (zoomTest runSelfTests s) = { s with failureMode, selfTestDone, testDigest, testFailure } := by
    intro s
    unfold zoomTest Action.zoom
    split
    · exact ⟨_, _, _, _, rfl⟩
    · exact ⟨_, _, _, _, rfl⟩
  unfold powerOn
  by_cases failed : s.nvWriteFailed = true
  · rw [if_pos failed]
    obtain ⟨pcr, hierarchies, pcrAllocationPending, hcrtmSequence, hcrtmBeforeStartup, init⟩ := on_init_changes
      { s with failureMode := true, testFailure := some "nv write", started := false }
    dsimp only at init ⊢
    rw [init]
    obtain ⟨failureMode, selfTestDone, testDigest, testFailure, same⟩ := tested { s with
      started := false
      pcr, hierarchies, pcrAllocationPending, hcrtmSequence, hcrtmBeforeStartup
      objects := SortedMap.empty
      sessions := s.sessions.flushLoaded
      physicalPresence := false
      failureMode := s.nvWriteFailed && true
      testFailure := some "nv write"
      clock := { s.clock with time := 0 } }
    exact ⟨_, _, _, _, _, _, _, _, _, _, same⟩
  · rw [if_neg failed]
    obtain ⟨pcr, hierarchies, pcrAllocationPending, hcrtmSequence, hcrtmBeforeStartup, init⟩ := on_init_changes
      { s with started := false }
    dsimp only at init ⊢
    rw [init]
    obtain ⟨failureMode, selfTestDone, testDigest, testFailure, same⟩ := tested { s with
      started := false
      pcr, hierarchies, pcrAllocationPending, hcrtmSequence, hcrtmBeforeStartup
      objects := SortedMap.empty
      sessions := s.sessions.flushLoaded
      physicalPresence := false
      failureMode := s.nvWriteFailed && s.failureMode
      clock := { s.clock with time := 0 } }
    exact ⟨_, _, _, _, _, _, _, _, _, _, same⟩

theorem advance_time_write_failed (s : TpmState) (millis : UInt64) :
    (s.advanceTime millis).2.nvWriteFailed = s.nvWriteFailed := by
  obtain ⟨_, _, _, same⟩ := s.advance_time_changes millis
  rw [same]

theorem hash_end_write_failed (s : TpmState) : s.hashEnd.nvWriteFailed = s.nvWriteFailed := by
  obtain ⟨_, _, _, _, same⟩ := s.hash_end_changes
  rw [same]

end TpmState

namespace Tpm

theorem persist_synced (t : Tpm) (written : Bool) (kept : (t.persist written).1 = true) :
    (t.persist written).2 = { t with store := t.state } ∧ t.state.nvWriteFailed = false ∧ written = true := by
  unfold persist at kept ⊢
  by_cases closed : (t.state.nvWriteFailed || !written) = true
  · rw [if_pos closed] at kept
    cases kept
  · rw [if_neg closed]
    exact ⟨rfl, by simpa using closed⟩

theorem persist_failed (t : Tpm) (written : Bool) (failed : (t.persist written).1 = false) :
    (t.persist written).2 = t ∧ (t.state.nvWriteFailed = true ∨ written = false) := by
  unfold persist at failed ⊢
  split at failed
  next closed =>
    rw [if_pos closed]
    refine ⟨rfl, ?_⟩
    simpa using closed
  next => cases failed

theorem execute_unpowered (t : Tpm) (elapsed : UInt64) (written : Bool) (locality : UInt8) (command : Bytes)
    (off : t.powered = false) : t.execute elapsed written locality command = (errorResponse Rc.notInitialized, t) := by
  simp [execute, off]

-- A write that fails leaves everything; one that does not puts the state into the file.
theorem holds_after_persist (holds : Tpm → Prop) (t : Tpm) (written : Bool) (left : holds t)
    (filed : holds { t with store := t.state }) : holds (t.persist written).2 := by
  unfold persist
  split
  · exact left
  · exact filed

theorem persist_state (t : Tpm) (written : Bool) : (t.persist written).2.state = t.state :=
  holds_after_persist (fun u => u.state = t.state) t written rfl rfl

theorem persist_powered (t : Tpm) (written : Bool) : (t.persist written).2.powered = t.powered :=
  holds_after_persist (fun u => u.powered = t.powered) t written rfl rfl

-- A poll of the timer lets the time pass that has gone by, and may write.
theorem holds_after_poll (holds : Tpm → Prop) (t : Tpm) (act : UInt32) (elapsed : UInt64) (written : Bool)
    (advanced : ∀ millis, holds { t with state := (t.state.advanceTime millis).2 })
    (persisted : ∀ u, holds u → holds (u.persist written).2) : holds (t.after (.actGetSignaled act elapsed written)) := by
  show holds (t.actGetSignaled act elapsed written).2
  unfold actGetSignaled
  by_cases other : act ≠ 0
  · rw [if_pos other]
    exact advanced 0
  · rw [if_neg other]
    dsimp only
    generalize (if t.powered then elapsed else 0) = millis
    split
    · exact persisted _ (advanced millis)
    · exact advanced millis

-- The ways a powered device ends a command.
inductive Executes (t : Tpm) (elapsed : UInt64) (written : Bool) (locality : UInt8) (command : Bytes) :
    Bytes × Tpm → Prop where
  | saved (healthy : (t.ran elapsed locality command).2.nvWriteFailed = false ∧ written = true)
      (writes : commandWritesNv command = true ∨ (t.ran elapsed locality command).2.witness ≠ t.state.witness ∨
        (t.arrive elapsed).1 = true) :
      Executes t elapsed written locality command ((t.ran elapsed locality command).1,
        { t with state := (t.ran elapsed locality command).2, store := (t.ran elapsed locality command).2 })
  | closed (refused : (t.ran elapsed locality command).2.nvWriteFailed = true ∨ written = false)
      (writes : commandWritesNv command = true ∨ (t.ran elapsed locality command).2.witness ≠ t.state.witness) :
      Executes t elapsed written locality command (errorResponse Rc.nvUnavailable,
        { t with state := (t.ran elapsed locality command).2.closeNv })
  | clockLost (refused : (t.ran elapsed locality command).2.nvWriteFailed = true ∨ written = false)
      (plain : commandWritesNv command = false) (same : (t.ran elapsed locality command).2.witness = t.state.witness)
      (rolled : (t.arrive elapsed).1 = true) :
      Executes t elapsed written locality command ((t.ran elapsed locality command).1,
        { t with state := (t.ran elapsed locality command).2.closeNv })
  | unsaved (plain : commandWritesNv command = false)
      (same : (t.ran elapsed locality command).2.witness = t.state.witness) (still : (t.arrive elapsed).1 = false) :
      Executes t elapsed written locality command ((t.ran elapsed locality command).1,
        { t with state := (t.ran elapsed locality command).2 })

theorem execute_executes (t : Tpm) (elapsed : UInt64) (written : Bool) (locality : UInt8) (command : Bytes)
    (powered : t.powered = true) :
    Executes t elapsed written locality command (t.execute elapsed written locality command) := by
  have persisted := persist_synced { t with state := (t.ran elapsed locality command).2 } written
  have failing := persist_failed { t with state := (t.ran elapsed locality command).2 } written
  have on : ¬ ((!t.powered) = true) := by simp [powered]
  unfold execute
  rw [if_neg on]
  dsimp only
  by_cases writes : commandWritesNv command = true ∨ (t.ran elapsed locality command).2.witness ≠ t.state.witness
  · have decided : (commandWritesNv command || decide ((t.ran elapsed locality command).2.witness ≠ t.state.witness)) =
        true := by simpa using writes
    simp only [decided, Bool.true_or, if_true]
    cases kept : (({ t with state := (t.ran elapsed locality command).2 } : Tpm).persist written) with
    | mk outcome t' =>
        rw [kept] at persisted failing
        cases outcome with
        | true =>
            obtain ⟨rfl, healthy⟩ := persisted rfl
            exact .saved healthy (writes.elim .inl fun moved => .inr (.inl moved))
        | false =>
            obtain ⟨rfl, refused⟩ := failing rfl
            exact .closed refused writes
  · have decided : (commandWritesNv command || decide ((t.ran elapsed locality command).2.witness ≠ t.state.witness)) =
        false := by simpa using writes
    obtain ⟨plain, same⟩ := not_or.mp writes
    have plain : commandWritesNv command = false := by simpa using plain
    have same : (t.ran elapsed locality command).2.witness = t.state.witness := by simpa using same
    simp only [decided, Bool.false_or, Bool.false_eq_true, if_false]
    cases rolled : (t.arrive elapsed).1 with
    | false =>
        simp only [Bool.false_eq_true, if_false]
        exact .unsaved plain same rolled
    | true =>
        simp only [if_true]
        cases kept : (({ t with state := (t.ran elapsed locality command).2 } : Tpm).persist written) with
        | mk outcome t' =>
            rw [kept] at persisted failing
            cases outcome with
            | true =>
                obtain ⟨rfl, healthy⟩ := persisted rfl
                exact .saved healthy (.inr (.inr rolled))
            | false =>
                obtain ⟨rfl, refused⟩ := failing rfl
                exact .clockLost refused plain same rolled

theorem ran_write_failed (t : Tpm) (elapsed : UInt64) (locality : UInt8) (command : Bytes) :
    (t.ran elapsed locality command).2.nvWriteFailed = t.state.nvWriteFailed := by
  exact (TpmState.run_keeps_write_failed _ _ _).trans (TpmState.advance_time_write_failed _ elapsed)

-- What holds of the state in memory, and of the one in the file.
structure InBoth (invariant : TpmState → Prop) (t : Tpm) : Prop where
  state : invariant t.state
  store : invariant t.store

theorem in_both_persisted (invariant : TpmState → Prop) (t : Tpm) (written : Bool) (holds : t.InBoth invariant) :
    (t.persist written).2.InBoth invariant :=
  holds_after_persist (InBoth invariant) t written holds ⟨holds.state, holds.state⟩

-- What no command breaks, nor anything else that reaches the device.
structure Invariant (invariant : TpmState → Prop) : Prop where
  ran : ∀ s locality octets, invariant s → invariant (TpmState.run locality octets s).2
  changed : ∀ s clock act lockout pcr hierarchies hcrtmSequence hcrtmBeforeStartup pcrAllocationPending nvAvailable
    nvWriteFailed physicalPresence failureMode selfTestDone testDigest testFailure, invariant s → invariant { s with
      clock, act, lockout, pcr, hierarchies, hcrtmSequence, hcrtmBeforeStartup, pcrAllocationPending, nvAvailable
      nvWriteFailed, physicalPresence, failureMode, selfTestDone, testDigest, testFailure }
  flushed : ∀ s, invariant s → invariant { s with
    started := false, objects := SortedMap.empty, sessions := s.sessions.flushLoaded }
  restored : ∀ fresh saved, invariant saved → invariant (TpmState.restored fresh saved)

section

variable (invariant : TpmState → Prop) (kept : Invariant invariant)

include kept

theorem arrive_holds (t : Tpm) (elapsed : UInt64) (holds : invariant t.state) : invariant (t.arrive elapsed).2 := by
  obtain ⟨_, _, _, same⟩ := TpmState.advance_time_changes { t.state with hcrtmSequence := none } elapsed
  unfold arrive
  rw [same]
  exact kept.changed t.state _ _ _ _ _ _ _ _ _ _ _ _ _ _ _ holds

theorem execute_holds (t : Tpm) (elapsed : UInt64) (written : Bool) (locality : UInt8) (command : Bytes)
    (holds : t.InBoth invariant) : (t.execute elapsed written locality command).2.InBoth invariant := by
  cases powered : t.powered with
  | false =>
      have same := t.execute_unpowered elapsed written locality command powered
      rw [same]
      exact holds
  | true =>
      have ran : invariant (t.ran elapsed locality command).2 :=
        kept.ran _ locality command (arrive_holds invariant kept t elapsed holds.state)
      have closed : invariant (t.ran elapsed locality command).2.closeNv :=
        kept.changed _ _ _ _ _ _ _ _ _ _ _ _ _ _ _ _ ran
      have ended := t.execute_executes elapsed written locality command powered
      generalize t.execute elapsed written locality command = result at ended ⊢
      cases ended with
      | saved healthy writes => exact ⟨ran, ran⟩
      | closed refused writes => exact ⟨closed, holds.store⟩
      | clockLost refused plain same rolled => exact ⟨closed, holds.store⟩
      | unsaved plain same still => exact ⟨ran, holds.store⟩

theorem power_on_holds (s : TpmState) (holds : invariant s) : invariant s.powerOn := by
  obtain ⟨_, _, _, _, _, _, _, _, _, _, same⟩ := s.power_on_changes
  rw [same]
  exact kept.changed _ _ _ _ _ _ _ _ _ _ _ _ _ _ _ _ (kept.flushed s holds)

theorem signal_holds (t : Tpm) (signal : Signal) (holds : t.InBoth invariant) : (t.after signal).InBoth invariant := by
  have read : ∀ fresh hierarchies selfTestDone testDigest testFailure, invariant { TpmState.restored fresh t.store with
      hierarchies, selfTestDone, testDigest, testFailure } := fun fresh _ _ _ _ =>
    kept.changed _ _ _ _ _ _ _ _ _ _ _ _ _ _ _ _ (kept.restored fresh t.store holds.store)
  cases signal with
  | execute elapsed written locality command =>
      exact execute_holds invariant kept t elapsed written locality command holds
  | powerOn fresh =>
      refine ⟨?_, holds.store⟩
      change invariant (t.powerOn fresh).state
      unfold powerOn
      dsimp only
      split
      · exact power_on_holds invariant kept _ (read fresh _ _ _ _)
      · exact power_on_holds invariant kept _ holds.state
  | powerOff written =>
      have persisted := in_both_persisted invariant t written holds
      exact ⟨kept.flushed _ persisted.state, persisted.store⟩
  | nv available => exact ⟨kept.changed t.state _ _ _ _ _ _ _ _ _ _ _ _ _ _ _ holds.state, holds.store⟩
  | physicalPresence asserted => exact ⟨kept.changed t.state _ _ _ _ _ _ _ _ _ _ _ _ _ _ _ holds.state, holds.store⟩
  | hashStart => exact ⟨kept.changed t.state _ _ _ _ _ _ _ _ _ _ _ _ _ _ _ holds.state, holds.store⟩
  | hashData data => exact ⟨kept.changed t.state _ _ _ _ _ _ _ _ _ _ _ _ _ _ _ holds.state, holds.store⟩
  | hashEnd =>
      refine ⟨?_, holds.store⟩
      change invariant t.state.hashEnd
      obtain ⟨_, _, _, _, same⟩ := t.state.hash_end_changes
      rw [same]
      exact kept.changed t.state _ _ _ _ _ _ _ _ _ _ _ _ _ _ _ holds.state
  | actGetSignaled act elapsed written =>
      refine holds_after_poll (InBoth invariant) t act elapsed written (fun millis => ⟨?_, holds.store⟩)
        fun u => in_both_persisted invariant u written
      obtain ⟨_, _, _, same⟩ := t.state.advance_time_changes millis
      rw [same]
      exact kept.changed t.state _ _ _ _ _ _ _ _ _ _ _ _ _ _ _ holds.state
  | restart fresh => exact ⟨read fresh _ _ _ _, holds.store⟩

-- What holds of the TPM that was manufactured holds after every run.
theorem run_invariant (s : TpmState) (start : invariant s) (signals : List Signal) :
    ((manufactured s).afterAll signals).InBoth invariant :=
  invariant_of_every after (fun _ _ => True) (InBoth invariant) (fun t signal _ => signal_holds invariant kept t signal)
    _ signals (every_of_all _ _ _ _ fun _ _ _ => trivial) ⟨start, start⟩

end

end Tpm

end

end Swtrust
