import Swtrust.Device.Frame
import Swtrust.Object.Persistent
import Swtrust.Session.Spent

set_option autoImplicit false
set_option linter.unusedSectionVars false

-- A TPM in failure mode answers for its failure and does nothing else: what it holds is what it held, until it is
-- powered anew.

namespace Swtrust

open Library Action

theorem parsed_bare (octets : Bytes) (locality : UInt8) (request : Request) (header : CommandHeader)
    (parsed : parse octets locality = .ok request) (read : parseHeader octets = .ok header)
    (bare : header.tag ≠ St.sessions) : request.code = header.code ∧ request.tag = header.tag ∧
      Table.lookup header.code = some request.info ∧ request.sessions = [] := by
  simp only [parse, bind_is_ok] at parsed
  obtain ⟨header', read', parsed⟩ := parsed
  obtain rfl := Except.ok.inj (read.symm.trans read')
  split at parsed
  · cases parsed
  next info found =>
    simp only [bind_is_ok, pure_is_ok] at parsed
    obtain ⟨⟨⟨handles, sessions⟩, parameters⟩, ran, rfl⟩ := parsed
    refine ⟨rfl, rfl, found, ?_⟩
    rw [StateT.run_bind, bind_is_ok] at ran
    obtain ⟨_, _, ran⟩ := ran
    simp only [bare, if_false] at ran
    split at ran
    · cases ran
    · cases ran
      rfl

namespace TpmState

-- `t` but for its clock and timers, what the platform says of it and what it knows of its own tests.
def unchanged (s t : TpmState) : TpmState := { t with
  clock := s.clock
  act := s.act
  lockout := s.lockout
  startupClear := s.startupClear
  shutdownType := s.shutdownType
  commandAuditSuppressed := s.commandAuditSuppressed
  hcrtmSequence := s.hcrtmSequence
  physicalPresence := s.physicalPresence
  nvAvailable := s.nvAvailable
  nvWriteFailed := s.nvWriteFailed
  selfTestDone := s.selfTestDone
  testFailure := s.testFailure
  audit := { t.audit with exclusiveSession := s.audit.exclusiveSession } }

def Frozen (s t : TpmState) : Prop := unchanged s t = s

theorem Frozen.failing {s t : TpmState} (frozen : Frozen s t) : t.failureMode = s.failureMode := by
  have same : unchanged s t = s := frozen
  show (unchanged s t).failureMode = s.failureMode
  rw [same]

theorem Frozen.trans {s t u : TpmState} (first : Frozen s t) (second : Frozen t u) : Frozen s u := by
  have seen : unchanged s (unchanged t u) = unchanged s u := rfl
  have again : unchanged t u = t := second
  rw [again] at seen
  exact seen.symm.trans first

-- A state that is in failure mode already.
theorem failing_again (s t : TpmState) (frozen : Frozen s t) (failing : s.failureMode = true) :
    Frozen s { t with failureMode := true } := by
  have same : ({ t with failureMode := true } : TpmState) = t := by
    rw [← failing, ← frozen.failing]
  rw [same]
  exact frozen

def FailedKeeps (s t : TpmState) : Prop := s.failureMode = true → Frozen s t

theorem failed_keeps_is_steady : Action.Steady FailedKeeps where
  refl _ _ := rfl
  trans _ _ _ first second failing := (first failing).trans (second ((first failing).failing.trans failing))

end TpmState

-- What is asked of a TPM in failure mode and answered.
structure Reporting (request : Request) : Prop where
  code : allowedInFailureMode request.code = true
  tag : request.tag ≠ St.sessions
  sessions : request.sessions = []
  authHandles : request.info.authHandles = 0
  flushed : request.info.flushed = false

theorem reports_alike (code : UInt32) (info : CommandInfo) (allowed : allowedInFailureMode code = true)
    (found : Table.lookup code = some info) : info.authHandles = 0 ∧ info.flushed = false := by
  have rows : ([Cc.getTestResult, Cc.getCapability].all fun reporting => (Table.lookup reporting).all fun info =>
      info.authHandles == 0 && !info.flushed) = true := by decide +kernel
  have listed : code ∈ [Cc.getTestResult, Cc.getCapability] := by
    simpa [allowedInFailureMode] using allowed
  have row := List.all_eq_true.mp rows code listed
  rw [found] at row
  simpa using row

section

variable [Primitives]

theorem reporting_handlers_query : (handlers.all fun row =>
    !allowedInFailureMode row.1 || decide (row.2.scope = .query)) = true := by rfl

theorem query_keeps (scope : Scope) (query : scope = .query) {α : Type} (action : Action TpmRc scope.State α) :
    Keeps id (scope.zoom action) := by
  subst query
  intro s
  show final (Action.zoom (fun _ => ()) (fun _ s => s) action s) = s
  unfold Action.zoom
  dsimp only
  cases action () <;> rfl

namespace TpmState

theorem advance_time_frozen (s : TpmState) (millis : UInt64) : Frozen s (s.advanceTime millis).2 := by
  obtain ⟨clock, act, lockout, same⟩ := s.advance_time_changes millis
  rw [same]
  rfl

theorem reporting_of_parse (s : TpmState) (octets : Bytes) (locality : UInt8) (request : Request)
    (failing : s.failureMode = true) (checked : s.checkFailureMode octets = .ok ())
    (parsed : parse octets locality = .ok request) : Reporting request := by
  unfold checkFailureMode at checked
  simp only [failing, Bool.not_true, Bool.false_eq_true, if_false, bind_is_ok] at checked
  obtain ⟨header, read, checked⟩ := checked
  split at checked
  · cases checked
  next fine =>
    obtain ⟨allowed, tag⟩ := not_or.mp fine
    have bare : header.tag = St.noSessions := not_not.mp tag
    obtain ⟨code, tagged, found, sessions⟩ := parsed_bare octets locality request header parsed read (by
      rw [bare]
      decide)
    have allowed : allowedInFailureMode header.code = true := by simpa using allowed
    obtain ⟨authHandles, flushed⟩ := reports_alike _ _ allowed found
    refine ⟨code ▸ allowed, ?_, sessions, authHandles, flushed⟩
    rw [tagged, bare]
    decide

theorem run_guarded_failed (request : Request) (reporting : Reporting request) :
    Guarantees FailedKeeps (runGuarded request) := by
  intro s failing
  have same : final (runCommand request { s with commandAuditSuppressed := false }) =
      { s with commandAuditSuppressed := false } := by
    unfold runCommand
    cases named : handlerOf request.code with
    | none => rfl
    | some handler =>
        have query := List.all_eq_true.mp reporting_handlers_query _ (handler_mem _ _ named)
        simp only [reporting.code, Bool.not_true, Bool.false_or, decide_eq_true_eq] at query
        exact handler.keeps_run id request (fun action => query_keeps _ query action) _
  unfold runGuarded
  cases ran : runCommand request { s with commandAuditSuppressed := false } with
  | ok reply t =>
      rw [ran] at same
      cases same
      rfl
  | error e t =>
      rw [ran] at same
      cases same
      by_cases worst : e = Rc.failure
      · simp only [worst, if_true]
        exact failing_again s { s with
          commandAuditSuppressed := false
          selfTestDone := false
          testFailure := if s.testFailure.isNone then some "conditional self test" else s.testFailure } rfl failing
      · simp only [worst, if_false]
        rfl

theorem update_audit_failed (request : Request) (reporting : Reporting request) (names : List Bytes)
    (commandParameters responseParameters : Bytes) :
    Guarantees FailedKeeps (updateAudit request names commandParameters responseParameters) := by
  have unaudited : auditSessionIndex request = none := by
    unfold auditSessionIndex Request.position
    rw [reporting.sessions]
    rfl
  have silent : ∀ s : TpmState, s.failureMode = true → s.commandAuditApplies request.code = false := by
    intro s failing
    unfold commandAuditApplies
    simp [failing]
  intro s failing
  unfold updateAudit
  simp only [unaudited]
  by_cases keeps : keepsExclusiveAudit request.code = true
  · simp only [keeps, Bool.not_true, Bool.false_eq_true, if_false]
    rw [run_get_bind, silent s failing]
    rfl
  · simp only [keeps, Bool.not_false, if_true]
    have off := silent { s with audit := { s.audit with exclusiveSession := Rh.unassigned } } failing
    rw [run_modify_bind, run_get_bind, off]
    rfl

theorem respond_failed (request : Request) (reporting : Reporting request) (reply : Reply) (names : List Bytes)
    (contexts : List AuthContext) (commandParameters : Bytes) :
    Guarantees FailedKeeps (respond request reply names contexts commandParameters) := by
  have steady := failed_keeps_is_steady
  have closed : ∀ s, flushIfNeeded request (closeSessions request s) = s := by
    intro s
    unfold flushIfNeeded closeSessions
    rw [reporting.sessions, reporting.flushed]
    rfl
  have ended : ∀ area : Bytes × Bytes, Guarantees FailedKeeps (do
      modify fun s => flushIfNeeded request (closeSessions request s)
      pure (successResponse request.tag (responseBody request reply.handle area.1 area.2)) : TpmM Bytes) := by
    intro area
    refine guarantees_bind steady _ _ (guarantees_modify _ _ fun s _ => ?_) fun _ => guarantees_pure steady.refl _
    rw [closed]
    rfl
  unfold respond
  refine guarantees_ite _ _ _ _ (fun tagged => absurd tagged reporting.tag) fun _ => ?_
  refine guarantees_bind steady _ _ (guarantees_pure steady.refl _) fun nonces => ?_
  refine guarantees_get_bind _ _ fun s => ?_
  rw [run_get_bind]
  refine guarantees_lift_bind steady.refl _ _ (fun parameters _ => ?_) s
  refine guarantees_bind steady _ _ (update_audit_failed request reporting names _ _) fun _ => ?_
  refine guarantees_ite _ _ _ _ (fun tagged => absurd tagged reporting.tag) fun _ => ended (parameters, [])

theorem execute_request_failed (request : Request) (reporting : Reporting request) :
    Guarantees FailedKeeps (executeRequest request) := by
  have steady := failed_keeps_is_steady
  have nullified : ∀ s : TpmState, FailedKeeps s (nullifyShutdown request s) := by
    intro s _
    unfold nullifyShutdown
    split <;> rfl
  unfold executeRequest
  refine guarantees_get_bind _ _ fun s => ?_
  refine guarantees_lift_bind steady.refl _ _ (fun _ _ => ?_) s
  refine guarantees_bind steady _ _ (guarantees_modify _ _ nullified) fun _ => ?_
  refine guarantees_get_bind _ _ fun s => guarantees_lift_bind steady.refl _ _ (fun names _ => ?_) s
  refine guarantees_bind steady _ _ ?_ fun contexts => ?_
  · rw [reporting.authHandles]
    exact guarantees_pure steady.refl _
  refine guarantees_get_bind _ _ fun s => guarantees_lift_bind steady.refl _ _ (fun _ _ => ?_) s
  refine guarantees_get_bind _ _ fun s => guarantees_lift_bind steady.refl _ _ (fun _ _ => ?_) s
  refine guarantees_get_bind _ _ fun s => guarantees_lift_bind steady.refl _ _ (fun decrypted made => ?_) s
  obtain ⟨parameters, rfl⟩ := decrypt_parameters_only request s decrypted _ made
  have still : Reporting { request with parameters } :=
    ⟨reporting.code, reporting.tag, reporting.sessions, reporting.authHandles, reporting.flushed⟩
  refine guarantees_bind steady _ _ (run_guarded_failed _ still) fun reply => ?_
  refine guarantees_guard steady.refl _ _ _ _ fun _ => ?_
  refine guarantees_bind steady _ _ (respond_failed _ still reply names contexts _) fun octets => ?_
  exact guarantees_pure steady.refl _

theorem run_failed (s : TpmState) (failing : s.failureMode = true) (locality : UInt8) (octets : Bytes) :
    Frozen s (s.run locality octets).2 := by
  have ended : Frozen s (final (execute locality octets s)) := by
    unfold execute
    rw [run_get_bind]
    refine final_lift_bind (Frozen s) _ _ s rfl fun _ checked => ?_
    refine final_lift_bind (Frozen s) _ _ s rfl fun request parsed => ?_
    exact execute_request_failed request (s.reporting_of_parse octets locality request failing checked parsed) s failing
  unfold run
  cases ran : execute locality octets s with
  | ok executed t =>
      rw [ran] at ended
      exact ended
  | error e t =>
      rw [ran] at ended
      exact ended

theorem run_refuses (s : TpmState) (failing : s.failureMode = true) (locality : UInt8) (octets : Bytes)
    (header : CommandHeader) (read : parseHeader octets = .ok header)
    (other : ¬ (allowedInFailureMode header.code = true ∧ header.tag = St.noSessions)) :
    (s.run locality octets).1 = errorResponse Rc.failure := by
  have refused : s.checkFailureMode octets = .error Rc.failure := by
    unfold checkFailureMode
    simp only [failing, Bool.not_true, Bool.false_eq_true, if_false, read]
    show (if (!allowedInFailureMode header.code) = true ∨ header.tag ≠ St.noSessions then
      throw Rc.failure else pure () : TpmResult Unit) = _
    rw [if_pos]
    · rfl
    · by_contra fine
      obtain ⟨allowed, tag⟩ := not_or.mp fine
      exact other ⟨by simpa using allowed, not_not.mp tag⟩
  unfold run execute
  rw [run_get_bind, run_lift_bind, refused]

end TpmState

-- The signals that take a TPM's power or give it anew, and the one that measures into its PCR.
def Signal.upsets : Signal → Bool
  | .powerOn _ | .powerOff _ | .restart _ | .hashEnd => true
  | _ => false

namespace Tpm

open TpmState

structure Stays (t u : Tpm) : Prop where
  state : Frozen t.state u.state
  store : u.store = t.store ∨ Frozen t.state u.store

theorem Stays.trans {t u v : Tpm} (first : Stays t u) (second : Stays u v) : Stays t v where
  state := first.state.trans second.state
  store := by
    rcases second.store with same | frozen
    · rw [same]
      exact first.store
    · exact .inr (first.state.trans frozen)

theorem persist_stays (t : Tpm) (written : Bool) : Stays t (t.persist written).2 := by
  unfold persist
  split
  · exact ⟨rfl, .inl rfl⟩
  · exact ⟨rfl, .inr rfl⟩

theorem stays_with (t : Tpm) (s : TpmState) (frozen : Frozen t.state s) : Stays t { t with state := s } :=
  ⟨frozen, .inl rfl⟩

theorem closed_stays (t : Tpm) (failing : t.state.failureMode = true) : Stays t { t with state := t.state.closeNv } :=
  stays_with t _ (failing_again t.state { t.state with
    nvAvailable := false
    nvWriteFailed := true
    selfTestDone := false
    testFailure := some "nv write" } rfl failing)

theorem ran_failed (t : Tpm) (failing : t.state.failureMode = true) (elapsed : UInt64) (locality : UInt8)
    (command : Bytes) : Frozen t.state (t.ran elapsed locality command).2 := by
  have arrived : Frozen t.state (t.arrive elapsed).2 :=
    Frozen.trans (t := { t.state with hcrtmSequence := none }) rfl (advance_time_frozen _ elapsed)
  exact arrived.trans (run_failed _ (arrived.failing.trans failing) locality command)

theorem execute_stays (t : Tpm) (failing : t.state.failureMode = true) (elapsed : UInt64) (written : Bool)
    (locality : UInt8) (command : Bytes) : Stays t (t.execute elapsed written locality command).2 := by
  have ran := stays_with t _ (ran_failed t failing elapsed locality command)
  have failed : (t.ran elapsed locality command).2.failureMode = true := ran.state.failing.trans failing
  unfold execute
  split
  · exact ⟨rfl, .inl rfl⟩
  · dsimp only
    split
    · have kept := persist_stays { t with state := (t.ran elapsed locality command).2 } written
      split
      next u done =>
        rw [done] at kept
        exact ran.trans kept
      next u done =>
        rw [done] at kept
        exact (ran.trans kept).trans (closed_stays u (kept.state.failing.trans failed))
    · exact ran

theorem quiet_signal_stays (t : Tpm) (failing : t.state.failureMode = true) (signal : Signal)
    (quiet : signal.upsets = false) : Stays t (t.after signal) := by
  cases signal with
  | execute elapsed written locality command => exact execute_stays t failing elapsed written locality command
  | powerOn fresh => cases quiet
  | powerOff written => cases quiet
  | restart fresh => cases quiet
  | hashEnd => cases quiet
  | nv available => exact stays_with t _ rfl
  | physicalPresence asserted => exact stays_with t _ rfl
  | hashStart => exact stays_with t _ rfl
  | hashData data => exact stays_with t _ rfl
  | actGetSignaled act elapsed written =>
      exact holds_after_poll (Stays t) t act elapsed written (fun millis => stays_with t _ (advance_time_frozen t.state millis))
        fun u stays => stays.trans (persist_stays u written)

theorem answers_failure (t : Tpm) (failing : t.state.failureMode = true) (elapsed : UInt64) (written : Bool)
    (locality : UInt8) (command : Bytes) (header : CommandHeader) (read : parseHeader command = .ok header)
    (other : ¬ (allowedInFailureMode header.code = true ∧ header.tag = St.noSessions)) :
    (t.execute elapsed written locality command).1 ∈
      [errorResponse Rc.failure, errorResponse Rc.nvUnavailable, errorResponse Rc.notInitialized] := by
  have arrived : Frozen t.state (t.arrive elapsed).2 :=
    Frozen.trans (t := { t.state with hcrtmSequence := none }) rfl (advance_time_frozen _ elapsed)
  have refused : (t.ran elapsed locality command).1 = errorResponse Rc.failure :=
    run_refuses _ (arrived.failing.trans failing) locality command header read other
  unfold execute
  split
  · simp
  · dsimp only
    rw [refused]
    split
    · split
      · simp
      · split <;> simp
    · simp

-- Until it is powered anew, a TPM in failure mode stays in it, whatever it is sent: memory, objects, sessions, registers,
-- seeds and authorizations are what they were, in the TPM and in what is stored of it, and a command that does not ask
-- for the failure is answered with an error.
theorem failed_tpm_frozen (t : Tpm) (failing : t.state.failureMode = true) (signals : List Signal)
    (quiet : ∀ signal ∈ signals, signal.upsets = false) :
    (t.afterAll signals).state.failureMode = true ∧ Stays t (t.afterAll signals) ∧
    ∀ elapsed written locality command header, parseHeader command = .ok header →
      ¬ (allowedInFailureMode header.code = true ∧ header.tag = St.noSessions) →
      ((t.afterAll signals).execute elapsed written locality command).1 ∈
        [errorResponse Rc.failure, errorResponse Rc.nvUnavailable, errorResponse Rc.notInitialized] := by
  have stays : Stays t (t.afterAll signals) := by
    induction signals generalizing t with
    | nil => exact ⟨rfl, .inl rfl⟩
    | cons signal rest ih =>
        have first := quiet_signal_stays t failing signal (quiet signal List.mem_cons_self)
        exact first.trans (ih _ (first.state.failing.trans failing) fun other member =>
          quiet other (List.mem_cons_of_mem signal member))
  have still : (t.afterAll signals).state.failureMode = true := stays.state.failing.trans failing
  exact ⟨still, stays, fun elapsed written locality command header read other =>
    answers_failure _ still elapsed written locality command header read other⟩

end Tpm

end

namespace Toy

-- A TPM that cannot write its shutdown down, and what it is asked after that.
def unwritten (s : TpmState) : Tpm :=
  (Tpm.manufactured s).afterAll (startedWith [] ++ [.execute 0 false 0 (plainCommand Cc.shutdown [] (be16 Su.clear))])

def asked : List Signal :=
  sent [createSealed Rh.owner, plainCommand Cc.getRandom [] (be16 8), plainCommand Cc.getTestResult [] []]

theorem unwritten_frozen : ∃ s, (unwritten s).state.nvWriteFailed = true ∧ (unwritten s).state.failureMode = true ∧
    Tpm.Stays (unwritten s) ((unwritten s).afterAll asked) := by
  have tested : found (TpmState.manufacture (List.replicate 48 7)) (fun s =>
      (unwritten s).state.nvWriteFailed && (unwritten s).state.failureMode) = true := by
    rw [manufacture_made]
    decide +kernel
  obtain ⟨s, -, tested⟩ := ok_of_found _ _ tested
  obtain ⟨closed, failing⟩ := Bool.and_eq_true_iff.mp tested
  exact ⟨s, closed, failing, ((unwritten s).failed_tpm_frozen failing asked (by simp [asked, sent, Signal.upsets])).2.1⟩

end Toy

end Swtrust
