import Swtrust.Session.Answered
import Swtrust.Pin.Durable
import Swtrust.Authorization.Binding

set_option autoImplicit false
set_option linter.unusedSectionVars false

namespace Swtrust

open Library Action

namespace SessionSlots

theorem contains_flush_first (slots : SessionSlots) (candidates : List UInt32) (handle : UInt32)
    (held : slots.contains handle = true) (other : (slots.flushFirst candidates).1 ≠ .ok handle) :
    (slots.flushFirst candidates).2.contains handle = true := by
  induction candidates generalizing slots with
  | nil => exact held
  | cons candidate rest ih =>
      unfold flushFirst at other ⊢
      have apart : handle ≠ candidate ∨ slots.contains candidate = false := by
        by_cases same : handle = candidate
        · subst same
          change slots.contains handle = true at held
          exfalso
          have present : (slots.sessions.contains handle || slots.saved.contains handle) = true := held
          simp only [present, if_true] at other
          exact other rfl
        · exact .inl same
      have kept : (slots.remove candidate).contains handle = true := by
        rcases apart with apart | absent
        · rw [contains_remove_other _ _ _ apart]
          exact held
        · have apart : handle ≠ candidate := by
            rintro rfl
            rw [held] at absent
            cases absent
          rw [contains_remove_other _ _ _ apart]
          exact held
      dsimp only at other ⊢
      split
      · exact kept
      next absent =>
        rw [if_neg absent] at other
        exact ih (slots.remove candidate) kept other

theorem contains_insert_session (slots next : SessionSlots) (session : Session) (inserted : slots.insert session = .ok next)
    (handle : UInt32) (held : slots.contains handle = true) : next.contains handle = true := by
  obtain ⟨_, _, _, _, rfl⟩ := (slots.insert_is_ok next session).mp inserted
  by_cases same : handle = session.handle
  · simp [contains, SortedMap.contains, same]
  · simpa [contains, SortedMap.contains, SortedMap.get_insert_other _ _ _ _ same] using held

theorem contains_save (slots next : SessionSlots) (saved : UInt32) (session : Session) (id : UInt64)
    (ran : slots.save saved = .ok ((session, id), next)) (handle : UInt32) (held : slots.contains handle = true) :
    next.contains handle = true := by
  obtain ⟨_, _, rfl⟩ := (slots.save_is_ok next saved session id).mp ran
  by_cases same : handle = saved
  · simp [contains, SortedMap.contains, same]
  · simpa [contains, SortedMap.contains, SortedMap.get_insert_other _ _ _ _ same,
      SortedMap.get_erase_other _ _ _ same] using held

theorem contains_restore (slots next : SessionSlots) (session : Session) (version : UInt64)
    (ran : slots.restore session version = .ok next) (handle : UInt32) (held : slots.contains handle = true) :
    next.contains handle = true := by
  obtain ⟨_, _, rfl⟩ := (slots.restore_is_ok next session version).mp ran
  by_cases same : handle = session.handle
  · simp [contains, SortedMap.contains, same]
  · simpa [contains, SortedMap.contains, SortedMap.get_insert_other _ _ _ _ same,
      SortedMap.get_erase_other _ _ _ same] using held

-- A session that is not loaded outlives the loss of those that are.
theorem contains_flush_loaded (slots : SessionSlots) (handle : UInt32) (held : slots.contains handle = true)
    (away : slots.sessions.contains handle = false) : slots.flushLoaded.contains handle = true := by
  simp only [contains, away, Bool.false_or] at held
  simp [contains, flushLoaded, held]

end SessionSlots

section

variable [Primitives]

-- A move keeps the exclusive session, or takes its exclusivity away.
theorem move_exclusive (code : UInt32) (before after : Holding) (move : Move code before after)
    (away : code = Cc.startup → before.slots.sessions.contains before.exclusive = false) :
    after.exclusive = Rh.unassigned ∨ after.exclusive = before.exclusive ∧
      (before.slots.contains before.exclusive = true → after.slots.contains before.exclusive = true) := by
  cases move with
  | same after still exclusive =>
      refine .inr ⟨exclusive, fun held => ?_⟩
      rw [SessionSlots.contains_of_shape _ _ (congrArg Prod.fst still)]
      exact held
  | start coded sessionType handle session slots typed allocated kind sized admitted inserted =>
      exact .inr ⟨rfl, SessionSlots.contains_insert_session _ _ _ inserted _⟩
  | save coded handle session id slots available ranged saved =>
      exact .inr ⟨rfl, SessionSlots.contains_save _ _ _ _ _ saved _⟩
  | count coded available => exact .inr ⟨rfl, id⟩
  | load coded context session slots viable ranged named body read restored =>
      exact .inr ⟨rfl, SessionSlots.contains_restore _ _ _ _ restored _⟩
  | flush coded handle exclusive left =>
      rcases left with none | ⟨same, other⟩
      · exact .inl none
      · exact .inr ⟨same, fun held => SessionSlots.contains_flush_first _ _ _ held other⟩
  | clear coded => exact .inl rfl
  | flushLoaded coded => exact .inr ⟨rfl, fun held => SessionSlots.contains_flush_loaded _ _ held (away coded)⟩

-- A command that may have sessions takes none of those there are.
theorem move_contains (code : UInt32) (before after : Holding) (move : Move code before after)
    (sessions : requiresNoSessions code = false) (handle : UInt32) (held : before.slots.contains handle = true) :
    after.slots.contains handle = true := by
  cases move with
  | same after still exclusive =>
      rw [SessionSlots.contains_of_shape _ _ (congrArg Prod.fst still)]
      exact held
  | start coded sessionType handle' session slots typed allocated kind sized admitted inserted =>
      exact SessionSlots.contains_insert_session _ _ _ inserted _ held
  | save coded | count coded | load coded | flush coded | clear coded | flushLoaded coded =>
      rw [coded] at sessions
      cases sessions

-- The nonces of the sessions in memory go into a response.
def SessionSlots.noncesFit (slots : SessionSlots) : Bool :=
  slots.sessions.values.all fun session => decide (session.nonceTpm.length ≤ Config.maxDigestSize)

theorem SessionSlots.short_of_fit (slots : SessionSlots) (fit : slots.noncesFit = true) (handle : UInt32)
    (make : Session.Make) (found : slots.makes.get handle = some make) : make.nonceSize ≤ Config.maxDigestSize := by
  unfold makes at found
  rw [SortedMap.get_map_values] at found
  obtain ⟨session, held, rfl⟩ := Option.map_eq_some_iff.mp found
  have member := (SortedMap.mem_values_iff slots.sessions session).mpr ⟨handle, held⟩
  exact of_decide_eq_true (List.all_eq_true.mp fit session member)

-- So they do after a command that may have sessions, since it loads none.
theorem move_short (code : UInt32) (before after : Holding) (move : Move code before after)
    (sessions : requiresNoSessions code = false) (fit : before.slots.noncesFit = true) (handle : UInt32)
    (make : Session.Make) (found : after.slots.makes.get handle = some make) : make.nonceSize ≤ Config.maxDigestSize := by
  have short := before.slots.short_of_fit fit
  cases move with
  | same after still exclusive =>
      rw [show after.slots.makes = before.slots.makes from congrArg Prod.snd still] at found
      exact short handle make found
  | start coded sessionType handle' session slots typed allocated kind sized admitted inserted =>
      obtain ⟨_, _, _, _, rfl⟩ := (before.slots.insert_is_ok slots session).mp inserted
      unfold SessionSlots.makes at found
      rw [SortedMap.map_values_insert, SortedMap.get_insert] at found
      split at found
      · obtain rfl := Option.some.inj found
        exact digest_size_le _ _ sized
      · exact short handle make found
  | save coded | count coded | load coded | flush coded | clear coded | flushLoaded coded =>
      rw [coded] at sessions
      cases sessions

namespace TpmState

-- What becomes of the exclusive session: it goes, or it stays and has audited a command that succeeded unless that one
-- leaves it alone, or a command succeeded and the session that audited it takes its place.
structure Passes (request : Request) (succeeded : Prop) (s t : TpmState) : Prop where
  exclusive : t.audit.exclusiveSession = Rh.unassigned ∨
    (t.audit.exclusiveSession = s.audit.exclusiveSession ∧
      (s.sessions.contains s.audit.exclusiveSession = true → t.sessions.contains s.audit.exclusiveSession = true) ∧
      (succeeded → keepsExclusiveAudit request.code = true ∨ auditorOf request = some s.audit.exclusiveSession)) ∨
    (succeeded ∧ auditorOf request = some t.audit.exclusiveSession ∧ t.sessions.contains t.audit.exclusiveSession = true)

theorem passes_of_move (request : Request) (s t : TpmState) (move : Move request.code s.holding t.holding)
    (away : request.code = Cc.startup → s.sessions.sessions.contains s.audit.exclusiveSession = false) :
    Passes request False s t := by
  rcases move_exclusive _ _ _ move away with none | ⟨same, kept⟩
  · exact ⟨.inl none⟩
  · exact ⟨.inr (.inl ⟨same, kept, False.elim⟩)⟩

-- The session that audits a command that succeeded is exclusive, or none is; without one the command leaves the exclusive
-- session alone.
theorem passes_of_answers (request : Request) (s t u : TpmState) (move : Move request.code s.holding t.holding)
    (away : request.code = Cc.startup → s.sessions.sessions.contains s.audit.exclusiveSession = false)
    (present : ∀ handle, auditorOf request = some handle → t.sessions.contains handle = true)
    (answers : Answers request t u) (ended : u.audit.exclusiveSession = Rh.unassigned ∨
      u.audit.exclusiveSession = exclusiveAfter request t.audit.exclusiveSession) : Passes request True s u := by
  rcases answers.exclusive with none | ⟨_, stays⟩
  · exact ⟨.inl none⟩
  rcases ended with none | handed
  · exact ⟨.inl none⟩
  unfold exclusiveAfter at handed
  cases auditor : auditorOf request with
  | some handle =>
      rw [auditor] at handed
      dsimp only at handed
      rw [← handed] at auditor
      exact ⟨.inr (.inr ⟨trivial, auditor, stays (present _ auditor)⟩)⟩
  | none =>
      rw [auditor] at handed
      dsimp only at handed
      split at handed
      next spares =>
        rcases move_exclusive _ _ _ move away with gone | ⟨still, kept⟩
        · exact ⟨.inl (handed.trans gone)⟩
        · have back : u.audit.exclusiveSession = s.audit.exclusiveSession := handed.trans still
          rw [back] at stays
          exact ⟨.inr (.inl ⟨back, fun held => stays (kept held), fun _ => .inl spares⟩)⟩
      next => exact ⟨.inl handed⟩

-- A command that fails in its response leaves the exclusive session as its handler left it. One that may have no sessions
-- has no auditor, and at most takes the exclusivity away; any other has not come to its audit.
theorem passes_of_failure (request : Request) (s t u : TpmState) (move : Move request.code s.holding t.holding)
    (away : request.code = Cc.startup → s.sessions.sessions.contains s.audit.exclusiveSession = false)
    (barred : requiresNoSessions request.code = true → auditorOf request = none)
    (answers : Answers request t u) (stopped : requiresNoSessions request.code = false → u.outline = t.outline) :
    Passes request False s u := by
  have settled : u.audit.exclusiveSession = Rh.unassigned ∨ u.audit.exclusiveSession = t.audit.exclusiveSession := by
    cases sessions : requiresNoSessions request.code with
    | false => exact .inr (congrArg Prod.snd (stopped sessions))
    | true =>
        rcases answers.exclusive with none | ⟨same | handed, _⟩
        · exact .inl none
        · exact .inr same
        · unfold exclusiveAfter at handed
          rw [barred sessions] at handed
          dsimp only at handed
          split at handed
          next => exact .inr handed
          next => exact .inl handed
  rcases settled with none | same
  · exact ⟨.inl none⟩
  rcases answers.exclusive with none | ⟨_, stays⟩
  · exact ⟨.inl none⟩
  rcases move_exclusive _ _ _ move away with gone | ⟨still, kept⟩
  · exact ⟨.inl (same.trans gone)⟩
  · have back : u.audit.exclusiveSession = s.audit.exclusiveSession := same.trans still
    rw [back] at stays
    exact ⟨.inr (.inl ⟨back, fun held => stays (kept held), False.elim⟩)⟩

theorem audit_session_present (s : TpmState) (request : Request) (checked : s.checkAuditSession request = .ok ())
    (handle : UInt32) (audits : auditorOf request = some handle) : s.sessions.contains handle = true := by
  unfold auditorOf at audits
  cases audited : auditSessionIndex request with
  | none =>
      rw [audited] at audits
      cases audits
  | some index =>
      rw [audited] at audits
      simp only [checkAuditSession, audited, bind_is_ok] at checked
      obtain ⟨input, named, session, held, _⟩ := checked
      have same : input.handle = handle := by
        unfold Request.sessionAt at named
        split at named
        next here =>
          obtain rfl := Except.ok.inj named
          simpa [here] using audits
        next => cases named
      rw [same, SessionSlots.get_is_ok] at held
      simp [SessionSlots.contains, SortedMap.contains, held]

theorem auditor_absent (request : Request) (empty : request.sessions = []) : auditorOf request = none := by
  unfold auditorOf
  cases auditSessionIndex request with
  | none => rfl
  | some index => simp [empty]

theorem run_guarded_moves (request : Request) (s : TpmState) :
    Ensures (fun t => t = s) (runGuarded request) (fun _ t => Move request.code s.holding t.holding)
      (fun t => Move request.code s.holding t.holding) := by
  intro t same
  rw [same]
  have moved := run_command_moves request { s with commandAuditSuppressed := false }
  unfold runGuarded
  cases ran : runCommand request { s with commandAuditSuppressed := false } with
  | ok reply t =>
      rw [ran] at moved
      exact moved
  | error e t =>
      rw [ran] at moved
      dsimp only
      split
      · exact moved
      · exact moved

theorem run_guarded_ready (request : Request) :
    Guarantees (fun s t => Ready s.footing → Ready t.footing) (runGuarded request) := by
  apply guarantees_run_guarded _ (surviving_undisturbed Ready ready_survives)
  exact ready_survives.commands request

-- What the part of a command after its authorization does to the exclusive session.
theorem after_authorization_passes (request : Request) (names : List Bytes) (contexts : List AuthContext) (s : TpmState)
    (ready : Ready s.footing) (fit : s.sessions.noncesFit = true)
    (barred : requiresNoSessions request.code = true → request.sessions = [])
    (away : request.code = Cc.startup → s.sessions.sessions.contains s.audit.exclusiveSession = false) :
    Ensures (fun t => t = s) (afterAuthorization request names contexts)
      (fun executed t => Passes request True s t ∧ ∃ parameters, executed.request = { request with parameters })
      (fun t => Passes request False s t) := by
  have stays : Passes request False s s := ⟨.inr (.inl ⟨rfl, id, False.elim⟩)⟩
  unfold afterAuthorization
  refine ensures_get_bind _ _ _ _ fun t same => ?_
  subst same
  refine ensures_lift_bind _ _ t _ _ stays fun _ _ => ensures_get_bind _ _ _ _ fun u same => ?_
  subst same
  refine ensures_lift_bind _ _ u _ _ stays fun _ checked => ensures_get_bind _ _ _ _ fun s same => ?_
  subst same
  refine ensures_lift_bind _ _ s _ _ stays fun decrypted made => ?_
  obtain ⟨parameters, rfl⟩ := decrypt_parameters_only request s decrypted _ made
  have audits := s.audit_session_present request checked
  have silent := fun none => auditor_absent request (barred none)
  refine ensures_bind _ _ _ (fun _ t => Move request.code s.holding t.holding ∧ Ready t.footing) _ _ ?_ fun reply => ?_
  · intro t same
    rw [same]
    have moved := run_guarded_moves { request with parameters } s s rfl
    have still := run_guarded_ready { request with parameters } s ready
    cases ran : runGuarded { request with parameters } s with
    | ok reply t =>
        rw [ran] at moved still
        exact ⟨moved, still⟩
    | error e t =>
        rw [ran] at moved
        exact passes_of_move request s t moved away
  · refine ensures_guard _ _ _ _ _ _ _ (fun t left => passes_of_move request s t left.1 away) fun _ => ?_
    rintro t ⟨move, computes⟩
    have present : ∀ handle, auditorOf request = some handle → t.sessions.contains handle = true := by
      intro handle auditor
      have sessions : requiresNoSessions request.code = false := by
        rw [Bool.eq_false_iff]
        intro none
        rw [silent none] at auditor
        cases auditor
      exact move_contains _ _ _ move sessions handle (audits handle auditor)
    have answered := respond_answers { request with parameters } reply names contexts request.parameters t t rfl
    have stopped := fun answerable =>
      respond_stops { request with parameters } reply names contexts request.parameters t answerable t rfl
    refine ensures_bind (fun u => u = t) _ _ (fun _ u => Passes request True s u) _ _ ?_ (fun _ =>
      ensures_pure _ _ _ _ fun _ passes => ⟨passes, parameters, rfl⟩) t rfl
    intro u same
    rw [same]
    cases ran : respond { request with parameters } reply names contexts request.parameters t with
    | ok octets u =>
        rw [ran] at answered
        exact passes_of_answers request s t u move away present ⟨answered.1.1, answered.1.2⟩ answered.2
    | error e u =>
        rw [ran] at answered stopped
        refine passes_of_failure request s t u move away silent ⟨answered.1, answered.2⟩ fun sessions => ?_
        exact stopped ⟨computes, move_short _ _ _ move sessions fit⟩

-- The request of a command that succeeds.
def executedRequest (s : TpmState) : Event → Option Request
  | .command locality octets =>
    match execute locality octets { s with hcrtmSequence := none } with
    | .ok executed _ => some executed.request
    | .error _ _ => none
  | _ => none

-- A command that succeeds is one that leaves the exclusive session alone, or audited by the session.
def AuditedBy (handle : UInt32) (s : TpmState) (event : Event) : Prop :=
  ∀ request, s.executedRequest event = some request →
    keepsExclusiveAudit request.code = true ∨ auditorOf request = some handle

-- The events that lose the sessions in memory: power events, and a command before the startup.
def losesLoaded (s : TpmState) : Event → Bool
  | .powerOn | .powerOff => true
  | .command _ _ => !s.started
  | _ => false

-- No exclusive session is in memory when an event loses the sessions there, and no session in memory has a nonce that is
-- longer than a digest: none has that the TPM started, but a context that it did not save may bring one.
def KeepsExclusive (s : TpmState) (event : Event) : Prop :=
  (s.losesLoaded event = true → s.sessions.sessions.contains s.audit.exclusiveSession = false) ∧
    s.sessions.noncesFit = true

instance (s : TpmState) (event : Event) : Decidable (s.KeepsExclusive event) :=
  inferInstanceAs (Decidable ((_ → _) ∧ _))

-- A command that the session audits succeeds, and makes the session exclusive.
structure MadeExclusive (handle : UInt32) (s : TpmState) (event : Event) : Prop where
  audited : ∃ request, s.executedRequest event = some request ∧ auditorOf request = some handle
  before : s.audit.exclusiveSession ≠ handle
  after : (s.after event).audit.exclusiveSession = handle

theorem command_exclusive (s : TpmState) (locality : UInt8) (octets : Bytes) (request : Request) (names : List Bytes)
    (prepared : s.prepare locality octets = .ok (request, names)) (t : TpmState) (same : t.holding = s.holding)
    (kept : s.started = false → s.sessions.sessions.contains s.audit.exclusiveSession = false) :
    (requiresNoSessions request.code = true → request.sessions = []) ∧
      (request.code = Cc.startup → t.sessions.sessions.contains t.audit.exclusiveSession = false) := by
  obtain ⟨_, parsed, started, _⟩ := (s.prepare_is_ok locality octets request names).mp prepared
  refine ⟨parsed_no_sessions octets locality request parsed, fun code => ?_⟩
  have waiting : s.started = false := by
    cases begun : s.started with
    | false => rfl
    | true =>
        simp only [checkStarted, guarded_then_is_ok, guarded_is_ok] at started
        exact absurd ⟨begun, code⟩ started.2.2.1
  have sessions : t.sessions = s.sessions := congrArg Holding.slots same
  have exclusive : t.audit.exclusiveSession = s.audit.exclusiveSession := congrArg Holding.exclusive same
  rw [sessions, exclusive]
  exact kept waiting

-- The sessions and the audit, which the authorization of a command leaves as they are.
def seat (s : TpmState) : SessionSlots × AuditState := (s.sessions, s.audit)

theorem holding_of_seat (s t : TpmState) (same : t.seat = s.seat) : t.holding = s.holding :=
  congrArg (fun seat : SessionSlots × AuditState => Holding.mk seat.1 seat.2.exclusiveSession) same

theorem footing_of_seat (s t : TpmState) (same : t.seat = s.seat) : t.footing = s.footing :=
  congrArg (fun seat : SessionSlots × AuditState => (seat.1.still, seat.2.alg)) same

theorem nullify_shutdown_seat (request : Request) (s : TpmState) : (nullifyShutdown request s).seat = s.seat := by
  obtain ⟨_, _, same⟩ := nullify_shutdown_changes request s
  rw [same]
  rfl

theorem authorize_from_seat (request : Request) (names : List Bytes) (s : TpmState) :
    (final (authorizeFrom request names request.info.authHandles 0 (nullifyShutdown request s))).seat = s.seat := by
  obtain ⟨_, _, same⟩ := same_outside_guards _ _
    (keeps_authorize_from request names request.info.authHandles 0 (nullifyShutdown request s))
  rw [same]
  exact nullify_shutdown_seat request s

-- The exclusive session after an event: none, or the one before, that has audited what succeeded, or a new one.
def Hands (s : TpmState) (event : Event) : Prop :=
  (s.after event).audit.exclusiveSession = Rh.unassigned ∨
  ((s.after event).audit.exclusiveSession = s.audit.exclusiveSession ∧
    (s.sessions.contains s.audit.exclusiveSession = true →
      (s.after event).sessions.contains s.audit.exclusiveSession = true) ∧
    AuditedBy s.audit.exclusiveSession s event) ∨
  (MadeExclusive (s.after event).audit.exclusiveSession s event ∧
    (s.after event).sessions.contains (s.after event).audit.exclusiveSession = true)

theorem hands_of_same (s t : TpmState) (event : Event) (ended : s.after event = t) (same : t.holding = s.holding)
    (idle : s.executedRequest event = none) : s.Hands event := by
  have sessions : t.sessions = s.sessions := congrArg Holding.slots same
  refine .inr (.inl ⟨ended ▸ congrArg Holding.exclusive same, fun held => ?_, fun request executed => ?_⟩)
  · rw [ended, sessions]
    exact held
  · rw [idle] at executed
    cases executed

theorem hands_of_flushed (s t : TpmState) (event : Event) (ended : s.after event = t)
    (sessions : t.sessions = s.sessions.flushLoaded) (audit : t.audit = s.audit)
    (idle : s.executedRequest event = none)
    (away : s.sessions.sessions.contains s.audit.exclusiveSession = false) : s.Hands event := by
  refine .inr (.inl ⟨by rw [ended, audit], fun held => ?_, fun request executed => ?_⟩)
  · rw [ended, sessions]
    exact SessionSlots.contains_flush_loaded _ _ held away
  · rw [idle] at executed
    cases executed

theorem command_hands (s : TpmState) (locality : UInt8) (octets : Bytes) (ready : Ready s.footing)
    (fit : s.sessions.noncesFit = true)
    (kept : s.started = false → s.sessions.sessions.contains s.audit.exclusiveSession = false) :
    s.Hands (.command locality octets) := by
  let received : TpmState := { s with hcrtmSequence := none }
  let event : Event := .command locality octets
  -- A command that comes as far as its handler.
  have passing : ∀ (request : Request) (succeeded : Prop) (t : TpmState), t.seat = received.seat →
      Passes request succeeded t (s.after event) →
      (∃ parameters, succeeded ∧ s.executedRequest event = some { request with parameters }) ∨
        (¬ succeeded ∧ s.executedRequest event = none) → s.Hands event := by
    intro request succeeded t same passes outcome
    have sessions : t.sessions = s.sessions := congrArg Prod.fst same
    have exclusive : t.audit.exclusiveSession = s.audit.exclusiveSession :=
      congrArg (fun seat : SessionSlots × AuditState => seat.2.exclusiveSession) same
    have audited : ∀ handle, (succeeded → keepsExclusiveAudit request.code = true ∨ auditorOf request = some handle) →
        AuditedBy handle s event := by
      intro handle spared given executed
      rcases outcome with ⟨parameters, ended, found⟩ | ⟨_, idle⟩
      · rw [found] at executed
        obtain rfl := Option.some.inj executed
        exact spared ended
      · rw [idle] at executed
        cases executed
    rcases passes.exclusive with gone | ⟨still, stays, spared⟩ | ⟨ended, audits, present⟩
    · exact .inl gone
    · rw [sessions, exclusive] at stays
      rw [exclusive] at still spared
      exact .inr (.inl ⟨still, stays, audited _ spared⟩)
    · by_cases still : (s.after event).audit.exclusiveSession = s.audit.exclusiveSession
      · rw [still] at audits present
        exact .inr (.inl ⟨still, fun _ => present, audited _ fun _ => .inr audits⟩)
      · rcases outcome with ⟨parameters, _, found⟩ | ⟨failed, _⟩
        · exact .inr (.inr ⟨⟨⟨_, found, audits⟩, Ne.symm still, rfl⟩, present⟩)
        · exact absurd ended failed
  have guarded : ∀ request names, received.prepare locality octets = .ok (request, names) →
      ∀ t : TpmState, t.seat = received.seat →
        (requiresNoSessions request.code = true → request.sessions = []) ∧
          (request.code = Cc.startup → t.sessions.sessions.contains t.audit.exclusiveSession = false) :=
    fun request names prepared t same => command_exclusive received locality octets request names prepared t
      (holding_of_seat received t same) kept
  have passes : ∀ request names contexts, received.prepare locality octets = .ok (request, names) →
      ∀ t : TpmState, t.seat = received.seat → Ensures (fun u => u = t) (afterAuthorization request names contexts)
        (fun executed u => Passes request True t u ∧ ∃ parameters, executed.request = { request with parameters })
        (fun u => Passes request False t u) := by
    intro request names contexts prepared t same
    obtain ⟨barred, away⟩ := guarded request names prepared t same
    have held : t.sessions = s.sessions := congrArg Prod.fst same
    exact after_authorization_passes request names contexts t (footing_of_seat received t same ▸ ready)
      (by rw [held]; exact fit) barred away
  cases ran : execute locality octets received with
  | ok executed u =>
      have ended : s.after event = u := by
        change (run locality octets received).2 = u
        unfold run
        rw [ran]
      have chosen : s.executedRequest event = some executed.request := by
        change (match execute locality octets received with
          | .ok executed _ => some executed.request
          | .error _ _ => none) = _
        rw [ran]
      obtain ⟨request, names, contexts, t, prepared, authorized, rest⟩ := execute_is_ok locality octets received u executed ran
      have same := authorize_from_seat request names received
      rw [authorized] at same
      obtain ⟨passed, parameters, given⟩ := ensures_of_succeeds _ _ _ _ t u executed
        (passes request names contexts prepared t same) rfl rest
      rw [← ended] at passed
      exact passing request True t same passed (.inl ⟨parameters, trivial, chosen.trans (congrArg some given)⟩)
  | error e u =>
      have ended : s.after event = u := by
        change (run locality octets received).2 = u
        unfold run
        rw [ran]
      have idle : s.executedRequest event = none := by
        change (match execute locality octets received with
          | .ok executed _ => some executed.request
          | .error _ _ => none) = _
        rw [ran]
      have resting : (s.after event).seat = s.seat → s.Hands event :=
        fun same => hands_of_same s _ _ rfl (holding_of_seat s _ same) idle
      have course := received.run_course locality octets
      change Course received locality octets (s.after event) at course
      cases course with
      | unprepared e stopped same =>
          rcases same with same | ⟨request, _, same⟩
          · exact resting (by rw [same]; rfl)
          · exact resting (by rw [same]; exact nullify_shutdown_seat request received)
      | unauthorized request names prepared e ran =>
          have same := authorize_from_seat request names received
          rw [ran] at same
          exact resting same
      | authorized request names prepared contexts t authorized _ =>
          have same := authorize_from_seat request names received
          rw [authorized] at same
          have passed := passes request names contexts prepared t same t rfl
          rw [← execute_authorized locality octets received request names prepared contexts t authorized, ran] at passed
          rw [← ended] at passed
          exact passing request False t same passed (.inr ⟨id, idle⟩)

theorem event_hands (s : TpmState) (event : Event) (ready : Ready s.footing) (keeps : s.KeepsExclusive event) :
    s.Hands event := by
  obtain ⟨kept, fit⟩ := keeps
  cases event with
  | elapse millis =>
      obtain ⟨_, _, _, same⟩ := s.advance_time_changes millis
      exact hands_of_same s _ _ rfl (by change (s.advanceTime millis).2.holding = _; rw [same]; rfl) rfl
  | powerOn =>
      obtain ⟨_, _, _, _, _, _, _, _, _, _, same⟩ := s.power_on_changes
      exact hands_of_flushed s s.powerOn _ rfl (by rw [same]) (by rw [same]) rfl (kept rfl)
  | powerOff => exact hands_of_flushed s s.powerOff _ rfl rfl rfl rfl (kept rfl)
  | hashEnd =>
      obtain ⟨_, _, _, _, same⟩ := s.hash_end_changes
      exact hands_of_same s s.hashEnd _ rfl (by rw [same]; rfl) rfl
  | nv available => exact hands_of_same s { s with nvAvailable := available } _ rfl rfl rfl
  | physicalPresence asserted => exact hands_of_same s { s with physicalPresence := asserted } _ rfl rfl rfl
  | hashStart => exact hands_of_same s s.hashStart _ rfl rfl rfl
  | hashData data => exact hands_of_same s (s.hashData data) _ rfl rfl rfl
  | command locality octets =>
      exact command_hands s locality octets ready fit fun waiting => kept (by simp [losesLoaded, waiting])

-- The exclusive session was made so by a command that it audited and that succeeded, has been there ever since, and has
-- audited every command since then that succeeded and does not leave the exclusive session alone.
theorem exclusive_audit_session (s : TpmState) (none : s.audit.exclusiveSession = Rh.unassigned) (ready : Ready s.footing)
    (events : List Event) (kept : s.EveryEvent KeepsExclusive events) (exclusive : UInt32)
    (named : (s.afterAll events).audit.exclusiveSession = exclusive) :
    exclusive = Rh.unassigned ∨ ∃ before made since, events = before ++ made :: since ∧
      MadeExclusive exclusive (s.afterAll before) made ∧
      Throughout after (AuditedBy exclusive) (fun t => t.sessions.contains exclusive = true)
        (s.afterAll (before ++ [made])) since := by
  subst named
  induction events using List.reverseRecOn with
  | nil => exact .inl none
  | append_singleton earlier event ih =>
      obtain ⟨first, here⟩ := every_split after KeepsExclusive s earlier [] event kept
      have computes := invariant_of_every after KeepsExclusive (fun t : TpmState => Ready t.footing)
        (fun t event _ => event_ready t event) s earlier first ready
      rw [after_all_concat]
      rcases event_hands (s.afterAll earlier) event computes here with gone | ⟨same, stays, audited⟩ | ⟨makes, present⟩
      · exact .inl gone
      · rw [same]
        rcases ih first with gone | ⟨before, made, since, rfl, makes, run⟩
        · exact .inl gone
        · refine .inr ⟨before, made, since ++ [event], by simp, makes, ?_⟩
          have reached : (s.afterAll (before ++ [made])).afterAll since = s.afterAll (before ++ made :: since) := by
            rw [← after_all_append]
            simp
          refine throughout_concat _ _ _ _ _ _ run ?_ ?_
          · change AuditedBy _ ((s.afterAll (before ++ [made])).afterAll since) event
            rw [reached]
            exact audited
          · have last := throughout_last _ _ _ _ _ run
            change ((s.afterAll (before ++ [made])).afterAll since).sessions.contains _ = true at last
            change (((s.afterAll (before ++ [made])).afterAll since).after event).sessions.contains _ = true
            rw [reached] at last ⊢
            exact stays last
      · refine .inr ⟨earlier, event, [], rfl, makes, ?_⟩
        change (s.afterAll (earlier ++ [event])).sessions.contains _ = true
        rw [after_all_concat]
        exact present

end TpmState

end

namespace Toy

-- A command that the first session audits, in the state it finds.
def auditing (code : UInt32) (parameters : Bytes) (s : TpmState) : Event :=
  let attributes := SessionAttributes.audit ||| SessionAttributes.continueSession
  let unsigned := carrying code [] [(keyedSession, attributes, [])] parameters
  .command 0 (carrying code [] [(keyedSession, attributes, hmacFor s unsigned)] parameters)

def plainEvent (octets : Bytes) (_ : TpmState) : Event := .command 0 octets

-- A run whose events are made for the states they find.
def following (s : TpmState) : List (TpmState → Event) → List Event
  | [] => []
  | next :: rest => next s :: following (s.after (next s)) rest

-- After the startup a session audits a command, and so becomes exclusive.
def drawnAudited : List (TpmState → Event) :=
  [plainEvent (plainCommand Cc.startup [] (be16 Su.clear)), plainEvent (opens Se.hmac Rh.null),
    auditing Cc.getRandom (be16 8)]

-- A shutdown it audits too, and the startup that resumes from it.
def resumedAudited : List (TpmState → Event) :=
  drawnAudited ++ [auditing Cc.shutdown (be16 Su.state), fun _ => .powerOff, fun _ => .powerOn,
    plainEvent (plainCommand Cc.startup [] (be16 Su.state))]

-- The session that was exclusive is lost with the power, and yet exclusive after the startup.
theorem resume_keeps_lost_exclusive : ¬ ∀ seed s, TpmState.manufacture seed = .ok s → ∀ events : List Event,
    (s.afterAll events).audit.exclusiveSession = Rh.unassigned ∨
      (s.afterAll events).sessions.contains (s.afterAll events).audit.exclusiveSession = true := by
  intro always
  have tested : found (TpmState.manufacture (List.replicate 48 7)) (fun s =>
      let t := s.afterAll (following s resumedAudited)
      t.started && t.audit.exclusiveSession == keyedSession && !t.sessions.contains keyedSession) = true := by
    rw [manufacture_made]
    decide +kernel
  obtain ⟨s, made, tested⟩ := ok_of_found _ _ tested
  simp only [Bool.and_eq_true, Bool.not_eq_true', beq_iff_eq] at tested
  obtain ⟨⟨_, exclusive⟩, lost⟩ := tested
  rcases always _ s made (following s resumedAudited) with none | held
  · rw [exclusive] at none
    exact absurd none (by decide)
  · rw [exclusive, lost] at held
    cases held

-- It audits a second command, and stays exclusive.
def auditedTwice : List (TpmState → Event) := drawnAudited ++ [auditing Cc.getRandom (be16 4)]

theorem audit_keeps_exclusive : ∃ s events, (s : TpmState).audit.exclusiveSession = Rh.unassigned ∧
    TpmState.Ready s.footing ∧ s.EveryEvent TpmState.KeepsExclusive events ∧
    (s.afterAll events).audit.exclusiveSession = keyedSession ∧ ∃ before made since, events = before ++ made :: since ∧
      TpmState.MadeExclusive keyedSession (s.afterAll before) made ∧
      Throughout TpmState.after (TpmState.AuditedBy keyedSession) (fun t => t.sessions.contains keyedSession = true)
        (s.afterAll (before ++ [made])) since := by
  have tested : found (TpmState.manufacture (List.replicate 48 7)) (fun s =>
      s.audit.exclusiveSession == Rh.unassigned && decide (s.EveryEvent TpmState.KeepsExclusive (following s auditedTwice)) &&
        (s.afterAll (following s auditedTwice)).audit.exclusiveSession == keyedSession) = true := by
    rw [manufacture_made]
    decide +kernel
  obtain ⟨s, made, tested⟩ := ok_of_found _ _ tested
  simp only [Bool.and_eq_true, beq_iff_eq, decide_eq_true_eq] at tested
  obtain ⟨⟨none, kept⟩, exclusive⟩ := tested
  have ready := TpmState.manufactured_ready _ s made
  rcases TpmState.exclusive_audit_session s none ready (following s auditedTwice) kept keyedSession exclusive
    with gone | history
  · exact absurd gone (by decide)
  · exact ⟨s, _, none, ready, kept, exclusive, history⟩

end Toy

end Swtrust
