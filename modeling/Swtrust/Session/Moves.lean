import Swtrust.Crypto.Derivation
import Swtrust.Device.Frame
import Swtrust.Session.Shape

set_option autoImplicit false
set_option linter.unusedSectionVars false

namespace Swtrust

open Library Action

-- The sessions, and the one that is exclusive for audit.
structure Holding where
  slots : SessionSlots
  exclusive : UInt32

def TpmState.holding (s : TpmState) : Holding := ⟨s.sessions, s.audit.exclusiveSession⟩

def ContextScope.holding (t : ContextScope) : Holding := ⟨t.sessions, t.exclusiveSession⟩

section

variable [Primitives]

-- All that the handler of a command does to the sessions.
inductive Move (code : UInt32) (before : Holding) : Holding → Prop where
  | same (after : Holding) (still : after.slots.still = before.slots.still) (exclusive : after.exclusive = before.exclusive) :
      Move code before after
  | start (coded : code = Cc.startAuthSession) (sessionType : UInt8) (handle : UInt32) (session : Session)
      (slots : SessionSlots) (typed : isSessionType sessionType = true)
      (allocated : before.slots.allocateHandle sessionType = .ok handle) (kind : session.kind = (handle, sessionType))
      (sized : Hash.digestSize session.authHash = .ok session.nonceTpm.length) (admitted : session.symmetric.Admitted)
      (inserted : before.slots.insert session = .ok slots) : Move code before ⟨slots, before.exclusive⟩
  | save (coded : code = Cc.contextSave) (handle : UInt32) (session : Session) (id : UInt64) (slots : SessionSlots)
      (available : before.slots.countersExhausted = false) (ranged : isSessionHandle handle = true)
      (saved : before.slots.save handle = .ok ((session, id), slots)) : Move code before ⟨slots, before.exclusive⟩
  | count (coded : code = Cc.contextSave) (available : before.slots.countersExhausted = false) :
      Move code before ⟨before.slots.nextObjectId.2, before.exclusive⟩
  | load (coded : code = Cc.contextLoad) (context : Context) (session : Session) (slots : SessionSlots)
      (viable : checkViable before.slots context = .ok ()) (ranged : isSessionHandle context.savedHandle = true)
      (named : session.handle = context.savedHandle) (body : Bytes)
      (read : Session.unmarshal.prefixOf body = .ok session)
      (restored : before.slots.restore session context.sequence = .ok slots) : Move code before ⟨slots, before.exclusive⟩
  | flush (coded : code = Cc.flushContext) (handle exclusive : UInt32)
      (left : exclusive = Rh.unassigned ∨
        exclusive = before.exclusive ∧ (before.slots.flush handle).1 ≠ .ok before.exclusive) :
      Move code before ⟨(before.slots.flush handle).2, exclusive⟩
  | clear (coded : code = Cc.startup) : Move code before ⟨SessionSlots.new, Rh.unassigned⟩
  | flushLoaded (coded : code = Cc.startup) : Move code before ⟨before.slots.flushLoaded, before.exclusive⟩

theorem move_refl (code : UInt32) (before : Holding) : Move code before before := .same before rfl rfl

section

variable (s : TpmState) (request : Request)

theorem SessionStart.checked_type (start : SessionStart) (tpmKey : UInt32) (checked : start.check tpmKey = .ok ()) :
    isSessionType start.sessionType = true := by
  by_cases typed : isSessionType start.sessionType = true
  · exact typed
  · simp only [SessionStart.check, typed, Bool.not_false, if_true] at checked
    split at checked
    · cases checked
    · cases checked

theorem keeps_holding_open_context (context : Context) : Keeps ContextScope.holding (openContext s context) := by
  iterate 3 refine keeps_lift_bind _ _ _ fun _ => ?_
  refine keeps_ite _ _ _ _ (keeps_bind _ _ _ (keeps_throw _ _) fun _ => ?_) ?_
  all_goals
    iterate 2 refine keeps_lift_bind _ _ _ fun _ => ?_
    refine keeps_ite _ _ _ _ (keeps_bind _ _ _ (keeps_throw _ _) fun _ => ?_) ?_
    all_goals
      refine keeps_ite _ _ _ _ (keeps_bind _ _ _ (keeps_throw _ _) fun _ => ?_) ?_
      all_goals
        refine keeps_ite _ _ _ _ (keeps_bind _ _ _ (keeps_modify _ _ fun _ => rfl) fun _ => ?_) (keeps_pure _ _)
        exact keeps_bind _ _ _ (keeps_throw _ _) fun _ => keeps_pure _ _

theorem start_auth_session_moves (coded : request.code = Cc.startAuthSession) (t : ContextScope) :
    Move request.code t.holding (final (startAuthSession s request t)).holding := by
  have same : ∀ u : ContextScope, u.holding = t.holding → Move request.code t.holding u.holding := fun u kept =>
    kept ▸ move_refl _ _
  have refl := move_refl request.code t.holding
  let holds : ContextScope → Prop := fun u => Move request.code t.holding u.holding
  unfold startAuthSession
  refine final_lift_bind holds _ _ t refl fun tpmKey _ => final_lift_bind holds _ _ t refl fun bound _ => ?_
  refine final_lift_bind holds _ _ t refl fun start read => final_lift_bind holds _ _ t refl fun _ checked => ?_
  refine final_lift_bind holds _ _ t refl fun salt _ => final_lift_bind holds _ _ t refl fun binding _ => ?_
  refine final_lift_bind holds _ _ t refl fun size sized => ?_
  have drawn : Keeps ContextScope.holding (Action.zoom (·.rng) (fun rng t => { t with rng }) (Drbg.bytes size) :
    Action TpmRc ContextScope Bytes) := keeps_zoom _ _ _ _ fun _ _ => rfl
  have kept := drawn t
  refine final_bind holds _ _ t (fun nonceTpm u ran => ?_) fun e u ran => ?_
  · rw [ran] at kept
    have here := same u kept
    refine final_lift_bind holds _ _ u here fun sessionKey _ => ?_
    rw [run_get_bind]
    refine final_lift_bind holds _ _ u here fun handle allocated => ?_
    refine final_lift_bind holds _ _ u here fun session made => ?_
    rw [run_get_bind]
    refine final_lift_bind holds _ _ u here fun slots inserted => ?_
    have slotsSame : u.sessions = t.holding.slots := congrArg Holding.slots kept
    have exclusiveSame : u.exclusiveSession = t.holding.exclusive := congrArg Holding.exclusive kept
    rw [slotsSame] at allocated inserted
    simp only [Session.new, bind_is_ok, pure_is_ok] at made
    obtain ⟨_, _, rfl⟩ := made
    have length : nonceTpm.length = size := by
      obtain ⟨_, octets, _⟩ := (succeeds_zoom _ _ _ _ _ _).mp ran
      exact Drbg.bytes_length size _ _ _ octets
    have started : Move request.code t.holding ⟨slots, u.exclusiveSession⟩ := by
      rw [exclusiveSame]
      exact .start coded start.sessionType handle _ slots (start.checked_type tpmKey checked) allocated rfl (length ▸ sized)
        (start_yields _ _ _ ((params_is_ok _ _ _).mp read)) inserted
    rw [run_modify_bind]
    exact final_lift_bind holds _ _ _ started fun _ _ => started
  · rw [ran] at kept
    exact same u kept

theorem flush_context_moves (coded : request.code = Cc.flushContext) (t : ContextScope) :
    Move request.code t.holding (final (flushContext request t)).holding := by
  have refl := move_refl request.code t.holding
  let holds : ContextScope → Prop := fun u => Move request.code t.holding u.holding
  unfold flushContext
  refine final_lift_bind holds _ _ t refl fun handle _ => ?_
  rw [run_get_bind]
  have moved : ∀ exclusive, exclusive = Rh.unassigned ∨
      exclusive = t.exclusiveSession ∧ (t.sessions.flush handle).1 ≠ .ok t.exclusiveSession →
        Move request.code t.holding ⟨(t.sessions.flush handle).2, exclusive⟩ := fun exclusive left =>
    .flush coded handle exclusive left
  by_cases flushable : SessionSlots.isFlushableSession handle = true
  · rw [if_pos flushable]
    cases flushed : t.sessions.flush handle with
    | mk outcome slots =>
        rw [flushed] at moved
        dsimp only at moved ⊢
        rw [run_set_bind, run_lift_bind]
        cases outcome with
        | error e => exact moved t.exclusiveSession (.inr ⟨rfl, nofun⟩)
        | ok other =>
            dsimp only [withParameter, Except.mapError]
            by_cases exclusive : t.exclusiveSession = other
            · rw [if_pos exclusive]
              exact moved Rh.unassigned (.inl rfl)
            · rw [if_neg exclusive]
              exact moved t.exclusiveSession (.inr ⟨rfl, fun ok => exclusive (Except.ok.inj ok).symm⟩)
  · rw [if_neg flushable]
    by_cases transient : ObjectSlots.isTransient handle = true
    · rw [if_pos transient]
      exact final_lift_bind holds _ _ t refl fun objects _ => refl
    · rw [if_neg transient]
      exact refl

theorem context_save_moves (coded : request.code = Cc.contextSave) (t : ContextScope) :
    Move request.code t.holding (final (contextSave s request t)).holding := by
  unfold contextSave
  rw [run_lift_bind]
  cases request.handle 0 with
  | error e => exact move_refl _ _
  | ok handle =>
      dsimp only
      rw [run_get_bind]
      by_cases exhausted : t.sessions.countersExhausted = true
      · rw [if_pos exhausted]
        exact move_refl _ _
      · have available : t.sessions.countersExhausted = false := by simpa using exhausted
        rw [if_neg exhausted]
        by_cases ranged : isSessionHandle handle = true
        · rw [if_pos ranged, run_lift_bind]
          cases saved : t.sessions.save handle with
          | error e => exact move_refl _ _
          | ok result =>
              obtain ⟨⟨session, id⟩, slots⟩ := result
              dsimp only [withHandle, Except.mapError]
              rw [run_set_bind]
              have kept : Keeps ContextScope.holding (do
                  let blob ← sealContext s Rh.null id handle session.marshal
                  let context : Context :=
                    { sequence := id, savedHandle := handle, hierarchy := Rh.null, contextBlob := blob.1 }
                  return { parameters := context.marshal, unread := request.parameters, macs := [blob.2] } :
                    Action TpmRc ContextScope Reply) := keeps_lift_bind _ _ _ fun _ => keeps_pure _ _
              exact kept { t with sessions := slots } ▸ .save coded handle session id slots available ranged saved
        · rw [if_neg ranged, run_lift_bind]
          cases withHandle 1 (t.objects.getSlot handle) with
          | error e => exact move_refl _ _
          | ok slot =>
              dsimp only
              rw [run_lift_bind]
              split
              · exact .count coded available
              · exact move_refl _ _

theorem context_load_moves (coded : request.code = Cc.contextLoad) (t : ContextScope) :
    Move request.code t.holding (final (contextLoad s request t)).holding := by
  have refl := move_refl request.code t.holding
  have same : ∀ u : ContextScope, u.holding = t.holding → Move request.code t.holding u.holding := fun u kept =>
    kept ▸ refl
  let holds : ContextScope → Prop := fun u => Move request.code t.holding u.holding
  unfold contextLoad
  refine final_lift_bind holds _ _ t refl fun context _ => ?_
  rw [run_get_bind]
  refine final_lift_bind holds _ _ t refl fun _ viable => ?_
  by_cases enabled : (!s.hierarchies.isEnabled context.hierarchy) = true
  · rw [if_pos enabled]
    exact refl
  · rw [if_neg enabled]
    have opened := keeps_holding_open_context s context t
    refine final_bind holds _ _ t (fun body u ran => ?_) fun e u ran => ?_
    · rw [ran] at opened
      have slotsSame : u.sessions = t.sessions := congrArg Holding.slots opened
      have exclusiveSame : u.exclusiveSession = t.exclusiveSession := congrArg Holding.exclusive opened
      have slot : ∀ slot, Keeps ContextScope.holding (restoreSlot slot) := fun slot => by
        refine keeps_bind _ _ _ (keeps_get _) fun _ => keeps_lift_bind _ _ _ fun _ => ?_
        exact keeps_bind _ _ _ (keeps_modify _ _ fun _ => rfl) fun _ => keeps_pure _ _
      have answered : ∀ handle : UInt32, Keeps ContextScope.holding
          (return Response.withHandle handle [] : Action TpmRc ContextScope Response) := fun _ => keeps_pure _ _
      by_cases ranged : isSessionHandle context.savedHandle = true
      · rw [if_pos ranged]
        have restored : holds (final (restoreSession context body u)) := by
          unfold restoreSession
          refine final_lift_bind holds _ _ u (same u opened) fun session read => ?_
          by_cases named : session.handle ≠ context.savedHandle
          · rw [if_pos named]
            exact same u opened
          · rw [if_neg named]
            dsimp only
            rw [run_get_bind]
            refine final_lift_bind holds _ _ u (same u opened) fun slots restored => ?_
            rw [slotsSame] at restored
            change Move request.code t.holding ⟨slots, u.exclusiveSession⟩
            rw [exclusiveSame]
            simp only [badContext, withParameter, map_error_is_ok] at read restored
            exact .load coded context session slots viable ranged (not_not.mp named) body read restored
        refine final_bind holds _ _ u (fun handle w ran => ?_) fun e w ran => ?_
        all_goals
          rw [ran] at restored
          exact restored
      · rw [if_neg ranged]
        refine same _ (Eq.trans ?_ opened)
        have slotted : ∀ slot, Keeps ContextScope.holding (do
            let handle ← restoreSlot slot
            return Response.withHandle handle [] : Action TpmRc ContextScope Response) := fun slot' =>
          keeps_bind _ _ _ (slot slot') answered
        refine keeps_ite ContextScope.holding _ _ _ ?_ ?_ u
        · exact keeps_lift_bind _ _ _ fun _ => slotted _
        · refine keeps_ite _ _ _ _ (keeps_lift_bind _ _ _ fun _ => slotted _) ?_
          exact keeps_bind _ _ _ (keeps_throw _ _) answered
    · rw [ran] at opened
      exact same u opened

theorem holds_of_keeps (holds : Holding → Prop) (rest : TpmM Unit) (kept : Keeps TpmState.holding rest) (u : TpmState)
    (here : holds u.holding) : holds (final (rest u)).holding := by
  rw [kept u]
  exact here

-- What a startup leaves of the sessions: all, none, or those that are saved.
structure StartupLeaves (holds : Holding → Prop) (before : Holding) : Prop where
  same : holds before
  clear : holds ⟨SessionSlots.new, Rh.unassigned⟩
  flushLoaded : holds ⟨before.slots.flushLoaded, before.exclusive⟩

section

variable (holds : Holding → Prop) (leaves : StartupLeaves holds s.holding)

include leaves

theorem startup_clear_leaves (locality : UInt8) : holds (final (TpmState.onStartupClear locality s)).holding := by
  have began : ∀ orderly, Keeps TpmState.holding (modify fun s =>
      TpmState.beginOperation orderly false { s with act := s.act.onReset, lockout := s.lockout.onStartup } : TpmM Unit) :=
    fun orderly => keeps_modify _ _ fun _ => rfl
  have timed : ∀ counts : Bool, ∀ rest : TpmM Unit, Keeps TpmState.holding rest → Keeps TpmState.holding (do
      modify fun s => { s with clock := { s.clock with time := 0, nvElapsed := 0 } }
      if counts then
        modify fun s => { s with
          clock := { s.clock with safe := false }
          lockout := s.lockout.countPendingFailure }
      rest : TpmM Unit) := by
    intro counts rest kept
    refine keeps_bind _ _ _ (keeps_modify _ _ fun _ => rfl) fun _ => ?_
    exact keeps_ite _ _ _ _ (keeps_bind _ _ _ (keeps_modify _ _ fun _ => rfl) fun _ => kept) kept
  have zoomed : Keeps TpmState.holding (TpmState.zoomHierarchies (Hierarchies.onReset (!(s.shutdownType == Su.state)))) :=
    keeps_zoom _ _ _ _ fun _ _ => rfl
  have first := zoomed s
  unfold TpmState.onStartupClear
  rw [run_get_bind]
  refine final_bind (fun u => holds u.holding) _ _ s (fun _ t ran => ?_) fun e t ran => ?_
  · rw [ran] at first
    have slotsSame : t.sessions = s.sessions := congrArg Holding.slots first
    have exclusiveSame : t.audit.exclusiveSession = s.audit.exclusiveSession := congrArg Holding.exclusive first
    -- A TPM Restart flushes what is loaded; a TPM Reset also forgets what was saved.
    by_cases restart : (s.shutdownType == Su.state) = true
    · simp only [restart, Bool.not_true, Bool.false_eq_true, if_false, if_true]
      iterate 3 rw [run_modify_bind]
      have rest : ∀ (disorderly counts : Bool), Keeps TpmState.holding (do
          modify fun s => { s with nv := s.nv.onStartupClearWith true disorderly }
          modify fun s => { s with clock := { s.clock with clearCount := s.clock.clearCount + 1 } }
          modify fun s => { s with clock := { s.clock with restartCount := s.clock.restartCount + 1 } }
          modify fun s => { s with clock := { s.clock with time := 0, nvElapsed := 0 } }
          if counts then
            modify fun s => { s with
              clock := { s.clock with safe := false }
              lockout := s.lockout.countPendingFailure }
          modify fun s => TpmState.beginOperation (!disorderly) false { s with
            act := s.act.onReset, lockout := s.lockout.onStartup } : TpmM Unit) := by
        intro disorderly counts
        iterate 3 refine keeps_bind _ _ _ (keeps_modify _ _ fun _ => rfl) fun _ => ?_
        exact timed counts _ (began _)
      refine holds_of_keeps holds _ (rest _ _) _ ?_
      change holds ⟨t.sessions.flushLoaded, t.audit.exclusiveSession⟩
      rw [slotsSame, exclusiveSame]
      exact leaves.flushLoaded
    · simp only [restart, Bool.not_false, Bool.false_eq_true, if_false, if_true]
      iterate 4 rw [run_modify_bind]
      have rest : ∀ (disorderly counts : Bool), Keeps TpmState.holding (do
          modify fun s => { s with nv := s.nv.onStartupClearWith false disorderly }
          modify fun s => { s with clock := { s.clock with clearCount := 0 } }
          let resetValue ← TpmState.zoomRng (Drbg.bytes 64)
          modify fun s => { s with clock := { s.clock with resetValue } }
          modify fun s => { s with clock := { s.clock with
            resetCount := s.clock.resetCount + 1
            totalResetCount := s.clock.totalResetCount + 1
            restartCount := 0 } }
          modify fun s => { s with clock := { s.clock with time := 0, nvElapsed := 0 } }
          if counts then
            modify fun s => { s with
              clock := { s.clock with safe := false }
              lockout := s.lockout.countPendingFailure }
          modify fun s => { s with audit := { s.audit with digest := [] } }
          TpmState.zoomCommits Commits.reset
          modify fun s => TpmState.beginOperation (!disorderly) false { s with
            act := s.act.onReset, lockout := s.lockout.onStartup } : TpmM Unit) := by
        intro disorderly counts
        iterate 2 refine keeps_bind _ _ _ (keeps_modify _ _ fun _ => rfl) fun _ => ?_
        refine keeps_bind _ _ _ (keeps_zoom _ _ _ _ fun _ _ => rfl) fun _ => ?_
        iterate 2 refine keeps_bind _ _ _ (keeps_modify _ _ fun _ => rfl) fun _ => ?_
        refine timed counts _ (keeps_bind _ _ _ (keeps_modify _ _ fun _ => rfl) fun _ => ?_)
        exact keeps_bind _ _ _ (keeps_zoom _ _ _ _ fun _ _ => rfl) fun _ => began _
      exact holds_of_keeps holds _ (rest _ _) _ leaves.clear
  · rw [ran] at first
    exact first ▸ leaves.same

theorem startup_state_leaves (locality : UInt8) : holds (final (TpmState.onStartupState locality s)).holding := by
  have ensured : Ensures (fun t => t = s) (TpmState.onStartupState locality) (fun _ u => holds u.holding)
      (fun u => holds u.holding) := by
    refine ensures_get_bind _ _ _ _ fun t same => ?_
    subst same
    have kept : ∀ u : TpmState, u = t → holds u.holding := fun u found => found ▸ leaves.same
    refine ensures_guard _ _ _ _ _ _ _ kept fun _ => ?_
    refine ensures_guard _ _ _ _ _ _ _ kept fun _ => ?_
    refine ensures_guard _ _ _ _ _ _ _ kept fun _ => ?_
    refine ensures_bind _ _ _ (fun (_ : PUnit) (u : TpmState) => holds u.holding) _ _ ?_ fun _ => ?_
    · rintro _ rfl
      exact leaves.flushLoaded
    refine ensures_of_keeps TpmState.holding holds _ (keeps_bind _ _ _ (keeps_get _) fun u => ?_)
    refine keeps_ite _ _ _ _ (keeps_bind _ _ _ (keeps_zoom _ _ _ _ fun _ _ => rfl) fun _ => ?_) ?_
    all_goals exact keeps_modify _ _ fun _ => rfl
  rcases ensures_final _ _ _ _ s ensured rfl with ⟨_, ended⟩ | ended
  · exact ended
  · exact ended

theorem startup_leaves : holds (final (startup request s)).holding := by
  let left : TpmState → Prop := fun u => holds u.holding
  unfold startup
  refine final_lift_bind left _ _ s leaves.same fun startupType _ => ?_
  split
  · exact leaves.same
  · split
    · refine final_bind left _ _ s (fun _ u ran => ?_) fun e u ran => ?_
      all_goals
        have ended := startup_clear_leaves s holds leaves request.locality
        rw [ran] at ended
        exact ended
    · split
      · dsimp only
        rw [run_get_bind]
        split
        · exact leaves.same
        · refine final_bind left _ _ s (fun _ u ran => ?_) fun e u ran => ?_
          all_goals
            have ended := startup_state_leaves s holds leaves request.locality
            rw [ran] at ended
            exact ended
      · exact leaves.same

end

theorem startup_moves (coded : request.code = Cc.startup) :
    Move request.code s.holding (final (startup request s)).holding :=
  startup_leaves s request (Move request.code s.holding) ⟨move_refl _ _, .clear coded, .flushLoaded coded⟩

end

-- A part of the state that holds no session, nor which is exclusive.
def Scope.sparesSessions : Scope → Bool
  | .policy | .context | .audit | .whole => false
  | _ => true

theorem keeps_holding_zoom {α : Type} (scope : Scope) (action : Action TpmRc scope.State α)
    (spares : scope.sparesSessions = true) : Keeps TpmState.holding (scope.zoom action) := by
  cases scope with
  | policy | context | audit | whole => cases spares
  | _ => exact keeps_zoom _ _ _ action fun _ _ => rfl

-- The codes whose handlers may change them, beside the policy commands.
def sessionCodes : List UInt32 := [Cc.startAuthSession, Cc.contextSave, Cc.contextLoad, Cc.flushContext,
  Cc.getCommandAuditDigest, Cc.setCommandCodeAuditStatus, Cc.startup, Cc.shutdown, Cc.clear]

theorem other_handlers_spare_sessions :
    ((handlers.drop policyHandlers.length).all fun row => row.2.scope.sparesSessions || sessionCodes.contains row.1) =
      true := by
  rfl

theorem handlers_take_policy : handlers.take policyHandlers.length = policyHandlers := rfl

theorem policy_handlers_scoped :
    (policyHandlers.all fun row => row.2.scope == .policy || row.2.scope == .query) = true := by
  rfl

theorem keeps_exclusive_zoom_policy {α : Type} (scope : Scope) (action : Action TpmRc scope.State α)
    (narrow : scope = .policy ∨ scope = .query) : Keeps (fun s => s.holding.exclusive) (scope.zoom action) := by
  rcases narrow with rfl | rfl
  · exact keeps_zoom _ _ _ action fun _ _ => rfl
  · exact keeps_zoom _ _ _ action fun _ _ => rfl

theorem context_handler_moves {α : Type} (code : UInt32) (action : Action TpmRc ContextScope α)
    (moves : ∀ t, Move code t.holding (final (action t)).holding) (s : TpmState) :
    Move code s.holding (final (TpmState.zoomContext action s)).holding := by
  have moved := moves s.contextScope
  unfold TpmState.zoomContext zoom
  cases ran : action s.contextScope with
  | ok a t =>
      rw [ran] at moved
      exact moved
  | error e t =>
      rw [ran] at moved
      exact moved

theorem keeps_holding_audit {α : Type} (action : Action TpmRc AuditScope α)
    (kept : Keeps (fun t => t.audit.exclusiveSession) action) : Keeps TpmState.holding (TpmState.zoomAudit action) := by
  intro s
  have same := kept ⟨s.work, s.audit, s.commandAuditSuppressed⟩
  unfold TpmState.zoomAudit zoom
  cases ran : action ⟨s.work, s.audit, s.commandAuditSuppressed⟩ with
  | ok a t =>
      rw [ran] at same
      exact congrArg (Holding.mk s.sessions) same
  | error e t =>
      rw [ran] at same
      exact congrArg (Holding.mk s.sessions) same

theorem keeps_exclusive_get_command_audit_digest (s : TpmState) (request : Request) :
    Keeps (fun t : AuditScope => t.audit.exclusiveSession) (getCommandAuditDigest s request) := by
  iterate 6 refine keeps_lift_bind _ _ _ fun _ => ?_
  refine keeps_bind _ _ _ (keeps_zoom _ _ _ _ fun _ _ => rfl) fun _ => ?_
  exact keeps_ite _ _ _ _ (keeps_bind _ _ _ (keeps_modify _ _ fun _ => rfl) fun _ => keeps_pure _ _) (keeps_pure _ _)

theorem keeps_exclusive_set_command_code_audit_status (s : TpmState) (request : Request) :
    Keeps (fun t : AuditScope => t.audit.exclusiveSession) (setCommandCodeAuditStatus s request) := by
  refine keeps_lift_bind _ _ _ fun _ => ?_
  refine keeps_ite _ _ _ _ (keeps_bind _ _ _ (keeps_throw _ _) fun _ => ?_) ?_
  all_goals
    refine keeps_ite _ _ _ _ ?_ (keeps_bind _ _ _ (keeps_modify _ _ fun _ => rfl) fun _ => keeps_pure _ _)
    refine keeps_ite _ _ _ _ (keeps_bind _ _ _ (keeps_throw _ _) fun _ => ?_) ?_
    all_goals exact keeps_bind _ _ _ (keeps_modify _ _ fun _ => rfl) fun _ => keeps_pure _ _

theorem keeps_holding_shutdown (request : Request) : Keeps TpmState.holding (shutdown request) := by
  refine keeps_lift_bind _ _ _ fun shutdownType => keeps_bind _ _ _ (keeps_get _) fun s => ?_
  refine keeps_ite _ _ _ _ (keeps_bind _ _ _ (keeps_throw _ _) fun _ => ?_) ?_
  all_goals
    refine keeps_ite _ _ _ _ (keeps_bind _ _ _ (keeps_throw _ _) fun _ => ?_) ?_
    all_goals exact keeps_bind _ _ _ (keeps_modify _ _ fun s => rfl) fun _ => keeps_pure _ _

theorem keeps_holding_clear (request : Request) : Keeps TpmState.holding (clear request) := by
  refine keeps_bind _ _ _ (keeps_get _) fun s => ?_
  have cleared : Keeps TpmState.holding (do
      TpmState.onClear
      modify fun s => { s with lockoutAuth := [], lockoutPolicy := TpmtHa.null }
      return .notReading request [] : TpmM Response) := by
    refine keeps_bind _ _ _ ?_ fun _ => keeps_bind _ _ _ (keeps_modify _ _ fun _ => rfl) fun _ => keeps_pure _ _
    exact keeps_bind _ _ _ (keeps_zoom _ _ _ _ fun _ _ => rfl) fun _ => keeps_modify _ _ fun _ => rfl
  exact keeps_ite _ _ _ _ (keeps_bind _ _ _ (keeps_throw _ _) fun _ => cleared) cleared

-- What the handler of any command does to the sessions.
theorem run_command_moves (request : Request) (s : TpmState) :
    Move request.code s.holding (final (runCommand request s)).holding := by
  have kept : ∀ handler : Handler, Keeps TpmState.holding (handler.run request) →
      Move request.code s.holding (final (handler.run request s)).holding := fun handler kept =>
    (kept s).symm ▸ move_refl _ _
  unfold runCommand
  cases named : handlerOf request.code with
  | none => exact move_refl _ _
  | some handler =>
      have member := handler_mem _ _ named
      rw [← List.take_append_drop policyHandlers.length handlers, handlers_take_policy, List.mem_append] at member
      rcases member with policy | other
      · have still := policy_handlers_keep_still _ policy request s
        have narrow := List.all_eq_true.mp policy_handlers_scoped _ policy
        have exclusive : Keeps (fun s => s.holding.exclusive) (handler.run request) := handler.keeps_run _ request
          fun action => keeps_exclusive_zoom_policy handler.scope action (by simpa using narrow)
        exact .same _ still (exclusive s)
      · have spares := List.all_eq_true.mp other_handlers_spare_sessions _ other
        rw [Bool.or_eq_true] at spares
        rcases spares with spares | listed
        · exact kept handler (handler.keeps_run _ request fun action => keeps_holding_zoom handler.scope action spares)
        · simp only [sessionCodes, List.contains_eq_mem, List.mem_cons, List.not_mem_nil, or_false, decide_eq_true_eq]
            at listed
          have context : ∀ run : TpmState → Request → Action TpmRc ContextScope Response,
              (∀ t, Move request.code t.holding (final (run s request t)).holding) →
              Move request.code s.holding (final ((Handler.plain .context run).run request s)).holding := by
            intro run moves
            have moved := context_handler_moves request.code (run s request) moves s
            have same : final ((Handler.plain .context run).run request s) =
                final (TpmState.zoomContext (run s request) s) := final_map _ _ s
            rw [same]
            exact moved
          rcases listed with code | code | code | code | code | code | code | code | code
          all_goals
            rw [code] at named
            obtain rfl := Option.some.inj named
          · exact context _ (start_auth_session_moves s request code)
          · exact context_handler_moves _ _ (context_save_moves s request code) s
          · exact context _ (context_load_moves s request code)
          · exact context _ (flush_context_moves request code)
          · exact kept _ (keeps_bind _ _ _ (keeps_get _) fun t =>
              keeps_holding_audit _ (keeps_exclusive_get_command_audit_digest t request))
          · exact kept _ (keeps_bind _ _ _ (keeps_get _) fun t => keeps_map _ _ _
              (keeps_holding_audit _ (keeps_exclusive_set_command_code_audit_status t request)))
          · have same : final ((Handler.plain .whole fun _ request => startup request).run request s) =
                final (startup request s) := final_map _ _ s
            rw [same]
            exact startup_moves s request code
          · exact kept _ (keeps_bind _ _ _ (keeps_get _) fun _ => keeps_map _ _ _ (keeps_holding_shutdown request))
          · exact kept _ (keeps_bind _ _ _ (keeps_get _) fun _ => keeps_map _ _ _ (keeps_holding_clear request))

end

end Swtrust
