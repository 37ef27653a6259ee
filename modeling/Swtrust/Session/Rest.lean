import Swtrust.Session.Answered
import Swtrust.Session.Given
import Swtrust.Session.Spent

set_option autoImplicit false
set_option linter.unusedSectionVars false

namespace Swtrust

open Library Action

section

variable [Primitives]

-- A policy state without a recorded assertion, and with the digest that stands for none.
def PolicyState.Initial (policy : PolicyState) : Prop := ∃ size, policy = { digest := List.replicate size 0 }

namespace SessionSlots

def Initial (slots : SessionSlots) (handle : UInt32) : Prop :=
  ∀ session, slots.get handle = .ok session → session.policy.Initial

theorem initial_of_spent (slots : SessionSlots) (handle : UInt32) (spent : slots.Spent handle) : slots.Initial handle := by
  intro session held
  obtain ⟨size, _, policy⟩ := spent session held
  exact ⟨size, policy⟩

-- A step that asserts nothing on the session under the handle, and brings none under it to where contexts are saved.
structure Rests (handle : UInt32) (before after : SessionSlots) : Prop where
  policy : before.Initial handle → after.Initial handle
  away : before.saved.contains handle = false → after.saved.contains handle = false

variable (handle : UInt32)

theorem rests_steady : Steady (Rests handle) :=
  ⟨fun _ => ⟨id, id⟩, fun _ _ _ first second => ⟨second.policy ∘ first.policy, second.away ∘ first.away⟩⟩

theorem rests_put (slots : SessionSlots) (other : UInt32) (before after : Session) (held : slots.get other = .ok before)
    (policy : after.policy = before.policy ∨ after.policy.Initial) : Rests handle slots (slots.put other after) := by
  refine ⟨fun initial session found => ?_, id⟩
  rw [get_put] at found
  by_cases same : handle = other
  · rw [if_pos same] at found
    obtain rfl := Except.ok.inj found
    rcases policy with same' | anew
    · rw [same']
      exact initial before (same ▸ held)
    · exact anew
  · rw [if_neg same] at found
    exact initial session found

theorem rests_remove (slots : SessionSlots) (other : UInt32) : Rests handle slots (slots.remove other) := by
  refine ⟨fun initial session found => ?_, fun away => ?_⟩
  · by_cases same : handle = other
    · rw [same, get_remove_same] at found
      cases found
    · rw [get_remove_other _ _ _ same] at found
      exact initial session found
  · unfold remove
    dsimp only
    rw [SortedMap.contains_erase, away, Bool.and_false]

theorem rests_flush (slots : SessionSlots) (candidates : List UInt32) :
    Rests handle slots (slots.flushFirst candidates).2 := by
  induction candidates generalizing slots with
  | nil => exact (rests_steady handle).refl slots
  | cons candidate rest ih =>
      unfold flushFirst
      dsimp only
      split
      · exact rests_remove handle slots candidate
      · exact (rests_steady handle).trans _ _ _ (rests_remove handle slots candidate) (ih _)

theorem rests_insert (slots next : SessionSlots) (session : Session) (inserted : slots.insert session = .ok next)
    (initial : session.policy.Initial) : Rests handle slots next := by
  obtain ⟨_, _, _, _, rfl⟩ := (slots.insert_is_ok next session).mp inserted
  refine ⟨fun before other found => ?_, id⟩
  rw [get_is_ok] at found
  dsimp only at found
  rw [SortedMap.get_insert] at found
  split at found
  · obtain rfl := Option.some.inj found
    exact initial
  · exact before other ((slots.get_is_ok handle other).mpr found)

-- No session is in memory.
theorem rests_unloaded (slots next : SessionSlots) (sessions : next.sessions = SortedMap.empty)
    (saved : next.saved = slots.saved ∨ next.saved = SortedMap.empty) : Rests handle slots next := by
  refine ⟨fun _ session found => ?_, fun away => ?_⟩
  · rw [get_is_ok, sessions, SortedMap.get_empty] at found
    cases found
  · rcases saved with same | none
    · rw [same]
      exact away
    · rw [none]
      rfl

-- A session that is saved leaves the memory.
theorem initial_save (slots next : SessionSlots) (other : UInt32) (session : Session) (id : UInt64)
    (saved : slots.save other = .ok ((session, id), next)) (initial : slots.Initial handle) : next.Initial handle := by
  obtain ⟨_, _, rfl⟩ := (slots.save_is_ok next other session id).mp saved
  intro left found
  rw [get_is_ok] at found
  exact initial left ((slots.get_is_ok handle left).mpr (SortedMap.get_of_erase _ _ _ _ found))

-- A session that is brought back was saved, so under another handle nothing changes.
theorem rests_restore (slots next : SessionSlots) (session : Session) (version : UInt64)
    (restored : slots.restore session version = .ok next) (away : slots.saved.contains handle = false) :
    Rests handle slots next := by
  obtain ⟨held, _, rfl⟩ := (slots.restore_is_ok next session version).mp restored
  have apart : handle ≠ session.handle := by
    intro same
    rw [same, (SortedMap.contains_iff_get _ _).mpr ⟨_, held⟩] at away
    cases away
  refine ⟨fun initial left found => ?_, fun _ => ?_⟩
  · rw [get_is_ok] at found
    dsimp only at found
    rw [SortedMap.get_insert_other _ _ _ _ apart] at found
    exact initial left ((slots.get_is_ok handle left).mpr found)
  · dsimp only
    rw [SortedMap.contains_erase, away, Bool.and_false]

end SessionSlots

namespace TpmState

variable (handle : UInt32)

def Rests (s t : TpmState) : Prop := s.sessions.Rests handle t.sessions

theorem rests_is_steady : Steady (Rests handle) :=
  ⟨fun s => (SessionSlots.rests_steady handle).refl s.sessions,
    fun _ _ _ first second => (SessionSlots.rests_steady handle).trans _ _ _ first second⟩

theorem rests_of_same (s t : TpmState) (same : t.sessions = s.sessions) : Rests handle s t := by
  unfold Rests
  rw [same]
  exact (SessionSlots.rests_steady handle).refl s.sessions

theorem close_session_rests (request : Request) (index : Nat) (input : SessionInput) (s : TpmState) :
    Rests handle s (closeSession request index input s) := by
  refine ⟨fun initial after held => ?_, fun away => ?_⟩
  · obtain ⟨before, found, closing⟩ := close_session_keeps request index input s handle after held
    rcases closing.policy with same | ⟨size, _, anew⟩
    · rw [same]
      exact initial before found
    · exact ⟨size, anew⟩
  · unfold closeSession
    split
    · exact away
    · split
      · have removed := (SessionSlots.rests_remove handle s.sessions input.handle).away away
        dsimp only
        split
        · exact removed
        · exact removed
      · split
        · exact away
        · exact away

theorem close_sessions_rest (request : Request) (inputs : List SessionInput) (first : Nat) (s : TpmState) :
    Rests handle s (closeSessionsFrom request first inputs s) := by
  induction inputs generalizing first s with
  | nil => exact (rests_is_steady handle).refl s
  | cons input rest ih =>
      exact (rests_is_steady handle).trans _ _ _ (close_session_rests handle request first input s) (ih (first + 1) _)

theorem rests_roll_response_nonces (inputs : List SessionInput) : Guarantees (Rests handle) (rollResponseNonces inputs) := by
  have steady := rests_is_steady handle
  induction inputs with
  | nil => exact guarantees_pure steady.refl _
  | cons input rest ih =>
      have next : ∀ nonce : Bytes, Guarantees (Rests handle) (do
          return nonce :: (← rollResponseNonces rest) : TpmM (List Bytes)) := fun nonce =>
        guarantees_bind steady _ _ ih fun _ => guarantees_pure steady.refl _
      unfold rollResponseNonces
      refine guarantees_get_bind _ _ fun s => ?_
      by_cases password : input.handle = Rh.rsPw
      · simp only [password, if_true]
        exact next [] s
      · simp only [password, if_false]
        cases held : s.sessions.get input.handle with
        | error e => exact next [] s
        | ok session =>
            dsimp only
            have drawn : Keeps (fun s : TpmState => s.sessions) (zoomRng (Drbg.bytes session.nonceTpm.length)) :=
              keeps_zoom _ _ _ _ fun _ _ => rfl
            have kept := drawn s
            refine final_bind (Rests handle s) _ _ s (fun nonceTpm u ran => ?_) fun e u ran => ?_
            · rw [ran] at kept
              have still : u.sessions = s.sessions := kept
              rw [run_modify_bind]
              refine steady.trans _ _ _ ?_ (next nonceTpm _)
              refine steady.trans _ _ _ (rests_of_same handle s u still) ?_
              exact SessionSlots.rests_put handle u.sessions input.handle session _ (by rw [still]; exact held) (.inl rfl)
            · rw [ran] at kept
              exact rests_of_same handle s u kept

theorem rests_audit_session (request : Request) (names : List Bytes) (input : SessionInput)
    (commandParameters responseParameters : Bytes) :
    Guarantees (Rests handle) (auditSession request names input commandParameters responseParameters) := by
  intro s
  have refl := (rests_is_steady handle).refl s
  simp only [auditSession, run_get_bind]
  cases held : s.sessions.get input.handle with
  | error e => exact refl
  | ok session =>
      refine final_lift_bind (Rests handle s) _ _ s refl fun cp _ => final_lift_bind (Rests handle s) _ _ s refl fun rp _ => ?_
      refine final_lift_bind (Rests handle s) _ _ s refl fun digest _ => ?_
      exact SessionSlots.rests_put handle s.sessions input.handle session _ held (.inl rfl)

theorem rests_audit_command (request : Request) (names : List Bytes) (commandParameters responseParameters : Bytes) :
    Guarantees (Rests handle) (auditCommand request names commandParameters responseParameters) := by
  have steady := rests_is_steady handle
  unfold auditCommand
  refine guarantees_get_bind _ _ fun s => ?_
  revert s
  refine fun s => guarantees_lift_bind steady.refl _ _ (fun cp _ => ?_) s
  refine guarantees_lift_bind steady.refl _ _ fun rp _ => guarantees_lift_bind steady.refl _ _ fun size _ => ?_
  refine guarantees_bind steady _ _ (guarantees_modify _ _ fun s => ?_) fun _ => ?_
  · split
    · exact rests_of_same handle _ _ rfl
    · exact steady.refl s
  · refine guarantees_get_bind _ _ fun s => ?_
    refine guarantees_lift_bind steady.refl _ _ (fun digest _ => guarantees_modify _ _ fun s => ?_) s
    exact rests_of_same handle _ _ rfl

theorem rests_update_audit (request : Request) (names : List Bytes) (commandParameters responseParameters : Bytes) :
    Guarantees (Rests handle) (updateAudit request names commandParameters responseParameters) := by
  have steady := rests_is_steady handle
  have commandAudit : Guarantees (Rests handle) (do
      if (← get).commandAuditApplies request.code then
        auditCommand request names commandParameters responseParameters : TpmM Unit) :=
    guarantees_get_bind _ _ fun s => guarantees_ite _ _ _ _
      (fun _ => rests_audit_command handle request names commandParameters responseParameters)
      (fun _ => guarantees_pure steady.refl _) s
  unfold updateAudit
  cases auditSessionIndex request with
  | none =>
      refine guarantees_ite _ _ _ _ (fun _ => ?_) fun _ => ?_
      · refine guarantees_bind steady _ _ (guarantees_modify _ _ fun s => ?_) fun _ => commandAudit
        exact rests_of_same handle _ _ rfl
      · exact commandAudit
  | some index =>
      refine guarantees_lift_bind steady.refl _ _ fun input _ => ?_
      refine guarantees_bind steady _ _ (rests_audit_session handle request names input _ _) fun _ => ?_
      refine guarantees_bind steady _ _ (guarantees_modify _ _ fun s => ?_) fun _ => commandAudit
      exact rests_of_same handle _ _ rfl

theorem rests_respond (request : Request) (reply : Reply) (names : List Bytes) (contexts : List AuthContext)
    (commandParameters : Bytes) :
    Guarantees (Rests handle) (respond request reply names contexts commandParameters) := by
  have steady := rests_is_steady handle
  have closed : ∀ area : Bytes × Bytes, Guarantees (Rests handle) (do
      modify fun s => flushIfNeeded request (closeSessions request s)
      pure (successResponse request.tag (responseBody request reply.handle area.1 area.2)) : TpmM Bytes) := by
    intro area
    refine guarantees_bind steady _ _ (guarantees_modify _ _ fun s => ?_) fun _ => guarantees_pure steady.refl _
    refine steady.trans _ _ _ (close_sessions_rest handle request request.sessions 0 s) ?_
    exact rests_of_same handle _ _ (flush_if_needed_sessions request _)
  have rest : ∀ nonces, Guarantees (Rests handle) (do
      let responders := (← get).responseContexts request contexts
      let parameters ← (← get).encryptParameters request reply.parameters (contexts.map (·.auth))
      updateAudit request names commandParameters parameters
      let area ←
        if request.tag = St.sessions then (← get).buildResponseSessions request parameters nonces responders else pure []
      modify fun s => flushIfNeeded request (closeSessions request s)
      return successResponse request.tag (responseBody request reply.handle parameters area) : TpmM Bytes) := by
    intro nonces
    refine guarantees_get_bind _ _ fun s => ?_
    rw [run_get_bind]
    refine guarantees_lift_bind steady.refl _ _ (fun parameters _ => ?_) s
    refine guarantees_bind steady _ _ (rests_update_audit handle request names _ _) fun _ => ?_
    refine guarantees_ite _ _ _ _ (fun _ => ?_) fun _ => closed (parameters, [])
    refine guarantees_get_bind _ _ fun t => ?_
    exact guarantees_lift_bind steady.refl _ _ (fun area _ => closed (parameters, area)) t
  unfold respond
  refine guarantees_ite _ _ _ _ (fun _ => ?_) fun _ => ?_
  · exact guarantees_bind steady _ _ (rests_roll_response_nonces handle request.sessions) rest
  · exact guarantees_bind steady _ _ (guarantees_pure steady.refl _) rest

theorem rests_undisturbed : Undisturbed (Rests handle) where
  steady := rests_is_steady handle
  nullified request s := by
    unfold nullifyShutdown
    split
    · exact rests_of_same handle _ _ rfl
    · exact (rests_is_steady handle).refl s
  authorized request names count index :=
    guarantees_authorize_from _ (fun _ _ _ => rests_of_same handle _ _ rfl) request names count index
  suppressed _ _ := rests_of_same handle _ _ rfl
  failed _ := rests_of_same handle _ _ rfl
  responded := rests_respond handle


theorem rests_context {α : Type} (action : Action TpmRc ContextScope α)
    (rests : Guarantees (fun t u => t.sessions.Rests handle u.sessions) action) :
    Guarantees (Rests handle) (zoomContext action) :=
  guarantees_zoom _ _ _ action fun s => rests s.contextScope

theorem rests_start_auth_session (s : TpmState) (request : Request) :
    Guarantees (fun t u : ContextScope => t.sessions.Rests handle u.sessions) (startAuthSession s request) := by
  have slots := SessionSlots.rests_steady handle
  have steady : Steady fun t u : ContextScope => t.sessions.Rests handle u.sessions :=
    ⟨fun t => slots.refl t.sessions, fun _ _ _ first second => slots.trans _ _ _ first second⟩
  unfold startAuthSession
  iterate 7 refine guarantees_lift_bind steady.refl _ _ fun _ _ => ?_
  refine guarantees_bind steady _ _ (guarantees_zoom _ _ _ _ fun t => slots.refl t.sessions) fun nonceTpm => ?_
  refine guarantees_lift_bind steady.refl _ _ fun sessionKey _ => guarantees_get_bind _ _ fun t => ?_
  refine guarantees_lift_bind steady.refl _ _ (fun allocated _ => ?_) t
  refine guarantees_lift_bind steady.refl _ _ fun session made => guarantees_get_bind _ _ fun t => ?_
  simp only [Session.new, bind_is_ok, pure_is_ok] at made
  obtain ⟨size, _, rfl⟩ := made
  refine final_lift_bind (fun u : ContextScope => t.sessions.Rests handle u.sessions) _ _ t (slots.refl _)
    fun started inserted => ?_
  rw [run_modify_bind]
  have here := t.sessions.rests_insert handle started _ inserted ⟨size, rfl⟩
  exact final_lift_bind (fun u : ContextScope => t.sessions.Rests handle u.sessions) _ _ _ here fun _ _ => here

theorem rests_flush_context (request : Request) :
    Guarantees (fun t u : ContextScope => t.sessions.Rests handle u.sessions) (flushContext request) := by
  have slots := SessionSlots.rests_steady handle
  have steady : Steady fun t u : ContextScope => t.sessions.Rests handle u.sessions :=
    ⟨fun t => slots.refl t.sessions, fun _ _ _ first second => slots.trans _ _ _ first second⟩
  unfold flushContext
  refine guarantees_lift_bind steady.refl _ _ fun flushed _ => guarantees_get_bind _ _ fun t => ?_
  by_cases session : SessionSlots.isFlushableSession flushed = true
  · rw [if_pos session]
    have left : t.sessions.Rests handle (t.sessions.flush flushed).2 := t.sessions.rests_flush handle _
    dsimp only
    rw [run_set_bind]
    refine final_lift_bind (fun u : ContextScope => t.sessions.Rests handle u.sessions) _ _ _ left fun other _ => ?_
    split
    · exact left
    · exact left
  · rw [if_neg session]
    by_cases transient : ObjectSlots.isTransient flushed = true
    · rw [if_pos transient]
      exact final_lift_bind (fun u : ContextScope => t.sessions.Rests handle u.sessions) _ _ t (slots.refl _)
        fun _ _ => slots.refl _
    · rw [if_neg transient]
      exact slots.refl _

theorem initial_context_save (s : TpmState) (request : Request) :
    Guarantees (fun t u : ContextScope => t.sessions.Initial handle → u.sessions.Initial handle) (contextSave s request) := by
  have steady := steady_of_invariant fun t : ContextScope => t.sessions.Initial handle
  unfold contextSave
  refine guarantees_lift_bind steady.refl _ _ fun named _ => guarantees_get_bind _ _ fun t => ?_
  by_cases exhausted : t.sessions.countersExhausted = true
  · rw [if_pos exhausted]
    exact id
  · rw [if_neg exhausted]
    by_cases ranged : isSessionHandle named = true
    · rw [if_pos ranged]
      refine final_lift_bind (fun u : ContextScope => t.sessions.Initial handle → u.sessions.Initial handle) _ _ t id
        fun result saved => ?_
      obtain ⟨⟨session, id'⟩, slots⟩ := result
      dsimp only at saved ⊢
      rw [run_set_bind]
      simp only [withHandle, map_error_is_ok] at saved
      have left := t.sessions.initial_save handle slots named session id' saved
      exact final_lift_bind (fun u : ContextScope => t.sessions.Initial handle → u.sessions.Initial handle) _ _ _ left
        fun _ _ => left
    · rw [if_neg ranged]
      refine final_lift_bind (fun u : ContextScope => t.sessions.Initial handle → u.sessions.Initial handle) _ _ t id
        fun slot _ => ?_
      dsimp only
      refine final_lift_bind (fun u : ContextScope => t.sessions.Initial handle → u.sessions.Initial handle) _ _ t id
        fun _ _ => id

-- What a load of a context leaves of the sessions, if it brings one back as the table says.
theorem context_load_keeps (holds : SessionSlots → Prop) (s : TpmState) (request : Request)
    (restored : ∀ context session slots next, request.params (Context.unmarshal.withParameter 1) = .ok context →
      session.handle = context.savedHandle → SessionSlots.restore slots session context.sequence = .ok next → holds slots →
        holds next) :
    Guarantees (fun s t : TpmState => holds s.sessions → holds t.sessions) (zoomContext (contextLoad s request)) := by
  refine guarantees_zoom _ _ _ _ fun start => ?_
  let relation : ContextScope → ContextScope → Prop := fun t u => holds t.sessions → holds u.sessions
  have steady : Steady relation := steady_of_invariant fun t : ContextScope => holds t.sessions
  have same : ∀ t u : ContextScope, u.sessions = t.sessions → relation t u := fun t u still held => still ▸ held
  have opened : ∀ context, Guarantees relation (openContext s context) := fun context t =>
    same t _ (congrArg Holding.slots (keeps_holding_open_context s context t))
  have slotted : ∀ slot, Guarantees relation (restoreSlot slot) := by
    intro slot
    refine guarantees_get_bind _ _ fun t => guarantees_lift_bind steady.refl _ _ (fun _ _ => ?_) t
    exact guarantees_bind steady _ _ (guarantees_modify _ _ fun t => same t _ rfl) fun _ => guarantees_pure steady.refl _
  have brought : ∀ context body, request.params (Context.unmarshal.withParameter 1) = .ok context →
      Guarantees relation (restoreSession context body) := by
    intro context body read
    refine guarantees_lift_bind steady.refl _ _ fun session _ => guarantees_guard steady.refl _ _ _ _ fun named => ?_
    refine guarantees_get_bind _ _ fun t => final_lift_bind (relation t) _ _ t (steady.refl t) fun slots back => ?_
    simp only [withParameter, map_error_is_ok] at back
    exact restored context session t.sessions slots read (not_not.mp named) back
  have answered : ∀ handle : UInt32, Guarantees relation (return Response.withHandle handle [] :
      Action TpmRc ContextScope Response) := fun _ => guarantees_pure steady.refl _
  have whole : Guarantees relation (contextLoad s request) := by
    unfold contextLoad
    refine guarantees_lift_bind steady.refl _ _ fun context read => guarantees_get_bind _ _ fun t => ?_
    refine guarantees_lift_bind steady.refl _ _ (fun _ _ => guarantees_guard steady.refl _ _ _ _ fun _ => ?_) t
    refine guarantees_bind steady _ _ (opened context) fun body => ?_
    refine guarantees_ite _ _ _ _ (fun _ => guarantees_bind steady _ _ (brought context body read) answered) fun _ => ?_
    refine guarantees_ite _ _ _ _ (fun _ => ?_) fun _ => guarantees_ite _ _ _ _ (fun _ => ?_) fun _ => ?_
    · exact guarantees_lift_bind steady.refl _ _ fun _ _ => guarantees_bind steady _ _ (slotted _) answered
    · exact guarantees_lift_bind steady.refl _ _ fun _ _ => guarantees_bind steady _ _ (slotted _) answered
    · exact guarantees_bind steady _ _ (guarantees_throw steady.refl _) answered
  exact whole start.contextScope

theorem handlers_spare_sessions :
    (handlers.all fun row => row.2.scope.sparesSessions || (sessionCodes ++ policyHandlers.map (·.1)).contains row.1) =
      true := by
  rfl

-- A command that is not a policy command, and neither saves nor loads a context.
theorem rests_run_command (request : Request) (quiet : isPolicyCommand request.code = false)
    (saves : request.code ≠ Cc.contextSave) (loads : request.code ≠ Cc.contextLoad) :
    Guarantees (Rests handle) (runCommand request) := by
  have steady := rests_is_steady handle
  have of_holding : ∀ {α : Type} (action : TpmM α), Keeps holding action → Guarantees (Rests handle) action :=
    fun action kept s => rests_of_same handle s _ (congrArg Holding.slots (kept s))
  refine guarantees_run_listed _ steady.refl Scope.sparesSessions _ handlers_spare_sessions
    (fun scope action spares => ?_) request fun listed => ?_
  · intro s
    exact rests_of_same handle s _ (congrArg Holding.slots (keeps_holding_zoom scope action spares s))
  · rw [List.mem_append] at listed
    rcases listed with listed | policy
    · simp only [sessionCodes, List.mem_cons, List.not_mem_nil, or_false] at listed
      rcases listed with code | code | code | code | code | code | code | code | code
      · rw [run_command_of request (.plain .context startAuthSession) (by rw [code]; rfl)]
        refine fun s => guarantees_map _ _ _ (?_ : Guarantees (Rests handle) (zoomContext (startAuthSession s request))) s
        exact rests_context handle _ (rests_start_auth_session handle s request)
      · exact absurd code saves
      · exact absurd code loads
      · rw [run_command_of request (.plain .context fun _ => flushContext) (by rw [code]; rfl)]
        refine fun s => guarantees_map _ _ _ (?_ : Guarantees (Rests handle) (zoomContext (flushContext request))) s
        exact rests_context handle _ (rests_flush_context handle request)
      · rw [run_command_of request (.issuing .audit getCommandAuditDigest) (by rw [code]; rfl)]
        have kept : ∀ s, Keeps holding (zoomAudit (getCommandAuditDigest s request)) := fun s =>
          keeps_holding_audit _ (keeps_exclusive_get_command_audit_digest s request)
        exact fun s => of_holding _ (kept s) s
      · rw [run_command_of request (.plain .audit setCommandCodeAuditStatus) (by rw [code]; rfl)]
        refine fun s => guarantees_map _ _ _ (of_holding _ ?_) s
        exact keeps_holding_audit _ (keeps_exclusive_set_command_code_audit_status s request)
      · rw [run_command_of request (.plain .whole fun _ => startup) (by rw [code]; rfl)]
        refine fun s => guarantees_map _ _ _ (?_ : Guarantees (Rests handle) (startup request)) s
        intro s
        have slots := SessionSlots.rests_steady handle
        refine startup_leaves s request (fun holding => s.sessions.Rests handle holding.slots) ⟨slots.refl _, ?_, ?_⟩
        · exact SessionSlots.rests_unloaded handle _ _ rfl (.inr rfl)
        · exact SessionSlots.rests_unloaded handle _ _ rfl (.inl rfl)
      · rw [run_command_of request (.plain .whole fun _ => shutdown) (by rw [code]; rfl)]
        exact fun s => guarantees_map _ _ _ (of_holding _ (keeps_holding_shutdown request)) s
      · rw [run_command_of request (.plain .whole fun _ => clear) (by rw [code]; rfl)]
        exact fun s => guarantees_map _ _ _ (of_holding _ (keeps_holding_clear request)) s
    · obtain ⟨row, member, same⟩ := List.mem_map.mp policy
      have found : isPolicyCommand request.code = true :=
        List.any_eq_true.mpr ⟨row, member, by rw [same]; exact beq_self_eq_true _⟩
      rw [quiet] at found
      cases found

-- Whatever the command is but a policy command, no assertion is made, where no context is loaded or none is saved under
-- the handle.
theorem run_rests (s : TpmState) (locality : UInt8) (octets : Bytes)
    (quiet : ∀ request, parse octets locality = .ok request → isPolicyCommand request.code = false)
    (away : found (parse octets locality) (·.code == Cc.contextLoad) = true → s.sessions.saved.contains handle = false)
    (initial : s.sessions.Initial handle) : (run locality octets s).2.sessions.Initial handle := by
  have undisturbed := rests_undisturbed handle
  let calm : TpmState → TpmState → Prop := fun s t => s.sessions.Initial handle → t.sessions.Initial handle
  have calmSteady : Steady calm := steady_of_invariant fun s : TpmState => s.sessions.Initial handle
  let holds : SessionSlots → Prop := fun slots => slots.saved.contains handle = false ∧ slots.Initial handle
  have elsewhere : ∀ s t : TpmState, Rests handle s t → holds s.sessions → holds t.sessions := fun s t rests held =>
    ⟨rests.away held.1, rests.policy held.2⟩
  -- ContextLoad is the one command that brings a policy state from outside, and only to a handle that is saved.
  by_cases loads : found (parse octets locality) (·.code == Cc.contextLoad) = true
  · refine (run_guarantees (fun s t : TpmState => holds s.sessions → holds t.sessions)
      (undisturbed_imply _ _ undisturbed (steady_of_invariant fun s : TpmState => holds s.sessions) elsewhere) s locality
      octets (fun request parameters parsed => ?_) ⟨away loads, initial⟩).2
    have code : request.code = Cc.contextLoad := by simpa [found, parsed] using loads
    rw [run_command_of { request with parameters } (.plain .context contextLoad) (by rw [code]; rfl)]
    refine fun s => guarantees_map _ _ _ (context_load_keeps holds s _ fun context session slots next _ _ back held => ?_) s
    have rests := slots.rests_restore handle next session context.sequence back held.1
    exact ⟨rests.away held.1, rests.policy held.2⟩
  · have whole := run_guarantees calm (undisturbed_imply _ _ undisturbed calmSteady fun _ _ rests => rests.policy) s locality
      octets fun request parameters parsed => ?_
    · exact whole initial
    · have other : request.code ≠ Cc.contextLoad := by
        intro code
        simp [found, parsed, code] at loads
      -- ContextSave takes the session out of memory, so it keeps what is said of the sessions there.
      by_cases saves : request.code = Cc.contextSave
      · rw [run_command_of { request with parameters } (.issuing .context contextSave) (by rw [saves]; rfl)]
        have saved : ∀ s : TpmState, Guarantees calm (zoomContext (contextSave s { request with parameters })) := by
          intro s
          refine guarantees_zoom _ _ _ _ fun t => ?_
          exact initial_context_save handle s { request with parameters } t.contextScope
        exact fun s => saved s s
      · exact guarantees_imply _ _ _ (rests_run_command handle { request with parameters } (quiet request parsed) saves other)
          fun _ _ rests => rests.policy

-- A session that is not in memory, and that comes back only from a context with the number it was saved under.
def Parked (number : UInt64) (place : Place) : Prop :=
  place.loaded = false ∧ ∀ other, place.saved = some other → other = number

theorem left_parked (number : UInt64) (before after : Place) (left : Place.Left before after)
    (parked : Parked number before) : Parked number after := by
  rcases left with rfl | rfl
  · exact parked
  · exact ⟨rfl, nofun⟩

-- A load of another context leaves it where it is.
theorem restore_parked (number : UInt64) (slots next : SessionSlots) (session : Session) (sequence : UInt64)
    (other : ¬ (session.handle = handle ∧ sequence = number))
    (restored : slots.restore session sequence = .ok next) (parked : Parked number (slots.shape.place handle)) :
    Parked number (next.shape.place handle) := by
  obtain ⟨held, _, rfl⟩ := (slots.restore_is_ok next session sequence).mp restored
  have apart : handle ≠ session.handle := by
    rintro rfl
    exact other ⟨rfl, parked.2 sequence held⟩
  obtain ⟨unloaded, numbered⟩ := parked
  unfold SessionSlots.shape SessionSlots.Shape.place at unloaded numbered ⊢
  refine ⟨?_, fun id saved => numbered id ?_⟩
  · dsimp only at unloaded ⊢
    rw [SessionSlots.kinds_insert, SortedMap.contains_insert, decide_eq_false apart, unloaded]
    rfl
  · dsimp only at saved ⊢
    rw [SortedMap.get_erase_other _ _ _ apart] at saved
    exact saved

theorem run_parked (s : TpmState) (locality : UInt8) (octets : Bytes) (number : UInt64)
    (loads : found (parse octets locality) (·.code == Cc.contextLoad) = true)
    (other : ∀ request context, parse octets locality = .ok request →
      request.params (Context.unmarshal.withParameter 1) = .ok context →
        ¬ (context.savedHandle = handle ∧ context.sequence = number))
    (parked : Parked number (s.sessions.shape.place handle)) :
    Parked number ((run locality octets s).2.sessions.shape.place handle) := by
  have undisturbed := closing_undisturbed (fun footing => Parked number (footing.1.1.place handle))
    fun s t handles left parked => by
      rw [left]
      exact left_parked number _ _ (s.sessions.left_remove_all handles) parked
  refine run_guarantees_plain _ undisturbed s locality octets (fun request names parameters prepared plain => ?_) parked
  have parsed := ((s.prepare_is_ok locality octets request names).mp prepared).2.1
  have code : request.code = Cc.contextLoad := by simpa [found, parsed] using loads
  obtain rfl := plain (parsed_no_sessions octets locality request parsed (by rw [code]; rfl))
  rw [run_command_of { request with parameters := request.parameters } (.plain .context contextLoad) (by rw [code]; rfl)]
  refine fun s => guarantees_map _ _ _ (context_load_keeps (fun slots => Parked number (slots.shape.place handle)) s _
    fun context session slots next read named back parked => ?_) s
  refine restore_parked handle number slots next session context.sequence (fun same => ?_) back parked
  exact other request context parsed read ⟨named ▸ same.1, same.2⟩

-- An event that is not a policy command. The context that brings a session back was given out for it with the number that
-- is in it, since the numbers last began anew: it was not forged.
structure Resting (ledger : List GivenContext × TpmState) (event : Event) : Prop where
  quiet : ∀ locality octets request, event = .command locality octets → parse octets locality = .ok request →
    isPolicyCommand request.code = false
  genuine : ∀ locality octets request context session, event = .command locality octets →
    parse octets locality = .ok request → request.code = Cc.contextLoad →
    request.params (Context.unmarshal.withParameter 1) = .ok context → context.savedHandle = handle →
    ledger.2.sessions.sessions.contains handle = false → (ledger.2.after event).sessions.get handle = .ok session →
      ⟨context.sequence, session.policy⟩ ∈ ledger.1

-- Neither the session in memory nor the context that it may come back from has an assertion in it.
structure Unasserted (ledger : List GivenContext × TpmState) : Prop where
  numbered : Numbered handle ledger
  now : ledger.2.sessions.Initial handle
  kept : ∀ number, ledger.2.sessions.saved.get handle = some number → ∀ context ∈ ledger.1, context.number = number →
    context.policy.Initial

theorem recollect_kept (ledger : List GivenContext × TpmState) (event : Event) (unasserted : Unasserted handle ledger)
    (number : UInt64) (saved : (ledger.2.after event).sessions.saved.get handle = some number) (context : GivenContext)
    (member : context ∈ (recollect handle ledger event).1) (same : context.number = number) : context.policy.Initial := by
  obtain ⟨given, s⟩ := ledger
  change context ∈ SessionSlots.collect handle given s.sessions (s.after event).sessions.shape at member
  unfold SessionSlots.collect at member
  split at member
  · cases member
  rcases List.mem_append.mp member with fresh | old
  · obtain ⟨session, held, _, policy⟩ := SessionSlots.newly_given s.sessions _ context fresh
    exact policy ▸ unasserted.now session held
  · -- An older context with this number would have the number of the session that was in memory.
    rcases event_number handle given s event unasserted.numbered number saved with before | version
    · exact unasserted.kept number before context old same
    · exact absurd same (unasserted.numbered.apart number version context old)

theorem after_unasserted (ledger : List GivenContext × TpmState) (event : Event) (resting : Resting handle ledger event)
    (unasserted : Unasserted handle ledger) : Unasserted handle (recollect handle ledger event) := by
  refine ⟨after_numbered handle ledger event unasserted.numbered, ?_, recollect_kept handle ledger event unasserted⟩
  obtain ⟨given, s⟩ := ledger
  have initial : s.sessions.Initial handle := unasserted.now
  change (s.after event).sessions.Initial handle
  have same : ∀ t : TpmState, t.sessions = s.sessions → t.sessions.Initial handle := fun t same => same ▸ initial
  have flushed : ∀ t : TpmState, t.sessions = s.sessions.flushLoaded → t.sessions.Initial handle := fun t same =>
    same ▸ (SessionSlots.rests_unloaded handle s.sessions s.sessions.flushLoaded rfl (.inl rfl)).policy initial
  cases event with
  | elapse millis =>
      obtain ⟨_, _, _, changed⟩ := s.advance_time_changes millis
      refine same _ ?_
      change (s.advanceTime millis).2.sessions = s.sessions
      rw [changed]
  | command locality octets =>
      have quiet := fun request parsed => resting.quiet locality octets request rfl parsed
      by_cases loads : found (parse octets locality) (·.code == Cc.contextLoad) = true
      · cases saved : s.sessions.saved.get handle with
        | none =>
            exact run_rests handle { s with hcrtmSequence := none } locality octets quiet
              (fun _ => (SortedMap.absent_iff_get _ _).mpr saved) initial
        | some number =>
            have unloaded : (s.sessions.shape.place handle).loaded = false := by
              by_contra loaded
              have unsaved := unasserted.numbered.unsaved (by simpa using loaded)
              change s.sessions.saved.get handle = none at unsaved
              rw [unsaved] at saved
              cases saved
            intro session held
            by_contra asserted
            have parked := run_parked handle { s with hcrtmSequence := none } locality octets number loads
              (fun request context parsed read named => ?_) ⟨unloaded, fun other found => ?_⟩
            · have loaded := (s.after (.command locality octets)).sessions.loaded_kind session held
              exact Bool.false_ne_true (parked.1.symm.trans loaded)
            · -- The context is one that was given out under the recorded number.
              have code : request.code = Cc.contextLoad := by simpa [found, parsed] using loads
              have absent : s.sessions.sessions.contains handle = false := by
                rw [SortedMap.absent_iff_get]
                cases there : s.sessions.sessions.get handle with
                | none => rfl
                | some before =>
                    have loaded := s.sessions.loaded_kind before ((s.sessions.get_is_ok handle before).mpr there)
                    exact absurd (unloaded.symm.trans loaded) Bool.false_ne_true
              have genuine := resting.genuine locality octets request context session rfl parsed code read named.1 absent held
              exact asserted (unasserted.kept number saved _ genuine named.2)
            · exact Option.some.inj (found.symm.trans saved)
      · exact run_rests handle { s with hcrtmSequence := none } locality octets quiet (fun is => absurd is loads) initial
  | powerOn =>
      obtain ⟨_, _, _, _, _, _, _, _, _, _, changed⟩ := s.power_on_changes
      refine flushed _ ?_
      change s.powerOn.sessions = s.sessions.flushLoaded
      rw [changed]
  | powerOff => exact flushed _ rfl
  | hashEnd =>
      obtain ⟨_, _, _, _, changed⟩ := s.hash_end_changes
      refine same _ ?_
      change s.hashEnd.sessions = s.sessions
      rw [changed]
  | nv | physicalPresence | hashStart | hashData => exact same _ rfl

theorem run_unasserted (given : List GivenContext) (s : TpmState) (events : List Event)
    (rests : Every (recollect handle) (Resting handle) (given, s) events) (start : Unasserted handle (given, s)) :
    (s.afterAll events).sessions.Initial handle := by
  have kept := invariant_of_every (recollect handle) (Resting handle) (Unasserted handle) (after_unasserted handle) (given, s)
    events rests start
  rw [← recollected handle (given, s) events]
  exact kept.now

-- A command that authorizes handles leaves each session where it is, or closes it.
theorem command_leaves (request : Request) (s s' : TpmState) (executed : Executed) (octets : Bytes) (locality : UInt8)
    (parsed : parse octets locality = .ok request) (ran : Succeeds (executeRequest request) s executed s')
    (authorizes : 0 < request.info.authHandles) :
    Place.Left (s.sessions.shape.place handle) (s'.sessions.shape.place handle) := by
  obtain ⟨execution⟩ := execution_of_succeeds request s s' executed ran
  have answers := (ensures_of_succeeds _ _ _ _ _ _ _ (respond_answers executed.request executed.reply execution.names
    execution.contexts request.parameters execution.handled) rfl execution.responding).1
  obtain ⟨handles, left, _⟩ := answers.closed
  rw [← authorizing_execution_shape request s s' executed octets locality parsed authorizes execution,
    show s'.sessions.shape = _ from congrArg (·.1.1) left]
  exact execution.handled.sessions.left_remove_all handles

-- On a session without assertions only what has the zero digest for its policy is authorized.
theorem initial_authorizes (t t' : TpmState) (u : Unit) (request : Request) (index : Nat) (entity : Entity) (cp : Bytes)
    (input : SessionInput) (session : Session) (given : request.sessionAt index = .ok input)
    (apart : input.handle ≠ Rh.rsPw) (held : t.sessions.get input.handle = .ok session)
    (policy : session.isPolicy = true) (initial : session.policy.Initial)
    (accepted : Succeeds (checkAuthorization request index entity cp) t u t') :
    ∃ alg size, entity.policy = some (alg, List.replicate size 0) := by
  obtain ⟨attempt, judged, _⟩ := succeeds_check_authorization request index entity cp t t' u accepted
  have facts := t.attempt_of_policy_session request index entity cp input session attempt given apart held policy judged
  obtain ⟨size, made⟩ := initial
  have digest := facts.digest
  unfold checkPolicyDigest at digest
  cases demanded : entity.policy with
  | none =>
      rw [demanded] at digest
      cases digest
  | some pair =>
      obtain ⟨alg, expected⟩ := pair
      rw [demanded] at digest
      obtain ⟨agrees, _⟩ := (refused_is_ok _ _ _ _).mp digest
      rw [not_or, not_not, not_not, made] at agrees
      exact ⟨alg, size, by rw [← agrees.2]⟩

end TpmState

-- What is left of a policy session that authorized a handle of a command. The contexts that were given out for it before
-- are numbered as in any run.
structure TpmState.UsedUp (input : SessionInput) (s : TpmState) : Prop where
  closed : input.attributes.has SessionAttributes.continueSession = false → s.sessions.contains input.handle = false
  restarted : s.sessions.Spent input.handle
  powerless : ∀ given, Numbered input.handle (given, s) →
    ∀ events, Every (recollect input.handle) (Resting input.handle) (given, s) events →
    ∀ (request : Request) (index : Nat) (entity : Entity) (cp : Bytes) (later : SessionInput) (session : Session) (u : Unit)
      (t : TpmState), request.sessionAt index = .ok later → later.handle = input.handle →
      (s.afterAll events).sessions.get later.handle = .ok session → session.isPolicy = true →
      Succeeds (checkAuthorization request index entity cp) (s.afterAll events) u t →
        ∃ alg size, entity.policy = some (alg, List.replicate size 0)

-- However many sessions the command has, and whatever it does.
theorem policy_session_spent (s s' : TpmState) (locality : UInt8) (octets : Bytes) (executed : Executed)
    (ran : Succeeds (TpmState.execute locality octets) s executed s') (request : Request)
    (parsed : parse octets locality = .ok request) (index : Nat) (input : SessionInput)
    (given : request.sessions[index]? = some input) (authorizes : index < request.info.authHandles)
    (apart : input.handle ≠ Rh.rsPw) (session : Session) (held : s.sessions.get input.handle = .ok session)
    (policy : session.isPolicy = true) : s'.UsedUp input := by
  obtain ⟨other, again, succeeded⟩ := TpmState.request_of_execute s s' locality octets executed ran
  obtain rfl := Except.ok.inj (again.symm.trans parsed)
  obtain ⟨spent, gone⟩ := TpmState.command_spends other s s' executed octets locality parsed succeeded index input given
    authorizes apart session held policy
  refine ⟨gone, spent, fun given numbered events rests later position entity cp second session' u t named same held' policy
    accepted => ?_⟩
  have unsaved : s'.sessions.saved.get input.handle = none := by
    have loaded := s.sessions.loaded_kind session held
    have left := TpmState.command_leaves input.handle other s s' executed octets locality parsed succeeded (by omega)
    rcases left with same | gone
    · exact numbered.unsaved ((congrArg Place.loaded same).trans loaded)
    · exact congrArg Place.saved gone
  have initial := TpmState.run_unasserted input.handle given s' events rests
    ⟨numbered, s'.sessions.initial_of_spent _ spent, fun number saved => by rw [unsaved] at saved; cases saved⟩
  exact TpmState.initial_authorizes _ t u later position entity cp second session' named (same ▸ apart) held' policy
    (initial session' (same ▸ held')) accepted

end

namespace Toy

-- A policy session for a change of an authValue of a hierarchy.
def changePolicySession : List Bytes := [startSession Se.policy,
  plainCommand Cc.policyCommandCode [policyHandle] (be32 Cc.hierarchyChangeAuth)]

def changePolicy : Bytes :=
  ((afterCommands changePolicySession booted).sessions.get policyHandle).toOption.elim [] (·.policy.digest)

-- The owner hierarchy has that for its policy.
def openOwner : TpmState :=
  afterCommands (changePolicySession ++ [authorizedCommand Cc.setPrimaryPolicy [Rh.owner] [(Rh.rsPw, [])]
    (sized16 changePolicy ++ be16 Alg.sha256)]) booted

def changeOwnerAuth : Bytes :=
  authorizedCommand Cc.hierarchyChangeAuth [Rh.owner] [(policyHandle, [])] (sized16 [])

def keptSession : SessionInput := ⟨policyHandle, [], ⟨SessionAttributes.continueSession⟩, []⟩

theorem owner_session_spent : ∃ session executed s', openOwner.sessions.get policyHandle = .ok session ∧
    session.policy.commandCode = some Cc.hierarchyChangeAuth ∧ session.policy.digest ≠ List.replicate 32 0 ∧
    Succeeds (TpmState.execute 0 changeOwnerAuth) openOwner executed s' ∧ s'.UsedUp keptSession := by
  obtain ⟨executed, s', ran, _⟩ := succeeds_of_ends_with (TpmState.execute 0 changeOwnerAuth) openOwner (fun _ _ => true)
    (by decide +kernel)
  obtain ⟨request, parsed, facts⟩ := ok_of_found (parse changeOwnerAuth 0) (fun request =>
    decide (request.sessions[0]? = some keptSession) && decide (0 < request.info.authHandles)) (by decide +kernel)
  simp only [Bool.and_eq_true, decide_eq_true_eq] at facts
  obtain ⟨session, held, asserted⟩ := ok_of_found (openOwner.sessions.get policyHandle) (fun session =>
    session.isPolicy && decide (session.policy.commandCode = some Cc.hierarchyChangeAuth ∧
      session.policy.digest ≠ List.replicate 32 0)) (by decide +kernel)
  simp only [Bool.and_eq_true, decide_eq_true_eq] at asserted
  obtain ⟨policy, code, digest⟩ := asserted
  exact ⟨session, executed, s', held, code, digest, ran, policy_session_spent openOwner s' 0 changeOwnerAuth executed ran
    request parsed 0 _ facts.1 facts.2 (by decide) session held policy⟩

end Toy

end Swtrust
