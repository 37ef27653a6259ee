import Swtrust.Authorization.Binding
import Swtrust.Policy.Expiration
import Swtrust.Session.Table

set_option autoImplicit false
set_option linter.unusedSectionVars false

namespace Swtrust

open Library Action

section

variable [Primitives]

-- A session on which nothing has been asserted yet.
def Session.Fresh (session : Session) : Prop :=
  ∃ size, Hash.digestSize session.authHash = .ok size ∧ session.policy = { digest := List.replicate size 0 }

theorem restart_policy_fresh (session restarted : Session) (made : session.restartPolicy = .ok restarted) :
    restarted.Fresh ∧ restarted.sessionType = session.sessionType ∧ restarted.authHash = session.authHash := by
  simp only [Session.restartPolicy, bind_is_ok, pure_is_ok] at made
  obtain ⟨size, sized, rfl⟩ := made
  exact ⟨⟨size, sized, rfl⟩, rfl, rfl⟩

theorem restart_policy_succeeds (session : Session) (size : Nat) (sized : Hash.digestSize session.authHash = .ok size) :
    ∃ restarted, session.restartPolicy = .ok restarted := by
  unfold Session.restartPolicy
  rw [sized]
  exact ⟨_, rfl⟩

-- What may become of a session that no handler touches: it is the same but for its policy state, which is kept or made
-- anew.
structure Session.Closing (before after : Session) : Prop where
  sessionType : after.sessionType = before.sessionType
  authHash : after.authHash = before.authHash
  policy : after.policy = before.policy ∨ after.Fresh

theorem Session.closing_refl (session : Session) : session.Closing session := ⟨rfl, rfl, .inl rfl⟩

theorem Session.fresh_of_closing (before after : Session) (closing : before.Closing after) (fresh : before.Fresh) :
    after.Fresh := by
  rcases closing.policy with same | anew
  · obtain ⟨size, sized, policy⟩ := fresh
    exact ⟨size, closing.authHash ▸ sized, same.trans policy⟩
  · exact anew

namespace SessionSlots

-- The session under the handle, if there is one, has its policy still to be asserted.
def Spent (slots : SessionSlots) (handle : UInt32) : Prop :=
  ∀ session, slots.get handle = .ok session → session.Fresh

-- The session under the handle, if there is one, is one that can be made to start over.
def Restartable (slots : SessionSlots) (handle : UInt32) : Prop :=
  ∀ session, slots.get handle = .ok session → session.isPolicy = true ∧ ∃ size, Hash.digestSize session.authHash = .ok size

theorem get_put (slots : SessionSlots) (handle other : UInt32) (session : Session) :
    (slots.put handle session).get other = if other = handle then .ok session else slots.get other := by
  by_cases same : other = handle
  · rw [if_pos same, same, get_put_same]
  · rw [if_neg same, get_put_other _ _ _ _ same]

theorem get_remove_same (slots : SessionSlots) (handle : UInt32) : (slots.remove handle).get handle = .error Rc.handle := by
  unfold get remove
  dsimp only
  rw [SortedMap.get_erase_same]

theorem contains_remove_same (slots : SessionSlots) (handle : UInt32) : (slots.remove handle).contains handle = false := by
  unfold contains remove SortedMap.contains
  dsimp only
  rw [SortedMap.get_erase_same, SortedMap.get_erase_same]
  rfl

theorem contains_of_get (slots : SessionSlots) (handle : UInt32) (session : Session)
    (held : slots.get handle = .ok session) : slots.contains handle = true := by
  have found := (slots.get_is_ok handle session).mp held
  unfold contains SortedMap.contains
  rw [found]
  rfl

theorem contains_put_held (slots : SessionSlots) (handle other : UInt32) (before session : Session)
    (held : slots.get handle = .ok before) : (slots.put handle session).contains other = slots.contains other := by
  by_cases same : other = handle
  · rw [same, contains_of_get _ _ _ held, contains_of_get _ _ session (slots.get_put_same handle session)]
  · unfold contains put SortedMap.contains
    dsimp only
    rw [SortedMap.get_insert_other _ _ _ _ same]

end SessionSlots

namespace TpmState

-- The session that is left open, with what auditing and authorizing take from it.
theorem close_session_keeps (request : Request) (index : Nat) (input : SessionInput) (s : TpmState) (handle : UInt32)
    (after : Session) (held : (closeSession request index input s).sessions.get handle = .ok after) :
    ∃ before, s.sessions.get handle = .ok before ∧ before.Closing after := by
  have removed : ∀ t : TpmState, t.sessions = s.sessions.remove input.handle → t.sessions.get handle = .ok after →
      s.sessions.get handle = .ok after := by
    intro t same found
    rw [same] at found
    by_cases here : handle = input.handle
    · rw [here, SessionSlots.get_remove_same] at found
      cases found
    · rw [SessionSlots.get_remove_other _ _ _ here] at found
      exact found
  unfold closeSession at held
  by_cases password : input.handle = Rh.rsPw
  · rw [if_pos password] at held
    exact ⟨after, held, after.closing_refl⟩
  · rw [if_neg password] at held
    split at held
    · dsimp only at held
      split at held
      · exact ⟨after, removed _ rfl held, after.closing_refl⟩
      · exact ⟨after, removed _ rfl held, after.closing_refl⟩
    · cases found : s.sessions.get input.handle with
      | error e =>
          rw [found] at held
          exact ⟨after, held, after.closing_refl⟩
      | ok session =>
          rw [found] at held
          dsimp only [putSession] at held
          rw [SessionSlots.get_put] at held
          by_cases here : handle = input.handle
          · rw [if_pos here] at held
            refine ⟨session, here ▸ found, ?_⟩
            have unbound : ∀ base : Session, session.Closing base → session.Closing (rearmed request index base) := by
              intro base closing
              unfold rearmed
              split
              · cases made : base.restartPolicy with
                | ok restarted =>
                    obtain ⟨fresh, type, hash⟩ := restart_policy_fresh base restarted made
                    exact ⟨type.trans closing.sessionType, hash.trans closing.authHash, .inr fresh⟩
                | error e => exact closing
              · exact closing
            obtain rfl := Except.ok.inj held
            refine unbound _ ?_
            split
            · exact ⟨rfl, rfl, .inl rfl⟩
            · exact session.closing_refl
          · rw [if_neg here] at held
            exact ⟨after, held, after.closing_refl⟩

theorem close_session_contains (request : Request) (index : Nat) (input : SessionInput) (s : TpmState) (handle : UInt32)
    (gone : s.sessions.contains handle = false) :
    (closeSession request index input s).sessions.contains handle = false := by
  have removed : (s.sessions.remove input.handle).contains handle = false := by
    by_cases here : handle = input.handle
    · rw [here]
      exact SessionSlots.contains_remove_same _ _
    · rw [SessionSlots.contains_remove_other _ _ _ here]
      exact gone
  unfold closeSession
  split
  · exact gone
  · split
    · dsimp only
      split
      · exact removed
      · exact removed
    · split
      · exact gone
      next session found =>
        dsimp only [putSession]
        rw [SessionSlots.contains_put_held _ _ _ _ _ found]
        exact gone

-- Closing a session that authorized a handle takes from it what it had asserted.
theorem close_session_spends (request : Request) (index : Nat) (input : SessionInput) (s : TpmState)
    (authorizes : index < request.info.authHandles) (apart : input.handle ≠ Rh.rsPw)
    (restartable : s.sessions.Restartable input.handle) :
    (closeSession request index input s).sessions.Spent input.handle ∧
      (input.attributes.has SessionAttributes.continueSession = false →
        (closeSession request index input s).sessions.contains input.handle = false) := by
  unfold closeSession
  rw [if_neg apart]
  cases continues : input.attributes.has SessionAttributes.continueSession with
  | false =>
      have spent : (s.sessions.remove input.handle).Spent input.handle := by
        intro session held
        rw [SessionSlots.get_remove_same] at held
        cases held
      have gone := SessionSlots.contains_remove_same s.sessions input.handle
      simp only [Bool.not_false, if_true]
      split
      · exact ⟨spent, fun _ => gone⟩
      · exact ⟨spent, fun _ => gone⟩
  | true =>
      simp only [Bool.not_true, Bool.false_eq_true, if_false]
      refine ⟨?_, nofun⟩
      cases found : s.sessions.get input.handle with
      | error e =>
          intro session held
          rw [found] at held
          cases held
      | ok session =>
          obtain ⟨policy, size, sized⟩ := restartable session found
          intro after held
          dsimp only [putSession] at held
          rw [SessionSlots.get_put_same] at held
          have restarts : ∀ base : Session, base.isPolicy = true → base.authHash = session.authHash →
              (rearmed request index base).Fresh := by
            intro base stays hash
            obtain ⟨restarted, made⟩ := restart_policy_succeeds base size (hash ▸ sized)
            unfold rearmed
            rw [if_pos ⟨authorizes, stays⟩, made]
            exact (restart_policy_fresh base restarted made).1
          obtain rfl := Except.ok.inj held
          refine restarts _ ?_ ?_
          · split
            · exact policy
            · exact policy
          · split
            · rfl
            · rfl

theorem close_session_spent (request : Request) (index : Nat) (input : SessionInput) (s : TpmState) (handle : UInt32)
    (spent : s.sessions.Spent handle) : (closeSession request index input s).sessions.Spent handle := by
  intro after held
  obtain ⟨before, found, closing⟩ := close_session_keeps request index input s handle after held
  exact before.fresh_of_closing after closing (spent before found)

theorem close_session_restartable (request : Request) (index : Nat) (input : SessionInput) (s : TpmState)
    (handle : UInt32) (restartable : s.sessions.Restartable handle) :
    (closeSession request index input s).sessions.Restartable handle := by
  intro after held
  obtain ⟨before, found, closing⟩ := close_session_keeps request index input s handle after held
  obtain ⟨policy, size, sized⟩ := restartable before found
  refine ⟨?_, size, ?_⟩
  · rw [Session.isPolicy, closing.sessionType]
    exact policy
  · rw [closing.authHash]
    exact sized

-- The sessions are closed one after the other, and none of the later ones undoes it.
theorem close_sessions_spend (request : Request) (inputs : List SessionInput) (first : Nat) (s : TpmState) (index : Nat)
    (input : SessionInput) (given : inputs[index]? = some input) (authorizes : first + index < request.info.authHandles)
    (apart : input.handle ≠ Rh.rsPw) (restartable : s.sessions.Restartable input.handle) :
    (closeSessionsFrom request first inputs s).sessions.Spent input.handle ∧
      (input.attributes.has SessionAttributes.continueSession = false →
        (closeSessionsFrom request first inputs s).sessions.contains input.handle = false) := by
  -- A later session of the request may have the same handle: it closes the session or lets it start over once more.
  have later : ∀ (rest : List SessionInput) (first : Nat) (t : TpmState), t.sessions.Spent input.handle →
      (closeSessionsFrom request first rest t).sessions.Spent input.handle := by
    intro rest
    induction rest with
    | nil => exact fun _ _ spent => spent
    | cons head rest ih => exact fun first t spent => ih (first + 1) _ (close_session_spent request first head t _ spent)
  have away : ∀ (rest : List SessionInput) (first : Nat) (t : TpmState), t.sessions.contains input.handle = false →
      (closeSessionsFrom request first rest t).sessions.contains input.handle = false := by
    intro rest
    induction rest with
    | nil => exact fun _ _ gone => gone
    | cons head rest ih => exact fun first t gone => ih (first + 1) _ (close_session_contains request first head t _ gone)
  induction inputs generalizing first s index with
  | nil => simp at given
  | cons head rest ih =>
      cases index with
      | zero =>
          obtain rfl := Option.some.inj given
          obtain ⟨spent, gone⟩ := close_session_spends request first head s authorizes apart restartable
          exact ⟨later rest _ _ spent, fun ends => away rest _ _ (gone ends)⟩
      | succ index =>
          refine ih (first + 1) _ index given (by omega) ?_
          exact close_session_restartable request first head s _ restartable

end TpmState

theorem sized_of_hashed (hashAlg : UInt16) (parts : List Bytes) (digest : Bytes)
    (made : Hash.digestParts hashAlg parts = .ok digest) : ∃ size, Hash.digestSize hashAlg = .ok size :=
  ⟨_, Hash.digest_length hashAlg _ digest made⟩

theorem map_each_at {α β : Type} (make : Nat → α → TpmResult β) (first : Nat) (given : List α) (made : List β)
    (mapped : mapEach make first given = .ok made) (index : Nat) (a : α) (here : given[index]? = some a) :
    ∃ b, make (first + index) a = .ok b := by
  induction given generalizing first index made with
  | nil => simp at here
  | cons head rest ih =>
      simp only [mapEach, bind_is_ok] at mapped
      obtain ⟨b, built, others, mapped, _⟩ := mapped
      cases index with
      | zero =>
          obtain rfl := Option.some.inj here
          exact ⟨b, built⟩
      | succ index =>
          obtain ⟨c, found⟩ := ih (first + 1) others mapped index here
          exact ⟨c, by rw [← found]; congr 1; omega⟩

namespace TpmState

-- The response of a session is built under its hash.
theorem response_session_sized (s : TpmState) (request : Request) (parameters : Bytes) (nonces : List Bytes)
    (contexts : List AuthContext) (index : Nat) (input : SessionInput) (octets : Bytes) (apart : input.handle ≠ Rh.rsPw)
    (session : Session) (held : s.sessions.get input.handle = .ok session)
    (built : s.responseSession request parameters nonces contexts index input = .ok octets) :
    ∃ size, Hash.digestSize session.authHash = .ok size := by
  unfold responseSession at built
  rw [if_neg apart] at built
  dsimp only at built
  rw [held] at built
  simp only [bind_is_ok] at built
  obtain ⟨rp, hashed, _⟩ := built
  exact sized_of_hashed _ _ _ hashed

-- The state in which the sessions of a request are closed.
structure Closed (request : Request) (s u s' : TpmState) : Prop where
  shape : u.sessions.shape = s.sessions.shape
  sized : ∀ (index : Nat) (input : SessionInput) (session : Session), request.sessions[index]? = some input →
    input.handle ≠ Rh.rsPw →
    u.sessions.get input.handle = .ok session → ∃ size, Hash.digestSize session.authHash = .ok size
  left : s'.sessions = (closeSessions request u).sessions

theorem flush_if_needed_sessions (request : Request) (s : TpmState) : (flushIfNeeded request s).sessions = s.sessions := by
  unfold flushIfNeeded
  split
  · rfl
  · split
    · rfl
    · rfl

theorem respond_closes (request : Request) (reply : Reply) (names : List Bytes) (contexts : List AuthContext)
    (commandParameters octets : Bytes) (s s' : TpmState) (tagged : request.tag = St.sessions)
    (ran : Succeeds (respond request reply names contexts commandParameters) s octets s') :
    ∃ u, Closed request s u s' := by
  simp only [respond, if_pos tagged, succeeds_bind, succeeds_get, succeeds_lift, succeeds_modify, succeeds_pure] at ran
  obtain ⟨nonces, t, rolled, _, _, ⟨rfl, rfl⟩, _, _, ⟨rfl, rfl⟩, parameters, _, ⟨_, rfl⟩, _, u, audited, _, _, ⟨rfl, rfl⟩,
    area, _, ⟨built, rfl⟩, _, _, rfl, _, rfl⟩ := ran
  have first := keeps_succeeds _ _ _ _ _ (keeps_outline_roll_response_nonces _) rolled
  have second := ensures_of_succeeds _ _ _ _ _ _ _ (update_audit_exclusive request names commandParameters parameters
    s.footing s.audit.exclusiveSession) first audited
  refine ⟨_, ⟨s.shape_of_footing _ (congrArg Prod.fst second), ?_, flush_if_needed_sessions request _⟩⟩
  intro index input session given apart held
  simp only [buildResponseSessions, map_is_ok] at built
  obtain ⟨octets, mapped, _⟩ := built
  obtain ⟨built, made⟩ := map_each_at _ 0 _ _ mapped index input given
  exact response_session_sized _ request parameters nonces _ _ input built apart session held made

end TpmState

theorem parsed_tagged (octets : Bytes) (locality : UInt8) (request : Request)
    (parsed : parse octets locality = .ok request) (given : request.sessions ≠ []) : request.tag = St.sessions := by
  simp only [parse, bind_is_ok] at parsed
  obtain ⟨header, _, parsed⟩ := parsed
  split at parsed
  · cases parsed
  next info _ =>
    simp only [bind_is_ok, pure_is_ok] at parsed
    obtain ⟨⟨⟨handles, sessions⟩, parameters⟩, read, rfl⟩ := parsed
    dsimp only at given ⊢
    by_contra untagged
    rw [StateT.run_bind, bind_is_ok] at read
    obtain ⟨_, _, read⟩ := read
    simp only [untagged, if_false] at read
    split at read
    · cases read
    · cases read
      exact given rfl

-- A command that authorizes handles neither starts nor ends a session, and saves or loads none.
theorem authorizing_move_shape (code : UInt32) (info : CommandInfo) (found : Table.lookup code = some info)
    (authorizes : 0 < info.authHandles) (before after : Holding) (move : Move code before after) :
    after.slots.shape = before.slots.shape := by
  have none : ∀ other : UInt32, code = other → (Table.lookup other).map (·.authHandles) = some 0 → False := by
    intro other same listed
    rw [← same, found] at listed
    have zero : info.authHandles = 0 := Option.some.inj listed
    omega
  cases move with
  | same _ still _ => exact congrArg Prod.fst still
  | start coded => exact (none _ coded (by rfl)).elim
  | save coded => exact (none _ coded (by rfl)).elim
  | count coded => exact (none _ coded (by rfl)).elim
  | load coded => exact (none _ coded (by rfl)).elim
  | flush coded => exact (none _ coded (by rfl)).elim
  | clear coded => exact (none _ coded (by rfl)).elim
  | flushLoaded coded => exact (none _ coded (by rfl)).elim

-- A session of the same shape is of the same type.
theorem SessionSlots.policy_of_shape (before after : SessionSlots) (same : after.shape = before.shape) (handle : UInt32)
    (session next : Session) (held : before.get handle = .ok session) (left : after.get handle = .ok next) :
    next.isPolicy = session.isPolicy := by
  have kinds : ∀ (slots : SessionSlots) (session : Session), slots.get handle = .ok session →
      slots.shape.kinds.get handle = some session.kind := by
    intro slots session held
    unfold shape
    rw [SortedMap.get_map_values, (slots.get_is_ok handle session).mp held]
    rfl
  have kind := (kinds after next left).symm.trans (same ▸ kinds before session held)
  have type : next.sessionType = session.sessionType := congrArg Prod.snd (Option.some.inj kind)
  rw [Session.isPolicy, Session.isPolicy, type]

namespace TpmState

-- The handler may assert on a session, as PolicyNV does when it is authorized by the one it names, but not replace it.
theorem authorizing_execution_shape (request : Request) (s s' : TpmState) (executed : Executed) (octets : Bytes)
    (locality : UInt8) (parsed : parse octets locality = .ok request) (authorizes : 0 < request.info.authHandles)
    (execution : Execution request s executed s') : execution.handled.sessions.shape = s.sessions.shape := by
  have moved := run_command_moves executed.request { execution.authorized with commandAuditSuppressed := false }
  have ran : final (runCommand executed.request { execution.authorized with commandAuditSuppressed := false }) =
      execution.handled := by
    rw [show runCommand executed.request _ = _ from execution.running]
    rfl
  rw [ran, execution.same_code] at moved
  have still := authorizing_move_shape request.code request.info (parsed_handles octets locality request parsed).1
    authorizes _ _ moved
  exact still.trans (congrArg SessionSlots.shape execution.authorized_sessions)

-- Every policy session that authorized a handle of a command is gone after it or starts over.
theorem command_spends (request : Request) (s s' : TpmState) (executed : Executed) (octets : Bytes) (locality : UInt8)
    (parsed : parse octets locality = .ok request) (ran : Succeeds (executeRequest request) s executed s')
    (index : Nat) (input : SessionInput) (given : request.sessions[index]? = some input)
    (authorizes : index < request.info.authHandles) (apart : input.handle ≠ Rh.rsPw) (session : Session)
    (held : s.sessions.get input.handle = .ok session) (policy : session.isPolicy = true) :
    s'.sessions.Spent input.handle ∧ (input.attributes.has SessionAttributes.continueSession = false →
      s'.sessions.contains input.handle = false) := by
  obtain ⟨execution⟩ := execution_of_succeeds request s s' executed ran
  obtain ⟨parameters, same⟩ := execution.request_changes
  -- Without sessions no response area is built, and it is the response that shows the hash to be one that is supported.
  have tagged : request.tag = St.sessions := by
    refine parsed_tagged octets locality request parsed fun none => ?_
    rw [none] at given
    simp at given
  obtain ⟨u, closed⟩ := respond_closes _ _ _ _ _ _ _ _ (by rw [same]; exact tagged) execution.responding
  have shape : u.sessions.shape = s.sessions.shape :=
    closed.shape.trans (authorizing_execution_shape request s s' executed octets locality parsed (by omega) execution)
  have restartable : u.sessions.Restartable input.handle := by
    intro next left
    refine ⟨?_, closed.sized index input next ?_ apart left⟩
    · rw [SessionSlots.policy_of_shape s.sessions u.sessions shape input.handle session next held left]
      exact policy
    · rw [execution.same_sessions]
      exact given
  have spent := close_sessions_spend executed.request executed.request.sessions 0 u index input
    (by rw [execution.same_sessions]; exact given) (by rw [same]; simpa using authorizes) apart restartable
  rw [closed.left]
  exact spent

end TpmState

end

end Swtrust
