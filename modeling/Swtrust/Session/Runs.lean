import Swtrust.Session.Moves

set_option autoImplicit false
set_option linter.unusedSectionVars false

namespace Swtrust

open Library Action

namespace SessionSlots

theorem contains_of_shape (a b : SessionSlots) (same : a.shape = b.shape) (handle : UInt32) :
    a.contains handle = b.contains handle := by
  have loaded : ∀ slots : SessionSlots, slots.sessions.contains handle = slots.shape.kinds.contains handle := by
    intro slots
    unfold SortedMap.contains shape
    rw [SortedMap.get_map_values]
    cases slots.sessions.get handle <;> rfl
  unfold contains
  rw [loaded a, loaded b, same, show a.saved = b.saved from congrArg Shape.saved same]

theorem shape_remove (slots : SessionSlots) (handle : UInt32) :
    (slots.remove handle).shape = { slots.shape with
      kinds := slots.shape.kinds.erase handle
      saved := slots.saved.erase handle
      version := slots.version.erase handle } := by
  have erased : (slots.sessions.erase handle).mapValues (fun _ session => session.kind) =
      (slots.sessions.mapValues fun _ session => session.kind).erase handle :=
    slots.sessions.map_values_erase _ handle
  unfold shape remove
  rw [erased]

theorem makes_remove (slots : SessionSlots) (handle : UInt32) : (slots.remove handle).makes = slots.makes.erase handle :=
  slots.sessions.map_values_erase _ handle

theorem still_remove_congr (a b : SessionSlots) (same : a.still = b.still) (handle : UInt32) :
    (a.remove handle).still = (b.remove handle).still := by
  have shape : a.shape = b.shape := congrArg Prod.fst same
  have makes : a.makes = b.makes := congrArg Prod.snd same
  unfold still
  rw [shape_remove, shape_remove, makes_remove, makes_remove, shape, makes,
    show a.saved = b.saved from congrArg Shape.saved shape, show a.version = b.version from congrArg Shape.version shape]

theorem contains_remove_other (slots : SessionSlots) (handle other : UInt32) (apart : other ≠ handle) :
    (slots.remove handle).contains other = slots.contains other := by
  unfold contains remove SortedMap.contains
  rw [SortedMap.get_erase_other _ _ _ apart, SortedMap.get_erase_other _ _ _ apart]

end SessionSlots

section

variable [Primitives]

namespace TpmState

-- What a response finds of the sessions, and of the audit of commands.
abbrev Footing := (SessionSlots.Shape × SortedMap UInt32 Session.Make) × UInt16

def footing (s : TpmState) : Footing := (s.sessions.still, s.audit.alg)

def outline (s : TpmState) : Footing × UInt32 := (s.footing, s.audit.exclusiveSession)

theorem shape_of_footing (s t : TpmState) (same : t.footing = s.footing) : t.sessions.shape = s.sessions.shape :=
  congrArg (·.1.1) same

theorem outline_put_session (s : TpmState) (handle : UInt32) (session next : Session)
    (held : s.sessions.get handle = .ok session) (same : next.traits = session.traits) :
    (s.putSession handle next).outline = s.outline :=
  congrArg (fun still => ((still, s.audit.alg), s.audit.exclusiveSession)) (s.sessions.still_put handle session next held same)

theorem keeps_outline_roll_response_nonces (inputs : List SessionInput) : Keeps outline (rollResponseNonces inputs) := by
  induction inputs with
  | nil => exact keeps_pure _ _
  | cons input rest ih =>
      intro s
      unfold rollResponseNonces
      rw [run_get_bind]
      by_cases password : input.handle = Rh.rsPw
      · simp only [password, if_true]
        exact keeps_bind _ _ _ ih (fun _ => keeps_pure _ _) s
      · simp only [password, if_false]
        cases held : s.sessions.get input.handle with
        | error e => exact keeps_bind _ _ _ ih (fun _ => keeps_pure _ _) s
        | ok session =>
            dsimp only
            have drawn : Keeps (fun s : TpmState => (s.sessions, s.audit)) (zoomRng (Drbg.bytes session.nonceTpm.length)) :=
              keeps_zoom _ _ _ _ fun _ _ => rfl
            have kept := drawn s
            have outlined : ∀ u : TpmState, (u.sessions, u.audit) = (s.sessions, s.audit) → u.outline = s.outline :=
              fun u same => congrArg (fun pair : SessionSlots × _ => ((pair.1.still, pair.2.alg), pair.2.exclusiveSession)) same
            refine final_bind (fun u => u.outline = s.outline) _ _ s (fun nonceTpm u ran => ?_) fun e u ran => ?_
            · have length : nonceTpm.length = session.nonceTpm.length := by
                obtain ⟨_, octets, _⟩ := (succeeds_zoom _ _ _ _ _ _).mp ran
                exact Drbg.bytes_length _ _ _ _ octets
              rw [ran] at kept
              have still : u.sessions = s.sessions := congrArg Prod.fst kept
              rw [run_modify_bind]
              have rolled := keeps_bind _ _ _ ih (fun nonces => keeps_pure outline (nonceTpm :: nonces))
                (u.putSession input.handle { session with nonceTpm, nonceCaller := input.nonceCaller })
              have put := u.outline_put_session input.handle session { session with nonceTpm, nonceCaller := input.nonceCaller }
                (by rw [still]; exact held) (session.traits_of_nonces _ _ length)
              exact rolled.trans (put.trans (outlined u kept))
            · rw [ran] at kept
              exact outlined u kept

theorem keeps_outline_audit_session (request : Request) (names : List Bytes) (input : SessionInput)
    (commandParameters responseParameters : Bytes) :
    Keeps outline (auditSession request names input commandParameters responseParameters) := by
  intro s
  simp only [auditSession, run_get_bind]
  cases held : s.sessions.get input.handle with
  | error e => rfl
  | ok session =>
      simp only [run_lift_bind]
      split
      · split
        · split
          · exact s.outline_put_session input.handle session _ held rfl
          · rfl
        · rfl
      · rfl

theorem keeps_outline_audit_command (request : Request) (names : List Bytes)
    (commandParameters responseParameters : Bytes) :
    Keeps outline (auditCommand request names commandParameters responseParameters) := by
  unfold auditCommand
  refine keeps_bind _ _ _ (keeps_get _) fun s => ?_
  iterate 3 refine keeps_lift_bind _ _ _ fun _ => ?_
  refine keeps_bind _ _ _ (keeps_modify _ _ fun s => ?_) fun _ => ?_
  · split <;> rfl
  · refine keeps_bind _ _ _ (keeps_get _) fun s => keeps_lift_bind _ _ _ fun _ => ?_
    exact keeps_modify _ _ fun _ => rfl

-- The session that audits a command, and the one that is exclusive once it did.
def auditorOf (request : Request) : Option UInt32 :=
  (auditSessionIndex request).bind fun index => request.sessions[index]?.map (·.handle)

def exclusiveAfter (request : Request) (exclusive : UInt32) : UInt32 :=
  match auditorOf request with
  | some handle => handle
  | none => if keepsExclusiveAudit request.code then exclusive else Rh.unassigned

theorem update_audit_exclusive (request : Request) (names : List Bytes) (commandParameters responseParameters : Bytes)
    (footing : Footing) (exclusive : UInt32) :
    Ensures (fun s => s.outline = (footing, exclusive)) (updateAudit request names commandParameters responseParameters)
      (fun _ s => s.outline = (footing, exclusiveAfter request exclusive))
      (fun s => s.outline = (footing, exclusive) ∨ s.outline = (footing, exclusiveAfter request exclusive)) := by
  have commandAudit : Keeps outline (do
      if (← get).commandAuditApplies request.code then
        auditCommand request names commandParameters responseParameters : TpmM Unit) :=
    keeps_bind _ _ _ (keeps_get _) fun s =>
      keeps_ite _ _ _ _ (keeps_outline_audit_command request names _ _) (keeps_pure _ _)
  have last : Ensures (fun s : TpmState => s.outline = (footing, exclusiveAfter request exclusive)) (do
      if (← get).commandAuditApplies request.code then
        auditCommand request names commandParameters responseParameters : TpmM Unit)
      (fun _ s => s.outline = (footing, exclusiveAfter request exclusive))
      (fun s => s.outline = (footing, exclusive) ∨ s.outline = (footing, exclusiveAfter request exclusive)) :=
    ensures_imply _ _ _ _ _ _ (ensures_of_keeps outline (· = (footing, exclusiveAfter request exclusive)) _ commandAudit)
      (fun _ _ => id) fun _ => .inr
  unfold updateAudit
  cases audited : auditSessionIndex request with
  | none =>
      have auditor : auditorOf request = none := by simp [auditorOf, audited]
      by_cases kept : keepsExclusiveAudit request.code = true
      · simp only [kept, Bool.not_true, Bool.false_eq_true, if_false]
        have same : exclusiveAfter request exclusive = exclusive := by simp [exclusiveAfter, auditor, kept]
        rw [same] at last ⊢
        exact last
      · simp only [kept, Bool.not_false, if_true]
        have dropped : exclusiveAfter request exclusive = Rh.unassigned := by simp [exclusiveAfter, auditor, kept]
        refine ensures_bind _ _ _ (fun _ s => s.outline = (footing, exclusiveAfter request exclusive)) _ _ ?_ fun _ => last
        intro s found
        rw [dropped]
        exact congrArg (fun outline => (outline.1, Rh.unassigned)) found
  | some index =>
      intro s found
      simp only [run_lift_bind]
      cases named : request.sessionAt index with
      | error e => exact .inl found
      | ok input =>
          have auditor : auditorOf request = some input.handle := by
            unfold Request.sessionAt at named
            split at named
            next here =>
              obtain rfl := Except.ok.inj named
              simp [auditorOf, audited, here]
            next => cases named
          have handed : exclusiveAfter request exclusive = input.handle := by simp [exclusiveAfter, auditor]
          refine ensures_bind (fun s : TpmState => s.outline = (footing, exclusive)) _ _
            (fun _ s => s.outline = (footing, exclusive)) _ _ ?_ (fun _ => ?_) s found
          · exact ensures_imply _ _ _ _ _ _ (ensures_of_keeps outline (· = (footing, exclusive)) _
              (keeps_outline_audit_session request names input _ _)) (fun _ _ => id) fun _ => .inl
          · refine ensures_bind _ _ _ (fun _ s => s.outline = (footing, exclusiveAfter request exclusive)) _ _ ?_ fun _ => last
            intro s found
            rw [handed]
            exact congrArg (fun outline => (outline.1, input.handle)) found

-- Sessions of the request are closed, and the exclusive one with its exclusivity.
structure Closes (request : Request) (s t : TpmState) : Prop where
  closed : ∃ handles : List UInt32, t.footing = ((handles.foldl SessionSlots.remove s.sessions).still, s.audit.alg) ∧
    ∀ handle ∈ handles, ∃ input ∈ request.sessions, input.handle = handle
  exclusive : t.audit.exclusiveSession = Rh.unassigned ∨ t.audit.exclusiveSession = s.audit.exclusiveSession ∧
    (s.sessions.contains s.audit.exclusiveSession = true → t.sessions.contains s.audit.exclusiveSession = true)

theorem still_remove_all_congr (handles : List UInt32) (a b : SessionSlots) (same : a.still = b.still) :
    (handles.foldl SessionSlots.remove a).still = (handles.foldl SessionSlots.remove b).still := by
  induction handles generalizing a b with
  | nil => exact same
  | cons handle rest ih => exact ih _ _ (SessionSlots.still_remove_congr a b same handle)

-- What is closed of one state is closed of any that has the same sessions.
theorem closed_congr (handles : List UInt32) (slots : SessionSlots) (alg : UInt16) (t : TpmState)
    (same : t.footing = (slots.still, alg)) :
    ((handles.foldl SessionSlots.remove t.sessions).still, t.audit.alg) =
      ((handles.foldl SessionSlots.remove slots).still, alg) := by
  have still : t.sessions.still = slots.still := congrArg Prod.fst same
  have kept : t.audit.alg = alg := congrArg Prod.snd same
  rw [still_remove_all_congr handles _ _ still, kept]

theorem closes_steady (request : Request) : Steady (Closes request) where
  refl s := ⟨⟨[], rfl, nofun⟩, .inr ⟨rfl, id⟩⟩
  trans s t u first second := by
    obtain ⟨early, left, given⟩ := first.closed
    obtain ⟨late, left', given'⟩ := second.closed
    refine ⟨⟨early ++ late, ?_, ?_⟩, ?_⟩
    · rw [List.foldl_append]
      exact left'.trans (closed_congr late _ _ t left)
    · intro handle member
      exact (List.mem_append.mp member).elim (given handle) (given' handle)
    · rcases second.exclusive with none | ⟨same, kept⟩
      · exact .inl none
      · rcases first.exclusive with none | ⟨same', kept'⟩
        · exact .inl (same.trans none)
        · rw [same'] at same kept
          exact .inr ⟨same, fun held => kept (kept' held)⟩

theorem closes_of_outline (request : Request) (s t : TpmState) (same : t.outline = s.outline) : Closes request s t := by
  have shape := s.shape_of_footing t (congrArg Prod.fst same)
  refine ⟨⟨[], congrArg Prod.fst same, nofun⟩, .inr ⟨congrArg Prod.snd same, fun held => ?_⟩⟩
  rw [SessionSlots.contains_of_shape _ _ shape]
  exact held

theorem restart_policy_traits (session restarted : Session) (made : session.restartPolicy = .ok restarted) :
    restarted.traits = session.traits := by
  simp only [Session.restartPolicy, bind_is_ok, pure_is_ok] at made
  obtain ⟨_, _, rfl⟩ := made
  rfl

-- What is left of a session when a command closes it: the policy of one that authorized starts again.
def rearmed (request : Request) (index : Nat) (base : Session) : Session :=
  if index < request.info.authHandles ∧ base.isPolicy then
    match base.restartPolicy with
    | .ok restarted => restarted
    | .error _ => base
  else base

theorem rearmed_traits (request : Request) (index : Nat) (base : Session) :
    (rearmed request index base).traits = base.traits := by
  unfold rearmed
  split
  · cases made : base.restartPolicy with
    | ok restarted => exact restart_policy_traits base restarted made
    | error e => rfl
  · rfl

theorem close_session_closes (request : Request) (index : Nat) (input : SessionInput) (given : input ∈ request.sessions)
    (s : TpmState) : Closes request s (closeSession request index input s) := by
  unfold closeSession
  split
  · exact (closes_steady request).refl s
  · split
    · dsimp only
      have removed : ∃ handles : List UInt32, ((s.sessions.remove input.handle).still, s.audit.alg) =
          ((handles.foldl SessionSlots.remove s.sessions).still, s.audit.alg) ∧
            ∀ handle ∈ handles, ∃ input ∈ request.sessions, input.handle = handle :=
        ⟨[input.handle], rfl, fun handle member => ⟨input, given, (List.mem_singleton.mp member).symm⟩⟩
      split
      · exact ⟨removed, .inl rfl⟩
      next apart =>
        refine ⟨removed, .inr ⟨rfl, fun held => ?_⟩⟩
        change (s.sessions.remove input.handle).contains s.audit.exclusiveSession = true
        rw [SessionSlots.contains_remove_other _ _ _ apart]
        exact held
    · split
      · exact (closes_steady request).refl s
      next session held =>
        refine closes_of_outline request _ _ (s.outline_put_session input.handle session _ held ?_)
        refine (rearmed_traits request index _).trans ?_
        split <;> rfl

theorem close_sessions_close (request : Request) (s : TpmState) : Closes request s (closeSessions request s) := by
  have from_ : ∀ (inputs : List SessionInput) (index : Nat) (s : TpmState), (∀ input ∈ inputs, input ∈ request.sessions) →
      Closes request s (closeSessionsFrom request index inputs s) := by
    intro inputs
    induction inputs with
    | nil => exact fun _ s _ => (closes_steady request).refl s
    | cons input rest ih =>
        intro index s given
        refine (closes_steady request).trans _ _ _
          (close_session_closes request index input (given input List.mem_cons_self) s) ?_
        exact ih (index + 1) _ fun input member => given input (List.mem_cons_of_mem _ member)
  exact from_ request.sessions 0 s fun _ member => member

-- What the response of a command does to the sessions, and who is exclusive then.
structure Answers (request : Request) (s t : TpmState) : Prop where
  closed : ∃ handles : List UInt32, t.footing = ((handles.foldl SessionSlots.remove s.sessions).still, s.audit.alg) ∧
    ∀ handle ∈ handles, ∃ input ∈ request.sessions, input.handle = handle
  exclusive : t.audit.exclusiveSession = Rh.unassigned ∨
    (t.audit.exclusiveSession = s.audit.exclusiveSession ∨
      t.audit.exclusiveSession = exclusiveAfter request s.audit.exclusiveSession) ∧
    (s.sessions.contains t.audit.exclusiveSession = true → t.sessions.contains t.audit.exclusiveSession = true)

theorem answers_of_outline (request : Request) (s t : TpmState) (exclusive : UInt32)
    (outlined : t.outline = (s.footing, exclusive)) (either : exclusive = s.audit.exclusiveSession ∨
      exclusive = exclusiveAfter request s.audit.exclusiveSession) : Answers request s t := by
  have shape := s.shape_of_footing t (congrArg Prod.fst outlined)
  have same : t.audit.exclusiveSession = exclusive := congrArg Prod.snd outlined
  refine ⟨⟨[], congrArg Prod.fst outlined, nofun⟩, .inr ⟨same ▸ either, fun held => ?_⟩⟩
  rw [SessionSlots.contains_of_shape _ _ shape]
  exact held

theorem answers_of_closes (request : Request) (s t u : TpmState)
    (outlined : t.outline = (s.footing, exclusiveAfter request s.audit.exclusiveSession))
    (closes : Closes request t u) : Answers request s u ∧ (u.audit.exclusiveSession = Rh.unassigned ∨
      u.audit.exclusiveSession = exclusiveAfter request s.audit.exclusiveSession) := by
  have shape := s.shape_of_footing t (congrArg Prod.fst outlined)
  have same : t.audit.exclusiveSession = exclusiveAfter request s.audit.exclusiveSession := congrArg Prod.snd outlined
  obtain ⟨handles, left, given⟩ := closes.closed
  have closed := left.trans (closed_congr handles _ _ t (congrArg Prod.fst outlined))
  rcases closes.exclusive with none | ⟨still, kept⟩
  · exact ⟨⟨⟨handles, closed, given⟩, .inl none⟩, .inl none⟩
  · have handed := still.trans same
    refine ⟨⟨⟨handles, closed, given⟩, .inr ⟨.inr handed, fun held => ?_⟩⟩, .inr handed⟩
    rw [still]
    refine kept ?_
    rw [SessionSlots.contains_of_shape _ _ shape, ← still]
    exact held

-- What `respond` does once it has the nonces.
def respondWith (request : Request) (reply : Reply) (names : List Bytes) (contexts : List AuthContext)
    (commandParameters : Bytes) (nonces : List Bytes) : TpmM Bytes := do
  let responders := (← get).responseContexts request contexts
  let parameters ← (← get).encryptParameters request reply.parameters (contexts.map (·.auth))
  updateAudit request names commandParameters parameters
  let area ←
    if request.tag = St.sessions then (← get).buildResponseSessions request parameters nonces responders else pure []
  modify fun s => flushIfNeeded request (closeSessions request s)
  return successResponse request.tag (responseBody request reply.handle parameters area)

theorem ensures_respond (pre : TpmState → Prop) (post : Bytes → TpmState → Prop) (failed : TpmState → Prop)
    (mid : List Bytes → TpmState → Prop) (request : Request) (reply : Reply) (names : List Bytes)
    (contexts : List AuthContext) (commandParameters : Bytes)
    (rolled : Ensures pre (rollResponseNonces request.sessions) mid failed) (unrolled : ∀ s, pre s → mid [] s)
    (rest : ∀ nonces, Ensures (mid nonces) (respondWith request reply names contexts commandParameters nonces) post failed) :
    Ensures pre (respond request reply names contexts commandParameters) post failed := by
  unfold respond
  refine ensures_ite _ _ _ _ _ _ (fun _ => ?_) fun _ => ?_
  · exact ensures_bind _ _ _ mid _ _ rolled rest
  · exact ensures_bind _ _ _ mid _ _ (ensures_pure _ _ _ _ unrolled) rest

theorem rolled_outline (inputs : List SessionInput) (s : TpmState) :
    Ensures (fun t => t = s) (rollResponseNonces inputs) (fun _ t => t.outline = s.outline)
      (fun t => t.outline = s.outline) := by
  intro t same
  rw [same]
  have kept := keeps_outline_roll_response_nonces inputs s
  cases ran : rollResponseNonces inputs s with
  | ok nonces t =>
      rw [ran] at kept
      exact kept
  | error e t =>
      rw [ran] at kept
      exact kept

theorem respond_answers (request : Request) (reply : Reply) (names : List Bytes) (contexts : List AuthContext)
    (commandParameters : Bytes) (s : TpmState) :
    Ensures (fun u => u = s) (respond request reply names contexts commandParameters)
      (fun _ t => Answers request s t ∧ (t.audit.exclusiveSession = Rh.unassigned ∨
        t.audit.exclusiveSession = exclusiveAfter request s.audit.exclusiveSession))
      (fun t => Answers request s t) := by
  have untouched : ∀ u : TpmState, u.outline = s.outline → Answers request s u := fun u same =>
    answers_of_outline request s u s.audit.exclusiveSession same (.inl rfl)
  have audited : ∀ u : TpmState, u.outline = (s.footing, exclusiveAfter request s.audit.exclusiveSession) →
      Answers request s u := fun u same => answers_of_outline request s u _ same (.inr rfl)
  have closed : ∀ area, Ensures
      (fun u : TpmState => u.outline = (s.footing, exclusiveAfter request s.audit.exclusiveSession)) (do
        modify fun s => flushIfNeeded request (closeSessions request s)
        pure (successResponse request.tag (responseBody request reply.handle (area : Bytes × Bytes).1 area.2)) : TpmM Bytes)
      (fun _ t => Answers request s t ∧ (t.audit.exclusiveSession = Rh.unassigned ∨
        t.audit.exclusiveSession = exclusiveAfter request s.audit.exclusiveSession)) (Answers request s) := by
    intro area u outlined
    have flushed : (flushIfNeeded request (closeSessions request u)).outline = (closeSessions request u).outline := by
      unfold flushIfNeeded
      split
      · rfl
      · split <;> rfl
    exact answers_of_closes request s u _ outlined ((closes_steady request).trans _ _ _ (close_sessions_close request u)
      (closes_of_outline request _ _ flushed))
  -- From the audit on the exclusive session is settled, so an error later still leaves one of the two.
  have rest : ∀ nonces, Ensures (fun u : TpmState => u.outline = s.outline)
      (respondWith request reply names contexts commandParameters nonces)
      (fun _ t => Answers request s t ∧ (t.audit.exclusiveSession = Rh.unassigned ∨
        t.audit.exclusiveSession = exclusiveAfter request s.audit.exclusiveSession)) (Answers request s) := by
    intro nonces
    refine ensures_get_bind _ _ _ _ fun u outlined => ?_
    refine ensures_get_bind _ _ _ _ fun v same => ?_
    subst same
    refine ensures_bind _ _ _ (fun _ u => u.outline = s.outline) _ _ ?_ fun parameters => ?_
    · exact ensures_lift _ _ _ _ (fun w _ same _ => same ▸ outlined) fun w same => untouched w (same ▸ outlined)
    · refine ensures_bind _ _ _ (fun _ u => u.outline = (s.footing, exclusiveAfter request s.audit.exclusiveSession))
        _ _ (ensures_imply _ _ _ _ _ _ (update_audit_exclusive request names _ _ s.footing
          s.audit.exclusiveSession) (fun _ _ => id) fun u either => either.elim (untouched u) (audited u)) fun _ => ?_
      refine ensures_ite _ _ _ _ _ _ (fun _ => ?_) fun _ => ?_
      · refine ensures_get_bind _ _ _ _ fun u outlined => ?_
        refine ensures_bind _ _ _ (fun _ u => u.outline = (s.footing, exclusiveAfter request s.audit.exclusiveSession))
          _ _ (ensures_lift _ _ _ _ (fun w _ same _ => same ▸ outlined) fun w same => audited w (same ▸ outlined))
          fun area => ?_
        exact closed (parameters, area)
      · exact closed (parameters, [])
  exact ensures_respond _ _ _ (fun _ u => u.outline = s.outline) request reply names contexts commandParameters
    (ensures_imply _ _ _ _ _ _ (rolled_outline request.sessions s) (fun _ _ => id) untouched) (fun u same => same ▸ rfl) rest

end TpmState

end

end Swtrust
