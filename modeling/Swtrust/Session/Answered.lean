import Swtrust.Session.Runs
import Swtrust.Startup.Reaching
import Swtrust.Structures.ReadBack

set_option autoImplicit false
set_option linter.unusedSectionVars false

namespace Swtrust

open Library Action

theorem tpm2b_new_made (max : Nat) (buffer : Bytes) (fits : buffer.length ≤ max) :
    ∃ value : Tpm2b max, Tpm2b.new buffer = .ok value :=
  ⟨⟨buffer, fits⟩, dif_pos fits⟩

theorem map_each_made {α β : Type} (make : Nat → α → TpmResult β) (given : List α)
    (total : ∀ index, ∀ a ∈ given, ∃ b, make index a = .ok b) (first : Nat) :
    ∃ made, mapEach make first given = .ok made := by
  induction given generalizing first with
  | nil => exact ⟨[], rfl⟩
  | cons head rest ih =>
      obtain ⟨b, built⟩ := total first head List.mem_cons_self
      obtain ⟨others, mapped⟩ := ih (fun index a member => total index a (List.mem_cons_of_mem _ member)) (first + 1)
      exact ⟨b :: others, by simp [mapEach, built, mapped, bind, Except.bind, pure, Except.pure]⟩

theorem parsed_no_sessions (octets : Bytes) (locality : UInt8) (request : Request)
    (parsed : parse octets locality = .ok request) (barred : requiresNoSessions request.code = true) :
    request.sessions = [] := by
  simp only [parse, bind_is_ok] at parsed
  obtain ⟨header, _, parsed⟩ := parsed
  split at parsed
  · cases parsed
  next info _ =>
    simp only [bind_is_ok, pure_is_ok] at parsed
    obtain ⟨⟨⟨handles, sessions⟩, parameters⟩, read, rfl⟩ := parsed
    dsimp only at barred ⊢
    rw [StateT.run_bind, bind_is_ok] at read
    obtain ⟨_, _, read⟩ := read
    by_cases tagged : header.tag = St.sessions
    · simp only [tagged, if_true, readAuthArea, barred] at read
      cases read
    · simp only [tagged, if_false] at read
      split at read
      · cases read
      · cases read
        rfl

section

variable [Primitives]

namespace TpmState

-- The TPM computes the hashes of its sessions, and that of the command audit.
structure Ready (footing : Footing) : Prop where
  audited : Hash.isSupported footing.2 = true
  hashed : ∀ handle make, footing.1.2.get handle = some make → Hash.isSupported make.authHash = true

-- With that, and nonces that go into a response, it can audit any command and answer it.
structure Answerable (footing : Footing) : Prop extends Ready footing where
  short : ∀ handle make, footing.1.2.get handle = some make → make.nonceSize ≤ Config.maxDigestSize

theorem answerable_session (s : TpmState) (answerable : Answerable s.footing) (handle : UInt32) (session : Session)
    (held : s.sessions.get handle = .ok session) :
    Hash.isSupported session.authHash = true ∧ session.nonceTpm.length ≤ Config.maxDigestSize := by
  have made : s.footing.1.2.get handle = some session.make := by
    change (s.sessions.sessions.mapValues fun _ session => session.make).get handle = _
    rw [SortedMap.get_map_values, (s.sessions.get_is_ok handle session).mp held]
    rfl
  exact ⟨answerable.hashed handle _ made, answerable.short handle _ made⟩

-- Under a hash that the TPM computes nothing in the audit of a command fails.
theorem digest_parts_made (hashAlg : UInt16) (supported : Hash.isSupported hashAlg = true) (parts : List Bytes) :
    ∃ digest, Hash.digestParts hashAlg parts = .ok digest := by
  obtain ⟨size, sized⟩ := digest_size_supported hashAlg supported
  exact ⟨_, Hash.digest_ok hashAlg _ size sized⟩

theorem extend_audit_made (hashAlg : UInt16) (supported : Hash.isSupported hashAlg = true) (digest cp rp : Bytes) :
    ∃ next, extendAudit hashAlg digest cp rp = .ok next := by
  obtain ⟨size, sized⟩ := digest_size_supported hashAlg supported
  obtain ⟨next, made⟩ := digest_parts_made hashAlg supported
    [if digest.length = size then digest else List.replicate size 0, cp, rp]
  exact ⟨next, by simp only [extendAudit, sized, bind, Except.bind, made]⟩

theorem audit_session_total (request : Request) (names : List Bytes) (input : SessionInput)
    (commandParameters responseParameters : Bytes) (s : TpmState) (answerable : Answerable s.footing) :
    ∃ t, auditSession request names input commandParameters responseParameters s = .ok ⟨⟩ t := by
  simp only [auditSession, run_get_bind]
  cases held : s.sessions.get input.handle with
  | error e => exact ⟨s, rfl⟩
  | ok session =>
      have supported := (s.answerable_session answerable _ _ held).1
      obtain ⟨cp, commanded⟩ := digest_parts_made session.authHash supported
        ([be32 request.code] ++ names ++ [commandParameters])
      obtain ⟨rp, responded⟩ := digest_parts_made session.authHash supported
        [be32 Rc.success.value, be32 request.code, responseParameters]
      obtain ⟨next, extended⟩ := extend_audit_made session.authHash supported
        (if input.attributes.has SessionAttributes.auditReset ∨ !session.audit.isAudit then [] else session.audit.digest) cp rp
      simp only [cpHash, rpHash, run_lift_bind, commanded, responded, extended]
      exact ⟨_, rfl⟩

theorem audit_command_total (request : Request) (names : List Bytes) (commandParameters responseParameters : Bytes)
    (s : TpmState) (supported : Hash.isSupported s.audit.alg = true) :
    ∃ t, auditCommand request names commandParameters responseParameters s = .ok ⟨⟩ t := by
  obtain ⟨cp, commanded⟩ := digest_parts_made s.audit.alg supported ([be32 request.code] ++ names ++ [commandParameters])
  obtain ⟨rp, responded⟩ := digest_parts_made s.audit.alg supported
    [be32 Rc.success.value, be32 request.code, responseParameters]
  obtain ⟨size, sized⟩ := digest_size_supported s.audit.alg supported
  simp only [auditCommand, run_get_bind, run_lift_bind, cpHash, rpHash, commanded, responded, sized, run_modify_bind]
  obtain ⟨next, extended⟩ := extend_audit_made s.audit.alg supported
    (if s.audit.digest.length ≠ size then { s with audit := { s.audit with counter := s.audit.counter + 1 } }
      else s).audit.digest
    cp rp
  rw [extended]
  exact ⟨_, rfl⟩

-- The audit of a command that fails has not begun.
theorem update_audit_stops (request : Request) (names : List Bytes) (commandParameters responseParameters : Bytes)
    (s : TpmState) (answerable : Answerable s.footing) :
    Ensures (fun t => t = s) (updateAudit request names commandParameters responseParameters)
      (fun _ t => t.footing = s.footing) (fun t => t = s) := by
  have commandAudit : Ensures (fun t : TpmState => t.footing = s.footing) (do
      if (← get).commandAuditApplies request.code then
        auditCommand request names commandParameters responseParameters : TpmM Unit)
      (fun _ t => t.footing = s.footing) (fun t => t = s) := by
    refine ensures_get_bind _ _ _ _ fun t same => ?_
    refine ensures_ite _ _ _ _ _ _ (fun _ => ?_) fun _ => ?_
    · intro u equal
      rw [equal]
      have supported : Hash.isSupported t.footing.2 = true := by rw [same]; exact answerable.audited
      obtain ⟨u, ran⟩ := audit_command_total request names commandParameters responseParameters t supported
      have kept := keeps_outline_audit_command request names commandParameters responseParameters t
      rw [ran] at kept ⊢
      exact (congrArg Prod.fst kept).trans same
    · intro u equal
      exact equal ▸ same
  unfold updateAudit
  cases auditSessionIndex request with
  | none =>
      refine ensures_ite _ _ _ _ _ _ (fun _ => ?_) fun _ => ?_
      · refine ensures_bind _ _ _ (fun _ t => t.footing = s.footing) _ _ ?_ fun _ => commandAudit
        rintro _ rfl
        rfl
      · exact ensures_weaken _ _ _ _ _ commandAudit fun t same => same ▸ rfl
  | some index =>
      refine ensures_lift_bind _ _ s _ _ rfl fun input _ => ?_
      refine ensures_bind _ _ _ (fun _ t => t.footing = s.footing) _ _ ?_ fun _ => ?_
      · intro t same
        rw [same]
        obtain ⟨u, ran⟩ := audit_session_total request names input commandParameters responseParameters s answerable
        have kept := keeps_outline_audit_session request names input commandParameters responseParameters s
        rw [ran] at kept ⊢
        exact congrArg Prod.fst kept
      · refine ensures_bind _ _ _ (fun _ t => t.footing = s.footing) _ _ ?_ fun _ => commandAudit
        exact ensures_modify _ _ _ _ fun t same => same

-- The nonces of a response are as long as those of the sessions, or empty.
theorem roll_nonces_short (held : Footing) (answerable : Answerable held) (inputs : List SessionInput) :
    Ensures (fun s => s.footing = held) (rollResponseNonces inputs)
      (fun nonces s => s.footing = held ∧ ∀ nonce ∈ nonces, nonce.length ≤ Config.maxDigestSize) (fun _ => True) := by
  induction inputs with
  | nil => exact ensures_pure _ _ _ _ fun s same => ⟨same, nofun⟩
  | cons input rest ih =>
      have later : ∀ nonce : Bytes, nonce.length ≤ Config.maxDigestSize →
          Ensures (fun s => s.footing = held) (do return nonce :: (← rollResponseNonces rest) : TpmM (List Bytes))
            (fun nonces s => s.footing = held ∧ ∀ nonce ∈ nonces, nonce.length ≤ Config.maxDigestSize)
            (fun _ => True) := by
        intro nonce short
        refine ensures_bind _ _ _ _ _ _ ih fun nonces => ensures_pure _ _ _ _ ?_
        rintro s ⟨same, shorts⟩
        refine ⟨same, fun other member => ?_⟩
        rcases List.mem_cons.mp member with rfl | member
        · exact short
        · exact shorts other member
      unfold rollResponseNonces
      refine ensures_get_bind _ _ _ _ fun s same => ?_
      have here : ∀ t : TpmState, t = s → t.footing = held := fun t equal => equal ▸ same
      by_cases password : input.handle = Rh.rsPw
      · simp only [password, if_true]
        exact ensures_weaken _ _ _ _ _ (later [] (Nat.zero_le _)) here
      · simp only [password, if_false]
        cases found : s.sessions.get input.handle with
        | error e => exact ensures_weaken _ _ _ _ _ (later [] (Nat.zero_le _)) here
        | ok session =>
            have short := (s.answerable_session (same ▸ answerable) _ _ found).2
            refine ensures_bind _ _ _ (fun nonce t => nonce.length = session.nonceTpm.length ∧
              t.sessions = s.sessions ∧ t.audit = s.audit) _ _ ?_ fun nonce => ?_
            · intro t equal
              rw [equal]
              have kept : Keeps (fun s : TpmState => (s.sessions, s.audit)) (zoomRng (Drbg.bytes session.nonceTpm.length)) :=
                keeps_zoom _ _ _ _ fun _ _ => rfl
              have drawn := kept s
              cases ran : zoomRng (Drbg.bytes session.nonceTpm.length) s with
              | error e t => trivial
              | ok nonce t =>
                  obtain ⟨_, octets, _⟩ := (succeeds_zoom _ _ _ _ _ _).mp ran
                  rw [ran] at drawn
                  exact ⟨Drbg.bytes_length _ _ _ _ octets, congrArg Prod.fst drawn, congrArg Prod.snd drawn⟩
            · rintro t ⟨length, sessions, audit⟩
              refine later nonce (length ▸ short) _ ?_
              have put := t.outline_put_session input.handle session
                { session with nonceTpm := nonce, nonceCaller := input.nonceCaller } (by rw [sessions]; exact found)
                (session.traits_of_nonces _ _ length)
              have still : t.footing = s.footing := by rw [footing, footing, sessions, audit]
              exact (congrArg Prod.fst put).trans (still.trans same)

theorem auth_response_made (nonce : Bytes) (attributes : SessionAttributes) (hmac : Bytes)
    (short : nonce.length ≤ Config.maxDigestSize) (sized : hmac.length ≤ Config.maxDigestSize) :
    ∃ octets, authResponse nonce attributes hmac = .ok octets := by
  obtain ⟨first, made⟩ := tpm2b_new_made 64 nonce short
  obtain ⟨second, made'⟩ := tpm2b_new_made 64 hmac sized
  exact ⟨_, by simp only [authResponse, made, made', bind, Except.bind]; rfl⟩

theorem response_sessions_made (s : TpmState) (answerable : Answerable s.footing) (request : Request) (parameters : Bytes)
    (nonces : List Bytes) (short : ∀ nonce ∈ nonces, nonce.length ≤ Config.maxDigestSize) (contexts : List AuthContext) :
    ∃ area, s.buildResponseSessions request parameters nonces contexts = .ok area := by
  have each : ∀ index, ∀ input ∈ request.sessions,
      ∃ octets, s.responseSession request parameters nonces contexts index input = .ok octets := by
    intro index input _
    have fits : (nonces[index]?.getD []).length ≤ Config.maxDigestSize := by
      cases here : nonces[index]? with
      | none => exact Nat.zero_le _
      | some nonce => exact short nonce (List.mem_of_getElem? here)
    unfold responseSession
    by_cases password : input.handle = Rh.rsPw
    · rw [if_pos password]
      exact auth_response_made _ _ _ (Nat.zero_le _) (Nat.zero_le _)
    · rw [if_neg password]
      dsimp only
      cases held : s.sessions.get input.handle with
      | error e => exact auth_response_made _ _ _ fits (Nat.zero_le _)
      | ok session =>
          have supported := (s.answerable_session answerable _ _ held).1
          obtain ⟨rp, responded⟩ := digest_parts_made session.authHash supported
            [be32 Rc.success.value, be32 request.code, parameters]
          simp only [rpHash, responded, bind, Except.bind]
          split
          · exact auth_response_made _ _ _ fits (Nat.zero_le _)
          · obtain ⟨size, sized⟩ := digest_size_supported session.authHash supported
            have authorized := fun key parts => hmac_parts_made session.authHash size sized key parts
            unfold authHmacWithNonces
            obtain ⟨hmac, made, length⟩ := authorized
              (if index < request.info.authHandles then
                session.hmacKey (contexts[index]?.getD {}).name (contexts[index]?.getD {}).auth else session.sessionKey)
              [rp, nonces[index]?.getD [], input.nonceCaller, [], [], [(s.responseAttributes input).value]]
            rw [made]
            exact auth_response_made _ _ _ fits (length ▸ digest_size_le _ _ sized)
  obtain ⟨areas, mapped⟩ := map_each_made _ _ each 0
  exact ⟨areas.flatten, by rw [buildResponseSessions, mapped]; rfl⟩

-- A response that fails has not come to the audit.
theorem respond_stops (request : Request) (reply : Reply) (names : List Bytes) (contexts : List AuthContext)
    (commandParameters : Bytes) (s : TpmState) (answerable : Answerable s.footing) :
    Ensures (fun t => t = s) (respond request reply names contexts commandParameters) (fun _ _ => True)
      (fun t => t.outline = s.outline) := by
  have rest : ∀ nonces : List Bytes, (∀ nonce ∈ nonces, nonce.length ≤ Config.maxDigestSize) →
      Ensures (fun t : TpmState => t.outline = s.outline)
        (respondWith request reply names contexts commandParameters nonces)
        (fun _ _ => True) (fun t => t.outline = s.outline) := by
    intro nonces short
    refine ensures_get_bind _ _ _ _ fun t outlined => ?_
    refine ensures_get_bind _ _ _ _ fun u same => ?_
    subst same
    have footing : u.footing = s.footing := congrArg Prod.fst outlined
    refine ensures_lift_bind _ _ u _ _ outlined fun parameters _ => ?_
    refine ensures_bind _ _ _ (fun _ t => t.footing = s.footing) _ _ ?_ fun _ => ?_
    · exact ensures_imply _ _ _ _ _ _ (update_audit_stops request names commandParameters parameters u
        (footing ▸ answerable)) (fun _ t same => same.trans footing) fun t same => same ▸ outlined
    · refine ensures_ite _ _ _ _ _ _ (fun _ => ?_) fun _ => fun _ _ => trivial
      refine ensures_get_bind _ _ _ _ fun v same => ?_
      obtain ⟨area, built⟩ := v.response_sessions_made (same ▸ answerable) request parameters nonces short
        (u.responseContexts request contexts)
      rw [built]
      rintro _ rfl
      trivial
  refine ensures_respond _ _ _ (fun nonces t => t.outline = s.outline ∧
    ∀ nonce ∈ nonces, nonce.length ≤ Config.maxDigestSize) request reply names contexts commandParameters ?_ ?_ ?_
  · intro t same
    rw [same]
    have kept := rolled_outline request.sessions s s rfl
    have short := roll_nonces_short s.footing answerable request.sessions s rfl
    cases ran : rollResponseNonces request.sessions s with
    | ok nonces t =>
        rw [ran] at kept short
        exact ⟨kept, short.2⟩
    | error e t =>
        rw [ran] at kept
        exact kept
  · exact fun t same => ⟨congrArg outline same, nofun⟩
  · rintro nonces t ⟨outlined, short⟩
    exact rest nonces short t outlined

-- A command without sessions is answered, whatever it did.
theorem respond_bare (request : Request) (reply : Reply) (names : List Bytes) (contexts : List AuthContext)
    (commandParameters : Bytes) (s : TpmState) (bare : request.sessions = [])
    (audited : Hash.isSupported s.audit.alg = true) :
    ∃ octets t, respond request reply names contexts commandParameters s = .ok octets t := by
  have unasked : request.position SessionAttributes.encrypt = none := by
    unfold Request.position
    rw [bare]
    rfl
  have alone : auditSessionIndex request = none := by
    unfold auditSessionIndex Request.position
    rw [bare]
    rfl
  have audits : Ensures (fun t : TpmState => Hash.isSupported t.audit.alg = true)
      (updateAudit request names commandParameters reply.parameters) (fun _ _ => True) fun _ => False := by
    have counted : Ensures (fun t : TpmState => Hash.isSupported t.audit.alg = true) (do
        if (← get).commandAuditApplies request.code then
          auditCommand request names commandParameters reply.parameters : TpmM Unit) (fun _ _ => True) fun _ => False := by
      refine ensures_get_bind _ _ _ _ fun t supported => ?_
      refine ensures_ite _ _ _ _ _ _ (fun _ => ?_) fun _ => fun _ _ => trivial
      rintro _ rfl
      obtain ⟨u, ran⟩ := audit_command_total request names commandParameters reply.parameters _ supported
      rw [ran]
      trivial
    unfold updateAudit
    rw [alone]
    refine ensures_ite _ _ _ _ _ _ (fun _ => ?_) fun _ => counted
    exact ensures_bind _ _ _ (fun _ (t : TpmState) => Hash.isSupported t.audit.alg = true) _ _
      (ensures_modify _ _ _ _ fun _ held => held) fun _ => counted
  have rest : Ensures (fun t => t = s) (respondWith request reply names contexts commandParameters [])
      (fun _ _ => True) fun _ => False := by
    refine ensures_get_bind _ _ _ _ fun t same => ?_
    refine ensures_get_bind _ _ _ _ fun u again => ?_
    have plain : u.encryptParameters request reply.parameters (contexts.map (·.auth)) = .ok reply.parameters := by
      unfold encryptParameters
      rw [unasked]
      rfl
    rw [plain]
    refine ensures_bind _ _ _ (fun parameters (v : TpmState) => Hash.isSupported v.audit.alg = true ∧
      parameters = reply.parameters) _ _ ?_ fun parameters => ?_
    · rintro _ rfl
      exact ⟨by rw [again, same]; exact audited, rfl⟩
    · refine ensures_bind _ _ _ (fun _ _ => True) _ _ ?_ fun _ => ?_
      · rintro v ⟨supported, rfl⟩
        exact audits v supported
      · refine ensures_ite _ _ _ _ _ _ (fun _ => ?_) fun _ => fun _ _ => trivial
        intro w _
        rw [run_get_bind]
        unfold buildResponseSessions
        rw [bare]
        trivial
  have answered : Ensures (fun t => t = s) (respond request reply names contexts commandParameters) (fun _ _ => True)
      fun _ => False := by
    refine ensures_respond _ _ _ (fun nonces t => t = s ∧ nonces = []) request reply names contexts commandParameters ?_
      (fun t same => ⟨same, rfl⟩) fun nonces => ?_
    · rw [bare]
      exact ensures_pure _ _ _ _ fun t same => ⟨same, rfl⟩
    · rintro t ⟨same, rfl⟩
      exact rest t same
  have ended := answered s rfl
  cases ran : respond request reply names contexts commandParameters s with
  | ok octets t => exact ⟨octets, t, rfl⟩
  | error e t =>
      rw [ran] at ended
      exact ended.elim

end TpmState

-- What each of the sessions in memory is made of.
def SessionSlots.Makes (holds : UInt32 → Session.Make → Prop) (slots : SessionSlots) : Prop :=
  ∀ handle make, slots.makes.get handle = some make → holds handle make

-- A hash that the TPM computes, and a symmetric definition that it reads.
structure Session.Make.Formed (make : Session.Make) : Prop where
  hashed : Hash.isSupported make.authHash = true
  admitted : make.symmetric.Admitted

namespace SessionSlots

variable (holds : UInt32 → Session.Make → Prop)

theorem makes_insert (slots : SessionSlots) (sessions : SortedMap UInt32 Session) (handle : UInt32) (session : Session)
    (formed : holds handle session.make) (inserted : slots.sessions = sessions.insert handle session)
    (held : ∀ other make, (sessions.mapValues fun _ session => session.make).get other = some make → holds other make) :
    slots.Makes holds := by
  intro other make found
  unfold makes at found
  rw [inserted, SortedMap.map_values_insert, SortedMap.get_insert] at found
  split at found
  next here =>
    obtain rfl := Option.some.inj found
    exact here ▸ formed
  next => exact held other make found

theorem makes_erase (slots : SessionSlots) (sessions : SortedMap UInt32 Session) (handle : UInt32)
    (erased : slots.sessions = sessions.erase handle)
    (held : ∀ other make, (sessions.mapValues fun _ session => session.make).get other = some make → holds other make) :
    slots.Makes holds := by
  intro other make found
  unfold makes at found
  rw [erased, SortedMap.map_values_erase] at found
  exact held other make (SortedMap.get_of_erase _ _ _ _ found)

theorem makes_remove_all (handles : List UInt32) (slots : SessionSlots) (held : slots.Makes holds) :
    (handles.foldl remove slots).Makes holds := by
  induction handles generalizing slots with
  | nil => exact held
  | cons handle rest ih => exact ih _ (makes_erase holds _ slots.sessions handle rfl held)

theorem makes_flush_first (slots : SessionSlots) (candidates : List UInt32) (held : slots.Makes holds) :
    (slots.flushFirst candidates).2.Makes holds := by
  induction candidates generalizing slots with
  | nil => exact held
  | cons candidate rest ih =>
      have left : (slots.remove candidate).Makes holds := makes_erase holds _ slots.sessions candidate rfl held
      unfold flushFirst
      dsimp only
      split
      · exact left
      · exact ih _ left

theorem makes_empty (slots : SessionSlots) (empty : slots.sessions = SortedMap.empty) : slots.Makes holds := by
  intro handle make found
  unfold makes at found
  rw [empty] at found
  cases found

end SessionSlots

theorem unmarshalled_formed (body : Bytes) (session : Session) (read : Session.unmarshal.prefixOf body = .ok session) :
    session.make.Formed := by
  have yields : Yields Session.unmarshal fun session => session.make.Formed := by
    unfold Session.unmarshal
    iterate 11 refine yields_bind _ _ _ fun _ => ?_
    refine yields_bind_known _ _ _ _ sym_def_yields fun symmetric admitted => ?_
    iterate 3 refine yields_bind _ _ _ fun _ => ?_
    refine yields_bind_known _ _ _ _ (yields_lift _) fun made built => yields_pure _ _ ?_
    simp only [Session.new, bind_is_ok, pure_is_ok] at built
    obtain ⟨size, sized, rfl⟩ := built
    exact ⟨supported_of_size _ size sized, admitted⟩
  unfold Reader.prefixOf at read
  obtain ⟨⟨value, rest⟩, ran, rfl⟩ := (map_is_ok _ _ _).mp read
  exact yields body value rest ran

-- A session that a command brings in is well formed; the others are made as they were.
theorem move_makes (holds : UInt32 → Session.Make → Prop) (formed : ∀ make : Session.Make, make.Formed → holds make.handle make)
    (code : UInt32) (before after : Holding) (move : Move code before after) (held : before.slots.Makes holds) :
    after.slots.Makes holds := by
  cases move with
  | same after still exclusive =>
      have makes : after.slots.makes = before.slots.makes := congrArg Prod.snd still
      intro handle make found
      exact held handle make (makes ▸ found)
  | start coded sessionType handle session slots typed allocated kind sized admitted inserted =>
      obtain ⟨_, _, _, _, rfl⟩ := (before.slots.insert_is_ok slots session).mp inserted
      exact SessionSlots.makes_insert holds _ _ _ session (formed _ ⟨supported_of_size _ _ sized, admitted⟩) rfl held
  | save coded handle session id slots available ranged saved =>
      obtain ⟨_, _, rfl⟩ := (before.slots.save_is_ok slots handle session id).mp saved
      exact SessionSlots.makes_erase holds _ _ handle rfl held
  | count coded available => exact held
  | load coded context session slots viable ranged named body read restored =>
      obtain ⟨_, _, rfl⟩ := (before.slots.restore_is_ok slots session context.sequence).mp restored
      exact SessionSlots.makes_insert holds _ _ _ session (formed _ (unmarshalled_formed body session read)) rfl held
  | flush coded handle exclusive left => exact SessionSlots.makes_flush_first holds _ _ held
  | clear coded => exact SessionSlots.makes_empty holds _ rfl
  | flushLoaded coded => exact SessionSlots.makes_empty holds _ rfl

namespace TpmState

-- The hash of the command audit is one the TPM computes.
def AuditComputes (s t : TpmState) : Prop := Hash.isSupported s.audit.alg = true → Hash.isSupported t.audit.alg = true

theorem audit_computes_of_same (s t : TpmState) (same : t.audit.alg = s.audit.alg) : AuditComputes s t :=
  fun supported => same ▸ supported

theorem handlers_spare_audit_hash :
    (handlers.all fun row => (row.2.scope != .audit && row.2.scope != .whole) ||
      ([Cc.getCommandAuditDigest, Cc.setCommandCodeAuditStatus, Cc.startup, Cc.shutdown, Cc.clear] : List UInt32).contains
        row.1) = true := by
  rfl

theorem run_command_audit_hash (request : Request) : Guarantees AuditComputes (runCommand request) := by
  have steady : Steady AuditComputes := steady_of_invariant fun s : TpmState => Hash.isSupported s.audit.alg = true
  refine guarantees_run_listed _ steady.refl (fun scope => scope != .audit && scope != .whole) _ handlers_spare_audit_hash
    (fun scope action spares => ?_) request fun listed => ?_
  · cases scope with
    | audit | whole => cases spares
    | _ => exact guarantees_zoom _ _ _ action fun s => audit_computes_of_same _ _ rfl
  simp only [List.mem_cons, List.not_mem_nil, or_false] at listed
  rcases listed with code | code | code | code | code
  · rw [run_command_of request (.issuing .audit getCommandAuditDigest) (by rw [code]; rfl)]
    refine guarantees_get_bind _ _ fun s => ?_
    have kept : Keeps (fun t : AuditScope => t.audit.alg) (getCommandAuditDigest s request) := by
      iterate 6 refine keeps_lift_bind _ _ _ fun _ => ?_
      refine keeps_bind _ _ _ (keeps_zoom _ _ _ _ fun _ _ => rfl) fun _ => ?_
      exact keeps_ite _ _ _ _ (keeps_bind _ _ _ (keeps_modify _ _ fun _ => rfl) fun _ => keeps_pure _ _) (keeps_pure _ _)
    have zoomed : Guarantees AuditComputes (Scope.audit.zoom (getCommandAuditDigest s request)) :=
      guarantees_zoom _ _ _ _ fun t => audit_computes_of_same t _ (kept ⟨t.work, t.audit, t.commandAuditSuppressed⟩)
    exact zoomed s
  · rw [run_command_of request (.plain .audit setCommandCodeAuditStatus) (by rw [code]; rfl)]
    refine guarantees_get_bind _ _ fun s => ?_
    have set : Guarantees (fun t u : AuditScope => Hash.isSupported t.audit.alg = true → Hash.isSupported u.audit.alg = true)
        (setCommandCodeAuditStatus s request) := by
      have inner := steady_of_invariant fun t : AuditScope => Hash.isSupported t.audit.alg = true
      refine guarantees_lift_bind inner.refl _ _ fun asked _ => guarantees_guard inner.refl _ _ _ _ fun computes => ?_
      refine guarantees_ite _ _ _ _ (fun changes => guarantees_guard inner.refl _ _ _ _ fun _ => ?_) fun _ => ?_
      · refine guarantees_bind inner _ _ (guarantees_modify _ _ fun t _ => ?_) fun _ => guarantees_pure inner.refl _
        by_contra unsupported
        exact computes ⟨changes.1, by simpa using unsupported⟩
      · exact guarantees_bind inner _ _ (guarantees_modify _ _ fun t => id) fun _ => guarantees_pure inner.refl _
    have zoomed : Guarantees AuditComputes (Scope.audit.zoom (setCommandCodeAuditStatus s request)) :=
      guarantees_zoom _ _ _ _ fun t => set ⟨t.work, t.audit, t.commandAuditSuppressed⟩
    exact guarantees_map _ _ _ zoomed s
  · rw [run_command_of request (.plain .whole fun _ request => startup request) (by rw [code]; rfl)]
    exact guarantees_map _ _ _ (guarantees_startup _ ⟨steady, fun _ => audit_computes_of_same _ _ rfl,
      fun _ _ _ _ _ _ _ _ _ _ _ _ _ _ _ _ => audit_computes_of_same _ _ rfl,
      fun _ _ _ => audit_computes_of_same _ _ rfl⟩ request)
  · rw [run_command_of request (.plain .whole fun _ => shutdown) (by rw [code]; rfl)]
    exact guarantees_map _ _ _ (guarantees_shutdown _ steady (fun s _ _ _ => audit_computes_of_same s _ rfl) request)
  · rw [run_command_of request (.plain .whole fun _ => clear) (by rw [code]; rfl)]
    have cleared : Guarantees AuditComputes (do
        onClear
        modify fun s => { s with lockoutAuth := [], lockoutPolicy := TpmtHa.null }
        return .notReading request [] : TpmM Response) := by
      refine guarantees_bind steady _ _ ?_ fun _ => guarantees_bind steady _ _ ?_ fun _ => guarantees_pure steady.refl _
      · refine guarantees_bind steady _ _ ?_ fun _ => ?_
        · exact guarantees_zoom _ _ _ _ fun s => audit_computes_of_same s _ rfl
        · exact guarantees_modify _ _ fun s => audit_computes_of_same s _ rfl
      · exact guarantees_modify _ _ fun s => audit_computes_of_same s _ rfl
    refine guarantees_map _ _ _ (guarantees_get_bind _ _ fun s => ?_)
    exact guarantees_ite _ _ _ _ (fun _ t => steady.refl t) (fun _ => cleared) s

-- What the removal of sessions keeps, every stage of a command around its handler does.
theorem closing_undisturbed (holds : Footing → Prop) (closed : ∀ (s t : TpmState) (handles : List UInt32),
    t.footing = { s with sessions := handles.foldl SessionSlots.remove s.sessions }.footing → holds s.footing →
      holds t.footing) : Undisturbed fun s t => holds s.footing → holds t.footing where
  steady := steady_of_invariant fun s : TpmState => holds s.footing
  nullified request s := by
    obtain ⟨_, _, same⟩ := nullify_shutdown_changes request s
    rw [same]
    exact id
  authorized request names count index := guarantees_authorize_from _ (fun _ _ _ => id) request names count index
  suppressed _ _ := id
  failed _ := id
  responded request reply names contexts parameters := by
    have answered : ∀ s t, Answers request s t → holds s.footing → holds t.footing := by
      intro s t answers
      obtain ⟨handles, left, _⟩ := answers.closed
      exact closed s t handles left
    refine guarantees_of_ensures _ _ fun s => ?_
    exact ensures_imply _ _ _ _ _ _ (respond_answers request reply names contexts parameters s)
      (fun _ t answers => answered s t answers.1) fun t answers => answered s t answers

-- What is said of the sessions and of the hash of the command audit, and stays true whatever befalls a TPM.
structure Surviving (holds : Footing → Prop) : Prop where
  closed : ∀ (s t : TpmState) (handles : List UInt32),
    t.footing = { s with sessions := handles.foldl SessionSlots.remove s.sessions }.footing → holds s.footing → holds t.footing
  lost : ∀ s t : TpmState, t.audit.alg = s.audit.alg → t.sessions = s.sessions.flushLoaded → holds s.footing → holds t.footing
  commands : ∀ request, Guarantees (fun s t : TpmState => holds s.footing → holds t.footing) (runCommand request)

theorem surviving_undisturbed (holds : Footing → Prop) (survives : Surviving holds) :
    Undisturbed fun s t => holds s.footing → holds t.footing := closing_undisturbed holds survives.closed

section

variable (holds : Footing → Prop) (survives : Surviving holds)

include survives

theorem event_survives (s : TpmState) (event : Event) (held : holds s.footing) : holds (s.after event).footing := by
  have still : ∀ t : TpmState, t.footing = s.footing → holds t.footing := fun t same => same ▸ held
  cases event with
  | elapse millis =>
      obtain ⟨_, _, _, same⟩ := s.advance_time_changes millis
      exact still (s.advanceTime millis).2 (by rw [same]; rfl)
  | command locality octets =>
      exact run_guarantees _ (surviving_undisturbed holds survives) { s with hcrtmSequence := none } locality octets
        (fun request parameters _ => survives.commands { request with parameters }) held
  | powerOn =>
      obtain ⟨_, _, _, _, _, _, _, _, _, _, same⟩ := s.power_on_changes
      exact survives.lost s s.powerOn (by rw [same]) (by rw [same]) held
  | powerOff => exact survives.lost s s.powerOff rfl rfl held
  | hashEnd =>
      obtain ⟨_, _, _, _, same⟩ := s.hash_end_changes
      exact still s.hashEnd (by rw [same]; rfl)
  | nv | physicalPresence | hashStart | hashData => exact held

end

-- The sessions are those that were started or read.
theorem makes_survive (holds : UInt32 → Session.Make → Prop)
    (formed : ∀ make : Session.Make, make.Formed → holds make.handle make) :
    Surviving fun footing => ∀ handle make, footing.1.2.get handle = some make → holds handle make where
  closed s t handles left makes := by
    rw [left]
    exact SessionSlots.makes_remove_all holds handles s.sessions makes
  lost s t _ flushed _ := SessionSlots.makes_empty holds t.sessions (by rw [flushed]; rfl)
  commands request s makes := move_makes holds formed _ _ _ (run_command_moves request s) makes

theorem ready_survives : Surviving Ready where
  closed s t handles left ready := by
    rw [left]
    exact ⟨ready.audited, SessionSlots.makes_remove_all (fun _ make => Hash.isSupported make.authHash = true) handles
      s.sessions ready.hashed⟩
  lost s t alg flushed ready :=
    ⟨(congrArg (fun hash => Hash.isSupported hash) alg).trans ready.audited,
      (makes_survive (fun _ make => Hash.isSupported make.authHash = true) fun _ formed => formed.hashed).lost s t alg flushed
        ready.hashed⟩
  commands request s ready :=
    ⟨run_command_audit_hash request s ready.audited,
      (makes_survive (fun _ make => Hash.isSupported make.authHash = true) fun _ formed => formed.hashed).commands request s
        ready.hashed⟩

theorem manufactured_ready (seed : Bytes) (s : TpmState) (made : manufacture seed = .ok s) : Ready s.footing := by
  simp only [manufacture, bind_is_ok, pure_is_ok] at made
  obtain ⟨_, _, _, _, _, _, rfl⟩ := made
  exact ⟨rfl, SessionSlots.makes_empty (fun _ make => Hash.isSupported make.authHash = true) _ rfl⟩

theorem event_ready (s : TpmState) (event : Event) (ready : Ready s.footing) : Ready (s.after event).footing :=
  event_survives Ready ready_survives s event ready

-- In every state of a run from one without sessions each session is well formed, and held under its own handle.
theorem run_formed (s : TpmState) (none : s.sessions.sessions = SortedMap.empty) (events : List Event) (handle : UInt32)
    (session : Session) (held : (s.afterAll events).sessions.get handle = .ok session) :
    session.handle = handle ∧ session.make.Formed := by
  have survives := makes_survive (fun handle make => make.handle = handle ∧ make.Formed) fun _ formed => ⟨rfl, formed⟩
  have makes := invariant_of_every after (fun _ _ => True) _ (fun t event _ => event_survives _ survives t event) s events
    (every_of_all _ _ s events fun _ _ _ => trivial) (SessionSlots.makes_empty _ s.sessions none)
  apply makes handle session.make
  change ((s.afterAll events).sessions.sessions.mapValues fun _ session => session.make).get handle = _
  rw [SortedMap.get_map_values, ((s.afterAll events).sessions.get_is_ok handle session).mp held]
  rfl

end TpmState

end

end Swtrust
