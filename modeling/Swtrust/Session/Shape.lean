import Swtrust.Commands.Reading
import Swtrust.Guarantee
import Swtrust.Library.Total
import Swtrust.Structures.ReadBack

set_option autoImplicit false
set_option linter.unusedSectionVars false

namespace Swtrust

open Library Action

def Session.kind (session : Session) : UInt32 × UInt8 := (session.handle, session.sessionType)

-- What a session is made of when it starts, and stays: its handle, its hash, how long its nonces are, and how it hides
-- parameters.
structure Session.Make where
  handle : UInt32
  authHash : UInt16
  nonceSize : Nat
  symmetric : SymDef

def Session.make (session : Session) : Session.Make :=
  ⟨session.handle, session.authHash, session.nonceTpm.length, session.symmetric⟩

def Session.traits (session : Session) : (UInt32 × UInt8) × Session.Make := (session.kind, session.make)

theorem Session.traits_of_nonces (session : Session) (nonceTpm nonceCaller : Bytes)
    (length : nonceTpm.length = session.nonceTpm.length) : { session with nonceTpm, nonceCaller }.traits = session.traits := by
  unfold traits make
  rw [← length]
  rfl

namespace SessionSlots

-- What the use of a session leaves alone: which there are, of which type, and how they are counted.
structure Shape where
  kinds : SortedMap UInt32 (UInt32 × UInt8)
  saved : SortedMap UInt32 UInt64
  version : SortedMap UInt32 UInt64
  contextCounter : UInt64
  objectCounter : UInt64

def shape (slots : SessionSlots) : Shape where
  kinds := slots.sessions.mapValues fun _ session => session.kind
  saved := slots.saved
  version := slots.version
  contextCounter := slots.contextCounter
  objectCounter := slots.objectCounter

def makes (slots : SessionSlots) : SortedMap UInt32 Session.Make :=
  slots.sessions.mapValues fun _ session => session.make

def still (slots : SessionSlots) : Shape × SortedMap UInt32 Session.Make := (slots.shape, slots.makes)

theorem get_is_ok (slots : SessionSlots) (handle : UInt32) (session : Session) :
    slots.get handle = .ok session ↔ slots.sessions.get handle = some session := by
  unfold get
  cases slots.sessions.get handle <;> simp

theorem view_put {υ : Type} (view : Session → υ) (sessions : SortedMap UInt32 Session) (handle : UInt32)
    (session next : Session) (held : sessions.get handle = some session) (same : view next = view session) :
    (sessions.insert handle next).mapValues (fun _ session => view session) =
      sessions.mapValues fun _ session => view session := by
  refine SortedMap.ext_get fun other => ?_
  rw [SortedMap.get_map_values, SortedMap.get_map_values, SortedMap.get_insert]
  by_cases here : other = handle
  · rw [if_pos here, here, held]
    simp [same]
  · rw [if_neg here]

theorem still_put (slots : SessionSlots) (handle : UInt32) (session next : Session)
    (held : slots.get handle = .ok session) (same : next.traits = session.traits) :
    (slots.put handle next).still = slots.still := by
  have there := (slots.get_is_ok handle session).mp held
  unfold still shape makes put
  rw [view_put Session.kind slots.sessions handle session next there (congrArg Prod.fst same),
    view_put Session.make slots.sessions handle session next there (congrArg Prod.snd same)]

theorem insert_is_ok (slots next : SessionSlots) (session : Session) :
    slots.insert session = .ok next ↔ slots.sessions.size < Config.maxLoadedSessions ∧
      slots.active < Config.maxActiveSessions ∧ slots.atContextGap = false ∧ slots.countersExhausted = false ∧
        { slots with
          contextCounter := satSucc slots.contextCounter
          version := slots.version.insert session.handle slots.contextCounter
          sessions := slots.sessions.insert session.handle session } = next := by
  simp only [insert, checkGap, nextContextId]
  by_cases loaded : Config.maxLoadedSessions ≤ slots.sessions.size
  · simp [loaded, Nat.not_lt.mpr loaded, bind_is_ok]
  · by_cases active : Config.maxActiveSessions ≤ slots.active
    · simp [loaded, active, Nat.not_lt.mpr active, bind_is_ok]
    · cases gap : slots.atContextGap with
      | true => simp [loaded, active, bind_is_ok]
      | false =>
          cases exhausted : slots.countersExhausted <;>
            simp [loaded, active, bind_is_ok, map_is_ok, Nat.lt_of_not_le loaded, Nat.lt_of_not_le active]

theorem save_is_ok (slots next : SessionSlots) (handle : UInt32) (session : Session) (id : UInt64) :
    slots.save handle = .ok ((session, id), next) ↔ slots.get handle = .ok session ∧
      (slots.version.get handle).getD slots.contextCounter = id ∧
        { slots with
          sessions := slots.sessions.erase handle
          version := slots.version.erase handle
          saved := slots.saved.insert handle id } = next := by
  simp only [save, bind_is_ok, pure_is_ok, Prod.mk.injEq]
  constructor
  · rintro ⟨_, held, ⟨rfl, rfl⟩, rfl⟩
    exact ⟨held, rfl, rfl⟩
  · rintro ⟨held, rfl, rfl⟩
    exact ⟨session, held, ⟨rfl, rfl⟩, rfl⟩

theorem restore_is_ok (slots next : SessionSlots) (session : Session) (version : UInt64) :
    slots.restore session version = .ok next ↔ slots.saved.get session.handle = some version ∧
      slots.sessions.size < Config.maxLoadedSessions ∧
        { slots with
          contextCounter := satSucc slots.contextCounter
          version := slots.version.insert session.handle slots.contextCounter
          saved := slots.saved.erase session.handle
          sessions := slots.sessions.insert session.handle session } = next := by
  simp only [restore, nextContextId]
  cases held : slots.saved.get session.handle with
  | none => simp [bind_is_ok]
  | some current =>
      by_cases same : current = version
      · by_cases loaded : Config.maxLoadedSessions ≤ slots.sessions.size
        · simp [same, loaded, Nat.not_lt.mpr loaded, map_is_ok]
        · simp [same, loaded, Nat.lt_of_not_le loaded]
      · simp [same, bind_is_ok]

end SessionSlots

section

variable [Primitives]

-- What TPM2_StartAuthSession reads as a symmetric algorithm is one the session has then.
theorem start_yields : Yields SessionStart.unmarshal fun start => start.symmetric.Admitted := by
  iterate 3 refine yields_bind _ _ _ fun _ => ?_
  have fourth : Yields (SymDef.unmarshalSymDef.withParameter 4) SymDef.Admitted := by
    intro input sym rest read
    exact sym_def_yields input sym rest ((with_parameter_is_ok 4 _ input (sym, rest)).mp read)
  refine yields_bind_known _ _ _ _ fourth fun symmetric admitted => ?_
  exact yields_bind _ _ _ fun authHash => yields_pure _ _ admitted

theorem keeps_traits_set_policy (f : PolicyState → PolicyState) : Keeps Session.traits (setPolicy f) := fun _ => rfl

theorem keeps_traits_extend_policy (commandCode : UInt32) (data : Bytes) :
    Keeps Session.traits (extendPolicy commandCode data) := by
  intro session
  unfold extendPolicy
  rw [run_get_bind, run_lift_bind]
  cases made : session.extendPolicy commandCode data with
  | error e => rfl
  | ok next =>
      simp only [Session.extendPolicy, bind_is_ok, pure_is_ok] at made
      obtain ⟨digest, _, rfl⟩ := made
      rfl

theorem keeps_traits_clear_policy_digest : Keeps Session.traits clearPolicyDigest :=
  keeps_bind _ _ _ (keeps_get _) fun _ => keeps_bind _ _ _ (keeps_lift _ _) fun _ => keeps_traits_set_policy _

theorem keeps_traits_policy_authorization_update (commandCode : UInt32) (authName policyRef : Bytes) :
    Keeps Session.traits (policyAuthorizationUpdate commandCode authName policyRef) := by
  refine keeps_bind _ _ _ (keeps_traits_extend_policy _ _) fun _ => keeps_bind _ _ _ (keeps_get _) fun session => ?_
  exact keeps_bind _ _ _ (keeps_lift _ _) fun _ => keeps_traits_set_policy _

theorem keeps_still_on_policy_session {α : Type} (handle : UInt32) (action : Action TpmRc Session α)
    (kept : Keeps Session.traits action) : Keeps SessionSlots.still (onPolicySession handle action) := by
  intro slots
  unfold onPolicySession
  rw [run_get_bind, run_lift_bind]
  cases held : slots.get handle with
  | error e => rfl
  | ok session =>
      have ended := kept session
      dsimp only [withHandle, Except.mapError]
      split
      · rfl
      · unfold zoom
        cases ran : action session with
        | ok a next =>
            rw [ran] at ended
            exact slots.still_put handle session next held ended
        | error e next =>
            rw [ran] at ended
            exact slots.still_put handle session next held ended

section

variable (s : TpmState) (request : Request)

theorem keeps_still_policy_restart : Keeps SessionSlots.still (policyRestart request) := by
  refine keeps_bind _ _ _ (keeps_lift _ _) fun handle slots => ?_
  rw [run_get_bind, run_lift_bind]
  cases held : slots.get handle with
  | error e => rfl
  | ok session =>
      dsimp only [withHandle, Except.mapError]
      rw [run_lift_bind]
      cases made : session.restartPolicy with
      | error e => rfl
      | ok restarted =>
          simp only [Session.restartPolicy, bind_is_ok, pure_is_ok] at made
          obtain ⟨size, _, rfl⟩ := made
          exact slots.still_put handle session _ held rfl

theorem keeps_traits_authorized (check : Session → TpmResult Unit) (commandCode : UInt32) (authName policyRef : Bytes)
    (f g : PolicyState → PolicyState) : Keeps Session.traits (do
      check (← get)
      policyAuthorizationUpdate commandCode authName policyRef
      setPolicy f
      setPolicy g : Action TpmRc Session Unit) := by
  refine keeps_bind _ _ _ (keeps_get _) fun _ => keeps_lift_bind _ _ _ fun _ => ?_
  refine keeps_bind _ _ _ (keeps_traits_policy_authorization_update _ _ _) fun _ => ?_
  exact keeps_bind _ _ _ (keeps_traits_set_policy _) fun _ => keeps_traits_set_policy _

theorem keeps_traits_assertion {α : Type} (check : Session → TpmResult α) (commandCode : UInt32) (data : Bytes)
    (f : α → PolicyState → PolicyState) : Keeps Session.traits (do
      let checked ← check (← get)
      extendPolicy commandCode data
      setPolicy (f checked) : Action TpmRc Session Unit) := by
  refine keeps_bind _ _ _ (keeps_get _) fun _ => keeps_lift_bind _ _ _ fun _ => ?_
  exact keeps_bind _ _ _ (keeps_traits_extend_policy _ _) fun _ => keeps_traits_set_policy _

theorem keeps_still_step {β : Type} (handle : UInt32) (action : Action TpmRc Session Unit) (b : β)
    (kept : Keeps Session.traits action) : Keeps SessionSlots.still (do
      onPolicySession handle action
      return b : PolicyM β) :=
  keeps_bind _ _ _ (keeps_still_on_policy_session handle action kept) fun _ => keeps_pure _ _

theorem keeps_still_record_authorization (handle commandCode : UInt32) (a : Authorization) (authName timeout : Bytes) :
    Keeps SessionSlots.still (recordAuthorization handle commandCode a authName timeout) :=
  keeps_still_on_policy_session _ _ (keeps_traits_authorized _ _ _ _ _ _)

theorem keeps_still_policy_signed : Keeps SessionSlots.still (policySigned s request) := by
  iterate 8 refine keeps_lift_bind _ _ _ fun _ => ?_
  exact keeps_bind _ _ _ (keeps_still_record_authorization _ _ _ _ _) fun _ => keeps_lift _ _

theorem keeps_still_policy_secret : Keeps SessionSlots.still (policySecret s request) := by
  iterate 10 refine keeps_lift_bind _ _ _ fun _ => ?_
  exact keeps_bind _ _ _ (keeps_still_record_authorization _ _ _ _ _) fun _ => keeps_lift _ _

theorem keeps_still_policy_ticket : Keeps SessionSlots.still (policyTicket s request) := by
  iterate 4 refine keeps_lift_bind _ _ _ fun _ => ?_
  exact keeps_still_step _ _ _ (keeps_traits_authorized _ _ _ _ _ _)

theorem keeps_still_policy_or : Keeps SessionSlots.still (policyOr request) := by
  iterate 2 refine keeps_lift_bind _ _ _ fun _ => ?_
  refine keeps_still_step _ _ _ (keeps_bind _ _ _ (keeps_get _) fun _ => keeps_lift_bind _ _ _ fun _ => ?_)
  exact keeps_bind _ _ _ keeps_traits_clear_policy_digest fun _ => keeps_traits_extend_policy _ _

theorem keeps_still_policy_pcr : Keeps SessionSlots.still (policyPcr s request) := by
  iterate 4 refine keeps_lift_bind _ _ _ fun _ => ?_
  refine keeps_still_step _ _ _ (keeps_bind _ _ _ (keeps_get _) fun _ => keeps_lift_bind _ _ _ fun _ => ?_)
  exact keeps_bind _ _ _ (keeps_traits_set_policy _) fun _ => keeps_traits_extend_policy _ _

theorem keeps_still_policy_locality : Keeps SessionSlots.still (policyLocality request) := by
  iterate 2 refine keeps_lift_bind _ _ _ fun _ => ?_
  exact keeps_still_step _ _ _ (keeps_traits_assertion _ _ _ _)

theorem keeps_still_policy_nv : Keeps SessionSlots.still (policyNv s request) := by
  iterate 9 refine keeps_lift_bind _ _ _ fun _ => ?_
  exact keeps_still_step _ _ _ (keeps_traits_extend_policy _ _)

theorem keeps_still_policy_counter_timer : Keeps SessionSlots.still (policyCounterTimer s request) := by
  iterate 6 refine keeps_lift_bind _ _ _ fun _ => ?_
  exact keeps_still_step _ _ _ (keeps_traits_extend_policy _ _)

theorem keeps_still_policy_command_code : Keeps SessionSlots.still (policyCommandCode request) := by
  iterate 2 refine keeps_lift_bind _ _ _ fun _ => ?_
  exact keeps_still_step _ _ _ (keeps_traits_assertion _ _ _ _)

theorem keeps_still_policy_physical_presence : Keeps SessionSlots.still (policyPhysicalPresence request) := by
  iterate 1 refine keeps_lift_bind _ _ _ fun _ => ?_
  exact keeps_still_step _ _ _ (keeps_bind _ _ _ (keeps_traits_extend_policy _ _) fun _ => keeps_traits_set_policy _)

theorem keeps_still_policy_cp_hash : Keeps SessionSlots.still (policyCpHash request) := by
  iterate 2 refine keeps_lift_bind _ _ _ fun _ => ?_
  exact keeps_still_step _ _ _ (keeps_traits_assertion _ _ _ _)

theorem keeps_still_policy_name_hash : Keeps SessionSlots.still (policyNameHash request) := by
  iterate 2 refine keeps_lift_bind _ _ _ fun _ => ?_
  exact keeps_still_step _ _ _ (keeps_traits_assertion _ _ _ _)

theorem keeps_still_policy_duplication_select : Keeps SessionSlots.still (policyDuplicationSelect s request) := by
  iterate 4 refine keeps_lift_bind _ _ _ fun _ => ?_
  exact keeps_still_step _ _ _ (keeps_traits_assertion _ _ _ _)

theorem keeps_still_policy_authorize : Keeps SessionSlots.still (policyAuthorize s request) := by
  iterate 5 refine keeps_lift_bind _ _ _ fun _ => ?_
  refine keeps_still_step _ _ _ (keeps_bind _ _ _ keeps_traits_clear_policy_digest fun _ => ?_)
  exact keeps_traits_policy_authorization_update _ _ _

theorem keeps_still_policy_auth_value : Keeps SessionSlots.still (policyAuthValue request) := by
  iterate 1 refine keeps_lift_bind _ _ _ fun _ => ?_
  exact keeps_still_step _ _ _ (keeps_bind _ _ _ (keeps_traits_extend_policy _ _) fun _ => keeps_traits_set_policy _)

theorem keeps_still_policy_password : Keeps SessionSlots.still (policyPassword request) := by
  iterate 1 refine keeps_lift_bind _ _ _ fun _ => ?_
  exact keeps_still_step _ _ _ (keeps_bind _ _ _ (keeps_traits_extend_policy _ _) fun _ => keeps_traits_set_policy _)

theorem keeps_still_policy_nv_written : Keeps SessionSlots.still (policyNvWritten request) := by
  iterate 2 refine keeps_lift_bind _ _ _ fun _ => ?_
  exact keeps_still_step _ _ _ (keeps_traits_assertion _ _ _ _)

theorem keeps_still_policy_template : Keeps SessionSlots.still (policyTemplate request) := by
  iterate 2 refine keeps_lift_bind _ _ _ fun _ => ?_
  exact keeps_still_step _ _ _ (keeps_traits_assertion _ _ _ _)

theorem keeps_still_policy_authorize_nv : Keeps SessionSlots.still (policyAuthorizeNv s request) := by
  iterate 6 refine keeps_lift_bind _ _ _ fun _ => ?_
  refine keeps_still_step _ _ _ (keeps_bind _ _ _ keeps_traits_clear_policy_digest fun _ => ?_)
  exact keeps_traits_extend_policy _ _

theorem keeps_still_policy_capability : Keeps SessionSlots.still (policyCapability s request) := by
  iterate 7 refine keeps_lift_bind _ _ _ fun _ => ?_
  exact keeps_still_step _ _ _ (keeps_traits_extend_policy _ _)

theorem keeps_still_policy_parameters : Keeps SessionSlots.still (policyParameters request) := by
  iterate 2 refine keeps_lift_bind _ _ _ fun _ => ?_
  exact keeps_still_step _ _ _ (keeps_traits_assertion _ _ _ _)

theorem keeps_still_policy_transport_spdm : Keeps SessionSlots.still (policyTransportSpdm request) := by
  iterate 4 refine keeps_lift_bind _ _ _ fun _ => ?_
  refine keeps_still_step _ _ _ (keeps_bind _ _ _ (keeps_get _) fun _ => ?_)
  iterate 2 refine keeps_lift_bind _ _ _ fun _ => ?_
  exact keeps_bind _ _ _ (keeps_traits_extend_policy _ _) fun _ => keeps_traits_set_policy _

theorem keeps_still_policy_ac_send_select : Keeps SessionSlots.still (policyAcSendSelect request) := by
  iterate 2 refine keeps_lift_bind _ _ _ fun _ => ?_
  refine keeps_still_step _ _ _ (keeps_bind _ _ _ (keeps_get _) fun _ => keeps_lift_bind _ _ _ fun _ => ?_)
  refine keeps_bind _ _ _ (keeps_traits_extend_policy _ _) fun _ => keeps_lift_bind _ _ _ fun _ => ?_
  exact keeps_traits_set_policy _

-- A policy command leaves which sessions there are alone, and what their responses are made of.
theorem policy_handlers_keep_still (row : UInt32 × Handler) (member : row ∈ policyHandlers) (request : Request) :
    Keeps (fun s : TpmState => s.sessions.still) (row.2.run request) := by
  have zoomed : ∀ {α : Type} (action : PolicyM α), Keeps SessionSlots.still action →
      Keeps (fun s : TpmState => s.sessions.still) (Scope.policy.zoom action) := fun action kept =>
    keeps_zoom_inner _ SessionSlots.still _ _ action (fun _ _ => rfl) (fun _ => rfl) kept
  have plain : ∀ run : TpmState → Request → PolicyM Response, (∀ s, Keeps SessionSlots.still (run s request)) →
      Keeps (fun s : TpmState => s.sessions.still) ((Handler.plain .policy run).run request) :=
    fun run kept => keeps_bind _ _ _ (keeps_get _) fun s => keeps_map _ _ _ (zoomed _ (kept s))
  have issuing : ∀ run : TpmState → Request → PolicyM Reply, (∀ s, Keeps SessionSlots.still (run s request)) →
      Keeps (fun s : TpmState => s.sessions.still) ((Handler.issuing .policy run).run request) := fun run kept =>
    keeps_bind _ _ _ (keeps_get _) fun s => zoomed _ (kept s)
  have rows : ∀ row ∈ policyHandlers, Keeps (fun s : TpmState => s.sessions.still) (row.2.run request) := by
    simp only [policyHandlers, List.forall_mem_cons]
    refine ⟨?_, ?_, ?_, ?_, ?_, ?_, ?_, ?_, ?_, ?_, ?_, ?_, ?_, ?_, ?_, ?_, ?_, ?_, ?_, ?_, ?_, ?_, ?_, ?_, ?_, nofun⟩
    · exact plain _ fun _ => keeps_still_policy_restart request
    · exact issuing _ fun s => keeps_still_policy_signed s request
    · exact issuing _ fun s => keeps_still_policy_secret s request
    · exact plain _ fun s => keeps_still_policy_ticket s request
    · exact plain _ fun _ => keeps_still_policy_or request
    · exact plain _ fun s => keeps_still_policy_pcr s request
    · exact plain _ fun _ => keeps_still_policy_locality request
    · exact plain _ fun s => keeps_still_policy_nv s request
    · exact plain _ fun s => keeps_still_policy_counter_timer s request
    · exact plain _ fun _ => keeps_still_policy_command_code request
    · exact plain _ fun _ => keeps_still_policy_physical_presence request
    · exact plain _ fun _ => keeps_still_policy_cp_hash request
    · exact plain _ fun _ => keeps_still_policy_name_hash request
    · exact plain _ fun s => keeps_still_policy_duplication_select s request
    · exact plain _ fun s => keeps_still_policy_authorize s request
    · exact plain _ fun _ => keeps_still_policy_auth_value request
    · exact plain _ fun _ => keeps_still_policy_password request
    · exact keeps_bind _ _ _ (keeps_get _) fun s => keeps_map _ _ _ (keeps_zoom _ _ _ _ fun _ _ => rfl)
    · exact plain _ fun _ => keeps_still_policy_nv_written request
    · exact plain _ fun _ => keeps_still_policy_template request
    · exact plain _ fun s => keeps_still_policy_authorize_nv s request
    · exact plain _ fun s => keeps_still_policy_capability s request
    · exact plain _ fun _ => keeps_still_policy_parameters request
    · exact plain _ fun _ => keeps_still_policy_transport_spdm request
    · exact plain _ fun _ => keeps_still_policy_ac_send_select request
  exact rows row member

end

end

end Swtrust
