import Swtrust.Commit.Moves
import Swtrust.Object.Created
import Swtrust.Object.Persistent
import Swtrust.Startup.Boot

set_option autoImplicit false
set_option linter.unusedSectionVars false

namespace Swtrust

open Library Action TpmState

section

variable [Primitives]

theorem work_places_of_same (w w' : Work) (same : w'.objects = w.objects) : WorkPlaces w w' := by
  unfold WorkPlaces
  rw [same]
  exact work_places_steady.refl w

theorem work_places_commits (commits : Work → Commits) :
    Guarantees WorkPlaces (modify fun w => { w with commits := commits w } : Action TpmRc Work PUnit) :=
  guarantees_modify _ _ fun w => work_places_of_same w _ rfl

theorem work_places_use_counter (object : Object) (counter : UInt16) (bits : UInt32) :
    Guarantees WorkPlaces (Work.useCounter object counter bits) := by
  have steady := work_places_steady
  refine guarantees_get_bind _ _ fun w => guarantees_lift_bind steady.refl _ _ (fun pair _ => ?_) w
  exact guarantees_bind steady _ _ (work_places_commits _) fun _ => guarantees_pure steady.refl _

section

variable (object : Object) (scheme : Scheme) (at' : SignParameters)

theorem rsa_sign_places (hashAlg : UInt16) (digest modulus : Bytes) (exponent : UInt32) (prime : Bytes) :
    Guarantees WorkPlaces (rsaSign scheme hashAlg digest modulus exponent prime at') := by
  have steady := work_places_steady
  refine guarantees_lift_bind steady.refl _ _ fun key _ => ?_
  have signs : ∀ block, Guarantees WorkPlaces (do
      let sig ← Rsa.privateOp key block
      return .rsa ⟨hashAlg, ← (Tpm2b.new sig : TpmResult Tpm2bPublicKeyRsa)⟩ : Action TpmRc Work SignatureValue) := by
    intro block
    iterate 2 refine guarantees_lift_bind steady.refl _ _ fun _ _ => ?_
    exact guarantees_pure steady.refl _
  refine guarantees_ite _ _ _ _ (fun _ => guarantees_bind steady _ _ (guarantees_lift steady.refl _) signs) fun _ => ?_
  refine guarantees_ite _ _ _ _ (fun _ => ?_) fun _ => guarantees_bind steady _ _ (guarantees_throw steady.refl _) signs
  refine guarantees_bind steady _ _ (draws_pss_encode WorkPlaces steady Work.bytes work_places_draw _ _ _) fun em => ?_
  exact guarantees_bind steady _ _ (guarantees_pure steady.refl _) signs

theorem ecc_sign_places (hashAlg : UInt16) (digest : Bytes) (curveId : UInt16) (scalar : Bytes) :
    Guarantees WorkPlaces (eccSign object scheme hashAlg digest curveId scalar at') := by
  have steady := work_places_steady
  refine guarantees_lift_bind steady.refl _ _ fun _ _ => ?_
  have then' : ∀ action : Action TpmRc Work Ecc.EccSignature, Guarantees WorkPlaces action →
      Guarantees WorkPlaces (action >>= fun sig => (do
        let r ← (Tpm2b.new sig.r : TpmResult Tpm2bEccParameter)
        return .ecc ⟨hashAlg, r, ← (Tpm2b.new sig.s : TpmResult Tpm2bEccParameter)⟩ : Action TpmRc Work SignatureValue)) := by
    intro action places
    refine guarantees_bind steady _ _ places fun sig => ?_
    iterate 2 refine guarantees_lift_bind steady.refl _ _ fun _ _ => ?_
    exact guarantees_pure steady.refl _
  refine guarantees_ite _ _ _ _ (fun _ => then' _ ?_) fun _ => guarantees_ite _ _ _ _ (fun _ => then' _ ?_) fun _ =>
    guarantees_ite _ _ _ _ (fun _ => ?_) fun _ => then' _ (guarantees_throw steady.refl _)
  · exact draws_ecdsa_sign WorkPlaces steady Work.bytes work_places_draw _ _ _
  · exact draws_ecschnorr_sign WorkPlaces steady Work.bytes work_places_draw _ _ _ _
  · split
    next detail count named =>
      refine guarantees_bind steady _ _ (work_places_use_counter object count _) fun commitR => then' _ ?_
      exact draws_ecdaa_sign WorkPlaces steady Work.bytes work_places_draw _ _ _ _ _
    next => exact then' _ (guarantees_throw steady.refl _)

theorem sign_digest_places (digest : Bytes) : Guarantees WorkPlaces (signDigest object scheme digest at') := by
  have steady := work_places_steady
  unfold signDigest
  dsimp only
  split
  · exact guarantees_throw steady.refl _
  · iterate 2 refine guarantees_lift_bind steady.refl _ _ fun _ _ => ?_
    refine guarantees_guard steady.refl _ _ _ _ fun _ => ?_
    refine guarantees_ite _ _ _ _ (fun _ => ?_) fun _ => guarantees_ite _ _ _ _ (fun _ => ?_) fun _ =>
      guarantees_ite _ _ _ _ (fun _ => ?_) fun _ => guarantees_throw steady.refl _
    · split
      · exact guarantees_bind steady _ _ (rsa_sign_places scheme at' _ _ _ _ _) fun _ => guarantees_pure steady.refl _
      · exact guarantees_throw steady.refl _
    · split
      · exact guarantees_bind steady _ _ (ecc_sign_places object scheme at' _ _ _ _) fun _ => guarantees_pure steady.refl _
      · exact guarantees_throw steady.refl _
    · iterate 2 refine guarantees_lift_bind steady.refl _ _ fun _ _ => ?_
      exact guarantees_pure steady.refl _

theorem sign_message_places (message : Bytes) : Guarantees WorkPlaces (signMessage object scheme message at') := by
  have steady := work_places_steady
  unfold signMessage
  refine guarantees_ite _ _ _ _ (fun _ => ?_) fun _ => ?_
  · iterate 2 refine guarantees_lift_bind steady.refl _ _ fun _ _ => ?_
    exact guarantees_bind steady _ _ (sign_digest_places object scheme at' _) fun _ => guarantees_pure steady.refl _
  · split
    · exact guarantees_throw steady.refl _
    · iterate 3 refine guarantees_lift_bind steady.refl _ _ fun _ _ => ?_
      exact guarantees_pure steady.refl _

end

section

variable (s : TpmState) (request : Request)

theorem attest_places (signer : Signer) (extraData : Tpm2bData) (attested : Attested) (parameter : Nat) :
    Guarantees WorkPlaces (attestAndSign s signer extraData attested parameter) := by
  have steady := work_places_steady
  refine guarantees_lift_bind steady.refl _ _ fun attest _ => ?_
  have replies : ∀ pair : TpmtSignature × Option Signed, Guarantees WorkPlaces (do
      let info : Tpm2bAttest ← (Tpm2b.new attest.marshal : TpmResult Tpm2bAttest)
      return { parameters := info.marshal ++ pair.1.marshal, signed := pair.2 } : Action TpmRc Work Reply) :=
    fun pair => guarantees_lift_bind steady.refl _ _ fun _ _ => guarantees_pure steady.refl _
  split
  · exact guarantees_bind steady _ _ (guarantees_pure steady.refl _) replies
  · refine guarantees_lift_bind steady.refl _ _ fun digest _ => ?_
    refine guarantees_bind steady _ _ (guarantees_with_err _ _ _ (sign_digest_places _ _ _ _)) fun pair => ?_
    exact guarantees_bind steady _ _ (guarantees_pure steady.refl _) replies

theorem certify_places : Guarantees WorkPlaces (certify s request) := by
  iterate 7 refine guarantees_lift_bind work_places_steady.refl _ _ fun _ _ => ?_
  exact attest_places s _ _ _ _

theorem certify_creation_places : Guarantees WorkPlaces (certifyCreation s request) := by
  have refl := work_places_steady.refl
  iterate 6 refine guarantees_lift_bind refl _ _ fun _ _ => ?_
  refine guarantees_guard refl _ _ _ _ fun _ => ?_
  iterate 2 refine guarantees_lift_bind refl _ _ fun _ _ => ?_
  exact attest_places s _ _ _ _

theorem quote_places : Guarantees WorkPlaces (quote s request) := by
  iterate 6 refine guarantees_lift_bind work_places_steady.refl _ _ fun _ _ => ?_
  exact attest_places s _ _ _ _

theorem get_time_places : Guarantees WorkPlaces (getTime s request) := by
  iterate 3 refine guarantees_lift_bind work_places_steady.refl _ _ fun _ _ => ?_
  exact attest_places s _ _ _ _

theorem nv_certify_places : Guarantees WorkPlaces (nvCertify s request) := by
  have refl := work_places_steady.refl
  iterate 6 refine guarantees_lift_bind refl _ _ fun _ _ => ?_
  refine guarantees_guard refl _ _ _ _ fun _ => ?_
  iterate 2 refine guarantees_lift_bind refl _ _ fun _ _ => ?_
  exact attest_places s _ _ _ _

theorem session_audit_places : Guarantees WorkPlaces (getSessionAuditDigest s request) := by
  have refl := work_places_steady.refl
  iterate 4 refine guarantees_lift_bind refl _ _ fun _ _ => ?_
  refine guarantees_guard refl _ _ _ _ fun _ => ?_
  iterate 2 refine guarantees_lift_bind refl _ _ fun _ _ => ?_
  exact attest_places s _ _ _ _

theorem sign_places : Guarantees WorkPlaces (sign s request) := by
  have steady := work_places_steady
  iterate 6 refine guarantees_lift_bind steady.refl _ _ fun _ _ => ?_
  exact guarantees_bind steady _ _ (guarantees_with_err _ _ _ (sign_digest_places _ _ _ _)) fun _ =>
    guarantees_pure steady.refl _

theorem sign_digest_command_places : Guarantees WorkPlaces (signDigestCommand s request) := by
  have steady := work_places_steady
  iterate 4 refine guarantees_lift_bind steady.refl _ _ fun _ _ => ?_
  refine guarantees_guard steady.refl _ _ _ _ fun _ => ?_
  iterate 3 refine guarantees_lift_bind steady.refl _ _ fun _ _ => ?_
  exact guarantees_bind steady _ _ (guarantees_with_err _ _ _ (sign_digest_places _ _ _ _)) fun _ =>
    guarantees_pure steady.refl _

theorem sign_sequence_places : Guarantees WorkPlaces (signSequenceComplete s request) := by
  have steady := work_places_steady
  iterate 6 refine guarantees_lift_bind steady.refl _ _ fun _ _ => ?_
  iterate 2 refine guarantees_guard steady.refl _ _ _ _ fun _ => ?_
  refine guarantees_lift_bind steady.refl _ _ fun _ _ => ?_
  exact guarantees_bind steady _ _ (sign_message_places _ _ _ _) fun _ => guarantees_pure steady.refl _

theorem certify_x509_places : Guarantees WorkPlaces (certifyX509 s request) := by
  have steady := work_places_steady
  iterate 3 refine guarantees_lift_bind steady.refl _ _ fun _ _ => ?_
  refine guarantees_guard steady.refl _ _ _ _ fun _ => ?_
  refine guarantees_lift_bind steady.refl _ _ fun _ _ => ?_
  refine guarantees_guard steady.refl _ _ _ _ fun _ => ?_
  iterate 5 refine guarantees_lift_bind steady.refl _ _ fun _ _ => ?_
  dsimp only
  split
  on_goal 1 => refine guarantees_guard steady.refl _ _ _ _ fun _ => ?_
  all_goals
    refine guarantees_bind steady _ _ (work_places_draw 20) fun serial => ?_
    refine guarantees_lift_bind steady.refl _ _ fun spki _ => ?_
    split
    on_goal 2 => split
    on_goal 3 => exact steady.refl
    all_goals
      refine guarantees_lift_bind steady.refl _ _ fun digest _ => ?_
      refine guarantees_bind steady _ _ (sign_digest_places _ _ _ _) fun pair => ?_
      iterate 2 refine guarantees_lift_bind steady.refl _ _ fun _ _ => ?_
      exact guarantees_pure steady.refl _

-- What takes a counter of the commits, or spends one, does no more to the rest of the working state.
theorem ec_ephemeral_places : Guarantees WorkPlaces (ecEphemeral request) := by
  have steady := work_places_steady
  iterate 2 refine guarantees_lift_bind steady.refl _ _ fun _ _ => ?_
  refine guarantees_get_bind _ _ fun w => guarantees_lift_bind steady.refl _ _ (fun pair _ => ?_) w
  exact guarantees_bind steady _ _ (work_places_commits fun w => w.commits.take) fun _ => guarantees_pure steady.refl _

theorem commit_places : Guarantees WorkPlaces (commit s request) := by
  have steady := work_places_steady
  iterate 3 refine guarantees_lift_bind steady.refl _ _ fun _ _ => ?_
  refine guarantees_guard steady.refl _ _ _ _ fun _ => ?_
  dsimp only
  split
  · exact guarantees_throw steady.refl _
  · split
    · refine guarantees_guard steady.refl _ _ _ _ fun _ => guarantees_lift_bind steady.refl _ _ fun _ _ => ?_
      refine guarantees_guard steady.refl _ _ _ _ fun _ => ?_
      iterate 2 refine guarantees_lift_bind steady.refl _ _ fun _ _ => ?_
      refine guarantees_get_bind _ _ fun w => guarantees_lift_bind steady.refl _ _ (fun taken _ => ?_) w
      refine guarantees_lift_bind steady.refl _ _ fun _ _ => ?_
      exact guarantees_bind steady _ _ (work_places_commits fun w => w.commits.take) fun _ => guarantees_pure steady.refl _
    · exact guarantees_throw steady.refl _

theorem zgen_places : Guarantees WorkPlaces (zgen2Phase s request) := by
  have steady := work_places_steady
  iterate 2 refine guarantees_lift_bind steady.refl _ _ fun _ _ => ?_
  refine guarantees_guard steady.refl _ _ _ _ fun _ => ?_
  refine guarantees_lift_bind steady.refl _ _ fun _ _ => ?_
  iterate 2 refine guarantees_guard steady.refl _ _ _ _ fun _ => ?_
  dsimp only
  split
  · exact guarantees_throw steady.refl _
  · split
    · iterate 3 refine guarantees_lift_bind steady.refl _ _ fun _ _ => ?_
      refine guarantees_get_bind _ _ fun w => guarantees_lift_bind steady.refl _ _ (fun used _ => ?_) w
      refine guarantees_bind steady _ _ (work_places_commits fun _ => used.2) fun _ => ?_
      refine guarantees_guard steady.refl _ _ _ _ fun _ => guarantees_ite _ _ _ _ (fun _ => ?_) fun _ => ?_
      · iterate 2 refine guarantees_lift_bind steady.refl _ _ fun _ _ => ?_
        exact guarantees_pure steady.refl _
      · refine guarantees_lift_bind steady.refl _ _ fun _ _ => ?_
        exact guarantees_pure steady.refl _
    · exact guarantees_throw steady.refl _

theorem create_places : Guarantees WorkPlaces (create s request) := by
  have steady := work_places_steady
  iterate 5 refine guarantees_lift_bind steady.refl _ _ fun _ _ => ?_
  refine guarantees_guard steady.refl _ _ _ _ fun _ => ?_
  refine guarantees_bind steady _ _ (draws_create_sensitive WorkPlaces steady Work.bytes work_places_draw _ _) fun pair => ?_
  iterate 7 refine guarantees_lift_bind steady.refl _ _ fun _ _ => ?_
  exact guarantees_pure steady.refl _

theorem hash_start_places : Guarantees WorkPlaces (hashSequenceStart request) := by
  have steady := work_places_steady
  refine guarantees_lift_bind steady.refl _ _ fun _ _ => ?_
  refine guarantees_ite _ _ _ _ (fun _ => start_places _ _) fun _ => ?_
  exact guarantees_guard steady.refl _ _ _ _ fun _ => start_places _ _

theorem hmac_start_places : Guarantees WorkPlaces (hmacStart s request) := by
  iterate 3 refine guarantees_lift_bind work_places_steady.refl _ _ fun _ _ => ?_
  exact start_places _ _

theorem start_bound_places (keyHandle : UInt32) (hashAlg : UInt16) (counter : Option UInt16) (auth : Bytes) :
    Guarantees WorkPlaces (startBoundSequence keyHandle hashAlg counter auth) := by
  have steady := work_places_steady
  refine guarantees_guard steady.refl _ _ _ _ fun _ => ?_
  exact guarantees_bind steady _ _ (work_places_insert (.sequence _) trivial) fun _ => guarantees_pure steady.refl _

theorem sign_start_places : Guarantees WorkPlaces (signSequenceStart s request) := by
  iterate 7 refine guarantees_lift_bind work_places_steady.refl _ _ fun _ _ => ?_
  exact start_bound_places _ _ _ _

theorem verify_start_places : Guarantees WorkPlaces (verifySequenceStart s request) := by
  have steady := work_places_steady
  iterate 2 refine guarantees_lift_bind steady.refl _ _ fun _ _ => ?_
  refine guarantees_guard steady.refl _ _ _ _ fun _ => ?_
  iterate 3 refine guarantees_lift_bind steady.refl _ _ fun _ _ => ?_
  exact start_bound_places _ _ _ _

theorem sequence_update_places : Guarantees WorkPlaces (sequenceUpdate s request) := by
  have steady := work_places_steady
  iterate 5 refine guarantees_lift_bind steady.refl _ _ fun _ _ => ?_
  refine guarantees_bind steady _ _ (guarantees_modify _ _ fun w => ?_) fun _ => guarantees_pure steady.refl _
  exact placed_put w.objects (.sequence _) _ trivial

end

-- Of what a command does to the slots only those it puts an object into are of concern here.
def StatePlaces (s t : TpmState) : Prop := Placed s.objects t.objects

theorem state_places_steady : Steady StatePlaces := placed_steady fun s : TpmState => s.objects

theorem state_places_of_same (s t : TpmState) (same : t.objects = s.objects) : StatePlaces s t := by
  unfold StatePlaces
  rw [same]
  exact state_places_steady.refl s

theorem state_places_of_keeps {α : Type} (action : TpmM α) (kept : Keeps (fun s : TpmState => s.objects) action) :
    Guarantees StatePlaces action := fun s => state_places_of_same s _ (kept s)

theorem placed_empty (slots : ObjectSlots) : Placed slots SortedMap.empty := by
  intro handle slot found
  cases found

theorem placed_erase (slots : ObjectSlots) (handle : UInt32) : Placed slots (slots.erase handle) :=
  fun other slot found => .inl (SortedMap.get_of_erase slots handle other slot found)

section

variable (s : TpmState) (request : Request)

theorem start_auth_session_places : Guarantees ContextPlaces (startAuthSession s request) := by
  have steady := context_places_steady
  iterate 7 refine guarantees_lift_bind steady.refl _ _ fun _ _ => ?_
  refine guarantees_bind steady _ _ (guarantees_zoom _ _ _ _ fun t => steady.refl t) fun nonceTpm => ?_
  refine guarantees_lift_bind steady.refl _ _ fun sessionKey _ => guarantees_get_bind _ _ fun t => ?_
  refine guarantees_lift_bind steady.refl _ _ (fun handle _ => guarantees_lift_bind steady.refl _ _ fun session _ => ?_) t
  refine guarantees_get_bind _ _ fun u => guarantees_lift_bind steady.refl _ _ (fun sessions _ => ?_) u
  refine guarantees_bind steady _ _ (guarantees_modify _ _ fun t => steady.refl t) fun _ => ?_
  exact guarantees_lift_bind steady.refl _ _ fun _ _ => guarantees_pure steady.refl _

theorem context_save_places : Guarantees ContextPlaces (contextSave s request) := by
  have steady := context_places_steady
  refine guarantees_lift_bind steady.refl _ _ fun handle _ => guarantees_get_bind _ _ fun t => ?_
  have refl : Placed t.objects t.objects := steady.refl t
  let holds : ContextScope → Prop := fun u => Placed t.objects u.objects
  by_cases exhausted : t.sessions.countersExhausted = true
  · rw [if_pos exhausted]
    exact refl
  rw [if_neg exhausted]
  by_cases ranged : isSessionHandle handle = true
  · rw [if_pos ranged]
    refine final_lift_bind holds _ _ t refl fun saved _ => ?_
    dsimp only
    rw [run_set_bind]
    exact final_lift_bind holds _ _ _ refl fun _ _ => refl
  · rw [if_neg ranged]
    refine final_lift_bind holds _ _ t refl fun slot _ => ?_
    dsimp only
    refine final_lift_bind holds _ _ t refl fun sealed _ => ?_
    exact refl

theorem flush_context_places : Guarantees ContextPlaces (flushContext request) := by
  have steady := context_places_steady
  refine guarantees_lift_bind steady.refl _ _ fun handle _ => guarantees_get_bind _ _ fun t => ?_
  have refl : Placed t.objects t.objects := steady.refl t
  let holds : ContextScope → Prop := fun u => Placed t.objects u.objects
  by_cases flushable : SessionSlots.isFlushableSession handle = true
  · rw [if_pos flushable]
    dsimp only
    rw [run_set_bind]
    refine final_lift_bind holds _ _ _ refl fun flushed _ => ?_
    split
    · exact refl
    · exact refl
  rw [if_neg flushable]
  by_cases transient : ObjectSlots.isTransient handle = true
  · rw [if_pos transient]
    refine final_lift_bind holds _ _ t refl fun objects removed => ?_
    have erased := ObjectSlots.remove_slot_ok t.objects objects handle ((map_error_is_ok _ _ _).mp removed)
    change Placed t.objects objects
    rw [erased]
    exact placed_erase t.objects handle
  · rw [if_neg transient]
    exact refl

theorem audit_digest_places : Guarantees StatePlaces (Scope.audit.zoom (getCommandAuditDigest s request)) := by
  have steady : Steady fun t u : AuditScope => Placed t.work.objects u.work.objects :=
    placed_steady fun t : AuditScope => t.work.objects
  have inner : Guarantees (fun t u : AuditScope => Placed t.work.objects u.work.objects)
      (getCommandAuditDigest s request) := by
    iterate 6 refine guarantees_lift_bind steady.refl _ _ fun _ _ => ?_
    refine guarantees_bind steady _ _ (guarantees_zoom _ _ _ _ fun t => ?_) fun response => ?_
    · exact attest_places s _ _ _ _ t.work
    · refine guarantees_ite _ _ _ _ (fun _ => ?_) fun _ => guarantees_pure steady.refl _
      exact guarantees_bind steady _ _ (guarantees_modify _ _ fun t => steady.refl t) fun _ => guarantees_pure steady.refl _
  exact guarantees_zoom _ _ _ _ fun t => inner ⟨t.work, t.audit, t.commandAuditSuppressed⟩

theorem audit_status_places : Guarantees StatePlaces (Scope.audit.zoom (setCommandCodeAuditStatus s request)) := by
  have inner : Keeps (fun t : AuditScope => t.work) (setCommandCodeAuditStatus s request) := keeps_work_audit_status s request
  exact state_places_of_keeps _ (keeps_zoom_inner (fun s : TpmState => s.objects) (fun t : AuditScope => t.work.objects) _ _ _
    (fun _ _ => rfl) (fun _ => rfl) fun t => congrArg Work.objects (inner t))

end

-- The hierarchies empty slots, and fill none.
def AdminPlaces (t t' : AdminScope) : Prop := Placed t.objects t'.objects

theorem admin_places_steady : Steady AdminPlaces := placed_steady fun t : AdminScope => t.objects

theorem admin_places_of_keeps (action : AdminM Response) (kept : Keeps AdminScope.held action) :
    Guarantees AdminPlaces action := by
  intro t
  unfold AdminPlaces
  rw [show (final (action t)).objects = t.objects from congrArg Prod.fst (kept t)]
  exact admin_places_steady.refl t

section

variable (request : Request)

theorem hierarchy_control_places : Guarantees AdminPlaces (hierarchyControl request) := by
  have steady := admin_places_steady
  have enabled : ∀ handle newState, Guarantees AdminPlaces (modify (enableHierarchy handle newState) : AdminM PUnit) := by
    refine fun handle newState => guarantees_modify _ _ fun t => ?_
    unfold enableHierarchy
    split
    · exact steady.refl t
    · cases newState with
      | true => exact steady.refl t
      | false =>
          change Placed t.objects (t.objects.flushHierarchy handle)
          exact placed_retain t.objects _
  have ended : ∀ action : AdminM PUnit, Guarantees AdminPlaces action → Guarantees AdminPlaces (do
      action
      return .empty : AdminM Response) := fun action places =>
    guarantees_bind steady _ _ places fun _ => guarantees_pure steady.refl _
  iterate 2 refine guarantees_lift_bind steady.refl _ _ fun _ _ => ?_
  refine guarantees_guard steady.refl _ _ _ _ fun _ => ?_
  refine guarantees_ite _ _ _ _ (fun _ => ended _ (enabled _ _)) fun _ => guarantees_ite _ _ _ _ (fun _ => ?_) fun _ => ?_
  · exact guarantees_guard steady.refl _ _ _ _ fun _ => ended _ (enabled _ _)
  · refine guarantees_ite _ _ _ _ (fun _ => ended _ (guarantees_modify _ _ fun t => steady.refl t)) fun _ => ?_
    exact ended _ (guarantees_throw steady.refl _)

theorem change_pps_places : Guarantees AdminPlaces (changePps request) := by
  have steady := admin_places_steady
  refine guarantees_bind steady _ _ (guarantees_zoom _ _ _ _ fun t => steady.refl t) fun _ => ?_
  exact guarantees_bind steady _ _ (guarantees_modify _ _ fun t => placed_retain t.objects _)
    fun _ => guarantees_pure steady.refl _

theorem change_eps_places : Guarantees AdminPlaces (changeEps request) := by
  have steady := admin_places_steady
  refine guarantees_bind steady _ _ (guarantees_zoom _ _ _ _ fun t => steady.refl t) fun _ => ?_
  exact guarantees_bind steady _ _ (guarantees_modify _ _ fun t => placed_retain t.objects _)
    fun _ => guarantees_pure steady.refl _

theorem clear_places : Guarantees StatePlaces (clear request) := by
  have steady := state_places_steady
  have cleared : Guarantees StatePlaces (do
      onClear
      modify fun s => { s with lockoutAuth := [], lockoutPolicy := TpmtHa.null }
      return .notReading request [] : TpmM Response) := by
    refine guarantees_bind steady _ _ ?_ fun _ => guarantees_bind steady _ _ ?_ fun _ => guarantees_pure steady.refl _
    · refine guarantees_bind steady _ _ (guarantees_zoom _ _ _ _ fun s => state_places_of_same _ _ rfl) fun _ => ?_
      refine guarantees_modify _ _ fun s => ?_
      exact (placed_steady fun slots : ObjectSlots => slots).trans _ _ _ (placed_retain s.objects _) (placed_retain _ _)
    · exact guarantees_modify _ _ fun s => state_places_of_same _ _ rfl
  refine guarantees_get_bind _ _ fun s => ?_
  exact guarantees_ite _ _ _ _ (fun _ t => steady.refl t) (fun _ => cleared) s

end

theorem state_places_work {α : Type} (action : Action TpmRc Work α) (places : Guarantees WorkPlaces action) :
    Guarantees StatePlaces (Scope.work.zoom action) :=
  guarantees_zoom _ _ _ _ fun s => places s.work

theorem state_places_context {α : Type} (action : Action TpmRc ContextScope α) (places : Guarantees ContextPlaces action) :
    Guarantees StatePlaces (Scope.context.zoom action) :=
  guarantees_zoom _ _ _ _ fun s => places s.contextScope

theorem state_places_admin {α : Type} (action : AdminM α) (places : Guarantees AdminPlaces action) :
    Guarantees StatePlaces (Scope.admin.zoom action) :=
  guarantees_zoom _ _ _ _ fun s => places s.admin

-- The handlers whose scope has the slots in it.
def slotCommands : List UInt32 := [Cc.create, Cc.createLoaded, Cc.createPrimary, Cc.load, Cc.loadExternal, Cc.certifyX509,
  Cc.hmacStart, Cc.hashSequenceStart, Cc.sequenceUpdate, Cc.certify, Cc.certifyCreation, Cc.quote, Cc.getTime,
  Cc.getSessionAuditDigest, Cc.nvCertify, Cc.ecEphemeral, Cc.sign, Cc.commit, Cc.zGen2Phase, Cc.signDigest,
  Cc.signSequenceStart, Cc.signSequenceComplete, Cc.verifySequenceStart, Cc.getCommandAuditDigest,
  Cc.setCommandCodeAuditStatus, Cc.startAuthSession, Cc.contextSave, Cc.contextLoad, Cc.flushContext, Cc.hierarchyControl,
  Cc.setPrimaryPolicy, Cc.changePps, Cc.changeEps, Cc.clearControl, Cc.hierarchyChangeAuth, Cc.ppCommands,
  Cc.setAlgorithmSet, Cc.startup, Cc.shutdown, Cc.clear]

theorem handlers_spare_slots : (handlers.all fun row =>
    !([.work, .audit, .context, .admin, .whole] : List Scope).contains row.2.scope || slotCommands.contains row.1) = true := by
  rfl

theorem scopes_spare_slots {α : Type} (scope : Scope) (action : Action TpmRc scope.State α)
    (spared : (!([.work, .audit, .context, .admin, .whole] : List Scope).contains scope) = true) :
    Guarantees StatePlaces (scope.zoom action) := by
  cases scope with
  | work | audit | context | admin | whole => exact absurd spared (by decide)
  | _ => exact guarantees_zoom _ _ _ action fun s => state_places_of_same _ _ rfl

theorem run_command_places_slots (onCurve : Ecc.OnCurve) (request : Request) : Guarantees StatePlaces (runCommand request) := by
  have worked : ∀ run : TpmState → Request → Action TpmRc Work Response,
      handlerOf request.code = some (.plain .work run) → (∀ s, Guarantees WorkPlaces (run s request)) →
      Guarantees StatePlaces (runCommand request) := by
    intro run named places s
    rw [run_command_of request _ named]
    exact guarantees_map _ _ _ (state_places_work _ (places s)) s
  have issued : ∀ run : TpmState → Request → Action TpmRc Work Reply,
      handlerOf request.code = some (.issuing .work run) → (∀ s, Guarantees WorkPlaces (run s request)) →
      Guarantees StatePlaces (runCommand request) := by
    intro run named places s
    rw [run_command_of request _ named]
    exact state_places_work _ (places s) s
  have contextual : ∀ run : TpmState → Request → Action TpmRc ContextScope Response,
      handlerOf request.code = some (.plain .context run) → (∀ s, Guarantees ContextPlaces (run s request)) →
      Guarantees StatePlaces (runCommand request) := by
    intro run named places s
    rw [run_command_of request _ named]
    exact guarantees_map _ _ _ (state_places_context _ (places s)) s
  have administered : ∀ run : Request → AdminM Response,
      handlerOf request.code = some (.plain .admin fun _ request => run request) →
      Guarantees AdminPlaces (run request) → Guarantees StatePlaces (runCommand request) := by
    intro run named places s
    rw [run_command_of request _ named]
    exact guarantees_map _ _ _ (state_places_admin _ places) s
  refine guarantees_run_listed _ state_places_steady.refl _ slotCommands handlers_spare_slots scopes_spare_slots request
    fun listed => ?_
  simp only [slotCommands, List.mem_cons, List.not_mem_nil, or_false] at listed
  rcases listed with code | code | code | code | code | code | code | code | code | code | code | code | code | code |
    code | code | code | code | code | code | code | code | code | code | code | code | code | code | code | code |
    code | code | code | code | code | code | code | code | code | code
  · exact issued create (by rw [code]; rfl) fun s => create_places s request
  · exact worked createLoaded (by rw [code]; rfl) fun s => create_loaded_places onCurve s request
  · exact issued createPrimary (by rw [code]; rfl) fun s => create_primary_places onCurve s request
  · exact worked load (by rw [code]; rfl) fun s => load_places s request
  · exact worked loadExternal (by rw [code]; rfl) fun s => load_external_places s request
  · exact issued certifyX509 (by rw [code]; rfl) fun s => certify_x509_places s request
  · exact worked hmacStart (by rw [code]; rfl) fun s => hmac_start_places s request
  · exact worked (fun _ => hashSequenceStart) (by rw [code]; rfl) fun _ => hash_start_places request
  · exact worked sequenceUpdate (by rw [code]; rfl) fun s => sequence_update_places s request
  · exact issued certify (by rw [code]; rfl) fun s => certify_places s request
  · exact issued certifyCreation (by rw [code]; rfl) fun s => certify_creation_places s request
  · exact issued quote (by rw [code]; rfl) fun s => quote_places s request
  · exact issued getTime (by rw [code]; rfl) fun s => get_time_places s request
  · exact issued getSessionAuditDigest (by rw [code]; rfl) fun s => session_audit_places s request
  · exact issued nvCertify (by rw [code]; rfl) fun s => nv_certify_places s request
  · exact worked (fun _ => ecEphemeral) (by rw [code]; rfl) fun _ => ec_ephemeral_places request
  · exact issued sign (by rw [code]; rfl) fun s => sign_places s request
  · exact worked commit (by rw [code]; rfl) fun s => commit_places s request
  · exact worked zgen2Phase (by rw [code]; rfl) fun s => zgen_places s request
  · exact issued signDigestCommand (by rw [code]; rfl) fun s => sign_digest_command_places s request
  · exact worked signSequenceStart (by rw [code]; rfl) fun s => sign_start_places s request
  · exact issued signSequenceComplete (by rw [code]; rfl) fun s => sign_sequence_places s request
  · exact worked verifySequenceStart (by rw [code]; rfl) fun s => verify_start_places s request
  · intro s
    rw [run_command_of request (.issuing .audit getCommandAuditDigest) (by rw [code]; rfl)]
    exact audit_digest_places s request s
  · intro s
    rw [run_command_of request (.plain .audit setCommandCodeAuditStatus) (by rw [code]; rfl)]
    exact guarantees_map _ _ _ (audit_status_places s request) s
  · exact contextual startAuthSession (by rw [code]; rfl) fun s => start_auth_session_places s request
  · intro s
    rw [run_command_of request (.issuing .context contextSave) (by rw [code]; rfl)]
    exact state_places_context _ (context_save_places s request) s
  · exact contextual contextLoad (by rw [code]; rfl) fun s => context_load_places s request
  · exact contextual (fun _ => flushContext) (by rw [code]; rfl) fun _ => flush_context_places request
  · exact administered hierarchyControl (by rw [code]; rfl) (hierarchy_control_places request)
  · exact administered setPrimaryPolicy (by rw [code]; rfl) (admin_places_of_keeps _ (keeps_held_set_primary_policy request))
  · exact administered changePps (by rw [code]; rfl) (change_pps_places request)
  · exact administered changeEps (by rw [code]; rfl) (change_eps_places request)
  · exact administered clearControl (by rw [code]; rfl) (admin_places_of_keeps _ (keeps_held_clear_control request))
  · exact administered hierarchyChangeAuth (by rw [code]; rfl)
      (admin_places_of_keeps _ (keeps_held_hierarchy_change_auth request))
  · exact administered ppCommands (by rw [code]; rfl) (admin_places_of_keeps _ (keeps_held_pp_commands request))
  · exact administered setAlgorithmSet (by rw [code]; rfl) (admin_places_of_keeps _ (keeps_held_set_algorithm_set request))
  · intro s
    rw [s.run_whole request startup (by rw [code]; rfl)]
    refine guarantees_map _ _ _ (guarantees_startup _ ⟨state_places_steady, fun s => placed_empty s.objects,
      fun _ _ _ _ _ _ _ _ _ _ _ _ _ _ _ _ => state_places_of_same _ _ rfl, fun _ _ _ => state_places_of_same _ _ rfl⟩ request) s
  · intro s
    rw [s.run_whole request shutdown (by rw [code]; rfl)]
    exact guarantees_map _ _ _ (guarantees_shutdown _ state_places_steady (fun s _ _ _ => state_places_of_same s _ rfl)
      request) s
  · intro s
    rw [s.run_whole request clear (by rw [code]; rfl)]
    exact guarantees_map _ _ _ (clear_places request) s

namespace TpmState

-- A response releases at most the sequence that the command has ended.
theorem respond_places (request : Request) (reply : Reply) (names : List Bytes) (contexts : List AuthContext)
    (parameters : Bytes) : Guarantees StatePlaces (respond request reply names contexts parameters) := by
  have steady := state_places_steady
  have spared : SparedByAnswer request fun s => s.objects :=
    ⟨fun _ _ => rfl, fun _ _ _ _ => rfl, fun _ _ _ _ => rfl, fun _ _ _ => rfl⟩
  have released : ∀ s : TpmState, StatePlaces s (flushIfNeeded request s) := by
    intro s
    unfold flushIfNeeded
    split
    · exact steady.refl s
    · split
      · exact placed_erase s.objects _
      · exact steady.refl s
  have closed : ∀ octets area, Guarantees StatePlaces (do
      modify fun s => flushIfNeeded request (closeSessions request s)
      pure (successResponse request.tag (responseBody request reply.handle octets area)) : TpmM Bytes) := by
    refine fun octets area => guarantees_bind steady _ _ (guarantees_modify _ _ fun s => ?_)
      fun _ => guarantees_pure steady.refl _
    refine steady.trans s (closeSessions request s) _ (state_places_of_same _ _ ?_) (released _)
    exact close_sessions_from_spared spared _ _ _ fun _ given => given
  have answered : ∀ nonces : List Bytes, Guarantees StatePlaces (do
      let responders := (← get).responseContexts request contexts
      let octets ← (← get).encryptParameters request reply.parameters (contexts.map (·.auth))
      updateAudit request names parameters octets
      let area ←
        if request.tag = St.sessions then (← get).buildResponseSessions request octets nonces responders else pure []
      modify fun s => flushIfNeeded request (closeSessions request s)
      return successResponse request.tag (responseBody request reply.handle octets area) : TpmM Bytes) := by
    refine fun nonces => guarantees_get_bind _ _ fun s => guarantees_get_bind _ _ (fun t => ?_) s
    refine guarantees_lift_bind steady.refl _ _ (fun octets _ => ?_) t
    refine guarantees_bind steady _ _ (state_places_of_keeps _ (keeps_update_audit spared names _ _)) fun _ => ?_
    refine guarantees_ite _ _ _ _ (fun _ => ?_) fun _ => guarantees_bind steady _ _ (guarantees_pure steady.refl _) (closed _)
    refine guarantees_get_bind _ _ fun u => guarantees_lift_bind steady.refl _ _ (fun area _ => ?_) u
    exact closed _ area
  unfold respond
  refine guarantees_ite _ _ _ _ (fun _ => ?_) fun _ => guarantees_bind steady _ _ (guarantees_pure steady.refl _) answered
  exact guarantees_bind steady _ _ (state_places_of_keeps _ (keeps_roll_response_nonces spared _ fun _ given => given)) answered

theorem state_places_undisturbed : Undisturbed StatePlaces where
  steady := state_places_steady
  nullified request s := by
    obtain ⟨_, _, same⟩ := nullify_shutdown_changes request s
    rw [same]
    exact state_places_of_same _ _ rfl
  authorized request names count index :=
    guarantees_authorize_from _ (fun _ _ _ => state_places_of_same _ _ rfl) request names count index
  suppressed _ _ := state_places_of_same _ _ rfl
  failed _ := state_places_of_same _ _ rfl
  responded := respond_places

theorem event_places (onCurve : Ecc.OnCurve) (s : TpmState) (event : Event) : StatePlaces s (s.after event) := by
  have emptied : ∀ t : TpmState, t.objects = SortedMap.empty → StatePlaces s t := by
    intro t empty
    unfold StatePlaces
    rw [empty]
    exact placed_empty s.objects
  cases event with
  | elapse millis =>
      obtain ⟨_, _, _, same⟩ := s.advance_time_changes millis
      exact state_places_of_same s (s.advanceTime millis).2 (by rw [same])
  | command locality octets =>
      exact run_guarantees _ state_places_undisturbed { s with hcrtmSequence := none } locality octets
        fun request parameters _ => run_command_places_slots onCurve { request with parameters }
  | powerOn =>
      obtain ⟨_, _, _, _, _, _, _, _, _, _, same⟩ := s.power_on_changes
      exact emptied s.powerOn (by rw [same])
  | powerOff => exact emptied s.powerOff rfl
  | hashEnd =>
      obtain ⟨_, _, _, _, same⟩ := s.hash_end_changes
      exact state_places_of_same s s.hashEnd (by rw [same])
  | nv | physicalPresence | hashStart | hashData => exact state_places_of_same _ _ rfl

-- Whatever a TPM has been through since nothing was loaded, what lies in its slots is sound.
theorem run_sound (onCurve : Ecc.OnCurve) (s : TpmState) (vacant : s.objects = SortedMap.empty) (events : List Event)
    (handle : UInt32) (slot : Slot) (held : (s.afterAll events).objects.getSlot handle = .ok slot) : slot.Sound := by
  have every := invariant_of_every after (fun _ _ => True) (fun t : TpmState =>
      ∀ handle slot, t.objects.get handle = some slot → slot.Sound)
    (fun t event _ sound handle slot held => (event_places onCurve t event handle slot held).elim (sound handle slot) id)
    s events (every_of_all _ _ s events fun _ _ _ => trivial) (by rw [vacant]; exact fun _ _ held => by cases held)
  unfold ObjectSlots.getSlot at held
  split at held
  next other there =>
    cases held
    exact every handle slot there
  next => cases held

end TpmState

end

end Swtrust
