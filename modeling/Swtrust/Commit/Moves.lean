import Swtrust.Commit.Draws
import Swtrust.Startup.Boot

set_option autoImplicit false
set_option linter.unusedSectionVars false

namespace Swtrust

open Library Action

section

variable [Primitives]

-- The nonce of a counter is derived, and the counter spent with that.
def Commits.Derives (counter nameAlg : UInt16) (name : Bytes) (before after : Commits) : Prop :=
  ∃ full bits r, before.fullCounter counter = .ok full ∧ before.derive nameAlg name full bits = .ok r ∧
    after = before.setBit full false

-- All that a command does with the commits: nothing, or it takes one, or derives the nonce of one.
inductive CommitMove (before : Commits) : Commits → Prop where
  | same : CommitMove before before
  | taken (ready : before.isReady = true) : CommitMove before before.take
  | derived (counter nameAlg : UInt16) (name : Bytes) (after : Commits)
      (derives : Commits.Derives counter nameAlg name before after) : CommitMove before after

def SameCommits (w w' : Work) : Prop := w'.commits = w.commits

theorem same_commits_steady : Steady SameCommits where
  refl _ := rfl
  trans _ _ _ first second := second.trans first

theorem same_commits_draw (count : Nat) : Guarantees SameCommits (Work.bytes count) :=
  guarantees_zoom _ _ _ _ fun _ => rfl

theorem same_commits_insert (slot : Slot) : Guarantees SameCommits (Work.insert slot) := by
  intro w
  unfold Work.insert
  rw [run_get_bind, run_lift_bind]
  cases w.objects.insertSlot slot with
  | error e => rfl
  | ok pair => rfl

def WorkMoves (w w' : Work) : Prop := CommitMove w.commits w'.commits

theorem work_moves_refl : Idle WorkMoves := fun _ => .same

theorem work_moves_of_same {α : Type} (action : Action TpmRc Work α) (same : Guarantees SameCommits action) :
    Guarantees WorkMoves action := by
  intro w
  unfold WorkMoves
  rw [show (final (action w)).commits = w.commits from same w]
  exact .same

-- A move, and then what leaves the commits alone.
theorem work_moves_bind {α β : Type} (action : Action TpmRc Work β) (next : β → Action TpmRc Work α)
    (first : Guarantees WorkMoves action) (rest : ∀ b, Guarantees SameCommits (next b)) :
    Guarantees WorkMoves (action >>= next) :=
  guarantees_step_bind (fun w : Work => w.commits) CommitMove action next first rest

theorem use_counter_names (commits after : Commits) (nameAlg : UInt16) (name r : Bytes) (counter : UInt16) (bits : UInt32)
    (used : commits.useCounter nameAlg name counter bits = .ok (r, after)) :
    Commits.Derives counter nameAlg name commits after := by
  simp only [Commits.useCounter, bind_is_ok, pure_is_ok, Prod.mk.injEq] at used
  obtain ⟨full, named, _, derived, rfl, rfl⟩ := used
  exact ⟨full, bits, _, named, derived, rfl⟩

section

variable (object : Object) (scheme : Scheme) (at' : SignParameters)

theorem same_commits_rsa_sign (hashAlg : UInt16) (digest modulus : Bytes) (exponent : UInt32) (prime : Bytes) :
    Guarantees SameCommits (rsaSign scheme hashAlg digest modulus exponent prime at') := by
  have steady := same_commits_steady
  refine guarantees_lift_bind steady.refl _ _ fun key _ => ?_
  have signs : ∀ block, Guarantees SameCommits (do
      let sig ← Rsa.privateOp key block
      return .rsa ⟨hashAlg, ← (Tpm2b.new sig : TpmResult Tpm2bPublicKeyRsa)⟩ : Action TpmRc Work SignatureValue) := by
    intro block
    iterate 2 refine guarantees_lift_bind steady.refl _ _ fun _ _ => ?_
    exact guarantees_pure steady.refl _
  refine guarantees_ite _ _ _ _ (fun _ => guarantees_bind steady _ _ (guarantees_lift steady.refl _) signs) fun _ => ?_
  refine guarantees_ite _ _ _ _ (fun _ => ?_) fun _ => guarantees_bind steady _ _ (guarantees_throw steady.refl _) signs
  refine guarantees_bind steady _ _ (draws_pss_encode SameCommits steady Work.bytes same_commits_draw _ _ _) fun em => ?_
  exact guarantees_bind steady _ _ (guarantees_pure steady.refl _) signs

-- An anonymous signature, made or not, leaves the commits or derives the nonce of the counter of its scheme.
def EccDerives (before after : Commits) : Prop :=
  after = before ∨ ∃ detail counter, scheme.detail = .ecdaa detail counter ∧
    Commits.Derives counter object.area.nameAlg object.name before after

theorem ecc_sign_moves (hashAlg : UInt16) (digest : Bytes) (curveId : UInt16) (scalar : Bytes) :
    Guarantees (fun w w' => EccDerives object scheme w.commits w'.commits)
      (eccSign object scheme hashAlg digest curveId scalar at') := by
  have steady := same_commits_steady
  have refl : Idle fun w w' : Work => EccDerives object scheme w.commits w'.commits := fun _ => .inl rfl
  have still : ∀ {α : Type} (action : Action TpmRc Work α), Guarantees SameCommits action →
      Guarantees (fun w w' => EccDerives object scheme w.commits w'.commits) action := fun _ same w => .inl (same w)
  refine guarantees_lift_bind refl _ _ fun _ _ => ?_
  have signs : ∀ sig : Ecc.EccSignature, Guarantees SameCommits (do
      let r ← (Tpm2b.new sig.r : TpmResult Tpm2bEccParameter)
      return .ecc ⟨hashAlg, r, ← (Tpm2b.new sig.s : TpmResult Tpm2bEccParameter)⟩ : Action TpmRc Work SignatureValue) := by
    intro sig
    iterate 2 refine guarantees_lift_bind steady.refl _ _ fun _ _ => ?_
    exact guarantees_pure steady.refl _
  have then' : ∀ action : Action TpmRc Work Ecc.EccSignature,
      Guarantees (fun w w' => EccDerives object scheme w.commits w'.commits) action →
      Guarantees (fun w w' => EccDerives object scheme w.commits w'.commits) (action >>= fun sig => (do
        let r ← (Tpm2b.new sig.r : TpmResult Tpm2bEccParameter)
        return .ecc ⟨hashAlg, r, ← (Tpm2b.new sig.s : TpmResult Tpm2bEccParameter)⟩ : Action TpmRc Work SignatureValue)) :=
    fun action ensured => guarantees_step_bind (fun w : Work => w.commits) (EccDerives object scheme) _ _ ensured signs
  refine guarantees_ite _ _ _ _ (fun _ => then' _ (still _ ?_)) fun _ => guarantees_ite _ _ _ _
    (fun _ => then' _ (still _ ?_)) fun _ => guarantees_ite _ _ _ _ (fun _ => ?_) fun _ => then' _ ?_
  · exact draws_ecdsa_sign SameCommits steady Work.bytes same_commits_draw _ _ _
  · exact draws_ecschnorr_sign SameCommits steady Work.bytes same_commits_draw _ _ _ _
  · split
    next detail count named =>
      -- The counter is spent before the signature is made, which draws and nothing else.
      refine guarantees_step_bind (fun w : Work => w.commits) (EccDerives object scheme) _ _ (fun w => ?_) fun commitR => ?_
      · unfold Work.useCounter
        rw [run_get_bind, run_lift_bind]
        cases used : w.commits.useCounter object.area.nameAlg object.name count _ with
        | error e => exact .inl rfl
        | ok pair => exact .inr ⟨detail, count, named, use_counter_names _ pair.2 _ _ pair.1 count _ used⟩
      · refine guarantees_bind steady _ _ ?_ signs
        exact draws_ecdaa_sign SameCommits steady Work.bytes same_commits_draw _ _ _ _ _
    next => exact then' _ (guarantees_throw refl _)
  · exact guarantees_throw refl _

theorem work_moves_ecc_sign (hashAlg : UInt16) (digest : Bytes) (curveId : UInt16) (scalar : Bytes) :
    Guarantees WorkMoves (eccSign object scheme hashAlg digest curveId scalar at') := by
  intro w
  unfold WorkMoves
  rcases ecc_sign_moves object scheme at' hashAlg digest curveId scalar w with same | ⟨_, counter, _, derives⟩
  · rw [same]
    exact .same
  · exact .derived counter _ _ _ derives

theorem work_moves_sign_digest (digest : Bytes) : Guarantees WorkMoves (signDigest object scheme digest at') := by
  have refl := work_moves_refl
  have steady := same_commits_steady
  unfold signDigest
  dsimp only
  split
  · exact guarantees_throw refl _
  · iterate 2 refine guarantees_lift_bind refl _ _ fun _ _ => ?_
    refine guarantees_guard refl _ _ _ _ fun _ => ?_
    refine guarantees_ite _ _ _ _ (fun _ => ?_) fun _ => guarantees_ite _ _ _ _ (fun _ => ?_) fun _ =>
      guarantees_ite _ _ _ _ (fun _ => ?_) fun _ => guarantees_throw refl _
    · split
      · refine work_moves_of_same _ (guarantees_bind steady _ _ (same_commits_rsa_sign scheme at' _ _ _ _ _) fun _ => ?_)
        exact guarantees_pure steady.refl _
      · exact guarantees_throw refl _
    · split
      · exact work_moves_bind _ _ (work_moves_ecc_sign object scheme at' _ _ _ _) fun _ => guarantees_pure steady.refl _
      · exact guarantees_throw refl _
    · iterate 2 refine guarantees_lift_bind refl _ _ fun _ _ => ?_
      exact guarantees_pure refl _

theorem work_moves_sign_message (message : Bytes) : Guarantees WorkMoves (signMessage object scheme message at') := by
  have refl := work_moves_refl
  unfold signMessage
  refine guarantees_ite _ _ _ _ (fun _ => ?_) fun _ => ?_
  · iterate 2 refine guarantees_lift_bind refl _ _ fun _ _ => ?_
    exact work_moves_bind _ _ (work_moves_sign_digest object scheme at' _) fun _ =>
      guarantees_pure same_commits_steady.refl _
  · split
    · exact guarantees_throw refl _
    · iterate 3 refine guarantees_lift_bind refl _ _ fun _ _ => ?_
      exact guarantees_pure refl _

end

section

variable (s : TpmState) (request : Request)

theorem work_moves_attest (signer : Signer) (extraData : Tpm2bData) (attested : Attested) (parameter : Nat) :
    Guarantees WorkMoves (attestAndSign s signer extraData attested parameter) := by
  have refl := work_moves_refl
  have steady := same_commits_steady
  refine guarantees_lift_bind refl _ _ fun attest _ => ?_
  have replies : ∀ pair : TpmtSignature × Option Signed, Guarantees SameCommits (do
      let info : Tpm2bAttest ← (Tpm2b.new attest.marshal : TpmResult Tpm2bAttest)
      return { parameters := info.marshal ++ pair.1.marshal, signed := pair.2 } : Action TpmRc Work Reply) :=
    fun pair => guarantees_lift_bind steady.refl _ _ fun _ _ => guarantees_pure steady.refl _
  split
  · exact work_moves_of_same _ (guarantees_bind steady _ _ (guarantees_pure steady.refl _) replies)
  · refine guarantees_lift_bind refl _ _ fun digest _ => ?_
    refine work_moves_bind _ _ (guarantees_with_err _ _ _ (work_moves_sign_digest _ _ _ _)) fun pair => ?_
    exact guarantees_bind steady _ _ (guarantees_pure steady.refl _) replies

theorem work_moves_certify : Guarantees WorkMoves (certify s request) := by
  have refl := work_moves_refl
  iterate 7 refine guarantees_lift_bind refl _ _ fun _ _ => ?_
  exact work_moves_attest s _ _ _ _

theorem work_moves_certify_creation : Guarantees WorkMoves (certifyCreation s request) := by
  have refl := work_moves_refl
  iterate 6 refine guarantees_lift_bind refl _ _ fun _ _ => ?_
  refine guarantees_guard refl _ _ _ _ fun _ => ?_
  iterate 2 refine guarantees_lift_bind refl _ _ fun _ _ => ?_
  exact work_moves_attest s _ _ _ _

theorem work_moves_quote : Guarantees WorkMoves (quote s request) := by
  have refl := work_moves_refl
  iterate 6 refine guarantees_lift_bind refl _ _ fun _ _ => ?_
  exact work_moves_attest s _ _ _ _

theorem work_moves_get_time : Guarantees WorkMoves (getTime s request) := by
  have refl := work_moves_refl
  iterate 3 refine guarantees_lift_bind refl _ _ fun _ _ => ?_
  exact work_moves_attest s _ _ _ _

theorem work_moves_nv_certify : Guarantees WorkMoves (nvCertify s request) := by
  have refl := work_moves_refl
  iterate 6 refine guarantees_lift_bind refl _ _ fun _ _ => ?_
  refine guarantees_guard refl _ _ _ _ fun _ => ?_
  iterate 2 refine guarantees_lift_bind refl _ _ fun _ _ => ?_
  exact work_moves_attest s _ _ _ _

theorem work_moves_session_audit : Guarantees WorkMoves (getSessionAuditDigest s request) := by
  have refl := work_moves_refl
  iterate 4 refine guarantees_lift_bind refl _ _ fun _ _ => ?_
  refine guarantees_guard refl _ _ _ _ fun _ => ?_
  iterate 2 refine guarantees_lift_bind refl _ _ fun _ _ => ?_
  exact work_moves_attest s _ _ _ _

theorem work_moves_sign : Guarantees WorkMoves (sign s request) := by
  have refl := work_moves_refl
  iterate 6 refine guarantees_lift_bind refl _ _ fun _ _ => ?_
  exact work_moves_bind _ _ (guarantees_with_err _ _ _ (work_moves_sign_digest _ _ _ _)) fun _ =>
    guarantees_pure same_commits_steady.refl _

theorem work_moves_sign_digest_command : Guarantees WorkMoves (signDigestCommand s request) := by
  have refl := work_moves_refl
  iterate 4 refine guarantees_lift_bind refl _ _ fun _ _ => ?_
  refine guarantees_guard refl _ _ _ _ fun _ => ?_
  iterate 3 refine guarantees_lift_bind refl _ _ fun _ _ => ?_
  exact work_moves_bind _ _ (guarantees_with_err _ _ _ (work_moves_sign_digest _ _ _ _)) fun _ =>
    guarantees_pure same_commits_steady.refl _

theorem work_moves_sign_sequence : Guarantees WorkMoves (signSequenceComplete s request) := by
  have refl := work_moves_refl
  iterate 6 refine guarantees_lift_bind refl _ _ fun _ _ => ?_
  refine guarantees_guard refl _ _ _ _ fun _ => guarantees_guard refl _ _ _ _ fun _ => ?_
  refine guarantees_lift_bind refl _ _ fun _ _ => ?_
  exact work_moves_bind _ _ (work_moves_sign_message _ _ _ _) fun _ => guarantees_pure same_commits_steady.refl _

theorem work_moves_certify_x509 : Guarantees WorkMoves (certifyX509 s request) := by
  have refl := work_moves_refl
  iterate 3 refine guarantees_lift_bind refl _ _ fun _ _ => ?_
  refine guarantees_guard refl _ _ _ _ fun _ => ?_
  refine guarantees_lift_bind refl _ _ fun _ _ => ?_
  refine guarantees_guard refl _ _ _ _ fun _ => ?_
  iterate 5 refine guarantees_lift_bind refl _ _ fun _ _ => ?_
  dsimp only
  split
  on_goal 1 => refine guarantees_guard refl _ _ _ _ fun _ => ?_
  all_goals
    refine guarantees_bind_step (fun w : Work => w.commits) CommitMove refl _ _ (same_commits_draw 20) fun serial => ?_
    refine guarantees_lift_bind refl _ _ fun spki _ => ?_
    split
    on_goal 2 => split
    on_goal 3 => exact refl
    all_goals
      refine guarantees_lift_bind refl _ _ fun digest _ => ?_
      refine work_moves_bind _ _ (work_moves_sign_digest _ _ _ _) fun pair => ?_
      iterate 2 refine guarantees_lift_bind same_commits_steady.refl _ _ fun _ _ => ?_
      exact guarantees_pure same_commits_steady.refl _

theorem work_moves_ec_ephemeral : Guarantees WorkMoves (ecEphemeral request) := by
  have refl := work_moves_refl
  iterate 2 refine guarantees_lift_bind refl _ _ fun _ _ => ?_
  intro w
  rw [run_get_bind, run_lift_bind]
  cases made : ephemeralPoint w.commits _ with
  | error e => exact .same
  | ok pair =>
      simp only [ephemeralPoint, Commits.next, bind_is_ok, guarded_then_is_ok] at made
      obtain ⟨_, ⟨ready, _⟩, _⟩ := made
      exact .taken (by simpa using ready)

theorem work_moves_commit : Guarantees WorkMoves (commit s request) := by
  have refl := work_moves_refl
  iterate 3 refine guarantees_lift_bind refl _ _ fun _ _ => ?_
  refine guarantees_guard refl _ _ _ _ fun _ => ?_
  dsimp only
  split
  · exact guarantees_throw refl _
  · split
    · refine guarantees_guard refl _ _ _ _ fun _ => guarantees_lift_bind refl _ _ fun _ _ => ?_
      refine guarantees_guard refl _ _ _ _ fun _ => ?_
      iterate 2 refine guarantees_lift_bind refl _ _ fun _ _ => ?_
      intro w
      rw [run_get_bind, run_lift_bind]
      cases made : w.commits.next _ _ _ with
      | error e => exact .same
      | ok pair =>
          simp only [Commits.next, guarded_then_is_ok] at made
          dsimp only
          rw [run_lift_bind]
          split
          · exact .taken (by simpa using made.1)
          · exact .same
    · exact guarantees_throw refl _

-- A shared secret of two phases, made or not, leaves the commits or derives the nonce of the counter of the command.
def ZgenDerives (before after : Commits) : Prop :=
  after = before ∨ ∃ input, request.params ZgenInput.unmarshal = .ok input ∧
    Commits.Derives input.counter Config.commitEphemeralHashAlg [] before after

theorem zgen_moves : Guarantees (fun w w' => ZgenDerives request w.commits w'.commits) (zgen2Phase s request) := by
  have steady := same_commits_steady
  have refl : Idle fun w w' : Work => ZgenDerives request w.commits w'.commits := fun _ => .inl rfl
  refine guarantees_lift_bind refl _ _ fun _ _ => guarantees_lift_bind refl _ _ fun input given => ?_
  refine guarantees_guard refl _ _ _ _ fun _ => ?_
  refine guarantees_lift_bind refl _ _ fun _ _ => ?_
  refine guarantees_guard refl _ _ _ _ fun _ => guarantees_guard refl _ _ _ _ fun _ => ?_
  dsimp only
  split
  · exact guarantees_throw refl _
  · split
    · iterate 3 refine guarantees_lift_bind refl _ _ fun _ _ => ?_
      intro w
      rw [run_get_bind, run_lift_bind]
      split
      next pair found =>
        have derives := use_counter_names _ pair.2 _ _ pair.1 _ _ ((map_error_is_ok _ _ _).mp found)
        rw [run_modify_bind]
        -- Whether the secret is made or not, what is left of the command does not touch the commits.
        have rest : ∀ action : Action TpmRc Work Response, Guarantees SameCommits action →
            ZgenDerives request w.commits (final (action { w with commits := pair.2 })).commits := by
          intro action same
          rw [show (final (action { w with commits := pair.2 })).commits = pair.2 from same _]
          exact .inr ⟨input, given, derives⟩
        refine rest _ ?_
        refine guarantees_guard steady.refl _ _ _ _ fun _ => guarantees_ite _ _ _ _ (fun _ => ?_) fun _ => ?_
        · iterate 2 refine guarantees_lift_bind steady.refl _ _ fun _ _ => ?_
          exact guarantees_pure steady.refl _
        · refine guarantees_lift_bind steady.refl _ _ fun _ _ => ?_
          exact guarantees_pure steady.refl _
      next => exact refl w
    · exact guarantees_throw refl _

theorem work_moves_zgen : Guarantees WorkMoves (zgen2Phase s request) := by
  intro w
  unfold WorkMoves
  rcases zgen_moves s request w with same | ⟨input, _, derives⟩
  · rw [same]
    exact .same
  · exact .derived input.counter _ _ _ derives

theorem same_commits_load : Guarantees SameCommits (load s request) := by
  have steady := same_commits_steady
  iterate 2 refine guarantees_lift_bind steady.refl _ _ fun _ _ => ?_
  refine guarantees_guard steady.refl _ _ _ _ fun _ => ?_
  iterate 8 refine guarantees_lift_bind steady.refl _ _ fun _ _ => ?_
  refine guarantees_bind steady _ _ (same_commits_insert _) fun handle => ?_
  exact guarantees_lift_bind steady.refl _ _ fun _ _ => guarantees_pure steady.refl _

theorem same_commits_load_external : Guarantees SameCommits (loadExternal s request) := by
  have steady := same_commits_steady
  iterate 3 refine guarantees_lift_bind steady.refl _ _ fun _ _ => ?_
  dsimp only
  split
  on_goal 1 => refine guarantees_lift_bind steady.refl _ _ fun _ _ => ?_
  all_goals
    iterate 3 refine guarantees_guard steady.refl _ _ _ _ fun _ => ?_
    refine guarantees_lift_bind steady.refl _ _ fun _ _ => ?_
    refine guarantees_bind steady _ _ (same_commits_insert _) fun handle => ?_
    exact guarantees_lift_bind steady.refl _ _ fun _ _ => guarantees_pure steady.refl _

theorem same_commits_create_primary : Guarantees SameCommits (createPrimary s request) := by
  have steady := same_commits_steady
  iterate 2 refine guarantees_lift_bind steady.refl _ _ fun _ _ => ?_
  refine guarantees_guard steady.refl _ _ _ _ fun _ => guarantees_guard steady.refl _ _ _ _ fun _ => ?_
  iterate 7 refine guarantees_lift_bind steady.refl _ _ fun _ _ => ?_
  refine guarantees_bind steady _ _ (same_commits_insert _) fun handle => ?_
  iterate 2 refine guarantees_lift_bind steady.refl _ _ fun _ _ => ?_
  exact guarantees_pure steady.refl _

theorem same_commits_create : Guarantees SameCommits (create s request) := by
  have steady := same_commits_steady
  iterate 5 refine guarantees_lift_bind steady.refl _ _ fun _ _ => ?_
  refine guarantees_guard steady.refl _ _ _ _ fun _ => ?_
  refine guarantees_bind steady _ _ (draws_create_sensitive SameCommits steady Work.bytes same_commits_draw _ _) fun pair => ?_
  iterate 7 refine guarantees_lift_bind steady.refl _ _ fun _ _ => ?_
  exact guarantees_pure steady.refl _

theorem same_commits_derive (parent : DerivationParent) (supplied : SensitiveCreate) (blob : Bytes) :
    Guarantees SameCommits (deriveObject parent supplied blob) := by
  have steady := same_commits_steady
  refine guarantees_lift_bind steady.refl _ _ fun _ _ => ?_
  refine guarantees_guard steady.refl _ _ _ _ fun _ => ?_
  iterate 2 refine guarantees_lift_bind steady.refl _ _ fun _ _ => ?_
  refine guarantees_guard steady.refl _ _ _ _ fun _ => guarantees_guard steady.refl _ _ _ _ fun _ => ?_
  iterate 4 refine guarantees_lift_bind steady.refl _ _ fun _ _ => ?_
  refine guarantees_bind steady _ _ (same_commits_insert _) fun handle => ?_
  exact guarantees_lift_bind steady.refl _ _ fun _ _ => guarantees_pure steady.refl _

theorem same_commits_create_loaded : Guarantees SameCommits (createLoaded s request) := by
  have steady := same_commits_steady
  iterate 3 refine guarantees_lift_bind steady.refl _ _ fun _ _ => ?_
  dsimp only
  split
  · exact same_commits_derive _ _ _
  · iterate 2 refine guarantees_lift_bind steady.refl _ _ fun _ _ => ?_
    refine guarantees_ite _ _ _ _ (fun _ => ?_) fun _ => ?_
    · refine guarantees_guard steady.refl _ _ _ _ fun _ => ?_
      iterate 4 refine guarantees_lift_bind steady.refl _ _ fun _ _ => ?_
      refine guarantees_bind steady _ _ (same_commits_insert _) fun handle => ?_
      exact guarantees_lift_bind steady.refl _ _ fun _ _ => guarantees_pure steady.refl _
    · iterate 2 refine guarantees_lift_bind steady.refl _ _ fun _ _ => ?_
      refine guarantees_bind steady _ _ (draws_create_sensitive SameCommits steady Work.bytes same_commits_draw _ _)
        fun pair => ?_
      iterate 3 refine guarantees_lift_bind steady.refl _ _ fun _ _ => ?_
      refine guarantees_bind steady _ _ (same_commits_insert _) fun handle => ?_
      exact guarantees_lift_bind steady.refl _ _ fun _ _ => guarantees_pure steady.refl _

theorem same_commits_start (kind : SequenceKind) (auth : Bytes) : Guarantees SameCommits (startSequence kind auth) :=
  guarantees_bind same_commits_steady _ _ (same_commits_insert _) fun _ => guarantees_pure same_commits_steady.refl _

theorem same_commits_hash_start : Guarantees SameCommits (hashSequenceStart request) := by
  have steady := same_commits_steady
  refine guarantees_lift_bind steady.refl _ _ fun _ _ => ?_
  refine guarantees_ite _ _ _ _ (fun _ => same_commits_start _ _) fun _ => ?_
  exact guarantees_guard steady.refl _ _ _ _ fun _ => same_commits_start _ _

theorem same_commits_hmac_start : Guarantees SameCommits (hmacStart s request) := by
  have steady := same_commits_steady
  iterate 3 refine guarantees_lift_bind steady.refl _ _ fun _ _ => ?_
  exact same_commits_start _ _

theorem same_commits_sequence_update : Guarantees SameCommits (sequenceUpdate s request) := by
  have steady := same_commits_steady
  iterate 5 refine guarantees_lift_bind steady.refl _ _ fun _ _ => ?_
  exact guarantees_bind steady _ _ (guarantees_modify _ _ fun w => rfl) fun _ => guarantees_pure steady.refl _

theorem same_commits_start_bound (keyHandle : UInt32) (hashAlg : UInt16) (counter : Option UInt16) (auth : Bytes) :
    Guarantees SameCommits (startBoundSequence keyHandle hashAlg counter auth) := by
  have steady := same_commits_steady
  refine guarantees_guard steady.refl _ _ _ _ fun _ => ?_
  exact guarantees_bind steady _ _ (same_commits_insert _) fun _ => guarantees_pure steady.refl _

theorem same_commits_sign_start : Guarantees SameCommits (signSequenceStart s request) := by
  have steady := same_commits_steady
  iterate 7 refine guarantees_lift_bind steady.refl _ _ fun _ _ => ?_
  exact same_commits_start_bound _ _ _ _

theorem same_commits_verify_start : Guarantees SameCommits (verifySequenceStart s request) := by
  have steady := same_commits_steady
  iterate 2 refine guarantees_lift_bind steady.refl _ _ fun _ _ => ?_
  refine guarantees_guard steady.refl _ _ _ _ fun _ => ?_
  iterate 3 refine guarantees_lift_bind steady.refl _ _ fun _ _ => ?_
  exact same_commits_start_bound _ _ _ _

end

-- Of what the commands touch only the commits are of concern here.
def StateMoves (s t : TpmState) : Prop := CommitMove s.commits t.commits

theorem state_moves_refl : Idle StateMoves := fun _ => .same

theorem state_moves_of_same {α : Type} (action : TpmM α) (same : Keeps (·.commits) action) :
    Guarantees StateMoves action := by
  intro s
  unfold StateMoves
  rw [show (final (action s)).commits = s.commits from same s]
  exact .same

theorem state_moves_work {α : Type} (action : Action TpmRc Work α) (moves : Guarantees WorkMoves action) :
    Guarantees StateMoves (Scope.work.zoom action) :=
  guarantees_zoom _ _ _ _ fun s => moves s.work

theorem handlers_spare_commits :
    (handlers.all fun row => (row.2.scope != .work && row.2.scope != .audit && row.2.scope != .whole) ||
      ([Cc.create, Cc.createLoaded, Cc.createPrimary, Cc.load, Cc.loadExternal, Cc.certifyX509, Cc.hmacStart,
        Cc.hashSequenceStart, Cc.sequenceUpdate, Cc.certify, Cc.certifyCreation, Cc.quote, Cc.getTime,
        Cc.getSessionAuditDigest, Cc.getCommandAuditDigest, Cc.nvCertify, Cc.setCommandCodeAuditStatus, Cc.ecEphemeral,
        Cc.sign, Cc.commit, Cc.zGen2Phase, Cc.signDigest, Cc.signSequenceStart, Cc.signSequenceComplete,
        Cc.verifySequenceStart, Cc.startup, Cc.shutdown, Cc.clear] : List UInt32).contains row.1) = true := by
  rfl

theorem audit_digest_moves (s : TpmState) (request : Request) :
    Guarantees StateMoves (Scope.audit.zoom (getCommandAuditDigest s request)) := by
  have refl : Idle fun t u : AuditScope => CommitMove t.work.commits u.work.commits := fun _ => .same
  have inner : Guarantees (fun t u : AuditScope => CommitMove t.work.commits u.work.commits)
      (getCommandAuditDigest s request) := by
    iterate 6 refine guarantees_lift_bind refl _ _ fun _ _ => ?_
    refine guarantees_step_bind (fun t : AuditScope => t.work.commits) CommitMove _ _
      (guarantees_zoom _ _ _ _ fun t => ?_) fun response => ?_
    · exact work_moves_attest s _ _ _ _ t.work
    · exact keeps_ite _ _ _ _ (keeps_bind _ _ _ (keeps_modify _ _ fun _ => rfl) fun _ => keeps_pure _ _) (keeps_pure _ _)
  exact guarantees_zoom _ _ _ _ fun t => inner ⟨t.work, t.audit, t.commandAuditSuppressed⟩

theorem keeps_work_audit_status (s : TpmState) (request : Request) :
    Keeps (fun t : AuditScope => t.work) (setCommandCodeAuditStatus s request) := by
  refine keeps_lift_bind _ _ _ fun _ => ?_
  refine keeps_ite _ _ _ _ (keeps_bind _ _ _ (keeps_throw _ _) fun _ => ?_) ?_
  all_goals
    refine keeps_ite _ _ _ _ ?_ (keeps_bind _ _ _ (keeps_modify _ _ fun _ => rfl) fun _ => keeps_pure _ _)
    refine keeps_ite _ _ _ _ (keeps_bind _ _ _ (keeps_throw _ _) fun _ => ?_) ?_
    all_goals exact keeps_bind _ _ _ (keeps_modify _ _ fun _ => rfl) fun _ => keeps_pure _ _

theorem audit_status_moves (s : TpmState) (request : Request) :
    Guarantees StateMoves (Scope.audit.zoom (setCommandCodeAuditStatus s request)) := by
  refine state_moves_of_same _ ?_
  exact keeps_zoom_inner (fun s : TpmState => s.commits) (fun t : AuditScope => t.work.commits) _ _ _ (fun _ _ => rfl)
    (fun _ => rfl) fun t => congrArg Work.commits (keeps_work_audit_status s request t)

theorem clear_moves_commits (request : Request) : Guarantees StateMoves (clear request) := by
  have cleared : Keeps (fun s : TpmState => s.commits) (do
      TpmState.onClear
      modify fun s => { s with lockoutAuth := [], lockoutPolicy := TpmtHa.null }
      return .notReading request [] : TpmM Response) := by
    refine keeps_bind _ _ _ ?_ fun _ => keeps_bind _ _ _ (keeps_modify _ _ fun _ => rfl) fun _ => keeps_pure _ _
    exact keeps_bind _ _ _ (keeps_zoom _ _ _ _ fun _ _ => rfl) fun _ => keeps_modify _ _ fun _ => rfl
  refine state_moves_of_same _ (keeps_bind _ _ _ (keeps_get _) fun s => ?_)
  exact keeps_ite _ _ _ _ (keeps_bind _ _ _ (keeps_throw _ _) fun _ => cleared) cleared

-- What a command but TPM2_Startup does with the commits.
theorem run_command_moves_commits (request : Request) (other : request.code ≠ Cc.startup) :
    Guarantees StateMoves (runCommand request) := by
  have worked : ∀ run : TpmState → Request → Action TpmRc Work Response,
      handlerOf request.code = some (.plain .work run) → (∀ s, Guarantees WorkMoves (run s request)) →
      Guarantees StateMoves (runCommand request) := by
    intro run named moves s
    rw [run_command_of request _ named]
    exact guarantees_map _ _ _ (state_moves_work _ (moves s)) s
  have issued : ∀ run : TpmState → Request → Action TpmRc Work Reply,
      handlerOf request.code = some (.issuing .work run) → (∀ s, Guarantees WorkMoves (run s request)) →
      Guarantees StateMoves (runCommand request) := by
    intro run named moves s
    rw [run_command_of request _ named]
    exact state_moves_work _ (moves s) s
  -- A handler of another scope cannot reach the commits; those that can are taken one by one.
  refine guarantees_run_listed _ state_moves_refl (fun scope => scope != .work && scope != .audit && scope != .whole) _
    handlers_spare_commits (fun scope action spares => ?_) request fun listed => ?_
  · cases scope with
    | work | audit | whole => cases spares
    | _ => exact state_moves_of_same _ (keeps_zoom _ _ _ _ fun _ _ => rfl)
  · simp only [List.mem_cons, List.not_mem_nil, or_false] at listed
    rcases listed with code | code | code | code | code | code | code | code | code | code | code | code | code | code |
      code | code | code | code | code | code | code | code | code | code | code | code | code | code
    · exact issued create (by rw [code]; rfl) fun s => work_moves_of_same _ (same_commits_create s request)
    · exact worked createLoaded (by rw [code]; rfl) fun s => work_moves_of_same _ (same_commits_create_loaded s request)
    · exact issued createPrimary (by rw [code]; rfl) fun s => work_moves_of_same _ (same_commits_create_primary s request)
    · exact worked load (by rw [code]; rfl) fun s => work_moves_of_same _ (same_commits_load s request)
    · exact worked loadExternal (by rw [code]; rfl) fun s => work_moves_of_same _ (same_commits_load_external s request)
    · exact issued certifyX509 (by rw [code]; rfl) fun s => work_moves_certify_x509 s request
    · exact worked hmacStart (by rw [code]; rfl) fun s => work_moves_of_same _ (same_commits_hmac_start s request)
    · exact worked (fun _ => hashSequenceStart) (by rw [code]; rfl) fun _ =>
        work_moves_of_same _ (same_commits_hash_start request)
    · exact worked sequenceUpdate (by rw [code]; rfl) fun s => work_moves_of_same _ (same_commits_sequence_update s request)
    · exact issued certify (by rw [code]; rfl) fun s => work_moves_certify s request
    · exact issued certifyCreation (by rw [code]; rfl) fun s => work_moves_certify_creation s request
    · exact issued quote (by rw [code]; rfl) fun s => work_moves_quote s request
    · exact issued getTime (by rw [code]; rfl) fun s => work_moves_get_time s request
    · exact issued getSessionAuditDigest (by rw [code]; rfl) fun s => work_moves_session_audit s request
    · intro s
      rw [run_command_of request (.issuing .audit getCommandAuditDigest) (by rw [code]; rfl)]
      exact audit_digest_moves s request s
    · exact issued nvCertify (by rw [code]; rfl) fun s => work_moves_nv_certify s request
    · intro s
      rw [run_command_of request (.plain .audit setCommandCodeAuditStatus) (by rw [code]; rfl)]
      exact guarantees_map _ _ _ (audit_status_moves s request) s
    · exact worked (fun _ => ecEphemeral) (by rw [code]; rfl) fun s => work_moves_ec_ephemeral request
    · exact issued sign (by rw [code]; rfl) fun s => work_moves_sign s request
    · exact worked commit (by rw [code]; rfl) fun s => work_moves_commit s request
    · exact worked zgen2Phase (by rw [code]; rfl) fun s => work_moves_zgen s request
    · exact issued signDigestCommand (by rw [code]; rfl) fun s => work_moves_sign_digest_command s request
    · exact worked signSequenceStart (by rw [code]; rfl) fun s => work_moves_of_same _ (same_commits_sign_start s request)
    · exact issued signSequenceComplete (by rw [code]; rfl) fun s => work_moves_sign_sequence s request
    · exact worked verifySequenceStart (by rw [code]; rfl) fun s => work_moves_of_same _ (same_commits_verify_start s request)
    · exact absurd code other
    · intro s
      rw [s.run_whole request shutdown (by rw [code]; rfl)]
      exact guarantees_map _ _ _ (state_moves_of_same _ (guarantees_shutdown _ (steady_of_view fun s : TpmState => s.commits)
        (fun _ _ _ _ => rfl) request)) s
    · intro s
      rw [s.run_whole request clear (by rw [code]; rfl)]
      exact guarantees_map _ _ _ (clear_moves_commits request) s

end


section

variable [Primitives]

-- The array as TPM Reset makes it.
def Commits.Fresh (commits : Commits) : Prop :=
  ∃ random, commits = ⟨random, 0, List.replicate (Config.maxCommitSequences / 8) 0⟩

-- A startup keeps the commits, or makes the array anew; one that fails keeps them.
def Recommits {α : Type} (start : Commits) (action : TpmM α) : Prop :=
  Ensures (fun t => t.commits = start) action (fun _ t => t.commits = start ∨ t.commits.Fresh) fun t => t.commits = start

theorem reset_is_ok (commits : Commits) (rng : Drbg) (u : Unit) (ended : Commits × Drbg)
    (ran : Commits.reset (commits, rng) = .ok u ended) : ended.1.Fresh := by
  have ran' : Succeeds Commits.reset (commits, rng) u ended := ran
  simp only [Commits.reset, Hierarchy.rngBytes, succeeds_bind, succeeds_zoom, succeeds_modify] at ran'
  obtain ⟨random, _, ⟨drbg, _, rfl⟩, rfl⟩ := ran'
  exact ⟨random, rfl⟩

section

variable (start : Commits)

theorem recommits_reset : Recommits start (TpmState.zoomCommits Commits.reset) := by
  intro s same
  simp only [TpmState.zoomCommits, zoom]
  -- Where the generator fails the array has not been touched.
  cases ran : Commits.reset (s.commits, s.rng) with
  | ok u ended => exact .inr (reset_is_ok s.commits s.rng u ended ran)
  | error e ended =>
      simp only [Commits.reset, Hierarchy.rngBytes, bind, EStateM.bind, zoom] at ran
      cases drawn : Drbg.bytes Config.commitNonceBytes s.rng with
      | ok random drbg =>
          rw [drawn] at ran
          cases ran
      | error e' drbg =>
          rw [drawn] at ran
          cases ran
          exact same

theorem recommits_keep {α β : Type} (action : TpmM β) (next : β → TpmM α) (kept : Keeps (·.commits) action)
    (rest : ∀ b, Recommits start (next b)) : Recommits start (action >>= next) :=
  ensures_keeps_bind (fun t : TpmState => t.commits) (· = start) _ _ _ _ kept (fun _ => id) rest

-- What follows the drawing cannot fail, and leaves what was drawn.
theorem recommits_then {α : Type} (action : TpmM α) (f : TpmState → TpmState) (same : ∀ s, (f s).commits = s.commits)
    (first : Recommits start action) : Recommits start (action >>= fun _ => (modify f : TpmM PUnit)) := by
  refine ensures_bind _ _ _ (fun _ (t : TpmState) => t.commits = start ∨ t.commits.Fresh) _ _ first fun _ => ?_
  refine ensures_modify _ _ _ _ fun t left => ?_
  rw [same t]
  exact left

theorem recommits_modify (f : TpmState → TpmState) (same : ∀ s, (f s).commits = s.commits) :
    Recommits start (modify f : TpmM PUnit) :=
  ensures_modify _ _ _ _ fun t left => .inl ((same t).trans left)

theorem startup_clear_recommits (locality : UInt8) : Recommits start (TpmState.onStartupClear locality) := by
  refine ensures_get_bind _ _ _ _ fun s same => ?_
  refine ensures_weaken _ _ _ (fun t : TpmState => t.commits = start) _ ?_ fun t alike => alike ▸ same
  refine recommits_keep start _ _ (keeps_zoom _ _ _ _ fun _ _ => rfl) fun _ => ?_
  refine recommits_keep start _ _ (keeps_modify _ _ fun _ => rfl) fun _ => ?_
  -- After TPM2_Shutdown(STATE) this is a TPM Restart, which draws nothing for the array.
  by_cases restart : (s.shutdownType == Su.state) = true
  · simp only [restart, Bool.not_true, Bool.false_eq_true, if_false, if_true]
    iterate 6 refine recommits_keep start _ _ (keeps_modify _ _ fun _ => rfl) fun _ => ?_
    refine ensures_ite _ _ _ _ _ _ (fun _ => ?_) fun _ => recommits_modify start _ fun _ => rfl
    exact recommits_keep start _ _ (keeps_modify _ _ fun _ => rfl) fun _ => recommits_modify start _ fun _ => rfl
  · simp only [restart, Bool.not_false, Bool.false_eq_true, if_false, if_true]
    iterate 5 refine recommits_keep start _ _ (keeps_modify _ _ fun _ => rfl) fun _ => ?_
    refine recommits_keep start _ _ (keeps_zoom _ _ _ _ fun _ _ => rfl) fun _ => ?_
    iterate 3 refine recommits_keep start _ _ (keeps_modify _ _ fun _ => rfl) fun _ => ?_
    refine ensures_ite _ _ _ _ _ _ (fun _ => ?_) fun _ => ?_
    · iterate 2 refine recommits_keep start _ _ (keeps_modify _ _ fun _ => rfl) fun _ => ?_
      exact recommits_then start _ _ (fun _ => rfl) (recommits_reset start)
    · refine recommits_keep start _ _ (keeps_modify _ _ fun _ => rfl) fun _ => ?_
      exact recommits_then start _ _ (fun _ => rfl) (recommits_reset start)

theorem startup_state_recommits (locality : UInt8) : Recommits start (TpmState.onStartupState locality) := by
  refine ensures_get_bind _ _ _ _ fun s same => ?_
  have still : ∀ t : TpmState, t = s → t.commits = start := fun t alike => alike ▸ same
  iterate 3 refine ensures_guard _ _ _ _ _ _ _ still fun _ => ?_
  refine ensures_bind _ _ _ (fun _ (t : TpmState) => t.commits = start) _ _ (fun _ _ => same) fun _ => ?_
  refine ensures_ite _ _ _ _ _ _ (fun _ => ?_) fun _ => recommits_modify start _ fun _ => rfl
  exact recommits_then start _ _ (fun _ => rfl) (recommits_reset start)

theorem startup_recommits (request : Request) : Recommits start (startup request) := by
  have ends : ∀ action : TpmM Unit, Recommits start action →
      Recommits start (action >>= fun _ => (pure .empty : TpmM Response)) := fun action first =>
    ensures_bind _ _ _ (fun _ (t : TpmState) => t.commits = start ∨ t.commits.Fresh) _ _ first fun _ =>
      ensures_pure _ _ _ _ fun _ => id
  refine ensures_bind _ _ _ (fun _ (t : TpmState) => t.commits = start) _ _
    (ensures_lift _ _ _ _ (fun _ _ same _ => same) fun _ => id) fun startupType => ?_
  refine ensures_guard _ _ _ _ _ _ _ (fun _ => id) fun _ => ?_
  refine ensures_ite _ _ _ _ _ _ (fun _ => ends _ (startup_clear_recommits start _)) fun _ => ?_
  refine ensures_ite _ _ _ _ _ _ (fun _ => ?_) fun _ => ends _ (ensures_throw _ _ _ _ fun _ => id)
  refine ensures_get_bind _ _ _ _ fun s same => ?_
  have still : ∀ t : TpmState, t = s → t.commits = start := fun t alike => alike ▸ same
  refine ensures_guard _ _ _ _ _ _ _ still fun _ => ?_
  exact ensures_weaken _ _ _ _ _ (ends _ (startup_state_recommits start _)) still

end

-- A TPM Reset makes the array anew.
theorem reset_recommits (locality : UInt8) (s s' : TpmState) (u : Unit) (lost : s.shutdownType ≠ Su.state)
    (ran : Succeeds (TpmState.onStartupClear locality) s u s') : s'.commits.Fresh := by
  have restart : (s.shutdownType == Su.state) = false := by simp [lost]
  unfold TpmState.onStartupClear at ran
  simp only [succeeds_bind, succeeds_get] at ran
  obtain ⟨_, _, ⟨rfl, rfl⟩, _, _, _, ran⟩ := ran
  simp only [restart, Bool.not_false, Bool.false_eq_true, if_false, if_true, succeeds_bind, succeeds_modify,
    TpmState.zoomRng, TpmState.zoomCommits, succeeds_zoom] at ran
  obtain ⟨_, _, rfl, _, _, rfl, _, _, rfl, _, _, rfl, _, _, rfl, _, _, rfl, _, _, ⟨rng, _, rfl⟩, _, _, rfl, _, _, rfl,
    _, _, rfl, ran⟩ := ran
  split at ran
  all_goals simp only [succeeds_bind, succeeds_modify, succeeds_zoom] at ran
  · obtain ⟨_, _, rfl, _, _, rfl, _, _, ⟨ended, reset, rfl⟩, rfl⟩ := ran
    exact reset_is_ok _ _ _ _ reset
  · obtain ⟨_, _, rfl, _, _, ⟨ended, reset, rfl⟩, rfl⟩ := ran
    exact reset_is_ok _ _ _ _ reset

end

end Swtrust
