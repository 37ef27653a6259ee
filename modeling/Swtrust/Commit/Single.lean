import Swtrust.Commit.Log
import Swtrust.Toy

set_option autoImplicit false
set_option linter.unusedSectionVars false

namespace Swtrust

open Library Action

section

variable [Primitives]

theorem use_counter_derives (object : Object) (counter : UInt16) (bits : UInt32) (w w' : Work) (r : Bytes)
    (used : Succeeds (Work.useCounter object counter bits) w r w') :
    Commits.Derives counter object.area.nameAlg object.name w.commits w'.commits := by
  unfold Work.useCounter at used
  simp only [succeeds_bind, succeeds_get, succeeds_lift, succeeds_modify, succeeds_pure] at used
  obtain ⟨_, _, ⟨rfl, rfl⟩, ⟨r', commits⟩, _, ⟨named, rfl⟩, _, _, rfl, _, rfl⟩ := used
  exact use_counter_names _ _ _ _ _ counter bits named

-- A signature of an anonymous scheme uses the counter that the scheme names.
theorem ecc_sign_derives (object : Object) (scheme : Scheme) (hashAlg detail : UInt16) (digest : Bytes) (curveId : UInt16)
    (scalar : Bytes) (at' : SignParameters) (count : UInt16) (anonymous : scheme = ⟨Alg.ecdaa, .ecdaa detail count⟩)
    (w w' : Work) (value : SignatureValue)
    (signed : Succeeds (eccSign object scheme hashAlg digest curveId scalar at') w value w') :
    Commits.Derives count object.area.nameAlg object.name w.commits w'.commits := by
  subst anonymous
  unfold eccSign at signed
  rw [succeeds_bind] at signed
  obtain ⟨_, _, curve, signed⟩ := signed
  obtain ⟨_, rfl⟩ := (succeeds_lift _ _ _ _).mp curve
  have ecdsa : ¬ Alg.ecdaa = Alg.ecdsa := by decide
  have schnorr : ¬ Alg.ecdaa = Alg.ecschnorr := by decide
  dsimp only at signed
  rw [if_neg ecdsa, if_neg schnorr, if_pos rfl] at signed
  simp only [succeeds_bind, succeeds_lift, succeeds_pure] at signed
  obtain ⟨r, t, used, sig, u, made, _, _, ⟨_, rfl⟩, _, _, ⟨_, rfl⟩, _, rfl⟩ := signed
  have drawn := draws_ecdaa_sign SameCommits same_commits_steady Work.bytes same_commits_draw curveId scalar r hashAlg
    digest t
  rw [made] at drawn
  have derives := use_counter_derives object count _ w t r used
  rw [← show u.commits = t.commits from drawn] at derives
  exact derives

-- A shared secret of two phases uses the counter that the command names.
theorem zgen_derives (s : TpmState) (request : Request) (input : ZgenInput)
    (given : request.params ZgenInput.unmarshal = .ok input) (w w' : Work) (response : Response)
    (ran : Succeeds (zgen2Phase s request) w response w') :
    Commits.Derives input.counter Config.commitEphemeralHashAlg [] w.commits w'.commits := by
  unfold zgen2Phase at ran
  rw [succeeds_bind] at ran
  obtain ⟨_, _, key, ran⟩ := ran
  obtain ⟨_, rfl⟩ := (succeeds_lift _ _ _ _).mp key
  rw [succeeds_bind] at ran
  obtain ⟨_, _, read, ran⟩ := ran
  rw [succeeds_lift, given] at read
  obtain ⟨same, rfl⟩ := read
  obtain rfl := Except.ok.inj same
  rw [succeeds_guard, succeeds_bind] at ran
  obtain ⟨_, object, _, found, ran⟩ := ran
  obtain ⟨_, rfl⟩ := (succeeds_lift _ _ _ _).mp found
  rw [succeeds_guard, succeeds_guard] at ran
  obtain ⟨_, _, ran⟩ := ran
  dsimp only at ran
  split at ran
  · exact absurd ran (succeeds_throw _ _ _ _)
  split at ran
  · simp only [succeeds_bind, succeeds_lift, succeeds_get, succeeds_modify, succeeds_guard] at ran
    obtain ⟨_, _, ⟨_, rfl⟩, _, _, ⟨_, rfl⟩, _, _, ⟨_, rfl⟩, _, _, ⟨rfl, rfl⟩, pair, _, ⟨used, rfl⟩, _, _, rfl, _, ran⟩ := ran
    have derives := use_counter_names _ pair.2 _ _ pair.1 _ _ ((map_error_is_ok _ _ _).mp used)
    split at ran
    all_goals
      simp only [succeeds_bind, succeeds_lift, succeeds_pure] at ran
      grind
  · exact absurd ran (succeeds_throw _ _ _ _)

theorem commit_issues (s : TpmState) (request : Request) (w w' : Work) (response : Response)
    (ran : Succeeds (commit s request) w response w') : w.commits.isReady = true ∧ w'.commits = w.commits.take ∧
      ∃ points, response.parameters = points ++ be16 w.commits.count.toUInt16 := by
  unfold commit at ran
  rw [succeeds_bind] at ran
  obtain ⟨_, _, key, ran⟩ := ran
  obtain ⟨_, rfl⟩ := (succeeds_lift _ _ _ _).mp key
  rw [succeeds_bind] at ran
  obtain ⟨_, _, read, ran⟩ := ran
  obtain ⟨_, rfl⟩ := (succeeds_lift _ _ _ _).mp read
  rw [succeeds_bind] at ran
  obtain ⟨object, _, found, ran⟩ := ran
  obtain ⟨_, rfl⟩ := (succeeds_lift _ _ _ _).mp found
  rw [succeeds_guard] at ran
  obtain ⟨_, ran⟩ := ran
  dsimp only at ran
  split at ran
  · exact absurd ran (succeeds_throw _ _ _ _)
  split at ran
  · simp only [succeeds_bind, succeeds_lift, succeeds_get, succeeds_modify, succeeds_guard, succeeds_pure] at ran
    obtain ⟨_, _, _, ⟨_, rfl⟩, _, _, _, ⟨_, rfl⟩, _, _, ⟨_, rfl⟩, _, _, ⟨rfl, rfl⟩, pair, _, ⟨made, rfl⟩, _, _, ⟨_, rfl⟩,
      _, _, rfl, rfl, rfl⟩ := ran
    simp only [Commits.next, guarded_then_is_ok, bind_is_ok, pure_is_ok] at made
    obtain ⟨ready, _, _, rfl⟩ := made
    exact ⟨by simpa using ready, rfl, _, rfl⟩
  · exact absurd ran (succeeds_throw _ _ _ _)

theorem ec_ephemeral_issues (request : Request) (w w' : Work) (response : Response)
    (ran : Succeeds (ecEphemeral request) w response w') : w.commits.isReady = true ∧ w'.commits = w.commits.take ∧
      ∃ point, response.parameters = point ++ be16 w.commits.count.toUInt16 := by
  unfold ecEphemeral at ran
  simp only [succeeds_bind, succeeds_get, succeeds_lift, succeeds_modify, succeeds_pure] at ran
  obtain ⟨_, _, ⟨_, rfl⟩, _, _, ⟨_, rfl⟩, _, _, ⟨rfl, rfl⟩, pair, _, ⟨made, rfl⟩, _, _, rfl, rfl, rfl⟩ := ran
  simp only [ephemeralPoint, Commits.next, bind_is_ok, guarded_then_is_ok, pure_is_ok] at made
  obtain ⟨_, ⟨ready, _, _, rfl⟩, _, _, _, _, _, _, _, rfl⟩ := made
  exact ⟨by simpa using ready, rfl, _, rfl⟩

-- The commits after a run with such a log.
structure SingleUse (s : TpmState) (log : CommitLog) : Prop where
  once : log.spent.Nodup
  past : ∀ j ∈ log.spent, j < log.issued
  hands : s.commits.count.toUInt16.toNat = log.issued % 2 ^ 16
  names : ∀ counter full, s.commits.fullCounter counter = .ok full → ∃ j, log.Outstanding j ∧
    log.issued < j + Config.maxCommitSequences ∧ counter.toNat = j % 2 ^ 16 ∧ full = UInt64.ofNat j
  accepts : ∀ j, log.Outstanding j → log.issued < j + Config.maxCommitSequences → log.issued < 2 ^ 64 →
    s.commits.fullCounter (UInt16.ofNat j) = .ok (UInt64.ofNat j)
  refused : ∀ counter : UInt16, (∀ j, log.Outstanding j → log.issued < j + Config.maxCommitSequences →
    counter.toNat ≠ j % 2 ^ 16) → ∀ full, s.commits.fullCounter counter ≠ .ok full
  nonces : ∀ counter full nameAlg name bits, s.commits.fullCounter counter = .ok full → log.issued ≤ 2 ^ 64 →
    Function.Injective (fun count => kdfa nameAlg s.commits.random (ascii "ECDAA Commit") name (be64 count) bits) →
    ∀ j ∈ log.spent, ∀ r, s.commits.derive nameAlg name full bits = .ok r →
      s.commits.derive nameAlg name (UInt64.ofNat j) bits ≠ .ok r
  period : ∀ event log', CommitLog.Records s event log log' → ¬ s.Starts event →
    (s.after event).commits.random = s.commits.random ∧ log.issued ≤ log'.issued ∧ ∀ j ∈ log.spent, j ∈ log'.spent
  used : ∀ event log' counter, CommitLog.Records s event log log' → ¬ s.Starts event →
    Commits.Uses counter s.commits (s.after event).commits → ∃ j, log.Outstanding j ∧ counter.toNat = j % 2 ^ 16 ∧
      log' = { log with spent := j :: log.spent }
  reset : ∀ locality octets request log', s.received.carried locality octets = some request →
    request.code = Cc.startup → request.params (Reader.withParameter 1 u16) = .ok Su.clear → s.shutdownType ≠ Su.state →
    CommitLog.Records s (.command locality octets) log log' → log' = {}
  unreached : ∀ locality octets, s.received.reaching locality octets = none →
    (s.after (.command locality octets)).commits = s.commits
  failed : ∀ locality octets counter full, (∀ executed t, TpmState.execute locality octets s.received ≠ .ok executed t) →
    s.commits.fullCounter counter = .ok full →
    (s.after (.command locality octets)).commits.fullCounter counter = .ok full ∨
      (∃ nameAlg name, Commits.Derives counter nameAlg name s.commits (s.after (.command locality octets)).commits) ∨
      s.commits.isReady = true ∧ (s.after (.command locality octets)).commits = s.commits.take
  shifts : s.commits.isReady = true → log.issued + 1 < 2 ^ 64 → ∀ counter full,
    s.commits.fullCounter counter = .ok full →
    (s.commits.count.toUInt16 - counter).toNat + 1 < Config.maxCommitSequences →
      s.commits.take.fullCounter counter = .ok full
  signs : ∀ object scheme hashAlg detail digest curveId scalar at' count (w : Work), w.commits = s.commits →
    scheme = ⟨Alg.ecdaa, .ecdaa detail count⟩ →
    (∀ value w', Succeeds (eccSign object scheme hashAlg digest curveId scalar at') w value w' →
      Commits.Derives count object.area.nameAlg object.name s.commits w'.commits) ∧
    ((final (eccSign object scheme hashAlg digest curveId scalar at' w)).commits = s.commits ∨
      Commits.Derives count object.area.nameAlg object.name s.commits
        (final (eccSign object scheme hashAlg digest curveId scalar at' w)).commits)
  shares : ∀ t request input (w : Work), w.commits = s.commits → request.params ZgenInput.unmarshal = .ok input →
    (∀ response w', Succeeds (zgen2Phase t request) w response w' →
      Commits.Derives input.counter Config.commitEphemeralHashAlg [] s.commits w'.commits) ∧
    ((final (zgen2Phase t request w)).commits = s.commits ∨
      Commits.Derives input.counter Config.commitEphemeralHashAlg [] s.commits (final (zgen2Phase t request w)).commits)
  issues : ∀ t request (w w' : Work) response, w.commits = s.commits →
    Succeeds (commit t request) w response w' ∨ Succeeds (ecEphemeral request) w response w' →
    w'.commits = s.commits.take ∧ ∃ points, response.parameters = points ++ be16 s.commits.count.toUInt16

theorem single_use_of_held (s : TpmState) (log : CommitLog) (held : log.Held s.commits)
    (audited : Hash.isSupported s.audit.alg = true) : SingleUse s log where
  once := held.once
  past := held.past
  hands := by
    rw [held.count]
    simp
  names counter full named := by
    obtain ⟨outstanding, low, wide⟩ := log.full_counter_names s.commits held counter full named
    exact ⟨_, outstanding, log.full_counter_young s.commits counter full named, low, wide⟩
  accepts := log.full_counter_accepts s.commits held
  refused counter none full named := by
    obtain ⟨outstanding, alike, _⟩ := log.full_counter_names s.commits held counter full named
    exact none _ outstanding (log.full_counter_young s.commits counter full named) alike
  nonces counter full nameAlg name bits named few injective j spent r derived same := by
    obtain ⟨outstanding, _, rfl⟩ := log.full_counter_names s.commits held counter full named
    rw [← derived] at same
    have ready : s.commits.isReady = true := by
      cases found : s.commits.isReady with
      | true => rfl
      | false => simp [Commits.derive, found] at derived
    simp only [Commits.derive, ready, Bool.not_true, Bool.false_eq_true, if_false] at same
    -- Fewer than the counts of sixty-four bits, two commits have two full counters.
    have alike := congrArg UInt64.toNat (injective same)
    simp only [UInt64.toNat_ofNat'] at alike
    have below := Nat.lt_of_lt_of_le outstanding.1 few
    have before := Nat.lt_of_lt_of_le (held.past j spent) few
    rw [Nat.mod_eq_of_lt below, Nat.mod_eq_of_lt before] at alike
    exact outstanding.2.2 (alike ▸ spent)
  period event log' records other := CommitLog.recorded_grows s event log log' records other
  used event log' counter records other used := by
    have spends := CommitLog.recorded_use s event log log' held records other counter used
    obtain ⟨full, named, _⟩ := used
    obtain ⟨outstanding, alike, _⟩ := log.full_counter_names s.commits held counter full named
    exact ⟨_, outstanding, alike, spends⟩
  reset locality octets request log' carried code given lost records := by
    obtain ⟨starts, fresh⟩ := s.reset_event_fresh locality octets request carried code given lost
    cases records with
    | renewed _ _ => rfl
    | kept _ stale => exact absurd fresh (stale starts)
    | taken other _ _ => exact absurd starts other
    | derived other _ _ _ _ => exact absurd starts other
  unreached locality octets none := by
    rw [s.command_commits locality octets, none]
  failed locality octets counter full failed accepted :=
    (s.failed_command_moves audited locality octets failed).spares log held counter full accepted
  shifts ready few counter full accepted young := by
    refine log.full_counter_shifted s.commits held ready counter full accepted ?_ few
    unfold CommitLog.named
    omega
  signs object scheme hashAlg detail digest curveId scalar at' count w same anonymous := by
    rw [← same]
    refine ⟨fun value w' signed => ?_, ?_⟩
    · exact ecc_sign_derives object scheme hashAlg detail digest curveId scalar at' count anonymous w w' value signed
    · rcases ecc_sign_moves object scheme at' hashAlg digest curveId scalar w with still | ⟨_, counter, named, derives⟩
      · exact .inl still
      · rw [anonymous] at named
        cases named
        exact .inr derives
  shares t request input w same given := by
    rw [← same]
    refine ⟨fun response w' ran => zgen_derives t request input given w w' response ran, ?_⟩
    rcases zgen_moves t request w with still | ⟨other, read, derives⟩
    · exact .inl still
    · rw [given] at read
      obtain rfl := Except.ok.inj read
      exact .inr derives
  issues t request w w' response same ran := by
    rw [← same]
    rcases ran with ran | ran
    · exact (commit_issues t request w w' response ran).2
    · exact (ec_ephemeral_issues request w w' response ran).2

end

namespace Curved

open Toy (polynomial widthOf plainCommand authorizedCommand)

def order : Nat := 0xffffffff00000000ffffffffffffffffbce6faada7179e84f3b9cac2fc632551

def timesGenerator (scalar : Nat) : Point :=
  let k := scalar % order
  if k = 0 then none else some (k, k)

def exponent : Point → Nat
  | none => 0
  | some (k, _) => k

-- A cyclic group of the order of the one that is used.
scoped instance : Primitives where
  toProfile := ⟨false⟩
  hash hashAlg data := polynomial (widthOf hashAlg) data
  hash_length := Toy.polynomial_length
  eccField _ := (5, 0, 0)
  eccOrder _ := order
  eccGenerator _ := (1, 1)
  eccIsOnCurve _ x y := x == y && 0 < x && x < order
  eccMultiply _ point scalar := timesGenerator (exponent point * scalar)
  eccAdd _ a b := timesGenerator (exponent a + exponent b)
  isProbablyPrime _ := false
  aesCrypt _ _ _ iv data := (data, iv)
  aesCrypt_length := Toy.copied_length
  knownAnswerTests := .ok ()
  integrityTest := .ok []

def generator : EccPoint :=
  ((Ecc.coordinates Curve.nistP256 (timesGenerator 1)).bind EccPoint.ofOctets).toOption.getD EccPoint.empty

def keyArea : TpmtPublic where
  objectType := Alg.ecc
  nameAlg := Alg.sha256
  objectAttributes := ⟨ObjectAttributes.userWithAuth ||| ObjectAttributes.decrypt⟩
  authPolicy := Tpm2b.empty
  parameters := .ecc SymDef.null Scheme.null Curve.nistP256 Scheme.null
  unique := .ecc generator

def keySensitive : TpmtSensitive where
  sensitiveType := Alg.ecc
  authValue := Tpm2b.empty
  seedValue := Tpm2b.empty
  sensitive := .ecc ((Tpm2b.new [1] : TpmResult Tpm2bEccParameter).toOption.getD Tpm2b.empty)

-- A session that hides parameters with a mask of SM3, which the structures know and no code computes.
def maskingSession : Bytes :=
  plainCommand Cc.startAuthSession [Rh.null, Rh.null]
    (sized16 (List.replicate 16 1) ++ sized16 [] ++ [Se.hmac] ++ be16 Alg.xor ++ be16 Alg.sm3_256 ++ be16 Alg.sha256)

-- A key is loaded, an ephemeral point made, and the session started.
def prepared : List Event :=
  [.command 0 (plainCommand Cc.startup [] (be16 Su.clear)),
    .command 0 (plainCommand Cc.loadExternal []
      (sized16 keySensitive.marshal ++ keyArea.marshalSized ++ be32 Rh.null)),
    .command 0 (plainCommand Cc.ecEphemeral [] (be16 Curve.nistP256)),
    .command 0 maskingSession]

-- The key is authorized by its password, and the response is to be hidden with the session.
def zgen (counter : UInt16) : Bytes :=
  let area := be32 Rh.rsPw ++ sized16 [] ++ [SessionAttributes.continueSession] ++ sized16 [] ++
    be32 Hc.hmacSessionFirst ++ sized16 [] ++
    [SessionAttributes.encrypt ||| SessionAttributes.continueSession] ++ sized16 []
  let body := be32 0x80000000 ++ be32 (UInt32.ofNat area.length) ++ area ++
    generator.marshalSized ++ generator.marshalSized ++ be16 Alg.ecdh ++ be16 counter
  be16 St.sessions ++ be32 (UInt32.ofNat (headerSize + body.length)) ++ be32 Cc.zGen2Phase ++ body

def failsWith (code : TpmRc) : EStateM.Result TpmRc TpmState Executed → Bool
  | .ok _ _ => false
  | .error e _ => e == code

end Curved

end Swtrust
