import Swtrust.Authorization.Soundness
import Swtrust.Library.Delimit
import Swtrust.Nv.Shape
import Swtrust.Library.Canonical

set_option autoImplicit false
set_option linter.unusedSectionVars false

namespace Swtrust

open Library Action

-- The length of a Name, read off its first octets: a nameAlg and its digest, or a handle.
def nameLength [Profile] (octets : Bytes) : Nat :=
  match digestSize (UInt16.ofNat (beNat (octets.take 2))) with
  | some size => 2 + size
  | none => 4

theorem name_length_of_alg [Profile] (nameAlg : UInt16) (rest : Bytes) :
    nameLength (be16 nameAlg ++ rest) = match digestSize nameAlg with
      | some size => 2 + size
      | none => 4 := by
  have taken : (be16 nameAlg ++ rest).take 2 = be16 nameAlg := by
    rw [List.take_append_of_le_length (by simp), List.take_of_length_le (by simp)]
  unfold nameLength
  rw [taken, be16, be_nat_be_bytes_of_lt 2 _ nameAlg.toNat_lt, UInt16.ofNat_toNat]

theorem hashed_name_delimited [Crypto] (nameAlg : UInt16) (body name : Bytes)
    (made : hashedName nameAlg body = .ok name) : Delimited nameLength name := by
  simp only [hashedName, bind_is_ok, pure_is_ok] at made
  obtain ⟨digest, hashed, rfl⟩ := made
  intro tail
  have sized := digest_size_of_hash nameAlg _ (Hash.digest_length nameAlg body digest hashed)
  rw [List.append_assoc, name_length_of_alg, sized, List.length_append, be16_length]

theorem object_name_delimited [Crypto] (area : TpmtPublic) (name : Bytes) (named : area.nameAlg ≠ Alg.null)
    (made : objectName area = .ok name) : Delimited nameLength name := by
  rw [objectName, if_neg named] at made
  exact hashed_name_delimited _ _ _ made

theorem nv_name_delimited [Crypto] (area : NvPublic) (name : Bytes) (made : nvName area = .ok name) :
    Delimited nameLength name :=
  hashed_name_delimited _ _ _ made

theorem map_each_length {α β : Type} (make : Nat → α → TpmResult β) (index : Nat) (given : List α) (made : List β)
    (mapped : mapEach make index given = .ok made) : made.length = given.length := by
  induction given generalizing index made with
  | nil =>
      cases mapped
      rfl
  | cons head tail ih =>
      simp only [mapEach, bind_is_ok, pure_is_ok] at mapped
      obtain ⟨first, _, rest, others, rfl⟩ := mapped
      rw [List.length_cons, List.length_cons, ih (index + 1) rest others]

theorem read_handles_length (count : Nat) (input rest : Bytes) (handles : List UInt32)
    (ran : (readHandles count).run input = .ok (handles, rest)) : handles.length = count := by
  induction count generalizing input handles with
  | zero =>
      cases ran
      rfl
  | succ count ih =>
      rw [readHandles, reader_bind_is_ok] at ran
      obtain ⟨handle, middle, _, ran⟩ := ran
      rw [reader_bind_is_ok] at ran
      obtain ⟨others, last, ran, made⟩ := ran
      cases made
      rw [List.length_cons, ih middle others ran]

theorem parsed_handles (octets : Bytes) (locality : UInt8) (request : Request)
    (parsed : parse octets locality = .ok request) :
    Table.lookup request.code = some request.info ∧ request.handles.length = request.info.handles := by
  simp only [parse, bind_is_ok] at parsed
  obtain ⟨header, _, parsed⟩ := parsed
  cases listed : Table.lookup header.code with
  | none =>
      rw [listed] at parsed
      cases parsed
  | some info =>
      rw [listed] at parsed
      simp only [bind_is_ok, pure_is_ok] at parsed
      obtain ⟨⟨⟨handles, sessions⟩, parameters⟩, ran, rfl⟩ := parsed
      refine ⟨listed, ?_⟩
      rw [reader_bind_is_ok] at ran
      obtain ⟨read, middle, taken, ran⟩ := ran
      have count := read_handles_length info.handles _ _ read taken
      split at ran
      · rw [reader_bind_is_ok] at ran
        obtain ⟨_, _, _, made⟩ := ran
        cases made
        exact count
      · split at ran
        · cases ran
        · cases ran
          exact count

-- What an authorization compares is a password rather than an HMAC.
def Session.comparesPassword (session : Session) : Bool := session.isPolicy && session.policy.passwordNeeded

namespace TpmState

section

variable [Primitives]

-- The two checks that may accept the session at a position, and the key each gives its HMAC.
inductive Accepts (s : TpmState) (request : Request) (names : List Bytes) (index : Nat) (input : SessionInput)
    (session : Session) : Bytes → Prop where
  | authorization (handle : UInt32) (entity : Entity) (context : AuthContext) (s' : TpmState)
      (inside : index < request.info.authHandles) (named : request.handle index = .ok handle)
      (found : s.entity handle = .ok entity) (ran : Succeeds (authorizeAt request names index) s context s') :
      Accepts s request names index input session (session.hmacKey entity.name entity.auth)
  | unauthorized (outside : request.info.authHandles ≤ index)
      (checked : s.checkUnauthorizedSession request index input names = .ok ()) :
      Accepts s request names index input session session.sessionKey

-- A command that carries a session, and is accepted with it under a key that is not empty.
structure Carries (s : TpmState) (octets : Bytes) (locality : UInt8) (request : Request) (names : List Bytes)
    (index : Nat) (input : SessionInput) (session : Session) (key : Bytes) : Prop where
  parsed : parse octets locality = .ok request
  named : mapEach s.nameOf 0 request.handles = .ok names
  given : request.sessionAt index = .ok input
  apart : input.handle ≠ Rh.rsPw
  held : s.sessions.get input.handle = .ok session
  keyed : key ≠ []
  accepted : s.Accepts request names index input session key

theorem accepted_hmac (expected supplied key : Bytes) (keyed : key ≠ [])
    (accepted : authHmacAccepted key expected supplied = true) : expected = supplied := by
  have plain : key.isEmpty = false := by simpa using keyed
  simpa [authHmacAccepted, plain] using accepted

theorem attempt_expects (s : TpmState) (request : Request) (index : Nat) (entity : Entity) (cp : Bytes)
    (input : SessionInput) (session : Session) (attempt : Attempt) (given : request.sessionAt index = .ok input)
    (apart : input.handle ≠ Rh.rsPw) (held : s.sessions.get input.handle = .ok session)
    (compares : session.comparesPassword = false) (keyed : session.hmacKey entity.name entity.auth ≠ [])
    (judged : s.attempt request index entity cp = .ok attempt) (accepted : attempt.accepted = true) :
    s.expectedHmac request index input session (session.hmacKey entity.name entity.auth) cp = .ok input.hmac := by
  simp only [TpmState.attempt, bind_is_ok, given, Except.ok.injEq, exists_eq_left', if_neg apart, held,
    guarded_then_is_ok] at judged
  obtain ⟨_, _, _, _, _, judged⟩ := judged
  cases policy : session.isPolicy with
  | true =>
      have password : session.policy.passwordNeeded = false := by simpa [Session.comparesPassword, policy] using compares
      simp only [policy, if_true, guarded_then_is_ok, attemptPolicy, bind_is_ok, password, Bool.false_eq_true,
        if_false] at judged
      obtain ⟨_, _, _, _, _, expected, made, judged⟩ := judged
      have equal : authHmacAccepted (session.hmacKey entity.name entity.auth) expected input.hmac = true := by
        cases value : session.policy.authValueNeeded with
        | true =>
            simp only [value, if_true, bind_is_ok, pure_is_ok] at judged
            obtain ⟨_, _, rfl⟩ := judged
            exact accepted
        | false =>
            simp only [value, Bool.false_eq_true, if_false, pure_is_ok] at judged
            subst judged
            exact accepted
      rw [made, accepted_hmac _ _ _ keyed equal]
  | false =>
      simp only [policy, Bool.false_eq_true, if_false, bind_is_ok, guarded_then_is_ok, attemptHmac, pure_is_ok] at judged
      obtain ⟨_, _, _, expected, made, _, _, rfl⟩ := judged
      rw [made, accepted_hmac _ _ _ keyed accepted]

theorem carries_expects (s : TpmState) (octets : Bytes) (locality : UInt8) (request : Request) (names : List Bytes)
    (index : Nat) (input : SessionInput) (session : Session) (key : Bytes)
    (carried : s.Carries octets locality request names index input session key)
    (compares : index < request.info.authHandles → session.comparesPassword = false) :
    ∃ cp, Swtrust.cpHash session.authHash request.code names request.parameters = .ok cp ∧
      s.expectedHmac request index input session key cp = .ok input.hmac := by
  have keyed := carried.keyed
  cases carried.accepted with
  | authorization handle entity context s' inside named found ran =>
      obtain ⟨input', handle', entity', hashAlg, cp, given', named', found', hashed, computed, authorized⟩ :=
        succeeds_authorize_at request names index s s' context ran
      obtain rfl := Except.ok.inj (carried.given.symm.trans given')
      obtain rfl := Except.ok.inj (named.symm.trans named')
      obtain rfl := Except.ok.inj (found.symm.trans found')
      simp only [TpmState.authHash, if_neg carried.apart, bind_is_ok, pure_is_ok, carried.held, Except.ok.injEq,
        exists_eq_left'] at hashed
      obtain ⟨attempt, judged, accepted, _⟩ := succeeds_check_authorization request index entity cp s s' () authorized
      exact ⟨cp, hashed ▸ computed, s.attempt_expects request index entity cp input session attempt carried.given
        carried.apart carried.held (compares inside) keyed judged accepted⟩
  | unauthorized outside checked =>
      simp only [checkUnauthorizedSession, bind_is_ok, carried.held, Except.ok.injEq, exists_eq_left'] at checked
      have full : ¬ (session.sessionKey.isEmpty = true ∧ input.hmac.isEmpty = true) := by
        rintro ⟨empty, _⟩
        exact keyed (by simpa using empty)
      rw [if_neg full] at checked
      simp only [bind_is_ok] at checked
      obtain ⟨cp, computed, expected, made, checked⟩ := checked
      refine ⟨cp, computed, ?_⟩
      by_cases same : expected = input.hmac
      · rw [made, same]
      · simp [same, failAt] at checked

def commandOctets (request : Request) (names : List Bytes) : Bytes :=
  be32 request.code ++ (names.flatten ++ request.parameters)

-- The nonces of the TPM that an HMAC covers: of its own session, then of the decrypt and the encrypt session.
def nonceOctets (s : TpmState) (request : Request) (index : Nat) (session : Session) : Bytes :=
  session.nonceTpm ++ ((s.auxiliaryNonces request index).1 ++ (s.auxiliaryNonces request index).2)

def hmacOctets (s : TpmState) (request : Request) (index : Nat) (input : SessionInput) (session : Session)
    (cp : Bytes) : Bytes :=
  cp ++ (input.nonceCaller ++ s.nonceOctets request index session ++ [input.attributes.value])

theorem cp_hash_octets (hashAlg : UInt16) (request : Request) (names : List Bytes) :
    Swtrust.cpHash hashAlg request.code names request.parameters = Hash.digest hashAlg (commandOctets request names) := by
  simp [Swtrust.cpHash, Hash.digestParts, commandOctets]

theorem expected_hmac_octets (s : TpmState) (request : Request) (index : Nat) (input : SessionInput) (session : Session)
    (key cp : Bytes) :
    s.expectedHmac request index input session key cp =
      hmac session.authHash key (s.hmacOctets request index input session cp) := by
  simp [expectedHmac, authHmacWithNonces, hmacParts, hmacOctets, nonceOctets]

-- The hash does not collide on the octets of the two commands, nor the HMAC on what it covers of them.
structure CollisionFree (s : TpmState) (index : Nat) (session : Session) (first second : Request)
    (firstNames secondNames : List Bytes) (firstInput secondInput : SessionInput) (firstKey secondKey : Bytes) :
    Prop where
  hashes : ∀ digest, Hash.digest session.authHash (commandOctets first firstNames) = .ok digest →
    Hash.digest session.authHash (commandOctets second secondNames) = .ok digest →
    commandOctets first firstNames = commandOctets second secondNames
  macs : ∀ firstCp secondCp mac,
    Swtrust.cpHash session.authHash first.code firstNames first.parameters = .ok firstCp →
    Swtrust.cpHash session.authHash second.code secondNames second.parameters = .ok secondCp →
    hmac session.authHash firstKey (s.hmacOctets first index firstInput session firstCp) = .ok mac →
    hmac session.authHash secondKey (s.hmacOctets second index secondInput session secondCp) = .ok mac →
    s.hmacOctets first index firstInput session firstCp = s.hmacOctets second index secondInput session secondCp

-- What one HMAC for two commands says of them, octet for octet.
structure SameOctets (s : TpmState) (index : Nat) (session : Session) (first second : Request)
    (firstNames secondNames : List Bytes) (firstInput secondInput : SessionInput) : Prop where
  code : first.code = second.code
  command : firstNames.flatten ++ first.parameters = secondNames.flatten ++ second.parameters
  nonces : firstInput.nonceCaller ++ s.nonceOctets first index session =
    secondInput.nonceCaller ++ s.nonceOctets second index session
  attributes : firstInput.attributes = secondInput.attributes

theorem one_hmac_same_octets (s : TpmState) (index : Nat) (session : Session) (first second : Request)
    (firstNames secondNames : List Bytes) (firstInput secondInput : SessionInput) (firstKey secondKey : Bytes)
    (firstCp secondCp : Bytes)
    (free : s.CollisionFree index session first second firstNames secondNames firstInput secondInput firstKey secondKey)
    (firstHash : Swtrust.cpHash session.authHash first.code firstNames first.parameters = .ok firstCp)
    (secondHash : Swtrust.cpHash session.authHash second.code secondNames second.parameters = .ok secondCp)
    (firstMac : s.expectedHmac first index firstInput session firstKey firstCp = .ok firstInput.hmac)
    (secondMac : s.expectedHmac second index secondInput session secondKey secondCp = .ok secondInput.hmac)
    (sameMac : firstInput.hmac = secondInput.hmac) :
    s.SameOctets index session first second firstNames secondNames firstInput secondInput := by
  rw [expected_hmac_octets] at firstMac secondMac
  rw [← sameMac] at secondMac
  have covered := free.macs firstCp secondCp _ firstHash secondHash firstMac secondMac
  rw [cp_hash_octets] at firstHash secondHash
  have lengths : firstCp.length = secondCp.length :=
    Except.ok.inj ((Hash.digest_length _ _ _ firstHash).symm.trans (Hash.digest_length _ _ _ secondHash))
  obtain ⟨rfl, rest⟩ := List.append_inj covered lengths
  obtain ⟨nonces, last⟩ := List.append_inj' rest rfl
  have octets := free.hashes firstCp firstHash secondHash
  obtain ⟨code, command⟩ := append_split 4 _ _ _ _ (be32_length _) (be32_length _) octets
  refine ⟨be32_inj _ _ code, command, nonces, ?_⟩
  cases left : firstInput.attributes
  cases right : secondInput.attributes
  rw [left, right] at last
  exact congrArg Flags8.mk (List.cons.inj last).1

-- The two commands agree in every field.
structure SameCommand (s : TpmState) (index : Nat) (first second : Request) (firstNames secondNames : List Bytes)
    (firstInput secondInput : SessionInput) : Prop where
  code : first.code = second.code
  names : firstNames = secondNames
  parameters : first.parameters = second.parameters
  nonceCaller : firstInput.nonceCaller = secondInput.nonceCaller
  attributes : firstInput.attributes = secondInput.attributes
  auxiliary : s.auxiliaryNonces first index = s.auxiliaryNonces second index

-- Neither string of the nonces of the TPM is a proper end of the other.
def NoOverlap (s : TpmState) (index : Nat) (session : Session) (first second : Request) : Prop :=
  (s.nonceOctets first index session <:+ s.nonceOctets second index session →
    s.nonceOctets first index session = s.nonceOctets second index session) ∧
  (s.nonceOctets second index session <:+ s.nonceOctets first index session →
    s.nonceOctets second index session = s.nonceOctets first index session)

theorem no_overlap_later (s : TpmState) (index : Nat) (session : Session) (first second : Request) (later : index ≠ 0) :
    s.NoOverlap index session first second := by
  simp [NoOverlap, nonceOctets, auxiliaryNonces, later]

theorem same_names (s : TpmState) (index : Nat) (session : Session) (firstOctets secondOctets : Bytes)
    (firstLocality secondLocality : UInt8) (first second : Request) (firstNames secondNames : List Bytes)
    (firstInput secondInput : SessionInput)
    (firstParsed : parse firstOctets firstLocality = .ok first)
    (secondParsed : parse secondOctets secondLocality = .ok second)
    (firstNamed : mapEach s.nameOf 0 first.handles = .ok firstNames)
    (secondNamed : mapEach s.nameOf 0 second.handles = .ok secondNames)
    (octets : s.SameOctets index session first second firstNames secondNames firstInput secondInput)
    (alike : ∀ a b, (a, b) ∈ firstNames.zip secondNames → Alike nameLength a b) :
    firstNames = secondNames ∧ first.parameters = second.parameters := by
  obtain ⟨firstInfo, firstCount⟩ := parsed_handles firstOctets firstLocality first firstParsed
  obtain ⟨secondInfo, secondCount⟩ := parsed_handles secondOctets secondLocality second secondParsed
  have info : first.info = second.info := by
    rw [octets.code, secondInfo] at firstInfo
    exact (Option.some.inj firstInfo).symm
  have counts : firstNames.length = secondNames.length := by
    rw [map_each_length _ _ _ _ firstNamed, map_each_length _ _ _ _ secondNamed, firstCount, secondCount, info]
  have pairs : List.Forall₂ (Alike nameLength) firstNames secondNames :=
    List.forall₂_iff_zip.mpr ⟨counts, fun {a b} member => alike a b member⟩
  exact flatten_split nameLength _ _ _ _ pairs octets.command

theorem hmac_binds_command (s : TpmState) (index : Nat) (session : Session) (firstOctets secondOctets : Bytes)
    (firstLocality secondLocality : UInt8) (first second : Request) (firstNames secondNames : List Bytes)
    (firstInput secondInput : SessionInput) (firstKey secondKey : Bytes)
    (left : s.Carries firstOctets firstLocality first firstNames index firstInput session firstKey)
    (right : s.Carries secondOctets secondLocality second secondNames index secondInput session secondKey)
    (firstCompares : index < first.info.authHandles → session.comparesPassword = false)
    (secondCompares : index < second.info.authHandles → session.comparesPassword = false)
    (sameMac : firstInput.hmac = secondInput.hmac)
    (free : s.CollisionFree index session first second firstNames secondNames firstInput secondInput firstKey
      secondKey) :
    s.SameOctets index session first second firstNames secondNames firstInput secondInput ∧
      ((∀ a b, (a, b) ∈ firstNames.zip secondNames → Alike nameLength a b) →
        firstNames = secondNames ∧ first.parameters = second.parameters) ∧
      ((index = 0 → s.NoOverlap index session first second) → firstInput.nonceCaller = secondInput.nonceCaller ∧
        (s.auxiliaryNonces first index).1 ++ (s.auxiliaryNonces first index).2 =
          (s.auxiliaryNonces second index).1 ++ (s.auxiliaryNonces second index).2) := by
  obtain ⟨firstCp, firstHash, firstMac⟩ := s.carries_expects _ _ _ _ _ _ _ _ left firstCompares
  obtain ⟨secondCp, secondHash, secondMac⟩ := s.carries_expects _ _ _ _ _ _ _ _ right secondCompares
  have octets := s.one_hmac_same_octets index session first second firstNames secondNames firstInput secondInput
    firstKey secondKey firstCp secondCp free firstHash secondHash firstMac secondMac sameMac
  refine ⟨octets, ?_, ?_⟩
  · exact s.same_names index session firstOctets secondOctets firstLocality secondLocality first second firstNames
      secondNames firstInput secondInput left.parsed right.parsed left.named right.named octets
  · intro apart
    have separate : s.NoOverlap index session first second := by
      by_cases leading : index = 0
      · exact apart leading
      · exact s.no_overlap_later index session first second leading
    obtain ⟨caller, nonces⟩ := splits_agree _ _ _ _ octets.nonces separate.1 separate.2
    exact ⟨caller, List.append_cancel_left nonces⟩

-- The whole command is bound: any two accepted under one HMAC agree in every field.
def HmacBindsCommand (s : TpmState) : Prop :=
  ∀ (index : Nat) (session : Session) (firstOctets secondOctets : Bytes) (firstLocality secondLocality : UInt8)
    (first second : Request) (firstNames secondNames : List Bytes) (firstInput secondInput : SessionInput)
    (firstKey secondKey : Bytes),
    s.Carries firstOctets firstLocality first firstNames index firstInput session firstKey →
    s.Carries secondOctets secondLocality second secondNames index secondInput session secondKey →
    firstInput.hmac = secondInput.hmac →
    s.CollisionFree index session first second firstNames secondNames firstInput secondInput firstKey secondKey →
    s.SameCommand index first second firstNames secondNames firstInput secondInput

theorem collision_free_of_same (s : TpmState) (index : Nat) (session : Session) (first second : Request)
    (firstNames secondNames : List Bytes) (firstInput secondInput : SessionInput) (firstKey secondKey : Bytes)
    (command : commandOctets first firstNames = commandOctets second secondNames)
    (nonceCaller : firstInput.nonceCaller = secondInput.nonceCaller)
    (nonces : s.nonceOctets first index session = s.nonceOctets second index session)
    (attributes : firstInput.attributes = secondInput.attributes) :
    s.CollisionFree index session first second firstNames secondNames firstInput secondInput firstKey secondKey where
  hashes := fun _ _ _ => command
  macs := by
    intro firstCp secondCp mac firstHash secondHash _ _
    rw [cp_hash_octets] at firstHash secondHash
    rw [command, secondHash] at firstHash
    obtain rfl := Except.ok.inj firstHash
    simp only [hmacOctets, nonceCaller, nonces, attributes]

end

end TpmState

namespace Toy

-- An HMAC session bound to the owner, so with a key, a second session without one, and a hash sequence.
def opens (sessionType : UInt8) (bind : UInt32) : Bytes :=
  plainCommand Cc.startAuthSession [Rh.null, bind]
    (sized16 (List.replicate 16 1) ++ sized16 [] ++ [sessionType] ++ be16 Alg.null ++ be16 Alg.sha256)

def keyedSession : UInt32 := Hc.hmacSessionFirst

def bareSession : UInt32 := Hc.hmacSessionFirst + 1

def sequenceHandle : UInt32 := Hc.transientFirst

def keyed : TpmState :=
  afterCommands [opens Se.hmac Rh.owner, opens Se.hmac Rh.null,
    plainCommand Cc.hashSequenceStart [] (sized16 [] ++ be16 Alg.sha256)] booted

def carrying (code : UInt32) (handles : List UInt32) (sessions : List (UInt32 × UInt8 × Bytes)) (parameters : Bytes) :
    Bytes :=
  let area := sessions.flatMap fun session => be32 session.1 ++ sized16 [] ++ [session.2.1] ++ sized16 session.2.2
  let body := handles.flatMap be32 ++ be32 (UInt32.ofNat area.length) ++ area ++ parameters
  be16 St.sessions ++ be32 (UInt32.ofNat (headerSize + body.length)) ++ be32 code ++ body

-- The HMAC a caller who knows the session key computes for the first session of a command.
def hmacFor (s : TpmState) (command : Bytes) : Bytes :=
  let made : TpmResult Bytes := do
    let request ← parse command 0
    let names ← mapEach s.nameOf 0 request.handles
    let input ← request.sessionAt 0
    let session ← s.sessions.get input.handle
    let cp ← cpHash session.authHash request.code names request.parameters
    s.expectedHmac request 0 input session session.sessionKey cp
  made.toOption.getD []

-- A command accepted in the state `keyed` for the session with a key, which authorizes nothing in it.
def audited (command : Bytes) (test : Request → List Bytes → SessionInput → Session → Bool) : Bool :=
  found (parse command 0) fun request =>
    found (mapEach keyed.nameOf 0 request.handles) fun names =>
      found (request.sessionAt 0) fun input =>
        found (keyed.sessions.get keyedSession) fun session =>
          found (keyed.checkUnauthorizedSession request 0 input names) (fun _ => true) &&
            (input.handle == keyedSession && request.info.authHandles == 0 && !session.sessionKey.isEmpty) &&
            test request names input session

theorem audited_carries (command : Bytes) (test : Request → List Bytes → SessionInput → Session → Bool)
    (accepted : audited command test = true) :
    ∃ request names input session, keyed.Carries command 0 request names 0 input session session.sessionKey ∧
      keyed.sessions.get keyedSession = .ok session ∧ request.info.authHandles = 0 ∧
      test request names input session = true := by
  obtain ⟨request, parsed, accepted⟩ := ok_of_found _ _ accepted
  obtain ⟨names, named, accepted⟩ := ok_of_found _ _ accepted
  obtain ⟨input, given, accepted⟩ := ok_of_found _ _ accepted
  obtain ⟨session, held, accepted⟩ := ok_of_found _ _ accepted
  simp only [Bool.and_eq_true, beq_iff_eq, Bool.not_eq_true', List.isEmpty_eq_false_iff] at accepted
  obtain ⟨⟨checked, ⟨same, plain⟩, key⟩, tested⟩ := accepted
  obtain ⟨_, checked, _⟩ := ok_of_found _ _ checked
  have apart : input.handle ≠ Rh.rsPw := by
    rw [same]
    decide
  exact ⟨request, names, input, session, ⟨parsed, named, given, apart, same ▸ held, key,
    .unauthorized (by rw [plain]) checked⟩, held, plain, tested⟩

def nonceOf (handle : UInt32) : Bytes := ((keyed.sessions.sessions.get handle).map (·.nonceTpm)).getD []

-- The session with a key audits a command that binds a new session to `bind`.
def binds (bind : UInt32) (parameters hmac : Bytes) : Bytes :=
  carrying Cc.startAuthSession [Rh.null, bind]
    [(keyedSession, SessionAttributes.audit ||| SessionAttributes.continueSession, hmac)] parameters

def bindsMac : Bytes := hmacFor keyed (binds Rh.owner [] [])

-- What the HMAC `mac` is for.
structure Covered where
  octets : Bytes
  nonces : Bytes
  attributes : SessionAttributes
  mac : Bytes

def Covered.covers (c : Covered) (request : Request) (names : List Bytes) (input : SessionInput) (session : Session) :
    Bool :=
  TpmState.commandOctets request names == c.octets && keyed.nonceOctets request 0 session == c.nonces &&
    (input.nonceCaller == [] && input.attributes == c.attributes && input.hmac == c.mac)

-- Two commands for which one HMAC is made, and which differ where `differ` looks.
structure Confused (differ : Request → List Bytes → Request → List Bytes → Prop) (first second : Request)
    (firstNames secondNames : List Bytes) (firstInput secondInput : SessionInput) (session : Session)
    (firstOctets secondOctets : Bytes) : Prop where
  left : keyed.Carries firstOctets 0 first firstNames 0 firstInput session session.sessionKey
  right : keyed.Carries secondOctets 0 second secondNames 0 secondInput session session.sessionKey
  unauthorized : first.info.authHandles = 0 ∧ second.info.authHandles = 0
  sameMac : firstInput.hmac = secondInput.hmac
  free : keyed.CollisionFree 0 session first second firstNames secondNames firstInput secondInput session.sessionKey
    session.sessionKey
  differ : differ first firstNames second secondNames

theorem confused_of_covered (c : Covered) (firstOctets secondOctets : Bytes)
    (firstTest secondTest : Request → List Bytes → Bool)
    (differ : Request → List Bytes → Request → List Bytes → Prop)
    (tell : ∀ first firstNames second secondNames, firstTest first firstNames = true →
      secondTest second secondNames = true → differ first firstNames second secondNames)
    (left : audited firstOctets (fun request names input session =>
      c.covers request names input session && firstTest request names) = true)
    (right : audited secondOctets (fun request names input session =>
      c.covers request names input session && secondTest request names) = true) :
    ∃ first second firstNames secondNames firstInput secondInput session,
      Confused differ first second firstNames secondNames firstInput secondInput session firstOctets secondOctets := by
  obtain ⟨first, firstNames, firstInput, session, carried, held, plain, tested⟩ := audited_carries _ _ left
  obtain ⟨second, secondNames, secondInput, session', carried', held', plain', tested'⟩ := audited_carries _ _ right
  obtain rfl := Except.ok.inj (held.symm.trans held')
  simp only [Covered.covers, Bool.and_eq_true, beq_iff_eq] at tested tested'
  obtain ⟨⟨⟨octets, nonces⟩, ⟨caller, attributes⟩, mac⟩, passed⟩ := tested
  obtain ⟨⟨⟨octets', nonces'⟩, ⟨caller', attributes'⟩, mac'⟩, passed'⟩ := tested'
  exact ⟨first, second, firstNames, secondNames, firstInput, secondInput, session, carried, carried', ⟨plain, plain'⟩,
    mac.trans mac'.symm, TpmState.collision_free_of_same keyed 0 session first second firstNames secondNames firstInput
      secondInput _ _ (octets.trans octets'.symm) (caller.trans caller'.symm) (nonces.trans nonces'.symm)
      (attributes.trans attributes'.symm),
    tell _ _ _ _ passed passed'⟩

-- A sequence object has the empty Name, so the Name of the owner passes as the first octets of the parameters.
def bindsCovered : Covered :=
  ⟨be32 Cc.startAuthSession ++ (be32 Rh.null ++ be32 Rh.owner), nonceOf keyedSession,
    ⟨SessionAttributes.audit ||| SessionAttributes.continueSession⟩, bindsMac⟩

theorem sequence_name_shifts : ∃ first second firstNames secondNames firstInput secondInput session,
    Confused (fun _ firstNames _ secondNames => firstNames = [be32 Rh.null, be32 Rh.owner] ∧
      secondNames = [be32 Rh.null, []]) first second firstNames secondNames firstInput secondInput session
      (binds Rh.owner [] bindsMac) (binds sequenceHandle (be32 Rh.owner) bindsMac) := by
  refine confused_of_covered bindsCovered _ _ (fun _ names => names == [be32 Rh.null, be32 Rh.owner])
    (fun _ names => names == [be32 Rh.null, []]) _ ?_ ?_ ?_
  · intro _ firstNames _ secondNames left right
    exact ⟨by simpa using left, by simpa using right⟩
  all_goals
    unfold audited Covered.covers bindsCovered bindsMac hmacFor nonceOf keyed
    rw [booted_made]
    decide +kernel

-- A session without a key may turn from the encrypt session into the decrypt session.
def protects (purpose : UInt8) (hmac : Bytes) : Bytes :=
  carrying Cc.getRandom []
    [(keyedSession, SessionAttributes.audit ||| SessionAttributes.continueSession, hmac),
      (bareSession, purpose ||| SessionAttributes.continueSession, [])] (be16 8)

def protectsMac : Bytes := hmacFor keyed (protects SessionAttributes.encrypt [])

def protectsCovered : Covered :=
  ⟨be32 Cc.getRandom ++ be16 8, nonceOf keyedSession ++ nonceOf bareSession,
    ⟨SessionAttributes.audit ||| SessionAttributes.continueSession⟩, protectsMac⟩

theorem encrypt_session_becomes_decrypt : ∃ first second firstNames secondNames firstInput secondInput session,
    Confused (fun first _ second _ => (keyed.auxiliaryNonces first 0).1 = [] ∧ (keyed.auxiliaryNonces second 0).2 = [] ∧
      (keyed.auxiliaryNonces second 0).1 ≠ []) first second firstNames secondNames firstInput secondInput session
      (protects SessionAttributes.encrypt protectsMac) (protects SessionAttributes.decrypt protectsMac) := by
  refine confused_of_covered protectsCovered _ _ (fun request _ => (keyed.auxiliaryNonces request 0).1 == [])
    (fun request _ => (keyed.auxiliaryNonces request 0).2 == [] && (keyed.auxiliaryNonces request 0).1 != []) _ ?_ ?_ ?_
  · intro first _ second _ left right
    simp only [Bool.and_eq_true, beq_iff_eq, bne_iff_ne] at left right
    exact ⟨left, right.1, right.2⟩
  all_goals
    unfold audited Covered.covers protectsCovered protectsMac hmacFor nonceOf keyed
    rw [booted_made]
    decide +kernel

theorem hmac_leaves_names_open : ¬ ∀ commands, (afterCommands commands booted).HmacBindsCommand := by
  intro binds
  obtain ⟨first, second, firstNames, secondNames, firstInput, secondInput, session, confused⟩ := sequence_name_shifts
  have same := binds _ 0 session _ _ 0 0 first second firstNames secondNames firstInput secondInput _ _ confused.left
    confused.right confused.sameMac confused.free
  have names := same.names
  rw [confused.differ.1, confused.differ.2] at names
  exact absurd names (by decide)

theorem shifted_name_same_octets : ∃ first second firstNames secondNames firstInput secondInput session,
    keyed.SameOctets 0 session first second firstNames secondNames firstInput secondInput ∧
      firstNames ≠ secondNames := by
  obtain ⟨first, second, firstNames, secondNames, firstInput, secondInput, session, confused⟩ := sequence_name_shifts
  refine ⟨first, second, firstNames, secondNames, firstInput, secondInput, session, ?_, ?_⟩
  · exact (keyed.hmac_binds_command 0 session _ _ 0 0 first second firstNames secondNames firstInput secondInput _ _
      confused.left confused.right (fun inside => absurd inside (by rw [confused.unauthorized.1]; omega))
      (fun inside => absurd inside (by rw [confused.unauthorized.2]; omega)) confused.sameMac confused.free).1
  · rw [confused.differ.1, confused.differ.2]
    decide

-- The policy of the owner asks for its password, and the policy session is bound to the owner.
def passwordPolicy : List Bytes := [opens Se.policy Rh.owner, plainCommand Cc.policyPassword [policyHandle] []]

def passwordGuarded : TpmState :=
  let digest := (((afterCommands passwordPolicy booted).sessions.sessions.get policyHandle).map (·.policy.digest)).getD []
  afterCommands (passwordPolicy ++
    [authorizedCommand Cc.setPrimaryPolicy [Rh.owner] [(Rh.rsPw, [])] (sized16 digest ++ be16 Alg.sha256)]) booted

def changesAuth (auth : Bytes) : Bytes :=
  authorizedCommand Cc.hierarchyChangeAuth [Rh.owner] [(policyHandle, [])] (sized16 auth)

def passwordAccepts (command : Bytes) (parameters : Bytes) : Bool :=
  found (parse command 0) fun request =>
    found (mapEach passwordGuarded.nameOf 0 request.handles) fun names =>
      found (request.sessionAt 0) fun input =>
        found (passwordGuarded.sessions.get policyHandle) fun session =>
          found (request.handle 0) fun handle =>
            found (passwordGuarded.entity handle) fun entity =>
              endsWith (TpmState.authorizeAt request names 0) passwordGuarded (fun _ _ => true) &&
                (input.handle == policyHandle && decide (0 < request.info.authHandles) &&
                  !(session.hmacKey entity.name entity.auth).isEmpty) &&
                (input.hmac == [] && request.parameters == parameters)

theorem password_accepted (command : Bytes) (parameters : Bytes)
    (accepted : passwordAccepts command parameters = true) :
    ∃ request names input session key, passwordGuarded.Carries command 0 request names 0 input session key ∧
      passwordGuarded.sessions.get policyHandle = .ok session ∧ input.hmac = [] ∧ request.parameters = parameters := by
  obtain ⟨request, parsed, accepted⟩ := ok_of_found _ _ accepted
  obtain ⟨names, named, accepted⟩ := ok_of_found _ _ accepted
  obtain ⟨input, given, accepted⟩ := ok_of_found _ _ accepted
  obtain ⟨session, held, accepted⟩ := ok_of_found _ _ accepted
  obtain ⟨handle, asked, accepted⟩ := ok_of_found _ _ accepted
  obtain ⟨entity, known, accepted⟩ := ok_of_found _ _ accepted
  simp only [Bool.and_eq_true, beq_iff_eq, Bool.not_eq_true', List.isEmpty_eq_false_iff, decide_eq_true_eq] at accepted
  obtain ⟨⟨ran, ⟨same, inside⟩, key⟩, hmac, given'⟩ := accepted
  obtain ⟨context, s', ran, _⟩ := succeeds_of_ends_with _ _ _ ran
  have apart : input.handle ≠ Rh.rsPw := by
    rw [same]
    decide
  exact ⟨request, names, input, session, _, ⟨parsed, named, given, apart, same ▸ held, key,
    .authorization handle entity context s' inside asked known ran⟩, held, hmac, given'⟩

-- One password authorizes any parameters, though the session has a key.
theorem password_binds_nothing : ∃ first second firstNames secondNames firstInput secondInput session firstKey secondKey,
    passwordGuarded.Carries (changesAuth [1]) 0 first firstNames 0 firstInput session firstKey ∧
      passwordGuarded.Carries (changesAuth [2]) 0 second secondNames 0 secondInput session secondKey ∧
      firstInput.hmac = secondInput.hmac ∧ first.parameters ≠ second.parameters := by
  obtain ⟨first, firstNames, firstInput, session, firstKey, left, held, mac, parameters⟩ :=
    password_accepted (changesAuth [1]) (sized16 [1]) (by decide +kernel)
  obtain ⟨second, secondNames, secondInput, session', secondKey, right, held', mac', parameters'⟩ :=
    password_accepted (changesAuth [2]) (sized16 [2]) (by decide +kernel)
  obtain rfl := Except.ok.inj (held.symm.trans held')
  refine ⟨first, second, firstNames, secondNames, firstInput, secondInput, session, firstKey, secondKey, left, right,
    mac.trans mac'.symm, ?_⟩
  rw [parameters, parameters']
  decide

end Toy

end Swtrust
