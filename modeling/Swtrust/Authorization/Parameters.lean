import Swtrust.Crypto.Inverses
import Swtrust.Commands.Authorization
import Swtrust.Commands.Reading
import Swtrust.Session.Shape
import Swtrust.Structures.ReadBack
import Swtrust.Toy

set_option autoImplicit false

namespace Swtrust

open Library

namespace Session

variable [Primitives]

-- A session that TPM2_StartAuthSession admits and that has a symmetric algorithm.
structure Encrypts (session : Session) : Prop where
  authHash : ∃ size, Hash.digestSize session.authHash = .ok size
  symmetric : session.symmetric.Admitted
  set : session.symmetric.algorithm ≠ Alg.null

-- A mask is derived with a hash the TPM computes, and for no more octets than the key derivation gives out.
def Covers (session : Session) (length : Nat) : Prop :=
  session.symmetric.algorithm = Alg.xor → Hash.isSupported session.symmetric.keyBits = true ∧ length ≤ maxKdfBytes

-- The encryption of a parameter: `newer` is the nonce of whoever sends it.
def transform (session : Session) (newer older authValue body : Bytes) (encrypting : Bool) : TpmResult Bytes := do
  if session.symmetric.algorithm = Alg.xor then
    Sym.xorObfuscate session.symmetric.keyBits (session.sessionValue authValue) newer older body
  else if session.symmetric.algorithm = Alg.aes then
    let block ← Sym.blockSize Alg.aes
    let (key, iv) ←
      parameterEncryptionKey session.authHash (session.sessionValue authValue) [] newer older session.symmetric.keyBits block
    if encrypting then Sym.cfbEncrypt key iv body else Sym.cfbDecrypt key iv body
  else throw Rc.symmetric

theorem transform_command (session : Session) (input : SessionInput) (authValue body : Bytes) :
    TpmState.transformParameter session input authValue body false =
      session.transform input.nonceCaller session.nonceTpm authValue body false := rfl

theorem transform_response (session : Session) (input : SessionInput) (authValue body : Bytes) :
    TpmState.transformParameter session input authValue body true =
      session.transform session.nonceTpm input.nonceCaller authValue body true := rfl

theorem started_encrypts (s : TpmState) (request : Request) (t t' : ContextScope) (response : Response) (handle : UInt32)
    (session : Session) (ran : Action.Succeeds (startAuthSession s request) t response t')
    (answered : response.handle = some handle) (held : t'.sessions.get handle = .ok session) :
    session.symmetric.algorithm = Alg.null ∨ session.Encrypts := by
  unfold startAuthSession at ran
  simp only [Action.succeeds_bind, Action.succeeds_lift, Action.succeeds_get, Action.succeeds_modify,
    Action.succeeds_pure] at ran
  obtain ⟨_, _, _, _, _, _, start, _, ⟨read, _⟩, _, _, _, _, _, _, _, _, _, _, _, _, _, _, _, _, _, _, _, _, _, allocated, _,
    ⟨_, _⟩, made, _, ⟨new, _⟩, _, _, _, slots, _, ⟨inserted, _⟩, _, _, rfl, _, _, ⟨_, rfl⟩, rfl, rfl⟩ := ran
  obtain rfl := Option.some.inj answered
  simp only [Session.new, bind_is_ok, pure_is_ok] at new
  obtain ⟨_, hashed, rfl⟩ := new
  obtain ⟨_, _, _, _, rfl⟩ := (SessionSlots.insert_is_ok _ _ _).mp inserted
  rw [SessionSlots.get_is_ok, SortedMap.get_insert_same] at held
  obtain rfl := Option.some.inj held
  by_cases null : start.symmetric.algorithm = Alg.null
  · exact .inl null
  · exact .inr ⟨⟨_, hashed⟩, start_yields _ _ _ ((params_is_ok _ _ _).mp read), null⟩

variable (session : Session) (newer older authValue body : Bytes)

theorem transform_refused (encrypting : Bool) (uncovered : ¬ session.Covers body.length)
    (representable : body.length < 2 ^ 16) : ∃ e, session.transform newer older authValue body encrypting = .error e := by
  obtain ⟨xor, unable⟩ := Classical.not_imp.mp uncovered
  unfold transform Sym.xorObfuscate
  rw [if_pos xor]
  by_cases long : maxKdfBytes < body.length
  · rw [kdfa_refused _ _ _ _ _ _ long representable]
    exact ⟨Rc.value, rfl⟩
  · have unsupported : Hash.isSupported session.symmetric.keyBits = false :=
      Bool.eq_false_iff.mpr fun supported => unable ⟨supported, Nat.le_of_not_lt long⟩
    rw [kdfa_unsupported _ _ _ _ _ _ (Nat.le_of_not_lt long) unsupported]
    exact ⟨Rc.hash, rfl⟩

variable (encrypts : session.Encrypts)

include encrypts

theorem mask_or_cipher : session.symmetric.algorithm = Alg.xor ∨
    (session.symmetric.algorithm = Alg.aes ∧ session.symmetric.keyBits ∈ Config.implementedAesKeyBits) := by
  rcases encrypts.symmetric with null | ⟨xor, -⟩ | ⟨aes, keyed, -⟩
  · exact absurd (congrArg SymDef.algorithm null) encrypts.set
  · exact .inl xor
  · exact .inr ⟨aes, keyed⟩

theorem encryption_key_made (aes : session.symmetric.keyBits ∈ Config.implementedAesKeyBits) (material : Bytes) :
    ∃ key iv, parameterEncryptionKey session.authHash material [] newer older session.symmetric.keyBits Sym.aesBlockSize =
      .ok (key, iv) ∧ key.length ∈ ([16, 24, 32] : List Nat) ∧ iv.length = Sym.aesBlockSize := by
  obtain ⟨size, sized⟩ := encrypts.authHash
  have octets : ∃ octets ∈ ([16, 24, 32] : List Nat), session.symmetric.keyBits.toNat = octets * 8 := by
    simp only [Config.implementedAesKeyBits, List.mem_cons, List.not_mem_nil, or_false] at aes
    rcases aes with same | same | same
    · exact ⟨16, by decide, by rw [same]; rfl⟩
    · exact ⟨24, by decide, by rw [same]; rfl⟩
    · exact ⟨32, by decide, by rw [same]; rfl⟩
  obtain ⟨octets, member, bits⟩ := octets
  have small : octets + Sym.aesBlockSize ≤ maxKdfBytes := by
    simp only [List.mem_cons, List.not_mem_nil, or_false] at member
    unfold Sym.aesBlockSize maxKdfBytes
    omega
  obtain ⟨out, made, length⟩ := kdfa_made session.authHash size sized (material ++ trimAuth []) (ascii "CFB") newer older
    (octets + Sym.aesBlockSize) small
  -- The key and the vector are cut out of one derivation.
  refine ⟨out.take octets, out.drop octets, ?_, ?_, ?_⟩
  · unfold parameterEncryptionKey
    rw [bits, ← Nat.add_mul]
    dsimp only
    rw [made]
    simp only [Bind.bind, Except.bind, pure, Except.pure, Nat.mul_div_cancel octets (show 0 < 8 by decide)]
  · rw [List.length_take, length, Nat.min_eq_left (Nat.le_add_right _ _)]
    exact member
  · rw [List.length_drop, length, Nat.add_sub_cancel_left]

theorem transform_inverts (inverts : CfbInverts) (covers : session.Covers body.length) :
    ∃ out, session.transform newer older authValue body true = .ok out ∧ out.length = body.length ∧
      session.transform newer older authValue out false = .ok body := by
  unfold transform
  rcases session.mask_or_cipher encrypts with xor | ⟨aes, keyed⟩
  · obtain ⟨supported, fits⟩ := covers xor
    obtain ⟨size, sized⟩ := digest_size_supported _ supported
    obtain ⟨mask, made, length⟩ := kdfa_made session.symmetric.keyBits size sized (session.sessionValue authValue)
      (ascii "XOR") newer older body.length fits
    -- Both sides derive the mask from the same nonces, in the same order.
    obtain ⟨twice, same⟩ := Sym.xor_with_twice mask body length
    refine ⟨Sym.xorWith mask body, ?_, same, ?_⟩
    · rw [if_pos xor]
      unfold Sym.xorObfuscate
      rw [made]
      rfl
    · rw [if_pos xor]
      unfold Sym.xorObfuscate
      rw [same, made]
      exact congrArg Except.ok twice
  · have other : session.symmetric.algorithm ≠ Alg.xor := by
      rw [aes]
      decide
    obtain ⟨key, iv, made, sized, vector⟩ := encryption_key_made session newer older encrypts keyed
      (session.sessionValue authValue)
    obtain ⟨out, encrypted, length, decrypted⟩ := Sym.cfb_inverts inverts key iv body sized vector
    have block : Sym.blockSize Alg.aes = .ok Sym.aesBlockSize := rfl
    refine ⟨out, ?_, length, ?_⟩
    · rw [if_neg other, if_pos aes, block]
      simp only [Bind.bind, Except.bind, made, if_true]
      exact encrypted
    · rw [if_neg other, if_pos aes, block]
      simp only [Bind.bind, Except.bind, made, Bool.false_eq_true, if_false]
      exact decrypted

-- Whatever the octets are, the key is applied to them.
theorem transform_made (encrypting : Bool) (covers : session.Covers body.length) :
    ∃ out, session.transform newer older authValue body encrypting = .ok out := by
  unfold transform
  rcases session.mask_or_cipher encrypts with xor | ⟨aes, keyed⟩
  · obtain ⟨supported, fits⟩ := covers xor
    obtain ⟨size, sized⟩ := digest_size_supported _ supported
    obtain ⟨mask, made, _⟩ := kdfa_made session.symmetric.keyBits size sized (session.sessionValue authValue)
      (ascii "XOR") newer older body.length fits
    refine ⟨Sym.xorWith mask body, ?_⟩
    rw [if_pos xor]
    unfold Sym.xorObfuscate
    rw [made]
    rfl
  · have other : session.symmetric.algorithm ≠ Alg.xor := by
      rw [aes]
      decide
    obtain ⟨key, iv, made, sized, vector⟩ := encryption_key_made session newer older encrypts keyed
      (session.sessionValue authValue)
    have block : Sym.blockSize Alg.aes = .ok Sym.aesBlockSize := rfl
    rw [if_neg other, if_pos aes, block]
    simp only [Bind.bind, Except.bind, made]
    cases encrypting
    · exact ⟨_, Sym.crypt_cfb key iv body false sized vector⟩
    · exact ⟨_, Sym.crypt_cfb key iv body true sized vector⟩

end Session

-- The commands whose first parameter is a sized buffer.
def sizedCommands : List UInt32 := [
  Cc.hierarchyChangeAuth, Cc.nvDefineSpace, Cc.nvDefineSpace2, Cc.pcrSetAuthPolicy, Cc.pcrSetAuthValue, Cc.setPrimaryPolicy,
  Cc.setCapability, Cc.createPrimary, Cc.create, Cc.createLoaded, Cc.load, Cc.loadExternal, Cc.objectChangeAuth,
  Cc.getCommandAuditDigest, Cc.getSessionAuditDigest, Cc.getTime, Cc.quote, Cc.certify, Cc.certifyX509, Cc.certifyCreation,
  Cc.nvCertify, Cc.nvExtend, Cc.nvWrite, Cc.nvChangeAuth, Cc.pcrEvent, Cc.sequenceUpdate, Cc.sequenceComplete,
  Cc.eventSequenceComplete, Cc.signSequenceComplete, Cc.hash, Cc.hmac, Cc.hmacStart, Cc.hashSequenceStart,
  Cc.signSequenceStart, Cc.verifySequenceStart, Cc.stirRandom, Cc.activateCredential, Cc.makeCredential, Cc.duplicate,
  Cc.rewrap, Cc.importObject, Cc.ecdhZGen, Cc.zGen2Phase, Cc.commit, Cc.rsaEncrypt, Cc.rsaDecrypt, Cc.eccEncrypt,
  Cc.eccDecrypt, Cc.decapsulate, Cc.encryptDecrypt2, Cc.sign, Cc.signDigest, Cc.verifySignature, Cc.verifyDigestSignature,
  Cc.startAuthSession, Cc.policySigned, Cc.policySecret, Cc.policyTicket, Cc.policyPcr, Cc.policyNv, Cc.policyCounterTimer,
  Cc.policyCpHash, Cc.policyNameHash, Cc.policyDuplicationSelect, Cc.policyAuthorize, Cc.policyTemplate,
  Cc.policyCapability, Cc.policyParameters, Cc.policyTransportSpdm, Cc.policyAcSendSelect, Cc.acSend, Cc.vendorTcgTest]

-- The commands whose response begins with a sized buffer.
def sizedResponses : List UInt32 := [
  Cc.createPrimary, Cc.create, Cc.createLoaded, Cc.load, Cc.loadExternal, Cc.readPublic, Cc.unsealData, Cc.objectChangeAuth,
  Cc.activateCredential, Cc.makeCredential, Cc.duplicate, Cc.rewrap, Cc.importObject, Cc.rsaEncrypt, Cc.rsaDecrypt,
  Cc.ecdhKeyGen, Cc.ecdhZGen, Cc.zGen2Phase, Cc.eccEncrypt, Cc.eccDecrypt, Cc.encapsulate, Cc.decapsulate, Cc.commit,
  Cc.ecEphemeral, Cc.encryptDecrypt, Cc.encryptDecrypt2, Cc.hash, Cc.hmac, Cc.sequenceComplete, Cc.getRandom,
  Cc.getTestResult, Cc.certify, Cc.certifyX509, Cc.certifyCreation, Cc.quote, Cc.getTime, Cc.getSessionAuditDigest,
  Cc.getCommandAuditDigest, Cc.nvCertify, Cc.nvRead, Cc.nvReadPublic, Cc.nvReadPublic2, Cc.startAuthSession, Cc.policySigned,
  Cc.policySecret, Cc.policyGetDigest, Cc.vendorTcgTest]

section

variable (body out rest : Bytes)

theorem sized_area_size (representable : body.length < 2 ^ 16) : beNat (be16 (UInt16.ofNat body.length)) = body.length := by
  unfold be16
  rw [UInt16.toNat_ofNat_of_lt' representable]
  exact be_nat_be_bytes_of_lt 2 _ representable

theorem first_sized_area (representable : body.length < 2 ^ 16) : firstSizedParameter (sized16 body ++ rest) = some body := by
  have two : (be16 (UInt16.ofNat body.length)).length = 2 := be16_length _
  have front : (sized16 body ++ rest).take 2 = be16 (UInt16.ofNat body.length) := by
    rw [sized16, List.append_assoc, List.take_left' two]
  have back : (sized16 body ++ rest).drop 2 = body ++ rest := by
    rw [sized16, List.append_assoc, List.drop_left' two]
  have whole : (sized16 body ++ rest).length = 2 + (body.length + rest.length) := by
    rw [sized16, List.append_assoc, List.length_append, two, List.length_append]
  unfold firstSizedParameter
  dsimp only
  rw [front, back, sized_area_size body representable, if_neg (by omega), List.take_left' rfl]

theorem splice_area (same : out.length = body.length) :
    spliceFirstParameter (sized16 body ++ rest) out = sized16 out ++ rest := by
  have two : (be16 (UInt16.ofNat body.length)).length = 2 := be16_length _
  have front : (sized16 body ++ rest).take 2 = be16 (UInt16.ofNat body.length) := by
    rw [sized16, List.append_assoc, List.take_left' two]
  have back : (sized16 body ++ rest).drop (2 + out.length) = rest := by
    rw [same]
    exact List.drop_left' (by rw [sized16, List.length_append, two])
  unfold spliceFirstParameter
  rw [front, back, sized16, same]

end

theorem first_sized_small (parameters body : Bytes) (found : firstSizedParameter parameters = some body) :
    body.length < 2 ^ 16 := by
  have size := be_nat_lt (parameters.take 2)
  have two : (parameters.take 2).length ≤ 2 := List.length_take_le _ _
  have wide : 256 ^ (parameters.take 2).length ≤ 256 ^ 2 := Nat.pow_le_pow_right (by decide) two
  unfold firstSizedParameter at found
  dsimp only at found
  split at found
  next => cases found
  next =>
    obtain rfl := Option.some.inj found
    have length := List.length_take_le (beNat (parameters.take 2)) (parameters.drop 2)
    omega

section

variable [Primitives]

-- A request in which a session that can encrypt asks for it with the attribute.
structure Asks (s : TpmState) (request : Request) (mask : UInt8) (index : Nat) (input : SessionInput) (session : Session) :
    Prop where
  position : request.position mask = some index
  given : request.sessionAt index = .ok input
  real : input.handle ≠ Rh.rsPw
  held : s.sessions.get input.handle = .ok session
  encrypts : session.Encrypts

-- What a caller encrypts is given to the command as it was, and nothing else is changed.
def Decrypts (s : TpmState) (request : Request) (input : SessionInput) (session : Session) (index : Nat)
    (authValues : List Bytes) (plain rest : Bytes) : Prop :=
  ∃ cipher, session.transform input.nonceCaller session.nonceTpm (authValues[index]?.getD []) plain true = .ok cipher ∧
    cipher.length = plain.length ∧
    TpmState.decryptParameters s { request with parameters := sized16 cipher ++ rest } authValues =
      .ok { request with parameters := sized16 plain ++ rest }

-- What a command returns is encrypted so that the caller can decrypt it, and nothing else is changed.
def EncryptsBack (s : TpmState) (request : Request) (input : SessionInput) (session : Session) (index : Nat)
    (authValues : List Bytes) (plain rest : Bytes) : Prop :=
  ∃ cipher, TpmState.encryptParameters s request (sized16 plain ++ rest) authValues = .ok (sized16 cipher ++ rest) ∧
    cipher.length = plain.length ∧
    session.transform session.nonceTpm input.nonceCaller (authValues[index]?.getD []) cipher false = .ok plain

variable (s : TpmState) (request : Request) (index : Nat) (input : SessionInput) (session : Session)
  (authValues : List Bytes)

theorem decrypt_none (asks : Asks s request SessionAttributes.decrypt index input session) (parameters : Bytes)
    (none : firstSizedParameter parameters = none) :
    TpmState.decryptParameters s { request with parameters } authValues = .error (Rc.size.withParameter 1) := by
  have position : ({ request with parameters } : Request).position SessionAttributes.decrypt = some index := asks.position
  have given : ({ request with parameters } : Request).sessionAt index = .ok input := asks.given
  have held : withSession (index + 1) (s.sessions.get input.handle) = .ok session := by
    rw [asks.held]
    rfl
  unfold TpmState.decryptParameters
  simp only [position, given, Bind.bind, Except.bind, asks.real, if_false, held, none]
  rfl

theorem decrypt_some (asks : Asks s request SessionAttributes.decrypt index input session) (parameters body : Bytes)
    (found : firstSizedParameter parameters = some body) :
    TpmState.decryptParameters s { request with parameters } authValues =
      (session.transform input.nonceCaller session.nonceTpm (authValues[index]?.getD []) body false).map fun plain =>
        { request with parameters := spliceFirstParameter parameters plain } := by
  have position : ({ request with parameters } : Request).position SessionAttributes.decrypt = some index := asks.position
  have given : ({ request with parameters } : Request).sessionAt index = .ok input := asks.given
  have held : withSession (index + 1) (s.sessions.get input.handle) = .ok session := by
    rw [asks.held]
    rfl
  unfold TpmState.decryptParameters
  simp only [position, given, Bind.bind, Except.bind, asks.real, if_false, held, found]
  rw [Session.transform_command]
  cases session.transform input.nonceCaller session.nonceTpm (authValues[index]?.getD []) body false <;> rfl

theorem encrypt_some (asks : Asks s request SessionAttributes.encrypt index input session) (parameters body : Bytes)
    (found : firstSizedParameter parameters = some body) :
    TpmState.encryptParameters s request parameters authValues =
      (session.transform session.nonceTpm input.nonceCaller (authValues[index]?.getD []) body true).map fun cipher =>
        spliceFirstParameter parameters cipher := by
  unfold TpmState.encryptParameters
  simp only [asks.position, asks.given, Bind.bind, Except.bind, asks.real, if_false, asks.held, found]
  rw [Session.transform_response]
  cases session.transform session.nonceTpm input.nonceCaller (authValues[index]?.getD []) body true <;> rfl

theorem encrypt_none (asks : Asks s request SessionAttributes.encrypt index input session) (parameters : Bytes)
    (none : firstSizedParameter parameters = none) :
    TpmState.encryptParameters s request parameters authValues = .ok parameters := by
  unfold TpmState.encryptParameters
  simp only [asks.position, asks.given, Bind.bind, Except.bind, asks.real, if_false, asks.held, none]
  rfl

theorem decrypts_iff (inverts : CfbInverts) (asks : Asks s request SessionAttributes.decrypt index input session)
    (plain rest : Bytes) (representable : plain.length < 2 ^ 16) :
    Decrypts s request input session index authValues plain rest ↔ session.Covers plain.length := by
  constructor
  · rintro ⟨cipher, made, _⟩
    by_contra uncovered
    -- A mask that cannot be derived is refused on both sides, so nothing could be sent.
    obtain ⟨e, refused⟩ := session.transform_refused input.nonceCaller session.nonceTpm (authValues[index]?.getD []) plain
      true uncovered representable
    rw [refused] at made
    cases made
  · intro covers
    obtain ⟨cipher, made, same, decrypted⟩ := session.transform_inverts input.nonceCaller session.nonceTpm
      (authValues[index]?.getD []) plain asks.encrypts inverts covers
    refine ⟨cipher, made, same, ?_⟩
    rw [decrypt_some s request index input session authValues asks _ cipher
      (first_sized_area cipher rest (same ▸ representable)), decrypted]
    refine congrArg Except.ok ?_
    dsimp only
    rw [splice_area cipher plain rest same.symm]

theorem refused_iff (asks : Asks s request SessionAttributes.decrypt index input session) (parameters : Bytes) :
    (∃ e, TpmState.decryptParameters s { request with parameters } authValues = .error e) ↔
      ∀ body, firstSizedParameter parameters = some body → ¬ session.Covers body.length := by
  cases found : firstSizedParameter parameters with
  | none =>
      refine ⟨fun _ body same => (by cases same), fun _ => ⟨Rc.size.withParameter 1, ?_⟩⟩
      exact decrypt_none s request index input session authValues asks parameters found
  | some body =>
      rw [decrypt_some s request index input session authValues asks parameters body found]
      constructor
      · rintro ⟨e, refused⟩ other same covers
        obtain rfl := Option.some.inj same
        obtain ⟨out, made⟩ := session.transform_made input.nonceCaller session.nonceTpm (authValues[index]?.getD []) body
          asks.encrypts false covers
        rw [made] at refused
        cases refused
      · intro uncovered
        obtain ⟨e, refused⟩ := session.transform_refused input.nonceCaller session.nonceTpm (authValues[index]?.getD [])
          body false (uncovered body rfl) (first_sized_small parameters body found)
        rw [refused]
        exact ⟨e, rfl⟩

theorem encrypts_back_iff (inverts : CfbInverts) (asks : Asks s request SessionAttributes.encrypt index input session)
    (plain rest : Bytes) (representable : plain.length < 2 ^ 16) :
    EncryptsBack s request input session index authValues plain rest ↔ session.Covers plain.length := by
  have ran := encrypt_some s request index input session authValues asks _ plain (first_sized_area plain rest representable)
  constructor
  · rintro ⟨cipher, made, _⟩
    by_contra uncovered
    obtain ⟨e, refused⟩ := session.transform_refused session.nonceTpm input.nonceCaller (authValues[index]?.getD []) plain
      true uncovered representable
    rw [ran, refused] at made
    cases made
  · intro covers
    obtain ⟨cipher, made, same, decrypted⟩ := session.transform_inverts session.nonceTpm input.nonceCaller
      (authValues[index]?.getD []) plain asks.encrypts inverts covers
    refine ⟨cipher, ?_, same, decrypted⟩
    rw [ran, made, ← splice_area plain cipher rest same]
    rfl

theorem left_as_is (inverts : CfbInverts) (asks : Asks s request SessionAttributes.encrypt index input session)
    (parameters : Bytes)
    (bare : ∀ body, firstSizedParameter parameters = some body → body = [] ∧ session.Covers body.length) :
    TpmState.encryptParameters s request parameters authValues = .ok parameters := by
  cases found : firstSizedParameter parameters with
  | none => exact encrypt_none s request index input session authValues asks parameters found
  | some body =>
      obtain ⟨rfl, covers⟩ := bare body found
      obtain ⟨cipher, made, same, _⟩ := session.transform_inverts session.nonceTpm input.nonceCaller
        (authValues[index]?.getD []) [] asks.encrypts inverts covers
      -- An empty buffer is encrypted to an empty one, so it is put back as it was.
      obtain rfl := List.length_eq_zero_iff.mp same
      rw [encrypt_some s request index input session authValues asks parameters [] found, made]
      refine congrArg Except.ok ?_
      unfold spliceFirstParameter
      dsimp only
      rw [List.append_nil]
      exact List.take_append_drop 2 parameters

-- Encryption of the first parameter of a command and of its response: where the parameter is a sized buffer it is undone
-- by the other side unless no mask can be derived for it; where it is not, the command is refused, and the response left
-- as it is, only if its octets do not look like one.
theorem parameter_encryption_iff (inverts : CfbInverts) :
    (Asks s request SessionAttributes.decrypt index input session →
      (request.code ∈ sizedCommands → ∀ plain rest : Bytes, plain.length < 2 ^ 16 →
        (Decrypts s request input session index authValues plain rest ↔ session.Covers plain.length)) ∧
      (request.code ∉ sizedCommands → ∀ parameters : Bytes,
        ((∃ e, TpmState.decryptParameters s { request with parameters } authValues = .error e) ↔
          ∀ body, firstSizedParameter parameters = some body → ¬ session.Covers body.length))) ∧
    (Asks s request SessionAttributes.encrypt index input session →
      (request.code ∈ sizedResponses → ∀ plain rest : Bytes, plain.length < 2 ^ 16 →
        (EncryptsBack s request input session index authValues plain rest ↔ session.Covers plain.length)) ∧
      (request.code ∉ sizedResponses → ∀ parameters : Bytes,
        (∀ body, firstSizedParameter parameters = some body → body = [] ∧ session.Covers body.length) →
          TpmState.encryptParameters s request parameters authValues = .ok parameters)) := by
  refine ⟨fun asks => ⟨fun _ plain rest representable => ?_, fun _ parameters => ?_⟩,
    fun asks => ⟨fun _ plain rest representable => ?_, fun _ parameters bare => ?_⟩⟩
  · exact decrypts_iff s request index input session authValues inverts asks plain rest representable
  · exact refused_iff s request index input session authValues asks parameters
  · exact encrypts_back_iff s request index input session authValues inverts asks plain rest representable
  · exact left_as_is s request index input session authValues inverts asks parameters bare

end

namespace Toy

-- An HMAC session with the given symmetric algorithm, and a command whose only session asks for encryption with it.
def startWith (symmetric : Bytes) : Bytes :=
  plainCommand Cc.startAuthSession [Rh.null, Rh.null]
    (sized16 (List.replicate 16 1) ++ sized16 [] ++ [Se.hmac] ++ symmetric ++ be16 Alg.sha256)

def encryptingHandle : UInt32 := Hc.hmacSessionFirst

def encryptingInput : SessionInput := ⟨encryptingHandle, [], ⟨SessionAttributes.decrypt ||| SessionAttributes.encrypt⟩, []⟩

def encryptingRequest (code : UInt32) (parameters : Bytes) : Request where
  info := (Table.lookup code).getD ⟨code, 0, 0, false, false, false, false⟩
  tag := St.sessions
  code := code
  handles := [Rh.owner]
  sessions := [encryptingInput]
  parameters := parameters
  locality := 0

def encryptingWith (symmetric : Bytes) : TpmState := afterCommands [startWith symmetric] booted

def byCipher : Bytes := be16 Alg.aes ++ be16 128 ++ be16 Alg.cfb

def byMask : Bytes := be16 Alg.xor ++ be16 Alg.sha256

theorem cipher_session : found ((encryptingWith byCipher).sessions.get encryptingHandle) (fun session =>
    decide (session.symmetric = ⟨Alg.aes, 128, Alg.cfb⟩ ∧ session.authHash = Alg.sha256)) = true := by
  decide +kernel

theorem asks_encrypting (s : TpmState) (session : Session) (mask : UInt8) (code : UInt32) (parameters : Bytes)
    (held : s.sessions.get encryptingHandle = .ok session) (encrypts : session.Encrypts)
    (wanted : encryptingInput.attributes.has mask = true) :
    Asks s (encryptingRequest code parameters) mask 0 encryptingInput session where
  position := by
    unfold Request.position encryptingRequest
    rw [List.findIdx?_cons, if_pos wanted]
  given := rfl
  real := by decide
  held := held
  encrypts := encrypts

-- TPM2_Hash is given what its caller encrypted.
theorem hash_decrypts : ∃ session, Decrypts (encryptingWith byCipher) (encryptingRequest Cc.hash []) encryptingInput session 0
    [] [1, 2, 3] [] := by
  obtain ⟨session, held, tested⟩ := ok_of_found _ _ cipher_session
  obtain ⟨aes, hashed⟩ := of_decide_eq_true tested
  have encrypts : session.Encrypts := by
    refine ⟨⟨32, by rw [hashed]; rfl⟩, ?_, ?_⟩
    · rw [aes]
      exact .inr (.inr ⟨rfl, by decide, rfl⟩)
    · rw [aes]
      decide
  have asks := asks_encrypting _ session SessionAttributes.decrypt Cc.hash [] held encrypts (by decide)
  refine ⟨session, ((parameter_encryption_iff (encryptingWith byCipher) (encryptingRequest Cc.hash []) 0 encryptingInput
    session [] (fun _ _ _ => rfl)).1 asks).1 (by decide) [1, 2, 3] [] (by decide) |>.mpr fun xor => ?_⟩
  rw [aes] at xor
  exact absurd xor (by decide)

-- A time whose first octets are the number of the others.
def newTime : Bytes := be64 0x0006000000000001

def maskChanges : Bool :=
  found ((encryptingWith byMask).sessions.get encryptingHandle) fun session =>
    decide (session.symmetric = ⟨Alg.xor, Alg.sha256, Alg.null⟩ ∧ session.authHash = Alg.sha256) &&
      found (TpmState.decryptParameters (encryptingWith byMask) (encryptingRequest Cc.clockSet newTime) [])
        fun decrypted => decrypted.parameters != newTime

-- TPM2_ClockSet has no sized buffer, and is given another time than its caller sent.
theorem clock_set_decrypted : ∃ s request index input session authValues decrypted,
    Asks s request SessionAttributes.decrypt index input session ∧ request.code ∉ sizedCommands ∧
      TpmState.decryptParameters s request authValues = .ok decrypted ∧ decrypted.parameters ≠ request.parameters := by
  have changes : maskChanges = true := by
    unfold maskChanges encryptingWith
    rw [booted_made]
    decide +kernel
  obtain ⟨session, held, tested⟩ := ok_of_found _ _ changes
  obtain ⟨started, ran⟩ := Bool.and_eq_true_iff.mp tested
  obtain ⟨xor, hashed⟩ := of_decide_eq_true started
  obtain ⟨decrypted, ran, changed⟩ := ok_of_found _ _ ran
  have encrypts : session.Encrypts := by
    refine ⟨⟨32, by rw [hashed]; rfl⟩, ?_, ?_⟩
    · rw [xor]
      exact .inr (.inl ⟨rfl, rfl, rfl⟩)
    · rw [xor]
      decide
  refine ⟨_, _, 0, encryptingInput, session, [], decrypted,
    asks_encrypting _ session SessionAttributes.decrypt Cc.clockSet newTime held encrypts (by decide), by decide, ran, ?_⟩
  exact bne_iff_ne.mp changed

end Toy

end Swtrust
