import Swtrust.Commands.Cipher
import Swtrust.Commands.Ecc
import Swtrust.Exchange.Seed
import Swtrust.Structures.Canonical
import Swtrust.Toy

set_option autoImplicit false

namespace Swtrust

open Library

section

-- What the receiver of a credential reads, octet for octet what its maker wrote.
theorem credential_read (blob : Tpm2bIdObject) (secret : Tpm2bEncryptedSecret) : Decodes (do
    let blob : Tpm2bIdObject ← Reader.withParameter 1 Tpm2b.unmarshal
    let secret : Tpm2bEncryptedSecret ← Reader.withParameter 2 Tpm2b.unmarshal
    return (blob.buffer, secret.buffer)) (blob.marshal ++ secret.marshal) (blob.buffer, secret.buffer) :=
  decodes_bind _ _ _ _ _ _ (decodes_parameter (by decide) 1 blob)
    (decodes_bind_pure _ _ _ _ (decodes_parameter (by decide) 2 secret))

-- What the receiver of a message reads: what its sender returned, and the scheme that the sender was given.
theorem message_read [Profile] (c1 : EccPoint) (c2 : Tpm2bMaxBuffer) (c3 : Tpm2bDigest) (scheme : Bytes) (inScheme : Scheme)
    (chosen : Scheme.unmarshalKdf.run scheme = .ok (inScheme, [])) : StateT.run (do
      let c1 ← EccPoint.unmarshalSized.withParameter 1
      let c2 : Tpm2bMaxBuffer ← Reader.withParameter 2 Tpm2b.unmarshal
      let c3 : Tpm2bDigest ← Reader.withParameter 3 Tpm2b.unmarshal
      return (c1, c2.buffer, c3.buffer, ← Scheme.unmarshalKdf.withParameter 4))
        (c1.marshalSized ++ c2.marshal ++ c3.marshal ++ scheme) = .ok ((c1, c2.buffer, c3.buffer, inScheme), []) := by
  have point := decodes_with_parameter 1 _ _ _ (EccPoint.decodes_unmarshal_sized c1)
  rw [List.append_assoc, List.append_assoc]
  rw [run_bind_decodes _ _ _ _ c1 point]
  rw [run_bind_decodes _ _ _ _ c2 (decodes_parameter (by decide) 2 c2)]
  rw [run_bind_decodes _ _ _ _ c3 (decodes_parameter (by decide) 3 c3)]
  exact (reader_bind_is_ok _ _ _ _ _).mpr ⟨inScheme, [], (with_parameter_is_ok 4 _ _ _).mpr chosen, rfl⟩

theorem new_of_fits {max : Nat} (value : Tpm2b max) : (Tpm2b.new value.buffer : TpmResult (Tpm2b max)) = .ok value := by
  rw [Tpm2b.new, dif_pos value.fits]

end

section

variable [Primitives]

-- A key is loaded at a handle of a request.
def LoadedAt (s : TpmState) (request : Request) (index : Nat) (object : Object) : Prop :=
  ∃ handle, request.handle index = .ok handle ∧ s.objectAt handle (index + 1) = .ok object

-- The public half of the key is at the one side, both halves are at the other.
structure Halves (area : Object) (key : Object) (sensitive : TpmtSensitive) : Prop where
  same : key.area = area.area
  held : key.sensitive = some sensitive
  pair : Protect.KeyPair area.area sensitive

variable (s s' : TpmState) (request request' : Request) (area key : Object) (sensitive : TpmtSensitive)

theorem credential_activated (inverts : CfbInverts) (agrees : Ecc.Agrees) (halves : Halves area key sensitive)
    (activated : Object) (sender : LoadedAt s request 0 area) (receiver : LoadedAt s' request' 1 key)
    (named : LoadedAt s' request' 0 activated) (credential : Tpm2bDigest) (name : Tpm2bName)
    (same : name.buffer = activated.name)
    (parameters : request.parameters = credential.marshal ++ name.marshal) (rng rng' : Drbg) (response : Response)
    (made : Action.Succeeds (makeCredential s request) rng response rng') (sent : request'.parameters = response.parameters) :
    activateCredential s' request' = .ok (.of credential.marshal) := by
  obtain ⟨handle, handled, object⟩ := sender
  obtain ⟨handle', handled', object'⟩ := receiver
  obtain ⟨other, otherHandled, otherObject⟩ := named
  have read := params_of_decodes request (do
    let credential : Tpm2bDigest ← Reader.withParameter 1 Tpm2b.unmarshal
    let name : Tpm2bName ← Reader.withParameter 2 Tpm2b.unmarshal
    return (credential.buffer, name.buffer)) (credential.buffer, name.buffer) (by
      rw [parameters]
      exact decodes_bind _ _ _ _ _ _ (decodes_parameter (by decide) 1 credential)
        (decodes_bind_pure _ _ _ _ (decodes_parameter (by decide) 2 name)))
  unfold makeCredential at made
  rw [handled, read] at made
  simp only [Action.succeeds_bind, Action.succeeds_lift, Action.succeeds_guard, Except.ok.injEq] at made
  obtain ⟨_, _, ⟨rfl, rfl⟩, _, _, ⟨rfl, rfl⟩, _, found, _, ⟨same', rfl⟩, stores, made⟩ := made
  rw [object] at same'
  obtain rfl := Except.ok.inj same'
  cases wrapping : area.area.parameters.symmetric with
  | none =>
      rw [wrapping] at made
      exact absurd made (Action.succeeds_throw _ _ _ _)
  | some symmetric =>
      rw [wrapping] at made
      simp only [Action.succeeds_bind, Action.succeeds_lift, Action.succeeds_with_err, Action.succeeds_pure] at made
      obtain ⟨⟨seed, secret⟩, drawn, seeded, blob, _, ⟨wrapped, rfl⟩, sizedBlob, _, ⟨madeBlob, rfl⟩, sizedSecret, _,
        ⟨madeSecret, rfl⟩, rfl, rfl⟩ := made
      -- The receiver reads the seed that the blob was wrapped under.
      have opened := Protect.seed_received agrees area.area sensitive halves.pair identityLabel seed secret rng _ seeded
      have short : credential.buffer.length < 65536 := Nat.lt_of_le_of_lt credential.fits (by decide)
      have unwrapped : Protect.unwrapCredential area.area.nameAlg seed symmetric name.buffer blob = .ok credential.buffer :=
        Protect.unwrap_wrapped inverts _ seed symmetric _ _ blob short wrapped
      have written : request'.parameters = sizedBlob.marshal ++ sizedSecret.marshal := sent
      have received := params_of_decodes request' _ _ (written ▸ credential_read sizedBlob sizedSecret)
      -- What is asked of the sender's object is, with the private half, what is asked of the receiver's key.
      have storage : key.isStorageKey = true := by
        have parent : area.isStoragePublic = true := by simpa using stores
        unfold Object.isStorageKey Object.isPublicOnly
        unfold Object.isStoragePublic at parent ⊢
        rw [halves.same, halves.held, parent]
        rfl
      unfold activateCredential
      rw [otherHandled, handled', received]
      simp only [bind, Except.bind]
      rw [object']
      simp only [storage, Bool.not_true, Bool.false_eq_true, if_false, halves.held, halves.same, wrapping]
      rw [Tpm2b.new_buffer _ _ madeSecret, Tpm2b.new_buffer _ _ madeBlob, opened]
      simp only [Except.mapError]
      rw [otherObject]
      dsimp only
      rw [← same, unwrapped]
      dsimp only
      rw [new_of_fits]
      rfl

theorem message_decrypted (inverts : CfbInverts) (agrees : Ecc.Agrees) (halves : Halves area key sensitive)
    (sender : LoadedAt s request 0 area) (receiver : LoadedAt s' request' 0 key) (plain : Tpm2bMaxBuffer) (scheme : Bytes)
    (parameters : request.parameters = plain.marshal ++ scheme) (rng rng' : Drbg) (response : Response)
    (made : Action.Succeeds (eccEncrypt s request) rng response rng')
    (sent : request'.parameters = response.parameters ++ scheme) :
    eccDecrypt s' request' = .ok (.of plain.marshal) := by
  obtain ⟨handle, handled, object⟩ := sender
  obtain ⟨handle', handled', object'⟩ := receiver
  unfold eccEncrypt at made
  rw [handled] at made
  simp only [Action.succeeds_bind, Action.succeeds_lift, Action.succeeds_guard, Except.ok.injEq, params_is_ok,
    parameters] at made
  obtain ⟨_, _, ⟨rfl, rfl⟩, ⟨octets, inScheme⟩, _, ⟨read, rfl⟩, _, _, ⟨same, rfl⟩, typed, decrypts, made⟩ := made
  rw [object] at same
  obtain rfl := Except.ok.inj same
  -- The scheme is what the sender read after the message.
  rw [run_bind_decodes _ _ _ scheme plain (decodes_parameter (by decide) 1 plain)] at read
  obtain ⟨chosen, rest, schemed, read⟩ := (reader_bind_is_ok _ _ _ _ _).mp read
  cases read
  have schemeRead := (with_parameter_is_ok 2 _ _ _).mp schemed
  cases parms : area.area.parameters with
  | ecc symmetric signing curveId kdf =>
      cases unique : area.area.unique with
      | ecc point =>
          rw [parms, unique] at made
          simp only [Action.succeeds_bind, Action.succeeds_lift, Action.succeeds_pure] at made
          obtain ⟨ephemeral, drawn, generated, ⟨z, z'⟩, _, ⟨agreed, rfl⟩, ⟨symKey, iv⟩, _, ⟨derived, rfl⟩, cipher, _,
            ⟨encrypted, rfl⟩, digest, _, ⟨hashed, rfl⟩, c1, _, ⟨pointed, rfl⟩, c2, _, ⟨madeC2, rfl⟩, c3, _, ⟨madeC3, rfl⟩,
            rfl, rfl⟩ := made
          -- Both sides come to the same point, and pad what goes into the key derivation to the same octets.
          have paired := (Ecc.generate_paired Drbg.bytes curveId ephemeral _ _ generated).1
          have theirs := Ecc.ecdh_agrees agrees curveId _ _ _ _ _ _
            (halves.pair.ecc point symmetric signing curveId kdf unique parms) paired (z, z') agreed
          obtain ⟨bits, known⟩ := Ecc.ecdh_curve curveId _ _ _ _ theirs
          obtain ⟨sameX, sameY⟩ := EccPoint.of_octets_made _ _ c1 pointed
          have sameC2 := Tpm2b.new_buffer cipher c2 madeC2
          have sameC3 := Tpm2b.new_buffer digest c3 madeC3
          obtain ⟨-, undone⟩ := Sym.cfb_undone inverts symKey iv plain.buffer cipher encrypted
          have written : request'.parameters = c1.marshalSized ++ c2.marshal ++ c3.marshal ++ scheme := sent
          have received := (params_is_ok request' _ _).mpr (written ▸ message_read c1 c2 c3 scheme inScheme schemeRead)
          unfold eccDecrypt
          rw [handled', received]
          simp only [bind, Except.bind]
          rw [object']
          have decrypts' : key.has ObjectAttributes.decrypt = area.has ObjectAttributes.decrypt := by
            unfold Object.has
            rw [halves.same]
          simp only [halves.same, halves.held, if_neg typed, decrypts', if_neg decrypts, parms, unique, known, withParameter]
          rw [sameX, sameY, theirs]
          simp only [Except.mapError]
          rw [derived]
          dsimp only
          rw [sameC2, hashed]
          dsimp only
          rw [sameC3, if_neg (fun different => different rfl), undone]
          dsimp only
          rw [new_of_fits]
          rfl
      | _ =>
          rw [parms, unique] at made
          exact absurd made (Action.succeeds_throw _ _ _ _)
  | _ =>
      rw [parms] at made
      exact absurd made (Action.succeeds_throw _ _ _ _)

-- The shared secret is returned beside a ciphertext, and decapsulating that ciphertext returns it again.
theorem secret_decapsulated (agrees : Ecc.Agrees) (halves : Halves area key sensitive)
    (sender : LoadedAt s request 0 area) (rng rng' : Drbg) (response : Response)
    (made : Action.Succeeds (encapsulate s request) rng response rng') :
    ∃ (secret : Tpm2bSharedSecret) (ciphertext : Bytes), response.parameters = secret.marshal ++ sized16 ciphertext ∧
      ∀ s' request', LoadedAt s' request' 0 key → key.has ObjectAttributes.restricted = false →
        key.has ObjectAttributes.decrypt = true → request'.parameters = sized16 ciphertext →
          decapsulate s' request' = .ok (.of secret.marshal) := by
  obtain ⟨handle, handled, object⟩ := sender
  unfold encapsulate at made
  rw [handled] at made
  simp only [Action.succeeds_bind, Action.succeeds_lift, Action.succeeds_guard, Except.ok.injEq] at made
  obtain ⟨_, _, ⟨rfl, rfl⟩, _, _, ⟨same, rfl⟩, typed, made⟩ := made
  rw [object] at same
  obtain rfl := Except.ok.inj same
  cases parms : area.area.parameters with
  | ecc symmetric signing curveId kdf =>
      cases unique : area.area.unique with
      | ecc point =>
          rw [parms, unique] at made
          simp only [Action.succeeds_bind, Action.succeeds_lift, Action.succeeds_pure, Action.succeeds_guard] at made
          obtain ⟨suited, ephemeral, drawn, generated, ⟨dh, dh'⟩, _, ⟨agreed, rfl⟩, ciphertext, _, ⟨serialized, rfl⟩, secret, _,
            ⟨derived, rfl⟩, rfl, rfl⟩ := made
          obtain ⟨paired, size, sized, sizeX, sizeY⟩ := Ecc.generate_paired Drbg.bytes curveId ephemeral _ _ generated
          have theirs := Ecc.ecdh_agrees agrees curveId _ _ _ _ _ _
            (halves.pair.ecc point symmetric signing curveId kdf unique parms) paired (dh, dh') agreed
          -- The ephemeral point was padded to the size of the field, so both coordinates are read back whole.
          obtain ⟨opened, length⟩ := Dhkem.deserialize_serialized curveId size _ _ ciphertext sized sizeX sizeY serialized
          have small := Ecc.coordinate_size_small curveId size sized
          refine ⟨secret, ciphertext, rfl, fun s' request' receiver free decrypts sent => ?_⟩
          obtain ⟨handle', handled', object'⟩ := receiver
          have admitted : ¬ (key.has ObjectAttributes.restricted = true ∨ (!key.has ObjectAttributes.decrypt) = true) := by
            simp [free, decrypts]
          have received : request'.params (Reader.withParameter 1 readSized) = .ok ciphertext := by
            refine params_of_decodes _ _ _ ?_
            rw [sent]
            exact decodes_with_parameter _ _ _ _ (decodes_read_sized ciphertext (by omega))
          unfold decapsulate
          rw [handled', received]
          simp only [bind, Except.bind]
          rw [object']
          simp only [if_neg admitted, halves.same, halves.held, if_neg typed,
            parms, unique, if_neg suited, withParameter, opened,
            Except.mapError, theirs, derived]
          rfl
      | _ =>
          rw [parms, unique] at made
          exact absurd made (Action.succeeds_throw _ _ _ _)
  | _ =>
      rw [parms] at made
      exact absurd made (Action.succeeds_throw _ _ _ _)

theorem credential_given (rng rng' : Drbg) (response : Response)
    (made : Action.Succeeds (makeCredential s request) rng response rng') :
    ∃ (credential : Tpm2bDigest) (name : Tpm2bName), request.parameters = credential.marshal ++ name.marshal := by
  unfold makeCredential at made
  simp only [Action.succeeds_bind, Action.succeeds_lift, params_is_ok] at made
  obtain ⟨_, _, _, _, _, ⟨read, _⟩, _⟩ := made
  obtain ⟨credential, middle, first, read⟩ := (reader_bind_is_ok _ _ _ _ _).mp read
  obtain ⟨name, rest, second, read⟩ := (reader_bind_is_ok _ _ _ _ _).mp read
  cases read
  have front : request.parameters = credential.marshal ++ middle :=
    canonical_tpm2b _ _ _ ((with_parameter_is_ok 1 _ _ _).mp first)
  have back : middle = name.marshal ++ [] := canonical_tpm2b _ _ _ ((with_parameter_is_ok 2 _ _ _).mp second)
  exact ⟨credential, name, by rw [front, back, List.append_nil]⟩

theorem message_given (rng rng' : Drbg) (response : Response)
    (made : Action.Succeeds (eccEncrypt s request) rng response rng') :
    ∃ (plain : Tpm2bMaxBuffer) (scheme : Bytes), request.parameters = plain.marshal ++ scheme := by
  unfold eccEncrypt at made
  simp only [Action.succeeds_bind, Action.succeeds_lift, params_is_ok] at made
  obtain ⟨_, _, _, _, _, ⟨read, _⟩, _⟩ := made
  obtain ⟨plain, scheme, first, _⟩ := (reader_bind_is_ok _ _ _ _ _).mp read
  exact ⟨plain, scheme, canonical_tpm2b _ _ _ ((with_parameter_is_ok 1 _ _ _).mp first)⟩

-- Whatever the public half of a key was given, its private half gives back: the credential, the message and the shared
-- secret.
theorem public_key_protocols_undone (inverts : CfbInverts) (agrees : Ecc.Agrees) (halves : Halves area key sensitive)
    (sender : LoadedAt s request 0 area) (rng rng' : Drbg) (response : Response) :
    (Action.Succeeds (makeCredential s request) rng response rng' →
      ∃ (credential : Tpm2bDigest) (name : Tpm2bName), request.parameters = credential.marshal ++ name.marshal ∧
        ∀ s' request' activated, LoadedAt s' request' 1 key → LoadedAt s' request' 0 activated →
          name.buffer = activated.name → request'.parameters = response.parameters →
            activateCredential s' request' = .ok (.of credential.marshal)) ∧
    (Action.Succeeds (eccEncrypt s request) rng response rng' →
      ∃ (plain : Tpm2bMaxBuffer) (scheme : Bytes), request.parameters = plain.marshal ++ scheme ∧
        ∀ s' request', LoadedAt s' request' 0 key → request'.parameters = response.parameters ++ scheme →
          eccDecrypt s' request' = .ok (.of plain.marshal)) ∧
    (Action.Succeeds (encapsulate s request) rng response rng' →
      ∃ (secret : Tpm2bSharedSecret) (ciphertext : Bytes), response.parameters = secret.marshal ++ sized16 ciphertext ∧
        ∀ s' request', LoadedAt s' request' 0 key → key.has ObjectAttributes.restricted = false →
          key.has ObjectAttributes.decrypt = true → request'.parameters = sized16 ciphertext →
            decapsulate s' request' = .ok (.of secret.marshal)) := by
  refine ⟨fun made => ?_, fun made => ?_, fun made => ?_⟩
  · obtain ⟨credential, name, parameters⟩ := credential_given s request rng rng' response made
    refine ⟨credential, name, parameters, fun s' request' activated receiver named same sent => ?_⟩
    exact credential_activated s s' request request' area key sensitive inverts agrees halves activated sender receiver named
      credential name same parameters rng rng' response made sent
  · obtain ⟨plain, scheme, parameters⟩ := message_given s request rng rng' response made
    refine ⟨plain, scheme, parameters, fun s' request' receiver sent => ?_⟩
    exact message_decrypted s s' request request' area key sensitive inverts agrees halves sender receiver plain scheme
      parameters rng rng' response made sent
  · exact secret_decapsulated s request area key sensitive agrees halves sender rng rng' response made

end

namespace Cyclic

-- A group that is small enough to evaluate: the multiples of one number modulo another.
def order : Nat := 2 ^ 256 - 1

def multiple (value : Nat) : Point := if value % order = 0 then none else some (value % order, 0)

def multiply : Point → Nat → Point
  | none, _ => none
  | some (x, _), scalar => multiple (x * scalar)

open scoped Toy in
abbrev plainPrimitives : Primitives := inferInstance

scoped instance : Primitives :=
  { plainPrimitives with
    eccOrder := fun _ => order
    eccGenerator := fun _ => (1, 0)
    eccIsOnCurve := fun _ _ _ => true
    eccMultiply := fun _ => multiply }

theorem multiply_multiple (value scalar : Nat) : multiply (multiple value) scalar = multiple (value * scalar) := by
  have product : value % order * scalar % order = value * scalar % order := by
    rw [Nat.mul_mod, Nat.mod_mod, ← Nat.mul_mod]
  by_cases zero : value % order = 0
  · have gone : value * scalar % order = 0 := by
      rw [← product, zero, Nat.zero_mul, Nat.zero_mod]
    rw [multiple, if_pos zero, multiple, if_pos gone, multiply]
  · rw [multiple, if_neg zero, multiply, multiple, product]
    rfl

theorem generator_multiple (curveId : UInt16) (scalar : Nat) : Ecc.multiplyGenerator curveId scalar = multiple scalar := by
  show multiple (1 * scalar) = multiple scalar
  rw [Nat.one_mul]

theorem agrees : Ecc.Agrees where
  symmetric curveId a b := by
    rw [generator_multiple, generator_multiple]
    show multiply (multiple a) b = multiply (multiple b) a
    rw [multiply_multiple, multiply_multiple, Nat.mul_comm]
  onCurve _ _ _ _ _ := rfl

def point : EccPoint := ⟨⟨beBytes 32 5, by decide⟩, ⟨beBytes 32 0, by decide⟩⟩

def secretKey : TpmtSensitive := ⟨Alg.ecc, Tpm2b.empty, Tpm2b.empty, .ecc ⟨[5], by decide⟩⟩

def keyArea (attributes : UInt32) (symmetric : SymDef) (kdf : Scheme) : TpmtPublic where
  objectType := Alg.ecc
  nameAlg := Alg.sha256
  objectAttributes := ⟨attributes⟩
  authPolicy := Tpm2b.empty
  parameters := .ecc symmetric Scheme.null Curve.nistP256 kdf
  unique := .ecc point

-- A key for messages and secrets, and one for storage.
def messageArea : TpmtPublic := keyArea ObjectAttributes.decrypt SymDef.null ⟨Alg.hkdf, .hash Alg.sha256⟩

def storageArea : TpmtPublic :=
  keyArea (ObjectAttributes.restricted ||| ObjectAttributes.decrypt) ⟨Alg.aes, 128, Alg.cfb⟩ Scheme.null

def loaded (area : TpmtPublic) (sensitive : Option TpmtSensitive) : Object := ⟨area, sensitive, [], [], Rh.owner, false, false⟩

-- The object that a credential is for.
def certified : Object :=
  { loaded messageArea none with name := be16 Alg.sha256 ++ List.replicate 32 3 }

def certifiedHandle : UInt32 := Hc.transientFirst + 1

def holding (key : Object) : TpmState :=
  { Toy.blank with
    objects := ((SortedMap.empty : ObjectSlots).insert Hc.transientFirst (.object key)).insert
        certifiedHandle (.object certified) }

def requestWith (code : UInt32) (handles : List UInt32) (parameters : Bytes) : Request where
  info := ⟨code, 0, 0, false, false, false, false⟩
  tag := St.noSessions
  code := code
  handles := handles
  sessions := []
  parameters := parameters
  locality := 0

def keyRequest (code : UInt32) (parameters : Bytes) : Request := requestWith code [Hc.transientFirst] parameters

def message : Tpm2bMaxBuffer := ⟨[1, 2, 3], by decide⟩

def credential : Tpm2bDigest := ⟨[4, 5, 6, 7], by decide⟩

def certifiedName : Tpm2bName := ⟨certified.name, by decide⟩

def generator : Drbg := ⟨List.replicate 32 0, List.replicate 32 1, 1⟩

theorem paired : Ecc.Paired Curve.nistP256 (beNat secretKey.sensitive.asSlice) point.x.buffer point.y.buffer := by
  unfold Ecc.Paired
  rw [generator_multiple]
  decide +kernel

theorem halves (attributes : UInt32) (symmetric : SymDef) (kdf : Scheme) :
    Halves (loaded (keyArea attributes symmetric kdf) none) (loaded (keyArea attributes symmetric kdf) (some secretKey))
      secretKey where
  same := rfl
  held := rfl
  pair := {
    rsa := fun _ _ _ _ _ unique _ => (by cases unique)
    ecc := fun _ _ _ _ _ unique parameters => by
      cases unique
      cases parameters
      exact paired }

theorem loaded_at (key : Object) (code : UInt32) (parameters : Bytes) :
    LoadedAt (holding key) (keyRequest code parameters) 0 key :=
  ⟨Hc.transientFirst, rfl, rfl⟩

def makesCredential : Request := keyRequest Cc.makeCredential (credential.marshal ++ certifiedName.marshal)

def encryptsMessage : Request := keyRequest Cc.eccEncrypt (message.marshal ++ be16 Alg.null)

def sharesSecret : Request := keyRequest Cc.encapsulate []

theorem requests_succeed :
    (Action.endsWith (makeCredential (holding (loaded storageArea none)) makesCredential) generator (fun _ _ => true) &&
      Action.endsWith (eccEncrypt (holding (loaded messageArea none)) encryptsMessage) generator (fun _ _ => true) &&
      Action.endsWith (encapsulate (holding (loaded messageArea none)) sharesSecret) generator (fun _ _ => true)) = true := by
  decide +kernel

-- A credential, a message and a secret that the public halves were given come back from the private ones.
theorem protocols_return :
    (∃ response rng', Action.Succeeds (makeCredential (holding (loaded storageArea none)) makesCredential) generator response
        rng' ∧
      activateCredential (holding (loaded storageArea (some secretKey)))
        (requestWith Cc.activateCredential [certifiedHandle, Hc.transientFirst] response.parameters) =
          .ok (.of credential.marshal)) ∧
    (∃ response rng', Action.Succeeds (eccEncrypt (holding (loaded messageArea none)) encryptsMessage) generator response
        rng' ∧
      eccDecrypt (holding (loaded messageArea (some secretKey)))
        (keyRequest Cc.eccDecrypt (response.parameters ++ be16 Alg.null)) = .ok (.of message.marshal)) ∧
    ∃ response rng' secret ciphertext,
      Action.Succeeds (encapsulate (holding (loaded messageArea none)) sharesSecret) generator response rng' ∧
      response.parameters = Tpm2b.marshal (secret : Tpm2bSharedSecret) ++ sized16 ciphertext ∧
      decapsulate (holding (loaded messageArea (some secretKey))) (keyRequest Cc.decapsulate (sized16 ciphertext)) =
        .ok (.of secret.marshal) := by
  have succeed := requests_succeed
  rw [Bool.and_eq_true, Bool.and_eq_true] at succeed
  obtain ⟨⟨wraps, encrypts⟩, shares⟩ := succeed
  refine ⟨?_, ?_, ?_⟩
  · obtain ⟨response, rng', ran, -⟩ := Action.succeeds_of_ends_with _ _ _ wraps
    obtain ⟨given, name, parameters, activated⟩ := (public_key_protocols_undone (holding (loaded storageArea none))
      makesCredential (loaded storageArea none) (loaded storageArea (some secretKey)) secretKey (fun _ _ _ => rfl) agrees
      (halves _ _ _) (loaded_at _ _ _) generator rng' response).1 ran
    obtain ⟨rfl, rest⟩ := decodes_delimits _ _ _ _ _ _ _ (Tpm2b.decodes_unmarshal (by decide) credential)
      (Tpm2b.decodes_unmarshal (by decide) given) parameters
    obtain ⟨rfl, -⟩ := decodes_delimits _ _ _ [] [] _ _ (Tpm2b.decodes_unmarshal (by decide) certifiedName)
      (Tpm2b.decodes_unmarshal (by decide) name) (by rw [rest])
    exact ⟨response, rng', ran, activated _ _ certified ⟨Hc.transientFirst, rfl, rfl⟩ ⟨certifiedHandle, rfl, rfl⟩ rfl rfl⟩
  · obtain ⟨response, rng', ran, -⟩ := Action.succeeds_of_ends_with _ _ _ encrypts
    obtain ⟨plain, scheme, parameters, decrypted⟩ := (public_key_protocols_undone (holding (loaded messageArea none))
      encryptsMessage (loaded messageArea none) (loaded messageArea (some secretKey)) secretKey (fun _ _ _ => rfl) agrees
      (halves _ _ _) (loaded_at _ _ _) generator rng' response).2.1 ran
    obtain ⟨rfl, rfl⟩ := decodes_delimits _ _ _ _ _ _ _ (Tpm2b.decodes_unmarshal (by decide) message)
      (Tpm2b.decodes_unmarshal (by decide) plain) parameters
    exact ⟨response, rng', ran, decrypted _ _ (loaded_at _ _ _) rfl⟩
  · obtain ⟨response, rng', ran, -⟩ := Action.succeeds_of_ends_with _ _ _ shares
    obtain ⟨secret, ciphertext, parameters, decapsulated⟩ := (public_key_protocols_undone (holding (loaded messageArea none))
      sharesSecret (loaded messageArea none) (loaded messageArea (some secretKey)) secretKey (fun _ _ _ => rfl) agrees
      (halves _ _ _) (loaded_at _ _ _) generator rng' response).2.2 ran
    exact ⟨response, rng', secret, ciphertext, ran, parameters, decapsulated _ _ (loaded_at _ _ _) rfl rfl rfl⟩

end Cyclic

end Swtrust
