import Swtrust.Crypto.Padding
import Swtrust.Exchange.Seed

set_option autoImplicit false

namespace Swtrust

open Library

-- The raw operations of a key undo each other.
structure Rsa.Inverse (key : Rsa.RsaPrivate) : Prop where
  opened : ∀ input out, Rsa.publicOp key.area input = .ok out → Rsa.privateOp key out = .ok input
  verified : ∀ input out, Rsa.privateOp key input = .ok out → Rsa.publicOp key.area out = .ok input

-- What is assumed of an RSA key that an object holds.
def HoldsInverse (object : Object) : Prop :=
  ∀ sensitive modulus symmetric scheme keyBits exponent key, object.sensitive = some sensitive →
    object.area.unique = .rsa modulus → object.area.parameters = .rsa symmetric scheme keyBits exponent →
      Rsa.RsaPrivate.fromPrime modulus.buffer exponent sensitive.sensitive.asSlice = .ok key → Rsa.Inverse key

section

variable [Primitives]

-- What a verifier finds in the block that it recovers.
def Recovers (scheme hashAlg : UInt16) (digest : Bytes) (area : Rsa.RsaPublic) (recovered : Bytes) : Prop :=
  (scheme = Alg.rsassa ∧ Rsa.pkcs1v15SignEncode hashAlg digest area.size = .ok recovered) ∨
  (scheme = Alg.rsapss ∧
    Rsa.pssVerify hashAlg digest (recovered.drop (recovered.length - (area.bits - 1 + 7) / 8)) area.bits = .ok ())

omit [Primitives] in
-- What is raised to the private exponent is what a verifier recovers.
theorem rsa_raised (key : Rsa.RsaPrivate) (inverse : Rsa.Inverse key) (hashAlg : UInt16) (block : Bytes) (w w' : Work)
    (value : SignatureValue)
    (made : Action.Succeeds (do
      let sig ← Rsa.privateOp key block
      return .rsa ⟨hashAlg, ← (Tpm2b.new sig : TpmResult Tpm2bPublicKeyRsa)⟩ : Action TpmRc Work SignatureValue) w value
      w') :
    ∃ sig : Tpm2bPublicKeyRsa, value = .rsa ⟨hashAlg, sig⟩ ∧ Rsa.publicOp key.area sig.buffer = .ok block := by
  simp only [Action.succeeds_bind, Action.succeeds_lift] at made
  obtain ⟨octets, _, ⟨raised, rfl⟩, sig, _, ⟨sized, rfl⟩, made⟩ := made
  obtain ⟨rfl, _⟩ := (Action.succeeds_pure _ _ _ _).mp made
  refine ⟨sig, rfl, ?_⟩
  rw [Tpm2b.new_buffer octets sig sized]
  exact inverse.verified block octets raised

theorem rsa_sign_recovers (scheme : Scheme) (hashAlg : UInt16) (digest modulus : Bytes) (exponent : UInt32) (prime : Bytes)
    (at' : SignParameters) (w w' : Work) (value : SignatureValue)
    (inverse : ∀ key, Rsa.RsaPrivate.fromPrime modulus exponent prime = .ok key → Rsa.Inverse key)
    (made : Action.Succeeds (rsaSign scheme hashAlg digest modulus exponent prime at') w value w') :
    ∃ (sig : Tpm2bPublicKeyRsa) (area : Rsa.RsaPublic) (recovered : Bytes), value = .rsa ⟨hashAlg, sig⟩ ∧
      Rsa.RsaPublic.new modulus exponent = .ok area ∧ Rsa.publicOp area sig.buffer = .ok recovered ∧
      Recovers scheme.scheme hashAlg digest area recovered := by
  unfold rsaSign at made
  obtain ⟨key, _, keyed, made⟩ := (Action.succeeds_bind _ _ _ _ _).mp made
  obtain ⟨formed, rfl⟩ := (Action.succeeds_lift _ _ _ _).mp keyed
  have area := Protect.from_prime_area modulus prime exponent key formed
  dsimp only at made
  by_cases rsassa : scheme.scheme = Alg.rsassa
  · rw [if_pos rsassa] at made
    obtain ⟨block, middle, lifted, made⟩ := (Action.succeeds_bind _ _ _ _ _).mp made
    obtain ⟨padded, _⟩ := (Action.succeeds_lift _ _ _ _).mp lifted
    obtain ⟨sig, whole, recovered⟩ := rsa_raised key (inverse key formed) hashAlg block _ _ value made
    exact ⟨sig, key.area, block, whole, area, recovered, .inl ⟨rsassa, padded⟩⟩
  · rw [if_neg rsassa] at made
    by_cases rsapss : scheme.scheme = Alg.rsapss
    · rw [if_pos rsapss] at made
      obtain ⟨em, _, encoded, made⟩ := (Action.succeeds_bind _ _ _ _ _).mp made
      obtain ⟨sig, whole, recovered⟩ := rsa_raised key (inverse key formed) hashAlg _ _ _ value made
      obtain ⟨length, accepted⟩ :=
        Rsa.pss_verify_encode Work.bytes hashAlg digest em key.area.bits _ _ Work.bytes_length encoded
      -- Where the modulus has one bit more than whole octets, the block has a zero octet in front.
      have fits : em.length ≤ key.area.size := by
        rw [length, Rsa.RsaPublic.size]
        omega
      have front : (List.replicate (key.area.size - em.length) 0 ++ em).length - (key.area.bits - 1 + 7) / 8 =
          key.area.size - em.length := by
        rw [← length, List.length_append, List.length_replicate]
        omega
      refine ⟨sig, key.area, _, whole, area, recovered, .inr ⟨rsapss, ?_⟩⟩
      rw [front, List.drop_left' List.length_replicate]
      exact accepted
    · rw [if_neg rsapss] at made
      cases made

omit [Primitives] in
-- The scheme that was settled on is one the key's own public area takes.
theorem signing_scheme_checked (object : Object) (supplied scheme : Scheme) (parameter : Nat) (hashAlg : UInt16)
    (sig : Tpm2bPublicKeyRsa) (chosen : signingSchemeAt object supplied parameter = .ok scheme)
    (kind : scheme.scheme = Alg.rsassa ∨ scheme.scheme = Alg.rsapss) (hashed : scheme.hashAlg = some hashAlg) :
    checkSignatureScheme object ⟨scheme.scheme, .rsa ⟨hashAlg, sig⟩⟩ = .ok () := by
  unfold signingSchemeAt at chosen
  unfold checkSignatureScheme
  generalize object.area.scheme.getD Scheme.null = own at *
  by_cases free : own.isNull = true
  · rw [if_pos free]
    rfl
  · rw [if_neg free] at chosen ⊢
    obtain ⟨_, chosen⟩ := (guarded_then_is_ok _ _ _ _ _).mp chosen
    have settled : own = scheme := by
      by_cases ecdaa : own.scheme = Alg.ecdaa
      · -- A scheme of ECDAA stays one, which neither kind of padding is.
        rw [if_pos ecdaa] at chosen
        have stays : scheme.scheme = Alg.ecdaa := by
          split at chosen
          · split at chosen
            · cases chosen
            · cases chosen
              rfl
          · cases chosen
            exact ecdaa
        rw [stays] at kind
        exact absurd kind (by decide)
      · rw [if_neg ecdaa] at chosen
        exact Except.ok.inj chosen
    subst settled
    simp only [ne_eq, not_true_eq_false, if_false, hashed]
    show (if ¬ hashAlg = hashAlg then throw Rc.scheme else pure () : TpmResult Unit) = _
    rw [if_neg (not_not.mpr rfl)]
    rfl

theorem verify_signed (signer verifier : Object) (supplied scheme : Scheme) (parameter : Nat) (digest : Bytes)
    (at' : SignParameters) (w w' : Work) (signature : TpmtSignature) (signed : Signed)
    (rsa : signer.area.objectType = Alg.rsa) (same : verifier.area = signer.area)
    (chosen : signingSchemeAt signer supplied parameter = .ok scheme)
    (inverse : HoldsInverse signer) (made : Action.Succeeds (signDigest signer scheme digest at') w (signature, signed) w') :
    verifyDigest verifier digest signature = .ok () := by
  unfold signDigest at made
  cases sensitive : signer.sensitive with
  | none =>
      rw [sensitive] at made
      exact absurd made (Action.succeeds_throw _ _ _ _)
  | some secret =>
      rw [sensitive] at made
      simp only [Action.succeeds_bind _ _ _ _ (signature, signed), Action.succeeds_lift, Action.succeeds_guard, if_pos rsa]
        at made
      obtain ⟨hashAlg, _, ⟨hashed, rfl⟩, size, _, ⟨sized, rfl⟩, long, made⟩ := made
      have detail : scheme.hashAlg = some hashAlg := by
        unfold schemeHash at hashed
        split at hashed
        · next found =>
            cases hashed
            exact found
        · cases hashed
      cases parameters : signer.area.parameters with
      | rsa symmetric own keyBits exponent =>
          cases unique : signer.area.unique with
          | rsa modulus =>
              rw [parameters, unique] at made
              obtain ⟨value, last, produced, ended⟩ := (Action.succeeds_bind _ _ _ _ _).mp made
              obtain ⟨both, _⟩ := (Action.succeeds_pure _ _ _ _).mp ended
              obtain ⟨rfl, rfl⟩ := Prod.mk.inj both
              -- What was signed is a formed area, and the public operation brings that same area back.
              obtain ⟨sig, area, recovered, rfl, formed, opened, found⟩ := rsa_sign_recovers scheme hashAlg digest
                modulus.buffer exponent secret.sensitive.asSlice at' _ _ value
                (inverse secret modulus symmetric own keyBits exponent · sensitive unique parameters) produced
              have kind : scheme.scheme = Alg.rsassa ∨ scheme.scheme = Alg.rsapss := found.imp (·.1) (·.1)
              have checked : checkSignatureScheme verifier ⟨scheme.scheme, .rsa ⟨hashAlg, sig⟩⟩ = .ok () := by
                have own := signing_scheme_checked signer supplied scheme parameter hashAlg sig chosen kind detail
                unfold checkSignatureScheme at own ⊢
                rw [same]
                exact own
              unfold verifyDigest
              rw [checked, same, unique, parameters]
              simp only [Except.mapError, bind, Except.bind, formed, opened]
              obtain ⟨rsassa, expected⟩ | ⟨rsapss, accepted⟩ := found
              · rw [if_pos rsassa, expected]
                simp only [ne_eq, not_true_eq_false, if_false]
                rfl
              · have other : ¬ scheme.scheme = Alg.rsassa := by
                  rw [rsapss]
                  decide
                rw [if_neg other, if_pos rsapss, accepted]
          | _ =>
              rw [parameters, unique] at made
              exact absurd made (Action.succeeds_throw _ _ _ _)
      | _ =>
          rw [parameters] at made
          exact absurd made (Action.succeeds_throw _ _ _ _)

theorem rsa_unpad_pad (object : Object) (area : Rsa.RsaPublic) (scheme : Scheme) (message label block : Bytes)
    (rng rng' : Drbg) (kind : scheme.scheme = Alg.oaep ∨ scheme.scheme = Alg.rsaes)
    (padded : Action.Succeeds (rsaPad object area scheme message label) rng block rng') :
    block.length = area.size ∧ rsaUnpad object scheme block label = .ok message := by
  unfold rsaPad at padded
  unfold rsaUnpad
  by_cases oaep : scheme.scheme = Alg.oaep
  · rw [if_pos oaep] at padded ⊢
    exact (Rsa.oaep_decode_encode Drbg.bytes _ area.size message label block rng rng' Drbg.bytes_length padded).symm
  · have rsaes := kind.resolve_left oaep
    rw [if_neg oaep, if_pos rsaes] at padded ⊢
    exact (Rsa.rsaes_unpad_pad Drbg.bytes area.size message block rng rng' padded).symm

-- What was padded is found again; a signature is accepted where the same key made it over the same digest, whatever the
-- length of the modulus; and the two decoders accept nothing but what their encoders make, under that label, of the message
-- that comes out, with some octets from a generator.
theorem rsa_padding_sound :
    (∀ (object : Object) (area : Rsa.RsaPublic) (scheme : Scheme) (message label block : Bytes) (rng rng' : Drbg),
      (scheme.scheme = Alg.oaep ∨ scheme.scheme = Alg.rsaes) →
      Action.Succeeds (rsaPad object area scheme message label) rng block rng' →
        block.length = area.size ∧ rsaUnpad object scheme block label = .ok message) ∧
    (∀ (signer verifier : Object) (supplied scheme : Scheme) (parameter : Nat) (digest : Bytes) (at' : SignParameters)
      (w w' : Work) (signature : TpmtSignature) (signed : Signed),
      signer.area.objectType = Alg.rsa → HoldsInverse signer → verifier.area = signer.area →
      signingSchemeAt signer supplied parameter = .ok scheme →
      Action.Succeeds (signDigest signer scheme digest at') w (signature, signed) w' →
        verifyDigest verifier digest signature = .ok ()) ∧
    (∀ (hashAlg : UInt16) (encoded label message : Bytes),
      Rsa.oaepDecode hashAlg encoded label = .ok message ↔
        ∃ seed, Action.Succeeds (Rsa.oaepEncode (Rsa.dealt seed) hashAlg encoded.length message label) () encoded ()) ∧
    (∀ encoded message : Bytes, Rsa.pkcs1v15EncryptUnpad encoded = .ok message ↔
      ∃ ps, Action.Succeeds (Rsa.pkcs1v15EncryptPad (Rsa.dealt ps) encoded.length message) () encoded ()) := by
  refine ⟨rsa_unpad_pad, ?_, ?_, ?_⟩
  · intro signer verifier supplied scheme parameter digest at' w w' signature signed rsa inverse same chosen made
    exact verify_signed signer verifier supplied scheme parameter digest at' w w' signature signed rsa same chosen inverse made
  · intro hashAlg encoded label message
    refine ⟨Rsa.oaep_encode_decode hashAlg encoded label message, ?_⟩
    rintro ⟨seed, made⟩
    exact (Rsa.oaep_decode_encode (Rsa.dealt seed) hashAlg encoded.length message label encoded () ()
      (Rsa.dealt_length seed) made).1
  · intro encoded message
    refine ⟨Rsa.rsaes_pad_unpad encoded message, ?_⟩
    rintro ⟨ps, made⟩
    exact (Rsa.rsaes_unpad_pad (Rsa.dealt ps) encoded.length message encoded () () made).1

end

end Swtrust
