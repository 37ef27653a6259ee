import Swtrust.Commands.Reading
import Swtrust.Core.Protect
import Swtrust.Crypto.Inverses

set_option autoImplicit false

namespace Swtrust

open Library

namespace Protect

variable [Primitives]

theorem symmetric_undone (inverts : CfbInverts) (nameAlg : UInt16) (seed : Bytes) (symmetric : SymDef)
    (name plaintext out : Bytes) (made : symmetricWrap nameAlg seed symmetric name plaintext = .ok out) :
    out.length = plaintext.length ∧ symmetricUnwrap nameAlg seed symmetric name out = .ok plaintext := by
  obtain ⟨⟨key, iv⟩, keyed, made⟩ := (bind_is_ok _ _ _).mp made
  obtain ⟨length, undone⟩ := Sym.cfb_undone inverts key iv plaintext out made
  refine ⟨length, ?_⟩
  unfold symmetricUnwrap
  rw [keyed]
  exact undone

-- The integrity value and the encryption of whatever was wrapped agree with what unwrapping asks for.
theorem unwrap_wrapped (inverts : CfbInverts) (nameAlg : UInt16) (seed : Bytes) (symmetric : SymDef)
    (name body out : Bytes) (representable : body.length < 65536)
    (made : wrapPrivate nameAlg seed symmetric name body = .ok out) :
    unwrapPrivate nameAlg seed symmetric name out = .ok body := by
  obtain ⟨encrypted, wrapped, made⟩ := (bind_is_ok _ _ _).mp made
  obtain ⟨expected, hashed, made⟩ := (bind_is_ok _ _ _).mp made
  obtain ⟨integrity, sized, made⟩ := (bind_is_ok _ _ _).mp made
  obtain rfl := Except.ok.inj made
  have same := Tpm2b.new_buffer expected integrity sized
  obtain ⟨length, undone⟩ := symmetric_undone inverts nameAlg seed symmetric name _ encrypted wrapped
  -- The length in front of what was wrapped keeps the encryption from being empty, which unwrapping refuses.
  have filled : encrypted.isEmpty = false := by
    cases encrypted with
    | nil =>
        rw [sized16, List.length_append, be16_length] at length
        exact absurd length (by rw [List.length_nil]; omega)
    | cons _ _ => rfl
  have read := Tpm2b.decodes_unmarshal (by decide) integrity encrypted
  have opened : unwrapPrivateBody nameAlg seed symmetric name (integrity.marshal ++ encrypted) = .ok (sized16 body) := by
    unfold unwrapPrivateBody
    rw [read]
    simp only [Except.mapError, bind, Except.bind, filled, Bool.false_eq_true, if_false, hashed, same, ne_eq,
      not_true_eq_false]
    exact undone
  have inner := decodes_read_sized body representable []
  rw [List.append_nil] at inner
  unfold unwrapPrivate
  rw [opened]
  simp only [bind, Except.bind]
  rw [inner]
  rfl

-- The private half of a public area.
structure KeyPair (area : TpmtPublic) (sensitive : TpmtSensitive) : Prop where
  rsa : ∀ modulus symmetric scheme keyBits exponent, area.unique = .rsa modulus →
    area.parameters = .rsa symmetric scheme keyBits exponent →
      ∃ key, Rsa.RsaPrivate.fromPrime modulus.buffer exponent sensitive.sensitive.asSlice = .ok key ∧
        ∀ input out, Rsa.publicOp key.area input = .ok out → Rsa.privateOp key out = .ok input
  ecc : ∀ point symmetric scheme curveId kdf, area.unique = .ecc point →
    area.parameters = .ecc symmetric scheme curveId kdf →
      Ecc.Paired curveId (beNat sensitive.sensitive.asSlice) point.x.buffer point.y.buffer

omit [Primitives] in
theorem from_prime_area (modulus prime : Bytes) (exponent : UInt32) (key : Rsa.RsaPrivate)
    (made : Rsa.RsaPrivate.fromPrime modulus exponent prime = .ok key) :
    Rsa.RsaPublic.new modulus exponent = .ok key.area := by
  obtain ⟨area, made', made⟩ := (bind_is_ok _ _ _).mp made
  obtain ⟨-, made⟩ := (guarded_then_is_ok _ _ _ _ _).mp made
  obtain ⟨-, made⟩ := (guarded_then_is_ok _ _ _ _ _).mp made
  obtain ⟨d, -, made⟩ := (bind_is_ok _ _ _).mp made
  obtain rfl := Except.ok.inj made
  exact made'

-- The seed that is sent to a public area is the one its private half reads.
theorem seed_received (agrees : Ecc.Agrees) (area : TpmtPublic) (sensitive : TpmtSensitive) (pair : KeyPair area sensitive)
    (label seed secret : Bytes) (rng rng' : Drbg)
    (sent : Action.Succeeds (seedToPublic Drbg.bytes area label) rng (seed, secret) rng') :
    seedFromPrivate area sensitive secret label = .ok seed := by
  unfold seedToPublic at sent
  unfold seedFromPrivate
  simp only [Action.succeeds_bind, Action.succeeds_lift] at sent
  obtain ⟨seedSize, _, ⟨sized, rfl⟩, sent⟩ := sent
  cases unique : area.unique with
  | rsa modulus =>
      cases parameters : area.parameters with
      | rsa symmetric scheme keyBits exponent =>
          rw [unique, parameters] at sent
          dsimp only at sent ⊢
          simp only [Action.succeeds_guard, Action.succeeds_bind, Action.succeeds_lift, Action.succeeds_pure] at sent
          obtain ⟨typed, drawn, _, _, key, _, ⟨keyed, rfl⟩, block, _, encoded, out, _, ⟨ran, rfl⟩, same, _⟩ := sent
          cases same
          obtain ⟨private', made, inverse⟩ := pair.rsa modulus symmetric scheme keyBits exponent unique parameters
          obtain rfl := Except.ok.inj (keyed.symm.trans (from_prime_area _ _ _ _ made))
          rw [if_neg typed, made]
          simp only [bind, Except.bind, inverse block _ ran]
          exact (Rsa.oaep_decode_encode Drbg.bytes area.nameAlg _ _ label block _ _ Drbg.bytes_length encoded).1
      | _ =>
          rw [unique, parameters] at sent
          exact absurd sent (Action.succeeds_throw _ _ _ _)
  | ecc point =>
      cases parameters : area.parameters with
      | ecc symmetric scheme curveId kdf =>
          rw [unique, parameters] at sent
          dsimp only at sent ⊢
          simp only [Action.succeeds_guard, Action.succeeds_bind, Action.succeeds_lift, Action.succeeds_pure] at sent
          obtain ⟨typed, ephemeral, _, generated, ⟨z, z'⟩, _, ⟨agreed, rfl⟩, drawn, _, ⟨derived, rfl⟩, x, _, ⟨madeX, rfl⟩, y, _,
            ⟨madeY, rfl⟩, same, _⟩ := sent
          cases same
          have paired := (Ecc.generate_paired Drbg.bytes curveId ephemeral _ _ generated).1
          have theirs := Ecc.ecdh_agrees agrees curveId _ _ _ _ _ _
            (pair.ecc point symmetric scheme curveId kdf unique parameters) paired (z, z') agreed
          have read := from_bytes_of_decodes _ _ _ (EccPoint.decodes_unmarshal_sized ⟨x, y⟩)
          have curve : ∃ bits, Ecc.curveBits curveId = .ok bits := by
            obtain ⟨_, on, _⟩ := (bind_is_ok _ _ _).mp theirs
            obtain ⟨bits, known, _⟩ := (bind_is_ok _ _ _).mp on
            exact ⟨bits, known⟩
          obtain ⟨bits, known⟩ := curve
          rw [if_neg typed, known, read]
          simp only [bind, Except.bind, Except.mapError, Tpm2b.new_buffer _ _ madeX, Tpm2b.new_buffer _ _ madeY, theirs, sized]
          exact derived
      | _ =>
          rw [unique, parameters] at sent
          exact absurd sent (Action.succeeds_throw _ _ _ _)
  | _ =>
      rw [unique] at sent
      exact absurd sent (Action.succeeds_throw _ _ _ _)

end Protect

end Swtrust
