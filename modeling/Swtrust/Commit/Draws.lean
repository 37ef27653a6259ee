import Swtrust.Guarantee

set_option autoImplicit false
set_option linter.unusedSectionVars false

namespace Swtrust

open Library Action

section

variable [Primitives] {σ : Type} (relation : σ → σ → Prop) (steady : Steady relation)
  (fill : Nat → Action TpmRc σ Bytes) (drawn : ∀ count, Guarantees relation (fill count))

include steady drawn

-- What only draws from a generator does to the state what the generator does to it.
theorem draws_private_key_from (curveId : UInt16) (size turns : Nat) :
    Guarantees relation (Ecc.privateKeyFrom fill curveId size turns) := by
  induction turns with
  | zero => exact guarantees_throw steady.refl _
  | succ turns ih =>
      refine guarantees_bind steady _ _ (drawn size) fun octets => ?_
      exact guarantees_ite _ _ _ _ (fun _ => ih) fun _ => guarantees_pure steady.refl _

theorem draws_private_key (curveId : UInt16) : Guarantees relation (Ecc.privateKeyFromRng fill curveId) :=
  guarantees_lift_bind steady.refl _ _ fun size _ => draws_private_key_from relation steady fill drawn curveId size 1000

theorem draws_ecc_generate (curveId : UInt16) : Guarantees relation (Ecc.generate fill curveId) := by
  refine guarantees_lift_bind steady.refl _ _ fun _ _ => ?_
  exact guarantees_bind steady _ _ (draws_private_key relation steady fill drawn curveId) fun _ => guarantees_lift steady.refl _

theorem draws_ecdsa_turn (curveId : UInt16) (scalar e size turns : Nat) :
    Guarantees relation (Ecc.ecdsaTurn fill curveId scalar e size turns) := by
  induction turns with
  | zero => exact guarantees_throw steady.refl _
  | succ turns ih =>
      refine guarantees_bind steady _ _ (draws_private_key relation steady fill drawn curveId) fun k => ?_
      split
      · exact ih
      · refine guarantees_ite _ _ _ _ (fun _ => ih) fun _ => ?_
        refine guarantees_lift_bind steady.refl _ _ fun inverse _ => ?_
        refine guarantees_ite _ _ _ _ (fun _ => ih) fun _ => ?_
        iterate 2 refine guarantees_lift_bind steady.refl _ _ fun _ _ => ?_
        exact guarantees_pure steady.refl _

theorem draws_ecdsa_sign (curveId : UInt16) (scalar digest : Bytes) :
    Guarantees relation (Ecc.ecdsaSign fill curveId scalar digest) :=
  guarantees_lift_bind steady.refl _ _ fun size _ => draws_ecdsa_turn relation steady fill drawn curveId _ _ size 1000

theorem draws_ecschnorr_turn (curveId hashAlg : UInt16) (scalar : Nat) (digest : Bytes) (size turns : Nat) :
    Guarantees relation (Ecc.ecschnorrTurn fill curveId hashAlg scalar digest size turns) := by
  induction turns with
  | zero => exact guarantees_throw steady.refl _
  | succ turns ih =>
      refine guarantees_bind steady _ _ (draws_private_key relation steady fill drawn curveId) fun k => ?_
      split
      · exact ih
      · iterate 2 refine guarantees_lift_bind steady.refl _ _ fun _ _ => ?_
        refine guarantees_ite _ _ _ _ (fun _ => ih) fun _ => ?_
        refine guarantees_ite _ _ _ _ (fun _ => ih) fun _ => ?_
        iterate 2 refine guarantees_lift_bind steady.refl _ _ fun _ _ => ?_
        exact guarantees_pure steady.refl _

theorem draws_ecschnorr_sign (curveId : UInt16) (scalar : Bytes) (hashAlg : UInt16) (digest : Bytes) :
    Guarantees relation (Ecc.ecschnorrSign fill curveId scalar hashAlg digest) := by
  iterate 2 refine guarantees_lift_bind steady.refl _ _ fun _ _ => ?_
  exact draws_ecschnorr_turn relation steady fill drawn curveId hashAlg _ digest _ 1000

theorem draws_ecdaa_turn (curveId hashAlg : UInt16) (scalar r : Nat) (digest : Bytes) (size turns : Nat) :
    Guarantees relation (Ecc.ecdaaTurn fill curveId hashAlg scalar r digest size turns) := by
  induction turns with
  | zero => exact guarantees_throw steady.refl _
  | succ turns ih =>
      refine guarantees_bind steady _ _ (draws_private_key relation steady fill drawn curveId) fun k => ?_
      iterate 2 refine guarantees_lift_bind steady.refl _ _ fun _ _ => ?_
      refine guarantees_ite _ _ _ _ (fun _ => ih) fun _ => ?_
      exact guarantees_lift_bind steady.refl _ _ fun _ _ => guarantees_pure steady.refl _

theorem draws_ecdaa_sign (curveId : UInt16) (scalar commitR : Bytes) (hashAlg : UInt16) (digest : Bytes) :
    Guarantees relation (Ecc.ecdaaSign fill curveId scalar commitR hashAlg digest) := by
  refine guarantees_lift_bind steady.refl _ _ fun size _ => ?_
  exact guarantees_guard steady.refl _ _ _ _ fun _ =>
    draws_ecdaa_turn relation steady fill drawn curveId hashAlg _ _ digest size 1000

theorem draws_prime (bits e turns : Nat) : Guarantees relation (Rsa.generatePrime fill bits e turns) := by
  induction turns with
  | zero => exact guarantees_throw steady.refl _
  | succ turns ih =>
      refine guarantees_bind steady _ _ (drawn _) fun octets => ?_
      exact guarantees_ite _ _ _ _ (fun _ => ih) fun _ => guarantees_pure steady.refl _

theorem draws_rsa_from (keyBits e p turns : Nat) : Guarantees relation (Rsa.generateFrom fill keyBits e p turns) := by
  induction turns with
  | zero => exact guarantees_throw steady.refl _
  | succ turns ih =>
      refine guarantees_bind steady _ _ (draws_prime relation steady fill drawn _ _ _) fun q => ?_
      refine guarantees_ite _ _ _ _ (fun _ => ih) fun _ => ?_
      refine guarantees_lift_bind steady.refl _ _ fun d _ => ?_
      exact guarantees_ite _ _ _ _ (fun _ => ih) fun _ => guarantees_pure steady.refl _

theorem draws_rsa_generate (keyBits : UInt16) (exponent : UInt32) :
    Guarantees relation (Rsa.generate fill keyBits exponent) := by
  refine guarantees_guard steady.refl _ _ _ _ fun _ => guarantees_guard steady.refl _ _ _ _ fun _ => ?_
  refine guarantees_bind steady _ _ (draws_prime relation steady fill drawn _ _ _) fun p => ?_
  exact draws_rsa_from relation steady fill drawn _ _ p _

theorem draws_pss_encode (hashAlg : UInt16) (digest : Bytes) (keyBits : Nat) :
    Guarantees relation (Rsa.pssEncode fill hashAlg digest keyBits) := by
  refine guarantees_lift_bind steady.refl _ _ fun hLen _ => ?_
  refine guarantees_guard steady.refl _ _ _ _ fun _ => guarantees_guard steady.refl _ _ _ _ fun _ => ?_
  refine guarantees_bind steady _ _ (drawn _) fun salt => ?_
  iterate 2 refine guarantees_lift_bind steady.refl _ _ fun _ _ => ?_
  exact guarantees_pure steady.refl _

theorem draws_rsa_composite (template : TpmtPublic) : Guarantees relation (rsaComposite fill template) := by
  unfold rsaComposite
  split
  · refine guarantees_bind steady _ _ (draws_rsa_generate relation steady fill drawn _ _) fun key => ?_
    iterate 5 refine guarantees_lift_bind steady.refl _ _ fun _ _ => ?_
    exact guarantees_pure steady.refl _
  · exact guarantees_throw steady.refl _

theorem draws_ecc_key_composite (template : TpmtPublic) : Guarantees relation (eccKeyComposite fill template) := by
  unfold eccKeyComposite
  split
  · refine guarantees_bind steady _ _ (draws_ecc_generate relation steady fill drawn _) fun key => ?_
    exact guarantees_lift_bind steady.refl _ _ fun _ _ => guarantees_lift steady.refl _
  · exact guarantees_throw steady.refl _

theorem draws_bits_composite (template : TpmtPublic) (supplied : SensitiveCreate) (digestSize : Nat) (seedValue : Bytes) :
    Guarantees relation (bitsComposite fill template supplied digestSize seedValue) := by
  have rest : ∀ data, Guarantees relation (do
      let unique ← Hash.digestParts (templateAlg template) [seedValue, data]
      let bits ← (Tpm2b.new data : TpmResult Tpm2bSensitiveData)
      return (.bits bits, .keyedHash (← (Tpm2b.new unique : TpmResult Tpm2bDigest))) :
        Action TpmRc σ (SensitiveComposite × PublicId)) := by
    intro data
    iterate 3 refine guarantees_lift_bind steady.refl _ _ fun _ _ => ?_
    exact guarantees_pure steady.refl _
  refine guarantees_guard steady.refl _ _ _ _ fun _ => ?_
  refine guarantees_ite _ _ _ _ (fun _ => ?_) fun _ => ?_
  · exact guarantees_bind steady _ _ (drawn _) rest
  · exact guarantees_bind steady _ _ (guarantees_pure steady.refl _) rest

theorem draws_sym_composite (template : TpmtPublic) (supplied : SensitiveCreate) (seedValue : Bytes) :
    Guarantees relation (symComposite fill template supplied seedValue) := by
  unfold symComposite
  split
  next sym _ =>
    have rest : ∀ key, Guarantees relation (do
        if key.length ≠ sym.keyBits.toNat / 8 then throw (Rc.keySize.withParameter 1)
        let unique ← Hash.digestParts (templateAlg template) [seedValue, key]
        let key ← (Tpm2b.new key : TpmResult Tpm2bSymKey)
        return (.sym key, .sym (← (Tpm2b.new unique : TpmResult Tpm2bDigest))) :
          Action TpmRc σ (SensitiveComposite × PublicId)) := by
      intro key
      refine guarantees_guard steady.refl _ _ _ _ fun _ => ?_
      iterate 3 refine guarantees_lift_bind steady.refl _ _ fun _ _ => ?_
      exact guarantees_pure steady.refl _
    refine guarantees_guard steady.refl _ _ _ _ fun _ => ?_
    refine guarantees_ite _ _ _ _ (fun _ => ?_) fun _ => ?_
    · exact guarantees_bind steady _ _ (drawn _) rest
    · exact guarantees_bind steady _ _ (guarantees_pure steady.refl _) rest
  · exact guarantees_throw steady.refl _

theorem draws_create_sensitive (template : TpmtPublic) (supplied : SensitiveCreate) :
    Guarantees relation (createSensitive fill template supplied) := by
  refine guarantees_lift_bind steady.refl _ _ fun digestSize _ => ?_
  have made : ∀ seedValue : Bytes, Guarantees relation (do
      if digestSize < supplied.userAuth.buffer.length then throw (Rc.size.withParameter 1)
      let type := template.objectType
      if (type = Alg.rsa ∨ type = Alg.ecc) ∧ !supplied.data.isEmpty then throw (Rc.value.withParameter 1)
      let pair ←
        if type = Alg.rsa then rsaComposite fill template
        else if type = Alg.ecc then eccKeyComposite fill template
        else if type = Alg.keyedhash then bitsComposite fill template supplied digestSize seedValue
        else if type = Alg.symcipher then symComposite fill template supplied seedValue
        else throw Rc.type
      return (← sealSensitive template supplied seedValue pair.1, pair.2) :
        Action TpmRc σ (TpmtSensitive × PublicId)) := by
    intro seedValue
    refine guarantees_guard steady.refl _ _ _ _ fun _ => guarantees_guard steady.refl _ _ _ _ fun _ => ?_
    have sealed : ∀ pair : SensitiveComposite × PublicId, Guarantees relation (do
        return (← sealSensitive template supplied seedValue pair.1, pair.2) : Action TpmRc σ (TpmtSensitive × PublicId)) :=
      fun pair => guarantees_lift_bind steady.refl _ _ fun _ _ => guarantees_pure steady.refl _
    have then' : ∀ action, Guarantees relation action → Guarantees relation (action >>= fun pair :
        SensitiveComposite × PublicId => (do
          return (← sealSensitive template supplied seedValue pair.1, pair.2) : Action TpmRc σ (TpmtSensitive × PublicId))) :=
      fun action ensured => guarantees_bind steady _ _ ensured sealed
    refine guarantees_ite _ _ _ _ (fun _ => then' _ ?_) fun _ => guarantees_ite _ _ _ _ (fun _ => then' _ ?_) fun _ =>
      guarantees_ite _ _ _ _ (fun _ => then' _ ?_) fun _ => guarantees_ite _ _ _ _ (fun _ => then' _ ?_) fun _ => then' _ ?_
    · exact draws_rsa_composite relation steady fill drawn template
    · exact draws_ecc_key_composite relation steady fill drawn template
    · exact draws_bits_composite relation steady fill drawn template supplied digestSize seedValue
    · exact draws_sym_composite relation steady fill drawn template supplied seedValue
    · exact guarantees_throw steady.refl _
  refine guarantees_ite _ _ _ _ (fun _ => ?_) fun _ => ?_
  · exact guarantees_bind steady _ _ (drawn _) made
  · exact guarantees_bind steady _ _ (guarantees_pure steady.refl _) made

end

end Swtrust
