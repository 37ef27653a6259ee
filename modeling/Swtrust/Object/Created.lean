import Swtrust.Commit.Draws
import Swtrust.Crypto.Inverses
import Swtrust.Object.Sound

set_option autoImplicit false
set_option linter.unusedSectionVars false

-- What the TPM makes of a template is what it accepts when it is loaded.

namespace Swtrust

open Library Action

section

variable [Primitives]

-- What a scalar makes of the generator is a point of the curve.
def Ecc.OnCurve : Prop := ∀ (curveId : UInt16) (scalar x y : Nat), Ecc.multiplyGenerator curveId scalar = some (x, y) →
  Primitives.eccIsOnCurve curveId x y = true

namespace Rsa

section

variable {σ : Type} (fill : Nat → Action TpmRc σ Bytes)

theorem one_lt_of_size (p : Nat) (wide : 2 ≤ p.size) : 1 < p := by
  by_contra small
  have narrow : p.size ≤ 1 := Nat.size_le.mpr (by omega)
  omega

theorem generate_prime_size (bits e turns : Nat) : ∀ (s t : σ) (p : Nat),
    Succeeds (generatePrime fill bits e turns) s p t → p.size = bits := by
  induction turns with
  | zero =>
      intro s t p made
      exact absurd made (succeeds_throw _ _ _ _)
  | succ turns ih =>
      intro s t p made
      unfold generatePrime at made
      simp only [succeeds_bind] at made
      obtain ⟨octets, u, _, made⟩ := made
      split at made
      · exact ih u t p made
      next taken =>
        obtain ⟨rfl, _⟩ := (succeeds_pure _ _ _ _).mp made
        by_contra sized
        exact taken (.inl sized)

-- The two primes are factors of the modulus, which has as many bits as were asked for.
structure Factored (keyBits e : Nat) (key : RsaPrivate) : Prop where
  modulus : key.area = ⟨key.p * key.q, e⟩
  bits : (key.p * key.q).size = keyBits
  first : 1 < key.p
  second : 1 < key.q
  exponent : ∃ d, privateExponent e key.p key.q = .ok d

theorem generate_from_factored (keyBits e p turns : Nat) (wide : 2 ≤ keyBits / 2) (first : 1 < p) :
    ∀ (s t : σ) (key : RsaPrivate), Succeeds (generateFrom fill keyBits e p turns) s key t → Factored keyBits e key := by
  induction turns with
  | zero =>
      intro s t key made
      exact absurd made (succeeds_throw _ _ _ _)
  | succ turns ih =>
      intro s t key made
      unfold generateFrom at made
      simp only [succeeds_bind] at made
      obtain ⟨q, u, drawn, made⟩ := made
      have sized := generate_prime_size fill _ _ _ _ _ q drawn
      split at made
      · exact ih u t key made
      next apart =>
        simp only [succeeds_bind, succeeds_lift] at made
        obtain ⟨d, _, ⟨inverse, rfl⟩, made⟩ := made
        split at made
        · exact ih _ t key made
        · obtain ⟨rfl, _⟩ := (succeeds_pure _ _ _ _).mp made
          refine ⟨rfl, ?_, first, ?_, d, inverse⟩
          · by_contra other
            exact apart (.inr other)
          · exact one_lt_of_size q (by omega)

theorem generate_factored (keyBits : UInt16) (exponent : UInt32) (s t : σ) (key : RsaPrivate)
    (made : Succeeds (generate fill keyBits exponent) s key t) :
    Factored keyBits.toNat (effectiveExponent exponent).toNat key := by
  unfold generate at made
  simp only [succeeds_guard, succeeds_bind] at made
  obtain ⟨sizes, _, p, u, drawn, made⟩ := made
  have wide : 2048 ≤ keyBits.toNat := by
    by_contra small
    exact sizes (.inl (UInt16.lt_iff_toNat_lt.mpr (Nat.lt_of_not_le small)))
  have sized := generate_prime_size fill _ _ _ _ _ p drawn
  exact generate_from_factored fill _ _ p _ (by omega) (one_lt_of_size p (by omega)) u t key made

end

theorem Factored.from_prime (keyBits : Nat) (exponent : UInt32) (key : RsaPrivate)
    (factored : Factored keyBits (effectiveExponent exponent).toNat key) (modulus prime : Bytes)
    (held : beNat modulus = key.area.n) (known : beNat prime = key.p) :
    (RsaPrivate.fromPrime modulus exponent prime).isOk = true := by
  obtain ⟨d, inverse⟩ := factored.exponent
  have first := factored.first
  have second := factored.second
  have product : beNat modulus = key.p * key.q := by rw [held, factored.modulus]
  have filled : key.p * key.q ≠ 0 := Nat.mul_ne_zero (by omega) (by omega)
  have quotient : key.p * key.q / key.p = key.q := Nat.mul_div_cancel_left _ (by omega)
  have left : key.p * key.q % key.p = 0 := Nat.mul_mod_right _ _
  unfold RsaPrivate.fromPrime RsaPublic.new
  rw [product, known, if_neg filled]
  simp only [bind, Except.bind, quotient, left]
  rw [if_neg (by omega), if_neg (by omega), inverse]
  rfl

end Rsa

theorem validate_public_of_unique (area : TpmtPublic) (unique : PublicId) :
    validatePublic { area with unique } = validatePublic area := rfl

-- A private part made for a template and the public one made with it go into areas of the template's type, where they
-- are bound to each other.
structure Bound (template : TpmtPublic) (seedValue : Bytes) (pair : SensitiveComposite × PublicId) : Prop where
  selector : pair.1.selector = template.objectType
  unique : Legible (PublicId.unmarshalWith template.objectType) PublicId.marshal pair.2
  loads : validatePublic template = .ok () → validateLoadedPublic { template with unique := pair.2 } = .ok ()
  binds : ∀ sensitive : TpmtSensitive, sensitive.sensitiveType = template.objectType →
    sensitive.seedValue.buffer = seedValue → sensitive.sensitive = pair.1 →
      checkBinding { template with unique := pair.2 } sensitive = .ok ()

section

variable {σ : Type} (fill : Nat → Action TpmRc σ Bytes) (template : TpmtPublic) (seedValue : Bytes)
  (pair : SensitiveComposite × PublicId)

theorem rsa_bound (typed : template.objectType = Alg.rsa) (s t : σ) (made : Succeeds (rsaComposite fill template) s pair t) :
    Bound template seedValue pair := by
  unfold rsaComposite at made
  split at made
  next symmetric scheme keyBits exponent parameters =>
    simp only [succeeds_bind, succeeds_lift, succeeds_pure] at made
    obtain ⟨key, _, generated, _, _, _, primeOctets, _, ⟨primeMade, rfl⟩, prime, _, ⟨primeFits, rfl⟩, modulusOctets, _,
      ⟨modulusMade, rfl⟩, modulus, _, ⟨modulusFits, rfl⟩, rfl, rfl⟩ := made
    have factored := Rsa.generate_factored fill keyBits exponent _ _ key generated
    have primeRead : beNat prime.buffer = key.p := by
      rw [Tpm2b.new_buffer _ _ primeFits]
      exact (to_bytes_padded_made _ _ _ primeMade).1
    have modulusRead : beNat modulus.buffer = key.area.n := by
      rw [Tpm2b.new_buffer _ _ modulusFits]
      exact (to_bytes_padded_made _ _ _ modulusMade).1
    refine ⟨typed.symm, ?_, fun valid => ?_, fun sensitive type _ held => ?_⟩
    · rw [typed]
      exact legible_of_decodes _ _ _ (decodes_bind_last _ _ _ _ _ (Tpm2b.decodes_unmarshal (by decide) modulus)
        (decodes_pure _))
    · unfold validateLoadedPublic
      rw [validate_public_of_unique, valid, parameters]
      have bits : significantBits modulus.buffer = keyBits.toNat := by
        unfold significantBits
        rw [modulusRead, factored.modulus]
        exact factored.bits
      simp only [bind, Except.bind, bits]
      simp
    · unfold checkBinding
      rw [type, held, parameters]
      have whole := factored.from_prime keyBits.toNat exponent key modulus.buffer prime.buffer modulusRead primeRead
      simp [whole]
  · exact absurd made (succeeds_throw _ _ _ _)

theorem point_accepted (onCurve : Ecc.OnCurve) (curveId : UInt16) (scalar : Nat) (x y : Bytes)
    (paired : Ecc.coordinates curveId (Ecc.multiplyGenerator curveId scalar) = .ok (x, y)) :
    Ecc.fromCoordinates curveId x y = .ok (some (beNat x, beNat y)) := by
  unfold Ecc.coordinates at paired
  split at paired
  · cases paired
  next first second multiplied =>
    simp only [bind_is_ok, pure_is_ok] at paired
    obtain ⟨size, sized, _, paddedX, _, paddedY, same⟩ := paired
    obtain ⟨rfl, rfl⟩ := Prod.mk.inj same
    unfold Ecc.coordinateSize at sized
    obtain ⟨bits, known, _⟩ := (bind_is_ok _ _ _).mp sized
    unfold Ecc.fromCoordinates
    rw [known, (to_bytes_padded_made _ _ _ paddedX).1, (to_bytes_padded_made _ _ _ paddedY).1,
      onCurve curveId scalar first second multiplied]
    rfl

-- A point of a curve that a scalar was multiplied into, and the scalar, as a check of the pair found them.
theorem ecc_key_bound (onCurve : Ecc.OnCurve) (typed : template.objectType = Alg.ecc) (symmetric : SymDef) (scheme : Scheme)
    (curveId : UInt16) (kdf : Scheme) (parameters : template.parameters = .ecc symmetric scheme curveId kdf) (key : Ecc.EccKey)
    (sign : Bool) (tested : Fips.pairwiseEcc curveId key sign = .ok ()) (made : eccComposite key = .ok pair) :
    Bound template seedValue pair := by
  simp only [eccComposite, bind_is_ok, pure_is_ok] at made
  obtain ⟨scalar, scalarFits, x, xFits, y, yFits, rfl⟩ := made
  have scalarSame := Tpm2b.new_buffer _ _ scalarFits
  have xSame := Tpm2b.new_buffer _ _ xFits
  have ySame := Tpm2b.new_buffer _ _ yFits
  have paired : Ecc.coordinates curveId (Ecc.multiplyGenerator curveId (beNat scalar.buffer)) = .ok (x.buffer, y.buffer) := by
    unfold Fips.pairwiseEcc at tested
    obtain ⟨⟨publicX, publicY⟩, found, tested⟩ := (bind_is_ok _ _ _).mp tested
    obtain ⟨same, _⟩ := (guarded_then_is_ok _ _ _ _ _).mp tested
    have both : publicX = key.publicX ∧ publicY = key.publicY := by simpa [not_or] using same
    rw [scalarSame, xSame, ySame, found, both.1, both.2]
  refine ⟨typed.symm, ?_, fun valid => ?_, fun sensitive type _ held => ?_⟩
  · rw [typed]
    refine legible_of_decodes _ _ _ (decodes_bind_last _ _ _ _ _ ?_ (decodes_pure _))
    apply decodes_bind _ _ _ _ _ _ (Tpm2b.decodes_unmarshal (by decide) x)
    exact decodes_bind_last _ _ _ _ _ (Tpm2b.decodes_unmarshal (by decide) y) (decodes_pure _)
  · unfold validateLoadedPublic
    rw [validate_public_of_unique, valid, parameters]
    simp only [bind, Except.bind, point_accepted onCurve curveId _ _ _ paired]
    split <;> rfl
  · unfold checkBinding
    rw [type, held, parameters]
    simp [paired, bind, Except.bind, Except.mapError]

theorem ecc_bound (onCurve : Ecc.OnCurve) (typed : template.objectType = Alg.ecc) (s t : σ)
    (made : Succeeds (eccKeyComposite fill template) s pair t) : Bound template seedValue pair := by
  unfold eccKeyComposite at made
  split at made
  next symmetric scheme curveId kdf parameters =>
    simp only [succeeds_bind, succeeds_lift] at made
    obtain ⟨key, _, _, _, _, ⟨tested, rfl⟩, composed, rfl⟩ := made
    exact ecc_key_bound template seedValue pair onCurve typed symmetric scheme curveId kdf parameters key _ tested composed
  · exact absurd made (succeeds_throw _ _ _ _)

-- Where the template names a hash, its unique field is the digest that a load compares.
theorem obfuscated_checked (named : template.nameAlg ≠ Alg.null) (secret digest : Bytes)
    (made : Hash.digestParts (templateAlg template) [seedValue, secret] = .ok digest) :
    checkObfuscated template.nameAlg digest seedValue secret = .ok () := by
  unfold templateAlg at made
  rw [if_neg named] at made
  unfold checkObfuscated
  rw [made]
  simp [bind, Except.bind]

theorem bits_bound (named : template.nameAlg ≠ Alg.null) (typed : template.objectType = Alg.keyedhash)
    (bits : Tpm2bSensitiveData) (digest : Tpm2bDigest)
    (made : Hash.digestParts (templateAlg template) [seedValue, bits.buffer] = .ok digest.buffer) :
    Bound template seedValue (.bits bits, .keyedHash digest) where
  selector := typed.symm
  unique := by
    rw [typed]
    exact legible_of_decodes _ _ _ (decodes_bind_last _ _ _ _ _ (Tpm2b.decodes_unmarshal (by decide) digest) (decodes_pure _))
  loads valid := by
    unfold validateLoadedPublic
    rw [validate_public_of_unique, valid]
    rfl
  binds sensitive type seed held := by
    unfold checkBinding
    rw [type, held, seed]
    have checked := obfuscated_checked template seedValue named _ _ made
    simp [checked]

theorem sym_bound (named : template.nameAlg ≠ Alg.null) (typed : template.objectType = Alg.symcipher) (key : Tpm2bSymKey)
    (digest : Tpm2bDigest) (made : Hash.digestParts (templateAlg template) [seedValue, key.buffer] = .ok digest.buffer) :
    Bound template seedValue (.sym key, .sym digest) where
  selector := typed.symm
  unique := by
    rw [typed]
    exact legible_of_decodes _ _ _ (decodes_bind_last _ _ _ _ _ (Tpm2b.decodes_unmarshal (by decide) digest) (decodes_pure _))
  loads valid := by
    unfold validateLoadedPublic
    rw [validate_public_of_unique, valid]
    rfl
  binds sensitive type seed held := by
    unfold checkBinding
    rw [type, held, seed]
    have checked := obfuscated_checked template seedValue named _ _ made
    simp [checked]

theorem bits_composite_bound (named : template.nameAlg ≠ Alg.null) (typed : template.objectType = Alg.keyedhash)
    (supplied : SensitiveCreate) (digestSize : Nat) (s t : σ)
    (made : Succeeds (bitsComposite fill template supplied digestSize seedValue) s pair t) :
    Bound template seedValue pair := by
  have obfuscated : ∀ (data : Bytes) (u : σ), Succeeds (do
      let unique ← Hash.digestParts (templateAlg template) [seedValue, data]
      let bits ← (Tpm2b.new data : TpmResult Tpm2bSensitiveData)
      return (.bits bits, .keyedHash (← (Tpm2b.new unique : TpmResult Tpm2bDigest))) :
        Action TpmRc σ (SensitiveComposite × PublicId)) u pair t → Bound template seedValue pair := by
    intro data u made
    simp only [succeeds_bind, succeeds_lift, succeeds_pure] at made
    obtain ⟨unique, _, ⟨digested, rfl⟩, bits, _, ⟨bitsFit, rfl⟩, digest, _, ⟨digestFits, rfl⟩, rfl, rfl⟩ := made
    apply bits_bound template seedValue named typed bits digest
    rw [Tpm2b.new_buffer _ _ bitsFit, Tpm2b.new_buffer _ _ digestFits]
    exact digested
  unfold bitsComposite at made
  simp only [succeeds_guard] at made
  obtain ⟨_, made⟩ := made
  split at made
  all_goals
    obtain ⟨data, u, _, made⟩ := (succeeds_bind _ _ _ _ _).mp made
    exact obfuscated data u made

theorem sym_composite_bound (named : template.nameAlg ≠ Alg.null) (typed : template.objectType = Alg.symcipher)
    (supplied : SensitiveCreate) (s t : σ) (made : Succeeds (symComposite fill template supplied seedValue) s pair t) :
    Bound template seedValue pair := by
  unfold symComposite at made
  split at made
  next sym parameters =>
    have obfuscated : ∀ (key : Bytes) (u : σ), Succeeds (do
        if key.length ≠ sym.keyBits.toNat / 8 then throw (Rc.keySize.withParameter 1)
        let unique ← Hash.digestParts (templateAlg template) [seedValue, key]
        let key ← (Tpm2b.new key : TpmResult Tpm2bSymKey)
        return (.sym key, .sym (← (Tpm2b.new unique : TpmResult Tpm2bDigest))) :
          Action TpmRc σ (SensitiveComposite × PublicId)) u pair t → Bound template seedValue pair := by
      intro octets u made
      simp only [succeeds_guard, succeeds_bind, succeeds_lift, succeeds_pure] at made
      obtain ⟨_, unique, _, ⟨digested, rfl⟩, key, _, ⟨keyFits, rfl⟩, digest, _, ⟨digestFits, rfl⟩, rfl, rfl⟩ := made
      apply sym_bound template seedValue named typed key digest
      rw [Tpm2b.new_buffer _ _ keyFits, Tpm2b.new_buffer _ _ digestFits]
      exact digested
    simp only [succeeds_guard] at made
    obtain ⟨_, made⟩ := made
    split at made
    all_goals
      obtain ⟨octets, u, _, made⟩ := (succeeds_bind _ _ _ _ _).mp made
      exact obfuscated octets u made
  · exact absurd made (succeeds_throw _ _ _ _)

end

theorem decodes_composite (composite : SensitiveComposite) :
    Decodes (SensitiveComposite.unmarshalWith composite.selector) composite.marshal composite := by
  cases composite with
  | rsa value => exact decodes_bind_last _ _ _ _ _ (Tpm2b.decodes_unmarshal (by decide) value) (decodes_pure _)
  | ecc value => exact decodes_bind_last _ _ _ _ _ (Tpm2b.decodes_unmarshal (by decide) value) (decodes_pure _)
  | bits value => exact decodes_bind_last _ _ _ _ _ (Tpm2b.decodes_unmarshal (by decide) value) (decodes_pure _)
  | sym value => exact decodes_bind_last _ _ _ _ _ (Tpm2b.decodes_unmarshal (by decide) value) (decodes_pure _)

theorem selector_public (composite : SensitiveComposite) : isPublicType composite.selector = true := by
  cases composite <;> rfl

theorem sensitive_read (sensitive : TpmtSensitive) (selector : sensitive.sensitive.selector = sensitive.sensitiveType) :
    Legible TpmtSensitive.unmarshal TpmtSensitive.marshal sensitive := by
  apply legible_of_decodes _ _ _
  simp only [TpmtSensitive.marshal, List.append_assoc]
  apply decodes_bind _ _ _ _ _ _ (decodes_u16 _)
  have typed : isPublicType sensitive.sensitiveType = true := selector ▸ selector_public sensitive.sensitive
  rw [if_neg (by simp [typed])]
  apply decodes_bind _ _ _ _ _ _ (Tpm2b.decodes_unmarshal (by decide) _)
  apply decodes_bind _ _ _ _ _ _ (Tpm2b.decodes_unmarshal (by decide) _)
  exact decodes_bind_last _ _ _ _ _ (selector ▸ decodes_composite sensitive.sensitive) (decodes_pure _)

-- A private area made for a template, and the unique field made with it.
structure Created (template : TpmtPublic) (made : TpmtSensitive × PublicId) : Prop where
  sensitive : Legible TpmtSensitive.unmarshal TpmtSensitive.marshal made.1
  unique : Legible (PublicId.unmarshalWith template.objectType) PublicId.marshal made.2
  valid : validatePublic template = .ok () → validateRestored { template with unique := made.2 } (some made.1) = .ok ()

theorem sealed_created (template : TpmtPublic) (supplied : SensitiveCreate) (seedValue : Bytes)
    (pair : SensitiveComposite × PublicId) (sensitive : TpmtSensitive) (bound : Bound template seedValue pair)
    (sealed : sealSensitive template supplied seedValue pair.1 = .ok sensitive) : Created template (sensitive, pair.2) := by
  simp only [sealSensitive, bind_is_ok, pure_is_ok] at sealed
  obtain ⟨seed, seedFits, rfl⟩ := sealed
  refine ⟨sensitive_read _ bound.selector, bound.unique, fun valid => ?_⟩
  apply valid_of_checks _ _ (bound.loads valid)
  rintro _ ⟨⟩
  exact bound.binds _ rfl (Tpm2b.new_buffer _ _ seedFits) rfl

section

variable (onCurve : Ecc.OnCurve) (template : TpmtPublic) (named : template.nameAlg ≠ Alg.null)
  (supplied : SensitiveCreate) (made : TpmtSensitive × PublicId)

include onCurve named

-- One of the four kinds of object is made, each with its own private part.
theorem create_sensitive_created {σ : Type} (fill : Nat → Action TpmRc σ Bytes) (s t : σ)
    (ran : Succeeds (createSensitive fill template supplied) s made t) : Created template made := by
  unfold createSensitive at ran
  simp only [succeeds_bind, succeeds_lift] at ran
  obtain ⟨digestSize, _, ⟨_, rfl⟩, ran⟩ := ran
  have composed : ∀ (seedValue : Bytes) (u : σ) (action : Action TpmRc σ (SensitiveComposite × PublicId)),
      (∀ pair v, Succeeds action u pair v → Bound template seedValue pair) →
      Succeeds (action >>= fun pair => (do
        return (← sealSensitive template supplied seedValue pair.1, pair.2) : Action TpmRc σ (TpmtSensitive × PublicId)))
        u made t → Created template made := by
    intro seedValue u action bound ran
    simp only [succeeds_bind, succeeds_lift, succeeds_pure] at ran
    obtain ⟨pair, v, drawn, sensitive, _, ⟨sealed, rfl⟩, rfl, rfl⟩ := ran
    exact sealed_created template supplied seedValue pair sensitive (bound pair v drawn) sealed
  have made' : ∀ (seedValue : Bytes) (u : σ), Succeeds (do
      if digestSize < supplied.userAuth.buffer.length then throw (Rc.size.withParameter 1)
      let type := template.objectType
      if (type = Alg.rsa ∨ type = Alg.ecc) ∧ !supplied.data.isEmpty then throw (Rc.value.withParameter 1)
      let pair ←
        if type = Alg.rsa then rsaComposite fill template
        else if type = Alg.ecc then eccKeyComposite fill template
        else if type = Alg.keyedhash then bitsComposite fill template supplied digestSize seedValue
        else if type = Alg.symcipher then symComposite fill template supplied seedValue
        else throw Rc.type
      return (← sealSensitive template supplied seedValue pair.1, pair.2) :
        Action TpmRc σ (TpmtSensitive × PublicId)) u made t → Created template made := by
    intro seedValue u ran
    simp only [succeeds_guard] at ran
    obtain ⟨_, _, ran⟩ := ran
    split at ran
    next typed =>
      exact composed seedValue u _ (fun pair v drawn => rsa_bound fill template seedValue pair typed u v drawn) ran
    split at ran
    next typed =>
      exact composed seedValue u _ (fun pair v drawn =>
        ecc_bound fill template seedValue pair onCurve typed u v drawn) ran
    split at ran
    next typed =>
      exact composed seedValue u _ (fun pair v drawn =>
        bits_composite_bound fill template seedValue pair named typed supplied digestSize u v drawn) ran
    split at ran
    next typed =>
      exact composed seedValue u _ (fun pair v drawn =>
        sym_composite_bound fill template seedValue pair named typed supplied u v drawn) ran
    exact composed seedValue u _ (fun pair v drawn => absurd drawn (succeeds_throw _ _ _ _)) ran
  split at ran
  all_goals
    obtain ⟨seedValue, u, _, ran⟩ := (succeeds_bind _ _ _ _ _).mp ran
    exact made' seedValue u ran

-- What is derived is bound once its unique field is made.
theorem derived_bound (digestSize : Nat) (seedValue : Bytes) (s t : DerivedOctets) (pair : SensitiveComposite × PublicId)
    (unique : PublicId) (composed : Succeeds (derivedComposite template digestSize) s pair t)
    (finished : derivedUnique template pair.1 pair.2 seedValue = .ok unique) : Bound template seedValue (pair.1, unique) := by
  unfold derivedComposite at composed
  split at composed
  next typed =>
    split at composed
    next symmetric scheme curveId kdf parameters =>
      simp only [succeeds_bind, succeeds_lift] at composed
      obtain ⟨_, _, _, scalar, _, _, key, _, _, _, _, ⟨tested, _⟩, made, _⟩ := composed
      have kept : unique = pair.2 := by
        simp only [eccComposite, bind_is_ok, pure_is_ok] at made
        obtain ⟨_, _, _, _, _, _, rfl⟩ := made
        exact (Except.ok.inj finished).symm
      rw [kept]
      exact ecc_key_bound template seedValue pair onCurve typed symmetric scheme curveId kdf parameters key _ tested made
    · exact absurd composed (succeeds_throw _ _ _ _)
  split at composed
  next typed =>
    split at composed
    next sym parameters =>
      simp only [succeeds_bind, succeeds_lift, succeeds_pure] at composed
      obtain ⟨_, _, _, key, _, _, rfl, _⟩ := composed
      simp only [derivedUnique, bind_is_ok, pure_is_ok] at finished
      obtain ⟨_, digested, digest, fits, rfl⟩ := finished
      rw [if_pos typed]
      apply sym_bound template seedValue named typed key digest
      rw [Tpm2b.new_buffer _ _ fits]
      exact digested
    · exact absurd composed (succeeds_throw _ _ _ _)
  split at composed
  next other typed =>
    simp only [succeeds_bind, succeeds_lift, succeeds_pure] at composed
    obtain ⟨_, _, _, bits, _, _, rfl, _⟩ := composed
    simp only [derivedUnique, bind_is_ok, pure_is_ok] at finished
    obtain ⟨_, digested, digest, fits, rfl⟩ := finished
    rw [if_neg other]
    apply bits_bound template seedValue named typed bits digest
    rw [Tpm2b.new_buffer _ _ fits]
    exact digested
  · exact absurd composed (succeeds_throw _ _ _ _)

theorem derived_sensitive_created (s t : DerivedOctets) (ran : Succeeds (derivedSensitive template supplied) s made t) :
    Created template made := by
  unfold derivedSensitive at ran
  simp only [succeeds_bind, succeeds_lift, succeeds_guard] at ran
  obtain ⟨digestSize, _, ⟨_, rfl⟩, _, pair, u, composed, ran⟩ := ran
  have finished : ∀ (seedValue : Bytes) (v : DerivedOctets), Succeeds (do
      let unique ← derivedUnique template pair.1 pair.2 seedValue
      return (← sealSensitive template supplied seedValue pair.1, unique) :
        Action TpmRc DerivedOctets (TpmtSensitive × PublicId)) v made t → Created template made := by
    intro seedValue v ran
    simp only [succeeds_bind, succeeds_lift, succeeds_pure] at ran
    obtain ⟨unique, _, ⟨uniqueMade, rfl⟩, sensitive, _, ⟨sealed, rfl⟩, rfl, rfl⟩ := ran
    exact sealed_created template supplied seedValue (pair.1, unique) sensitive
      (derived_bound onCurve template named digestSize seedValue _ u pair unique composed uniqueMade) sealed
  split at ran
  all_goals
    obtain ⟨seedValue, v, _, ran⟩ := (succeeds_bind _ _ _ _ _).mp ran
    exact finished seedValue v ran

end

-- Another unique field goes into an area that was read.
theorem template_legible (allowDerive : Bool) : Yields (TpmtPublic.unmarshalWith allowDerive) fun template =>
    ∀ unique, Legible (PublicId.unmarshalWith template.objectType) PublicId.marshal unique →
      Legible TpmtPublic.unmarshal TpmtPublic.marshal { template with unique } := by
  refine yields_bind _ _ _ fun objectType => yields_guarded _ _ _ _ fun typed => ?_
  refine yields_bind _ _ _ fun nameAlg => yields_guarded _ _ _ _ fun hashed => ?_
  refine yields_bind_known _ _ _ _ (yields_legible _ _ (reads_back _ _ canonical_flags steady_flags)) fun attributes flags => ?_
  refine yields_bind _ _ _ fun authPolicy => ?_
  refine yields_bind_known _ _ _ _ (yields_legible _ _ (reads_back _ _ (canonical_parms objectType) (steady_parms objectType)))
    fun parameters parms => ?_
  have replaced : ∀ read unique, Legible (PublicId.unmarshalWith objectType) PublicId.marshal unique →
      Legible TpmtPublic.unmarshal TpmtPublic.marshal
        { (⟨objectType, nameAlg, attributes, authPolicy, parameters, read⟩ : TpmtPublic) with unique } := by
    intro read unique given
    apply legible_of_decodes _ _ _
    simp only [TpmtPublic.marshal, List.append_assoc]
    refine decodes_bind _ _ _ _ _ _ (decodes_u16 _) ?_
    rw [if_neg typed]
    apply decodes_bind _ _ _ _ _ _ (decodes_u16 _)
    rw [if_neg hashed]
    apply decodes_bind _ _ _ _ _ _ (decodes_of_legible _ _ _ steady_flags flags)
    apply decodes_bind _ _ _ _ _ _ (Tpm2b.decodes_unmarshal (by decide) _)
    apply decodes_bind _ _ _ _ _ _ (decodes_of_legible _ _ _ (steady_parms objectType) parms)
    exact decodes_bind_last _ _ _ _ _ (decodes_of_legible _ _ _ (steady_public_id objectType) given) (decodes_pure _)
  cases allowDerive with
  | true => exact yields_bind _ _ _ fun read => yields_pure _ _ (replaced read)
  | false => exact yields_bind _ _ _ fun read => yields_pure _ _ (replaced read)

theorem created_sound (template : TpmtPublic) (made : TpmtSensitive × PublicId)
    (legible : ∀ unique, Legible (PublicId.unmarshalWith template.objectType) PublicId.marshal unique →
      Legible TpmtPublic.unmarshal TpmtPublic.marshal { template with unique })
    (checked : validateCreationTemplate template = .ok ()) (created : template.nameAlg ≠ Alg.null → Created template made)
    (hierarchy : UInt32) (parent : Bytes) (object : Object)
    (new : Object.new { template with unique := made.2 } (some made.1) hierarchy parent true = .ok object) :
    (Slot.object object).Sound := by
  obtain ⟨area, sensitive, named⟩ := object_named _ _ _ _ _ object new
  intro hashed
  rw [area] at hashed
  have bound := created hashed
  have valid : validatePublic template = .ok () := by
    unfold validateCreationTemplate at checked
    exact ((bind_is_ok _ _ _).mp checked).choose_spec.1
  refine ⟨area ▸ legible made.2 bound.unique, ?_, ?_, ?_⟩
  · rw [sensitive]
    rintro _ ⟨⟩
    exact bound.sensitive
  · rw [area, sensitive]
    exact bound.valid valid
  · rw [area]
    exact named

section

variable (onCurve : Ecc.OnCurve) (s : TpmState) (request : Request)

theorem work_places_draw (count : Nat) : Guarantees WorkPlaces (Work.bytes count) :=
  guarantees_zoom _ _ _ _ fun w => work_places_steady.refl w

include onCurve

theorem create_primary_places : Guarantees WorkPlaces (createPrimary s request) := by
  have steady := work_places_steady
  refine guarantees_lift_bind steady.refl _ _ fun primaryHandle _ => ?_
  refine guarantees_lift_bind steady.refl _ _ fun input read => ?_
  have legible : ∀ unique, Legible (PublicId.unmarshalWith input.area.objectType) PublicId.marshal unique →
      Legible TpmtPublic.unmarshal TpmtPublic.marshal { input.area with unique } := by
    refine yields_bind _ _ (fun input : Creation => ∀ unique, Legible (PublicId.unmarshalWith input.area.objectType)
      PublicId.marshal unique → Legible TpmtPublic.unmarshal TpmtPublic.marshal { input.area with unique })
      (fun sensitive => ?_) _ _ _ ((params_is_ok _ _ _).mp read)
    refine yields_bind_known _ _ _ _ (yields_with_parameter 2 _ _ (yields_sized16 _ _ (template_legible false)))
      fun area legible => ?_
    exact yields_bind _ _ _ fun _ => yields_bind _ _ _ fun _ => yields_pure _ _ legible
  iterate 2 refine guarantees_guard steady.refl _ _ _ _ fun _ => ?_
  refine guarantees_lift_bind steady.refl _ _ fun _ checked => ?_
  refine guarantees_lift_bind steady.refl _ _ fun seed _ => guarantees_lift_bind steady.refl _ _ fun context _ => ?_
  refine guarantees_lift_bind steady.refl _ _ fun made drawn => guarantees_lift_bind steady.refl _ _ fun object new => ?_
  have created : input.area.nameAlg ≠ Alg.null → Created input.area made := fun named => by
    obtain ⟨t, ran⟩ := (eval_is_ok _ _ _).mp drawn
    exact create_sensitive_created onCurve input.area named input.sensitive made _ _ t ran
  have sound := created_sound input.area made legible ((map_error_is_ok _ _ _).mp checked) created _ _ object new
  iterate 2 refine guarantees_lift_bind steady.refl _ _ fun _ _ => ?_
  refine guarantees_bind steady _ _ (work_places_insert _ sound) fun handle => ?_
  iterate 2 refine guarantees_lift_bind steady.refl _ _ fun _ _ => ?_
  exact guarantees_pure steady.refl _

theorem derive_places (parent : DerivationParent) (supplied : SensitiveCreate) (blob : Bytes) :
    Guarantees WorkPlaces (deriveObject parent supplied blob) := by
  have steady := work_places_steady
  refine guarantees_lift_bind steady.refl _ _ fun parts read => ?_
  have legible := template_legible true blob parts.1 parts.2 ((map_error_is_ok _ _ _).mp read)
  refine guarantees_guard steady.refl _ _ _ _ fun _ => guarantees_lift_bind steady.refl _ _ fun _ checked => ?_
  refine guarantees_lift_bind steady.refl _ _ fun _ _ => ?_
  refine guarantees_guard steady.refl _ _ _ _ fun _ => guarantees_guard steady.refl _ _ _ _ fun _ => ?_
  iterate 2 refine guarantees_lift_bind steady.refl _ _ fun _ _ => ?_
  refine guarantees_lift_bind steady.refl _ _ fun made drawn => guarantees_lift_bind steady.refl _ _ fun object new => ?_
  have created : parts.1.nameAlg ≠ Alg.null → Created parts.1 made := fun named => by
    obtain ⟨t, ran⟩ := (eval_is_ok _ _ _).mp drawn
    exact derived_sensitive_created onCurve parts.1 named supplied made _ t ran
  have sound := created_sound parts.1 made legible ((map_error_is_ok _ _ _).mp checked) created _ _ object new
  refine guarantees_bind steady _ _ (work_places_insert _ (inherit_sound object _ sound)) fun handle => ?_
  exact guarantees_lift_bind steady.refl _ _ fun _ _ => guarantees_pure steady.refl _

theorem create_loaded_places : Guarantees WorkPlaces (createLoaded s request) := by
  have steady := work_places_steady
  iterate 2 refine guarantees_lift_bind steady.refl _ _ fun _ _ => ?_
  refine guarantees_lift_bind steady.refl _ _ fun parent _ => ?_
  dsimp only
  split
  · exact derive_places onCurve _ _ _
  · refine guarantees_lift_bind steady.refl _ _ fun template read => ?_
    have legible := yields_from_bytes _ _ (template_legible false) _ template ((map_error_is_ok _ _ _).mp read)
    refine guarantees_lift_bind steady.refl _ _ fun _ checked => ?_
    have sound : ∀ made hierarchy qualifiedName object, (template.nameAlg ≠ Alg.null → Created template made) →
        Object.new { template with unique := made.2 } (some made.1) hierarchy qualifiedName true = .ok object →
        (Slot.object object).Sound := fun made _ _ object created new =>
      created_sound template made legible ((map_error_is_ok _ _ _).mp checked) created _ _ object new
    refine guarantees_ite _ _ _ _ (fun _ => ?_) fun _ => ?_
    · refine guarantees_guard steady.refl _ _ _ _ fun _ => ?_
      iterate 2 refine guarantees_lift_bind steady.refl _ _ fun _ _ => ?_
      refine guarantees_lift_bind steady.refl _ _ fun made drawn => guarantees_lift_bind steady.refl _ _ fun object new => ?_
      have created : template.nameAlg ≠ Alg.null → Created template made := fun named => by
        obtain ⟨t, ran⟩ := (eval_is_ok _ _ _).mp drawn
        exact create_sensitive_created onCurve template named _ made _ _ t ran
      refine guarantees_bind steady _ _ (work_places_insert _ (sound made _ _ object created new)) fun handle => ?_
      exact guarantees_lift_bind steady.refl _ _ fun _ _ => guarantees_pure steady.refl _
    · iterate 2 refine guarantees_lift_bind steady.refl _ _ fun _ _ => ?_
      refine guarantees_bind_known steady _ _ (draws_create_sensitive WorkPlaces steady Work.bytes work_places_draw _ _)
        fun w made w' ran => ?_
      iterate 2 refine guarantees_lift_bind steady.refl _ _ fun _ _ => ?_
      refine guarantees_lift_bind steady.refl _ _ fun object new => ?_
      have placed := sound made _ _ object
        (fun named => create_sensitive_created onCurve template named _ made _ w w' ran) new
      refine guarantees_bind steady _ _ (work_places_insert _ (inherit_sound object _ placed)) fun handle => ?_
      exact guarantees_lift_bind steady.refl _ _ fun _ _ => guarantees_pure steady.refl _

end

end

end Swtrust
