import Swtrust.Crypto.Signatures
import Swtrust.Library.ModularPower
import Swtrust.Toy
import Mathlib.NumberTheory.LucasLehmer

set_option autoImplicit false

-- The raw operations of an RSA key undo each other where its two factors are primes.

namespace Swtrust

open Library Action

namespace Rsa

-- Square and multiply, from the most significant bit of the exponent on.
theorem mod_exp_eq (base exponent modulus : Nat) : modExp base exponent modulus = base ^ exponent % modulus := by
  induction exponent using Nat.binaryRec' with
  | zero => simp [modExp]
  | bit bit rest leading ih =>
      unfold modExp at ih ⊢
      rw [Nat.bits_append_bit rest bit leading, List.foldr_cons, ih]
      have squared : base ^ rest % modulus * (base ^ rest % modulus) % modulus = base ^ (2 * rest) % modulus := by
        rw [← Nat.mul_mod, ← pow_add, two_mul]
      cases bit with
      | false =>
          rw [if_neg Bool.false_ne_true, squared]
          rfl
      | true =>
          rw [if_pos rfl, squared, Nat.mod_mul_mod, ← pow_succ]
          rfl

theorem below_size (n : Nat) : n < 256 ^ ((n.size + 7) / 8) := by
  calc n < 2 ^ n.size := Nat.lt_size_self n
    _ ≤ 2 ^ (8 * ((n.size + 7) / 8)) := Nat.pow_le_pow_right (by decide) (by omega)
    _ = 256 ^ ((n.size + 7) / 8) := by rw [pow_mul]; rfl

-- What both operations do, each with its exponent.
def raise (area : RsaPublic) (exponent : Nat) (input : Bytes) : TpmResult Bytes := do
  if input.length ≠ area.size then throw Rc.size
  if area.n ≤ beNat input then throw Rc.value
  toBytesPadded (modExp (beNat input) exponent area.n) area.size

theorem raise_is_ok (area : RsaPublic) (exponent : Nat) (input out : Bytes) :
    raise area exponent input = .ok out ↔ input.length = area.size ∧ beNat input < area.n ∧
      beBytes area.size (beNat input ^ exponent % area.n) = out := by
  unfold raise
  rw [guarded_then_is_ok, guarded_then_is_ok, not_not, Nat.not_le, mod_exp_eq]
  refine and_congr_right fun _ => and_congr_right fun below => ?_
  have fits : beNat input ^ exponent % area.n < 256 ^ area.size :=
    (Nat.mod_lt _ (Nat.zero_lt_of_lt below)).trans (below_size area.n)
  rw [toBytesPadded, if_pos fits]
  exact ⟨Except.ok.inj, congrArg Except.ok⟩

-- A number below the modulus comes back from the one exponent after the other.
theorem raise_undone (area : RsaPublic) (first second : Nat)
    (undone : ∀ base : Nat, base ^ (first * second) ≡ base [MOD area.n]) (input out : Bytes)
    (raised : raise area first input = .ok out) : raise area second out = .ok input := by
  obtain ⟨sized, below, rfl⟩ := (raise_is_ok area first input out).mp raised
  have reduced : beNat input ^ first % area.n < area.n := Nat.mod_lt _ (Nat.zero_lt_of_lt below)
  have read : beNat (beBytes area.size (beNat input ^ first % area.n)) = beNat input ^ first % area.n :=
    be_nat_be_bytes_of_lt _ _ (reduced.trans (below_size area.n))
  refine (raise_is_ok area second _ input).mpr ⟨be_bytes_length _ _, by rw [read]; exact reduced, ?_⟩
  have back : (beNat input ^ first % area.n) ^ second % area.n = beNat input := by
    calc (beNat input ^ first % area.n) ^ second % area.n = beNat input ^ (first * second) % area.n := by
          rw [← Nat.pow_mod, pow_mul]
      _ = beNat input % area.n := undone (beNat input)
      _ = beNat input := Nat.mod_eq_of_lt below
  rw [read, back, ← sized]
  exact be_bytes_be_nat input

theorem private_exponent_undoes (e p q d : Nat) (made : privateExponent e p q = .ok d) :
    e * d ≡ 1 [MOD Nat.lcm (p - 1) (q - 1)] := by
  unfold privateExponent modInverse at made
  split at made
  next usable =>
    cases made
    exact gcd_inverse e _ usable.1 usable.2
  next => cases made

theorem inverse_of_primes (modulus prime : Bytes) (exponent : UInt32) (key : RsaPrivate)
    (made : RsaPrivate.fromPrime modulus exponent prime = .ok key) (first : key.p.Prime) (second : key.q.Prime)
    (apart : key.p ≠ key.q) : Inverse key := by
  unfold RsaPrivate.fromPrime at made
  obtain ⟨area, _, made⟩ := (bind_is_ok _ _ _).mp made
  obtain ⟨_, made⟩ := (guarded_then_is_ok _ _ _ _ _).mp made
  obtain ⟨whole, made⟩ := (guarded_then_is_ok _ _ _ _ _).mp made
  obtain ⟨d, exponents, made⟩ := (bind_is_ok _ _ _).mp made
  cases made
  simp only [not_or, not_not] at whole
  have product : beNat prime * (area.n / beNat prime) = area.n := Nat.mul_div_cancel' (Nat.dvd_of_mod_eq_zero whole.1)
  have undoes := private_exponent_undoes area.e _ _ d exponents
  have positive : 0 < area.e * d := by
    rcases Nat.eq_zero_or_pos (area.e * d) with zero | positive
    · -- Two different primes are not both two, so there are other numbers than zero modulo the period.
      rw [zero] at undoes
      have period : Nat.lcm (beNat prime - 1) (area.n / beNat prime - 1) ∣ 1 := (Nat.modEq_zero_iff_dvd).mp undoes.symm
      have ones : beNat prime - 1 = 1 ∧ area.n / beNat prime - 1 = 1 :=
        ⟨Nat.dvd_one.mp ((Nat.dvd_lcm_left _ _).trans period), Nat.dvd_one.mp ((Nat.dvd_lcm_right _ _).trans period)⟩
      refine absurd (?_ : beNat prime = area.n / beNat prime) apart
      omega
    · exact positive
  have undone : ∀ base : Nat, base ^ (area.e * d) ≡ base [MOD area.n] := fun base => by
    rw [← product]
    exact pow_undone_product _ _ _ base first second apart positive undoes
  refine ⟨raise_undone area area.e d undone, raise_undone area d area.e fun base => ?_⟩
  rw [Nat.mul_comm]
  exact undone base

end Rsa

namespace Toy

-- The factors 2 ^ 127 - 1 and 2 ^ 521 - 1.
def mersenneArea : TpmtPublic where
  objectType := Alg.rsa
  nameAlg := Alg.sha256
  objectAttributes := ⟨ObjectAttributes.signEncrypt ||| ObjectAttributes.decrypt⟩
  authPolicy := Tpm2b.empty
  parameters := .rsa SymDef.null Scheme.null 648 0
  unique := .rsa ((Tpm2b.new (beBytes 81 (mersenne 127 * mersenne 521)) : TpmResult Tpm2bPublicKeyRsa).toOption.getD
    Tpm2b.empty)

def mersenneKey : Object where
  area := mersenneArea
  sensitive := some ⟨Alg.rsa, Tpm2b.empty, Tpm2b.empty,
    .rsa ((Tpm2b.new (beBytes 66 (mersenne 521)) : TpmResult Tpm2bPrivateKeyRsa).toOption.getD Tpm2b.empty)⟩
  name := []
  qualifiedName := []
  hierarchy := Rh.owner
  tpmGenerated := false
  stateClear := false

-- The factors are found again, a message is padded and a digest is signed.
theorem mersenne_key_works :
    (found (Rsa.RsaPrivate.fromPrime (beBytes 81 (mersenne 127 * mersenne 521)) 0 (beBytes 66 (mersenne 521))) (fun key =>
        decide (key.p = mersenne 521 ∧ key.q = mersenne 127 ∧ key.p ≠ key.q)) &&
      endsWith (rsaPad mersenneKey ⟨mersenne 127 * mersenne 521, 65537⟩ ⟨Alg.oaep, .hash Alg.sha256⟩ [1, 2, 3] [4])
        manufacturedState.rng (fun _ _ => true) &&
      endsWith (signDigest mersenneKey ⟨Alg.rsapss, .hash Alg.sha256⟩ (List.replicate 32 5) ⟨2, 1⟩) manufacturedState.work
        (fun _ _ => true)) = true := by
  decide +kernel

theorem mersenne_holds_inverse : HoldsInverse mersenneKey := by
  intro sensitive modulus symmetric scheme keyBits exponent key held unique parameters made
  cases held
  cases unique
  cases parameters
  have works := mersenne_key_works
  rw [Bool.and_eq_true, Bool.and_eq_true] at works
  obtain ⟨other, same, factors⟩ := ok_of_found _ _ works.1.1
  obtain rfl := Except.ok.inj (same.symm.trans made)
  obtain ⟨first, second, apart⟩ := of_decide_eq_true factors
  apply Rsa.inverse_of_primes _ _ _ _ made _ _ apart
  · rw [first]
    exact lucas_lehmer_sufficiency _ (by norm_num) (by norm_num)
  · rw [second]
    exact lucas_lehmer_sufficiency _ (by norm_num) (by norm_num)

-- A message comes out of its padding, and a signature of the key is accepted.
theorem signed_and_padded : ∃ area block rng' signature signed w',
    Succeeds (rsaPad mersenneKey area ⟨Alg.oaep, .hash Alg.sha256⟩ [1, 2, 3] [4]) manufacturedState.rng block rng' ∧
    rsaUnpad mersenneKey ⟨Alg.oaep, .hash Alg.sha256⟩ block [4] = .ok [1, 2, 3] ∧
    Succeeds (signDigest mersenneKey ⟨Alg.rsapss, .hash Alg.sha256⟩ (List.replicate 32 5) ⟨2, 1⟩) manufacturedState.work
      (signature, signed) w' ∧
    verifyDigest mersenneKey (List.replicate 32 5) signature = .ok () := by
  have works := mersenne_key_works
  rw [Bool.and_eq_true, Bool.and_eq_true] at works
  obtain ⟨block, rng', padded, _⟩ := succeeds_of_ends_with _ _ _ works.1.2
  obtain ⟨⟨signature, signed⟩, w', made, _⟩ := succeeds_of_ends_with _ _ _ works.2
  refine ⟨_, block, rng', signature, signed, w', padded, ?_, made, ?_⟩
  · exact (rsa_padding_sound.1 _ _ _ _ _ _ _ _ (.inl rfl) padded).2
  · exact rsa_padding_sound.2.1 mersenneKey mersenneKey ⟨Alg.rsapss, .hash Alg.sha256⟩ _ 2 _ ⟨2, 1⟩ _ _ _ _ rfl
      mersenne_holds_inverse rfl rfl made

end Toy

end Swtrust
