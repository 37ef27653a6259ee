import Mathlib.Data.Int.GCD
import Mathlib.FieldTheory.Finite.Basic

set_option autoImplicit false

-- Powers with exponents that undo each other, modulo a product of two primes.

namespace Swtrust.Library

theorem pow_undone (p exponent base : Nat) (prime : p.Prime) (positive : 0 < exponent)
    (undoes : exponent ≡ 1 [MOD p - 1]) : base ^ exponent ≡ base [MOD p] := by
  by_cases divides : p ∣ base
  · have none : base ≡ 0 [MOD p] := (Nat.modEq_zero_iff_dvd).mpr divides
    exact ((Nat.modEq_zero_iff_dvd).mpr (dvd_pow divides positive.ne')).trans none.symm
  · obtain ⟨turns, split⟩ := (Nat.modEq_iff_dvd' positive).mp undoes.symm
    have coprime : Nat.Coprime base p := ((Nat.Prime.coprime_iff_not_dvd prime).mpr divides).symm
    have turn : base ^ (p - 1) ≡ 1 [MOD p] := by
      have fermat := Nat.ModEq.pow_totient coprime
      rwa [Nat.totient_prime prime] at fermat
    have whole : exponent = (p - 1) * turns + 1 := by omega
    calc base ^ exponent = (base ^ (p - 1)) ^ turns * base := by rw [whole, pow_succ, pow_mul]
      _ ≡ 1 ^ turns * base [MOD p] := Nat.ModEq.mul_right base (turn.pow turns)
      _ = base := by rw [one_pow, one_mul]

theorem pow_undone_product (p q exponent base : Nat) (first : p.Prime) (second : q.Prime) (apart : p ≠ q)
    (positive : 0 < exponent) (undoes : exponent ≡ 1 [MOD Nat.lcm (p - 1) (q - 1)]) :
    base ^ exponent ≡ base [MOD p * q] :=
  (Nat.modEq_and_modEq_iff_modEq_mul ((Nat.coprime_primes first second).mpr apart)).mp
    ⟨pow_undone p exponent base first positive (undoes.of_dvd (Nat.dvd_lcm_left _ _)),
      pow_undone q exponent base second positive (undoes.of_dvd (Nat.dvd_lcm_right _ _))⟩

theorem gcd_inverse (a modulus : Nat) (some : modulus ≠ 0) (coprime : Nat.gcd a modulus = 1) :
    a * (Nat.gcdA a modulus % (modulus : Int)).toNat ≡ 1 [MOD modulus] := by
  have positive : (0 : Int) ≤ Nat.gcdA a modulus % (modulus : Int) := Int.emod_nonneg _ (by exact_mod_cast some)
  have combined := Nat.gcd_eq_gcd_ab a modulus
  rw [coprime] at combined
  apply (Int.natCast_modEq_iff).mp
  rw [Nat.cast_mul, Int.toNat_of_nonneg positive]
  refine ((Int.mod_modEq _ _).mul_left _).trans ?_
  refine (Int.modEq_iff_dvd).mpr ⟨Nat.gcdB a modulus, ?_⟩
  rw [combined]
  ring

end Swtrust.Library
