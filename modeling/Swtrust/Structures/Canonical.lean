import Swtrust.Library.Canonical
import Swtrust.Structures.Nv

set_option autoImplicit false

namespace Swtrust

open Library

-- A number of fixed width is written as it was read.
theorem canonical_number {α : Type} (width : Nat) (make : Nat → α) (encode : α → Bytes)
    (same : ∀ number, number < 256 ^ width → encode (make number) = beBytes width number) :
    Canonical (do return make (← takeNat Rc.insufficient width)) encode := by
  intro input value rest ran
  obtain ⟨number, middle, began, ran⟩ := (reader_bind_is_ok _ _ _ _ _).mp ran
  cases ran
  rw [same number (take_nat_lt Rc.insufficient width input rest number began)]
  exact canonical_take_nat Rc.insufficient width input number rest began

theorem canonical_u16 : Canonical u16 be16 :=
  canonical_number 2 UInt16.ofNat be16 fun number small => by rw [be16, UInt16.toNat_ofNat_of_lt' small]

theorem canonical_u32 : Canonical u32 be32 :=
  canonical_number 4 UInt32.ofNat be32 fun number small => by rw [be32, UInt32.toNat_ofNat_of_lt' small]

theorem canonical_tpm2b {max : Nat} : Canonical (Tpm2b.unmarshal : Reader (Tpm2b max)) Tpm2b.marshal := by
  refine rewrites_bind _ _ _ _ _ canonical_u16 fun size => ?_
  by_cases large : max < size.toNat
  · rw [if_pos large]
    exact rewrites_throw _ _ _
  · rw [if_neg large]
    intro input value rest ran
    obtain ⟨buffer, middle, taken, made⟩ := (reader_bind_is_ok _ _ _ _ _).mp ran
    have here : input = buffer ++ middle := canonical_take_octets Rc.insufficient size.toNat input buffer middle taken
    have length := take_octets_length Rc.insufficient size.toNat input buffer middle taken
    cases sized : (Tpm2b.new buffer : TpmResult (Tpm2b max)) with
    | error e =>
        rw [sized] at made
        cases made
    | ok fitted =>
        rw [sized] at made
        cases made
        rw [here, Tpm2b.marshal, sized16, Tpm2b.new_buffer buffer _ sized, length, UInt16.ofNat_toNat]
        rw [List.nil_append, List.append_assoc]

theorem canonical_pin_counters : Canonical NvPinCounterParameters.unmarshal NvPinCounterParameters.marshal := by
  refine rewrites_bind _ _ _ _ _ canonical_u32 fun pinCount => ?_
  refine rewrites_bind _ _ _ _ _ canonical_u32 fun pinLimit => ?_
  exact rewrites_pure _ _ _ rfl

end Swtrust
