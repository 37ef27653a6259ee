import Swtrust.Commands.Request
import Swtrust.Library.Canonical
import Swtrust.Structures.Schemes

set_option autoImplicit false

namespace Swtrust

open Library

theorem run_bind_decodes {α β : Type} (reader : Reader α) (next : α → Reader β) (octets rest : Bytes) (value : α)
    (first : Decodes reader octets value) : (reader >>= next).run (octets ++ rest) = (next value).run rest := by
  rw [StateT.run_bind, first rest]
  rfl

theorem decodes_with_parameter {α : Type} (index : Nat) (reader : Reader α) (octets : Bytes) (value : α)
    (read : Decodes reader octets value) : Decodes (reader.withParameter index) octets value := by
  intro rest
  have inner := read rest
  unfold StateT.run at inner ⊢
  unfold Reader.withParameter Reader.mapErr
  rw [inner]
  rfl

theorem decodes_parameter {max : Nat} (bounded : max < 65536) (index : Nat) (value : Tpm2b max) :
    Decodes (Reader.withParameter index Tpm2b.unmarshal : Reader (Tpm2b max)) value.marshal value :=
  decodes_with_parameter index _ _ _ (Tpm2b.decodes_unmarshal bounded value)

theorem with_parameter_is_ok {α : Type} (index : Nat) (reader : Reader α) (input : Bytes) (read : α × Bytes) :
    (reader.withParameter index).run input = .ok read ↔ reader.run input = .ok read :=
  map_error_is_ok _ _ _

theorem params_is_ok {α : Type} (request : Request) (reader : Reader α) (value : α) :
    request.params reader = .ok value ↔ reader.run request.parameters = .ok (value, []) := by
  have ended : ∀ rest : Bytes, expectEnd.run rest = if rest.isEmpty then .ok ((), rest) else .error Rc.size :=
    fun _ => rfl
  unfold Request.params Request.read
  rw [StateT.run_bind]
  simp only [StateT.run_bind]
  cases reader.run request.parameters with
  | error e => exact ⟨fun same => (by cases same), fun same => (by cases same)⟩
  | ok read =>
      obtain ⟨read, rest⟩ := read
      simp only [bind, Except.bind, ended]
      cases rest with
      | nil =>
          refine ⟨fun same => ?_, fun same => ?_⟩
          · cases same
            rfl
          · cases same
            rfl
      | cons octet rest => exact ⟨fun same => (by cases same), fun same => (by cases same)⟩

theorem params_of_decodes {α : Type} (request : Request) (reader : Reader α) (value : α)
    (read : Decodes reader request.parameters value) : request.params reader = .ok value := by
  have whole := read []
  rw [List.append_nil] at whole
  exact (params_is_ok request reader value).mpr whole

theorem from_bytes_of_decodes {α : Type} (reader : Reader α) (octets : Bytes) (value : α)
    (read : Decodes reader octets value) : reader.fromBytes octets = .ok value := by
  have whole := read []
  rw [List.append_nil] at whole
  unfold Reader.fromBytes
  rw [whole]

theorem EccPoint.decodes_unmarshal_sized (point : EccPoint) : Decodes EccPoint.unmarshalSized point.marshalSized point := by
  have body : Decodes EccPoint.unmarshal point.marshal point :=
    decodes_bind _ _ _ _ _ _ (Tpm2b.decodes_unmarshal (by decide) point.x)
      (decodes_bind_pure _ _ _ _ (Tpm2b.decodes_unmarshal (by decide) point.y))
  have short : point.marshal.length < 65536 := by
    have x := point.x.fits
    have y := point.y.fits
    unfold Config.maxEccKeyBytes at x y
    simp only [EccPoint.marshal, Tpm2b.marshal, sized16, List.length_append, be16_length]
    omega
  have size : (UInt16.ofNat point.marshal.length).toNat = point.marshal.length := by
    simpa using Nat.mod_eq_of_lt short
  refine decodes_bind _ _ _ _ _ _ (decodes_u16 _) ?_
  rw [size]
  exact decodes_within _ _ _ _ _ body

theorem EccPoint.of_octets_made (x y : Bytes) (point : EccPoint) (made : EccPoint.ofOctets (x, y) = .ok point) :
    point.x.buffer = x ∧ point.y.buffer = y := by
  obtain ⟨first, madeX, made⟩ := (bind_is_ok _ _ _).mp made
  obtain ⟨second, madeY, made⟩ := (bind_is_ok _ _ _).mp made
  obtain rfl := Except.ok.inj made
  exact ⟨Tpm2b.new_buffer _ _ madeX, Tpm2b.new_buffer _ _ madeY⟩

end Swtrust
