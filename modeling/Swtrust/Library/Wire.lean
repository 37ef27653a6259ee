import Mathlib.Data.List.Basic
import Mathlib.Tactic

set_option autoImplicit false

namespace Swtrust.Library

abbrev Bytes := List UInt8

def beBytes : Nat → Nat → Bytes
  | 0, _ => []
  | width + 1, value => beBytes width (value / 256) ++ [UInt8.ofNat value]

def beNat (octets : Bytes) : Nat := octets.foldl (fun total octet => total * 256 + octet.toNat) 0

@[simp] theorem be_bytes_length (width value : Nat) : (beBytes width value).length = width := by
  induction width generalizing value with
  | zero => rfl
  | succ width ih => simp [beBytes, ih]

theorem be_nat_concat (octets : Bytes) (octet : UInt8) :
    beNat (octets ++ [octet]) = beNat octets * 256 + octet.toNat := by
  simp [beNat]

theorem be_nat_be_bytes (width value : Nat) : beNat (beBytes width value) = value % 256 ^ width := by
  induction width generalizing value with
  | zero => simp [beBytes, beNat, Nat.mod_one]
  | succ width ih =>
      rw [beBytes, be_nat_concat, ih, Nat.pow_succ, Nat.mul_comm (256 ^ width) 256, Nat.mod_mul]
      have low : (UInt8.ofNat value).toNat = value % 256 := by simp
      rw [low]
      ring

theorem be_nat_lt (octets : Bytes) : beNat octets < 256 ^ octets.length := by
  induction octets using List.reverseRecOn with
  | nil => simp [beNat]
  | append_singleton octets octet ih =>
      have small := octet.toNat_lt
      rw [be_nat_concat, List.length_append, List.length_singleton, pow_succ]
      omega

theorem be_bytes_be_nat (octets : Bytes) : beBytes octets.length (beNat octets) = octets := by
  induction octets using List.reverseRecOn with
  | nil => rfl
  | append_singleton octets octet ih =>
      have small := octet.toNat_lt
      rw [List.length_append, List.length_singleton, beBytes, be_nat_concat]
      rw [show (beNat octets * 256 + octet.toNat) / 256 = beNat octets by omega, ih]
      congr 2
      exact UInt8.toNat_inj.mp (by simp)

theorem be_nat_be_bytes_of_lt (width value : Nat) (small : value < 256 ^ width) :
    beNat (beBytes width value) = value := by
  rw [be_nat_be_bytes, Nat.mod_eq_of_lt small]

theorem be_bytes_inj (width a b : Nat) (smallA : a < 256 ^ width) (smallB : b < 256 ^ width)
    (same : beBytes width a = beBytes width b) : a = b := by
  rw [← be_nat_be_bytes_of_lt width a smallA, ← be_nat_be_bytes_of_lt width b smallB, same]

theorem append_split (width : Nat) (a b restA restB : Bytes) (lengthA : a.length = width)
    (lengthB : b.length = width) (same : a ++ restA = b ++ restB) : a = b ∧ restA = restB :=
  List.append_inj same (lengthA.trans lengthB.symm)

abbrev Decoder (ε : Type) := StateT Bytes (Except ε)

section Decoders

variable {ε α β : Type}

def takeOctets (short : ε) (count : Nat) : Decoder ε Bytes := fun input =>
  if input.length < count then .error short else .ok (input.take count, input.drop count)

def takeNat (short : ε) (width : Nat) : Decoder ε Nat := do
  let octets ← takeOctets short width
  return beNat octets

def decodeMany (decoder : Decoder ε α) : Nat → Decoder ε (List α)
  | 0 => pure []
  | count + 1 => do
    let head ← decoder
    let tail ← decodeMany decoder count
    return head :: tail

def Decoder.within (short left : ε) (size : Nat) (decoder : Decoder ε α) : Decoder ε α := do
  let body ← takeOctets short size
  match decoder.run body with
  | .error e => throw e
  | .ok (value, []) => return value
  | .ok (_, _ :: _) => throw left

def Decodes (decoder : Decoder ε α) (octets : Bytes) (value : α) : Prop :=
  ∀ rest, decoder.run (octets ++ rest) = .ok (value, rest)

theorem decodes_pure (value : α) : Decodes (pure value : Decoder ε α) [] value := by
  intro rest
  rfl

theorem decodes_bind (decoder : Decoder ε α) (next : α → Decoder ε β) (head tail : Bytes) (a : α) (b : β)
    (first : Decodes decoder head a) (second : Decodes (next a) tail b) :
    Decodes (decoder >>= next) (head ++ tail) b := by
  intro rest
  have step := first (tail ++ rest)
  rw [List.append_assoc, StateT.run_bind, step]
  exact second rest

theorem decodes_bind_last (decoder : Decoder ε α) (next : α → Decoder ε β) (octets : Bytes) (a : α) (b : β)
    (first : Decodes decoder octets a) (second : Decodes (next a) [] b) :
    Decodes (decoder >>= next) octets b := by
  simpa using decodes_bind decoder next octets [] a b first second

theorem decodes_bind_pure (decoder : Decoder ε α) (f : α → β) (octets : Bytes) (a : α)
    (first : Decodes decoder octets a) : Decodes (decoder >>= fun x => pure (f x)) octets (f a) := by
  exact decodes_bind_last decoder (fun x => pure (f x)) octets a (f a) first (decodes_pure (f a))

-- What a decoder reads ends where it says, so that what it reads first of two equal strings is one value.
theorem decodes_delimits (decoder : Decoder ε α) (octets octets' rest rest' : Bytes) (a b : α)
    (first : Decodes decoder octets a) (second : Decodes decoder octets' b) (same : octets ++ rest = octets' ++ rest') :
    a = b ∧ rest = rest' := by
  have read := first rest
  rw [same, second rest'] at read
  cases read
  exact ⟨rfl, rfl⟩

theorem decodes_take_octets (short : ε) (octets : Bytes) :
    Decodes (takeOctets short octets.length) octets octets := by
  intro rest
  simp [takeOctets, StateT.run]

theorem decodes_take_nat (short : ε) (width value : Nat) (small : value < 256 ^ width) :
    Decodes (takeNat short width) (beBytes width value) value := by
  have read := decodes_take_octets short (beBytes width value)
  rw [be_bytes_length] at read
  have whole := decodes_bind_pure (takeOctets short width) beNat (beBytes width value) _ read
  rw [be_nat_be_bytes_of_lt width value small] at whole
  exact whole

theorem decodes_within (short left : ε) (decoder : Decoder ε α) (body : Bytes) (value : α)
    (inner : Decodes decoder body value) :
    Decodes (Decoder.within short left body.length decoder) body value := by
  intro rest
  have whole : decoder.run body = .ok (value, []) := by
    simpa using inner []
  have read : (takeOctets short body.length).run (body ++ rest) = .ok (body, rest) :=
    decodes_take_octets short body rest
  simp only [Decoder.within, StateT.run_bind, read]
  change StateT.run (match decoder.run body with | _ => _) rest = _
  rw [whole]
  rfl

end Decoders

end Swtrust.Library
