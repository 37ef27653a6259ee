import Swtrust.Library.Result
import Swtrust.Library.Wire

set_option autoImplicit false

namespace Swtrust.Library

section

variable {ε α β : Type}

theorem reader_bind_is_ok (reader : Decoder ε α) (next : α → Decoder ε β) (input rest : Bytes) (b : β) :
    (reader >>= next).run input = .ok (b, rest) ↔
      ∃ a middle, reader.run input = .ok (a, middle) ∧ (next a).run middle = .ok (b, rest) := by
  rw [StateT.run_bind, bind_is_ok]
  constructor
  · rintro ⟨⟨a, middle⟩, ran, rest⟩
    exact ⟨a, middle, ran, rest⟩
  · rintro ⟨a, middle, ran, rest⟩
    exact ⟨(a, middle), ran, rest⟩

theorem run_bind_congr (reader : Decoder ε α) (f g : α → Decoder ε β) (input : Bytes)
    (same : ∀ a rest, reader.run input = .ok (a, rest) → (f a).run rest = (g a).run rest) :
    (reader >>= f).run input = (reader >>= g).run input := by
  rw [StateT.run_bind, StateT.run_bind]
  cases ran : reader.run input with
  | error e => rfl
  | ok read => exact same read.1 read.2 ran

theorem run_lift_rest (result : Except ε α) (input rest : Bytes) (a : α)
    (ran : (liftM result : Decoder ε α).run input = .ok (a, rest)) : rest = input := by
  cases result with
  | error e => cases ran
  | ok value =>
      cases ran
      rfl

-- What was taken before, and then what the decoder takes, is what the encoder writes for the value it makes.
def Rewrites (taken : Bytes) (decoder : Decoder ε α) (encode : α → Bytes) : Prop :=
  ∀ input value rest, decoder.run input = .ok (value, rest) → taken ++ input = encode value ++ rest

-- Whatever the decoder takes, the encoder writes back.
abbrev Canonical (decoder : Decoder ε α) (encode : α → Bytes) : Prop := Rewrites [] decoder encode

theorem rewrites_pure (taken : Bytes) (value : α) (encode : α → Bytes) (same : taken = encode value) :
    Rewrites taken (pure value : Decoder ε α) encode := by
  intro input other rest ran
  cases ran
  rw [same]

theorem rewrites_throw (taken : Bytes) (e : ε) (encode : α → Bytes) :
    Rewrites taken (throw e : Decoder ε α) encode := by
  intro input value rest ran
  cases ran

theorem rewrites_bind (taken : Bytes) (decoder : Decoder ε α) (next : α → Decoder ε β) (first : α → Bytes)
    (encode : β → Bytes) (read : Canonical decoder first)
    (then_ : ∀ a, Rewrites (taken ++ first a) (next a) encode) : Rewrites taken (decoder >>= next) encode := by
  intro input value rest ran
  rw [StateT.run_bind] at ran
  cases began : decoder.run input with
  | error e =>
      rw [began] at ran
      cases ran
  | ok pair =>
      obtain ⟨a, middle⟩ := pair
      rw [began] at ran
      have whole := then_ a middle value rest ran
      have here : input = first a ++ middle := read input a middle began
      rw [here, ← List.append_assoc]
      exact whole

theorem canonical_take_octets (short : ε) (count : Nat) : Canonical (takeOctets short count : Decoder ε Bytes) id := by
  intro input value rest ran
  simp only [StateT.run, takeOctets] at ran
  split at ran
  · cases ran
  · cases ran
    exact (List.take_append_drop count input).symm

theorem take_octets_length (short : ε) (count : Nat) (input value rest : Bytes)
    (ran : (takeOctets short count : Decoder ε Bytes).run input = .ok (value, rest)) : value.length = count := by
  simp only [StateT.run, takeOctets] at ran
  split at ran
  · cases ran
  next long =>
    cases ran
    rw [List.length_take]
    omega

theorem canonical_take_nat (short : ε) (width : Nat) : Canonical (takeNat short width : Decoder ε Nat) (beBytes width) := by
  intro input value rest ran
  simp only [takeNat, StateT.run_bind] at ran
  cases began : (takeOctets short width : Decoder ε Bytes).run input with
  | error e =>
      rw [began] at ran
      cases ran
  | ok pair =>
      obtain ⟨octets, middle⟩ := pair
      rw [began] at ran
      cases ran
      have here : input = octets ++ middle := canonical_take_octets short width input octets middle began
      rw [here, ← take_octets_length short width input octets middle began, be_bytes_be_nat]
      rfl

theorem take_nat_lt (short : ε) (width : Nat) (input rest : Bytes) (value : Nat)
    (ran : (takeNat short width : Decoder ε Nat).run input = .ok (value, rest)) : value < 256 ^ width := by
  simp only [takeNat, StateT.run_bind] at ran
  cases began : (takeOctets short width : Decoder ε Bytes).run input with
  | error e =>
      rw [began] at ran
      cases ran
  | ok pair =>
      obtain ⟨octets, middle⟩ := pair
      rw [began] at ran
      cases ran
      rw [← take_octets_length short width input octets middle began]
      exact be_nat_lt octets

end

end Swtrust.Library
