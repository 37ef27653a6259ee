import Swtrust.Library.Canonical

set_option autoImplicit false

namespace Swtrust.Library

-- A steady decoder looks at nothing beyond what it takes: whatever it took, it takes again, and makes the same of it,
-- in front of any other rest. With an encoder it rewrites, the encoding of a value it made is all it ever reads as it.

section

variable {ε α β : Type}

def Steady (decoder : Decoder ε α) : Prop :=
  ∀ input value rest, decoder.run input = .ok (value, rest) → ∃ taken, input = taken ++ rest ∧ Decodes decoder taken value

theorem steady_pure (value : α) : Steady (pure value : Decoder ε α) := by
  intro input other rest ran
  cases ran
  exact ⟨[], rfl, decodes_pure value⟩

theorem steady_throw (e : ε) : Steady (throw e : Decoder ε α) := by
  intro input value rest ran
  cases ran

theorem steady_bind (decoder : Decoder ε α) (next : α → Decoder ε β) (first : Steady decoder)
    (then_ : ∀ a, Steady (next a)) : Steady (decoder >>= next) := by
  intro input value rest ran
  obtain ⟨a, middle, began, ended⟩ := (reader_bind_is_ok decoder next input rest value).mp ran
  obtain ⟨head, front, reads⟩ := first input a middle began
  obtain ⟨tail, back, reads'⟩ := then_ a middle value rest ended
  refine ⟨head ++ tail, ?_, decodes_bind decoder next head tail a value reads reads'⟩
  rw [front, back, List.append_assoc]

theorem steady_map (decoder : Decoder ε α) (f : α → β) (first : Steady decoder) : Steady (f <$> decoder) := by
  rw [map_eq_pure_bind]
  exact steady_bind decoder _ first fun a => steady_pure (f a)

theorem steady_lift (result : Except ε α) : Steady (liftM result : Decoder ε α) := by
  intro input value rest ran
  cases result with
  | error e => cases ran
  | ok made =>
      cases ran
      exact ⟨[], rfl, fun _ => rfl⟩

theorem steady_ite (c : Prop) [Decidable c] (yes no : Decoder ε α) (first : Steady yes) (second : Steady no) :
    Steady (if c then yes else no) := by
  split
  · exact first
  · exact second

theorem steady_take_octets (short : ε) (count : Nat) : Steady (takeOctets short count : Decoder ε Bytes) := by
  intro input value rest ran
  have taken := canonical_take_octets short count input value rest ran
  have length := take_octets_length short count input value rest ran
  refine ⟨value, taken, ?_⟩
  rw [← length]
  exact decodes_take_octets short value

theorem steady_take_nat (short : ε) (width : Nat) : Steady (takeNat short width : Decoder ε Nat) :=
  steady_bind _ _ (steady_take_octets short width) fun octets => steady_pure (beNat octets)

theorem steady_many (decoder : Decoder ε α) (each : Steady decoder) (count : Nat) : Steady (decodeMany decoder count) := by
  induction count with
  | zero => exact steady_pure []
  | succ count ih =>
      refine steady_bind _ _ each fun head => ?_
      exact steady_bind _ _ ih fun tail => steady_pure _

theorem steady_within (short left : ε) (size : Nat) (decoder : Decoder ε α) :
    Steady (Decoder.within short left size decoder) := by
  refine steady_bind _ _ (steady_take_octets short size) fun body => ?_
  intro input value rest ran
  cases inner : decoder.run body with
  | error e =>
      rw [inner] at ran
      cases ran
  | ok pair =>
      obtain ⟨made, left'⟩ := pair
      cases left' with
      | cons octet more =>
          rw [inner] at ran
          cases ran
      | nil =>
          rw [inner] at ran
          cases ran
          exact ⟨[], rfl, fun _ => rfl⟩

theorem canonical_many (decoder : Decoder ε α) (encode : α → Bytes) (each : Canonical decoder encode) (count : Nat) :
    Canonical (decodeMany decoder count) fun items => items.flatMap encode := by
  induction count with
  | zero => exact rewrites_pure _ _ _ rfl
  | succ count ih =>
      refine rewrites_bind _ _ _ encode _ each fun head => ?_
      refine rewrites_bind _ _ _ _ _ ih fun tail => ?_
      exact rewrites_pure _ _ _ rfl

theorem many_length (decoder : Decoder ε α) (count : Nat) : ∀ (input : Bytes) (items : List α) (rest : Bytes),
    (decodeMany decoder count).run input = .ok (items, rest) → items.length = count := by
  induction count with
  | zero =>
      intro input items rest ran
      cases ran
      rfl
  | succ count ih =>
      intro input items rest ran
      obtain ⟨head, middle, -, ran⟩ := (reader_bind_is_ok _ _ _ _ _).mp ran
      obtain ⟨tail, end', others, ran⟩ := (reader_bind_is_ok _ _ _ _ _).mp ran
      cases ran
      exact congrArg (· + 1) (ih middle tail _ others)

-- Of the body that a decoder takes whole nothing but its length is written beside it.
theorem within_body (short left : ε) (size : Nat) (decoder : Decoder ε α) (encode : α → Bytes)
    (canonical : Canonical decoder encode) (input rest : Bytes) (value : α)
    (ran : (Decoder.within short left size decoder).run input = .ok (value, rest)) :
    input = encode value ++ rest ∧ (encode value).length = size := by
  obtain ⟨body, middle, taken, ran⟩ := (reader_bind_is_ok _ _ _ _ _).mp ran
  have front : input = body ++ middle := canonical_take_octets short size input body middle taken
  have length := take_octets_length short size input body middle taken
  cases inner : decoder.run body with
  | error e =>
      rw [inner] at ran
      cases ran
  | ok pair =>
      obtain ⟨made, left'⟩ := pair
      cases left' with
      | cons octet more =>
          rw [inner] at ran
          cases ran
      | nil =>
          rw [inner] at ran
          cases ran
          have whole : body = encode value := by simpa using canonical body value [] inner
          exact ⟨whole ▸ front, whole ▸ length⟩

-- What holds of every value a decoder makes.
def Yields (decoder : Decoder ε α) (good : α → Prop) : Prop :=
  ∀ input value rest, decoder.run input = .ok (value, rest) → good value

theorem yields_pure (value : α) (good : α → Prop) (holds : good value) : Yields (pure value : Decoder ε α) good := by
  intro input other rest ran
  cases ran
  exact holds

theorem yields_throw (e : ε) (good : α → Prop) : Yields (throw e : Decoder ε α) good := by
  intro input value rest ran
  cases ran

theorem yields_bind (decoder : Decoder ε α) (next : α → Decoder ε β) (good : β → Prop)
    (then_ : ∀ a, Yields (next a) good) : Yields (decoder >>= next) good := by
  intro input value rest ran
  obtain ⟨a, middle, -, ended⟩ := (reader_bind_is_ok decoder next input rest value).mp ran
  exact then_ a middle value rest ended

theorem yields_bind_known (decoder : Decoder ε α) (next : α → Decoder ε β) (held : α → Prop) (good : β → Prop)
    (first : Yields decoder held) (then_ : ∀ a, held a → Yields (next a) good) : Yields (decoder >>= next) good := by
  intro input value rest ran
  obtain ⟨a, middle, began, ended⟩ := (reader_bind_is_ok decoder next input rest value).mp ran
  exact then_ a (first input a middle began) middle value rest ended

theorem yields_lift (result : Except ε α) : Yields (liftM result : Decoder ε α) fun a => result = .ok a := by
  intro input value rest ran
  cases result with
  | error e => cases ran
  | ok made =>
      cases ran
      rfl

theorem yields_many (decoder : Decoder ε α) (good : α → Prop) (each : Yields decoder good) (count : Nat) :
    Yields (decodeMany decoder count) fun items => items.length = count ∧ ∀ item ∈ items, good item := by
  induction count with
  | zero => exact yields_pure _ _ ⟨rfl, fun _ member => absurd member List.not_mem_nil⟩
  | succ count ih =>
      refine yields_bind_known _ _ good _ each fun head first => ?_
      refine yields_bind_known _ _ _ _ ih fun tail others => yields_pure _ _ ⟨?_, fun item member => ?_⟩
      · rw [List.length_cons, others.1]
      · rcases List.mem_cons.mp member with rfl | later
        · exact first
        · exact others.2 item later

theorem yields_ite (c : Prop) [Decidable c] (yes no : Decoder ε α) (good : α → Prop) (first : c → Yields yes good)
    (second : ¬ c → Yields no good) : Yields (if c then yes else no) good := by
  by_cases holds : c
  · rw [if_pos holds]
    exact first holds
  · rw [if_neg holds]
    exact second holds

theorem yields_within (short left : ε) (size : Nat) (decoder : Decoder ε α) (good : α → Prop)
    (each : Yields decoder good) : Yields (Decoder.within short left size decoder) good := by
  intro input value rest ran
  obtain ⟨body, after, -, ended⟩ := (reader_bind_is_ok _ _ input rest value).mp ran
  split at ended
  · cases ended
  next made held inner =>
    cases ended
    exact each body value [] inner
  · cases ended

-- A part whose selector was written earlier: of it the rest knows what the decoder yields.
theorem rewrites_bind_known (taken : Bytes) (decoder : Decoder ε α) (next : α → Decoder ε β) (first : α → Bytes)
    (encode : β → Bytes) (good : α → Prop) (read : Canonical decoder first) (known : Yields decoder good)
    (then_ : ∀ a, good a → Rewrites (taken ++ first a) (next a) encode) : Rewrites taken (decoder >>= next) encode := by
  intro input value rest ran
  obtain ⟨a, middle, began, ended⟩ := (reader_bind_is_ok decoder next input rest value).mp ran
  have front : input = first a ++ middle := read input a middle began
  have back := then_ a (known input a middle began) middle value rest ended
  rw [front, ← List.append_assoc]
  exact back

-- The two together.
def ReadsBack (decoder : Decoder ε α) (encode : α → Bytes) : Prop :=
  ∀ input value rest, decoder.run input = .ok (value, rest) →
    input = encode value ++ rest ∧ Decodes decoder (encode value) value

theorem reads_back (decoder : Decoder ε α) (encode : α → Bytes) (canonical : Canonical decoder encode)
    (steady : Steady decoder) : ReadsBack decoder encode := by
  intro input value rest ran
  obtain ⟨taken, split, decodes⟩ := steady input value rest ran
  have written : input = encode value ++ rest := canonical input value rest ran
  have same : taken = encode value := List.append_cancel_right (split.symm.trans written)
  exact ⟨written, same ▸ decodes⟩

-- A value whose own encoding is read as it.
def Legible (decoder : Decoder ε α) (encode : α → Bytes) (value : α) : Prop := decoder.run (encode value) = .ok (value, [])

instance [DecidableEq ε] [DecidableEq α] (decoder : Decoder ε α) (encode : α → Bytes) (value : α) :
    Decidable (Legible decoder encode value) :=
  inferInstanceAs (Decidable (decoder.run (encode value) = .ok (value, [])))

theorem legible_of_decodes (decoder : Decoder ε α) (encode : α → Bytes) (value : α)
    (decodes : Decodes decoder (encode value) value) : Legible decoder encode value := by
  have whole := decodes []
  rw [List.append_nil] at whole
  exact whole

-- What is read back octet for octet is legible.
theorem yields_legible (decoder : Decoder ε α) (encode : α → Bytes) (back : ReadsBack decoder encode) :
    Yields decoder (Legible decoder encode) := fun input value rest ran =>
  legible_of_decodes decoder encode value (back input value rest ran).2

theorem decodes_of_legible (decoder : Decoder ε α) (encode : α → Bytes) (value : α) (steady : Steady decoder)
    (legible : Legible decoder encode value) : Decodes decoder (encode value) value := by
  obtain ⟨taken, split, decodes⟩ := steady _ _ _ legible
  rw [List.append_nil] at split
  exact split ▸ decodes

theorem decodes_many (decoder : Decoder ε α) (encode : α → Bytes) (items : List α)
    (each : ∀ item ∈ items, Decodes decoder (encode item) item) :
    Decodes (decodeMany decoder items.length) (items.flatMap encode) items := by
  induction items with
  | nil => exact decodes_pure []
  | cons head tail ih =>
      have others := ih fun item member => each item (List.mem_cons_of_mem _ member)
      refine decodes_bind _ _ _ _ _ _ (each head List.mem_cons_self) ?_
      exact decodes_bind_pure _ (head :: ·) _ _ others

end

end Swtrust.Library
