import Swtrust.Crypto.Rand
import Swtrust.Crypto.Derivation
import Swtrust.Commands.Object
import Swtrust.Library.Stream
import Swtrust.Toy

set_option autoImplicit false

namespace Swtrust

open Library

section

variable [Profile]

theorem digest_size_small (hashAlg : UInt16) (size : Nat) (sized : Hash.digestSize hashAlg = .ok size) :
    size ≤ maxKdfBytes := by
  unfold Hash.digestSize at sized
  repeat' split at sized
  all_goals cases sized
  all_goals decide

end

namespace SeededRng

section

variable [Crypto]

def advance : Action TpmRc SeededRng Unit := do
  if (← get).buffer.length ≤ (← get).offset then refill

-- The stream, one octet at a time.
def octet : Action TpmRc SeededRng UInt8 := do
  advance
  let rng ← get
  match rng.buffer[rng.offset]? with
  | some octet =>
    set { rng with offset := rng.offset + 1 }
    return octet
  | none => throw Rc.failure

theorem refill_ready (rng after : SeededRng) (ran : refill rng = .ok () after) : after.offset < after.buffer.length := by
  have drawn : Action.Succeeds refill rng () after := ran
  unfold refill at drawn
  simp only [Action.succeeds_bind, Action.succeeds_get, Action.succeeds_lift, Action.succeeds_set, Action.succeeds_modify,
    Action.succeeds_guard] at drawn
  obtain ⟨_, start, ⟨rfl, rfl⟩, size, _, ⟨sized, rfl⟩, buffer, _, ⟨made, rfl⟩, _, _, rfl, _, rfl⟩ := drawn
  obtain ⟨out, derived, length⟩ := kdfa_made _ size sized start.seed start.label [] (contextV start.context start.block) size
    (digest_size_small _ size sized)
  have same : out = buffer := Except.ok.inj (derived.symm.trans made)
  show 0 < buffer.length
  rw [← same, length]
  exact digest_size_pos _ size sized

theorem advance_at_rest (rng : SeededRng) (left : rng.offset < rng.buffer.length) : advance rng = .ok () rng := by
  show (if rng.buffer.length ≤ rng.offset then refill else pure ()) rng = _
  rw [if_neg (Nat.not_le.mpr left)]
  rfl

theorem advance_spent (rng : SeededRng) (spent : rng.buffer.length ≤ rng.offset) : advance rng = refill rng := by
  show (if rng.buffer.length ≤ rng.offset then refill else pure ()) rng = _
  rw [if_pos spent]

theorem advance_ready (rng after : SeededRng) (ran : advance rng = .ok () after) : after.offset < after.buffer.length := by
  by_cases spent : rng.buffer.length ≤ rng.offset
  · rw [advance_spent rng spent] at ran
    exact refill_ready rng after ran
  · have left := Nat.lt_of_not_le spent
    rw [advance_at_rest rng left] at ran
    cases ran
    exact left

-- Asking twice for octets to be ready is asking once.
theorem advance_twice : (advance >>= fun _ => advance) = advance := by
  funext rng
  cases ran : advance rng with
  | error e after => exact Action.bind_of_error _ _ ran
  | ok _ after => exact (Action.bind_of_ok _ _ ran).trans (advance_at_rest after (advance_ready rng after ran))

theorem octet_after_advance : (advance >>= fun _ => octet) = octet := by
  unfold octet
  rw [← bind_assoc, advance_twice]

theorem octet_left (rng : SeededRng) (first : UInt8) (rest : Bytes) (left : rng.buffer.drop rng.offset = first :: rest) :
    octet rng = .ok first { rng with offset := rng.offset + 1 } := by
  have found : rng.buffer[rng.offset]? = some first := by
    rw [← Nat.add_zero rng.offset, ← List.getElem?_drop, left]
    rfl
  have inside : rng.offset < rng.buffer.length := (List.getElem?_eq_some_iff.mp found).1
  rw [octet, Action.bind_of_ok _ _ (advance_at_rest rng inside)]
  rw [Action.run_get_bind, found]
  rfl

-- What is left in the buffer is the next of the stream.
theorem draws_left (head tail : Bytes) (rng : SeededRng) (left : rng.buffer.drop rng.offset = head ++ tail) :
    draws octet head.length rng = .ok head { rng with offset := rng.offset + head.length } := by
  induction head generalizing rng with
  | nil => rfl
  | cons first head ih =>
      have next : rng.buffer.drop (rng.offset + 1) = head ++ tail := by
        rw [← List.drop_drop, left]
        rfl
      have rest := ih { rng with offset := rng.offset + 1 } next
      rw [List.length_cons, draws, Action.bind_of_ok _ _ (octet_left rng first (head ++ tail) left), Action.bind_of_ok _ _ rest,
        ← Nat.add_assoc, Nat.add_right_comm]
      rfl

-- The rest of a turn, once there is an octet to hand out.
def handOut (turns count : Nat) : Action TpmRc SeededRng Bytes := do
  let rng ← get
  let head := (rng.buffer.drop rng.offset).take count
  set { rng with offset := rng.offset + head.length }
  return head ++ (← fill turns (count - head.length))

theorem fill_turn (turns count : Nat) : fill (turns + 1) (count + 1) = advance >>= fun _ => handOut turns (count + 1) := by
  rw [fill, if_neg (Nat.succ_ne_zero count)]
  funext rng
  rw [Action.run_get_bind, Action.run_get_bind]
  by_cases spent : rng.buffer.length ≤ rng.offset
  · simp only [if_pos spent, Bind.bind, EStateM.bind, advance_spent rng spent]
    rfl
  · simp only [if_neg spent, Bind.bind, EStateM.bind, advance_at_rest rng (Nat.lt_of_not_le spent)]
    rfl

-- One turn of the loop hands out what is ready, and the turns after it the rest.
theorem fill_draws (turns count : Nat) (enough : count ≤ turns) : fill turns count = draws octet count := by
  induction turns generalizing count with
  | zero =>
      obtain rfl := Nat.le_zero.mp enough
      rfl
  | succ turns ih =>
      cases count with
      | zero => rfl
      | succ count =>
          rw [← draws_after octet advance octet_after_advance count, fill_turn]
          funext rng
          cases ran : advance rng with
          | error e after => rw [Action.bind_of_error _ _ ran, Action.bind_of_error _ _ ran]
          | ok _ after =>
              rw [Action.bind_of_ok _ _ ran, Action.bind_of_ok _ _ ran]
              have ready := advance_ready rng after ran
              let head := (after.buffer.drop after.offset).take (count + 1)
              have size : head.length = min (count + 1) (after.buffer.length - after.offset) := by
                rw [List.length_take, List.length_drop]
              have all : count + 1 = head.length + (count + 1 - head.length) := by omega
              have first := draws_left head _ after (List.take_append_drop (count + 1) _).symm
              rw [all, draws_add, Action.bind_of_ok _ _ first, ← ih (count + 1 - head.length) (by omega), ← all]
              rfl

theorem bytes_draws (count : Nat) : bytes count = draws octet count := fill_draws count count (Nat.le_refl count)

-- A block that could not be made leaves nothing behind that a reset would not take away.
theorem refill_keeps : Action.Keeps reset refill := by
  intro rng
  unfold refill
  rw [Action.run_get_bind]
  rw [Action.run_lift_bind]
  cases sized : Hash.digestSize rng.hashAlg with
  | error e => rfl
  | ok size =>
      simp only [Action.run_lift_bind]
      cases made : kdfa rng.hashAlg rng.seed rng.label [] (contextV rng.context rng.block) (UInt32.ofNat (size * 8)) with
      | error e => rfl
      | ok buffer =>
          by_cases last : rng.block = 0xFFFFFFFFFFFFFFFF
          · simp only [if_pos last]
            rfl
          · simp only [if_neg last]
            rfl

theorem octet_keeps : Action.Keeps reset octet := by
  apply Action.keeps_bind
  · intro rng
    by_cases spent : rng.buffer.length ≤ rng.offset
    · rw [advance_spent rng spent]
      exact refill_keeps rng
    · rw [advance_at_rest rng (Nat.lt_of_not_le spent)]
      rfl
  · intro _ rng
    rw [Action.run_get_bind]
    cases rng.buffer[rng.offset]? <;> rfl

theorem bytes_keeps (count : Nat) : Action.Keeps reset (bytes count) := by
  rw [bytes_draws]
  exact draws_keeps octet reset octet_keeps count

theorem chunks_same (chunks : List Nat) : List.flatten <$> chunks.mapM bytes = bytes chunks.sum := by
  have all : bytes = draws octet := funext bytes_draws
  rw [all]
  exact draws_chunks octet chunks

-- The generator where a block ends: all of the blocks before `index` are handed out.
structure Boundary (start : SeededRng) (index : Nat) (rng : SeededRng) : Prop where
  same : rng.reset = start.reset
  block : rng.block = UInt64.ofNat index
  spent : rng.buffer.length ≤ rng.offset

omit [Crypto] in
theorem boundary_start (hashAlg : UInt16) (seed label context : Bytes) :
    Boundary (new hashAlg seed label context) 0 (new hashAlg seed label context) := ⟨rfl, rfl, Nat.le_refl 0⟩

-- What the KDF hashes for a block of the stream, at one value of the KDF's own counter.
def kdfInput (label context : Bytes) (block : UInt64) (bits counter : UInt32) : Bytes :=
  (kdfaParts label [] (contextV context block) bits counter).flatten

-- The blocks of a stream: the HMACs of the inputs of their indices, under the seed.
structure Blocks (rng : SeededRng) (size : Nat) (blocks : Nat → Bytes) : Prop where
  hashed : ∀ index, hmac rng.hashAlg rng.seed
    (kdfInput rng.label rng.context (UInt64.ofNat index) (UInt32.ofNat (size * 8)) 1) = .ok (blocks index)
  length : ∀ index, (blocks index).length = size

-- The first octets of the blocks, one block after the other.
def firstOf (blocks : Nat → Bytes) (size count : Nat) : Bytes := ((List.range (count / size + 1)).flatMap blocks).take count

theorem blocks_made (rng : SeededRng) (size : Nat) (sized : Hash.digestSize rng.hashAlg = .ok size) :
    ∃ blocks, Blocks rng size blocks := by
  let input := fun index : Nat =>
    kdfaParts rng.label [] (contextV rng.context (UInt64.ofNat index)) (UInt32.ofNat (size * 8)) 1
  have each := fun index => hmac_parts_made rng.hashAlg size sized rng.seed (input index)
  choose blocks hashed length using each
  exact ⟨blocks, hashed, length⟩

section

variable {start rng : SeededRng} {size index : Nat} {blocks : Nat → Bytes}
  (sized : Hash.digestSize start.hashAlg = .ok size) (made : Blocks start size blocks)

include sized made

theorem refill_block (room : index < 2 ^ 64 - 1) (at_end : Boundary start index rng) :
    refill rng = .ok () { rng with block := UInt64.ofNat (index + 1), buffer := blocks index, offset := 0 } := by
  obtain ⟨hashAlg, seed, label, context⟩ := (SeededRng.mk.injEq ..).mp at_end.same
  have last : UInt64.ofNat index ≠ 0xFFFFFFFFFFFFFFFF := by
    intro same
    have value := congrArg UInt64.toNat same
    rw [UInt64.toNat_ofNat_of_lt' (by simp [UInt64.size]; omega)] at value
    have number : (0xFFFFFFFFFFFFFFFF : UInt64).toNat = 2 ^ 64 - 1 := by decide
    omega
  have derived := kdfa_single start.hashAlg size sized (digest_size_small _ size sized) start.seed start.label []
    (contextV start.context (UInt64.ofNat index)) (blocks index) (made.hashed index) (made.length index)
  unfold refill
  rw [Action.run_get_bind, Action.run_lift_bind, hashAlg, sized]
  simp only [Action.run_lift_bind, seed, label, context.1, at_end.block, derived]
  rw [if_neg last, UInt64.ofNat_add]
  rfl

theorem advance_block (room : index < 2 ^ 64 - 1) (at_end : Boundary start index rng) :
    advance rng = .ok () { rng with block := UInt64.ofNat (index + 1), buffer := blocks index, offset := 0 } := by
  rw [advance_spent rng at_end.spent]
  exact refill_block sized made room at_end

-- The first octets of the next block, all of them or not.
theorem draws_block (room : index < 2 ^ 64 - 1) (at_end : Boundary start index rng) (count : Nat) (some : 0 < count)
    (inside : count ≤ size) : draws octet count rng = .ok ((blocks index).take count)
      { rng with block := UInt64.ofNat (index + 1), buffer := blocks index, offset := count } := by
  obtain ⟨count, rfl⟩ := Nat.exists_eq_add_of_lt some
  rw [Nat.zero_add] at inside ⊢
  have ready := advance_block sized made room at_end
  have length : ((blocks index).take (count + 1)).length = count + 1 := by
    rw [List.length_take, made.length, Nat.min_eq_left inside]
  have drawn := draws_left ((blocks index).take (count + 1)) ((blocks index).drop (count + 1))
    { rng with block := UInt64.ofNat (index + 1), buffer := blocks index, offset := 0 } (List.take_append_drop _ _).symm
  rw [length, Nat.zero_add] at drawn
  rw [← draws_after octet advance octet_after_advance count, Action.bind_of_ok _ _ ready]
  exact drawn

theorem draws_blocks (count : Nat) (room : count ≤ 2 ^ 64 - 1) (at_start : Boundary start 0 rng) :
    ∃ after, draws octet (count * size) rng = .ok ((List.range count).flatMap blocks) after ∧ Boundary start count after := by
  induction count with
  | zero =>
      rw [Nat.zero_mul]
      exact ⟨rng, rfl, at_start⟩
  | succ count ih =>
      obtain ⟨after, earlier, at_end⟩ := ih (by omega)
      have last := draws_block sized made (by omega) at_end size (digest_size_pos _ size sized) (Nat.le_refl size)
      have whole : (blocks count).take size = blocks count := by
        rw [← made.length count, List.take_length]
      rw [whole] at last
      refine ⟨{ after with block := UInt64.ofNat (count + 1), buffer := blocks count, offset := size }, ?_, ?_⟩
      · rw [Nat.succ_mul, draws_add, Action.bind_of_ok _ _ earlier, Action.bind_of_ok _ _ last, List.range_succ,
          List.flatMap_append, List.flatMap_singleton]
        rfl
      · exact ⟨at_end.same, rfl, Nat.le_of_eq (made.length count)⟩

omit sized in
theorem blocks_length (count : Nat) : ((List.range count).flatMap blocks).length = count * size := by
  rw [List.length_flatMap, List.map_congr_left fun index _ => made.length index, List.map_const', List.sum_replicate,
    List.length_range, smul_eq_mul]

theorem first_of_length (count : Nat) : (firstOf blocks size count).length = count := by
  have enough := Nat.lt_mul_div_succ count (digest_size_pos _ size sized)
  rw [firstOf, List.length_take, blocks_length made, Nat.mul_comm]
  omega

theorem bytes_of_blocks (count : Nat) (room : count ≤ size * (2 ^ 64 - 1)) (at_start : Boundary start 0 rng) :
    ∃ after, bytes count rng = .ok (firstOf blocks size count) after := by
  have positive := digest_size_pos _ size sized
  have whole : count / size ≤ 2 ^ 64 - 1 := Nat.div_le_of_le_mul room
  have split : count = count / size * size + count % size := (Nat.div_add_mod' count size).symm
  obtain ⟨after, earlier, at_end⟩ := draws_blocks sized made (count / size) whole at_start
  have taken : firstOf blocks size count =
      (List.range (count / size)).flatMap blocks ++ (blocks (count / size)).take (count % size) := by
    rw [firstOf, List.range_succ, List.flatMap_append, List.flatMap_singleton, List.take_append, blocks_length made,
      List.take_of_length_le (by rw [blocks_length made]; omega)]
    congr 2
    omega
  rw [bytes_draws, taken]
  by_cases rest : count % size = 0
  · refine ⟨after, ?_⟩
    rw [rest, Nat.add_zero] at split
    rw [rest, List.take_zero, List.append_nil, split]
    simpa [Nat.mul_div_cancel _ positive] using earlier
  · have inside := Nat.mod_lt count positive
    have below : count / size < 2 ^ 64 - 1 := by
      by_contra many
      have : (2 ^ 64 - 1) * size ≤ count / size * size := Nat.mul_le_mul_right size (Nat.le_of_not_lt many)
      rw [Nat.mul_comm size] at room
      omega
    have last := draws_block sized made below at_end (count % size) (Nat.pos_of_ne_zero rest) (Nat.le_of_lt inside)
    refine ⟨{ after with
      block := UInt64.ofNat (count / size + 1), buffer := blocks (count / size), offset := count % size }, ?_⟩
    conv_lhs => rw [split, draws_add, Action.bind_of_ok _ _ earlier, Action.bind_of_ok _ _ last]
    rfl

end

omit [Crypto] in
-- Nothing else than the context and the index of the block gives the KDF the same octets to hash.
theorem kdf_input_inj (label first second : Bytes) (length : first.length = second.length) (i j : UInt64)
    (bits bits' counter counter' : UInt32)
    (same : kdfInput label first i bits counter = kdfInput label second j bits' counter') : first = second ∧ i = j := by
  unfold kdfInput kdfaParts contextV at same
  simp only [List.flatten_cons, List.flatten_nil, List.append_nil, List.nil_append] at same
  obtain ⟨-, same⟩ := List.append_inj same ((be32_length _).trans (be32_length _).symm)
  have inputs := List.append_cancel_left (List.append_cancel_left same)
  obtain ⟨contexts, -⟩ := List.append_inj' inputs ((be32_length _).trans (be32_length _).symm)
  obtain ⟨context, blocks⟩ := List.append_inj contexts length
  exact ⟨context, be64_inj _ _ blocks⟩

end

section

variable [Primitives]

-- The stream of a seed is a sequence of blocks, each the HMAC of an input of its own. However the octets are asked for,
-- they are the first of the stream, and from the start again after a reset; so a Primary Object that is made once more
-- from its seed and template is the one made before.
theorem seeded_stream :
    (∀ chunks : List Nat, List.flatten <$> chunks.mapM bytes = bytes chunks.sum) ∧
    (∀ (hashAlg : UInt16) (size : Nat), Hash.digestSize hashAlg = .ok size → ∀ seed label context : Bytes,
      let rng := new hashAlg seed label context
      ∃ blocks, Blocks rng size blocks ∧ ∀ count ≤ size * (2 ^ 64 - 1),
        (firstOf blocks size count).length = count ∧ ∃ after, bytes count rng = .ok (firstOf blocks size count) after) ∧
    (∀ label first second : Bytes, first.length = second.length → ∀ i j : UInt64, (first, i) ≠ (second, j) →
      ∀ bits bits' counter counter', kdfInput label first i bits counter ≠ kdfInput label second j bits' counter') ∧
    (∀ (seed context : Bytes) (template : TpmtPublic) (supplied : SensitiveCreate) (earlier : List Nat)
      (split : Nat → List Nat), (∀ count, (split count).sum = count) →
        let used := Action.final (earlier.mapM bytes (new (templateAlg template) seed labelPrimary context))
        (createSensitive (fun count => List.flatten <$> (split count).mapM bytes) template supplied).eval used.reset =
          createPrimarySensitive seed context template supplied) := by
  refine ⟨chunks_same, ?_, ?_, ?_⟩
  · intro hashAlg size sized seed label context rng
    obtain ⟨blocks, made⟩ := blocks_made rng size sized
    refine ⟨blocks, made, fun count room => ⟨first_of_length sized made count, ?_⟩⟩
    exact bytes_of_blocks sized made count room (boundary_start hashAlg seed label context)
  · intro label first second length i j apart bits bits' counter counter' same
    obtain ⟨context, block⟩ := kdf_input_inj label first second length i j bits bits' counter counter' same
    exact apart (Prod.ext context block)
  · intro seed context template supplied earlier split whole used
    have same : (fun count => List.flatten <$> (split count).mapM bytes) = bytes := by
      funext count
      rw [chunks_same, whole count]
    have restarted : used.reset = new (templateAlg template) seed labelPrimary context :=
      Action.keeps_each reset bytes bytes_keeps earlier _
    rw [same, restarted]
    rfl

end

end SeededRng

-- Forty-three octets in two parts reach into the second block; and the first two blocks have inputs of their own.
theorem Toy.seed_in_parts :
    (∃ blocks, SeededRng.Blocks (.new Alg.sha256 [1, 2] labelPrimary [3]) 32 blocks ∧ ∃ after,
      (List.flatten <$> [3, 40].mapM SeededRng.bytes) (.new Alg.sha256 [1, 2] labelPrimary [3]) =
        .ok ((blocks 0 ++ blocks 1).take 43) after) ∧
    SeededRng.kdfInput labelPrimary [3] 0 256 1 ≠ SeededRng.kdfInput labelPrimary [3] 1 256 1 := by
  obtain ⟨chunks, stream, inputs, -⟩ := SeededRng.seeded_stream
  obtain ⟨blocks, made, drawn⟩ := stream Alg.sha256 32 rfl [1, 2] labelPrimary [3]
  obtain ⟨-, after, together⟩ := drawn 43 (by decide)
  refine ⟨⟨blocks, made, after, ?_⟩, inputs labelPrimary [3] [3] rfl 0 1 (by decide) 256 256 1 1⟩
  have two : SeededRng.firstOf blocks 32 43 = (blocks 0 ++ blocks 1).take 43 := by
    simp [SeededRng.firstOf, List.range_succ]
  rw [chunks, ← two]
  exact together

end Swtrust
