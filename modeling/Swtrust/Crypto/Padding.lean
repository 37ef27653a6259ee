import Swtrust.Crypto.Inverses
import Swtrust.Commands.Cipher

set_option autoImplicit false

namespace Swtrust

open Library

namespace Rsa

-- A generator that deals out the octets it was given, and zeros where those do not reach.
def dealt (octets : Bytes) (count : Nat) : Action TpmRc Unit Bytes :=
  return (octets ++ List.replicate (count - octets.length) 0).take count

theorem dealt_length (octets : Bytes) (count : Nat) (t : Unit) (out : Bytes) (t' : Unit)
    (drawn : Action.Succeeds (dealt octets count) t out t') : out.length = count := by
  obtain ⟨rfl, _⟩ := (Action.succeeds_pure _ _ _ _).mp drawn
  rw [List.length_take, List.length_append, List.length_replicate]
  omega

theorem dealt_exactly (octets : Bytes) : dealt octets octets.length = pure octets := by
  rw [dealt, Nat.sub_self, List.replicate_zero, List.append_nil, List.take_length]

-- The separator ends a run of zeros, as the encoder wrote it.
theorem oaep_message_shape (block message : Bytes) (found : oaepMessage block = some message) :
    ∃ count, block = List.replicate count 0 ++ [0x01] ++ message := by
  induction block with
  | nil => cases found
  | cons octet rest ih =>
      rw [oaepMessage] at found
      by_cases zero : octet = 0x00
      · rw [if_pos zero] at found
        obtain ⟨count, shape⟩ := ih found
        refine ⟨count + 1, ?_⟩
        rw [shape, zero, List.replicate_succ]
        rfl
      · rw [if_neg zero] at found
        by_cases one : octet = 0x01
        · rw [if_pos one] at found
          cases found
          exact ⟨0, by rw [one]; rfl⟩
        · rw [if_neg one] at found
          cases found

-- Where the first zero of a run of octets is.
theorem first_zero_after (octets rest : Bytes) (filled : ∀ octet ∈ octets, octet ≠ 0) :
    (octets ++ 0 :: rest).findIdx? (· == 0) = some octets.length := by
  induction octets with
  | nil => rfl
  | cons octet octets ih =>
      obtain ⟨first, others⟩ := List.forall_mem_cons.mp filled
      have different : (octet == 0) = false := beq_eq_false_iff_ne.mpr first
      rw [List.cons_append, List.findIdx?_cons, different, ih others]
      rfl

theorem first_zero_found (octets : Bytes) (i : Nat) (found : octets.findIdx? (· == 0) = some i) :
    octets = octets.take i ++ 0 :: octets.drop (i + 1) ∧ (octets.take i).length = i ∧ ∀ octet ∈ octets.take i, octet ≠ 0 := by
  induction octets generalizing i with
  | nil => cases found
  | cons octet octets ih =>
      rw [List.findIdx?_cons] at found
      by_cases zero : octet = 0
      · have same : (octet == 0) = true := beq_iff_eq.mpr zero
        rw [same] at found
        cases found
        refine ⟨?_, rfl, fun other member => by cases member⟩
        rw [zero]
        rfl
      · have different : (octet == 0) = false := beq_eq_false_iff_ne.mpr zero
        rw [different] at found
        obtain ⟨j, later, rfl⟩ := Option.map_eq_some_iff.mp found
        obtain ⟨whole, length, others⟩ := ih j later
        refine ⟨?_, ?_, List.forall_mem_cons.mpr ⟨zero, others⟩⟩
        · rw [List.take_succ_cons, List.drop_succ_cons, List.cons_append, ← whole]
        · rw [List.take_succ_cons, List.length_cons, length]

section

variable [Crypto]

theorem oaep_decode_made (hashAlg : UInt16) (encoded label message : Bytes)
    (made : oaepDecode hashAlg encoded label = .ok message) :
    ∃ hLen lHash seedMask dbMask, ∃ maskedSeed maskedDb : Bytes, Hash.digestSize hashAlg = .ok hLen ∧
      2 * hLen + 2 ≤ encoded.length ∧ Hash.digest hashAlg label = .ok lHash ∧ encoded = [0x00] ++ maskedSeed ++ maskedDb ∧
      maskedSeed.length = hLen ∧ mgf1 hashAlg maskedDb hLen = .ok seedMask ∧
      mgf1 hashAlg (xorWith maskedSeed seedMask) maskedDb.length = .ok dbMask ∧
      oaepMessage ((xorWith maskedDb dbMask).drop hLen) = some message ∧ (xorWith maskedDb dbMask).take hLen = lHash := by
  unfold oaepDecode at made
  obtain ⟨hLen, sized, made⟩ := (bind_is_ok _ _ _).mp made
  obtain ⟨roomy, made⟩ := (guarded_then_is_ok _ _ _ _ _).mp made
  obtain ⟨lHash, hashed, made⟩ := (bind_is_ok _ _ _).mp made
  obtain ⟨seedMask, seedMasked, made⟩ := (bind_is_ok _ _ _).mp made
  obtain ⟨dbMask, masked, made⟩ := (bind_is_ok _ _ _).mp made
  dsimp only at made
  split at made
  · cases made
  · next text found =>
      obtain ⟨sound, made⟩ := (guarded_then_is_ok _ _ _ _ _).mp made
      cases made
      obtain ⟨first, digest⟩ := not_or.mp sound
      have head : encoded = [0x00] ++ encoded.drop 1 := by
        cases encoded with
        | nil => simp at first
        | cons octet rest =>
            have zero : octet = 0x00 := by simpa using first
            rw [zero]
            rfl
      have split : encoded.drop 1 = (encoded.drop 1).take hLen ++ encoded.drop (1 + hLen) := by
        rw [← List.drop_drop]
        exact (List.take_append_drop hLen _).symm
      refine ⟨hLen, lHash, seedMask, dbMask, (encoded.drop 1).take hLen, encoded.drop (1 + hLen), sized,
        Nat.le_of_not_lt roomy, hashed, ?_, ?_, seedMasked, masked, found, not_not.mp digest⟩
      · rw [List.append_assoc, ← split]
        exact head
      · rw [List.length_take, List.length_drop]
        omega

-- What the decoder accepts is what the encoder makes of the message, with a seed that can be drawn.
theorem oaep_encode_decode (hashAlg : UInt16) (encoded label message : Bytes)
    (made : oaepDecode hashAlg encoded label = .ok message) :
    ∃ seed, Action.Succeeds (oaepEncode (dealt seed) hashAlg encoded.length message label) () encoded () := by
  obtain ⟨hLen, lHash, seedMask, dbMask, maskedSeed, maskedDb, sized, roomy, hashed, whole, seedLength, seedMasked, masked,
    found, digest⟩ := oaep_decode_made hashAlg encoded label message made
  have seedMaskLength := mgf1_length hashAlg _ seedMask hLen seedMasked
  have maskLength := mgf1_length hashAlg _ dbMask maskedDb.length masked
  have length : (xorWith maskedSeed seedMask).length = hLen := by
    rw [xor_with_length maskedSeed seedMask (seedMaskLength.trans seedLength.symm), seedLength]
  have dbLength : (xorWith maskedDb dbMask).length = maskedDb.length := xor_with_length maskedDb dbMask maskLength
  have total : encoded.length = 1 + hLen + maskedDb.length := by
    rw [whole, List.length_append, List.length_append, List.length_singleton, seedLength]
  have hashLength : lHash.length = hLen := by
    rw [← digest, List.length_take, dbLength]
    omega
  obtain ⟨count, shape⟩ := oaep_message_shape _ _ found
  -- The encoder counts as many zeros as there were.
  have zeros : count = encoded.length - message.length - 2 * hLen - 2 := by
    have sizes := congrArg List.length shape
    simp only [List.length_drop, List.length_append, List.length_replicate, List.length_singleton, dbLength] at sizes
    omega
  have db : lHash ++ List.replicate (encoded.length - message.length - 2 * hLen - 2) 0 ++ [0x01] ++ message =
      xorWith maskedDb dbMask := by
    rw [← zeros, ← List.take_append_drop hLen (xorWith maskedDb dbMask), digest, shape]
    simp only [List.append_assoc]
  have fits : message.length ≤ encoded.length - 2 * hLen - 2 := by
    have sizes := congrArg List.length shape
    simp only [List.length_drop, List.length_append, List.length_replicate, List.length_singleton, dbLength] at sizes
    omega
  refine ⟨xorWith maskedSeed seedMask, ?_⟩
  have drawn : dealt (xorWith maskedSeed seedMask) hLen = pure (xorWith maskedSeed seedMask) := by
    have exactly := dealt_exactly (xorWith maskedSeed seedMask)
    rw [length] at exactly
    exact exactly
  unfold oaepEncode
  simp only [Action.succeeds_bind, Action.succeeds_lift, Action.succeeds_pure, Action.succeeds_guard]
  refine ⟨hLen, (), ⟨sized, trivial⟩, Nat.not_lt.mpr roomy, Nat.not_lt.mpr fits, lHash, (), ⟨hashed, trivial⟩,
    xorWith maskedSeed seedMask, (), ?_, dbMask, (), ⟨?_, trivial⟩, seedMask, (), ⟨?_, trivial⟩, ?_, trivial⟩
  · rw [drawn]
    exact (Action.succeeds_pure _ _ _ _).mpr ⟨rfl, rfl⟩
  · rw [db, dbLength]
    exact masked
  · rw [db, xor_with_twice maskedDb dbMask maskLength]
    exact seedMasked
  · rw [db, xor_with_twice maskedDb dbMask maskLength,
      xor_with_twice maskedSeed seedMask (seedMaskLength.trans seedLength.symm)]
    exact whole.symm

end

theorem non_zero_bytes_filled {σ : Type} (fill : Nat → Action TpmRc σ Bytes) (turns count : Nat) (s s' : σ) (ps : Bytes)
    (drawn : Action.Succeeds (nonZeroBytes fill turns count) s ps s') :
    ps.length = count ∧ ∀ octet ∈ ps, octet ≠ 0 := by
  induction turns generalizing count s ps with
  | zero => exact absurd drawn (Action.succeeds_throw _ _ _ _)
  | succ turns ih =>
      rw [nonZeroBytes] at drawn
      by_cases enough : count = 0
      · rw [if_pos enough, Action.succeeds_pure] at drawn
        obtain ⟨rfl, rfl⟩ := drawn
        exact ⟨enough.symm, fun octet member => by cases member⟩
      · rw [if_neg enough, Action.succeeds_bind] at drawn
        obtain ⟨octets, middle, _, drawn⟩ := drawn
        obtain ⟨others, last, rest, made⟩ := (Action.succeeds_bind _ _ _ _ _).mp drawn
        obtain ⟨rfl, rfl⟩ := (Action.succeeds_pure _ _ _ _).mp made
        obtain ⟨length, filled⟩ := ih _ _ _ rest
        constructor
        · rw [List.length_append, length, List.length_take]
          omega
        · intro octet member
          obtain here | later := List.mem_append.mp member
          · have kept := (List.mem_filter.mp (List.mem_of_mem_take here)).2
            exact bne_iff_ne.mp kept
          · exact filled octet later

-- The generator may give what it likes: the padding string is of the length it should be, with no zero in it.
theorem rsaes_unpad_pad {σ : Type} (fill : Nat → Action TpmRc σ Bytes) (keySize : Nat) (message out : Bytes) (s s' : σ)
    (made : Action.Succeeds (pkcs1v15EncryptPad fill keySize message) s out s') :
    pkcs1v15EncryptUnpad out = .ok message ∧ out.length = keySize := by
  unfold pkcs1v15EncryptPad at made
  simp only [Action.succeeds_bind, Action.succeeds_pure, Action.succeeds_guard] at made
  obtain ⟨roomy, ps, _, drawn, rfl, _⟩ := made
  obtain ⟨length, filled⟩ := non_zero_bytes_filled fill _ _ _ _ _ drawn
  have size : ([0x00, 0x02] ++ ps ++ [0x00] ++ message).length = keySize := by
    simp only [List.length_append, List.length_cons, List.length_nil, length]
    omega
  refine ⟨?_, size⟩
  have found : (ps ++ 0 :: message).findIdx? (· == 0x00) = some ps.length := first_zero_after ps message filled
  have tail : ([0x00, 0x02] ++ ps ++ [0x00] ++ message).drop 2 = ps ++ 0 :: message := by simp
  have rest : ([0x00, 0x02] ++ ps ++ [0x00] ++ message).drop (2 + ps.length + 1) = message := by
    rw [Nat.add_assoc, ← List.drop_drop, tail, ← List.drop_drop, List.drop_left]
    rfl
  have sound : ¬ (keySize < 11 ∨ ([0x00, 0x02] ++ ps ++ [0x00] ++ message).head? ≠ some 0x00 ∨
      (([0x00, 0x02] ++ ps ++ [0x00] ++ message).drop 1).head? ≠ some 0x02) := by
    simp
    omega
  unfold pkcs1v15EncryptUnpad
  rw [size, if_neg sound, tail, found]
  dsimp only
  rw [if_pos (by omega), rest]

theorem non_zero_bytes_dealt (turns : Nat) (ps : Bytes) (filled : ∀ octet ∈ ps, octet ≠ 0) :
    Action.Succeeds (nonZeroBytes (dealt ps) (turns + 2) ps.length) () ps () := by
  rw [nonZeroBytes]
  by_cases empty : ps.length = 0
  · rw [if_pos empty]
    obtain rfl := List.length_eq_zero_iff.mp empty
    exact (Action.succeeds_pure _ _ _ _).mpr ⟨rfl, rfl⟩
  · rw [if_neg empty, Action.succeeds_bind]
    have kept : ((ps ++ List.replicate (ps.length + 8 - ps.length) 0).take (ps.length + 8)).filter (· != 0) = ps := by
      rw [List.take_of_length_le (by rw [List.length_append, List.length_replicate]; omega),
        List.filter_append, List.filter_eq_self.mpr fun octet member => bne_iff_ne.mpr (filled octet member),
        List.filter_eq_nil_iff.mpr, List.append_nil]
      intro octet member
      rw [List.eq_of_mem_replicate member]
      decide
    refine ⟨_, (), (Action.succeeds_pure _ _ _ _).mpr ⟨rfl, rfl⟩, ?_⟩
    rw [Action.succeeds_bind, kept, List.take_length, Nat.sub_self, nonZeroBytes, if_pos rfl]
    refine ⟨[], (), (Action.succeeds_pure _ _ _ _).mpr ⟨rfl, rfl⟩, ?_⟩
    exact (Action.succeeds_pure _ _ _ _).mpr ⟨List.append_nil ps, rfl⟩

theorem rsaes_pad_unpad (encoded message : Bytes) (made : pkcs1v15EncryptUnpad encoded = .ok message) :
    ∃ ps, Action.Succeeds (pkcs1v15EncryptPad (dealt ps) encoded.length message) () encoded () := by
  unfold pkcs1v15EncryptUnpad at made
  obtain ⟨sound, made⟩ := (refused_is_ok _ _ _ _).mp made
  obtain ⟨long, sound⟩ := not_or.mp sound
  obtain ⟨zero, two⟩ := not_or.mp sound
  cases found : (encoded.drop 2).findIdx? (· == 0x00) with
  | none =>
      rw [found] at made
      cases made
  | some i =>
      rw [found] at made
      dsimp only at made
      by_cases enough : 8 ≤ i
      · rw [if_pos enough] at made
        cases made
        obtain ⟨whole, length, filled⟩ := first_zero_found (encoded.drop 2) i found
        have head : encoded = [0x00, 0x02] ++ encoded.drop 2 := by
          match encoded, zero, two with
          | [], zero, _ => simp at zero
          | [octet], _, two => simp at two
          | first :: second :: rest, zero, two =>
              have a : first = 0x00 := by simpa using zero
              have b : second = 0x02 := by simpa using two
              rw [a, b]
              rfl
        have rest : (encoded.drop 2).drop (i + 1) = encoded.drop (2 + i + 1) := by
          rw [List.drop_drop, Nat.add_assoc]
        have size : (encoded.drop (2 + i + 1)).length + (2 + i + 1) = encoded.length := by
          have sizes := congrArg List.length whole
          rw [List.length_append, List.length_cons, length, rest, List.length_drop] at sizes
          rw [List.length_drop] at sizes ⊢
          omega
        refine ⟨(encoded.drop 2).take i, ?_⟩
        unfold pkcs1v15EncryptPad
        simp only [Action.succeeds_bind, Action.succeeds_pure, Action.succeeds_guard]
        refine ⟨by omega, (encoded.drop 2).take i, (), ?_, ?_, trivial⟩
        · have drawn := non_zero_bytes_dealt Drbg.reseedInterval.toNat _ filled
          have count : encoded.length - (encoded.drop (2 + i + 1)).length - 3 = ((encoded.drop 2).take i).length := by
            rw [length]
            omega
          rw [count]
          exact drawn
        · rw [← rest, List.append_assoc, List.append_assoc, List.singleton_append, ← whole]
          exact head.symm
      · rw [if_neg enough] at made
        cases made

-- The octets are those of a block that fits in as many bits as were asked for.
def topMask (clear : Nat) : UInt8 := if clear = 0 then 0xff else (0xff : UInt8) >>> UInt8.ofNat clear

theorem clear_top_cons (clear : Nat) (octet : UInt8) (rest : Bytes) :
    clearTop clear (octet :: rest) = (octet &&& topMask clear) :: rest := by
  unfold clearTop topMask
  by_cases none : clear = 0
  · rw [if_pos none, if_pos none, show (0xff : UInt8) = -1 by decide, UInt8.and_neg_one]
  · rw [if_neg none, if_neg none]
    rfl

theorem top_mask_odd (clear : Nat) (few : clear ≤ 7) : (0x01 : UInt8) &&& topMask clear = 0x01 := by
  interval_cases clear <;> decide

theorem masked_twice (octet mask top : UInt8) : (((octet ^^^ mask) &&& top) ^^^ mask) &&& top = octet &&& top := by
  apply UInt8.eq_of_toBitVec_eq
  simp only [UInt8.toBitVec_and, UInt8.toBitVec_xor]
  ext i
  simp only [BitVec.getElem_and, BitVec.getElem_xor]
  cases octet.toBitVec[i] <;> cases mask.toBitVec[i] <;> cases top.toBitVec[i] <;> rfl

section

variable [Crypto] {σ : Type} (fill : Nat → Action TpmRc σ Bytes)

-- Verifying takes apart what encoding put together, whatever number of bits is left over at the top.
theorem pss_verify_encode (hashAlg : UInt16) (digestValue em : Bytes) (keyBits : Nat) (s s' : σ)
    (filled : ∀ count t octets t', Action.Succeeds (fill count) t octets t' → octets.length = count)
    (made : Action.Succeeds (pssEncode fill hashAlg digestValue keyBits) s em s') :
    em.length = (keyBits - 1 + 7) / 8 ∧ pssVerify hashAlg digestValue em keyBits = .ok () := by
  unfold pssEncode at made
  simp only [Action.succeeds_bind, Action.succeeds_lift, Action.succeeds_pure, Action.succeeds_guard] at made
  obtain ⟨hLen, _, ⟨sized, rfl⟩, same, roomy, salt, _, drawn, h, _, ⟨hashed, rfl⟩, dbMask, _, ⟨masked, rfl⟩, rfl, _⟩ := made
  have saltLength := filled _ _ _ _ drawn
  generalize emBits : keyBits - 1 = bits at *
  generalize emLen : (bits + 7) / 8 = len at *
  have few : 8 * len - bits ≤ 7 := by omega
  have enough : hLen + 2 ≤ len := Nat.le_of_not_lt roomy
  have zeros : len - (len - hLen - 2) - hLen - 2 = 0 := by omega
  rw [zeros, List.replicate_zero, List.nil_append, List.singleton_append] at masked ⊢
  have hashLength : h.length = hLen := by
    have length := Hash.digest_length hashAlg _ h hashed
    rw [sized] at length
    exact (Except.ok.inj length).symm
  have maskLength := mgf1_length hashAlg h dbMask _ masked
  cases dbMask with
  | nil => cases maskLength
  | cons first mask =>
      have restLength : mask.length = salt.length := Nat.succ.inj maskLength
      have unmasked : xorWith (xorWith salt mask) mask = salt := xor_with_twice salt mask restLength
      have blockLength : (xorWith salt mask).length = salt.length := xor_with_length salt mask restLength
      let masked' : Bytes := ((0x01 ^^^ first) &&& topMask (8 * len - bits)) :: xorWith salt mask
      have shape : clearTop (8 * len - bits) (xorWith (0x01 :: salt) (first :: mask)) = masked' :=
        clear_top_cons _ _ _
      have maskedLength : masked'.length = len - hLen - 1 := by
        show (xorWith salt mask).length + 1 = _
        rw [blockLength, saltLength]
        omega
      have total : (masked' ++ h ++ [0xbc]).length = len := by
        rw [List.length_append, List.length_append, maskedLength, hashLength, List.length_singleton]
        omega
      rw [shape]
      refine ⟨total, ?_⟩
      have front : (masked' ++ h ++ [0xbc]).take (len - hLen - 1) = masked' := by
        rw [List.append_assoc]
        exact List.take_left' maskedLength
      have middle : ((masked' ++ h ++ [0xbc]).drop (len - hLen - 1)).take hLen = h := by
        rw [List.append_assoc, List.drop_left' maskedLength]
        exact List.take_left' hashLength
      have last : (masked' ++ h ++ [0xbc]).getLast? = some 0xbc := List.getLast?_concat
      have cleared : clearTop (8 * len - bits) masked' = masked' := by
        rw [clear_top_cons, UInt8.and_assoc, UInt8.and_self]
      -- The separator survives, since no more than seven bits were cleared above it.
      have opened : clearTop (8 * len - bits) (xorWith masked' (first :: mask)) = 0x01 :: salt := by
        show clearTop _ ((_ ^^^ first) :: xorWith (xorWith salt mask) mask) = _
        rw [clear_top_cons, masked_twice, top_mask_odd _ few, unmasked]
      have dbLength : (0x01 :: salt).length = len - hLen - 1 := by
        rw [List.length_cons, saltLength]
        omega
      rw [dbLength] at masked
      have found : pssSalt (0x01 :: salt) = some salt := rfl
      unfold pssVerify
      rw [sized]
      simp only [bind, Except.bind, emBits, emLen, total, front, middle, cleared, masked, opened, found, hashed, if_neg same,
        last, ne_eq, not_true_eq_false, false_or, if_neg roomy, if_false]
      rfl

end

end Rsa

theorem Work.bytes_length [Crypto] (count : Nat) (w : Work) (octets : Bytes) (w' : Work)
    (drawn : Action.Succeeds (Work.bytes count) w octets w') : octets.length = count := by
  obtain ⟨rng, drawn, _⟩ := (Action.succeeds_zoom _ _ _ _ _ _).mp drawn
  exact Drbg.bytes_length count _ _ _ drawn

end Swtrust
