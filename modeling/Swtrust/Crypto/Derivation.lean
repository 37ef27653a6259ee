import Swtrust.Crypto

set_option autoImplicit false

namespace Swtrust

open Library

theorem kdf_blocks_made (block : UInt32 → TpmResult Bytes) (size : Nat)
    (each : ∀ counter, ∃ out, block counter = .ok out ∧ out.length = size) (count : Nat) (counter : UInt32) :
    ∃ out, kdfBlocks block count counter = .ok out ∧ out.length = count * size := by
  induction count generalizing counter with
  | zero => exact ⟨[], rfl, by simp⟩
  | succ count ih =>
      obtain ⟨head, first, headSize⟩ := each counter
      obtain ⟨tail, rest, tailSize⟩ := ih (counter + 1)
      refine ⟨head ++ tail, ?_, ?_⟩
      · simp only [kdfBlocks, first, rest, bind, Except.bind, pure, Except.pure]
      · rw [List.length_append, headSize, tailSize, Nat.succ_mul, Nat.add_comm]

theorem mask_first_length (bits : UInt32) (out : Bytes) : (maskFirst bits out).length = out.length := by
  unfold maskFirst
  split
  · rfl
  · exact List.length_modify _ _ _

theorem output_len_octets (octets : Nat) (small : octets ≤ maxKdfBytes) :
    outputLen (UInt32.ofNat (octets * 8)) = .ok octets := by
  unfold maxKdfBytes at small
  have bits : (UInt32.ofNat (octets * 8)).toNat = octets * 8 := UInt32.toNat_ofNat_of_lt' (by simp [UInt32.size]; omega)
  unfold outputLen maxKdfBytes
  rw [bits, if_pos (by omega), if_neg (by omega)]
  exact congrArg Except.ok (by omega)

section

variable [Profile]

theorem block_size_of_digest_size (hashAlg : UInt16) (size : Nat) (sized : Hash.digestSize hashAlg = .ok size) :
    ∃ block, Hash.blockSize hashAlg = .ok block := by
  unfold Hash.digestSize at sized
  unfold Hash.blockSize
  split at sized
  · cases sized
  · rename_i outside
    rw [if_neg outside]
    repeat' split at sized
    all_goals try cases sized
    all_goals
      repeat' split
      all_goals first | exact ⟨_, rfl⟩ | (exfalso; simp_all)

theorem digest_size_pos (hashAlg : UInt16) (size : Nat) (sized : Hash.digestSize hashAlg = .ok size) : 0 < size := by
  unfold Hash.digestSize at sized
  repeat' split at sized
  all_goals cases sized
  all_goals decide

theorem digest_size_le (hashAlg : UInt16) (size : Nat) (sized : Hash.digestSize hashAlg = .ok size) :
    size ≤ Config.maxDigestSize := by
  unfold Hash.digestSize at sized
  repeat' split at sized
  all_goals cases sized
  all_goals decide

theorem digest_size_unsupported (hashAlg : UInt16) (unsupported : Hash.isSupported hashAlg = false) :
    Hash.digestSize hashAlg = .error Rc.hash := by
  unfold Hash.isSupported Hash.digestSize at unsupported
  unfold Hash.digestSize
  repeat' split
  all_goals first | rfl | simp_all [Except.isOk, Except.toBool]

theorem digest_size_supported (hashAlg : UInt16) (supported : Hash.isSupported hashAlg = true) :
    ∃ size, Hash.digestSize hashAlg = .ok size := by
  unfold Hash.isSupported at supported
  cases sized : Hash.digestSize hashAlg with
  | ok size => exact ⟨size, rfl⟩
  | error e =>
      rw [sized] at supported
      cases supported

theorem supported_of_size (hashAlg : UInt16) (size : Nat) (sized : Hash.digestSize hashAlg = .ok size) :
    Hash.isSupported hashAlg = true := by
  unfold Hash.isSupported
  rw [sized]
  rfl

end

section

variable [Crypto]

theorem hmac_parts_made (hashAlg : UInt16) (size : Nat) (sized : Hash.digestSize hashAlg = .ok size) (key : Bytes)
    (parts : List Bytes) : ∃ out, hmacParts hashAlg key parts = .ok out ∧ out.length = size := by
  obtain ⟨block, blocked⟩ := block_size_of_digest_size hashAlg size sized
  have digest := fun data => Hash.digest_ok hashAlg data size sized
  have made : ∃ data, hmacParts hashAlg key parts = .ok (Crypto.hash hashAlg data) := by
    unfold hmacParts hmac
    rw [blocked]
    by_cases long : block < key.length
    · exact ⟨_, by simp only [bind, Except.bind, if_pos long, digest]; rfl⟩
    · exact ⟨_, by simp only [bind, Except.bind, if_neg long, digest, pure, Except.pure]; rfl⟩
  obtain ⟨data, made⟩ := made
  exact ⟨_, made, Crypto.hash_length hashAlg data size sized⟩

theorem kdfa_made (hashAlg : UInt16) (size : Nat) (sized : Hash.digestSize hashAlg = .ok size)
    (key label contextU contextV : Bytes) (octets : Nat) (small : octets ≤ maxKdfBytes) :
    ∃ out, kdfa hashAlg key label contextU contextV (UInt32.ofNat (octets * 8)) = .ok out ∧ out.length = octets := by
  have positive := digest_size_pos hashAlg size sized
  obtain ⟨blocks, made, length⟩ := kdf_blocks_made
    (fun counter => hmacParts hashAlg key (kdfaParts label contextU contextV (UInt32.ofNat (octets * 8)) counter)) size
    (fun counter => hmac_parts_made hashAlg size sized key _) ((octets + size - 1) / size) 1
  refine ⟨maskFirst (UInt32.ofNat (octets * 8)) (blocks.take octets), ?_, ?_⟩
  · unfold kdfa
    rw [output_len_octets octets small, sized]
    simp only [bind, Except.bind, made, pure, Except.pure]
  · have enough : octets ≤ (octets + size - 1) / size * size := by
      have low := Nat.lt_div_mul_add (a := octets + size - 1) positive
      omega
    rw [mask_first_length, List.length_take, length]
    omega

-- As many octets as the hash gives are the HMAC of one block.
theorem kdfa_single (hashAlg : UInt16) (size : Nat) (sized : Hash.digestSize hashAlg = .ok size) (small : size ≤ maxKdfBytes)
    (key label contextU contextV out : Bytes)
    (hashed : hmac hashAlg key (kdfaParts label contextU contextV (UInt32.ofNat (size * 8)) 1).flatten = .ok out)
    (length : out.length = size) : kdfa hashAlg key label contextU contextV (UInt32.ofNat (size * 8)) = .ok out := by
  have positive := digest_size_pos hashAlg size sized
  have one : (size + size - 1) / size = 1 := by
    apply Nat.div_eq_of_lt_le <;> omega
  have whole : UInt32.ofNat (size * 8) % 8 = 0 := by
    apply UInt32.toNat_inj.mp
    unfold maxKdfBytes at small
    rw [UInt32.toNat_mod, UInt32.toNat_ofNat_of_lt' (by simp [UInt32.size]; omega)]
    exact Nat.mul_mod_left size 8
  unfold kdfa
  rw [output_len_octets size small, sized]
  simp only [bind, Except.bind, pure, Except.pure, one, kdfBlocks, hmacParts, hashed, List.append_nil]
  rw [maskFirst, if_pos whole, ← length, List.take_length]

theorem kdfa_refused (hashAlg : UInt16) (key label contextU contextV : Bytes) (octets : Nat) (many : maxKdfBytes < octets)
    (representable : octets < 2 ^ 16) :
    kdfa hashAlg key label contextU contextV (UInt32.ofNat (octets * 8)) = .error Rc.value := by
  unfold maxKdfBytes at many
  have bits : (UInt32.ofNat (octets * 8)).toNat = octets * 8 := UInt32.toNat_ofNat_of_lt' (by simp [UInt32.size]; omega)
  have refused : outputLen (UInt32.ofNat (octets * 8)) = .error Rc.value := by
    unfold outputLen maxKdfBytes
    rw [bits, if_pos (by omega), if_pos (by omega)]
  unfold kdfa
  rw [refused]
  rfl

-- A hash that structures may name and the TPM does not compute.
theorem kdfa_unsupported (hashAlg : UInt16) (key label contextU contextV : Bytes) (octets : Nat)
    (small : octets ≤ maxKdfBytes) (unsupported : Hash.isSupported hashAlg = false) :
    kdfa hashAlg key label contextU contextV (UInt32.ofNat (octets * 8)) = .error Rc.hash := by
  unfold kdfa
  rw [output_len_octets octets small, digest_size_unsupported hashAlg unsupported]
  rfl

theorem mgf1_length (hashAlg : UInt16) (seed out : Bytes) (outLen : Nat) (made : mgf1 hashAlg seed outLen = .ok out) :
    out.length = outLen := by
  unfold mgf1 at made
  obtain ⟨-, made⟩ := (guarded_then_is_ok _ _ _ _ _).mp made
  obtain ⟨size, sized, made⟩ := (bind_is_ok _ _ _).mp made
  have positive := digest_size_pos hashAlg size sized
  obtain ⟨blocks, all, length⟩ := kdf_blocks_made (fun counter => Hash.digestParts hashAlg [seed, be32 counter]) size
    (fun counter => ⟨_, Hash.digest_ok hashAlg _ size sized, Crypto.hash_length hashAlg _ size sized⟩)
    ((outLen + size - 1) / size) 0
  rw [all] at made
  obtain rfl := Except.ok.inj made
  have enough : outLen ≤ (outLen + size - 1) / size * size := by
    have low := Nat.lt_div_mul_add (a := outLen + size - 1) positive
    omega
  rw [List.length_take, length]
  omega

namespace Drbg

theorem generate_length (key : Bytes) (count : Nat) (value out last : Bytes)
    (made : generate key count value = .ok (out, last)) : out.length = count * 32 := by
  induction count generalizing value out last with
  | zero =>
      cases made
      rfl
  | succ count ih =>
      obtain ⟨next, hashed, length⟩ := hmac_parts_made Alg.sha256 32 rfl key [value]
      rw [generate] at made
      obtain ⟨_, again, made⟩ := (bind_is_ok _ _ _).mp made
      obtain rfl := Except.ok.inj (hashed.symm.trans again)
      obtain ⟨⟨tail, final⟩, rest, made⟩ := (bind_is_ok _ _ _).mp made
      cases made
      rw [List.length_append, length, ih next tail last rest, Nat.succ_mul, Nat.add_comm]

theorem bytes_length (count : Nat) (rng : Drbg) (octets : Bytes) (rng' : Drbg)
    (drawn : Action.Succeeds (bytes count) rng octets rng') : octets.length = count := by
  unfold bytes at drawn
  simp only [Action.succeeds_bind, Action.succeeds_get, Action.succeeds_lift, Action.succeeds_pure, Action.succeeds_guard,
    Action.succeeds_set] at drawn
  obtain ⟨_, _, ⟨rfl, rfl⟩, _, _, ⟨out, value⟩, _, ⟨made, rfl⟩, _, _, _, _, _, _, rfl, _⟩ := drawn
  rw [List.length_take, generate_length _ _ _ _ _ made]
  omega

end Drbg

end

end Swtrust
