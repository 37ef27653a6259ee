import Swtrust.Crypto.Derivation
import Swtrust.Crypto.Dhkem
import Swtrust.Crypto.Sym

set_option autoImplicit false

namespace Swtrust

open Library

-- What was combined with a mask is the same again after the mask is used once more.
theorem zip_xor_twice (data mask : Bytes) (same : mask.length = data.length) :
    List.zipWith (· ^^^ ·) (List.zipWith (· ^^^ ·) data mask) mask = data := by
  induction mask generalizing data with
  | nil =>
      cases data with
      | nil => rfl
      | cons octet rest => cases same
  | cons mask others ih =>
      cases data with
      | nil => cases same
      | cons octet rest =>
          rw [List.zipWith_cons_cons, List.zipWith_cons_cons, ih rest (Nat.succ.inj same)]
          rw [UInt8.xor_assoc, UInt8.xor_self, UInt8.xor_zero]

-- Decrypting in the feedback mode undoes encrypting.
def CfbInverts [Primitives] : Prop := ∀ key iv data : Bytes,
  (Primitives.aesCrypt Alg.cfb false key iv (Primitives.aesCrypt Alg.cfb true key iv data).1).1 = data

namespace Sym

theorem xor_with_twice (mask data : Bytes) (same : mask.length = data.length) :
    xorWith mask (xorWith mask data) = data ∧ (xorWith mask data).length = data.length := by
  have none : ∀ data : Bytes, mask.length = data.length → data.drop mask.length = [] := fun data same =>
    List.drop_eq_nil_of_le (Nat.le_of_eq same.symm)
  have size : (List.zipWith (· ^^^ ·) data mask).length = data.length := by
    rw [List.length_zipWith, same, Nat.min_self]
  unfold xorWith
  rw [none data same, List.append_nil, none _ (same.trans size.symm), List.append_nil]
  exact ⟨zip_xor_twice data mask same, size⟩

variable [Primitives]

theorem crypt_cfb (key iv data : Bytes) (encrypting : Bool) (keyed : key.length ∈ ([16, 24, 32] : List Nat))
    (vector : iv.length = aesBlockSize) : Prod.fst <$> crypt Alg.aes Alg.cfb key iv data encrypting =
      .ok (if data.isEmpty then [] else (Primitives.aesCrypt Alg.cfb encrypting key iv data).1) := by
  have supported : isSupportedMode Alg.cfb = true := by decide
  have sized : (([16, 24, 32] : List Nat).contains key.length) = true := List.contains_iff_mem.mpr keyed
  unfold crypt
  simp only [ne_eq, not_true_eq_false, if_false, supported, Bool.not_true, Bool.false_eq_true, vector, sized,
    show ¬ Alg.cfb = Alg.ecb by decide]
  cases data with
  | nil => rfl
  | cons octet rest => rfl

theorem cfb_inverts (inverts : CfbInverts) (key iv data : Bytes) (keyed : key.length ∈ ([16, 24, 32] : List Nat))
    (vector : iv.length = aesBlockSize) : ∃ out, cfbEncrypt key iv data = .ok out ∧ out.length = data.length ∧
      cfbDecrypt key iv out = .ok data := by
  unfold cfbEncrypt cfbDecrypt
  rw [crypt_cfb key iv data true keyed vector]
  cases data with
  | nil =>
      refine ⟨[], rfl, rfl, ?_⟩
      rw [crypt_cfb key iv [] false keyed vector]
      rfl
  | cons octet rest =>
      have length := Primitives.aesCrypt_length Alg.cfb true key iv (octet :: rest)
      refine ⟨_, rfl, length, ?_⟩
      rw [crypt_cfb _ _ _ false keyed vector]
      have filled : (Primitives.aesCrypt Alg.cfb true key iv (octet :: rest)).1.isEmpty = false := by
        cases out : (Primitives.aesCrypt Alg.cfb true key iv (octet :: rest)).1 with
        | nil =>
            rw [out] at length
            cases length
        | cons _ _ => rfl
      simp only [List.isEmpty_cons, Bool.false_eq_true, if_false, filled]
      rw [inverts key iv (octet :: rest)]

theorem crypt_sized (key iv data : Bytes) (encrypting : Bool) (out : Bytes × Bytes)
    (made : crypt Alg.aes Alg.cfb key iv data encrypting = .ok out) :
    key.length ∈ ([16, 24, 32] : List Nat) ∧ iv.length = aesBlockSize := by
  have supported : isSupportedMode Alg.cfb = true := by decide
  unfold crypt at made
  simp only [ne_eq, not_true_eq_false, if_false, supported, Bool.not_true, Bool.false_eq_true,
    show ¬ Alg.cfb = Alg.ecb by decide] at made
  obtain ⟨vector, made⟩ := (guarded_then_is_ok _ _ _ _ _).mp made
  obtain ⟨-, made⟩ := (guarded_then_is_ok _ _ _ _ _).mp made
  obtain ⟨keyed, -⟩ := (guarded_then_is_ok _ _ _ _ _).mp made
  rw [Bool.not_eq_true', Bool.not_eq_false] at keyed
  exact ⟨List.contains_iff_mem.mp keyed, not_not.mp vector⟩

-- Where the encryption was made, it is undone.
theorem cfb_undone (inverts : CfbInverts) (key iv data out : Bytes) (made : cfbEncrypt key iv data = .ok out) :
    out.length = data.length ∧ cfbDecrypt key iv out = .ok data := by
  obtain ⟨pair, ran, _⟩ := (map_is_ok _ _ _).mp made
  obtain ⟨keyed, vector⟩ := crypt_sized key iv data true pair ran
  obtain ⟨other, again, length, undone⟩ := cfb_inverts inverts key iv data keyed vector
  obtain rfl := Except.ok.inj (made.symm.trans again)
  exact ⟨length, undone⟩

end Sym

namespace Rsa

theorem xor_with_length (data mask : Bytes) (same : mask.length = data.length) :
    (xorWith data mask).length = data.length := by
  rw [xorWith, List.length_zipWith, same, Nat.min_self]

theorem xor_with_twice (data mask : Bytes) (same : mask.length = data.length) :
    xorWith (xorWith data mask) mask = data :=
  zip_xor_twice data mask same

theorem oaep_message_padded (count : Nat) (message : Bytes) :
    oaepMessage (List.replicate count 0 ++ [0x01] ++ message) = some message := by
  induction count with
  | zero => rfl
  | succ count ih =>
      rw [List.replicate_succ, List.cons_append, List.cons_append, oaepMessage, if_pos rfl]
      exact ih

variable [Crypto] {σ : Type} (fill : Nat → Action TpmRc σ Bytes)

-- What the encoding makes, with the masks that it makes it from.
theorem oaep_encode_made (hashAlg : UInt16) (keySize : Nat) (message label out : Bytes) (s s' : σ)
    (made : Action.Succeeds (oaepEncode fill hashAlg keySize message label) s out s') :
    ∃ hLen lHash seed dbMask seedMask, ∃ db : Bytes, Hash.digestSize hashAlg = .ok hLen ∧ 2 * hLen + 2 ≤ keySize ∧
      message.length ≤ keySize - 2 * hLen - 2 ∧ Hash.digest hashAlg label = .ok lHash ∧
      Action.Succeeds (fill hLen) s seed s' ∧
      db = lHash ++ (List.replicate (keySize - message.length - 2 * hLen - 2) 0 ++ [0x01] ++ message) ∧
      mgf1 hashAlg seed db.length = .ok dbMask ∧ mgf1 hashAlg (xorWith db dbMask) hLen = .ok seedMask ∧
      out = [0x00] ++ xorWith seed seedMask ++ xorWith db dbMask := by
  unfold oaepEncode at made
  simp only [Action.succeeds_bind, Action.succeeds_lift, Action.succeeds_pure, Action.succeeds_guard] at made
  obtain ⟨hLen, _, ⟨sized, rfl⟩, roomy, fits, lHash, _, ⟨hashed, rfl⟩, seed, _, drawn, dbMask, _, ⟨masked, rfl⟩, seedMask, _,
    ⟨seedMasked, rfl⟩, rfl, rfl⟩ := made
  exact ⟨hLen, lHash, seed, dbMask, seedMask, _, sized, Nat.le_of_not_lt roomy, Nat.le_of_not_lt fits, hashed, drawn,
    by simp only [List.append_assoc], masked, seedMasked, rfl⟩

-- Decoding undoes encoding, as long as the generator gives the number of octets it is asked for.
theorem oaep_decode_encode (hashAlg : UInt16) (keySize : Nat) (message label out : Bytes) (s s' : σ)
    (filled : ∀ count t octets t', Action.Succeeds (fill count) t octets t' → octets.length = count)
    (made : Action.Succeeds (oaepEncode fill hashAlg keySize message label) s out s') :
    oaepDecode hashAlg out label = .ok message ∧ out.length = keySize := by
  obtain ⟨hLen, lHash, seed, dbMask, seedMask, db, sized, roomy, fits, hashed, drawn, whole, masked, seedMasked, rfl⟩ :=
    oaep_encode_made fill hashAlg keySize message label out s s' made
  have seedLength := filled _ _ _ _ drawn
  have hashLength : lHash.length = hLen := by
    have length := Hash.digest_length hashAlg label lHash hashed
    rw [sized] at length
    exact (Except.ok.inj length).symm
  have dbLength : db.length = keySize - hLen - 1 := by
    rw [whole]
    simp only [List.length_append, List.length_replicate, List.length_singleton, hashLength]
    omega
  have maskLength := mgf1_length hashAlg seed dbMask db.length masked
  have seedMaskLength := mgf1_length hashAlg _ seedMask hLen seedMasked
  have maskedLength : (xorWith db dbMask).length = db.length := xor_with_length db dbMask maskLength
  have maskedSeedLength : (xorWith seed seedMask).length = hLen := by
    rw [xor_with_length seed seedMask (seedMaskLength.trans seedLength.symm), seedLength]
  have length : ([0x00] ++ xorWith seed seedMask ++ xorWith db dbMask).length = keySize := by
    rw [List.length_append, List.length_append, List.length_singleton, maskedLength, maskedSeedLength, dbLength]
    omega
  refine ⟨?_, length⟩
  -- The decoder takes the masked seed and the masked block apart where the encoder put them together.
  have front : (([0x00] ++ xorWith seed seedMask ++ xorWith db dbMask).drop 1).take hLen = xorWith seed seedMask := by
    rw [List.append_assoc]
    exact List.take_left' maskedSeedLength
  have back : ([0x00] ++ xorWith seed seedMask ++ xorWith db dbMask).drop (1 + hLen) = xorWith db dbMask := by
    exact List.drop_left' (by rw [List.length_append, maskedSeedLength, List.length_singleton])
  unfold oaepDecode
  rw [length, sized, hashed]
  simp only [bind, Except.bind, if_neg (Nat.not_lt.mpr roomy), front, back, seedMasked,
    xor_with_twice seed seedMask (seedMaskLength.trans seedLength.symm), maskedLength, masked,
    xor_with_twice db dbMask maskLength]
  have text : oaepMessage (db.drop hLen) = some message := by
    rw [whole, List.drop_left' hashLength, oaep_message_padded]
  have digest : db.take hLen = lHash := by
    rw [whole, List.take_left' hashLength]
  have sound : ¬ (([0x00] ++ xorWith seed seedMask ++ xorWith db dbMask).head? ≠ some 0x00 ∨ lHash ≠ lHash) := by
    simp
  rw [text, digest]
  dsimp only
  rw [if_neg sound]
  rfl

end Rsa

theorem to_bytes_padded_made (value size : Nat) (out : Bytes) (made : Rsa.toBytesPadded value size = .ok out) :
    beNat out = value ∧ out.length = size := by
  unfold Rsa.toBytesPadded at made
  split at made
  · rename_i small
    obtain rfl := Except.ok.inj made
    exact ⟨be_nat_be_bytes_of_lt size value small, be_bytes_length size value⟩
  · cases made

namespace Ecc

variable [Primitives]

-- What the group of a curve has to do for two parties to agree.
structure Agrees : Prop where
  symmetric : ∀ (curveId : UInt16) (a b : Nat), Primitives.eccMultiply curveId (multiplyGenerator curveId a) b =
    Primitives.eccMultiply curveId (multiplyGenerator curveId b) a
  onCurve : ∀ (curveId : UInt16) (scalar x y : Nat), multiplyGenerator curveId scalar = some (x, y) →
    Primitives.eccIsOnCurve curveId x y = true

-- The private scalar of a public point.
def Paired (curveId : UInt16) (scalar : Nat) (x y : Bytes) : Prop :=
  multiplyGenerator curveId scalar = some (beNat x, beNat y)

theorem generate_paired {σ : Type} (fill : Nat → Action TpmRc σ Bytes) (curveId : UInt16) (key : EccKey) (s s' : σ)
    (made : Action.Succeeds (generate fill curveId) s key s') :
    Paired curveId (beNat key.private') key.publicX key.publicY ∧
      ∃ size, coordinateSize curveId = .ok size ∧ key.publicX.length = size ∧ key.publicY.length = size := by
  unfold generate keyFromPrivate coordinates at made
  simp only [Action.succeeds_bind, Action.succeeds_lift] at made
  obtain ⟨_, _, _, scalar, _, _, made, _⟩ := made
  obtain ⟨⟨publicX, publicY⟩, multiplied, made⟩ := (bind_is_ok _ _ _).mp made
  obtain ⟨size, sized, made⟩ := (bind_is_ok _ _ _).mp made
  obtain ⟨octets, padded, made⟩ := (bind_is_ok _ _ _).mp made
  obtain rfl := Except.ok.inj made
  split at multiplied
  · cases multiplied
  · rename_i x y point
    obtain ⟨other, again, multiplied⟩ := (bind_is_ok _ _ _).mp multiplied
    obtain rfl := Except.ok.inj (sized.symm.trans again)
    obtain ⟨first, paddedX, multiplied⟩ := (bind_is_ok _ _ _).mp multiplied
    obtain ⟨second, paddedY, multiplied⟩ := (bind_is_ok _ _ _).mp multiplied
    cases multiplied
    have scalarRead := to_bytes_padded_made _ _ _ padded
    have xRead := to_bytes_padded_made _ _ _ paddedX
    have yRead := to_bytes_padded_made _ _ _ paddedY
    refine ⟨?_, _, sized, xRead.2, yRead.2⟩
    unfold Paired
    dsimp only
    rw [scalarRead.1, xRead.1, yRead.1]
    exact point

-- Both parties come to the same octets.
theorem ecdh_agrees (agrees : Agrees) (curveId : UInt16) (scalar : Nat) (x y : Bytes) (other : Nat) (otherX otherY : Bytes)
    (mine : Paired curveId scalar x y) (theirs : Paired curveId other otherX otherY) (z : Bytes × Bytes)
    (sent : ecdh curveId other x y = .ok z) : ecdh curveId scalar otherX otherY = .ok z := by
  unfold ecdh fromCoordinates at sent ⊢
  have onCurve := agrees.onCurve curveId _ _ _ theirs
  have mineOn := agrees.onCurve curveId _ _ _ mine
  rw [onCurve]
  rw [mineOn] at sent
  -- Each side multiplies the other's point by its own scalar.
  have same : Primitives.eccMultiply curveId (some (beNat otherX, beNat otherY)) scalar =
      Primitives.eccMultiply curveId (some (beNat x, beNat y)) other := by
    rw [← mine, ← theirs]
    exact agrees.symmetric curveId other scalar
  cases bits : curveBits curveId with
  | error e =>
      rw [bits] at sent
      cases sent
  | ok count =>
      rw [bits] at sent
      simp only [bind, Except.bind, pure, Except.pure, if_true] at sent ⊢
      rw [same]
      exact sent

theorem ecdh_curve (curveId : UInt16) (scalar : Nat) (x y : Bytes) (z : Bytes × Bytes)
    (made : ecdh curveId scalar x y = .ok z) : ∃ bits, curveBits curveId = .ok bits := by
  obtain ⟨_, on, _⟩ := (bind_is_ok _ _ _).mp made
  obtain ⟨bits, known, _⟩ := (bind_is_ok _ _ _).mp on
  exact ⟨bits, known⟩

end Ecc

theorem Dhkem.deserialize_serialized (curveId : UInt16) (size : Nat) (x y out : Bytes)
    (sized : Ecc.coordinateSize curveId = .ok size) (sizeX : x.length = size) (sizeY : y.length = size)
    (made : serializePoint curveId x y = .ok out) : deserializePoint curveId out = .ok (x, y) ∧ out.length = 1 + 2 * size := by
  unfold serializePoint at made
  rw [sized] at made
  simp only [bind, Except.bind, sizeX, sizeY, Nat.lt_irrefl, or_self, if_false, Nat.sub_self, List.replicate_zero,
    List.append_nil] at made
  obtain rfl := Except.ok.inj made
  have length : ([0x04] ++ x ++ y).length = 1 + 2 * size := by
    simp only [List.length_append, List.length_singleton, sizeX, sizeY]
    omega
  have front : (([0x04] ++ x ++ y).drop 1).take size = x := by
    rw [List.append_assoc]
    exact List.take_left' sizeX
  have back : ([0x04] ++ x ++ y).drop (1 + size) = y :=
    List.drop_left' (by rw [List.length_append, List.length_singleton, sizeX])
  refine ⟨?_, length⟩
  unfold deserializePoint
  rw [sized]
  have sound : ¬ (1 + 2 * size ≠ 1 + 2 * size ∨ ([0x04] ++ x ++ y).head? ≠ some 0x04) := by
    simp
  simp only [bind, Except.bind, front, back, length]
  rw [if_neg sound]
  rfl

theorem Ecc.coordinate_size_small (curveId : UInt16) (size : Nat) (sized : coordinateSize curveId = .ok size) : size ≤ 66 := by
  obtain ⟨bits, known, same⟩ := (bind_is_ok _ _ _).mp sized
  cases same
  unfold curveBits at known
  repeat' split at known
  all_goals cases known
  all_goals decide

end Swtrust
