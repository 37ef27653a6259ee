import Swtrust.Library.Action
import Swtrust.Structures.Attributes

set_option autoImplicit false

-- The hash functions themselves are outside the repository. They are the fields of `Crypto`; everything the
-- repository builds on top of a hash (HMAC, KDFa, the DRBG) is embedded here.

namespace Swtrust

open Library

namespace Hash

def digestSize [Profile] (hashAlg : UInt16) : TpmResult Nat :=
  if hashAlg = Alg.sha1 ∧ isStrict = true then .error Rc.hash
  else if hashAlg = Alg.sha1 then .ok 20
  else if hashAlg = Alg.sha256 ∨ hashAlg = Alg.sha3_256 then .ok 32
  else if hashAlg = Alg.sha384 ∨ hashAlg = Alg.sha3_384 then .ok 48
  else if hashAlg = Alg.sha512 ∨ hashAlg = Alg.sha3_512 then .ok 64
  else .error Rc.hash

def blockSize [Profile] (hashAlg : UInt16) : TpmResult Nat :=
  if hashAlg = Alg.sha1 ∧ isStrict = true then .error Rc.hash
  else if hashAlg = Alg.sha1 ∨ hashAlg = Alg.sha256 then .ok 64
  else if hashAlg = Alg.sha384 ∨ hashAlg = Alg.sha512 then .ok 128
  else if hashAlg = Alg.sha3_256 then .ok 136
  else if hashAlg = Alg.sha3_384 then .ok 104
  else if hashAlg = Alg.sha3_512 then .ok 72
  else .error Rc.hash

def isSupported [Profile] (hashAlg : UInt16) : Bool := (digestSize hashAlg).isOk

end Hash

-- Every implemented hash has its width.
theorem digest_size_of_hash [Profile] (hashAlg : UInt16) (size : Nat) (sized : Hash.digestSize hashAlg = .ok size) :
    digestSize hashAlg = some size := by
  unfold Hash.digestSize at sized
  unfold digestSize
  by_cases strict : hashAlg = Alg.sha1 ∧ isStrict = true
  · rw [if_pos strict] at sized
    cases sized
  rw [if_neg strict] at sized ⊢
  by_cases sha1 : hashAlg = Alg.sha1
  · rw [if_pos sha1] at sized ⊢
    cases sized
    rfl
  rw [if_neg sha1] at sized ⊢
  by_cases short : hashAlg = Alg.sha256 ∨ hashAlg = Alg.sha3_256
  · rw [if_pos short] at sized ⊢
    cases sized
    rfl
  rw [if_neg short] at sized ⊢
  by_cases middle : hashAlg = Alg.sha384 ∨ hashAlg = Alg.sha3_384
  · rw [if_pos middle] at sized ⊢
    cases sized
    rfl
  rw [if_neg middle] at sized ⊢
  by_cases long : hashAlg = Alg.sha512 ∨ hashAlg = Alg.sha3_512
  · rw [if_pos long] at sized ⊢
    cases sized
    rfl
  · rw [if_neg long] at sized
    cases sized

class Crypto extends Profile where
  hash : UInt16 → Bytes → Bytes
  hash_length : ∀ (hashAlg : UInt16) (data : Bytes) (size : Nat),
    Hash.digestSize hashAlg = .ok size → (hash hashAlg data).length = size

section

variable [Crypto]

namespace Hash

def digest (hashAlg : UInt16) (data : Bytes) : TpmResult Bytes := do
  let _ ← digestSize hashAlg
  return Crypto.hash hashAlg data

def digestParts (hashAlg : UInt16) (parts : List Bytes) : TpmResult Bytes := digest hashAlg parts.flatten

theorem digest_length (hashAlg : UInt16) (data out : Bytes) (made : digest hashAlg data = .ok out) :
    digestSize hashAlg = .ok out.length := by
  unfold digest at made
  cases sized : digestSize hashAlg with
  | error e => simp [sized, bind, Except.bind] at made
  | ok size =>
      simp only [sized, bind, Except.bind, pure, Except.pure, Except.ok.injEq] at made
      rw [← made, Crypto.hash_length hashAlg data size sized]

theorem digest_ok (hashAlg : UInt16) (data : Bytes) (size : Nat) (sized : digestSize hashAlg = .ok size) :
    digest hashAlg data = .ok (Crypto.hash hashAlg data) := by
  simp [digest, sized, bind, Except.bind, pure, Except.pure]

end Hash

def ascii (text : String) : Bytes := text.toList.map fun c => UInt8.ofNat c.toNat

def padTo (size : Nat) (octets : Bytes) : Bytes := octets ++ List.replicate (size - octets.length) 0

def hmac (hashAlg : UInt16) (key data : Bytes) : TpmResult Bytes := do
  let block ← Hash.blockSize hashAlg
  let short ← if block < key.length then Hash.digest hashAlg key else pure key
  let padded := padTo block short
  let inner ← Hash.digest hashAlg (padded.map (· ^^^ 0x36) ++ data)
  Hash.digest hashAlg (padded.map (· ^^^ 0x5c) ++ inner)

def hmacParts (hashAlg : UInt16) (key : Bytes) (parts : List Bytes) : TpmResult Bytes := hmac hashAlg key parts.flatten

def maxKdfBytes : Nat := 1024

def outputLen (bits : UInt32) : TpmResult Nat :=
  if bits.toNat + 7 < 2 ^ 32 then
    if (bits.toNat + 7) / 8 > maxKdfBytes then .error Rc.value else .ok ((bits.toNat + 7) / 8)
  else .error Rc.value

def kdfBlocks (block : UInt32 → TpmResult Bytes) : Nat → UInt32 → TpmResult Bytes
  | 0, _ => .ok []
  | count + 1, counter => do
    let head ← block counter
    let tail ← kdfBlocks block count (counter + 1)
    return head ++ tail

def maskFirst (bits : UInt32) (out : Bytes) : Bytes :=
  if bits % 8 = 0 then out else out.modify 0 (· &&& UInt8.ofNat (2 ^ (bits % 8).toNat - 1))

-- What is hashed for one value of the counter. A label ends in a zero octet, its own or one put after it.
def kdfaParts (label contextU contextV : Bytes) (bits counter : UInt32) : List Bytes :=
  let terminator : Bytes := if label.getLast? = some 0 then [] else [0]
  [be32 counter, label, terminator, contextU, contextV, be32 bits]

def kdfa (hashAlg : UInt16) (key label contextU contextV : Bytes) (bits : UInt32) : TpmResult Bytes := do
  let outLen ← outputLen bits
  let digestLen ← Hash.digestSize hashAlg
  let out ← kdfBlocks (fun counter => hmacParts hashAlg key (kdfaParts label contextU contextV bits counter))
    ((outLen + digestLen - 1) / digestLen) 1
  return maskFirst bits (out.take outLen)

def kdfe (hashAlg : UInt16) (z label partyU partyV : Bytes) (bits : UInt32) : TpmResult Bytes := do
  let outLen ← outputLen bits
  let digestLen ← Hash.digestSize hashAlg
  let out ← kdfBlocks (fun counter => Hash.digestParts hashAlg [be32 counter, z, label, [0], partyU, partyV])
    ((outLen + digestLen - 1) / digestLen) 1
  return maskFirst bits (out.take outLen)

def mgf1 (hashAlg : UInt16) (seed : Bytes) (outLen : Nat) : TpmResult Bytes := do
  if maxKdfBytes < outLen then throw Rc.value
  let digestLen ← Hash.digestSize hashAlg
  let out ← kdfBlocks (fun counter => Hash.digestParts hashAlg [seed, be32 counter])
    ((outLen + digestLen - 1) / digestLen) 0
  return out.take outLen

structure Drbg where
  key : Bytes
  value : Bytes
  reseedCounter : UInt64
  deriving DecidableEq

namespace Drbg

def minEntropyBytes : Nat := 48
def maxBytesPerRequest : Nat := 65536
def reseedInterval : UInt64 := 0x1000000000000

def update (rng : Drbg) (provided : List Bytes) : TpmResult Drbg := do
  let key ← hmacParts Alg.sha256 rng.key ([rng.value, [0x00]] ++ provided)
  let value ← hmacParts Alg.sha256 key [rng.value]
  if provided.all List.isEmpty then
    return { rng with key, value }
  let key' ← hmacParts Alg.sha256 key ([value, [0x01]] ++ provided)
  let value' ← hmacParts Alg.sha256 key' [value]
  return { rng with key := key', value := value' }

def instantiate (entropy nonce personalization : Bytes) : TpmResult Drbg := do
  if entropy.length + nonce.length < minEntropyBytes then throw Rc.failure
  update ⟨List.replicate 32 0x00, List.replicate 32 0x01, 1⟩ [entropy, nonce, personalization]

def stir (rng : Drbg) (data : Bytes) : TpmResult Drbg := rng.update [data]

def generate (key : Bytes) : Nat → Bytes → TpmResult (Bytes × Bytes)
  | 0, value => .ok ([], value)
  | count + 1, value => do
    let next ← hmacParts Alg.sha256 key [value]
    let (tail, last) ← generate key count next
    return (next ++ tail, last)

def bytes (count : Nat) : Action TpmRc Drbg Bytes := do
  let rng ← get
  if maxBytesPerRequest < count then throw Rc.value
  if reseedInterval ≤ rng.reseedCounter then throw Rc.failure
  let (out, value) ← generate rng.key ((count + 31) / 32) rng.value
  let next ← update { rng with value } []
  set { next with reseedCounter := satSucc next.reseedCounter }
  return out.take count

def run {α : Type} (action : Action TpmRc Drbg α) (rng : Drbg) : TpmResult (α × Drbg) :=
  match action rng with
  | .ok a rng' => .ok (a, rng')
  | .error e _ => .error e

end Drbg

end

end Swtrust
