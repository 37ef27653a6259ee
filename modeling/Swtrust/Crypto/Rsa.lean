import Swtrust.Crypto.Rand
import Swtrust.Primitives

set_option autoImplicit false

-- The bignum library the repository calls computes with natural numbers of any size; here it is `Nat`.

namespace Swtrust.Rsa

open Library

def defaultExponent : UInt32 := 65537

def effectiveExponent (exponent : UInt32) : UInt32 := if exponent = 0 then defaultExponent else exponent

def toBytesPadded (value size : Nat) : TpmResult Bytes :=
  if value < 256 ^ size then .ok (beBytes size value) else .error Rc.failure

def modExp (base exponent modulus : Nat) : Nat :=
  exponent.bits.foldr
    (fun bit acc => if bit then acc * acc % modulus * base % modulus else acc * acc % modulus) (1 % modulus)

structure RsaPublic where
  n : Nat
  e : Nat
  deriving DecidableEq

structure RsaPrivate where
  area : RsaPublic
  p : Nat
  q : Nat
  d : Nat
  deriving DecidableEq

namespace RsaPublic

def new (modulus : Bytes) (exponent : UInt32) : TpmResult RsaPublic :=
  if beNat modulus = 0 then .error Rc.key else .ok ⟨beNat modulus, (effectiveExponent exponent).toNat⟩

def bits (key : RsaPublic) : Nat := key.n.size

def size (key : RsaPublic) : Nat := (key.bits + 7) / 8

end RsaPublic

def modInverse (a m : Nat) : TpmResult Nat :=
  if m ≠ 0 ∧ Nat.gcd a m = 1 then .ok ((Nat.gcdA a m % (m : Int)).toNat) else .error Rc.failure

def privateExponent (e p q : Nat) : TpmResult Nat := modInverse e (Nat.lcm (p - 1) (q - 1))

namespace RsaPrivate

def fromPrime (modulus : Bytes) (exponent : UInt32) (prime : Bytes) : TpmResult RsaPrivate := do
  let area ← RsaPublic.new modulus exponent
  let p := beNat prime
  if p = 0 ∨ p = 1 then throw Rc.key
  let q := area.n / p
  if area.n % p ≠ 0 ∨ q = 0 ∨ q = 1 then throw Rc.key
  let d ← privateExponent area.e p q
  return { area, p, q, d }

def primeBytes (key : RsaPrivate) : TpmResult Bytes := toBytesPadded key.p (key.area.size / 2)

def modulusBytes (key : RsaPrivate) : TpmResult Bytes := toBytesPadded key.area.n key.area.size

end RsaPrivate

def publicOp (key : RsaPublic) (input : Bytes) : TpmResult Bytes := do
  if input.length ≠ key.size then throw Rc.size
  if key.n ≤ beNat input then throw Rc.value
  toBytesPadded (modExp (beNat input) key.e key.n) key.size

def privateOp (key : RsaPrivate) (input : Bytes) : TpmResult Bytes := do
  if input.length ≠ key.area.size then throw Rc.size
  if key.area.n ≤ beNat input then throw Rc.value
  toBytesPadded (modExp (beNat input) key.d key.area.n) key.area.size

def xorWith (data mask : Bytes) : Bytes := List.zipWith (· ^^^ ·) data mask

def pkcs1v15EncryptUnpad (encoded : Bytes) : TpmResult Bytes :=
  if encoded.length < 11 ∨ encoded.head? ≠ some 0x00 ∨ (encoded.drop 1).head? ≠ some 0x02 then .error Rc.value
  else
    match (encoded.drop 2).findIdx? (· == 0x00) with
    | some i => if 8 ≤ i then .ok (encoded.drop (2 + i + 1)) else .error Rc.value
    | none => .error Rc.value

def digestInfoPrefix (hashAlg : UInt16) : TpmResult Bytes :=
  if hashAlg = Alg.sha1 then
    .ok [0x30, 0x21, 0x30, 0x09, 0x06, 0x05, 0x2b, 0x0e, 0x03, 0x02, 0x1a, 0x05, 0x00, 0x04, 0x14]
  else if hashAlg = Alg.sha256 then
    .ok [0x30, 0x31, 0x30, 0x0d, 0x06, 0x09, 0x60, 0x86, 0x48, 0x01, 0x65, 0x03, 0x04, 0x02, 0x01, 0x05, 0x00, 0x04, 0x20]
  else if hashAlg = Alg.sha384 then
    .ok [0x30, 0x41, 0x30, 0x0d, 0x06, 0x09, 0x60, 0x86, 0x48, 0x01, 0x65, 0x03, 0x04, 0x02, 0x02, 0x05, 0x00, 0x04, 0x30]
  else if hashAlg = Alg.sha512 then
    .ok [0x30, 0x51, 0x30, 0x0d, 0x06, 0x09, 0x60, 0x86, 0x48, 0x01, 0x65, 0x03, 0x04, 0x02, 0x03, 0x05, 0x00, 0x04, 0x40]
  else if hashAlg = Alg.sha3_256 then
    .ok [0x30, 0x31, 0x30, 0x0d, 0x06, 0x09, 0x60, 0x86, 0x48, 0x01, 0x65, 0x03, 0x04, 0x02, 0x08, 0x05, 0x00, 0x04, 0x20]
  else if hashAlg = Alg.sha3_384 then
    .ok [0x30, 0x41, 0x30, 0x0d, 0x06, 0x09, 0x60, 0x86, 0x48, 0x01, 0x65, 0x03, 0x04, 0x02, 0x09, 0x05, 0x00, 0x04, 0x30]
  else if hashAlg = Alg.sha3_512 then
    .ok [0x30, 0x51, 0x30, 0x0d, 0x06, 0x09, 0x60, 0x86, 0x48, 0x01, 0x65, 0x03, 0x04, 0x02, 0x0a, 0x05, 0x00, 0x04, 0x40]
  else .error Rc.hash

section

-- `fill` is the generator the source takes as `&mut dyn Rng`.

variable [Crypto] {σ : Type} (fill : Nat → Action TpmRc σ Bytes)

def oaepEncode (hashAlg : UInt16) (keySize : Nat) (message label : Bytes) : Action TpmRc σ Bytes := do
  let hLen ← Hash.digestSize hashAlg
  if keySize < 2 * hLen + 2 then throw Rc.keySize
  if keySize - 2 * hLen - 2 < message.length then throw Rc.value
  let lHash ← Hash.digest hashAlg label
  let psLen := keySize - message.length - 2 * hLen - 2
  let db := lHash ++ List.replicate psLen 0 ++ [0x01] ++ message
  let seed ← fill hLen
  let dbMask ← mgf1 hashAlg seed db.length
  let maskedDb := xorWith db dbMask
  let seedMask ← mgf1 hashAlg maskedDb hLen
  return [0x00] ++ xorWith seed seedMask ++ maskedDb

-- The padding string is zeros, then one octet 0x01; the message is what follows.
def oaepMessage : Bytes → Option Bytes
  | [] => none
  | octet :: rest => if octet = 0x00 then oaepMessage rest else if octet = 0x01 then some rest else none

def oaepDecode (hashAlg : UInt16) (encoded label : Bytes) : TpmResult Bytes := do
  let hLen ← Hash.digestSize hashAlg
  if encoded.length < 2 * hLen + 2 then throw Rc.value
  let lHash ← Hash.digest hashAlg label
  let maskedSeed := (encoded.drop 1).take hLen
  let maskedDb := encoded.drop (1 + hLen)
  let seedMask ← mgf1 hashAlg maskedDb hLen
  let seed := xorWith maskedSeed seedMask
  let dbMask ← mgf1 hashAlg seed maskedDb.length
  let db := xorWith maskedDb dbMask
  match oaepMessage (db.drop hLen) with
  | none => throw Rc.value
  | some message =>
    if encoded.head? ≠ some 0x00 ∨ db.take hLen ≠ lHash then throw Rc.value
    return message

-- Each turn spends one DRBG request, and the DRBG refuses once it has served `reseedInterval` of them.
def nonZeroBytes : Nat → Nat → Action TpmRc σ Bytes
  | 0, _ => throw Rc.failure
  | turns + 1, count => do
    if count = 0 then return []
    let drawn ← fill (count + 8)
    let head := (drawn.filter (· != 0)).take count
    return head ++ (← nonZeroBytes turns (count - head.length))

def pkcs1v15EncryptPad (keySize : Nat) (message : Bytes) : Action TpmRc σ Bytes := do
  if keySize < 11 ∨ keySize - 11 < message.length then throw Rc.value
  let ps ← nonZeroBytes fill (Drbg.reseedInterval.toNat + 2) (keySize - message.length - 3)
  return [0x00, 0x02] ++ ps ++ [0x00] ++ message

def pkcs1v15SignEncode (hashAlg : UInt16) (digest : Bytes) (keySize : Nat) : TpmResult Bytes := do
  let hLen ← Hash.digestSize hashAlg
  if digest.length ≠ hLen then throw Rc.size
  let info ← digestInfoPrefix hashAlg
  let tLen := info.length + hLen
  if keySize < tLen + 11 then throw Rc.keySize
  return [0x00, 0x01] ++ List.replicate (keySize - tLen - 3) 0xff ++ [0x00] ++ info ++ digest

def clearTop (clear : Nat) (db : Bytes) : Bytes :=
  if clear = 0 then db else db.modify 0 (· &&& ((0xff : UInt8) >>> UInt8.ofNat clear))

def pssEncode (hashAlg : UInt16) (digestValue : Bytes) (keyBits : Nat) : Action TpmRc σ Bytes := do
  let hLen ← Hash.digestSize hashAlg
  if digestValue.length ≠ hLen then throw Rc.size
  let emBits := keyBits - 1
  let emLen := (emBits + 7) / 8
  if emLen < hLen + 2 then throw Rc.keySize
  let saltLen := emLen - hLen - 2
  let salt ← fill saltLen
  let h ← Hash.digest hashAlg (List.replicate 8 0 ++ digestValue ++ salt)
  let db := List.replicate (emLen - saltLen - hLen - 2) 0 ++ [0x01] ++ salt
  let dbMask ← mgf1 hashAlg h db.length
  return clearTop (8 * emLen - emBits) (xorWith db dbMask) ++ h ++ [0xbc]

def pssSalt : Bytes → Option Bytes
  | [] => none
  | octet :: rest => if octet = 0x00 then pssSalt rest else if octet = 0x01 then some rest else none

def pssVerify (hashAlg : UInt16) (digestValue encoded : Bytes) (keyBits : Nat) : TpmResult Unit := do
  let hLen ← Hash.digestSize hashAlg
  if digestValue.length ≠ hLen then throw Rc.size
  let emBits := keyBits - 1
  let emLen := (emBits + 7) / 8
  if encoded.length ≠ emLen ∨ emLen < hLen + 2 then throw Rc.signature
  if encoded.getLast? ≠ some 0xbc then throw Rc.signature
  let dbLen := emLen - hLen - 1
  let maskedDb := encoded.take dbLen
  let h := (encoded.drop dbLen).take hLen
  let clear := 8 * emLen - emBits
  if clearTop clear maskedDb ≠ maskedDb then throw Rc.signature
  let dbMask ← mgf1 hashAlg h dbLen
  match pssSalt (clearTop clear (xorWith maskedDb dbMask)) with
  | none => throw Rc.signature
  | some salt =>
    let expected ← Hash.digest hashAlg (List.replicate 8 0 ++ digestValue ++ salt)
    if expected ≠ h then throw Rc.signature

end

section

variable [Primitives] {σ : Type} (fill : Nat → Action TpmRc σ Bytes)

def generatePrime (bits e : Nat) : Nat → Action TpmRc σ Nat
  | 0 => throw Rc.failure
  | turns + 1 => do
    let octets ← fill (bits / 8)
    let candidate := beNat ((octets.modify 0 (· ||| 0xC0)).modify (bits / 8 - 1) (· ||| 0x01))
    if candidate.size ≠ bits ∨ Nat.gcd (candidate - 1) e ≠ 1 ∨ !Primitives.isProbablyPrime candidate then
      generatePrime bits e turns
    else return candidate

def generateFrom (keyBits e p : Nat) : Nat → Action TpmRc σ RsaPrivate
  | 0 => throw Rc.failure
  | turns + 1 => do
    let q ← generatePrime fill (keyBits / 2) e (Drbg.reseedInterval.toNat + 2)
    if q = p ∨ (p * q).size ≠ keyBits then generateFrom keyBits e p turns
    else
      let d ← privateExponent e p q
      if d.size * 4 < keyBits then generateFrom keyBits e p turns
      else return { area := ⟨p * q, e⟩, p, q, d }

def generate (keyBits : UInt16) (exponent : UInt32) : Action TpmRc σ RsaPrivate := do
  if keyBits < 2048 ∨ 4096 < keyBits ∨ keyBits % 8 ≠ 0 then throw Rc.keySize
  let e := effectiveExponent exponent
  if e < 3 ∨ e % 2 = 0 then throw Rc.value
  let p ← generatePrime fill (keyBits.toNat / 2) e.toNat (Drbg.reseedInterval.toNat + 2)
  generateFrom fill keyBits.toNat e.toNat p (Drbg.reseedInterval.toNat + 2)

end

end Swtrust.Rsa
