import Swtrust.Crypto.Ecc
import Swtrust.Structures.Schemes

set_option autoImplicit false

namespace Swtrust.Dhkem

open Library

def suite (curveId : UInt16) : TpmResult (UInt16 × UInt16 × Nat) :=
  if curveId = Curve.nistP256 then .ok (0x0010, Alg.sha256, 32)
  else if curveId = Curve.nistP384 then .ok (0x0011, Alg.sha384, 48)
  else if curveId = Curve.nistP521 then .ok (0x0012, Alg.sha512, 64)
  else .error Rc.kdf

def kemHash (kdf : Scheme) : TpmResult UInt16 :=
  if kdf.scheme ≠ Alg.hkdf then .error Rc.kdf
  else match kdf.hashAlg with
    | some hashAlg => .ok hashAlg
    | none => .error Rc.kdf

def isKemSuite (curveId : UInt16) (kdf : Scheme) : Bool :=
  match suite curveId, kemHash kdf with
  | .ok (_, hashAlg, _), .ok chosen => hashAlg == chosen
  | _, _ => false

def serializePoint (curveId : UInt16) (x y : Bytes) : TpmResult Bytes := do
  let size ← Ecc.coordinateSize curveId
  if size < x.length ∨ size < y.length then throw Rc.eccPoint
  return [0x04] ++ List.replicate (size - x.length) 0 ++ x ++ List.replicate (size - y.length) 0 ++ y

def deserializePoint (curveId : UInt16) (serialized : Bytes) : TpmResult (Bytes × Bytes) := do
  let size ← Ecc.coordinateSize curveId
  if serialized.length ≠ 1 + 2 * size ∨ serialized.head? ≠ some 0x04 then throw Rc.eccPoint
  return ((serialized.drop 1).take size, serialized.drop (1 + size))

section

variable [Crypto]

def extract (hashAlg : UInt16) (salt ikm : Bytes) : TpmResult Bytes := do
  let salt ← if salt.isEmpty then (List.replicate · 0) <$> Hash.digestSize hashAlg else pure salt
  hmac hashAlg salt ikm

def expandBlocks (hashAlg : UInt16) (prk info : Bytes) : Nat → Bytes → UInt8 → TpmResult Bytes
  | 0, _, _ => .ok []
  | count + 1, previous, counter => do
    let block ← hmacParts hashAlg prk [previous, info, [counter]]
    return block ++ (← expandBlocks hashAlg prk info count block (counter + 1))

def expand (hashAlg : UInt16) (prk info : Bytes) (outLen : Nat) : TpmResult Bytes := do
  let size ← Hash.digestSize hashAlg
  if 255 * size < outLen then throw Rc.value
  let out ← expandBlocks hashAlg prk info ((outLen + size - 1) / size) [] 1
  return out.take outLen

def version : Bytes := ascii "HPKE-v1"

def suiteId (kemId : UInt16) : Bytes := ascii "KEM" ++ be16 kemId

def extractAndExpand (curveId : UInt16) (dh kemContext : Bytes) : TpmResult Bytes := do
  let (kemId, hashAlg, nSecret) ← suite curveId
  let prk ← extract hashAlg [] (version ++ suiteId kemId ++ ascii "eae_prk" ++ dh)
  expand hashAlg prk
    (be16 (UInt16.ofNat nSecret) ++ version ++ suiteId kemId ++ ascii "shared_secret" ++ kemContext) nSecret

end

end Swtrust.Dhkem
