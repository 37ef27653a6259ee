import Swtrust.Structures.Attributes

set_option autoImplicit false

namespace Swtrust

open Library

def isAnonymous (scheme : UInt16) : Bool := scheme == Alg.ecdaa

def isKdf (id : UInt16) : Bool :=
  [Alg.mgf1, Alg.kdf1Sp800_56a, Alg.kdf2, Alg.kdf1Sp800_108, Alg.hkdf].contains id

inductive SchemeDetail where
  | empty
  | hash (hashAlg : UInt16)
  | ecdaa (hashAlg count : UInt16)
  | xor (hashAlg kdf : UInt16)
  deriving DecidableEq

inductive DetailKind where
  | empty
  | hash
  | ecdaa
  | xor
  deriving DecidableEq

namespace SchemeDetail

def hashAlg : SchemeDetail → Option UInt16
  | .empty => none
  | .hash hashAlg => some hashAlg
  | .ecdaa hashAlg _ => some hashAlg
  | .xor hashAlg _ => some hashAlg

def read [Profile] : DetailKind → Reader SchemeDetail
  | .empty => return .empty
  | .hash => return .hash (← readHashAlg Rc.hash)
  | .ecdaa => do
    let hashAlg ← readHashAlg Rc.hash
    return .ecdaa hashAlg (← u16)
  | .xor => do
    let hashAlg ← readHashAlg Rc.hash
    let kdf ← u16
    if !isKdf kdf then throw Rc.kdf
    return .xor hashAlg kdf

def write : SchemeDetail → Bytes
  | .empty => []
  | .hash hashAlg => be16 hashAlg
  | .ecdaa hashAlg count => be16 hashAlg ++ be16 count
  | .xor hashAlg kdf => be16 hashAlg ++ be16 kdf

end SchemeDetail

def isRsaScheme (scheme : UInt16) : Bool :=
  [Alg.rsassa, Alg.rsapss, Alg.rsaes, Alg.oaep, Alg.null].contains scheme

def isRsaDecryptScheme (scheme : UInt16) : Bool := [Alg.rsaes, Alg.oaep, Alg.null].contains scheme

def isEccScheme (scheme : UInt16) : Bool :=
  [Alg.ecdsa, Alg.ecdaa, Alg.sm2, Alg.ecschnorr, Alg.ecdh, Alg.ecmqv, Alg.null].contains scheme

def isSignatureScheme (scheme : UInt16) : Bool :=
  [Alg.rsassa, Alg.rsapss, Alg.ecdsa, Alg.ecdaa, Alg.sm2, Alg.ecschnorr, Alg.hmac, Alg.null].contains scheme

def asymDetailKind (scheme : UInt16) : Option DetailKind :=
  if scheme = Alg.null ∨ scheme = Alg.rsaes then some .empty
  else if [Alg.rsassa, Alg.rsapss, Alg.oaep].contains scheme then some .hash
  else if [Alg.ecdsa, Alg.ecschnorr, Alg.sm2].contains scheme then some .hash
  else if [Alg.ecdh, Alg.ecmqv].contains scheme then some .hash
  else if scheme = Alg.ecdaa then some .ecdaa
  else if scheme = Alg.hmac then some .hash
  else none

structure Scheme where
  scheme : UInt16
  detail : SchemeDetail
  deriving DecidableEq

namespace Scheme

def null : Scheme := ⟨Alg.null, .empty⟩

def isNull (scheme : Scheme) : Bool := scheme.scheme == Alg.null

def hashAlg (scheme : Scheme) : Option UInt16 := scheme.detail.hashAlg

def unmarshalChecked [Profile] (accepts : UInt16 → Bool) (code : TpmRc) : Reader Scheme := do
  let scheme ← u16
  if !accepts scheme then throw code
  match asymDetailKind scheme with
  | none => throw code
  | some kind => return ⟨scheme, ← SchemeDetail.read kind⟩

def unmarshalRsaScheme [Profile] : Reader Scheme := unmarshalChecked isRsaScheme Rc.value
def unmarshalRsaDecrypt [Profile] : Reader Scheme := unmarshalChecked isRsaDecryptScheme Rc.value
def unmarshalEccScheme [Profile] : Reader Scheme := unmarshalChecked isEccScheme Rc.scheme
def unmarshalSigScheme [Profile] : Reader Scheme := unmarshalChecked isSignatureScheme Rc.scheme

def unmarshalKeyedhash [Profile] : Reader Scheme := do
  let scheme ← u16
  if scheme = Alg.null then return ⟨scheme, ← SchemeDetail.read .empty⟩
  else if scheme = Alg.hmac then return ⟨scheme, ← SchemeDetail.read .hash⟩
  else if scheme = Alg.xor then return ⟨scheme, ← SchemeDetail.read .xor⟩
  else throw Rc.scheme

def unmarshalKdf [Profile] : Reader Scheme := do
  let scheme ← u16
  if scheme = Alg.null then return ⟨scheme, ← SchemeDetail.read .empty⟩
  else if isKdf scheme then return ⟨scheme, ← SchemeDetail.read .hash⟩
  else throw Rc.kdf

def marshal (scheme : Scheme) : Bytes := be16 scheme.scheme ++ scheme.detail.write

end Scheme

structure SymDef where
  algorithm : UInt16
  keyBits : UInt16
  mode : UInt16
  deriving DecidableEq

namespace SymDef

def null : SymDef := ⟨Alg.null, 0, 0⟩

def isNull (sym : SymDef) : Bool := sym.algorithm == Alg.null

def isBlockCipher (id : UInt16) : Bool := id == Alg.aes

def isMode (id : UInt16) : Bool := [Alg.ctr, Alg.ofb, Alg.cbc, Alg.cfb, Alg.ecb].contains id

def isKeySize (algorithm keyBits : UInt16) : Bool :=
  algorithm == Alg.aes && Config.implementedAesKeyBits.contains keyBits

def unmarshalSymDef [Profile] : Reader SymDef := do
  let algorithm ← u16
  if algorithm = Alg.null then return null
  if algorithm = Alg.xor then
    let keyBits ← readHashAlg Rc.hash
    return ⟨algorithm, keyBits, Alg.null⟩
  if !isBlockCipher algorithm then throw Rc.symmetric
  let keyBits ← u16
  if !isKeySize algorithm keyBits then throw Rc.value
  let mode ← u16
  if !isMode mode then throw Rc.mode
  return ⟨algorithm, keyBits, mode⟩

def unmarshalSymDefObject [Profile] : Reader SymDef := do
  let sym ← unmarshalSymDef
  if sym.algorithm = Alg.xor then throw Rc.symmetric
  return sym

def marshal (sym : SymDef) : Bytes :=
  if sym.algorithm = Alg.null then be16 sym.algorithm
  else be16 sym.algorithm ++ be16 sym.keyBits ++ (if sym.algorithm ≠ Alg.xor then be16 sym.mode else [])

end SymDef

structure EccPoint where
  x : Tpm2bEccParameter
  y : Tpm2bEccParameter
  deriving DecidableEq

namespace EccPoint

def empty : EccPoint := ⟨Tpm2b.empty, Tpm2b.empty⟩

def ofOctets (coordinates : Bytes × Bytes) : TpmResult EccPoint := do
  return ⟨← Tpm2b.new coordinates.1, ← Tpm2b.new coordinates.2⟩

def isEmpty (point : EccPoint) : Bool := point.x.isEmpty && point.y.isEmpty

def marshal (point : EccPoint) : Bytes := point.x.marshal ++ point.y.marshal

def unmarshal : Reader EccPoint := do
  let x ← Tpm2b.unmarshal
  return ⟨x, ← Tpm2b.unmarshal⟩

def marshalSized (point : EccPoint) : Bytes := Swtrust.sized16 point.marshal

def unmarshalSized : Reader EccPoint := Reader.sized16 unmarshal

end EccPoint

end Swtrust
