import Swtrust.Crypto.Sym
import Swtrust.Structures.Keys
import Swtrust.Core.Object

set_option autoImplicit false

namespace Swtrust.Protect

open Library

def labelStorage : Bytes := ascii "STORAGE"
def labelIntegrity : Bytes := ascii "INTEGRITY"
def labelDuplicate : Bytes := ascii "DUPLICATE"

section

variable [Primitives]

def storageKey (parentNameAlg : UInt16) (seed name : Bytes) (keyBits : UInt16) : TpmResult Bytes :=
  kdfa parentNameAlg seed labelStorage name [] keyBits.toUInt32

def integrityKey (parentNameAlg : UInt16) (seed : Bytes) : TpmResult Bytes := do
  let size ← Hash.digestSize parentNameAlg
  kdfa parentNameAlg seed labelIntegrity [] [] (UInt32.ofNat (size * 8))

def outerIntegrity (parentNameAlg : UInt16) (seed encrypted name : Bytes) : TpmResult Bytes := do
  let key ← integrityKey parentNameAlg seed
  hmacParts parentNameAlg key [encrypted, name]

def symmetricKey (parentNameAlg : UInt16) (seed : Bytes) (symmetric : SymDef) (name : Bytes) :
    TpmResult (Bytes × Bytes) := do
  if symmetric.isNull then throw Rc.symmetric
  let key ← storageKey parentNameAlg seed name symmetric.keyBits
  let block ← Sym.blockSize symmetric.algorithm
  return (key, List.replicate block 0)

def symmetricWrap (parentNameAlg : UInt16) (seed : Bytes) (symmetric : SymDef) (name plaintext : Bytes) :
    TpmResult Bytes := do
  let (key, iv) ← symmetricKey parentNameAlg seed symmetric name
  Sym.cfbEncrypt key iv plaintext

def symmetricUnwrap (parentNameAlg : UInt16) (seed : Bytes) (symmetric : SymDef) (name ciphertext : Bytes) :
    TpmResult Bytes := do
  let (key, iv) ← symmetricKey parentNameAlg seed symmetric name
  Sym.cfbDecrypt key iv ciphertext

def wrapPrivateBody (parentNameAlg : UInt16) (parentSeed : Bytes) (symmetric : SymDef) (name plaintext : Bytes) :
    TpmResult Bytes := do
  let encrypted ← symmetricWrap parentNameAlg parentSeed symmetric name plaintext
  let integrity ← (Tpm2b.new (← outerIntegrity parentNameAlg parentSeed encrypted name) : TpmResult Tpm2bDigest)
  return integrity.marshal ++ encrypted

def wrapPrivate (parentNameAlg : UInt16) (parentSeed : Bytes) (symmetric : SymDef) (name sensitive : Bytes) :
    TpmResult Bytes :=
  wrapPrivateBody parentNameAlg parentSeed symmetric name (sized16 sensitive)

def unwrapPrivateBody (parentNameAlg : UInt16) (parentSeed : Bytes) (symmetric : SymDef) (name area : Bytes) :
    TpmResult Bytes := do
  let (integrity, encrypted) ← ((Tpm2b.unmarshal : Reader Tpm2bDigest).run area).mapError fun _ => Rc.integrity
  if encrypted.isEmpty then throw Rc.integrity
  let expected ← outerIntegrity parentNameAlg parentSeed encrypted name
  if integrity.buffer ≠ expected then throw Rc.integrity
  symmetricUnwrap parentNameAlg parentSeed symmetric name encrypted

def unwrapPrivate (parentNameAlg : UInt16) (parentSeed : Bytes) (symmetric : SymDef) (name area : Bytes) :
    TpmResult Bytes := do
  let plaintext ← unwrapPrivateBody parentNameAlg parentSeed symmetric name area
  let (body, _) ← (readSized.run plaintext).mapError fun _ => Rc.sensitive
  return body

def wrapCredential (nameAlg : UInt16) (seed : Bytes) (symmetric : SymDef) (name credential : Bytes) :
    TpmResult Bytes :=
  wrapPrivate nameAlg seed symmetric name credential

def unwrapCredential (nameAlg : UInt16) (seed : Bytes) (symmetric : SymDef) (name idObject : Bytes) :
    TpmResult Bytes :=
  unwrapPrivate nameAlg seed symmetric name idObject

def labelText (label : Bytes) : Bytes := label.takeWhile (· != 0)

def seedToPublic {σ : Type} (fill : Nat → Action TpmRc σ Bytes) (area : TpmtPublic) (label : Bytes) :
    Action TpmRc σ (Bytes × Bytes) := do
  let seedSize ← Hash.digestSize area.nameAlg
  match area.unique, area.parameters with
  | .rsa modulus, .rsa _ _ _ exponent =>
    if area.objectType ≠ Alg.rsa then throw Rc.type
    let seed ← fill seedSize
    let key ← Rsa.RsaPublic.new modulus.buffer exponent
    let block ← Rsa.oaepEncode fill area.nameAlg key.size seed label
    return (seed, ← Rsa.publicOp key block)
  | .ecc point, .ecc _ _ curveId _ =>
    if area.objectType ≠ Alg.ecc then throw Rc.type
    let ephemeral ← Ecc.generate fill curveId
    let (z, _) ← Ecc.ecdh curveId (beNat ephemeral.private') point.x.buffer point.y.buffer
    let seed ←
      kdfe area.nameAlg z (labelText label) ephemeral.publicX point.x.buffer (UInt32.ofNat (seedSize * 8))
    let x ← (Tpm2b.new ephemeral.publicX : TpmResult Tpm2bEccParameter)
    let y ← (Tpm2b.new ephemeral.publicY : TpmResult Tpm2bEccParameter)
    return (seed, EccPoint.marshalSized ⟨x, y⟩)
  | _, _ => throw Rc.type

def seedFromPrivate (area : TpmtPublic) (sensitive : TpmtSensitive) (secret label : Bytes) : TpmResult Bytes := do
  match area.unique, area.parameters with
  | .rsa modulus, .rsa _ _ _ exponent =>
    if area.objectType ≠ Alg.rsa then throw Rc.type
    let key ← Rsa.RsaPrivate.fromPrime modulus.buffer exponent sensitive.sensitive.asSlice
    let plain ← Rsa.privateOp key secret
    Rsa.oaepDecode area.nameAlg plain label
  | .ecc point, .ecc _ _ curveId _ =>
    if area.objectType ≠ Alg.ecc then throw Rc.type
    let _ ← Ecc.curveBits curveId
    let peer ← (EccPoint.unmarshalSized.fromBytes secret).mapError fun _ => Rc.value
    let (z, _) ← Ecc.ecdh curveId (beNat sensitive.sensitive.asSlice) peer.x.buffer peer.y.buffer
    let seedSize ← Hash.digestSize area.nameAlg
    kdfe area.nameAlg z (labelText label) peer.x.buffer point.x.buffer (UInt32.ofNat (seedSize * 8))
  | _, _ => throw Rc.type

end

end Swtrust.Protect
