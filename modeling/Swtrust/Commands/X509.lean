import Swtrust.Commands.Attest
import Swtrust.Structures.Der

set_option autoImplicit false

namespace Swtrust

open Library

namespace X509

def oidKeyUsage : Bytes := [0x55, 0x1D, 0x0F]
def oidTpmaObject : Bytes := [0x67, 0x81, 0x05, 0x0A, 0x01, 0x01, 0x01]
def oidRsaEncryption : Bytes := [0x2A, 0x86, 0x48, 0x86, 0xF7, 0x0D, 0x01, 0x01, 0x01]
def oidEcPublicKey : Bytes := [0x2A, 0x86, 0x48, 0xCE, 0x3D, 0x02, 0x01]

def curveOid (curveId : UInt16) : Option Bytes :=
  if curveId = Curve.nistP192 then some [0x2A, 0x86, 0x48, 0xCE, 0x3D, 0x03, 0x01, 0x01]
  else if curveId = Curve.nistP224 then some [0x2B, 0x81, 0x04, 0x00, 0x21]
  else if curveId = Curve.nistP256 then some [0x2A, 0x86, 0x48, 0xCE, 0x3D, 0x03, 0x01, 0x07]
  else if curveId = Curve.nistP384 then some [0x2B, 0x81, 0x04, 0x00, 0x22]
  else if curveId = Curve.nistP521 then some [0x2B, 0x81, 0x04, 0x00, 0x23]
  else if curveId = Curve.sm2P256 then some [0x2A, 0x81, 0x1C, 0xCF, 0x55, 0x01, 0x82, 0x2D]
  else none

def signatureOids : List ((UInt16 × UInt16) × Bytes) := [
  ((Alg.rsassa, Alg.sha1), [0x2A, 0x86, 0x48, 0x86, 0xF7, 0x0D, 0x01, 0x01, 0x05]),
  ((Alg.rsassa, Alg.sha256), [0x2A, 0x86, 0x48, 0x86, 0xF7, 0x0D, 0x01, 0x01, 0x0B]),
  ((Alg.rsassa, Alg.sha384), [0x2A, 0x86, 0x48, 0x86, 0xF7, 0x0D, 0x01, 0x01, 0x0C]),
  ((Alg.rsassa, Alg.sha512), [0x2A, 0x86, 0x48, 0x86, 0xF7, 0x0D, 0x01, 0x01, 0x0D]),
  ((Alg.ecdsa, Alg.sha1), [0x2A, 0x86, 0x48, 0xCE, 0x3D, 0x04, 0x01]),
  ((Alg.ecdsa, Alg.sha256), [0x2A, 0x86, 0x48, 0xCE, 0x3D, 0x04, 0x03, 0x02]),
  ((Alg.ecdsa, Alg.sha384), [0x2A, 0x86, 0x48, 0xCE, 0x3D, 0x04, 0x03, 0x03]),
  ((Alg.ecdsa, Alg.sha512), [0x2A, 0x86, 0x48, 0xCE, 0x3D, 0x04, 0x03, 0x04])]

def signatureAlgorithm (scheme hashAlg : UInt16) : Option Bytes := do
  let (_, oid) ← signatureOids.find? fun row => row.1 == (scheme, hashAlg)
  let identifier := Der.tlv Der.Tag.oid oid
  return if scheme = Alg.rsassa then Der.sequence [identifier, Der.tlv Der.Tag.null []]
    else Der.sequence [identifier]

def paddedCoordinates (size : Nat) (x y : Bytes) : TpmResult Bytes :=
  if size < x.length ∨ size < y.length then .error (Rc.key.withHandle 1)
  else .ok (0x04 :: (List.replicate (size - x.length) 0 ++ x ++ (List.replicate (size - y.length) 0 ++ y)))

def subjectPublicKeyInfo (object : Object) : TpmResult Bytes := do
  match object.area.parameters, object.area.unique with
  | .rsa _ _ _ exponent, .rsa modulus =>
    let exponent := if exponent = 0 then 65537 else exponent
    let key := Der.sequence [Der.unsignedInteger modulus.buffer, Der.unsignedInteger (be32 exponent)]
    return Der.sequence
      [Der.sequence [Der.tlv Der.Tag.oid oidRsaEncryption, Der.tlv Der.Tag.null []], Der.bitString key]
  | .ecc _ _ curveId _, .ecc point =>
    match curveOid curveId with
    | none => throw (Rc.key.withHandle 1)
    | some oid =>
      let size ← Ecc.coordinateSize curveId
      let encoded ← paddedCoordinates size point.x.buffer point.y.buffer
      return Der.sequence
        [Der.sequence [Der.tlv Der.Tag.oid oidEcPublicKey, Der.tlv Der.Tag.oid oid], Der.bitString encoded]
  | _, _ => throw (Rc.key.withHandle 1)

structure Usage where
  keyUsage : Option UInt32
  objectAttributes : Option UInt32

structure Partial where
  algorithm : Option Bytes
  issuer : Bytes
  validity : Bytes
  subject : Bytes
  extensions : Bytes
  keyUsage : UInt32
  objectAttributes : Option UInt32

def readExtension : Reader (Bytes × Bytes) := do
  let oid ← Der.tagged Der.Tag.oid
  let body ← Der.element
  let body ← if body.tag = Der.Tag.boolean then Der.element else pure body
  if body.tag ≠ Der.Tag.octetString then throw Rc.value
  return (oid.value, body.value)

def bitsOf (body : Bytes) : TpmResult Bytes := do
  let bits ← Der.only (Der.tagged Der.Tag.bitString) body
  return bits.value

def useExtension (usage : Usage) (oid body : Bytes) : TpmResult Usage := do
  if oid = oidKeyUsage then
    return { usage with keyUsage := some (← Der.bitField (← bitsOf body)) }
  else if oid = oidTpmaObject then
    match ← bitsOf body with
    | [0, a, b, c, d] => return { usage with objectAttributes := some (UInt32.ofNat (beNat [a, b, c, d])) }
    | _ => throw Rc.value
  else return usage

-- An extension takes two octets at least, so that the length of the list is fuel enough.
def readExtensions : Nat → Usage → Reader Usage
  | 0, usage => return usage
  | fuel + 1, usage => do
    if ← readerIsEmpty then return usage
    let extension ← Der.tagged Der.Tag.sequence
    let (oid, body) ← Der.only readExtension extension.value
    let usage ← useExtension usage oid body
    readExtensions fuel usage

def partialOf (algorithm : Option Bytes) (issuer validity subject extensions : Der.Element) : TpmResult Partial := do
  if extensions.tag ≠ Der.Tag.context 3 then throw Rc.value
  let list ← Der.only (Der.tagged Der.Tag.sequence) extensions.value
  let (usage, _) ← (readExtensions list.value.length ⟨none, none⟩).run list.value
  match usage.keyUsage with
  | none => throw (Rc.value.withParameter 3)
  | some keyUsage =>
    return { algorithm, issuer := issuer.raw, validity := validity.raw, subject := subject.raw
             extensions := extensions.raw, keyUsage, objectAttributes := usage.objectAttributes }

def parsePartial (certificate : Bytes) : TpmResult Partial := do
  let outer ← Der.only (Der.tagged Der.Tag.sequence) certificate
  let (fields, _) ← (Der.elements 5).run outer.value
  match fields with
  | [issuer, validity, subject, extensions] => partialOf none issuer validity subject extensions
  | [algorithm, issuer, validity, subject, extensions] =>
    partialOf (some algorithm.raw) issuer validity subject extensions
  | _ => throw Rc.value

def checkKeyUsage (usage : UInt32) (attributes : ObjectAttributes) : TpmResult Unit :=
  let sign := attributes.has ObjectAttributes.signEncrypt
  let decrypt := attributes.has ObjectAttributes.decrypt
  let restricted := attributes.has ObjectAttributes.restricted
  let required : List (Nat × Bool) := [(23, decrypt), (24, decrypt), (25, sign), (26, sign), (27, decrypt), (28, decrypt),
    (29, decrypt && restricted), (30, attributes.has ObjectAttributes.fixedTpm), (31, sign)]
  if required.any fun p => usage.toNat.testBit p.1 && !p.2 then .error (Rc.attributes.withParameter 3) else .ok ()

-- The serial number is made positive and its first octet is not zero.
def serialOf : Bytes → Bytes
  | [] => []
  | head :: rest => ((head &&& 0x7F) ||| 0x01) :: rest

end X509

section

variable [Primitives] (s : TpmState) (request : Request)

def certifyX509 : Action TpmRc Work Reply := do
  let objectHandle ← request.handle 0
  let signHandle ← request.handle 1
  let (reserved, inScheme, certificate) ← request.params do
    let reserved : Tpm2bData ← Reader.withParameter 1 Tpm2b.unmarshal
    let inScheme ← Scheme.unmarshalSigScheme.withParameter 2
    let certificate : Tpm2bMaxBuffer ← Reader.withParameter 3 Tpm2b.unmarshal
    return (reserved.buffer, inScheme, certificate.buffer)
  if !reserved.isEmpty then throw (Rc.value.withParameter 1)
  let object ← withHandle 1 (s.heldObject objectHandle)
  if object.sensitive.isNone then throw (Rc.authUnavailable.withHandle 1)
  let signer ← withHandle 2 (signingObject s signHandle)
  let scheme ← signingSchemeAt signer inScheme 2
  let hashAlg ← schemeHash scheme (Rc.scheme.withParameter 2)
  let fields ← withParameter 3 (X509.parsePartial certificate)
  X509.checkKeyUsage fields.keyUsage object.area.objectAttributes
  match fields.objectAttributes with
  | some claimed => if claimed ≠ object.area.objectAttributes.value then throw (Rc.attributes.withParameter 3)
  | none => pure ()
  let version := Der.context 0 [Der.unsignedInteger [2]]
  let serial := Der.unsignedInteger (X509.serialOf (← Work.bytes 20))
  let spki ← X509.subjectPublicKeyInfo object
  let algorithm ← match fields.algorithm with
    | some supplied => pure supplied
    | none =>
      match X509.signatureAlgorithm scheme.scheme hashAlg with
      | some algorithm => pure algorithm
      | none => throw (Rc.scheme.withParameter 2)
  let added := Der.sequence
    (if fields.algorithm.isSome then [version, serial, spki] else [version, serial, algorithm, spki])
  let tbs := Der.sequence
    [version, serial, algorithm, fields.issuer, fields.validity, fields.subject, spki, fields.extensions]
  let digest ← Hash.digest hashAlg tbs
  let (signature, signed) ← signDigest signer scheme digest ⟨0, 2⟩
  let added ← ((Tpm2b.new added : TpmResult Tpm2bMaxBuffer).mapError fun _ => Rc.size.withParameter 3 : TpmResult _)
  let tbsDigest ← (Tpm2b.new digest : TpmResult Tpm2bDigest)
  return { parameters := added.marshal ++ tbsDigest.marshal ++ signature.marshal, signed := some signed }

end

end Swtrust
