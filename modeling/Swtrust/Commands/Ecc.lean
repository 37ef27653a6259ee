import Swtrust.Commands.Crypto
import Swtrust.Crypto.Fips

set_option autoImplicit false

namespace Swtrust

open Library

section

variable [Primitives] (s : TpmState) (request : Request)

def eccKemKey (hashAlg : UInt16) (z partyU partyV : Bytes) : TpmResult (Bytes × Bytes) := do
  let out ← kdfe hashAlg z (ascii "SECRET") partyU partyV (256 + UInt32.ofNat (Sym.aesBlockSize * 8))
  return (out.take 32, out.drop 32)

def eccEncrypt : Action TpmRc Drbg Response := do
  let keyHandle ← request.handle 0
  let (plain, inScheme) ← request.params do
    let plain : Tpm2bMaxBuffer ← Reader.withParameter 1 Tpm2b.unmarshal
    return (plain.buffer, ← Scheme.unmarshalKdf.withParameter 2)
  let object ← s.objectAt keyHandle 1
  if object.area.objectType ≠ Alg.ecc then throw (Rc.type.withHandle 1)
  if !object.has ObjectAttributes.decrypt then throw (Rc.attributes.withHandle 1)
  match object.area.parameters, object.area.unique with
  | .ecc _ _ curveId _, .ecc point =>
    let hashAlg := inScheme.hashAlg.getD object.area.nameAlg
    let ephemeral ← Ecc.generate Drbg.bytes curveId
    let (z, _) ← Ecc.ecdh curveId (beNat ephemeral.private') point.x.buffer point.y.buffer
    let (key, iv) ← eccKemKey hashAlg z ephemeral.publicX point.x.buffer
    let cipher ← Sym.cfbEncrypt key iv plain
    let digest ← hmac hashAlg key cipher
    let c1 ← EccPoint.ofOctets (ephemeral.publicX, ephemeral.publicY)
    let c2 ← (Tpm2b.new cipher : TpmResult Tpm2bMaxBuffer)
    let c3 ← (Tpm2b.new digest : TpmResult Tpm2bDigest)
    return .of (c1.marshalSized ++ c2.marshal ++ c3.marshal)
  | _, _ => throw Rc.type

def eccDecrypt : TpmResult Response := do
  let keyHandle ← request.handle 0
  let (c1, c2, c3, inScheme) ← request.params do
    let c1 ← EccPoint.unmarshalSized.withParameter 1
    let c2 : Tpm2bMaxBuffer ← Reader.withParameter 2 Tpm2b.unmarshal
    let c3 : Tpm2bDigest ← Reader.withParameter 3 Tpm2b.unmarshal
    return (c1, c2.buffer, c3.buffer, ← Scheme.unmarshalKdf.withParameter 4)
  let object ← s.objectAt keyHandle 1
  if object.area.objectType ≠ Alg.ecc then throw (Rc.type.withHandle 1)
  if !object.has ObjectAttributes.decrypt then throw (Rc.attributes.withHandle 1)
  match object.sensitive with
  | none => throw (Rc.handle.withHandle 1)
  | some sensitive =>
    match object.area.parameters, object.area.unique with
    | .ecc _ _ curveId _, .ecc point =>
      let hashAlg := inScheme.hashAlg.getD object.area.nameAlg
      let _ ← Ecc.curveBits curveId
      let (z, _) ← withParameter 1
        (Ecc.ecdh curveId (beNat sensitive.sensitive.asSlice) c1.x.buffer c1.y.buffer)
      let (key, iv) ← eccKemKey hashAlg z c1.x.buffer point.x.buffer
      let expected ← hmac hashAlg key c2
      if expected ≠ c3 then throw (Rc.value.withParameter 3)
      let plain : Tpm2bMaxBuffer ← Tpm2b.new (← Sym.cfbDecrypt key iv c2)
      return .of plain.marshal
    | _, _ => throw Rc.type

def orderBits (curveId : UInt16) : UInt32 := UInt32.ofNat (((Primitives.eccOrder curveId).size + 7) / 8 * 8)

def finitePoint (curveId : UInt16) (point : Point) : TpmResult EccPoint := do
  EccPoint.ofOctets (← Ecc.coordinates curveId point)

def pointOrEmpty (curveId : UInt16) (point : Point) : TpmResult EccPoint :=
  if point.isNone then .ok EccPoint.empty else finitePoint curveId point

structure CommitInput where
  p1 : EccPoint
  s2 : Tpm2bSensitiveData
  y2 : Tpm2bEccParameter

def CommitInput.unmarshal : Reader CommitInput := do
  let p1 ← EccPoint.unmarshalSized.withParameter 1
  let s2 ← Reader.withParameter 2 Tpm2b.unmarshal
  return { p1, s2, y2 := ← Reader.withParameter 3 Tpm2b.unmarshal }

def commitSecond (curveId nameAlg : UInt16) (input : CommitInput) : TpmResult (Option Point) := do
  if input.s2.isEmpty then return none
  let digest ← Hash.digest nameAlg input.s2.buffer
  let x2 ← Rsa.toBytesPadded (beNat digest % (Primitives.eccField curveId).1) (← Ecc.coordinateSize curveId)
  let point ← (Ecc.fromCoordinates curveId x2 input.y2.buffer).mapError fun _ => Rc.eccPoint.withParameter 2
  return some point

def commitFirst (curveId : UInt16) (input : CommitInput) : TpmResult (Option Point) := do
  if input.p1.isEmpty then return none
  let point ← (Ecc.fromCoordinates curveId input.p1.x.buffer input.p1.y.buffer).mapError fun _ =>
    Rc.eccPoint.withParameter 1
  return some point

def commitPoints (curveId : UInt16) (scalar r : Nat) (first second : Option Point) :
    TpmResult (EccPoint × EccPoint × EccPoint) := do
  let (k, l) ← match second with
    | none => pure (EccPoint.empty, EccPoint.empty)
    | some base => do
      let k ← finitePoint curveId (Primitives.eccMultiply curveId base scalar)
      pure (k, ← finitePoint curveId (Primitives.eccMultiply curveId base r))
  match first, second with
  | some point, _ => return (k, l, ← finitePoint curveId (Primitives.eccMultiply curveId point r))
  | none, some _ => return (k, l, EccPoint.empty)
  | none, none =>
    let e ← finitePoint curveId (Ecc.multiplyGenerator curveId r)
    Fips.pairwiseEcc curveId (← Ecc.keyFromPrivate curveId r) false
    return (k, l, e)

def commit : Action TpmRc Work Response := do
  let keyHandle ← request.handle 0
  let input ← request.params CommitInput.unmarshal
  let object ← s.objectAt keyHandle 1
  if object.area.objectType ≠ Alg.ecc then throw (Rc.type.withHandle 1)
  match object.sensitive with
  | none => throw (Rc.handle.withHandle 1)
  | some sensitive =>
    match object.area.parameters with
    | .ecc _ scheme curveId _ =>
      if !isAnonymous scheme.scheme then throw (Rc.scheme.withHandle 1)
      let _ ← Ecc.curveBits curveId
      if input.s2.isEmpty ≠ input.y2.isEmpty then throw (Rc.size.withParameter 2)
      let second ← commitSecond curveId object.area.nameAlg input
      let first ← commitFirst curveId input
      let (r, counter) ← (← get).commits.next object.area.nameAlg object.name (orderBits curveId)
      let (k, l, e) ← commitPoints curveId (beNat sensitive.sensitive.asSlice)
        (beNat r % Primitives.eccOrder curveId) first second
      modify fun w => { w with commits := w.commits.take }
      return .of (k.marshalSized ++ l.marshalSized ++ e.marshalSized ++ be16 counter)
    | _ => throw Rc.type

structure ZgenInput where
  qsB : EccPoint
  qeB : EccPoint
  scheme : UInt16
  counter : UInt16

def ZgenInput.unmarshal : Reader ZgenInput := do
  let qsB ← EccPoint.unmarshalSized.withParameter 1
  let qeB ← EccPoint.unmarshalSized.withParameter 2
  let scheme ← Reader.withParameter 3 u16
  return { qsB, qeB, scheme, counter := ← Reader.withParameter 4 u16 }

def avf (curveId : UInt16) (point : Point) : TpmResult Nat := do
  let power := 2 ^ (((Primitives.eccOrder curveId).size + 1) / 2)
  let (x, _) ← Ecc.coordinates curveId point
  return beNat x % power + power

def mqvPoint (curveId : UInt16) (ds de : Nat) (qsB qeB : Point) : TpmResult EccPoint := do
  let order := Primitives.eccOrder curveId
  let qeA := Ecc.multiplyGenerator curveId de
  Fips.pairwiseEcc curveId (← Ecc.keyFromPrivate curveId de) false
  let ta := (de + ds * (← avf curveId qeA)) % order
  let base := Primitives.eccAdd curveId qeB (Primitives.eccMultiply curveId qsB (← avf curveId qeB))
  pointOrEmpty curveId (Primitives.eccMultiply curveId base ta)

def zgen2Phase : Action TpmRc Work Response := do
  let keyHandle ← request.handle 0
  let input ← request.params ZgenInput.unmarshal
  if input.scheme ≠ Alg.ecdh ∧ input.scheme ≠ Alg.ecmqv then throw (Rc.scheme.withParameter 3)
  let object ← s.objectAt keyHandle 1
  if object.area.objectType ≠ Alg.ecc then throw (Rc.type.withHandle 1)
  if !object.has ObjectAttributes.decrypt ∨ object.has ObjectAttributes.restricted then
    throw (Rc.attributes.withHandle 1)
  match object.sensitive with
  | none => throw (Rc.handle.withHandle 1)
  | some sensitive =>
    match object.area.parameters with
    | .ecc _ _ curveId _ =>
      let _ ← Ecc.curveBits curveId
      let ds := beNat sensitive.sensitive.asSlice
      let qsB ← withParameter 1 (Ecc.fromCoordinates curveId input.qsB.x.buffer input.qsB.y.buffer)
      let qeB ← withParameter 2 (Ecc.fromCoordinates curveId input.qeB.x.buffer input.qeB.y.buffer)
      let (r, commits) ← (((← get).commits.useCounter Config.commitEphemeralHashAlg [] input.counter
        (orderBits curveId)).mapError fun _ => Rc.value.withParameter 4 : TpmResult _)
      modify fun w => { w with commits }
      let de := beNat r % Primitives.eccOrder curveId
      if de = 0 then throw Rc.noResult
      if input.scheme = Alg.ecdh then
        let z1 ← pointOrEmpty curveId (Primitives.eccMultiply curveId qsB ds)
        let z2 ← pointOrEmpty curveId (Primitives.eccMultiply curveId qeB de)
        return .of (z1.marshalSized ++ z2.marshalSized)
      else
        let z1 ← mqvPoint curveId ds de qsB qeB
        return .of (z1.marshalSized ++ EccPoint.empty.marshalSized)
    | _ => throw (Rc.type.withHandle 1)

def kemSecret (curveId : UInt16) (dh sender : Bytes) (receiver : EccPoint) : TpmResult Tpm2bSharedSecret := do
  let receiver ← Dhkem.serializePoint curveId receiver.x.buffer receiver.y.buffer
  Tpm2b.new (← Dhkem.extractAndExpand curveId dh (sender ++ receiver))

def encapsulate : Action TpmRc Drbg Response := do
  let keyHandle ← request.handle 0
  let object ← s.objectAt keyHandle 1
  if object.area.objectType ≠ Alg.ecc then throw (Rc.type.withHandle 1)
  match object.area.parameters, object.area.unique with
  | .ecc _ _ curveId kdf, .ecc point =>
    if !Dhkem.isKemSuite curveId kdf then throw (Rc.key.withHandle 1)
    let ephemeral ← Ecc.generate Drbg.bytes curveId
    let (dh, _) ← Ecc.ecdh curveId (beNat ephemeral.private') point.x.buffer point.y.buffer
    let sender ← Dhkem.serializePoint curveId ephemeral.publicX ephemeral.publicY
    let secret ← kemSecret curveId dh sender point
    return .notReading request (secret.marshal ++ sized16 sender)
  | _, _ => throw Rc.type

def decapsulate : TpmResult Response := do
  let keyHandle ← request.handle 0
  let ciphertext ← request.params (Reader.withParameter 1 readSized)
  let object ← s.objectAt keyHandle 1
  if object.area.objectType ≠ Alg.ecc then throw (Rc.type.withHandle 1)
  if object.has ObjectAttributes.restricted ∨ !object.has ObjectAttributes.decrypt then
    throw (Rc.attributes.withHandle 1)
  match object.sensitive with
  | none => throw (Rc.handle.withHandle 1)
  | some sensitive =>
    match object.area.parameters, object.area.unique with
    | .ecc _ _ curveId kdf, .ecc point =>
      if !Dhkem.isKemSuite curveId kdf then throw (Rc.key.withHandle 1)
      let (x, y) ← withParameter 1 (Dhkem.deserializePoint curveId ciphertext)
      let (dh, _) ← withParameter 1 (Ecc.ecdh curveId (beNat sensitive.sensitive.asSlice) x y)
      return .of (← kemSecret curveId dh ciphertext point).marshal
    | _, _ => throw Rc.type

end

end Swtrust
