import Swtrust.Commands.Crypto
import Swtrust.Crypto.Fips

set_option autoImplicit false

namespace Swtrust

open Library

def rsaPaddingScheme (object : Object) (supplied : Scheme) (parameter : Nat) : TpmResult Scheme := do
  let objectScheme := object.area.scheme.getD Scheme.null
  if objectScheme.isNull then return supplied
  if supplied.isNull then return objectScheme
  if supplied.scheme ≠ objectScheme.scheme then throw (Rc.scheme.withParameter parameter)
  return objectScheme

def rsaLabel (label : Bytes) (parameter : Nat) : TpmResult Bytes :=
  if label.isEmpty then .ok []
  else if label.getLast? ≠ some 0 then .error (Rc.value.withParameter parameter)
  else .ok label

def unmarshalRsa [Profile] : Reader (Bytes × Scheme × Bytes) := do
  let text : Tpm2bPublicKeyRsa ← Reader.withParameter 1 Tpm2b.unmarshal
  let scheme ← Scheme.unmarshalRsaDecrypt.withParameter 2
  let label : Tpm2bData ← Reader.withParameter 3 Tpm2b.unmarshal
  return (text.buffer, scheme, label.buffer)

def checkDecryptKey (object : Object) (type : UInt16) : TpmResult Unit := do
  if object.area.objectType ≠ type then throw (Rc.key.withHandle 1)
  if !object.has ObjectAttributes.decrypt then throw (Rc.attributes.withHandle 1)
  if object.has ObjectAttributes.restricted then throw (Rc.attributes.withHandle 1)

section

variable [Primitives] (s : TpmState) (request : Request)

def rsaPad (object : Object) (area : Rsa.RsaPublic) (scheme : Scheme) (message label : Bytes) :
    Action TpmRc Drbg Bytes := do
  if scheme.scheme = Alg.oaep then
    Rsa.oaepEncode Drbg.bytes (scheme.hashAlg.getD object.area.nameAlg) area.size message label
  else if scheme.scheme = Alg.rsaes then Rsa.pkcs1v15EncryptPad Drbg.bytes area.size message
  else if scheme.scheme = Alg.null then
    if area.size < message.length then throw (Rc.size.withParameter 1)
    return List.replicate (area.size - message.length) 0 ++ message
  else throw (Rc.scheme.withParameter 2)

def rsaEncrypt : Action TpmRc Drbg Response := do
  let keyHandle ← request.handle 0
  let (message, inScheme, label) ← request.params unmarshalRsa
  let object ← s.objectAt keyHandle 1
  if object.area.objectType ≠ Alg.rsa then throw (Rc.key.withHandle 1)
  match object.area.parameters, object.area.unique with
  | .rsa _ _ _ exponent, .rsa modulus =>
    let area ← Rsa.RsaPublic.new modulus.buffer exponent
    let scheme ← rsaPaddingScheme object inScheme 2
    let label ← rsaLabel label 3
    let block ← rsaPad object area scheme message label
    let out ← Rsa.publicOp area block
    let out ← (Tpm2b.new out : TpmResult Tpm2bPublicKeyRsa)
    return .of out.marshal
  | _, _ => throw (Rc.key.withHandle 1)

def rsaUnpad (object : Object) (scheme : Scheme) (plain label : Bytes) : TpmResult Bytes :=
  if scheme.scheme = Alg.oaep then Rsa.oaepDecode (scheme.hashAlg.getD object.area.nameAlg) plain label
  else if scheme.scheme = Alg.rsaes then Rsa.pkcs1v15EncryptUnpad plain
  else if scheme.scheme = Alg.null then .ok plain
  else .error (Rc.scheme.withParameter 2)

def rsaDecrypt : TpmResult Response := do
  let keyHandle ← request.handle 0
  let (cipher, inScheme, label) ← request.params unmarshalRsa
  let object ← s.objectAt keyHandle 1
  checkDecryptKey object Alg.rsa
  match object.sensitive with
  | none => throw (Rc.handle.withHandle 1)
  | some sensitive =>
    match object.area.parameters, object.area.unique with
    | .rsa _ _ _ exponent, .rsa modulus =>
      let key ← Rsa.RsaPrivate.fromPrime modulus.buffer exponent sensitive.sensitive.asSlice
      let scheme ← rsaPaddingScheme object inScheme 2
      let label ← rsaLabel label 3
      let plain ← Rsa.privateOp key cipher
      let message : Tpm2bPublicKeyRsa ← Tpm2b.new (← rsaUnpad object scheme plain label)
      return .of message.marshal
    | _, _ => throw Rc.type

def ecdhKeyGen : Action TpmRc Drbg Response := do
  let keyHandle ← request.handle 0
  let object ← s.objectAt keyHandle 1
  match object.area.parameters, object.area.unique with
  | .ecc _ _ curveId _, .ecc point =>
    let ephemeral ← Ecc.generate Drbg.bytes curveId
    let z ← Ecc.ecdh curveId (beNat ephemeral.private') point.x.buffer point.y.buffer
    let zPoint ← EccPoint.ofOctets z
    let publicPoint ← EccPoint.ofOctets (ephemeral.publicX, ephemeral.publicY)
    return .notReading request (zPoint.marshalSized ++ publicPoint.marshalSized)
  | _, _ => throw (Rc.key.withHandle 1)

def ecdhZgen : TpmResult Response := do
  let keyHandle ← request.handle 0
  let inPoint ← request.params (EccPoint.unmarshalSized.withParameter 1)
  let object ← s.objectAt keyHandle 1
  checkDecryptKey object Alg.ecc
  let scheme := object.area.scheme.getD Scheme.null
  if !scheme.isNull ∧ scheme.scheme ≠ Alg.ecdh then throw (Rc.scheme.withHandle 1)
  match object.sensitive with
  | none => throw (Rc.handle.withHandle 1)
  | some sensitive =>
    match object.area.parameters with
    | .ecc _ _ curveId _ =>
      let z ← (Ecc.ecdh curveId (beNat sensitive.sensitive.asSlice) inPoint.x.buffer inPoint.y.buffer).mapError
        fun e => if e = Rc.eccPoint then e.withParameter 1 else e
      return .of (← EccPoint.ofOctets z).marshalSized
    | _ => throw Rc.type

structure CipherInput where
  decrypt : UInt8
  mode : UInt16
  iv : Tpm2bIv
  data : Tpm2bMaxBuffer

def CipherInput.unmarshal (dataFirst : Bool) : Reader CipherInput :=
  if dataFirst then do
    let data ← Reader.withParameter 1 Tpm2b.unmarshal
    let decrypt ← Reader.withParameter 2 u8
    let mode ← Reader.withParameter 3 u16
    return { decrypt, mode, data, iv := ← Reader.withParameter 4 Tpm2b.unmarshal }
  else do
    let decrypt ← Reader.withParameter 1 u8
    let mode ← Reader.withParameter 2 u16
    let iv ← Reader.withParameter 3 Tpm2b.unmarshal
    return { decrypt, mode, iv, data := ← Reader.withParameter 4 Tpm2b.unmarshal }

def cipherMode (sym : SymDef) (mode : UInt16) (parameter : Nat) : TpmResult UInt16 := do
  let mode := if mode = Alg.null then sym.mode else mode
  if sym.mode ≠ Alg.null ∧ mode ≠ sym.mode then throw (Rc.mode.withParameter parameter)
  if mode = Alg.null then throw (Rc.mode.withParameter parameter)
  return mode

def encryptDecryptWith (dataFirst : Bool) : TpmResult Response := do
  let shift := if dataFirst then 1 else 0
  let keyHandle ← request.handle 0
  let input ← request.params (CipherInput.unmarshal dataFirst)
  if input.decrypt ≠ 0 ∧ input.decrypt ≠ 1 then throw (Rc.value.withParameter (1 + shift))
  let decrypt := input.decrypt == 1
  if !Sym.isSupportedMode input.mode ∧ input.mode ≠ Alg.null then throw (Rc.mode.withParameter (2 + shift))
  let object ← s.objectAt keyHandle 1
  if object.area.objectType ≠ Alg.symcipher then throw (Rc.key.withHandle 1)
  if object.has ObjectAttributes.restricted then throw (Rc.attributes.withHandle 1)
  match object.sensitive with
  | none => throw (Rc.handle.withHandle 1)
  | some sensitive =>
    match object.area.parameters with
    | .symCipher sym =>
      let allowed := object.has (if decrypt then ObjectAttributes.decrypt else ObjectAttributes.signEncrypt)
      if !allowed then throw (Rc.attributes.withHandle 1)
      let mode ← cipherMode sym input.mode (2 + shift)
      let block ← Sym.blockSize sym.algorithm
      let wanted := if mode = Alg.ecb then 0 else block
      if input.iv.buffer.length ≠ wanted then throw (Rc.size.withParameter (3 + shift))
      let (out, iv) ←
        Sym.crypt sym.algorithm mode sensitive.sensitive.asSlice input.iv.buffer input.data.buffer (!decrypt)
      let out : Tpm2bMaxBuffer ← Tpm2b.new out
      let iv : Tpm2bIv ← Tpm2b.new iv
      return .of (out.marshal ++ iv.marshal)
    | _ => throw (Rc.key.withHandle 1)

def encryptDecrypt : TpmResult Response := encryptDecryptWith s request false

def encryptDecrypt2 : TpmResult Response := encryptDecryptWith s request true

def identityLabel : Bytes := ascii "IDENTITY" ++ [0]

def makeCredential : Action TpmRc Drbg Response := do
  let keyHandle ← request.handle 0
  let (credential, name) ← request.params do
    let credential : Tpm2bDigest ← Reader.withParameter 1 Tpm2b.unmarshal
    let name : Tpm2bName ← Reader.withParameter 2 Tpm2b.unmarshal
    return (credential.buffer, name.buffer)
  if !isWellFormed name then throw (Rc.size.withParameter 2)
  let object ← s.objectAt keyHandle 1
  if !object.isStoragePublic then throw (Rc.type.withHandle 1)
  match object.area.parameters.symmetric with
  | none => throw Rc.type
  | some symmetric =>
    let (seed, secret) ←
      Action.withErr (·.withHandle 1) (Protect.seedToPublic Drbg.bytes object.area identityLabel)
    let blob ← Protect.wrapCredential object.area.nameAlg seed symmetric name credential
    let blob ← (Tpm2b.new blob : TpmResult Tpm2bIdObject)
    let secret ← (Tpm2b.new secret : TpmResult Tpm2bEncryptedSecret)
    return .of (blob.marshal ++ secret.marshal)

def activateCredential : TpmResult Response := do
  let activateHandle ← request.handle 0
  let keyHandle ← request.handle 1
  let (blob, secret) ← request.params do
    let blob : Tpm2bIdObject ← Reader.withParameter 1 Tpm2b.unmarshal
    let secret : Tpm2bEncryptedSecret ← Reader.withParameter 2 Tpm2b.unmarshal
    return (blob.buffer, secret.buffer)
  let key ← s.objectAt keyHandle 2
  if !key.isStorageKey then throw (Rc.type.withHandle 2)
  match key.sensitive, key.area.parameters.symmetric with
  | none, _ => throw (Rc.handle.withHandle 2)
  | some _, none => throw (Rc.type.withHandle 2)
  | some sensitive, some symmetric =>
    let seed ← (Protect.seedFromPrivate key.area sensitive secret identityLabel).mapError
      fun e => if e = Rc.type then e.withHandle 2 else Rc.value.withParameter 2
    let activate ← s.objectAt activateHandle 1
    let credential ← Protect.unwrapCredential key.area.nameAlg seed symmetric activate.name blob
    let credential : Tpm2bDigest ← Tpm2b.new credential
    return .of credential.marshal

-- The ephemeral key a commit counter stands for, before the counter is taken.
def ephemeralPoint (commits : Commits) (curveId : UInt16) : TpmResult (EccPoint × UInt16) := do
  let order := Primitives.eccOrder curveId
  let bits := UInt32.ofNat ((order.size + 7) / 8 * 8)
  let (r, counter) ← commits.next Config.commitEphemeralHashAlg [] bits
  let scalar := beNat r % order
  if scalar = 0 then throw Rc.noResult
  let key ← Ecc.keyFromPrivate curveId scalar
  Fips.pairwiseEcc curveId key false
  return (← EccPoint.ofOctets (key.publicX, key.publicY), counter)

def ecEphemeral : Action TpmRc Work Response := do
  let curveId ← request.params (Reader.withParameter 1 u16)
  let _ ← withParameter 1 (Ecc.curveBits curveId)
  let (point, counter) ← ephemeralPoint (← get).commits curveId
  modify fun w => { w with commits := w.commits.take }
  return .of (point.marshalSized ++ be16 counter)

end

end Swtrust
