import Swtrust.Commands.Object

set_option autoImplicit false

namespace Swtrust

open Library

def duplicateLabel : Bytes := Protect.labelDuplicate ++ [0]

namespace Sym

def isWeakKey (algorithm : UInt16) (key : Bytes) : Bool :=
  algorithm == Alg.aes && (key.take (key.length / 2)).all (· == 0)

end Sym

def newParentSymmetric (parent : Object) (position : Nat) : TpmResult SymDef :=
  match parent.area.parameters.symmetric with
  | some symmetric => .ok symmetric
  | none => .error (Rc.type.withHandle position)

section

variable [Primitives]

def seedToParent (parent : Object) : Action TpmRc Drbg (Bytes × Bytes) :=
  Protect.seedToPublic Drbg.bytes parent.area duplicateLabel

def seedFromParent (parent : Object) (secret : Bytes) : TpmResult Bytes :=
  match parent.sensitive with
  | none => .error Rc.handle
  | some sensitive => Protect.seedFromPrivate parent.area sensitive secret duplicateLabel

def innerWrap (nameAlg : UInt16) (symmetric : SymDef) (key name body : Bytes) : TpmResult Bytes := do
  let _ ← Hash.digestSize nameAlg
  let digest ← Hash.digestParts nameAlg [body, name]
  let block ← Sym.blockSize symmetric.algorithm
  Sym.cfbEncrypt key (List.replicate block 0) (sized16 digest ++ body)

def innerUnwrap (nameAlg : UInt16) (symmetric : SymDef) (key name data : Bytes) : TpmResult Bytes := do
  let block ← Sym.blockSize symmetric.algorithm
  let plain ← Sym.cfbDecrypt key (List.replicate block 0) data
  let (digest, body) ← (readSized.run plain).mapError fun _ => Rc.integrity
  if digest ≠ (← Hash.digestParts nameAlg [body, name]) then throw Rc.integrity
  return body

def sensitiveFromBody (body : Bytes) : TpmResult Bytes :=
  (readSized.fromBytes body).mapError fun _ => Rc.sensitive

-- The key of the inner wrapper, and the copy of it that the response carries when the TPM made it.
def duplicationKey (symmetric : SymDef) (supplied : Bytes) : Action TpmRc Drbg (Bytes × Bytes) := do
  let size := symmetric.keyBits.toNat / 8
  if supplied.isEmpty then
    let key ← Drbg.bytes size
    return (key, key)
  if supplied.length ≠ size then throw (Rc.size.withParameter 1)
  return (supplied, [])

def wrapForParent (parent : Object) (name body : Bytes) : Action TpmRc Drbg (Bytes × Bytes) := do
  let symmetric ← newParentSymmetric parent 2
  let (seed, secret) ← Action.withErr (·.withHandle 2) (seedToParent parent)
  let wrapped ← Protect.wrapPrivateBody parent.area.nameAlg seed symmetric name body
  return (wrapped, secret)

def secretOctets (secret : Bytes) : TpmResult Bytes := do
  let secret : Tpm2bEncryptedSecret ← Tpm2b.new secret
  return secret.marshal

section

variable (s : TpmState) (request : Request)

def duplicate : Action TpmRc Drbg Response := do
  let objectHandle ← request.handle 0
  let newParentHandle ← request.handle 1
  let (encryptionKeyIn, symmetric) ← request.params do
    let key : Tpm2bSymKey ← Reader.withParameter 1 Tpm2b.unmarshal
    return (key.buffer, ← SymDef.unmarshalSymDefObject.withParameter 2)
  let object ← withHandle 1 (s.heldObject objectHandle)
  if object.has ObjectAttributes.fixedParent then throw (Rc.attributes.withHandle 1)
  match object.sensitive with
  | none => throw (Rc.handle.withHandle 1)
  | some sensitive =>
    let needsInner := object.has ObjectAttributes.encryptedDuplication
    if needsInner ∧ symmetric.isNull then throw (Rc.symmetric.withParameter 2)
    if needsInner ∧ newParentHandle = Rh.null then throw (Rc.hierarchy.withHandle 2)
    let body := sized16 sensitive.marshal
    let (body, encryptionKeyOut) ←
      if symmetric.isNull then pure (body, [])
      else do
        let (key, out) ← duplicationKey symmetric encryptionKeyIn
        pure (← innerWrap object.area.nameAlg symmetric key object.name body, out)
    let (duplicateBlob, secret) ←
      if newParentHandle = Rh.null then pure (body, [])
      else do
        let parent ← withHandle 2 (s.heldObject newParentHandle)
        if !parent.has (ObjectAttributes.restricted ||| ObjectAttributes.decrypt) then throw (Rc.type.withHandle 2)
        wrapForParent parent object.name body
    let key ← (Tpm2b.new encryptionKeyOut : TpmResult Tpm2bSymKey)
    return .of (key.marshal ++ (← privateOctets duplicateBlob) ++ (← secretOctets secret))

structure Imported where
  encryptionKey : Bytes
  area : TpmtPublic
  duplicate : Bytes
  seed : Bytes
  symmetric : SymDef

def Imported.unmarshal : Reader Imported := do
  let encryptionKey : Tpm2bSymKey ← Reader.withParameter 1 Tpm2b.unmarshal
  let area ← TpmtPublic.unmarshalSized.withParameter 2
  let duplicate : Tpm2bPrivate ← Reader.withParameter 3 Tpm2b.unmarshal
  let seed : Tpm2bEncryptedSecret ← Reader.withParameter 4 Tpm2b.unmarshal
  let symmetric ← SymDef.unmarshalSymDefObject.withParameter 5
  return ⟨encryptionKey.buffer, area, duplicate.buffer, seed.buffer, symmetric⟩

def checkImported (input : Imported) : TpmResult Unit := do
  withParameter 2 (validateLoadedPublic input.area)
  let has (mask : UInt32) := input.area.objectAttributes.has mask
  if has ObjectAttributes.fixedTpm ∨ has ObjectAttributes.fixedParent ∨ has ObjectAttributes.firmwareLimited ∨
      has ObjectAttributes.svnLimited then throw (Rc.attributes.withParameter 2)

def outerUnwrap (parent : Object) (symmetric : SymDef) (position : Nat) (secret name area : Bytes) :
    TpmResult Bytes := do
  let seed ← withParameter position (seedFromParent parent secret)
  Protect.unwrapPrivateBody parent.area.nameAlg seed symmetric name area

def importedBody (input : Imported) (name body : Bytes) : TpmResult Bytes := do
  if input.symmetric.isNull then return body
  if input.encryptionKey.length ≠ input.symmetric.keyBits.toNat / 8 then throw (Rc.size.withParameter 1)
  if Sym.isWeakKey input.symmetric.algorithm input.encryptionKey then throw (Rc.key.withParameter 1)
  innerUnwrap input.area.nameAlg input.symmetric input.encryptionKey name body

def importObject : TpmResult Response := do
  let parentHandle ← request.handle 0
  let input ← request.params Imported.unmarshal
  let parent ← withHandle 1 (s.heldObject parentHandle)
  if !parent.has (ObjectAttributes.restricted ||| ObjectAttributes.decrypt) then throw (Rc.type.withHandle 1)
  let parentSymmetric ← newParentSymmetric parent 1
  checkImported input
  let name ← objectName input.area
  if input.area.objectAttributes.has ObjectAttributes.encryptedDuplication then
    if input.seed.isEmpty then throw (Rc.attributes.withParameter 4)
    if input.encryptionKey.isEmpty then throw (Rc.attributes.withParameter 1)
  let body ←
    if input.seed.isEmpty then pure input.duplicate
    else outerUnwrap parent parentSymmetric 4 input.seed name input.duplicate
  let octets ← sensitiveFromBody (← importedBody input name body)
  let sensitive ← ((TpmtSensitive.unmarshal.fromBytes octets).mapError fun _ => Rc.sensitive : TpmResult _)
  withParameter 3 (checkBinding input.area sensitive)
  let wrapped ← Protect.wrapPrivate parent.area.nameAlg parent.seedValue parentSymmetric name sensitive.marshal
  return .of (← privateOctets wrapped)

def rewrap : Action TpmRc Drbg Response := do
  let oldParent ← request.handle 0
  let newParent ← request.handle 1
  let (inDuplicate, name, inSecret) ← request.params do
    let inDuplicate : Tpm2bPrivate ← Reader.withParameter 1 Tpm2b.unmarshal
    let name : Tpm2bName ← Reader.withParameter 2 Tpm2b.unmarshal
    let inSecret : Tpm2bEncryptedSecret ← Reader.withParameter 3 Tpm2b.unmarshal
    return (inDuplicate.buffer, name.buffer, inSecret.buffer)
  if !isWellFormed name then throw (Rc.size.withParameter 2)
  let body ←
    if oldParent = Rh.null then pure inDuplicate
    else do
      let parent ← withHandle 1 (s.heldObject oldParent)
      let symmetric ← newParentSymmetric parent 1
      outerUnwrap parent symmetric 3 inSecret name inDuplicate
  let (outDuplicate, outSecret) ←
    if newParent = Rh.null then pure (body, [])
    else do
      let parent ← withHandle 2 (s.heldObject newParent)
      wrapForParent parent name body
  return .of ((← privateOctets outDuplicate) ++ (← secretOctets outSecret))

def actSetTimeout : Action TpmRc Act Response := do
  let handle ← request.handle 0
  let startTimeout ← request.params (Reader.withParameter 1 u32)
  if handle ≠ Rh.act_0 then throw (Rc.value.withHandle 1)
  modify fun act => act.setTimeout startTimeout
  return .empty

def isAttachedComponent (handle : UInt32) : Bool := Hierarchies.inRange Hc.acFirst Hc.acLast handle

def acGetCapability : TpmResult Response := do
  let ac ← request.handle 0
  if !isAttachedComponent ac then throw (Rc.value.withHandle 1)
  let _ ← request.params do
    let _ ← Reader.withParameter 1 u32
    Reader.withParameter 2 u32
  return .of (be8 0 ++ be32 0)

-- No component is attached, so that the handle is refused within the range as outside it.
def acSend : TpmResult Response := do
  let _ ← request.handle 2
  throw (Rc.value.withHandle 3)

end

end

end Swtrust
