import Swtrust.Commands.Crypto
import Swtrust.Crypto.Fips

set_option autoImplicit false

namespace Swtrust

open Library

def labelPrimary : Bytes := ascii "PRIMARY"

def templateAlg (template : TpmtPublic) : UInt16 := if template.nameAlg = Alg.null then Alg.sha256 else template.nameAlg

def isFirmwareLimited (handle : UInt32) : Bool := Hierarchies.isLimited handle && (Hierarchies.svnOf handle).isNone

def isSvnLimited (handle : UInt32) : Bool := Hierarchies.isLimited handle && (Hierarchies.svnOf handle).isSome

def needsSeed (template : TpmtPublic) : Bool :=
  template.isParent || template.objectType == Alg.keyedhash || template.objectType == Alg.symcipher

section

variable [Primitives]

def primaryContext (template : TpmtPublic) (sensitive : SensitiveCreate) : TpmResult Bytes :=
  Hash.digest (templateAlg template) (template.marshal ++ sensitive.data.marshal)

section

variable {σ : Type} (fill : Nat → Action TpmRc σ Bytes)

def eccComposite (key : Ecc.EccKey) : TpmResult (SensitiveComposite × PublicId) := do
  let scalar ← Tpm2b.new key.private'
  let x ← Tpm2b.new key.publicX
  let y ← Tpm2b.new key.publicY
  return (.ecc scalar, .ecc ⟨x, y⟩)

def rsaComposite (template : TpmtPublic) : Action TpmRc σ (SensitiveComposite × PublicId) := do
  match template.parameters with
  | .rsa _ _ keyBits exponent =>
    let key ← Rsa.generate fill keyBits exponent
    Fips.pairwiseRsa key (template.objectAttributes.has ObjectAttributes.signEncrypt)
      (template.objectAttributes.has ObjectAttributes.decrypt)
    let prime ← (Tpm2b.new (← key.primeBytes) : TpmResult Tpm2bPrivateKeyRsa)
    let modulus ← (Tpm2b.new (← key.modulusBytes) : TpmResult Tpm2bPublicKeyRsa)
    return (.rsa prime, .rsa modulus)
  | _ => throw Rc.type

def eccKeyComposite (template : TpmtPublic) : Action TpmRc σ (SensitiveComposite × PublicId) := do
  match template.parameters with
  | .ecc _ _ curveId _ =>
    let key ← Ecc.generate fill curveId
    Fips.pairwiseEcc curveId key (template.objectAttributes.has ObjectAttributes.signEncrypt)
    eccComposite key
  | _ => throw Rc.type

def bitsComposite (template : TpmtPublic) (supplied : SensitiveCreate) (digestSize : Nat) (seedValue : Bytes) :
    Action TpmRc σ (SensitiveComposite × PublicId) := do
  let origin := template.objectAttributes.has ObjectAttributes.sensitiveDataOrigin
  if origin ≠ supplied.data.isEmpty then throw (Rc.attributes.withParameter 1)
  let data ← if origin then fill digestSize else pure supplied.data.buffer
  let unique ← Hash.digestParts (templateAlg template) [seedValue, data]
  let bits ← (Tpm2b.new data : TpmResult Tpm2bSensitiveData)
  return (.bits bits, .keyedHash (← (Tpm2b.new unique : TpmResult Tpm2bDigest)))

def symComposite (template : TpmtPublic) (supplied : SensitiveCreate) (seedValue : Bytes) :
    Action TpmRc σ (SensitiveComposite × PublicId) := do
  match template.parameters with
  | .symCipher sym =>
    let origin := template.objectAttributes.has ObjectAttributes.sensitiveDataOrigin
    if origin ∧ !supplied.data.isEmpty then throw (Rc.attributes.withParameter 1)
    let key ← if origin then fill (sym.keyBits.toNat / 8) else pure supplied.data.buffer
    if key.length ≠ sym.keyBits.toNat / 8 then throw (Rc.keySize.withParameter 1)
    let unique ← Hash.digestParts (templateAlg template) [seedValue, key]
    let key ← (Tpm2b.new key : TpmResult Tpm2bSymKey)
    return (.sym key, .sym (← (Tpm2b.new unique : TpmResult Tpm2bDigest)))
  | _ => throw Rc.type

def sealSensitive (template : TpmtPublic) (supplied : SensitiveCreate) (seedValue : Bytes)
    (sensitive : SensitiveComposite) : TpmResult TpmtSensitive := do
  return { sensitiveType := template.objectType, authValue := supplied.userAuth
           seedValue := ← Tpm2b.new seedValue, sensitive }

def createSensitive (template : TpmtPublic) (supplied : SensitiveCreate) :
    Action TpmRc σ (TpmtSensitive × PublicId) := do
  let digestSize ← Hash.digestSize (templateAlg template)
  let seedValue ← if needsSeed template then fill digestSize else pure []
  if digestSize < supplied.userAuth.buffer.length then throw (Rc.size.withParameter 1)
  let type := template.objectType
  if (type = Alg.rsa ∨ type = Alg.ecc) ∧ !supplied.data.isEmpty then throw (Rc.value.withParameter 1)
  let (composite, unique) ←
    if type = Alg.rsa then rsaComposite fill template
    else if type = Alg.ecc then eccKeyComposite fill template
    else if type = Alg.keyedhash then bitsComposite fill template supplied digestSize seedValue
    else if type = Alg.symcipher then symComposite fill template supplied seedValue
    else throw Rc.type
  return (← sealSensitive template supplied seedValue composite, unique)

end

def createPrimarySensitive (seed context : Bytes) (template : TpmtPublic) (supplied : SensitiveCreate) :
    TpmResult (TpmtSensitive × PublicId) :=
  (createSensitive SeededRng.bytes template supplied).eval
    (SeededRng.new (templateAlg template) seed labelPrimary context)

def creationData (s : TpmState) (parentName parentQualifiedName : Bytes) (parentNameAlg nameAlg : UInt16)
    (outsideInfo : Tpm2bData) (pcrSelect : TpmlPcrSelection) (locality : UInt8) :
    TpmResult (CreationData × Bytes) := do
  let filtered := s.pcr.filterSelection pcrSelect
  let pcrDigest ←
    if filtered.all fun sel => sel.select.bits.all (· == 0) then pure []
    else s.pcr.selectionDigest nameAlg filtered
  let data : CreationData := {
    pcrSelect := filtered
    pcrDigest := ← Tpm2b.new pcrDigest
    locality := ⟨if locality < 5 then 1 <<< locality else locality⟩
    parentNameAlg
    parentName := ← Tpm2b.new parentName
    parentQualifiedName := ← Tpm2b.new parentQualifiedName
    outsideInfo }
  return (data, ← Hash.digest nameAlg data.marshal)

def creationTicket (s : TpmState) (hierarchy : UInt32) (objectName creationDigest : Bytes) :
    TpmResult (Ticket × List Mac) := do
  if hierarchy = Rh.null then return (Ticket.null St.creation, [])
  let mac : Mac := ⟨← s.hierarchyProof hierarchy, .creation objectName creationDigest⟩
  let hmac ← Tpm2b.new (← mac.value)
  return (⟨St.creation, hierarchy, hmac⟩, [mac])

structure Creation where
  sensitive : SensitiveCreate
  area : TpmtPublic
  outsideInfo : Tpm2bData
  creationPcr : TpmlPcrSelection

def Creation.unmarshal : Reader Creation := do
  let sensitive ← SensitiveCreate.unmarshalSized.withParameter 1
  let area ← TpmtPublic.unmarshalSized.withParameter 2
  let outsideInfo ← Reader.withParameter 3 Tpm2b.unmarshal
  return { sensitive, area, outsideInfo, creationPcr := ← TpmlPcrSelection.unmarshal.withParameter 4 }

def creationOctets (creation : CreationData) (creationDigest : Bytes) (ticket : Ticket) : TpmResult Bytes := do
  let digest : Tpm2bDigest ← Tpm2b.new creationDigest
  return sized16 creation.marshal ++ digest.marshal ++ ticket.marshal

def nameOctets (name : Bytes) : TpmResult Bytes := do
  let name : Tpm2bName ← Tpm2b.new name
  return name.marshal

def privateOctets (area : Bytes) : TpmResult Bytes := do
  let area : Tpm2bPrivate ← Tpm2b.new area
  return area.marshal

def primarySeed (s : TpmState) (handle : UInt32) (template : TpmtPublic) : TpmResult Bytes := do
  withParameter 2 (validateLimitedAttributes template (isFirmwareLimited handle) (isSvnLimited handle))
  s.hierarchies.seedOf handle

-- What the commands that make or load a child read of its parent.
structure Parent where
  stateClear : Bool
  nameAlg : UInt16
  seed : Bytes
  symmetric : SymDef
  hierarchy : UInt32
  qualifiedName : Bytes
  firmwareLimited : Bool
  svnLimited : Bool
  deriving DecidableEq

def parentOf (s : TpmState) (handle : UInt32) : TpmResult Parent := do
  let object ← s.objectOf handle
  if !object.isStorageKey then throw Rc.type
  match object.area.parameters.symmetric with
  | none => throw Rc.type
  | some symmetric =>
    if symmetric.isNull then throw Rc.symmetric
    return { stateClear := object.stateClear
             nameAlg := object.area.nameAlg
             seed := object.seedValue
             symmetric
             hierarchy := object.hierarchy
             qualifiedName := object.qualifiedName
             firmwareLimited := object.has ObjectAttributes.firmwareLimited
             svnLimited := object.has ObjectAttributes.svnLimited }

def Parent.wrap (parent : Parent) (name sensitive : Bytes) : TpmResult Bytes :=
  Protect.wrapPrivate parent.nameAlg parent.seed parent.symmetric name sensitive

def Object.inherit (object : Object) (stateClear : Bool) : Object :=
  { object with stateClear := object.stateClear || stateClear }

structure DerivationParent where
  stateClear : Bool
  hashAlg : UInt16
  sensitive : Bytes
  hierarchy : UInt32
  qualifiedName : Bytes
  firmwareLimited : Bool
  svnLimited : Bool
  deriving DecidableEq

def derivationParentOf (object : Object) : TpmResult DerivationParent :=
  if object.area.nameAlg = Alg.null then .error (Rc.type.withHandle 1)
  else match (object.sensitive.map (·.sensitive) : Option SensitiveComposite) with
    | some (.bits bits) =>
      .ok { stateClear := object.stateClear
            hashAlg := object.area.nameAlg
            sensitive := bits.buffer
            hierarchy := object.hierarchy
            qualifiedName := object.qualifiedName
            firmwareLimited := object.has ObjectAttributes.firmwareLimited
            svnLimited := object.has ObjectAttributes.svnLimited }
    | _ => .error (Rc.type.withHandle 1)

def derivationParent (s : TpmState) (handle : UInt32) : TpmResult (Option DerivationParent) :=
  match s.objectOf handle with
  | .error _ => .ok none
  | .ok object => if !object.isDerivationParent then .ok none else some <$> derivationParentOf object

abbrev DerivedOctets := Bytes

def DerivedOctets.bytes (count : Nat) : Action TpmRc DerivedOctets Bytes := do
  let rest ← get
  if rest.length < count then throw Rc.noResult
  set (rest.drop count)
  return rest.take count

def derivedComposite (template : TpmtPublic) (digestSize : Nat) :
    Action TpmRc DerivedOctets (SensitiveComposite × PublicId) := do
  if template.objectType = Alg.ecc then
    match template.parameters with
    | .ecc _ _ curveId _ =>
      let _ ← Ecc.curveBits curveId
      let scalar ← Ecc.privateKeyExtraBits DerivedOctets.bytes curveId
      let key ← Ecc.keyFromPrivate curveId scalar
      Fips.pairwiseEcc curveId key (template.objectAttributes.has ObjectAttributes.signEncrypt)
      eccComposite key
    | _ => throw Rc.type
  else if template.objectType = Alg.symcipher then
    match template.parameters with
    | .symCipher sym => do
      let key ← DerivedOctets.bytes (sym.keyBits.toNat / 8)
      let key ← (Tpm2b.new key : TpmResult Tpm2bSymKey)
      return (.sym key, .sym Tpm2b.empty)
    | _ => throw Rc.type
  else if template.objectType = Alg.keyedhash then
    let bits ← DerivedOctets.bytes digestSize
    let bits ← (Tpm2b.new bits : TpmResult Tpm2bSensitiveData)
    return (.bits bits, .keyedHash Tpm2b.empty)
  else throw (Rc.type.withParameter 2)

def derivedUnique (template : TpmtPublic) (composite : SensitiveComposite) (unique : PublicId) (seedValue : Bytes) :
    TpmResult PublicId := do
  match unique with
  | .sym _ | .keyedHash _ =>
    let digest ← Tpm2b.new (← Hash.digestParts (templateAlg template) [seedValue, composite.asSlice])
    return if template.objectType = Alg.symcipher then .sym digest else .keyedHash digest
  | other => return other

def derivedSensitive (template : TpmtPublic) (supplied : SensitiveCreate) :
    Action TpmRc DerivedOctets (TpmtSensitive × PublicId) := do
  let digestSize ← Hash.digestSize (templateAlg template)
  if digestSize < supplied.userAuth.buffer.length then throw (Rc.size.withParameter 1)
  let (composite, unique) ← derivedComposite template digestSize
  let seedValue ← if needsSeed template then DerivedOctets.bytes digestSize else pure []
  let unique ← derivedUnique template composite unique seedValue
  return (← sealSensitive template supplied seedValue composite, unique)

def labelAndContext (template : TpmtPublic) (sensitive : SensitiveCreate) : TpmResult (Bytes × Bytes) := do
  let fromTemplate : Bytes × Bytes :=
    match template.unique with
    | .derive inner => (inner.label.buffer, inner.context.buffer)
    | _ => ([], [])
  let (label, context) := fromTemplate
  if !sensitive.data.isEmpty ∧ (label.isEmpty ∨ context.isEmpty) then
    let fromSensitive ← Derive.unmarshal.fromBytes sensitive.data.buffer
    return (if label.isEmpty then fromSensitive.label.buffer else label,
      if context.isEmpty then fromSensitive.context.buffer else context)
  return (label, context)

section

variable (s : TpmState) (request : Request)

def createPrimary : Action TpmRc Work Reply := do
  let primaryHandle ← request.handle 0
  let input ← request.params Creation.unmarshal
  if !Hierarchies.isHierarchy primaryHandle ∧ !Hierarchies.isLimited primaryHandle then
    throw (Rc.value.withHandle 1)
  if !s.hierarchies.isEnabled primaryHandle then throw (Rc.hierarchy.withHandle 1)
  withParameter 2 (validateCreationTemplate input.area)
  let seed ← primarySeed s primaryHandle input.area
  let context ← primaryContext input.area input.sensitive
  let (sensitive, unique) ← createPrimarySensitive seed context input.area input.sensitive
  let area := { input.area with unique }
  let parentName := handleName primaryHandle
  let object ← Object.new area (some sensitive) primaryHandle parentName true
  let (creation, creationDigest) ← creationData s parentName parentName Alg.null (templateAlg area)
    input.outsideInfo input.creationPcr request.locality
  let (ticket, macs) ← creationTicket s primaryHandle object.name creationDigest
  let handle ← Work.insert (.object object)
  let octets ← creationOctets creation creationDigest ticket
  return { handle := some handle, parameters := area.marshalSized ++ octets ++ (← nameOctets object.name), macs }

def create : Action TpmRc Work Reply := do
  let parentHandle ← request.handle 0
  let input ← request.params Creation.unmarshal
  let parent ← withHandle 1 (parentOf s parentHandle)
  withParameter 2 (validateCreationTemplate input.area)
  withParameter 2 (validateLimitedAttributes input.area parent.firmwareLimited parent.svnLimited)
  let attributes := input.area.objectAttributes
  if attributes.has ObjectAttributes.fixedTpm ∧ !attributes.has ObjectAttributes.fixedParent then
    throw (Rc.attributes.withParameter 2)
  let (sensitive, unique) ← createSensitive Work.bytes input.area input.sensitive
  let area := { input.area with unique }
  let name ← objectName area
  let wrapped ← parent.wrap name sensitive.marshal
  let parentName ← s.handleName parentHandle
  let (creation, creationDigest) ← creationData s parentName parent.qualifiedName parent.nameAlg (templateAlg area)
    input.outsideInfo input.creationPcr request.locality
  let (ticket, macs) ← creationTicket s parent.hierarchy name creationDigest
  let octets ← creationOctets creation creationDigest ticket
  return { parameters := (← privateOctets wrapped) ++ area.marshalSized ++ octets, macs }

def createdOctets (wrapped : Bytes) (object : Object) : TpmResult Bytes := do
  return (← privateOctets wrapped) ++ object.area.marshalSized ++ (← nameOctets object.name)

def deriveObject (parent : DerivationParent) (supplied : SensitiveCreate) (blob : Bytes) :
    Action TpmRc Work Response := do
  let (template, rest) ← withParameter 2 ((TpmtPublic.unmarshalWith true).run blob)
  if !rest.isEmpty then throw Rc.size
  withParameter 2 (validateCreationTemplate template)
  withParameter 2 (validateLimitedAttributes template parent.firmwareLimited parent.svnLimited)
  if template.objectAttributes.has ObjectAttributes.sensitiveDataOrigin then throw (Rc.attributes.withParameter 2)
  if template.objectType = Alg.rsa then throw (Rc.type.withParameter 2)
  let (label, context) ← withParameter 1 (labelAndContext template supplied)
  let octets ← kdfa parent.hashAlg parent.sensitive label context [] 8192
  let (sensitive, unique) ← ((derivedSensitive template supplied).eval octets : TpmResult _)
  let object ←
    Object.new { template with unique } (some sensitive) parent.hierarchy parent.qualifiedName true
  let object := object.inherit parent.stateClear
  let handle ← Work.insert (.object object)
  return Response.withHandle handle (← createdOctets [] object)

def createLoaded : Action TpmRc Work Response := do
  let parentHandle ← request.handle 0
  let (input, blob) ← request.params do
    let input ← SensitiveCreate.unmarshalSized.withParameter 1
    let blob : Tpm2bTemplate ← Reader.withParameter 2 Tpm2b.unmarshal
    return (input, blob.buffer)
  match ← derivationParent s parentHandle with
  | some parent => deriveObject parent input blob
  | none =>
    let template ← withParameter 2 (TpmtPublic.unmarshal.fromBytes blob)
    withParameter 2 (validateCreationTemplate template)
    if Hierarchies.isHierarchy parentHandle ∨ Hierarchies.isLimited parentHandle then
      if !s.hierarchies.isEnabled parentHandle then throw (Rc.hierarchy.withHandle 1)
      let seed ← primarySeed s parentHandle template
      let context ← primaryContext template input
      let (sensitive, unique) ← createPrimarySensitive seed context template input
      let object ←
        Object.new { template with unique } (some sensitive) parentHandle (handleName parentHandle) true
      let handle ← Work.insert (.object object)
      return Response.withHandle handle (← createdOctets [] object)
    let parent ← withHandle 1 (parentOf s parentHandle)
    withParameter 2 (validateLimitedAttributes template parent.firmwareLimited parent.svnLimited)
    let (sensitive, unique) ← createSensitive Work.bytes template input
    let area := { template with unique }
    let wrapped ← parent.wrap (← objectName area) sensitive.marshal
    let object ← Object.new area (some sensitive) parent.hierarchy parent.qualifiedName true
    let object := object.inherit parent.stateClear
    let handle ← Work.insert (.object object)
    return Response.withHandle handle (← createdOctets wrapped object)

def load : Action TpmRc Work Response := do
  let parentHandle ← request.handle 0
  let (wrapped, area) ← request.params do
    let wrapped : Tpm2bPrivate ← Reader.withParameter 1 Tpm2b.unmarshal
    return (wrapped.buffer, ← TpmtPublic.unmarshalSized.withParameter 2)
  if wrapped.isEmpty then throw (Rc.size.withParameter 1)
  let parent ← withHandle 1 (parentOf s parentHandle)
  withParameter 2 (validateLoadedPublic area)
  withParameter 2 (validateActionAttributes area)
  let name ← objectName area
  let plain ← Protect.unwrapPrivate parent.nameAlg parent.seed parent.symmetric name wrapped
  let sensitive ← ((TpmtSensitive.unmarshal.fromBytes plain).mapError fun _ => Rc.sensitive : TpmResult _)
  withParameter 1 (checkBinding area sensitive)
  let object ← Object.new area (some sensitive) parent.hierarchy parent.qualifiedName false
  let object := object.inherit parent.stateClear
  let handle ← Work.insert (.object object)
  return Response.withHandle handle (← nameOctets object.name)

def unmarshalExternalSensitive : Reader (Option TpmtSensitive) := do
  let size ← u16
  if size = 0 then return none
  some <$> Reader.sub size.toNat TpmtSensitive.unmarshal

def checkExternalUnique (area : TpmtPublic) : TpmResult Unit :=
  match area.unique with
  | .rsa modulus => if modulus.isEmpty then .error (Rc.key.withParameter 2) else .ok ()
  | .ecc point => if point.x.isEmpty ∨ point.y.isEmpty then .error (Rc.key.withParameter 2) else .ok ()
  | _ => .ok ()

def checkExternalSensitive (area : TpmtPublic) (hierarchy : UInt32) (sensitive : TpmtSensitive) : TpmResult Unit := do
  let has (mask : UInt32) := area.objectAttributes.has mask
  if has ObjectAttributes.fixedTpm ∨ has ObjectAttributes.fixedParent ∨ has ObjectAttributes.restricted then
    throw (Rc.attributes.withParameter 2)
  if has ObjectAttributes.firmwareLimited ∨ has ObjectAttributes.svnLimited then throw (Rc.attributes.withParameter 2)
  if hierarchy ≠ Rh.null then throw (Rc.hierarchy.withParameter 3)
  if sensitive.sensitiveType ≠ area.objectType then throw (Rc.type.withParameter 1)
  withParameter 1 (checkBinding area sensitive)

def loadExternal : Action TpmRc Work Response := do
  let (sensitive, area, hierarchy) ← request.params do
    let sensitive ← unmarshalExternalSensitive.withParameter 1
    let area ← TpmtPublic.unmarshalSized.withParameter 2
    return (sensitive, area, ← Reader.withParameter 3 u32)
  withParameter 2 (validateLoadedPublic area)
  checkExternalUnique area
  match sensitive with
  | some sensitive => checkExternalSensitive area hierarchy sensitive
  | none => pure ()
  if !Hierarchies.isHierarchy hierarchy ∧ !Hierarchies.isLimited hierarchy then throw (Rc.hierarchy.withParameter 3)
  if !Hierarchies.limitedSecretAvailable hierarchy then throw (Rc.svnLimited.withParameter 3)
  if !s.hierarchies.isEnabled hierarchy then throw (Rc.hierarchy.withParameter 3)
  let object ← Object.new area sensitive hierarchy (handleName hierarchy) false
  let handle ← Work.insert (.object object)
  return Response.withHandle handle (← nameOctets object.name)

def readPublic : TpmResult Response := do
  let handle ← request.handle 0
  let object ←
    if ObjectSlots.isTransient handle then
      match s.objects.getSlot handle with
      | .ok (.sequence _) => throw (Rc.sequence.withHandle 1)
      | _ => withHandle 1 (s.objects.object handle)
    else withHandle 1 (s.object handle)
  return Response.notReading request
    (object.area.marshalSized ++ (← nameOctets object.name) ++ (← nameOctets object.qualifiedName))

def readSealed : TpmResult Response := do
  let handle ← request.handle 0
  let object ← s.objectAt handle 1
  if object.area.objectType ≠ Alg.keyedhash then throw (Rc.type.withHandle 1)
  if object.area.objectAttributes.any (ObjectAttributes.signEncrypt ||| ObjectAttributes.decrypt) then
    throw (Rc.attributes.withHandle 1)
  match object.sensitive with
  | none => throw (Rc.handle.withHandle 1)
  | some sensitive =>
    let data : Tpm2bSensitiveData ← Tpm2b.new sensitive.sensitive.asSlice
    return Response.notReading request data.marshal

def objectChangeAuth : TpmResult Response := do
  let objectHandle ← request.handle 0
  let parentHandle ← request.handle 1
  let newAuth : Tpm2bDigest ← request.params (Reader.withParameter 1 Tpm2b.unmarshal)
  let parent ← withHandle 2 (parentOf s parentHandle)
  let object ← s.objectAt objectHandle 1
  if object.qualifiedName ≠ (← qualifiedName object.area.nameAlg parent.qualifiedName object.name) then
    throw (Rc.type.withHandle 1)
  match object.sensitive with
  | none => throw (Rc.handle.withHandle 1)
  | some sensitive =>
    if (← Hash.digestSize object.area.nameAlg) < newAuth.buffer.length then throw (Rc.size.withParameter 1)
    let wrapped ← parent.wrap object.name { sensitive with authValue := newAuth }.marshal
    return Response.of (← privateOctets wrapped)

end

end

end Swtrust
