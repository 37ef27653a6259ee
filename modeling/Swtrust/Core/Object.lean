import Swtrust.Library.SortedMap
import Swtrust.Core.Hierarchy
import Swtrust.Core.Names
import Swtrust.Crypto.Dhkem
import Swtrust.Structures.Keys

set_option autoImplicit false

namespace Swtrust

open Library

structure Object where
  area : TpmtPublic
  sensitive : Option TpmtSensitive
  name : Bytes
  qualifiedName : Bytes
  hierarchy : UInt32
  tpmGenerated : Bool
  stateClear : Bool
  deriving DecidableEq

inductive SequenceKind where
  | hash (hashAlg : UInt16)
  | hmac (hashAlg : UInt16) (key : Bytes)
  | event
  deriving DecidableEq

structure Sequence where
  kind : SequenceKind
  auth : Bytes
  buffer : Bytes
  shortFirstBuffer : Bool
  deriving DecidableEq

inductive Slot where
  | object (o : Object)
  | sequence (s : Sequence)
  deriving DecidableEq

namespace Object

def isPublicOnly (o : Object) : Bool := o.sensitive.isNone

def isStoragePublic (o : Object) : Bool := o.area.isParent && o.area.objectType != Alg.keyedhash

def isStorageKey (o : Object) : Bool := o.isStoragePublic && !o.isPublicOnly

def isDerivationParent (o : Object) : Bool :=
  o.area.isParent && o.area.objectType == Alg.keyedhash && !o.isPublicOnly

def authValue (o : Object) : Bytes := (o.sensitive.map (·.authValue.buffer)).getD []

def seedValue (o : Object) : Bytes := (o.sensitive.map (·.seedValue.buffer)).getD []

def has (o : Object) (mask : UInt32) : Bool := o.area.objectAttributes.has mask

def new [Crypto] (area : TpmtPublic) (sensitive : Option TpmtSensitive) (hierarchy : UInt32)
    (parentQualifiedName : Bytes) (tpmGenerated : Bool) : TpmResult Object := do
  let name ← objectName area
  let qualifiedName ← Swtrust.qualifiedName area.nameAlg parentQualifiedName name
  let stateClear := area.objectAttributes.has ObjectAttributes.stClear
  return { area, sensitive, name, qualifiedName, hierarchy, tpmGenerated, stateClear }

end Object

namespace Sequence

def maxSequenceBytes : Nat := 1024 * 1024

def update (s : Sequence) (data : Bytes) : TpmResult Sequence :=
  if maxSequenceBytes < s.buffer.length + data.length then .error Rc.memory
  else
    let shortFirstBuffer := if s.buffer.isEmpty ∧ data.length < 4 then true else s.shortFirstBuffer
    .ok { s with buffer := s.buffer ++ data, shortFirstBuffer }

def isEvent (s : Sequence) : Bool := s.kind == .event

end Sequence

namespace Slot

def asObject : Slot → TpmResult Object
  | .object o => .ok o
  | .sequence _ => .error Rc.handle

def asSequence : Slot → TpmResult Sequence
  | .sequence s => .ok s
  | .object _ => .error Rc.mode

def name : Slot → Bytes
  | .object o => o.name
  | .sequence _ => []

end Slot

abbrev ObjectSlots := SortedMap UInt32 Slot

namespace ObjectSlots

def isTransient (handle : UInt32) : Bool := Hierarchies.inRange Hc.transientFirst Hc.transientLast handle

def insertSlot (slots : ObjectSlots) (slot : Slot) : TpmResult (UInt32 × ObjectSlots) :=
  if Config.maxLoadedObjects ≤ slots.size then .error Rc.objectMemory
  else
    match (List.range Config.maxLoadedObjects).find?
        fun i => !slots.contains (Hc.transientFirst + UInt32.ofNat i) with
    | some i =>
      let handle := Hc.transientFirst + UInt32.ofNat i
      .ok (handle, slots.insert handle slot)
    | none => .error Rc.objectMemory

def getSlot (slots : ObjectSlots) (handle : UInt32) : TpmResult Slot :=
  match slots.get handle with
  | some slot => .ok slot
  | none => .error Rc.handle

def object (slots : ObjectSlots) (handle : UInt32) : TpmResult Object := do (← slots.getSlot handle).asObject

def removeSlot (slots : ObjectSlots) (handle : UInt32) : TpmResult ObjectSlots := do
  let _ ← slots.getSlot handle
  return slots.erase handle

def belongs (hierarchy h : UInt32) : Bool := h == hierarchy || Hierarchies.baseOf h == some hierarchy

def flushHierarchy (slots : ObjectSlots) (hierarchy : UInt32) : ObjectSlots :=
  slots.retain fun _ slot =>
    match slot with
    | .object o => !belongs hierarchy o.hierarchy
    | .sequence _ => true

end ObjectSlots

section

variable [Primitives]

def validatePublic (area : TpmtPublic) : TpmResult Unit := do
  let attrs := area.objectAttributes
  let sign := attrs.has ObjectAttributes.signEncrypt
  let decrypt := attrs.has ObjectAttributes.decrypt
  if attrs.has ObjectAttributes.restricted ∧ sign ∧ decrypt then throw Rc.attributes
  if attrs.has ObjectAttributes.fixedTpm ∧ !attrs.has ObjectAttributes.fixedParent then throw Rc.attributes
  if attrs.has ObjectAttributes.encryptedDuplication ∧ attrs.has ObjectAttributes.fixedTpm then throw Rc.attributes
  if sign ∧ attrs.has ObjectAttributes.restricted ∧ area.objectType ≠ Alg.symcipher then
    if ((area.scheme.map (·.isNull)).getD true) then throw Rc.scheme
  match area.parameters with
  | .ecc _ scheme curveId kdf =>
    if !kdf.isNull then
      if attrs.has ObjectAttributes.restricted ∨ !decrypt ∨ scheme.scheme ≠ Alg.ecdh then throw Rc.kdf
      if !Dhkem.isKemSuite curveId kdf then throw Rc.kdf
  | _ => pure ()
  if area.nameAlg = Alg.null ∧ attrs.has (ObjectAttributes.restricted ||| ObjectAttributes.decrypt) then throw Rc.hash
  if !area.authPolicy.isEmpty then
    match Hash.digestSize area.nameAlg with
    | .error _ => throw Rc.size
    | .ok want => if area.authPolicy.buffer.length ≠ want then throw Rc.size

def validateLimitedAttributes (area : TpmtPublic) (parentFirmwareLimited parentSvnLimited : Bool) : TpmResult Unit := do
  let fixedTpm := area.objectAttributes.has ObjectAttributes.fixedTpm
  if area.objectAttributes.has ObjectAttributes.firmwareLimited ∧ (!fixedTpm ∨ !parentFirmwareLimited) then
    throw Rc.attributes
  if area.objectAttributes.has ObjectAttributes.svnLimited ∧ (!fixedTpm ∨ !parentSvnLimited) then
    throw Rc.attributes

def validateRestrictedHasAnAction (area : TpmtPublic) : TpmResult Unit :=
  let attrs := area.objectAttributes
  if attrs.has ObjectAttributes.restricted ∧ !attrs.has ObjectAttributes.signEncrypt ∧
      !attrs.has ObjectAttributes.decrypt then .error Rc.attributes
  else .ok ()

def validateActionAttributes (area : TpmtPublic) : TpmResult Unit := do
  let attrs := area.objectAttributes
  if area.objectType ≠ Alg.keyedhash ∧ !attrs.has ObjectAttributes.signEncrypt ∧
      !attrs.has ObjectAttributes.decrypt then throw Rc.attributes
  validateRestrictedHasAnAction area

def validateCreationTemplate (area : TpmtPublic) : TpmResult Unit := do
  validatePublic area
  validateActionAttributes area

def significantBits (octets : Bytes) : Nat := Nat.size (beNat octets)

def validateLoadedPublic (area : TpmtPublic) : TpmResult Unit := do
  validatePublic area
  match area.unique, area.parameters with
  | .rsa modulus, .rsa _ _ keyBits _ =>
    if !modulus.isEmpty ∧ significantBits modulus.buffer ≠ keyBits.toNat then throw Rc.keySize
  | .ecc point, .ecc _ _ curveId _ =>
    if !point.isEmpty then
      let _ ← Ecc.fromCoordinates curveId point.x.buffer point.y.buffer
  | _, _ => pure ()

def checkObfuscated (nameAlg : UInt16) (unique seed secret : Bytes) : TpmResult Unit := do
  let expected ← Hash.digestParts nameAlg [seed, secret]
  if unique ≠ expected then throw Rc.binding

def checkBinding (area : TpmtPublic) (sensitive : TpmtSensitive) : TpmResult Unit := do
  if sensitive.sensitiveType ≠ area.objectType then throw Rc.type
  match area.unique, sensitive.sensitive with
  | .keyedHash unique, .bits bits =>
    checkObfuscated area.nameAlg unique.buffer sensitive.seedValue.buffer bits.buffer
  | .sym unique, .sym key => checkObfuscated area.nameAlg unique.buffer sensitive.seedValue.buffer key.buffer
  | .rsa modulus, .rsa prime =>
    match area.parameters with
    | .rsa _ _ _ exponent =>
      if !(Rsa.RsaPrivate.fromPrime modulus.buffer exponent prime.buffer).isOk then throw Rc.binding
    | _ => throw Rc.type
  | .ecc point, .ecc scalar =>
    match area.parameters with
    | .ecc _ _ curveId _ =>
      let derived ← (Ecc.coordinates curveId (Ecc.multiplyGenerator curveId (beNat scalar.buffer))).mapError
        fun _ => Rc.binding
      if derived ≠ (point.x.buffer, point.y.buffer) then throw Rc.binding
    | _ => throw Rc.type
  | _, _ => throw Rc.type

def validateRestored (area : TpmtPublic) (sensitive : Option TpmtSensitive) : TpmResult Unit := do
  validateLoadedPublic area
  match sensitive with
  | some sensitive => checkBinding area sensitive
  | none => pure ()

end

end Swtrust
