import Swtrust.Commands.Dispatch

set_option autoImplicit false

namespace Swtrust

open Library

def readSwitch (parameter : Nat) : Reader Bool := do
  let octet ← Reader.withParameter parameter u8
  if octet = 0 then return false
  else if octet = 1 then return true
  else throw (Rc.value.withParameter parameter)

def checkAccess (platform owner auth policy : UInt32) (index : NvIndex) (authHandle : UInt32) (isPolicy : Bool) :
    TpmResult Unit :=
  let a := index.area.attributes
  let allowed :=
    if authHandle = Rh.platform then a.has platform
    else if authHandle = Rh.owner then a.has owner
    else if authHandle = index.area.nvIndex then a.has (if isPolicy then policy else auth)
    else false
  if allowed then .ok () else .error Rc.nvAuthorization

def checkWriteAuthority : NvIndex → UInt32 → Bool → TpmResult Unit :=
  checkAccess NvAttributes.ppwrite NvAttributes.ownerwrite NvAttributes.authwrite NvAttributes.policywrite

def checkReadAuthority : NvIndex → UInt32 → Bool → TpmResult Unit :=
  checkAccess NvAttributes.ppread NvAttributes.ownerread NvAttributes.authread NvAttributes.policyread

structure NvScope where
  nv : NvStore
  startupClear : StartupClearAttributes
  deriving DecidableEq

namespace TpmState

def zoomNvScope {α : Type} : Action TpmRc NvScope α → TpmM α :=
  Action.zoom (fun s => ⟨s.nv, s.startupClear⟩) fun t s => { s with nv := t.nv, startupClear := t.startupClear }

def indexAt (s : TpmState) (handle : UInt32) (position : Nat) : TpmResult NvIndex :=
  withHandle position (s.nv.get handle)

def writable (s : TpmState) (request : Request) (handle authHandle : UInt32) : TpmResult NvIndex := do
  let index ← s.indexAt handle 2
  checkWriteAuthority index authHandle (s.authIsPolicy request 0)
  if index.writeLocked then throw Rc.nvLocked
  return index

section

variable [Profile]

def validateNewPublic (s : TpmState) (area : NvPublic) (authHandle : UInt32) : TpmResult Unit := do
  if !NvStore.isNvHandle area.nvIndex then throw (Rc.handle.withParameter 2)
  if s.nv.contains area.nvIndex then throw Rc.nvDefined
  let a := area.attributes
  if a.has NvAttributes.writeall ∧ Config.maxNvBufferSize < area.dataSize.toNat then throw (Rc.size.withParameter 2)
  if a.indexType = Nt.counter ∧ a.has NvAttributes.clearStclear then throw (Rc.attributes.withParameter 2)
  let writes := NvAttributes.ppwrite ||| NvAttributes.ownerwrite ||| NvAttributes.authwrite ||| NvAttributes.policywrite
  let reads := NvAttributes.ppread ||| NvAttributes.ownerread ||| NvAttributes.authread ||| NvAttributes.policyread
  if !a.any writes ∨ !a.any reads then throw (Rc.attributes.withParameter 2)
  if a.has NvAttributes.policyDelete ∧ authHandle ≠ Rh.platform then throw (Rc.attributes.withParameter 2)
  if (a.has NvAttributes.policywrite ∨ a.has NvAttributes.policyread) ∧ area.authPolicy.isEmpty then
    throw (Rc.attributes.withParameter 2)
  if !area.authPolicy.isEmpty then
    match digestSize area.nameAlg with
    | none => throw (Rc.hash.withParameter 2)
    | some want => if area.authPolicy.buffer.length ≠ want then throw (Rc.size.withParameter 2)
  if a.has NvAttributes.written then throw (Rc.attributes.withParameter 2)
  let required ←
    if a.indexType = Nt.counter ∨ a.indexType = Nt.bits ∨ a.indexType = Nt.pinFail ∨ a.indexType = Nt.pinPass then
      pure (some 8)
    else if a.indexType = Nt.extend then pure (digestSize area.nameAlg)
    else if a.indexType = Nt.ordinary then pure none
    else throw (Rc.attributes.withParameter 2)
  match required with
  | some n => if area.dataSize.toNat ≠ n then throw (Rc.size.withParameter 2)
  | none => pure ()
  if Config.maxNvIndexSize < area.dataSize.toNat then throw (Rc.size.withParameter 2)

def checkDefinition (s : TpmState) (authHandle : UInt32) (auth : Bytes) (area : NvPublic) : TpmResult Unit := do
  s.validateNewPublic area authHandle
  let nameDigest ← (Hash.digestSize area.nameAlg).mapError (·.withParameter 2)
  if nameDigest < auth.length then throw (Rc.size.withParameter 1)
  let a := area.attributes
  if a.has NvAttributes.platformcreate ≠ decide (authHandle = Rh.platform) then throw (Rc.attributes.withParameter 2)
  if authHandle = Rh.platform ∧ !s.hierarchies.platformNvEnabled then throw (Rc.hierarchy.withHandle 1)
  if a.has NvAttributes.policyDelete ∧ authHandle ≠ Rh.platform then throw (Rc.attributes.withParameter 2)
  if a.has NvAttributes.readlocked ∨ a.has NvAttributes.writelocked then throw (Rc.attributes.withParameter 2)
  if a.indexType = Nt.pinFail ∧ !a.has NvAttributes.noDa then throw (Rc.attributes.withParameter 2)
  if a.indexType = Nt.pinFail ∨ a.indexType = Nt.pinPass then
    let hasWriter := a.any (NvAttributes.ppwrite ||| NvAttributes.ownerwrite ||| NvAttributes.policywrite)
    if !hasWriter ∨ a.has NvAttributes.authwrite then throw (Rc.attributes.withParameter 2)
  if a.indexType = Nt.counter ∧ Config.minCounterIndices ≤ s.nv.counterCount then throw Rc.nvSpace

end

end TpmState

def modifyNv (f : NvStore → NvStore) : Action TpmRc NvScope Unit := modify fun t => { t with nv := f t.nv }

def zoomStore {α : Type} : Action TpmRc NvStore α → Action TpmRc NvScope α :=
  Action.zoom (·.nv) fun nv t => { t with nv }

def NvScope.nvIsNoLongerOrderly (t : NvScope) : NvScope :=
  { t with startupClear := t.startupClear.without StartupClearAttributes.orderly }

def noteOrderlyWrite (nvHandle : UInt32) : Action TpmRc NvScope Unit := modify fun t =>
  match t.nv.get nvHandle with
  | .ok index => if index.area.attributes.has NvAttributes.orderly then t.nvIsNoLongerOrderly else t
  | .error _ => t

section

variable [Crypto] (s : TpmState) (request : Request)

def define (authHandle : UInt32) (auth : Bytes) (area : NvPublic) : Action TpmRc NvScope Response := do
  s.checkDefinition authHandle auth area
  zoomStore (NvStore.define { area, auth, data := [], readLocked := false, writeLocked := false })
  return .empty

def nvDefineSpace : Action TpmRc NvScope Response := do
  let authHandle ← request.handle 0
  let (auth, area) ← request.params do
    let auth : Tpm2bDigest ← Reader.withParameter 1 Tpm2b.unmarshal
    return (auth.buffer, ← Reader.withParameter 2 (Reader.sized16 NvPublic.unmarshal))
  define s authHandle auth area

def nvDefineSpace2 : Action TpmRc NvScope Response := do
  let authHandle ← request.handle 0
  let (auth, area2) ← request.params do
    let auth : Tpm2bDigest ← Reader.withParameter 1 Tpm2b.unmarshal
    return (auth.buffer, ← Reader.withParameter 2 (Reader.sized16 NvPublic2.unmarshal))
  match area2 with
  | .index area | .permanent area => define s authHandle auth area
  | .external _ => throw (Rc.attributes.withParameter 2)

def nvUndefineSpace : Action TpmRc NvScope Response := do
  let authHandle ← request.handle 0
  let nvHandle ← request.handle 1
  let index ← s.indexAt nvHandle 2
  if index.area.attributes.has NvAttributes.policyDelete then throw (Rc.attributes.withHandle 2)
  let platformCreated := index.area.attributes.has NvAttributes.platformcreate
  if platformCreated ∧ authHandle ≠ Rh.platform then throw (Rc.nvAuthorization.withHandle 1)
  if !platformCreated then
    let byPlatform := authHandle == Rh.platform && s.hierarchies.owner.enabled
    if authHandle ≠ Rh.owner ∧ !byPlatform then throw (Rc.nvAuthorization.withHandle 1)
  let nv ← s.nv.undefine nvHandle
  modifyNv fun _ => nv
  return .notReading request []

def nvUndefineSpaceSpecial : Action TpmRc NvScope Response := do
  let nvHandle ← request.handle 0
  let platform ← request.handle 1
  if platform ≠ Rh.platform then throw (Rc.authType.withHandle 2)
  let index ← s.indexAt nvHandle 1
  if !index.area.attributes.has NvAttributes.policyDelete then throw (Rc.attributes.withHandle 1)
  let nv ← s.nv.undefine nvHandle
  modifyNv fun _ => nv
  return .notReading request []

def nvReadPublic : TpmResult Response := do
  let nvHandle ← request.handle 0
  let index ← s.indexAt nvHandle 1
  let name : Tpm2bName ← Tpm2b.new (← index.name)
  return .notReading request (sized16 index.area.marshal ++ name.marshal)

def nvReadPublic2 : TpmResult Response := do
  let nvHandle ← request.handle 0
  let index ← s.indexAt nvHandle 1
  let name : Tpm2bName ← Tpm2b.new (← index.name)
  return .notReading request (sized16 (be8 Ht.nvIndex ++ index.area.marshal) ++ name.marshal)

-- The three writing commands differ in what they do to the Index once `writable` let them through.
def writeIndex {α : Type} (parameters : Reader α) (change : α → NvIndex → TpmResult NvIndex) :
    Action TpmRc NvScope Response := do
  let authHandle ← request.handle 0
  let nvHandle ← request.handle 1
  let value ← request.params parameters
  let index ← s.writable request nvHandle authHandle
  let next ← change value index
  modifyNv (·.put nvHandle next)
  noteOrderlyWrite nvHandle
  return .empty

def nvWrite : Action TpmRc NvScope Response :=
  writeIndex s request
    (do let data : Tpm2bMaxNvBuffer ← Reader.withParameter 1 Tpm2b.unmarshal
        return (data.buffer, ← Reader.withParameter 2 u16))
    fun (data, offset) index => do
      if index.indexType = Nt.counter ∨ index.indexType = Nt.bits ∨ index.indexType = Nt.extend then
        throw (Rc.attributes.withHandle 2)
      (index.write offset data).mapError fun e => if e = Rc.nvRange then e else e.withParameter 1

def nvExtend : Action TpmRc NvScope Response :=
  writeIndex s request (do let data : Tpm2bMaxNvBuffer ← Reader.withParameter 1 Tpm2b.unmarshal; return data.buffer)
    fun data index => index.extend data

def nvSetBits : Action TpmRc NvScope Response :=
  writeIndex s request (Reader.withParameter 1 u64) fun bits index => index.setBits bits

def nvIncrement : Action TpmRc NvScope Response := do
  let authHandle ← request.handle 0
  let nvHandle ← request.handle 1
  let _ ← s.writable request nvHandle authHandle
  let nv ← s.nv.increment nvHandle
  modifyNv fun _ => nv
  noteOrderlyWrite nvHandle
  return .notReading request []

def nvWriteLock : Action TpmRc NvScope Response := do
  let authHandle ← request.handle 0
  let nvHandle ← request.handle 1
  let index ← s.indexAt nvHandle 2
  checkWriteAuthority index authHandle (s.authIsPolicy request 0)
  let a := index.area.attributes
  if !a.has NvAttributes.writedefine ∧ !a.has NvAttributes.writeStclear then throw (Rc.attributes.withHandle 2)
  modifyNv (·.put nvHandle (index.setWriteLock true))
  return .notReading request []

def nvGlobalWriteLock : Action TpmRc NvScope Response := do
  modifyNv NvStore.globalWriteLock
  return .notReading request []

def nvRead : TpmResult Response := do
  let authHandle ← request.handle 0
  let nvHandle ← request.handle 1
  let (size, offset) ← request.params do
    let size ← Reader.withParameter 1 u16
    return (size, ← Reader.withParameter 2 u16)
  let index ← s.indexAt nvHandle 2
  checkReadAuthority index authHandle (s.authIsPolicy request 0)
  if index.readLocked then throw Rc.nvLocked
  if Config.maxNvBufferSize < size.toNat then throw (Rc.value.withParameter 1)
  let data : Tpm2bMaxNvBuffer ← Tpm2b.new (← index.read offset size)
  return .of data.marshal

def nvReadLock : Action TpmRc NvScope Response := do
  let authHandle ← request.handle 0
  let nvHandle ← request.handle 1
  let index ← s.indexAt nvHandle 2
  checkReadAuthority index authHandle (s.authIsPolicy request 0)
  if !index.area.attributes.has NvAttributes.readStclear then throw (Rc.attributes.withHandle 2)
  modifyNv (·.put nvHandle (index.setReadLock true))
  return .notReading request []

def nvChangeAuth : Action TpmRc NvScope Response := do
  let nvHandle ← request.handle 0
  let newAuth : Tpm2bDigest ← request.params (Reader.withParameter 1 Tpm2b.unmarshal)
  let index ← s.indexAt nvHandle 1
  let limit ← Hash.digestSize index.area.nameAlg
  if limit < newAuth.buffer.length then throw (Rc.size.withParameter 1)
  modifyNv (·.put nvHandle { index with auth := newAuth.buffer })
  return .empty

end

end Swtrust
