import Swtrust.Commands.Authorization
import Swtrust.Commands.Object
import Swtrust.Structures.Context

set_option autoImplicit false

namespace Swtrust

open Library

-- What the commands on sessions and saved contexts change.
structure ContextScope where
  sessions : SessionSlots
  objects : ObjectSlots
  rng : Drbg
  exclusiveSession : UInt32
  failureMode : Bool
  deriving DecidableEq

namespace TpmState

def contextScope (s : TpmState) : ContextScope :=
  ⟨s.sessions, s.objects, s.rng, s.audit.exclusiveSession, s.failureMode⟩

def putContextScope (t : ContextScope) (s : TpmState) : TpmState :=
  { s with
    sessions := t.sessions
    objects := t.objects
    rng := t.rng
    audit := { s.audit with exclusiveSession := t.exclusiveSession }
    failureMode := t.failureMode }

def zoomContext {α : Type} : Action TpmRc ContextScope α → TpmM α := Action.zoom contextScope putContextScope

end TpmState

def Object.marshal (object : Object) : Bytes :=
  be32 object.hierarchy ++ beBool object.tpmGenerated ++ object.area.marshal ++
    beOption TpmtSensitive.marshal object.sensitive ++ sized16 object.qualifiedName

def Sequence.marshal (sequence : Sequence) : Bytes :=
  (match sequence.kind with
    | .hash hashAlg => be8 0 ++ be16 hashAlg
    | .hmac hashAlg key => be8 1 ++ be16 hashAlg ++ sized16 key
    | .event => be8 2) ++
    sized16 sequence.auth ++ be32 (UInt32.ofNat sequence.buffer.length) ++ sequence.buffer ++
    beBool sequence.shortFirstBuffer

def SequenceKind.unmarshal : Reader SequenceKind := do
  let kind ← u8
  if kind = 0 then return .hash (← u16)
  else if kind = 1 then
    let hashAlg ← u16
    return .hmac hashAlg (← readSized)
  else if kind = 2 then return .event
  else throw Rc.badContext

def Sequence.unmarshal : Reader Sequence := do
  let kind ← SequenceKind.unmarshal
  let auth ← readSized
  let length ← u32
  if maxSequenceBytes < length.toNat then throw Rc.badContext
  let buffer ← take length.toNat
  return { kind, auth, buffer, shortFirstBuffer := ← readFlag }

def Session.marshal (session : Session) : Bytes :=
  be32 session.handle ++ be8 session.sessionType ++ be16 session.authHash ++ sized16 session.nonceTpm ++
    sized16 session.nonceCaller ++ sized16 session.sessionKey ++ be32 session.bind ++ sized16 session.bindName ++
    beBool session.bindUsesLockout ++ be64 session.startTime ++ be64 session.timeEpoch ++
    session.symmetric.marshal ++ session.policy.marshal ++ beBool session.audit.isAudit ++
    sized16 session.audit.digest

section

variable [Primitives]

def Session.unmarshal : Reader Session := do
  let handle ← u32
  let sessionType ← u8
  let authHash ← u16
  let nonceTpm ← readSized
  let nonceCaller ← readSized
  let sessionKey ← readSized
  let bind ← u32
  let bindName ← readSized
  let bindUsesLockout ← readFlag
  let startTime ← u64
  let timeEpoch ← u64
  let symmetric ← SymDef.unmarshalSymDef
  let policy ← PolicyState.unmarshal
  let isAudit ← readFlag
  let digest ← readSized
  let session ← (Session.new handle sessionType authHash nonceTpm nonceCaller sessionKey bind bindName symmetric :
    TpmResult Session)
  return { session with bindUsesLockout, startTime, timeEpoch, policy, audit := { isAudit, digest } }

def Object.unmarshal (stateClear : Bool) : Reader Object := do
  let hierarchy ← u32
  let tpmGenerated ← readFlag
  let area ← TpmtPublic.unmarshal
  let sensitive ← readOption TpmtSensitive.unmarshal
  let qualifiedName ← readSized
  liftM (validateRestored area sensitive)
  let name ← (objectName area : TpmResult Bytes)
  return { area, sensitive, name, qualifiedName, hierarchy, tpmGenerated, stateClear }

def labelContext : Bytes := ascii "CONTEXT"

def contextEncryption (s : TpmState) (hierarchy : UInt32) (sequence : UInt64) (savedHandle : UInt32) :
    TpmResult (Bytes × Bytes) := do
  let proof ← s.hierarchyProof hierarchy
  let material ← kdfa Config.contextIntegrityHashAlg proof labelContext (be64 sequence) (be32 savedHandle)
    (UInt32.ofNat ((32 + Sym.aesBlockSize) * 8))
  return (material.take 32, material.drop 32)

def contextCounters (s : TpmState) (savedHandle : UInt32) : Bytes :=
  s.clock.resetValue ++ (if savedHandle = Saved.transientStclear then be32 s.clock.clearCount else [])

def contextMac (s : TpmState) (hierarchy : UInt32) (sequence : UInt64) (savedHandle : UInt32) (encrypted : Bytes) :
    TpmResult Mac := do
  return ⟨← s.hierarchyProof hierarchy, .context (contextCounters s savedHandle) sequence savedHandle encrypted⟩

def sealContext (s : TpmState) (hierarchy : UInt32) (sequence : UInt64) (savedHandle : UInt32) (body : Bytes) :
    TpmResult (Tpm2bContextData × Mac) := do
  let (key, iv) ← contextEncryption s hierarchy sequence savedHandle
  let encrypted ← Sym.cfbEncrypt key iv (sized16 (be64 sequence ++ body))
  let mac ← contextMac s hierarchy sequence savedHandle encrypted
  let integrity ← Tpm2b.new (← mac.value)
  return (← Tpm2b.new (ContextData.marshal ⟨integrity, ← Tpm2b.new encrypted⟩), mac)

def openContext (s : TpmState) (context : Context) : Action TpmRc ContextScope Bytes := do
  let data ← ((ContextData.unmarshal.fromBytes context.contextBlob.buffer).mapError
    fun _ => Rc.badContext.withParameter 1 : TpmResult ContextData)
  let mac ← contextMac s context.hierarchy context.sequence context.savedHandle data.encrypted.buffer
  let expected ← mac.value
  if expected ≠ data.integrity.buffer then throw (Rc.integrity.withParameter 1)
  let (key, iv) ← contextEncryption s context.hierarchy context.sequence context.savedHandle
  let sized ← Sym.cfbDecrypt key iv data.encrypted.buffer
  if sized.length < 2 then throw (Rc.badContext.withParameter 1)
  let inner := beNat (sized.take 2)
  if inner + 2 ≠ sized.length ∨ inner < 8 then throw (Rc.badContext.withParameter 1)
  let plain := sized.drop 2
  if UInt64.ofNat (beNat (plain.take 8)) ≠ context.sequence then
    modify fun t => { t with failureMode := true }
    throw Rc.failure
  return plain.drop 8

def badContext {α : Type} (result : TpmResult α) : TpmResult α := result.mapError fun _ => Rc.badContext

def Reader.prefixOf {α : Type} (reader : Reader α) (body : Bytes) : TpmResult α := Prod.fst <$> reader.run body

-- Where the source reads a saved body it leaves what follows the last field unread.
def restoreSession (context : Context) (body : Bytes) : Action TpmRc ContextScope UInt32 := do
  let session ← badContext (Session.unmarshal.prefixOf body)
  if session.handle ≠ context.savedHandle then throw (Rc.badContext.withParameter 1)
  let sessions ← withParameter 1 ((← get).sessions.restore session context.sequence)
  modify fun t => { t with sessions }
  return context.savedHandle

def restoreSlot (slot : Slot) : Action TpmRc ContextScope UInt32 := do
  let (handle, objects) ← (← get).objects.insertSlot slot
  modify fun t => { t with objects }
  return handle

def contextBody (slot : Slot) : UInt32 × UInt32 × Bytes :=
  match slot with
  | .object o => (o.hierarchy, if o.stateClear then Saved.transientStclear else Saved.transientObject, o.marshal)
  | .sequence sequence => (Rh.null, Saved.sequenceObject, sequence.marshal)

def decryptSalt (s : TpmState) (tpmKey : UInt32) (encrypted : Bytes) : TpmResult Bytes := do
  let object ←
    if ObjectSlots.isTransient tpmKey then withHandle 1 (s.objects.object tpmKey)
    else withHandle 1 (s.object tpmKey)
  if !object.has ObjectAttributes.decrypt then throw (Rc.attributes.withHandle 1)
  let reject : TpmRc → TpmRc := fun _ => Rc.value.withParameter 2
  match object.sensitive with
  | none => throw (Rc.handle.withHandle 1)
  | some sensitive =>
    match object.area.unique with
    | .rsa modulus =>
      if object.area.objectType ≠ Alg.rsa then throw (Rc.type.withHandle 1)
      match object.area.parameters with
      | .rsa _ _ _ exponent =>
        let key ← Rsa.RsaPrivate.fromPrime modulus.buffer exponent sensitive.sensitive.asSlice
        let plain ← (Rsa.privateOp key encrypted).mapError reject
        (Rsa.oaepDecode object.area.nameAlg plain (ascii "SECRET" ++ [0])).mapError reject
      | _ => throw (Rc.type.withHandle 1)
    | .ecc point =>
      if object.area.objectType ≠ Alg.ecc then throw (Rc.type.withHandle 1)
      match object.area.parameters with
      | .ecc _ _ curveId _ =>
        let peer ← (EccPoint.unmarshalSized.fromBytes encrypted).mapError reject
        let _ ← Ecc.curveBits curveId
        let (z, _) ← (Ecc.ecdh curveId (beNat sensitive.sensitive.asSlice) peer.x.buffer peer.y.buffer).mapError reject
        let size ← Hash.digestSize object.area.nameAlg
        kdfe object.area.nameAlg z (ascii "SECRET") peer.x.buffer point.x.buffer (UInt32.ofNat (size * 8))
      | _ => throw (Rc.type.withHandle 1)
    | _ => throw (Rc.type.withHandle 1)

structure SessionStart where
  nonceCaller : Tpm2bNonce
  encryptedSalt : Tpm2bEncryptedSecret
  sessionType : UInt8
  symmetric : SymDef
  authHash : UInt16

def SessionStart.unmarshal : Reader SessionStart := do
  let nonceCaller ← Reader.withParameter 1 Tpm2b.unmarshal
  let encryptedSalt ← Reader.withParameter 2 Tpm2b.unmarshal
  let sessionType ← Reader.withParameter 3 u8
  let symmetric ← SymDef.unmarshalSymDef.withParameter 4
  return { nonceCaller, encryptedSalt, sessionType, symmetric, authHash := ← Reader.withParameter 5 u16 }

def SessionStart.check (start : SessionStart) (tpmKey : UInt32) : TpmResult Unit := do
  let algorithm := start.symmetric.algorithm
  if algorithm ≠ Alg.null ∧ algorithm ≠ Alg.xor ∧ start.symmetric.mode ≠ Alg.cfb then throw (Rc.mode.withParameter 4)
  if !isSessionType start.sessionType then throw (Rc.value.withParameter 3)
  if !isValidAuthHash start.authHash then throw (Rc.hash.withParameter 5)
  let digestSize ← Hash.digestSize start.authHash
  let length := start.nonceCaller.buffer.length
  if length < 16 ∨ digestSize < length then throw (Rc.size.withParameter 1)
  if tpmKey = Rh.null ∧ !start.encryptedSalt.isEmpty then throw (Rc.value.withParameter 2)

-- The authorization value a session is bound with, whether its failures count, and the octets that identify it.
def bindOf (s : TpmState) (bind : UInt32) : TpmResult (Bytes × Bool × Bytes) := do
  if bind = Rh.null then return ([], false, [])
  let entity ← withHandle 2 (s.entity bind)
  if entity.pin.isSome then throw (Rc.handle.withHandle 2)
  return (entity.auth, entity.usesLockout, Session.bindId (← s.handleName bind) entity.auth)

section

variable (s : TpmState) (request : Request)

def startAuthSession : Action TpmRc ContextScope Response := do
  let tpmKey ← request.handle 0
  let bind ← request.handle 1
  let start ← request.params SessionStart.unmarshal
  start.check tpmKey
  let salt ← (if tpmKey = Rh.null then .ok [] else decryptSalt s tpmKey start.encryptedSalt.buffer : TpmResult Bytes)
  let (bindAuth, bindUsesLockout, bindName) ← bindOf s bind
  let nonceTpm ← Action.zoom (·.rng) (fun rng t => { t with rng })
    (Drbg.bytes (← Hash.digestSize start.authHash))
  let sessionKey ← deriveSessionKey start.authHash (decide (tpmKey = Rh.null) && decide (bind = Rh.null)) bindAuth salt
    nonceTpm start.nonceCaller.buffer
  let handle ← (← get).sessions.allocateHandle start.sessionType
  let session ← (Session.new handle start.sessionType start.authHash nonceTpm start.nonceCaller.buffer sessionKey
    bind bindName start.symmetric : TpmResult Session)
  let sessions ← (← get).sessions.insert { session with
    bindUsesLockout, startTime := s.clock.time, timeEpoch := s.clock.timeEpoch }
  modify fun t => { t with sessions }
  let nonce : Tpm2bNonce ← (Tpm2b.new nonceTpm : TpmResult Tpm2bNonce)
  return Response.withHandle handle nonce.marshal

def flushContext : Action TpmRc ContextScope Response := do
  let handle ← request.params (Reader.withParameter 1 u32)
  let t ← get
  if SessionSlots.isFlushableSession handle then
    let (flushed, sessions) := t.sessions.flush handle
    set { t with sessions }
    let flushed ← withParameter 1 flushed
    if t.exclusiveSession = flushed then
      modify fun t => { t with exclusiveSession := Rh.unassigned }
  else if ObjectSlots.isTransient handle then
    let objects ← withParameter 1 (t.objects.removeSlot handle)
    set { t with objects }
  else throw (Rc.value.withParameter 1)
  return .empty

def contextSave : Action TpmRc ContextScope Reply := do
  let handle ← request.handle 0
  let t ← get
  if t.sessions.countersExhausted then throw Rc.tooManyContexts
  if isSessionHandle handle then
    let ((session, sequence), sessions) ← withHandle 1 (t.sessions.save handle)
    set { t with sessions }
    let (contextBlob, mac) ← sealContext s Rh.null sequence handle session.marshal
    let context : Context := { sequence, savedHandle := handle, hierarchy := Rh.null, contextBlob }
    return { parameters := context.marshal, unread := request.parameters, macs := [mac] }
  else
    let slot ← withHandle 1 (t.objects.getSlot handle)
    let (hierarchy, savedHandle, body) := contextBody slot
    let sequence := t.sessions.objectCounter
    let (contextBlob, mac) ← sealContext s hierarchy sequence savedHandle body
    set { t with sessions := t.sessions.nextObjectId.2 }
    let context : Context := { sequence, savedHandle, hierarchy, contextBlob }
    return { parameters := context.marshal, unread := request.parameters, macs := [mac] }

def checkViable (slots : SessionSlots) (context : Context) : TpmResult Unit := do
  let isSession := isSessionHandle context.savedHandle
  let current := satSub slots.contextCounter 1
  let viable :=
    if isSession then
      decide (context.sequence ≤ current) && decide (current ≤ satAdd context.sequence Config.contextGapMax)
    else decide (context.sequence < slots.objectCounter)
  if !viable then throw (Rc.value.withParameter 1)
  if isSession ∧ slots.atContextGap ∧ slots.oldestActive ≠ some context.sequence then throw Rc.contextGap

def contextLoad : Action TpmRc ContextScope Response := do
  let context ← request.params (Context.unmarshal.withParameter 1)
  checkViable (← get).sessions context
  if !s.hierarchies.isEnabled context.hierarchy then throw (Rc.hierarchy.withParameter 1)
  let body ← openContext s context
  let handle ←
    if isSessionHandle context.savedHandle then restoreSession context body
    else if context.savedHandle = Saved.sequenceObject then do
      let sequence ← badContext (Sequence.unmarshal.prefixOf body)
      restoreSlot (.sequence sequence)
    else if context.savedHandle = Saved.transientObject ∨ context.savedHandle = Saved.transientStclear then do
      let stateClear := decide (context.savedHandle = Saved.transientStclear)
      let object ← badContext ((Object.unmarshal stateClear).prefixOf body)
      restoreSlot (.object object)
    else throw (Rc.value.withParameter 1)
  return Response.withHandle handle []

def evict (object : Object) (auth persistentHandle : UInt32) (persistent : SortedMap UInt32 Object) :
    TpmResult (SortedMap UInt32 Object) := do
  if object.hierarchy = Rh.null ∨ Hierarchies.isLimited object.hierarchy then throw (Rc.attributes.withHandle 2)
  let proper :=
    if auth = Rh.platform then object.hierarchy == Rh.platform
    else object.hierarchy == Rh.owner || object.hierarchy == Rh.endorsement
  if !proper then throw (Rc.hierarchy.withHandle 2)
  if object.stateClear then throw (Rc.attributes.withHandle 2)
  if persistent.contains persistentHandle then throw (Rc.nvDefined.withParameter 1)
  if Config.minEvictObjects ≤ persistent.size then throw Rc.nvSpace
  return persistent.insert persistentHandle object

def evictControl : Action TpmRc (SortedMap UInt32 Object) Response := do
  let auth ← request.handle 0
  let objectHandle ← request.handle 1
  let persistentHandle ← request.params (Reader.withParameter 1 u32)
  if !Handles.isPersistent persistentHandle then throw (Rc.value.withParameter 1)
  let isPlatformRange := decide (Hc.platformPersistent ≤ persistentHandle)
  if auth ≠ Rh.platform ∧ auth ≠ Rh.owner then throw (Rc.authType.withHandle 1)
  let persistent ← get
  if Handles.isPersistent objectHandle then
    if auth = Rh.owner ∧ Hc.platformPersistent ≤ objectHandle then throw (Rc.range.withHandle 2)
    if objectHandle ≠ persistentHandle then throw (Rc.handle.withHandle 2)
    if !persistent.contains persistentHandle then throw (Rc.handle.withHandle 2)
    set (persistent.erase persistentHandle)
  else
    if decide (auth = Rh.platform) ≠ isPlatformRange then throw (Rc.range.withParameter 1)
    let object ← withHandle 2 (s.objects.object objectHandle)
    set (← evict object auth persistentHandle persistent)
  return .empty

end

end

end Swtrust
