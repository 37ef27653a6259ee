import Swtrust.Commands.Handles
import Swtrust.Commands.Table
import Swtrust.Core.State
import Swtrust.Crypto.Sym

set_option autoImplicit false

namespace Swtrust

open Library

structure CommandHeader where
  tag : UInt16
  code : UInt32
  deriving DecidableEq

def headerSize : Nat := 10

def parseHeader (buf : Bytes) : TpmResult CommandHeader := do
  if buf.length < 2 then throw Rc.commandSize
  let tag := UInt16.ofNat (beNat (buf.take 2))
  if tag ≠ St.noSessions ∧ tag ≠ St.sessions then throw Rc.tag
  if buf.length < headerSize then throw Rc.commandSize
  let size := beNat ((buf.drop 2).take 4)
  if size ≠ buf.length then throw Rc.commandSize
  if Config.maxCommandSize < size then throw Rc.commandSize
  return ⟨tag, UInt32.ofNat (beNat ((buf.drop 6).take 4))⟩

structure SessionInput where
  handle : UInt32
  nonceCaller : Bytes
  attributes : SessionAttributes
  hmac : Bytes
  deriving DecidableEq

def SessionInput.unmarshal : Reader SessionInput := do
  let handle ← u32
  let nonce : Tpm2bNonce ← Tpm2b.unmarshal
  let attributes ← Flags8.unmarshal
  let hmac : Tpm2bAuth ← Tpm2b.unmarshal
  return ⟨handle, nonce.buffer, attributes, hmac.buffer⟩

structure Request where
  info : CommandInfo
  tag : UInt16
  code : UInt32
  handles : List UInt32
  sessions : List SessionInput
  parameters : Bytes
  locality : UInt8
  deriving DecidableEq

-- What the TPM makes an HMAC of under a hierarchy proof: its tickets and its saved contexts.
inductive Sealed where
  | hashCheck (hashAlg : UInt16) (digest : Bytes)
  | verified (tag : UInt16) (signed name : Bytes) (digestAlg : Option UInt16)
  | creation (objectName creationDigest : Bytes)
  | authorization (tag : UInt16) (cpHashA policyRef authName timeout : Bytes) (epoch : Option UInt64)
      (resets : Option UInt32)
  | context (counters : Bytes) (sequence : UInt64) (savedHandle : UInt32) (encrypted : Bytes)
  deriving DecidableEq

def Sealed.octets : Sealed → Bytes
  | hashCheck hashAlg digest => be16 St.hashcheck ++ be16 hashAlg ++ digest
  | verified tag signed name digestAlg => be16 tag ++ signed ++ name ++ (digestAlg.map be16).getD []
  | creation objectName creationDigest => be16 St.creation ++ objectName ++ creationDigest
  | authorization tag cpHashA policyRef authName timeout epoch resets =>
      be16 tag ++ cpHashA ++ policyRef ++ authName ++ timeout ++ (epoch.map be64).getD [] ++ (resets.map be32).getD []
  | context counters sequence savedHandle encrypted => counters ++ be64 sequence ++ be32 savedHandle ++ encrypted

structure Mac where
  proof : Bytes
  content : Sealed
  deriving DecidableEq

def Mac.value [Crypto] (mac : Mac) : TpmResult Bytes :=
  hmac Config.contextIntegrityHashAlg mac.proof mac.content.octets

structure Signed where
  key : Object
  digest : Bytes
  deriving DecidableEq

-- The source counts in `consumed` how far a handler has read the parameters. Every handler makes one reader, so
-- it is enough that the response says what that reader left unread.
structure Response where
  handle : Option UInt32 := none
  parameters : Bytes := []
  unread : Bytes := []
  deriving DecidableEq

-- The ghosts of a response: the HMACs keyed by a hierarchy proof that the handler put in it, and the digest it
-- signed with an object. The handlers that do neither return a plain response.
structure Reply extends Response where
  macs : List Mac := []
  signed : Option Signed := none
  deriving DecidableEq

namespace Request

def read {α : Type} (request : Request) (reader : Reader α) : TpmResult (α × Bytes) := reader.run request.parameters

def handle (request : Request) (index : Nat) : TpmResult UInt32 :=
  match request.handles[index]? with
  | some handle => .ok handle
  | none => .error Rc.value

def params {α : Type} (request : Request) (reader : Reader α) : TpmResult α := do
  let (value, _) ← request.read do
    let value ← reader
    expectEnd
    return value
  return value

end Request

namespace Response

def empty : Response := {}

def of (parameters : Bytes) : Response := { parameters }

def withHandle (handle : UInt32) (parameters : Bytes) : Response := { handle := some handle, parameters }

def notReading (request : Request) (parameters : Bytes) : Response := { parameters, unread := request.parameters }

end Response

def Response.reply (response : Response) : Reply := { toResponse := response }

structure Entity where
  name : Bytes
  auth : Bytes
  policy : Option (UInt16 × Bytes)
  usesLockout : Bool
  userWithAuth : Bool
  pin : Option UInt32
  adminWithPolicy : Bool
  deriving DecidableEq

def checkEach {α : Type} (check : Nat → α → TpmResult Unit) : Nat → List α → TpmResult Unit
  | _, [] => .ok ()
  | index, head :: tail => do
    check index head
    checkEach check (index + 1) tail

def mapEach {α β : Type} (make : Nat → α → TpmResult β) : Nat → List α → TpmResult (List β)
  | _, [] => .ok []
  | index, head :: tail => do
    let made ← make index head
    return made :: (← mapEach make (index + 1) tail)

def requiresNoSessions (code : UInt32) : Bool :=
  ([Cc.contextSave, Cc.contextLoad, Cc.flushContext, Cc.startup] : List UInt32).contains code

def readHandles : Nat → Reader (List UInt32)
  | 0 => return []
  | count + 1 => do
    let handle ← u32
    return handle :: (← readHandles count)

def readSessions : Nat → Reader (List SessionInput)
  | 0 => do
    if !(← readerIsEmpty) then throw Rc.authsize
    return []
  | room + 1 => do
    if ← readerIsEmpty then return []
    let input ← SessionInput.unmarshal
    return input :: (← readSessions room)

def readAuthArea (code : UInt32) : Reader (List SessionInput) := do
  if requiresNoSessions code then throw Rc.authContext
  let authSize ← u32
  let rest ← get
  if authSize < 9 ∨ rest.length < authSize.toNat then throw Rc.authsize
  let sessions ← Reader.sub authSize.toNat (readSessions Config.maxSessionNum)
  if sessions.isEmpty then throw Rc.authsize
  return sessions

def parse (buf : Bytes) (locality : UInt8) : TpmResult Request := do
  let header ← parseHeader buf
  match Table.lookup header.code with
  | none => throw Rc.commandCode
  | some info =>
    let reader : Reader (List UInt32 × List SessionInput) := do
      let handles ← readHandles info.handles
      if header.tag = St.sessions then return (handles, ← readAuthArea header.code)
      if 0 < info.authHandles then throw Rc.authMissing
      return (handles, [])
    let ((handles, sessions), parameters) ← reader.run (buf.drop headerSize)
    return { info, tag := header.tag, code := header.code, handles, sessions, parameters, locality }

def policyOf (policy : TpmtHa) : Option (UInt16 × Bytes) :=
  if policy.hashAlg = Alg.null ∨ policy.digest.isEmpty then none else some (policy.hashAlg, policy.digest)

def objectPolicy (area : TpmtPublic) : Option (UInt16 × Bytes) :=
  if area.authPolicy.isEmpty then none else some (area.nameAlg, area.authPolicy.buffer)

namespace TpmState

def object (s : TpmState) (handle : UInt32) : TpmResult Object :=
  match s.persistent.get handle with
  | some object => .ok object
  | none => .error Rc.handle

def handleIsPresent (s : TpmState) (handle : UInt32) : Bool :=
  if ObjectSlots.isTransient handle then s.objects.contains handle
  else if isSessionHandle handle then s.sessions.sessions.contains handle
  else true

def nvReachable (s : TpmState) (index : NvIndex) : Bool :=
  if index.area.attributes.has NvAttributes.platformcreate then s.hierarchies.platformNvEnabled
  else s.hierarchies.owner.enabled

def checkHandleAvailable (s : TpmState) (handle : UInt32) : TpmResult Unit :=
  if Hierarchies.isLimited handle ∨ Hierarchies.isHierarchy handle then
    if !s.hierarchies.isEnabled handle then .error Rc.hierarchy else .ok ()
  else if Handles.isPersistent handle then
    match s.persistent.get handle with
    | some object => if !s.hierarchies.isEnabled object.hierarchy then .error Rc.hierarchy else .ok ()
    | none => .ok ()
  else if ObjectSlots.isTransient handle then
    match s.objects.get handle with
    | some (.object object) => if !s.hierarchies.isEnabled object.hierarchy then .error Rc.hierarchy else .ok ()
    | _ => .ok ()
  else if NvStore.isNvHandle handle then
    match s.nv.get handle with
    | .ok index => if !s.nvReachable index then .error Rc.handle else .ok ()
    | .error _ => .ok ()
  else .ok ()

end TpmState

section

variable [Primitives]

namespace TpmState

def handleName (s : TpmState) (handle : UInt32) : TpmResult Bytes :=
  if nameIsHandle handle then .ok (Swtrust.handleName handle)
  else if ObjectSlots.isTransient handle then Slot.name <$> s.objects.getSlot handle
  else if Handles.isPersistent handle then Object.name <$> s.object handle
  else if NvStore.isNvHandle handle then do (← s.nv.get handle).name
  else .ok (Swtrust.handleName handle)

end TpmState

end

end Swtrust
