import Swtrust.Commands.Run

set_option autoImplicit false

namespace Swtrust

open Library Handles

-- A command that succeeded: the response, and with it the request it answered and the ghosts of its handler.
structure Executed where
  octets : Bytes
  request : Request
  reply : Reply
  deriving DecidableEq

namespace TpmState

def checkFailureMode (s : TpmState) (command : Bytes) : TpmResult Unit := do
  if !s.failureMode then return
  let header ← parseHeader command
  if !allowedInFailureMode header.code ∨ header.tag ≠ St.noSessions then throw Rc.failure

def checkStarted (s : TpmState) (request : Request) : TpmResult Unit := do
  if !s.started ∧ !allowedBeforeStartup request.code then throw Rc.notInitialized
  if (!s.nvAvailable ∨ s.nvWriteFailed) ∧ (request.info.nv ∨ 0 < request.info.authHandles) then throw Rc.nvUnavailable
  if s.started ∧ request.code = Cc.startup then throw Rc.notInitialized

def nullifyShutdown (request : Request) (s : TpmState) : TpmState :=
  if s.started ∧ request.code ≠ Cc.shutdown ∧ s.shutdownType ≠ Su.none then
    { s with shutdownType := Su.none, startupClear := s.startupClear.without StartupClearAttributes.orderly }
  else s

def checkPhysicalPresence (s : TpmState) (request : Request) : TpmResult Unit := do
  let listed := s.ppCommands.contains request.code &&
    (request.handles.take request.info.authHandles).contains Rh.platform
  if (request.code = Cc.ppCommands ∨ listed) ∧ !s.physicalPresence then throw Rc.pp

def checkForm (request : Request) : TpmResult Unit := do
  if takesNoParameters request.code ∧ !request.parameters.isEmpty then throw Rc.size
  checkEach (fun index handle =>
    match kind request.code index with
    | some spec => if allows spec handle then .ok () else .error (Rc.value.withHandle (index + 1))
    | none => .ok ()) 0 request.handles

def readOnlyIndex (request : Request) : TpmResult UInt32 :=
  match request.handle 1 with
  | .ok handle => .ok handle
  | .error _ => request.handle 0

def checkReadOnly (s : TpmState) (request : Request) : TpmResult Unit := do
  if !s.startupClear.has StartupClearAttributes.readOnly then return
  if Table.refusedWhenReadOnly request.code then throw Rc.readOnly
  if Table.readOnlyNeedsAVolatileIndex request.code then
    let handle ← readOnlyIndex request
    let index ← withHandle 1 (s.nv.get handle)
    if !(index.area.attributes.has NvAttributes.orderly ∧ index.area.attributes.has NvAttributes.clearStclear) then
      throw Rc.readOnly
  if request.code = Cc.policySecret then
    let handle ← request.handle 0
    if NvStore.isNvHandle handle then
      match s.nv.get handle with
      | .ok index => if index.indexType = Nt.pinFail ∨ index.indexType = Nt.pinPass then throw Rc.readOnly
      | .error _ => pure ()

def refusedCode (base : TpmRc) (index : Nat) : TpmRc := ⟨base.value + UInt32.ofNat index⟩

section

variable [Primitives]

def nameOf (s : TpmState) (index : Nat) (handle : UInt32) : TpmResult Bytes := do
  if !s.handleIsPresent handle then throw (refusedCode Rc.referenceH0 index)
  withHandle (index + 1) (s.checkHandleAvailable handle)
  withHandle (index + 1) (s.handleName handle)

def checkRequest (s : TpmState) (request : Request) : TpmResult (List Bytes) := do
  s.checkPhysicalPresence request
  checkForm request
  s.checkReadOnly request
  let names ← mapEach s.nameOf 0 request.handles
  s.checkSessionHandles request
  checkSessionAttributes request
  return names

def authHash (s : TpmState) (input : SessionInput) : TpmResult UInt16 := do
  if input.handle = Rh.rsPw then return Alg.sha256
  return (← s.sessions.get input.handle).authHash

def authorizeAt (request : Request) (names : List Bytes) (index : Nat) : TpmM AuthContext := do
  match request.sessions[index]? with
  | none => throw (Rc.authMissing.withSession (index + 1))
  | some input => do
    let s ← get
    let handle ← request.handle index
    let entity ← withHandle (index + 1) (s.entity handle)
    let hashAlg ← s.authHash input
    let cp ← cpHash hashAlg request.code names request.parameters
    checkAuthorization request index entity cp
    return ⟨entity.name, entity.auth⟩

def authorizeFrom (request : Request) (names : List Bytes) : Nat → Nat → TpmM (List AuthContext)
  | 0, _ => return []
  | count + 1, index => do
    let context ← authorizeAt request names index
    return context :: (← authorizeFrom request names count (index + 1))

def checkUnauthorized (s : TpmState) (request : Request) (names : List Bytes) : TpmResult Unit :=
  checkEach (fun index input => s.checkUnauthorizedSession request index input names) request.info.authHandles
    (request.sessions.drop request.info.authHandles)

def enterFailureMode (s : TpmState) : TpmState := { s with
  failureMode := true
  selfTestDone := false
  testFailure := if s.testFailure.isNone then some "conditional self test" else s.testFailure }

def runGuarded (request : Request) : TpmM Reply := fun s =>
  match runCommand request { s with commandAuditSuppressed := false } with
  | .ok reply s' => .ok reply s'
  | .error e s' => .error e (if e = Rc.failure then s'.enterFailureMode else s')

-- After TPM2_Clear and TPM2_HierarchyChangeAuth the response is authorized with the value they set.
def responseContexts (s : TpmState) (request : Request) (contexts : List AuthContext) : List AuthContext :=
  match contexts, request.handle 0 with
  | first :: rest, .ok handle =>
    let first := if request.code = Cc.clear ∧ handle = Rh.lockout then { first with auth := [] } else first
    match request.code == Cc.hierarchyChangeAuth, s.entity handle with
    | true, .ok entity => { first with auth := entity.auth } :: rest
    | _, _ => first :: rest
  | contexts, _ => contexts

def flushIfNeeded (request : Request) (s : TpmState) : TpmState :=
  if !request.info.flushed then s
  else
    match request.handles[if request.code = Cc.eventSequenceComplete then 1 else 0]? with
    | some handle => { s with objects := s.objects.erase handle }
    | none => s

def responseBody (request : Request) (handle : Option UInt32) (parameters area : Bytes) : Bytes :=
  let handle := (handle.map be32).getD []
  if request.tag = St.sessions then handle ++ be32 (UInt32.ofNat parameters.length) ++ parameters ++ area
  else handle ++ parameters

def successResponse (tag : UInt16) (body : Bytes) : Bytes :=
  be16 tag ++ be32 (UInt32.ofNat (headerSize + body.length)) ++ be32 Rc.success.value ++ body

def respond (request : Request) (reply : Reply) (names : List Bytes) (contexts : List AuthContext)
    (commandParameters : Bytes) : TpmM Bytes := do
  let nonces ← if request.tag = St.sessions then rollResponseNonces request.sessions else pure []
  let responders := (← get).responseContexts request contexts
  let parameters ← (← get).encryptParameters request reply.parameters (contexts.map (·.auth))
  updateAudit request names commandParameters parameters
  let area ←
    if request.tag = St.sessions then (← get).buildResponseSessions request parameters nonces responders else pure []
  modify fun s => flushIfNeeded request (closeSessions request s)
  return successResponse request.tag (responseBody request reply.handle parameters area)

-- What `execute` does with a request it could parse.
def executeRequest (request : Request) : TpmM Executed := do
  (← get).checkStarted request
  modify (nullifyShutdown request)
  let names ← (← get).checkRequest request
  let contexts ← authorizeFrom request names request.info.authHandles 0
  (← get).checkUnauthorized request names
  (← get).checkAuditSession request
  let decrypted ← (← get).decryptParameters request (contexts.map (·.auth))
  let reply ← runGuarded decrypted
  if !reply.unread.isEmpty then throw Rc.size
  let octets ← respond decrypted reply names contexts request.parameters
  return ⟨octets, decrypted, reply⟩

def execute (locality : UInt8) (command : Bytes) : TpmM Executed := do
  (← get).checkFailureMode command
  let request ← parse command locality
  executeRequest request

end

end TpmState

def errorResponse (e : TpmRc) : Bytes := be16 St.noSessions ++ be32 (UInt32.ofNat headerSize) ++ be32 e.value

def TpmState.run [Primitives] (locality : UInt8) (command : Bytes) (s : TpmState) : Bytes × TpmState :=
  match execute locality command s with
  | .ok executed s' => (executed.octets, s')
  | .error e s' => (errorResponse e, s')

end Swtrust
