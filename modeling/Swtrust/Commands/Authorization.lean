import Swtrust.Commands.Dispatch

set_option autoImplicit false

namespace Swtrust

open Library Handles

namespace TpmState

section

variable [Primitives]

def hashNames (s : TpmState) (hashAlg : UInt16) (handles : List UInt32) : TpmResult Bytes := do
  let _ ← Hash.digestSize hashAlg
  Hash.digestParts hashAlg (← mapEach (fun _ handle => s.handleName handle) 0 handles)

def checkLocality (mask : Option UInt8) (locality : UInt8) : TpmResult Unit :=
  match mask with
  | none => .ok ()
  | some mask =>
    let bit : UInt8 := if locality < 5 then 1 <<< locality else 0
    if mask &&& bit = 0 then .error Rc.locality else .ok ()

def checkNvWritten (s : TpmState) (expected : Option Bool) (handles : List UInt32) (position : Nat) : TpmResult Unit :=
  match expected with
  | none => .ok ()
  | some expected =>
    match s.nv.get (handles.headD 0) with
    | .error _ => failAt position Rc.policyFail
    | .ok index => if index.written ≠ expected then failAt position Rc.policyFail else .ok ()

def checkTemplateHash (hashAlg : UInt16) (expected : Option Bytes) (parameters : Bytes) (position : Nat) :
    TpmResult Unit :=
  match expected with
  | none => .ok ()
  | some expected =>
    match firstSizedParameterAt parameters 1 with
    | none => failAt position Rc.policyFail
    | some template => do
      if expected ≠ (← Hash.digest hashAlg template) then failAt position Rc.policyFail

def checkPolicyDigest (entity : Entity) (session : Session) (position : Nat) : TpmResult Unit :=
  match entity.policy with
  | none => failAt position Rc.authUnavailable
  | some (policyAlg, policyDigest) =>
    if policyAlg ≠ session.authHash ∨ session.policy.digest ≠ policyDigest then failAt position Rc.policyFail
    else .ok ()

def checkRecorded {α : Type} [DecidableEq α] (recorded : Option α) (actual : α) (e : TpmRc) : TpmResult Unit :=
  match recorded with
  | none => .ok ()
  | some expected => if expected ≠ actual then .error e else .ok ()

def checkRecordedHash (recorded : Option Bytes) (actual : TpmResult Bytes) (position : Nat) : TpmResult Unit :=
  match recorded with
  | none => .ok ()
  | some expected => do if expected ≠ (← actual) then failAt position Rc.policyFail

def checkExpiration (s : TpmState) (session : Session) (position : Nat) : TpmResult Unit :=
  match session.policy.expiration with
  | none => .ok ()
  | some expiration =>
    if session.timeEpoch ≠ s.clock.timeEpoch ∨ expiration < s.clock.time then failAt position Rc.expired else .ok ()

def checkSecureChannel (policy : PolicyState) : TpmResult Unit :=
  if policy.secureChannelRequired then .error Rc.channel else .ok ()

def checkPresence (s : TpmState) (policy : PolicyState) : TpmResult Unit :=
  if policy.physicalPresenceRequired ∧ !s.physicalPresence then .error Rc.pp else .ok ()

-- The deferred assertions of `check_policy`, in its order.
def checkAssertions (s : TpmState) (request : Request) (position : Nat) (cp : Bytes) (session : Session) :
    TpmResult Unit := do
  let policy := session.policy
  checkRecorded policy.commandCode request.code (Rc.policyCc.withSession position)
  checkRecorded policy.cpHash cp (Rc.policyFail.withSession position)
  checkLocality policy.locality request.locality
  checkRecorded policy.pcrUpdateCounter s.pcr.updateCounter (Rc.pcrChanged.withSession position)
  s.checkExpiration session position
  checkSecureChannel policy
  s.checkPresence policy
  s.checkNvWritten policy.nvWritten request.handles position
  checkRecordedHash policy.nameHash (s.hashNames session.authHash request.handles) position
  checkTemplateHash session.authHash policy.templateHash request.parameters position
  checkRecordedHash policy.parametersHash
    (Hash.digestParts session.authHash [be32 request.code, request.parameters]) position

def expectedHmac (s : TpmState) (request : Request) (index : Nat) (input : SessionInput) (session : Session)
    (key cp : Bytes) : TpmResult Bytes :=
  let (nonceDecrypt, nonceEncrypt) := s.auxiliaryNonces request index
  authHmacWithNonces session.authHash key cp input.nonceCaller session.nonceTpm nonceDecrypt nonceEncrypt
    input.attributes

def failureCode (guarded : Bool) : TpmRc := if guarded then Rc.authFail else Rc.badAuth

def pinAttempt (entity : Entity) (succeeded : Bool) : TpmM Unit := do set (← (← get).recordPinAttempt entity succeeded)

def refuse (isLockout guarded : Bool) (position : Nat) : TpmM Unit := do
  if isLockout then modify recordLockoutFailure
  modify (·.recordFailure guarded)
  throw ((failureCode guarded).withSession position)

def comparePassword (request : Request) (index : Nat) (entity : Entity) (input : SessionInput) (guarded : Bool) :
    TpmM Unit := do
  withSession (index + 1) ((← get).checkPinAvailable entity)
  let accepted := trimAuth input.hmac == trimAuth entity.auth
  if !accepted then
    if request.names index Rh.lockout then modify recordLockoutFailure
    modify (·.recordFailure guarded)
  pinAttempt entity accepted
  if !accepted then throw ((failureCode guarded).withSession (index + 1))

def checkPolicy (request : Request) (index : Nat) (entity : Entity) (cp : Bytes) (input : SessionInput)
    (session : Session) (guarded : Bool) : TpmM Unit := do
  let s ← get
  checkPolicyDigest entity session (index + 1)
  s.checkAssertions request (index + 1) cp session
  if session.policy.passwordNeeded then
    comparePassword request index entity input guarded
  else
    let key := session.hmacKey entity.name entity.auth
    let expected ← s.expectedHmac request index input session key cp
    if session.policy.authValueNeeded then
      withSession (index + 1) (s.checkPinAvailable entity)
    let accepted := authHmacAccepted key expected input.hmac
    if session.policy.authValueNeeded then
      pinAttempt entity accepted
    if !accepted then refuse false guarded (index + 1)

def checkHmac (request : Request) (index : Nat) (entity : Entity) (cp : Bytes) (input : SessionInput)
    (session : Session) (guarded : Bool) : TpmM Unit := do
  let s ← get
  let key := session.hmacKey entity.name entity.auth
  let expected ← s.expectedHmac request index input session key cp
  withSession (index + 1) (s.checkPinAvailable entity)
  let accepted := authHmacAccepted key expected input.hmac
  pinAttempt entity accepted
  if !accepted then refuse (request.names index Rh.lockout) guarded (index + 1)

def checkAuthorization (request : Request) (index : Nat) (entity : Entity) (cp : Bytes) : TpmM Unit := do
  let s ← get
  let position := index + 1
  let input ← request.sessionAt index
  let guarded := s.daProtected input entity
  let role := role request.code index
  s.checkLockout request index input guarded
  s.checkNvAuthorizationAvailable request index role
  if input.handle = Rh.rsPw then
    checkRoleAllowsAuthValue role entity position
    if !entity.userWithAuth then throw (Rc.policyFail.withSession position)
    comparePassword request index entity input guarded
  else
    let session ← s.sessions.get input.handle
    if session.isTrial then throw (Rc.authType.withSession position)
    if session.isPolicy then
      if (role = .admin ∨ role = .dup) ∧ session.policy.commandCode ≠ some request.code then
        throw (Rc.policyFail.withSession position)
      checkPolicy request index entity cp input session guarded
    else
      checkRoleAllowsAuthValue role entity position
      if !entity.userWithAuth then throw (Rc.policyFail.withSession position)
      checkHmac request index entity cp input session guarded

def checkUnauthorizedSession (s : TpmState) (request : Request) (index : Nat) (input : SessionInput)
    (names : List Bytes) : TpmResult Unit := do
  let session ← s.sessions.get input.handle
  if session.sessionKey.isEmpty ∧ input.hmac.isEmpty then return
  let cp ← cpHash session.authHash request.code names request.parameters
  let expected ← s.expectedHmac request index input session session.sessionKey cp
  if expected ≠ input.hmac then failAt (index + 1) Rc.authFail

def transformParameter (session : Session) (input : SessionInput) (authValue body : Bytes) (response : Bool) :
    TpmResult Bytes := do
  let (newer, older) :=
    if response then (session.nonceTpm, input.nonceCaller) else (input.nonceCaller, session.nonceTpm)
  let sessionValue := session.sessionValue authValue
  if session.symmetric.algorithm = Alg.xor then
    Sym.xorObfuscate session.symmetric.keyBits sessionValue newer older body
  else if session.symmetric.algorithm = Alg.aes then
    let block ← Sym.blockSize Alg.aes
    let (key, iv) ←
      parameterEncryptionKey session.authHash sessionValue [] newer older session.symmetric.keyBits block
    if response then Sym.cfbEncrypt key iv body else Sym.cfbDecrypt key iv body
  else throw Rc.symmetric

def decryptParameters (s : TpmState) (request : Request) (authValues : List Bytes) : TpmResult Request := do
  match request.position SessionAttributes.decrypt with
  | none => return request
  | some index =>
    let input ← request.sessionAt index
    if input.handle = Rh.rsPw then failAt (index + 1) Rc.attributes
    let session ← withSession (index + 1) (s.sessions.get input.handle)
    match firstSizedParameter request.parameters with
    | none => throw (Rc.size.withParameter 1)
    | some body =>
      let plain ← transformParameter session input (authValues[index]?.getD []) body false
      return { request with parameters := spliceFirstParameter request.parameters plain }

def encryptParameters (s : TpmState) (request : Request) (parameters : Bytes) (authValues : List Bytes) :
    TpmResult Bytes := do
  match request.position SessionAttributes.encrypt with
  | none => return parameters
  | some index =>
    let input ← request.sessionAt index
    if input.handle = Rh.rsPw then failAt (index + 1) Rc.attributes
    let session ← s.sessions.get input.handle
    match firstSizedParameter parameters with
    | none => return parameters
    | some body =>
      let cipher ← transformParameter session input (authValues[index]?.getD []) body true
      return spliceFirstParameter parameters cipher

def putSession (s : TpmState) (handle : UInt32) (session : Session) : TpmState :=
  { s with sessions := s.sessions.put handle session }

def rollResponseNonces : List SessionInput → TpmM (List Bytes)
  | [] => return []
  | input :: rest => do
    let s ← get
    if input.handle = Rh.rsPw then
      return [] :: (← rollResponseNonces rest)
    else
      match s.sessions.get input.handle with
      | .error _ => return [] :: (← rollResponseNonces rest)
      | .ok session =>
        let nonceTpm ← zoomRng (Drbg.bytes session.nonceTpm.length)
        modify (·.putSession input.handle { session with nonceTpm, nonceCaller := input.nonceCaller })
        return nonceTpm :: (← rollResponseNonces rest)

def auditSession (request : Request) (names : List Bytes) (input : SessionInput)
    (commandParameters responseParameters : Bytes) : TpmM Unit := do
  let s ← get
  match s.sessions.get input.handle with
  | .error _ => return
  | .ok session =>
    let old :=
      if input.attributes.has SessionAttributes.auditReset ∨ !session.audit.isAudit then [] else session.audit.digest
    let cp ← cpHash session.authHash request.code names commandParameters
    let rp ← rpHash session.authHash Rc.success.value request.code responseParameters
    let digest ← extendAudit session.authHash old cp rp
    set (s.putSession input.handle { session with audit := { isAudit := true, digest } })

def auditCommand (request : Request) (names : List Bytes) (commandParameters responseParameters : Bytes) :
    TpmM Unit := do
  let hashAlg := (← get).audit.alg
  let cp ← cpHash hashAlg request.code names commandParameters
  let rp ← rpHash hashAlg Rc.success.value request.code responseParameters
  let size ← Hash.digestSize hashAlg
  modify fun s =>
    if s.audit.digest.length ≠ size then { s with audit := { s.audit with counter := s.audit.counter + 1 } } else s
  let digest ← extendAudit hashAlg (← get).audit.digest cp rp
  modify fun s => { s with audit := { s.audit with digest } }

def updateAudit (request : Request) (names : List Bytes) (commandParameters responseParameters : Bytes) :
    TpmM Unit := do
  match auditSessionIndex request with
  | some index =>
    let input ← request.sessionAt index
    auditSession request names input commandParameters responseParameters
    modify fun s => { s with audit := { s.audit with exclusiveSession := input.handle } }
  | none =>
    if !keepsExclusiveAudit request.code then
      modify fun s => { s with audit := { s.audit with exclusiveSession := Rh.unassigned } }
  if (← get).commandAuditApplies request.code then
    auditCommand request names commandParameters responseParameters

def authResponse (nonce : Bytes) (attributes : SessionAttributes) (hmac : Bytes) : TpmResult Bytes := do
  let nonce : Tpm2bNonce ← Tpm2b.new nonce
  let hmac : Tpm2bAuth ← Tpm2b.new hmac
  return nonce.marshal ++ attributes.marshal ++ hmac.marshal

def responseSession (s : TpmState) (request : Request) (parameters : Bytes) (nonces : List Bytes)
    (contexts : List AuthContext) (index : Nat) (input : SessionInput) : TpmResult Bytes := do
  if input.handle = Rh.rsPw then authResponse [] ⟨SessionAttributes.continueSession⟩ []
  else
    let attributes := s.responseAttributes input
    let nonce := nonces[index]?.getD []
    match s.sessions.get input.handle with
    | .error _ => authResponse nonce attributes []
    | .ok session =>
      let rp ← rpHash session.authHash Rc.success.value request.code parameters
      if input.hmac.isEmpty then authResponse nonce attributes []
      else
        let context := contexts[index]?.getD {}
        let key := if index < request.info.authHandles then session.hmacKey context.name context.auth
          else session.sessionKey
        let hmac ← authHmacWithNonces session.authHash key rp nonce input.nonceCaller [] [] attributes
        authResponse nonce attributes hmac

def buildResponseSessions (s : TpmState) (request : Request) (parameters : Bytes) (nonces : List Bytes)
    (contexts : List AuthContext) : TpmResult Bytes :=
  List.flatten <$> mapEach (s.responseSession request parameters nonces contexts) 0 request.sessions

def closeSession (request : Request) (index : Nat) (input : SessionInput) (s : TpmState) : TpmState :=
  if input.handle = Rh.rsPw then s
  else if !input.attributes.has SessionAttributes.continueSession then
    let s := { s with sessions := s.sessions.remove input.handle }
    if s.audit.exclusiveSession = input.handle then
      { s with audit := { s.audit with exclusiveSession := Rh.unassigned } }
    else s
  else
    match s.sessions.get input.handle with
    | .error _ => s
    | .ok session =>
      let session :=
        if input.attributes.has SessionAttributes.audit then { session with bind := Rh.null, bindName := [] }
        else session
      let session :=
        if index < request.info.authHandles ∧ session.isPolicy then
          match session.restartPolicy with
          | .ok restarted => restarted
          | .error _ => session
        else session
      s.putSession input.handle session

def closeSessionsFrom (request : Request) : Nat → List SessionInput → TpmState → TpmState
  | _, [], s => s
  | index, input :: rest, s => closeSessionsFrom request (index + 1) rest (closeSession request index input s)

def closeSessions (request : Request) (s : TpmState) : TpmState := closeSessionsFrom request 0 request.sessions s

end

end TpmState

end Swtrust
