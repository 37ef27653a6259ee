import Swtrust.Commands.Request

set_option autoImplicit false

namespace Swtrust

open Library Handles

def withSession {α : Type} (position : Nat) (result : TpmResult α) : TpmResult α :=
  result.mapError (·.withSession position)

def withHandle {α : Type} (position : Nat) (result : TpmResult α) : TpmResult α :=
  result.mapError (·.withHandle position)

def withParameter {α : Type} (position : Nat) (result : TpmResult α) : TpmResult α :=
  result.mapError (·.withParameter position)

def failAt {α : Type} (position : Nat) (rc : TpmRc) : TpmResult α := .error (rc.withSession position)

namespace Request

def sessionAt (request : Request) (index : Nat) : TpmResult SessionInput :=
  match request.sessions[index]? with
  | some input => .ok input
  | none => .error Rc.failure

def position (request : Request) (mask : UInt8) : Option Nat :=
  request.sessions.findIdx? fun input => input.attributes.has mask

def names (request : Request) (index : Nat) (handle : UInt32) : Bool := request.handles[index]? == some handle

end Request

namespace TpmState

def authIsPolicy (s : TpmState) (request : Request) (index : Nat) : Bool :=
  match request.sessions[index]? with
  | none => false
  | some input =>
    if input.handle = Rh.rsPw then false
    else match s.sessions.get input.handle with
      | .ok session => session.isPolicy
      | .error _ => false

def checkSessionHandles (s : TpmState) (request : Request) : TpmResult Unit :=
  checkEach (fun index (input : SessionInput) =>
    if input.handle = Rh.rsPw then .ok ()
    else if !isSessionHandle input.handle then failAt (index + 1) Rc.handle
    else match s.sessions.get input.handle with
      | .ok _ => .ok ()
      | .error _ => .error ⟨Rc.referenceS0.value + UInt32.ofNat index⟩) 0 request.sessions

def auxiliaryNonces (s : TpmState) (request : Request) (forIndex : Nat) : Bytes × Bytes :=
  if forIndex ≠ 0 then ([], [])
  else
    let nonceAt (index : Option Nat) : Bytes :=
      match index.bind (request.sessions[·]?) with
      | some input =>
        match s.sessions.get input.handle with
        | .ok session => session.nonceTpm
        | .error _ => []
      | none => []
    let decrypt := request.position SessionAttributes.decrypt
    let encrypt := request.position SessionAttributes.encrypt
    (nonceAt decrypt, if encrypt.isSome && encrypt != decrypt then nonceAt encrypt else [])

def checkNvAuthorizationAvailable (s : TpmState) (request : Request) (index : Nat) (role : Role) : TpmResult Unit := do
  if role ≠ .user then return
  match nvAccess request.code with
  | none => return
  | some access =>
    let handle ← request.handle index
    if !NvStore.isNvHandle handle then return
    match nvIndexHandle request.code with
    | some position => if !request.names position handle then return
    | none => pure ()
    let attributes := (← s.nv.get handle).area.attributes
    let needed := match access, s.authIsPolicy request index with
      | .write, true => NvAttributes.policywrite
      | .write, false => NvAttributes.authwrite
      | .read, true => NvAttributes.policyread
      | .read, false => NvAttributes.authread
    if !attributes.has needed then failAt (index + 1) Rc.authUnavailable

def checkRoleAllowsAuthValue (role : Role) (entity : Entity) (position : Nat) : TpmResult Unit :=
  match role with
  | .dup => failAt position Rc.authType
  | .admin => if entity.adminWithPolicy then failAt position Rc.authType else .ok ()
  | _ => .ok ()

def daProtected (s : TpmState) (input : SessionInput) (entity : Entity) : Bool :=
  if entity.usesLockout then true
  else if input.handle = Rh.rsPw then false
  else match s.sessions.get input.handle with
    | .ok session => session.bindUsesLockout
    | .error _ => false

def usesAuthValue (s : TpmState) (input : SessionInput) : Bool :=
  if input.handle = Rh.rsPw then true
  else match s.sessions.get input.handle with
    | .ok session =>
      session.bindUsesLockout || !session.isPolicy || session.policy.authValueNeeded || session.policy.passwordNeeded
    | .error _ => true

def checkLockout (s : TpmState) (request : Request) (index : Nat) (input : SessionInput) (guarded : Bool) :
    TpmResult Unit :=
  let barred := (if guarded then s.lockout.lockedOut else false) ||
    (s.lockout.inLockout && request.names index Rh.lockout)
  if !barred then .ok ()
  else if request.code = Cc.dictionaryAttackLockReset then .ok ()
  else if s.usesAuthValue input then .error Rc.lockout
  else .ok ()

def recordFailure (s : TpmState) (usesLockout : Bool) : TpmState :=
  if !usesLockout then s
  else if s.lockout.protectionOff then s
  else
    let failedTries := if s.lockout.failedTries = 0xFFFFFFFF then s.lockout.failedTries else s.lockout.failedTries + 1
    let nextRecovery := satAdd s.clock.time (s.lockout.recoveryTime.toUInt64 * 1000)
    { s with lockout := { s.lockout with failedTries, nextRecovery } }

def recordLockoutFailure (s : TpmState) : TpmState :=
  let lockoutUntil :=
    if s.lockout.lockoutRecovery = 0 then 0
    else satAdd s.clock.time (s.lockout.lockoutRecovery.toUInt64 * 1000)
  { s with lockout := { s.lockout with inLockout := true, lockoutUntil } }

def checkPinAvailable (s : TpmState) (entity : Entity) : TpmResult Unit := do
  match entity.pin with
  | none => return
  | some handle =>
    let index ← s.nv.get handle
    if !index.written then throw Rc.authUnavailable
    let counters ← index.pinCounters
    if counters.pinLimit ≤ counters.pinCount then throw Rc.authFail

def recordPinAttempt (s : TpmState) (entity : Entity) (succeeded : Bool) : TpmResult TpmState := do
  match entity.pin with
  | none => return s
  | some handle =>
    let index ← s.nv.get handle
    let counters ← index.pinCounters
    let raised := if counters.pinCount = 0xFFFFFFFF then counters.pinCount else counters.pinCount + 1
    let pinCount := match index.indexType == Nt.pinFail, succeeded with
      | true, true => 0
      | true, false => raised
      | false, true => raised
      | false, false => counters.pinCount
    let index ← index.setPinCounters { counters with pinCount }
    return { s with nv := s.nv.put handle index }

section

variable [Primitives]

def entity (s : TpmState) (handle : UInt32) : TpmResult Entity := do
  let name ← s.handleName handle
  let authorizing := (Hierarchies.baseOf handle).getD handle
  if Hierarchies.isHierarchy authorizing then
    let h ← s.hierarchies.get authorizing
    return { name, auth := h.auth, policy := policyOf h.policy, usesLockout := false
             userWithAuth := true, pin := none, adminWithPolicy := true }
  if handle = Rh.lockout then
    return { name, auth := s.lockoutAuth, policy := policyOf s.lockoutPolicy, usesLockout := true
             userWithAuth := true, pin := none, adminWithPolicy := true }
  if isAct handle then
    let enabled := s.hierarchies.platform.enabled
    return { name, auth := if enabled then s.hierarchies.platform.auth else [], policy := policyOf s.act.policy
             usesLockout := false, userWithAuth := enabled, pin := none, adminWithPolicy := true }
  if handle = Rh.platformNv then
    let h := s.hierarchies.platform
    return { name, auth := h.auth, policy := policyOf h.policy, usesLockout := false
             userWithAuth := true, pin := none, adminWithPolicy := true }
  if isPcr handle then
    return { name, auth := s.pcrAuth, policy := policyOf s.pcrPolicy, usesLockout := false
             userWithAuth := true, pin := none, adminWithPolicy := true }
  if ObjectSlots.isTransient handle then
    match ← s.objects.getSlot handle with
    | .object o =>
      if o.isPublicOnly then throw Rc.authUnavailable
      return { name, auth := o.authValue, policy := objectPolicy o.area, usesLockout := !o.has ObjectAttributes.noDa
               userWithAuth := o.has ObjectAttributes.userWithAuth, pin := none
               adminWithPolicy := o.has ObjectAttributes.adminWithPolicy }
    | .sequence sequence =>
      return { name, auth := sequence.auth, policy := none, usesLockout := false
               userWithAuth := true, pin := none, adminWithPolicy := false }
  if isPersistent handle then
    let o ← s.object handle
    if !s.hierarchies.isEnabled o.hierarchy then throw Rc.hierarchy
    if o.isPublicOnly then throw Rc.authUnavailable
    return { name, auth := o.authValue, policy := objectPolicy o.area, usesLockout := !o.has ObjectAttributes.noDa
             userWithAuth := o.has ObjectAttributes.userWithAuth, pin := none
             adminWithPolicy := o.has ObjectAttributes.adminWithPolicy }
  if NvStore.isNvHandle handle then
    let index ← s.nv.get handle
    if !s.nvReachable index then throw Rc.handle
    let policy :=
      if index.area.authPolicy.isEmpty then none else some (index.area.nameAlg, index.area.authPolicy.buffer)
    return { name, auth := index.auth, policy, usesLockout := !index.area.attributes.has NvAttributes.noDa
             userWithAuth := true, pin := if index.isPin then some index.area.nvIndex else none
             adminWithPolicy := true }
  throw Rc.handle

end

end TpmState

def firstSizedParameter (parameters : Bytes) : Option Bytes :=
  let size := beNat (parameters.take 2)
  if parameters.length < 2 ∨ parameters.length < 2 + size then none else some ((parameters.drop 2).take size)

def firstSizedParameterAt (parameters : Bytes) : Nat → Option Bytes
  | 0 => firstSizedParameter parameters
  | index + 1 =>
    let size := beNat (parameters.take 2)
    if parameters.length < 2 ∨ parameters.length < 2 + size then none
    else firstSizedParameterAt (parameters.drop (2 + size)) index

def spliceFirstParameter (parameters body : Bytes) : Bytes :=
  parameters.take 2 ++ body ++ parameters.drop (2 + body.length)

def checkSessionAttributes (request : Request) : TpmResult Unit :=
  let attributes := SessionAttributes.decrypt ||| SessionAttributes.encrypt ||| SessionAttributes.audit
  let first (mask : UInt8) (index : Nat) : Bool := request.position mask == some index
  checkEach (fun index (input : SessionInput) => do
    let has (mask : UInt8) := input.attributes.has mask
    let any (mask : UInt8) := (input.attributes.value &&& mask) != 0
    if input.handle = Rh.rsPw ∧ any attributes then failAt (index + 1) Rc.attributes
    if !has SessionAttributes.audit ∧ any (SessionAttributes.auditExclusive ||| SessionAttributes.auditReset) then
      failAt (index + 1) Rc.attributes
    if has SessionAttributes.audit ∧
        (!first SessionAttributes.audit index ∨ index < request.info.authHandles) then
      failAt (index + 1) Rc.attributes
    if has SessionAttributes.decrypt ∧ !first SessionAttributes.decrypt index then failAt (index + 1) Rc.attributes
    if has SessionAttributes.encrypt ∧ !first SessionAttributes.encrypt index then failAt (index + 1) Rc.attributes
    if request.info.authHandles ≤ index ∧ !any attributes then failAt (index + 1) Rc.attributes)
    0 request.sessions

def auditSessionIndex (request : Request) : Option Nat := request.position SessionAttributes.audit

def keepsExclusiveAudit (code : UInt32) : Bool := requiresNoSessions code || code == Cc.readClock

def allowedInFailureMode (code : UInt32) : Bool := code == Cc.getTestResult || code == Cc.getCapability

def allowedBeforeStartup (code : UInt32) : Bool := code == Cc.startup

structure AuthContext where
  name : Bytes := []
  auth : Bytes := []
  deriving DecidableEq

namespace TpmState

def checkAuditSession (s : TpmState) (request : Request) : TpmResult Unit := do
  match auditSessionIndex request with
  | none => return
  | some index =>
    let input ← request.sessionAt index
    let session ← s.sessions.get input.handle
    if !session.isHmac then failAt (index + 1) Rc.attributes
    if input.attributes.has SessionAttributes.auditExclusive ∧ s.audit.exclusiveSession ≠ input.handle then
      throw Rc.exclusive

def commandAuditApplies (s : TpmState) (code : UInt32) : Bool :=
  if code = Cc.shutdown ∨ s.failureMode ∨ s.commandAuditSuppressed then false
  else if code = Cc.setCommandCodeAuditStatus then true
  else s.audit.commands.contains code

def isExclusive (s : TpmState) (handle : UInt32) : Bool := handle != Rh.rsPw && s.audit.exclusiveSession == handle

def responseAttributes (s : TpmState) (input : SessionInput) : SessionAttributes :=
  input.attributes.setTo SessionAttributes.auditExclusive
    (input.attributes.has SessionAttributes.audit && s.isExclusive input.handle)

end TpmState

end Swtrust
