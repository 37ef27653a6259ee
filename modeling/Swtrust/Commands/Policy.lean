import Swtrust.Commands.Capability
import Swtrust.Commands.Crypto
import Swtrust.Commands.Nv

set_option autoImplicit false

namespace Swtrust

open Library

def expiresOnReset : UInt64 := 0x8000000000000000

-- The expiration is the `i32` whose octets are those of the word.
def isNegative (expiration : UInt32) : Bool := decide (0x80000000 ≤ expiration)

def authorizationTimeout (sessionStartTime : UInt64) (expiration : UInt32) (withoutNonce : Bool) : Bytes :=
  if !isNegative expiration then []
  else
    let limit := (0 - expiration).toUInt64 * 1000
    be64 (if withoutNonce then limit ||| expiresOnReset else satAdd sessionStartTime limit)

def timeoutValue (timeout : Bytes) : Option UInt64 :=
  if timeout.length ≠ 8 then none else some (UInt64.ofNat (beNat timeout) &&& ~~~expiresOnReset)

def bytesCompare : Bytes → Bytes → Ordering
  | [], [] => .eq
  | [], _ :: _ => .lt
  | _ :: _, [] => .gt
  | a :: as, b :: bs => if a < b then .lt else if b < a then .gt else bytesCompare as bs

def signedCompare (a b : Bytes) : Ordering :=
  match a, b with
  | x :: _, y :: _ =>
    if x ≥ 0x80 ∧ y < 0x80 then .lt else if x < 0x80 ∧ y ≥ 0x80 then .gt else bytesCompare a b
  | _, _ => .eq

def compareOperands (a b : Bytes) (operation : UInt16) : Option Bool :=
  let unsigned := bytesCompare a b
  let signed := signedCompare a b
  if a.length ≠ b.length then none
  else if operation = Eo.eq then some unsigned.isEq
  else if operation = Eo.neq then some unsigned.isNe
  else if operation = Eo.signedGt then some signed.isGT
  else if operation = Eo.unsignedGt then some unsigned.isGT
  else if operation = Eo.signedLt then some signed.isLT
  else if operation = Eo.unsignedLt then some unsigned.isLT
  else if operation = Eo.signedGe then some signed.isGE
  else if operation = Eo.unsignedGe then some unsigned.isGE
  else if operation = Eo.signedLe then some signed.isLE
  else if operation = Eo.unsignedLe then some unsigned.isLE
  else if operation = Eo.bitset then some ((a.zip b).all fun p => p.1 &&& p.2 == p.2)
  else if operation = Eo.bitclear then some ((a.zip b).all fun p => p.1 &&& p.2 == 0)
  else none

def isOperation (operation : UInt16) : Bool := (compareOperands [] [] operation).isSome

-- An operand, an offset and an operation are the parameters of every comparing assertion.
structure Comparison where
  operandB : Tpm2bOperand
  offset : UInt16
  operation : UInt16

namespace Comparison

def unmarshal : Reader Comparison := do
  let operandB ← Reader.withParameter 1 Tpm2b.unmarshal
  let offset ← Reader.withParameter 2 u16
  return ⟨operandB, offset, ← Reader.withParameter 3 u16⟩

def args (c : Comparison) : List Bytes := [c.operandB.buffer, be16 c.offset, be16 c.operation]

def holds (c : Comparison) (operandA : Bytes) : TpmResult Unit :=
  match compareOperands operandA c.operandB.buffer c.operation with
  | none => .error (Rc.value.withParameter 3)
  | some true => .ok ()
  | some false => .error Rc.policy

end Comparison

def checkKeyName [Profile] (name : Bytes) : TpmResult Unit := do
  if name.isEmpty then return
  if name.length < 2 then throw Rc.size
  match digestSize (UInt16.ofNat (beNat (name.take 2))) with
  | none => throw Rc.hash
  | some size => if name.length ≠ 2 + size then throw Rc.size

def checkEntityName [Profile] (name : Bytes) : TpmResult Unit :=
  if name.isEmpty ∨ name.length = 4 then .ok () else checkKeyName name

namespace TpmState

def policySession (s : TpmState) (handle : UInt32) : TpmResult Session := do
  let session ← withHandle 1 (s.sessions.get handle)
  if !session.isPolicy then throw (Rc.mode.withHandle 1)
  return session

def ticketHierarchy (s : TpmState) (authHandle : UInt32) : UInt32 :=
  if Hierarchies.isHierarchy authHandle then authHandle
  else
    let transient := if ObjectSlots.isTransient authHandle then (s.objects.object authHandle).toOption else none
    match transient with
    | some o => o.hierarchy
    | none =>
      match s.persistent.get authHandle with
      | some o => o.hierarchy
      | none =>
        let index := if NvStore.isNvHandle authHandle then (s.nv.get authHandle).toOption else none
        match index with
        | some index => if index.area.attributes.has NvAttributes.platformcreate then Rh.platform else Rh.owner
        | none => if authHandle = Rh.lockout ∨ authHandle = Rh.platformNv then Rh.platform else Rh.owner

end TpmState

abbrev PolicyM := Action TpmRc SessionSlots

def onPolicySession {α : Type} (handle : UInt32) (action : Action TpmRc Session α) : PolicyM α := do
  let session ← withHandle 1 ((← get).get handle)
  if !session.isPolicy then throw (Rc.mode.withHandle 1)
  Action.zoom (fun _ => session) (fun next slots => slots.put handle next) action

section

variable [Crypto]

def extendPolicy (commandCode : UInt32) (data : Bytes) : Action TpmRc Session Unit := do
  set (← (← get).extendPolicy commandCode data)

def setPolicy (f : PolicyState → PolicyState) : Action TpmRc Session Unit :=
  modify fun session => { session with policy := f session.policy }

def clearPolicyDigest : Action TpmRc Session Unit := do
  let size ← Hash.digestSize (← get).authHash
  setPolicy fun policy => { policy with digest := List.replicate size 0 }

def policyAuthorizationUpdate (commandCode : UInt32) (authName policyRef : Bytes) : Action TpmRc Session Unit := do
  extendPolicy commandCode authName
  let session ← get
  let digest ← Hash.digestParts session.authHash [session.policy.digest, policyRef]
  setPolicy fun policy => { policy with digest }

def checkCpHash (session : Session) (cpHashA : Bytes) : TpmResult Unit := do
  if cpHashA.isEmpty ∨ session.isTrial then return
  match session.policy.cpHash with
  | some current => if current ≠ cpHashA then throw Rc.cphash
  | none => if cpHashA.length ≠ (← Hash.digestSize session.authHash) then throw (Rc.size.withParameter 2)

def setCpHash (cpHashA : Bytes) : Action TpmRc Session Unit :=
  setPolicy fun policy => if cpHashA.isEmpty then policy else { policy with cpHash := some cpHashA }

def PolicyState.withExpiration (timeout : Bytes) (policy : PolicyState) : PolicyState :=
  match timeoutValue timeout with
  | none => policy
  | some expires => { policy with expiration := some ((policy.expiration.map (min · expires)).getD expires) }

def recordExpiration (timeout : Bytes) : Action TpmRc Session Unit := setPolicy (·.withExpiration timeout)

def checkPolicyDigestSize (session : Session) (digest : Bytes) (parameter : Nat) : TpmResult Unit := do
  if session.isTrial then return
  if digest.length ≠ (← Hash.digestSize session.authHash) then throw (Rc.size.withParameter parameter)

def sharedCpHashTaken (session : Session) : Bool :=
  if session.isTrial then false
  else session.bind != Rh.null || session.policy.cpHash.isSome || session.policy.nameHash.isSome ||
    session.policy.parametersHash.isSome || session.policy.templateHash.isSome

def authorizationContent (clock : ClockState) (tag : UInt16) (cpHashA policyRef authName timeout : Bytes)
    (withNonce : Bool) : Sealed :=
  let expires := timeout.any (· != 0)
  .authorization tag cpHashA policyRef authName timeout (if expires then some clock.timeEpoch else none)
    (if expires && !withNonce then some clock.totalResetCount else none)

def authorizationTicketMac (s : TpmState) (hierarchy : UInt32) (tag : UInt16)
    (cpHashA policyRef authName timeout : Bytes) (withNonce : Bool) : TpmResult Mac := do
  let proof ← s.hierarchyProof hierarchy
  return ⟨proof, authorizationContent s.clock tag cpHashA policyRef authName timeout withNonce⟩

def buildAuthorizationTicket (s : TpmState) (tag : UInt16) (hierarchy expiration : UInt32)
    (timeout cpHashA policyRef authName : Bytes) (isTrial withNonce : Bool) : TpmResult (Ticket × List Mac) := do
  if !isNegative expiration ∨ isTrial then return (Ticket.null tag, [])
  let mac ← authorizationTicketMac s hierarchy tag cpHashA policyRef authName timeout withNonce
  return (⟨tag, hierarchy, ← Tpm2b.new (← mac.value)⟩, [mac])

def ticketResponse (timeout : Bytes) (ticket : Ticket × List Mac) : TpmResult Reply := do
  let timeout : Tpm2bTimeout ← Tpm2b.new timeout
  return { parameters := timeout.marshal ++ ticket.1.marshal, macs := ticket.2 }

end

-- What TPM2_PolicySigned and TPM2_PolicySecret read before their own last parameter.
structure Authorization where
  nonceTpm : Tpm2bNonce
  cpHashA : Tpm2bDigest
  policyRef : Tpm2bNonce
  expiration : UInt32

def Authorization.unmarshal : Reader Authorization := do
  let nonceTpm ← Reader.withParameter 1 Tpm2b.unmarshal
  let cpHashA ← Reader.withParameter 2 Tpm2b.unmarshal
  let policyRef ← Reader.withParameter 3 Tpm2b.unmarshal
  return ⟨nonceTpm, cpHashA, policyRef, ← Reader.withParameter 4 u32⟩

section

variable [Primitives] (s : TpmState) (request : Request)

def policyRestart : PolicyM Response := do
  let handle ← request.handle 0
  let session ← withHandle 1 ((← get).get handle)
  let restarted ← session.restartPolicy
  modify (·.put handle restarted)
  return .notReading request []

def checkExpires (s : TpmState) (session : Session) (timeout : Bytes) : TpmResult Unit := do
  match timeoutValue timeout with
  | none => return
  | some expires =>
    let stale := session.timeEpoch != s.clock.timeEpoch
    if !session.isTrial ∧ (stale ∨ expires < s.clock.time) then throw (Rc.expired.withParameter 4)

-- The common end of TPM2_PolicySigned and TPM2_PolicySecret.
def recordAuthorization (handle commandCode : UInt32) (a : Authorization) (authName timeout : Bytes) : PolicyM Unit :=
  onPolicySession handle do
    checkCpHash (← get) a.cpHashA.buffer
    policyAuthorizationUpdate commandCode authName a.policyRef.buffer
    setCpHash a.cpHashA.buffer
    recordExpiration (if isNegative a.expiration then timeout else [])

def verifySigner (s : TpmState) (authObject : UInt32) (session : Session) (a : Authorization)
    (signature : TpmtSignature) : TpmResult Unit := do
  let aHash ← Hash.digestParts (signature.hashAlg.getD session.authHash)
    [a.nonceTpm.buffer, be32 a.expiration, a.cpHashA.buffer, a.policyRef.buffer]
  let object ← withHandle 1 (s.heldObject authObject)
  (verifyDigest object aHash signature).mapError fun _ => Rc.policyFail

def checkSigner (s : TpmState) (authObject : UInt32) (session : Session) (a : Authorization)
    (signature : TpmtSignature) : TpmResult Unit := do
  if session.isTrial then return
  if !a.nonceTpm.isEmpty ∧ a.nonceTpm.buffer ≠ session.nonceTpm then throw (Rc.value.withParameter 1)
  verifySigner s authObject session a signature

def policySigned : PolicyM Reply := do
  let authObject ← request.handle 0
  let handle ← request.handle 1
  let (a, signature) ← request.params do
    let a ← Authorization.unmarshal
    return (a, ← Reader.withParameter 5 TpmtSignature.unmarshal)
  let authName ← withHandle 1 (s.handleName authObject)
  let session ← s.policySession handle
  checkSigner s authObject session a signature
  let timeout := authorizationTimeout session.startTime a.expiration a.nonceTpm.isEmpty
  checkExpires s session timeout
  let ticket ← buildAuthorizationTicket s St.authSigned (s.ticketHierarchy authObject) a.expiration timeout
    a.cpHashA.buffer a.policyRef.buffer authName session.isTrial (!a.nonceTpm.isEmpty)
  recordAuthorization handle Cc.policySigned a authName timeout
  ticketResponse timeout ticket

def checkSecretIndex (s : TpmState) (authHandle : UInt32) : TpmResult Unit := do
  if NvStore.isNvHandle authHandle then
    let index ← s.indexAt authHandle 1
    if !index.isPin ∧ !index.area.attributes.has NvAttributes.authread then throw (Rc.nvAuthorization.withHandle 1)

def checkSecretSession (s : TpmState) (request : Request) : TpmResult Unit := do
  match request.sessions.head? with
  | none => return
  | some input =>
    if input.handle ≠ Rh.rsPw then
      match s.sessions.get input.handle with
      | .error _ => return
      | .ok session =>
        if session.isPolicy ∧ !session.policy.authValueNeeded ∧ !session.policy.passwordNeeded then
          throw (Rc.mode.withSession 1)

def isPinPass (s : TpmState) (handle : UInt32) : Bool :=
  NvStore.isNvHandle handle &&
    match s.nv.get handle with
    | .ok index => index.indexType == Nt.pinPass
    | .error _ => false

def checkSecretNonce (session : Session) (a : Authorization) : TpmResult Unit :=
  if !session.isTrial ∧ !a.nonceTpm.isEmpty ∧ a.nonceTpm.buffer ≠ session.nonceTpm then
    .error (Rc.value.withParameter 1)
  else .ok ()

def secretTicket (s : TpmState) (authHandle : UInt32) (a : Authorization) (authName timeout : Bytes)
    (session : Session) : TpmResult (Ticket × List Mac) :=
  if isPinPass s authHandle then .ok (Ticket.null St.authSecret, [])
  else buildAuthorizationTicket s St.authSecret (s.ticketHierarchy authHandle) a.expiration timeout
    a.cpHashA.buffer a.policyRef.buffer authName session.isTrial (!a.nonceTpm.isEmpty)

def policySecret : PolicyM Reply := do
  let authHandle ← request.handle 0
  let handle ← request.handle 1
  let a ← request.params Authorization.unmarshal
  let authName ← withHandle 1 (s.handleName authHandle)
  checkSecretIndex s authHandle
  checkSecretSession s request
  let session ← s.policySession handle
  checkSecretNonce session a
  let timeout := authorizationTimeout session.startTime a.expiration a.nonceTpm.isEmpty
  checkExpires s session timeout
  let timeout := if isPinPass s authHandle then [] else timeout
  let ticket ← secretTicket s authHandle a authName timeout session
  recordAuthorization handle Cc.policySecret a authName timeout
  ticketResponse timeout ticket

structure TicketUse where
  timeout : Tpm2bTimeout
  cpHashA : Tpm2bDigest
  policyRef : Tpm2bNonce
  authName : Tpm2bName
  ticket : Ticket

def TicketUse.unmarshal : Reader TicketUse := do
  let timeout ← Reader.withParameter 1 Tpm2b.unmarshal
  let cpHashA ← Reader.withParameter 2 Tpm2b.unmarshal
  let policyRef ← Reader.withParameter 3 Tpm2b.unmarshal
  let authName : Tpm2bName ← Reader.withParameter 4 Tpm2b.unmarshal
  liftM (withParameter 4 (checkEntityName authName.buffer))
  let ticket ← Reader.withParameter 5 (Ticket.unmarshalTagged [St.authSigned, St.authSecret])
  return { timeout, cpHashA, policyRef, authName, ticket }

def TicketUse.withNonce (use : TicketUse) : Bool :=
  match use.timeout.buffer with
  | [] => true
  | octet :: _ => octet &&& 0x80 == 0

def validateTicket (s : TpmState) (use : TicketUse) : TpmResult Unit := do
  let reject := Rc.ticket.withParameter 5
  if use.ticket.digest.isEmpty then throw reject
  let mac ← (authorizationTicketMac s use.ticket.hierarchy use.ticket.tag use.cpHashA.buffer
    use.policyRef.buffer use.authName.buffer use.timeout.buffer use.withNonce).mapError fun _ => reject
  let expected ← mac.value.mapError fun _ => reject
  if expected ≠ use.ticket.digest.buffer then throw reject
  match timeoutValue use.timeout.buffer with
  | none => return
  | some expires => if expires < s.clock.time then throw (Rc.expired.withParameter 1)

def checkTicket (s : TpmState) (session : Session) (use : TicketUse) : TpmResult Unit :=
  if session.isTrial then .ok () else validateTicket s use

def policyTicket : PolicyM Response := do
  let handle ← request.handle 0
  let use ← request.params TicketUse.unmarshal
  let session ← s.policySession handle
  checkTicket s session use
  let commandCode := if use.ticket.tag = St.authSigned then Cc.policySigned else Cc.policySecret
  onPolicySession handle do
    checkCpHash (← get) use.cpHashA.buffer
    policyAuthorizationUpdate commandCode use.authName.buffer use.policyRef.buffer
    setCpHash use.cpHashA.buffer
    recordExpiration use.timeout.buffer
  return .empty

def checkBranch (session : Session) (list : List Tpm2bDigest) : TpmResult Unit :=
  if !session.isTrial ∧ !(list.map Tpm2b.buffer).contains session.policy.digest then
    .error (Rc.value.withParameter 1)
  else .ok ()

def policyOr : PolicyM Response := do
  let handle ← request.handle 0
  let list ← request.params (Reader.withParameter 1 TpmlDigest.unmarshal)
  onPolicySession handle do
    checkBranch (← get) list
    clearPolicyDigest
    extendPolicy Cc.policyOr (list.flatMap Tpm2b.buffer)
  return .empty

def checkPcrs (session : Session) (expected digest : Bytes) (counter : UInt32) : TpmResult Unit := do
  if session.isTrial then return
  if !expected.isEmpty ∧ expected ≠ digest then throw (Rc.value.withParameter 1)
  match session.policy.pcrUpdateCounter with
  | some recorded => if recorded ≠ counter then throw Rc.pcrChanged
  | none => pure ()

def policyPcr : PolicyM Response := do
  let handle ← request.handle 0
  let (expected, selection) ← request.params do
    let expected : Tpm2bDigest ← Reader.withParameter 1 Tpm2b.unmarshal
    return (expected.buffer, ← Reader.withParameter 2 TpmlPcrSelection.unmarshal)
  let session ← s.policySession handle
  let filtered := s.pcr.filterSelection selection
  let digest ← s.pcr.selectionDigest session.authHash filtered
  let counter := s.pcr.updateCounter
  onPolicySession handle do
    let session ← get
    checkPcrs session expected digest counter
    let selected := if session.isTrial then selection else filtered
    let shown := if session.isTrial ∧ !expected.isEmpty then expected else digest
    setPolicy fun policy => if session.isTrial then policy else { policy with pcrUpdateCounter := some counter }
    extendPolicy Cc.policyPcr (TpmlPcrSelection.marshal selected ++ shown)
  return .empty

def combineLocality (session : Session) (locality : UInt8) : TpmResult UInt8 := do
  if locality = 0 ∧ !session.isTrial then throw (Rc.range.withParameter 1)
  match session.policy.locality with
  | none => return locality
  | some existing =>
    if existing &&& locality = 0 ∧ !session.isTrial then throw (Rc.range.withParameter 1)
    return existing &&& locality

def policyLocality : PolicyM Response := do
  let handle ← request.handle 0
  let locality : LocalityAttributes ← request.params (Reader.withParameter 1 Flags8.unmarshal)
  onPolicySession handle do
    let combined ← combineLocality (← get) locality.value
    extendPolicy Cc.policyLocality [locality.value]
    setPolicy fun policy => { policy with locality := some combined }
  return .empty

def checkCommandCode (session : Session) (code : UInt32) : TpmResult Unit := do
  if session.isTrial then return
  if (Table.lookup code).isNone then throw (Rc.value.withParameter 1)
  match session.policy.commandCode with
  | some existing => if existing ≠ code then throw (Rc.value.withParameter 1)
  | none => pure ()

def policyCommandCode : PolicyM Response := do
  let handle ← request.handle 0
  let code ← request.params (Reader.withParameter 1 u32)
  onPolicySession handle do
    checkCommandCode (← get) code
    extendPolicy Cc.policyCommandCode (be32 code)
    setPolicy fun policy => { policy with commandCode := some code }
  return .empty

def policyPhysicalPresence : PolicyM Response := do
  let handle ← request.handle 0
  onPolicySession handle do
    extendPolicy Cc.policyPhysicalPresence []
    setPolicy fun policy => { policy with physicalPresenceRequired := true }
  return .notReading request []

-- The source keeps cpHash, nameHash, pHash and templateHash apart, and has each refuse where another is recorded.
def checkHashFree (session : Session) (digest : Bytes) : TpmResult Unit := do
  checkPolicyDigestSize session digest 1
  if sharedCpHashTaken session then throw Rc.cphash

def checkNewCpHash (session : Session) (cpHashA : Bytes) : TpmResult Unit := do
  checkPolicyDigestSize session cpHashA 1
  if sharedCpHashTaken session ∧ session.policy.cpHash ≠ some cpHashA then throw Rc.cphash

def policyCpHash : PolicyM Response := do
  let handle ← request.handle 0
  let cpHashA : Tpm2bDigest ← request.params (Reader.withParameter 1 Tpm2b.unmarshal)
  onPolicySession handle do
    checkNewCpHash (← get) cpHashA.buffer
    extendPolicy Cc.policyCpHash cpHashA.buffer
    setPolicy fun policy => { policy with cpHash := some cpHashA.buffer }
  return .empty

def policyNameHash : PolicyM Response := do
  let handle ← request.handle 0
  let nameHash : Tpm2bDigest ← request.params (Reader.withParameter 1 Tpm2b.unmarshal)
  onPolicySession handle do
    checkHashFree (← get) nameHash.buffer
    extendPolicy Cc.policyNameHash nameHash.buffer
    setPolicy fun policy => { policy with nameHash := some nameHash.buffer }
  return .empty

def policyAuthValue : PolicyM Response := do
  let handle ← request.handle 0
  onPolicySession handle do
    extendPolicy Cc.policyAuthValue []
    setPolicy fun policy => { policy with authValueNeeded := true, passwordNeeded := false }
  return .notReading request []

def policyPassword : PolicyM Response := do
  let handle ← request.handle 0
  onPolicySession handle do
    extendPolicy Cc.policyAuthValue []
    setPolicy fun policy => { policy with passwordNeeded := true, authValueNeeded := false }
  return .notReading request []

def policyGetDigest : TpmResult Response := do
  let handle ← request.handle 0
  let session ← s.policySession handle
  let digest : Tpm2bDigest ← Tpm2b.new session.policy.digest
  return .notReading request digest.marshal

def checkWritten (session : Session) (written : Bool) : TpmResult Unit :=
  match session.policy.nvWritten with
  | some existing => if existing ≠ written ∧ !session.isTrial then .error (Rc.value.withParameter 1) else .ok ()
  | none => .ok ()

def policyNvWritten : PolicyM Response := do
  let handle ← request.handle 0
  let written ← request.params (readSwitch 1)
  onPolicySession handle do
    checkWritten (← get) written
    extendPolicy Cc.policyNvWritten (beBool written)
    setPolicy fun policy => { policy with nvWritten := some written }
  return .empty

def checkTemplate (session : Session) (templateHash : Bytes) : TpmResult Unit := do
  checkPolicyDigestSize session templateHash 1
  match session.policy.templateHash with
  | some existing => if existing ≠ templateHash ∧ !session.isTrial then throw (Rc.value.withParameter 1)
  | none => if sharedCpHashTaken session then throw Rc.cphash

def policyTemplate : PolicyM Response := do
  let handle ← request.handle 0
  let templateHash : Tpm2bDigest ← request.params (Reader.withParameter 1 Tpm2b.unmarshal)
  onPolicySession handle do
    checkTemplate (← get) templateHash.buffer
    extendPolicy Cc.policyTemplate templateHash.buffer
    setPolicy fun policy => { policy with templateHash := some templateHash.buffer }
  return .empty

def checkCounterTimer (s : TpmState) (session : Session) (c : Comparison) : TpmResult Unit := do
  if session.isTrial then return
  let octets := TimeInfo.marshal ⟨s.clock.time, s.clockInfo⟩
  let start := c.offset.toNat
  if octets.length < start then throw (Rc.value.withParameter 2)
  if octets.length < start + c.operandB.buffer.length then throw (Rc.range.withParameter 2)
  c.holds ((octets.drop start).take c.operandB.buffer.length)

def checkOperation (operation : UInt16) : TpmResult Unit :=
  if !isOperation operation then .error (Rc.value.withParameter 3) else .ok ()

def policyCounterTimer : PolicyM Response := do
  let handle ← request.handle 0
  let c ← request.params Comparison.unmarshal
  checkOperation c.operation
  let session ← s.policySession handle
  checkCounterTimer s session c
  let args ← Hash.digestParts session.authHash c.args
  onPolicySession handle (extendPolicy Cc.policyCounterTimer args)
  return .empty

structure Approval where
  approvedPolicy : Tpm2bDigest
  policyRef : Tpm2bNonce
  keySign : Tpm2bName
  checkTicket : VerifiedTicket

def Approval.unmarshal : Reader Approval := do
  let approvedPolicy ← Reader.withParameter 1 Tpm2b.unmarshal
  let policyRef ← Reader.withParameter 2 Tpm2b.unmarshal
  let keySign ← Reader.withParameter 3 Tpm2b.unmarshal
  return ⟨approvedPolicy, policyRef, keySign, ← Reader.withParameter 4 VerifiedTicket.unmarshal⟩

def Approval.nameAlg (approval : Approval) : UInt16 := UInt16.ofNat (beNat (approval.keySign.buffer.take 2))

def Approval.checkName (approval : Approval) : TpmResult Unit := do
  if approval.keySign.buffer.length < 2 then throw (Rc.size.withParameter 3)
  let size ← (Hash.digestSize approval.nameAlg).mapError fun _ => Rc.hash.withParameter 3
  if approval.keySign.buffer.length ≠ 2 + size then throw (Rc.size.withParameter 3)

def Approval.toBeSigned (approval : Approval) : Bytes := approval.approvedPolicy.buffer ++ approval.policyRef.buffer

def Approval.signed (approval : Approval) : TpmResult Bytes :=
  if approval.checkTicket.tag = St.messageVerified then .ok approval.toBeSigned
  else if approval.checkTicket.tag = St.digestVerified then
    match approval.checkTicket.digestAlg with
    | none => .error Rc.policy
    | some digestAlg => Hash.digest digestAlg approval.toBeSigned
  else Hash.digest approval.nameAlg approval.toBeSigned

def Approval.check (s : TpmState) (approval : Approval) (session : Session) : TpmResult Unit := do
  if session.isTrial then return
  if session.policy.digest ≠ approval.approvedPolicy.buffer then throw (Rc.value.withParameter 1)
  if approval.checkTicket.hmac.isEmpty then throw Rc.policy
  let signed ← approval.signed
  let proof ← (s.hierarchyProof approval.checkTicket.hierarchy).mapError fun _ => Rc.policy
  let expected ← verifiedTicketHmac proof approval.checkTicket.tag signed approval.keySign.buffer
    approval.checkTicket.digestAlg
  if expected ≠ approval.checkTicket.hmac.buffer then throw Rc.policy

def policyAuthorize : PolicyM Response := do
  let handle ← request.handle 0
  let approval ← request.params Approval.unmarshal
  approval.checkName
  let session ← s.policySession handle
  approval.check s session
  onPolicySession handle do
    clearPolicyDigest
    policyAuthorizationUpdate Cc.policyAuthorize approval.keySign.buffer approval.policyRef.buffer
  return .empty

def checkSharedFree (session : Session) : TpmResult Unit :=
  if sharedCpHashTaken session then .error Rc.cphash else .ok ()

def policyDuplicationSelect : PolicyM Response := do
  let handle ← request.handle 0
  let (objectName, newParentName, includeObject) ← request.params do
    let objectName : Tpm2bName ← Reader.withParameter 1 Tpm2b.unmarshal
    let newParentName : Tpm2bName ← Reader.withParameter 2 Tpm2b.unmarshal
    liftM (withParameter 1 (checkEntityName objectName.buffer))
    liftM (withParameter 2 (checkEntityName newParentName.buffer))
    return (objectName.buffer, newParentName.buffer, ← readSwitch 3)
  let session ← s.policySession handle
  let nameHash ← Hash.digestParts session.authHash [objectName, newParentName]
  onPolicySession handle do
    checkSharedFree (← get)
    extendPolicy Cc.policyDuplicationSelect
      ((if includeObject then objectName else []) ++ newParentName ++ beBool includeObject)
    setPolicy fun policy => { policy with nameHash := some nameHash, commandCode := some Cc.duplicate }
  return .empty

def readableIndex (s : TpmState) (request : Request) : TpmResult NvIndex := do
  let nvHandle ← request.handle 1
  let authHandle ← request.handle 0
  let index ← s.indexAt nvHandle 2
  checkReadAuthority index authHandle (s.authIsPolicy request 0)
  return index

def checkNv (session : Session) (index : NvIndex) (c : Comparison) : TpmResult Unit := do
  if session.isTrial then return
  if index.readLocked then throw Rc.nvLocked
  c.holds (← index.read c.offset (UInt16.ofNat c.operandB.buffer.length))

def policyNv : PolicyM Response := do
  let _ ← request.handle 1
  let handle ← request.handle 2
  let c ← request.params Comparison.unmarshal
  checkOperation c.operation
  let index ← readableIndex s request
  let nvName ← index.name
  let session ← s.policySession handle
  checkNv session index c
  let args ← Hash.digestParts session.authHash c.args
  onPolicySession handle (extendPolicy Cc.policyNv (args ++ nvName))
  return .empty

def checkStoredPolicy (session : Session) (index : NvIndex) : TpmResult Unit := do
  if session.isTrial then return
  if index.readLocked then throw Rc.nvLocked
  let stored ← index.read 0 index.area.dataSize
  let (ha, _) ← TpmtHa.unmarshal.run stored
  if ha.hashAlg ≠ session.authHash ∨ ha.digest ≠ session.policy.digest then throw (Rc.value.withHandle 2)

def policyAuthorizeNv : PolicyM Response := do
  let _ ← request.handle 1
  let handle ← request.handle 2
  let index ← readableIndex s request
  let nvName ← index.name
  let session ← s.policySession handle
  checkStoredPolicy session index
  onPolicySession handle do
    clearPolicyDigest
    extendPolicy Cc.policyAuthorizeNv nvName
  return .notReading request []

def capabilityHolds (s : TpmState) (session : Session) (c : Comparison) (capability property : UInt32) :
    TpmResult Unit := do
  if session.isTrial then return
  match ← s.capabilityProperty capability property with
  | some octets =>
    let start := c.offset.toNat
    if octets.length < start + c.operandB.buffer.length then throw (Rc.value.withParameter 2)
    c.holds ((octets.drop start).take c.operandB.buffer.length)
  | none => if c.operation ≠ Eo.neq then throw Rc.policy

def checkCapability (capability : UInt32) : TpmResult Unit :=
  if !isCapability capability then .error (Rc.value.withParameter 4) else .ok ()

def policyCapability : PolicyM Response := do
  let handle ← request.handle 0
  let (c, capability, property) ← request.params do
    let c ← Comparison.unmarshal
    let capability ← Reader.withParameter 4 u32
    return (c, capability, ← Reader.withParameter 5 u32)
  checkOperation c.operation
  checkCapability capability
  let session ← s.policySession handle
  capabilityHolds s session c capability property
  let args ← Hash.digestParts session.authHash (c.args ++ [be32 capability, be32 property])
  onPolicySession handle (extendPolicy Cc.policyCapability args)
  return .empty

def policyParameters : PolicyM Response := do
  let handle ← request.handle 0
  let pHash : Tpm2bDigest ← request.params (Reader.withParameter 1 Tpm2b.unmarshal)
  onPolicySession handle do
    checkHashFree (← get) pHash.buffer
    extendPolicy Cc.policyParameters pHash.buffer
    setPolicy fun policy => { policy with parametersHash := some pHash.buffer }
  return .empty

def checkChannelFree (session : Session) : TpmResult Unit :=
  if session.policy.secureChannelRequired ∧ !session.isTrial then .error Rc.value else .ok ()

def channelKeyHash (session : Session) (reqKeyName tpmKeyName : Tpm2bName) : TpmResult (Option Bytes) :=
  if reqKeyName.isEmpty ∧ tpmKeyName.isEmpty then .ok none
  else some <$> Hash.digest session.authHash (reqKeyName.marshal ++ tpmKeyName.marshal)

def policyTransportSpdm : PolicyM Response := do
  let handle ← request.handle 0
  let (reqKeyName, tpmKeyName) ← request.params do
    let reqKeyName : Tpm2bName ← Reader.withParameter 1 Tpm2b.unmarshal
    let tpmKeyName : Tpm2bName ← Reader.withParameter 2 Tpm2b.unmarshal
    return (reqKeyName, tpmKeyName)
  withParameter 1 (checkKeyName reqKeyName.buffer)
  withParameter 2 (checkKeyName tpmKeyName.buffer)
  onPolicySession handle do
    let session ← get
    checkChannelFree session
    let keyHash ← channelKeyHash session reqKeyName tpmKeyName
    extendPolicy Cc.policyTransportSpdm (keyHash.getD [])
    setPolicy fun policy => { policy with secureChannelRequired := true, secureChannelKeyHash := keyHash }
  return .empty

def policyAcSendSelect : PolicyM Response := do
  let handle ← request.handle 0
  let (objectName, authHandleName, acName, includeObject) ← request.params do
    let objectName : Tpm2bName ← Reader.withParameter 1 Tpm2b.unmarshal
    let authHandleName : Tpm2bName ← Reader.withParameter 2 Tpm2b.unmarshal
    let acName : Tpm2bName ← Reader.withParameter 3 Tpm2b.unmarshal
    liftM (withParameter 1 (checkEntityName objectName.buffer))
    liftM (withParameter 2 (checkEntityName authHandleName.buffer))
    liftM (withParameter 3 (checkEntityName acName.buffer))
    return (objectName.buffer, authHandleName.buffer, acName.buffer, ← readSwitch 4)
  onPolicySession handle do
    let session ← get
    checkSharedFree session
    extendPolicy Cc.policyAcSendSelect
      ((if includeObject then objectName else []) ++ authHandleName ++ acName ++ beBool includeObject)
    let nameHash ← Hash.digest session.authHash (objectName ++ authHandleName ++ acName)
    setPolicy fun policy => { policy with nameHash := some nameHash, commandCode := some Cc.acSend }
  return .empty

end

end Swtrust
