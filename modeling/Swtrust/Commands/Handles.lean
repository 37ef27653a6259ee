import Swtrust.Core.Nv
import Swtrust.Core.Object
import Swtrust.Core.Session

set_option autoImplicit false

namespace Swtrust.Handles

inductive Kind where
  | object | parent | entity | pcr | context | persistent | policySession | hmacSession | authSession | nvIndex
  | nvAuth | act | platform | owner | endorsement | provision | clear | lockout | hierarchy | hierarchyAuth
  | hierarchyPolicy | baseHierarchy
  deriving DecidableEq

inductive Role where
  | none | user | admin | dup
  deriving DecidableEq

inductive NvAccess where
  | read | write
  deriving DecidableEq

structure Handle where
  kind : Kind
  nullable : Bool
  deriving DecidableEq

def req (kind : Kind) : Handle := ⟨kind, false⟩

def opt (kind : Kind) : Handle := ⟨kind, true⟩

abbrev Row := UInt32 × List Handle × List Role

def rows : List Row := [
  (Cc.actSetTimeout, [req .act], [.user]),
  (Cc.activateCredential, [req .object, req .object], [.admin, .user]),
  (Cc.certify, [req .object, opt .object], [.admin, .user]),
  (Cc.certifyX509, [req .object, opt .object], [.admin, .user]),
  (Cc.certifyCreation, [opt .object, req .object], [.user, .none]),
  (Cc.changeEps, [req .platform], [.user]),
  (Cc.changePps, [req .platform], [.user]),
  (Cc.clear, [req .clear], [.user]),
  (Cc.clearControl, [req .clear], [.user]),
  (Cc.clockRateAdjust, [req .provision], [.user]),
  (Cc.setCapability, [opt .hierarchyAuth], [.user]),
  (Cc.clockSet, [req .provision], [.user]),
  (Cc.commit, [req .object], [.user]),
  (Cc.contextSave, [req .context], [.none]),
  (Cc.create, [req .object], [.user]),
  (Cc.createLoaded, [req .parent], [.user]),
  (Cc.createPrimary, [req .hierarchy], [.user]),
  (Cc.decapsulate, [req .object], [.user]),
  (Cc.dictionaryAttackLockReset, [req .lockout], [.user]),
  (Cc.dictionaryAttackParameters, [req .lockout], [.user]),
  (Cc.duplicate, [req .object, opt .object], [.dup, .none]),
  (Cc.eccDecrypt, [req .object], [.user]),
  (Cc.eccEncrypt, [req .object], [.none]),
  (Cc.ecdhKeyGen, [req .object], [.none]),
  (Cc.ecdhZGen, [req .object], [.user]),
  (Cc.encapsulate, [req .object], [.none]),
  (Cc.encryptDecrypt, [req .object], [.user]),
  (Cc.encryptDecrypt2, [req .object], [.user]),
  (Cc.eventSequenceComplete, [opt .pcr, req .object], [.user, .user]),
  (Cc.evictControl, [req .provision, req .object], [.user, .none]),
  (Cc.getCommandAuditDigest, [req .endorsement, opt .object], [.user, .user]),
  (Cc.getSessionAuditDigest, [req .endorsement, opt .object, req .hmacSession], [.user, .user, .none]),
  (Cc.getTime, [req .endorsement, opt .object], [.user, .user]),
  (Cc.hmac, [req .object], [.user]),
  (Cc.hmacStart, [req .object], [.user]),
  (Cc.hierarchyChangeAuth, [req .hierarchyAuth], [.user]),
  (Cc.hierarchyControl, [req .baseHierarchy], [.user]),
  (Cc.importObject, [req .object], [.user]),
  (Cc.load, [req .object], [.user]),
  (Cc.mac, [req .object], [.user]),
  (Cc.macStart, [req .object], [.user]),
  (Cc.makeCredential, [req .object], [.none]),
  (Cc.nvCertify, [opt .object, req .nvAuth, req .nvIndex], [.user, .user, .none]),
  (Cc.nvChangeAuth, [req .nvIndex], [.admin]),
  (Cc.nvDefineSpace, [req .provision], [.user]),
  (Cc.nvDefineSpace2, [req .provision], [.user]),
  (Cc.nvExtend, [req .nvAuth, req .nvIndex], [.user, .none]),
  (Cc.nvGlobalWriteLock, [req .provision], [.user]),
  (Cc.nvIncrement, [req .nvAuth, req .nvIndex], [.user, .none]),
  (Cc.nvRead, [req .nvAuth, req .nvIndex], [.user, .none]),
  (Cc.nvReadLock, [req .nvAuth, req .nvIndex], [.user, .none]),
  (Cc.nvReadPublic, [req .nvIndex], [.none]),
  (Cc.nvReadPublic2, [req .nvIndex], [.none]),
  (Cc.nvSetBits, [req .nvAuth, req .nvIndex], [.user, .none]),
  (Cc.nvUndefineSpace, [req .provision, req .nvIndex], [.user, .none]),
  (Cc.nvUndefineSpaceSpecial, [req .nvIndex, req .platform], [.admin, .user]),
  (Cc.nvWrite, [req .nvAuth, req .nvIndex], [.user, .none]),
  (Cc.nvWriteLock, [req .nvAuth, req .nvIndex], [.user, .none]),
  (Cc.objectChangeAuth, [req .object, req .object], [.admin, .none]),
  (Cc.pcrAllocate, [req .platform], [.user]),
  (Cc.pcrEvent, [opt .pcr], [.user]),
  (Cc.pcrExtend, [opt .pcr], [.user]),
  (Cc.pcrReset, [req .pcr], [.user]),
  (Cc.pcrSetAuthPolicy, [req .platform], [.user]),
  (Cc.pcrSetAuthValue, [req .pcr], [.user]),
  (Cc.ppCommands, [req .platform], [.user]),
  (Cc.policyAuthValue, [req .policySession], [.none]),
  (Cc.policyAuthorize, [req .policySession], [.none]),
  (Cc.policyAuthorizeNv, [req .nvAuth, req .nvIndex, req .policySession], [.user, .none, .none]),
  (Cc.policyCapability, [req .policySession], [.none]),
  (Cc.policyCommandCode, [req .policySession], [.none]),
  (Cc.policyCounterTimer, [req .policySession], [.none]),
  (Cc.policyCpHash, [req .policySession], [.none]),
  (Cc.policyDuplicationSelect, [req .policySession], [.none]),
  (Cc.policyGetDigest, [req .policySession], [.none]),
  (Cc.policyLocality, [req .policySession], [.none]),
  (Cc.policyNv, [req .nvAuth, req .nvIndex, req .policySession], [.user, .none, .none]),
  (Cc.policyNameHash, [req .policySession], [.none]),
  (Cc.policyNvWritten, [req .policySession], [.none]),
  (Cc.policyOr, [req .policySession], [.none]),
  (Cc.policyPcr, [req .policySession], [.none]),
  (Cc.policyParameters, [req .policySession], [.none]),
  (Cc.policyPassword, [req .policySession], [.none]),
  (Cc.policyPhysicalPresence, [req .policySession], [.none]),
  (Cc.policyRestart, [req .policySession], [.none]),
  (Cc.policySecret, [req .entity, req .policySession], [.user, .none]),
  (Cc.policySigned, [req .object, req .policySession], [.none, .none]),
  (Cc.policyTemplate, [req .policySession], [.none]),
  (Cc.policyTicket, [req .policySession], [.none]),
  (Cc.policyTransportSpdm, [req .policySession], [.none]),
  (Cc.policyAcSendSelect, [req .policySession], [.none]),
  (Cc.quote, [opt .object], [.user]),
  (Cc.rsaDecrypt, [req .object], [.user]),
  (Cc.rsaEncrypt, [req .object], [.none]),
  (Cc.readOnlyControl, [req .platform], [.user]),
  (Cc.readPublic, [req .object], [.none]),
  (Cc.rewrap, [opt .object, opt .object], [.user, .none]),
  (Cc.sequenceComplete, [req .object], [.user]),
  (Cc.sequenceUpdate, [req .object], [.user]),
  (Cc.setAlgorithmSet, [req .platform], [.user]),
  (Cc.setPrimaryPolicy, [req .hierarchyPolicy], [.user]),
  (Cc.setCommandCodeAuditStatus, [req .provision], [.user]),
  (Cc.sign, [req .object], [.user]),
  (Cc.signDigest, [req .object], [.user]),
  (Cc.signSequenceComplete, [req .object, req .object], [.user, .user]),
  (Cc.signSequenceStart, [req .object], [.none]),
  (Cc.startAuthSession, [opt .object, opt .entity], [.none, .none]),
  (Cc.unsealData, [req .object], [.user]),
  (Cc.verifyDigestSignature, [req .object], [.none]),
  (Cc.verifySequenceComplete, [req .object, req .object], [.user, .none]),
  (Cc.verifySequenceStart, [req .object], [.none]),
  (Cc.verifySignature, [req .object], [.none]),
  (Cc.zGen2Phase, [req .object], [.user])]

def row (code : UInt32) : Option Row := rows.find? (·.1 == code)

def kind (code : UInt32) (index : Nat) : Option Handle := (row code).bind fun r => r.2.1[index]?

def role (code : UInt32) (index : Nat) : Role := ((row code).bind fun r => r.2.2[index]?).getD .user

def nvAccess (code : UInt32) : Option NvAccess :=
  if ([Cc.nvWrite, Cc.nvIncrement, Cc.nvExtend, Cc.nvSetBits, Cc.nvWriteLock] : List UInt32).contains code then
    some .write
  else if ([Cc.nvRead, Cc.nvReadLock, Cc.nvCertify, Cc.policyNv, Cc.policyAuthorizeNv, Cc.policySecret] :
      List UInt32).contains code then
    some .read
  else Option.none

def nvIndexHandle (code : UInt32) : Option Nat :=
  if code = Cc.nvCertify then some 2 else if code = Cc.policySecret then Option.none else some 1

def takesNoParameters (code : UInt32) : Bool :=
  ([Cc.changeEps, Cc.changePps, Cc.clear, Cc.contextSave, Cc.dictionaryAttackLockReset, Cc.ecdhKeyGen,
    Cc.encapsulate, Cc.getTestResult, Cc.nvGlobalWriteLock, Cc.nvIncrement, Cc.nvReadLock, Cc.nvReadPublic,
    Cc.nvReadPublic2, Cc.nvUndefineSpace, Cc.nvUndefineSpaceSpecial, Cc.nvWriteLock, Cc.pcrReset,
    Cc.policyAuthValue, Cc.policyAuthorizeNv, Cc.policyGetDigest, Cc.policyPassword, Cc.policyPhysicalPresence,
    Cc.policyRestart, Cc.readClock, Cc.readPublic, Cc.unsealData] : List UInt32).contains code

def isHierarchyHandle (handle : UInt32) : Bool :=
  ([Rh.owner, Rh.platform, Rh.endorsement] : List UInt32).contains handle

def isPersistent (handle : UInt32) : Bool := Hierarchies.inRange Hc.persistentFirst Hc.persistentLast handle

def isPcr (handle : UInt32) : Bool := Hierarchies.inRange Hc.pcrFirst Hc.pcrLast handle

def isAct (handle : UInt32) : Bool := Hierarchies.inRange Rh.act_0 Rh.actF handle

def isObject (handle : UInt32) : Bool := ObjectSlots.isTransient handle || isPersistent handle

def kindAllows (handle : UInt32) : Kind → Bool
  | .object => isObject handle
  | .persistent => isPersistent handle
  | .parent => isObject handle || isHierarchyHandle handle || handle == Rh.null || Hierarchies.isLimited handle
  | .entity =>
      isObject handle || NvStore.isNvHandle handle || isPcr handle || isHierarchyHandle handle || handle == Rh.lockout
  | .pcr => isPcr handle
  | .act => isAct handle
  | .context => isSessionHandle handle || ObjectSlots.isTransient handle
  | .policySession => handle >>> 24 == Hc.policySessionFirst >>> 24
  | .hmacSession => handle >>> 24 == Hc.hmacSessionFirst >>> 24
  | .authSession => isSessionHandle handle || handle == Rh.rsPw
  | .nvIndex => NvStore.isNvHandle handle
  | .nvAuth => handle == Rh.platform || handle == Rh.owner || NvStore.isNvHandle handle
  | .platform => handle == Rh.platform
  | .owner => handle == Rh.owner
  | .endorsement => handle == Rh.endorsement
  | .provision => handle == Rh.owner || handle == Rh.platform
  | .clear => handle == Rh.lockout || handle == Rh.platform
  | .lockout => handle == Rh.lockout
  | .hierarchy => isHierarchyHandle handle || handle == Rh.null || Hierarchies.isLimited handle
  | .hierarchyAuth => isHierarchyHandle handle || handle == Rh.lockout
  | .hierarchyPolicy => isHierarchyHandle handle || handle == Rh.lockout || isAct handle
  | .baseHierarchy => isHierarchyHandle handle

def allows (spec : Handle) (handle : UInt32) : Bool :=
  (spec.nullable && handle == Rh.null) || kindAllows handle spec.kind

end Swtrust.Handles
