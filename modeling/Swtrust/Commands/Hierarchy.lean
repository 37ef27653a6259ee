import Swtrust.Commands.Attest

set_option autoImplicit false

namespace Swtrust

open Library

-- What the commands that administer the hierarchies may change.
structure AdminScope where
  hierarchies : Hierarchies
  rng : Drbg
  objects : ObjectSlots
  persistent : SortedMap UInt32 Object
  permanent : PermanentAttributes
  lockoutAuth : Bytes
  lockoutPolicy : TpmtHa
  actPolicy : TpmtHa
  pcrPolicy : TpmtHa
  ppCommands : List UInt32
  algorithmSet : UInt32
  deriving DecidableEq

namespace TpmState

def admin (s : TpmState) : AdminScope := {
  hierarchies := s.hierarchies
  rng := s.rng
  objects := s.objects
  persistent := s.persistent
  permanent := s.permanent
  lockoutAuth := s.lockoutAuth
  lockoutPolicy := s.lockoutPolicy
  actPolicy := s.act.policy
  pcrPolicy := s.pcrPolicy
  ppCommands := s.ppCommands
  algorithmSet := s.algorithmSet }

def putAdmin (s : TpmState) (t : AdminScope) : TpmState := { s with
  hierarchies := t.hierarchies
  rng := t.rng
  objects := t.objects
  persistent := t.persistent
  permanent := t.permanent
  lockoutAuth := t.lockoutAuth
  lockoutPolicy := t.lockoutPolicy
  act := { s.act with policy := t.actPolicy }
  pcrPolicy := t.pcrPolicy
  ppCommands := t.ppCommands
  algorithmSet := t.algorithmSet }

def zoomAdmin {α : Type} : Action TpmRc AdminScope α → TpmM α := Action.zoom admin fun t s => s.putAdmin t

end TpmState

abbrev AdminM := Action TpmRc AdminScope

def yesNo (value : UInt8) : TpmResult Bool :=
  if value = 0 then .ok false else if value = 1 then .ok true else .error Rc.value

def readYesNo (parameter : Nat) : Reader Bool := Reader.withParameter parameter do
  let value ← u8
  yesNo value

def enableHierarchy (handle : UInt32) (enabled : Bool) (t : AdminScope) : AdminScope :=
  match t.hierarchies.get handle with
  | .error _ => t
  | .ok h => { t with
      hierarchies := t.hierarchies.set handle { h with enabled }
      objects := if enabled then t.objects else t.objects.flushHierarchy handle }

def isPpEligible (code : UInt32) : Bool :=
  (Table.lookup code).isSome && ([
    Cc.createLoaded, Cc.setCommandCodeAuditStatus, Cc.pcrAllocate, Cc.pcrSetAuthPolicy, Cc.createPrimary,
    Cc.hierarchyControl, Cc.setPrimaryPolicy, Cc.changePps, Cc.changeEps, Cc.clear, Cc.clearControl,
    Cc.hierarchyChangeAuth, Cc.readOnlyControl, Cc.fieldUpgradeStart, Cc.evictControl, Cc.clockSet,
    Cc.clockRateAdjust, Cc.setCapability, Cc.nvDefineSpace, Cc.nvDefineSpace2, Cc.nvUndefineSpace,
    Cc.nvUndefineSpaceSpecial, Cc.nvGlobalWriteLock] : List UInt32).contains code

def addPpCommands (codes commands : List UInt32) : List UInt32 :=
  codes.foldl (fun commands code =>
    if !isPpEligible code ∨ commands.contains code then commands else commands ++ [code]) commands

def authSetBit (handle : UInt32) : Option UInt32 :=
  if handle = Rh.owner then some PermanentAttributes.ownerAuthSet
  else if handle = Rh.endorsement then some PermanentAttributes.endorsementAuthSet
  else if handle = Rh.lockout then some PermanentAttributes.lockoutAuthSet
  else none

def isAdministered (handle : UInt32) : Bool := ([Rh.platform, Rh.owner, Rh.endorsement] : List UInt32).contains handle

section

variable [Primitives]

def platformScope : Action TpmRc (Hierarchy × Drbg) Unit → AdminM Unit :=
  Action.zoom (fun t => (t.hierarchies.platform, t.rng)) fun h t =>
    { t with hierarchies := { t.hierarchies with platform := h.1 }, rng := h.2 }

def endorsementScope : Action TpmRc (Hierarchy × Drbg) Unit → AdminM Unit :=
  Action.zoom (fun t => (t.hierarchies.endorsement, t.rng)) fun h t =>
    { t with hierarchies := { t.hierarchies with endorsement := h.1 }, rng := h.2 }

section

variable (request : Request)

def hierarchyControl : AdminM Response := do
  let authHandle ← request.handle 0
  let (enable, newState) ← request.params do
    let enable ← Reader.withParameter 1 u32
    return (enable, ← readYesNo 2)
  if (enable = Rh.platform ∨ enable = Rh.platformNv ∨ newState) ∧ authHandle ≠ Rh.platform then
    throw (Rc.authType.withHandle 1)
  if enable = Rh.platform then
    modify (enableHierarchy Rh.platform newState)
  else if enable = Rh.owner ∨ enable = Rh.endorsement then
    if authHandle ≠ Rh.platform ∧ authHandle ≠ enable then throw (Rc.authType.withHandle 1)
    modify (enableHierarchy enable newState)
  else if enable = Rh.platformNv then
    modify fun t => { t with hierarchies := { t.hierarchies with platformNvEnabled := newState } }
  else throw (Rc.value.withParameter 1)
  return .empty

def checkPrimaryPolicy (policy : Bytes) (hashAlg : UInt16) : TpmResult Unit := do
  if hashAlg = Alg.null then
    if !policy.isEmpty then throw (Rc.size.withParameter 1)
  else
    match Hash.digestSize hashAlg with
    | .error _ => throw (Rc.hash.withParameter 2)
    | .ok size => if policy.length ≠ size then throw (Rc.size.withParameter 1)

def setPrimaryPolicy : AdminM Response := do
  let authHandle ← request.handle 0
  let (policy, hashAlg) ← request.params do
    let policy : Tpm2bDigest ← Reader.withParameter 1 Tpm2b.unmarshal
    return (policy.buffer, ← Reader.withParameter 2 u16)
  checkPrimaryPolicy policy hashAlg
  let value ← TpmtHa.new hashAlg policy
  if authHandle = Rh.lockout then modify fun t => { t with lockoutPolicy := value }
  else if isAdministered authHandle then
    let h ← (← get).hierarchies.get authHandle
    modify fun t => { t with hierarchies := t.hierarchies.set authHandle { h with policy := value } }
  else if authHandle = Rh.act_0 then modify fun t => { t with actPolicy := value }
  else throw (Rc.value.withHandle 1)
  return .empty

def changePps : AdminM Response := do
  platformScope Hierarchy.regenerate
  modify fun t => { t with
    hierarchies := { t.hierarchies with platform := { t.hierarchies.platform with policy := TpmtHa.null } }
    objects := t.objects.flushHierarchy Rh.platform
    persistent := t.persistent.retain fun handle _ => decide (handle < Hc.platformPersistent)
    pcrPolicy := TpmtHa.null }
  return .notReading request []

def changeEps : AdminM Response := do
  endorsementScope Hierarchy.regenerate
  modify fun t => { t with
    hierarchies := { t.hierarchies with
      endorsement := { t.hierarchies.endorsement.clearAuthorization with enabled := true } }
    objects := t.objects.flushHierarchy Rh.endorsement
    persistent := t.persistent.retain fun _ object => object.hierarchy != Rh.endorsement
    permanent := t.permanent.withMask PermanentAttributes.tpmGeneratedEps }
  return .notReading request []

def clearControl : AdminM Response := do
  let authHandle ← request.handle 0
  let disable ← request.params (readYesNo 1)
  if !disable ∧ authHandle ≠ Rh.platform then throw (Rc.authType.withHandle 1)
  modify fun t => { t with permanent := t.permanent.setTo PermanentAttributes.disableClear disable }
  return .empty

def hierarchyChangeAuth : AdminM Response := do
  let authHandle ← request.handle 0
  let newAuth : Tpm2bDigest ← request.params (Reader.withParameter 1 Tpm2b.unmarshal)
  if Config.maxDigestSize < newAuth.buffer.length then throw (Rc.size.withParameter 1)
  if authHandle = Rh.lockout then modify fun t => { t with lockoutAuth := newAuth.buffer }
  else if isAdministered authHandle then
    let h ← (← get).hierarchies.get authHandle
    modify fun t => { t with hierarchies := t.hierarchies.set authHandle { h with auth := newAuth.buffer } }
  else throw (Rc.value.withHandle 1)
  match authSetBit authHandle with
  | some bit => modify fun t => { t with permanent := t.permanent.withMask bit }
  | none => pure ()
  return .empty

def ppCommands : AdminM Response := do
  let (setList, clearList) ← request.params do
    let setList ← unmarshalCodes.withParameter 1
    return (setList, ← unmarshalCodes.withParameter 2)
  modify fun t =>
    let commands := (addPpCommands setList t.ppCommands).filter fun code => !clearList.contains code
    { t with ppCommands := commands.insertionSort (· ≤ ·) }
  return .empty

def setAlgorithmSet : AdminM Response := do
  let algorithmSet ← request.params (Reader.withParameter 1 u32)
  if algorithmSet ≠ Config.algorithmSet then throw (Rc.value.withParameter 1)
  modify fun t => { t with algorithmSet }
  return .empty

def dictionaryAttackLockReset : Action TpmRc LockoutState Response := do
  modify fun lockout => { lockout with failedTries := 0, nextRecovery := 0, inLockout := false, lockoutUntil := 0 }
  return .notReading request []

def dictionaryAttackParameters : Action TpmRc LockoutState Response := do
  let (maxTries, recoveryTime, lockoutRecovery) ← request.params do
    let maxTries ← Reader.withParameter 1 u32
    let recoveryTime ← Reader.withParameter 2 u32
    return (maxTries, recoveryTime, ← Reader.withParameter 3 u32)
  modify fun lockout => { lockout with maxTries, recoveryTime, lockoutRecovery }
  return .empty

def readOnlyControl : Action TpmRc StartupClearAttributes Response := do
  let readOnly ← request.params (readYesNo 1)
  modify fun word => word.setTo StartupClearAttributes.readOnly readOnly
  return .empty

end

-- The only command of the group that also changes the lockout, the clock and the indices.
def clear (request : Request) : TpmM Response := do
  if (← get).permanent.has PermanentAttributes.disableClear then throw Rc.disabled
  TpmState.onClear
  modify fun s => { s with lockoutAuth := [], lockoutPolicy := TpmtHa.null }
  return .notReading request []

end

end Swtrust
