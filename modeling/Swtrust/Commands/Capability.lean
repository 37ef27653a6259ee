import Mathlib.Data.List.Sort
import Swtrust.Commands.Dispatch
import Swtrust.Structures.Attest

set_option autoImplicit false

namespace Swtrust

open Library

inductive Capabilities where
  | algorithms (items : List UInt16)
  | handles (items : List UInt32)
  | command (items : List UInt32)
  | ppCommands (items : List UInt32)
  | auditCommands (items : List UInt32)
  | assignedPcr (items : TpmlPcrSelection)
  | tpmProperties (items : List (UInt32 × UInt32))
  | pcrProperties (items : List (UInt32 × PcrSelect))
  | eccCurves (items : List UInt16)
  | authPolicies (items : List (UInt32 × TpmtHa))
  | act (items : List (UInt32 × UInt32 × UInt32))
  | pubKeys
  | spdmSessionInfo
  | vendorProperty
  deriving DecidableEq

namespace Capabilities

def selector : Capabilities → UInt32
  | .algorithms _ => Cap.algs
  | .handles _ => Cap.handles
  | .command _ => Cap.commands
  | .ppCommands _ => Cap.ppCommands
  | .auditCommands _ => Cap.auditCommands
  | .assignedPcr _ => Cap.pcrs
  | .tpmProperties _ => Cap.tpmProperties
  | .pcrProperties _ => Cap.pcrProperties
  | .eccCurves _ => Cap.eccCurves
  | .authPolicies _ => Cap.authPolicies
  | .act _ => Cap.act
  | .pubKeys => Cap.pubKeys
  | .spdmSessionInfo => Cap.spdmSessionInfo
  | .vendorProperty => Cap.vendorProperty

def marshal : Capabilities → Bytes
  | .algorithms items => marshalList (fun a => be16 a ++ be32 0) items
  | .handles items | .command items | .ppCommands items | .auditCommands items => marshalList be32 items
  | .assignedPcr items => TpmlPcrSelection.marshal items
  | .tpmProperties items => marshalList (fun p => be32 p.1 ++ be32 p.2) items
  | .pcrProperties items => marshalList (fun p => be32 p.1 ++ p.2.marshal) items
  | .eccCurves items => marshalList be16 items
  | .authPolicies items => marshalList (fun p => be32 p.1 ++ p.2.marshal) items
  | .act items => marshalList (fun a => be32 a.1 ++ be32 a.2.1 ++ be32 a.2.2) items
  | .pubKeys | .spdmSessionInfo | .vendorProperty => be32 0

-- The tag or value that `capability_property` compares with the property asked for.
def first : Capabilities → Option UInt32
  | .algorithms items => items.head?.map (·.toUInt32)
  | .handles items => items.head?
  | .command items => items.head?.map (· &&& (0x0000FFFF : UInt32))
  | .ppCommands items => items.head?
  | .auditCommands items => items.head?
  | .tpmProperties items => items.head?.map Prod.fst
  | .pcrProperties items => items.head?.map Prod.fst
  | .eccCurves items => items.head?.map (·.toUInt32)
  | .authPolicies items => items.head?.map Prod.fst
  | .act items => items.head?.map Prod.fst
  | _ => none

end Capabilities

def capListMax (elementSize : Nat) : Nat := (1024 - 4 - 4) / elementSize

def limitTo {α : Type} (all : List α) (count max : Nat) : List α × Bool :=
  (all.take (min count max), decide (min count max < all.length))

def algorithmsLegacy : List UInt16 :=
  [Alg.rsa, Alg.sha1, Alg.hmac, Alg.aes, Alg.mgf1, Alg.keyedhash, Alg.xor, Alg.sha256, Alg.sha384, Alg.sha512,
    Alg.null, Alg.rsassa, Alg.rsaes, Alg.rsapss, Alg.oaep, Alg.ecdsa, Alg.ecdh, Alg.ecdaa, Alg.ecschnorr, Alg.hkdf,
    Alg.kdf1Sp800_56a, Alg.kdf2, Alg.kdf1Sp800_108, Alg.ecc, Alg.symcipher, Alg.sha3_256, Alg.sha3_384,
    Alg.sha3_512, Alg.ctr, Alg.ofb, Alg.cbc, Alg.cfb, Alg.ecb]

def implementedAlgorithms [Profile] : List UInt16 :=
  if isStrict then algorithmsLegacy.filter (· != Alg.sha1) else algorithmsLegacy

namespace CommandInfo

def vendorBit : UInt32 := 0x20000000

def attributes (info : CommandInfo) : UInt32 :=
  (info.code &&& (0xFFFF : UInt32)) ||| ((UInt32.ofNat info.handles <<< 25) &&& (0x0E000000 : UInt32)) |||
    (if info.nv then (0x00400000 : UInt32) else 0) ||| (if info.extensive then 0x00800000 else 0) |||
    (if info.flushed then 0x01000000 else 0) ||| (if info.responseHandle then 0x10000000 else 0) |||
    (if info.code &&& vendorBit ≠ 0 then vendorBit else 0)

-- Sorting by the pair (vendor bit, command index) is sorting by this word.
def sortKey (attributes : UInt32) : UInt32 := attributes &&& (vendorBit ||| (0xFFFF : UInt32))

end CommandInfo

def permanentHandles : List UInt32 :=
  [Rh.owner, Rh.null, Rh.lockout, Rh.endorsement, Rh.platform, Rh.platformNv, Rh.act_0, Rh.fwOwner, Rh.fwEndorsement,
    Rh.fwPlatform, Rh.fwNull, Rh.svnOwnerBase, Rh.svnEndorsementBase, Rh.svnPlatformBase, Rh.svnNullBase]

def pcrSelectWhere (holds : Nat → Bool) : PcrSelect :=
  ((List.range Config.implementationPcr).filter holds).foldl PcrSelect.selectIn PcrSelect.none

def pcrProperties (property : UInt32) : List (UInt32 × PcrSelect) :=
  let extends' (locality : UInt8) (i : Nat) : Bool := ((Pcr.attributes i).extendLocality &&& ((1 : UInt8) <<< locality)) != 0
  let resets (locality : UInt8) (i : Nat) : Bool := (Pcr.resetCapabilityLocality i &&& ((1 : UInt8) <<< locality)) != 0
  let all : List (UInt32 × PcrSelect) := [
    (PtPcr.save, pcrSelectWhere Pcr.isSaved),
    (PtPcr.extendL0, pcrSelectWhere (extends' 0)),
    (PtPcr.resetL0, pcrSelectWhere (resets 0)),
    (PtPcr.extendL1, pcrSelectWhere (extends' 1)),
    (PtPcr.resetL1, pcrSelectWhere (resets 1)),
    (PtPcr.extendL2, pcrSelectWhere (extends' 2)),
    (PtPcr.resetL2, pcrSelectWhere (resets 2)),
    (PtPcr.extendL3, pcrSelectWhere (extends' 3)),
    (PtPcr.resetL3, pcrSelectWhere (resets 3)),
    (PtPcr.extendL4, pcrSelectWhere (extends' 4)),
    (PtPcr.resetL4, pcrSelectWhere (resets 4)),
    (PtPcr.noIncrement, pcrSelectWhere Pcr.noIncrement),
    (PtPcr.drtmReset, pcrSelectWhere fun i => (Pcr.attributes i).startsAtOnes),
    (PtPcr.policy, pcrSelectWhere fun _ => false),
    (PtPcr.auth, pcrSelectWhere fun _ => false)]
  all.filter fun p => decide (property ≤ p.1)

namespace TpmState

def clockInfo (s : TpmState) : ClockInfo :=
  { clock := s.clock.clock, resetCount := s.clock.resetCount, restartCount := s.clock.restartCount
    safe := s.clock.safe }

def handlesInRange (s : TpmState) (property : UInt32) : List UInt32 :=
  let range := (property >>> 24).toUInt8
  let all :=
    if range = Ht.pcr then (List.range Config.implementationPcr).map fun i => Hc.pcrFirst + UInt32.ofNat i
    else if range = Ht.nvIndex then s.nv.indices.keys
    else if range = Ht.hmacSession then s.sessions.sessions.keys
    else if range = Ht.policySession then
      s.sessions.saved.keys.map fun h => (h &&& (0x00FFFFFF : UInt32)) ||| (Ht.hmacSession.toUInt32 <<< 24)
    else if range = Ht.permanent then permanentHandles
    else if range = Ht.transient then s.objects.keys
    else if range = Ht.persistent then s.persistent.keys
    else []
  (all.filter fun h => decide (property ≤ h)).insertionSort (· ≤ ·)

def authPolicies (s : TpmState) (property : UInt32) : List (UInt32 × TpmtHa) :=
  let all : List (UInt32 × TpmtHa) := [
    (Rh.owner, s.hierarchies.owner.policy),
    (Rh.endorsement, s.hierarchies.endorsement.policy),
    (Rh.platform, s.hierarchies.platform.policy),
    (Rh.lockout, s.lockoutPolicy),
    (Rh.act_0, s.act.policy)]
  all.filter fun p => decide (property ≤ p.1)

def permanentAttributes (s : TpmState) : PermanentAttributes :=
  s.permanent.setTo PermanentAttributes.inLockout s.lockout.inLockout

section

variable [Profile]

def word (n : Nat) : UInt32 := UInt32.ofNat n

def tpmProperties (s : TpmState) (property : UInt32) : List (UInt32 × UInt32) :=
  let loaded := s.sessions.sessions.size
  let loadedLeft := Config.maxLoadedSessions - loaded
  let all : List (UInt32 × UInt32) := [
    (Pt.familyIndicator, 0x322E3000), (Pt.level, 0), (Pt.revision, 185), (Pt.errata, 0), (Pt.year, 0),
    (Pt.manufacturer, 0x53575400), (Pt.vendorString_1, 0x53575400), (Pt.vendorString_2, 0), (Pt.vendorString_3, 0),
    (Pt.vendorString_4, 0), (Pt.vendorTpmType, 0), (Pt.firmwareVersion_1, 0x00010000), (Pt.firmwareVersion_2, 0),
    (Pt.inputBuffer, word Config.maxDigestBuffer), (Pt.hrTransientMin, word Config.maxLoadedObjects),
    (Pt.hrPersistentMin, word Config.minEvictObjects), (Pt.hrLoadedMin, word Config.maxLoadedSessions),
    (Pt.activeSessionsMax, word Config.maxActiveSessions), (Pt.pcrCount, word Config.implementationPcr),
    (Pt.pcrSelectMin, word Config.pcrSelectMin), (Pt.contextGapMax, Config.contextGapMax.toUInt32),
    (Pt.nvCountersMax, word Config.minCounterIndices), (Pt.nvIndexMax, word Config.maxNvIndexSize), (Pt.memory, 0),
    (Pt.clockUpdate, Config.nvClockUpdateInterval.toUInt32),
    (Pt.contextHash, Config.contextIntegrityHashAlg.toUInt32), (Pt.contextSym, Alg.aes.toUInt32),
    (Pt.contextSymSize, 256), (Pt.orderlyCount, Config.maxOrderlyCount.toUInt32),
    (Pt.maxCommandSize, word Config.maxCommandSize), (Pt.maxResponseSize, 4096), (Pt.maxDigest, 64),
    (Pt.maxObjectContext, 2048), (Pt.maxSessionContext, 1024), (Pt.psFamilyIndicator, 1), (Pt.psLevel, 0),
    (Pt.psRevision, 0x00000107), (Pt.psDayOfYear, 0), (Pt.psYear, 0), (Pt.splitMax, word Config.maxCommitSequences),
    (Pt.totalCommands, word Table.commands.length),
    (Pt.libraryCommands, word (Table.commands.filter fun c => decide (c.code < CommandInfo.vendorBit)).length),
    (Pt.vendorCommands, word (Table.commands.filter fun c => decide (CommandInfo.vendorBit ≤ c.code)).length),
    (Pt.nvBufferMax, word Config.maxNvBufferSize), (Pt.modes, 0), (Pt.maxCapBuffer, 1024),
    (Pt.firmwareSvn, Config.firmwareSvn), (Pt.firmwareMaxSvn, 0), (Pt.mlParameterSets, 0),
    (Pt.permanent, s.permanentAttributes.value), (Pt.startupClear, s.startupClearWord.value),
    (Pt.hrNvIndex, word s.nv.indices.size), (Pt.hrLoaded, word loaded), (Pt.hrLoadedAvail, word loadedLeft),
    (Pt.hrActive, word s.sessions.active),
    (Pt.hrActiveAvail, word (min (Config.maxActiveSessions - s.sessions.active) loadedLeft)),
    (Pt.hrTransientAvail, word (Config.maxLoadedObjects - s.objects.size)),
    (Pt.hrPersistent, word s.persistent.size),
    (Pt.hrPersistentAvail, word (Config.minEvictObjects - s.persistent.size)),
    (Pt.nvCounters, word s.nv.counterCount),
    (Pt.nvCountersAvail,
      word (min (Config.minCounterIndices - s.nv.counterCount) (s.nv.available / NvStore.smallestCounterFootprint))),
    (Pt.algorithmSet, s.algorithmSet), (Pt.loadedCurves, word Config.implementedCurves.length),
    (Pt.lockoutCounter, s.lockout.failedTries), (Pt.maxAuthFail, s.lockout.maxTries),
    (Pt.lockoutInterval, s.lockout.recoveryTime), (Pt.lockoutRecovery, s.lockout.lockoutRecovery),
    (Pt.nvWriteRecovery, 0), (Pt.auditCounter_0, (s.audit.counter >>> 32).toUInt32),
    (Pt.auditCounter_1, s.audit.counter.toUInt32)]
  let group := property &&& (0xFFFFFF00 : UInt32)
  all.filter fun p => decide (property ≤ p.1) && (p.1 &&& (0xFFFFFF00 : UInt32)) == group

def buildCapability (s : TpmState) (capability property : UInt32) (count : Nat) : TpmResult (Bool × Capabilities) := do
  let listed {α : Type} (all : List α) (elementSize : Nat) (wrap : List α → Capabilities) : Bool × Capabilities :=
    let (items, more) := limitTo all count (capListMax elementSize)
    (more, wrap items)
  if capability = Cap.algs then
    return listed (implementedAlgorithms.filter fun a => decide (property ≤ a.toUInt32)) 6 .algorithms
  else if capability = Cap.handles then return listed (s.handlesInRange property) 4 .handles
  else if capability = Cap.commands then
    let all := (Table.commands.filter fun c => decide (property ≤ c.code)).map CommandInfo.attributes
    return listed (all.insertionSort fun a b => CommandInfo.sortKey a ≤ CommandInfo.sortKey b) 4 .command
  else if capability = Cap.ppCommands then
    return listed (s.ppCommands.filter fun c => decide (property ≤ c)) 4 .ppCommands
  else if capability = Cap.auditCommands then
    return listed (s.audit.commands.filter fun c => decide (property ≤ c)) 4 .auditCommands
  else if capability = Cap.pcrs then
    if property ≠ 0 then throw (Rc.value.withParameter 2)
    return (false, .assignedPcr (s.pcr.allocation.map fun bank =>
      ⟨bank.1, pcrSelectWhere fun i => bank.2[i]?.getD false⟩))
  else if capability = Cap.tpmProperties then return listed (s.tpmProperties property) 8 .tpmProperties
  else if capability = Cap.pcrProperties then return listed (Swtrust.pcrProperties property) 8 .pcrProperties
  else if capability = Cap.eccCurves then
    return listed (Config.implementedCurves.filter fun c => decide (property ≤ c.toUInt32)) 2 .eccCurves
  else if capability = Cap.authPolicies then
    if (property >>> 24).toUInt8 ≠ Ht.permanent then throw (Rc.value.withParameter 2)
    return listed (s.authPolicies property) 70 .authPolicies
  else if capability = Cap.act then
    if (property >>> 24).toUInt8 ≠ Ht.permanent then throw (Rc.value.withParameter 2)
    let all := if property ≤ Rh.act_0 then [(Rh.act_0, s.act.timeout, s.act.attributes)] else []
    return listed all 12 .act
  else if capability = Cap.pubKeys then return (false, .pubKeys)
  else if capability = Cap.spdmSessionInfo then return (false, .spdmSessionInfo)
  else if capability = Cap.vendorProperty then return (false, .vendorProperty)
  else throw (Rc.value.withParameter 1)

def capabilityProperty (s : TpmState) (capability property : UInt32) : TpmResult (Option Bytes) := do
  let isListed := (decide (capability ≤ Cap.last) && capability != Cap.pcrs) || capability == Cap.vendorProperty
  if !isListed then throw (Rc.value.withParameter 4)
  let (_, data) ← (s.buildCapability capability property 1).mapError (·.atParameter 5)
  if data.first ≠ some property then return none
  return some (data.marshal.drop 4)

end

end TpmState

def isCapability (capability : UInt32) : Bool := decide (capability ≤ Cap.last) || capability == Cap.vendorProperty

end Swtrust
