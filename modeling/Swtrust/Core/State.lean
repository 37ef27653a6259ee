import Swtrust.Core.Act
import Swtrust.Core.Nv
import Swtrust.Core.Object
import Swtrust.Core.Pcr
import Swtrust.Core.Session

set_option autoImplicit false

namespace Swtrust

open Library

structure LockoutState where
  failedTries : UInt32 := 0
  maxTries : UInt32 := Config.defaultMaxAuthFail
  recoveryTime : UInt32 := Config.defaultLockoutInterval
  lockoutRecovery : UInt32 := Config.defaultLockoutRecovery
  inLockout : Bool := false
  nextRecovery : UInt64 := 0
  lockoutUntil : UInt64 := 0
  deriving DecidableEq

namespace LockoutState

def lockedOut (lockout : LockoutState) : Bool := lockout.maxTries == 0 || decide (lockout.maxTries ≤ lockout.failedTries)

def protectionOff (lockout : LockoutState) : Bool := lockout.recoveryTime == 0

def drain (time interval : UInt64) : Nat → UInt64 → Nat × UInt64
  | 0, nextRecovery => (0, nextRecovery)
  | tries + 1, nextRecovery =>
      if nextRecovery ≤ time then drain time interval tries (satAdd nextRecovery interval)
      else (tries + 1, nextRecovery)

def release (lockout : LockoutState) (time : UInt64) : LockoutState :=
  if lockout.inLockout ∧ lockout.lockoutUntil ≠ 0 ∧ lockout.lockoutUntil ≤ time then
    { lockout with inLockout := false, lockoutUntil := 0 }
  else lockout

def recover (lockout : LockoutState) (time : UInt64) : LockoutState :=
  let interval := lockout.recoveryTime.toUInt64 * 1000
  if !lockout.protectionOff ∧ 0 < interval then
    let (tries, nextRecovery) := drain time interval lockout.failedTries.toNat lockout.nextRecovery
    { lockout with
      failedTries := UInt32.ofNat tries
      nextRecovery := if tries = 0 then 0 else nextRecovery }
  else lockout

def onTime (lockout : LockoutState) (time : UInt64) : LockoutState := (lockout.recover time).release time

def countPendingFailure (lockout : LockoutState) : LockoutState :=
  if lockout.protectionOff then lockout
  else if lockout.failedTries < lockout.maxTries then { lockout with failedTries := lockout.failedTries + 1 }
  else lockout

def onStartup (lockout : LockoutState) : LockoutState :=
  let nextRecovery := if 0 < lockout.failedTries then lockout.recoveryTime.toUInt64 * 1000 else 0
  let lockout := { lockout with nextRecovery }
  if lockout.inLockout then
    if lockout.lockoutRecovery = 0 then { lockout with inLockout := false, lockoutUntil := 0 }
    else { lockout with lockoutUntil := lockout.lockoutRecovery.toUInt64 * 1000 }
  else lockout

end LockoutState

structure ClockState where
  clock : UInt64 := 0
  time : UInt64 := 0
  resetCount : UInt32 := 0
  restartCount : UInt32 := 0
  clearCount : UInt32 := 0
  resetValue : Bytes := []
  safe : Bool := false
  rateAdjust : Int := 0
  rateRemainder : Int := 0
  totalResetCount : UInt32 := 0
  timeEpoch : UInt64 := 0
  nvElapsed : UInt64 := 0
  deriving DecidableEq

structure AuditState where
  alg : UInt16 := Config.contextIntegrityHashAlg
  digest : Bytes := []
  counter : UInt64 := 0
  commands : List UInt32 := [Cc.setCommandCodeAuditStatus]
  exclusiveSession : UInt32 := Rh.unassigned
  deriving DecidableEq

structure TpmState where
  hierarchies : Hierarchies
  lockout : LockoutState := {}
  permanent : PermanentAttributes
  clock : ClockState
  pcrAllocation : PcrAllocation
  nv : NvStore := NvStore.new
  persistent : SortedMap UInt32 Object := SortedMap.empty
  ppCommands : List UInt32 := []
  audit : AuditState := {}
  algorithmSet : UInt32 := 0
  lockoutAuth : Bytes := []
  lockoutPolicy : TpmtHa := TpmtHa.null
  pcrAuth : Bytes := []
  pcrPolicy : TpmtHa := TpmtHa.null
  manufactured : Bool := true
  shutdownType : UInt16 := Su.none
  started : Bool := false
  startupClear : StartupClearAttributes := ⟨0⟩
  pcrAllocationPending : Bool := false
  pcr : PcrBanks
  objects : ObjectSlots := SortedMap.empty
  sessions : SessionSlots := SessionSlots.new
  locality : UInt8 := 0
  physicalPresence : Bool := false
  nvAvailable : Bool := true
  nvWriteFailed : Bool := false
  failureMode : Bool := false
  selfTestDone : Bool := true
  testDigest : Bytes := []
  testFailure : Option String := none
  rng : Drbg
  commits : Commits := {}
  everStarted : Bool := false
  act : Act := {}
  hcrtmSequence : Option (List (UInt16 × Bytes)) := none
  hcrtmBeforeStartup : Bool := false
  hcrtmAtLastStartup : Bool := false
  startupMethodUnknown : Bool := false
  startupLocality : UInt8 := 0
  commandAuditSuppressed : Bool := false
  deriving DecidableEq

abbrev TpmM := Action TpmRc TpmState

def toI64 (value : UInt64) : Int := if value.toNat < 2 ^ 63 then value.toNat else value.toNat - 2 ^ 64

def clampI64 (value : Int) : Int := max (-(2 ^ 63)) (min value (2 ^ 63 - 1))

namespace TpmState

def zoomRng {α : Type} : Action TpmRc Drbg α → TpmM α := Action.zoom (·.rng) fun rng s => { s with rng }

def zoomHierarchies {α : Type} : Action TpmRc (Hierarchies × Drbg) α → TpmM α :=
  Action.zoom (fun s => (s.hierarchies, s.rng)) fun t s => { s with hierarchies := t.1, rng := t.2 }

def zoomCommits {α : Type} : Action TpmRc (Commits × Drbg) α → TpmM α :=
  Action.zoom (fun s => (s.commits, s.rng)) fun t s => { s with commits := t.1, rng := t.2 }

def zoomPcr {α : Type} : Action TpmRc PcrBanks α → TpmM α := Action.zoom (·.pcr) fun pcr s => { s with pcr }

def scaledMillis (clock : ClockState) (millis : UInt64) : UInt64 × Int :=
  let scaled := clampI64 (clampI64 (toI64 millis * (1000 + clock.rateAdjust)) + clock.rateRemainder)
  (UInt64.ofNat (max (scaled / 1000) 0).toNat, scaled % 1000)

def advanceTime (s : TpmState) (millis : UInt64) : Bool × TpmState :=
  if millis = 0 then (false, s)
  else
    let (millis, rateRemainder) := scaledMillis s.clock millis
    let s := { s with clock := { s.clock with rateRemainder } }
    if millis = 0 then (false, s)
    else
      let time := satAdd s.clock.time millis
      let nvElapsed := satAdd s.clock.nvElapsed millis
      let s := { s with
        clock := { s.clock with clock := satAdd s.clock.clock millis, time, nvElapsed }
        act := s.act.advance millis
        lockout := s.lockout.onTime time }
      if Config.nvClockUpdateInterval ≤ nvElapsed then
        (true, { s with clock := { s.clock with nvElapsed := 0, safe := true } })
      else (false, s)

def beginOperation (orderly keepReadOnly : Bool) (s : TpmState) : TpmState :=
  let kept := keepReadOnly && s.startupClear.has StartupClearAttributes.readOnly
  let attributes := (if orderly then StartupClearAttributes.orderly else 0) |||
    (if kept then StartupClearAttributes.readOnly else 0)
  { s with
    pcrAllocationPending := false
    startupClear := ⟨attributes⟩
    started := true
    everStarted := true
    shutdownType := Su.none
    clock := { s.clock with timeEpoch := s.clock.timeEpoch + 1 } }

def startupClearWord (s : TpmState) : StartupClearAttributes :=
  let word := s.startupClear.value &&& (StartupClearAttributes.orderly ||| StartupClearAttributes.readOnly)
  let word := if s.hierarchies.platform.enabled then word ||| StartupClearAttributes.phEnable else word
  let word := if s.hierarchies.owner.enabled then word ||| StartupClearAttributes.shEnable else word
  let word := if s.hierarchies.endorsement.enabled then word ||| StartupClearAttributes.ehEnable else word
  ⟨if s.hierarchies.platformNvEnabled then word ||| StartupClearAttributes.phEnableNv else word⟩

section

variable [Crypto]

def hierarchyProof (s : TpmState) (handle : UInt32) : TpmResult Bytes := s.hierarchies.proofOf handle

def manufacture (seed : Bytes) : TpmResult TpmState := do
  let rng ← Drbg.instantiate seed [] (ascii "swtrust")
  let (hierarchies, rng) ← Hierarchies.new rng
  let pcr ← PcrBanks.new (PcrBanks.wholeBanks Config.defaultPcrBanks)
  return {
    hierarchies
    rng
    permanent := ⟨PermanentAttributes.tpmGeneratedEps⟩
    clock := { safe := true }
    pcrAllocation := PcrBanks.wholeBanks Config.defaultPcrBanks
    pcr }

def onStartupClear (locality : UInt8) : TpmM Unit := do
  let before ← get
  let restart := before.shutdownType == Su.state
  let disorderly := before.shutdownType == Su.none
  let everStarted := before.everStarted || decide (0 < before.clock.resetCount) || decide (0 < before.clock.restartCount)
  zoomHierarchies (Hierarchies.onReset (!restart))
  modify fun s =>
    let keep := if s.hcrtmBeforeStartup then some Config.hcrtmPcr else none
    { s with
      pcr := s.pcr.resetAllBut keep locality
      hcrtmAtLastStartup := s.hcrtmBeforeStartup
      startupLocality := locality
      startupMethodUnknown := false
      hcrtmBeforeStartup := false }
  if !restart then
    modify fun s => { s with pcr := s.pcr.resetUpdateCounter }
  modify fun s => { s with objects := SortedMap.empty }
  if restart then
    modify fun s => { s with sessions := s.sessions.flushLoaded }
  else
    modify fun s => { s with
      sessions := s.sessions.clear
      audit := { s.audit with exclusiveSession := Rh.unassigned } }
  modify fun s => { s with nv := s.nv.onStartupClearWith restart disorderly }
  modify fun s =>
    let clearCount := if restart then s.clock.clearCount + 1 else 0
    { s with clock := { s.clock with clearCount } }
  if !restart then
    let resetValue ← zoomRng (Drbg.bytes 64)
    modify fun s => { s with clock := { s.clock with resetValue } }
  if restart then
    modify fun s => { s with clock := { s.clock with restartCount := s.clock.restartCount + 1 } }
  else
    modify fun s => { s with clock := { s.clock with
      resetCount := s.clock.resetCount + 1
      totalResetCount := s.clock.totalResetCount + 1
      restartCount := 0 } }
  modify fun s => { s with clock := { s.clock with time := 0, nvElapsed := 0 } }
  if disorderly && everStarted then
    modify fun s => { s with
      clock := { s.clock with safe := false }
      lockout := s.lockout.countPendingFailure }
  if !restart then
    modify fun s => { s with audit := { s.audit with digest := [] } }
    zoomCommits Commits.reset
  modify fun s => beginOperation (!disorderly) false { s with act := s.act.onReset, lockout := s.lockout.onStartup }

def onInit : TpmM Unit := do
  let s ← get
  if s.pcr.allocation ≠ s.pcrAllocation then
    let pcr ← s.pcr.allocate s.pcrAllocation
    set { s with pcr }
  modify fun s => { s with
    hcrtmBeforeStartup := false
    hcrtmSequence := none
    pcrAllocationPending := false
    hierarchies := { s.hierarchies with platform := { s.hierarchies.platform with enabled := true } } }

def onStartupState (locality : UInt8) : TpmM Unit := do
  let s ← get
  if s.startupMethodUnknown then throw (Rc.value.withParameter 1)
  if s.hcrtmBeforeStartup ≠ s.hcrtmAtLastStartup then throw Rc.locality
  if !s.hcrtmBeforeStartup ∧ locality ≠ s.startupLocality then throw Rc.locality
  set { s with
    hcrtmBeforeStartup := false
    objects := SortedMap.empty
    sessions := s.sessions.flushLoaded
    pcr := s.pcr.onResume
    clock := { s.clock with restartCount := s.clock.restartCount + 1, time := 0 } }
  if !s.commits.isReady then
    zoomCommits Commits.reset
  modify fun s => beginOperation true true { s with act := s.act.onResume, lockout := s.lockout.onStartup }

def onClear : TpmM Unit := do
  zoomHierarchies Hierarchies.onClear
  modify fun s => { s with
    lockout := {}
    permanent := ⟨s.permanent.value &&& PermanentAttributes.tpmGeneratedEps⟩
    nv := s.nv.clearOwnerIndices
    persistent := s.persistent.retain fun handle _ => decide (Hc.platformPersistent ≤ handle)
    objects := (ObjectSlots.flushHierarchy s.objects Rh.owner).flushHierarchy Rh.endorsement
    clock := { s.clock with clock := 0, nvElapsed := 0, resetCount := 0, restartCount := 0, safe := true }
    pcr := s.pcr.bumpUpdateCounter
    audit := { s.audit with counter := 0 } }

end

end TpmState

end Swtrust
