import Swtrust.Device.Persist
import Swtrust.Library.Bitmap

set_option autoImplicit false

namespace Swtrust

open Library

-- The octets of the state file: what `save` writes of a TPM, and what `load` makes of them, whichever version wrote them.

namespace Record

def stateVersion : UInt32 := 11
def stateVersionWithoutProfile : UInt32 := 1

def firstWithClearCount : UInt32 := 3
def firstWithSessions : UInt32 := 4
def firstWithPersistentStateClear : UInt32 := 4
def firstWithResetValue : UInt32 := 5
def firstWithObjectCounter : UInt32 := 6
def firstWithCounterFloor : UInt32 := 7
def firstWithStartupClear : UInt32 := 8
def firstWithPcrBits : UInt32 := 9
def firstWithHcrtmMethod : UInt32 := 10
def firstWithFirmwareSecret : UInt32 := 11

def knownVersions : List UInt32 := [11, 10, 9, 8, 7, 6, 5, 4, 3, 2, 1]

-- A field is in the record from the version it arrived in.
def since {α : Type} (version first : UInt32) (reader : Reader α) (absent : α) : Reader α :=
  if first ≤ version then reader else return absent

def boundedCount (max : Nat) : Reader Nat := do
  let count ← u32
  if max < count.toNat then throw Rc.badContext
  return count.toNat

-- An octet that can only be zero or one.
def readBit : Reader Bool := do
  let octet ← u8
  if octet = 0 then return false
  else if octet = 1 then return true
  else throw Rc.badContext

def writeCodes (codes : List UInt32) : Bytes := be32 (UInt32.ofNat codes.length) ++ codes.flatMap be32

def readCodes : Reader (List UInt32) := do
  let count ← boundedCount 512
  decodeMany u32 count

def saveHierarchy (h : Hierarchy) : Bytes :=
  sized16 h.seed ++ sized16 h.proof ++ sized16 h.auth ++ h.policy.marshal ++ beBool h.enabled

def saveHierarchies (hs : Hierarchies) : Bytes :=
  saveHierarchy hs.platform ++ saveHierarchy hs.owner ++ saveHierarchy hs.endorsement ++ saveHierarchy hs.null ++
    beBool hs.platformNvEnabled ++ sized16 hs.bootloaderSecret

def readHierarchy [Profile] : Reader Hierarchy := do
  let seed ← readSized
  let proof ← readSized
  let auth ← readSized
  let policy ← TpmtHa.unmarshal
  return { seed, proof, auth, policy, enabled := ← readFlag }

def readHierarchies [Profile] (version : UInt32) (fresh : Hierarchies) : Reader Hierarchies := do
  let platform ← readHierarchy
  let owner ← readHierarchy
  let endorsement ← readHierarchy
  let null ← readHierarchy
  let platformNvEnabled ← readFlag
  let bootloaderSecret ← since version firstWithFirmwareSecret readSized fresh.bootloaderSecret
  return { fresh with platform, owner, endorsement, null, platformNvEnabled, bootloaderSecret }

end Record

open Record

namespace LockoutState

def marshal (lockout : LockoutState) : Bytes :=
  be32 lockout.failedTries ++ be32 lockout.maxTries ++ be32 lockout.recoveryTime ++ be32 lockout.lockoutRecovery ++
    beBool lockout.inLockout ++ be64 lockout.nextRecovery

def unmarshal : Reader LockoutState := do
  let failedTries ← u32
  let maxTries ← u32
  let recoveryTime ← u32
  let lockoutRecovery ← u32
  let inLockout ← readFlag
  return { failedTries, maxTries, recoveryTime, lockoutRecovery, inLockout, nextRecovery := ← u64, lockoutUntil := 0 }

end LockoutState

namespace ClockState

def marshal (clock : ClockState) : Bytes :=
  be64 clock.clock ++ be32 clock.resetCount ++ be32 clock.restartCount ++ be32 clock.clearCount ++
    sized16 clock.resetValue ++ beBool clock.safe ++ be32 clock.totalResetCount ++ be64 clock.timeEpoch

def read (version : UInt32) : Reader ClockState := do
  let clock ← u64
  let resetCount ← u32
  let restartCount ← u32
  let clearCount ← since version firstWithClearCount u32 0
  let resetValue ← since version firstWithResetValue readSized []
  let safe ← readFlag
  let totalResetCount ← u32
  let timeEpoch ← u64
  return { clock, resetCount, restartCount, clearCount, resetValue, safe, totalResetCount, timeEpoch }

end ClockState

namespace Record

section

variable [Primitives]

-- A record that carries no resetValue is given one.
def drawResetValue (rng : Drbg) (clock : ClockState) : TpmResult (ClockState × Drbg) :=
  if clock.resetValue.isEmpty then do
    let size ← Hash.digestSize Config.contextIntegrityHashAlg
    let drawn ← Drbg.run (Drbg.bytes size) rng
    return ({ clock with resetValue := drawn.1 }, drawn.2)
  else return (clock, rng)

-- The registers of a bank as the bits of a selection.
def packBits (bits : List Bool) : Bytes :=
  ((List.range bits.length).filter fun i => bits[i]?.getD false).foldl Bitmap.raise
    (List.replicate ((Config.implementationPcr + 7) / 8) 0)

def unpackBits (raw : Bytes) : List Bool := (List.range Config.implementationPcr).map (Bitmap.bit raw)

def saveBank (bank : UInt16 × List Bool) : Bytes :=
  be16 bank.1 ++ be8 (UInt8.ofNat ((Config.implementationPcr + 7) / 8)) ++ packBits bank.2

def savePcrAllocation (allocation : PcrAllocation) : Bytes :=
  be32 (UInt32.ofNat allocation.length) ++ allocation.flatMap saveBank

def readBits : Reader (List Bool) := do
  let octets ← u8
  return unpackBits (← take octets.toNat)

def readBank (version : UInt32) : Reader (UInt16 × List Bool) := do
  let hashAlg ← u16
  let bits ← since version firstWithPcrBits readBits (List.replicate Config.implementationPcr true)
  return (hashAlg, bits)

-- A bank that is not implemented any more is dropped; with none left the allocation is that of manufacture.
def keptAllocation (saved : PcrAllocation) : PcrAllocation :=
  let implemented := saved.filter fun bank => Config.implementedPcrBanks.contains bank.1
  if implemented.isEmpty then PcrBanks.wholeBanks Config.defaultPcrBanks else implemented

def readPcrAllocation (version : UInt32) : Reader PcrAllocation := do
  let count ← boundedCount Config.hashCount
  return keptAllocation (← decodeMany (readBank version) count)

def readPcr (allocation : PcrAllocation) : Reader PcrBanks := do
  let pcr ← (PcrBanks.new allocation : TpmResult PcrBanks)
  let pcr ← pcr.unmarshalValues
  let updateCounter ← u32
  return { pcr with updateCounter }

def saveAudit (audit : AuditState) : Bytes :=
  be16 audit.alg ++ sized16 audit.digest ++ be64 audit.counter ++ writeCodes audit.commands

def readAudit (fresh : AuditState) : Reader AuditState := do
  let alg ← u16
  let digest ← readSized
  let counter ← u64
  return { fresh with alg, digest, counter, commands := ← readCodes }

def saveNvIndex (index : NvIndex) : Bytes :=
  index.area.marshal ++ sized16 index.auth ++ sized16 index.data ++ beBool index.readLocked ++ beBool index.writeLocked

def saveNv (nv : NvStore) : Bytes :=
  be64 nv.highestCounter ++ be32 (UInt32.ofNat nv.indices.size) ++ nv.indices.values.flatMap saveNvIndex

def readNvIndex : Reader NvIndex := do
  let area ← NvPublic.unmarshal
  let auth ← readSized
  let data ← readSized
  let readLocked ← readFlag
  return { area, auth, data, readLocked, writeLocked := ← readFlag }

def defineNv (nv : NvStore) (index : NvIndex) : TpmResult NvStore :=
  Action.eval (do NvStore.define index; get) nv

def readNvIndices : Nat → NvStore → Reader NvStore
  | 0, nv => return nv
  | count + 1, nv => do
    let index ← readNvIndex
    let nv ← defineNv nv index
    readNvIndices count nv

def readNv (version : UInt32) : Reader NvStore := do
  let counterFloor ← since version firstWithCounterFloor u64 0
  let count ← boundedCount 4096
  let nv ← readNvIndices count NvStore.new
  return nv.raiseFloor counterFloor

def saveObject (entry : UInt32 × Object) : Bytes :=
  be32 entry.1 ++ be32 entry.2.hierarchy ++ beBool entry.2.tpmGenerated ++ beBool entry.2.stateClear ++
    entry.2.area.marshal ++ beOption TpmtSensitive.marshal entry.2.sensitive

def savePersistent (persistent : SortedMap UInt32 Object) : Bytes :=
  be32 (UInt32.ofNat persistent.size) ++ persistent.entries.flatMap saveObject

-- An object has to pass what TPM2_Load would ask of it today, and is under its hierarchy again.
def readObject (version : UInt32) : Reader (UInt32 × Object) := do
  let handle ← u32
  let hierarchy ← u32
  let tpmGenerated ← readFlag
  let recorded ← since version firstWithPersistentStateClear (some <$> readFlag) none
  let area ← TpmtPublic.unmarshal
  let sensitive ← readOption TpmtSensitive.unmarshal
  validateRestored area sensitive
  if recorded.getD (area.objectAttributes.has ObjectAttributes.stClear) then throw Rc.badContext
  let object ← (Object.new area sensitive hierarchy (handleName hierarchy) tpmGenerated : TpmResult Object)
  return (handle, object)

def readPersistent (version : UInt32) : Reader (SortedMap UInt32 Object) := do
  let count ← boundedCount (Config.minEvictObjects * 64)
  return SortedMap.ofList (← decodeMany (readObject version) count)

def saveCommits (commits : Commits) : Bytes :=
  if commits.isReady then sized16 commits.random ++ be64 commits.count ++ sized16 commits.used
  else sized16 [] ++ be64 0 ++ sized16 []

-- A record may end before any of the blocks that follow; there it is read as one without them.
def readCommits (fresh : Commits) : Reader Commits := do
  if ← readerIsEmpty then return fresh
  let random ← readSized
  let count ← u64
  let used ← readSized
  if random.isEmpty && used.isEmpty then
    if count ≠ 0 then throw Rc.badContext
    return fresh
  if random.length ≠ Config.commitNonceBytes ∨ used.length ≠ Config.maxCommitSequences / 8 then throw Rc.badContext
  return { random, count, used }

def saveAct (act : Act) (everStarted : Bool) : Bytes :=
  be32 act.timeout ++ beBool act.signaled ++ be16 act.policy.hashAlg ++ sized16 act.policy.digest ++ beBool everStarted

def readEverStarted : Reader Bool := do
  if ← readerIsEmpty then return true
  readBit

def readAct (fresh : Act) (everStarted : Bool) : Reader (Act × Bool) := do
  if ← readerIsEmpty then return (fresh, everStarted)
  let timeout ← u32
  let signaled ← readBit
  let policyAlg ← u16
  let policyDigest ← readSized
  let policy ← (TpmtHa.new policyAlg policyDigest : TpmResult TpmtHa)
  let everStarted ← readEverStarted
  return ({ fresh.restore timeout signaled with policy }, everStarted)

def saveStartup (s : TpmState) : Bytes :=
  be32 s.startupClear.value ++ beBool s.hcrtmAtLastStartup ++ be8 s.startupLocality

def readStartup (version : UInt32) (s : TpmState) : Reader TpmState := do
  if version < firstWithStartupClear then return s
  if ← readerIsEmpty then return s
  let startupClear ← u32
  if version < firstWithHcrtmMethod then return { s with startupClear := ⟨startupClear⟩ }
  let hcrtmAtLastStartup ← readFlag
  let startupLocality ← u8
  return { s with startupClear := ⟨startupClear⟩, hcrtmAtLastStartup, startupLocality }

def saveSavedContext (entry : UInt32 × UInt64) : Bytes := be32 entry.1 ++ be64 entry.2

def saveSavedContexts (sessions : SessionSlots) : Bytes :=
  be32 (UInt32.ofNat sessions.saved.size) ++ sessions.saved.entries.flatMap saveSavedContext ++
    be64 sessions.contextCounter ++ be64 sessions.objectCounter

def readSavedContext : Reader (UInt32 × UInt64) := do
  let handle ← u32
  return (handle, ← u64)

def readSavedContexts (version : UInt32) (fresh : SessionSlots) : Reader SessionSlots := do
  if version < firstWithSessions then return fresh
  if ← readerIsEmpty then return fresh
  let count ← boundedCount Config.maxActiveSessions
  let saved ← decodeMany readSavedContext count
  let counter ← u64
  if version < firstWithObjectCounter then return fresh.restoreSavedContexts [] counter counter
  let objectCounter ← u64
  return fresh.restoreSavedContexts saved counter objectCounter

def readWrittenStrict (version : UInt32) : Reader Bool :=
  if version ≠ stateVersionWithoutProfile then readBit else return false

end

end Record

namespace TpmState

section

variable [Primitives]

def save (s : TpmState) : Bytes :=
  be32 stateVersion ++ beBool isStrict ++ beBool s.manufactured ++ saveHierarchies s.hierarchies ++ s.lockout.marshal ++
    s.permanent.marshal ++ s.clock.marshal ++ be32 s.algorithmSet ++ sized16 s.lockoutAuth ++ s.lockoutPolicy.marshal ++
    sized16 s.pcrAuth ++ s.pcrPolicy.marshal ++ be16 s.shutdownType ++ savePcrAllocation s.pcrAllocation ++
    s.pcr.marshalValues ++ be32 s.pcr.updateCounter ++ writeCodes s.ppCommands ++ saveAudit s.audit ++ saveNv s.nv ++
    savePersistent s.persistent ++ saveCommits s.commits ++ saveAct s.act s.everStarted ++ saveStartup s ++
    saveSavedContexts s.sessions

def read (fresh : TpmState) : Reader TpmState := do
  let version ← u32
  if !knownVersions.contains version then throw Rc.badContext
  let writtenStrict ← readWrittenStrict version
  if writtenStrict ≠ isStrict then throw Rc.badContext
  let manufactured ← readFlag
  let hierarchies ← readHierarchies version fresh.hierarchies
  let lockout ← LockoutState.unmarshal
  let permanent ← Flags32.unmarshal
  let clock ← ClockState.read version
  let drawn ← drawResetValue fresh.rng clock
  let algorithmSet ← u32
  let lockoutAuth ← readSized
  let lockoutPolicy ← TpmtHa.unmarshal
  let pcrAuth ← readSized
  let pcrPolicy ← TpmtHa.unmarshal
  let shutdownType ← u16
  let pcrAllocation ← readPcrAllocation version
  let pcr ← readPcr pcrAllocation
  let ppCommands ← readCodes
  let audit ← readAudit fresh.audit
  let nv ← readNv version
  let persistent ← readPersistent version
  let commits ← readCommits fresh.commits
  let act ← readAct fresh.act fresh.everStarted
  let s ← readStartup version { fresh with
    manufactured, hierarchies, lockout, permanent, algorithmSet, lockoutAuth, lockoutPolicy, pcrAuth, pcrPolicy
    shutdownType, pcrAllocation, pcr, ppCommands, audit, nv, persistent, commits
    clock := drawn.1
    rng := drawn.2
    act := act.1
    everStarted := act.2
    startupMethodUnknown := decide (version < firstWithHcrtmMethod) }
  let sessions ← readSavedContexts version fresh.sessions
  if !(← readerIsEmpty) then throw Rc.badContext
  return { s with sessions }

-- `fresh` is the TPM that `load` has made before it reads.
def load (fresh : TpmState) (data : Bytes) : TpmResult TpmState := Prod.fst <$> (read fresh).run data

end

end TpmState

end Swtrust
