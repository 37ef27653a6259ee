import Swtrust.Device
import Swtrust.Toy

set_option autoImplicit false

namespace Swtrust

open Library

-- The state file holds the state it was written from. Its octets are left out, and with them what `load` refuses; a
-- write may fail.
structure Tpm where
  state : TpmState
  powered : Bool := false
  store : TpmState
  deriving DecidableEq

structure NvWitness where
  failedTries : UInt32
  inLockout : Bool
  auditCounter : UInt64
  auditDigest : Bytes
  deriving DecidableEq

def TpmState.witness (s : TpmState) : NvWitness where
  failedTries := s.lockout.failedTries
  inLockout := s.lockout.inLockout
  auditCounter := s.audit.counter
  auditDigest := s.audit.digest

def writesNv (code : UInt32) : Bool := ((Table.lookup code).map (·.nv)).getD false

-- A command whose header cannot be read writes nothing.
def commandWritesNv (command : Bytes) : Bool := found (parseHeader command) fun header => writesNv header.code

def ClockState.restored (clock : ClockState) (resetValue : Bytes) : ClockState where
  clock := clock.clock
  resetCount := clock.resetCount
  restartCount := clock.restartCount
  clearCount := clock.clearCount
  resetValue := resetValue
  safe := clock.safe
  totalResetCount := clock.totalResetCount
  timeEpoch := clock.timeEpoch

namespace TpmState

section

variable [Primitives]

-- The saved registers go where a bank of their width is allocated.
def restoredPcr (fresh saved : TpmState) (allocation : PcrAllocation) : PcrBanks :=
  let made := (PcrBanks.new allocation).toOption.getD fresh.pcr
  { made with
    banks := made.banks.mapValues fun hashAlg bank =>
      let values := (saved.pcr.banks.get hashAlg).getD []
      bank.mapIdx fun index register =>
        match values[index]? with
        | some value => if value.length = register.length then value else register
        | none => register
    updateCounter := saved.pcr.updateCounter }

def restoredObject (object : Object) : Object := { object with
  qualifiedName := ((qualifiedName object.area.nameAlg (Swtrust.handleName object.hierarchy) object.name :
    TpmResult Bytes).toOption).getD object.qualifiedName }

-- Every Index is defined again, which notes how far each counter has come.
def restoredNv (saved : NvStore) : NvStore := saved.indices.values.foldl NvStore.noteCounter saved

-- What `load` makes of the file: a TPM fresh from manufacture with everything that was saved.
def restored (fresh saved : TpmState) : TpmState :=
  let implemented := saved.pcrAllocation.filter fun bank => Config.implementedPcrBanks.contains bank.1
  let allocation := if implemented.isEmpty then PcrBanks.wholeBanks Config.defaultPcrBanks else implemented
  let (resetValue, rng) :=
    if !saved.clock.resetValue.isEmpty then (saved.clock.resetValue, fresh.rng)
    else
      let drawn := do Drbg.run (Drbg.bytes (← Hash.digestSize Config.contextIntegrityHashAlg)) fresh.rng
      drawn.toOption.getD ([], fresh.rng)
  { fresh with
    manufactured := saved.manufactured
    hierarchies := { saved.hierarchies with firmwareCode := fresh.hierarchies.firmwareCode }
    lockout := { saved.lockout with lockoutUntil := 0 }
    permanent := saved.permanent
    clock := saved.clock.restored resetValue
    rng
    algorithmSet := saved.algorithmSet
    lockoutAuth := saved.lockoutAuth
    lockoutPolicy := saved.lockoutPolicy
    pcrAuth := saved.pcrAuth
    pcrPolicy := saved.pcrPolicy
    shutdownType := saved.shutdownType
    pcrAllocation := allocation
    pcr := restoredPcr fresh saved allocation
    ppCommands := saved.ppCommands
    audit := { saved.audit with exclusiveSession := fresh.audit.exclusiveSession }
    nv := restoredNv saved.nv
    persistent := saved.persistent.mapValues fun _ object => restoredObject object
    commits := if saved.commits.isReady then saved.commits else fresh.commits
    act := { fresh.act with
      timeout := saved.act.timeout, signaled := saved.act.signaled, fraction := 0, written := false
      policy := saved.act.policy }
    everStarted := saved.everStarted
    startupClear := saved.startupClear
    hcrtmAtLastStartup := saved.hcrtmAtLastStartup
    startupLocality := saved.startupLocality
    startupMethodUnknown := false
    sessions := fresh.sessions.restoreSavedContexts saved.sessions.saved.entries saved.sessions.contextCounter
      saved.sessions.objectCounter }

def closeNv (s : TpmState) : TpmState := { s with
  nvAvailable := false
  nvWriteFailed := true
  failureMode := true
  selfTestDone := false
  testFailure := some "nv write" }

end

end TpmState

-- What reaches the device. `written` is whether the file can be written then; `fresh` is what `load` starts from.
inductive Signal where
  | execute (elapsed : UInt64) (written : Bool) (locality : UInt8) (command : Bytes)
  | powerOn (fresh : TpmState)
  | powerOff (written : Bool)
  | nv (available : Bool)
  | physicalPresence (asserted : Bool)
  | hashStart
  | hashData (data : Bytes)
  | hashEnd
  | actGetSignaled (act : UInt32) (elapsed : UInt64) (written : Bool)
  | restart (fresh : TpmState)
  deriving DecidableEq

namespace Tpm

section

variable [Primitives]

-- A TPM that has just been manufactured, and its first write.
def manufactured (s : TpmState) : Tpm where
  state := s
  store := s

def persist (written : Bool) (t : Tpm) : Bool × Tpm :=
  if t.state.nvWriteFailed || !written then (false, t) else (true, { t with store := t.state })

-- The time that passed since the last command is credited before the command runs.
def arrive (t : Tpm) (elapsed : UInt64) : Bool × TpmState :=
  ({ t.state with hcrtmSequence := none } : TpmState).advanceTime elapsed

def ran (t : Tpm) (elapsed : UInt64) (locality : UInt8) (command : Bytes) : Bytes × TpmState :=
  (t.arrive elapsed).2.run locality command

def execute (elapsed : UInt64) (written : Bool) (locality : UInt8) (command : Bytes) (t : Tpm) : Bytes × Tpm :=
  if !t.powered then (errorResponse Rc.notInitialized, t)
  else
    let clockRolledOver := (t.arrive elapsed).1
    let (response, s) := t.ran elapsed locality command
    let writesNv := commandWritesNv command || decide (s.witness ≠ t.state.witness)
    if writesNv || clockRolledOver then
      match ({ t with state := s } : Tpm).persist written with
      | (true, t) => (response, t)
      | (false, t) => (if writesNv then errorResponse Rc.nvUnavailable else response, { t with state := t.state.closeNv })
    else (response, { t with state := s })

-- After a write that failed the file is read again.
def powerOn (fresh : TpmState) (t : Tpm) : Tpm :=
  let s :=
    if t.state.nvWriteFailed then
      let read := TpmState.restored fresh t.store
      { read with
        hierarchies := { read.hierarchies with firmwareCode := t.state.hierarchies.firmwareCode }
        testDigest := t.state.testDigest }
    else t.state
  { t with state := s.powerOn, powered := true }

def powerOff (written : Bool) (t : Tpm) : Tpm :=
  let t := (t.persist written).2
  { t with state := t.state.powerOff, powered := false }

-- There is one timer; no other number is credited any time.
def actGetSignaled (act : UInt32) (elapsed : UInt64) (written : Bool) (t : Tpm) : Bool × Tpm :=
  if act ≠ 0 then (false, t)
  else
    let (rolled, s) := t.state.advanceTime (if t.powered then elapsed else 0)
    let t := { t with state := s }
    (s.act.signaled, if rolled then (t.persist written).2 else t)

-- The process was killed, and another starts from the file.
def restart (fresh : TpmState) (t : Tpm) : Tpm :=
  let read := TpmState.restored fresh t.store
  let integrity := Primitives.integrityTest.toOption.getD []
  { t with
    state := { read with
      hierarchies := { read.hierarchies with firmwareCode := integrity }
      testDigest := integrity
      selfTestDone := true
      testFailure := none }
    powered := false }

def after (t : Tpm) : Signal → Tpm
  | .execute elapsed written locality command => (t.execute elapsed written locality command).2
  | .powerOn fresh => t.powerOn fresh
  | .powerOff written => t.powerOff written
  | .nv available => { t with state := t.state.after (.nv available) }
  | .physicalPresence asserted => { t with state := t.state.after (.physicalPresence asserted) }
  | .hashStart => { t with state := t.state.hashStart }
  | .hashData data => { t with state := t.state.hashData data }
  | .hashEnd => { t with state := t.state.hashEnd }
  | .actGetSignaled act elapsed written => (t.actGetSignaled act elapsed written).2
  | .restart fresh => t.restart fresh

def afterAll (t : Tpm) (signals : List Signal) : Tpm := signals.foldl after t

end

end Tpm

namespace Toy

-- The commands one after the other in no time, each with a file that can be written.
def sent (commands : List Bytes) : List Signal := commands.map fun command => .execute 0 true 0 command

def startedWith (commands : List Bytes) : List Signal :=
  .powerOn blank :: sent (plainCommand Cc.startup [] (be16 Su.clear) :: commands)

end Toy

end Swtrust
