import Swtrust.Commands.Execute
import Swtrust.Library.Run

set_option autoImplicit false

namespace Swtrust

open Library

-- What can happen to a TPM whose state file can be written: Time passes, a command arrives, the power goes and comes
-- back, and the other signals of a platform.
inductive Event where
  | elapse (millis : UInt64)
  | command (locality : UInt8) (octets : Bytes)
  | powerOn
  | powerOff
  | nv (available : Bool)
  | physicalPresence (asserted : Bool)
  | hashStart
  | hashData (data : Bytes)
  | hashEnd
  deriving DecidableEq

def Event.isCommand (event : Event) (code : UInt32) : Bool :=
  match event with
  | .command locality octets => found (parse octets locality) (·.code == code)
  | _ => false

namespace TpmState

section

variable [Primitives]

def powerOn (s : TpmState) : TpmState :=
  let s := if s.nvWriteFailed then { s with failureMode := true, testFailure := some "nv write" } else s
  let s := Action.final (onInit { s with started := false })
  let s := { s with
    objects := SortedMap.empty
    sessions := s.sessions.flushLoaded
    physicalPresence := false
    failureMode := s.nvWriteFailed && s.failureMode
    clock := { s.clock with time := 0 } }
  Action.final (zoomTest runSelfTests s)

def powerOff (s : TpmState) : TpmState :=
  { s with started := false, objects := SortedMap.empty, sessions := s.sessions.flushLoaded }

def hashStart (s : TpmState) : TpmState :=
  { s with hcrtmSequence := some ((s.pcr.algorithms.filter Hash.isSupported).map fun a => (a, [])) }

def hashData (data : Bytes) (s : TpmState) : TpmState :=
  { s with hcrtmSequence := s.hcrtmSequence.map fun sequence => sequence.map fun (a, octets) => (a, octets ++ data) }

def sequenceDigests (sequence : List (UInt16 × Bytes)) : List (UInt16 × Bytes) :=
  sequence.filterMap fun (a, octets) => (Hash.digest a octets).toOption.map fun digest => (a, digest)

def extendDrtm (pcr : PcrBanks) (digest : UInt16 × Bytes) : PcrBanks :=
  Action.final (PcrBanks.extend Config.drtmPcr 4 [digest] pcr)

def measureHcrtm (s : TpmState) (digest : UInt16 × Bytes) : TpmState :=
  match Hash.digestSize digest.1 with
  | .error _ | .ok 0 => s
  | .ok (size + 1) =>
    match s.pcr.setRegister digest.1 Config.hcrtmPcr (List.replicate size 0 ++ [4]) with
    | .error _ => s
    | .ok pcr => { s with
        pcr := Action.final (PcrBanks.extend Config.hcrtmPcr 4 [digest] pcr)
        hcrtmBeforeStartup := true }

def hashEnd (s : TpmState) : TpmState :=
  match s.hcrtmSequence with
  | none => s
  | some sequence =>
    let digests := sequenceDigests sequence
    let before := s.pcr.updateCounter
    let s := { s with hcrtmSequence := none }
    if s.started then
      let pcr := digests.foldl extendDrtm s.pcr.drtmReset
      let updateCounter := before + (if Pcr.noIncrement Config.drtmPcr then 0 else 1)
      { s with
        pcr := { pcr with updateCounter }
        clock := { s.clock with restartCount := s.clock.restartCount + 1 } }
    else
      let s := digests.foldl measureHcrtm s
      { s with pcr := { s.pcr with updateCounter := before } }

-- A command finds no H-CRTM sequence open: `Device::execute` closes it first. It also refuses every command while the
-- power is off; that is not asked here, so a run of events may send more than the device would take.
def after (s : TpmState) : Event → TpmState
  | .elapse millis => (s.advanceTime millis).2
  | .command locality octets => (run locality octets { s with hcrtmSequence := none }).2
  | .powerOn => s.powerOn
  | .powerOff => s.powerOff
  | .nv available => { s with nvAvailable := available }
  | .physicalPresence asserted => { s with physicalPresence := asserted }
  | .hashStart => s.hashStart
  | .hashData data => s.hashData data
  | .hashEnd => s.hashEnd

def afterAll (s : TpmState) (events : List Event) : TpmState := events.foldl after s

theorem after_all_append (s : TpmState) (first second : List Event) :
    s.afterAll (first ++ second) = (s.afterAll first).afterAll second := List.foldl_append

theorem after_all_concat (s : TpmState) (events : List Event) (event : Event) :
    s.afterAll (events ++ [event]) = (s.afterAll events).after event := by
  rw [after_all_append]
  rfl

def EveryEvent (condition : TpmState → Event → Prop) (s : TpmState) (events : List Event) : Prop :=
  Every after condition s events

instance (condition : TpmState → Event → Prop) [∀ s event, Decidable (condition s event)] (s : TpmState)
    (events : List Event) : Decidable (s.EveryEvent condition events) :=
  inferInstanceAs (Decidable (Every after condition s events))

end

end TpmState

end Swtrust
