import Swtrust.Core.Hierarchy

set_option autoImplicit false

namespace Swtrust

open Library

structure Act where
  timeout : UInt32 := 0
  signaled : Bool := false
  preserveSignaled : Bool := false
  fraction : UInt64 := 0
  written : Bool := false
  policy : TpmtHa := TpmtHa.null
  deriving DecidableEq

namespace Act

def clearSignaled : UInt32 := 0xFFFFFFFF

def attributes (act : Act) : UInt32 :=
  (if act.signaled then 1 else 0) ||| (if act.preserveSignaled then 2 else 0)

def advance (act : Act) (millis : UInt64) : Act :=
  if act.timeout = 0 then act
  else
    let total := satAdd act.fraction millis
    let seconds := total / 1000
    let act := { act with fraction := total % 1000 }
    if seconds = 0 then act
    else if act.timeout.toUInt64 ≤ seconds then { act with timeout := 0, signaled := true }
    else { act with timeout := act.timeout - seconds.toUInt32 }

def setTimeout (act : Act) (start : UInt32) : Act :=
  let act := { act with written := true, fraction := 0 }
  if start = clearSignaled ∧ act.timeout = 0 ∧ act.signaled then
    { act with signaled := false, preserveSignaled := false }
  else
    let signaled :=
      if start ≠ 0 then false
      else if act.timeout = 0 then act.signaled
      else true
    { act with signaled, timeout := start, preserveSignaled := false }

def onReset (_ : Act) : Act := {}

def onResume (act : Act) : Act := { act with preserveSignaled := act.signaled, written := false, fraction := 0 }

def savedTimeout (act : Act) : UInt32 := if act.written then act.timeout else act.timeout / 2

def onShutdownState (act : Act) : Act := { act with timeout := act.savedTimeout, written := false, fraction := 0 }

def restore (act : Act) (timeout : UInt32) (signaled : Bool) : Act :=
  { act with timeout, signaled, fraction := 0, written := false }

end Act

structure Commits where
  random : Bytes := []
  count : UInt64 := 0
  used : Bytes := []
  deriving DecidableEq

namespace Commits

def isReady (commits : Commits) : Bool := !commits.random.isEmpty && !commits.used.isEmpty

def index (counter : UInt64) : Nat := counter.toNat % Config.maxCommitSequences

def isSet (commits : Commits) (counter : UInt64) : Bool :=
  match commits.used[index counter / 8]? with
  | some octet => octet.toNat.testBit (index counter % 8)
  | none => false

def setBit (commits : Commits) (counter : UInt64) (on : Bool) : Commits :=
  let bit : UInt8 := 1 <<< UInt8.ofNat (index counter % 8)
  { commits with used := commits.used.modify (index counter / 8) fun octet => if on then octet ||| bit else octet &&& ~~~bit }

def fullCounter (commits : Commits) (counter : UInt16) : TpmResult UInt64 :=
  let age := commits.count.toUInt16 - counter
  if age = 0 ∨ Config.maxCommitSequences ≤ age.toNat then .error Rc.range
  else if !commits.isSet counter.toUInt64 then .error Rc.value
  else if commits.count < age.toUInt64 then .error Rc.value
  else .ok (commits.count - age.toUInt64)

def take (commits : Commits) : Commits :=
  { commits.setBit commits.count true with count := commits.count + 1 }

section

variable [Crypto]

def reset : Action TpmRc (Commits × Drbg) Unit := do
  let random ← Hierarchy.rngBytes Config.commitNonceBytes
  modify fun (_, rng) => ({ random, count := 0, used := List.replicate (Config.maxCommitSequences / 8) 0 }, rng)

def derive (commits : Commits) (nameAlg : UInt16) (name : Bytes) (counter : UInt64) (bits : UInt32) : TpmResult Bytes :=
  if !commits.isReady then .error Rc.noResult
  else kdfa nameAlg commits.random (ascii "ECDAA Commit") name (be64 counter) bits

def next (commits : Commits) (nameAlg : UInt16) (name : Bytes) (bits : UInt32) : TpmResult (Bytes × UInt16) := do
  if !commits.isReady then throw Rc.noResult
  let r ← commits.derive nameAlg name commits.count bits
  return (r, commits.count.toUInt16)

def useCounter (commits : Commits) (nameAlg : UInt16) (name : Bytes) (counter : UInt16) (bits : UInt32) :
    TpmResult (Bytes × Commits) := do
  let full ← commits.fullCounter counter
  let r ← commits.derive nameAlg name full bits
  return (r, commits.setBit full false)

end

end Commits

end Swtrust
