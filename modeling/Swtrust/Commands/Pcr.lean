import Swtrust.Commands.Hashing

set_option autoImplicit false

namespace Swtrust

open Library

structure AllocationScope where
  allocation : PcrAllocation
  pending : Bool
  deriving DecidableEq

def TpmState.zoomAllocation {α : Type} : Action TpmRc AllocationScope α → TpmM α :=
  Action.zoom (fun s => ⟨s.pcrAllocation, s.pcrAllocationPending⟩) fun t s =>
    { s with pcrAllocation := t.allocation, pcrAllocationPending := t.pending }

def pcrIndex (handle : UInt32) : TpmResult Nat :=
  if handle ≤ Hc.pcrLast then .ok handle.toNat else .error (Rc.value.withHandle 1)

def extendError (e : TpmRc) : TpmRc := if e = Rc.locality then e else e.withParameter 1

def extendPairs : List TpmtHa → TpmResult (List (UInt16 × Bytes))
  | [] => .ok []
  | ha :: rest => do
    if ha.hashAlg = Alg.null then throw (Rc.hash.withParameter 1)
    return (ha.hashAlg, ha.digest) :: (← extendPairs rest)

-- Leaves selected the first `remaining` of the registers that the selections name.
def limitSelect (remaining : Nat) (select : PcrSelect) : Nat × PcrSelect :=
  let indices := select.selected
  (remaining - indices.length, (indices.drop remaining).foldl PcrSelect.deselect select)

def limitSelection : Nat → TpmlPcrSelection → TpmlPcrSelection
  | _, [] => []
  | remaining, sel :: rest =>
      let (left, select) := limitSelect remaining sel.select
      { sel with select } :: limitSelection left rest

def pcrReadMax : Nat := 8

def selectedBits (select : PcrSelect) : List Bool := (List.range Config.implementationPcr).map select.isSelected

def putBank (allocation : PcrAllocation) (hashAlg : UInt16) (bits : List Bool) : PcrAllocation :=
  let kept := allocation.filter fun bank => bank.1 != hashAlg
  if bits.any id then kept ++ [(hashAlg, bits)] else kept

def isAllocatedAnywhere (allocation : PcrAllocation) (index : Nat) : Bool :=
  allocation.any fun bank => bank.2[index]?.getD false

section

variable [Profile]

def allocateBanks (allocation : PcrAllocation) : TpmlPcrSelection → TpmResult PcrAllocation
  | [] => .ok allocation
  | sel :: rest => do
    if !Config.implementedPcrBanks.contains sel.hashAlg then throw (Rc.hash.withParameter 1)
    if sel.select.selected.any fun index => decide (Config.implementationPcr ≤ index) then
      throw (Rc.value.withParameter 1)
    allocateBanks (putBank allocation sel.hashAlg (selectedBits sel.select)) rest

def checkAllocation (allocation : PcrAllocation) : TpmResult Unit := do
  if allocation.isEmpty then throw (Rc.value.withParameter 1)
  if !([Config.drtmPcr, Config.hcrtmPcr].all (isAllocatedAnywhere allocation)) then throw (Rc.pcr.withParameter 1)
  if Config.hashCount < allocation.length then throw (Rc.size.withParameter 1)

end

section

variable [Primitives] (s : TpmState) (request : Request)

def pcrExtend : Action TpmRc PcrBanks Response := do
  let index ← pcrIndex (← request.handle 0)
  let digests ← request.params (TpmlDigestValues.unmarshal.withParameter 1)
  let pairs ← extendPairs digests
  Action.withErr extendError (PcrBanks.extend index request.locality pairs)
  return .empty

def pcrEvent : Action TpmRc PcrBanks Response := do
  let handle ← request.handle 0
  let event : Tpm2bEvent ← request.params (Reader.withParameter 1 Tpm2b.unmarshal)
  let digests ←
    if handle = Rh.null then PcrBanks.hashAll event.buffer (← get).algorithms
    else do
      let index ← pcrIndex handle
      PcrBanks.event index request.locality event.buffer
  return .of (← marshalDigestValues digests)

def marshalDigests : List Bytes → TpmResult Bytes
  | [] => .ok []
  | digest :: rest => do
    let head : Tpm2bDigest ← Tpm2b.new digest
    return head.marshal ++ (← marshalDigests rest)

def pcrRead : TpmResult Response := do
  let requested ← request.params (TpmlPcrSelection.unmarshal.withParameter 1)
  let filtered := s.pcr.filterSelection requested
  let selected :=
    if pcrReadMax < (s.pcr.readSelection filtered).length then limitSelection pcrReadMax filtered else filtered
  let values := s.pcr.readSelection selected
  return .of (be32 s.pcr.updateCounter ++ TpmlPcrSelection.marshal selected ++ be32 (UInt32.ofNat values.length) ++
    (← marshalDigests values))

-- The new allocation takes effect at the next _TPM_Init.
def pcrAllocate : Action TpmRc AllocationScope Response := do
  let requested ← request.params (TpmlPcrSelection.unmarshal.withParameter 1)
  let allocation ← allocateBanks (← get).allocation requested
  checkAllocation allocation
  set (⟨allocation, true⟩ : AllocationScope)
  let maxPcr := UInt32.ofNat Config.implementationPcr
  let sizeNeeded := UInt32.ofNat allocation.length * maxPcr
  return .of (be8 1 ++ be32 maxPcr ++ be32 sizeNeeded ++ be32 (UInt32.ofNat s.nv.available))

def pcrSetAuthPolicy : TpmResult Response := do
  let _ ← request.params do
    let _ : Tpm2bDigest ← Reader.withParameter 1 Tpm2b.unmarshal
    let _ ← Reader.withParameter 2 u16
    Reader.withParameter 3 u32
  throw (Rc.value.withParameter 3)

def pcrSetAuthValue : TpmResult Response := do
  let _ : Tpm2bDigest ← request.params (Reader.withParameter 1 Tpm2b.unmarshal)
  throw (Rc.value.withHandle 1)

def pcrReset : Action TpmRc PcrBanks Response := do
  let index ← pcrIndex (← request.handle 0)
  set (← (← get).reset index request.locality)
  return .notReading request []

end

end Swtrust
