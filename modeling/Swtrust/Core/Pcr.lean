import Swtrust.Library.SortedMap
import Swtrust.Crypto

set_option autoImplicit false

namespace Swtrust

open Library

abbrev PcrAllocation := List (UInt16 × List Bool)

structure PcrAttributes where
  resetLocality : UInt8
  extendLocality : UInt8
  startsAtOnes : Bool

namespace Pcr

def allLocalities : UInt8 := 0x1F
def localityFour : UInt8 := 0x10
def localityTwoToFour : UInt8 := 0x1C
def localityZeroToThree : UInt8 := 0x0F
def localityOneToThree : UInt8 := 0x0E
def localityTwoAndThree : UInt8 := 0x0C
def localityTwo : UInt8 := 0x04

def attributes (index : Nat) : PcrAttributes :=
  if index ≤ 15 then ⟨0, allLocalities, false⟩
  else if index = 16 ∨ index = 23 then ⟨localityZeroToThree, allLocalities, false⟩
  else if index = 17 ∨ index = 18 then ⟨0, localityTwoToFour, true⟩
  else if index = 19 then ⟨0, localityTwoAndThree, true⟩
  else if index = 20 then ⟨localityTwoAndThree, localityOneToThree, true⟩
  else if index = 21 ∨ index = 22 then ⟨localityTwoAndThree, localityTwo, true⟩
  else ⟨0, 0, false⟩

def resetCapabilityLocality (index : Nat) : UInt8 :=
  let attrs := attributes index
  if attrs.startsAtOnes then attrs.resetLocality ||| localityFour else attrs.resetLocality

def isSaved (index : Nat) : Bool := decide (index ≤ 15)

def isImplemented (index : Nat) : Bool := decide (index < Config.implementationPcr)

def noIncrement (index : Nat) : Bool := [16, 21, 22, 23].contains index

def fill (size index : Nat) : Bytes := List.replicate size (if (attributes index).startsAtOnes then 0xff else 0x00)

def allowsLocality (mask locality : UInt8) : Bool := decide (locality ≤ 4) && mask &&& (1 <<< locality) != 0

end Pcr

abbrev PcrBank := List Bytes

structure PcrBanks where
  banks : SortedMap UInt16 PcrBank
  allocated : SortedMap UInt16 (List Bool)
  updateCounter : UInt32
  deriving DecidableEq

def sizeOr0 [Profile] (hashAlg : UInt16) : Nat := (digestSize hashAlg).getD 0

namespace PcrBanks

def empty : PcrBanks := ⟨SortedMap.empty, SortedMap.empty, 0⟩

def wholeBanks (algorithms : List UInt16) : PcrAllocation :=
  algorithms.map fun a => (a, List.replicate Config.implementationPcr true)

def hasPcr (pcr : PcrBanks) (hashAlg : UInt16) (index : Nat) : Bool :=
  match pcr.allocated.get hashAlg with
  | some bits => bits[index]?.getD false
  | none => false

def allocation (pcr : PcrBanks) : PcrAllocation := pcr.allocated.entries

def algorithms (pcr : PcrBanks) : List UInt16 := pcr.banks.keys

def hasBank (pcr : PcrBanks) (hashAlg : UInt16) : Bool := pcr.banks.contains hashAlg

def resetUpdateCounter (pcr : PcrBanks) : PcrBanks := { pcr with updateCounter := 0 }

def bumpUpdateCounter (pcr : PcrBanks) : PcrBanks := { pcr with updateCounter := pcr.updateCounter + 1 }

def count (pcr : PcrBanks) (index : Nat) : PcrBanks :=
  if Pcr.noIncrement index then pcr else pcr.bumpUpdateCounter

section

variable [Profile]

def resetRegister (keep : Option Nat) (startupLocality : UInt8) (size index : Nat) (register : Bytes) : Bytes :=
  if keep = some index then register
  else
    let value := Pcr.fill size index
    if index = Config.hcrtmPcr then value.dropLast ++ (if value.isEmpty then [] else [startupLocality]) else value

def resetAllBut (pcr : PcrBanks) (keep : Option Nat) (startupLocality : UInt8) : PcrBanks :=
  { pcr with banks := pcr.banks.mapValues fun a bank =>
      bank.mapIdx fun index register => resetRegister keep startupLocality (sizeOr0 a) index register }

def allocateInto (maps : SortedMap UInt16 PcrBank × SortedMap UInt16 (List Bool)) :
    PcrAllocation → TpmResult (SortedMap UInt16 PcrBank × SortedMap UInt16 (List Bool))
  | [] => .ok maps
  | (a, bits) :: rest =>
      if bits.any id then
        match digestSize a with
        | none => .error Rc.hash
        | some size =>
          let bank := List.replicate Config.implementationPcr (List.replicate size 0)
          let flags := bits.take Config.implementationPcr ++
            List.replicate (Config.implementationPcr - bits.length) false
          allocateInto (maps.1.insert a bank, maps.2.insert a flags) rest
      else allocateInto maps rest

def allocate (pcr : PcrBanks) (allocation : PcrAllocation) : TpmResult PcrBanks := do
  let (banks, allocated) ← allocateInto (SortedMap.empty, SortedMap.empty) allocation
  return { pcr with banks, allocated }.resetAllBut none 0

def new (allocation : PcrAllocation) : TpmResult PcrBanks := empty.allocate allocation

def onResume (pcr : PcrBanks) : PcrBanks :=
  { pcr with banks := pcr.banks.mapValues fun a bank =>
      match digestSize a with
      | none => bank
      | some size => bank.mapIdx fun index register => if Pcr.isSaved index then register else Pcr.fill size index }

def marshalValues (pcr : PcrBanks) : Bytes :=
  be32 (UInt32.ofNat pcr.banks.size) ++ pcr.banks.entries.flatMap fun (a, bank) =>
    be16 a ++ be32 (UInt32.ofNat bank.length) ++ bank.flatMap sized16

def putRegister (pcr : PcrBanks) (hashAlg : UInt16) (index : Nat) (value : Bytes) : PcrBanks :=
  match pcr.banks.get hashAlg with
  | none => pcr
  | some bank =>
    match bank[index]? with
    | none => pcr
    | some slot =>
      if slot.length = value.length then { pcr with banks := pcr.banks.insert hashAlg (bank.set index value) } else pcr

def unmarshalRegisters (hashAlg : UInt16) : Nat → Nat → PcrBanks → Reader PcrBanks
  | 0, _, pcr => return pcr
  | count + 1, index, pcr => do
    let value ← readSized
    unmarshalRegisters hashAlg count (index + 1) (pcr.putRegister hashAlg index value)

def unmarshalBanks : Nat → PcrBanks → Reader PcrBanks
  | 0, pcr => return pcr
  | count + 1, pcr => do
    let hashAlg ← u16
    let registers ← u32
    let pcr ← unmarshalRegisters hashAlg registers.toNat 0 pcr
    unmarshalBanks count pcr

def unmarshalValues (pcr : PcrBanks) : Reader PcrBanks := do
  let banks ← u32
  unmarshalBanks banks.toNat pcr

def drtmBank (size : Nat) (bank : PcrBank) : PcrBank :=
  bank.mapIdx fun index register => if (Pcr.attributes index).startsAtOnes then List.replicate size 0 else register

def drtmChanges (size : Nat) (bank : PcrBank) : Bool :=
  (bank.mapIdx fun index register =>
    (Pcr.attributes index).startsAtOnes && register != List.replicate size 0 && !Pcr.noIncrement index).any id

def drtmReset (pcr : PcrBanks) : PcrBanks :=
  let changed := pcr.banks.entries.any fun (a, bank) => drtmChanges (sizeOr0 a) bank
  let reset := { pcr with banks := pcr.banks.mapValues fun a bank => drtmBank (sizeOr0 a) bank }
  if changed then reset.bumpUpdateCounter else reset

def setRegister (pcr : PcrBanks) (hashAlg : UInt16) (index : Nat) (digest : Bytes) : TpmResult PcrBanks := do
  if !Pcr.isImplemented index then throw Rc.value
  match digestSize hashAlg with
  | none => throw Rc.hash
  | some size =>
    if digest.length ≠ size then throw Rc.size
    match pcr.banks.get hashAlg with
    | none => throw Rc.value
    | some bank => return { pcr with banks := pcr.banks.insert hashAlg (bank.set index digest) }.count index

def reset (pcr : PcrBanks) (index : Nat) (locality : UInt8) : TpmResult PcrBanks :=
  if !pcr.algorithms.any (fun a => pcr.hasPcr a index) then .ok pcr
  else if !Pcr.isImplemented index then .error Rc.value
  else if !Pcr.allowsLocality (Pcr.attributes index).resetLocality locality then .error Rc.locality
  else
    let banks := pcr.banks.mapValues fun a bank => bank.set index (List.replicate (sizeOr0 a) 0)
    .ok ({ pcr with banks }.count index)

end

section

variable [Crypto]

def extendDigest (hashAlg : UInt16) (index : Nat) (digest : Bytes) : Action TpmRc PcrBanks Unit := do
  let pcr ← get
  if !pcr.hasPcr hashAlg index then return
  if !Pcr.isImplemented index then throw Rc.value
  match digestSize hashAlg with
  | none => throw Rc.hash
  | some size =>
    if digest.length ≠ size then throw Rc.size
    match pcr.banks.get hashAlg with
    | none => throw Rc.value
    | some bank =>
      let next ← Hash.digestParts hashAlg [bank[index]?.getD [], digest]
      set { pcr with banks := pcr.banks.insert hashAlg (bank.set index next) }

def checkDigests (pcr : PcrBanks) : List (UInt16 × Bytes) → TpmResult Unit
  | [] => .ok ()
  | (a, digest) :: rest =>
      if !pcr.hasBank a then checkDigests pcr rest
      else match digestSize a with
        | none => .error Rc.hash
        | some size => if digest.length ≠ size then .error Rc.size else checkDigests pcr rest

def extendAll (index : Nat) : List (UInt16 × Bytes) → List UInt16 → Action TpmRc PcrBanks (List UInt16)
  | [], counted => return counted
  | (a, digest) :: rest, counted => do
    if !(← get).hasBank a then extendAll index rest counted
    else
      extendDigest a index digest
      extendAll index rest (if counted.contains a then counted else counted ++ [a])

def extend (index : Nat) (locality : UInt8) (digests : List (UInt16 × Bytes)) : Action TpmRc PcrBanks Unit := do
  if !Pcr.isImplemented index then throw Rc.value
  if !Pcr.allowsLocality (Pcr.attributes index).extendLocality locality then throw Rc.locality
  checkDigests (← get) digests
  let counted ← extendAll index digests []
  if !Pcr.noIncrement index then
    modify fun pcr => { pcr with updateCounter := pcr.updateCounter + UInt32.ofNat counted.length }

def hashAll (data : Bytes) : List UInt16 → TpmResult (List (UInt16 × Bytes))
  | [] => .ok []
  | a :: rest => do
    let digest ← Hash.digest a data
    return (a, digest) :: (← hashAll data rest)

def event (index : Nat) (locality : UInt8) (data : Bytes) : Action TpmRc PcrBanks (List (UInt16 × Bytes)) := do
  let digests ← hashAll data (← get).algorithms
  extend index locality digests
  return digests

def readSelection (pcr : PcrBanks) (selection : TpmlPcrSelection) : List Bytes :=
  selection.flatMap fun sel =>
    match pcr.banks.get sel.hashAlg with
    | none => []
    | some bank => (sel.select.selected.filter (· < Config.implementationPcr)).map fun index => bank[index]?.getD []

def selectionDigest (pcr : PcrBanks) (hashAlg : UInt16) (selection : TpmlPcrSelection) : TpmResult Bytes :=
  Hash.digestParts hashAlg (pcr.readSelection selection)

def filterSelect (pcr : PcrBanks) (sel : PcrSelection) : PcrSelect :=
  let blank : PcrSelect := ⟨List.replicate (max sel.select.bits.length Config.pcrSelectMin) 0⟩
  if pcr.banks.contains sel.hashAlg then
    (sel.select.selected.filter fun index =>
      decide (index < Config.implementationPcr) && pcr.hasPcr sel.hashAlg index).foldl PcrSelect.selectIn blank
  else blank

def filterSelection (pcr : PcrBanks) (selection : TpmlPcrSelection) : TpmlPcrSelection :=
  selection.map fun sel => ⟨sel.hashAlg, pcr.filterSelect sel⟩

end

end PcrBanks

end Swtrust
