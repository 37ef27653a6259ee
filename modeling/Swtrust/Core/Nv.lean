import Swtrust.Library.SortedMap
import Swtrust.Core.Hierarchy
import Swtrust.Core.Names

set_option autoImplicit false

namespace Swtrust

open Library

structure NvIndex where
  area : NvPublic
  auth : Bytes
  data : Bytes
  readLocked : Bool
  writeLocked : Bool
  deriving DecidableEq

structure NvStore where
  indices : SortedMap UInt32 NvIndex
  highestCounter : UInt64
  deriving DecidableEq

namespace NvIndex

def indexType (index : NvIndex) : UInt8 := index.area.attributes.indexType

def isPin (index : NvIndex) : Bool := index.indexType == Nt.pinFail || index.indexType == Nt.pinPass

def written (index : NvIndex) : Bool := index.area.attributes.has NvAttributes.written

def setAttributes (index : NvIndex) (attributes : NvAttributes) : NvIndex :=
  { index with area := { index.area with attributes } }

def setWritten (index : NvIndex) : NvIndex :=
  index.setAttributes (index.area.attributes.withMask NvAttributes.written)

def setReadLock (index : NvIndex) (locked : Bool) : NvIndex :=
  { index.setAttributes (index.area.attributes.setTo NvAttributes.readlocked locked) with readLocked := locked }

def setWriteLock (index : NvIndex) (locked : Bool) : NvIndex :=
  { index.setAttributes (index.area.attributes.setTo NvAttributes.writelocked locked) with writeLocked := locked }

def counterValue (index : NvIndex) : TpmResult UInt64 :=
  if index.data.length = 8 then .ok (UInt64.ofNat (beNat index.data)) else .error Rc.nvUninitialized

def write (index : NvIndex) (offset : UInt16) (value : Bytes) : TpmResult NvIndex :=
  let size := index.area.dataSize.toNat
  let stop := offset.toNat + value.length
  if size < stop then .error Rc.nvRange
  else if index.area.attributes.has NvAttributes.writeall ∧ value.length ≠ size then .error Rc.nvRange
  else
    let data := if index.data.length = size then index.data else List.replicate size 0
    .ok { index with data := data.take offset.toNat ++ value ++ data.drop stop }.setWritten

def read (index : NvIndex) (offset size : UInt16) : TpmResult Bytes :=
  let stop := offset.toNat + size.toNat
  if !index.written then .error Rc.nvUninitialized
  else if index.area.dataSize.toNat < stop then .error Rc.nvRange
  else if index.data.length < stop then .error Rc.nvUninitialized
  else .ok ((index.data.drop offset.toNat).take size.toNat)

def increment (index : NvIndex) (floor : UInt64) : TpmResult (UInt64 × NvIndex) := do
  if index.indexType ≠ Nt.counter then throw Rc.attributes
  let next ← if index.written then (· + 1) <$> index.counterValue else pure (satSucc floor)
  return (next, { index with data := be64 next }.setWritten)

def setBits (index : NvIndex) (bits : UInt64) : TpmResult NvIndex := do
  if index.indexType ≠ Nt.bits then throw Rc.attributes
  let current ← if index.written then index.counterValue else pure 0
  return { index with data := be64 (current ||| bits) }.setWritten

def pinCounters (index : NvIndex) : TpmResult NvPinCounterParameters :=
  if !index.isPin then .error Rc.attributes
  else if !index.written then .ok {}
  else (NvPinCounterParameters.unmarshal.fromBytes index.data).mapError fun _ => Rc.nvUninitialized

def setPinCounters (index : NvIndex) (p : NvPinCounterParameters) : TpmResult NvIndex :=
  if !index.isPin then .error Rc.attributes else .ok { index with data := p.marshal }.setWritten

def footprint (index : NvIndex) : Nat := index.area.marshal.length + index.auth.length + index.area.dataSize.toNat

section

variable [Crypto]

def name (index : NvIndex) : TpmResult Bytes := nvName index.area

def extend (index : NvIndex) (value : Bytes) : TpmResult NvIndex := do
  if index.indexType ≠ Nt.extend then throw Rc.attributes
  match digestSize index.area.nameAlg with
  | none => throw Rc.hash
  | some size =>
    let current := if index.written ∧ index.data.length = size then index.data else List.replicate size 0
    let next ← Hash.digestParts index.area.nameAlg [current, value]
    return { index with data := next }.setWritten

end

end NvIndex

namespace NvStore

def new : NvStore := ⟨SortedMap.empty, 0⟩

def isNvHandle (handle : UInt32) : Bool := Hierarchies.inRange Hc.nvIndexFirst Hc.nvIndexLast handle

def used (store : NvStore) : Nat := (store.indices.values.map NvIndex.footprint).sum

def available (store : NvStore) : Nat := Config.nvMemorySize - store.used

def raiseFloor (store : NvStore) (floor : UInt64) : NvStore :=
  { store with highestCounter := max store.highestCounter floor }

def noteCounter (store : NvStore) (index : NvIndex) : NvStore :=
  if index.indexType = Nt.counter ∧ index.written then
    match index.counterValue with
    | .ok value => store.raiseFloor value
    | .error _ => store
  else store

def smallestCounterFootprint : Nat :=
  (NvPublic.marshal
    { nvIndex := Hc.nvIndexFirst, nameAlg := Alg.sha256, attributes := ⟨0⟩, authPolicy := Tpm2b.empty
      dataSize := 8 }).length + 8

def counterCount (store : NvStore) : Nat := (store.indices.values.filter fun index => index.indexType == Nt.counter).length

def define (index : NvIndex) : Action TpmRc NvStore Unit := do
  modify fun store => store.noteCounter index
  let store ← get
  let handle := index.area.nvIndex
  if !isNvHandle handle then throw Rc.handle
  if store.indices.contains handle then throw Rc.nvDefined
  if store.available < index.footprint then throw Rc.nvSpace
  set { store with indices := store.indices.insert handle index }

def get (store : NvStore) (handle : UInt32) : TpmResult NvIndex :=
  match store.indices.get handle with
  | some index => .ok index
  | none => .error Rc.handle

def put (store : NvStore) (handle : UInt32) (index : NvIndex) : NvStore :=
  { store with indices := store.indices.insert handle index }

def contains (store : NvStore) (handle : UInt32) : Bool := store.indices.contains handle

def undefine (store : NvStore) (handle : UInt32) : TpmResult NvStore := do
  let index ← store.get handle
  return { store with indices := store.indices.erase handle }.noteCounter index

def increment (store : NvStore) (handle : UInt32) : TpmResult NvStore := do
  let index ← store.get handle
  let (value, next) ← index.increment store.highestCounter
  return (store.put handle next).raiseFloor value

def globalWriteLock (store : NvStore) : NvStore :=
  { store with indices := store.indices.mapValues fun _ index =>
      if index.area.attributes.has NvAttributes.globallock then index.setWriteLock true else index }

def forgetData (index : NvIndex) : NvIndex :=
  { index with data := [] }.setAttributes (index.area.attributes.without NvAttributes.written)

def clearIndex (restart disorderly : Bool) (index : NvIndex) : NvIndex :=
  let index := if index.area.attributes.has NvAttributes.readStclear then index.setReadLock false else index
  let permanent := index.area.attributes.has NvAttributes.writedefine && index.written
  let index := if permanent then index else index.setWriteLock false
  let index :=
    if index.area.attributes.has NvAttributes.orderly ∧ index.indexType ≠ Nt.counter ∧ restart = false then
      forgetData index
    else index
  let index := if index.area.attributes.has NvAttributes.clearStclear then forgetData index else index
  if disorderly ∧ index.area.attributes.has NvAttributes.orderly ∧ index.indexType = Nt.counter ∧ index.written then
    match index.counterValue with
    | .ok value => { index with data := be64 (value ||| Config.maxOrderlyCount) }
    | .error _ => index
  else index

def onStartupClearWith (store : NvStore) (restart disorderly : Bool) : NvStore :=
  { store with indices := store.indices.mapValues fun _ index => clearIndex restart disorderly index }

def clearOwnerIndices (store : NvStore) : NvStore :=
  { store with indices := store.indices.retain fun _ index =>
      index.area.attributes.has NvAttributes.platformcreate }

end NvStore

end Swtrust
