import Swtrust.Nv.Shape

set_option autoImplicit false

namespace Swtrust

open Library

namespace NvIndex

-- A startup takes the contents of the Index.
def forgotten (restart : Bool) (index : NvIndex) : Bool :=
  index.area.attributes.has NvAttributes.clearStclear ||
    (!restart && index.area.attributes.has NvAttributes.orderly && index.indexType != Nt.counter)

-- What a counter is brought to that may have lost the last of its increments.
def caughtUp (disorderly : Bool) (index : NvIndex) : Option Bytes :=
  if disorderly ∧ index.area.attributes.has NvAttributes.orderly ∧ index.indexType = Nt.counter ∧ index.written then
    match index.counterValue with
    | .ok value => some (be64 (value ||| Config.maxOrderlyCount))
    | .error _ => none
  else none

def writeLockSet (index : NvIndex) : Bool := index.writeLocked || index.area.attributes.has NvAttributes.writelocked

-- A startup leaves the Index locked for writing and takes its contents.
def Stranded (restart : Bool) (index : NvIndex) : Prop :=
  index.writeLockSet = true ∧ index.area.attributes.has NvAttributes.writedefine = true ∧ index.written = true ∧
    index.forgotten restart = true

-- The attributes a startup may change.
def volatileBits : UInt32 := NvAttributes.readlocked ||| NvAttributes.writelocked ||| NvAttributes.written

-- What becomes of an Index at a startup, but for the lock against writing.
structure Restarted (restart disorderly : Bool) (before after : NvIndex) : Prop where
  readLocked : after.readLocked = (before.readLocked && !before.area.attributes.has NvAttributes.readStclear)
  readBit : after.area.attributes.has NvAttributes.readlocked =
    (before.area.attributes.has NvAttributes.readlocked && !before.area.attributes.has NvAttributes.readStclear)
  written : after.written = (before.written && !before.forgotten restart)
  data : after.data = if before.forgotten restart then [] else (before.caughtUp disorderly).getD before.data
  auth : after.auth = before.auth
  area : after.area = { before.area with attributes := after.area.attributes }
  attributes : after.area.attributes.value &&& ~~~volatileBits = before.area.attributes.value &&& ~~~volatileBits

-- The lock against writing is left as it was where the write is defined and is still there, and only there.
structure LockedForGood (before after : NvIndex) : Prop where
  writeLocked : after.writeLocked =
    (before.writeLocked && (before.area.attributes.has NvAttributes.writedefine && after.written))
  writeBit : after.area.attributes.has NvAttributes.writelocked =
    (before.area.attributes.has NvAttributes.writelocked &&
      (before.area.attributes.has NvAttributes.writedefine && after.written))

theorem set_lock_bits (index : NvIndex) (mask other : UInt32) (locked : Bool) (apart : mask &&& other = 0) :
    (index.area.attributes.setTo mask locked).value &&& other = index.area.attributes.value &&& other :=
  Flags32.set_to_apart _ _ _ locked apart

theorem has_of_bits (a b : NvAttributes) (flag : UInt32) (inside : ~~~volatileBits &&& flag = flag)
    (same : a.value &&& ~~~volatileBits = b.value &&& ~~~volatileBits) : a.has flag = b.has flag := by
  have narrowed : ∀ c : NvAttributes, c.value &&& flag = c.value &&& ~~~volatileBits &&& flag := by
    intro c
    rw [UInt32.and_assoc, inside]
  unfold Flags32.has
  rw [narrowed a, narrowed b, same]

theorem type_of_bits (a b : NvAttributes) (same : a.value &&& ~~~volatileBits = b.value &&& ~~~volatileBits) :
    a.indexType = b.indexType := by
  have narrowed : ∀ c : NvAttributes,
      c.value &&& NvAttributes.typeMask = c.value &&& ~~~volatileBits &&& NvAttributes.typeMask := by
    intro c
    rw [UInt32.and_assoc]
    rfl
  unfold NvAttributes.indexType
  rw [narrowed a, narrowed b, same]

-- The Index but for the bits and the data that a startup may change.
structure Alike (before after : NvIndex) : Prop where
  auth : after.auth = before.auth
  area : after.area = { before.area with attributes := after.area.attributes }
  attributes : after.area.attributes.value &&& ~~~volatileBits = before.area.attributes.value &&& ~~~volatileBits

theorem alike_self (index : NvIndex) : Alike index index := ⟨rfl, rfl, rfl⟩

theorem alike_trans (a b c : NvIndex) (first : Alike a b) (second : Alike b c) : Alike a c := by
  refine ⟨second.auth.trans first.auth, ?_, second.attributes.trans first.attributes⟩
  rw [second.area, first.area]

theorem alike_read_lock (index : NvIndex) (locked : Bool) : Alike index (index.setReadLock locked) :=
  ⟨rfl, rfl, index.set_lock_bits _ _ locked (by decide)⟩

theorem alike_write_lock (index : NvIndex) (locked : Bool) : Alike index (index.setWriteLock locked) :=
  ⟨rfl, rfl, index.set_lock_bits _ _ locked (by decide)⟩

theorem alike_forget (index : NvIndex) : Alike index (NvStore.forgetData index) :=
  ⟨rfl, rfl, Flags32.without_apart _ _ _ (by decide)⟩

section

variable {before after : NvIndex} (alike : Alike before after)

include alike

theorem Alike.flag (flag : UInt32) (inside : ~~~volatileBits &&& flag = flag) :
    after.area.attributes.has flag = before.area.attributes.has flag :=
  has_of_bits _ _ flag inside alike.attributes

theorem Alike.type : after.indexType = before.indexType := type_of_bits _ _ alike.attributes

end

-- The bits and the data that a startup may change, one by one.
structure Volatile where
  readLocked : Bool
  readBit : Bool
  writeLocked : Bool
  writeBit : Bool
  written : Bool
  data : Bytes

def inPlay (index : NvIndex) : Volatile where
  readLocked := index.readLocked
  readBit := index.area.attributes.has NvAttributes.readlocked
  writeLocked := index.writeLocked
  writeBit := index.area.attributes.has NvAttributes.writelocked
  written := index.written
  data := index.data

theorem volatile_read_lock (index : NvIndex) :
    (index.setReadLock false).inPlay = { index.inPlay with readLocked := false, readBit := false } := by
  have bit : (index.setReadLock false).area.attributes.has NvAttributes.readlocked = false :=
    Flags32.has_set_to _ _ _ (by decide)
  have written : (index.setReadLock false).written = index.written := index.set_lock_apart _ _ _ (by decide)
  have other : (index.setReadLock false).area.attributes.has NvAttributes.writelocked =
      index.area.attributes.has NvAttributes.writelocked := index.set_lock_apart _ _ _ (by decide)
  unfold inPlay
  rw [bit, written, other]
  rfl

theorem volatile_write_lock (index : NvIndex) :
    (index.setWriteLock false).inPlay = { index.inPlay with writeLocked := false, writeBit := false } := by
  have bit : (index.setWriteLock false).area.attributes.has NvAttributes.writelocked = false :=
    Flags32.has_set_to _ _ _ (by decide)
  have written : (index.setWriteLock false).written = index.written := index.set_lock_apart _ _ _ (by decide)
  have other : (index.setWriteLock false).area.attributes.has NvAttributes.readlocked =
      index.area.attributes.has NvAttributes.readlocked := index.set_lock_apart _ _ _ (by decide)
  unfold inPlay
  rw [bit, written, other]
  rfl

theorem volatile_forget (index : NvIndex) :
    (NvStore.forgetData index).inPlay = { index.inPlay with written := false, data := [] } := by
  have written : (NvStore.forgetData index).written = false := Flags32.has_without _ _ (by decide)
  have read : (NvStore.forgetData index).area.attributes.has NvAttributes.readlocked =
      index.area.attributes.has NvAttributes.readlocked := by
    unfold Flags32.has
    exact congrArg (· == _) (Flags32.without_apart _ _ _ (by decide))
  have write : (NvStore.forgetData index).area.attributes.has NvAttributes.writelocked =
      index.area.attributes.has NvAttributes.writelocked := by
    unfold Flags32.has
    exact congrArg (· == _) (Flags32.without_apart _ _ _ (by decide))
  unfold inPlay
  rw [written, read, write]
  rfl

-- The pass over one Index before the counters are looked at.
def passed (restart : Bool) (index : NvIndex) : NvIndex :=
  let index := if index.area.attributes.has NvAttributes.readStclear then index.setReadLock false else index
  let permanent := index.area.attributes.has NvAttributes.writedefine && index.written
  let index := if permanent then index else index.setWriteLock false
  let index :=
    if index.area.attributes.has NvAttributes.orderly ∧ index.indexType ≠ Nt.counter ∧ restart = false then
      NvStore.forgetData index
    else index
  if index.area.attributes.has NvAttributes.clearStclear then NvStore.forgetData index else index

theorem clear_index_passed (restart disorderly : Bool) (index : NvIndex) :
    NvStore.clearIndex restart disorderly index =
      { index.passed restart with
        data := ((index.passed restart).caughtUp disorderly).getD (index.passed restart).data } := by
  change (if disorderly ∧ (index.passed restart).area.attributes.has NvAttributes.orderly ∧
      (index.passed restart).indexType = Nt.counter ∧ (index.passed restart).written then
    match (index.passed restart).counterValue with
    | .ok value => { index.passed restart with data := be64 (value ||| Config.maxOrderlyCount) }
    | .error _ => index.passed restart
  else index.passed restart) = _
  unfold caughtUp
  split
  · cases (index.passed restart).counterValue with
    | ok value => rfl
    | error e => rfl
  · rfl

theorem passed_volatile (restart : Bool) (index : NvIndex) : index.Alike (index.passed restart) ∧
    (index.passed restart).inPlay = {
      readLocked := index.readLocked && !index.area.attributes.has NvAttributes.readStclear
      readBit := index.area.attributes.has NvAttributes.readlocked && !index.area.attributes.has NvAttributes.readStclear
      writeLocked := index.writeLocked && (index.area.attributes.has NvAttributes.writedefine && index.written)
      writeBit := index.area.attributes.has NvAttributes.writelocked &&
        (index.area.attributes.has NvAttributes.writedefine && index.written)
      written := index.written && !index.forgotten restart
      data := if index.forgotten restart then [] else index.data } := by
  unfold passed
  extract_lets read permanent unlocked kept
  have first : index.Alike read ∧ read.inPlay = { index.inPlay with
      readLocked := index.readLocked && !index.area.attributes.has NvAttributes.readStclear
      readBit := index.area.attributes.has NvAttributes.readlocked &&
        !index.area.attributes.has NvAttributes.readStclear } := by
    unfold read
    by_cases dropped : index.area.attributes.has NvAttributes.readStclear = true
    · simp only [dropped, if_true]
      exact ⟨index.alike_read_lock false, by rw [volatile_read_lock]; simp⟩
    · simp only [dropped]
      exact ⟨index.alike_self, by simp [inPlay]⟩
  obtain ⟨alikeRead, playRead⟩ := first
  -- The lock is judged by what the Index was before its contents go.
  have judged : permanent = (index.area.attributes.has NvAttributes.writedefine && index.written) := by
    have written : read.written = index.written := congrArg Volatile.written playRead
    unfold permanent
    rw [alikeRead.flag _ (by decide), written]
  have second : index.Alike unlocked ∧ unlocked.inPlay = { read.inPlay with
      writeLocked := index.writeLocked && (index.area.attributes.has NvAttributes.writedefine && index.written)
      writeBit := index.area.attributes.has NvAttributes.writelocked &&
        (index.area.attributes.has NvAttributes.writedefine && index.written) } := by
    have locked : read.writeLocked = index.writeLocked := congrArg Volatile.writeLocked playRead
    have bit : read.area.attributes.has NvAttributes.writelocked = index.area.attributes.has NvAttributes.writelocked :=
      congrArg Volatile.writeBit playRead
    unfold unlocked
    by_cases stays : permanent = true
    · rw [if_pos stays, ← judged, stays, ← locked, ← bit]
      exact ⟨alikeRead, by simp [inPlay]⟩
    · rw [if_neg stays, ← judged]
      refine ⟨alike_trans _ _ _ alikeRead (read.alike_write_lock false), ?_⟩
      rw [volatile_write_lock]
      simp [stays]
  obtain ⟨alikeUnlocked, playUnlocked⟩ := second
  have third : index.Alike kept ∧ kept.inPlay = if !restart && index.area.attributes.has NvAttributes.orderly &&
      index.indexType != Nt.counter then { unlocked.inPlay with written := false, data := [] } else unlocked.inPlay := by
    have orderly := alikeUnlocked.flag NvAttributes.orderly (by decide)
    have type := alikeUnlocked.type
    unfold kept
    rw [orderly, type]
    by_cases goes : index.area.attributes.has NvAttributes.orderly = true ∧ index.indexType ≠ Nt.counter ∧ restart = false
    · rw [if_pos goes]
      refine ⟨alike_trans _ _ _ alikeUnlocked unlocked.alike_forget, ?_⟩
      rw [volatile_forget]
      simp [goes]
    · rw [if_neg goes]
      refine ⟨alikeUnlocked, ?_⟩
      rw [if_neg]
      simpa using fun fresh orderly => by_contra fun other => goes ⟨orderly, other, fresh⟩
  obtain ⟨alikeKept, playKept⟩ := third
  have clears := alikeKept.flag NvAttributes.clearStclear (by decide)
  rw [clears]
  unfold forgotten
  by_cases goes : index.area.attributes.has NvAttributes.clearStclear = true
  · rw [if_pos goes]
    refine ⟨alike_trans _ _ _ alikeKept kept.alike_forget, ?_⟩
    rw [volatile_forget, playKept, playUnlocked, playRead]
    simp only [goes, Bool.true_or, Bool.not_true, Bool.and_false, if_true]
    split
    · rfl
    · rfl
  · rw [if_neg goes]
    refine ⟨alikeKept, ?_⟩
    rw [playKept, playUnlocked, playRead]
    simp only [goes, Bool.false_or]
    split
    next left => simp [left]
    next stays => simp [stays, inPlay]

theorem restarted (restart disorderly : Bool) (index : NvIndex) :
    Restarted restart disorderly index (NvStore.clearIndex restart disorderly index) := by
  obtain ⟨alike, play⟩ := index.passed_volatile restart
  have data : (index.passed restart).data = if index.forgotten restart then [] else index.data :=
    congrArg Volatile.data play
  have written : (index.passed restart).written = (index.written && !index.forgotten restart) :=
    congrArg Volatile.written play
  rw [clear_index_passed]
  refine ⟨congrArg Volatile.readLocked play, congrArg Volatile.readBit play, written, ?_, alike.auth, alike.area,
    alike.attributes⟩
  dsimp only
  rw [data]
  by_cases gone : index.forgotten restart = true
  · simp [caughtUp, written, gone]
  · have same : (index.passed restart).caughtUp disorderly = index.caughtUp disorderly := by
      unfold caughtUp counterValue
      rw [alike.flag _ (by decide), alike.type, written, data]
      simp [gone]
    rw [same]
    simp [gone]

-- The lock is what it should be on all Indices but those whose contents the startup takes under it.
theorem locked_for_good (restart disorderly : Bool) (index : NvIndex) :
    index.LockedForGood (NvStore.clearIndex restart disorderly index) ↔ ¬ index.Stranded restart := by
  obtain ⟨_, play⟩ := index.passed_volatile restart
  have written : (index.passed restart).written = (index.written && !index.forgotten restart) :=
    congrArg Volatile.written play
  have locked : (index.passed restart).writeLocked =
      (index.writeLocked && (index.area.attributes.has NvAttributes.writedefine && index.written)) :=
    congrArg Volatile.writeLocked play
  have bit : (index.passed restart).area.attributes.has NvAttributes.writelocked =
      (index.area.attributes.has NvAttributes.writelocked &&
        (index.area.attributes.has NvAttributes.writedefine && index.written)) :=
    congrArg Volatile.writeBit play
  -- Both halves of the lock were judged with the contents still there.
  have judged : index.LockedForGood (NvStore.clearIndex restart disorderly index) ↔
      (index.writeLocked && (index.area.attributes.has NvAttributes.writedefine && index.written)) =
        (index.writeLocked && (index.area.attributes.has NvAttributes.writedefine &&
          (index.written && !index.forgotten restart))) ∧
      (index.area.attributes.has NvAttributes.writelocked &&
        (index.area.attributes.has NvAttributes.writedefine && index.written)) =
        (index.area.attributes.has NvAttributes.writelocked && (index.area.attributes.has NvAttributes.writedefine &&
          (index.written && !index.forgotten restart))) := by
    rw [clear_index_passed, ← written, ← locked, ← bit]
    exact ⟨fun good => ⟨good.writeLocked, good.writeBit⟩, fun good => ⟨good.1, good.2⟩⟩
  rw [judged]
  unfold Stranded writeLockSet
  cases index.writeLocked <;> cases index.area.attributes.has NvAttributes.writelocked <;>
    cases index.area.attributes.has NvAttributes.writedefine <;> cases index.written <;>
    cases index.forgotten restart <;> decide

end NvIndex

namespace NvStore

-- What a startup is to do with the Indices.
def StartsOver (restart disorderly : Bool) (before after : NvStore) : Prop :=
  after.highestCounter = before.highestCounter ∧ ∀ handle,
    (before.indices.get handle = none → after.indices.get handle = none) ∧
    ∀ index, before.indices.get handle = some index → ∃ later, after.indices.get handle = some later ∧
      NvIndex.Restarted restart disorderly index later ∧ index.LockedForGood later

-- A startup does what it should exactly where it takes the contents of no Index that is locked for good.
theorem startup_locks (store : NvStore) (restart disorderly : Bool) :
    StartsOver restart disorderly store (store.onStartupClearWith restart disorderly) ↔
      ∀ handle index, store.indices.get handle = some index → ¬ index.Stranded restart := by
  have cleared : ∀ handle, (store.onStartupClearWith restart disorderly).indices.get handle =
      (store.indices.get handle).map (clearIndex restart disorderly) := fun handle => SortedMap.get_map_values _ _ _
  constructor
  · intro begun handle index found
    obtain ⟨later, same, _, good⟩ := (begun.2 handle).2 index found
    rw [cleared, found] at same
    obtain rfl := Option.some.inj same
    exact (index.locked_for_good restart disorderly).mp good
  · intro kept
    refine ⟨rfl, fun handle => ⟨fun none => ?_, fun index found => ?_⟩⟩
    · rw [cleared, none]
      rfl
    · refine ⟨clearIndex restart disorderly index, ?_, index.restarted restart disorderly,
        (index.locked_for_good restart disorderly).mpr (kept handle index found)⟩
      rw [cleared, found]
      rfl

-- An Index that has been written and locked, with its write defined once, and is to lose its contents.
def strandedIndex : NvIndex where
  area := {
    nvIndex := 0x01000000
    nameAlg := Alg.sha256
    attributes := ⟨NvAttributes.authwrite ||| NvAttributes.authread ||| NvAttributes.writedefine |||
      NvAttributes.clearStclear ||| NvAttributes.writelocked ||| NvAttributes.written⟩
    authPolicy := Tpm2b.empty
    dataSize := 1 }
  auth := []
  data := [7]
  readLocked := false
  writeLocked := true

theorem startup_strands : ¬ ∀ (store : NvStore) (restart disorderly : Bool),
    StartsOver restart disorderly store (store.onStartupClearWith restart disorderly) := by
  intro always
  let store : NvStore := ⟨SortedMap.empty.insert 0x01000000 strandedIndex, 0⟩
  obtain ⟨later, found, _, good⟩ := ((always store false false).2 0x01000000).2 strandedIndex rfl
  have same : (store.onStartupClearWith false false).indices.get 0x01000000 =
      some (clearIndex false false strandedIndex) := rfl
  rw [same] at found
  obtain rfl := Option.some.inj found
  exact (strandedIndex.locked_for_good false false).mp good ⟨by decide, by decide, by decide, by decide⟩

end NvStore

end Swtrust
