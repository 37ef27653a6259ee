import Swtrust.Pin.Frame

set_option autoImplicit false
set_option linter.unusedSectionVars false

namespace Swtrust

open Library

namespace Flags32

variable {reserved : UInt32} (flags : Flags32 reserved) (mask : UInt32)

theorem has_without (some : mask ≠ 0) : (flags.without mask).has mask = false := by
  have none : (flags.without mask).value &&& mask = 0 := by
    apply UInt32.eq_of_toBitVec_eq
    ext i inside
    simp [without]
  unfold has
  rw [none, beq_eq_false_iff_ne]
  exact some.symm

theorem has_set_to (on : Bool) (some : mask ≠ 0) : (flags.setTo mask on).has mask = on := by
  unfold setTo
  cases on with
  | true => exact flags.has_with_mask mask
  | false => exact flags.has_without mask some

end Flags32

namespace NvIndex

-- The types whose contents are a 64-bit value.
def isWide (index : NvIndex) : Bool :=
  index.indexType == Nt.counter || index.indexType == Nt.bits || index.isPin

-- The contents are there when WRITTEN says so, of the size the public area declares, and the locks are the ones its
-- attributes show.
structure Shaped [Profile] (index : NvIndex) : Prop where
  blank : index.written = false → index.data = []
  filled : index.written = true → index.data.length = index.area.dataSize.toNat
  wide : index.isWide = true → index.area.dataSize.toNat = 8
  digest : index.indexType = Nt.extend → Hash.digestSize index.area.nameAlg = .ok index.area.dataSize.toNat
  readLocked : index.readLocked = index.area.attributes.has NvAttributes.readlocked
  writeLocked : index.writeLocked = index.area.attributes.has NvAttributes.writelocked

theorem set_lock_apart (index : NvIndex) (mask flag : UInt32) (locked : Bool) (apart : mask &&& flag = 0) :
    (index.area.attributes.setTo mask locked).has flag = index.area.attributes.has flag := by
  unfold Flags32.has
  rw [Flags32.set_to_apart _ _ _ locked apart]

theorem set_written_apart (index : NvIndex) (flag : UInt32) (apart : NvAttributes.written &&& flag = 0) :
    index.setWritten.area.attributes.has flag = index.area.attributes.has flag := by
  unfold setWritten setAttributes Flags32.has
  dsimp only
  rw [Flags32.with_mask_apart _ _ _ apart]

theorem is_wide_of_type (index after : NvIndex) (indexType : after.indexType = index.indexType) :
    after.isWide = index.isWide := by
  unfold isWide isPin
  rw [indexType]

section

variable [Profile] (index : NvIndex)

theorem shaped_read_lock (locked : Bool) (shaped : index.Shaped) : (index.setReadLock locked).Shaped := by
  have indexType : (index.setReadLock locked).indexType = index.indexType := index.set_lock_type _ locked (by decide)
  have written : (index.setReadLock locked).written = index.written := index.set_lock_written _ locked (by decide)
  refine ⟨fun blank => ?_, fun filled => ?_, fun wide => ?_, fun extend => ?_, ?_, ?_⟩
  · exact shaped.blank (written.symm.trans blank)
  · exact shaped.filled (written.symm.trans filled)
  · exact shaped.wide ((index.is_wide_of_type _ indexType).symm.trans wide)
  · exact shaped.digest (indexType.symm.trans extend)
  · exact (Flags32.has_set_to _ _ _ (by decide)).symm
  · exact shaped.writeLocked.trans (index.set_lock_apart _ _ locked (by decide)).symm

theorem shaped_write_lock (locked : Bool) (shaped : index.Shaped) : (index.setWriteLock locked).Shaped := by
  have indexType : (index.setWriteLock locked).indexType = index.indexType := index.set_lock_type _ locked (by decide)
  have written : (index.setWriteLock locked).written = index.written := index.set_lock_written _ locked (by decide)
  refine ⟨fun blank => ?_, fun filled => ?_, fun wide => ?_, fun extend => ?_, ?_, ?_⟩
  · exact shaped.blank (written.symm.trans blank)
  · exact shaped.filled (written.symm.trans filled)
  · exact shaped.wide ((index.is_wide_of_type _ indexType).symm.trans wide)
  · exact shaped.digest (indexType.symm.trans extend)
  · exact shaped.readLocked.trans (index.set_lock_apart _ _ locked (by decide)).symm
  · exact (Flags32.has_set_to _ _ _ (by decide)).symm

-- New contents of the declared size.
theorem shaped_written (data : Bytes) (size : data.length = index.area.dataSize.toNat) (shaped : index.Shaped) :
    ({ index with data } : NvIndex).setWritten.Shaped := by
  have indexType : ({ index with data } : NvIndex).setWritten.indexType = index.indexType := set_written_type _
  refine ⟨fun blank => ?_, fun _ => size, fun wide => ?_, fun extend => ?_, ?_, ?_⟩
  · have written : ({ index with data } : NvIndex).setWritten.written = true := Flags32.has_with_mask _ _
    rw [written] at blank
    cases blank
  · exact shaped.wide ((index.is_wide_of_type _ indexType).symm.trans wide)
  · exact shaped.digest (indexType.symm.trans extend)
  · exact shaped.readLocked.trans (set_written_apart { index with data } _ (by decide)).symm
  · exact shaped.writeLocked.trans (set_written_apart { index with data } _ (by decide)).symm

theorem shaped_forgotten (shaped : index.Shaped) : (NvStore.forgetData index).Shaped := by
  have indexType : (NvStore.forgetData index).indexType = index.indexType := (worn_forget index).indexType
  have unwritten : (NvStore.forgetData index).written = false := Flags32.has_without _ _ (by decide)
  have apart : ∀ flag, NvAttributes.written &&& flag = 0 →
      (NvStore.forgetData index).area.attributes.has flag = index.area.attributes.has flag := by
    intro flag apart
    unfold NvStore.forgetData setAttributes Flags32.has
    dsimp only
    rw [Flags32.without_apart _ _ _ apart]
  refine ⟨fun _ => rfl, fun filled => ?_, fun wide => ?_, fun extend => ?_, ?_, ?_⟩
  · rw [unwritten] at filled
    cases filled
  · exact shaped.wide ((index.is_wide_of_type _ indexType).symm.trans wide)
  · exact shaped.digest (indexType.symm.trans extend)
  · exact shaped.readLocked.trans (apart _ (by decide)).symm
  · exact shaped.writeLocked.trans (apart _ (by decide)).symm

theorem shaped_write (next : NvIndex) (offset : UInt16) (value : Bytes) (written : index.write offset value = .ok next)
    (shaped : index.Shaped) : next.Shaped := by
  unfold write at written
  dsimp only at written
  split at written
  · cases written
  next inside =>
    split at written
    · cases written
    · obtain rfl := Except.ok.inj written
      refine index.shaped_written _ ?_ shaped
      have size : (if index.data.length = index.area.dataSize.toNat then index.data
          else List.replicate index.area.dataSize.toNat 0).length = index.area.dataSize.toNat := by
        split
        next same => exact same
        next => exact List.length_replicate
      generalize (if index.data.length = index.area.dataSize.toNat then index.data
          else List.replicate index.area.dataSize.toNat 0) = data at size ⊢
      simp only [List.length_append, List.length_take, List.length_drop]
      omega

theorem shaped_set_bits (next : NvIndex) (bits : UInt64) (set : index.setBits bits = .ok next) (shaped : index.Shaped) :
    next.Shaped := by
  unfold setBits at set
  rw [guarded_then_is_ok] at set
  obtain ⟨typed, set⟩ := set
  have wide : index.area.dataSize.toNat = 8 := shaped.wide (by
    unfold isWide
    rw [not_not.mp typed]
    rfl)
  split at set
  · simp only [bind_is_ok, pure_is_ok] at set
    obtain ⟨_, _, rfl⟩ := set
    exact index.shaped_written _ ((be64_length _).trans wide.symm) shaped
  · simp only [bind_is_ok, pure_is_ok] at set
    obtain ⟨_, _, rfl⟩ := set
    exact index.shaped_written _ ((be64_length _).trans wide.symm) shaped

theorem shaped_increment (next : NvIndex) (floor value : UInt64) (counted : index.increment floor = .ok (value, next))
    (shaped : index.Shaped) : next.Shaped := by
  unfold increment at counted
  rw [guarded_then_is_ok] at counted
  obtain ⟨typed, counted⟩ := counted
  have wide : index.area.dataSize.toNat = 8 := shaped.wide (by
    unfold isWide
    rw [not_not.mp typed]
    rfl)
  split at counted
  · simp only [bind_is_ok, pure_is_ok, Prod.mk.injEq] at counted
    obtain ⟨_, _, _, rfl⟩ := counted
    exact index.shaped_written _ ((be64_length _).trans wide.symm) shaped
  · simp only [bind_is_ok, pure_is_ok, Prod.mk.injEq] at counted
    obtain ⟨_, _, _, rfl⟩ := counted
    exact index.shaped_written _ ((be64_length _).trans wide.symm) shaped

theorem shaped_pin_counters (counters : NvPinCounterParameters) (isPin : index.isPin = true) (shaped : index.Shaped) :
    ({ index with data := counters.marshal } : NvIndex).setWritten.Shaped := by
  refine index.shaped_written _ ?_ shaped
  rw [shaped.wide (by simp [isWide, isPin])]
  simp [NvPinCounterParameters.marshal]

-- What a startup does with an Index.
theorem shaped_cleared (restart disorderly : Bool) (shaped : index.Shaped) :
    (NvStore.clearIndex restart disorderly index).Shaped := by
  unfold NvStore.clearIndex
  extract_lets read permanent unlocked kept left
  have first : read.Shaped := by
    unfold read
    split
    · exact index.shaped_read_lock false shaped
    · exact shaped
  have second : unlocked.Shaped := by
    unfold unlocked
    split
    · exact first
    · exact read.shaped_write_lock false first
  have third : kept.Shaped := by
    unfold kept
    split
    · exact unlocked.shaped_forgotten second
    · exact second
  have fourth : left.Shaped := by
    unfold left
    split
    · exact kept.shaped_forgotten third
    · exact third
  split
  next rounds =>
    split
    next value read =>
      -- Only the contents change here: WRITTEN is set already.
      have counter : left.isWide = true := by
        unfold isWide
        rw [rounds.2.2.1]
        rfl
      have written : left.written = true := rounds.2.2.2
      refine ⟨fun blank => ?_, fun _ => ?_, fourth.wide, fourth.digest, fourth.readLocked, fourth.writeLocked⟩
      · rw [show ({ left with data := be64 (value ||| Config.maxOrderlyCount) } : NvIndex).written = true from written] at blank
        cases blank
      · exact (be64_length _).trans (fourth.wide counter).symm
    next => exact fourth
  next => exact fourth

end

theorem shaped_extend [Crypto] (index next : NvIndex) (value : Bytes) (extended : index.extend value = .ok next)
    (shaped : index.Shaped) : next.Shaped := by
  unfold extend at extended
  rw [guarded_then_is_ok] at extended
  obtain ⟨typed, extended⟩ := extended
  split at extended
  · cases extended
  · simp only [bind_is_ok, pure_is_ok] at extended
    obtain ⟨digest, made, rfl⟩ := extended
    refine index.shaped_written _ ?_ shaped
    have sized := Hash.digest_length _ _ _ made
    rw [shaped.digest (not_not.mp typed)] at sized
    exact (Except.ok.inj sized).symm

end NvIndex

end Swtrust
