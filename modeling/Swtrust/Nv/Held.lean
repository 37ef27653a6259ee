import Swtrust.Nv.Counters

set_option autoImplicit false
set_option linter.unusedSectionVars false

namespace Swtrust

open Library Action

section

variable [Primitives]

-- What no move of a handler breaks, nor a comparison with the authValue of a PIN Index, nor a reading of the file.
structure NvInvariant (invariant : NvStore → Prop) : Prop where
  moves : ∀ request before after, NvMove request before after → invariant before → invariant after
  pins : ∀ store entity accepted, invariant store → invariant (store.recordPin entity accepted)
  restored : ∀ store, invariant store → invariant (TpmState.restoredNv store)

namespace TpmState

theorem nv_invariant_undisturbed (invariant : NvStore → Prop) (held : NvInvariant invariant) :
    Undisturbed fun s t => invariant s.nv → invariant t.nv where
  steady := steady_of_invariant fun s : TpmState => invariant s.nv
  nullified request s start := by
    rw [nullify_shutdown_nv]
    exact start
  authorized request names count index := by
    refine guarantees_authorize_from_of_settle _ (steady_of_invariant fun s : TpmState => invariant s.nv) request names
      (fun index entity attempt s start => ?_) count index
    rw [settle_nv]
    split
    · exact start
    · exact held.pins s.nv entity attempt.accepted start
  suppressed _ _ := id
  failed _ := id
  responded request reply names contexts parameters :=
    guarantees_respond_of_view (fun s => s.nv) _ (fun s t same start => by rw [same]; exact start) request
      (nv_spared_by_execution.response _) reply names contexts parameters

theorem run_nv_invariant (invariant : NvStore → Prop) (held : NvInvariant invariant) (s : TpmState) (locality : UInt8)
    (octets : Bytes) (start : invariant s.nv) : invariant (s.run locality octets).2.nv :=
  run_guarantees _ (nv_invariant_undisturbed invariant held) s locality octets
    (fun _ _ _ s => held.moves _ s.nv _ (run_command_nv_moves _ s)) start

end TpmState

theorem nv_invariant_holds (invariant : NvStore → Prop) (held : NvInvariant invariant) :
    Tpm.Invariant fun s => invariant s.nv where
  ran s locality octets := s.run_nv_invariant invariant held locality octets
  changed _ _ _ _ _ _ _ _ _ _ _ _ _ _ _ _ := id
  flushed _ := id
  restored _ saved := held.restored saved.nv

namespace NvStore

def Shaped (store : NvStore) : Prop := ∀ handle index, store.get handle = .ok index → index.Shaped

theorem shaped_put (store : NvStore) (handle : UInt32) (index : NvIndex) (here : index.Shaped) (shaped : store.Shaped) :
    (store.put handle index).Shaped := by
  intro other found held
  rw [get_put] at held
  split at held
  · cases held
    exact here
  · exact shaped other found held

theorem shaped_map (store : NvStore) (f : NvIndex → NvIndex) (kept : ∀ index, index.Shaped → (f index).Shaped)
    (shaped : store.Shaped) : ({ store with indices := store.indices.mapValues fun _ index => f index } : NvStore).Shaped := by
  intro handle index held
  rw [get_is_ok] at held
  dsimp only at held
  rw [SortedMap.get_map_values] at held
  obtain ⟨before, found, rfl⟩ := Option.map_eq_some_iff.mp held
  exact kept before (shaped handle before ((store.get_is_ok handle before).mpr found))

-- Indices that were there before.
theorem shaped_of_fewer (before after : NvStore)
    (fewer : ∀ handle index, after.indices.get handle = some index → before.indices.get handle = some index)
    (shaped : before.Shaped) : after.Shaped := fun handle index held =>
  shaped handle index ((before.get_is_ok handle index).mpr (fewer handle index ((after.get_is_ok handle index).mp held)))

theorem nv_move_shaped (request : Request) (before after : NvStore) (move : NvMove request before after)
    (shaped : before.Shaped) : after.Shaped := by
  cases move with
  | same => exact shaped
  | define index blank here lasting ranged absent room => exact before.shaped_put index.area.nvIndex index here shaped
  | undefine handle index held =>
      refine shaped_of_fewer before _ (fun other found stored => ?_) shaped
      rw [note_counter_indices] at stored
      dsimp only at stored
      by_cases same : other = handle
      · rw [same, SortedMap.get_erase_same] at stored
        cases stored
      · rwa [SortedMap.get_erase_other _ _ _ same] at stored
  | revise handle index next held revised =>
      exact before.shaped_put handle next (revised.shaped (shaped handle index held)) shaped
  | increment coded handle named index next value held counted =>
      exact before.shaped_put handle next (index.shaped_increment next _ value counted (shaped handle index held)) shaped
  | changeAuth coded handle named index held auth sized =>
      have here := shaped handle index held
      exact before.shaped_put handle _
        ⟨here.blank, here.filled, here.wide, here.digest, here.readLocked, here.writeLocked⟩ shaped
  | lockAll =>
      refine before.shaped_map _ (fun index here => ?_) shaped
      split
      · exact index.shaped_write_lock true here
      · exact here
  | startup coded restart disorderly =>
      exact before.shaped_map _ (fun index here => index.shaped_cleared restart disorderly here) shaped
  | clear coded =>
      refine shaped_of_fewer before _ (fun handle index stored => ?_) shaped
      unfold clearOwnerIndices at stored
      rw [SortedMap.get_retain] at stored
      exact (Option.filter_eq_some_iff.mp stored).1

theorem record_pin_shaped (store : NvStore) (entity : Entity) (accepted : Bool) (shaped : store.Shaped) :
    (store.recordPin entity accepted).Shaped := by
  unfold recordPin
  cases entity.pin with
  | none => exact shaped
  | some handle =>
      dsimp only
      cases held : store.get handle with
      | error e => exact shaped
      | ok index =>
          dsimp only
          cases read : index.pin with
          | error e => exact shaped
          | ok pin =>
              exact store.shaped_put handle _
                (index.shaped_pin_counters _ (index.is_pin_of_pin pin read) (shaped handle index held)) shaped

theorem restored_nv_shaped (store : NvStore) (shaped : store.Shaped) : (TpmState.restoredNv store).Shaped := by
  refine shaped_of_fewer store _ (fun handle index stored => ?_) shaped
  rwa [TpmState.restored_nv_indices] at stored

theorem shaped_invariant : NvInvariant Shaped := ⟨nv_move_shaped, record_pin_shaped, restored_nv_shaped⟩

end NvStore

namespace NvIndex

-- No read, count or update of the Index falls short of data.
structure Answers (index : NvIndex) : Prop where
  read : ∀ offset size : UInt16, offset.toNat + size.toNat ≤ index.area.dataSize.toNat →
    ∃ octets, index.read offset size = .ok octets ∧ octets = (index.data.drop offset.toNat).take size.toNat ∧
      octets.length = size.toNat
  increment : index.indexType = Nt.counter → ∃ value, be64 value = index.data ∧
    ∀ floor, index.increment floor = .ok (value + 1, { index with data := be64 (value + 1) }.setWritten)
  setBits : index.indexType = Nt.bits → ∃ value, be64 value = index.data ∧
    ∀ bits, index.setBits bits = .ok { index with data := be64 (value ||| bits) }.setWritten
  extend : index.indexType = Nt.extend → ∀ value, ∃ digest, Hash.digest index.area.nameAlg (index.data ++ value) = .ok digest ∧
    index.extend value = .ok { index with data := digest }.setWritten
  pin : index.isPin = true → ∃ counters, counters.marshal = index.data ∧ index.pinCounters = .ok counters ∧
    ∀ next, index.setPinCounters next = .ok { index with data := next.marshal }.setWritten

section

variable (index : NvIndex) (shaped : index.Shaped) (written : index.written = true)

include shaped written

theorem wide_value (wide : index.isWide = true) : ∃ value, be64 value = index.data ∧ index.counterValue = .ok value := by
  have eight : index.data.length = 8 := (shaped.filled written).trans (shaped.wide wide)
  have small : beNat index.data < 2 ^ 64 := by
    have bounded := be_nat_lt index.data
    rw [eight] at bounded
    exact bounded
  refine ⟨UInt64.ofNat (beNat index.data), ?_, by rw [counterValue, if_pos eight]⟩
  unfold be64
  rw [UInt64.toNat_ofNat_of_lt' small, ← eight, be_bytes_be_nat]

theorem pin_value (isPin : index.isPin = true) :
    ∃ counters : NvPinCounterParameters, counters.marshal = index.data ∧ index.pinCounters = .ok counters := by
  have eight : index.data.length = 8 := (shaped.filled written).trans (shaped.wide (by simp [isWide, isPin]))
  have quarter : ∀ octets : Bytes, octets.length = 4 → be32 (UInt32.ofNat (beNat octets)) = octets := by
    intro octets four
    have small : beNat octets < 2 ^ 32 := by
      have bounded := be_nat_lt octets
      rw [four] at bounded
      exact bounded
    unfold be32
    rw [UInt32.toNat_ofNat_of_lt' small, ← four, be_bytes_be_nat]
  let counters : NvPinCounterParameters :=
    ⟨UInt32.ofNat (beNat (index.data.take 4)), UInt32.ofNat (beNat (index.data.drop 4))⟩
  have whole : counters.marshal = index.data := by
    unfold NvPinCounterParameters.marshal counters
    rw [quarter _ (by simp [eight]), quarter _ (by simp [eight]), List.take_append_drop]
  refine ⟨counters, whole, ?_⟩
  unfold pinCounters
  rw [isPin, written, ← whole, decodes_pin_counters]
  rfl

theorem shaped_answers : index.Answers where
  read offset size inside := by
    have filled := shaped.filled written
    refine ⟨_, ?_, rfl, by simp; omega⟩
    unfold read
    simp only [written, Bool.not_true, Bool.false_eq_true, if_false]
    rw [if_neg (by omega), if_neg (by omega)]
  increment counter := by
    obtain ⟨value, same, read⟩ := index.wide_value shaped written (by simp [isWide, counter])
    refine ⟨value, same, fun floor => ?_⟩
    unfold increment
    simp only [counter, written, read]
    rfl
  setBits bits := by
    obtain ⟨value, same, read⟩ := index.wide_value shaped written (by simp [isWide, bits])
    refine ⟨value, same, fun more => ?_⟩
    unfold setBits
    simp only [bits, written, read]
    rfl
  extend typed value := by
    have sized := shaped.digest typed
    have current := digest_size_of_hash _ _ sized
    have filled := shaped.filled written
    have made := Hash.digest_ok index.area.nameAlg (index.data ++ value) _ sized
    refine ⟨_, made, ?_⟩
    unfold extend
    simp only [typed, current, written, filled]
    simp [Hash.digestParts, made, bind, Except.bind, pure, Except.pure]
  pin isPin := by
    obtain ⟨counters, same, read⟩ := index.pin_value shaped written isPin
    refine ⟨counters, same, read, fun next => ?_⟩
    unfold setPinCounters
    rw [isPin]
    rfl

end

end NvIndex

-- After any run every Index, in memory and in the file, is of its shape, and once written answers to all that its
-- type is asked.
theorem nv_indices_shaped (s : TpmState) (empty : s.nv.indices = SortedMap.empty) (signals : List Signal)
    (handle : UInt32) (index : NvIndex)
    (held : ((Tpm.manufactured s).afterAll signals).state.nv.get handle = .ok index ∨
      ((Tpm.manufactured s).afterAll signals).store.nv.get handle = .ok index) :
    index.Shaped ∧ (index.written = true → index.Answers) := by
  have start : s.nv.Shaped := by
    intro handle index held
    rw [NvStore.get_is_ok, empty] at held
    cases held
  have holds := Tpm.run_invariant _ (nv_invariant_holds NvStore.Shaped NvStore.shaped_invariant) s start signals
  have shaped : index.Shaped := by
    rcases held with held | held
    · exact holds.state handle index held
    · exact holds.store handle index held
  exact ⟨shaped, index.shaped_answers shaped⟩

end

namespace Toy

theorem counter_answers : ∃ s index, (s : TpmState).nv.indices = SortedMap.empty ∧
    ((Tpm.manufactured s).afterAll roundedUp).state.nv.get counterHandle = .ok index ∧
    index.written = true ∧ index.Shaped ∧ index.Answers := by
  have tested : found (TpmState.manufacture (List.replicate 48 7)) (fun s =>
      decide (s.nv.indices = SortedMap.empty) &&
        found (((Tpm.manufactured s).afterAll roundedUp).state.nv.get counterHandle) NvIndex.written) = true := by
    rw [manufacture_made]
    decide +kernel
  obtain ⟨s, _, tested⟩ := ok_of_found _ _ tested
  simp only [Bool.and_eq_true, decide_eq_true_eq] at tested
  obtain ⟨empty, stored⟩ := tested
  obtain ⟨index, held, written⟩ := ok_of_found _ _ stored
  obtain ⟨shaped, answers⟩ := nv_indices_shaped s empty roundedUp counterHandle index (.inl held)
  exact ⟨s, index, empty, held, written, shaped, answers written⟩

end Toy

end Swtrust
