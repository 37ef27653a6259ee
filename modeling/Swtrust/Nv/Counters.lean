import Swtrust.Nv.Space

set_option autoImplicit false
set_option linter.unusedSectionVars false

namespace Swtrust

open Library Action

-- What a counter Index reports, once it is written, and whether a TPM Reset or Restart lets it keep that.
structure NvCount where
  value : Option UInt64
  lasting : Bool
  deriving DecidableEq

-- The highest count noted, and what the Indices report.
structure NvTally where
  floor : UInt64
  counts : SortedMap UInt32 NvCount
  deriving DecidableEq

namespace NvTally

def valueAt (t : NvTally) (handle : UInt32) : Option UInt64 := (t.counts.get handle).bind (·.value)

-- No counter reports more than the highest count noted.
def settled (t : NvTally) : Bool := t.counts.values.all fun count => count.value.elim true fun value => decide (value ≤ t.floor)

def Lasting (t : NvTally) : Prop := ∀ handle count, t.counts.get handle = some count → count.lasting = true

-- A value that no counter still to be started can report.
def Passed (t : NvTally) (value : UInt64) : Prop :=
  value ≤ t.floor ∨ ∃ handle held, t.valueAt handle = some held ∧ value ≤ held

structure Later (before after : NvTally) : Prop where
  passed : ∀ value, before.Passed value → after.Passed value
  ahead : ∀ handle value, after.valueAt handle = some value →
    (∃ old, before.valueAt handle = some old ∧ old ≤ value) ∨ ∀ old, before.Passed old → old < value

theorem later_self (t : NvTally) : Later t t :=
  ⟨fun _ => id, fun _ value reported => .inl ⟨value, reported, UInt64.le_refl _⟩⟩

theorem later_trans (a b c : NvTally) (first : Later a b) (second : Later b c) : Later a c := by
  refine ⟨fun value passed => second.passed value (first.passed value passed), fun handle value reported => ?_⟩
  rcases second.ahead handle value reported with ⟨middle, held, le⟩ | above
  · rcases first.ahead handle middle held with ⟨old, kept, below⟩ | above
    · exact .inl ⟨old, kept, UInt64.le_trans below le⟩
    · exact .inr fun old passed => UInt64.lt_of_lt_of_le (above old passed) le
  · exact .inr fun old passed => above old (first.passed old passed)

theorem passed_of_reported (t : NvTally) (handle : UInt32) (value : UInt64) (reported : t.valueAt handle = some value) :
    t.Passed value := .inr ⟨handle, value, reported, UInt64.le_refl _⟩

theorem settled_floor (t : NvTally) (settled : t.settled = true) (handle : UInt32) (value : UInt64)
    (reported : t.valueAt handle = some value) : value ≤ t.floor := by
  obtain ⟨count, held, value⟩ := Option.bind_eq_some_iff.mp reported
  have member := List.mem_map_of_mem (f := Prod.snd) (t.counts.get_mem handle count held)
  have bounded := List.all_eq_true.mp settled count member
  rw [value] at bounded
  exact of_decide_eq_true bounded

theorem passed_floor (t : NvTally) (settled : t.settled = true) (value : UInt64) (passed : t.Passed value) :
    value ≤ t.floor := by
  rcases passed with below | ⟨handle, held, reported, le⟩
  · exact below
  · exact UInt64.le_trans le (t.settled_floor settled handle held reported)

-- Counters that go on where they were, under a floor that does not fall.
theorem later_of_values (before after : NvTally) (floor : before.floor ≤ after.floor)
    (onwards : ∀ handle value, before.valueAt handle = some value → ∃ next, after.valueAt handle = some next ∧ value ≤ next)
    (back : ∀ handle value, after.valueAt handle = some value → ∃ old, before.valueAt handle = some old ∧ old ≤ value) :
    Later before after := by
  refine ⟨fun value passed => ?_, fun handle value reported => .inl (back handle value reported)⟩
  rcases passed with below | ⟨handle, held, reported, le⟩
  · exact .inl (UInt64.le_trans below floor)
  · obtain ⟨next, found, further⟩ := onwards handle held reported
    exact .inr ⟨handle, next, found, UInt64.le_trans le further⟩

theorem later_of_same (before after : NvTally) (floor : before.floor ≤ after.floor)
    (same : ∀ handle, after.valueAt handle = before.valueAt handle) : Later before after := by
  refine later_of_values before after floor (fun handle value reported => ?_) fun handle value reported => ?_
  · exact ⟨value, (same handle).trans reported, UInt64.le_refl _⟩
  · exact ⟨value, (same handle).symm.trans reported, UInt64.le_refl _⟩

-- Counters that go, with all they reported noted.
theorem later_of_fewer (before after : NvTally) (floor : before.floor ≤ after.floor)
    (noted : ∀ handle value, before.valueAt handle = some value → after.valueAt handle = some value ∨ value ≤ after.floor)
    (fewer : ∀ handle value, after.valueAt handle = some value → before.valueAt handle = some value) :
    Later before after := by
  refine ⟨fun value passed => ?_, fun handle value reported => ?_⟩
  · rcases passed with below | ⟨handle, held, reported, le⟩
    · exact .inl (UInt64.le_trans below floor)
    · rcases noted handle held reported with kept | noted
      · exact .inr ⟨handle, held, kept, le⟩
      · exact .inl (UInt64.le_trans le noted)
  · exact .inl ⟨value, fewer handle value reported, UInt64.le_refl _⟩

-- A counter that is counted up, or that starts above a floor nothing is above.
theorem later_of_count (before after : NvTally) (handle : UInt32) (value : UInt64) (floor : before.floor ≤ after.floor)
    (counted : after.valueAt handle = some value)
    (others : ∀ other, other ≠ handle → after.valueAt other = before.valueAt other)
    (grown : (∃ old, before.valueAt handle = some old ∧ old ≤ value) ∨
      before.valueAt handle = none ∧ before.settled = true ∧ before.floor < value) : Later before after := by
  refine ⟨fun old passed => ?_, fun other reported found => ?_⟩
  · rcases passed with below | ⟨other, held, reported, le⟩
    · exact .inl (UInt64.le_trans below floor)
    · by_cases same : other = handle
      · rw [same] at reported
        rcases grown with ⟨old, here, further⟩ | ⟨none, -, -⟩
        · rw [here] at reported
          obtain rfl := Option.some.inj reported
          exact .inr ⟨handle, value, counted, UInt64.le_trans le further⟩
        · rw [none] at reported
          cases reported
      · exact .inr ⟨other, held, (others other same).trans reported, le⟩
  · by_cases same : other = handle
    · rw [same, counted] at found
      obtain rfl := Option.some.inj found
      rw [same]
      rcases grown with old | ⟨-, settled, above⟩
      · exact .inl old
      · exact .inr fun old passed => UInt64.lt_of_le_of_lt (before.passed_floor settled old passed) above
    · rw [others other same] at found
      exact .inl ⟨reported, found, UInt64.le_refl _⟩

-- The highest count noted, with all that the Indices report noted as well.
def caughtUp (t : NvTally) : NvTally :=
  { t with floor := t.counts.values.foldl (fun floor count => count.value.elim floor (max floor)) t.floor }

theorem note_above (count : NvCount) (floor : UInt64) : floor ≤ count.value.elim floor (max floor) := by
  cases count.value with
  | none => exact UInt64.le_refl _
  | some value =>
      show floor ≤ max floor value
      rw [UInt64.le_iff_toNat_le, UInt64.toNat_max]
      exact Nat.le_max_left _ _

theorem notes_above (counts : List NvCount) (floor : UInt64) :
    floor ≤ counts.foldl (fun floor count => count.value.elim floor (max floor)) floor := by
  induction counts generalizing floor with
  | nil => exact UInt64.le_refl _
  | cons count rest ih => exact UInt64.le_trans (note_above count floor) (ih _)

theorem noted_below (counts : List NvCount) : ∀ floor, ∀ count ∈ counts, ∀ value, count.value = some value →
    value ≤ counts.foldl (fun floor count => count.value.elim floor (max floor)) floor := by
  induction counts with
  | nil => exact fun _ _ member => nomatch member
  | cons first rest ih =>
      intro floor count member value held
      rcases List.mem_cons.mp member with rfl | later
      · refine UInt64.le_trans ?_ (notes_above rest _)
        show value ≤ count.value.elim floor (max floor)
        rw [held]
        show value ≤ max floor value
        rw [UInt64.le_iff_toNat_le, UInt64.toNat_max]
        exact Nat.le_max_right _ _
      · exact ih _ count later value held

-- A higher floor to start from may as well be put in at the end.
theorem notes_from (counts : List NvCount) (floor other : UInt64) :
    counts.foldl (fun floor count => count.value.elim floor (max floor)) (max floor other) =
      max (counts.foldl (fun floor count => count.value.elim floor (max floor)) floor) other := by
  induction counts generalizing floor with
  | nil => rfl
  | cons count rest ih =>
      rw [List.foldl_cons, List.foldl_cons, ← ih]
      cases count.value with
      | none => rfl
      | some value =>
          refine congrArg (rest.foldl _) ?_
          show max (max floor other) value = max (max floor value) other
          rw [← UInt64.toNat_inj]
          simp only [UInt64.toNat_max]
          omega

-- A floor that nothing reported is above is left as it is.
theorem notes_same (counts : List NvCount) (floor : UInt64)
    (below : ∀ count ∈ counts, ∀ value, count.value = some value → value ≤ floor) :
    counts.foldl (fun floor count => count.value.elim floor (max floor)) floor = floor := by
  induction counts with
  | nil => rfl
  | cons count rest ih =>
      have here : count.value.elim floor (max floor) = floor := by
        cases held : count.value with
        | none => rfl
        | some value =>
            show max floor value = floor
            have le := below count List.mem_cons_self value held
            rw [← UInt64.toNat_inj, UInt64.toNat_max]
            exact Nat.max_eq_left (UInt64.le_iff_toNat_le.mp le)
      rw [List.foldl_cons, here]
      exact ih fun other member => below other (List.mem_cons_of_mem _ member)

theorem caught_up_again (t : NvTally) : t.caughtUp.caughtUp = t.caughtUp := by
  refine congrArg (NvTally.mk · t.counts) ?_
  exact notes_same _ _ fun count member value held => noted_below _ t.floor count member value held

theorem later_caught_up (t : NvTally) : Later t t.caughtUp :=
  later_of_same t t.caughtUp (notes_above _ _) fun _ => rfl

end NvTally

namespace NvIndex

def reported (index : NvIndex) : Option UInt64 :=
  if index.indexType = Nt.counter ∧ index.written then index.counterValue.toOption else none

def count (index : NvIndex) : NvCount where
  value := index.reported
  lasting := !(index.indexType == Nt.counter && index.area.attributes.has NvAttributes.clearStclear)

theorem reported_revised [Profile] (before after : NvIndex) (revised : before.Revised after) :
    after.reported = before.reported := by
  unfold reported
  by_cases counter : before.indexType = Nt.counter
  · obtain ⟨data, written⟩ := revised.counter counter
    unfold counterValue
    rw [revised.indexType, data, written]
  · rw [if_neg fun both => counter (revised.indexType.symm.trans both.1), if_neg fun both => counter both.1]

theorem count_revised [Profile] (before after : NvIndex) (revised : before.Revised after) : after.count = before.count := by
  unfold count
  rw [reported_revised before after revised, revised.indexType, revised.clearStclear]

theorem reported_blank (index : NvIndex) (blank : index.written = false) : index.reported = none := by
  unfold reported
  rw [if_neg (by simp [blank])]

theorem reported_of_value (index : NvIndex) (value : UInt64) (counter : index.indexType = Nt.counter)
    (written : index.written = true) (read : index.counterValue = .ok value) : index.reported = some value := by
  unfold reported
  rw [if_pos ⟨counter, written⟩, read]
  rfl

theorem counter_value_be64 (index : NvIndex) (value : UInt64) (data : index.data = be64 value) :
    index.counterValue = .ok value := by
  unfold counterValue
  rw [data, if_pos (be64_length value)]
  have small : value.toNat < 256 ^ 8 := value.toNat_lt
  unfold be64
  rw [be_nat_be_bytes_of_lt _ _ small, UInt64.ofNat_toNat]

-- An increment goes one up, or starts past the floor.
theorem increment_counts (index next : NvIndex) (floor value : UInt64)
    (counted : index.increment floor = .ok (value, next)) :
    next.count = ⟨some value, index.count.lasting⟩ ∧ (index.reported = none ∧ value = satSucc floor ∨
      ∃ old, index.reported = some old ∧ value = old + 1) := by
  have marked : ∀ made : UInt64, index.indexType = Nt.counter →
      ({ index with data := be64 made } : NvIndex).setWritten.count = ⟨some made, index.count.lasting⟩ := by
    intro made counter
    have typed : ({ index with data := be64 made } : NvIndex).setWritten.indexType = Nt.counter :=
      (set_written_type _).trans counter
    have written : ({ index with data := be64 made } : NvIndex).setWritten.written = true := Flags32.has_with_mask _ _
    have value := reported_of_value _ made typed written (counter_value_be64 _ made rfl)
    unfold count
    rw [value, typed, set_written_apart _ _ (by decide), counter]
  unfold increment at counted
  rw [guarded_then_is_ok] at counted
  obtain ⟨typed, counted⟩ := counted
  have counter : index.indexType = Nt.counter := not_not.mp typed
  split at counted
  next written =>
    simp only [bind_is_ok, pure_is_ok, map_is_ok, Prod.mk.injEq] at counted
    obtain ⟨_, ⟨old, read, rfl⟩, rfl, rfl⟩ := counted
    exact ⟨marked _ counter, .inr ⟨old, index.reported_of_value old counter written read, rfl⟩⟩
  next unwritten =>
    simp only [bind_is_ok, pure_is_ok, Prod.mk.injEq] at counted
    obtain ⟨_, rfl, rfl, rfl⟩ := counted
    exact ⟨marked _ counter, .inl ⟨index.reported_blank (by simpa using unwritten), rfl⟩⟩

theorem revised_trans [Profile] (a b c : NvIndex) (first : Revised a b) (second : Revised b c) : Revised a c := by
  refine ⟨?_, second.auth.trans first.auth, second.indexType.trans first.indexType,
    second.orderly.trans first.orderly, second.clearStclear.trans first.clearStclear, fun counter => ?_,
    second.shaped ∘ first.shaped⟩
  · rw [second.area, first.area]
  · obtain ⟨data, written⟩ := second.counter (first.indexType.trans counter)
    exact ⟨data.trans (first.counter counter).1, written.trans (first.counter counter).2⟩

theorem count_apart (index : NvIndex) (apart : index.indexType ≠ Nt.counter) : index.count = ⟨none, true⟩ := by
  unfold count reported
  rw [if_neg fun both => apart both.1]
  simp [apart]

-- A startup keeps what a counter reports, or rounds it up.
theorem count_cleared [Profile] (restart disorderly : Bool) (index : NvIndex) (lasting : index.count.lasting = true) :
    (NvStore.clearIndex restart disorderly index).count.lasting = true ∧
      ((NvStore.clearIndex restart disorderly index).reported = index.reported ∨
        ∃ value, index.reported = some value ∧
          (NvStore.clearIndex restart disorderly index).reported = some (value ||| Config.maxOrderlyCount)) := by
  unfold NvStore.clearIndex
  extract_lets read permanent unlocked kept left
  -- A counter loses only its locks, and is rounded up after a disorderly shutdown.
  -- Of an Index of another type nothing is counted before or after.
  by_cases counter : index.indexType = Nt.counter
  · have first : index.Revised read := by
      unfold read
      split
      · exact index.revised_read_lock false
      · exact index.revised_self
    have second : read.Revised unlocked := by
      unfold unlocked
      split
      · exact read.revised_self
      · exact read.revised_write_lock false
    have whole : index.Revised unlocked := revised_trans _ _ _ first second
    have third : kept = unlocked := by
      unfold kept
      rw [if_neg fun all => all.2.1 (whole.indexType.trans counter)]
    have fourth : left = kept := by
      have held : index.area.attributes.has NvAttributes.clearStclear = false := by simpa [count, counter] using lasting
      unfold left
      rw [third, whole.clearStclear, held]
      rfl
    rw [third] at fourth
    have same : left.count = index.count := by
      rw [fourth]
      exact count_revised _ _ whole
    split
    next rounds =>
      split
      next value read =>
        have typed : left.indexType = Nt.counter := rounds.2.2.1
        have written : left.written = true := rounds.2.2.2
        have before : left.reported = some value := left.reported_of_value value typed written read
        have after : ({ left with data := be64 (value ||| Config.maxOrderlyCount) } : NvIndex).reported =
            some (value ||| Config.maxOrderlyCount) :=
          reported_of_value _ _ typed written (counter_value_be64 _ _ rfl)
        refine ⟨(congrArg NvCount.lasting same).trans lasting, .inr ⟨value, ?_, after⟩⟩
        exact (congrArg NvCount.value same).symm.trans before
      next => exact ⟨(congrArg NvCount.lasting same).trans lasting, .inl (congrArg NvCount.value same)⟩
    next => exact ⟨(congrArg NvCount.lasting same).trans lasting, .inl (congrArg NvCount.value same)⟩
  · have first : read.indexType = index.indexType := by
      unfold read
      split
      · exact (index.revised_read_lock false).indexType
      · rfl
    have second : unlocked.indexType = read.indexType := by
      unfold unlocked
      split
      · rfl
      · exact (read.revised_write_lock false).indexType
    have third : kept.indexType = unlocked.indexType := by
      unfold kept
      split
      · exact (worn_forget _).1
      · rfl
    have fourth : left.indexType = kept.indexType := by
      unfold left
      split
      · exact (worn_forget _).1
      · rfl
    have apart : left.indexType ≠ Nt.counter := by
      rw [fourth, third, second, first]
      exact counter
    rw [if_neg fun rounds => apart rounds.2.2.1, left.count_apart apart]
    refine ⟨rfl, .inl ?_⟩
    exact (congrArg NvCount.value (left.count_apart apart)).trans (congrArg NvCount.value (index.count_apart counter)).symm

theorem pin_not_counter (index : NvIndex) (pin : Pin) (read : index.pin = .ok pin) : index.indexType ≠ Nt.counter := by
  intro counter
  obtain ⟨_, _, counters⟩ := (index.pin_is_ok pin).mp read
  unfold pinCounters isPin at counters
  rw [counter] at counters
  cases counters

end NvIndex

namespace NvStore

def tally (store : NvStore) : NvTally where
  floor := store.highestCounter
  counts := store.indices.mapValues fun _ index => index.count

-- What the counter Index at a handle reports.
def counterAt (store : NvStore) (handle : UInt32) : Option UInt64 := (store.indices.get handle).bind NvIndex.reported

theorem tally_value (store : NvStore) (handle : UInt32) : store.tally.valueAt handle = store.counterAt handle := by
  unfold NvTally.valueAt tally counterAt
  dsimp only
  rw [SortedMap.get_map_values]
  cases store.indices.get handle with
  | none => rfl
  | some index => rfl

theorem get_is_ok (store : NvStore) (handle : UInt32) (index : NvIndex) :
    store.get handle = .ok index ↔ store.indices.get handle = some index := by
  unfold get
  cases store.indices.get handle with
  | none => exact ⟨nofun, nofun⟩
  | some other => exact ⟨fun same => congrArg some (Except.ok.inj same), fun same => congrArg Except.ok (Option.some.inj same)⟩

theorem counter_held (store : NvStore) (handle : UInt32) (index : NvIndex) (held : store.get handle = .ok index) :
    store.counterAt handle = index.reported := by
  unfold counterAt
  rw [(store.get_is_ok handle index).mp held]
  rfl

theorem lasting_held (store : NvStore) (lasting : store.tally.Lasting) (handle : UInt32) (index : NvIndex)
    (held : store.indices.get handle = some index) : index.count.lasting = true := by
  refine lasting handle index.count ?_
  unfold tally
  rw [SortedMap.get_map_values, held]
  rfl

theorem lasting_of_held (store : NvStore)
    (held : ∀ handle index, store.indices.get handle = some index → index.count.lasting = true) : store.tally.Lasting := by
  intro handle count found
  unfold tally at found
  dsimp only at found
  rw [SortedMap.get_map_values] at found
  obtain ⟨index, stored, rfl⟩ := Option.map_eq_some_iff.mp found
  exact held handle index stored

theorem counter_put_same (store : NvStore) (handle : UInt32) (index : NvIndex) :
    (store.put handle index).counterAt handle = index.reported := by
  unfold counterAt put
  rw [SortedMap.get_insert_same]
  rfl

theorem counter_put_other (store : NvStore) (handle other : UInt32) (index : NvIndex) (apart : other ≠ handle) :
    (store.put handle index).counterAt other = store.counterAt other := by
  unfold counterAt put
  rw [SortedMap.get_insert_other _ _ _ _ apart]

theorem lasting_put (store : NvStore) (handle : UInt32) (index : NvIndex) (kept : index.count.lasting = true)
    (lasting : store.tally.Lasting) : (store.put handle index).tally.Lasting := by
  refine lasting_of_held _ fun other held found => ?_
  unfold put at found
  dsimp only at found
  rw [SortedMap.get_insert] at found
  split at found
  · cases found
    exact kept
  · exact store.lasting_held lasting other held found

-- The Indices that stay are of those there were.
theorem lasting_of_fewer (before after : NvStore)
    (fewer : ∀ handle index, after.indices.get handle = some index → before.indices.get handle = some index)
    (lasting : before.tally.Lasting) : after.tally.Lasting :=
  lasting_of_held _ fun handle index held => before.lasting_held lasting handle index (fewer handle index held)

theorem later_put (store : NvStore) (handle : UInt32) (index next : NvIndex) (held : store.get handle = .ok index)
    (same : next.reported = index.reported) : NvTally.Later store.tally (store.put handle next).tally := by
  refine NvTally.later_of_same _ _ (UInt64.le_refl _) fun other => ?_
  rw [tally_value, tally_value]
  by_cases here : other = handle
  · rw [here, counter_put_same, same, store.counter_held handle index held]
  · exact store.counter_put_other handle other next here

theorem raise_floor_above (store : NvStore) (floor : UInt64) :
    store.highestCounter ≤ (store.raiseFloor floor).highestCounter ∧ floor ≤ (store.raiseFloor floor).highestCounter := by
  change store.highestCounter ≤ max store.highestCounter floor ∧ floor ≤ max store.highestCounter floor
  rw [show max store.highestCounter floor = if store.highestCounter ≤ floor then floor else store.highestCounter from rfl]
  split
  next above => exact ⟨above, UInt64.le_refl _⟩
  next below => exact ⟨UInt64.le_refl _, UInt64.le_of_lt (UInt64.not_le.mp below)⟩

theorem note_counter_floor (store : NvStore) (index : NvIndex) :
    store.highestCounter ≤ (store.noteCounter index).highestCounter ∧
      ∀ value, index.reported = some value → value ≤ (store.noteCounter index).highestCounter := by
  unfold noteCounter NvIndex.reported
  split
  next counts =>
    cases read : index.counterValue with
    | ok value =>
        refine ⟨(store.raise_floor_above value).1, fun reported same => ?_⟩
        obtain rfl := Option.some.inj same
        exact (store.raise_floor_above _).2
    | error e => exact ⟨UInt64.le_refl _, nofun⟩
  next => exact ⟨UInt64.le_refl _, nofun⟩

theorem note_counter_tally (store : NvStore) (index : NvIndex) :
    (store.noteCounter index).highestCounter =
      index.count.value.elim store.highestCounter (max store.highestCounter) := by
  unfold noteCounter NvIndex.count NvIndex.reported
  dsimp only
  split
  next counts =>
    cases index.counterValue with
    | ok value => rfl
    | error e => rfl
  next => rfl

theorem noted_highest (indices : List NvIndex) (store : NvStore) :
    (indices.foldl noteCounter store).highestCounter =
      (indices.map NvIndex.count).foldl (fun floor count => count.value.elim floor (max floor)) store.highestCounter := by
  induction indices generalizing store with
  | nil => rfl
  | cons index rest ih => rw [List.foldl_cons, ih, note_counter_tally, List.map_cons, List.foldl_cons]

-- A reading of the file notes what the Indices report.
theorem restored_nv_tally (store : NvStore) : (TpmState.restoredNv store).tally = store.tally.caughtUp := by
  have values : store.tally.counts.values = store.indices.values.map NvIndex.count := by
    unfold tally SortedMap.values SortedMap.mapValues
    simp only [List.map_map]
    rfl
  unfold NvTally.caughtUp
  rw [values]
  unfold tally
  rw [TpmState.restored_nv_indices]
  exact congrArg (NvTally.mk · _) (noted_highest store.indices.values store)

-- What keeps a count from being forgotten, or started twice: the Indices that TPM2_Clear takes and the counter that is
-- incremented for the first time find no counter past the highest count noted. The counts stay below the 64-bit maximum.
def countsOn (tally : NvTally) (request : Request) : Bool :=
  if request.code = Cc.clear then tally.settled
  else if request.code = Cc.nvIncrement then
    match request.handle 1 with
    | .error _ => true
    | .ok handle =>
      match tally.valueAt handle with
      | some value => decide (value ≠ 0xFFFFFFFFFFFFFFFF)
      | none => tally.settled && decide (tally.floor ≠ 0xFFFFFFFFFFFFFFFF)
  else true

theorem counted_above (value : UInt64) (below : value ≠ 0xFFFFFFFFFFFFFFFF) : value < value + 1 := by
  have bound := value.toNat_lt
  have apart : value.toNat ≠ 0xFFFFFFFFFFFFFFFF := fun same => below (UInt64.toNat_inj.mp same)
  rw [UInt64.lt_iff_toNat_lt, UInt64.toNat_add]
  change value.toNat < (value.toNat + 1) % 2 ^ 64
  omega

theorem increment_later (before : NvStore) (request : Request) (handle : UInt32) (index next : NvIndex) (value : UInt64)
    (coded : request.code = Cc.nvIncrement) (named : request.handle 1 = .ok handle) (held : before.get handle = .ok index)
    (counted : index.increment before.highestCounter = .ok (value, next))
    (countsOn : countsOn before.tally request = true) :
    NvTally.Later before.tally ((before.put handle next).raiseFloor value).tally := by
  obtain ⟨count, grown⟩ := index.increment_counts next before.highestCounter value counted
  have started : before.tally.valueAt handle = index.reported :=
    (before.tally_value handle).trans (before.counter_held handle index held)
  have apart : Cc.nvIncrement ≠ Cc.clear := by decide
  simp only [NvStore.countsOn, coded, if_neg apart, if_true, named, started] at countsOn
  refine NvTally.later_of_count _ _ handle value ((before.put handle next).raise_floor_above value).1 ?_ ?_ ?_
  · exact (tally_value _ handle).trans ((counter_put_same before handle next).trans (congrArg NvCount.value count))
  · intro other apart
    rw [tally_value, tally_value]
    exact before.counter_put_other handle other next apart
  · rw [started]
    rcases grown with ⟨blank, rfl⟩ | ⟨old, reported, rfl⟩
    · rw [blank] at countsOn ⊢
      simp only [Bool.and_eq_true, decide_eq_true_eq] at countsOn
      have below : before.highestCounter ≠ 0xFFFFFFFFFFFFFFFF := countsOn.2
      refine .inr ⟨rfl, countsOn.1, ?_⟩
      change before.highestCounter < satSucc before.highestCounter
      unfold satSucc
      rw [if_neg below]
      exact counted_above _ below
    · rw [reported] at countsOn ⊢
      exact .inl ⟨old, rfl, UInt64.le_of_lt (counted_above old (of_decide_eq_true countsOn))⟩

theorem startup_later [Profile] (before : NvStore) (restart disorderly : Bool) (lasting : before.tally.Lasting) :
    NvTally.Later before.tally (before.onStartupClearWith restart disorderly).tally ∧
      (before.onStartupClearWith restart disorderly).tally.Lasting := by
  have cleared : ∀ handle, (before.onStartupClearWith restart disorderly).indices.get handle =
      (before.indices.get handle).map (clearIndex restart disorderly) := fun handle => SortedMap.get_map_values _ _ _
  have each : ∀ handle, (before.onStartupClearWith restart disorderly).counterAt handle = before.counterAt handle ∨
      ∃ value, before.counterAt handle = some value ∧
        (before.onStartupClearWith restart disorderly).counterAt handle = some (value ||| Config.maxOrderlyCount) := by
    intro handle
    unfold counterAt
    rw [cleared]
    cases held : before.indices.get handle with
    | none => exact .inl rfl
    | some index => exact (index.count_cleared restart disorderly (before.lasting_held lasting handle index held)).2
  have rounds : ∀ value : UInt64, value ≤ value ||| Config.maxOrderlyCount := by
    intro value
    rw [UInt64.le_iff_toNat_le, UInt64.toNat_or]
    exact Nat.left_le_or
  refine ⟨NvTally.later_of_values _ _ (UInt64.le_refl _) (fun handle value reported => ?_)
    fun handle value reported => ?_, lasting_of_held _ fun handle index held => ?_⟩
  · rw [tally_value] at reported ⊢
    rcases each handle with same | ⟨old, held, rounded⟩
    · exact ⟨value, same.trans reported, UInt64.le_refl _⟩
    · rw [reported] at held
      obtain rfl := Option.some.inj held
      exact ⟨_, rounded, rounds _⟩
  · rw [tally_value] at reported ⊢
    rcases each handle with same | ⟨old, held, rounded⟩
    · exact ⟨value, same.symm.trans reported, UInt64.le_refl _⟩
    · rw [reported] at rounded
      obtain rfl := Option.some.inj rounded
      exact ⟨old, held, rounds _⟩
  · rw [cleared] at held
    obtain ⟨old, found, rfl⟩ := Option.map_eq_some_iff.mp held
    exact (old.count_cleared restart disorderly (before.lasting_held lasting handle old found)).1

theorem lock_all_later [Profile] (before : NvStore) (lasting : before.tally.Lasting) :
    NvTally.Later before.tally before.globalWriteLock.tally ∧ before.globalWriteLock.tally.Lasting := by
  have locked : ∀ index : NvIndex,
      (if index.area.attributes.has NvAttributes.globallock then index.setWriteLock true else index).count = index.count := by
    intro index
    split
    · exact index.count_revised _ (index.revised_write_lock true)
    · rfl
  have same : before.globalWriteLock.tally = before.tally := by
    refine congrArg (NvTally.mk _) (SortedMap.ext_get fun handle => ?_)
    rw [SortedMap.get_map_values, SortedMap.get_map_values]
    unfold globalWriteLock
    dsimp only
    rw [SortedMap.get_map_values]
    cases before.indices.get handle with
    | none => rfl
    | some index => exact congrArg some (locked index)
  rw [same]
  exact ⟨before.tally.later_self, lasting⟩

-- Every move of a handler goes on from the counts there were.
theorem nv_move_later [Profile] (request : Request) (before after : NvStore) (move : NvMove request before after)
    (on : countsOn before.tally request = true) (lasting : before.tally.Lasting) :
    NvTally.Later before.tally after.tally ∧ after.tally.Lasting := by
  cases move with
  | same => exact ⟨before.tally.later_self, lasting⟩
  | define index blank shaped kept ranged absent room =>
      refine ⟨NvTally.later_of_same _ _ (UInt64.le_refl _) fun handle => ?_, ?_⟩
      · rw [tally_value, tally_value]
        by_cases here : handle = index.area.nvIndex
        · rw [here]
          refine (counter_put_same before index.area.nvIndex index).trans ?_
          rw [index.reported_blank blank]
          unfold counterAt
          rw [absent]
          rfl
        · exact before.counter_put_other index.area.nvIndex handle index here
      · refine before.lasting_put index.area.nvIndex index ?_ lasting
        unfold NvIndex.count
        by_cases counter : index.indexType = Nt.counter
        · simp [kept counter]
        · simp [counter]
  | undefine handle index held =>
      -- A counter that goes leaves its value in the floor, so that no later one starts below it.
      have noted := ({ before with indices := before.indices.erase handle } : NvStore).note_counter_floor index
      have indices := ({ before with indices := before.indices.erase handle } : NvStore).note_counter_indices index
      have gone : ∀ other, other ≠ handle →
          (({ before with indices := before.indices.erase handle } : NvStore).noteCounter index).indices.get other =
            before.indices.get other := by
        intro other apart
        rw [indices]
        exact SortedMap.get_erase_other _ _ _ apart
      have absent : (({ before with indices := before.indices.erase handle } : NvStore).noteCounter index).indices.get handle =
          none := by
        rw [indices]
        exact SortedMap.get_erase_same _ _
      refine ⟨NvTally.later_of_fewer _ _ noted.1 (fun other value reported => ?_) fun other value reported => ?_,
        lasting_of_fewer before _ (fun other stored found => ?_) lasting⟩
      · rw [tally_value] at reported ⊢
        by_cases here : other = handle
        · rw [here, before.counter_held handle index held] at reported
          exact .inr (noted.2 value reported)
        · left
          unfold counterAt at reported ⊢
          rw [gone other here]
          exact reported
      · rw [tally_value] at reported ⊢
        by_cases here : other = handle
        · unfold counterAt at reported
          rw [here, absent] at reported
          cases reported
        · unfold counterAt at reported ⊢
          rw [gone other here] at reported
          exact reported
      · by_cases here : other = handle
        · rw [here, absent] at found
          cases found
        · rw [gone other here] at found
          exact found
  | revise handle index next held revised =>
      have count := index.count_revised next revised
      refine ⟨before.later_put handle index next held (congrArg NvCount.value count), before.lasting_put handle next ?_ lasting⟩
      rw [count]
      exact before.lasting_held lasting handle index ((before.get_is_ok handle index).mp held)
  | increment coded handle named index next value held counted =>
      refine ⟨before.increment_later request handle index next value coded named held counted on, ?_⟩
      refine before.lasting_put handle next ?_ lasting
      rw [(index.increment_counts next _ value counted).1]
      exact before.lasting_held lasting handle index ((before.get_is_ok handle index).mp held)
  | changeAuth coded handle named index held auth sized =>
      exact ⟨before.later_put handle index _ held rfl, before.lasting_put handle _
        (before.lasting_held lasting handle index ((before.get_is_ok handle index).mp held)) lasting⟩
  | lockAll => exact before.lock_all_later lasting
  | startup coded restart disorderly => exact before.startup_later restart disorderly lasting
  | clear coded =>
      -- TPM2_Clear notes nothing: here the floor must already be above what goes.
      have settled : before.tally.settled = true := by simpa [countsOn, coded] using on
      have fewer : ∀ handle index, before.clearOwnerIndices.indices.get handle = some index →
          before.indices.get handle = some index := by
        intro handle index found
        unfold clearOwnerIndices at found
        rw [SortedMap.get_retain] at found
        exact (Option.filter_eq_some_iff.mp found).1
      refine ⟨NvTally.later_of_fewer _ _ (UInt64.le_refl _) (fun handle value reported => ?_)
        fun handle value reported => ?_, lasting_of_fewer before _ fewer lasting⟩
      · exact .inr (before.tally.settled_floor settled handle value reported)
      · rw [tally_value] at reported ⊢
        obtain ⟨index, found, reported⟩ := Option.bind_eq_some_iff.mp reported
        unfold counterAt
        rw [fewer handle index found]
        exact reported

end NvStore

section

variable [Primitives]

theorem record_pin_tally (store : NvStore) (entity : Entity) (accepted : Bool) :
    (store.recordPin entity accepted).tally = store.tally := by
  unfold NvStore.recordPin
  cases entity.pin with
  | none => rfl
  | some handle =>
      dsimp only
      cases held : store.get handle with
      | error e => rfl
      | ok index =>
          dsimp only
          cases read : index.pin with
          | error e => rfl
          | ok pin =>
              dsimp only
              have apart : index.indexType ≠ Nt.counter := index.pin_not_counter pin read
              have same := index.count_revised _ (index.revised_written (pin.turn accepted).counters.marshal apart
                (index.shaped_pin_counters _ (index.is_pin_of_pin pin read)))
              refine congrArg (NvTally.mk _) (SortedMap.ext_get fun other => ?_)
              rw [SortedMap.get_map_values, SortedMap.get_map_values]
              unfold NvStore.put
              dsimp only
              rw [SortedMap.get_insert]
              split
              next equal =>
                rw [equal, (store.get_is_ok handle index).mp held]
                exact congrArg some same
              next => rfl

namespace TpmState

theorem keeps_tally_authorize_from (request : Request) (names : List Bytes) (count index : Nat) :
    Keeps (fun s => s.nv.tally) (authorizeFrom request names count index) := by
  refine keeps_authorize_from_of_settle _ request names (fun index entity attempt s => ?_) count index
  rw [settle_nv]
  split
  · rfl
  · exact record_pin_tally s.nv entity attempt.accepted

theorem authorized_tally (request : Request) (names : List Bytes) (s : TpmState) :
    (final (authorizeFrom request names request.info.authHandles 0 (nullifyShutdown request s))).nv.tally = s.nv.tally := by
  have kept := keeps_tally_authorize_from request names request.info.authHandles 0 (nullifyShutdown request s)
  dsimp only at kept
  rw [kept, nullify_shutdown_nv]

-- A command whose table entry writes no NV leaves the counts alone.
theorem plain_command_tally (s : TpmState) (locality : UInt8) (octets : Bytes) (plain : commandWritesNv octets = false) :
    (run locality octets s).2.nv.tally = s.nv.tally := by
  rcases s.plain_command_nv locality octets plain with ⟨same, _⟩ | ⟨request, names, _, same⟩
  · rw [same]
  · rw [same, authorized_tally]

theorem run_later (s : TpmState) (locality : UInt8) (octets : Bytes)
    (on : ∀ request, parse octets locality = .ok request → NvStore.countsOn s.nv.tally request = true)
    (lasting : s.nv.tally.Lasting) :
    NvTally.Later s.nv.tally (run locality octets s).2.nv.tally ∧ (run locality octets s).2.nv.tally.Lasting := by
  have still : ∀ tally, tally = s.nv.tally → NvTally.Later s.nv.tally tally ∧ tally.Lasting := fun tally same => by
    rw [same]
    exact ⟨s.nv.tally.later_self, lasting⟩
  cases s.run_course locality octets with
  | unprepared e stopped same =>
      refine still _ ?_
      rcases same with same | ⟨request, _, same⟩
      · rw [same]
      · rw [same, nullify_shutdown_nv]
  | unauthorized request names prepared e ran =>
      have same := authorized_tally request names s
      rw [ran] at same
      exact still _ same
  | authorized request names prepared contexts t ran ended =>
      have same := authorized_tally request names s
      rw [ran] at same
      change t.nv.tally = s.nv.tally at same
      obtain ⟨_, parsed, _⟩ := (s.prepare_is_ok locality octets request names).mp prepared
      rw [ended]
      rcases after_authorization_runs _ nv_spared_by_execution request names contexts t with kept | ⟨parameters, moved⟩
      · refine still _ ?_
        rw [← same]
        exact congrArg NvStore.tally kept
      · have move := run_command_nv_moves { request with parameters } { t with commandAuditSuppressed := false }
        have onwards := NvStore.nv_move_later _ _ _ move (same ▸ on request parsed) (same ▸ lasting)
        rw [show (final (afterAuthorization request names contexts t)).nv = _ from moved]
        rw [← same]
        exact onwards

end TpmState

namespace Tpm

-- A command that lets the counts go on; and a restart from a file that the last write reached.
def countsOn (t : Tpm) : Signal → Bool
  | .execute _ _ locality command =>
    match parse command locality with
    | .ok request => NvStore.countsOn t.state.nv.tally request
    | .error _ => true
  | .powerOn _ | .restart _ => !t.state.nvWriteFailed
  | _ => true

-- A TPM Reset lets every counter keep its count, and the file holds the counts unless it could not be written. The
-- highest count noted in it may lag behind until the next write, by what a reading of it notes.
structure Counting (t : Tpm) : Prop where
  lasting : t.state.nv.tally.Lasting
  filed : t.state.nvWriteFailed = true ∨ t.store.nv.tally.caughtUp = t.state.nv.tally.caughtUp

-- A signal leaves the NV alone, and writes the file or not.
theorem later_of_same_nv (t t' : Tpm) (failed : t'.state.nvWriteFailed = t.state.nvWriteFailed)
    (state : t'.state.nv = t.state.nv) (store : t'.store.nv = t.store.nv ∨ t'.store.nv = t'.state.nv)
    (counting : t.Counting) : NvTally.Later t.state.nv.tally t'.state.nv.tally ∧ t'.Counting := by
  rw [state]
  refine ⟨t.state.nv.tally.later_self, by rw [state]; exact counting.lasting, ?_⟩
  rcases store with kept | equal
  · rw [failed, kept, state]
    exact counting.filed
  · exact .inr (congrArg (fun nv => (NvStore.tally nv).caughtUp) equal)

theorem execute_later (t : Tpm) (elapsed : UInt64) (written : Bool) (locality : UInt8) (command : Bytes)
    (on : t.countsOn (.execute elapsed written locality command) = true) (counting : t.Counting) :
    NvTally.Later t.state.nv.tally (t.execute elapsed written locality command).2.state.nv.tally ∧
      (t.execute elapsed written locality command).2.Counting := by
  cases powered : t.powered with
  | false =>
      have same := t.execute_unpowered elapsed written locality command powered
      rw [same]
      exact ⟨t.state.nv.tally.later_self, counting⟩
  | true =>
      have arrived : (t.arrive elapsed).2.nv = t.state.nv := TpmState.advance_time_nv _ elapsed
      obtain ⟨later, lasting⟩ := (t.arrive elapsed).2.run_later locality command
        (fun request parsed => by simpa only [countsOn, parsed, arrived] using on) (arrived ▸ counting.lasting)
      rw [arrived] at later
      have ended := t.execute_executes elapsed written locality command powered
      generalize t.execute elapsed written locality command = result at ended ⊢
      cases ended with
      | saved healthy writes => exact ⟨later, lasting, .inr rfl⟩
      | closed refused writes => exact ⟨later, lasting, .inl rfl⟩
      | clockLost refused plain same rolled => exact ⟨later, lasting, .inl rfl⟩
      | unsaved plain same still =>
          refine ⟨later, lasting, ?_⟩
          have kept := (t.arrive elapsed).2.plain_command_tally locality command plain
          rw [arrived] at kept
          change (t.ran elapsed locality command).2.nvWriteFailed = true ∨
            t.store.nv.tally.caughtUp = (t.ran elapsed locality command).2.nv.tally.caughtUp
          rw [ran_write_failed, show (t.ran elapsed locality command).2.nv.tally = _ from kept]
          exact counting.filed

theorem signal_later (t : Tpm) (signal : Signal) (on : t.countsOn signal = true) (counting : t.Counting) :
    NvTally.Later t.state.nv.tally (t.after signal).state.nv.tally ∧ (t.after signal).Counting := by
  have persisted : ∀ (t : Tpm) (written : Bool), t.Counting →
      NvTally.Later t.state.nv.tally (t.persist written).2.state.nv.tally ∧
      (t.persist written).2.Counting := by
    intro t written counting
    exact holds_after_persist (fun u => NvTally.Later t.state.nv.tally u.state.nv.tally ∧ u.Counting) t written
      ⟨t.state.nv.tally.later_self, counting⟩ (later_of_same_nv t _ rfl rfl (.inr rfl) counting)
  cases signal with
  | execute elapsed written locality command => exact t.execute_later elapsed written locality command on counting
  | powerOn fresh =>
      -- Without a failed write the file holds the counts of the state, and a reading of it loses none.
      have healthy : t.state.nvWriteFailed = false := by simpa [countsOn] using on
      have kept : (t.powerOn fresh).state.nv = t.state.nv := by
        unfold powerOn
        rw [if_neg (by rw [healthy]; decide)]
        exact TpmState.power_on_nv _
      refine ⟨?_, ?_, .inr ?_⟩
      · change NvTally.Later t.state.nv.tally (t.powerOn fresh).state.nv.tally
        rw [kept]
        exact t.state.nv.tally.later_self
      · change (t.powerOn fresh).state.nv.tally.Lasting
        rw [kept]
        exact counting.lasting
      · change t.store.nv.tally.caughtUp = (t.powerOn fresh).state.nv.tally.caughtUp
        rw [kept]
        exact counting.filed.resolve_left (by rw [healthy]; decide)
  | powerOff written =>
      obtain ⟨later, kept⟩ := persisted t written counting
      exact ⟨later, (later_of_same_nv (t.persist written).2 (t.powerOff written) rfl rfl (.inl rfl) kept).2⟩
  | nv available => exact later_of_same_nv t _ rfl rfl (.inl rfl) counting
  | physicalPresence asserted => exact later_of_same_nv t _ rfl rfl (.inl rfl) counting
  | hashStart => exact later_of_same_nv t _ rfl rfl (.inl rfl) counting
  | hashData data => exact later_of_same_nv t _ rfl rfl (.inl rfl) counting
  | hashEnd =>
      exact later_of_same_nv t _ (TpmState.hash_end_write_failed _) (TpmState.hash_end_nv _) (.inl rfl) counting
  | actGetSignaled act elapsed written =>
      have advanced : ∀ millis, NvTally.Later t.state.nv.tally (t.state.advanceTime millis).2.nv.tally ∧
          ({ t with state := (t.state.advanceTime millis).2 } : Tpm).Counting := fun millis =>
        later_of_same_nv t { t with state := (t.state.advanceTime millis).2 }
          (t.state.advance_time_write_failed millis) (t.state.advance_time_nv millis) (.inl rfl) counting
      refine holds_after_poll (fun u => NvTally.Later t.state.nv.tally u.state.nv.tally ∧ u.Counting) t act elapsed written
        advanced fun u kept => ?_
      obtain ⟨further, counting⟩ := persisted u written kept.2
      exact ⟨NvTally.later_trans _ _ _ kept.1 further, counting⟩
  | restart fresh =>
      have healthy : t.state.nvWriteFailed = false := by simpa [countsOn] using on
      have filed := counting.filed.resolve_left (by rw [healthy]; decide)
      have read : (t.restart fresh).state.nv.tally = t.state.nv.tally.caughtUp :=
        (NvStore.restored_nv_tally t.store.nv).trans filed
      refine ⟨?_, ?_, .inr ?_⟩
      · change NvTally.Later t.state.nv.tally (t.restart fresh).state.nv.tally
        rw [read]
        exact t.state.nv.tally.later_caught_up
      · change (t.restart fresh).state.nv.tally.Lasting
        rw [read]
        exact counting.lasting
      · change t.store.nv.tally.caughtUp = (t.restart fresh).state.nv.tally.caughtUp
        rw [read, NvTally.caught_up_again]
        exact filed

theorem run_counts (t : Tpm) (signals : List Signal) (on : Every after (fun t signal => t.countsOn signal = true) t signals)
    (counting : t.Counting) :
    NvTally.Later t.state.nv.tally (t.afterAll signals).state.nv.tally ∧ (t.afterAll signals).Counting :=
  related_of_every after _ Counting (fun t t' => NvTally.Later t.state.nv.tally t'.state.nv.tally)
    (fun t => t.state.nv.tally.later_self) (fun _ _ _ => NvTally.later_trans _ _ _)
    (fun t signal on => t.signal_later signal on) t signals on counting

def counterAt (t : Tpm) (handle : UInt32) : Option UInt64 := t.state.nv.counterAt handle

end Tpm

-- In a run whose signals let the counts go on, what the counter at a handle reports is no less than what one at that
-- handle reported; and what a counter reports after its first increment is more than any has reported.
theorem nv_counters_advance (s : TpmState) (empty : s.nv.indices = SortedMap.empty) (earlier later : List Signal)
    (on : Every Tpm.after (fun t signal => t.countsOn signal = true) (Tpm.manufactured s) (earlier ++ later)) :
    (∀ handle old value, ((Tpm.manufactured s).afterAll earlier).counterAt handle = some old →
        ((Tpm.manufactured s).afterAll (earlier ++ later)).counterAt handle = some value → old ≤ value) ∧
      ∀ between signal, later = between ++ [signal] → ∀ handle value,
        ((Tpm.manufactured s).afterAll (earlier ++ between)).counterAt handle = none →
        ((Tpm.manufactured s).afterAll (earlier ++ later)).counterAt handle = some value →
        ∀ other old, ((Tpm.manufactured s).afterAll earlier).counterAt other = some old → old < value := by
  have start : (Tpm.manufactured s).Counting := by
    refine ⟨NvStore.lasting_of_held _ fun handle index held => ?_, .inr rfl⟩
    change s.nv.indices.get handle = some index at held
    rw [empty] at held
    cases held
  have goes : ∀ t : Tpm, ∀ first second, (t.afterAll (first ++ second)) = (t.afterAll first).afterAll second :=
    fun t first second => List.foldl_append
  obtain ⟨before, after⟩ := (every_append _ _ _ _ _).mp on
  obtain ⟨_, counting⟩ := Tpm.run_counts _ earlier before start
  simp only [goes]
  have at_tally : ∀ (t : Tpm) handle, t.counterAt handle = t.state.nv.tally.valueAt handle :=
    fun t handle => (t.state.nv.tally_value handle).symm
  simp only [at_tally]
  change Every Tpm.after _ ((Tpm.manufactured s).afterAll earlier) later at after
  change ((Tpm.manufactured s).afterAll earlier).Counting at counting
  generalize (Tpm.manufactured s).afterAll earlier = t at counting after
  -- What is reported in the end was there before, or lies above all that was ever reported.
  have whole := (Tpm.run_counts t later after counting).1
  refine ⟨fun handle old value reported ended => ?_, fun between signal split handle value blank ended other old reported => ?_⟩
  · rcases whole.ahead handle value ended with ⟨held, same, le⟩ | above
    · rw [reported] at same
      obtain rfl := Option.some.inj same
      exact le
    · exact UInt64.le_of_lt (above old (t.state.nv.tally.passed_of_reported handle old reported))
  · subst split
    obtain ⟨during, last⟩ := (every_append _ _ _ _ _).mp after
    obtain ⟨meanwhile, kept⟩ := Tpm.run_counts t between during counting
    have final := (Tpm.run_counts _ [signal] last kept).1
    rw [goes] at ended
    rcases final.ahead handle value ended with ⟨held, same, _⟩ | above
    · have started : none = some held := blank.symm.trans same
      cases started
    · exact above old (meanwhile.passed old (t.state.nv.tally.passed_of_reported other old reported))

end

namespace Toy

def counterHandle : UInt32 := Hc.nvIndexFirst

-- An ORDERLY counter that the owner counts up.
def defineCounter : Bytes :=
  let attributes : UInt32 := Nt.counter.toUInt32 <<< (4 : UInt32) ||| NvAttributes.noDa ||| NvAttributes.ownerwrite |||
    NvAttributes.ownerread ||| NvAttributes.orderly
  authorizedCommand Cc.nvDefineSpace [Rh.owner] [(Rh.rsPw, [])] (sized16 [] ++ sized16
    (NvPublic.marshal { nvIndex := counterHandle, nameAlg := Alg.sha256, attributes := ⟨attributes⟩
                        authPolicy := Tpm2b.empty, dataSize := 8 }))

def countUp : Bytes := authorizedCommand Cc.nvIncrement [Rh.owner, counterHandle] [(Rh.rsPw, [])] []

-- The power goes without TPM2_Shutdown, so the next startup rounds the count up.
def roundedUp : List Signal := startedWith [defineCounter, countUp] ++ [.powerOff true] ++ startedWith []

def clearedAndStarted : List Signal :=
  sent [authorizedCommand Cc.clear [Rh.lockout] [(Rh.rsPw, [])] [], defineCounter, countUp]

-- TPM2_Clear forgets the rounded count, and a counter defined again starts below it.
theorem rounded_counter_goes_back : ¬ ∀ seed s, TpmState.manufacture seed = .ok s → ∀ earlier later handle old value,
    ((Tpm.manufactured s).afterAll earlier).counterAt handle = some old →
    ((Tpm.manufactured s).afterAll (earlier ++ later)).counterAt handle = some value → old ≤ value := by
  intro advances
  have tested : found (TpmState.manufacture (List.replicate 48 7)) (fun s =>
      decide (((Tpm.manufactured s).afterAll roundedUp).counterAt counterHandle = some 255) &&
        decide (((Tpm.manufactured s).afterAll (roundedUp ++ clearedAndStarted)).counterAt counterHandle = some 2)) =
      true := by
    rw [manufacture_made]
    decide +kernel
  obtain ⟨s, made, tested⟩ := ok_of_found _ _ tested
  simp only [Bool.and_eq_true, decide_eq_true_eq] at tested
  exact absurd (advances _ s made _ _ _ _ _ tested.1 tested.2) (by decide)

-- Where the file is read again in between, the rounded count is noted and the counter goes on above it.
theorem counting_advances : ∃ s earlier later old value, (s : TpmState).nv.indices = SortedMap.empty ∧
    Every Tpm.after (fun t signal => t.countsOn signal = true) (Tpm.manufactured s) (earlier ++ later) ∧
    ((Tpm.manufactured s).afterAll earlier).counterAt counterHandle = some old ∧
    ((Tpm.manufactured s).afterAll (earlier ++ later)).counterAt counterHandle = some value ∧ old ≤ value := by
  have tested : found (TpmState.manufacture (List.replicate 48 7)) (fun s =>
      let later := .restart blank :: startedWith [] ++ clearedAndStarted
      decide (s.nv.indices = SortedMap.empty) &&
        decide (Every Tpm.after (fun t signal => t.countsOn signal = true) (Tpm.manufactured s) (roundedUp ++ later)) &&
        decide (((Tpm.manufactured s).afterAll roundedUp).counterAt counterHandle = some 255) &&
        decide (((Tpm.manufactured s).afterAll (roundedUp ++ later)).counterAt counterHandle = some 256)) = true := by
    rw [manufacture_made]
    decide +kernel
  obtain ⟨s, _, tested⟩ := ok_of_found _ _ tested
  simp only [Bool.and_eq_true, decide_eq_true_eq] at tested
  obtain ⟨⟨⟨empty, on⟩, reported⟩, ended⟩ := tested
  exact ⟨s, _, _, _, _, empty, on, reported, ended,
    (nv_counters_advance s empty roundedUp _ on).1 counterHandle _ _ reported ended⟩

end Toy

end Swtrust
