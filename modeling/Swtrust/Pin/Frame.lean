import Swtrust.Pin.Turns
import Swtrust.Lockout.Frame

set_option autoImplicit false
set_option linter.unusedSectionVars false

namespace Swtrust

open Library Action

namespace NvIndex

-- An Index that lost at most its contents, and then the mark that it was written.
structure Worn (before after : NvIndex) : Prop where
  indexType : after.indexType = before.indexType
  contents : after.written = before.written ∧ after.data = before.data ∨ after.written = false

theorem worn_self (index : NvIndex) : Worn index index := ⟨rfl, .inl ⟨rfl, rfl⟩⟩

theorem worn_trans (first second third : NvIndex) (left : Worn first second) (right : Worn second third) :
    Worn first third := by
  refine ⟨right.indexType.trans left.indexType, ?_⟩
  rcases right.contents with ⟨written, data⟩ | lost
  · rcases left.contents with ⟨written', data'⟩ | lost
    · exact .inl ⟨written.trans written', data.trans data'⟩
    · exact .inr (written.trans lost)
  · exact .inr lost

theorem worn_ite (c : Prop) [Decidable c] (index next : NvIndex) (worn : Worn index next) :
    Worn index (if c then next else index) := by
  split
  · exact worn
  · exact worn_self index

theorem worn_read_lock (index : NvIndex) (locked : Bool) : Worn index (index.setReadLock locked) :=
  ⟨index.set_lock_type _ locked (by decide), .inl ⟨index.set_lock_written _ locked (by decide), rfl⟩⟩

theorem worn_write_lock (index : NvIndex) (locked : Bool) : Worn index (index.setWriteLock locked) :=
  ⟨index.set_lock_type _ locked (by decide), .inl ⟨index.set_lock_written _ locked (by decide), rfl⟩⟩

theorem worn_forget (index : NvIndex) : Worn index (NvStore.forgetData index) := by
  refine ⟨?_, .inr ?_⟩
  · unfold NvStore.forgetData indexType setAttributes NvAttributes.indexType
    dsimp only
    rw [Flags32.without_apart _ _ _ (by decide)]
  · unfold NvStore.forgetData written setAttributes
    dsimp only
    unfold Flags32.has Flags32.without
    rw [beq_eq_false_iff_ne]
    have none : index.area.attributes.value &&& ~~~NvAttributes.written &&& NvAttributes.written = 0 := by
      apply UInt32.eq_of_toBitVec_eq
      ext i inside
      simp
    dsimp only
    rw [none]
    decide

theorem worn_pin (before after : NvIndex) (worn : Worn before after) (isPin : before.isPin = true) :
    after.pin = before.pin ∨ before.written = true ∧ after.written = false := by
  rcases worn.contents with ⟨written, data⟩ | lost
  · exact .inl (pin_of_same before after worn.indexType written data)
  · cases written : before.written with
    | true => exact .inr ⟨rfl, lost⟩
    | false =>
        have same : after.isPin = true := by
          unfold NvIndex.isPin at isPin ⊢
          rw [worn.indexType]
          exact isPin
        refine .inl ?_
        simp [NvIndex.pin, pinCounters, isPin, same, written, lost, worn.indexType]

theorem clear_index_worn (restart disorderly : Bool) (index : NvIndex) (isPin : index.isPin = true) :
    Worn index (NvStore.clearIndex restart disorderly index) := by
  unfold NvStore.clearIndex
  extract_lets read permanent unlocked kept left
  have first : Worn index read := worn_ite _ _ _ (worn_read_lock _ _)
  have second : Worn read unlocked := by
    change Worn read (if permanent then read else read.setWriteLock false)
    split
    · exact worn_self read
    · exact worn_write_lock _ _
  have third : Worn unlocked kept := worn_ite _ _ _ (worn_forget _)
  have fourth : Worn kept left := worn_ite _ _ _ (worn_forget _)
  have whole := worn_trans _ _ _ first (worn_trans _ _ _ second (worn_trans _ _ _ third fourth))
  have plain : left.indexType ≠ Nt.counter := by
    rw [whole.indexType]
    intro counter
    unfold NvIndex.isPin at isPin
    rw [counter] at isPin
    exact absurd isPin (by decide)
  rw [if_neg fun counted => plain counted.2.2.1]
  exact whole

theorem pin_not_extended [Crypto] (value : Bytes) (index next : NvIndex) (isPin : index.isPin = true) :
    index.extend value ≠ .ok next := by
  intro extended
  unfold NvIndex.extend at extended
  rw [guarded_then_is_ok] at extended
  unfold NvIndex.isPin at isPin
  rw [not_not.mp extended.1] at isPin
  exact absurd isPin (by decide)

theorem pin_not_set (bits : UInt64) (index next : NvIndex) (isPin : index.isPin = true) :
    index.setBits bits ≠ .ok next := by
  intro set
  unfold NvIndex.setBits at set
  rw [guarded_then_is_ok] at set
  unfold NvIndex.isPin at isPin
  rw [not_not.mp set.1] at isPin
  exact absurd isPin (by decide)

theorem pin_not_counted (floor : UInt64) (index : NvIndex) (next : UInt64 × NvIndex) (isPin : index.isPin = true) :
    index.increment floor ≠ .ok next := by
  intro counted
  unfold NvIndex.increment at counted
  rw [guarded_then_is_ok] at counted
  unfold NvIndex.isPin at isPin
  rw [not_not.mp counted.1] at isPin
  exact absurd isPin (by decide)

end NvIndex

namespace NvStore

-- The Index is still there, and still written if it was.
def keeps (before after : NvStore) (handle : UInt32) : Bool :=
  match before.get handle, after.get handle with
  | .ok index, .ok next => !index.written || next.written
  | .ok _, .error _ => false
  | .error _, _ => true

section

variable (before after : NvStore) (handle : UInt32) (pin : Pin)

-- Unless the Index was lost, its counters are what they were.
def Undisturbed (before : NvStore) (handle : UInt32) (pin : Pin) (after : NvStore) : Prop :=
  before.keeps after handle = true → after.pinAt handle = .ok pin

variable (read : before.pinAt handle = .ok pin)

include read

theorem undisturbed_of_same (same : after.get handle = before.get handle) : before.Undisturbed handle pin after := by
  intro _
  unfold pinAt
  rw [same]
  exact read

theorem undisturbed_self : before.Undisturbed handle pin before := before.undisturbed_of_same before handle pin read rfl

theorem undisturbed_put (other : UInt32) (next : NvIndex)
    (kept : other = handle → ∀ index, before.get handle = .ok index → next.pin = index.pin) :
    before.Undisturbed handle pin (before.put other next) := by
  intro _
  rw [pin_at_put]
  by_cases same : handle = other
  · obtain ⟨index, found, counters⟩ := (before.pin_at_is_ok handle pin).mp read
    rw [if_pos same, kept same.symm index found]
    exact counters
  · rw [if_neg same]
    exact read

theorem undisturbed_erase (other : UInt32) : before.Undisturbed handle pin { before with
    indices := before.indices.erase other } := by
  by_cases same : handle = other
  · intro kept
    obtain ⟨index, found, _⟩ := (before.pin_at_is_ok handle pin).mp read
    subst same
    unfold keeps at kept
    rw [found] at kept
    simp [get] at kept
  · refine before.undisturbed_of_same _ handle pin read ?_
    unfold get
    dsimp only
    rw [SortedMap.get_erase_other _ _ _ same]

theorem undisturbed_map (f : UInt32 → NvIndex → NvIndex)
    (each : ∀ index, before.get handle = .ok index →
      (f handle index).pin = index.pin ∨ index.written = true ∧ (f handle index).written = false) :
    before.Undisturbed handle pin { before with indices := before.indices.mapValues f } := by
  intro kept
  obtain ⟨index, found, counters⟩ := (before.pin_at_is_ok handle pin).mp read
  have moved : ({ before with indices := before.indices.mapValues f } : NvStore).get handle = .ok (f handle index) := by
    unfold get at found ⊢
    dsimp only
    rw [SortedMap.get_map_values]
    cases stored : before.indices.get handle with
    | none =>
        rw [stored] at found
        cases found
    | some other =>
        rw [stored] at found
        cases found
        rfl
  rw [pin_at_is_ok]
  refine ⟨_, moved, ?_⟩
  rcases each index found with same | ⟨written, lost⟩
  · rw [same]
    exact counters
  · unfold keeps at kept
    rw [found, moved] at kept
    simp [written, lost] at kept

theorem undisturbed_retain (keep : UInt32 → NvIndex → Bool) :
    before.Undisturbed handle pin { before with indices := before.indices.retain keep } := by
  intro kept
  obtain ⟨index, found, counters⟩ := (before.pin_at_is_ok handle pin).mp read
  have left : ({ before with indices := before.indices.retain keep } : NvStore).get handle =
      if keep handle index then .ok index else .error Rc.handle := by
    unfold get at found ⊢
    dsimp only
    rw [SortedMap.get_retain]
    cases stored : before.indices.get handle with
    | none =>
        rw [stored] at found
        cases found
    | some other =>
        rw [stored] at found
        cases found
        cases kind : keep handle index <;> simp [Option.filter, kind]
  cases kind : keep handle index with
  | true =>
      rw [kind] at left
      rw [pin_at_is_ok]
      exact ⟨index, left, counters⟩
  | false =>
      rw [kind] at left
      unfold keeps at kept
      rw [found, left] at kept
      cases kept

end

theorem get_note_counter (store : NvStore) (index : NvIndex) (handle : UInt32) :
    (store.noteCounter index).get handle = store.get handle := by
  unfold noteCounter
  split
  · split <;> rfl
  · rfl

end NvStore

section

variable [Primitives] (s : TpmState) (request : Request) (handle : UInt32) (pin : Pin)

-- However it ends, an action on the NV of a command leaves the counters of the Index, or loses the Index.
def Harmless {α : Type} (store : NvStore) (handle : UInt32) (pin : Pin) (action : Action TpmRc NvScope α) : Prop :=
  ∀ t : NvScope, t.nv = store → store.Undisturbed handle pin (final (action t)).nv

section

variable {α β : Type} (store : NvStore) (read : store.pinAt handle = .ok pin)

include read

theorem harmless_keeps (action : Action TpmRc NvScope α) (kept : Keeps (·.nv) action) :
    Harmless store handle pin action := by
  intro t same
  have unchanged := kept t
  dsimp only at unchanged
  rw [unchanged, same]
  exact store.undisturbed_self handle pin read

theorem harmless_lift (result : TpmResult β) (next : β → Action TpmRc NvScope α)
    (rest : ∀ b, result = .ok b → Harmless store handle pin (next b)) :
    Harmless store handle pin (liftM result >>= next) := by
  intro t same
  rw [run_lift_bind]
  cases result with
  | error e => exact harmless_keeps handle pin store read (throw e : Action TpmRc NvScope α) (keeps_throw _ _) t same
  | ok b => exact rest b rfl t same

theorem harmless_guard (c : Prop) [Decidable c] (e : TpmRc) (next : β → Action TpmRc NvScope α)
    (rest : Action TpmRc NvScope α) (harmless : ¬ c → Harmless store handle pin rest) :
    Harmless store handle pin (if c then (throw e : Action TpmRc NvScope β) >>= next else rest) := by
  by_cases holds : c
  · rw [if_pos holds]
    intro t same
    rw [run_throw_bind]
    exact harmless_keeps handle pin store read (throw e : Action TpmRc NvScope α) (keeps_throw _ _) t same
  · rw [if_neg holds]
    exact harmless holds

omit read in
theorem harmless_then (action : Action TpmRc NvScope β) (next : β → Action TpmRc NvScope α)
    (kept : ∀ b, Keeps (·.nv) (next b)) (harmless : Harmless store handle pin action) :
    Harmless store handle pin (action >>= next) := by
  intro t same
  have after : (final ((action >>= next) t)).nv = (final (action t)).nv := final_bind_of_keeps (·.nv) action next kept t
  rw [after]
  exact harmless t same

omit read in
theorem harmless_modify (f : NvStore → NvStore) (next : PUnit → Action TpmRc NvScope α)
    (kept : ∀ u, Keeps (·.nv) (next u)) (moved : store.Undisturbed handle pin (f store)) :
    Harmless store handle pin (modifyNv f >>= next) := by
  refine harmless_then handle pin store _ next kept fun t same => ?_
  change store.Undisturbed handle pin (f t.nv)
  rw [same]
  exact moved

end

theorem keeps_note_orderly_write (nvHandle : UInt32) : Keeps (·.nv) (noteOrderlyWrite nvHandle) := by
  refine keeps_modify _ _ fun t => ?_
  split
  · split <;> rfl
  · rfl

variable (read : s.nv.pinAt handle = .ok pin)

include read

-- A new Index takes the place of none.
theorem harmless_define (authHandle : UInt32) (auth : Bytes) (area : NvPublic) :
    Harmless s.nv handle pin (define s authHandle auth area) := by
  refine harmless_lift handle pin _ read _ _ fun _ _ => ?_
  refine harmless_then handle pin _ _ _ (fun _ => keeps_pure _ _) fun t same => ?_
  have outside : ∀ store : NvStore, store.pinAt handle = .ok pin → ∀ index,
      store.Undisturbed handle pin (final (NvStore.define index store)) := by
    intro store read index
    have noted := store.undisturbed_of_same _ handle pin read (store.get_note_counter index handle)
    unfold NvStore.define
    change store.Undisturbed handle pin (final ((get >>= fun held : NvStore => (do
      let handle := index.area.nvIndex
      if !NvStore.isNvHandle handle then throw Rc.handle
      if held.indices.contains handle then throw Rc.nvDefined
      if held.available < index.footprint then throw Rc.nvSpace
      set { held with indices := held.indices.insert handle index } : Action TpmRc NvStore Unit))
        (store.noteCounter index)))
    rw [run_get_bind]
    dsimp only
    split
    · exact noted
    · split
      · exact noted
      next free =>
        split
        · exact noted
        · refine store.undisturbed_of_same _ handle pin read ?_
          rw [← store.get_note_counter index handle]
          refine ((store.noteCounter index).get_put index.area.nvIndex handle index).trans ?_
          refine if_neg fun same => ?_
          subst same
          obtain ⟨held, found, _⟩ := (store.pin_at_is_ok _ pin).mp read
          rw [← store.get_note_counter index] at found
          unfold NvStore.get at found
          simp only [SortedMap.contains] at free
          cases stored : (store.noteCounter index).indices.get index.area.nvIndex with
          | none =>
              rw [stored] at found
              cases found
          | some other => simp [stored] at free
  have defined := outside s.nv read { area, auth, data := [], readLocked := false, writeLocked := false }
  rw [← same] at defined ⊢
  unfold zoomStore Action.zoom
  dsimp only
  cases ran : NvStore.define { area, auth, data := [], readLocked := false, writeLocked := false } t.nv with
  | ok u nv =>
      rw [ran] at defined
      exact defined
  | error e nv =>
      rw [ran] at defined
      exact defined

theorem harmless_write_index {α : Type} (parameters : Reader α) (change : α → NvIndex → TpmResult NvIndex)
    (other : request.handle 1 ≠ .ok handle ∨
      ∀ value index next, index.isPin = true → change value index ≠ .ok next) :
    Harmless s.nv handle pin (writeIndex s request parameters change) := by
  refine harmless_lift handle pin _ read _ _ fun _ _ => ?_
  refine harmless_lift handle pin _ read _ _ fun nvHandle named => ?_
  refine harmless_lift handle pin _ read _ _ fun value _ => ?_
  refine harmless_lift handle pin _ read _ _ fun index writable => ?_
  refine harmless_lift handle pin _ read _ _ fun next changed => ?_
  refine harmless_modify handle pin _ _ _ (fun _ => ?_) ?_
  · exact keeps_bind _ _ _ (keeps_note_orderly_write _) fun _ => keeps_pure _ _
  · refine s.nv.undisturbed_put handle pin read nvHandle next fun same held found => ?_
    subst same
    rcases other with apart | refuses
    · exact absurd named apart
    · obtain ⟨stored, kept, counters⟩ := (s.nv.pin_at_is_ok _ pin).mp read
      simp only [TpmState.writable, TpmState.indexAt, bind_is_ok, withHandle, map_error_is_ok, guarded_then_is_ok,
        pure_is_ok] at writable
      obtain ⟨target, got, _, _, _, rfl⟩ := writable
      rw [kept] at got
      cases got
      exact absurd changed (refuses value stored next (stored.is_pin_of_pin pin counters))

theorem harmless_undefine (other : UInt32) (nv : NvStore) (undefined : s.nv.undefine other = .ok nv)
    (next : PUnit → Action TpmRc NvScope Response) (kept : ∀ u, Keeps (·.nv) (next u)) :
    Harmless s.nv handle pin (modifyNv (fun _ => nv) >>= next) := by
  refine harmless_modify handle pin _ _ _ kept ?_
  simp only [NvStore.undefine, bind_is_ok, pure_is_ok] at undefined
  obtain ⟨index, _, rfl⟩ := undefined
  intro kept
  have erased := s.nv.undisturbed_erase handle pin read other
  have same : ∀ store : NvStore, (store.noteCounter index).pinAt handle = store.pinAt handle := by
    intro store
    unfold NvStore.pinAt
    rw [NvStore.get_note_counter]
  rw [same]
  refine erased ?_
  unfold NvStore.keeps at kept ⊢
  rw [NvStore.get_note_counter] at kept
  exact kept

theorem harmless_undefine_space : Harmless s.nv handle pin (nvUndefineSpace s request) := by
  refine harmless_lift handle pin _ read _ _ fun authHandle _ => ?_
  refine harmless_lift handle pin _ read _ _ fun nvHandle _ => ?_
  refine harmless_lift handle pin _ read _ _ fun index _ => ?_
  refine harmless_guard handle pin _ read _ _ _ _ fun _ => ?_
  refine harmless_guard handle pin _ read _ _ _ _ fun _ => ?_
  have last : Harmless s.nv handle pin (do
      let nv ← s.nv.undefine nvHandle
      modifyNv fun _ => nv
      return Response.notReading request [] : Action TpmRc NvScope Response) := by
    refine harmless_lift handle pin _ read _ _ fun nv undefined => ?_
    exact harmless_undefine s handle pin read nvHandle nv undefined _ fun _ => keeps_pure _ _
  split
  · exact harmless_guard handle pin _ read _ _ _ _ fun _ => last
  · exact last

theorem harmless_undefine_space_special : Harmless s.nv handle pin (nvUndefineSpaceSpecial s request) := by
  refine harmless_lift handle pin _ read _ _ fun nvHandle _ => ?_
  refine harmless_lift handle pin _ read _ _ fun platform _ => ?_
  refine harmless_guard handle pin _ read _ _ _ _ fun _ => ?_
  refine harmless_lift handle pin _ read _ _ fun index _ => ?_
  refine harmless_guard handle pin _ read _ _ _ _ fun _ => ?_
  refine harmless_lift handle pin _ read _ _ fun nv undefined => ?_
  exact harmless_undefine s handle pin read nvHandle nv undefined _ fun _ => keeps_pure _ _

theorem harmless_increment : Harmless s.nv handle pin (nvIncrement s request) := by
  refine harmless_lift handle pin _ read _ _ fun authHandle _ => ?_
  refine harmless_lift handle pin _ read _ _ fun nvHandle _ => ?_
  refine harmless_lift handle pin _ read _ _ fun index _ => ?_
  refine harmless_lift handle pin _ read _ _ fun nv incremented => ?_
  refine harmless_modify handle pin _ _ _
    (fun _ => keeps_bind _ _ _ (keeps_note_orderly_write _) fun _ => keeps_pure _ _) ?_
  simp only [NvStore.increment, bind_is_ok, pure_is_ok] at incremented
  obtain ⟨held, found, ⟨value, next⟩, counted, rfl⟩ := incremented
  refine s.nv.undisturbed_put handle pin read nvHandle next fun same other found' => ?_
  obtain ⟨stored, kept, counters⟩ := (s.nv.pin_at_is_ok handle pin).mp read
  rw [same, kept] at found
  cases found
  exact absurd counted (NvIndex.pin_not_counted _ held _ (held.is_pin_of_pin pin counters))

-- The commands that write an Index back with its contents unchanged.
theorem harmless_put_back (nvHandle : UInt32) (position : Nat) (index next : NvIndex)
    (found : s.indexAt nvHandle position = .ok index) (same : next.pin = index.pin)
    (rest : PUnit → Action TpmRc NvScope Response) (kept : ∀ u, Keeps (·.nv) (rest u)) :
    Harmless s.nv handle pin (modifyNv (·.put nvHandle next) >>= rest) := by
  refine harmless_modify handle pin _ _ _ kept ?_
  refine s.nv.undisturbed_put handle pin read nvHandle next fun named held stored => ?_
  simp only [TpmState.indexAt, withHandle, map_error_is_ok] at found
  rw [named, stored] at found
  cases found
  exact same

theorem harmless_write_lock : Harmless s.nv handle pin (nvWriteLock s request) := by
  refine harmless_lift handle pin _ read _ _ fun authHandle _ => ?_
  refine harmless_lift handle pin _ read _ _ fun nvHandle _ => ?_
  refine harmless_lift handle pin _ read _ _ fun index found => ?_
  refine harmless_lift handle pin _ read _ _ fun _ _ => ?_
  refine harmless_guard handle pin _ read _ _ _ _ fun _ => ?_
  exact harmless_put_back s handle pin read nvHandle 2 index _ found (index.set_write_lock_pin true) _ fun _ => keeps_pure _ _

theorem harmless_read_lock : Harmless s.nv handle pin (nvReadLock s request) := by
  refine harmless_lift handle pin _ read _ _ fun authHandle _ => ?_
  refine harmless_lift handle pin _ read _ _ fun nvHandle _ => ?_
  refine harmless_lift handle pin _ read _ _ fun index found => ?_
  refine harmless_lift handle pin _ read _ _ fun _ _ => ?_
  refine harmless_guard handle pin _ read _ _ _ _ fun _ => ?_
  exact harmless_put_back s handle pin read nvHandle 2 index _ found (index.set_read_lock_pin true) _ fun _ => keeps_pure _ _

theorem harmless_change_auth : Harmless s.nv handle pin (nvChangeAuth s request) := by
  refine harmless_lift handle pin _ read _ _ fun nvHandle _ => ?_
  refine harmless_lift handle pin _ read _ _ fun newAuth _ => ?_
  refine harmless_lift handle pin _ read _ _ fun index found => ?_
  refine harmless_lift handle pin _ read _ _ fun limit _ => ?_
  refine harmless_guard handle pin _ read _ _ _ _ fun _ => ?_
  refine harmless_put_back s handle pin read nvHandle 1 index _ found ?_ _ fun _ => keeps_pure _ _
  exact index.pin_of_same _ rfl rfl rfl

theorem harmless_global_write_lock : Harmless s.nv handle pin (nvGlobalWriteLock request) := by
  refine harmless_modify handle pin _ _ _ (fun _ => keeps_pure _ _) ?_
  refine s.nv.undisturbed_map handle pin read _ fun index _ => .inl ?_
  split
  · exact index.set_write_lock_pin true
  · rfl

theorem harmless_define_space : Harmless s.nv handle pin (nvDefineSpace s request) := by
  refine harmless_lift handle pin _ read _ _ fun authHandle _ => ?_
  refine harmless_lift handle pin _ read _ _ fun parameters _ => ?_
  exact harmless_define s handle pin read authHandle parameters.1 parameters.2

theorem harmless_define_space2 : Harmless s.nv handle pin (nvDefineSpace2 s request) := by
  refine harmless_lift handle pin _ read _ _ fun authHandle _ => ?_
  refine harmless_lift handle pin _ read _ _ fun parameters _ => ?_
  obtain ⟨auth, area2⟩ := parameters
  cases area2 with
  | index area => exact harmless_define s handle pin read authHandle auth area
  | permanent area => exact harmless_define s handle pin read authHandle auth area
  | external area => exact harmless_keeps handle pin _ read _ (keeps_throw _ _)

end

end Swtrust
