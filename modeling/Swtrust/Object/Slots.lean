import Swtrust.Core.Object
import Swtrust.Library.Run
import Swtrust.Library.Total

set_option autoImplicit false

namespace Swtrust

open Library

-- Of as many keys as there are, a map with fewer entries leaves one free.
theorem free_of_fewer {κ ν : Type} [Rank κ] (map : SortedMap κ ν) (candidates : List κ) (nodup : candidates.Nodup)
    (fewer : map.size < candidates.length) : ∃ key ∈ candidates, map.contains key = false := by
  by_contra none
  have all : candidates ⊆ map.keys := by
    intro key member
    refine (map.contains_iff_key key).mp ?_
    by_contra free
    exact none ⟨key, member, eq_false_of_ne_true free⟩
  have many := (nodup.subperm all).length_le
  have size : map.keys.length = map.size := List.length_map _
  omega

theorem size_insert_new {κ ν : Type} [Rank κ] (map : SortedMap κ ν) (key : κ) (value : ν) (absent : map.get key = none) :
    (map.insert key value).size = map.size + 1 := by
  rw [SortedMap.size_eq_total, SortedMap.size_eq_total, map.total_insert_new _ key value absent]

theorem size_retain_le {κ ν : Type} [Rank κ] (map : SortedMap κ ν) (keep : κ → ν → Bool) :
    (map.retain keep).size ≤ map.size := by
  rw [SortedMap.size_eq_total, SortedMap.size_eq_total]
  exact map.total_retain_le _ keep

namespace ObjectSlots

-- The handles that `insert` gives out, in the order it tries them.
def window : List UInt32 := (List.range Config.maxLoadedObjects).map fun i => Hc.transientFirst + UInt32.ofNat i

-- A count of slots less those in use, where the source subtracts without a check.
def available (slots : ObjectSlots) : Nat := Config.maxLoadedObjects - slots.size

def insertAt (slots : ObjectSlots) (handle : UInt32) (slot : Slot) : TpmResult ObjectSlots :=
  if !isTransient handle then .error Rc.handle
  else if slots.contains handle then .error Rc.handle
  else if Config.maxLoadedObjects ≤ slots.size then .error Rc.objectMemory
  else .ok (slots.insert handle slot)

def clear (_ : ObjectSlots) : ObjectSlots := SortedMap.empty

end ObjectSlots

inductive SlotOperation where
  | insert (slot : Slot)
  | insertAt (handle : UInt32) (slot : Slot)
  | remove (handle : UInt32)
  | flushHierarchy (hierarchy : UInt32)
  | clear

namespace SlotOperation

-- The slots after an operation. One that is refused leaves them as they were.
def after (slots : ObjectSlots) : SlotOperation → ObjectSlots
  | insert slot =>
    match slots.insertSlot slot with
    | .ok (_, next) => next
    | .error _ => slots
  | insertAt handle slot =>
    match slots.insertAt handle slot with
    | .ok next => next
    | .error _ => slots
  | remove handle =>
    match slots.removeSlot handle with
    | .ok next => next
    | .error _ => slots
  | flushHierarchy hierarchy => slots.flushHierarchy hierarchy
  | clear => slots.clear

-- The operation asks for what is held at the handle to be removed.
def Releases (handle : UInt32) (slot : Slot) : SlotOperation → Prop
  | insert _ | insertAt _ _ => False
  | remove other => other = handle
  | flushHierarchy hierarchy =>
    match slot with
    | .object o => ObjectSlots.belongs hierarchy o.hierarchy = true
    | .sequence _ => False
  | clear => True

-- The operation has put the slot under the handle.
def Loads (slots : ObjectSlots) (handle : UInt32) (slot : Slot) : SlotOperation → Prop
  | insert given => given = slot ∧ ∃ next, slots.insertSlot slot = .ok (handle, next)
  | insertAt other given => other = handle ∧ given = slot ∧ ∃ next, slots.insertAt handle slot = .ok next
  | _ => False

end SlotOperation

namespace ObjectSlots

variable (slots : ObjectSlots)

theorem window_nodup : window.Nodup := by decide

theorem window_transient : ∀ handle ∈ window, isTransient handle = true := by
  have each : window.all isTransient = true := by decide
  exact List.all_eq_true.mp each

theorem insert_slot_full (slot : Slot) (full : Config.maxLoadedObjects ≤ slots.size) :
    slots.insertSlot slot = .error Rc.objectMemory := by
  unfold insertSlot
  rw [if_pos full]

-- Where there is room, one of the handles of the window is free, and the slot goes under the first such.
theorem insert_slot_room (slot : Slot) (room : slots.size < Config.maxLoadedObjects) :
    ∃ handle, slots.insertSlot slot = .ok (handle, slots.insert handle slot) ∧ slots.get handle = none ∧
      isTransient handle = true := by
  have wide : window.length = Config.maxLoadedObjects := by rw [window, List.length_map, List.length_range]
  obtain ⟨key, member, free⟩ := free_of_fewer slots window window_nodup (by rw [wide]; exact room)
  obtain ⟨i, listed, rfl⟩ := List.mem_map.mp member
  unfold insertSlot
  rw [if_neg (Nat.not_le.mpr room)]
  cases found : (List.range Config.maxLoadedObjects).find? fun i => !slots.contains (Hc.transientFirst + UInt32.ofNat i) with
  | none =>
      have taken := List.find?_eq_none.mp found i listed
      rw [free] at taken
      exact absurd rfl taken
  | some first =>
      have unused := List.find?_some found
      have inside := List.mem_of_find?_eq_some found
      refine ⟨_, rfl, ?_, window_transient _ (List.mem_map_of_mem inside)⟩
      exact (slots.absent_iff_get _).mp (Bool.not_eq_true' _ ▸ unused)

theorem insert_slot_put (objects : ObjectSlots) (slot : Slot) (handle : UInt32)
    (placed : slots.insertSlot slot = .ok (handle, objects)) : objects = slots.insert handle slot := by
  by_cases room : slots.size < Config.maxLoadedObjects
  · obtain ⟨other, free, -⟩ := slots.insert_slot_room slot room
    obtain ⟨rfl, rfl⟩ := Prod.mk.inj (Except.ok.inj (free.symm.trans placed))
    rfl
  · rw [slots.insert_slot_full slot (Nat.not_lt.mp room)] at placed
    cases placed

theorem insert_at_ok (next : ObjectSlots) (handle : UInt32) (slot : Slot) (made : slots.insertAt handle slot = .ok next) :
    next = slots.insert handle slot ∧ slots.get handle = none ∧ isTransient handle = true ∧
      slots.size < Config.maxLoadedObjects := by
  unfold insertAt at made
  obtain ⟨transient, made⟩ := (refused_is_ok _ _ _ _).mp made
  obtain ⟨absent, made⟩ := (refused_is_ok _ _ _ _).mp made
  obtain ⟨room, made⟩ := (refused_is_ok _ _ _ _).mp made
  refine ⟨(Except.ok.inj made).symm, (slots.absent_iff_get _).mp (eq_false_of_ne_true absent), ?_, Nat.lt_of_not_le room⟩
  simpa using transient

theorem remove_slot_ok (next : ObjectSlots) (handle : UInt32) (made : slots.removeSlot handle = .ok next) :
    next = slots.erase handle := by
  obtain ⟨_, _, made⟩ := (bind_is_ok _ _ _).mp made
  exact (Except.ok.inj made).symm

end ObjectSlots

namespace SlotOperation

theorem retain_all {κ ν : Type} [Rank κ] (map : SortedMap κ ν) : map.retain (fun _ _ => true) = map :=
  SortedMap.ext (List.filter_true _)

-- Whatever an operation does, it puts one slot under a free handle, or keeps all but what it was asked to release.
theorem after_cases (slots : ObjectSlots) (operation : SlotOperation) :
    (∃ handle slot, operation.Loads slots handle slot ∧ slots.get handle = none ∧ slots.size < Config.maxLoadedObjects ∧
      ObjectSlots.isTransient handle = true ∧ operation.after slots = slots.insert handle slot) ∨
    ((∀ handle slot, ¬ operation.Loads slots handle slot) ∧
      ∃ keep : UInt32 → Slot → Bool, operation.after slots = slots.retain keep ∧
        ∀ handle slot, ¬ operation.Releases handle slot → keep handle slot = true) := by
  cases operation with
  | insert slot =>
      -- A full table refuses; otherwise one of the handles of the range is free.
      by_cases room : slots.size < Config.maxLoadedObjects
      · obtain ⟨handle, made, absent, transient⟩ := slots.insert_slot_room slot room
        refine .inl ⟨handle, slot, ⟨rfl, _, made⟩, absent, room, transient, ?_⟩
        simp only [after, made]
      · have refused := slots.insert_slot_full slot (Nat.le_of_not_lt room)
        refine .inr ⟨?_, fun _ _ => true, ?_, fun _ _ _ => rfl⟩
        · rintro handle other ⟨rfl, next, made⟩
          rw [refused] at made
          cases made
        · simp only [after, refused, retain_all]
  | insertAt handle slot =>
      cases made : slots.insertAt handle slot with
      | ok next =>
          obtain ⟨rfl, absent, transient, room⟩ := slots.insert_at_ok next handle slot made
          refine .inl ⟨handle, slot, ⟨rfl, rfl, _, made⟩, absent, room, transient, ?_⟩
          simp only [after, made]
      | error e =>
          refine .inr ⟨?_, fun _ _ => true, ?_, fun _ _ _ => rfl⟩
          · rintro other given ⟨rfl, rfl, next, succeeded⟩
            rw [made] at succeeded
            cases succeeded
          · simp only [after, made, retain_all]
  | remove handle =>
      refine .inr ⟨fun _ _ loads => loads, ?_⟩
      cases made : slots.removeSlot handle with
      | ok next =>
          refine ⟨fun key _ => rank key ≠ rank handle, ?_, fun other slot kept => ?_⟩
          · simp only [after, made]
            exact slots.remove_slot_ok next handle made
          · refine decide_eq_true fun same => kept ?_
            exact (Rank.injective same).symm
      | error e =>
          refine ⟨fun _ _ => true, ?_, fun _ _ _ => rfl⟩
          simp only [after, made, retain_all]
  | flushHierarchy hierarchy =>
      refine .inr ⟨fun _ _ loads => loads, fun _ slot =>
        match slot with
        | .object o => !ObjectSlots.belongs hierarchy o.hierarchy
        | .sequence _ => true, rfl, fun handle slot kept => ?_⟩
      cases slot with
      | object o =>
          have apart : ¬ ObjectSlots.belongs hierarchy o.hierarchy = true := kept
          simp only [eq_false_of_ne_true apart, Bool.not_false]
      | sequence q => rfl
  | clear =>
      refine .inr ⟨fun _ _ loads => loads, fun _ _ => false, ?_, fun _ _ kept => absurd trivial kept⟩
      exact SortedMap.ext (List.filter_false _).symm

end SlotOperation

namespace ObjectSlots

open SlotOperation

-- No more entries than slots, each under a transient handle.
structure Bounded (slots : ObjectSlots) : Prop where
  few : slots.size ≤ Config.maxLoadedObjects
  transient : ∀ handle slot, slots.get handle = some slot → isTransient handle = true

theorem bounded_empty : Bounded SortedMap.empty where
  few := Nat.zero_le _
  transient _ _ held := by cases held

theorem bounded_after (slots : ObjectSlots) (operation : SlotOperation) (bounded : slots.Bounded) :
    (operation.after slots).Bounded := by
  rcases after_cases slots operation with ⟨handle, slot, _, absent, room, transient, made⟩ | ⟨_, keep, made, _⟩
  · rw [made]
    refine ⟨?_, fun other given held => ?_⟩
    · rw [size_insert_new slots handle slot absent]
      exact room
    · rw [SortedMap.get_insert] at held
      by_cases same : other = handle
      · rw [same]
        exact transient
      · rw [if_neg same] at held
        exact bounded.transient other given held
  · rw [made]
    refine ⟨Nat.le_trans (size_retain_le slots keep) bounded.few, fun other given held => ?_⟩
    rw [SortedMap.get_retain] at held
    obtain ⟨before, _⟩ := Option.filter_eq_some_iff.mp held
    exact bounded.transient other given before

theorem bounded_run (operations : List SlotOperation) : (operations.foldl after SortedMap.empty).Bounded :=
  invariant_of_every after (fun _ _ => True) Bounded (fun slots operation _ => bounded_after slots operation)
    SortedMap.empty operations (every_of_all _ _ _ _ fun _ _ _ => trivial) bounded_empty

-- Nothing that is loaded is overwritten, or removed without being asked for.
theorem kept_after (slots : ObjectSlots) (operation : SlotOperation) (handle : UInt32) (slot : Slot)
    (held : slots.get handle = some slot) (kept : ¬ operation.Releases handle slot) :
    (operation.after slots).get handle = some slot := by
  rcases after_cases slots operation with ⟨other, given, _, absent, _, _, made⟩ | ⟨_, keep, made, all⟩
  · have different : handle ≠ other := by
      rintro rfl
      rw [absent] at held
      cases held
    rw [made, SortedMap.get_insert, if_neg different, held]
  · rw [made, SortedMap.get_retain, held, Option.filter_some, if_pos (all handle slot kept)]

theorem kept_run (slots : ObjectSlots) (operations : List SlotOperation) (handle : UInt32) (slot : Slot)
    (held : slots.get handle = some slot) (kept : ∀ operation ∈ operations, ¬ operation.Releases handle slot) :
    (operations.foldl after slots).get handle = some slot :=
  invariant_of_every after (fun _ operation => ¬ operation.Releases handle slot) (fun slots => slots.get handle = some slot)
    (fun slots operation kept held => kept_after slots operation handle slot held kept) slots operations
    (every_of_all _ _ _ _ fun _ operation member => kept operation member) held

theorem loaded_after (slots : ObjectSlots) (operation : SlotOperation) (handle : UInt32) (slot : Slot)
    (loads : operation.Loads slots handle slot) : (operation.after slots).get handle = some slot := by
  cases operation with
  | insert given =>
      obtain ⟨rfl, next, made⟩ := loads
      by_cases room : slots.size < Config.maxLoadedObjects
      · obtain ⟨first, found, _, _⟩ := slots.insert_slot_room given room
        rw [found] at made
        obtain ⟨rfl, rfl⟩ := Prod.mk.inj (Except.ok.inj made)
        simp only [after, found]
        exact slots.get_insert_same first given
      · rw [slots.insert_slot_full given (Nat.le_of_not_lt room)] at made
        cases made
  | insertAt other given =>
      obtain ⟨rfl, rfl, next, made⟩ := loads
      obtain ⟨rfl, _, _, _⟩ := slots.insert_at_ok next other given made
      simp only [after, made]
      exact slots.get_insert_same other given
  | remove other => cases loads
  | flushHierarchy hierarchy => cases loads
  | clear => cases loads

-- Whatever was done to the slots: an insertion fails exactly when they are full, and otherwise takes a handle that was
-- free; what is loaded stays as it is, under its handle, until it is released; and no more are in use than there are.
theorem slots_hold (operations : List SlotOperation) :
    let slots := operations.foldl after SortedMap.empty
    slots.size + slots.available = Config.maxLoadedObjects ∧
    (∀ slot, (slots.size = Config.maxLoadedObjects ∧ slots.insertSlot slot = .error Rc.objectMemory) ∨
      (slots.size < Config.maxLoadedObjects ∧ ∃ handle, slots.insertSlot slot = .ok (handle, slots.insert handle slot) ∧
        slots.get handle = none ∧ isTransient handle = true)) ∧
    (∀ (operation : SlotOperation) (handle : UInt32) (slot : Slot), slots.get handle = some slot →
      ¬ operation.Releases handle slot → (operation.after slots).get handle = some slot) ∧
    (∀ (operation : SlotOperation) (handle : UInt32) (slot : Slot) (rest : List SlotOperation),
      operation.Loads slots handle slot → (∀ later ∈ rest, ¬ later.Releases handle slot) →
        (rest.foldl after (operation.after slots)).get handle = some slot) := by
  intro slots
  have few : slots.size ≤ Config.maxLoadedObjects := (bounded_run operations).few
  refine ⟨Nat.add_sub_cancel' few, fun slot => ?_, slots.kept_after, ?_⟩
  · by_cases room : slots.size < Config.maxLoadedObjects
    · exact .inr ⟨room, slots.insert_slot_room slot room⟩
    · have full := Nat.le_of_not_lt room
      exact .inl ⟨Nat.le_antisymm few full, slots.insert_slot_full slot full⟩
  · intro operation handle slot rest loads kept
    exact kept_run _ rest handle slot (slots.loaded_after operation handle slot loads) kept

end ObjectSlots

end Swtrust
