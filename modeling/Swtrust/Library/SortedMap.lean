import Mathlib.Data.List.Basic
import Mathlib.Tactic

set_option autoImplicit false

namespace Swtrust.Library

class Rank (κ : Type) where
  rank : κ → Nat
  injective : Function.Injective rank

export Rank (rank)

instance : Rank UInt16 := ⟨UInt16.toNat, fun _ _ same => UInt16.toNat_inj.mp same⟩
instance : Rank UInt32 := ⟨UInt32.toNat, fun _ _ same => UInt32.toNat_inj.mp same⟩

section Entries

variable {κ ν : Type} [Rank κ]

def Ascending (entries : List (κ × ν)) : Prop := entries.Pairwise (fun a b => rank a.1 < rank b.1)

def findEntry (key : κ) : List (κ × ν) → Option ν
  | [] => none
  | (k, v) :: tail => if rank k = rank key then some v else findEntry key tail

def insertEntry (key : κ) (value : ν) : List (κ × ν) → List (κ × ν)
  | [] => [(key, value)]
  | (k, v) :: tail =>
      if rank key < rank k then (key, value) :: (k, v) :: tail
      else if rank key = rank k then (key, value) :: tail
      else (k, v) :: insertEntry key value tail

theorem mem_insert_entry (key : κ) (value : ν) (entries : List (κ × ν)) (entry : κ × ν)
    (member : entry ∈ insertEntry key value entries) : entry = (key, value) ∨ entry ∈ entries := by
  induction entries with
  | nil => simpa [insertEntry] using member
  | cons head tail ih =>
      simp only [insertEntry] at member
      split at member
      · simpa using member
      · split at member
        · rcases List.mem_cons.mp member with same | later
          · exact .inl same
          · exact .inr (List.mem_cons_of_mem _ later)
        · rcases List.mem_cons.mp member with same | later
          · exact .inr (same ▸ List.mem_cons_self)
          · exact (ih later).imp_right (List.mem_cons_of_mem _)

theorem insert_entry_ascending (key : κ) (value : ν) (entries : List (κ × ν)) (ordered : Ascending entries) :
    Ascending (insertEntry key value entries) := by
  induction entries with
  | nil => simp [insertEntry, Ascending]
  | cons head tail ih =>
      obtain ⟨below, rest⟩ := List.pairwise_cons.mp ordered
      simp only [insertEntry]
      split
      next less =>
        refine List.pairwise_cons.mpr ⟨fun entry member => ?_, ordered⟩
        rcases List.mem_cons.mp member with same | later
        · subst same
          exact less
        · exact Nat.lt_trans less (below entry later)
      next notLess =>
        split
        next same => exact List.pairwise_cons.mpr ⟨fun entry member => same ▸ below entry member, rest⟩
        next different =>
          refine List.pairwise_cons.mpr ⟨fun entry member => ?_, ih rest⟩
          rcases mem_insert_entry key value tail entry member with same | later
          · subst same
            change rank head.1 < rank key
            omega
          · exact below entry later

@[simp] theorem find_insert_same (key : κ) (value : ν) (entries : List (κ × ν)) :
    findEntry key (insertEntry key value entries) = some value := by
  induction entries with
  | nil => simp [insertEntry, findEntry]
  | cons head tail ih =>
      simp only [insertEntry]
      split
      · simp [findEntry]
      · split
        · simp [findEntry]
        next different => rw [findEntry, if_neg (Ne.symm different), ih]

theorem find_insert_other (key other : κ) (value : ν) (entries : List (κ × ν)) (different : other ≠ key) :
    findEntry other (insertEntry key value entries) = findEntry other entries := by
  have apart : rank key ≠ rank other := fun same => different (Rank.injective same).symm
  induction entries with
  | nil => simp [insertEntry, findEntry, apart]
  | cons head tail ih =>
      simp only [insertEntry]
      split
      · simp [findEntry, apart]
      · split
        next same => simp [findEntry, apart, ← same]
        next => by_cases here : rank head.1 = rank other <;> simp [findEntry, here, ih]

theorem find_below (key : κ) (entries : List (κ × ν)) (above : ∀ entry ∈ entries, rank key < rank entry.1) :
    findEntry key entries = none := by
  induction entries with
  | nil => rfl
  | cons head tail ih =>
      have first := above head List.mem_cons_self
      rw [findEntry, if_neg (by omega)]
      exact ih (fun entry member => above entry (List.mem_cons_of_mem _ member))

theorem find_filter (keep : κ → ν → Bool) (key : κ) (entries : List (κ × ν)) (ordered : Ascending entries) :
    findEntry key (entries.filter fun entry => keep entry.1 entry.2) =
      (findEntry key entries).filter (keep key) := by
  induction entries with
  | nil => rfl
  | cons head tail ih =>
      obtain ⟨below, rest⟩ := List.pairwise_cons.mp ordered
      obtain ⟨k, v⟩ := head
      by_cases here : rank k = rank key
      · have same : k = key := Rank.injective here
        subst same
        have absent := find_below k tail below
        cases kept : keep k v <;> simp [kept, findEntry, ih rest, absent, Option.filter]
      · cases kept : keep k v <;> simp [kept, findEntry, here, ih rest]

theorem find_entry_mem (key : κ) (value : ν) (entries : List (κ × ν)) (found : findEntry key entries = some value) :
    (key, value) ∈ entries := by
  induction entries with
  | nil => cases found
  | cons head tail ih =>
      rw [findEntry] at found
      split at found
      next here =>
        have same : head.1 = key := Rank.injective here
        obtain rfl := Option.some.inj found
        exact same ▸ List.mem_cons_self
      next => exact List.mem_cons_of_mem _ (ih found)

theorem find_of_mem (key : κ) (value : ν) (entries : List (κ × ν)) (ordered : Ascending entries)
    (member : (key, value) ∈ entries) : findEntry key entries = some value := by
  induction entries with
  | nil => cases member
  | cons head tail ih =>
      obtain ⟨below, rest⟩ := List.pairwise_cons.mp ordered
      rcases List.mem_cons.mp member with same | later
      · subst same
        simp [findEntry]
      · have less : rank head.1 < rank key := below (key, value) later
        rw [findEntry, if_neg (by omega)]
        exact ih rest later

end Entries

structure SortedMap (κ ν : Type) [Rank κ] where
  entries : List (κ × ν)
  ascending : Ascending entries

namespace SortedMap

variable {κ ν μ : Type} [Rank κ]

instance [DecidableEq κ] [DecidableEq ν] : DecidableEq (SortedMap κ ν) := fun a b =>
  decidable_of_iff (a.entries = b.entries) (by cases a; cases b; simp)

@[ext] theorem ext {a b : SortedMap κ ν} (same : a.entries = b.entries) : a = b := by
  cases a
  cases b
  simpa using same

def empty : SortedMap κ ν := ⟨[], List.Pairwise.nil⟩

def get (map : SortedMap κ ν) (key : κ) : Option ν := findEntry key map.entries

def contains (map : SortedMap κ ν) (key : κ) : Bool := (map.get key).isSome

def insert (map : SortedMap κ ν) (key : κ) (value : ν) : SortedMap κ ν :=
  ⟨insertEntry key value map.entries, insert_entry_ascending key value map.entries map.ascending⟩

def retain (map : SortedMap κ ν) (keep : κ → ν → Bool) : SortedMap κ ν :=
  ⟨map.entries.filter fun entry => keep entry.1 entry.2, map.ascending.filter _⟩

def erase (map : SortedMap κ ν) (key : κ) : SortedMap κ ν := map.retain fun k _ => rank k ≠ rank key

def mapValues (map : SortedMap κ ν) (f : κ → ν → μ) : SortedMap κ μ :=
  ⟨map.entries.map fun entry => (entry.1, f entry.1 entry.2), by
    rw [Ascending, List.pairwise_map]
    exact map.ascending⟩

def keys (map : SortedMap κ ν) : List κ := map.entries.map Prod.fst

def values (map : SortedMap κ ν) : List ν := map.entries.map Prod.snd

def size (map : SortedMap κ ν) : Nat := map.entries.length

def ofList (entries : List (κ × ν)) : SortedMap κ ν :=
  entries.foldl (fun map entry => map.insert entry.1 entry.2) empty

@[simp] theorem get_empty (key : κ) : (empty : SortedMap κ ν).get key = none := rfl

@[simp] theorem get_insert_same (map : SortedMap κ ν) (key : κ) (value : ν) :
    (map.insert key value).get key = some value :=
  find_insert_same key value map.entries

theorem get_insert_other (map : SortedMap κ ν) (key other : κ) (value : ν) (different : other ≠ key) :
    (map.insert key value).get other = map.get other :=
  find_insert_other key other value map.entries different

theorem get_insert [DecidableEq κ] (map : SortedMap κ ν) (key other : κ) (value : ν) :
    (map.insert key value).get other = if other = key then some value else map.get other := by
  by_cases same : other = key
  · subst same
    simp
  · rw [if_neg same, get_insert_other map key other value same]

theorem get_retain (map : SortedMap κ ν) (keep : κ → ν → Bool) (key : κ) :
    (map.retain keep).get key = (map.get key).filter (keep key) :=
  find_filter keep key map.entries map.ascending

@[simp] theorem get_erase_same (map : SortedMap κ ν) (key : κ) : (map.erase key).get key = none := by
  rw [erase, get_retain]
  cases map.get key <;> simp

theorem get_erase_other (map : SortedMap κ ν) (key other : κ) (different : other ≠ key) :
    (map.erase key).get other = map.get other := by
  have apart : rank other ≠ rank key := fun same => different (Rank.injective same)
  rw [erase, get_retain]
  cases map.get other <;> simp [apart]

theorem get_map_values {μ : Type} (map : SortedMap κ ν) (f : κ → ν → μ) (key : κ) :
    (map.mapValues f).get key = (map.get key).map (f key) := by
  unfold mapValues get
  dsimp only
  induction map.entries with
  | nil => rfl
  | cons entry rest ih =>
      obtain ⟨k, v⟩ := entry
      by_cases here : rank k = rank key
      · have same : k = key := Rank.injective here
        subst same
        simp [findEntry]
      · simp [findEntry, here, ih]

theorem get_mem (map : SortedMap κ ν) (key : κ) (value : ν) (found : map.get key = some value) :
    (key, value) ∈ map.entries :=
  find_entry_mem key value map.entries found

theorem mem_get (map : SortedMap κ ν) (key : κ) (value : ν) (member : (key, value) ∈ map.entries) :
    map.get key = some value :=
  find_of_mem key value map.entries map.ascending member

end SortedMap

end Swtrust.Library
