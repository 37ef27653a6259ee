import Swtrust.Library.SortedMap

set_option autoImplicit false

namespace Swtrust.Library

-- What a sorted map holds, and the total of a weight over its values.

variable {κ ν μ : Type} [Rank κ]

namespace SortedMap

-- Entries in ascending order are determined by what is found under each key.
theorem ext_get {a b : SortedMap κ ν} (same : ∀ key, a.get key = b.get key) : a = b := by
  have nodup : ∀ map : SortedMap κ ν, map.entries.Nodup := fun map =>
    map.ascending.imp fun below equal => absurd (congrArg (fun entry => rank entry.1) equal) (Nat.ne_of_lt below)
  have members : ∀ entry, entry ∈ a.entries ↔ entry ∈ b.entries := by
    rintro ⟨key, value⟩
    constructor
    · intro member
      exact b.get_mem key value ((same key).symm.trans (a.mem_get key value member))
    · intro member
      exact a.get_mem key value ((same key).trans (b.mem_get key value member))
  refine ext (((List.perm_ext_iff_of_nodup (nodup a) (nodup b)).mpr members).eq_of_pairwise ?_ a.ascending b.ascending)
  intro x y _ _ below above
  omega

-- A key above all others goes last.
theorem insert_above (map : SortedMap κ ν) (key : κ) (value : ν)
    (above : ∀ entry ∈ map.entries, rank entry.1 < rank key) :
    (map.insert key value).entries = map.entries ++ [(key, value)] := by
  have last : ∀ entries : List (κ × ν), (∀ entry ∈ entries, rank entry.1 < rank key) →
      insertEntry key value entries = entries ++ [(key, value)] := by
    intro entries
    induction entries with
    | nil => exact fun _ => rfl
    | cons head tail ih =>
        intro above
        have below := above head List.mem_cons_self
        rw [insertEntry, if_neg (by omega), if_neg (by omega),
          ih fun entry member => above entry (List.mem_cons_of_mem _ member)]
        rfl
  exact last map.entries above

-- A map is made again of its entries.
theorem of_list_entries (map : SortedMap κ ν) : ofList map.entries = map := by
  have onto : ∀ (entries : List (κ × ν)) (start : SortedMap κ ν),
      Ascending (start.entries ++ entries) →
      (entries.foldl (fun map entry => map.insert entry.1 entry.2) start).entries = start.entries ++ entries := by
    intro entries
    induction entries with
    | nil => simp
    | cons entry rest ih =>
        intro start ordered
        have above : ∀ other ∈ start.entries, rank other.1 < rank entry.1 := fun other member =>
          (List.pairwise_append.mp ordered).2.2 other member entry List.mem_cons_self
        have placed := start.insert_above entry.1 entry.2 above
        rw [List.foldl_cons, ih _ (by rw [placed]; simpa using ordered), placed]
        simp
  exact ext (onto map.entries empty map.ascending)

theorem contains_iff_key (map : SortedMap κ ν) (key : κ) : map.contains key = true ↔ key ∈ map.keys := by
  unfold contains keys
  rw [List.mem_map, Option.isSome_iff_exists]
  constructor
  · rintro ⟨value, held⟩
    exact ⟨(key, value), map.get_mem key value held, rfl⟩
  · rintro ⟨⟨k, value⟩, member, rfl⟩
    exact ⟨value, map.mem_get k value member⟩

theorem mem_values_iff (map : SortedMap κ ν) (value : ν) : value ∈ map.values ↔ ∃ key, map.get key = some value := by
  unfold values
  rw [List.mem_map]
  constructor
  · rintro ⟨⟨key, v⟩, member, rfl⟩
    exact ⟨key, map.mem_get key v member⟩
  · rintro ⟨key, held⟩
    exact ⟨(key, value), map.get_mem key value held, rfl⟩

theorem contains_iff_get (map : SortedMap κ ν) (key : κ) : map.contains key = true ↔ ∃ value, map.get key = some value :=
  Option.isSome_iff_exists

theorem absent_iff_get (map : SortedMap κ ν) (key : κ) : map.contains key = false ↔ map.get key = none := by
  unfold contains
  cases map.get key <;> simp

section

variable [DecidableEq κ]

theorem map_values_insert (map : SortedMap κ ν) (f : κ → ν → μ) (key : κ) (value : ν) :
    (map.insert key value).mapValues f = (map.mapValues f).insert key (f key value) := by
  refine ext_get fun other => ?_
  rw [get_map_values, get_insert, get_insert, get_map_values]
  by_cases same : other = key
  · rw [if_pos same, if_pos same, same]
    rfl
  · rw [if_neg same, if_neg same]

theorem map_values_erase (map : SortedMap κ ν) (f : κ → ν → μ) (key : κ) :
    (map.erase key).mapValues f = (map.mapValues f).erase key := by
  refine ext_get fun other => ?_
  rw [get_map_values]
  by_cases same : other = key
  · rw [same, get_erase_same, get_erase_same]
    rfl
  · rw [get_erase_other _ _ _ same, get_erase_other _ _ _ same, get_map_values]

theorem contains_insert (map : SortedMap κ ν) (key other : κ) (value : ν) :
    (map.insert key value).contains other = (decide (other = key) || map.contains other) := by
  unfold contains
  rw [get_insert]
  by_cases same : other = key
  · simp [same]
  · simp [same]

theorem contains_erase (map : SortedMap κ ν) (key other : κ) :
    (map.erase key).contains other = (decide (other ≠ key) && map.contains other) := by
  unfold contains
  by_cases same : other = key
  · simp [same]
  · simp [same, get_erase_other _ _ _ same]

theorem get_of_erase (map : SortedMap κ ν) (key other : κ) (value : ν)
    (held : (map.erase key).get other = some value) : map.get other = some value := by
  by_cases same : other = key
  · rw [same, get_erase_same] at held
    cases held
  · rwa [get_erase_other _ _ _ same] at held

end

def total (weight : ν → Nat) (map : SortedMap κ ν) : Nat := (map.entries.map fun entry => weight entry.2).sum

section

variable (weight : ν → Nat)

private theorem entries_total_insert (key : κ) (value : ν) (entries : List (κ × ν)) (ordered : Ascending entries) :
    ((insertEntry key value entries).map fun entry => weight entry.2).sum + ((findEntry key entries).map weight).getD 0 =
      (entries.map fun entry => weight entry.2).sum + weight value := by
  induction entries with
  | nil => simp [insertEntry, findEntry]
  | cons entry rest ih =>
      obtain ⟨k, v⟩ := entry
      have later := ih ordered.of_cons
      by_cases below : rank key < rank k
      · have absent : findEntry key ((k, v) :: rest) = none := by
          refine find_below key _ fun entry member => ?_
          rcases List.mem_cons.mp member with rfl | member
          · exact below
          · exact Nat.lt_trans below (List.rel_of_pairwise_cons ordered member)
        rw [insertEntry, if_pos below, absent]
        simp
        omega
      · by_cases same : rank key = rank k
        · rw [insertEntry, if_neg below, if_pos same, findEntry, if_pos same.symm]
          simp
          omega
        · rw [insertEntry, if_neg below, if_neg same, findEntry, if_neg (Ne.symm same)]
          simp only [List.map_cons, List.sum_cons]
          omega

-- What an insertion adds, less what it replaces.
theorem total_insert (map : SortedMap κ ν) (key : κ) (value : ν) :
    (map.insert key value).total weight + ((map.get key).map weight).getD 0 = map.total weight + weight value :=
  entries_total_insert weight key value map.entries map.ascending

theorem total_insert_new (map : SortedMap κ ν) (key : κ) (value : ν) (absent : map.get key = none) :
    (map.insert key value).total weight = map.total weight + weight value := by
  have counted := map.total_insert weight key value
  rw [absent] at counted
  exact counted

theorem total_insert_held (map : SortedMap κ ν) (key : κ) (value old : ν) (held : map.get key = some old) :
    (map.insert key value).total weight + weight old = map.total weight + weight value := by
  have counted := map.total_insert weight key value
  rw [held] at counted
  exact counted

theorem total_retain_le (map : SortedMap κ ν) (keep : κ → ν → Bool) :
    (map.retain keep).total weight ≤ map.total weight := by
  unfold total retain
  exact (List.filter_sublist.map _).sum_le_sum fun _ _ => Nat.zero_le _

theorem total_erase_le (map : SortedMap κ ν) (key : κ) : (map.erase key).total weight ≤ map.total weight :=
  map.total_retain_le weight _

theorem insert_erase_same (map : SortedMap κ ν) (key : κ) (value : ν) (held : map.get key = some value)
    [DecidableEq κ] : (map.erase key).insert key value = map := by
  refine ext_get fun other => ?_
  rw [get_insert]
  by_cases same : other = key
  · rw [if_pos same, same, held]
  · rw [if_neg same, get_erase_other _ _ _ same]

theorem total_erase_held [DecidableEq κ] (map : SortedMap κ ν) (key : κ) (value : ν) (held : map.get key = some value) :
    (map.erase key).total weight + weight value = map.total weight := by
  rw [← total_insert_new weight _ key value (map.get_erase_same key), map.insert_erase_same key value held]

theorem size_eq_total (map : SortedMap κ ν) : map.size = map.total fun _ => 1 := by
  unfold size total
  rw [List.map_const', List.sum_replicate]
  simp

end

theorem size_insert_new (map : SortedMap κ ν) (key : κ) (value : ν) (absent : map.contains key = false) :
    (map.insert key value).size = map.size + 1 := by
  rw [size_eq_total, size_eq_total]
  exact map.total_insert_new _ key value ((map.absent_iff_get key).mp absent)

theorem size_erase_le (map : SortedMap κ ν) (key : κ) : (map.erase key).size ≤ map.size := by
  rw [size_eq_total, size_eq_total]
  exact map.total_erase_le _ key

theorem size_erase_held [DecidableEq κ] (map : SortedMap κ ν) (key : κ) (held : map.contains key = true) :
    (map.erase key).size + 1 = map.size := by
  obtain ⟨value, found⟩ := (map.contains_iff_get key).mp held
  rw [size_eq_total, size_eq_total]
  exact map.total_erase_held _ key value found

end SortedMap

end Swtrust.Library
