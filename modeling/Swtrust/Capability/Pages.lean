import Swtrust.Commands.Management
import Swtrust.Library.Paging
import Swtrust.Toy

set_option autoImplicit false

namespace Swtrust

open Library

-- The lists that TPM2_GetCapability gives out in pages.
inductive ListClass where
  | algs | handles (range : UInt8) | commands | ppCommands | auditCommands | pcrs | fixedProperties | variableProperties
  | pcrProperties | eccCurves | authPolicies | act

namespace ListClass

scoped instance : LinearOrder UInt32 where
  le := (· ≤ ·)
  lt := (· < ·)
  le_refl := UInt32.le_refl
  le_trans _ _ _ := UInt32.le_trans
  lt_iff_le_not_ge a b := by
    simp only [UInt32.le_iff_toNat_le, UInt32.lt_iff_toNat_lt]
    omega
  le_antisymm _ _ := UInt32.le_antisymm
  le_total := UInt32.le_total
  toDecidableLE _ _ := inferInstance

theorem successor (a b : UInt32) (less : a < b) (c : UInt32) : a + 1 ≤ c ↔ a < c := by
  have below := UInt32.lt_iff_toNat_lt.mp less
  have top := b.toNat_lt
  rw [UInt32.le_iff_toNat_le, UInt32.lt_iff_toNat_lt, UInt32.toNat_add]
  simp only [UInt32.toNat_one]
  omega

def capability : ListClass → UInt32
  | algs => Cap.algs
  | handles _ => Cap.handles
  | commands => Cap.commands
  | ppCommands => Cap.ppCommands
  | auditCommands => Cap.auditCommands
  | pcrs => Cap.pcrs
  | fixedProperties | variableProperties => Cap.tpmProperties
  | pcrProperties => Cap.pcrProperties
  | eccCurves => Cap.eccCurves
  | authPolicies => Cap.authPolicies
  | act => Cap.act

-- Where a caller starts that wants the whole list.
def first : ListClass → UInt32
  | handles range => range.toUInt32 <<< 24
  | fixedProperties => Pt.familyIndicator
  | variableProperties => Pt.permanent
  | authPolicies | act => Ht.permanent.toUInt32 <<< 24
  | _ => 0

def groupOf (property : UInt32) : UInt32 := property &&& (0xFFFFFF00 : UInt32)

-- The properties that ask for this list and not for another one.
def covers (property : UInt32) : ListClass → Bool
  | handles range => (property >>> 24).toUInt8 == range
  | fixedProperties => groupOf property == Pt.familyIndicator
  | variableProperties => groupOf property == Pt.permanent
  | authPolicies | act => (property >>> 24).toUInt8 == Ht.permanent
  | pcrs => property == 0
  | _ => true

def most : ListClass → Nat
  | algs => capListMax 6
  | fixedProperties | variableProperties | pcrProperties => capListMax 8
  | eccCurves => capListMax 2
  | authPolicies => capListMax 70
  | act => capListMax 12
  | _ => capListMax 4

end ListClass

-- The property that names each element.
def Capabilities.names : Capabilities → List UInt32
  | .algorithms items => items.map (·.toUInt32)
  | .command items => items.map CommandInfo.sortKey
  | .handles items | .ppCommands items | .auditCommands items => items
  | .assignedPcr items => items.map (·.hashAlg.toUInt32)
  | .tpmProperties items => items.map Prod.fst
  | .pcrProperties items => items.map Prod.fst
  | .eccCurves items => items.map (·.toUInt32)
  | .authPolicies items => items.map Prod.fst
  | .act items => items.map Prod.fst
  | .pubKeys | .spdmSessionInfo | .vendorProperty => []

open ListClass

-- What a sorted list is, its members above some element are in the same order.
theorem insertion_sort_filter (list : List UInt32) (holds : UInt32 → Bool) :
    (list.filter holds).insertionSort (· ≤ ·) = (list.insertionSort (· ≤ ·)).filter holds := by
  -- Both sides are in order, and the one is a permutation of the other.
  have first := List.pairwise_insertionSort (· ≤ · : UInt32 → UInt32 → Prop) (list.filter holds)
  have second := (List.pairwise_insertionSort (· ≤ · : UInt32 → UInt32 → Prop) list).filter holds
  refine List.Perm.eq_of_pairwise (fun _ _ _ _ => UInt32.le_antisymm) first second ?_
  exact (List.perm_insertionSort _ _).trans ((List.perm_insertionSort _ _).symm.filter _)

-- Each element is below the one after it.
def chained : List UInt32 → Bool
  | a :: b :: rest => decide (a < b) && chained (b :: rest)
  | _ => true

theorem pairwise_of_chained (list : List UInt32) (chain : chained list = true) : list.Pairwise (· < ·) := by
  refine List.isChain_iff_pairwise.mp ?_
  induction list with
  | nil => exact .nil
  | cons a rest ih =>
      cases rest with
      | nil => exact .singleton _
      | cons b rest =>
          simp only [chained, Bool.and_eq_true, decide_eq_true_eq] at chain
          exact .cons_cons chain.1 (ih chain.2)

-- A sorted list of different elements.
theorem insertion_sort_ascending (list : List UInt32) (nodup : list.Nodup) :
    (list.insertionSort (· ≤ ·)).Pairwise (· < ·) := by
  have different : (list.insertionSort (· ≤ ·)).Nodup := (List.perm_insertionSort _ _).nodup_iff.mpr nodup
  refine ((List.pairwise_insertionSort (· ≤ · : UInt32 → UInt32 → Prop) list).and different).imp ?_
  exact fun both => UInt32.lt_of_le_of_ne both.1 both.2

theorem keys_ascending {κ ν : Type} [Rank κ] (map : SortedMap κ ν) : map.keys.Pairwise (fun a b => rank a < rank b) :=
  List.pairwise_map.mpr map.ascending

theorem keys_nodup {κ ν : Type} [Rank κ] (map : SortedMap κ ν) : map.keys.Nodup := by
  refine List.Pairwise.imp (fun {a b} less => ?_) (keys_ascending map)
  rintro rfl
  exact Nat.lt_irrefl _ less

theorem filter_map_above {α : Type} (all : List α) (name : α → UInt32) (property : UInt32) :
    (all.map name).filter (fun element => decide (property ≤ element)) =
      (all.filter fun a => decide (property ≤ name a)).map name :=
  List.filter_map

theorem filter_above {α : Type} (all : List α) (name : α → UInt32) (base property : UInt32) (above : base ≤ property) :
    (all.filter fun a => decide (property ≤ name a)).map name =
      ((all.filter fun a => decide (base ≤ name a)).map name).filter fun element => decide (property ≤ element) := by
  rw [List.filter_map, List.filter_filter]
  refine congrArg (List.map name) (List.filter_congr fun a _ => ?_)
  by_cases listed : property ≤ name a
  · simp [listed, UInt32.le_trans above listed]
  · simp [listed]

theorem group_below (property base : UInt32) (group : groupOf property = base) : base ≤ property := by
  rw [← group, UInt32.le_iff_toNat_le, groupOf, UInt32.toNat_and]
  exact Nat.and_le_left

-- The words that are sorted are the codes.
theorem command_keys : (Table.commands.map fun info => CommandInfo.sortKey info.attributes) =
    Table.commands.map (·.code) := by
  decide +kernel

theorem command_names (property : UInt32) :
    (((Table.commands.filter fun info => decide (property ≤ info.code)).map CommandInfo.attributes).insertionSort
      fun a b => CommandInfo.sortKey a ≤ CommandInfo.sortKey b).map CommandInfo.sortKey =
    ((Table.commands.map (·.code)).insertionSort (· ≤ ·)).filter fun element => decide (property ≤ element) := by
  have each : ∀ info ∈ Table.commands, CommandInfo.sortKey info.attributes = info.code :=
    List.map_inj_left.mp command_keys
  have codes : ((Table.commands.filter fun info => decide (property ≤ info.code)).map CommandInfo.attributes).map
      CommandInfo.sortKey = (Table.commands.map (·.code)).filter fun element => decide (property ≤ element) := by
    rw [List.map_map, List.filter_map]
    exact List.map_congr_left fun info member => each info (List.mem_of_mem_filter member)
  -- The order of the words is the order of their codes, so the sort can be done on the codes.
  rw [List.map_insertionSort (r := fun a b => CommandInfo.sortKey a ≤ CommandInfo.sortKey b) (s := (· ≤ ·)) _ _
    fun _ _ _ _ => Iff.rfl, codes, insertion_sort_filter]

namespace TpmState

-- The handles of one range as the code takes them from their table.
def tableOf (s : TpmState) (range : UInt8) : List UInt32 :=
  if range = Ht.pcr then (List.range Config.implementationPcr).map fun i => Hc.pcrFirst + UInt32.ofNat i
  else if range = Ht.nvIndex then s.nv.indices.keys
  else if range = Ht.hmacSession then s.sessions.sessions.keys
  else if range = Ht.policySession then
    s.sessions.saved.keys.map fun h => (h &&& (0x00FFFFFF : UInt32)) ||| (Ht.hmacSession.toUInt32 <<< 24)
  else if range = Ht.permanent then permanentHandles
  else if range = Ht.transient then s.objects.keys
  else if range = Ht.persistent then s.persistent.keys
  else []

theorem handles_in_range_table (s : TpmState) (property : UInt32) : s.handlesInRange property =
    ((s.tableOf (property >>> 24).toUInt8).filter fun h => decide (property ≤ h)).insertionSort (· ≤ ·) := rfl

theorem commands_ascending : ((Table.commands.map (·.code)).insertionSort (· ≤ ·)).Pairwise (· < ·) :=
  pairwise_of_chained _ (by decide +kernel)

theorem pcr_properties_ascending : ((Swtrust.pcrProperties 0).map Prod.fst).Pairwise (· < ·) :=
  pairwise_of_chained _ (by decide +kernel)

theorem curves_ascending : (Config.implementedCurves.map (·.toUInt32)).Pairwise (· < ·) :=
  pairwise_of_chained _ (by decide)

-- One tag of the fixed properties is not given out.
def fixedTags : List UInt32 :=
  ((List.range 0x32).filter (· != 0x15)).map fun i => Pt.familyIndicator + UInt32.ofNat i

def variableTags : List UInt32 := (List.range 0x15).map fun i => Pt.permanent + UInt32.ofNat i

theorem tpm_properties_tags (s : TpmState) : ∃ all : List (UInt32 × UInt32), (∀ property, s.tpmProperties property =
    all.filter fun p => decide (property ≤ p.1) && (groupOf p.1 == groupOf property)) ∧
      all.map Prod.fst = fixedTags ++ variableTags :=
  ⟨_, fun _ => rfl, rfl⟩

theorem filter_map_group (all : List (UInt32 × UInt32)) (property : UInt32) :
    (all.filter fun p => decide (property ≤ p.1) && (groupOf p.1 == groupOf property)).map Prod.fst =
      (all.map Prod.fst).filter fun tag => decide (property ≤ tag) && (groupOf tag == groupOf property) := by
  rw [List.filter_map]
  rfl

theorem tpm_properties_group (s : TpmState) (property base : UInt32) (group : groupOf property = base)
    (whole : groupOf base = base) : (s.tpmProperties property).map Prod.fst =
      ((s.tpmProperties base).map Prod.fst).filter fun element => decide (property ≤ element) := by
  obtain ⟨all, listed, _⟩ := s.tpm_properties_tags
  have here : ∀ property, groupOf property = base → s.tpmProperties property =
      (all.filter fun p => groupOf p.1 == base).filter fun p => decide (property ≤ p.1) := by
    intro property group
    rw [listed, group, List.filter_filter]
  rw [here _ group, here _ whole]
  exact filter_above _ _ _ _ (group_below _ _ group)

section

variable [Profile]

-- All of the elements of a list.
def elements (s : TpmState) : ListClass → List UInt32
  | .algs => implementedAlgorithms.map (·.toUInt32)
  | .handles range => (s.tableOf range).insertionSort (· ≤ ·)
  | .commands => (Table.commands.map (·.code)).insertionSort (· ≤ ·)
  | .ppCommands => s.ppCommands
  | .auditCommands => s.audit.commands
  | .pcrs => s.pcr.allocated.keys.map (·.toUInt32)
  | .fixedProperties => (s.tpmProperties Pt.familyIndicator).map Prod.fst
  | .variableProperties => (s.tpmProperties Pt.permanent).map Prod.fst
  | .pcrProperties => (Swtrust.pcrProperties 0).map Prod.fst
  | .eccCurves => Config.implementedCurves.map (·.toUInt32)
  | .authPolicies => (s.authPolicies 0).map Prod.fst
  | .act => [Rh.act_0]

-- One request for a page of the list: whether more follow, and what the elements are named.
def ask (s : TpmState) (listClass : ListClass) (property : UInt32) (count : Nat) : Option (Bool × List UInt32) :=
  if listClass.covers property then
    match s.buildCapability listClass.capability property count with
    | .ok (more, data) => some (more, data.names)
    | .error _ => none
  else none

theorem ask_page {α : Type} (s : TpmState) (listClass : ListClass) (property : UInt32) (count : Nat)
    (covered : listClass.covers property = true) (left : List α) (name : α → UInt32) (wrap : List α → Capabilities)
    (names : ∀ items, (wrap items).names = items.map name)
    (built : s.buildCapability listClass.capability property count =
      .ok (decide (min count listClass.most < left.length), wrap (left.take (min count listClass.most))))
    (same : left.map name = (s.elements listClass).filter fun element => decide (property ≤ element)) :
    s.ask listClass property count =
      Paging.page (fun property => listClass.covers property) (s.elements listClass) listClass.most property count := by
  unfold ask Paging.page
  rw [covered, built]
  dsimp only
  rw [names, List.map_take, ← List.length_map name, same, if_pos rfl, if_pos covered]

theorem ask_is_page (s : TpmState) (listClass : ListClass) (paged : listClass ≠ .pcrs) (property : UInt32) (count : Nat) :
    s.ask listClass property count =
      Paging.page (fun property => listClass.covers property) (s.elements listClass) listClass.most property count := by
  by_cases covered : listClass.covers property = true
  · cases listClass with
    | pcrs => exact absurd rfl paged
    | algs =>
        refine s.ask_page .algs property count covered (implementedAlgorithms.filter fun a => decide (property ≤ a.toUInt32))
          (·.toUInt32) .algorithms (fun _ => rfl) rfl ?_
        exact (filter_map_above _ _ property).symm
    | handles range =>
        refine s.ask_page (.handles range) property count covered (s.handlesInRange property) id .handles
          (fun items => (List.map_id items).symm) rfl ?_
        rw [List.map_id, handles_in_range_table, eq_of_beq covered]
        exact insertion_sort_filter _ _
    | commands =>
        exact s.ask_page .commands property count covered _ CommandInfo.sortKey .command (fun _ => rfl) rfl
          (command_names property)
    | ppCommands =>
        exact s.ask_page .ppCommands property count covered (s.ppCommands.filter fun c => decide (property ≤ c)) id
          .ppCommands (fun items => (List.map_id items).symm) rfl (List.map_id _)
    | auditCommands =>
        exact s.ask_page .auditCommands property count covered (s.audit.commands.filter fun c => decide (property ≤ c)) id
          .auditCommands (fun items => (List.map_id items).symm) rfl (List.map_id _)
    | fixedProperties =>
        exact s.ask_page .fixedProperties property count covered (s.tpmProperties property) Prod.fst .tpmProperties
          (fun _ => rfl) rfl (s.tpm_properties_group property _ (eq_of_beq covered) (by decide))
    | variableProperties =>
        exact s.ask_page .variableProperties property count covered (s.tpmProperties property) Prod.fst .tpmProperties
          (fun _ => rfl) rfl (s.tpm_properties_group property _ (eq_of_beq covered) (by decide))
    | pcrProperties =>
        obtain ⟨all, listed⟩ : ∃ all : List (UInt32 × PcrSelect), ∀ property, Swtrust.pcrProperties property =
          all.filter fun p => decide (property ≤ p.1) := ⟨_, fun _ => rfl⟩
        refine s.ask_page .pcrProperties property count covered (Swtrust.pcrProperties property) Prod.fst .pcrProperties
          (fun _ => rfl) rfl ?_
        unfold elements
        dsimp only
        rw [listed, listed]
        exact filter_above _ _ _ _ UInt32.zero_le
    | eccCurves =>
        refine s.ask_page .eccCurves property count covered
          (Config.implementedCurves.filter fun c => decide (property ≤ c.toUInt32)) (·.toUInt32) .eccCurves (fun _ => rfl)
          rfl ?_
        exact (filter_map_above _ _ property).symm
    | authPolicies =>
        obtain ⟨all, listed⟩ : ∃ all : List (UInt32 × TpmtHa), ∀ property, s.authPolicies property =
          all.filter fun p => decide (property ≤ p.1) := ⟨_, fun _ => rfl⟩
        refine s.ask_page .authPolicies property count covered (s.authPolicies property) Prod.fst .authPolicies
          (fun _ => rfl) ?_ ?_
        · -- The handler asks that the property be a permanent handle before it makes the list.
          have permanent : ¬ (property >>> 24).toUInt8 ≠ Ht.permanent := not_not.mpr (eq_of_beq covered)
          change (if (property >>> 24).toUInt8 ≠ Ht.permanent then _ else _) = _
          rw [if_neg permanent]
          rfl
        · unfold elements
          dsimp only
          rw [listed, listed]
          exact filter_above _ _ _ _ UInt32.zero_le
    | act =>
        refine s.ask_page .act property count covered
          (if property ≤ Rh.act_0 then [(Rh.act_0, s.act.timeout, s.act.attributes)] else []) Prod.fst .act (fun _ => rfl)
          ?_ ?_
        · have permanent : ¬ (property >>> 24).toUInt8 ≠ Ht.permanent := not_not.mpr (eq_of_beq covered)
          change (if (property >>> 24).toUInt8 ≠ Ht.permanent then _ else _) = _
          rw [if_neg permanent]
          rfl
        · by_cases below : property ≤ Rh.act_0 <;> simp [elements, below]
  · unfold ask Paging.page
    dsimp only
    rw [if_neg covered, if_neg covered]

-- The lists that can be paged through: the handles lie from the first property on, and all but the greatest are followed
-- by one of the same range; the commands that are chosen are in order. The policies are not.
def Pageable (s : TpmState) : ListClass → Prop
  | .handles range => ∀ handle ∈ s.tableOf range, (ListClass.handles range).first ≤ handle ∧
      ((∀ other ∈ s.tableOf range, other ≤ handle) ∨ (ListClass.handles range).covers (handle + 1) = true)
  | .ppCommands => s.ppCommands.Pairwise (· < ·)
  | .auditCommands => s.audit.commands.Pairwise (· < ·)
  | .authPolicies => False
  | _ => True

end

theorem first_covered (listClass : ListClass) : listClass.covers listClass.first = true := by
  cases listClass with
  | handles range =>
      have small := range.toNat_lt
      simp only [first, covers, beq_iff_eq]
      rw [← UInt8.toNat_inj]
      simp only [UInt32.toNat_toUInt8, UInt32.toNat_shiftRight, UInt32.toNat_shiftLeft, UInt8.toNat_toUInt32,
        Nat.shiftLeft_eq, Nat.shiftRight_eq_div_pow, UInt32.reduceToNat, Nat.reduceMod, Nat.reducePow]
      omega
  | _ => rfl

theorem saved_below (handle : UInt32) :
    (handle &&& (0x00FFFFFF : UInt32)) ||| (Ht.hmacSession.toUInt32 <<< 24) < (ListClass.handles Ht.policySession).first := by
  -- The octet of the range stands above the bits that are kept, so the two do not overlap.
  have low : handle.toNat &&& 0x00FFFFFF < 2 ^ 25 := Nat.lt_of_le_of_lt Nat.and_le_right (by decide)
  have whole := Nat.two_pow_add_eq_or_of_lt low 1
  have limit : handle.toNat &&& 0x00FFFFFF ≤ 0x00FFFFFF := Nat.and_le_right
  rw [UInt32.lt_iff_toNat_lt, UInt32.toNat_or, UInt32.toNat_and, Nat.or_comm]
  change 2 ^ 25 * 1 ||| (handle.toNat &&& 0x00FFFFFF) < 0x03000000
  omega

theorem table_nodup (s : TpmState) (range : UInt8) (other : range ≠ Ht.policySession) : (s.tableOf range).Nodup := by
  unfold tableOf
  rw [if_neg other]
  split
  · decide
  · split
    · exact keys_nodup _
    · split
      · exact keys_nodup _
      · split
        · decide
        · split
          · exact keys_nodup _
          · split
            · exact keys_nodup _
            · exact List.nodup_nil

section

variable [Profile] (s : TpmState)

def tagsPlaced (listClass : ListClass) (tags : List UInt32) : Bool :=
  chained tags && tags.all fun tag => decide (listClass.first ≤ tag) && listClass.covers (tag + 1)

-- A list of fixed elements in order, all of whose pages ask for the same list.
theorem placed_of_chained (listClass : ListClass) (tags : List UInt32) (same : s.elements listClass = tags)
    (placed : tagsPlaced listClass tags = true) :
    Paging.Placed (fun property => listClass.covers property) (s.elements listClass) (· + 1) listClass.first := by
  subst same
  simp only [tagsPlaced, Bool.and_eq_true, List.all_eq_true, decide_eq_true_eq] at placed
  exact ⟨pairwise_of_chained _ placed.1, fun element member => (placed.2 element member).1,
    fun element member => .inr (placed.2 element member).2⟩

-- The same where every property asks for the list.
theorem placed_of_pairwise (listClass : ListClass) (ordered : (s.elements listClass).Pairwise (· < ·))
    (low : listClass.first = 0) (all : ∀ property, listClass.covers property = true) :
    Paging.Placed (fun property => listClass.covers property) (s.elements listClass) (· + 1) listClass.first where
  ascending := ordered
  above _ _ := low ▸ UInt32.zero_le
  goesOn _ _ := .inr (all _)

theorem placed_handles (range : UInt8) : Paging.Placed (fun property => (ListClass.handles range).covers property)
    (s.elements (.handles range)) (· + 1) (ListClass.handles range).first ↔ s.Pageable (.handles range) := by
  have listed : ∀ handle, handle ∈ s.elements (.handles range) ↔ handle ∈ s.tableOf range := fun handle =>
    (List.perm_insertionSort _ _).mem_iff
  constructor
  · intro placed handle member
    refine ⟨placed.above handle ((listed handle).mpr member), ?_⟩
    exact (placed.goesOn handle ((listed handle).mpr member)).imp (fun greatest other member =>
      greatest other ((listed other).mpr member)) id
  · intro pageable
    refine ⟨?_, fun handle member => (pageable handle ((listed handle).mp member)).1, fun handle member => ?_⟩
    · by_cases saved : range = Ht.policySession
      · -- The saved sessions are given handles below the first of their range.
        subst saved
        have none : s.tableOf Ht.policySession = [] := by
          refine List.eq_nil_iff_forall_not_mem.mpr fun handle member => ?_
          have above := (pageable handle member).1
          obtain ⟨key, _, rfl⟩ := List.mem_map.mp member
          exact UInt32.not_lt.mpr above (saved_below key)
        unfold elements
        dsimp only
        rw [none]
        exact .nil
      · exact insertion_sort_ascending _ (s.table_nodup range saved)
    · exact (pageable handle ((listed handle).mp member)).2.imp (fun greatest other member =>
        greatest other ((listed other).mp member)) id

theorem algorithms_ascending : (implementedAlgorithms.map (·.toUInt32)).Pairwise (· < ·) := by
  have legacy : (algorithmsLegacy.map (·.toUInt32)).Pairwise (· < ·) := pairwise_of_chained _ (by decide)
  unfold implementedAlgorithms
  split
  · exact legacy.sublist (List.filter_sublist.map _)
  · exact legacy

theorem fixed_elements : s.elements .fixedProperties = fixedTags := by
  obtain ⟨all, listed, tags⟩ := s.tpm_properties_tags
  have same := filter_map_group all Pt.familyIndicator
  unfold elements
  dsimp only
  rw [listed, same, tags]
  decide +kernel

theorem variable_elements : s.elements .variableProperties = variableTags := by
  obtain ⟨all, listed, tags⟩ := s.tpm_properties_tags
  have same := filter_map_group all Pt.permanent
  unfold elements
  dsimp only
  rw [listed, same, tags]
  decide +kernel

theorem placed_iff_pageable (listClass : ListClass) (paged : listClass ≠ .pcrs) :
    Paging.Placed (fun property => listClass.covers property) (s.elements listClass) (· + 1) listClass.first ↔
      s.Pageable listClass := by
  have always : Paging.Placed (fun property => listClass.covers property) (s.elements listClass) (· + 1) listClass.first →
      s.Pageable listClass = True →
      (Paging.Placed (fun property => listClass.covers property) (s.elements listClass) (· + 1) listClass.first ↔
        s.Pageable listClass) := fun placed pageable => by simp [placed, pageable]
  cases listClass with
  | pcrs => exact absurd rfl paged
  | handles range => exact s.placed_handles range
  | algs => exact always (s.placed_of_pairwise .algs algorithms_ascending rfl fun _ => rfl) rfl
  | commands => exact always (s.placed_of_pairwise .commands commands_ascending rfl fun _ => rfl) rfl
  | ppCommands => exact ⟨fun placed => placed.ascending, fun ordered => s.placed_of_pairwise .ppCommands ordered rfl
      fun _ => rfl⟩
  | auditCommands =>
      exact ⟨fun placed => placed.ascending, fun ordered => s.placed_of_pairwise .auditCommands ordered rfl fun _ => rfl⟩
  | fixedProperties => exact always (s.placed_of_chained .fixedProperties fixedTags s.fixed_elements (by decide)) rfl
  | variableProperties =>
      exact always (s.placed_of_chained .variableProperties variableTags s.variable_elements (by decide)) rfl
  | pcrProperties => exact always (s.placed_of_pairwise .pcrProperties pcr_properties_ascending rfl fun _ => rfl) rfl
  | eccCurves => exact always (s.placed_of_pairwise .eccCurves curves_ascending rfl fun _ => rfl) rfl
  | authPolicies =>
      -- The lockout follows the platform, whose handle is the greater one.
      refine ⟨fun placed => ?_, False.elim⟩
      have ordered : ([Rh.owner, Rh.endorsement, Rh.platform, Rh.lockout, Rh.act_0] : List UInt32).Pairwise (· < ·) :=
        placed.ascending
      exact absurd ordered (by decide)
  | act => exact always (s.placed_of_chained .act [Rh.act_0] rfl (by decide)) rfl

-- The allocation comes in one answer.
theorem pcrs_enumerate : Paging.Enumerates (s.ask .pcrs) (· + 1) ListClass.pcrs.first (s.elements .pcrs) := by
  intro counts _
  refine ⟨_, .last 0 _ (s.elements .pcrs) ?_, ?_, .refl _⟩
  · -- The allocation answers with the banks in the order of the map that holds them.
    have names : ∀ allocation : PcrAllocation, (allocation.map fun bank : UInt16 × List Bool =>
        (⟨bank.1, pcrSelectWhere fun i => bank.2[i]?.getD false⟩ : PcrSelection)).map (·.hashAlg.toUInt32) =
        (allocation.map Prod.fst).map (·.toUInt32) := by
      intro allocation
      rw [List.map_map, List.map_map]
      rfl
    exact congrArg (fun names => some (false, names)) (names _)
  · refine List.pairwise_map.mpr ((keys_ascending s.pcr.allocated).imp fun less => ?_)
    rw [UInt32.lt_iff_toNat_lt, UInt16.toNat_toUInt32, UInt16.toNat_toUInt32]
    exact less

theorem enumerates_iff_pageable (listClass : ListClass) :
    Paging.Enumerates (s.ask listClass) (· + 1) listClass.first (s.elements listClass) ↔ s.Pageable listClass := by
  by_cases whole : listClass = .pcrs
  · subst whole
    exact ⟨fun _ => trivial, fun _ => s.pcrs_enumerate⟩
  · have pages : s.ask listClass = Paging.page (fun property => listClass.covers property) (s.elements listClass)
        listClass.most := by
      funext property count
      exact s.ask_is_page listClass whole property count
    have room : 0 < listClass.most := by
      cases listClass with
      | handles range => exact (by decide : 0 < capListMax 4)
      | _ => decide
    rw [pages, Paging.enumerates_iff _ _ _ (· + 1) successor room _ (first_covered listClass)]
    exact s.placed_iff_pageable listClass whole

end

section

variable (s : TpmState)

-- No saved session is listed: each is given a handle below the first that the caller asks for.
theorem saved_pageable_iff : s.Pageable (.handles Ht.policySession) ↔ s.sessions.saved.keys = [] := by
  constructor
  · intro pageable
    refine List.eq_nil_iff_forall_not_mem.mpr fun key member => ?_
    have above := (pageable _ (List.mem_map_of_mem member)).1
    exact UInt32.not_lt.mpr above (saved_below key)
  · intro none handle member
    obtain ⟨key, member, _⟩ := List.mem_map.mp member
    rw [none] at member
    cases member

theorem session_range (handle : UInt32) (ranged : isSessionHandle handle = true) :
    (handle < Hc.policySessionFirst ∧ (ListClass.handles Ht.hmacSession).covers (handle + 1) = true) ∨
      (Hc.policySessionFirst ≤ handle ∧ (ListClass.handles Ht.hmacSession).covers (handle + 1) = false) := by
  have top := handle.toNat_lt
  simp only [isSessionHandle, Hierarchies.inRange, Bool.or_eq_true, Bool.and_eq_true, decide_eq_true_eq,
    UInt32.le_iff_toNat_le, Hc.hmacSessionFirst, Hc.hmacSessionLast, Hc.policySessionFirst, Hc.policySessionLast,
    UInt32.reduceToNat] at ranged
  simp only [covers, beq_iff_eq, beq_eq_false_iff_ne, ne_eq, ← UInt8.toNat_inj, UInt32.toNat_toUInt8,
    UInt32.toNat_shiftRight, UInt32.toNat_add, Nat.shiftRight_eq_div_pow, UInt32.le_iff_toNat_le,
    UInt32.lt_iff_toNat_lt, Hc.policySessionFirst, Ht.hmacSession, UInt32.reduceToNat, UInt8.reduceToNat, UInt32.toNat_one,
    Nat.reduceMod, Nat.reducePow]
  omega

-- Loaded sessions can be paged through where at most one of them is a policy session.
theorem loaded_pageable_iff (typed : ∀ handle ∈ s.sessions.sessions.keys, isSessionHandle handle = true) :
    s.Pageable (.handles Ht.hmacSession) ↔ ∀ handle ∈ s.sessions.sessions.keys, ∀ other ∈ s.sessions.sessions.keys,
      Hc.policySessionFirst ≤ handle → other ≤ handle := by
  constructor
  · intro pageable handle member other member' policy
    rcases session_range handle (typed handle member) with ⟨hmac, _⟩ | ⟨_, leaves⟩
    · exact absurd policy (UInt32.not_le.mpr hmac)
    · -- The property after a policy session asks for another range, so no session may follow it.
      refine ((pageable handle member).2.resolve_right fun covered => ?_) other member'
      rw [leaves] at covered
      cases covered
  · intro few handle member
    have low : (ListClass.handles Ht.hmacSession).first ≤ handle := by
      have ranged := typed handle member
      simp only [isSessionHandle, Hierarchies.inRange, Bool.or_eq_true, Bool.and_eq_true, decide_eq_true_eq] at ranged
      rcases ranged with hmac | policy
      · exact hmac.1
      · exact UInt32.le_trans (by decide) policy.1
    rcases session_range handle (typed handle member) with ⟨_, stays⟩ | ⟨policy, _⟩
    · exact ⟨low, .inr stays⟩
    · exact ⟨low, .inl fun other member' => few handle member other member' policy⟩

end

theorem policies_unpageable (s : TpmState) : ¬ s.Pageable .authPolicies := id

-- Whatever the counts asked for, going on past the last element while more is promised gives every element once and in
-- order, exactly where the list can be paged through.
theorem capability_lists_enumerate [Profile] (s : TpmState) (listClass : ListClass) :
    Paging.Enumerates (s.ask listClass) (· + 1) listClass.first (s.elements listClass) ↔ s.Pageable listClass :=
  s.enumerates_iff_pageable listClass

end TpmState

namespace Toy

def twoPolicies : TpmState := afterCommands [startSession Se.policy, startSession Se.policy] booted

def savedPolicy : TpmState := afterCommands [startSession Se.policy, plainCommand Cc.contextSave [policyHandle] []] booted

theorem policies_held : twoPolicies.sessions.sessions.keys = [policyHandle, policyHandle + 1] ∧
    savedPolicy.sessions.saved.keys = [policyHandle] := by
  unfold twoPolicies savedPolicy
  rw [booted_made]
  decide +kernel

-- The policies of any TPM, two policy sessions that are loaded, and one session that is saved.
theorem capability_lists_break :
    ¬ Paging.Enumerates (booted.ask .authPolicies) (· + 1) ListClass.authPolicies.first (booted.elements .authPolicies) ∧
    ¬ Paging.Enumerates (twoPolicies.ask (.handles Ht.hmacSession)) (· + 1) (ListClass.handles Ht.hmacSession).first
      (twoPolicies.elements (.handles Ht.hmacSession)) ∧
    ¬ Paging.Enumerates (savedPolicy.ask (.handles Ht.policySession)) (· + 1) (ListClass.handles Ht.policySession).first
      (savedPolicy.elements (.handles Ht.policySession)) := by
  obtain ⟨two, saved⟩ := policies_held
  refine ⟨fun all => ?_, fun all => ?_, fun all => ?_⟩
  · exact booted.policies_unpageable ((booted.enumerates_iff_pageable .authPolicies).mp all)
  · have typed : ∀ handle ∈ twoPolicies.sessions.sessions.keys, isSessionHandle handle = true := by
      intro handle member
      rw [two] at member
      rcases List.mem_pair.mp member with rfl | rfl <;> decide
    have few := (twoPolicies.loaded_pageable_iff typed).mp ((twoPolicies.enumerates_iff_pageable _).mp all)
    rw [two] at few
    exact absurd (few policyHandle (by decide) (policyHandle + 1) (by decide) (by decide)) (by decide)
  · have none := savedPolicy.saved_pageable_iff.mp ((savedPolicy.enumerates_iff_pageable _).mp all)
    rw [saved] at none
    cases none

end Toy

end Swtrust
