import Swtrust.Commands.Pcr
import Swtrust.Library.Guarantee

set_option autoImplicit false
set_option linter.unusedSectionVars false

namespace Swtrust

open Library Library.Action

namespace PcrBanks

section

variable [Profile]

-- A bank for each algorithm of the allocation, its registers as wide as the digests.
structure Fits (pcr : PcrBanks) : Prop where
  allocated : ∀ a, pcr.banks.contains a = pcr.allocated.contains a
  registers : ∀ a bank, pcr.banks.get a = some bank → ∃ size, digestSize a = some size ∧
    bank.length = Config.implementationPcr ∧ ∀ register ∈ bank, register.length = size

-- The registers may change, but neither the allocation nor the widths.
structure Moves (before after : PcrBanks) : Prop where
  allocated : after.allocated = before.allocated
  fits : before.Fits → after.Fits

theorem moves_steady : Steady Moves where
  refl _ := ⟨rfl, id⟩
  trans _ _ _ first second := ⟨second.allocated.trans first.allocated, second.fits ∘ first.fits⟩

theorem moves_counter (pcr : PcrBanks) (updateCounter : UInt32) : Moves pcr { pcr with updateCounter } :=
  ⟨rfl, fun fits => ⟨fits.allocated, fits.registers⟩⟩

theorem moves_count (pcr : PcrBanks) (index : Nat) : Moves pcr (pcr.count index) := by
  unfold count
  split
  · exact moves_steady.refl pcr
  · exact moves_counter pcr _

-- One register is written, with a value of the width of its bank.
theorem moves_set (pcr : PcrBanks) (a : UInt16) (bank : PcrBank) (index : Nat) (value : Bytes)
    (held : pcr.banks.get a = some bank) (sized : digestSize a = some value.length) :
    Moves pcr { pcr with banks := pcr.banks.insert a (bank.set index value) } := by
  refine ⟨rfl, fun fits => ⟨fun other => ?_, fun other found there => ?_⟩⟩
  · have before := fits.allocated other
    unfold SortedMap.contains at before ⊢
    rw [← before]
    dsimp only
    rw [SortedMap.get_insert]
    by_cases same : other = a
    · rw [if_pos same, same, held]
      rfl
    · rw [if_neg same]
  · change (pcr.banks.insert a (bank.set index value)).get other = some found at there
    rw [SortedMap.get_insert] at there
    by_cases same : other = a
    · subst same
      rw [if_pos rfl] at there
      obtain rfl := Option.some.inj there
      obtain ⟨size, width, length, each⟩ := fits.registers other bank held
      rw [sized] at width
      obtain rfl := Option.some.inj width
      refine ⟨value.length, sized, by rw [List.length_set, length], fun register member => ?_⟩
      rcases List.mem_or_eq_of_mem_set member with old | new
      · exact each register old
      · rw [new]
    · rw [if_neg same] at there
      exact fits.registers other found there

-- Every register is written, with a value of its width.
theorem moves_map (pcr : PcrBanks) (updateCounter : UInt32) (next : UInt16 → Nat → Bytes → Bytes)
    (widths : ∀ a size index register, digestSize a = some size → register.length = size →
      (next a index register).length = size) :
    Moves pcr { pcr with banks := pcr.banks.mapValues fun a bank => bank.mapIdx (next a), updateCounter } := by
  refine ⟨rfl, fun fits => ⟨fun a => ?_, fun a found there => ?_⟩⟩
  · rw [← fits.allocated a]
    unfold SortedMap.contains
    dsimp only
    rw [SortedMap.get_map_values, Option.isSome_map]
  · change (pcr.banks.mapValues fun a bank => bank.mapIdx (next a)).get a = some found at there
    rw [SortedMap.get_map_values] at there
    obtain ⟨bank, held, rfl⟩ := Option.map_eq_some_iff.mp there
    obtain ⟨size, sized, length, each⟩ := fits.registers a bank held
    refine ⟨size, sized, by rw [List.length_mapIdx, length], fun register member => ?_⟩
    obtain ⟨index, inside, rfl⟩ := List.mem_mapIdx.mp member
    exact widths a size index _ sized (each _ (List.getElem_mem _))

theorem reset_register_length (keep : Option Nat) (locality : UInt8) (size index : Nat) (register : Bytes)
    (same : register.length = size) : (resetRegister keep locality size index register).length = size := by
  have fill : (Pcr.fill size index).length = size := List.length_replicate
  unfold resetRegister
  by_cases kept : keep = some index
  · rw [if_pos kept]
    exact same
  · rw [if_neg kept]
    by_cases first : index = Config.hcrtmPcr
    · dsimp only
      rw [if_pos first, List.length_append, List.length_dropLast]
      cases value : Pcr.fill size index with
      | nil =>
          rw [value] at fill
          simpa using fill
      | cons octet rest =>
          rw [value] at fill
          simpa using fill
    · dsimp only
      rw [if_neg first]
      exact fill

theorem moves_reset_all (pcr : PcrBanks) (keep : Option Nat) (locality : UInt8) :
    Moves pcr (pcr.resetAllBut keep locality) := by
  refine pcr.moves_map pcr.updateCounter (fun a => resetRegister keep locality (sizeOr0 a))
    fun a size index register sized same => ?_
  have width : sizeOr0 a = size := by
    unfold sizeOr0
    rw [sized]
    rfl
  rw [width]
  exact reset_register_length keep locality size index register same

def resumed (a : UInt16) (index : Nat) (register : Bytes) : Bytes :=
  match digestSize a with
  | none => register
  | some size => if Pcr.isSaved index then register else Pcr.fill size index

theorem on_resume_banks (pcr : PcrBanks) :
    pcr.onResume = { pcr with banks := pcr.banks.mapValues fun a bank => bank.mapIdx (resumed a) } := by
  unfold onResume
  congr 2
  funext a bank
  unfold resumed
  cases digestSize a with
  | none =>
      apply List.ext_getElem?
      intro index
      rw [List.getElem?_mapIdx]
      exact Option.map_id'.symm
  | some size => rfl

theorem moves_on_resume (pcr : PcrBanks) : Moves pcr pcr.onResume := by
  rw [on_resume_banks]
  refine pcr.moves_map pcr.updateCounter resumed fun a size index register sized same => ?_
  unfold resumed
  rw [sized]
  dsimp only
  split
  · exact same
  · exact List.length_replicate

theorem moves_drtm_reset (pcr : PcrBanks) : Moves pcr pcr.drtmReset := by
  have cleared := fun updateCounter => pcr.moves_map updateCounter
    (fun a index register => if (Pcr.attributes index).startsAtOnes then List.replicate (sizeOr0 a) 0 else register)
    fun a size index register sized same => by
      have width : sizeOr0 a = size := by
        unfold sizeOr0
        rw [sized]
        rfl
      split
      · rw [width, List.length_replicate]
      · exact same
  unfold drtmReset
  dsimp only
  split
  · exact cleared _
  · exact cleared _

theorem moves_set_register (pcr next : PcrBanks) (a : UInt16) (index : Nat) (digest : Bytes)
    (made : pcr.setRegister a index digest = .ok next) : Moves pcr next := by
  unfold setRegister at made
  obtain ⟨_, made⟩ := (guarded_then_is_ok _ _ _ _ _).mp made
  cases sized : digestSize a with
  | none =>
      rw [sized] at made
      cases made
  | some size =>
      rw [sized] at made
      obtain ⟨width, made⟩ := (guarded_then_is_ok _ _ _ _ _).mp made
      cases held : pcr.banks.get a with
      | none =>
          rw [held] at made
          cases made
      | some bank =>
          rw [held] at made
          cases made
          have exact : digest.length = size := by simpa using width
          exact moves_steady.trans _ _ _ (pcr.moves_set a bank index digest held (exact ▸ sized)) (moves_count _ index)

theorem moves_reset (pcr next : PcrBanks) (index : Nat) (locality : UInt8)
    (made : pcr.reset index locality = .ok next) : Moves pcr next := by
  have cleared := pcr.moves_map pcr.updateCounter
    (fun a place register => if place = index then List.replicate (sizeOr0 a) 0 else register)
    fun a size place register sized same => by
      have width : sizeOr0 a = size := by
        unfold sizeOr0
        rw [sized]
        rfl
      split
      · rw [width, List.length_replicate]
      · exact same
  have same : (pcr.banks.mapValues fun a bank => bank.set index (List.replicate (sizeOr0 a) 0)) =
      pcr.banks.mapValues fun a bank =>
        bank.mapIdx fun place register => if place = index then List.replicate (sizeOr0 a) 0 else register := by
    congr 1
    funext a bank
    apply List.ext_getElem?
    intro place
    rw [List.getElem?_mapIdx, List.getElem?_set]
    by_cases here : index = place
    · subst here
      by_cases inside : index < bank.length
      · simp [inside]
      · simp [inside]
    · simp [here, Ne.symm here]
  unfold reset at made
  split at made
  · cases made
    exact moves_steady.refl pcr
  · split at made
    · cases made
    · split at made
      · cases made
      · cases made
        rw [same]
        exact moves_steady.trans _ _ _ cleared (moves_count _ index)

def register (pcr : PcrBanks) (a : UInt16) (index : Nat) : Option Bytes := (pcr.banks.get a).bind fun bank => bank[index]?

-- Banks of one allocation hold registers of the same widths.
theorem fits_alike (pcr other : PcrBanks) (fits : pcr.Fits) (alike : other.Fits) (allocated : other.allocated = pcr.allocated)
    (a : UInt16) (bank : PcrBank) (held : pcr.banks.get a = some bank) : ∃ made, other.banks.get a = some made ∧
      made.length = bank.length ∧ ∀ value ∈ bank, ∀ register ∈ made, value.length = register.length := by
  obtain ⟨size, sized, length, each⟩ := fits.registers a bank held
  have here : other.banks.contains a = true := by
    rw [alike.allocated, allocated, ← fits.allocated]
    unfold SortedMap.contains
    rw [held]
    rfl
  obtain ⟨made, found⟩ := Option.isSome_iff_exists.mp here
  obtain ⟨width, same, widths⟩ := alike.registers a made found
  rw [sized] at same
  obtain rfl := Option.some.inj same
  exact ⟨made, found, widths.1.trans length.symm, fun value member register other =>
    (each value member).trans (widths.2 register other).symm⟩

theorem absent_alike (pcr other : PcrBanks) (fits : pcr.Fits) (alike : other.Fits)
    (allocated : other.allocated = pcr.allocated) (a : UInt16) (absent : pcr.banks.get a = none) :
    other.banks.get a = none := by
  have nowhere : other.banks.contains a = false := by
    rw [alike.allocated, allocated, ← fits.allocated]
    unfold SortedMap.contains
    rw [absent]
    rfl
  unfold SortedMap.contains at nowhere
  exact Option.not_isSome_iff_eq_none.mp (by simp [nowhere])

end

section

variable [Crypto]

theorem digest_parts_length (a : UInt16) (parts : List Bytes) (digest : Bytes)
    (made : Hash.digestParts a parts = .ok digest) : digestSize a = some digest.length :=
  digest_size_of_hash a _ (Hash.digest_length a _ digest made)

theorem extend_digest_moves (a : UInt16) (index : Nat) (digest : Bytes) : Guarantees Moves (extendDigest a index digest) := by
  refine guarantees_of_ensures _ _ fun pcr => ?_
  have kept : ∀ t, t = pcr → Moves pcr t := fun t same => same ▸ moves_steady.refl pcr
  unfold extendDigest
  refine ensures_get_bind _ _ _ _ fun t same => ?_
  subst same
  refine ensures_ite _ _ _ _ _ _ (fun _ => ensures_pure _ _ _ _ fun u same => kept u same) fun _ => ?_
  refine ensures_guard _ _ _ _ _ _ _ kept fun _ => ?_
  cases digestSize a with
  | none => exact ensures_throw _ _ _ _ kept
  | some size =>
      refine ensures_guard _ _ _ _ _ _ _ kept fun _ => ?_
      cases held : t.banks.get a with
      | none => exact ensures_throw _ _ _ _ kept
      | some bank =>
          refine ensures_lift_bind _ _ _ _ _ (moves_steady.refl t) fun next made => ?_
          rintro _ rfl
          exact moves_set _ a bank index next held (digest_parts_length a _ next made)

theorem extend_all_moves (index : Nat) (digests : List (UInt16 × Bytes)) (counted : List UInt16) :
    Guarantees Moves (extendAll index digests counted) := by
  induction digests generalizing counted with
  | nil => exact guarantees_pure moves_steady.refl _
  | cons head rest ih =>
      obtain ⟨a, digest⟩ := head
      unfold extendAll
      refine guarantees_get_bind _ _ fun pcr => ?_
      refine guarantees_ite _ _ _ _ (fun _ => ih counted) (fun _ => ?_) pcr
      exact guarantees_bind moves_steady _ _ (extend_digest_moves a index digest) fun _ => ih _

theorem extend_moves_banks (index : Nat) (locality : UInt8) (digests : List (UInt16 × Bytes)) :
    Guarantees Moves (extend index locality digests) := by
  unfold extend
  refine guarantees_guard moves_steady.refl _ _ _ _ fun _ => ?_
  refine guarantees_guard moves_steady.refl _ _ _ _ fun _ => ?_
  refine guarantees_get_bind _ _ fun pcr => ?_
  refine guarantees_lift_bind moves_steady.refl _ _ (fun _ _ => ?_) pcr
  refine guarantees_bind moves_steady _ _ (extend_all_moves index digests []) fun counted => ?_
  refine guarantees_ite _ _ _ _ (fun _ => ?_) fun _ => guarantees_pure moves_steady.refl _
  exact guarantees_modify _ _ fun pcr => pcr.moves_counter _

theorem event_moves_banks (index : Nat) (locality : UInt8) (data : Bytes) : Guarantees Moves (event index locality data) := by
  unfold event
  refine guarantees_get_bind _ _ fun pcr => ?_
  refine guarantees_lift_bind moves_steady.refl _ _ (fun digests _ => ?_) pcr
  exact guarantees_bind moves_steady _ _ (extend_moves_banks index locality digests)
    fun _ => guarantees_pure moves_steady.refl _

end

end PcrBanks

section

variable [Primitives] (s : TpmState) (request : Request)

open PcrBanks

theorem pcr_extend_moves_banks : Guarantees PcrBanks.Moves (pcrExtend request) := by
  unfold pcrExtend
  refine guarantees_lift_bind moves_steady.refl _ _ fun handle _ => guarantees_lift_bind moves_steady.refl _ _ fun index _ => ?_
  refine guarantees_lift_bind moves_steady.refl _ _ fun digests _ =>
    guarantees_lift_bind moves_steady.refl _ _ fun pairs _ => ?_
  refine guarantees_bind moves_steady _ _ ?_ fun _ => guarantees_pure moves_steady.refl _
  exact guarantees_with_err _ _ _ (extend_moves_banks index request.locality pairs)

theorem pcr_event_moves_banks : Guarantees PcrBanks.Moves (pcrEvent request) := by
  have answered : ∀ digests : List (UInt16 × Bytes), Guarantees PcrBanks.Moves (do
      return .of (← marshalDigestValues digests) : Action TpmRc PcrBanks Response) := fun digests =>
    guarantees_lift_bind moves_steady.refl _ _ fun _ _ => guarantees_pure moves_steady.refl _
  unfold pcrEvent
  refine guarantees_lift_bind moves_steady.refl _ _ fun handle _ => guarantees_lift_bind moves_steady.refl _ _ fun data _ => ?_
  refine guarantees_ite _ _ _ _ (fun _ => ?_) fun _ => ?_
  · refine guarantees_get_bind _ _ fun pcr => ?_
    exact guarantees_lift_bind moves_steady.refl _ _ (fun digests _ => answered digests) pcr
  · refine guarantees_lift_bind moves_steady.refl _ _ fun index _ => ?_
    exact guarantees_bind moves_steady _ _ (event_moves_banks index _ _) answered

theorem event_sequence_moves_banks : Guarantees PcrBanks.Moves (eventSequenceComplete s request) := by
  have answered : ∀ data : Bytes, Guarantees PcrBanks.Moves (do
      let digests ← PcrBanks.hashAll data Config.implementedHashes
      return .of (← marshalDigestValues digests) : Action TpmRc PcrBanks Response) := fun data =>
    guarantees_lift_bind moves_steady.refl _ _ fun _ _ => guarantees_lift_bind moves_steady.refl _ _ fun _ _ =>
      guarantees_pure moves_steady.refl _
  unfold eventSequenceComplete
  refine guarantees_lift_bind moves_steady.refl _ _ fun pcrHandle _ =>
    guarantees_lift_bind moves_steady.refl _ _ fun sequenceHandle _ => ?_
  refine guarantees_lift_bind moves_steady.refl _ _ fun buffer _ => guarantees_lift_bind moves_steady.refl _ _ fun slot _ => ?_
  refine guarantees_lift_bind moves_steady.refl _ _ fun sequence _ => ?_
  refine guarantees_guard moves_steady.refl _ _ _ _ fun _ => ?_
  refine guarantees_ite _ _ _ _ (fun _ => ?_) fun _ => answered _
  exact guarantees_bind moves_steady _ _ (event_moves_banks _ _ _) fun _ => answered _

theorem pcr_reset_moves_banks : Guarantees PcrBanks.Moves (pcrReset request) := by
  refine guarantees_of_ensures _ _ fun pcr => ?_
  unfold pcrReset
  refine ensures_lift_bind _ _ _ _ _ (moves_steady.refl pcr) fun handle _ => ?_
  refine ensures_lift_bind _ _ _ _ _ (moves_steady.refl pcr) fun index _ => ?_
  refine ensures_get_bind _ _ _ _ fun t same => ?_
  subst same
  refine ensures_lift_bind _ _ _ _ _ (moves_steady.refl t) fun next made => ?_
  rintro _ rfl
  exact moves_reset _ next index _ made

end

end Swtrust
