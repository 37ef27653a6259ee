import Swtrust.Device.Frame
import Swtrust.Library.Total
import Swtrust.Pcr.Shape
import Swtrust.Startup.Ledger

set_option autoImplicit false
set_option linter.unusedSectionVars false

namespace Swtrust

open Library Library.Action

-- A recorded allocation: implemented banks, each with some of its registers.
structure Recorded [Profile] (allocation : PcrAllocation) : Prop where
  nonempty : allocation ≠ []
  banks : ∀ bank ∈ allocation, Config.implementedPcrBanks.contains bank.1 = true ∧
    bank.2.length = Config.implementationPcr ∧ bank.2.any id = true

theorem implemented_bank_width [Profile] (a : UInt16) (implemented : Config.implementedPcrBanks.contains a = true) :
    ∃ size, digestSize a = some size := by
  cases strict : isStrict with
  | true =>
      simp only [Config.implementedPcrBanks, strict, if_true, Config.hashesStrict, List.contains_eq_mem, List.mem_cons,
        List.not_mem_nil, or_false, decide_eq_true_eq] at implemented
      rcases implemented with rfl | rfl | rfl | rfl | rfl | rfl
      all_goals exact ⟨_, rfl⟩
  | false =>
      simp only [Config.implementedPcrBanks, strict, Bool.false_eq_true, if_false, Config.hashesLegacy,
        List.contains_eq_mem, List.mem_cons, List.not_mem_nil, or_false, decide_eq_true_eq] at implemented
      rcases implemented with rfl | rfl | rfl | rfl | rfl | rfl | rfl
      · exact ⟨20, by simp [digestSize, strict]⟩
      all_goals exact ⟨_, rfl⟩

namespace PcrBanks

section

variable [Profile]

theorem fits_allocate (pcr : PcrBanks) (a : UInt16) (bits : List Bool) (size : Nat) (sized : digestSize a = some size)
    (fits : pcr.Fits) : ({ pcr with
      banks := pcr.banks.insert a (List.replicate Config.implementationPcr (List.replicate size 0))
      allocated := pcr.allocated.insert a bits } : PcrBanks).Fits := by
  refine ⟨fun other => ?_, fun other found there => ?_⟩
  · have before := fits.allocated other
    unfold SortedMap.contains at before ⊢
    dsimp only
    rw [SortedMap.get_insert, SortedMap.get_insert]
    by_cases same : other = a
    · rw [if_pos same, if_pos same]
      rfl
    · rw [if_neg same, if_neg same, before]
  · change (pcr.banks.insert a _).get other = some found at there
    rw [SortedMap.get_insert] at there
    by_cases same : other = a
    · subst same
      rw [if_pos rfl] at there
      obtain rfl := Option.some.inj there
      refine ⟨size, sized, List.length_replicate, fun register member => ?_⟩
      rw [List.eq_of_mem_replicate member, List.length_replicate]
    · rw [if_neg same] at there
      exact fits.registers other found there

-- The banks are made in the order of the list, and held in the order of their algorithms.
theorem allocate_into_made (allocation : PcrAllocation) (banks : SortedMap UInt16 PcrBank)
    (allocated : SortedMap UInt16 (List Bool)) (updateCounter : UInt32)
    (recorded : ∀ bank ∈ allocation, Config.implementedPcrBanks.contains bank.1 = true ∧
      bank.2.length = Config.implementationPcr ∧ bank.2.any id = true)
    (fits : (⟨banks, allocated, updateCounter⟩ : PcrBanks).Fits) :
    ∃ made, allocateInto (banks, allocated) allocation =
        .ok (made, allocation.foldl (fun map bank => map.insert bank.1 bank.2) allocated) ∧
      (⟨made, allocation.foldl (fun map bank => map.insert bank.1 bank.2) allocated, updateCounter⟩ : PcrBanks).Fits := by
  induction allocation generalizing banks allocated with
  | nil => exact ⟨banks, rfl, fits⟩
  | cons bank rest ih =>
      obtain ⟨a, bits⟩ := bank
      obtain ⟨implemented, length, some⟩ := recorded (a, bits) List.mem_cons_self
      obtain ⟨size, sized⟩ := implemented_bank_width a implemented
      have whole : bits.take Config.implementationPcr ++ List.replicate (Config.implementationPcr - bits.length) false =
          bits := by
        change bits.length = Config.implementationPcr at length
        rw [← length]
        simp
      obtain ⟨made, ran, fitting⟩ := ih _ _ (fun bank member => recorded bank (List.mem_cons_of_mem _ member))
        (fits_allocate ⟨banks, allocated, updateCounter⟩ a bits size sized fits)
      refine ⟨made, ?_, fitting⟩
      unfold allocateInto
      rw [if_pos some, sized]
      dsimp only
      rw [whole]
      exact ran

theorem allocate_made (pcr : PcrBanks) (allocation : PcrAllocation) (recorded : Recorded allocation) :
    ∃ made, pcr.allocate allocation = .ok made ∧ made.allocated = SortedMap.ofList allocation ∧ made.Fits := by
  obtain ⟨banks, ran, fits⟩ := allocate_into_made allocation SortedMap.empty SortedMap.empty pcr.updateCounter
    recorded.banks ⟨fun _ => rfl, fun _ _ found => by cases found⟩
  have reset := moves_reset_all ⟨banks, SortedMap.ofList allocation, pcr.updateCounter⟩ none 0
  refine ⟨_, ?_, reset.allocated, reset.fits fits⟩
  unfold allocate
  rw [ran]
  rfl

end

end PcrBanks

theorem put_bank_recorded [Profile] (allocation : PcrAllocation) (a : UInt16) (bits : List Bool)
    (implemented : Config.implementedPcrBanks.contains a = true) (length : bits.length = Config.implementationPcr)
    (banks : ∀ bank ∈ allocation, Config.implementedPcrBanks.contains bank.1 = true ∧
      bank.2.length = Config.implementationPcr ∧ bank.2.any id = true) :
    ∀ bank ∈ putBank allocation a bits, Config.implementedPcrBanks.contains bank.1 = true ∧
      bank.2.length = Config.implementationPcr ∧ bank.2.any id = true := by
  intro bank member
  unfold putBank at member
  by_cases some : bits.any id = true
  · rw [if_pos some] at member
    rcases List.mem_append.mp member with old | new
    · exact banks bank (List.mem_of_mem_filter old)
    · obtain rfl := List.mem_singleton.mp new
      exact ⟨implemented, length, some⟩
  · rw [if_neg some] at member
    exact banks bank (List.mem_of_mem_filter member)

theorem allocate_banks_recorded [Profile] (requested : TpmlPcrSelection) (allocation next : PcrAllocation)
    (made : allocateBanks allocation requested = .ok next)
    (banks : ∀ bank ∈ allocation, Config.implementedPcrBanks.contains bank.1 = true ∧
      bank.2.length = Config.implementationPcr ∧ bank.2.any id = true) :
    ∀ bank ∈ next, Config.implementedPcrBanks.contains bank.1 = true ∧
      bank.2.length = Config.implementationPcr ∧ bank.2.any id = true := by
  induction requested generalizing allocation with
  | nil =>
      cases made
      exact banks
  | cons sel rest ih =>
      unfold allocateBanks at made
      obtain ⟨implemented, made⟩ := (guarded_then_is_ok _ _ _ _ _).mp made
      obtain ⟨_, made⟩ := (guarded_then_is_ok _ _ _ _ _).mp made
      refine ih _ made (put_bank_recorded allocation sel.hashAlg _ (by simpa using implemented) ?_ banks)
      simp [selectedBits]

section

variable [Primitives]

namespace TpmState

-- The registers are those of some allocation, and another is recorded that could be made.
structure Banked (s : TpmState) : Prop where
  recorded : Recorded s.pcrAllocation
  fits : s.pcr.Fits

-- The allocation of the registers is the one that is recorded.
def Linked (s : TpmState) : Prop := s.pcr.allocated = SortedMap.ofList s.pcrAllocation

def Allotted (s : TpmState) : Prop := s.Banked ∧ s.Linked

-- A started TPM may have recorded another allocation than its registers have.
def Operating (s : TpmState) : Prop := s.Banked ∧ s.started = true ∧ (s.pcrAllocationPending = true ∨ s.Linked)

theorem allotted_of_moves (s t : TpmState) (moves : PcrBanks.Moves s.pcr t.pcr)
    (recorded : t.pcrAllocation = s.pcrAllocation) (allotted : s.Allotted) : t.Allotted := by
  obtain ⟨banked, linked⟩ := allotted
  refine ⟨⟨recorded ▸ banked.recorded, moves.fits banked.fits⟩, ?_⟩
  unfold Linked at linked ⊢
  rw [moves.allocated, recorded, linked]

theorem operating_of_moves (s t : TpmState) (moves : PcrBanks.Moves s.pcr t.pcr)
    (recorded : t.pcrAllocation = s.pcrAllocation) (started : t.started = s.started)
    (pending : t.pcrAllocationPending = s.pcrAllocationPending) (operating : s.Operating) : t.Operating := by
  obtain ⟨banked, running, linked⟩ := operating
  refine ⟨⟨recorded ▸ banked.recorded, moves.fits banked.fits⟩, started.trans running, ?_⟩
  rw [pending]
  refine linked.imp_right fun linked => ?_
  unfold Linked at linked ⊢
  rw [moves.allocated, recorded, linked]

-- What the two invariants are about.
def registers (s : TpmState) : PcrBanks × PcrAllocation × Bool × Bool :=
  (s.pcr, s.pcrAllocation, s.pcrAllocationPending, s.started)

theorem operating_of_same (s t : TpmState) (same : t.registers = s.registers) (operating : s.Operating) :
    t.Operating := by
  simp only [registers, Prod.mk.injEq] at same
  obtain ⟨banks, recorded, pending, started⟩ := same
  refine operating_of_moves s t ?_ recorded started pending operating
  rw [banks]
  exact PcrBanks.moves_steady.refl _

theorem allotted_of_same (s t : TpmState) (same : t.registers = s.registers) (allotted : s.Allotted) : t.Allotted := by
  simp only [registers, Prod.mk.injEq] at same
  obtain ⟨banks, recorded, _, _⟩ := same
  refine allotted_of_moves s t ?_ recorded allotted
  rw [banks]
  exact PcrBanks.moves_steady.refl _

theorem registers_spared : SparedByCourse registers where
  execution := ⟨fun _ => ⟨fun _ _ => rfl, fun _ _ => rfl, fun _ _ => rfl, fun _ _ _ _ => rfl, fun _ _ _ => rfl⟩,
    fun _ _ => rfl, fun _ => rfl⟩
  guarded _ _ _ := rfl

-- An invariant of what the registers are about is broken by handlers only.
theorem registers_undisturbed (invariant : TpmState → Prop)
    (same : ∀ s t, t.registers = s.registers → invariant s → invariant t) :
    Undisturbed fun s t => invariant s → invariant t where
  steady := steady_of_invariant invariant
  nullified request s := by
    obtain ⟨shutdownType, startupClear, nullified⟩ := nullify_shutdown_changes request s
    rw [nullified]
    exact same s { s with shutdownType, startupClear } rfl
  authorized request names count index :=
    guarantees_authorize_from _ (fun s lockout nv => same s { s with lockout, nv } rfl) request names count index
  suppressed s suppressed := same s { s with commandAuditSuppressed := suppressed } rfl
  failed s := same s s.enterFailureMode rfl
  responded request reply names contexts parameters :=
    guarantees_respond_of_view registers _ (fun s t view => same s t view) request
      (registers_spared.execution.response _) reply names contexts parameters

theorem handlers_spare_registers :
    (handlers.all fun row => (row.2.scope != .pcr && row.2.scope != .allocation && row.2.scope != .whole) ||
      ([Cc.eventSequenceComplete, Cc.pcrExtend, Cc.pcrEvent, Cc.pcrReset, Cc.pcrAllocate, Cc.startup, Cc.shutdown,
        Cc.clear] : List UInt32).contains row.1) = true := by
  rfl

theorem keeps_registers_elsewhere {α : Type} (scope : Scope) (action : Action TpmRc scope.State α)
    (spares : (scope != .pcr && scope != .allocation && scope != .whole) = true) : Keeps registers (scope.zoom action) := by
  cases scope with
  | pcr | allocation | whole => cases spares
  | _ => exact keeps_zoom _ _ _ action fun _ _ => rfl

theorem pcr_allocate_records (s : TpmState) (request : Request) : Guarantees (fun before after : AllocationScope =>
    Recorded before.allocation → Recorded after.allocation ∧ (after.pending = true ∨ after = before))
    (pcrAllocate s request) := by
  refine guarantees_of_ensures _ _ fun before => ?_
  have still : Recorded before.allocation → Recorded before.allocation ∧ (before.pending = true ∨ before = before) :=
    fun recorded => ⟨recorded, .inr rfl⟩
  unfold pcrAllocate
  refine ensures_lift_bind _ _ _ _ _ still fun requested _ => ?_
  refine ensures_get_bind _ _ _ _ fun t same => ?_
  subst same
  refine ensures_lift_bind _ _ _ _ _ still fun allocation made => ?_
  refine ensures_lift_bind _ _ _ _ _ still fun _ checked => ?_
  rintro _ rfl recorded
  have nonempty : allocation ≠ [] := by
    rintro rfl
    cases checked
  exact ⟨⟨nonempty, allocate_banks_recorded requested _ allocation made recorded.banks⟩, .inl rfl⟩

-- The handlers that may change the registers of a started TPM.
theorem operating_kept (request : Request) (apart : request.code ≠ Cc.startup) :
    Guarantees (fun s t => s.Operating → t.Operating) (runCommand request) := by
  have steady := steady_of_invariant TpmState.Operating
  have banks : ∀ run : TpmState → Request → Action TpmRc PcrBanks Response,
      (∀ s, Guarantees PcrBanks.Moves (run s request)) →
      Guarantees (fun s t => s.Operating → t.Operating) ((Handler.plain .pcr run).run request) := by
    intro run moves
    refine guarantees_get_bind _ _ fun s => ?_
    have moved : Guarantees (fun s t => s.Operating → t.Operating) (Scope.pcr.zoom (run s request)) :=
      guarantees_zoom _ _ _ _ fun t => operating_of_moves t _ (moves s t.pcr) rfl rfl rfl
    exact guarantees_map _ _ _ moved s
  refine guarantees_run_listed _ steady.refl (fun scope => scope != .pcr && scope != .allocation && scope != .whole) _
    handlers_spare_registers (fun scope action spares s => ?_) request fun listed => ?_
  · exact operating_of_same s _ (keeps_registers_elsewhere scope action spares s)
  · simp only [List.mem_cons, List.not_mem_nil, or_false] at listed
    rcases listed with code | code | code | code | code | code | code | code
    · rw [run_command_of request (.plain .pcr eventSequenceComplete) (by rw [code]; rfl)]
      exact banks _ fun s => event_sequence_moves_banks s request
    · rw [run_command_of request (.plain .pcr fun _ request => pcrExtend request) (by rw [code]; rfl)]
      exact banks (fun _ request => pcrExtend request) fun _ => pcr_extend_moves_banks request
    · rw [run_command_of request (.plain .pcr fun _ request => pcrEvent request) (by rw [code]; rfl)]
      exact banks (fun _ request => pcrEvent request) fun _ => pcr_event_moves_banks request
    · rw [run_command_of request (.plain .pcr fun _ request => pcrReset request) (by rw [code]; rfl)]
      exact banks (fun _ request => pcrReset request) fun _ => pcr_reset_moves_banks request
    · rw [run_command_of request (.plain .allocation pcrAllocate) (by rw [code]; rfl)]
      refine guarantees_get_bind _ _ fun s => ?_
      suffices moved : Guarantees (fun s t => s.Operating → t.Operating) (Scope.allocation.zoom (pcrAllocate s request)) from
        guarantees_map _ _ _ moved s
      refine guarantees_zoom _ _ _ _ fun t operating => ?_
      obtain ⟨banked, running, linked⟩ := operating
      obtain ⟨recorded, pending⟩ := pcr_allocate_records s request ⟨t.pcrAllocation, t.pcrAllocationPending⟩ banked.recorded
      refine ⟨⟨recorded, banked.fits⟩, running, ?_⟩
      rcases pending with pending | same
      · exact .inl pending
      · refine linked.imp (fun before => ?_) fun before => ?_
        · exact (congrArg AllocationScope.pending same).trans before
        · exact before.trans (congrArg (fun scope => SortedMap.ofList scope.allocation) same).symm
    · exact absurd code apart
    · rw [run_command_of request (.plain .whole fun _ => shutdown) (by rw [code]; rfl)]
      refine guarantees_map _ _ _ (guarantees_shutdown _ steady (fun s _ _ _ => operating_of_same s _ rfl) request)
    · rw [run_command_of request (.plain .whole fun _ => clear) (by rw [code]; rfl)]
      have bumped : ∀ s : TpmState, PcrBanks.Moves s.pcr s.pcr.bumpUpdateCounter := fun s => s.pcr.moves_counter _
      have cleared : Guarantees (fun s t : TpmState => s.Operating → t.Operating) (do
          onClear
          modify fun s => { s with lockoutAuth := [], lockoutPolicy := TpmtHa.null }
          return .notReading request [] : TpmM Response) := by
        refine guarantees_bind steady _ _ ?_ fun _ => guarantees_bind steady _ _ ?_ fun _ => guarantees_pure steady.refl _
        · refine guarantees_bind steady _ _ ?_ fun _ => ?_
          · exact guarantees_zoom _ _ _ _ fun s => operating_of_same s _ rfl
          · exact guarantees_modify _ _ fun s => operating_of_moves s _ (bumped s) rfl rfl rfl
        · exact guarantees_modify _ _ fun s => operating_of_same s _ rfl
      refine guarantees_map _ _ _ (guarantees_get_bind _ _ fun s => ?_)
      exact guarantees_ite _ _ _ _ (fun _ t => steady.refl t) (fun _ => cleared) s

theorem allotted_modify (f : TpmState → TpmState) (moves : ∀ s, PcrBanks.Moves s.pcr (f s).pcr)
    (recorded : ∀ s, (f s).pcrAllocation = s.pcrAllocation) (rest : PUnit → TpmM Unit)
    (kept : ∀ u, Guarantees (fun s t => s.Allotted → t.Allotted) (rest u)) :
    Guarantees (fun s t => s.Allotted → t.Allotted) (modify f >>= rest) :=
  guarantees_bind (steady_of_invariant Allotted) _ _
    (guarantees_modify _ _ fun s => allotted_of_moves s _ (moves s) (recorded s)) kept

theorem allotted_modify_still (f : TpmState → TpmState)
    (still : ∀ s, ((f s).pcr, (f s).pcrAllocation) = (s.pcr, s.pcrAllocation)) (rest : PUnit → TpmM Unit)
    (kept : ∀ u, Guarantees (fun s t => s.Allotted → t.Allotted) (rest u)) :
    Guarantees (fun s t => s.Allotted → t.Allotted) (modify f >>= rest) := by
  refine allotted_modify f (fun s => ?_) (fun s => congrArg Prod.snd (still s)) rest kept
  rw [show (f s).pcr = s.pcr from congrArg Prod.fst (still s)]
  exact PcrBanks.moves_steady.refl _

theorem allotted_begin (orderly keepReadOnly : Bool) (act : Act → Act) :
    Guarantees (fun s t => s.Allotted → t.Allotted) (modify fun s => beginOperation orderly keepReadOnly
      { s with act := act s.act, lockout := s.lockout.onStartup } : TpmM Unit) :=
  guarantees_modify _ _ fun s => allotted_of_moves s _ (PcrBanks.moves_steady.refl _) rfl

theorem startup_clear_allotted (locality : UInt8) :
    Guarantees (fun s t => s.Allotted → t.Allotted) (onStartupClear locality) := by
  have steady := steady_of_invariant Allotted
  have still : ∀ s : TpmState, PcrBanks.Moves s.pcr s.pcr := fun s => PcrBanks.moves_steady.refl s.pcr
  have timed : ∀ counts : Bool, ∀ rest : TpmM Unit, Guarantees (fun s t => s.Allotted → t.Allotted) rest →
      Guarantees (fun s t => s.Allotted → t.Allotted) (do
      modify fun s => { s with clock := { s.clock with time := 0, nvElapsed := 0 } }
      if counts then
        modify fun s => { s with
          clock := { s.clock with safe := false }
          lockout := s.lockout.countPendingFailure }
      rest : TpmM Unit) := by
    intro counts rest kept
    refine allotted_modify_still _ (by intro t; rfl) _ fun _ => ?_
    refine guarantees_ite _ _ _ _ (fun _ => ?_) fun _ => kept
    exact allotted_modify_still _ (by intro t; rfl) _ fun _ => kept
  refine guarantees_get_bind _ _ fun s => ?_
  refine guarantees_bind steady _ _ (guarantees_zoom _ _ _ _ fun t => allotted_of_moves t _ (still t) rfl) (fun _ => ?_) s
  refine allotted_modify _ (by intro t; exact t.pcr.moves_reset_all _ locality) (by intro t; rfl) _ fun _ => ?_
  by_cases restart : (s.shutdownType == Su.state) = true
  · simp only [restart, Bool.not_true, Bool.false_eq_true, if_false, if_true]
    iterate 5
      refine allotted_modify_still _ (by intro t; rfl) _ fun _ => ?_
    exact timed _ _ (allotted_begin _ _ _)
  · simp only [restart, Bool.not_false, Bool.false_eq_true, if_false, if_true]
    refine allotted_modify _ (by intro t; exact t.pcr.moves_counter 0) (by intro t; rfl) _ fun _ => ?_
    iterate 4
      refine allotted_modify_still _ (by intro t; rfl) _ fun _ => ?_
    refine guarantees_bind steady _ _ (guarantees_zoom _ _ _ _ fun t => allotted_of_moves t _ (still t) rfl) fun _ => ?_
    iterate 2
      refine allotted_modify_still _ (by intro t; rfl) _ fun _ => ?_
    refine timed _ _ ?_
    refine allotted_modify_still _ (by intro t; rfl) _ fun _ => ?_
    exact guarantees_bind steady _ _ (guarantees_zoom _ _ _ _ fun t => allotted_of_moves t _ (still t) rfl) fun _ =>
      allotted_begin _ _ _

theorem startup_state_allotted (locality : UInt8) :
    Guarantees (fun s t => s.Allotted → t.Allotted) (onStartupState locality) := by
  refine guarantees_of_ensures _ _ fun s => ?_
  have steady := steady_of_invariant Allotted
  have kept : ∀ t : TpmState, t = s → s.Allotted → t.Allotted := fun t found => found ▸ id
  unfold onStartupState
  refine ensures_get_bind _ _ _ _ fun t same => ?_
  subst same
  refine ensures_guard _ _ _ _ _ _ _ kept fun _ => ?_
  refine ensures_guard _ _ _ _ _ _ _ kept fun _ => ?_
  refine ensures_guard _ _ _ _ _ _ _ kept fun _ => ?_
  refine ensures_bind _ _ _ (fun _ u => t.Allotted → u.Allotted) _ _ ?_ fun _ => ?_
  · rintro _ rfl
    exact allotted_of_moves _ _ (PcrBanks.moves_on_resume _) rfl
  · refine ensures_of_guarantees steady t _ (guarantees_ite _ _ _ _ (fun _ => ?_)
      fun _ => allotted_begin true true Act.onResume)
    refine guarantees_bind steady _ _ (guarantees_zoom _ _ _ _ fun u => ?_) fun _ => allotted_begin true true Act.onResume
    exact allotted_of_moves u _ (PcrBanks.moves_steady.refl _) rfl

theorem startup_allotted (request : Request) : Guarantees (fun s t => s.Allotted → t.Allotted) (startup request) := by
  have steady := steady_of_invariant Allotted
  have answered : ∀ action : TpmM Unit, Guarantees (fun s t => s.Allotted → t.Allotted) action →
      Guarantees (fun s t => s.Allotted → t.Allotted) (do
        action
        return .empty : TpmM Response) := fun action kept =>
    guarantees_bind steady _ _ kept fun _ => guarantees_pure steady.refl _
  refine guarantees_lift_bind steady.refl _ _ fun startupType _ => ?_
  refine guarantees_guard steady.refl _ _ _ _ fun _ => ?_
  refine guarantees_ite _ _ _ _ (fun _ => answered _ (startup_clear_allotted _)) fun _ => ?_
  refine guarantees_ite _ _ _ _ (fun _ => ?_) fun _ => guarantees_bind steady _ _ (guarantees_throw steady.refl _) fun _ =>
    guarantees_pure steady.refl _
  refine guarantees_get_bind _ _ fun s => ?_
  exact guarantees_guard steady.refl _ _ _ _ (fun _ => answered _ (startup_state_allotted _)) s

-- A command of a started TPM is none that starts it.
theorem run_operating (s : TpmState) (locality : UInt8) (octets : Bytes) (operating : s.Operating) :
    (run locality octets s).2.Operating := by
  refine run_guarantees_prepared _ (registers_undisturbed Operating operating_of_same) s locality octets
    (fun request names parameters prepared => ?_) operating
  obtain ⟨available, parsed, started, _⟩ := (s.prepare_is_ok locality octets request names).mp prepared
  refine operating_kept { request with parameters } fun code => ?_
  have idle := (s.taken_starts locality octets request
    ((s.taken_is_ok locality octets request).mpr ⟨available, parsed, started⟩)).mp code
  rw [operating.2.1] at idle
  cases idle

theorem run_allotted_idle (s : TpmState) (locality : UInt8) (octets : Bytes) (idle : s.started = false)
    (allotted : s.Allotted) : (run locality octets s).2.Allotted := by
  refine run_guarantees_prepared _ (registers_undisturbed Allotted allotted_of_same) s locality octets
    (fun request names parameters prepared => ?_) allotted
  obtain ⟨available, parsed, started, _⟩ := (s.prepare_is_ok locality octets request names).mp prepared
  have code : request.code = Cc.startup := (s.taken_starts locality octets request
    ((s.taken_is_ok locality octets request).mpr ⟨available, parsed, started⟩)).mpr idle
  have named : handlerOf ({ request with parameters } : Request).code = some (.plain .whole fun _ => startup) := by
    rw [show ({ request with parameters } : Request).code = Cc.startup from code]
    rfl
  rw [run_command_of { request with parameters } _ named]
  exact guarantees_map _ _ _ (startup_allotted { request with parameters })

-- What a device with its power on is in.
def Powered (s : TpmState) : Prop := s.Allotted ∨ s.Operating

theorem run_powered (s : TpmState) (locality : UInt8) (octets : Bytes) (powered : s.Powered) :
    (run locality octets s).2.Powered := by
  rcases powered with allotted | operating
  · cases started : s.started with
    | true => exact .inr (s.run_operating locality octets ⟨allotted.1, started, .inr allotted.2⟩)
    | false => exact .inl (s.run_allotted_idle locality octets started allotted)
  · exact .inr (s.run_operating locality octets operating)

theorem powered_of_same (s t : TpmState) (same : t.registers = s.registers) (powered : s.Powered) : t.Powered :=
  powered.imp (allotted_of_same s t same) (operating_of_same s t same)

theorem banked_of_powered (s : TpmState) (powered : s.Powered) : s.Banked :=
  powered.elim (·.1) (·.1)

-- Banks of the recorded allocation are left as they are, and all others are made again.
theorem on_init_allotted (s : TpmState) (banked : s.Banked) : (final (onInit s)).Allotted := by
  unfold onInit
  rw [run_get_bind]
  by_cases differs : s.pcr.allocation ≠ s.pcrAllocation
  · obtain ⟨made, ran, allocated, fits⟩ := s.pcr.allocate_made s.pcrAllocation banked.recorded
    rw [if_pos differs, run_lift_bind, ran]
    exact ⟨⟨banked.recorded, fits⟩, allocated⟩
  · rw [if_neg differs]
    have same : s.pcr.allocated.entries = s.pcrAllocation := not_not.mp differs
    refine ⟨⟨banked.recorded, banked.fits⟩, ?_⟩
    change s.pcr.allocated = SortedMap.ofList s.pcrAllocation
    rw [← same, SortedMap.of_list_entries]

theorem power_on_allotted (s : TpmState) (banked : s.Banked) : s.powerOn.Allotted := by
  have tested : Keeps registers (zoomTest runSelfTests) := keeps_zoom _ _ _ _ fun _ _ => rfl
  have initialized : ∀ t : TpmState, t.Banked → ∀ u : TpmState, u.pcr = (final (onInit t)).pcr →
      u.pcrAllocation = (final (onInit t)).pcrAllocation → (final (zoomTest runSelfTests u)).Allotted := by
    intro t banked u same recorded
    refine allotted_of_same u _ (tested u) (allotted_of_moves _ u ?_ recorded (on_init_allotted t banked))
    rw [same]
    exact PcrBanks.moves_steady.refl _
  unfold powerOn
  split
  · exact initialized { s with failureMode := true, testFailure := some "nv write", started := false }
      ⟨banked.recorded, banked.fits⟩ _ rfl rfl
  · exact initialized { s with started := false } ⟨banked.recorded, banked.fits⟩ _ rfl rfl

-- What `load` puts into a register of a bank it has made.
def loadedRegister (values : PcrBank) (index : Nat) (register : Bytes) : Bytes :=
  match values[index]? with
  | some value => if value.length = register.length then value else register
  | none => register

theorem restored_pcr_banks (fresh saved : TpmState) (made : PcrBanks) (allocation : PcrAllocation)
    (ran : PcrBanks.new allocation = .ok made) : restoredPcr fresh saved allocation = { made with
      banks := made.banks.mapValues fun a bank => bank.mapIdx (loadedRegister ((saved.pcr.banks.get a).getD []))
      updateCounter := saved.pcr.updateCounter } := by
  unfold restoredPcr
  rw [ran]
  rfl

theorem recorded_restored (fresh saved : TpmState) (banked : saved.Banked) :
    (restored fresh saved).pcrAllocation = saved.pcrAllocation ∧
      (restored fresh saved).pcr = restoredPcr fresh saved saved.pcrAllocation := by
  have all : (saved.pcrAllocation.filter fun bank => Config.implementedPcrBanks.contains bank.1) = saved.pcrAllocation :=
    List.filter_eq_self.mpr fun bank member => (banked.recorded.banks bank member).1
  have some : ¬ saved.pcrAllocation.isEmpty = true := by
    rw [List.isEmpty_iff]
    exact banked.recorded.nonempty
  unfold restored
  dsimp only
  rw [all, if_neg some]
  exact ⟨rfl, rfl⟩

-- What is read from the file has the banks that were recorded, and the registers of the banks they were saved from.
theorem restored_allotted (fresh saved : TpmState) (banked : saved.Banked) : (restored fresh saved).Allotted ∧
    (saved.Linked → ∀ a index, (restored fresh saved).pcr.register a index = saved.pcr.register a index) := by
  obtain ⟨recorded, read⟩ := recorded_restored fresh saved banked
  obtain ⟨made, ran, allocated, fits⟩ := PcrBanks.empty.allocate_made saved.pcrAllocation banked.recorded
  have same := restored_pcr_banks fresh saved made saved.pcrAllocation ran
  have moves := made.moves_map saved.pcr.updateCounter
    (fun a => loadedRegister ((saved.pcr.banks.get a).getD [])) fun a size index register _ width => by
      unfold loadedRegister
      split
      · split
        next exact => exact exact.trans width
        next => exact width
      · exact width
  refine ⟨⟨⟨?_, ?_⟩, ?_⟩, fun linked a index => ?_⟩
  · rw [recorded]
    exact banked.recorded
  · rw [read, same]
    exact moves.fits fits
  · unfold Linked
    rw [recorded, read, same]
    exact allocated
  · rw [read, same]
    unfold PcrBanks.register
    dsimp only
    rw [SortedMap.get_map_values]
    have alike : made.allocated = saved.pcr.allocated := allocated.trans linked.symm
    cases held : saved.pcr.banks.get a with
    | none =>
        rw [saved.pcr.absent_alike made banked.fits fits alike a held]
        rfl
    | some bank =>
        obtain ⟨blank, found, length, widths⟩ := saved.pcr.fits_alike made banked.fits fits alike a bank held
        rw [found]
        simp only [Option.map_some, Option.bind_some, Option.getD_some, List.getElem?_mapIdx]
        by_cases inside : index < bank.length
        · have there : index < blank.length := by omega
          rw [List.getElem?_eq_getElem inside, List.getElem?_eq_getElem there, Option.map_some]
          unfold loadedRegister
          rw [List.getElem?_eq_getElem inside]
          dsimp only
          rw [if_pos (widths _ (List.getElem_mem inside) _ (List.getElem_mem there))]
        · have beyond : ¬ index < blank.length := by omega
          rw [List.getElem?_eq_none (by omega), List.getElem?_eq_none (by omega)]
          rfl

theorem advance_time_registers (s : TpmState) (millis : UInt64) : (s.advanceTime millis).2.registers = s.registers := by
  obtain ⟨_, _, _, same⟩ := s.advance_time_changes millis
  rw [same]
  rfl

theorem extend_drtm_moves (digests : List (UInt16 × Bytes)) (pcr : PcrBanks) :
    PcrBanks.Moves pcr (digests.foldl extendDrtm pcr) := by
  induction digests generalizing pcr with
  | nil => exact PcrBanks.moves_steady.refl pcr
  | cons digest rest ih =>
      exact PcrBanks.moves_steady.trans _ _ _ (PcrBanks.extend_moves_banks _ _ _ pcr) (ih _)

theorem measure_hcrtm_moves (s : TpmState) (digest : UInt16 × Bytes) : PcrBanks.Moves s.pcr (measureHcrtm s digest).pcr := by
  unfold measureHcrtm
  split
  · exact PcrBanks.moves_steady.refl _
  · exact PcrBanks.moves_steady.refl _
  · split
    next => exact PcrBanks.moves_steady.refl _
    next pcr made =>
      exact PcrBanks.moves_steady.trans _ _ _ (s.pcr.moves_set_register pcr _ _ _ made)
        (PcrBanks.extend_moves_banks _ _ _ pcr)

theorem hash_end_moves (s : TpmState) : PcrBanks.Moves s.pcr s.hashEnd.pcr := by
  have steady := PcrBanks.moves_steady
  have folded : ∀ (digests : List (UInt16 × Bytes)) (s : TpmState),
      PcrBanks.Moves s.pcr (digests.foldl measureHcrtm s).pcr := by
    intro digests
    induction digests with
    | nil => exact fun s => steady.refl s.pcr
    | cons digest rest ih =>
        exact fun s => steady.trans _ _ _ (measure_hcrtm_moves s digest) (ih (measureHcrtm s digest))
  unfold hashEnd
  cases s.hcrtmSequence with
  | none => exact steady.refl s.pcr
  | some sequence =>
      dsimp only
      split
      · refine steady.trans _ _ _ s.pcr.moves_drtm_reset ?_
        exact steady.trans _ _ _ (extend_drtm_moves _ _) (PcrBanks.moves_counter _ _)
      · exact steady.trans _ _ _ (folded _ { s with hcrtmSequence := none }) (PcrBanks.moves_counter _ _)

theorem hash_end_powered (s : TpmState) (powered : s.Powered) : s.hashEnd.Powered := by
  have moves := s.hash_end_moves
  obtain ⟨pcr, clock, hcrtmSequence, hcrtmBeforeStartup, same⟩ := s.hash_end_changes
  rw [same] at moves ⊢
  exact powered.imp (allotted_of_moves s _ moves rfl) (operating_of_moves s _ moves rfl rfl rfl)

theorem manufactured_allotted (seed : Bytes) (s : TpmState) (made : manufacture seed = .ok s) : s.Allotted := by
  simp only [manufacture, bind_is_ok, pure_is_ok] at made
  obtain ⟨_, _, _, _, pcr, ran, rfl⟩ := made
  have recorded : Recorded (PcrBanks.wholeBanks Config.defaultPcrBanks) := by
    refine ⟨by decide, fun bank member => ?_⟩
    have implemented : Config.implementedPcrBanks.contains Alg.sha256 = true ∧
        Config.implementedPcrBanks.contains Alg.sha384 = true := by
      unfold Config.implementedPcrBanks
      split
      · decide
      · decide
    simp only [PcrBanks.wholeBanks, Config.defaultPcrBanks, List.map_cons, List.map_nil, List.mem_cons, List.not_mem_nil,
      or_false] at member
    rcases member with rfl | rfl
    · exact ⟨implemented.1, rfl, rfl⟩
    · exact ⟨implemented.2, rfl, rfl⟩
  obtain ⟨banks, same, allocated, fits⟩ := PcrBanks.empty.allocate_made _ recorded
  obtain rfl := Except.ok.inj (same.symm.trans ran)
  exact ⟨⟨recorded, fits⟩, allocated⟩

end TpmState

namespace Tpm

-- A device with its power off waits for _TPM_Init, which sees to the banks.
structure Banked (t : Tpm) : Prop where
  state : t.state.Banked
  store : t.store.Banked
  powered : t.powered = true → t.state.Powered

theorem execute_banked (t : Tpm) (elapsed : UInt64) (written : Bool) (locality : UInt8) (command : Bytes)
    (banked : t.Banked) : (t.execute elapsed written locality command).2.Banked := by
  cases powered : t.powered with
  | false =>
      have same := t.execute_unpowered elapsed written locality command powered
      rw [same]
      exact banked
  | true =>
      have arrived : (t.arrive elapsed).2.Powered :=
        TpmState.powered_of_same t.state _ (TpmState.advance_time_registers _ elapsed) (banked.powered powered)
      have ran : (t.ran elapsed locality command).2.Powered := TpmState.run_powered _ locality command arrived
      have held := TpmState.banked_of_powered _ ran
      have closed : (t.ran elapsed locality command).2.closeNv.Powered :=
        TpmState.powered_of_same (t.ran elapsed locality command).2 _ (by rfl) ran
      have ended := t.execute_executes elapsed written locality command powered
      generalize t.execute elapsed written locality command = result at ended ⊢
      cases ended with
      | saved healthy writes => exact ⟨held, held, fun _ => ran⟩
      | closed refused writes => exact ⟨TpmState.banked_of_powered _ closed, banked.store, fun _ => closed⟩
      | clockLost refused plain same rolled => exact ⟨TpmState.banked_of_powered _ closed, banked.store, fun _ => closed⟩
      | unsaved plain same still => exact ⟨held, banked.store, fun _ => ran⟩

theorem signal_banked (t : Tpm) (signal : Signal) (banked : t.Banked) : (t.after signal).Banked := by
  have persisted : ∀ (t : Tpm) written, t.Banked → (t.persist written).2.Banked := by
    intro t written banked
    exact holds_after_persist Banked t written banked ⟨banked.state, banked.state, banked.powered⟩
  -- Most signals leave the registers, and with them all that is claimed of the powered device.
  have same : ∀ s, s.registers = t.state.registers → ({ t with state := s } : Tpm).Banked := by
    intro s same
    refine ⟨⟨?_, ?_⟩, banked.store, fun on => TpmState.powered_of_same _ _ same (banked.powered on)⟩
    · rw [show s.pcrAllocation = t.state.pcrAllocation from congrArg (·.2.1) same]
      exact banked.state.recorded
    · rw [show s.pcr = t.state.pcr from congrArg (·.1) same]
      exact banked.state.fits
  cases signal with
  | execute elapsed written locality command => exact t.execute_banked elapsed written locality command banked
  | powerOn fresh =>
      have on : ∀ s : TpmState, s.Banked → ({ t with state := s.powerOn, powered := true } : Tpm).Banked := fun s held =>
        have allotted := s.power_on_allotted held
        ⟨allotted.1, banked.store, fun _ => .inl allotted⟩
      change (t.powerOn fresh).Banked
      unfold powerOn
      dsimp only
      split
      · have read := (TpmState.restored_allotted fresh t.store banked.store).1.1
        exact on _ ⟨read.recorded, read.fits⟩
      · exact on t.state banked.state
  | powerOff written =>
      have held := persisted t written banked
      refine ⟨⟨held.state.recorded, held.state.fits⟩, held.store, fun on => ?_⟩
      cases on
  | nv available => exact same _ rfl
  | physicalPresence asserted => exact same _ rfl
  | hashStart => exact same _ rfl
  | hashData data => exact same _ rfl
  | hashEnd =>
      have moves := t.state.hash_end_moves
      obtain ⟨_, _, _, _, changed⟩ := t.state.hash_end_changes
      have ended : t.state.hashEnd.Banked := by
        rw [changed] at moves ⊢
        exact ⟨banked.state.recorded, moves.fits banked.state.fits⟩
      exact ⟨ended, banked.store, fun on => t.state.hash_end_powered (banked.powered on)⟩
  | actGetSignaled act elapsed written =>
      have advanced := fun millis => same _ (t.state.advance_time_registers millis)
      exact holds_after_poll Banked t act elapsed written advanced fun u => persisted u written
  | restart fresh =>
      have read := (TpmState.restored_allotted fresh t.store banked.store).1
      refine ⟨⟨read.1.recorded, read.1.fits⟩, banked.store, fun _ => .inl (TpmState.allotted_of_same _ _ ?_ read)⟩
      rfl

theorem run_banked (seed : Bytes) (s : TpmState) (made : TpmState.manufacture seed = .ok s) (signals : List Signal) :
    ((manufactured s).afterAll signals).Banked := by
  have allotted := TpmState.manufactured_allotted seed s made
  exact invariant_of_every after (fun _ _ => True) Banked (fun t signal _ => signal_banked t signal) _ signals
    (every_of_all _ _ _ _ fun _ _ _ => trivial) ⟨allotted.1, allotted.1, fun _ => .inl allotted⟩

end Tpm

end

end Swtrust
