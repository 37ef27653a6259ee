import Swtrust.Pcr.Remembered
import Swtrust.Pin.Durable

set_option autoImplicit false
set_option linter.unusedSectionVars false

namespace Swtrust

open Library Library.Action

section

variable [Primitives]

namespace PcrBanks

-- The registers that a TPM Resume keeps hold in every bank what they held.
structure KeepsSaved (before after : PcrBanks) : Prop where
  allocated : after.allocated = before.allocated
  registers : ∀ a index, Pcr.isSaved index = true → after.register a index = before.register a index

theorem keeps_saved_trans (first second third : PcrBanks) (one : KeepsSaved first second) (two : KeepsSaved second third) :
    KeepsSaved first third where
  allocated := two.allocated.trans one.allocated
  registers a index saved := (two.registers a index saved).trans (one.registers a index saved)

theorem on_resume_keeps (pcr : PcrBanks) : KeepsSaved pcr pcr.onResume := by
  rw [on_resume_banks]
  refine ⟨rfl, fun a index saved => ?_⟩
  unfold register
  dsimp only
  rw [SortedMap.get_map_values]
  cases pcr.banks.get a with
  | none => rfl
  | some bank =>
      simp only [Option.map_some, Option.bind_some, List.getElem?_mapIdx]
      cases bank[index]? with
      | none => rfl
      | some value =>
          unfold resumed
          rw [Option.map_some]
          cases digestSize a with
          | none => rfl
          | some size =>
              dsimp only
              rw [if_pos saved]

end PcrBanks

namespace TpmState

-- The recorded allocation names its banks in the order of their algorithms, in which the banks report theirs.
def InOrder (s : TpmState) : Prop := Ascending s.pcrAllocation

instance (s : TpmState) : Decidable s.InOrder :=
  inferInstanceAs (Decidable (s.pcrAllocation.Pairwise fun a b => rank a.1 < rank b.1))

theorem allocation_in_order (s : TpmState) (linked : s.Linked) (ordered : s.InOrder) : s.pcr.allocation = s.pcrAllocation := by
  have listed := SortedMap.of_list_entries (⟨s.pcrAllocation, ordered⟩ : SortedMap UInt16 (List Bool))
  change s.pcr.allocated.entries = s.pcrAllocation
  rw [linked, show SortedMap.ofList s.pcrAllocation = ⟨s.pcrAllocation, ordered⟩ from listed]

theorem power_on_keeps (s : TpmState) (linked : s.Linked) (ordered : s.InOrder) :
    s.powerOn.pcr = s.pcr ∧ s.powerOn.pcrAllocation = s.pcrAllocation := by
  have tested : Keeps registers (zoomTest runSelfTests) := keeps_zoom _ _ _ _ fun _ _ => rfl
  have initialized : ∀ t : TpmState, t.pcr = s.pcr → t.pcrAllocation = s.pcrAllocation →
      (final (onInit t)).pcr = s.pcr ∧ (final (onInit t)).pcrAllocation = s.pcrAllocation := by
    intro t banks recorded
    have same : ¬ t.pcr.allocation ≠ t.pcrAllocation := by
      rw [banks, recorded, not_not]
      exact s.allocation_in_order linked ordered
    unfold onInit
    rw [run_get_bind, if_neg same]
    exact ⟨banks, recorded⟩
  have ended : ∀ t u : TpmState, t.pcr = s.pcr → t.pcrAllocation = s.pcrAllocation → u.pcr = (final (onInit t)).pcr →
      u.pcrAllocation = (final (onInit t)).pcrAllocation → (final (zoomTest runSelfTests u)).pcr = s.pcr ∧
        (final (zoomTest runSelfTests u)).pcrAllocation = s.pcrAllocation := by
    intro t u banks recorded same kept
    have view := tested u
    simp only [registers, Prod.mk.injEq] at view
    obtain ⟨first, second⟩ := initialized t banks recorded
    exact ⟨view.1.trans (same.trans first), view.2.1.trans (kept.trans second)⟩
  unfold powerOn
  split
  · exact ended { s with failureMode := true, testFailure := some "nv write", started := false } _ rfl rfl rfl rfl
  · exact ended { s with started := false } _ rfl rfl rfl rfl

theorem startup_state_registers (locality : UInt8) (s s' : TpmState) (u : Unit)
    (ran : Succeeds (onStartupState locality) s u s') : s'.pcr = s.pcr.onResume := by
  rw [Succeeds, onStartupState, run_get_bind] at ran
  change Succeeds _ s u s' at ran
  rw [succeeds_guard, succeeds_guard, succeeds_guard] at ran
  obtain ⟨_, _, _, ran⟩ := ran
  rw [succeeds_bind] at ran
  obtain ⟨_, _, begun, ran⟩ := ran
  rw [succeeds_set] at begun
  subst begun
  split at ran
  next unready =>
    rw [succeeds_bind] at ran
    obtain ⟨_, _, drawn, ran⟩ := ran
    rw [zoomCommits, succeeds_zoom] at drawn
    obtain ⟨ended, drawn, rfl⟩ := drawn
    rw [succeeds_modify] at ran
    subst ran
    rfl
  next ready =>
    rw [succeeds_modify] at ran
    subst ran
    rfl

theorem startup_registers (request : Request) (s s' : TpmState) (response : Response)
    (given : request.params (Reader.withParameter 1 u16) = .ok Su.state) (ran : Succeeds (startup request) s response s') :
    s'.pcr = s.pcr.onResume := by
  unfold startup at ran
  rw [succeeds_bind] at ran
  obtain ⟨startupType, _, asked, ran⟩ := ran
  obtain ⟨read, rfl⟩ := (succeeds_lift _ _ _ _).mp asked
  obtain rfl := Except.ok.inj (given.symm.trans read)
  obtain ⟨_, ran⟩ := (succeeds_guard _ _ _ _ _ _ _).mp ran
  rw [if_neg (by decide), if_pos rfl, succeeds_get_bind] at ran
  obtain ⟨_, ran⟩ := (succeeds_guard _ _ _ _ _ _ _).mp ran
  simp only [succeeds_bind, succeeds_pure] at ran
  obtain ⟨_, _, resumed, _, rfl⟩ := ran
  exact startup_state_registers _ _ _ _ resumed

theorem shutdown_registers (request : Request) (s s' : TpmState) (response : Response)
    (given : request.params (Reader.withParameter 1 u16) = .ok Su.state) (ran : Succeeds (shutdown request) s response s') :
    s.pcrAllocationPending = false ∧ s'.registers = s.registers := by
  unfold shutdown at ran
  rw [succeeds_bind] at ran
  obtain ⟨shutdownType, _, asked, ran⟩ := ran
  obtain ⟨read, rfl⟩ := (succeeds_lift _ _ _ _).mp asked
  obtain rfl := Except.ok.inj (given.symm.trans read)
  rw [succeeds_get_bind] at ran
  obtain ⟨allotted, ran⟩ := (succeeds_guard _ _ _ _ _ _ _).mp ran
  obtain ⟨_, ran⟩ := (succeeds_guard _ _ _ _ _ _ _).mp ran
  simp only [succeeds_bind, succeeds_modify, succeeds_pure] at ran
  obtain ⟨_, _, rfl, _, rfl⟩ := ran
  refine ⟨?_, rfl⟩
  simpa using allotted

theorem linked_of_powered (s : TpmState) (powered : s.Powered) (none : s.pcrAllocationPending = false) : s.Allotted := by
  rcases powered with allotted | ⟨banked, _, linked⟩
  · exact allotted
  · refine ⟨banked, linked.resolve_left ?_⟩
    rw [none]
    decide

end TpmState

namespace Tpm

-- What an accepted startup or shutdown found and left.
structure Accepted (t : Tpm) (code : UInt32) (startupType : UInt16) (elapsed : UInt64) (written : Bool) (locality : UInt8)
    (command : Bytes) (handler : Request → TpmM Response) : Prop where
  powered : t.powered = true
  healthy : t.state.nvWriteFailed = false ∧ (t.execute elapsed written locality command).2.state.nvWriteFailed = false
  begins : code = Cc.startup ↔ t.state.started = false
  coded : ∃ header, parseHeader command = .ok header ∧ header.code = code
  ran : ∃ request u response u', request.params (Reader.withParameter 1 u16) = .ok startupType ∧
    u.registers = t.state.registers ∧ (t.state.started = false → u.shutdownType = t.state.shutdownType) ∧
    Succeeds (handler request) u response u' ∧ (t.ran elapsed locality command).2.registers = u'.registers

theorem execute_healthy (t : Tpm) (elapsed : UInt64) (written : Bool) (locality : UInt8) (command : Bytes)
    (healthy : (t.execute elapsed written locality command).2.state.nvWriteFailed = false) :
    t.state.nvWriteFailed = false := by
  cases powered : t.powered with
  | false =>
      rw [t.execute_unpowered elapsed written locality command powered] at healthy
      exact healthy
  | true =>
      have ended := t.execute_executes elapsed written locality command powered
      have kept := t.ran_write_failed elapsed locality command
      generalize t.execute elapsed written locality command = result at ended healthy
      cases ended with
      | saved _ _ => exact kept.symm.trans healthy
      | closed _ _ => cases healthy
      | clockLost _ _ _ _ => cases healthy
      | unsaved _ _ _ => exact kept.symm.trans healthy

theorem accepted_ran (t : Tpm) (code : UInt32) (startupType : UInt16) (elapsed : UInt64) (written : Bool)
    (locality : UInt8) (command : Bytes) (handler : Request → TpmM Response)
    (named : handlerOf code = some (.plain .whole fun _ => handler))
    (accepted : t.accepts code startupType (.execute elapsed written locality command) = true) :
    t.Accepted code startupType elapsed written locality command handler := by
  simp only [accepts, Bool.and_eq_true, Bool.not_eq_true', TpmState.carriesOut] at accepted
  obtain ⟨⟨powered, healthy⟩, accepted⟩ := accepted
  have before := t.execute_healthy elapsed written locality command healthy
  cases carried : (t.arrive elapsed).2.carried locality command with
  | none =>
      rw [carried] at accepted
      cases accepted
  | some request =>
      rw [carried] at accepted
      simp only [Bool.and_eq_true, beq_iff_eq] at accepted
      obtain ⟨coded, given⟩ := accepted
      obtain ⟨_, typed, alike⟩ := ok_of_found _ _ given
      obtain rfl := eq_of_beq alike
      unfold TpmState.carried at carried
      cases reached : (t.arrive elapsed).2.reaching locality command with
      | none =>
          rw [reached] at carried
          cases carried
      | some pair =>
          obtain ⟨handled, u⟩ := pair
          rw [reached] at carried
          dsimp only at carried
          cases ran : runCommand handled u with
          | error e u' =>
              rw [ran] at carried
              cases carried
          | ok reply u' =>
              rw [ran] at carried
              obtain rfl := Option.some.inj carried
              obtain ⟨received, parameters, lockout, nv, took, same, finds⟩ :=
                (t.arrive elapsed).2.reaching_finds locality command handled u reached
              have effect := TpmState.run_reaches TpmState.registers TpmState.registers_spared (t.arrive elapsed).2 locality
                command received took
              rw [reached] at effect
              dsimp only at effect
              rw [ran] at effect
              have parsed := (((t.arrive elapsed).2.taken_is_ok locality command received).mp took).2.1
              obtain ⟨header, read, coding⟩ := parsed_code command locality received parsed
              have started : received.code = code := by
                rw [← coded, same]
              have arrived := TpmState.advance_time_registers { t.state with hcrtmSequence := none } elapsed
              have begins := (t.arrive elapsed).2.taken_starts locality command received took
              have running : (t.arrive elapsed).2.started = t.state.started := congrArg (·.2.2.2) arrived
              rw [started, running] at begins
              refine ⟨powered, ⟨before, healthy⟩, begins, ⟨header, read, coding.trans started⟩, handled, u, ?_⟩
              rw [TpmState.run_whole handled u handler (by rw [coded]; exact named)] at ran
              obtain ⟨response, answered, rfl⟩ := (succeeds_map _ _ _ _ _).mp (show Succeeds _ u reply u' from ran)
              refine ⟨response, u', typed, ?_, fun idle => ?_, answered, effect⟩
              · obtain ⟨_, _, nullified⟩ := TpmState.nullify_shutdown_changes received (t.arrive elapsed).2
                rw [finds, nullified]
                exact arrived
              · have kept := congrArg Boot.shutdownType (TpmState.nullify_shutdown_boot received (t.arrive elapsed).2)
                rw [if_neg fun used => Bool.false_ne_true (idle.symm.trans (running.symm.trans used.1))] at kept
                have timed := congrArg Boot.shutdownType
                  (TpmState.advance_time_boot { t.state with hcrtmSequence := none } elapsed)
                rw [finds]
                exact kept.trans timed

-- Memory and file hold the saved registers.
structure Carries (held : PcrBanks) (allocation : PcrAllocation) (s : TpmState) : Prop where
  allotted : s.Allotted
  recorded : s.pcrAllocation = allocation
  kept : held.KeepsSaved s.pcr

theorem restored_carries (held : PcrBanks) (allocation : PcrAllocation) (fresh saved : TpmState)
    (carries : Carries held allocation saved) : Carries held allocation (TpmState.restored fresh saved) := by
  obtain ⟨allotted, same⟩ := TpmState.restored_allotted fresh saved carries.allotted.1
  have recorded := (TpmState.recorded_restored fresh saved carries.allotted.1).1
  refine ⟨allotted, recorded.trans carries.recorded, ?_, fun a index saving => ?_⟩
  · calc (TpmState.restored fresh saved).pcr.allocated
        = SortedMap.ofList (TpmState.restored fresh saved).pcrAllocation := allotted.2
      _ = SortedMap.ofList saved.pcrAllocation := by rw [recorded]
      _ = saved.pcr.allocated := carries.allotted.2.symm
      _ = held.allocated := carries.kept.allocated
  · exact (same carries.allotted.2 a index).trans (carries.kept.registers a index saving)

end Tpm

namespace PcrBanks

-- No saved register holds more than zeros.
def Blank (pcr : PcrBanks) : Prop :=
  ∀ a index value, Pcr.isSaved index = true → pcr.register a index = some value → value = List.replicate value.length 0

theorem keeps_saved_blank (before after : PcrBanks) (keeps : KeepsSaved before after) : after.Blank ↔ before.Blank := by
  constructor
  · intro blank a index value saved held
    exact blank a index value saved ((keeps.registers a index saved).trans held)
  · intro blank a index value saved held
    exact blank a index value saved ((keeps.registers a index saved).symm.trans held)

-- Where the allocation is the same, registers of zeros are the same.
theorem blank_alike (before after : PcrBanks) (fits : before.Fits) (alike : after.Fits)
    (allocated : after.allocated = before.allocated) (blank : before.Blank) (blanked : after.Blank) :
    KeepsSaved before after := by
  refine ⟨allocated, fun a index saved => ?_⟩
  cases held : before.banks.get a with
  | none =>
      have absent := before.absent_alike after fits alike allocated a held
      unfold register
      rw [held, absent]
  | some bank =>
      obtain ⟨made, found, length, widths⟩ := before.fits_alike after fits alike allocated a bank held
      have first : before.register a index = bank[index]? := by
        unfold register
        rw [held]
        rfl
      have second : after.register a index = made[index]? := by
        unfold register
        rw [found]
        rfl
      by_cases inside : index < bank.length
      · have there : index < made.length := by omega
        rw [List.getElem?_eq_getElem inside] at first
        rw [List.getElem?_eq_getElem there] at second
        rw [first, second, blank a index _ saved first, blanked a index _ saved second,
          widths _ (List.getElem_mem inside) _ (List.getElem_mem there)]
      · rw [first, second, List.getElem?_eq_none (by omega), List.getElem?_eq_none (by omega)]

theorem saved_register_reset (size index : Nat) (register : Bytes) (saved : Pcr.isSaved index = true) :
    resetRegister none 0 size index register = List.replicate size 0 := by
  have low : index ≤ 15 := by simpa [Pcr.isSaved] using saved
  have fill : Pcr.fill size index = List.replicate size 0 := by
    unfold Pcr.fill Pcr.attributes
    rw [if_pos low]
    rfl
  unfold resetRegister
  rw [if_neg (by simp), fill]
  dsimp only
  by_cases first : index = Config.hcrtmPcr
  · rw [if_pos first]
    cases size with
    | zero => rfl
    | succ size =>
        rw [List.dropLast_replicate, List.isEmpty_replicate]
        simp [← List.replicate_succ']
  · rw [if_neg first]

theorem blank_allocate (pcr made : PcrBanks) (allocation : PcrAllocation)
    (ran : pcr.allocate allocation = .ok made) : made.Blank := by
  unfold allocate at ran
  obtain ⟨maps, _, ran⟩ := (bind_is_ok _ _ _).mp ran
  cases ran
  intro a index value saved held
  unfold register resetAllBut at held
  dsimp only at held
  rw [SortedMap.get_map_values] at held
  obtain ⟨bank, found, held⟩ := Option.bind_eq_some_iff.mp held
  obtain ⟨blank, _, rfl⟩ := Option.map_eq_some_iff.mp found
  rw [List.getElem?_mapIdx] at held
  obtain ⟨old, _, rfl⟩ := Option.map_eq_some_iff.mp held
  rw [saved_register_reset _ index old saved, List.length_replicate]

end PcrBanks

namespace TpmState

-- Banks that are not recorded in their order are made again, which loses the registers.
theorem power_on_blanks (s : TpmState) (banked : s.Banked) (disordered : ¬ s.InOrder) :
    s.powerOn.pcr.Blank ∧ s.powerOn.pcrAllocation = s.pcrAllocation := by
  have tested : Keeps registers (zoomTest runSelfTests) := keeps_zoom _ _ _ _ fun _ _ => rfl
  have initialized : ∀ t : TpmState, t.pcr = s.pcr → t.pcrAllocation = s.pcrAllocation →
      (final (onInit t)).pcr.Blank ∧ (final (onInit t)).pcrAllocation = s.pcrAllocation := by
    intro t banks recorded
    have differs : t.pcr.allocation ≠ t.pcrAllocation := by
      rw [banks, recorded]
      intro same
      refine disordered ?_
      unfold InOrder
      rw [← same]
      exact s.pcr.allocated.ascending
    obtain ⟨made, ran, _⟩ := t.pcr.allocate_made t.pcrAllocation (by rw [recorded]; exact banked.recorded)
    unfold onInit
    rw [run_get_bind, if_pos differs, run_lift_bind, ran]
    exact ⟨PcrBanks.blank_allocate _ made _ ran, recorded⟩
  have ended : ∀ t u : TpmState, t.pcr = s.pcr → t.pcrAllocation = s.pcrAllocation → u.pcr = (final (onInit t)).pcr →
      u.pcrAllocation = (final (onInit t)).pcrAllocation → (final (zoomTest runSelfTests u)).pcr.Blank ∧
        (final (zoomTest runSelfTests u)).pcrAllocation = s.pcrAllocation := by
    intro t u banks recorded same kept
    have view := tested u
    simp only [registers, Prod.mk.injEq] at view
    obtain ⟨first, second⟩ := initialized t banks recorded
    rw [view.1, same]
    exact ⟨first, view.2.1.trans (kept.trans second)⟩
  unfold powerOn
  split
  · exact ended { s with failureMode := true, testFailure := some "nv write", started := false } _ rfl rfl rfl rfl
  · exact ended { s with started := false } _ rfl rfl rfl rfl

end TpmState

namespace Tpm

-- An accepted TPM2_Shutdown(STATE) is in the file, and the registers are those of the recorded allocation.
theorem shut_down (t : Tpm) (down : Signal) (banked : t.Banked) (shut : t.accepts Cc.shutdown Su.state down = true) :
    t.state.Allotted ∧ t.state.started = true ∧ (t.after down).state.registers = t.state.registers ∧
      (t.after down).store = (t.after down).state := by
  cases down with
  | execute elapsed written locality command =>
      obtain ⟨powered, ⟨_, healthy⟩, begins, ⟨header, read, coded⟩, request, u, response, u', given, found, _, ran, effect⟩ :=
        t.accepted_ran Cc.shutdown Su.state elapsed written locality command shutdown rfl shut
      obtain ⟨pending, same⟩ := TpmState.shutdown_registers request u u' response given ran
      have started : t.state.started = true := by
        cases running : t.state.started with
        | true => rfl
        | false => exact absurd (begins.mpr running) (by decide)
      have allotted := TpmState.linked_of_powered t.state (banked.powered powered)
        ((congrArg (·.2.2.1) found).symm.trans pending)
      have writes : commandWritesNv command = true := by
        unfold commandWritesNv Library.found
        rw [read]
        dsimp only
        rw [coded]
        exact nv_commands_write Cc.shutdown (by simp)
      have ended := t.execute_executes elapsed written locality command powered
      refine ⟨allotted, started, ?_⟩
      change (t.execute elapsed written locality command).2.state.registers = t.state.registers ∧
        (t.execute elapsed written locality command).2.store = (t.execute elapsed written locality command).2.state
      generalize t.execute elapsed written locality command = result at ended healthy ⊢
      cases ended with
      | saved _ _ => exact ⟨effect.trans (same.trans found), rfl⟩
      | closed refused _ => cases healthy
      | clockLost refused plain _ rolled => cases healthy
      | unsaved plain _ still =>
          rw [writes] at plain
          cases plain
  | _ => cases shut

-- An accepted TPM2_Startup(STATE) finds a TPM that is not started and remembers the shutdown, and resumes its registers.
theorem started_up (t : Tpm) (up : Signal) (resumed : t.accepts Cc.startup Su.state up = true) :
    t.powered = true ∧ t.state.started = false ∧ t.state.nvWriteFailed = false ∧ t.state.shutdownType = Su.state ∧
      (t.after up).state.pcr = t.state.pcr.onResume := by
  cases up with
  | execute elapsed written locality command =>
      obtain ⟨powered, ⟨healthy, _⟩, begins, _, request, u, response, u', given, found, type, ran, effect⟩ :=
        t.accepted_ran Cc.startup Su.state elapsed written locality command startup rfl resumed
      have same := TpmState.startup_registers request u u' response given ran
      rw [show u.pcr = t.state.pcr from congrArg (·.1) found, ← show (t.ran elapsed locality command).2.pcr = u'.pcr from
        congrArg (·.1) effect] at same
      obtain ⟨_, read, _, begun⟩ := TpmState.startup_begins request u u' response ran
      obtain rfl := Except.ok.inj (given.symm.trans read)
      have remembered : u.shutdownType = Su.state := (begun.typed.resolve_left (by decide)).2
      refine ⟨powered, begins.mp rfl, healthy, (type (begins.mp rfl)).symm.trans remembered, ?_⟩
      have ended := t.execute_executes elapsed written locality command powered
      change (t.execute elapsed written locality command).2.state.pcr = t.state.pcr.onResume
      generalize t.execute elapsed written locality command = result at ended ⊢
      cases ended with
      | saved _ _ => exact same
      | closed _ _ => exact same
      | clockLost _ _ _ _ => exact same
      | unsaved _ _ _ => exact same
  | _ => cases resumed

-- The two ends of a TPM Resume: between the shutdown and its startup no other TPM2_Shutdown(STATE) is accepted.
structure Resumes (t : Tpm) (down : Signal) (between : List Signal) (up : Signal) : Prop where
  shut : t.accepts Cc.shutdown Su.state down = true
  awake : Every after (fun t' signal => t'.accepts Cc.shutdown Su.state signal = false) (t.after down) between
  resumed : ((t.after down).afterAll between).accepts Cc.startup Su.state up = true

def resumed (t : Tpm) (down : Signal) (between : List Signal) (up : Signal) : Tpm :=
  ((t.after down).afterAll between).after up

-- An H-CRTM sequence ends before a startup, which measures it into PCR 0.
def Measures (t : Tpm) (signal : Signal) : Prop :=
  signal = .hashEnd ∧ t.state.started = false ∧ t.state.hcrtmSequence ≠ none

instance (t : Tpm) (signal : Signal) : Decidable (t.Measures signal) := by
  unfold Measures
  infer_instance

-- It measures into every bank what that bank held in PCR 0 when the TPM was shut down.
def Remeasures (held : PcrBanks) (t : Tpm) (signal : Signal) : Prop :=
  t.Measures signal → ∀ a, t.state.hashEnd.pcr.register a Config.hcrtmPcr = held.register a Config.hcrtmPcr

theorem hash_end_unmeasured (t : Tpm) (still : ¬ t.Measures .hashEnd) (index : Nat) (saved : Pcr.isSaved index = true)
    (a : UInt16) : t.state.hashEnd.pcr.register a index = t.state.pcr.register a index := by
  by_cases started : t.state.started = true
  · exact t.state.hash_end_spares a index ⟨saved, .inl started⟩
  · have none : t.state.hcrtmSequence = none := by
      by_contra sequence
      exact still ⟨rfl, by simpa using started, sequence⟩
    unfold TpmState.hashEnd
    rw [none]

theorem hash_end_carries (held : PcrBanks) (allocation : PcrAllocation) (t : Tpm) (measured : Remeasures held t .hashEnd)
    (carries : Carries held allocation t.state) : Carries held allocation t.state.hashEnd := by
  have moves := t.state.hash_end_moves
  obtain ⟨_, _, _, _, same⟩ := t.state.hash_end_changes
  have recorded : t.state.hashEnd.pcrAllocation = t.state.pcrAllocation := by rw [same]
  refine ⟨TpmState.allotted_of_moves _ _ moves recorded carries.allotted, recorded.trans carries.recorded,
    moves.allocated.trans carries.kept.allocated, fun a index saved => ?_⟩
  by_cases measures : t.Measures .hashEnd
  · by_cases first : index = Config.hcrtmPcr
    · rw [first]
      exact measured measures a
    · exact (t.state.hash_end_spares a index ⟨saved, .inr first⟩).trans (carries.kept.registers a index saved)
  · exact (t.hash_end_unmeasured measures index saved a).trans (carries.kept.registers a index saved)

-- _TPM_Init leaves banks that are recorded in their order, and makes the others anew, which leaves zeros as they were.
theorem power_on_carries (held : PcrBanks) (allocation : PcrAllocation) (fits : held.Fits)
    (lasts : Ascending allocation ∨ held.Blank) (s : TpmState) (carries : Carries held allocation s) :
    Carries held allocation s.powerOn := by
  by_cases ordered : s.InOrder
  · obtain ⟨banks, recorded⟩ := s.power_on_keeps carries.allotted.2 ordered
    exact ⟨s.power_on_allotted carries.allotted.1, recorded.trans carries.recorded, by rw [banks]; exact carries.kept⟩
  · have blank := lasts.resolve_left (by rw [← carries.recorded]; exact ordered)
    obtain ⟨blanked, recorded⟩ := s.power_on_blanks carries.allotted.1 ordered
    have made := s.power_on_allotted carries.allotted.1
    refine ⟨made, recorded.trans carries.recorded, PcrBanks.blank_alike held _ fits made.1.fits ?_ blank blanked⟩
    calc s.powerOn.pcr.allocated
        = SortedMap.ofList s.powerOn.pcrAllocation := made.2
      _ = SortedMap.ofList s.pcrAllocation := by rw [recorded]
      _ = s.pcr.allocated := carries.allotted.2.symm
      _ = held.allocated := carries.kept.allocated

theorem carries_lasting (held : PcrBanks) (allocation : PcrAllocation) (fits : held.Fits)
    (lasts : Ascending allocation ∨ held.Blank) : Lasting (Carries held allocation) fun _ => True where
  same s u banks recorded carries := by
    refine ⟨TpmState.allotted_of_moves s u ?_ recorded carries.allotted, recorded.trans carries.recorded,
      by rw [banks]; exact carries.kept⟩
    rw [banks]
    exact PcrBanks.moves_steady.refl _
  resumed s carries := ⟨TpmState.allotted_of_moves s _ (PcrBanks.moves_on_resume s.pcr) rfl carries.allotted,
    carries.recorded, PcrBanks.keeps_saved_trans _ _ _ carries.kept (PcrBanks.on_resume_keeps _)⟩
  initialized s carries := ⟨power_on_carries held allocation fits lasts s carries, trivial⟩
  loaded := restored_carries held allocation
  ran _ _ _ _ _ := trivial

-- What no _TPM_Init leaves of banks recorded out of order.
structure Recording (allocation : PcrAllocation) (s : TpmState) : Prop where
  allotted : s.Allotted
  recorded : s.pcrAllocation = allocation

theorem emptied_lasting (allocation : PcrAllocation) (disordered : ¬ Ascending allocation) :
    Lasting (Recording allocation) fun s => s.started = true ∨ s.pcr.Blank where
  same s u banks recorded records := by
    refine ⟨TpmState.allotted_of_moves s u ?_ recorded records.allotted, recorded.trans records.recorded⟩
    rw [banks]
    exact PcrBanks.moves_steady.refl _
  resumed s records := ⟨TpmState.allotted_of_moves s _ (PcrBanks.moves_on_resume s.pcr) rfl records.allotted,
    records.recorded⟩
  initialized s records := by
    have apart : ¬ s.InOrder := by
      unfold TpmState.InOrder
      rw [records.recorded]
      exact disordered
    obtain ⟨blank, recorded⟩ := s.power_on_blanks records.allotted.1 apart
    exact ⟨⟨s.power_on_allotted records.allotted.1, recorded.trans records.recorded⟩, .inr blank⟩
  loaded fresh saved records := ⟨(TpmState.restored_allotted fresh saved records.allotted.1).1,
    (TpmState.recorded_restored fresh saved records.allotted.1).1.trans records.recorded⟩
  ran s u started banks running := by
    rw [started]
    refine running.imp_right fun blank => ?_
    rcases banks with same | same
    · rw [same]
      exact blank
    · rw [same]
      exact (PcrBanks.keeps_saved_blank _ _ (PcrBanks.on_resume_keeps _)).mpr blank

theorem hash_end_empties (allocation : PcrAllocation) (t : Tpm) (still : ¬ t.Measures .hashEnd) :
    (Recording allocation t.state → Recording allocation t.state.hashEnd) ∧
      (t.state.started = true ∨ t.state.pcr.Blank → t.state.hashEnd.started = true ∨ t.state.hashEnd.pcr.Blank) := by
  have moves := t.state.hash_end_moves
  obtain ⟨_, _, _, _, same⟩ := t.state.hash_end_changes
  have recorded : t.state.hashEnd.pcrAllocation = t.state.pcrAllocation := by rw [same]
  have started : t.state.hashEnd.started = t.state.started := by rw [same]
  refine ⟨fun records => ⟨TpmState.allotted_of_moves _ _ moves recorded records.allotted,
    recorded.trans records.recorded⟩, fun running => ?_⟩
  rw [started]
  refine running.imp_right fun blank => ?_
  exact (PcrBanks.keeps_saved_blank _ _ ⟨moves.allocated, fun a index saved =>
    t.hash_end_unmeasured still index saved a⟩).mpr blank

section

variable (t : Tpm) (down : Signal) (between : List Signal) (up : Signal) (banked : t.Banked)
  (resumes : t.Resumes down between up)

include banked resumes

theorem resume_keeps (measured : Every after (Remeasures t.state.pcr) (t.after down) between)
    (lasts : t.state.InOrder ∨ t.state.pcr.Blank) : t.state.pcr.KeepsSaved (t.resumed down between up).state.pcr := by
  obtain ⟨allotted, _, same, filed⟩ := t.shut_down down banked resumes.shut
  have view := same
  simp only [TpmState.registers, Prod.mk.injEq] at view
  have start : Carries t.state.pcr t.state.pcrAllocation (t.after down).state := by
    refine ⟨TpmState.allotted_of_same _ _ same allotted, view.2.1, ?_, fun a index _ => ?_⟩
    · rw [view.1]
    · rw [view.1]
  have ended : ((t.after down).afterAll between).Remembers (Carries t.state.pcr t.state.pcrAllocation) fun _ => True := by
    refine invariant_of_every after _ _ (fun t' signal met holds => ?_) _ between
      (every_and after _ _ _ between resumes.awake measured) ⟨fun _ _ => start, fun _ => by rw [filed]; exact start,
        fun _ _ _ => trivial⟩
    refine remembers_after _ _ (carries_lasting _ _ banked.state.fits lasts) t' holds signal met.1 fun ends => ?_
    subst ends
    exact ⟨hash_end_carries _ _ t' met.2, id⟩
  obtain ⟨_, _, healthy, remembered, restarted⟩ := started_up _ up resumes.resumed
  change t.state.pcr.KeepsSaved (((t.after down).afterAll between).after up).state.pcr
  rw [restarted]
  exact PcrBanks.keeps_saved_trans _ _ _ (ended.state healthy remembered).kept (PcrBanks.on_resume_keeps _)

theorem resume_blanks (unmeasured : Every after (fun t' signal => ¬ t'.Measures signal) (t.after down) between)
    (disordered : ¬ t.state.InOrder) : (t.resumed down between up).state.pcr.Blank := by
  obtain ⟨allotted, started, same, filed⟩ := t.shut_down down banked resumes.shut
  have view := same
  simp only [TpmState.registers, Prod.mk.injEq] at view
  have start : Recording t.state.pcrAllocation (t.after down).state :=
    ⟨TpmState.allotted_of_same _ _ same allotted, view.2.1⟩
  have ended : ((t.after down).afterAll between).Remembers (Recording t.state.pcrAllocation)
      fun s => s.started = true ∨ s.pcr.Blank := by
    refine invariant_of_every after _ _ (fun t' signal met holds => ?_) _ between
      (every_and after _ _ _ between resumes.awake unmeasured) ⟨fun _ _ => start, fun _ => by rw [filed]; exact start,
        fun _ _ _ => .inl (view.2.2.2.trans started)⟩
    refine remembers_after _ _ (emptied_lasting _ disordered) t' holds signal met.1 fun ends => ?_
    subst ends
    exact hash_end_empties _ t' met.2
  obtain ⟨powered, idle, healthy, remembered, restarted⟩ := started_up _ up resumes.resumed
  have blank : ((t.after down).afterAll between).state.pcr.Blank := by
    refine (ended.runs powered healthy remembered).resolve_left ?_
    rw [idle]
    decide
  change (((t.after down).afterAll between).after up).state.pcr.Blank
  rw [restarted]
  exact (PcrBanks.keeps_saved_blank _ _ (PcrBanks.on_resume_keeps _)).mpr blank

end

end Tpm

-- In any run, a resume keeps the saved registers where the allocation is recorded in the order of its algorithms or they
-- hold nothing yet, and without a measurement by an H-CRTM only there.
theorem saved_pcrs_resume (seed : Bytes) (s : TpmState) (made : TpmState.manufacture seed = .ok s) (signals : List Signal)
    (down : Signal) (between : List Signal) (up : Signal)
    (resumes : ((Tpm.manufactured s).afterAll signals).Resumes down between up) :
    let t := (Tpm.manufactured s).afterAll signals
    let keeps := t.state.pcr.KeepsSaved (t.resumed down between up).state.pcr
    (Every Tpm.after (Tpm.Remeasures t.state.pcr) (t.after down) between → t.state.InOrder ∨ t.state.pcr.Blank → keeps) ∧
      (Every Tpm.after (fun t' signal => ¬ t'.Measures signal) (t.after down) between →
        (keeps ↔ t.state.InOrder ∨ t.state.pcr.Blank)) := by
  have banked := Tpm.run_banked seed s made signals
  generalize (Tpm.manufactured s).afterAll signals = t at banked resumes ⊢
  dsimp only
  refine ⟨t.resume_keeps down between up banked resumes, fun unmeasured => ⟨fun keeps => ?_, fun lasts => ?_⟩⟩
  · by_cases ordered : t.state.InOrder
    · exact .inl ordered
    · exact .inr ((PcrBanks.keeps_saved_blank _ _ keeps).mp
        (t.resume_blanks down between up banked resumes unmeasured ordered))
  · refine t.resume_keeps down between up banked resumes ?_ lasts
    exact every_imply Tpm.after _ _ (fun _ _ still measures => absurd measures still) _ between unmeasured

end

namespace Toy

-- The first bank is allocated again as it is, which records it after the other one.
def reallocated : List Signal :=
  startedWith [authorizedCommand Cc.pcrAllocate [Rh.platform] [(Rh.rsPw, [])]
    (be32 1 ++ be16 Alg.sha256 ++ [3, 0xFF, 0xFF, 0xFF])]

def measuredOnce : List Signal :=
  startedWith [authorizedCommand Cc.pcrExtend [0] [(Rh.rsPw, [])] (be32 1 ++ be16 Alg.sha256 ++ List.replicate 32 7)]

def sentOne (command : Bytes) : Signal := .execute 0 true 0 command

def offAndOn : List Signal := [.powerOff true, .powerOn blank]

def reallocatedThenMeasured : List Signal := reallocated ++ [.powerOff true] ++ measuredOnce

def measuredBoot : List Signal := [.powerOn blank, .hashStart, .hashData [7], .hashEnd] ++
  sent [plainCommand Cc.startup [] (be16 Su.clear),
    authorizedCommand Cc.pcrExtend [1] [(Rh.rsPw, [])] (be32 1 ++ be16 Alg.sha256 ++ List.replicate 32 7)]

def bootedAgain : List Signal := offAndOn ++ [.hashStart, .hashData [7], .hashEnd]

def resumesTested (t : Tpm) (between : List Signal) : Bool :=
  t.accepts Cc.shutdown Su.state (sentOne shutdownState) &&
    decide (Every Tpm.after (fun t' signal => t'.accepts Cc.shutdown Su.state signal = false)
      (t.after (sentOne shutdownState)) between) &&
    ((t.after (sentOne shutdownState)).afterAll between).accepts Cc.startup Su.state (sentOne startupState)

theorem resumes_of_tests (t : Tpm) (between : List Signal) (tested : resumesTested t between = true) :
    t.Resumes (sentOne shutdownState) between (sentOne startupState) := by
  simp only [resumesTested, Bool.and_eq_true, decide_eq_true_eq] at tested
  obtain ⟨⟨shut, awake⟩, resumed⟩ := tested
  exact ⟨shut, awake, resumed⟩

theorem resume_loses_pcrs : ¬ ∀ seed s, TpmState.manufacture seed = .ok s → ∀ signals down between up,
    ((Tpm.manufactured s).afterAll signals).Resumes down between up →
      ((Tpm.manufactured s).afterAll signals).state.pcr.KeepsSaved
        (((Tpm.manufactured s).afterAll signals).resumed down between up).state.pcr := by
  intro keeps
  have tested : found (TpmState.manufacture (List.replicate 48 7)) (fun s =>
      let t := (Tpm.manufactured s).afterAll reallocatedThenMeasured
      resumesTested t offAndOn &&
        (t.resumed (sentOne shutdownState) offAndOn (sentOne startupState)).state.pcr.register Alg.sha256 0 !=
          t.state.pcr.register Alg.sha256 0) = true := by
    rw [manufacture_made]
    decide +kernel
  obtain ⟨s, made, tested⟩ := ok_of_found _ _ tested
  simp only [Bool.and_eq_true, bne_iff_ne, ne_eq] at tested
  obtain ⟨resumes, lost⟩ := tested
  have kept := keeps _ s made reallocatedThenMeasured (sentOne shutdownState) offAndOn
    (sentOne startupState) (resumes_of_tests _ _ resumes)
  exact lost (kept.registers Alg.sha256 0 (by decide))

-- A resume after which every saved register is as it was, and one of them is not blank.
def KeepsMeasurement (t : Tpm) (between : List Signal) : Prop :=
  t.Resumes (sentOne shutdownState) between (sentOne startupState) ∧ ¬ t.state.pcr.Blank ∧
    t.state.pcr.KeepsSaved (t.resumed (sentOne shutdownState) between (sentOne startupState)).state.pcr

theorem measured_not_blank (pcr : PcrBanks) (index : Nat) (saved : Pcr.isSaved index = true)
    (measured : ((pcr.register Alg.sha256 index).any fun value => value != List.replicate value.length 0) = true) :
    ¬ pcr.Blank := by
  simp only [Option.any_eq_true_iff_get, bne_iff_ne, ne_eq] at measured
  obtain ⟨some, measured⟩ := measured
  exact fun blank => measured (blank Alg.sha256 index _ saved (Option.some_get some).symm)

-- With the allocation of a new TPM a measurement is still there after the resume, also after the same measured boot.
theorem resume_keeps_measurement : ∃ s, TpmState.manufacture (List.replicate 48 7) = .ok s ∧
    KeepsMeasurement ((Tpm.manufactured s).afterAll measuredOnce) offAndOn ∧
    KeepsMeasurement ((Tpm.manufactured s).afterAll measuredBoot) bootedAgain := by
  have tested : found (TpmState.manufacture (List.replicate 48 7)) (fun s =>
      let once := (Tpm.manufactured s).afterAll measuredOnce
      let booted := (Tpm.manufactured s).afterAll measuredBoot
      (resumesTested once offAndOn && decide once.state.InOrder &&
        ((once.state.pcr.register Alg.sha256 0).any fun value => value != List.replicate value.length 0) &&
        decide (Every Tpm.after (fun t' signal => ¬ t'.Measures signal) (once.after (sentOne shutdownState)) offAndOn)) &&
      (resumesTested booted bootedAgain && decide booted.state.InOrder &&
        ((booted.state.pcr.register Alg.sha256 1).any fun value => value != List.replicate value.length 0) &&
        decide (Every Tpm.after (fun t' signal => t'.Measures signal → t'.state.hashEnd.pcr.banks = booted.state.pcr.banks)
          (booted.after (sentOne shutdownState)) bootedAgain))) = true := by
    rw [manufacture_made]
    decide +kernel
  obtain ⟨s, made, tested⟩ := ok_of_found _ _ tested
  simp only [Bool.and_eq_true, decide_eq_true_eq] at tested
  obtain ⟨⟨⟨⟨once, ordered⟩, measured⟩, still⟩, ⟨⟨⟨booted, inOrder⟩, extended⟩, again⟩⟩ := tested
  have first := resumes_of_tests _ _ once
  have second := resumes_of_tests _ _ booted
  refine ⟨s, made, ⟨first, measured_not_blank _ 0 (by decide) measured, ?_⟩,
    ⟨second, measured_not_blank _ 1 (by decide) extended, ?_⟩⟩
  · exact ((saved_pcrs_resume _ s made measuredOnce _ _ _ first).2 still).mpr (.inl ordered)
  · refine (saved_pcrs_resume _ s made measuredBoot _ _ _ second).1 ?_ (.inl inOrder)
    refine every_imply Tpm.after _ _ (fun t' signal same measures a => ?_) _ _ again
    exact PcrBanks.spares_banks (fun _ => True) _ _ (same measures) a _ trivial

end Toy

end Swtrust
