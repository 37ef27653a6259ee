import Swtrust.Device.Frame
import Swtrust.Library.Run

set_option autoImplicit false
set_option linter.unusedSectionVars false

namespace Swtrust

open Library Action

section

variable [Primitives]

namespace TpmState

-- The request, if the mode of the TPM lets it be answered.
def taken (s : TpmState) (locality : UInt8) (command : Bytes) : TpmResult Request := do
  s.checkFailureMode command
  let request ← parse command locality
  s.checkStarted request
  return request

theorem taken_is_ok (s : TpmState) (locality : UInt8) (command : Bytes) (request : Request) :
    s.taken locality command = .ok request ↔ s.checkFailureMode command = .ok () ∧
      parse command locality = .ok request ∧ s.checkStarted request = .ok () := by
  simp only [taken, bind_is_ok, pure_is_ok]
  constructor
  · rintro ⟨_, available, found, parsed, _, started, rfl⟩
    exact ⟨available, parsed, started⟩
  · rintro ⟨available, parsed, started⟩
    exact ⟨(), available, request, parsed, (), started, rfl⟩

-- A command that is not taken changes nothing.
theorem run_of_refused (s : TpmState) (locality : UInt8) (command : Bytes) (e : TpmRc)
    (refused : s.taken locality command = .error e) : (run locality command s).2 = s := by
  unfold run execute
  simp only [run_get_bind, run_lift_bind]
  cases available : s.checkFailureMode command with
  | error e => rfl
  | ok u =>
      dsimp only
      cases parsed : parse command locality with
      | error e => rfl
      | ok request =>
          simp only [executeRequest, run_get_bind, run_lift_bind]
          cases started : s.checkStarted request with
          | error e => rfl
          | ok u =>
              have took := (s.taken_is_ok locality command request).mpr ⟨available, parsed, started⟩
              rw [refused] at took
              cases took

theorem nullify_shutdown_type (request : Request) (s : TpmState) (started : s.started = true)
    (apart : request.code ≠ Cc.shutdown) : (nullifyShutdown request s).shutdownType = Su.none := by
  unfold nullifyShutdown
  split
  · rfl
  next kept =>
    by_cases none : s.shutdownType = Su.none
    · exact none
    · exact absurd ⟨started, apart, none⟩ kept

-- A command runs as it would with the shutdown already undone.
theorem run_of_taken (s : TpmState) (locality : UInt8) (command : Bytes) (request : Request)
    (took : s.taken locality command = .ok request) :
    run locality command s = run locality command (nullifyShutdown request s) := by
  obtain ⟨available, parsed, started⟩ := (s.taken_is_ok locality command request).mp took
  by_cases undoes : s.started ∧ request.code ≠ Cc.shutdown ∧ s.shutdownType ≠ Su.none
  · have nullified : nullifyShutdown request s = { s with
        shutdownType := Su.none
        startupClear := s.startupClear.without StartupClearAttributes.orderly } := by
      unfold nullifyShutdown
      rw [if_pos undoes]
    have still : nullifyShutdown request (nullifyShutdown request s) = nullifyShutdown request s := by
      rw [nullified]
      unfold nullifyShutdown
      exact if_neg fun again => again.2.2 rfl
    have available' : (nullifyShutdown request s).checkFailureMode command = .ok () := by rw [nullified]; exact available
    have started' : (nullifyShutdown request s).checkStarted request = .ok () := by rw [nullified]; exact started
    have same : execute locality command s = execute locality command (nullifyShutdown request s) := by
      unfold execute
      simp only [run_get_bind, run_lift_bind, available, available', parsed, executeRequest, started, started']
      simp only [run_modify_bind, still]
    unfold run
    rw [same]
  · have same : nullifyShutdown request s = s := by
      unfold nullifyShutdown
      rw [if_neg undoes]
    rw [same]

theorem run_settles (s : TpmState) (locality : UInt8) (command : Bytes)
    (apart : ∀ request, s.taken locality command = .ok request → request.code ≠ Cc.shutdown) :
    Settles s (run locality command s).2 := by
  cases took : s.taken locality command with
  | error e =>
      rw [s.run_of_refused locality command e took]
      exact settles_steady.refl s
  | ok request =>
      obtain ⟨_, parsed, _⟩ := (s.taken_is_ok locality command request).mp took
      refine run_guarantees _ settles_undisturbed s locality command fun other parameters found => ?_
      rw [parsed] at found
      obtain rfl := Except.ok.inj found
      exact settles_run_command _ (apart request took)

-- A started TPM remembers no shutdown after any other command.
theorem run_undoes_shutdown (s : TpmState) (locality : UInt8) (command : Bytes) (request : Request)
    (took : s.taken locality command = .ok request) (started : s.started = true) (apart : request.code ≠ Cc.shutdown) :
    (run locality command s).2.shutdownType = Su.none := by
  have undone := nullify_shutdown_type request s started apart
  obtain ⟨_, parsed, _⟩ := (s.taken_is_ok locality command request).mp took
  rw [s.run_of_taken locality command request took]
  have settled := run_settles (nullifyShutdown request s) locality command fun other took => by
    obtain ⟨_, found, _⟩ := (TpmState.taken_is_ok _ locality command other).mp took
    rw [parsed] at found
    obtain rfl := Except.ok.inj found
    exact apart
  exact settled.shutdownType.elim (fun same => same.trans undone) id

theorem startup_refuses_state (s : TpmState) (request : Request) (none : s.shutdownType = Su.none)
    (resumes : request.params (Reader.withParameter 1 u16) = .ok Su.state) : ∃ e, startup request s = .error e s := by
  unfold startup
  rw [run_lift_bind, resumes]
  dsimp only
  split
  · exact ⟨_, rfl⟩
  · rw [if_neg (by decide), if_pos rfl, run_get_bind, none, if_pos (by decide)]
    exact ⟨_, rfl⟩

end TpmState

namespace Tpm

-- A command that a started TPM takes and that is not TPM2_Shutdown.
def uses (t : Tpm) : Signal → Bool
  | .execute elapsed _ locality command =>
    t.powered && (t.arrive elapsed).2.started &&
      found ((t.arrive elapsed).2.taken locality command) fun request => request.code != Cc.shutdown
  | _ => false

-- A TPM2_Shutdown that the device remembers, unless the file could not be written.
def shutsDown (t : Tpm) : Signal → Bool
  | .execute elapsed written locality command =>
    t.powered && found ((t.arrive elapsed).2.taken locality command) (fun request => request.code == Cc.shutdown) &&
      (t.execute elapsed written locality command).2.state.shutdownType != Su.none &&
      !(t.execute elapsed written locality command).2.state.nvWriteFailed
  | _ => false

-- A command is written to the file if it leaves the last shutdown there undone.
def Records (t : Tpm) : Signal → Prop
  | .execute elapsed written locality command =>
    t.uses (.execute elapsed written locality command) = true → t.store.shutdownType = Su.none ∨
      (written = true ∧ t.state.nvWriteFailed = false ∧ (commandWritesNv command = true ∨
        (t.ran elapsed locality command).2.witness ≠ t.state.witness ∨ (t.arrive elapsed).1 = true))
  | _ => True

instance (t : Tpm) : (signal : Signal) → Decidable (t.Records signal)
  | .execute elapsed written locality command =>
    inferInstanceAs (Decidable (t.uses (.execute elapsed written locality command) = true →
      t.store.shutdownType = Su.none ∨ (written = true ∧ t.state.nvWriteFailed = false ∧
        (commandWritesNv command = true ∨ (t.ran elapsed locality command).2.witness ≠ t.state.witness ∨
          (t.arrive elapsed).1 = true))))
  | .powerOn _ | .powerOff _ | .nv _ | .physicalPresence _ | .hashStart | .hashData _ | .hashEnd | .actGetSignaled ..
  | .restart _ => .isTrue trivial

end Tpm

-- A device, and whether it has taken another command since the last TPM2_Shutdown.
structure Resumption where
  device : Tpm
  used : Bool

namespace Resumption

def next (r : Resumption) (signal : Signal) : Resumption where
  device := r.device.after signal
  used := r.device.uses signal || r.used && !r.device.shutsDown signal

def afterAll (r : Resumption) (signals : List Signal) : Resumption := signals.foldl next r

-- Neither the file nor, unless it is about to be read again, the device remembers a shutdown.
def Disarmed (t : Tpm) : Prop :=
  t.store.shutdownType = Su.none ∧ (t.state.nvWriteFailed = true ∨ t.state.shutdownType = Su.none)

theorem disarmed_of_same (t t' : Tpm) (failed : t'.state.nvWriteFailed = t.state.nvWriteFailed)
    (state : t'.state.shutdownType = t.state.shutdownType) (store : t'.store = t.store) (disarmed : Disarmed t) :
    Disarmed t' := by
  unfold Disarmed
  rw [failed, state, store]
  exact disarmed

-- What a command leaves in memory, when it neither uses the TPM nor shuts it down.
theorem ran_leaves_none (t : Tpm) (elapsed : UInt64) (locality : UInt8) (command : Bytes)
    (none : t.state.shutdownType = Su.none)
    (apart : ∀ request, (t.arrive elapsed).2.taken locality command = .ok request → request.code ≠ Cc.shutdown) :
    (t.ran elapsed locality command).2.shutdownType = Su.none := by
  have settled : Settles (t.arrive elapsed).2 (t.ran elapsed locality command).2 :=
    TpmState.run_settles _ locality command apart
  have arrived : (t.arrive elapsed).2.shutdownType = t.state.shutdownType := by
    obtain ⟨_, _, _, same⟩ := ({ t.state with hcrtmSequence := .none } : TpmState).advance_time_changes elapsed
    unfold Tpm.arrive
    rw [same]
  exact settled.shutdownType.elim (fun same => (same.trans arrived).trans none) id

theorem ran_uses_none (t : Tpm) (elapsed : UInt64) (written : Bool) (locality : UInt8) (command : Bytes)
    (used : t.uses (.execute elapsed written locality command) = true) :
    (t.ran elapsed locality command).2.shutdownType = Su.none := by
  unfold Tpm.uses at used
  simp only [Bool.and_eq_true] at used
  obtain ⟨⟨_, started⟩, took⟩ := used
  obtain ⟨request, took, apart⟩ := ok_of_found _ _ took
  exact TpmState.run_undoes_shutdown _ locality command request took started (by simpa using apart)

-- A powered device that is not shut down forgets, or has forgotten, the shutdown.
theorem ran_stays_none (t : Tpm) (elapsed : UInt64) (written : Bool) (locality : UInt8) (command : Bytes)
    (powered : t.powered = true) (healthy : t.state.nvWriteFailed = false)
    (ended : (t.execute elapsed written locality command).2.state = (t.ran elapsed locality command).2)
    (stays : t.uses (.execute elapsed written locality command) = true ∨
      Disarmed t ∧ t.shutsDown (.execute elapsed written locality command) = false) :
    (t.ran elapsed locality command).2.shutdownType = Su.none := by
  rcases stays with used | ⟨⟨_, disarmed⟩, idle⟩
  · exact ran_uses_none t elapsed written locality command used
  · have none : t.state.shutdownType = Su.none := disarmed.resolve_left (by rw [healthy]; decide)
    by_cases shuts : found ((t.arrive elapsed).2.taken locality command) (fun request => request.code == Cc.shutdown) = true
    · simp only [Tpm.shutsDown, ended, powered, shuts, t.ran_write_failed, healthy] at idle
      simpa using idle
    · refine ran_leaves_none t elapsed locality command none fun request took code => shuts ?_
      simp [found, took, code]

theorem execute_disarms (t : Tpm) (elapsed : UInt64) (written : Bool) (locality : UInt8) (command : Bytes)
    (records : t.Records (.execute elapsed written locality command))
    (stays : t.uses (.execute elapsed written locality command) = true ∨
      Disarmed t ∧ t.shutsDown (.execute elapsed written locality command) = false) :
    Disarmed (t.execute elapsed written locality command).2 := by
  cases powered : t.powered with
  | false =>
      have same := t.execute_unpowered elapsed written locality command powered
      rw [same]
      refine stays.elim (fun used => ?_) fun idle => idle.1
      simp [Tpm.uses, powered] at used
  | true =>
      have failed := t.ran_write_failed elapsed locality command
      have ended := t.execute_executes elapsed written locality command powered
      have memory := ran_stays_none t elapsed written locality command powered
      -- what a command leaves out of the file was undone there before
      have stored : (t.ran elapsed locality command).2.nvWriteFailed = true ∨ written = false ∨
          (commandWritesNv command = false ∧ (t.ran elapsed locality command).2.witness = t.state.witness ∧
            (t.arrive elapsed).1 = false) → t.store.shutdownType = Su.none := by
        intro unrecorded
        rcases stays with used | idle
        · rcases records used with none | ⟨written, healthy, writes⟩
          · exact none
          · rw [failed] at unrecorded
            simp only [healthy, written, Bool.false_eq_true, Bool.true_eq_false, false_or] at unrecorded
            obtain ⟨plain, same, still⟩ := unrecorded
            simp [plain, same, still] at writes
        · exact idle.1.1
      generalize made : t.execute elapsed written locality command = result at ended memory ⊢
      cases ended with
      | saved healthy writes =>
          have none := memory (failed ▸ healthy.1) rfl stays
          exact ⟨none, .inr none⟩
      | closed refused writes => exact ⟨stored (refused.imp id .inl), .inl rfl⟩
      | clockLost refused plain same rolled => exact ⟨stored (refused.imp id .inl), .inl rfl⟩
      | unsaved plain same still =>
          refine ⟨stored (.inr (.inr ⟨plain, same, still⟩)), ?_⟩
          cases healthy : t.state.nvWriteFailed with
          | true => exact .inl (failed.trans healthy)
          | false => exact .inr (memory healthy rfl stays)

theorem persist_disarmed (t : Tpm) (written : Bool) (disarmed : Disarmed t) : Disarmed (t.persist written).2 := by
  unfold Tpm.persist
  split
  · exact disarmed
  next kept =>
    have healthy : t.state.nvWriteFailed = false := by simp_all
    exact ⟨disarmed.2.resolve_left (by rw [healthy]; decide), disarmed.2⟩

theorem power_on_shutdown_type (t : Tpm) (fresh : TpmState) (disarmed : Disarmed t) :
    (t.powerOn fresh).state.shutdownType = Su.none := by
  have kept : ∀ s : TpmState, s.powerOn.shutdownType = s.shutdownType := by
    intro s
    obtain ⟨_, _, _, _, _, _, _, _, _, _, same⟩ := s.power_on_changes
    rw [same]
  unfold Tpm.powerOn
  dsimp only
  rw [kept]
  split
  · exact disarmed.1
  next healthy => exact disarmed.2.resolve_left healthy

theorem power_on_disarmed (t : Tpm) (fresh : TpmState) (disarmed : Disarmed t) : Disarmed (t.powerOn fresh) :=
  ⟨disarmed.1, .inr (power_on_shutdown_type t fresh disarmed)⟩

theorem restart_disarmed (t : Tpm) (fresh : TpmState) (none : t.store.shutdownType = Su.none) :
    Disarmed (t.restart fresh) := ⟨none, .inr none⟩

theorem next_disarmed (r : Resumption) (signal : Signal) (records : r.device.Records signal)
    (disarmed : r.used = true → Disarmed r.device) :
    (r.next signal).used = true → Disarmed (r.next signal).device := by
  intro used
  have stays : r.device.uses signal = true ∨ Disarmed r.device ∧ r.device.shutsDown signal = false := by
    simp only [next, Bool.or_eq_true, Bool.and_eq_true, Bool.not_eq_true'] at used
    exact used.imp id fun ⟨used, idle⟩ => ⟨disarmed used, idle⟩
  cases signal with
  | execute elapsed written locality command =>
      exact execute_disarms r.device elapsed written locality command records stays
  | powerOn fresh => exact power_on_disarmed _ fresh (stays.resolve_left Bool.false_ne_true).1
  | powerOff written =>
      exact disarmed_of_same (r.device.persist written).2 _ rfl rfl rfl
        (persist_disarmed _ written (stays.resolve_left Bool.false_ne_true).1)
  | hashEnd =>
      obtain ⟨_, _, _, _, same⟩ := r.device.state.hash_end_changes
      have kept : r.device.state.hashEnd.shutdownType = r.device.state.shutdownType := by rw [same]
      exact disarmed_of_same r.device _ (TpmState.hash_end_write_failed _) kept rfl
        (stays.resolve_left Bool.false_ne_true).1
  | actGetSignaled act elapsed written =>
      have before := (stays.resolve_left Bool.false_ne_true).1
      have advanced : ∀ millis, Disarmed { r.device with state := (r.device.state.advanceTime millis).2 } := by
        intro millis
        obtain ⟨_, _, _, same⟩ := r.device.state.advance_time_changes millis
        have kept : (r.device.state.advanceTime millis).2.shutdownType = r.device.state.shutdownType := by rw [same]
        exact disarmed_of_same r.device _ (TpmState.advance_time_write_failed _ millis) kept rfl before
      exact Tpm.holds_after_poll Disarmed r.device act elapsed written advanced fun u => persist_disarmed u written
  | restart fresh => exact restart_disarmed _ fresh (stays.resolve_left Bool.false_ne_true).1.1
  | _ => exact disarmed_of_same r.device _ rfl rfl rfl (stays.resolve_left Bool.false_ne_true).1

end Resumption

-- Killed at any point of a run whose commands are all recorded, a device that took another command since the last
-- TPM2_Shutdown starts from the file as after none, so it does not resume.
theorem shutdown_nullification_durable (r : Resumption) (signals : List Signal)
    (start : r.used = true → Resumption.Disarmed r.device)
    (records : Every Tpm.after Tpm.Records r.device signals) (used : (r.afterAll signals).used = true)
    (fresh again : TpmState) :
    let restarted := (r.afterAll signals).device.restart fresh
    restarted.state.shutdownType = Su.none ∧ (restarted.powerOn again).state.shutdownType = Su.none ∧
      ∀ request : Request, request.params (Reader.withParameter 1 u16) = .ok Su.state →
        ∃ e, startup request (restarted.powerOn again).state = .error e (restarted.powerOn again).state := by
  have every := every_of_view _ _ Resumption.next Resumption.device (fun _ _ => rfl) r signals records
  have disarmed := invariant_of_every _ _ (fun r : Resumption => r.used = true → Resumption.Disarmed r.device)
    (fun r signal records kept => r.next_disarmed signal records kept) r signals every start used
  have killed := Resumption.restart_disarmed _ fresh disarmed.1
  have none := Resumption.power_on_shutdown_type _ again killed
  exact ⟨disarmed.1, none, fun request resumes => TpmState.startup_refuses_state _ request none resumes⟩

end

namespace Toy

def startupState : Bytes := plainCommand Cc.startup [] (be16 Su.state)

def shutdownState : Bytes := plainCommand Cc.shutdown [] (be16 Su.state)

-- A shutdown, and then a command whose table entry writes no NV.
def randomDrawn : List Signal := startedWith [shutdownState, plainCommand Cc.getRandom [] (be16 8)]

-- Killed after that command, the device resumes from the shutdown before it.
theorem shutdown_comes_back : ¬ ∀ seed s, TpmState.manufacture seed = .ok s → ∀ signals,
    ((⟨Tpm.manufactured s, false⟩ : Resumption).afterAll signals).used = true → ∀ fresh again,
      ((((((⟨Tpm.manufactured s, false⟩ : Resumption).afterAll signals).device.restart fresh).powerOn again).after
        (.execute 0 true 0 startupState)).state.started = false) := by
  intro refuses
  have tested : found (TpmState.manufacture (List.replicate 48 7)) (fun s =>
      let r := (⟨Tpm.manufactured s, false⟩ : Resumption).afterAll randomDrawn
      r.used && (((r.device.restart blank).powerOn blank).after (.execute 0 true 0 startupState)).state.started) =
      true := by
    rw [manufacture_made]
    decide +kernel
  obtain ⟨s, made, tested⟩ := ok_of_found _ _ tested
  simp only [Bool.and_eq_true] at tested
  have refused := refuses _ s made randomDrawn tested.1 blank blank
  rw [tested.2] at refused
  cases refused

-- A command that writes NV undoes the shutdown in the file as well.
def randomStirred : List Signal := startedWith [shutdownState, plainCommand Cc.stirRandom [] (sized16 [1])]

theorem shutdown_stays_undone : ∃ s, TpmState.manufacture (List.replicate 48 7) = .ok s ∧
    let r := (⟨Tpm.manufactured s, false⟩ : Resumption).afterAll randomStirred
    (r.device.restart blank).state.shutdownType = Su.none := by
  have tested : found (TpmState.manufacture (List.replicate 48 7)) (fun s =>
      ((⟨Tpm.manufactured s, false⟩ : Resumption).afterAll randomStirred).used &&
        decide (Every Tpm.after Tpm.Records (Tpm.manufactured s) randomStirred)) = true := by
    rw [manufacture_made]
    decide +kernel
  obtain ⟨s, made, tested⟩ := ok_of_found _ _ tested
  simp only [Bool.and_eq_true, decide_eq_true_eq] at tested
  exact ⟨s, made, (shutdown_nullification_durable ⟨Tpm.manufactured s, false⟩ randomStirred (fun used => nomatch used)
    tested.2 tested.1 blank blank).1⟩

end Toy

end Swtrust
