import Swtrust.Startup.Reaching

set_option autoImplicit false
set_option linter.unusedSectionVars false

namespace Swtrust

open Library Action

section

variable [Primitives]

namespace TpmState

theorem boot_spared : SparedByCourse boot where
  execution := ⟨fun _ => ⟨fun _ _ => rfl, fun _ _ => rfl, fun _ _ => rfl, fun _ _ _ _ => rfl, fun _ _ _ => rfl⟩,
    fun _ _ => rfl, fun _ => rfl⟩
  guarded _ _ _ := rfl

theorem hierarchies_spared : SparedByCourse (·.hierarchies) where
  execution := ⟨fun _ => ⟨fun _ _ => rfl, fun _ _ => rfl, fun _ _ => rfl, fun _ _ _ _ => rfl, fun _ _ _ => rfl⟩,
    fun _ _ => rfl, fun _ => rfl⟩
  guarded _ _ _ := rfl

-- A started TPM forgets its shutdown, unless it is told of another one.
theorem nullify_shutdown_boot (request : Request) (s : TpmState) : (nullifyShutdown request s).boot = { s.boot with
    shutdownType := if s.started ∧ request.code ≠ Cc.shutdown then Su.none else s.shutdownType } := by
  unfold nullifyShutdown
  by_cases used : s.started ∧ request.code ≠ Cc.shutdown
  · by_cases none : s.shutdownType = Su.none
    · rw [if_neg fun undoes => undoes.2.2 none, if_pos used, ← none]
      rfl
    · rw [if_pos ⟨used.1, used.2, none⟩, if_pos used]
      rfl
  · rw [if_neg fun undoes => used ⟨undoes.1, undoes.2.1⟩, if_neg used]
    rfl

theorem handlers_spare_boot :
    (handlers.all fun row => (row.2.scope != .clock && row.2.scope != .whole) ||
      ([Cc.clockSet, Cc.clockRateAdjust, Cc.startup, Cc.shutdown, Cc.clear] : List UInt32).contains row.1) = true := by
  rfl

def counts (clock : ClockState) : UInt32 × UInt32 × UInt64 := (clock.resetCount, clock.restartCount, clock.timeEpoch)

theorem boot_keeps_clock {α : Type} (action : Action TpmRc ClockState α) (keeps : Keeps counts action) :
    Keeps boot (Scope.clock.zoom action) := by
  intro s
  have same := keeps s.clock
  simp only [Scope.zoom, Action.zoom]
  cases ran : action s.clock with
  | ok a clock | error e clock =>
      rw [ran] at same
      simp only [counts, final, Prod.mk.injEq] at same
      simp only [boot, final, same]

theorem clock_set_counts (request : Request) : Keeps counts (clockSet request) := by
  unfold clockSet
  refine keeps_bind _ _ _ (keeps_lift _ _) fun newTime => ?_
  intro clock
  rw [run_get_bind]
  split
  · rfl
  · dsimp only
    split <;> rfl

theorem clock_rate_adjust_counts (request : Request) : Keeps counts (clockRateAdjust request) := by
  unfold clockRateAdjust
  refine keeps_bind _ _ _ (keeps_lift _ _) fun adjust => ?_
  refine keeps_bind _ _ _ (keeps_lift _ _) fun step => ?_
  refine keeps_bind _ _ _ (keeps_get _) fun clock => ?_
  refine keeps_ite _ _ _ _ (keeps_bind _ _ _ (keeps_throw _ _) fun _ => ?_) ?_
  all_goals exact keeps_bind _ _ _ (keeps_modify _ _ fun clock => rfl) fun _ => keeps_pure _ _

-- No other command has to do with the startups.
theorem other_commands_boot (request : Request) (startup : request.code ≠ Cc.startup)
    (shutdown : request.code ≠ Cc.shutdown) (clear : request.code ≠ Cc.clear) : Keeps boot (runCommand request) := by
  have clocked : ∀ run : Request → Action TpmRc ClockState Response, Keeps counts (run request) →
      Keeps boot ((Handler.plain .clock fun _ => run).run request) := fun run keeps =>
    keeps_bind _ _ _ (keeps_get _) fun _ => keeps_map _ _ _ (boot_keeps_clock _ keeps)
  rw [keeps_iff_guarantees]
  refine guarantees_run_listed _ (steady_of_view boot).refl
    (fun scope => scope != .clock && scope != .whole) _ handlers_spare_boot (fun scope action spares => ?_) request
    fun listed => ?_
  · rw [← keeps_iff_guarantees]
    cases scope with
    | clock | whole => cases spares
    | _ => exact keeps_zoom _ _ _ action fun _ _ => rfl
  · rw [← keeps_iff_guarantees]
    simp only [List.mem_cons, List.not_mem_nil, or_false] at listed
    rcases listed with code | code | code | code | code
    · rw [run_command_of request (.plain .clock fun _ => clockSet) (by rw [code]; rfl)]
      exact clocked _ (clock_set_counts request)
    · rw [run_command_of request (.plain .clock fun _ => clockRateAdjust) (by rw [code]; rfl)]
      exact clocked _ (clock_rate_adjust_counts request)
    · exact absurd code startup
    · exact absurd code shutdown
    · exact absurd code clear

theorem run_whole (request : Request) (s : TpmState) (handler : Request → TpmM Response)
    (named : handlerOf request.code = some (.plain .whole fun _ => handler)) :
    runCommand request s = (Response.reply <$> handler request) s := by
  rw [run_command_of request _ named]
  rfl

theorem shutdown_boot (request : Request) (s : TpmState) :
    Ensures (fun t => t = s) (shutdown request) (fun _ t => ∃ shutdownType,
      request.params (Reader.withParameter 1 u16) = .ok shutdownType ∧ t.boot = { s.boot with shutdownType })
      fun t => t = s := by
  unfold shutdown
  refine ensures_lift_bind _ _ _ _ _ rfl fun shutdownType given => ?_
  refine ensures_get_bind _ _ _ _ fun t same => ?_
  subst same
  refine ensures_guard _ _ _ _ _ _ _ (fun _ same => same) fun _ => ?_
  refine ensures_guard _ _ _ _ _ _ _ (fun _ same => same) fun _ => ?_
  refine ensures_bind _ _ _ (fun _ u => u.boot = { t.boot with shutdownType }) _ _ ?_ fun _ => ?_
  · refine ensures_modify _ _ _ _ fun u same => ?_
    subst same
    rfl
  · exact ensures_pure _ _ _ _ fun u ended => ⟨shutdownType, given, ended⟩

theorem clear_boot (request : Request) (s : TpmState) :
    Ensures (fun t => t = s) (clear request)
      (fun _ t => t.boot = { s.boot with counters := ⟨0, 0, s.clock.timeEpoch⟩ }) fun t => t.boot = s.boot := by
  unfold clear onClear
  refine ensures_get_bind _ _ _ _ fun t same => ?_
  subst same
  refine ensures_guard _ _ _ _ _ _ _ (fun u same => same ▸ rfl) fun _ => ?_
  refine ensures_bind _ _ _ (fun _ u => u.boot = { t.boot with counters := ⟨0, 0, t.clock.timeEpoch⟩ }) _ _ ?_ fun _ => ?_
  · refine ensures_weaken _ _ _ (fun u : TpmState => u.boot = t.boot) _ ?_ fun u same => same ▸ rfl
    refine ensures_keeps_bind boot (· = t.boot) _ _ _ _ (keeps_zoom _ _ _ _ fun _ _ => rfl) (fun _ same => same) fun _ => ?_
    refine ensures_modify _ _ _ _ fun u same => ?_
    simp only [boot, Boot.mk.injEq, BootCounters.mk.injEq] at same ⊢
    simp only [same, and_self]
  · refine ensures_bind _ _ _ (fun _ u => u.boot = { t.boot with counters := ⟨0, 0, t.clock.timeEpoch⟩ }) _ _ ?_ fun _ => ?_
    · exact ensures_modify _ _ _ _ fun u same => same
    · exact ensures_pure _ _ _ _ fun u same => same

end TpmState

end

end Swtrust
