import Swtrust.Device.Clock

set_option autoImplicit false
set_option linter.unusedSectionVars false

namespace Swtrust

open Library Action

namespace TpmState

def timed (s : TpmState) : Timed where
  clock := s.clock.clock
  time := s.clock.time
  rateAdjust := s.clock.rateAdjust
  rateRemainder := s.clock.rateRemainder
  lockout := s.lockout
  act := s.act.countdown

theorem scaled_millis (s : TpmState) (millis : UInt64) (paced : s.timed.Paced) (fits : s.timed.Fits millis.toNat) :
    scaledMillis s.clock millis =
      (UInt64.ofNat (s.timed.due millis.toNat / 1000).toNat, s.timed.due millis.toNat % 1000) := by
  have whole := s.timed.due_nonneg paced millis.toNat
  have slow : -100 ≤ s.clock.rateAdjust := paced.slow
  have carried : 0 ≤ s.clock.rateRemainder := paced.carried
  have small : s.clock.rateRemainder < 1000 := paced.small
  have total : s.timed.due millis.toNat = millis.toNat * (1000 + s.clock.rateAdjust) + s.clock.rateRemainder := rfl
  unfold Timed.Fits at fits
  have product : (millis.toNat : Int) * 900 ≤ millis.toNat * (1000 + s.clock.rateAdjust) :=
    Int.mul_le_mul_of_nonneg_left (by omega) (by omega)
  have signed : toI64 millis = millis.toNat := by
    unfold toI64
    rw [if_pos (by omega)]
  have inner : clampI64 (millis.toNat * (1000 + s.clock.rateAdjust)) = millis.toNat * (1000 + s.clock.rateAdjust) := by
    unfold clampI64
    omega
  have outer : clampI64 (s.timed.due millis.toNat) = s.timed.due millis.toNat := by
    unfold clampI64
    omega
  unfold scaledMillis
  dsimp only
  rw [signed, inner, ← total, outer, max_eq_left (by omega)]

-- Passing time is what it is to the quantities that it moves.
theorem advance_timed (s : TpmState) (millis : UInt64) (paced : s.timed.Paced) (fits : s.timed.Fits millis.toNat) :
    (s.advanceTime millis).2.timed = s.timed.elapse millis.toNat := by
  have carried : 0 ≤ s.timed.rateRemainder := paced.carried
  have small : s.timed.rateRemainder < 1000 := paced.small
  have scaled := s.scaled_millis millis paced fits
  unfold advanceTime
  by_cases none : millis = 0
  · have due : s.timed.due millis.toNat = s.timed.rateRemainder := by
      rw [none]
      unfold Timed.due
      simp
    have nothing : s.timed.rateRemainder / 1000 = 0 := by omega
    have rest : s.timed.rateRemainder % 1000 = s.timed.rateRemainder := by omega
    rw [if_pos none]
    unfold Timed.elapse
    rw [due, nothing, rest]
    rfl
  · rw [if_neg none, scaled]
    unfold Timed.elapse Timed.credit
    dsimp only
    by_cases early : UInt64.ofNat (s.timed.due millis.toNat / 1000).toNat = 0
    · rw [if_pos early, if_pos early]
      rfl
    · rw [if_neg early, if_neg early]
      have timer : (s.timed.act.advance (UInt64.ofNat (s.timed.due millis.toNat / 1000).toNat)).countdown =
          (s.act.advance (UInt64.ofNat (s.timed.due millis.toNat / 1000).toNat)).countdown := Act.countdown_advance _ _
      rw [timer]
      split
      · rfl
      · rfl

-- What a step may do to the countdown timer without a fraction of a second left over.
def ActSteps (before after : Act) : Prop :=
  after.fraction = 0 ∨ after.fraction = before.fraction ∧ after.timeout = before.timeout

theorem act_steps_steady : Steady ActSteps where
  refl _ := .inr ⟨rfl, rfl⟩
  trans _ _ _ first second := by
    rcases second with none | ⟨fraction, timeout⟩
    · exact .inl none
    · rcases first with none | ⟨fractionFirst, timeoutFirst⟩
      · exact .inl (fraction.trans none)
      · exact .inr ⟨fraction.trans fractionFirst, timeout.trans timeoutFirst⟩

def PaceKept (s t : TpmState) : Prop := s.timed.Paced → t.timed.Paced

theorem pace_kept_steady : Steady PaceKept := ⟨fun _ => id, fun _ _ _ first second => second ∘ first⟩

theorem pace_kept (s t : TpmState) (slow : -100 ≤ s.clock.rateAdjust → -100 ≤ t.clock.rateAdjust)
    (fast : s.clock.rateAdjust ≤ 100 → t.clock.rateAdjust ≤ 100)
    (carried : t.clock.rateRemainder = s.clock.rateRemainder) (act : ActSteps s.act t.act) : PaceKept s t := by
  intro paced
  have carriedOn : t.timed.rateRemainder = s.timed.rateRemainder := carried
  refine ⟨slow paced.slow, fast paced.fast, by rw [carriedOn]; exact paced.carried,
    by rw [carriedOn]; exact paced.small, ?_⟩
  rcases act with none | ⟨fraction, timeout⟩
  · exact Timed.countdown_fraction t.act (by rw [none]; decide)
  · have before : s.act.countdown.fraction.toNat < 1000 := paced.fraction
    have same : t.act.countdown.fraction = s.act.countdown.fraction := by
      unfold Act.countdown
      rw [timeout]
      split
      · rfl
      · exact fraction
    change t.act.countdown.fraction.toNat < 1000
    rw [same]
    exact before

theorem pace_kept_of_same (s t : TpmState) (rate : t.clock.rateAdjust = s.clock.rateAdjust)
    (carried : t.clock.rateRemainder = s.clock.rateRemainder) (act : t.act = s.act) : PaceKept s t :=
  pace_kept s t (fun slow => rate ▸ slow) (fun fast => rate ▸ fast) carried (.inr (by rw [act]; exact ⟨rfl, rfl⟩))

-- Clock and Time after a command that is neither a startup nor TPM2_Clear.
structure Onward (s t : TpmState) : Prop where
  time : t.clock.time = s.clock.time
  clock : s.clock.clock ≤ t.clock.clock

theorem onward_steady : Steady Onward :=
  ⟨fun _ => ⟨rfl, UInt64.le_refl _⟩, fun _ _ _ first second =>
    ⟨second.time.trans first.time, UInt64.le_trans first.clock second.clock⟩⟩

section

variable [Primitives]

-- A relation that only a change of the clock can break.
structure SparesClock (relation : TpmState → TpmState → Prop) : Prop where
  steady : Steady relation
  spares : ∀ s t : TpmState, t.clock = s.clock → ActSteps s.act t.act → relation s t
  clockSet : ∀ request : Request, Guarantees relation (Scope.clock.zoom (Swtrust.clockSet request))
  clockRateAdjust : ∀ request : Request, Guarantees relation (Scope.clock.zoom (Swtrust.clockRateAdjust request))

theorem handlers_spare_clock :
    (handlers.all fun row => (row.2.scope != .clock && row.2.scope != .act && row.2.scope != .whole) ||
      ([Cc.clockSet, Cc.clockRateAdjust, Cc.actSetTimeout, Cc.shutdown, Cc.startup, Cc.clear] : List UInt32).contains
        row.1) = true := by
  rfl

-- Setting the timer drops the fraction of a second.
theorem act_set_timeout_steps (request : Request) :
    Guarantees ActSteps (Swtrust.actSetTimeout request : Action TpmRc Act Response) := by
  refine guarantees_lift_bind act_steps_steady.refl _ _ fun handle _ => ?_
  refine guarantees_lift_bind act_steps_steady.refl _ _ fun start _ => ?_
  refine guarantees_guard act_steps_steady.refl _ _ _ _ fun _ => ?_
  refine guarantees_bind act_steps_steady _ _ (guarantees_modify _ _ fun act => .inl ?_) fun _ =>
    guarantees_pure act_steps_steady.refl _
  unfold Act.setTimeout
  dsimp only
  split
  · rfl
  · rfl

section

variable (relation : TpmState → TpmState → Prop) (spared : SparesClock relation)

include spared

theorem spares_undisturbed : Undisturbed relation where
  steady := spared.steady
  nullified request s := by
    unfold nullifyShutdown
    split
    · exact spared.spares _ _ rfl (.inr ⟨rfl, rfl⟩)
    · exact spared.steady.refl s
  authorized request names count index :=
    guarantees_authorize_from _ (fun _ _ _ => spared.spares _ _ rfl (.inr ⟨rfl, rfl⟩)) request names count index
  suppressed _ _ := spared.spares _ _ rfl (.inr ⟨rfl, rfl⟩)
  failed _ := spared.spares _ _ rfl (.inr ⟨rfl, rfl⟩)
  responded request reply names contexts parameters := by
    refine guarantees_respond_of_view (fun s => (s.clock, s.act)) _ ?_ request ?_ reply names contexts parameters
    · intro s t same
      have act : t.act = s.act := congrArg Prod.snd same
      exact spared.spares _ _ (congrArg Prod.fst same) (.inr (by rw [act]; exact ⟨rfl, rfl⟩))
    · exact ⟨fun _ _ => rfl, fun _ _ => rfl, fun _ _ => rfl, fun _ _ _ _ => rfl, fun _ _ _ => rfl⟩

theorem spares_run_command (request : Request)
    (startup : request.code = Cc.startup → Guarantees relation (runCommand request))
    (clear : request.code = Cc.clear → Guarantees relation (runCommand request)) :
    Guarantees relation (runCommand request) := by
  refine guarantees_run_listed _ spared.steady.refl
    (fun scope => scope != .clock && scope != .act && scope != .whole) _ handlers_spare_clock
    (fun scope action spares => ?_) request fun listed => ?_
  · cases scope with
    | clock | act | whole => cases spares
    | _ => exact guarantees_zoom _ _ _ action fun _ => spared.spares _ _ rfl (.inr ⟨rfl, rfl⟩)
  · simp only [List.mem_cons, List.not_mem_nil, or_false] at listed
    rcases listed with code | code | code | code | code | code
    · rw [run_command_of request (.plain .clock fun _ => Swtrust.clockSet) (by rw [code]; rfl)]
      exact fun s => guarantees_map relation _ _ (spared.clockSet request) s
    · rw [run_command_of request (.plain .clock fun _ => Swtrust.clockRateAdjust) (by rw [code]; rfl)]
      exact fun s => guarantees_map relation _ _ (spared.clockRateAdjust request) s
    · rw [run_command_of request (.plain .act fun _ => Swtrust.actSetTimeout) (by rw [code]; rfl)]
      have counted : Guarantees relation (Scope.act.zoom (Swtrust.actSetTimeout request)) :=
        guarantees_zoom _ _ _ _ fun t => spared.spares t _ rfl (act_set_timeout_steps request t.act)
      exact fun s => guarantees_map relation _ _ counted s
    · rw [run_command_of request (.plain .whole fun _ => Swtrust.shutdown) (by rw [code]; rfl)]
      refine fun s => guarantees_map relation _ _ (?_ : Guarantees relation (Swtrust.shutdown request)) s
      refine guarantees_lift_bind spared.steady.refl _ _ fun shutdownType _ => guarantees_get_bind _ _ fun s => ?_
      refine guarantees_guard spared.steady.refl _ _ _ _ (fun _ => ?_) s
      refine guarantees_guard spared.steady.refl _ _ _ _ fun _ => ?_
      refine guarantees_bind spared.steady _ _ (guarantees_modify _ _ fun s => ?_) fun _ => guarantees_pure spared.steady.refl _
      refine spared.spares _ _ rfl ?_
      by_cases kept : shutdownType = Su.state
      · exact .inl (by simp [kept, Act.onShutdownState])
      · exact .inr (by simp [kept])
    · exact startup code
    · exact clear code

end

-- TPM2_ClockSet never puts Clock back.
theorem clock_set_changes (request : Request) (clock : ClockState) :
    final (Swtrust.clockSet request clock) = clock ∨ ∃ newTime nvElapsed safe, clock.clock ≤ newTime ∧
      final (Swtrust.clockSet request clock) = { clock with clock := newTime, nvElapsed, safe } := by
  unfold Swtrust.clockSet
  refine final_lift_bind (fun left => left = clock ∨ ∃ newTime nvElapsed safe, clock.clock ≤ newTime ∧
    left = { clock with clock := newTime, nvElapsed, safe }) _ _ _ (.inl rfl) fun newTime _ => ?_
  rw [run_get_bind]
  by_cases refused : newTime < clock.clock ∨ Config.maxClock < newTime
  · rw [if_pos refused]
    exact .inl rfl
  · rw [if_neg refused]
    right
    have later : clock.clock ≤ newTime := UInt64.not_lt.mp fun less => refused (.inl less)
    by_cases due : Config.nvClockUpdateInterval ≤ satAdd clock.nvElapsed (newTime - clock.clock)
    · refine ⟨newTime, 0, true, later, ?_⟩
      simp only [due, if_true]
      rfl
    · refine ⟨newTime, satAdd clock.nvElapsed (newTime - clock.clock), clock.safe, later, ?_⟩
      simp only [due, if_false]
      rfl

theorem clock_rate_adjust_changes (request : Request) (clock : ClockState) :
    final (Swtrust.clockRateAdjust request clock) = clock ∨ ∃ rateAdjust, -100 ≤ rateAdjust ∧ rateAdjust ≤ 100 ∧
      final (Swtrust.clockRateAdjust request clock) = { clock with rateAdjust } := by
  unfold Swtrust.clockRateAdjust
  refine final_lift_bind (fun left => left = clock ∨ ∃ rateAdjust, -100 ≤ rateAdjust ∧ rateAdjust ≤ 100 ∧
    left = { clock with rateAdjust }) _ _ _ (.inl rfl) fun adjust _ => ?_
  refine final_lift_bind (fun left => left = clock ∨ ∃ rateAdjust, -100 ≤ rateAdjust ∧ rateAdjust ≤ 100 ∧
    left = { clock with rateAdjust }) _ _ _ (.inl rfl) fun step _ => ?_
  rw [run_get_bind]
  dsimp only
  by_cases refused : clock.rateAdjust + step < -100 ∨ 100 < clock.rateAdjust + step
  · rw [if_pos refused]
    exact .inl rfl
  · rw [if_neg refused]
    rw [not_or] at refused
    exact .inr ⟨clock.rateAdjust + step, by omega, by omega, rfl⟩

theorem pace_spares_clock : SparesClock PaceKept where
  steady := pace_kept_steady
  spares s t clock act := pace_kept s t (fun slow => clock ▸ slow) (fun fast => clock ▸ fast) (clock ▸ rfl) act
  clockSet request := by
    refine guarantees_zoom _ _ _ _ fun s => ?_
    rcases clock_set_changes request s.clock with same | ⟨_, _, _, _, same⟩
    · rw [same]
      exact id
    · rw [same]
      exact pace_kept _ _ id id rfl (.inr ⟨rfl, rfl⟩)
  clockRateAdjust request := by
    refine guarantees_zoom _ _ _ _ fun s => ?_
    rcases clock_rate_adjust_changes request s.clock with same | ⟨rateAdjust, slow, fast, same⟩
    · rw [same]
      exact id
    · rw [same]
      exact pace_kept _ _ (fun _ => slow) (fun _ => fast) rfl (.inr ⟨rfl, rfl⟩)

theorem onward_spares_clock : SparesClock Onward where
  steady := onward_steady
  spares s t clock _ := ⟨by rw [clock], by rw [clock]; exact UInt64.le_refl _⟩
  clockSet request := by
    refine guarantees_zoom _ _ _ _ fun s => ?_
    rcases clock_set_changes request s.clock with same | ⟨_, _, _, later, same⟩
    · rw [same]
      exact onward_steady.refl s
    · rw [same]
      exact ⟨rfl, later⟩
  clockRateAdjust request := by
    refine guarantees_zoom _ _ _ _ fun s => ?_
    rcases clock_rate_adjust_changes request s.clock with same | ⟨_, _, _, same⟩
    · rw [same]
      exact onward_steady.refl s
    · rw [same]
      exact ⟨rfl, UInt64.le_refl _⟩

-- A startup leaves the rate as it was, and no fraction of a second.
theorem pace_modify (f : TpmState → TpmState) (changes : ∀ s, PaceKept s (f s)) (rest : PUnit → TpmM Unit)
    (ensured : ∀ u, Guarantees PaceKept (rest u)) : Guarantees PaceKept (modify f >>= rest) :=
  guarantees_bind pace_kept_steady _ _ (guarantees_modify _ _ changes) ensured

theorem pace_begin (orderly keepReadOnly : Bool) (act : Act → Act) (whole : ∀ a, (act a).fraction = 0) :
    Guarantees PaceKept (modify fun s => beginOperation orderly keepReadOnly
      { s with act := act s.act, lockout := s.lockout.onStartup } : TpmM Unit) :=
  guarantees_modify _ _ fun s => pace_kept s _ id id rfl (.inl (whole s.act))

theorem pace_hierarchies {α : Type} (action : Action TpmRc (Hierarchies × Drbg) α) :
    Guarantees PaceKept (zoomHierarchies action) := by
  refine guarantees_zoom _ _ _ _ fun s => ?_
  exact pace_kept_of_same _ _ rfl rfl rfl

theorem pace_rng {α : Type} (action : Action TpmRc Drbg α) : Guarantees PaceKept (zoomRng action) := by
  refine guarantees_zoom _ _ _ _ fun s => ?_
  exact pace_kept_of_same _ _ rfl rfl rfl

theorem pace_commits {α : Type} (action : Action TpmRc (Commits × Drbg) α) : Guarantees PaceKept (zoomCommits action) := by
  refine guarantees_zoom _ _ _ _ fun s => ?_
  exact pace_kept_of_same _ _ rfl rfl rfl

theorem pace_startup_clear (locality : UInt8) : Guarantees PaceKept (onStartupClear locality) := by
  have began : ∀ disorderly, Guarantees PaceKept (modify fun s => beginOperation disorderly false
      { s with act := s.act.onReset, lockout := s.lockout.onStartup } : TpmM Unit) := fun disorderly =>
    pace_begin disorderly false Act.onReset fun _ => rfl
  have timed : ∀ counts : Bool, ∀ rest : TpmM Unit, Guarantees PaceKept rest → Guarantees PaceKept (do
      modify fun s => { s with clock := { s.clock with time := 0, nvElapsed := 0 } }
      if counts then
        modify fun s => { s with
          clock := { s.clock with safe := false }
          lockout := s.lockout.countPendingFailure }
      rest : TpmM Unit) := by
    intro counts rest ensured
    refine pace_modify _ (fun s => ?_) _ fun _ => ?_
    · exact pace_kept_of_same _ _ rfl rfl rfl
    · refine guarantees_ite _ _ _ _ (fun _ => ?_) fun _ => ensured
      refine pace_modify _ (fun s => ?_) _ fun _ => ensured
      exact pace_kept_of_same _ _ rfl rfl rfl
  refine guarantees_get_bind _ _ fun s => ?_
  refine guarantees_bind pace_kept_steady _ _ (pace_hierarchies _) (fun _ => ?_) s
  refine pace_modify _ (fun s => ?_) _ fun _ => ?_
  · exact pace_kept_of_same _ _ rfl rfl rfl
  · by_cases restart : (s.shutdownType == Su.state) = true
    · simp only [restart, Bool.not_true, Bool.false_eq_true, if_false, if_true]
      iterate 5
        refine pace_modify _ (fun s => ?_) _ fun _ => ?_
        · exact pace_kept_of_same _ _ rfl rfl rfl
      exact timed _ _ (began _)
    · simp only [restart, Bool.not_false, Bool.false_eq_true, if_false, if_true]
      iterate 5
        refine pace_modify _ (fun s => ?_) _ fun _ => ?_
        · exact pace_kept_of_same _ _ rfl rfl rfl
      refine guarantees_bind pace_kept_steady _ _ (pace_rng _) fun _ => ?_
      iterate 2
        refine pace_modify _ (fun s => ?_) _ fun _ => ?_
        · exact pace_kept_of_same _ _ rfl rfl rfl
      refine timed _ _ ?_
      refine pace_modify _ (fun s => ?_) _ fun _ => ?_
      · exact pace_kept_of_same _ _ rfl rfl rfl
      · exact guarantees_bind pace_kept_steady _ _ (pace_commits _) fun _ => began _

theorem pace_at_guard (s : TpmState) (c : Prop) [Decidable c] (e : TpmRc) (next : PUnit → TpmM Unit) (rest : TpmM Unit)
    (ensured : ¬ c → PaceKept s (final (rest s))) : PaceKept s (final ((if c then throw e >>= next else rest) s)) := by
  by_cases given : c
  · rw [if_pos given]
    exact id
  · rw [if_neg given]
    exact ensured given

theorem pace_startup_state (locality : UInt8) : Guarantees PaceKept (onStartupState locality) := by
  have began := pace_begin true true Act.onResume fun _ => rfl
  refine guarantees_get_bind _ _ fun s => ?_
  refine pace_at_guard s _ _ _ _ fun _ => ?_
  refine pace_at_guard s _ _ _ _ fun _ => ?_
  refine pace_at_guard s _ _ _ _ fun _ => ?_
  dsimp only
  rw [run_set_bind]
  have readied := guarantees_ite PaceKept ((!s.commits.isReady) = true) _ _
    (fun _ => guarantees_bind pace_kept_steady _ _ (pace_commits Commits.reset) fun _ => began) fun _ => began
  refine pace_kept_steady.trans s _ _ ?_ (readied _)
  exact pace_kept_of_same _ _ rfl rfl rfl

theorem pace_startup (request : Request) : Guarantees PaceKept (Swtrust.startup request) := by
  refine guarantees_lift_bind pace_kept_steady.refl _ _ fun startupType _ => ?_
  refine guarantees_guard pace_kept_steady.refl _ _ _ _ fun _ => ?_
  have resumed : Guarantees PaceKept (do
      onStartupState request.locality
      return .empty : TpmM Response) :=
    guarantees_bind pace_kept_steady _ _ (pace_startup_state _) fun _ => guarantees_pure pace_kept_steady.refl _
  refine guarantees_ite _ _ _ _ (fun _ => ?_) fun _ => guarantees_ite _ _ _ _ (fun _ => ?_) fun _ => ?_
  · exact guarantees_bind pace_kept_steady _ _ (pace_startup_clear _) fun _ => guarantees_pure pace_kept_steady.refl _
  · refine guarantees_get_bind _ _ fun s => ?_
    exact guarantees_guard pace_kept_steady.refl _ _ _ _ (fun _ => resumed) s
  · exact fun s => pace_kept_steady.refl s

theorem pace_clear (request : Request) : Guarantees PaceKept (Swtrust.clear request) := by
  refine guarantees_get_bind _ _ fun s => ?_
  refine guarantees_guard pace_kept_steady.refl _ _ _ _ (fun _ => ?_) s
  refine guarantees_bind pace_kept_steady _ _ ?_ fun _ => guarantees_bind pace_kept_steady _ _ ?_ fun _ =>
    guarantees_pure pace_kept_steady.refl _
  · refine guarantees_bind pace_kept_steady _ _ (pace_hierarchies _) fun _ => ?_
    refine guarantees_modify _ _ fun s => ?_
    exact pace_kept_of_same _ _ rfl rfl rfl
  · refine guarantees_modify _ _ fun s => ?_
    exact pace_kept_of_same _ _ rfl rfl rfl

theorem pace_run_command (request : Request) : Guarantees PaceKept (runCommand request) := by
  refine spares_run_command _ pace_spares_clock request (fun code => ?_) fun code => ?_
  · rw [run_command_of request (.plain .whole fun _ => Swtrust.startup) (by rw [code]; rfl)]
    exact fun s => guarantees_map PaceKept _ _ (pace_startup request : Guarantees PaceKept (Swtrust.startup request)) s
  · rw [run_command_of request (.plain .whole fun _ => Swtrust.clear) (by rw [code]; rfl)]
    exact fun s => guarantees_map PaceKept _ _ (pace_clear request : Guarantees PaceKept (Swtrust.clear request)) s

theorem run_paced (s : TpmState) (locality : UInt8) (octets : Bytes) : PaceKept s (run locality octets s).2 :=
  run_guarantees PaceKept (spares_undisturbed _ pace_spares_clock) s locality octets
    fun request parameters _ => pace_run_command { request with parameters }

-- A command that is neither a startup nor TPM2_Clear lets Time be, and does not put Clock back.
theorem run_onward (s : TpmState) (locality : UInt8) (octets : Bytes)
    (started : (Event.command locality octets).isCommand Cc.startup = false)
    (cleared : (Event.command locality octets).isCommand Cc.clear = false) : Onward s (run locality octets s).2 := by
  refine run_guarantees Onward (spares_undisturbed _ onward_spares_clock) s locality octets
    fun request parameters parsed => ?_
  have apart : ∀ code, (Event.command locality octets).isCommand code = false → request.code ≠ code := by
    intro code other same
    simp [Event.isCommand, parsed, found, same] at other
  exact spares_run_command _ onward_spares_clock _ (fun code => absurd code (apart _ started))
    fun code => absurd code (apart _ cleared)

theorem act_advance_fraction (act : Act) (millis : UInt64) (small : act.fraction.toNat < 1000) :
    (act.advance millis).fraction.toNat < 1000 := by
  have rest : (satAdd act.fraction millis % 1000).toNat < 1000 := by
    rw [UInt64.toNat_mod]
    exact Nat.mod_lt _ (by decide)
  unfold Act.advance
  split
  · exact small
  · dsimp only
    split
    · exact rest
    · split
      · exact rest
      · exact rest

-- Whatever time passes, the rate stays and what is carried stays small.
theorem advance_paced (s : TpmState) (millis : UInt64) : PaceKept s (s.advanceTime millis).2 := by
  intro paced
  have carried : ∀ millis, 0 ≤ (scaledMillis s.clock millis).2 ∧ (scaledMillis s.clock millis).2 < 1000 := by
    intro millis
    unfold scaledMillis
    dsimp only
    omega
  have timer : ∀ millis, (s.act.advance millis).countdown.fraction.toNat < 1000 := by
    intro millis
    rw [← Act.countdown_advance]
    exact Timed.countdown_fraction _ (act_advance_fraction _ _ paced.fraction)
  unfold advanceTime
  split
  · exact paced
  · dsimp only
    split
    · exact ⟨paced.slow, paced.fast, (carried millis).1, (carried millis).2, paced.fraction⟩
    · split
      · exact ⟨paced.slow, paced.fast, (carried millis).1, (carried millis).2, timer _⟩
      · exact ⟨paced.slow, paced.fast, (carried millis).1, (carried millis).2, timer _⟩

theorem power_on_paced (s : TpmState) : PaceKept s s.powerOn := by
  have tested : ∀ t : TpmState, PaceKept t (final (zoomTest runSelfTests t)) := fun t =>
    guarantees_zoom PaceKept _ _ _ (fun t => pace_kept_of_same t _ rfl rfl rfl) t
  have initial : ∀ t : TpmState, PaceKept t (final (onInit t)) := by
    intro t
    obtain ⟨_, _, _, _, _, same⟩ := on_init_changes t
    rw [same]
    exact pace_kept_of_same _ _ rfl rfl rfl
  unfold powerOn
  refine pace_kept_steady.trans s _ _ ?_ (tested _)
  dsimp only
  have begun : PaceKept s (if s.nvWriteFailed then
      { s with failureMode := true, testFailure := some "nv write" } else s) := by
    split
    · exact pace_kept_of_same _ _ rfl rfl rfl
    · exact id
  refine pace_kept_steady.trans s _ _ begun ?_
  generalize (if s.nvWriteFailed then { s with failureMode := true, testFailure := some "nv write" } else s) = t
  refine pace_kept_steady.trans t _ _ (pace_kept_of_same t { t with started := false } rfl rfl rfl) ?_
  refine pace_kept_steady.trans _ _ _ (initial _) ?_
  exact pace_kept_of_same _ _ rfl rfl rfl

theorem hash_end_paced (s : TpmState) : PaceKept s s.hashEnd := by
  have folded : ∀ (digests : List (UInt16 × Bytes)) (t : TpmState), PaceKept t (digests.foldl measureHcrtm t) := by
    intro digests
    induction digests with
    | nil => exact fun t => id
    | cons digest rest ih =>
        intro t
        obtain ⟨_, _, same⟩ := measure_hcrtm_changes t digest
        rw [List.foldl_cons, same]
        refine pace_kept_steady.trans t _ _ ?_ (ih _)
        exact pace_kept_of_same _ _ rfl rfl rfl
  unfold hashEnd
  split
  · exact id
  · dsimp only
    split
    · exact pace_kept_of_same _ _ rfl rfl rfl
    · refine pace_kept_steady.trans s _ _ ?_ (pace_kept_of_same _ _ rfl rfl rfl)
      exact pace_kept_steady.trans s _ _ (pace_kept_of_same s { s with hcrtmSequence := none } rfl rfl rfl) (folded _ _)

-- A TPM that runs at the nominal rate and carries nothing.
theorem paced_of_nominal (s : TpmState) (rate : s.clock.rateAdjust = 0) (carried : s.clock.rateRemainder = 0)
    (fraction : s.act.fraction = 0) : s.timed.Paced := by
  refine ⟨?_, ?_, ?_, ?_, Timed.countdown_fraction _ (by rw [fraction]; decide)⟩
  · change -100 ≤ s.clock.rateAdjust
    omega
  · change s.clock.rateAdjust ≤ 100
    omega
  · exact carried.symm.le
  · change s.clock.rateRemainder < 1000
    omega

end

end TpmState

namespace Tpm

open TpmState

section

variable [Primitives]

theorem signal_paced (t : Tpm) (signal : Signal) (paced : t.state.timed.Paced) :
    (t.after signal).state.timed.Paced := by
  cases signal with
  | execute elapsed written locality command =>
      change (t.execute elapsed written locality command).2.state.timed.Paced
      cases powered : t.powered with
      | false =>
          have same := t.execute_unpowered elapsed written locality command powered
          rw [same]
          exact paced
      | true =>
          -- The clock is brought up to the command first, and the pace holds from there.
          have arrived : PaceKept t.state (t.arrive elapsed).2 :=
            pace_kept_steady.trans _ _ _ (pace_kept_of_same t.state { t.state with hcrtmSequence := none } rfl rfl rfl)
              (advance_paced _ elapsed)
          have ran : (t.ran elapsed locality command).2.timed.Paced := run_paced _ locality command (arrived paced)
          have ended := t.execute_executes elapsed written locality command powered
          generalize t.execute elapsed written locality command = result at ended ⊢
          cases ended with
          | saved healthy writes => exact ran
          | closed refused writes => exact ran
          | clockLost refused plain same rolled => exact ran
          | unsaved plain same still => exact ran
  | powerOn fresh =>
      change (t.powerOn fresh).state.timed.Paced
      unfold powerOn
      dsimp only
      split
      · exact power_on_paced _ (paced_of_nominal _ rfl rfl rfl)
      · exact power_on_paced _ paced
  | powerOff written =>
      have same := t.persist_state written
      change (t.persist written).2.state.powerOff.timed.Paced
      rw [same]
      exact paced
  | nv available => exact paced
  | physicalPresence asserted => exact paced
  | hashStart => exact paced
  | hashData data => exact paced
  | hashEnd => exact hash_end_paced t.state paced
  | actGetSignaled act elapsed written =>
      refine holds_after_poll (·.state.timed.Paced) t act elapsed written (fun millis => advance_paced t.state millis paced)
        fun u kept => ?_
      rw [u.persist_state written]
      exact kept
  | restart fresh => exact paced_of_nominal _ rfl rfl rfl

theorem manufactured_paced (seed : Bytes) (s : TpmState) (made : TpmState.manufacture seed = .ok s) :
    s.timed.Paced := by
  simp only [TpmState.manufacture, bind_is_ok, pure_is_ok] at made
  obtain ⟨_, _, _, _, _, _, rfl⟩ := made
  exact paced_of_nominal _ rfl rfl rfl

theorem run_is_paced (seed : Bytes) (s : TpmState) (made : TpmState.manufacture seed = .ok s) (signals : List Signal) :
    ((manufactured s).afterAll signals).state.timed.Paced :=
  invariant_of_every after (fun _ _ => True) (fun t => t.state.timed.Paced) (fun t signal _ => signal_paced t signal)
    _ signals (every_of_all _ _ _ _ fun _ _ _ => trivial) (manufactured_paced seed s made)

end

end Tpm

namespace TpmState

section

variable [Primitives]

-- Time passes, or something happens that leaves Clock, Time, the lockout and the timer as they are.
def Quiet (s : TpmState) (event : Event) : Prop :=
  match event with
  | .elapse _ => True
  | event => (s.after event).timed = s.timed

-- The milliseconds that pass in a run.
def passing : List Event → Nat
  | [] => 0
  | .elapse millis :: rest => millis.toNat + passing rest
  | _ :: rest => passing rest

theorem after_all_timed (s : TpmState) (events : List Event) (paced : s.timed.Paced)
    (quiet : EveryEvent Quiet s events) (fits : s.timed.Fits (passing events)) :
    (s.afterAll events).timed = s.timed.elapse (passing events) := by
  induction events generalizing s with
  | nil =>
      have same := s.advance_timed 0 paced fits
      exact same
  | cons event rest ih =>
      obtain ⟨here, later⟩ := quiet
      by_cases elapses : ∃ millis, event = .elapse millis
      · obtain ⟨millis, rfl⟩ := elapses
        obtain ⟨first, second⟩ := s.timed.fits_parts paced millis.toNat (passing rest) fits
        have advanced : (s.after (.elapse millis)).timed = s.timed.elapse millis.toNat := s.advance_timed millis paced first
        have pacedLater : (s.after (.elapse millis)).timed.Paced := advanced ▸ s.timed.elapse_paced paced _ first
        have rested := ih (s.after (.elapse millis)) pacedLater later (by rw [advanced]; exact second)
        rw [advanced, s.timed.elapse_elapse paced millis.toNat (passing rest) fits] at rested
        exact rested
      · have same : (s.after event).timed = s.timed := by
          cases event with
          | elapse millis => exact absurd ⟨millis, rfl⟩ elapses
          | _ => exact here
        have count : passing (event :: rest) = passing rest := by
          cases event with
          | elapse millis => exact absurd ⟨millis, rfl⟩ elapses
          | _ => rfl
        rw [count] at fits ⊢
        have rested := ih (s.after event) (same ▸ paced) later (by rw [same]; exact fits)
        rw [same] at rested
        exact rested

-- Clock and Time have not gone back.
structure Forward (s t : TpmState) : Prop where
  time : s.clock.time ≤ t.clock.time
  clock : s.clock.clock ≤ t.clock.clock

theorem forward_steady : Steady Forward :=
  ⟨fun _ => ⟨UInt64.le_refl _, UInt64.le_refl _⟩, fun _ _ _ first second =>
    ⟨UInt64.le_trans first.time second.time, UInt64.le_trans first.clock second.clock⟩⟩

-- Time goes back to zero with the power and a startup, and Clock with TPM2_Clear.
def WithinEpoch (event : Event) : Prop :=
  event ≠ .powerOn ∧ event.isCommand Cc.startup = false ∧ event.isCommand Cc.clear = false

theorem advance_forward (s : TpmState) (millis : UInt64) : Forward s (s.advanceTime millis).2 := by
  unfold advanceTime
  split
  · exact forward_steady.refl s
  · dsimp only
    split
    · exact ⟨UInt64.le_refl _, UInt64.le_refl _⟩
    · split
      · exact ⟨sat_add_ge _ _, sat_add_ge _ _⟩
      · exact ⟨sat_add_ge _ _, sat_add_ge _ _⟩

theorem hash_end_forward (s : TpmState) : Forward s s.hashEnd := by
  have folded : ∀ (digests : List (UInt16 × Bytes)) (t : TpmState), (digests.foldl measureHcrtm t).clock = t.clock := by
    intro digests
    induction digests with
    | nil => exact fun t => rfl
    | cons digest rest ih =>
        intro t
        obtain ⟨_, _, same⟩ := measure_hcrtm_changes t digest
        rw [List.foldl_cons, ih, same]
  unfold hashEnd
  split
  · exact forward_steady.refl s
  · dsimp only
    split
    · exact ⟨UInt64.le_refl _, UInt64.le_refl _⟩
    · constructor
      · dsimp only
        rw [folded]
        exact UInt64.le_refl _
      · dsimp only
        rw [folded]
        exact UInt64.le_refl _

theorem after_forward (s : TpmState) (event : Event) (within : WithinEpoch event) : Forward s (s.after event) := by
  cases event with
  | elapse millis => exact advance_forward s millis
  | command locality octets =>
      have onward := run_onward { s with hcrtmSequence := none } locality octets within.2.1 within.2.2
      exact ⟨onward.time.symm ▸ UInt64.le_refl _, onward.clock⟩
  | powerOn => exact absurd rfl within.1
  | hashEnd => exact hash_end_forward s
  | _ => exact ⟨UInt64.le_refl _, UInt64.le_refl _⟩

-- What the clock of a TPM accounts for.
structure AccountsTime (s : TpmState) : Prop where
  splits : ∀ events, EveryEvent Quiet s events → s.timed.Fits (passing events) →
    (s.afterAll events).timed = (s.advanceTime (UInt64.ofNat (passing events))).2.timed
  forward : ∀ events, (∀ event ∈ events, WithinEpoch event) → Forward s (s.afterAll events)
  conserves : ∀ millis : UInt64, s.timed.Fits millis.toNat → ∃ credited : UInt64,
    (s.advanceTime millis).2.clock.time = satAdd s.clock.time credited ∧
      (s.advanceTime millis).2.clock.clock = satAdd s.clock.clock credited ∧
      (millis.toNat : Int) * (1000 + s.clock.rateAdjust) + s.clock.rateRemainder =
        1000 * credited.toNat + (s.advanceTime millis).2.clock.rateRemainder ∧
      0 ≤ (s.advanceTime millis).2.clock.rateRemainder ∧ (s.advanceTime millis).2.clock.rateRemainder < 1000

theorem passing_fits (s : TpmState) (paced : s.timed.Paced) (millis : Nat) (fits : s.timed.Fits millis) :
    (UInt64.ofNat millis).toNat = millis := by
  have slow : -100 ≤ s.timed.rateAdjust := paced.slow
  have carried := paced.carried
  have product : (millis : Int) * 900 ≤ millis * (1000 + s.timed.rateAdjust) :=
    Int.mul_le_mul_of_nonneg_left (by omega) (by omega)
  unfold Timed.Fits Timed.due at fits
  exact UInt64.toNat_ofNat_of_lt' (by rw [UInt64.size]; omega)

theorem accounts_time (s : TpmState) (paced : s.timed.Paced) : AccountsTime s where
  splits events quiet fits := by
    have read := s.passing_fits paced _ fits
    rw [s.after_all_timed events paced quiet fits, s.advance_timed _ paced (by rw [read]; exact fits), read]
  forward events within :=
    invariant_of_every after (fun _ event => WithinEpoch event) (Forward s)
      (fun t event inside reached => forward_steady.trans s t _ reached (after_forward t event inside)) s events
      (every_of_all _ _ _ _ fun _ event member => within event member) (forward_steady.refl s)
  conserves millis fits := by
    have advanced := s.advance_timed millis paced fits
    have time : (s.advanceTime millis).2.clock.time = (s.timed.elapse millis.toNat).time := congrArg Timed.time advanced
    have clock : (s.advanceTime millis).2.clock.clock = (s.timed.elapse millis.toNat).clock :=
      congrArg Timed.clock advanced
    have carried : (s.advanceTime millis).2.clock.rateRemainder = (s.timed.elapse millis.toNat).rateRemainder :=
      congrArg Timed.rateRemainder advanced
    have small := s.timed.credited_fits paced millis.toNat fits
    have positive := s.timed.due_nonneg paced millis.toNat
    have credit : (UInt64.ofNat (s.timed.due millis.toNat / 1000).toNat).toNat = (s.timed.due millis.toNat / 1000).toNat :=
      UInt64.toNat_ofNat_of_lt' (by rw [UInt64.size]; omega)
    have rest : (s.timed.elapse millis.toNat).rateRemainder = s.timed.due millis.toNat % 1000 := by
      unfold Timed.elapse Timed.credit
      split
      · rfl
      · rfl
    refine ⟨UInt64.ofNat (s.timed.due millis.toNat / 1000).toNat, ?_, ?_, ?_, ?_, ?_⟩
    · rw [time]
      unfold Timed.elapse Timed.credit
      by_cases none : UInt64.ofNat (s.timed.due millis.toNat / 1000).toNat = 0
      · rw [if_pos none, none]
        exact (sat_add_zero _).symm
      · rw [if_neg none]
        rfl
    · rw [clock]
      unfold Timed.elapse Timed.credit
      by_cases none : UInt64.ofNat (s.timed.due millis.toNat / 1000).toNat = 0
      · rw [if_pos none, none]
        exact (sat_add_zero _).symm
      · rw [if_neg none]
        rfl
    · rw [carried, rest, credit]
      change s.timed.due millis.toNat = _
      omega
    · rw [carried, rest]
      omega
    · rw [carried, rest]
      omega

end

end TpmState

section

variable [Primitives]

-- However the device was used before.
theorem clock_accounting (seed : Bytes) (s : TpmState) (made : TpmState.manufacture seed = .ok s)
    (signals : List Signal) : ((Tpm.manufactured s).afterAll signals).state.AccountsTime :=
  TpmState.accounts_time _ (Tpm.run_is_paced seed s made signals)

end

namespace Toy

-- So long an interval that the product with the rate no longer fits the word it is counted in.
def tooLong : List Event := [.elapse 0x4000000000000000, .elapse 0x4000000000000000]

theorem long_interval_is_lost : ¬ ∀ seed s, TpmState.manufacture seed = .ok s → ∀ signals events,
    TpmState.EveryEvent TpmState.Quiet ((Tpm.manufactured s).afterAll signals).state events →
    TpmState.passing events < 2 ^ 64 →
    (((Tpm.manufactured s).afterAll signals).state.afterAll events).timed =
      (((Tpm.manufactured s).afterAll signals).state.advanceTime (UInt64.ofNat (TpmState.passing events))).2.timed := by
  intro always
  have tested : found (TpmState.manufacture (List.replicate 48 7)) (fun s =>
      decide ((s.afterAll tooLong).timed ≠ (s.advanceTime (UInt64.ofNat (TpmState.passing tooLong))).2.timed)) = true := by
    rw [manufacture_made]
    decide +kernel
  obtain ⟨s, made, differ⟩ := ok_of_found _ _ tested
  have same := always _ s made [] tooLong ⟨trivial, trivial, trivial⟩ (by decide)
  exact absurd same (of_decide_eq_true differ)

-- A clock that runs fast by ten in a thousand, asked 333 milliseconds after that was set.
def fastClock (s : TpmState) : TpmState := ((Tpm.manufactured s).afterAll (startedWith
  [authorizedCommand Cc.clockRateAdjust [Rh.owner] [(Rh.rsPw, [])] (be8 3)] ++
    [.execute 333 true 0 (plainCommand Cc.getRandom [] (be16 8))])).state

-- It has a part of a millisecond left over, and makes the same of any parts of what follows.
theorem manufactured_accounts : ∃ s, (fastClock s).clock.rateAdjust ≠ 0 ∧ (fastClock s).clock.rateRemainder ≠ 0 ∧
    (fastClock s).AccountsTime ∧ ((fastClock s).afterAll [.elapse 499, .elapse 2]).timed =
      ((fastClock s).advanceTime 501).2.timed := by
  have tested : found (TpmState.manufacture (List.replicate 48 7)) (fun s =>
      decide ((fastClock s).clock.rateAdjust ≠ 0 ∧ (fastClock s).clock.rateRemainder ≠ 0 ∧
        (fastClock s).timed.due 501 ≤ 2 ^ 63 - 1)) = true := by
    rw [manufacture_made]
    decide +kernel
  obtain ⟨s, made, tested⟩ := ok_of_found _ _ tested
  obtain ⟨adjusted, left, fits⟩ := of_decide_eq_true tested
  have accounts : (fastClock s).AccountsTime := clock_accounting _ s made _
  exact ⟨s, adjusted, left, accounts, accounts.splits [.elapse 499, .elapse 2] ⟨trivial, trivial, trivial⟩ fits⟩

end Toy

end Swtrust
