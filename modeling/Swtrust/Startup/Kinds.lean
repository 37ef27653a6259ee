import Swtrust.Device.Resume
import Swtrust.Lockout.Events

set_option autoImplicit false
set_option linter.unusedSectionVars false

namespace Swtrust

open Library Action

-- The counters by which the startups are told apart.
structure BootCounters where
  resetCount : UInt32
  restartCount : UInt32
  timeEpoch : UInt64
  deriving DecidableEq

-- What the next TPM2_Startup is judged by, and what it counts.
@[ext] structure Boot where
  shutdownType : UInt16
  startupLocality : UInt8
  hcrtmAtLastStartup : Bool
  startupMethodUnknown : Bool
  hcrtmBeforeStartup : Bool
  started : Bool
  counters : BootCounters
  deriving DecidableEq

inductive StartupKind where
  | reset
  | restart
  | resume
  deriving DecidableEq

namespace StartupKind

-- The kind of a TPM2_Startup after a TPM2_Shutdown.
def of (startupType shutdownType : UInt16) : StartupKind :=
  if startupType = Su.state then resume else if shutdownType = Su.state then restart else reset

def counts : StartupKind → BootCounters → BootCounters
  | reset, c => ⟨c.resetCount + 1, 0, c.timeEpoch + 1⟩
  | restart, c | resume, c => ⟨c.resetCount, c.restartCount + 1, c.timeEpoch + 1⟩

end StartupKind

-- The seeds and proofs that no startup changes.
def SameSecrets (before after : Hierarchies) : Prop :=
  (after.platform.seed, after.platform.proof) = (before.platform.seed, before.platform.proof) ∧
    (after.owner.seed, after.owner.proof) = (before.owner.seed, before.owner.proof) ∧
    (after.endorsement.seed, after.endorsement.proof) = (before.endorsement.seed, before.endorsement.proof)

section

variable [Primitives]

namespace TpmState

def boot (s : TpmState) : Boot where
  shutdownType := s.shutdownType
  startupLocality := s.startupLocality
  hcrtmAtLastStartup := s.hcrtmAtLastStartup
  startupMethodUnknown := s.startupMethodUnknown
  hcrtmBeforeStartup := s.hcrtmBeforeStartup
  started := s.started
  counters := ⟨s.clock.resetCount, s.clock.restartCount, s.clock.timeEpoch⟩

-- The null hierarchy has its seed and its proof anew from the generator.
def Renewed (before : TpmState) (null : Hierarchy) : Prop :=
  ∃ drawn rest, Drbg.bytes Config.primarySeedSize before.rng = .ok null.seed drawn ∧
    Drbg.bytes Config.primarySeedSize drawn = .ok null.proof rest

-- What a startup of a kind does to the secrets of the hierarchies.
def Rekeys (s : TpmState) (kind : StartupKind) (after : Hierarchies) : Prop :=
  SameSecrets s.hierarchies after ∧
    match kind with
    | .reset => s.Renewed after.null
    | .restart | .resume => after.null = s.hierarchies.null

theorem on_reset_renewed (s : TpmState) (u : Unit) (ended : Hierarchies × Drbg)
    (ran : Succeeds (Hierarchies.onReset true) (s.hierarchies, s.rng) u ended) : s.Rekeys .reset ended.1 := by
  simp only [Hierarchies.onReset, if_true, Hierarchies.nullOf, Hierarchy.regenerate, Hierarchy.regenerateProof,
    Hierarchy.rngBytes, succeeds_bind, succeeds_zoom, succeeds_modify] at ran
  obtain ⟨_, _, ⟨_, ⟨seed, _, ⟨drawn, first, rfl⟩, _, _, rfl, proof, _, ⟨rest, second, rfl⟩, rfl⟩, rfl⟩, _, _, rfl,
    rfl⟩ := ran
  exact ⟨⟨rfl, rfl, rfl⟩, drawn, rest, first, second⟩

-- What a TPM Restart leaves; it cannot fail.
theorem startup_clear_after_state (locality : UInt8) (s : TpmState) (resumable : s.shutdownType = Su.state) :
    ∃ s', onStartupClear locality s = .ok () s' ∧
      s'.boot = ⟨Su.none, locality, s.hcrtmBeforeStartup, false, false, true,
        StartupKind.restart.counts s.boot.counters⟩ ∧ s.Rekeys .restart s'.hierarchies := by
  refine ⟨final (onStartupClear locality s), ?_, ?_⟩
  all_goals
    have restart : (s.shutdownType == Su.state) = true := by simp [resumable]
    have orderly : (s.shutdownType == Su.none) = false := by rw [resumable]; decide
    unfold onStartupClear
    rw [run_get_bind]
    simp only [restart, orderly, Bool.not_true, Bool.false_eq_true, if_false, if_true, Bool.false_and]
  · rfl
  · exact ⟨rfl, ⟨rfl, rfl, rfl⟩, rfl⟩

theorem startup_clear_resets (locality : UInt8) (s s' : TpmState) (u : Unit) (lost : s.shutdownType ≠ Su.state)
    (ran : Succeeds (onStartupClear locality) s u s') :
    s'.boot = ⟨Su.none, locality, s.hcrtmBeforeStartup, false, false, true,
      StartupKind.reset.counts s.boot.counters⟩ ∧ s.Rekeys .reset s'.hierarchies := by
  have restart : (s.shutdownType == Su.state) = false := by simp [lost]
  unfold onStartupClear at ran
  simp only [succeeds_bind, succeeds_get] at ran
  obtain ⟨_, _, ⟨rfl, rfl⟩, _, _, renewed, ran⟩ := ran
  simp only [restart, Bool.not_false, zoomHierarchies, succeeds_zoom] at renewed
  obtain ⟨ended, renewed, rfl⟩ := renewed
  have rekeyed := on_reset_renewed _ _ _ renewed
  simp only [restart, Bool.not_false, Bool.false_eq_true, if_false, if_true, succeeds_bind, succeeds_modify, zoomRng,
    zoomCommits, succeeds_zoom] at ran
  obtain ⟨_, _, rfl, _, _, rfl, _, _, rfl, _, _, rfl, _, _, rfl, _, _, rfl, _, _, ⟨rng, _, rfl⟩, _, _, rfl, _, _, rfl,
    _, _, rfl, ran⟩ := ran
  split at ran
  all_goals simp only [succeeds_bind, succeeds_modify, succeeds_zoom] at ran
  · obtain ⟨_, _, rfl, _, _, rfl, _, _, ⟨_, _, rfl⟩, rfl⟩ := ran
    exact ⟨rfl, rekeyed⟩
  · obtain ⟨_, _, rfl, _, _, ⟨_, _, rfl⟩, rfl⟩ := ran
    exact ⟨rfl, rekeyed⟩

-- What a startup that fails leaves as it was.
def unbegun (s : TpmState) : UInt16 × Bool × UInt64 × Bool :=
  (s.shutdownType, s.started, s.clock.timeEpoch, s.startupMethodUnknown)

-- Only what begins the operation, at the end of a startup, changes it.
theorem startup_clear_fails (locality : UInt8) (s : TpmState) (lost : s.shutdownType ≠ Su.state)
    (known : s.startupMethodUnknown = false) :
    Ensures (fun t => t = s) (onStartupClear locality) (fun _ _ => True) fun t => t.unbegun = s.unbegun := by
  have restart : (s.shutdownType == Su.state) = false := by simp [lost]
  have falls : ∀ v, v = s.unbegun → v = s.unbegun := fun _ held => held
  have begins : ∀ (orderly : Bool), Ensures (fun t : TpmState => t.unbegun = s.unbegun)
      (modify fun t => beginOperation orderly false { t with act := t.act.onReset, lockout := t.lockout.onStartup } :
        TpmM PUnit) (fun _ _ => True) fun t => t.unbegun = s.unbegun := fun orderly =>
    ensures_modify _ _ _ _ fun _ _ => trivial
  unfold onStartupClear
  refine ensures_get_bind _ _ _ _ fun t same => ?_
  subst same
  simp only [restart, Bool.not_false, Bool.false_eq_true, if_false, if_true]
  refine ensures_weaken _ _ _ (fun u : TpmState => u.unbegun = t.unbegun) _ ?_ fun u same => same ▸ rfl
  refine ensures_keeps_bind unbegun (· = t.unbegun) _ _ _ _ (keeps_zoom _ _ _ _ fun _ _ => rfl) (fun u => falls _) fun _ => ?_
  refine ensures_bind _ _ _ (fun _ u => u.unbegun = t.unbegun) _ _ ?_ fun _ => ?_
  · refine ensures_modify _ _ _ _ fun u held => ?_
    simp only [unbegun, Prod.mk.injEq] at held ⊢
    exact ⟨held.1, held.2.1, held.2.2.1, known.symm⟩
  iterate 5
    refine ensures_keeps_bind unbegun (· = t.unbegun) _ _ _ _ (keeps_modify _ _ fun _ => rfl) (fun u => falls _) fun _ => ?_
  refine ensures_keeps_bind unbegun (· = t.unbegun) _ _ _ _ (keeps_zoom _ _ _ _ fun _ _ => rfl) (fun u => falls _) fun _ => ?_
  iterate 3
    refine ensures_keeps_bind unbegun (· = t.unbegun) _ _ _ _ (keeps_modify _ _ fun _ => rfl) (fun u => falls _) fun _ => ?_
  refine ensures_ite _ _ _ _ _ _ (fun _ => ?_) fun _ => ?_
  · iterate 2
      refine ensures_keeps_bind unbegun (· = t.unbegun) _ _ _ _ (keeps_modify _ _ fun _ => rfl) (fun u => falls _) fun _ => ?_
    refine ensures_keeps_bind unbegun (· = t.unbegun) _ _ _ _ (keeps_zoom _ _ _ _ fun _ _ => rfl) (fun u => falls _) fun _ => ?_
    exact begins _
  · refine ensures_keeps_bind unbegun (· = t.unbegun) _ _ _ _ (keeps_modify _ _ fun _ => rfl) (fun u => falls _) fun _ => ?_
    refine ensures_keeps_bind unbegun (· = t.unbegun) _ _ _ _ (keeps_zoom _ _ _ _ fun _ _ => rfl) (fun u => falls _) fun _ => ?_
    exact begins _

-- A TPM2_Startup(STATE) is let through.
def Resumable (s : TpmState) (locality : UInt8) : Prop :=
  s.startupMethodUnknown = false ∧ s.hcrtmBeforeStartup = s.hcrtmAtLastStartup ∧
    (s.hcrtmBeforeStartup = true ∨ locality = s.startupLocality)

-- The nonce of the split signing operations is there, or can be drawn.
def CommitsReady (s : TpmState) : Prop :=
  s.commits.isReady = true ∨ ∃ ended, Commits.reset (s.commits, s.rng) = .ok () ended

theorem startup_state_resumes (locality : UInt8) (s s' : TpmState) (u : Unit)
    (ran : Succeeds (onStartupState locality) s u s') :
    s.Resumable locality ∧ s.CommitsReady ∧ s'.boot = ⟨Su.none, s.startupLocality, s.hcrtmAtLastStartup, false, false,
      true, StartupKind.resume.counts s.boot.counters⟩ ∧ s.Rekeys .resume s'.hierarchies := by
  rw [Succeeds, onStartupState, run_get_bind] at ran
  change Succeeds _ s u s' at ran
  rw [succeeds_guard, succeeds_guard, succeeds_guard] at ran
  obtain ⟨known, method, here, ran⟩ := ran
  have resumable : s.Resumable locality := by
    refine ⟨by simpa using known, not_not.mp method, ?_⟩
    cases given : s.hcrtmBeforeStartup with
    | true => exact .inl rfl
    | false => exact .inr (not_not.mp fun other => here ⟨by simp [given], other⟩)
  rw [succeeds_bind] at ran
  obtain ⟨_, _, begun, ran⟩ := ran
  rw [succeeds_set] at begun
  subst begun
  split at ran
  next unready =>
    rw [succeeds_bind] at ran
    obtain ⟨_, _, drawn, ran⟩ := ran
    rw [zoomCommits, succeeds_zoom] at drawn
    obtain ⟨ended, drawn, rfl⟩ := drawn
    rw [succeeds_modify] at ran
    subst ran
    refine ⟨resumable, .inr ⟨ended, drawn⟩, ?_, ⟨rfl, rfl, rfl⟩, rfl⟩
    exact Boot.ext rfl rfl rfl resumable.1 rfl rfl rfl
  next ready =>
    rw [succeeds_modify] at ran
    subst ran
    refine ⟨resumable, .inl (by simpa using ready), ?_, ⟨rfl, rfl, rfl⟩, rfl⟩
    exact Boot.ext rfl rfl rfl resumable.1 rfl rfl rfl

theorem startup_state_accepts (locality : UInt8) (s : TpmState) (resumable : s.Resumable locality)
    (ready : s.CommitsReady) : ∃ s', onStartupState locality s = .ok () s' := by
  obtain ⟨known, method, place⟩ := resumable
  have here : ¬ ((!s.hcrtmBeforeStartup) = true ∧ locality ≠ s.startupLocality) := by
    rintro ⟨none, other⟩
    rcases place with given | same
    · simp [given] at none
    · exact other same
  suffices resumes : ∃ s', Succeeds (onStartupState locality) s () s' from resumes
  simp only [onStartupState, Succeeds, run_get_bind]
  change ∃ s', Succeeds _ s () s'
  simp only [succeeds_guard, succeeds_bind, succeeds_set]
  have unknown : ¬ s.startupMethodUnknown = true := by simp [known]
  have alike : ¬ s.hcrtmBeforeStartup ≠ s.hcrtmAtLastStartup := not_not.mpr method
  by_cases kept : s.commits.isReady = true
  · apply Exists.intro
    refine ⟨unknown, alike, here, PUnit.unit, _, rfl, ?_⟩
    rw [if_neg (by simp [kept])]
    exact (succeeds_modify _ _ _ _).mpr rfl
  · obtain ⟨ended, drawn⟩ := ready.resolve_left kept
    apply Exists.intro
    refine ⟨unknown, alike, here, PUnit.unit, _, rfl, ?_⟩
    rw [if_pos (by simp [kept]), succeeds_bind]
    exact ⟨(), _, (succeeds_zoom _ _ _ _ _ _).mpr ⟨ended, drawn, rfl⟩, (succeeds_modify _ _ _ _).mpr rfl⟩

theorem startup_state_fails (locality : UInt8) (s : TpmState) :
    Ensures (fun t => t = s) (onStartupState locality) (fun _ _ => True) fun t => t.unbegun = s.unbegun ∧
      t.startupLocality = s.startupLocality ∧ t.hcrtmAtLastStartup = s.hcrtmAtLastStartup := by
  unfold onStartupState
  refine ensures_get_bind _ _ _ _ fun t same => ?_
  subst same
  have still : ∀ u : TpmState, u = t → u.unbegun = t.unbegun ∧ u.startupLocality = t.startupLocality ∧
      u.hcrtmAtLastStartup = t.hcrtmAtLastStartup := fun u same => same ▸ ⟨rfl, rfl, rfl⟩
  refine ensures_guard _ _ _ _ _ _ _ still fun _ => ?_
  refine ensures_guard _ _ _ _ _ _ _ still fun _ => ?_
  refine ensures_guard _ _ _ _ _ _ _ still fun _ => ?_
  refine ensures_bind _ _ _ (fun _ u => u.unbegun = t.unbegun ∧ u.startupLocality = t.startupLocality ∧
    u.hcrtmAtLastStartup = t.hcrtmAtLastStartup) _ _ ?_ fun _ => ?_
  · rintro _ rfl
    exact ⟨rfl, rfl, rfl⟩
  · refine ensures_ite _ _ _ _ _ _ (fun _ => ?_) fun _ => ensures_modify _ _ _ _ fun _ _ => trivial
    refine ensures_bind _ _ _ (fun _ _ => True) _ _ ?_ fun _ => ensures_modify _ _ _ _ fun _ _ => trivial
    intro u held
    simp only [zoomCommits, zoom]
    cases Commits.reset (u.commits, u.rng) with
    | ok a ended => trivial
    | error e ended => exact held

-- A startup that completes, by its kind.
structure Begins (s : TpmState) (startupType : UInt16) (locality : UInt8) (s' : TpmState) : Prop where
  typed : startupType = Su.clear ∨ startupType = Su.state ∧ s.shutdownType = Su.state
  resumed : startupType = Su.state → s.Resumable locality ∧ s.CommitsReady
  boot : s'.boot = ⟨Su.none, if startupType = Su.state then s.startupLocality else locality,
    if startupType = Su.state then s.hcrtmAtLastStartup else s.hcrtmBeforeStartup, false, false, true,
    (StartupKind.of startupType s.shutdownType).counts s.boot.counters⟩
  rekeys : s.Rekeys (StartupKind.of startupType s.shutdownType) s'.hierarchies

-- A startup that fails: what it has recorded counts for nothing before the next one completes.
structure Falters (s s' : TpmState) : Prop where
  unbegun : s'.unbegun = s.unbegun
  recorded : s.shutdownType = Su.state →
    s'.startupLocality = s.startupLocality ∧ s'.hcrtmAtLastStartup = s.hcrtmAtLastStartup

theorem startup_begins (request : Request) (s s' : TpmState) (response : Response)
    (ran : Succeeds (startup request) s response s') :
    ∃ startupType, request.params (Reader.withParameter 1 u16) = .ok startupType ∧
      (request.locality = 0 ∨ request.locality = 3) ∧ s.Begins startupType request.locality s' := by
  unfold startup at ran
  rw [succeeds_bind] at ran
  obtain ⟨startupType, _, given, ran⟩ := ran
  rw [succeeds_lift] at given
  obtain ⟨given, rfl⟩ := given
  rw [succeeds_guard] at ran
  obtain ⟨place, ran⟩ := ran
  refine ⟨startupType, given, by grind, ?_⟩
  by_cases clears : startupType = Su.clear
  · rw [if_pos clears, succeeds_bind] at ran
    obtain ⟨_, _, began, ran⟩ := ran
    obtain ⟨_, rfl⟩ := (succeeds_pure _ _ _ _).mp ran
    have other : startupType ≠ Su.state := by rw [clears]; decide
    by_cases resumable : s.shutdownType = Su.state
    · obtain ⟨t, ended, boot, rekeys⟩ := startup_clear_after_state request.locality s resumable
      have same := began.symm.trans ended
      cases same
      refine ⟨.inl clears, fun state => absurd state other, ?_, ?_⟩
      · simpa [other, StartupKind.of, resumable] using boot
      · simpa [other, StartupKind.of, resumable] using rekeys
    · obtain ⟨boot, rekeys⟩ := startup_clear_resets request.locality s _ _ resumable began
      refine ⟨.inl clears, fun state => absurd state other, ?_, ?_⟩
      · simpa [other, StartupKind.of, resumable] using boot
      · simpa [other, StartupKind.of, resumable] using rekeys
  · rw [if_neg clears] at ran
    by_cases resumes : startupType = Su.state
    · rw [if_pos resumes, Succeeds] at ran
      dsimp only at ran
      rw [run_get_bind] at ran
      change Succeeds _ s response s' at ran
      rw [succeeds_guard, succeeds_bind] at ran
      obtain ⟨remembered, _, _, began, ran⟩ := ran
      obtain ⟨_, rfl⟩ := (succeeds_pure _ _ _ _).mp ran
      obtain ⟨resumable, ready, boot, rekeys⟩ := startup_state_resumes request.locality s _ _ began
      refine ⟨.inr ⟨resumes, not_not.mp remembered⟩, fun _ => ⟨resumable, ready⟩, ?_, ?_⟩
      · simpa [resumes, StartupKind.of] using boot
      · simpa [resumes, StartupKind.of] using rekeys
    · rw [if_neg resumes, succeeds_bind] at ran
      obtain ⟨_, _, thrown, _⟩ := ran
      exact absurd thrown (succeeds_throw _ _ _ _)

theorem startup_accepts (request : Request) (s : TpmState)
    (given : request.params (Reader.withParameter 1 u16) = .ok Su.state)
    (place : request.locality = 0 ∨ request.locality = 3) (remembered : s.shutdownType = Su.state)
    (resumable : s.Resumable request.locality) (ready : s.CommitsReady) :
    ∃ response s', startup request s = .ok response s' := by
  obtain ⟨s', resumes⟩ := startup_state_accepts request.locality s resumable ready
  have elsewhere : ¬ (request.locality ≠ 0 ∧ request.locality ≠ 3) := by grind
  refine ⟨.empty, s', ?_⟩
  unfold startup
  rw [run_lift_bind, given]
  dsimp only
  rw [if_neg elsewhere, if_neg (by decide), if_pos rfl, run_get_bind, if_neg (not_not.mpr remembered)]
  simp only [bind, EStateM.bind, resumes]
  rfl

theorem startup_falters (request : Request) (s s' : TpmState) (e : TpmRc) (known : s.startupMethodUnknown = false)
    (ran : startup request s = .error e s') : s.Falters s' := by
  have still : s.Falters s := ⟨rfl, fun _ => ⟨rfl, rfl⟩⟩
  suffices ensured : Ensures (fun t => t = s) (startup request) (fun _ _ => True) s.Falters by
    have ended := ensured s rfl
    rw [ran] at ended
    exact ended
  have same : ∀ t : TpmState, t = s → s.Falters t := fun t same => same ▸ still
  unfold startup
  refine ensures_lift_bind _ _ _ _ _ still fun startupType given => ?_
  refine ensures_guard _ _ _ _ _ _ _ same fun _ => ?_
  refine ensures_ite _ _ _ _ _ _ (fun _ => ?_) fun _ => ensures_ite _ _ _ _ _ _ (fun _ => ?_) fun _ => ?_
  · refine ensures_bind _ _ _ (fun _ _ => True) _ _ ?_ fun _ => ensures_pure _ _ _ _ fun _ _ => trivial
    by_cases resumable : s.shutdownType = Su.state
    · rintro _ rfl
      obtain ⟨t, ended, _⟩ := startup_clear_after_state request.locality _ resumable
      rw [ended]
      trivial
    · exact ensures_imply _ _ _ _ _ _ (startup_clear_fails request.locality s resumable known) (fun _ _ _ => trivial)
        fun t unbegun => ⟨unbegun, fun resumes => absurd resumes resumable⟩
  · refine ensures_get_bind _ _ _ _ fun t given => ?_
    subst given
    refine ensures_guard _ _ _ _ _ _ _ same fun _ => ?_
    refine ensures_bind _ _ _ (fun _ _ => True) _ _ ?_ fun _ => ensures_pure _ _ _ _ fun _ _ => trivial
    exact ensures_imply _ _ _ _ _ _ (startup_state_fails request.locality t) (fun _ _ _ => trivial)
      fun u fell => ⟨fell.1, fun _ => fell.2⟩
  · refine ensures_bind _ _ _ (fun _ _ => True) _ _ ?_ fun _ => ensures_pure _ _ _ _ fun _ _ => trivial
    exact ensures_throw _ _ _ _ same

end TpmState

end

end Swtrust
