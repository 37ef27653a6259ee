import Swtrust.Startup.Ledger
import Swtrust.Toy

set_option autoImplicit false
set_option linter.unusedSectionVars false

namespace Swtrust

open Library Action

section

variable [Primitives]

namespace TpmState

theorem advance_time_boot (s : TpmState) (millis : UInt64) : (s.advanceTime millis).2.boot = s.boot := by
  unfold advanceTime
  split
  · rfl
  · dsimp only
    split
    · rfl
    · split
      · rfl
      · rfl

theorem on_init_boot (s : TpmState) :
    ∃ hcrtmBeforeStartup, (final (onInit s)).boot = { s.boot with hcrtmBeforeStartup } := by
  unfold onInit
  rw [run_get_bind]
  split
  · rw [run_lift_bind]
    split
    · exact ⟨_, rfl⟩
    · exact ⟨s.hcrtmBeforeStartup, rfl⟩
  · exact ⟨_, rfl⟩

theorem power_on_boot (s : TpmState) :
    ∃ hcrtmBeforeStartup, s.powerOn.boot = { s.boot with hcrtmBeforeStartup, started := false } := by
  have tested : Keeps boot (zoomTest runSelfTests) := keeps_zoom _ _ _ _ fun _ _ => rfl
  unfold powerOn
  rw [show ∀ t : TpmState, (final (zoomTest runSelfTests t)).boot = t.boot from tested]
  split
  · obtain ⟨measured, initialized⟩ :=
      on_init_boot { s with failureMode := true, testFailure := some "nv write", started := false }
    exact ⟨measured, initialized⟩
  · obtain ⟨measured, initialized⟩ := on_init_boot { s with started := false }
    exact ⟨measured, initialized⟩

theorem hash_end_boot (s : TpmState) : ∃ hcrtmBeforeStartup, s.hashEnd.boot = { s.boot with
    hcrtmBeforeStartup
    counters := if s.started = true ∧ s.hcrtmSequence.isSome = true then
      { s.boot.counters with restartCount := s.clock.restartCount + 1 } else s.boot.counters } := by
  have folded : ∀ (digests : List (UInt16 × Bytes)) (s : TpmState),
      ∃ hcrtmBeforeStartup, (digests.foldl measureHcrtm s).boot = { s.boot with hcrtmBeforeStartup } := by
    intro digests
    induction digests with
    | nil => exact fun s => ⟨s.hcrtmBeforeStartup, rfl⟩
    | cons digest rest ih =>
        intro s
        obtain ⟨_, _, here⟩ := measure_hcrtm_changes s digest
        obtain ⟨measured, later⟩ := ih (measureHcrtm s digest)
        exact ⟨measured, by rw [List.foldl_cons, later, here]; rfl⟩
  unfold hashEnd
  cases open' : s.hcrtmSequence with
  | none => exact ⟨s.hcrtmBeforeStartup, by simp [boot]⟩
  | some sequence =>
      dsimp only
      by_cases started : s.started = true
      · refine ⟨s.hcrtmBeforeStartup, ?_⟩
        simp [started, boot]
      · obtain ⟨measured, measures⟩ := folded (sequenceDigests sequence) { s with hcrtmSequence := none }
        refine ⟨measured, ?_⟩
        rw [if_neg started, if_neg fun both => started both.1]
        exact measures

-- What the events but the commands do.
theorem event_boot (s : TpmState) (event : Event) (signal : ∀ locality octets, event ≠ .command locality octets) :
    ∃ hcrtmBeforeStartup started counters, (s.after event).boot = { s.boot with hcrtmBeforeStartup, started, counters } ∧
      (started = true → s.started = true) ∧ (counters = s.boot.counters ∨
        event = .hashEnd ∧ s.started = true ∧ s.hcrtmSequence.isSome = true ∧
          counters = { s.boot.counters with restartCount := s.clock.restartCount + 1 }) := by
  cases event with
  | command locality octets => exact absurd rfl (signal locality octets)
  | elapse millis => exact ⟨_, _, _, s.advance_time_boot millis, id, .inl rfl⟩
  | powerOn =>
      obtain ⟨measured, initialized⟩ := s.power_on_boot
      exact ⟨measured, false, _, initialized, nofun, .inl rfl⟩
  | powerOff => exact ⟨s.hcrtmBeforeStartup, false, s.boot.counters, rfl, nofun, .inl rfl⟩
  | hashEnd =>
      obtain ⟨measured, ended⟩ := s.hash_end_boot
      refine ⟨measured, s.started, _, ended, id, ?_⟩
      by_cases dynamic : s.started = true ∧ s.hcrtmSequence.isSome = true
      · exact .inr ⟨rfl, dynamic.1, dynamic.2, if_pos dynamic⟩
      · exact .inl (if_neg dynamic)
  | nv available => exact ⟨s.hcrtmBeforeStartup, s.started, s.boot.counters, rfl, id, .inl rfl⟩
  | physicalPresence asserted => exact ⟨s.hcrtmBeforeStartup, s.started, s.boot.counters, rfl, id, .inl rfl⟩
  | hashStart => exact ⟨s.hcrtmBeforeStartup, s.started, s.boot.counters, rfl, id, .inl rfl⟩
  | hashData data => exact ⟨s.hcrtmBeforeStartup, s.started, s.boot.counters, rfl, id, .inl rfl⟩

end TpmState

namespace Ledger

theorem agrees_next (ledger : Ledger) (s : TpmState) (event : Event) (agrees : ledger.Agrees s.boot) :
    (ledger.next s event).Agrees (s.after event).boot := by
  by_cases command : ∃ locality octets, event = .command locality octets
  · obtain ⟨locality, octets, rfl⟩ := command
    exact ledger.command_agrees s locality octets agrees
  · have signal : ∀ locality octets, event ≠ .command locality octets := fun locality octets same =>
      command ⟨locality, octets, same⟩
    obtain ⟨measured, started, counters, moved, less, counted⟩ := s.event_boot event signal
    have same : ledger.next s event = ledger := by
      cases event with
      | command locality octets => exact absurd rfl (signal locality octets)
      | _ => rfl
    have epoch : counters.timeEpoch = s.boot.counters.timeEpoch := by
      rcases counted with still | ⟨_, _, _, counted⟩
      · rw [still]
      · rw [counted]
    rw [same]
    exact ledger.agrees_of_less _ _ agrees measured started counters less epoch moved

theorem agrees_after_all (events : List Event) (ledger : Ledger) (s : TpmState) (agrees : ledger.Agrees s.boot) :
    (ledger.afterAll s events).Agrees (s.afterAll events).boot := by
  induction events generalizing ledger s with
  | nil => exact agrees
  | cons event events ih => exact ih (ledger.next s event) (s.after event) (ledger.agrees_next s event agrees)

theorem agrees_manufactured (seed : Bytes) (s : TpmState) (made : TpmState.manufacture seed = .ok s) :
    ({} : Ledger).Agrees s.boot := by
  simp only [TpmState.manufacture, bind_is_ok, pure_is_ok] at made
  obtain ⟨_, _, _, _, _, _, rfl⟩ := made
  refine ⟨rfl, rfl, fun either => ?_, rfl⟩
  rcases either with running | remembered
  · cases running
  · exact absurd (show Su.none = Su.state from remembered) (by decide)

end Ledger

namespace TpmState

-- The command reaches its handler, and is a TPM2_Startup.
def Starts (s : TpmState) (event : Event) : Prop :=
  ∃ locality octets request t, event = .command locality octets ∧
    s.received.reaching locality octets = some (request, t) ∧ request.code = Cc.startup

-- What is let through of a TPM2_Startup(STATE) after such a run.
def MayResume (s : TpmState) (ledger : Ledger) (locality : UInt8) : Prop :=
  ledger.shutdown = Su.state ∧ (locality = 0 ∨ locality = 3) ∧ (∃ place measured,
    ledger.startup = some (place, measured) ∧ s.hcrtmBeforeStartup = measured ∧ (measured = true ∨ locality = place)) ∧
    s.CommitsReady

-- An event among the startups of a run.
structure Sequenced (s : TpmState) (ledger : Ledger) (event : Event) : Prop where
  accepts : ∀ locality octets request t, event = .command locality octets →
    s.received.reaching locality octets = some (request, t) → request.code = Cc.startup →
    request.params (Reader.withParameter 1 u16) = .ok Su.state →
    (s.received.carried locality octets = some request ↔ s.MayResume ledger request.locality)
  begins : ∀ locality octets request, event = .command locality octets →
    s.received.carried locality octets = some request → request.code = Cc.startup →
    ∃ startupType, request.params (Reader.withParameter 1 u16) = .ok startupType ∧
      (startupType = Su.clear ∨ startupType = Su.state) ∧ (s.after event).started = true ∧
      (s.after event).boot.counters = (StartupKind.of startupType ledger.shutdown).counts s.boot.counters ∧
      s.Rekeys (StartupKind.of startupType ledger.shutdown) (s.after event).hierarchies
  falters : s.Starts event → (∀ locality octets, event = .command locality octets →
    s.received.carried locality octets = none) →
    (s.after event).started = false ∧ (s.after event).clock.timeEpoch = s.clock.timeEpoch
  stands : ¬ s.Starts event → (s.after event).boot.counters = s.boot.counters ∨
    (event = .hashEnd ∧ s.started = true ∧ s.hcrtmSequence.isSome = true ∧
      (s.after event).boot.counters = { s.boot.counters with restartCount := s.clock.restartCount + 1 }) ∨
    ∃ locality octets request, event = .command locality octets ∧
      s.received.carried locality octets = some request ∧ request.code = Cc.clear ∧
      (s.after event).boot.counters = ⟨0, 0, s.clock.timeEpoch⟩
  epoch : s.clock.timeEpoch = UInt64.ofNat ledger.startups
  expired : ∀ (session : Session) position limit, session.policy.expiration = some limit →
    session.timeEpoch ≠ s.clock.timeEpoch → ∃ e, s.checkExpiration session position = .error e

-- What the handler finds is what the startups are judged by.
theorem reaching_judged (s : TpmState) (locality : UInt8) (octets : Bytes) (request : Request) (t : TpmState)
    (reached : s.reaching locality octets = some (request, t)) :
    ∃ sent, s.taken locality octets = .ok sent ∧ request.code = sent.code ∧ t.commits = s.commits ∧ t.rng = s.rng ∧
      t.hierarchies = s.hierarchies ∧ t.boot = (nullifyShutdown sent s).boot := by
  obtain ⟨sent, parameters, lockout, nv, took, rfl, rfl⟩ := s.reaching_finds locality octets request t reached
  obtain ⟨_, _, undone⟩ := nullify_shutdown_changes sent s
  refine ⟨sent, took, rfl, ?_, ?_, ?_, rfl⟩
  all_goals rw [undone]

-- A TPM2_Startup finds what the command found.
theorem reaching_startup (s : TpmState) (locality : UInt8) (octets : Bytes) (request : Request) (t : TpmState)
    (reached : s.reaching locality octets = some (request, t)) (code : request.code = Cc.startup) :
    s.started = false ∧ t.boot = s.boot ∧ t.commits = s.commits ∧ t.rng = s.rng ∧ t.hierarchies = s.hierarchies := by
  obtain ⟨sent, took, same, commits, rng, hierarchies, judged⟩ := s.reaching_judged locality octets request t reached
  have idle := (s.taken_starts locality octets sent took).mp (same.symm.trans code)
  refine ⟨idle, judged.trans ?_, commits, rng, hierarchies⟩
  rw [nullify_shutdown_boot, if_neg fun used => by rw [idle] at used; exact Bool.false_ne_true used.1]
  rfl

theorem expired_epoch (s : TpmState) (session : Session) (position : Nat) (limit : UInt64)
    (limited : session.policy.expiration = some limit) (other : session.timeEpoch ≠ s.clock.timeEpoch) :
    ∃ e, s.checkExpiration session position = .error e := by
  unfold checkExpiration
  rw [limited]
  dsimp only
  rw [if_pos (.inl other)]
  exact ⟨_, rfl⟩

theorem carried_reaches (s : TpmState) (locality : UInt8) (octets : Bytes) (request : Request)
    (carried : s.carried locality octets = some request) : ∃ t reply t',
      s.reaching locality octets = some (request, t) ∧ runCommand request t = .ok reply t' := by
  unfold TpmState.carried at carried
  split at carried
  · cases carried
  next handled t reached =>
    split at carried
    next reply t' ran =>
      obtain rfl := Option.some.inj carried
      exact ⟨t, reply, t', reached, ran⟩
    next => cases carried

theorem startup_run (request : Request) (s : TpmState) (code : request.code = Cc.startup) :
    runCommand request s = (Response.reply <$> startup request) s :=
  s.run_whole request startup (by rw [code]; rfl)

-- A TPM2_Startup is carried out if its handler completes.
theorem carried_startup (s : TpmState) (locality : UInt8) (octets : Bytes) (request : Request) (t : TpmState)
    (reached : s.reaching locality octets = some (request, t)) (code : request.code = Cc.startup) :
    s.carried locality octets = some request ↔ ∃ response t', startup request t = .ok response t' := by
  unfold TpmState.carried
  rw [reached]
  dsimp only
  rw [startup_run request t code]
  simp only [Functor.map, EStateM.map]
  cases startup request t with
  | ok response t' => simp
  | error e t' => simp

theorem run_ends (s : TpmState) (locality : UInt8) (octets : Bytes) (request : Request) (t : TpmState)
    (reached : s.reaching locality octets = some (request, t)) :
    (run locality octets s).2.boot = (final (runCommand request t)).boot ∧
      (run locality octets s).2.hierarchies = (final (runCommand request t)).hierarchies := by
  obtain ⟨sent, took, _⟩ := s.reaching_judged locality octets request t reached
  have seen := run_reaches boot boot_spared s locality octets sent took
  have kept := run_reaches (·.hierarchies) hierarchies_spared s locality octets sent took
  rw [reached] at seen kept
  exact ⟨seen, kept⟩

section

variable (s : TpmState) (ledger : Ledger) (agrees : ledger.Agrees s.boot)

include agrees

theorem startup_may_resume (t : TpmState) (request : Request) (seen : t.boot = s.boot) (commits : t.commits = s.commits)
    (rng : t.rng = s.rng) (given : request.params (Reader.withParameter 1 u16) = .ok Su.state) :
    (∃ response t', startup request t = .ok response t') ↔ s.MayResume ledger request.locality := by
  have shutdown : t.shutdownType = ledger.shutdown := (congrArg Boot.shutdownType seen).trans agrees.shutdown
  have ready : t.CommitsReady ↔ s.CommitsReady := by
    unfold CommitsReady
    rw [commits, rng]
  have place : t.startupLocality = s.startupLocality := congrArg Boot.startupLocality seen
  have method : t.hcrtmAtLastStartup = s.hcrtmAtLastStartup := congrArg Boot.hcrtmAtLastStartup seen
  have measured : t.hcrtmBeforeStartup = s.hcrtmBeforeStartup := congrArg Boot.hcrtmBeforeStartup seen
  constructor
  · rintro ⟨response, t', ran⟩
    obtain ⟨startupType, found, localities, begun⟩ := t.startup_begins request t' response ran
    rw [given] at found
    obtain rfl := Except.ok.inj found
    have remembered : t.shutdownType = Su.state := by
      rcases begun.typed with clears | both
      · exact absurd clears (by decide)
      · exact both.2
    obtain ⟨resumable, commits⟩ := begun.resumed rfl
    refine ⟨shutdown.symm.trans remembered, localities, ?_, ready.mp commits⟩
    refine ⟨s.startupLocality, s.hcrtmAtLastStartup, agrees.startup (.inr ?_), ?_, ?_⟩
    · exact (congrArg Boot.shutdownType seen).symm.trans remembered
    · rw [← measured, ← method]
      exact resumable.2.1
    · rw [← method, ← place, ← resumable.2.1]
      exact resumable.2.2
  · rintro ⟨remembered, localities, ⟨at', by', recorded, alike, same⟩, commits⟩
    have stood : t.shutdownType = Su.state := shutdown.trans remembered
    have held := agrees.startup (.inr ((congrArg Boot.shutdownType seen).symm.trans stood))
    rw [recorded] at held
    obtain ⟨rfl, rfl⟩ := Prod.mk.inj (Option.some.inj held)
    refine t.startup_accepts request given localities stood ⟨?_, ?_, ?_⟩ (ready.mpr commits)
    · exact (congrArg Boot.startupMethodUnknown seen).trans agrees.known
    · rw [measured, method]
      exact alike
    · rw [measured, place, alike]
      exact same

theorem sequenced (event : Event) : s.Sequenced ledger event where
  accepts locality octets request t sent reached code given := by
    obtain ⟨_, seen, commits, rng, _⟩ := s.received.reaching_startup locality octets request t reached code
    rw [s.received.carried_startup locality octets request t reached code]
    exact s.startup_may_resume ledger agrees t request seen commits rng given
  begins locality octets request sent carried code := by
    subst sent
    obtain ⟨t, reply, t', reached, ran⟩ := s.received.carried_reaches locality octets request carried
    obtain ⟨_, seen, _, rng, hierarchies⟩ := s.received.reaching_startup locality octets request t reached code
    obtain ⟨response, t'', completed⟩ := (s.received.carried_startup locality octets request t reached code).mp carried
    obtain ⟨ended, kept⟩ := s.received.run_ends locality octets request t reached
    have last : final (runCommand request t) = t'' := by
      rw [startup_run request t code, final_map, completed]
      rfl
    rw [last] at ended kept
    obtain ⟨startupType, given, _, begun⟩ := t.startup_begins request t'' response completed
    have shutdown : t.shutdownType = ledger.shutdown := (congrArg Boot.shutdownType seen).trans agrees.shutdown
    have boot := ended.trans begun.boot
    have rekeys := begun.rekeys
    rw [shutdown] at boot rekeys
    refine ⟨startupType, given, begun.typed.imp id And.left, congrArg Boot.started boot, ?_, ?_⟩
    · rw [show s.boot.counters = t.boot.counters from (congrArg Boot.counters seen).symm]
      exact congrArg Boot.counters boot
    · change s.Rekeys _ (run locality octets s.received).2.hierarchies
      rw [kept]
      unfold Rekeys Renewed at rekeys ⊢
      rw [rng, hierarchies] at rekeys
      exact rekeys
  falters starts unfinished := by
    obtain ⟨locality, octets, request, t, rfl, reached, code⟩ := starts
    obtain ⟨idle, seen, _⟩ := s.received.reaching_startup locality octets request t reached code
    obtain ⟨ended, _⟩ := s.received.run_ends locality octets request t reached
    have known : t.startupMethodUnknown = false := (congrArg Boot.startupMethodUnknown seen).trans agrees.known
    -- A startup that ended in an error is not carried out, so nothing of it may have begun.
    cases ran : startup request t with
    | ok response t' =>
        have carried := (s.received.carried_startup locality octets request t reached code).mpr ⟨response, t', ran⟩
        rw [unfinished locality octets rfl] at carried
        cases carried
    | error e t' =>
        have last : final (runCommand request t) = t' := by
          rw [startup_run request t code, final_map, ran]
          rfl
        rw [last] at ended
        have left := (t.startup_falters request t' e known ran).unbegun
        simp only [TpmState.unbegun, Prod.mk.injEq] at left
        have running : t.started = s.started := congrArg Boot.started seen
        have before : t.clock.timeEpoch = s.clock.timeEpoch := congrArg (·.counters.timeEpoch) seen
        constructor
        · exact (congrArg Boot.started ended).trans (left.2.1.trans (running.trans idle))
        · exact (congrArg (·.counters.timeEpoch) ended).trans (left.2.2.1.trans before)
  stands idle := by
    -- Outside a startup only TPM2_Clear and the end of an H-CRTM sequence move the counters.
    by_cases command : ∃ locality octets, event = .command locality octets
    · obtain ⟨locality, octets, rfl⟩ := command
      change (run locality octets s.received).2.boot.counters = s.boot.counters ∨ _
      cases took : s.received.taken locality octets with
      | error e =>
          rw [s.received.run_of_refused locality octets e took]
          exact .inl rfl
      | ok sent =>
          cases reached : s.received.reaching locality octets with
          | none =>
              have ended := run_reaches boot boot_spared s.received locality octets sent took
              rw [reached, nullify_shutdown_boot] at ended
              exact .inl ((congrArg Boot.counters ended).trans rfl)
          | some pair =>
              obtain ⟨request, t⟩ := pair
              obtain ⟨_, again, _, _, _, _, judged⟩ := s.received.reaching_judged locality octets request t reached
              have before : t.boot.counters = s.boot.counters := by
                rw [judged, nullify_shutdown_boot]
                rfl
              obtain ⟨ended, _⟩ := s.received.run_ends locality octets request t reached
              have other : request.code ≠ Cc.startup := fun code =>
                idle ⟨locality, octets, request, t, rfl, reached, code⟩
              by_cases shutdownCode : request.code = Cc.shutdown
              · have effect := t.shutdown_boot request t rfl
                rw [t.run_whole request shutdown (by rw [shutdownCode]; rfl), final_map] at ended
                refine .inl ((congrArg Boot.counters ended).trans (Eq.trans ?_ before))
                cases ran : shutdown request t with
                | ok response t' =>
                    rw [ran] at effect
                    obtain ⟨_, _, moved⟩ := effect
                    exact (congrArg Boot.counters moved).trans rfl
                | error e t' =>
                    rw [ran] at effect
                    exact congrArg (·.boot.counters) effect
              by_cases clearCode : request.code = Cc.clear
              · have effect := t.clear_boot request t rfl
                have run := t.run_whole request clear (by rw [clearCode]; rfl)
                rw [run, final_map] at ended
                cases ran : clear request t with
                | ok response t' =>
                    rw [ran] at effect ended
                    have carried : s.received.carried locality octets = some request := by
                      unfold TpmState.carried
                      rw [reached]
                      simp only [run, Functor.map, EStateM.map, ran]
                    have epoch : t.clock.timeEpoch = s.clock.timeEpoch := congrArg BootCounters.timeEpoch before
                    refine .inr (.inr ⟨locality, octets, request, rfl, carried, clearCode, ?_⟩)
                    refine (congrArg Boot.counters (Eq.trans ended effect)).trans ?_
                    rw [← epoch]
                | error e t' =>
                    rw [ran] at effect ended
                    exact .inl ((congrArg Boot.counters (Eq.trans ended effect)).trans before)
              · have kept := other_commands_boot request other shutdownCode clearCode t
                exact .inl ((congrArg Boot.counters (ended.trans kept)).trans before)
    · have signal : ∀ locality octets, event ≠ .command locality octets := fun locality octets same =>
        command ⟨locality, octets, same⟩
      obtain ⟨measured, started, counters, moved, _, counted⟩ := s.event_boot event signal
      have same : (s.after event).boot.counters = counters := congrArg Boot.counters moved
      rw [same]
      rcases counted with still | ⟨ends, running, measuring, counted⟩
      · exact .inl still
      · exact .inr (.inl ⟨ends, running, measuring, counted⟩)
  epoch := agrees.counted
  expired session position limit limited other := s.expired_epoch session position limit limited other

end

end TpmState

-- Over every run of a manufactured TPM: when a TPM2_Startup(STATE) is let through, what a startup that completes counts
-- and renews, and that no other event passes for one.
theorem startups_sequenced (seed : Bytes) (s : TpmState) (made : TpmState.manufacture seed = .ok s)
    (events : List Event) (event : Event) :
    (s.afterAll events).Sequenced (({} : Ledger).afterAll s events) event := by
  have start := Ledger.agrees_manufactured seed s made
  exact (s.afterAll events).sequenced _ (Ledger.agrees_after_all events {} s start) event

end

namespace Toy

def startupAt (locality : UInt8) (startupType : UInt16) : Event :=
  .command locality (plainCommand Cc.startup [] (be16 startupType))

def measuring : List Event := [.hashStart, .hashData [1], .hashEnd]

-- Started at locality 0 after an H-CRTM measurement, shut down, and measured again.
def measuredTwice : List Event :=
  measuring ++ [startupAt 0 Su.clear, .command 0 (plainCommand Cc.shutdown [] (be16 Su.state)), .powerOff, .powerOn] ++
    measuring

-- With an H-CRTM measurement before it a startup resumes at another locality than the last.
theorem measured_startup_moves : ¬ ∀ seed s, TpmState.manufacture seed = .ok s → ∀ events locality octets request,
    (s.afterAll events).received.carried locality octets = some request → request.code = Cc.startup →
    request.params (Reader.withParameter 1 u16) = .ok Su.state →
      ∃ place measured, (({} : Ledger).afterAll s events).startup = some (place, measured) ∧
        (s.afterAll events).hcrtmBeforeStartup = measured ∧ request.locality = place := by
  intro stays
  have tested : found (TpmState.manufacture (List.replicate 48 7)) (fun s =>
      ((s.afterAll measuredTwice).received.carried 3 (plainCommand Cc.startup [] (be16 Su.state))).any fun request =>
        request.code == Cc.startup && request.locality == 3 &&
          found (request.params (Reader.withParameter 1 u16)) (· == Su.state) &&
          (({} : Ledger).afterAll s measuredTwice).startup == some (0, true)) = true := by
    rw [manufacture_made]
    decide +kernel
  obtain ⟨s, made, tested⟩ := ok_of_found _ _ tested
  obtain ⟨request, carried, tested⟩ := (Option.any_eq_true _ _).mp tested
  simp only [Bool.and_eq_true, beq_iff_eq] at tested
  obtain ⟨⟨⟨code, elsewhere⟩, given⟩, recorded⟩ := tested
  obtain ⟨_, given, same⟩ := ok_of_found _ _ given
  obtain ⟨place, measured, held, _, here⟩ := stays _ s made measuredTwice 3 _ request carried code
    (given.trans (congrArg _ (by simpa using same)))
  rw [recorded] at held
  obtain ⟨rfl, rfl⟩ := Prod.mk.inj (Option.some.inj held)
  rw [elsewhere] at here
  cases here

theorem measured_startup_sequenced : ∃ s, TpmState.manufacture (List.replicate 48 7) = .ok s ∧
    (s.afterAll measuredTwice).Sequenced (({} : Ledger).afterAll s measuredTwice) (startupAt 3 Su.state) := by
  have tested : found (TpmState.manufacture (List.replicate 48 7)) (fun _ => true) = true := by decide +kernel
  obtain ⟨s, made, _⟩ := ok_of_found _ _ tested
  exact ⟨s, made, startups_sequenced _ s made measuredTwice _⟩

end Toy

end Swtrust
