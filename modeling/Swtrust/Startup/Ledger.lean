import Swtrust.Startup.Boot

set_option autoImplicit false
set_option linter.unusedSectionVars false

namespace Swtrust

open Library Action

-- What a run has shown of its startups and shutdowns.
structure Ledger where
  shutdown : UInt16 := Su.none
  startup : Option (UInt8 × Bool) := none
  startups : Nat := 0
  deriving DecidableEq

section

variable [Primitives]

namespace Ledger

-- A started TPM takes a command other than TPM2_Shutdown.
def used (ledger : Ledger) (started : Bool) (request : Request) : Ledger :=
  { ledger with shutdown := if started ∧ request.code ≠ Cc.shutdown then Su.none else ledger.shutdown }

-- A command has been carried out, found with or without an H-CRTM measurement.
def recorded (ledger : Ledger) (measured : Bool) (request : Request) : Ledger :=
  match request.params (Reader.withParameter 1 u16) with
  | .error _ => ledger
  | .ok parameter =>
    if request.code = Cc.startup then
      { shutdown := Su.none
        startup := if parameter = Su.state then ledger.startup else some (request.locality, measured)
        startups := ledger.startups + 1 }
    else if request.code = Cc.shutdown then { ledger with shutdown := parameter }
    else ledger

def next (ledger : Ledger) (s : TpmState) : Event → Ledger
  | .command locality octets =>
    match s.received.taken locality octets with
    | .error _ => ledger
    | .ok request =>
      match s.received.carried locality octets with
      | none => ledger.used s.started request
      | some handled => (ledger.used s.started request).recorded s.hcrtmBeforeStartup handled
  | _ => ledger

def afterAll (ledger : Ledger) (s : TpmState) : List Event → Ledger
  | [] => ledger
  | event :: events => (ledger.next s event).afterAll (s.after event) events

-- What the TPM remembers is what the run has shown.
structure Agrees (ledger : Ledger) (b : Boot) : Prop where
  shutdown : b.shutdownType = ledger.shutdown
  known : b.startupMethodUnknown = false
  startup : b.started = true ∨ b.shutdownType = Su.state → ledger.startup = some (b.startupLocality, b.hcrtmAtLastStartup)
  counted : b.counters.timeEpoch = UInt64.ofNat ledger.startups

theorem agrees_used (ledger : Ledger) (s : TpmState) (request : Request) (agrees : ledger.Agrees s.boot) :
    (ledger.used s.started request).Agrees (TpmState.nullifyShutdown request s).boot := by
  rw [TpmState.nullify_shutdown_boot]
  unfold used
  by_cases undone : s.started = true ∧ request.code ≠ Cc.shutdown
  · simp only [undone, if_true, ne_eq, not_false_eq_true, and_self]
    exact ⟨rfl, agrees.known, fun _ => agrees.startup (.inl undone.1), agrees.counted⟩
  · simp only [undone, if_false]
    exact ⟨agrees.shutdown, agrees.known, agrees.startup, agrees.counted⟩

-- What the TPM forgets of being started, or of an H-CRTM measurement, the ledger does not hold.
theorem agrees_of_less (ledger : Ledger) (b b' : Boot) (agrees : ledger.Agrees b) (measured started : Bool)
    (counters : BootCounters) (less : started = true → b.started = true)
    (same : counters.timeEpoch = b.counters.timeEpoch)
    (made : b' = { b with hcrtmBeforeStartup := measured, started, counters }) : ledger.Agrees b' := by
  subst made
  exact ⟨agrees.shutdown, agrees.known, fun either => agrees.startup (either.imp less id), same.trans agrees.counted⟩

theorem agrees_begun (ledger : Ledger) (s s' : TpmState) (startupType : UInt16) (request : Request)
    (agrees : ledger.Agrees s.boot) (code : request.code = Cc.startup)
    (given : request.params (Reader.withParameter 1 u16) = .ok startupType)
    (begun : s.Begins startupType request.locality s') :
    (ledger.recorded s.hcrtmBeforeStartup request).Agrees s'.boot := by
  rw [begun.boot]
  unfold recorded
  simp only [given, code, if_true]
  refine ⟨rfl, rfl, fun _ => ?_, ?_⟩
  · by_cases resumes : startupType = Su.state
    · have remembered : s.shutdownType = Su.state := by
        rcases begun.typed with clears | both
        · rw [resumes] at clears
          exact absurd clears (by decide)
        · exact both.2
      simp only [resumes, if_true]
      exact agrees.startup (.inr remembered)
    · simp only [resumes, if_false]
  · have before : s.clock.timeEpoch = UInt64.ofNat ledger.startups := agrees.counted
    have step : ((StartupKind.of startupType s.shutdownType).counts s.boot.counters).timeEpoch =
        s.clock.timeEpoch + 1 := by
      cases StartupKind.of startupType s.shutdownType <;> rfl
    rw [step, before, UInt64.ofNat_add]
    rfl

theorem agrees_faltered (ledger : Ledger) (s s' : TpmState) (agrees : ledger.Agrees s.boot) (idle : s.started = false)
    (falters : s.Falters s') : ledger.Agrees s'.boot := by
  have unbegun := falters.unbegun
  simp only [TpmState.unbegun, Prod.mk.injEq] at unbegun
  obtain ⟨shutdown, started, epoch, known⟩ := unbegun
  refine ⟨shutdown.trans agrees.shutdown, known.trans agrees.known, fun either => ?_, epoch.trans agrees.counted⟩
  have remembered : s.shutdownType = Su.state := by
    rcases either with running | remembered
    · rw [show s'.boot.started = s'.started from rfl, started, idle] at running
      cases running
    · exact shutdown.symm.trans remembered
  obtain ⟨place, method⟩ := falters.recorded remembered
  have same : ledger.startup = some (s.startupLocality, s.hcrtmAtLastStartup) := agrees.startup (.inr remembered)
  rw [same, ← place, ← method]
  rfl

theorem recorded_other (ledger : Ledger) (measured : Bool) (request : Request) (startup : request.code ≠ Cc.startup)
    (shutdown : request.code ≠ Cc.shutdown) : ledger.recorded measured request = ledger := by
  unfold recorded
  split
  · rfl
  · rw [if_neg startup, if_neg shutdown]

theorem handler_agrees (ledger : Ledger) (request : Request) (s : TpmState) (agrees : ledger.Agrees s.boot)
    (idle : request.code = Cc.startup ↔ s.started = false) :
    match runCommand request s with
    | .ok _ s' => (ledger.recorded s.hcrtmBeforeStartup request).Agrees s'.boot
    | .error _ s' => ledger.Agrees s'.boot := by
  -- Three handlers reach what the ledger tells of; every other leaves both as they are.
  by_cases startupCode : request.code = Cc.startup
  · rw [s.run_whole request Swtrust.startup (by rw [startupCode]; rfl)]
    simp only [Functor.map, EStateM.map]
    cases ran : Swtrust.startup request s with
    | ok response s' =>
        obtain ⟨startupType, given, _, begun⟩ := s.startup_begins request s' response ran
        exact agrees_begun ledger s s' startupType request agrees startupCode given begun
    | error e s' =>
        exact agrees_faltered ledger s s' agrees (idle.mp startupCode) (s.startup_falters request s' e agrees.known ran)
  have running : s.started = true := by
    cases started : s.started with
    | true => rfl
    | false => exact absurd (idle.mpr started) startupCode
  by_cases shutdownCode : request.code = Cc.shutdown
  · rw [s.run_whole request Swtrust.shutdown (by rw [shutdownCode]; rfl)]
    have ended := s.shutdown_boot request s rfl
    simp only [Functor.map, EStateM.map]
    cases ran : Swtrust.shutdown request s with
    | ok response s' =>
        rw [ran] at ended
        obtain ⟨shutdownType, given, moved⟩ := ended
        have recorded : ledger.recorded s.hcrtmBeforeStartup request = { ledger with shutdown := shutdownType } := by
          unfold Ledger.recorded
          simp only [given, startupCode, if_false]
          rw [if_pos shutdownCode]
        dsimp only
        rw [recorded, moved]
        exact ⟨rfl, agrees.known, fun _ => agrees.startup (.inl running), agrees.counted⟩
    | error e s' =>
        rw [ran] at ended
        dsimp only at ended ⊢
        rw [ended]
        exact agrees
  have same := ledger.recorded_other s.hcrtmBeforeStartup request startupCode shutdownCode
  by_cases clearCode : request.code = Cc.clear
  · rw [s.run_whole request clear (by rw [clearCode]; rfl)]
    have ended := s.clear_boot request s rfl
    simp only [Functor.map, EStateM.map]
    cases ran : clear request s with
    | ok response s' =>
        rw [ran] at ended
        dsimp only at ended ⊢
        rw [same, ended]
        exact ⟨agrees.shutdown, agrees.known, agrees.startup, agrees.counted⟩
    | error e s' =>
        rw [ran] at ended
        dsimp only at ended ⊢
        rw [ended]
        exact agrees
  · have kept := TpmState.other_commands_boot request startupCode shutdownCode clearCode s
    cases ran : runCommand request s with
    | ok reply s' =>
        rw [ran] at kept
        change s'.boot = s.boot at kept
        dsimp only
        rw [same, kept]
        exact agrees
    | error e s' =>
        rw [ran] at kept
        change s'.boot = s.boot at kept
        dsimp only
        rw [kept]
        exact agrees

end Ledger

namespace TpmState

-- Before it is started a TPM takes TPM2_Startup only, and after that not again.
theorem taken_starts (s : TpmState) (locality : UInt8) (octets : Bytes) (request : Request)
    (took : s.taken locality octets = .ok request) : request.code = Cc.startup ↔ s.started = false := by
  have checked := ((s.taken_is_ok locality octets request).mp took).2.2
  unfold checkStarted at checked
  simp only [guarded_then_is_ok, guarded_is_ok, allowedBeforeStartup] at checked
  obtain ⟨first, _, last⟩ := checked
  constructor
  · intro code
    by_contra running
    exact last.1 ⟨by simpa using running, code⟩
  · intro idle
    by_contra other
    exact first ⟨by simp [idle], by simp [other]⟩

end TpmState

namespace Ledger

theorem command_agrees (ledger : Ledger) (s : TpmState) (locality : UInt8) (octets : Bytes)
    (agrees : ledger.Agrees s.boot) :
    (ledger.next s (.command locality octets)).Agrees (s.after (.command locality octets)).boot := by
  have received : ledger.Agrees s.received.boot := agrees
  change (ledger.next s (.command locality octets)).Agrees (TpmState.run locality octets s.received).2.boot
  simp only [next]
  cases took : s.received.taken locality octets with
  | error e =>
      rw [s.received.run_of_refused locality octets e took]
      exact received
  | ok request =>
      have ended := TpmState.run_reaches TpmState.boot TpmState.boot_spared s.received locality octets request took
      have used := ledger.agrees_used s.received request received
      rw [ended]
      simp only [TpmState.carried]
      cases reached : s.received.reaching locality octets with
      | none => exact used
      | some pair =>
          obtain ⟨handled, t⟩ := pair
          obtain ⟨other, parameters, lockout, nv, again, same, found⟩ :=
            s.received.reaching_finds locality octets handled t reached
          rw [took] at again
          obtain rfl := Except.ok.inj again
          obtain ⟨_, _, undone⟩ := TpmState.nullify_shutdown_changes request s.received
          have starts := s.received.taken_starts locality octets request took
          have held : (ledger.used s.started request).Agrees t.boot := by
            rw [found]
            exact used
          have started : t.started = s.started := by rw [found, undone]; rfl
          have measured : t.hcrtmBeforeStartup = s.hcrtmBeforeStartup := by rw [found, undone]; rfl
          have effect := handler_agrees _ handled t held (by rw [same, started]; exact starts)
          rw [measured] at effect
          dsimp only
          cases ran : runCommand handled t with
          | ok reply t' =>
              rw [ran] at effect
              exact effect
          | error e t' =>
              rw [ran] at effect
              exact effect

end Ledger

end

end Swtrust
