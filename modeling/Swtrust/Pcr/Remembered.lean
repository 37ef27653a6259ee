import Swtrust.Pcr.Allotted
import Swtrust.Startup.Sequence

set_option autoImplicit false
set_option linter.unusedSectionVars false

namespace Swtrust

open Library Library.Action

section

variable [Primitives]

namespace PcrBanks

-- Only registers at some of the indexes change.
def Spares (kept : Nat → Prop) (before after : PcrBanks) : Prop :=
  ∀ a index, kept index → after.register a index = before.register a index

theorem spares_steady (kept : Nat → Prop) : Steady (Spares kept) where
  refl _ := fun _ _ _ => rfl
  trans _ _ _ one two := fun a index held => (two a index held).trans (one a index held)

theorem spares_banks (kept : Nat → Prop) (before after : PcrBanks) (banks : after.banks = before.banks) :
    Spares kept before after := by
  intro a index _
  unfold register
  rw [banks]

theorem register_set (pcr : PcrBanks) (a other : UInt16) (bank : PcrBank) (index place : Nat) (value : Bytes)
    (held : pcr.banks.get a = some bank) (apart : place ≠ index) :
    ({ pcr with banks := pcr.banks.insert a (bank.set index value) } : PcrBanks).register other place =
      pcr.register other place := by
  unfold register
  dsimp only
  rw [SortedMap.get_insert]
  by_cases same : other = a
  · rw [if_pos same, same, held, Option.bind_some, Option.bind_some, List.getElem?_set, if_neg fun at' => apart at'.symm]
  · rw [if_neg same]

section

variable (kept : Nat → Prop) (index : Nat) (apart : ¬ kept index)

include apart

theorem extend_digest_spares (a : UInt16) (digest : Bytes) : Guarantees (Spares kept) (extendDigest a index digest) := by
  refine guarantees_of_ensures _ _ fun pcr => ?_
  have same : ∀ t, t = pcr → Spares kept pcr t := fun t same => same ▸ (spares_steady kept).refl pcr
  unfold extendDigest
  refine ensures_get_bind _ _ _ _ fun t found => ?_
  subst found
  refine ensures_ite _ _ _ _ _ _ (fun _ => ensures_pure _ _ _ _ fun u found => same u found) fun _ => ?_
  refine ensures_guard _ _ _ _ _ _ _ same fun _ => ?_
  cases digestSize a with
  | none => exact ensures_throw _ _ _ _ same
  | some size =>
      refine ensures_guard _ _ _ _ _ _ _ same fun _ => ?_
      cases held : t.banks.get a with
      | none => exact ensures_throw _ _ _ _ same
      | some bank =>
          refine ensures_lift_bind _ _ _ _ _ ((spares_steady kept).refl t) fun next made => ?_
          rintro _ rfl
          intro other place left
          exact register_set _ a other bank index place next held fun at' => apart (at' ▸ left)

theorem extend_all_spares (digests : List (UInt16 × Bytes)) (counted : List UInt16) :
    Guarantees (Spares kept) (extendAll index digests counted) := by
  induction digests generalizing counted with
  | nil => exact guarantees_pure (spares_steady kept).refl _
  | cons head rest ih =>
      obtain ⟨a, digest⟩ := head
      unfold extendAll
      refine guarantees_get_bind _ _ fun pcr => ?_
      refine guarantees_ite _ _ _ _ (fun _ => ih counted) (fun _ => ?_) pcr
      exact guarantees_bind (spares_steady kept) _ _ (extend_digest_spares kept index apart a digest) fun _ => ih _

theorem extend_spares (locality : UInt8) (digests : List (UInt16 × Bytes)) :
    Guarantees (Spares kept) (extend index locality digests) := by
  have steady := spares_steady kept
  unfold extend
  refine guarantees_guard steady.refl _ _ _ _ fun _ => ?_
  refine guarantees_guard steady.refl _ _ _ _ fun _ => ?_
  refine guarantees_get_bind _ _ fun pcr => ?_
  refine guarantees_lift_bind steady.refl _ _ (fun _ _ => ?_) pcr
  refine guarantees_bind steady _ _ (extend_all_spares kept index apart digests []) fun counted => ?_
  refine guarantees_ite _ _ _ _ (fun _ => ?_) fun _ => guarantees_pure steady.refl _
  exact guarantees_modify _ _ fun pcr => spares_banks kept pcr _ rfl

theorem set_register_spares (pcr next : PcrBanks) (a : UInt16) (digest : Bytes)
    (made : pcr.setRegister a index digest = .ok next) : Spares kept pcr next := by
  unfold setRegister at made
  obtain ⟨_, made⟩ := (guarded_then_is_ok _ _ _ _ _).mp made
  cases sized : digestSize a with
  | none =>
      rw [sized] at made
      cases made
  | some size =>
      rw [sized] at made
      obtain ⟨_, made⟩ := (guarded_then_is_ok _ _ _ _ _).mp made
      cases held : pcr.banks.get a with
      | none =>
          rw [held] at made
          cases made
      | some bank =>
          rw [held] at made
          cases made
          intro other place left
          refine Eq.trans (spares_banks kept { pcr with banks := pcr.banks.insert a (bank.set index digest) } _ ?_ other
            place left) ?_
          · unfold count
            split <;> rfl
          · exact pcr.register_set a other bank index place digest held fun at' => apart (at' ▸ left)

end

-- The registers that a dynamic measurement resets are none that a resume keeps.
theorem drtm_reset_spares (pcr : PcrBanks) : Spares (fun index => Pcr.isSaved index = true) pcr pcr.drtmReset := by
  have cleared : Spares (fun index => Pcr.isSaved index = true) pcr
      { pcr with banks := pcr.banks.mapValues fun a bank => drtmBank (sizeOr0 a) bank } := by
    intro a index saved
    have low : index ≤ 15 := by simpa [Pcr.isSaved] using saved
    have still : (Pcr.attributes index).startsAtOnes = false := by
      unfold Pcr.attributes
      rw [if_pos low]
    unfold register
    dsimp only
    rw [SortedMap.get_map_values]
    cases pcr.banks.get a with
    | none => rfl
    | some bank =>
        simp only [Option.map_some, Option.bind_some, drtmBank, List.getElem?_mapIdx, still, Bool.false_eq_true, if_false]
        cases bank[index]? <;> rfl
  unfold drtmReset
  dsimp only
  split
  · exact (spares_steady _).trans _ _ _ cleared (spares_banks _ _ _ rfl)
  · exact cleared

end PcrBanks

namespace TpmState

theorem measure_hcrtm_spares (s : TpmState) (digest : UInt16 × Bytes) :
    PcrBanks.Spares (fun index => index ≠ Config.hcrtmPcr) s.pcr (measureHcrtm s digest).pcr := by
  have apart : ¬ (fun index => index ≠ Config.hcrtmPcr) Config.hcrtmPcr := not_not.mpr rfl
  unfold measureHcrtm
  split
  · exact (PcrBanks.spares_steady _).refl _
  · exact (PcrBanks.spares_steady _).refl _
  · split
    next => exact (PcrBanks.spares_steady _).refl _
    next pcr made =>
      exact (PcrBanks.spares_steady _).trans _ _ _ (PcrBanks.set_register_spares (fun index => index ≠ Config.hcrtmPcr)
        _ apart s.pcr pcr _ _ made) (PcrBanks.extend_spares (fun index => index ≠ Config.hcrtmPcr) _ apart _ _ pcr)

-- The end of an H-CRTM sequence changes, of the registers that a resume keeps, at most PCR 0, and that before a startup.
theorem hash_end_spares (s : TpmState) : PcrBanks.Spares
    (fun index => Pcr.isSaved index = true ∧ (s.started = true ∨ index ≠ Config.hcrtmPcr)) s.pcr s.hashEnd.pcr := by
  have steady := PcrBanks.spares_steady fun index => Pcr.isSaved index = true ∧ (s.started = true ∨ index ≠ Config.hcrtmPcr)
  have measured : ∀ (digests : List (UInt16 × Bytes)) (t : TpmState),
      PcrBanks.Spares (fun index => index ≠ Config.hcrtmPcr) t.pcr (digests.foldl measureHcrtm t).pcr := by
    intro digests
    induction digests with
    | nil => exact fun t => (PcrBanks.spares_steady _).refl t.pcr
    | cons digest rest ih =>
        exact fun t => (PcrBanks.spares_steady _).trans _ _ _ (measure_hcrtm_spares t digest) (ih (measureHcrtm t digest))
  have extended : ∀ (digests : List (UInt16 × Bytes)) (pcr : PcrBanks),
      PcrBanks.Spares (fun index => Pcr.isSaved index = true) pcr (digests.foldl extendDrtm pcr) := by
    intro digests
    induction digests with
    | nil => exact fun pcr => (PcrBanks.spares_steady _).refl pcr
    | cons digest rest ih =>
        intro pcr
        have apart : ¬ Pcr.isSaved Config.drtmPcr = true := by decide
        exact (PcrBanks.spares_steady _).trans _ _ _ (PcrBanks.extend_spares _ _ apart _ _ pcr) (ih _)
  unfold hashEnd
  cases s.hcrtmSequence with
  | none => exact steady.refl s.pcr
  | some sequence =>
      dsimp only
      by_cases started : s.started = true
      · rw [if_pos started]
        intro a index saved
        exact (extended _ _ a index saved.1).trans (s.pcr.drtm_reset_spares a index saved.1)
      · rw [if_neg started]
        intro a index saved
        exact measured (sequenceDigests sequence) { s with hcrtmSequence := none } a index (saved.2.resolve_left started)

-- A TPM that still remembers TPM2_Shutdown(STATE) has done nothing since but fail to resume.
structure StillShut (s t : TpmState) : Prop where
  remembered : s.shutdownType = Su.state
  started : t.started = s.started
  recorded : t.pcrAllocation = s.pcrAllocation
  banks : t.pcr = s.pcr ∨ t.pcr = s.pcr.onResume

theorem still_shut_of_same (s t : TpmState) (remembered : t.shutdownType = Su.state)
    (same : (t.shutdownType, t.registers) = (s.shutdownType, s.registers)) : s.StillShut t := by
  simp only [registers, Prod.mk.injEq] at same
  obtain ⟨type, banks, recorded, _, started⟩ := same
  exact ⟨type.symm.trans remembered, started, recorded, .inl banks⟩

theorem still_shut_alike (s t u v : TpmState) (found : (t.shutdownType, t.registers) = (s.shutdownType, s.registers))
    (ended : (v.shutdownType, v.registers) = (u.shutdownType, u.registers)) (rests : t.StillShut u) : s.StillShut v := by
  simp only [registers, Prod.mk.injEq] at found ended
  obtain ⟨type, banks, recorded, _, started⟩ := found
  obtain ⟨_, left, kept, _, running⟩ := ended
  refine ⟨type.symm.trans rests.remembered, ?_, ?_, ?_⟩
  · rw [running, rests.started, started]
  · rw [kept, rests.recorded, recorded]
  · rw [left, ← banks]
    exact rests.banks

theorem startup_state_still_shut (locality : UInt8) (s : TpmState) (remembered : s.shutdownType = Su.state) :
    Ensures (fun t => t = s) (onStartupState locality) (fun _ _ => True) s.StillShut := by
  unfold onStartupState
  refine ensures_get_bind _ _ _ _ fun t same => ?_
  subst same
  have still : ∀ u : TpmState, u = t → t.StillShut u := fun u same => same ▸ still_shut_of_same t t remembered rfl
  refine ensures_guard _ _ _ _ _ _ _ still fun _ => ?_
  refine ensures_guard _ _ _ _ _ _ _ still fun _ => ?_
  refine ensures_guard _ _ _ _ _ _ _ still fun _ => ?_
  refine ensures_bind _ _ _ (fun _ u => t.StillShut u) _ _ ?_ fun _ => ?_
  · rintro _ rfl
    exact ⟨remembered, rfl, rfl, .inr rfl⟩
  · refine ensures_ite _ _ _ _ _ _ (fun _ => ?_) fun _ => ensures_modify _ _ _ _ fun _ _ => trivial
    refine ensures_bind _ _ _ (fun _ _ => True) _ _ ?_ fun _ => ensures_modify _ _ _ _ fun _ _ => trivial
    intro u held
    simp only [zoomCommits, zoom]
    cases Commits.reset (u.commits, u.rng) with
    | ok a ended => trivial
    | error e ended => exact ⟨held.remembered, held.started, held.recorded, held.banks⟩

-- After TPM2_Shutdown(STATE) a TPM2_Startup(CLEAR) does not fail, and one that fails leaves the saved registers.
theorem startup_still_shut (request : Request) (s s' : TpmState) (e : TpmRc) (ran : startup request s = .error e s')
    (remembered : s'.shutdownType = Su.state) : s.StillShut s' := by
  have before : s.shutdownType = Su.state := by
    have settled := settles_startup request s
    rw [ran] at settled
    rcases settled.shutdownType with same | none
    · exact same.symm.trans remembered
    · rw [show s'.shutdownType = Su.none from none] at remembered
      exact absurd remembered (by decide)
  have still : ∀ u : TpmState, u = s → s.StillShut u := fun u same => same ▸ still_shut_of_same s s before rfl
  have ensured : Ensures (fun t => t = s) (startup request) (fun _ _ => True) s.StillShut := by
    unfold startup
    refine ensures_lift_bind _ _ _ _ _ (still s rfl) fun startupType _ => ?_
    refine ensures_guard _ _ _ _ _ _ _ still fun _ => ?_
    refine ensures_ite _ _ _ _ _ _ (fun _ => ?_) fun _ => ensures_ite _ _ _ _ _ _ (fun _ => ?_) fun _ => ?_
    · refine ensures_bind _ _ _ (fun _ _ => True) _ _ ?_ fun _ => ensures_pure _ _ _ _ fun _ _ => trivial
      intro t same
      subst same
      obtain ⟨u, began, _⟩ := startup_clear_after_state request.locality t before
      rw [began]
      trivial
    · refine ensures_get_bind _ _ _ _ fun t same => ?_
      subst same
      refine ensures_guard _ _ _ _ _ _ _ still fun _ => ?_
      refine ensures_bind _ _ _ (fun _ _ => True) _ _ ?_ fun _ => ensures_pure _ _ _ _ fun _ _ => trivial
      exact startup_state_still_shut request.locality t before
    · exact ensures_throw _ _ _ _ still
  have ended := ensured s rfl
  rw [ran] at ended
  exact ended

-- The command carries out the given startup or shutdown.
def carriesOut (s : TpmState) (code : UInt32) (startupType : UInt16) (locality : UInt8) (octets : Bytes) : Bool :=
  match s.carried locality octets with
  | some request => request.code == code && found (request.params (Reader.withParameter 1 u16)) (· == startupType)
  | none => false

theorem remembered_spared : SparedByCourse fun s : TpmState => (s.shutdownType, s.registers) where
  execution := ⟨fun _ => ⟨fun _ _ => rfl, fun _ _ => rfl, fun _ _ => rfl, fun _ _ _ _ => rfl, fun _ _ _ => rfl⟩,
    fun _ _ => rfl, fun _ => rfl⟩
  guarded _ _ _ := rfl

theorem shutdown_still_shut (request : Request) (s t : TpmState) (locality : UInt8) (octets : Bytes)
    (code : request.code = Cc.shutdown)
    (carries : ∀ reply u, runCommand request t = .ok reply u → s.carried locality octets = some request)
    (awake : s.carriesOut Cc.shutdown Su.state locality octets = false)
    (remembered : (final (runCommand request t)).shutdownType = Su.state) :
    t.StillShut (final (runCommand request t)) := by
  have ended := shutdown_boot request t t rfl
  have ran := run_whole request t shutdown (by rw [code]; rfl)
  have same := (congrArg final ran).trans (final_map Response.reply (shutdown request) t)
  cases answered : shutdown request t with
  | ok response u =>
      have carried := carries response.reply u (ran.trans ((succeeds_map _ _ _ _ _).mpr ⟨response, answered, rfl⟩))
      rw [answered] at ended
      obtain ⟨shutdownType, given, booted⟩ := ended
      have kept : u.shutdownType = shutdownType := congrArg Boot.shutdownType booted
      rw [same, answered, show final (EStateM.Result.ok response u) = u from rfl, kept] at remembered
      unfold carriesOut at awake
      simp only [carried, code, given, remembered, found, beq_self_eq_true, Bool.and_self] at awake
      cases awake
  | error e u =>
      rw [answered] at ended
      rw [same, answered, show final (EStateM.Result.error e u) = t from ended] at remembered ⊢
      exact still_shut_of_same t t remembered rfl

theorem begun_still_shut (request : Request) (s : TpmState) (code : request.code = Cc.startup)
    (remembered : (final (runCommand request s)).shutdownType = Su.state) : s.StillShut (final (runCommand request s)) := by
  have same : final (runCommand request s) = final (startup request s) :=
    (congrArg final (run_whole request s startup (by rw [code]; rfl))).trans (final_map _ _ s)
  cases answered : startup request s with
  | ok response u =>
      obtain ⟨_, _, _, begins⟩ := startup_begins request s u response answered
      have forgot : u.shutdownType = Su.none := congrArg Boot.shutdownType begins.boot
      rw [same, answered, show final (EStateM.Result.ok response u) = u from rfl, forgot] at remembered
      exact absurd remembered (by decide)
  | error e u =>
      rw [same, answered, show final (EStateM.Result.error e u) = u from rfl] at remembered ⊢
      exact startup_still_shut request s u e answered remembered

-- Any other command leaves no such shutdown remembered, or rests.
theorem ran_still_shut (s : TpmState) (locality : UInt8) (octets : Bytes)
    (awake : s.carriesOut Cc.shutdown Su.state locality octets = false)
    (remembered : (run locality octets s).2.shutdownType = Su.state) : s.StillShut (run locality octets s).2 := by
  cases took : s.taken locality octets with
  | error e =>
      rw [s.run_of_refused locality octets e took] at remembered ⊢
      exact still_shut_of_same s s remembered rfl
  | ok request =>
      by_cases used : s.started = true ∧ request.code ≠ Cc.shutdown
      · rw [s.run_undoes_shutdown locality octets request took used.1 used.2] at remembered
        exact absurd remembered (by decide)
      · have effect := run_reaches _ remembered_spared s locality octets request took
        have nullified : nullifyShutdown request s = s := by
          unfold nullifyShutdown
          exact if_neg fun undoes => used ⟨undoes.1, undoes.2.1⟩
        cases reached : s.reaching locality octets with
        | none =>
            rw [reached] at effect
            dsimp only at effect
            rw [nullified] at effect
            exact still_shut_of_same s _ remembered effect
        | some pair =>
            obtain ⟨decrypted, t⟩ := pair
            rw [reached] at effect
            dsimp only at effect
            obtain ⟨received, parameters, lockout, nv, took', same, finds⟩ :=
              s.reaching_finds locality octets decrypted t reached
            obtain rfl := Except.ok.inj (took.symm.trans took')
            rw [nullified] at finds
            have coded : decrypted.code = request.code := by rw [same]
            have alike : (t.shutdownType, t.registers) = (s.shutdownType, s.registers) := by
              rw [finds]
              rfl
            have carries : ∀ reply u, runCommand decrypted t = .ok reply u → s.carried locality octets = some decrypted := by
              intro reply u ran
              unfold carried
              simp only [reached, ran]
            replace remembered : (final (runCommand decrypted t)).shutdownType = Su.state :=
              (congrArg Prod.fst effect).symm.trans remembered
            apply still_shut_alike s t _ _ alike effect
            rcases Decidable.em (request.code = Cc.shutdown) with code | code
            · exact shutdown_still_shut decrypted s t locality octets (coded.trans code) carries awake remembered
            · have begins := (s.taken_starts locality octets request took).mpr (by
                cases started : s.started with
                | true => exact absurd ⟨started, code⟩ used
                | false => rfl)
              exact begun_still_shut decrypted t (coded.trans begins) remembered

end TpmState

namespace Tpm

-- The command is carried out with the given type of startup or shutdown, and the file could be written.
def accepts (t : Tpm) (code : UInt32) (startupType : UInt16) : Signal → Bool
  | .execute elapsed written locality command =>
    t.powered && !(t.execute elapsed written locality command).2.state.nvWriteFailed &&
      (t.arrive elapsed).2.carriesOut code startupType locality command
  | _ => false

-- What holds of a state that remembers TPM2_Shutdown(STATE), in memory and in the file, and of a running TPM.
structure Remembers (invariant running : TpmState → Prop) (t : Tpm) : Prop where
  state : t.state.nvWriteFailed = false → t.state.shutdownType = Su.state → invariant t.state
  store : t.store.shutdownType = Su.state → invariant t.store
  runs : t.powered = true → t.state.nvWriteFailed = false → t.state.shutdownType = Su.state → running t.state

-- What the time, a resume, _TPM_Init and `load` leave.
structure Lasting (invariant running : TpmState → Prop) : Prop where
  same : ∀ s u : TpmState, u.pcr = s.pcr → u.pcrAllocation = s.pcrAllocation → invariant s → invariant u
  resumed : ∀ s : TpmState, invariant s → invariant { s with pcr := s.pcr.onResume }
  initialized : ∀ s, invariant s → invariant s.powerOn ∧ running s.powerOn
  loaded : ∀ fresh saved, invariant saved → invariant (TpmState.restored fresh saved)
  ran : ∀ s u : TpmState, u.started = s.started → u.pcr = s.pcr ∨ u.pcr = s.pcr.onResume → running s → running u

section

variable (invariant running : TpmState → Prop) (lasting : Lasting invariant running) (t : Tpm)
  (holds : t.Remembers invariant running)

include holds

theorem remembers_persisted (written : Bool) : (t.persist written).2.Remembers invariant running := by
  unfold persist
  by_cases closed : (t.state.nvWriteFailed || !written) = true
  · rw [if_pos closed]
    exact holds
  · rw [if_neg closed]
    have healthy : t.state.nvWriteFailed = false := by
      simp only [Bool.or_eq_true, not_or, Bool.not_eq_true] at closed
      exact closed.1
    exact ⟨holds.state, holds.state healthy, holds.runs⟩

include lasting

theorem remembers_of_same (s : TpmState) (failed : s.nvWriteFailed = t.state.nvWriteFailed)
    (type : s.shutdownType = t.state.shutdownType) (registers : s.registers = t.state.registers) :
    Remembers invariant running { t with state := s } := by
  simp only [TpmState.registers, Prod.mk.injEq] at registers
  obtain ⟨banks, recorded, _, started⟩ := registers
  exact ⟨fun healthy remembered => lasting.same t.state s banks recorded
      (holds.state (failed.symm.trans healthy) (type.symm.trans remembered)), holds.store,
    fun powered healthy remembered => lasting.ran t.state s started (.inl banks)
      (holds.runs powered (failed.symm.trans healthy) (type.symm.trans remembered))⟩

-- What a command leaves that does not carry out another TPM2_Shutdown(STATE).
theorem ran_remembers (elapsed : UInt64) (locality : UInt8) (command : Bytes)
    (awake : (t.arrive elapsed).2.carriesOut Cc.shutdown Su.state locality command = false) (powered : t.powered = true)
    (healthy : t.state.nvWriteFailed = false) (remembered : (t.ran elapsed locality command).2.shutdownType = Su.state) :
    invariant (t.ran elapsed locality command).2 ∧ running (t.ran elapsed locality command).2 := by
  have rests := (t.arrive elapsed).2.ran_still_shut locality command awake remembered
  have arrived := TpmState.advance_time_registers { t.state with hcrtmSequence := none } elapsed
  obtain ⟨_, _, _, same⟩ := TpmState.advance_time_changes { t.state with hcrtmSequence := none } elapsed
  have type : (t.arrive elapsed).2.shutdownType = t.state.shutdownType := by
    unfold arrive
    rw [same]
  have before := type.symm.trans rests.remembered
  have held := lasting.same t.state (t.arrive elapsed).2 (congrArg (·.1) arrived) (congrArg (·.2.1) arrived)
    (holds.state healthy before)
  have runs := lasting.ran t.state (t.arrive elapsed).2 (congrArg (·.2.2.2) arrived) (.inl (congrArg (·.1) arrived))
    (holds.runs powered healthy before)
  refine ⟨?_, lasting.ran _ _ rests.started rests.banks runs⟩
  rcases rests.banks with banks | banks
  · exact lasting.same _ _ banks rests.recorded held
  · exact lasting.same { (t.arrive elapsed).2 with pcr := (t.arrive elapsed).2.pcr.onResume } _ banks rests.recorded
      (lasting.resumed _ held)

theorem execute_remembers (elapsed : UInt64) (written : Bool) (locality : UInt8) (command : Bytes)
    (awake : t.accepts Cc.shutdown Su.state (.execute elapsed written locality command) = false) :
    (t.execute elapsed written locality command).2.Remembers invariant running := by
  cases powered : t.powered with
  | false =>
      rw [t.execute_unpowered elapsed written locality command powered]
      exact holds
  | true =>
      have ended := t.execute_executes elapsed written locality command powered
      have kept := t.ran_write_failed elapsed locality command
      have ran : (t.execute elapsed written locality command).2.state.nvWriteFailed = false →
          t.state.nvWriteFailed = false → (t.ran elapsed locality command).2.shutdownType = Su.state →
          invariant (t.ran elapsed locality command).2 ∧ running (t.ran elapsed locality command).2 := by
        intro healthy before remembered
        simp only [accepts, powered, healthy, Bool.not_false, Bool.true_and] at awake
        exact ran_remembers invariant running lasting t holds elapsed locality command awake powered before remembered
      generalize t.execute elapsed written locality command = result at ended ran ⊢
      cases ended with
      | saved healthy _ =>
          have held := ran healthy.1 (kept.symm.trans healthy.1)
          exact ⟨fun _ remembered => (held remembered).1, fun remembered => (held remembered).1,
            fun _ _ remembered => (held remembered).2⟩
      | closed _ _ => exact ⟨nofun, holds.store, nofun⟩
      | clockLost _ _ _ _ => exact ⟨nofun, holds.store, nofun⟩
      | unsaved _ _ _ =>
          exact ⟨fun healthy remembered => (ran healthy (kept.symm.trans healthy) remembered).1, holds.store,
            fun _ healthy remembered => (ran healthy (kept.symm.trans healthy) remembered).2⟩

-- The end of an H-CRTM sequence apart, an invariant of what remembers the shutdown lasts until the next one.
theorem remembers_after (signal : Signal) (awake : t.accepts Cc.shutdown Su.state signal = false)
    (measured : signal = .hashEnd →
      (invariant t.state → invariant t.state.hashEnd) ∧ (running t.state → running t.state.hashEnd)) :
    (t.after signal).Remembers invariant running := by
  have kept := remembers_of_same invariant running lasting t holds
  cases signal with
  | execute elapsed written locality command =>
      exact execute_remembers invariant running lasting t holds elapsed written locality command awake
  | powerOn fresh =>
      have booted : ∀ s : TpmState, s.powerOn.shutdownType = s.shutdownType := fun s => by
        obtain ⟨_, booted⟩ := s.power_on_boot
        exact congrArg Boot.shutdownType booted
      have held : (t.powerOn fresh).state.shutdownType = Su.state →
          invariant (t.powerOn fresh).state ∧ running (t.powerOn fresh).state := by
        intro remembered
        unfold powerOn at remembered ⊢
        dsimp only at remembered ⊢
        rw [booted] at remembered
        apply lasting.initialized _
        by_cases failed : t.state.nvWriteFailed = true
        · rw [if_pos failed] at remembered ⊢
          exact lasting.same (TpmState.restored fresh t.store) _ rfl rfl
            (lasting.loaded fresh t.store (holds.store remembered))
        · rw [if_neg failed] at remembered ⊢
          exact holds.state (by simpa using failed) remembered
      exact ⟨fun _ remembered => (held remembered).1, holds.store, fun _ _ remembered => (held remembered).2⟩
  | powerOff written =>
      obtain ⟨state, store, _⟩ := remembers_persisted invariant running t holds written
      exact ⟨fun healthy remembered => lasting.same (t.persist written).2.state _ rfl rfl (state healthy remembered), store,
        nofun⟩
  | nv available => exact kept _ rfl rfl rfl
  | physicalPresence asserted => exact kept _ rfl rfl rfl
  | hashStart => exact kept _ rfl rfl rfl
  | hashData data => exact kept _ rfl rfl rfl
  | hashEnd =>
      obtain ⟨_, _, _, _, same⟩ := t.state.hash_end_changes
      have type : t.state.hashEnd.shutdownType = t.state.shutdownType := by rw [same]
      have failed := t.state.hash_end_write_failed
      exact ⟨fun healthy remembered => (measured rfl).1 (holds.state (failed.symm.trans healthy) (type.symm.trans remembered)),
        holds.store, fun powered healthy remembered =>
          (measured rfl).2 (holds.runs powered (failed.symm.trans healthy) (type.symm.trans remembered))⟩
  | actGetSignaled act elapsed written =>
      refine holds_after_poll (Remembers invariant running) t act elapsed written (fun millis => ?_) fun u held =>
        remembers_persisted invariant running u held written
      obtain ⟨_, _, _, same⟩ := t.state.advance_time_changes millis
      exact kept _ (t.state.advance_time_write_failed millis) (by rw [same]) (t.state.advance_time_registers millis)
  | restart fresh =>
      refine ⟨fun _ remembered => ?_, holds.store, nofun⟩
      exact lasting.same (TpmState.restored fresh t.store) _ rfl rfl (lasting.loaded fresh t.store (holds.store remembered))

end

end Tpm

end

end Swtrust
