import Swtrust.Pin.Handlers
import Swtrust.Pin.Spent
import Swtrust.Lockout.Recovery

set_option autoImplicit false
set_option linter.unusedSectionVars false

namespace Swtrust

open Library Action

namespace TpmState

section

variable [Primitives]

-- The outcomes of the comparisons of a command with the authValue of a PIN Index.
def pinComparisons (s : TpmState) (handle : UInt32) (locality : UInt8) (octets : Bytes) : List Bool :=
  match s.compared locality octets with
  | .ok compared => pinOutcomes handle compared.authorizing
  | .error _ => []

theorem pin_comparisons_prepared (s : TpmState) (handle : UInt32) (locality : UInt8) (octets : Bytes)
    (request : Request) (names : List Bytes) (prepared : s.prepare locality octets = .ok (request, names)) :
    s.pinComparisons handle locality octets =
      pinOutcomes handle (comparisons request names request.info.authHandles 0 (nullifyShutdown request s)) := by
  simp [pinComparisons, TpmState.compared, prepared, bind, Except.bind, pure, Except.pure]

-- A TPM2_NV_Write of the Index that is carried out; one that is refused writes nothing.
def writesPin (s : TpmState) (handle : UInt32) (locality : UInt8) (octets : Bytes) : Bool :=
  match s.carried locality octets with
  | some request => request.code == Cc.nvWrite && found (request.handle 1) (· == handle)
  | none => false

def pinResults (s : TpmState) (handle : UInt32) (event : Event) : List Bool :=
  match event with
  | .command locality octets => s.received.pinComparisons handle locality octets
  | _ => []

def writesIndex (s : TpmState) (handle : UInt32) (event : Event) : Bool :=
  match event with
  | .command locality octets => s.received.writesPin handle locality octets
  | _ => false

-- The Index is not written by TPM2_NV_Write, and after the event it is still there and still written if it was.
structure LeavesIndex (handle : UInt32) (s : TpmState) (event : Event) : Prop where
  unwritten : s.writesIndex handle event = false
  kept : s.nv.keeps (s.after event).nv handle = true

theorem nv_spared_by_execution : SparedByExecution (fun s : TpmState => s.nv) where
  response _ := ⟨fun _ _ => rfl, fun _ _ => rfl, fun _ _ => rfl, fun _ _ _ _ => rfl, fun _ _ _ => rfl⟩
  suppressed _ _ := rfl
  failed _ := rfl

theorem after_authorization_undisturbed (request : Request) (names : List Bytes) (contexts : List AuthContext)
    (handle : UInt32) (pin : Pin) (t : TpmState) (read : t.pinAt handle = .ok pin)
    (unwritten : ∀ decrypted reply t', t.admitted request names contexts = .ok decrypted →
      runCommand decrypted { t with commandAuditSuppressed := false } = .ok reply t' → decrypted.code = Cc.nvWrite →
        decrypted.handle 1 ≠ .ok handle) :
    t.nv.Undisturbed handle pin (final (afterAuthorization request names contexts t)).nv := by
  have ended : (final (afterAuthorization request names contexts t)).nv = _ :=
    after_authorization_ends _ nv_spared_by_execution request names contexts t
  rw [ended]
  cases admits : t.admitted request names contexts with
  | error e => exact t.nv.undisturbed_self handle pin read
  | ok decrypted =>
      exact run_command_undisturbed { t with commandAuditSuppressed := false } decrypted handle pin read
        fun reply t' => unwritten decrypted reply t' admits

-- A PIN Index that was not written stays so: it is never available.
theorem keeps_of_turns (before middle after : NvStore) (handle : UInt32) (pin moved : Pin) (outcomes : List Bool)
    (read : before.pinAt handle = .ok pin) (turns : pin.Turns outcomes moved) (ended : middle.pinAt handle = .ok moved)
    (kept : before.keeps after handle = true) : middle.keeps after handle = true := by
  obtain ⟨index, found, counters⟩ := (before.pin_at_is_ok handle pin).mp read
  obtain ⟨index', found', counters'⟩ := (middle.pin_at_is_ok handle moved).mp ended
  have written := ((index.pin_is_ok pin).mp counters).2.1
  have written' := ((index'.pin_is_ok moved).mp counters').2.1
  have still : moved.written = true → pin.written = true := by
    intro now
    cases turns with
    | nil => exact now
    | cons _ _ _ _ available _ => exact available.1
  unfold NvStore.keeps at kept ⊢
  rw [found] at kept
  rw [found']
  cases left : after.get handle with
  | error e =>
      rw [left] at kept
      cases kept
  | ok next =>
      rw [left] at kept
      dsimp only at kept ⊢
      cases now : index'.written with
      | false => rfl
      | true =>
          rw [written, still (written'.symm.trans now)] at kept
          exact kept

theorem nullify_shutdown_nv (request : Request) (s : TpmState) : (nullifyShutdown request s).nv = s.nv := by
  unfold nullifyShutdown
  split <;> rfl

theorem writes_pin_reached (s : TpmState) (handle : UInt32) (locality : UInt8) (octets : Bytes)
    (unwritten : s.writesPin handle locality octets = false) (request : Request) (names : List Bytes)
    (contexts : List AuthContext) (t : TpmState) (prepared : s.prepare locality octets = .ok (request, names))
    (ran : authorizeFrom request names request.info.authHandles 0 (nullifyShutdown request s) = .ok contexts t)
    (decrypted : Request) (reply : Reply) (t' : TpmState) (admits : t.admitted request names contexts = .ok decrypted)
    (done : runCommand decrypted { t with commandAuditSuppressed := false } = .ok reply t')
    (code : decrypted.code = Cc.nvWrite) : decrypted.handle 1 ≠ .ok handle := by
  have carried : s.carried locality octets = some decrypted := by
    simp only [TpmState.carried, reaching, prepared, ran, admits, done]
  intro named
  simp [writesPin, carried, code, named, found] at unwritten

theorem command_turns (locality : UInt8) (octets : Bytes) (handle : UInt32) (pin : Pin) (s : TpmState)
    (read : s.pinAt handle = .ok pin) (unwritten : s.writesPin handle locality octets = false)
    (kept : s.nv.keeps (run locality octets s).2.nv handle = true) :
    ∃ after, pin.Turns (s.pinComparisons handle locality octets) after ∧
      (run locality octets s).2.pinAt handle = .ok after := by
  -- The comparisons of the command turn the PIN in their order, wherever the command stops.
  have turning : ∀ request names, ∃ after,
      pin.Turns (pinOutcomes handle (comparisons request names request.info.authHandles 0 (nullifyShutdown request s)))
        after ∧
      (final (authorizeFrom request names request.info.authHandles 0 (nullifyShutdown request s))).pinAt handle =
        .ok after := by
    intro request names
    refine authorize_from_turns request names handle _ 0 _ pin ?_
    unfold pinAt
    rw [nullify_shutdown_nv]
    exact read
  cases s.run_course locality octets with
  | unprepared e stopped same =>
      have silent : s.pinComparisons handle locality octets = [] := by
        simp [pinComparisons, TpmState.compared, stopped, bind, Except.bind]
      rw [silent]
      refine ⟨pin, .nil pin, ?_⟩
      rcases same with same | ⟨request, _, same⟩
      · rw [same]
        exact read
      · rw [same]
        unfold pinAt
        rw [nullify_shutdown_nv]
        exact read
  | unauthorized request names prepared e ran =>
      rw [s.pin_comparisons_prepared handle locality octets request names prepared]
      obtain ⟨after, turns, ended⟩ := turning request names
      rw [ran] at ended
      exact ⟨after, turns, ended⟩
  | authorized request names prepared contexts t ran ended =>
      rw [s.pin_comparisons_prepared handle locality octets request names prepared]
      obtain ⟨after, turns, moved⟩ := turning request names
      rw [ran] at moved
      refine ⟨after, turns, ?_⟩
      rw [ended] at kept ⊢
      refine after_authorization_undisturbed request names contexts handle after t moved ?_ ?_
      · exact s.writes_pin_reached handle locality octets unwritten request names contexts t prepared ran
      · exact keeps_of_turns _ _ _ handle pin after _ read turns moved kept

theorem spent_uncompared (s : TpmState) (handle : UInt32) (pin : Pin) (read : s.pinAt handle = .ok pin)
    (spent : ¬ pin.available) (locality : UInt8) (octets : Bytes) : s.pinComparisons handle locality octets = [] := by
  cases prepared : s.prepare locality octets with
  | error e => simp [pinComparisons, TpmState.compared, prepared, bind, Except.bind]
  | ok pair =>
      obtain ⟨request, names⟩ := pair
      rw [s.pin_comparisons_prepared handle locality octets request names prepared]
      have still : (nullifyShutdown request s).pinAt handle = .ok pin := by
        unfold pinAt
        rw [nullify_shutdown_nv]
        exact read
      obtain ⟨after, turns, _⟩ := authorize_from_turns request names handle request.info.authHandles 0 _ pin still
      exact (pin.turns_spent after _ turns spent).1

-- Nothing is compared with the authValue of the Index, and a command that asks for that is refused.
structure RefusesPin (handle : UInt32) (s : TpmState) : Prop where
  uncompared : ∀ event, s.pinResults handle event = []
  refused : ∀ locality octets request names position, s.received.prepare locality octets = .ok (request, names) →
    position < request.info.authHandles → s.received.AsksPin handle request position →
      ∃ e, (run locality octets s.received).1 = errorResponse e

theorem refuses_pin_of_spent (s : TpmState) (handle : UInt32) (pin : Pin) (read : s.pinAt handle = .ok pin)
    (spent : ¬ pin.available) : s.RefusesPin handle where
  uncompared event := by
    cases event with
    | command locality octets => exact s.received.spent_uncompared handle pin read spent locality octets
    | _ => rfl
  refused locality octets request names position prepared inside asks :=
    spent_refused request names handle pin spent s.received locality octets read prepared position inside asks

theorem hash_end_nv (s : TpmState) : s.hashEnd.nv = s.nv := by
  have measured : ∀ (s : TpmState) digest, (measureHcrtm s digest).nv = s.nv := by
    intro s digest
    unfold measureHcrtm
    split
    · rfl
    · rfl
    · split <;> rfl
  have folded : ∀ (digests : List (UInt16 × Bytes)) (s : TpmState), (digests.foldl measureHcrtm s).nv = s.nv := by
    intro digests
    induction digests with
    | nil => exact fun s => rfl
    | cons digest rest ih => exact fun s => (ih _).trans (measured s digest)
  unfold hashEnd
  split
  · rfl
  · dsimp only
    split
    · rfl
    · exact folded _ _

theorem power_on_nv (s : TpmState) : s.powerOn.nv = s.nv := by
  have start : Keeps (fun s : TpmState => s.nv) onInit := by
    intro s
    unfold onInit
    rw [run_get_bind]
    split
    · rw [run_lift_bind]
      split
      · rfl
      · rfl
    · rfl
  have tested : Keeps (fun s : TpmState => s.nv) (zoomTest runSelfTests) := keeps_zoom _ _ _ _ fun _ _ => rfl
  unfold powerOn
  refine (tested _).trans ?_
  split
  · exact start { s with failureMode := true, testFailure := some "nv write", started := false }
  · exact start { s with started := false }

theorem elapse_nv (s : TpmState) (millis : UInt64) : (s.after (.elapse millis)).nv = s.nv := by
  simp only [after, advanceTime]
  split
  · rfl
  · split
    · rfl
    · split <;> rfl

theorem event_keeps_nv (s : TpmState) (event : Event) (other : ∀ locality octets, event ≠ .command locality octets) :
    (s.after event).nv = s.nv := by
  cases event with
  | command locality octets => exact absurd rfl (other locality octets)
  | elapse millis => exact s.elapse_nv millis
  | powerOn => exact s.power_on_nv
  | powerOff => rfl
  | nv available => rfl
  | physicalPresence asserted => rfl
  | hashStart => rfl
  | hashData data => rfl
  | hashEnd => exact s.hash_end_nv

theorem event_turns (s : TpmState) (event : Event) (handle : UInt32) (pin : Pin) (read : s.pinAt handle = .ok pin)
    (leaves : LeavesIndex handle s event) :
    ∃ after, pin.Turns (s.pinResults handle event) after ∧ (s.after event).pinAt handle = .ok after := by
  by_cases sent : ∃ locality octets, event = .command locality octets
  · obtain ⟨locality, octets, rfl⟩ := sent
    exact command_turns locality octets handle pin s.received read leaves.unwritten leaves.kept
  · have silent : s.pinResults handle event = [] := by
      unfold pinResults
      split
      next locality octets => exact absurd ⟨locality, octets, rfl⟩ sent
      next => rfl
    rw [silent]
    refine ⟨pin, .nil pin, ?_⟩
    unfold pinAt
    rw [event_keeps_nv s event fun locality octets same => sent ⟨locality, octets, same⟩]
    exact read

end

end TpmState

namespace Pin

-- Failures in a row, a success starting over.
def failuresAfter (outcomes : List Bool) (failures : Nat) : Nat :=
  outcomes.foldl (fun failures accepted => if accepted then 0 else failures + 1) failures

theorem raised_to_nat (pin : Pin) (available : pin.available) :
    (if pin.counters.pinCount = 0xFFFFFFFF then pin.counters.pinCount else pin.counters.pinCount + 1).toNat =
      pin.counters.pinCount.toNat + 1 := by
  have below := UInt32.lt_iff_toNat_lt.mp available.2
  have bound := pin.counters.pinLimit.toNat_lt
  have apart : pin.counters.pinCount ≠ 0xFFFFFFFF := fun same => by
    rw [same] at below
    simp only [UInt32.reduceToNat] at below
    omega
  rw [if_neg apart, UInt32.toNat_add]
  simp only [UInt32.reduceToNat]
  omega

theorem turns_fail (pin after : Pin) (outcomes : List Bool) (turns : pin.Turns outcomes after) (failures : Nat)
    (type : pin.indexType = Nt.pinFail) (counted : failures ≤ pin.counters.pinCount.toNat)
    (bounded : failures ≤ pin.counters.pinLimit.toNat) :
    failuresAfter outcomes failures ≤ after.counters.pinCount.toNat ∧
      failuresAfter outcomes failures ≤ pin.counters.pinLimit.toNat := by
  induction turns generalizing failures with
  | nil pin => exact ⟨counted, bounded⟩
  | cons pin after accepted rest available turns ih =>
      have raised := pin.raised_to_nat available
      have below := UInt32.lt_iff_toNat_lt.mp available.2
      cases accepted with
      | true => exact ih 0 type (Nat.zero_le _) (Nat.zero_le _)
      | false =>
          refine ih (failures + 1) type ?_ ?_
          · simp only [turn, type]
            change failures + 1 ≤ UInt32.toNat (if _ then _ else _)
            omega
          · change failures + 1 ≤ pin.counters.pinLimit.toNat
            omega

theorem turns_pass (pin after : Pin) (outcomes : List Bool) (turns : pin.Turns outcomes after)
    (type : pin.indexType = Nt.pinPass) :
    after.counters.pinCount.toNat = pin.counters.pinCount.toNat + outcomes.count true ∧
      outcomes.count true ≤ pin.counters.pinLimit.toNat - pin.counters.pinCount.toNat := by
  induction turns with
  | nil pin => exact ⟨rfl, Nat.zero_le _⟩
  | cons pin after accepted rest available turns ih =>
      have raised := pin.raised_to_nat available
      have below := UInt32.lt_iff_toNat_lt.mp available.2
      obtain ⟨counted, bounded⟩ := ih type
      cases accepted with
      | true =>
          have moved : (pin.turn true).counters.pinCount.toNat = pin.counters.pinCount.toNat + 1 := by
            simp only [turn, type]
            exact raised
          rw [moved] at counted bounded
          rw [List.count_cons_self]
          change _ ≤ pin.counters.pinLimit.toNat - _ at bounded
          omega
      | false =>
          have moved : (pin.turn false).counters.pinCount = pin.counters.pinCount := by
            simp only [turn, type]
            rfl
          rw [moved] at counted bounded
          rw [List.count_cons_of_ne (by decide)]
          exact ⟨counted, bounded⟩

theorem turns_keep (pin after : Pin) (outcomes : List Bool) (turns : pin.Turns outcomes after) :
    after.indexType = pin.indexType ∧ after.counters.pinLimit = pin.counters.pinLimit := by
  induction turns with
  | nil pin => exact ⟨rfl, rfl⟩
  | cons pin after accepted rest available turns ih => exact ih

end Pin

-- The comparisons with the authValue of a PIN Index: failures in a row, and authorizations.
structure PinUse where
  state : TpmState
  failures : Nat
  uses : Nat

namespace PinUse

open TpmState

section

variable [Primitives] (handle : UInt32)

def next (use : PinUse) (event : Event) : PinUse where
  state := use.state.after event
  failures := Pin.failuresAfter (use.state.pinResults handle event) use.failures
  uses := use.uses + (use.state.pinResults handle event).count true

def afterAll (use : PinUse) (events : List Event) : PinUse := events.foldl (next handle) use

-- As many failures in a row, or as many uses, as the Index allowed when it read `start`.
def Exhausts (start : Pin) (use : PinUse) : Prop :=
  start.indexType = Nt.pinFail ∧ use.failures = start.counters.pinLimit.toNat ∨
    start.indexType = Nt.pinPass ∧ use.uses = start.counters.pinLimit.toNat - start.counters.pinCount.toNat

-- What the counters of the Index say of the comparisons made since they read `start`.
structure Within (start : Pin) (use : PinUse) (pin : Pin) : Prop where
  read : use.state.pinAt handle = .ok pin
  indexType : pin.indexType = start.indexType
  pinLimit : pin.counters.pinLimit = start.counters.pinLimit
  fail : start.indexType = Nt.pinFail →
    use.failures ≤ pin.counters.pinCount.toNat ∧ use.failures ≤ start.counters.pinLimit.toNat
  pass : start.indexType = Nt.pinPass → pin.counters.pinCount.toNat = start.counters.pinCount.toNat + use.uses ∧
    use.uses ≤ start.counters.pinLimit.toNat - start.counters.pinCount.toNat

theorem spent_of_exhausts (start pin : Pin) (use : PinUse) (within : use.Within handle start pin)
    (exhausts : use.Exhausts start) : ¬ pin.available := by
  rintro ⟨_, below⟩
  have below := UInt32.lt_iff_toNat_lt.mp below
  rw [within.pinLimit] at below
  rcases exhausts with ⟨type, count⟩ | ⟨type, count⟩
  · have counted := (within.fail type).1
    omega
  · have counted := (within.pass type).1
    omega

theorem within_next (start : Pin) (use : PinUse) (event : Event) (within : ∃ pin, use.Within handle start pin)
    (leaves : LeavesIndex handle use.state event) : ∃ pin, (use.next handle event).Within handle start pin := by
  obtain ⟨pin, within⟩ := within
  obtain ⟨after, turns, ended⟩ := event_turns use.state event handle pin within.read leaves
  obtain ⟨indexType, pinLimit⟩ := Pin.turns_keep pin after _ turns
  refine ⟨after, ended, indexType.trans within.indexType, pinLimit.trans within.pinLimit, fun type => ?_, fun type => ?_⟩
  · obtain ⟨counted, bounded⟩ := within.fail type
    have failed := Pin.turns_fail pin after _ turns use.failures (within.indexType.trans type) counted
      (by rw [within.pinLimit]; exact bounded)
    rw [within.pinLimit] at failed
    exact failed
  · obtain ⟨counted, bounded⟩ := within.pass type
    obtain ⟨moved, more⟩ := Pin.turns_pass pin after _ turns (within.indexType.trans type)
    rw [within.pinLimit] at more
    simp only [next]
    omega

end

end PinUse

section

variable [Primitives]

theorem start_session_refuses_pin (s : TpmState) (request : Request) (bound handle : UInt32) (entity : Entity)
    (named : request.handle 1 = .ok bound) (found : s.entity bound = .ok entity) (pinned : entity.pin = some handle)
    (t : ContextScope) : ∃ e, startAuthSession s request t = .error e t := by
  obtain ⟨e, refused⟩ : ∃ e, bindOf s bound = .error e := by
    unfold bindOf
    by_cases none : bound = Rh.null
    · subst none
      have hierarchy : Hierarchies.isHierarchy ((Hierarchies.baseOf Rh.null).getD Rh.null) = true := by decide
      simp only [TpmState.entity, bind_is_ok, hierarchy, if_true, pure_is_ok] at found
      obtain ⟨_, _, _, _, rfl⟩ := found
      cases pinned
    · rw [if_neg none, found]
      simp only [withHandle, Except.mapError, bind, Except.bind, pinned, Option.isSome_some, if_true]
      exact ⟨_, rfl⟩
  unfold startAuthSession
  rw [run_lift_bind]
  split
  · rw [run_lift_bind, named]
    dsimp only
    rw [run_lift_bind]
    split
    · rw [run_lift_bind]
      split
      · rw [run_lift_bind]
        split
        · rw [run_lift_bind, refused]
          exact ⟨e, rfl⟩
        · exact ⟨_, rfl⟩
      · exact ⟨_, rfl⟩
    · exact ⟨_, rfl⟩
  · exact ⟨_, rfl⟩

theorem pin_index_bound (s : TpmState) (handle : UInt32) (pin : Pin) (read : s.pinAt handle = .ok pin)
    (events : List Event) (leaves : s.EveryEvent (TpmState.LeavesIndex handle) events) :
    (pin.indexType = Nt.pinFail →
      ((⟨s, 0, 0⟩ : PinUse).afterAll handle events).failures ≤ pin.counters.pinLimit.toNat) ∧
    (pin.indexType = Nt.pinPass → ((⟨s, 0, 0⟩ : PinUse).afterAll handle events).uses ≤
      pin.counters.pinLimit.toNat - pin.counters.pinCount.toNat) ∧
    (((⟨s, 0, 0⟩ : PinUse).afterAll handle events).Exhausts pin → ∀ later,
      (s.afterAll events).EveryEvent (TpmState.LeavesIndex handle) later →
        ((s.afterAll events).afterAll later).RefusesPin handle) ∧
    (∀ event, TpmState.LeavesIndex handle (s.afterAll events) event →
      (s.afterAll events).pinResults handle event = [] →
        ((s.afterAll events).after event).pinAt handle = (s.afterAll events).pinAt handle) ∧
    ∀ request bound entity, request.handle 1 = .ok bound → (s.afterAll events).entity bound = .ok entity →
      entity.pin = some handle → ∀ t, ∃ e, startAuthSession (s.afterAll events) request t = .error e t := by
  have every := every_of_view _ _ (PinUse.next handle) PinUse.state (fun _ _ => rfl) ⟨s, 0, 0⟩ events leaves
  have within := invariant_of_every _ _ (fun use => ∃ now, PinUse.Within handle pin use now)
    (fun use event leaves within => use.within_next handle pin event within leaves) ⟨s, 0, 0⟩ events every
    ⟨pin, read, rfl, rfl, fun _ => ⟨Nat.zero_le _, Nat.zero_le _⟩, fun _ => ⟨rfl, Nat.zero_le _⟩⟩
  have state : ∀ (events : List Event) (use : PinUse), (use.afterAll handle events).state = use.state.afterAll events := by
    intro events
    induction events with
    | nil => exact fun use => rfl
    | cons event rest ih => exact fun use => ih (use.next handle event)
  obtain ⟨now, within⟩ := within
  change PinUse.Within handle pin ((⟨s, 0, 0⟩ : PinUse).afterAll handle events) now at within
  have reached := within.read
  rw [state events ⟨s, 0, 0⟩] at reached
  refine ⟨fun type => (within.fail type).2, fun type => (within.pass type).2, fun exhausts later stays => ?_,
    fun event leaves none => ?_, fun request bound entity named found pinned t => ?_⟩
  · have spent := PinUse.spent_of_exhausts handle pin now _ within exhausts
    obtain ⟨last, ended, left⟩ := invariant_of_every _ _ (fun t => ∃ last, t.pinAt handle = .ok last ∧ ¬ last.available)
      (fun t event leaves held => by
        obtain ⟨last, read, spent⟩ := held
        obtain ⟨after, turns, ended⟩ := t.event_turns event handle last read leaves
        obtain ⟨_, rfl⟩ := last.turns_spent after _ turns spent
        exact ⟨after, ended, spent⟩) _ later stays ⟨now, reached, spent⟩
    exact TpmState.refuses_pin_of_spent _ handle last ended left
  · obtain ⟨after, turns, ended⟩ := TpmState.event_turns _ event handle now reached leaves
    rw [none] at turns
    cases turns
    rw [ended, reached]
  · exact start_session_refuses_pin _ request bound handle entity named found pinned t

end

instance (handle : UInt32) (s : TpmState) [Primitives] (event : Event) : Decidable (TpmState.LeavesIndex handle s event) :=
  decidable_of_iff (_ ∧ _) ⟨fun ⟨unwritten, kept⟩ => ⟨unwritten, kept⟩, fun leaves => ⟨leaves.unwritten, leaves.kept⟩⟩

namespace Toy

def pinHandle : UInt32 := Hc.nvIndexFirst

-- An Index whose authValue is one octet, to be written by the owner and read with its authValue.
def definePin (indexType : UInt8) : Bytes :=
  let attributes : UInt32 := indexType.toUInt32 <<< (4 : UInt32) ||| NvAttributes.noDa ||| NvAttributes.ownerwrite |||
    NvAttributes.authread
  authorizedCommand Cc.nvDefineSpace [Rh.owner] [(Rh.rsPw, [])] (sized16 [5] ++ sized16
    (NvPublic.marshal { nvIndex := pinHandle, nameAlg := Alg.sha256, attributes := ⟨attributes⟩
                        authPolicy := Tpm2b.empty, dataSize := 8 }))

def writePin (pinLimit : UInt32) : Bytes :=
  authorizedCommand Cc.nvWrite [Rh.owner, pinHandle] [(Rh.rsPw, [])]
    (sized16 (NvPinCounterParameters.marshal ⟨0, pinLimit⟩) ++ be16 0)

def readPin (guess : Bytes) : Bytes :=
  authorizedCommand Cc.nvRead [pinHandle, pinHandle] [(Rh.rsPw, guess)] (be16 8 ++ be16 0)

def pinned (indexType : UInt8) : TpmState := afterCommands [definePin indexType, writePin 2] booted

def wrongPins : List Event := List.replicate 2 (.command 0 (readPin [6]))

-- Two wrong guesses at an Index that allows two: from then on nothing more is compared, a right one neither.
theorem third_pin_guess_is_unanswered : ∃ pin, (pinned Nt.pinFail).pinAt pinHandle = .ok pin ∧
    ((⟨pinned Nt.pinFail, 0, 0⟩ : PinUse).afterAll pinHandle wrongPins).failures = 2 ∧
    ((⟨pinned Nt.pinFail, 0, 0⟩ : PinUse).afterAll pinHandle wrongPins).failures ≤ pin.counters.pinLimit.toNat ∧
    (((pinned Nt.pinFail).afterAll wrongPins).afterAll [.command 0 (readPin [5])]).RefusesPin pinHandle := by
  have tested : found ((pinned Nt.pinFail).pinAt pinHandle) (fun pin => pin.indexType == Nt.pinFail &&
      pin.counters.pinLimit == 2 &&
      decide ((pinned Nt.pinFail).EveryEvent (TpmState.LeavesIndex pinHandle) wrongPins) &&
      decide (((pinned Nt.pinFail).afterAll wrongPins).EveryEvent (TpmState.LeavesIndex pinHandle)
        [.command 0 (readPin [5])]) &&
      ((⟨pinned Nt.pinFail, 0, 0⟩ : PinUse).afterAll pinHandle wrongPins).failures == 2) = true := by decide +kernel
  obtain ⟨pin, read, tested⟩ := ok_of_found _ _ tested
  simp only [Bool.and_eq_true, beq_iff_eq, decide_eq_true_eq] at tested
  obtain ⟨⟨⟨⟨type, pinLimit⟩, leaves⟩, later⟩, counted⟩ := tested
  obtain ⟨bounded, _, refuses, _⟩ := pin_index_bound _ pinHandle pin read wrongPins leaves
  have exhausts : PinUse.Exhausts pin ((⟨pinned Nt.pinFail, 0, 0⟩ : PinUse).afterAll pinHandle wrongPins) :=
    .inl ⟨type, by rw [counted, pinLimit]; rfl⟩
  exact ⟨pin, read, counted, bounded type, refuses exhausts _ later⟩

end Toy

end Swtrust
