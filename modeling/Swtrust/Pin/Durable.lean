import Swtrust.Device.Frame
import Swtrust.Pin.Bound

set_option autoImplicit false
set_option linter.unusedSectionVars false

namespace Swtrust

open Library Action

namespace NvStore

-- Recording a comparison makes no PIN Index of what was none.
theorem record_pin_found (store : NvStore) (entity : Entity) (accepted : Bool) (handle : UInt32) :
    found ((store.recordPin entity accepted).pinAt handle) (fun _ => true) =
      found (store.pinAt handle) (fun _ => true) := by
  cases read : store.pinAt handle with
  | ok pin =>
      rw [record_pin_at store entity accepted handle pin read]
      rfl
  | error e =>
      unfold recordPin
      cases pinned : entity.pin with
      | none => rw [read]
      | some other =>
          dsimp only
          split
          · rw [read]
          next index held =>
            split
            · rw [read]
            next pin counters =>
              have apart : handle ≠ other := fun same => by
                subst same
                have found := (store.pin_at_is_ok handle pin).mpr ⟨index, held, counters⟩
                rw [read] at found
                cases found
              rw [pin_at_put, if_neg apart, read]

end NvStore

namespace Pin

theorem turns_foldl (pin after : Pin) (outcomes : List Bool) (turns : pin.Turns outcomes after) :
    after = outcomes.foldl turn pin := by
  induction turns with
  | nil pin => rfl
  | cons pin after accepted rest available turns ih => exact ih

-- Comparisons that leave the counters leave the Index as it was.
theorem turns_unmoved (pin after : Pin) (outcomes : List Bool) (turns : pin.Turns outcomes after)
    (counters : after.counters = pin.counters) : after = pin := by
  have written : after.written = true → pin.written = true := by
    intro now
    cases turns with
    | nil => exact now
    | cons _ _ _ _ available _ => exact available.1
  have stays : pin.written = true → after.written = true := by
    intro before
    clear counters written
    induction turns with
    | nil pin => exact before
    | cons pin after accepted rest available turns ih => exact ih rfl
  refine Pin.ext (turns_keep pin after outcomes turns).1 ?_ counters
  cases now : pin.written with
  | true => exact stays now
  | false =>
      cases later : after.written with
      | false => rfl
      | true =>
          rw [written later] at now
          cases now

end Pin

theorem parsed_code (octets : Bytes) (locality : UInt8) (request : Request)
    (parsed : parse octets locality = .ok request) :
    ∃ header, parseHeader octets = .ok header ∧ header.code = request.code := by
  simp only [parse, bind_is_ok] at parsed
  obtain ⟨header, read, parsed⟩ := parsed
  refine ⟨header, read, ?_⟩
  split at parsed
  · cases parsed
  · simp only [bind_is_ok, pure_is_ok] at parsed
    obtain ⟨_, _, rfl⟩ := parsed
    rfl

theorem nv_commands_write : ∀ code ∈ Cc.startup :: Cc.shutdown :: Cc.clear :: nvCommands, writesNv code = true :=
  List.all_eq_true.mp (by decide +kernel)

section

variable [Primitives]

theorem run_command_spares_nv (request : Request) (s : TpmState) (plain : writesNv request.code = false) :
    (final (runCommand request s)).nv = s.nv := by
  unfold runCommand
  cases named : handlerOf request.code with
  | none => rfl
  | some handler =>
      have spares := List.all_eq_true.mp handlers_spare_nv _ (handler_mem _ _ named)
      rw [Bool.or_eq_true] at spares
      rcases spares with spares | listed
      · exact handler.keeps_run _ request (fun action => handler.scope.keeps_nv action spares) s
      · have writes := nv_commands_write request.code (by simpa using listed)
        rw [plain] at writes
        cases writes

namespace TpmState

theorem keeps_authorize_from_of_settle {υ : Type} (view : TpmState → υ) (request : Request) (names : List Bytes)
    (kept : ∀ index entity attempt, Keeps view (settle request index entity attempt)) (count index : Nat) :
    Keeps view (authorizeFrom request names count index) := by
  have here : ∀ index, Keeps view (authorizeAt request names index) := by
    intro index s
    rw [s.authorize_at_follows request names index]
    cases s.attemptAt request names index with
    | error e => rfl
    | ok pair => exact keeps_bind _ _ _ (kept index pair.1 pair.2) (fun _ => keeps_pure _ _) s
  induction count generalizing index with
  | zero => exact keeps_pure _ _
  | succ count ih =>
      exact keeps_bind _ _ _ (here index) fun _ => keeps_bind _ _ _ (ih (index + 1)) fun _ => keeps_pure _ _

theorem authorize_from_pin_found (request : Request) (names : List Bytes) (count index : Nat) (handle : UInt32) :
    Keeps (fun s => found (s.pinAt handle) fun _ => true) (authorizeFrom request names count index) := by
  refine keeps_authorize_from_of_settle _ request names (fun index entity attempt s => ?_) count index
  dsimp only [pinAt]
  rw [settle_nv]
  split
  · rfl
  · exact s.nv.record_pin_found entity attempt.accepted handle

-- A command whose table entry writes no NV leaves the Indices to its authorizations.
theorem plain_command_nv (s : TpmState) (locality : UInt8) (octets : Bytes) (plain : commandWritesNv octets = false) :
    (run locality octets s).2.nv = s.nv ∧ (∀ handle, s.pinComparisons handle locality octets = []) ∨
      ∃ request names, s.prepare locality octets = .ok (request, names) ∧ (run locality octets s).2.nv =
        (final (authorizeFrom request names request.info.authHandles 0 (nullifyShutdown request s))).nv := by
  cases s.run_course locality octets with
  | unprepared e stopped same =>
      refine .inl ⟨?_, fun handle => by simp [pinComparisons, TpmState.compared, stopped, bind, Except.bind]⟩
      rcases same with same | ⟨request, _, same⟩
      · rw [same]
      · rw [same, nullify_shutdown_nv]
  | unauthorized request names prepared e ran => exact .inr ⟨request, names, prepared, by rw [ran]; rfl⟩
  | authorized request names prepared contexts t ran ended =>
      refine .inr ⟨request, names, prepared, ?_⟩
      obtain ⟨_, parsed, _⟩ := (s.prepare_is_ok locality octets request names).mp prepared
      obtain ⟨header, read, code⟩ := parsed_code octets locality request parsed
      have silent : writesNv request.code = false := by simpa [commandWritesNv, found, read, code] using plain
      rw [ended, ran]
      rcases after_authorization_runs _ nv_spared_by_execution request names contexts t with same | ⟨parameters, moved⟩
      · exact same
      · exact moved.trans (run_command_spares_nv { request with parameters } _ silent)

theorem plain_command_turns (s : TpmState) (locality : UInt8) (octets : Bytes) (plain : commandWritesNv octets = false)
    (handle : UInt32) (after : Pin) (ended : (run locality octets s).2.pinAt handle = .ok after) :
    ∃ pin, s.pinAt handle = .ok pin ∧ pin.Turns (s.pinComparisons handle locality octets) after := by
  rcases s.plain_command_nv locality octets plain with ⟨same, silent⟩ | ⟨request, names, prepared, same⟩
  · unfold pinAt at ended ⊢
    rw [same] at ended
    exact ⟨after, ended, by rw [silent]; exact .nil after⟩
  · rw [pin_comparisons_prepared s handle locality octets request names prepared]
    have moved : (final (authorizeFrom request names request.info.authHandles 0 (nullifyShutdown request s))).pinAt handle =
        .ok after := by
      unfold pinAt at ended ⊢
      rw [← same]
      exact ended
    have held := authorize_from_pin_found request names request.info.authHandles 0 handle (nullifyShutdown request s)
    dsimp only at held
    rw [moved] at held
    obtain ⟨pin, read, _⟩ := ok_of_found _ _ held.symm
    obtain ⟨other, turns, reached⟩ := authorize_from_turns request names handle request.info.authHandles 0 _ pin read
    rw [moved] at reached
    obtain rfl := Except.ok.inj reached
    refine ⟨pin, ?_, turns⟩
    unfold pinAt at read ⊢
    rw [nullify_shutdown_nv] at read
    exact read

-- No comparison of the command moves the counters of a PIN Index.
def MovesNoPin (s : TpmState) (locality : UInt8) (octets : Bytes) : Prop :=
  ∀ handle pin, s.pinAt handle = .ok pin →
    ((s.pinComparisons handle locality octets).foldl Pin.turn pin).counters = pin.counters

-- A command with a handle to authorize is refused once a write failed.
theorem closed_compares_nothing (s : TpmState) (closed : s.nvWriteFailed = true) (handle : UInt32) (locality : UInt8)
    (octets : Bytes) : s.pinComparisons handle locality octets = [] := by
  cases prepared : s.prepare locality octets with
  | error e => simp [pinComparisons, TpmState.compared, prepared, bind, Except.bind]
  | ok pair =>
      obtain ⟨request, names⟩ := pair
      rw [s.pin_comparisons_prepared handle locality octets request names prepared]
      obtain ⟨_, _, started, _⟩ := (s.prepare_is_ok locality octets request names).mp prepared
      simp only [checkStarted, guarded_then_is_ok] at started
      have none : request.info.authHandles = 0 := by
        by_contra some
        exact started.2.1 ⟨.inr closed, .inr (Nat.pos_of_ne_zero some)⟩
      rw [none]
      rfl

theorem pin_at_of_indices (s u : TpmState) (handle : UInt32) (same : s.nv.indices = u.nv.indices) :
    s.pinAt handle = u.pinAt handle := by
  unfold pinAt NvStore.pinAt NvStore.get
  rw [same]

theorem advance_time_nv (s : TpmState) (millis : UInt64) : (s.advanceTime millis).2.nv = s.nv := s.elapse_nv millis

end TpmState

namespace Tpm

-- The file holds the counters of every PIN Index.
def Synced (t : Tpm) : Prop := ∀ handle pin, t.state.pinAt handle = .ok pin → t.store.pinAt handle = .ok pin

-- Once a write failed, nothing more is written until the file is read again.
def Durable (t : Tpm) : Prop := t.state.nvWriteFailed = true ∨ t.Synced

-- What makes a command write the file, or leaves it nothing to write of a PIN Index.
inductive Meets (t : Tpm) : Signal → Prop where
  | listed (elapsed : UInt64) (written : Bool) (locality : UInt8) (command : Bytes)
      (writes : commandWritesNv command = true) : Meets t (.execute elapsed written locality command)
  | witnessed (elapsed : UInt64) (written : Bool) (locality : UInt8) (command : Bytes)
      (moved : (t.ran elapsed locality command).2.witness ≠ t.state.witness) :
      Meets t (.execute elapsed written locality command)
  | rolledOver (elapsed : UInt64) (locality : UInt8) (command : Bytes) (rolled : (t.arrive elapsed).1 = true) :
      Meets t (.execute elapsed true locality command)
  | still (elapsed : UInt64) (written : Bool) (locality : UInt8) (command : Bytes)
      (unmoved : (t.arrive elapsed).2.MovesNoPin locality command) : Meets t (.execute elapsed written locality command)
  | other (signal : Signal) (apart : ∀ elapsed written locality command, signal ≠ .execute elapsed written locality command) :
      Meets t signal

-- A command is answered that NV is unavailable, or the file holds the counters it left.
def Reflects (t : Tpm) : Signal → Prop
  | .execute elapsed written locality command =>
    t.state.nvWriteFailed = true ∨
      (t.execute elapsed written locality command).1 = errorResponse Rc.nvUnavailable ∨
      (t.execute elapsed written locality command).2.Synced
  | _ => True

-- A command that meets the condition and is not written moves no counter.
theorem meets_unwritten (t : Tpm) (elapsed : UInt64) (written : Bool) (locality : UInt8) (command : Bytes)
    (meets : t.Meets (.execute elapsed written locality command)) (plain : commandWritesNv command = false)
    (same : (t.ran elapsed locality command).2.witness = t.state.witness)
    (clock : (t.arrive elapsed).1 = false ∨ written = false) : (t.arrive elapsed).2.MovesNoPin locality command := by
  cases meets with
  | listed _ _ _ _ writes =>
      rw [plain] at writes
      cases writes
  | witnessed _ _ _ _ moved => exact absurd same moved
  | rolledOver _ _ _ rolled =>
      rw [rolled] at clock
      exact absurd clock (by decide)
  | still _ _ _ _ unmoved => exact unmoved
  | other _ apart => exact absurd rfl (apart elapsed written locality command)

theorem synced_of_same (t t' : Tpm) (state : t'.state.nv = t.state.nv) (store : t'.store.nv = t.store.nv)
    (synced : t.Synced) : t'.Synced := by
  intro handle pin read
  unfold TpmState.pinAt at read ⊢
  rw [state] at read
  rw [store]
  exact synced handle pin read

theorem synced_of_equal (t : Tpm) (same : t.state.nv.indices = t.store.nv.indices) : t.Synced := by
  intro handle pin read
  rw [← TpmState.pin_at_of_indices t.state t.store handle same]
  exact read

-- A command that writes nothing and moves no counter.
theorem synced_of_still (t : Tpm) (elapsed : UInt64) (locality : UInt8) (command : Bytes) (synced : t.Synced)
    (plain : commandWritesNv command = false) (unmoved : (t.arrive elapsed).2.MovesNoPin locality command) :
    ({ t with state := (t.ran elapsed locality command).2 } : Tpm).Synced := by
  intro handle after ended
  obtain ⟨pin, read, turns⟩ := (t.arrive elapsed).2.plain_command_turns locality command plain handle after ended
  have counters : after.counters = pin.counters := by
    rw [Pin.turns_foldl pin after _ turns]
    exact unmoved handle pin read
  rw [Pin.turns_unmoved pin after _ turns counters]
  refine synced handle pin ?_
  have arrived : (t.arrive elapsed).2.nv = t.state.nv := TpmState.advance_time_nv _ elapsed
  unfold TpmState.pinAt at read ⊢
  rw [arrived] at read
  exact read

-- One command that meets the condition.
theorem execute_durable (t : Tpm) (elapsed : UInt64) (written : Bool) (locality : UInt8) (command : Bytes)
    (durable : t.Durable) (meets : t.Meets (.execute elapsed written locality command)) :
    (t.execute elapsed written locality command).2.Durable ∧ t.Reflects (.execute elapsed written locality command) := by
  cases powered : t.powered with
  | false =>
      have same := t.execute_unpowered elapsed written locality command powered
      refine ⟨by rw [same]; exact durable, ?_⟩
      change t.state.nvWriteFailed = true ∨
        (t.execute elapsed written locality command).1 = errorResponse Rc.nvUnavailable ∨
        (t.execute elapsed written locality command).2.Synced
      rw [same]
      exact durable.imp id .inr
  | true =>
      have failed := t.ran_write_failed elapsed locality command
      have ended := t.execute_executes elapsed written locality command powered
      change (t.execute elapsed written locality command).2.Durable ∧ (t.state.nvWriteFailed = true ∨
        (t.execute elapsed written locality command).1 = errorResponse Rc.nvUnavailable ∨
        (t.execute elapsed written locality command).2.Synced)
      -- The four ends differ in whether a write was asked for and whether it could be made.
      generalize t.execute elapsed written locality command = result at ended ⊢
      cases ended with
      | saved healthy writes =>
          have synced : ({ t with
              state := (t.ran elapsed locality command).2
              store := (t.ran elapsed locality command).2 } : Tpm).Synced := synced_of_equal _ rfl
          exact ⟨.inr synced, .inr (.inr synced)⟩
      | closed refused writes => exact ⟨.inl rfl, .inr (.inl rfl)⟩
      | clockLost refused plain same rolled =>
          refine ⟨.inl rfl, ?_⟩
          rcases durable with closed | synced
          · exact .inl closed
          · rcases refused with closed | lost
            · rw [failed] at closed
              exact .inl closed
            · have unmoved := t.meets_unwritten elapsed written locality command meets plain same (.inr lost)
              exact .inr (.inr (synced_of_same _ _ rfl rfl
                (t.synced_of_still elapsed locality command synced plain unmoved)))
      | unsaved plain same still =>
          rcases durable with closed | synced
          · exact ⟨.inl (failed.trans closed), .inl closed⟩
          · have unmoved := t.meets_unwritten elapsed written locality command meets plain same (.inl still)
            have kept := t.synced_of_still elapsed locality command synced plain unmoved
            exact ⟨.inr kept, .inr (.inr kept)⟩

theorem restart_synced (t : Tpm) (fresh : TpmState) : (t.restart fresh).Synced :=
  synced_of_equal _ (TpmState.restored_nv_indices t.store.nv)

theorem power_on_durable (t : Tpm) (fresh : TpmState) (durable : t.Durable) : (t.powerOn fresh).Durable := by
  right
  cases failed : t.state.nvWriteFailed with
  | true =>
      refine synced_of_equal _ ?_
      unfold powerOn
      rw [if_pos failed]
      dsimp only
      rw [TpmState.power_on_nv]
      exact TpmState.restored_nv_indices t.store.nv
  | false =>
      refine synced_of_same t _ ?_ rfl (durable.resolve_left (by rw [failed]; decide))
      unfold powerOn
      rw [if_neg (by rw [failed]; decide)]
      exact TpmState.power_on_nv _

theorem durable_of_same (t t' : Tpm) (failed : t'.state.nvWriteFailed = t.state.nvWriteFailed)
    (state : t'.state.nv = t.state.nv) (store : t'.store.nv = t.store.nv ∨ t'.store.nv = t'.state.nv)
    (durable : t.Durable) : t'.Durable := by
  rcases durable with closed | synced
  · exact .inl (failed.trans closed)
  · rcases store with kept | equal
    · exact .inr (synced_of_same t t' state kept synced)
    · exact .inr (synced_of_equal t' (congrArg NvStore.indices equal.symm))

theorem persist_durable (t : Tpm) (written : Bool) (durable : t.Durable) : (t.persist written).2.Durable := by
  exact holds_after_persist Durable t written durable (durable_of_same t _ rfl rfl (.inr rfl) durable)

theorem signal_durable (t : Tpm) (signal : Signal) (durable : t.Durable) (meets : t.Meets signal) :
    (t.after signal).Durable ∧ t.Reflects signal := by
  cases signal with
  | execute elapsed written locality command => exact t.execute_durable elapsed written locality command durable meets
  | powerOn fresh => exact ⟨t.power_on_durable fresh durable, trivial⟩
  | powerOff written =>
      exact ⟨durable_of_same (t.persist written).2 _ rfl rfl (.inl rfl) (t.persist_durable written durable), trivial⟩
  | nv available => exact ⟨durable_of_same t _ rfl rfl (.inl rfl) durable, trivial⟩
  | physicalPresence asserted => exact ⟨durable_of_same t _ rfl rfl (.inl rfl) durable, trivial⟩
  | hashStart => exact ⟨durable_of_same t _ rfl rfl (.inl rfl) durable, trivial⟩
  | hashData data => exact ⟨durable_of_same t _ rfl rfl (.inl rfl) durable, trivial⟩
  | hashEnd =>
      exact ⟨durable_of_same t _ (TpmState.hash_end_write_failed _) (TpmState.hash_end_nv _) (.inl rfl) durable, trivial⟩
  | actGetSignaled act elapsed written =>
      refine ⟨?_, trivial⟩
      have advanced : ∀ millis, ({ t with state := (t.state.advanceTime millis).2 } : Tpm).Durable := fun millis =>
        durable_of_same t _ (t.state.advance_time_write_failed millis) (t.state.advance_time_nv millis) (.inl rfl) durable
      exact holds_after_poll Durable t act elapsed written advanced fun u => u.persist_durable written
  | restart fresh => exact ⟨.inr (t.restart_synced fresh), trivial⟩

-- The command wanted to write the file and could not, and the answer says so.
def Unsaved (t : Tpm) (elapsed : UInt64) (written : Bool) (locality : UInt8) (command : Bytes) : Prop :=
  (t.execute elapsed written locality command).1 = errorResponse Rc.nvUnavailable ∧
    (t.execute elapsed written locality command).2.state.nvWriteFailed = true

instance (t : Tpm) (elapsed : UInt64) (written : Bool) (locality : UInt8) (command : Bytes) :
    Decidable (t.Unsaved elapsed written locality command) :=
  inferInstanceAs (Decidable (_ ∧ _))

-- The outcomes of the comparisons with the authValue of a PIN Index that a signal has answered.
def answeredPins (t : Tpm) (handle : UInt32) : Signal → List Bool
  | .execute elapsed written locality command =>
    if t.powered = false ∨ t.Unsaved elapsed written locality command then []
    else (t.arrive elapsed).2.pinComparisons handle locality command
  | _ => []

def answeredOver (handle : UInt32) : Tpm → List Signal → List Bool
  | _, [] => []
  | t, signal :: rest => t.answeredPins handle signal ++ answeredOver handle (t.after signal) rest

-- No TPM2_NV_Write of the Index is carried out, and it is neither undefined nor made unwritten.
def LeavesPin (handle : UInt32) (t : Tpm) : Signal → Prop
  | .execute elapsed written locality command => t.powered = false ∨ t.Unsaved elapsed written locality command ∨
    (t.arrive elapsed).2.writesPin handle locality command = false ∧
      t.state.nv.keeps (t.ran elapsed locality command).2.nv handle = true
  | _ => True

instance (handle : UInt32) (t : Tpm) (signal : Signal) : Decidable (t.LeavesPin handle signal) := by
  cases signal with
  | execute elapsed written locality command => exact inferInstanceAs (Decidable (_ ∨ _ ∨ _ ∧ _))
  | _ => exact inferInstanceAs (Decidable True)

-- The PIN that a TPM started from the file would find, and that this one counts with unless a write failed.
structure HoldsPin (handle : UInt32) (pin : Pin) (t : Tpm) : Prop where
  filed : t.store.pinAt handle = .ok pin
  counted : t.state.nvWriteFailed = true ∨ t.state.pinAt handle = .ok pin

theorem restart_pin (t : Tpm) (fresh : TpmState) (handle : UInt32) :
    (t.restart fresh).state.pinAt handle = t.store.pinAt handle :=
  TpmState.pin_at_of_indices _ _ handle (TpmState.restored_nv_indices t.store.nv)

-- Once a write failed nothing more is compared, nor written.
theorem closed_holds (t : Tpm) (handle : UInt32) (pin : Pin) (elapsed : UInt64) (written : Bool) (locality : UInt8)
    (command : Bytes) (filed : t.store.pinAt handle = .ok pin) (closed : t.state.nvWriteFailed = true) :
    t.answeredPins handle (.execute elapsed written locality command) = [] ∧
      HoldsPin handle pin (t.execute elapsed written locality command).2 := by
  have silent := (t.arrive elapsed).2.closed_compares_nothing
    ((TpmState.advance_time_write_failed _ elapsed).trans closed) handle locality command
  constructor
  · change (if t.powered = false ∨ t.Unsaved elapsed written locality command then [] else _) = []
    rw [silent, ite_self]
  · cases powered : t.powered with
    | false =>
        rw [t.execute_unpowered elapsed written locality command powered]
        exact ⟨filed, .inl closed⟩
    | true =>
        have failed := (t.ran_write_failed elapsed locality command).trans closed
        have ended := t.execute_executes elapsed written locality command powered
        generalize t.execute elapsed written locality command = result at ended ⊢
        cases ended with
        | saved healthy writes =>
            rw [failed] at healthy
            exact absurd healthy.1 (by decide)
        | closed refused writes => exact ⟨filed, .inl rfl⟩
        | clockLost refused plain same rolled => exact ⟨filed, .inl rfl⟩
        | unsaved plain same still => exact ⟨filed, .inl failed⟩

-- One command: the file takes up the outcomes that are answered.
theorem execute_holds_pin (t : Tpm) (handle : UInt32) (pin : Pin) (elapsed : UInt64) (written : Bool) (locality : UInt8)
    (command : Bytes) (holds : t.HoldsPin handle pin) (meets : t.Meets (.execute elapsed written locality command))
    (leaves : t.LeavesPin handle (.execute elapsed written locality command)) :
    HoldsPin handle ((t.answeredPins handle (.execute elapsed written locality command)).foldl Pin.turn pin)
      (t.execute elapsed written locality command).2 := by
  rcases holds.counted with closed | counted
  · obtain ⟨silent, kept⟩ := t.closed_holds handle pin elapsed written locality command holds.filed closed
    rw [silent]
    exact kept
  cases healthy : t.state.nvWriteFailed with
  | true =>
      obtain ⟨silent, kept⟩ := t.closed_holds handle pin elapsed written locality command holds.filed healthy
      rw [silent]
      exact kept
  | false =>
  cases powered : t.powered with
  | false =>
      have silent : t.answeredPins handle (.execute elapsed written locality command) = [] := if_pos (.inl powered)
      rw [silent, t.execute_unpowered elapsed written locality command powered]
      exact holds
  | true =>
  have failed := (t.ran_write_failed elapsed locality command).trans healthy
  have ended := t.execute_executes elapsed written locality command powered
  by_cases unsaved : t.Unsaved elapsed written locality command
  · have silent : t.answeredPins handle (.execute elapsed written locality command) = [] := if_pos (.inr unsaved)
    rw [silent]
    have lost := unsaved.2
    generalize t.execute elapsed written locality command = result at ended lost ⊢
    cases ended with
    | saved healthy writes =>
        rw [healthy.1] at lost
        cases lost
    | closed refused writes => exact ⟨holds.filed, .inl rfl⟩
    | clockLost refused plain same rolled => exact ⟨holds.filed, .inl rfl⟩
    | unsaved plain same still =>
        rw [failed] at lost
        cases lost
  · have answered : t.answeredPins handle (.execute elapsed written locality command) =
        (t.arrive elapsed).2.pinComparisons handle locality command :=
      if_neg (not_or.mpr ⟨by rw [powered]; decide, unsaved⟩)
    have arrived : (t.arrive elapsed).2.nv = t.state.nv := TpmState.advance_time_nv _ elapsed
    have found : (t.arrive elapsed).2.pinAt handle = .ok pin := by
      unfold TpmState.pinAt at counted ⊢
      rw [arrived]
      exact counted
    obtain ⟨unwritten, kept⟩ := (leaves.resolve_left (by rw [powered]; decide)).resolve_left unsaved
    rw [← arrived] at kept
    obtain ⟨after, turns, moved⟩ := TpmState.command_turns locality command handle pin _ found unwritten kept
    rw [answered, ← Pin.turns_foldl pin after _ turns]
    -- Where nothing is written the command has moved no counter, so the file is right as it is.
    have unmoved : (t.arrive elapsed).2.MovesNoPin locality command → after = pin := by
      intro still
      refine Pin.turns_unmoved pin after _ turns ?_
      rw [Pin.turns_foldl pin after _ turns]
      exact still handle pin found
    unfold Unsaved at unsaved
    generalize t.execute elapsed written locality command = result at ended unsaved ⊢
    cases ended with
    | saved healthy writes => exact ⟨moved, .inr moved⟩
    | closed refused writes => exact absurd ⟨rfl, rfl⟩ unsaved
    | clockLost refused plain same rolled =>
        have lost := refused.resolve_left (by rw [failed]; decide)
        have same := unmoved (t.meets_unwritten elapsed written locality command meets plain same (.inr lost))
        exact ⟨same ▸ holds.filed, .inl rfl⟩
    | unsaved plain same still =>
        have same := unmoved (t.meets_unwritten elapsed written locality command meets plain same (.inl still))
        exact ⟨same ▸ holds.filed, .inr moved⟩

theorem holds_pin_of_same (t t' : Tpm) (handle : UInt32) (pin : Pin) (failed : t'.state.nvWriteFailed = t.state.nvWriteFailed)
    (state : t'.state.nv = t.state.nv) (store : t'.store = t.store) (holds : t.HoldsPin handle pin) :
    t'.HoldsPin handle pin := by
  refine ⟨by rw [store]; exact holds.filed, ?_⟩
  rw [failed]
  unfold TpmState.pinAt
  rw [state]
  exact holds.counted

theorem persist_holds_pin (t : Tpm) (handle : UInt32) (pin : Pin) (written : Bool) (holds : t.HoldsPin handle pin) :
    HoldsPin handle pin (t.persist written).2 := by
  unfold persist
  split
  · exact holds
  next open_ =>
    have counted := holds.counted.resolve_left fun closed => open_ (by rw [closed]; rfl)
    exact ⟨counted, .inr counted⟩

theorem power_on_holds_pin (t : Tpm) (handle : UInt32) (pin : Pin) (fresh : TpmState) (holds : t.HoldsPin handle pin) :
    HoldsPin handle pin (t.powerOn fresh) := by
  refine ⟨holds.filed, .inr ?_⟩
  cases failed : t.state.nvWriteFailed with
  | true =>
      refine (TpmState.pin_at_of_indices _ t.store handle ?_).trans holds.filed
      unfold powerOn
      rw [if_pos failed]
      dsimp only
      rw [TpmState.power_on_nv]
      exact TpmState.restored_nv_indices t.store.nv
  | false =>
      refine (TpmState.pin_at_of_indices _ t.state handle ?_).trans (holds.counted.resolve_left (by rw [failed]; decide))
      unfold powerOn
      rw [if_neg (by rw [failed]; decide)]
      exact congrArg NvStore.indices (TpmState.power_on_nv _)

theorem signal_holds_pin (t : Tpm) (handle : UInt32) (pin : Pin) (signal : Signal) (holds : t.HoldsPin handle pin)
    (meets : t.Meets signal) (leaves : t.LeavesPin handle signal) :
    HoldsPin handle ((t.answeredPins handle signal).foldl Pin.turn pin) (t.after signal) := by
  cases signal with
  | execute elapsed written locality command =>
      exact t.execute_holds_pin handle pin elapsed written locality command holds meets leaves
  | powerOn fresh => exact t.power_on_holds_pin handle pin fresh holds
  | powerOff written =>
      exact holds_pin_of_same (t.persist written).2 _ handle pin rfl rfl rfl (t.persist_holds_pin handle pin written holds)
  | nv available => exact t.holds_pin_of_same _ handle pin rfl rfl rfl holds
  | physicalPresence asserted => exact t.holds_pin_of_same _ handle pin rfl rfl rfl holds
  | hashStart => exact t.holds_pin_of_same _ handle pin rfl rfl rfl holds
  | hashData data => exact t.holds_pin_of_same _ handle pin rfl rfl rfl holds
  | hashEnd =>
      exact t.holds_pin_of_same _ handle pin (TpmState.hash_end_write_failed _) (TpmState.hash_end_nv _) rfl holds
  | actGetSignaled act elapsed written =>
      refine holds_after_poll (HoldsPin handle pin) t act elapsed written (fun millis => ?_) fun u =>
        u.persist_holds_pin handle pin written
      exact t.holds_pin_of_same _ handle pin (t.state.advance_time_write_failed millis)
        (t.state.advance_time_nv millis) rfl holds
  | restart fresh => exact ⟨holds.filed, .inr ((t.restart_pin fresh handle).trans holds.filed)⟩

theorem run_holds_pin (t : Tpm) (handle : UInt32) (pin : Pin) (signals : List Signal) (holds : t.HoldsPin handle pin)
    (meets : Every after Meets t signals) (leaves : Every after (LeavesPin handle) t signals) :
    HoldsPin handle ((answeredOver handle t signals).foldl Pin.turn pin) (t.afterAll signals) := by
  induction signals generalizing t pin with
  | nil => exact holds
  | cons signal rest ih =>
      have here := t.signal_holds_pin handle pin signal holds meets.1 leaves.1
      have ended := ih (t.after signal) _ here meets.2 leaves.2
      rw [← List.foldl_append] at ended
      exact ended

theorem run_durable (t : Tpm) (signals : List Signal) (durable : t.Durable) (meets : Every after Meets t signals) :
    (t.afterAll signals).Durable ∧ Every after Reflects t signals := by
  induction signals generalizing t with
  | nil => exact ⟨durable, trivial⟩
  | cons signal rest ih =>
      obtain ⟨here, later⟩ := meets
      obtain ⟨kept, reflects⟩ := t.signal_durable signal durable here
      obtain ⟨ended, every⟩ := ih (t.after signal) kept later
      exact ⟨ended, reflects, every⟩

end Tpm

-- The PIN counters in the file are those of the last answer, in every run whose commands all meet the condition. From
-- whatever moment on, a TPM restarted from it has counted every outcome that was answered.
theorem pin_counters_durable (t : Tpm) (earlier later : List Signal) (durable : t.Durable)
    (meets : Every Tpm.after Tpm.Meets t (earlier ++ later)) :
    Every Tpm.after Tpm.Reflects t (earlier ++ later) ∧
    ∀ handle pin, (t.afterAll earlier).state.nvWriteFailed = false → (t.afterAll earlier).state.pinAt handle = .ok pin →
      Every Tpm.after (Tpm.LeavesPin handle) (t.afterAll earlier) later → ∀ fresh,
        (((t.afterAll earlier).afterAll later).restart fresh).state.pinAt handle =
          .ok ((Tpm.answeredOver handle (t.afterAll earlier) later).foldl Pin.turn pin) := by
  refine ⟨(t.run_durable (earlier ++ later) durable meets).2, fun handle pin healthy read leaves fresh => ?_⟩
  obtain ⟨before, after⟩ := (every_append Tpm.after Tpm.Meets t earlier later).mp meets
  have synced := (t.run_durable earlier durable before).1.resolve_left (by rw [healthy]; decide)
  have holds : Tpm.HoldsPin handle pin (t.afterAll earlier) := ⟨synced handle pin read, .inr read⟩
  rw [Tpm.restart_pin]
  exact (Tpm.run_holds_pin _ handle pin later holds after leaves).filed

end

namespace Toy

-- A wrong guess at a PIN Fail Index through TPM2_NV_Read, whose table entry writes no NV.
def pinGuessed : List Signal := startedWith [definePin Nt.pinFail, writePin 2, readPin [6]]

-- The file keeps a count of no failures, so a TPM restarted from it gives the guess back.
theorem restart_gives_pin_guess_back : ¬ ∀ seed s, TpmState.manufacture seed = .ok s → ∀ signals fresh pin,
    ((Tpm.manufactured s).afterAll signals).state.nvWriteFailed = false →
    ((Tpm.manufactured s).afterAll signals).state.pinAt pinHandle = .ok pin →
      (((Tpm.manufactured s).afterAll signals).restart fresh).state.pinAt pinHandle = .ok pin := by
  intro durable
  have tested : found (TpmState.manufacture (List.replicate 48 7)) (fun s =>
      let t := (Tpm.manufactured s).afterAll pinGuessed
      !t.state.nvWriteFailed && found (t.state.pinAt pinHandle) fun pin =>
        found ((t.restart blank).state.pinAt pinHandle) fun other =>
          pin.counters.pinCount == 1 && other.counters.pinCount == 0) = true := by
    rw [manufacture_made]
    decide +kernel
  obtain ⟨s, made, tested⟩ := ok_of_found _ _ tested
  simp only [Bool.and_eq_true, Bool.not_eq_true'] at tested
  obtain ⟨healthy, tested⟩ := tested
  obtain ⟨pin, read, tested⟩ := ok_of_found _ _ tested
  obtain ⟨other, stored, tested⟩ := ok_of_found _ _ tested
  simp only [Bool.and_eq_true, beq_iff_eq] at tested
  have kept := durable _ s made pinGuessed blank pin healthy read
  rw [stored] at kept
  obtain rfl := Except.ok.inj kept
  rw [tested.1] at tested
  exact absurd tested.2 (by decide)

-- A command that writes the file, authorized with a guess at the PIN.
def lockPin (guess : Bytes) : Bytes :=
  authorizedCommand Cc.nvReadLock [pinHandle, pinHandle] [(Rh.rsPw, guess)] []

def pinDefined (indexType : UInt8) : List Signal := startedWith [definePin indexType, writePin 2]

-- The outcome of the guess is answered, and a TPM restarted after it has counted it.
def CountsGuess (indexType : UInt8) (guess : Bytes) (accepted : Bool) : Prop :=
  ∃ s pin, TpmState.manufacture (List.replicate 48 7) = .ok s ∧
    Tpm.answeredOver pinHandle ((Tpm.manufactured s).afterAll (pinDefined indexType)) (sent [lockPin guess]) =
      [accepted] ∧ pin.counters.pinCount = 1 ∧
    ((((Tpm.manufactured s).afterAll (pinDefined indexType)).afterAll (sent [lockPin guess])).restart blank).state.pinAt
      pinHandle = .ok pin

-- A wrong guess at a PIN Fail Index, and a right one at a PIN Pass Index.
theorem restart_keeps_pin_counts : CountsGuess Nt.pinFail [6] false ∧ CountsGuess Nt.pinPass [5] true := by
  suffices counts : ∀ each ∈ [(Nt.pinFail, [6], false), (Nt.pinPass, [5], true)],
      CountsGuess each.1 each.2.1 each.2.2 from
    ⟨counts (_, _, _) (by decide), counts (_, _, _) (by decide)⟩
  intro each member
  have tested : found (TpmState.manufacture (List.replicate 48 7)) (fun s =>
      let t := (Tpm.manufactured s).afterAll (pinDefined each.1)
      !t.state.nvWriteFailed &&
        Tpm.answeredOver pinHandle t (sent [lockPin each.2.1]) == [each.2.2] &&
        decide (Every Tpm.after (Tpm.LeavesPin pinHandle) t (sent [lockPin each.2.1])) &&
        found (t.state.pinAt pinHandle) fun pin => (pin.turn each.2.2).counters.pinCount == 1) = true := by
    rw [manufacture_made]
    simp only [List.mem_cons, List.not_mem_nil, or_false] at member
    rcases member with rfl | rfl
    all_goals decide +kernel
  obtain ⟨s, made, tested⟩ := ok_of_found _ _ tested
  simp only [Bool.and_eq_true, Bool.not_eq_true', beq_iff_eq, decide_eq_true_eq] at tested
  obtain ⟨⟨⟨healthy, answered⟩, leaves⟩, tested⟩ := tested
  obtain ⟨pin, read, counted⟩ := ok_of_found _ _ tested
  simp only [beq_iff_eq] at counted
  have listed : ∀ t signal, signal ∈ pinDefined each.1 ++ sent [lockPin each.2.1] → Tpm.Meets t signal := by
    intro t signal met
    simp only [pinDefined, startedWith, sent, List.map_cons, List.map_nil, List.cons_append, List.nil_append,
      List.mem_cons, List.not_mem_nil, or_false] at member met
    rcases met with rfl | rfl | rfl | rfl | rfl
    · exact .other _ fun _ _ _ _ => nofun
    all_goals
      refine .listed _ _ _ _ ?_
      rcases member with rfl | rfl
      all_goals decide +kernel
  have durable : Tpm.Durable (Tpm.manufactured s) := .inr (Tpm.synced_of_equal _ rfl)
  have restarted := (pin_counters_durable (Tpm.manufactured s) (pinDefined each.1) (sent [lockPin each.2.1]) durable
    (every_of_all _ _ _ _ listed)).2 pinHandle pin healthy read leaves blank
  rw [answered] at restarted
  exact ⟨s, pin.turn each.2.2, made, answered, counted, restarted⟩

end Toy

end Swtrust
