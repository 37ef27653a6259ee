import Swtrust.Authorization.Comparisons

set_option autoImplicit false
set_option linter.unusedSectionVars false

namespace Swtrust

open Library Action

-- What the guesses at a PIN Index depend on: its type, whether it was written, and its counters.
@[ext] structure Pin where
  indexType : UInt8
  written : Bool
  counters : NvPinCounterParameters
  deriving DecidableEq

namespace Pin

def available (pin : Pin) : Prop := pin.written = true ∧ pin.counters.pinCount < pin.counters.pinLimit

-- The counters after a comparison with the authValue of the Index.
def turn (pin : Pin) (accepted : Bool) : Pin :=
  let raised := if pin.counters.pinCount = 0xFFFFFFFF then pin.counters.pinCount else pin.counters.pinCount + 1
  let pinCount := match pin.indexType == Nt.pinFail, accepted with
    | true, true => 0
    | true, false => raised
    | false, true => raised
    | false, false => pin.counters.pinCount
  { pin with written := true, counters := { pin.counters with pinCount } }

-- Comparisons made one after the other, each while the Index was available.
inductive Turns : Pin → List Bool → Pin → Prop
  | nil (pin : Pin) : Turns pin [] pin
  | cons (pin after : Pin) (accepted : Bool) (rest : List Bool) (available : pin.available)
      (turns : Turns (pin.turn accepted) rest after) : Turns pin (accepted :: rest) after

end Pin

theorem decodes_pin_counters (counters : NvPinCounterParameters) :
    NvPinCounterParameters.unmarshal.fromBytes counters.marshal = .ok counters := by
  have read : Decodes NvPinCounterParameters.unmarshal counters.marshal counters := by
    refine decodes_bind _ _ _ _ _ _ (decodes_u32 counters.pinCount) ?_
    exact decodes_bind_pure _ _ _ _ (decodes_u32 counters.pinLimit)
  have whole := read []
  rw [List.append_nil] at whole
  unfold Reader.fromBytes
  rw [whole]

namespace Flags32

variable {reserved : UInt32} (flags : Flags32 reserved) (mask other : UInt32)

theorem with_mask_apart (apart : mask &&& other = 0) : (flags.withMask mask).value &&& other = flags.value &&& other := by
  apply UInt32.eq_of_toBitVec_eq
  ext i inside
  have bit := congrArg (fun v : UInt32 => v.toBitVec[i]) apart
  simp only [UInt32.toBitVec_and, BitVec.getElem_and] at bit
  simp only [withMask, UInt32.toBitVec_and, UInt32.toBitVec_or, BitVec.getElem_and, BitVec.getElem_or]
  simp at bit
  grind

theorem without_apart (apart : mask &&& other = 0) : (flags.without mask).value &&& other = flags.value &&& other := by
  apply UInt32.eq_of_toBitVec_eq
  ext i inside
  have bit := congrArg (fun v : UInt32 => v.toBitVec[i]) apart
  simp only [UInt32.toBitVec_and, BitVec.getElem_and] at bit
  simp only [without, UInt32.toBitVec_and, UInt32.toBitVec_not, BitVec.getElem_and, BitVec.getElem_not]
  simp at bit
  grind

theorem set_to_apart (on : Bool) (apart : mask &&& other = 0) :
    (flags.setTo mask on).value &&& other = flags.value &&& other := by
  unfold setTo
  cases on with
  | true => exact flags.with_mask_apart mask other apart
  | false => exact flags.without_apart mask other apart

theorem has_with_mask : (flags.withMask mask).has mask = true := by
  unfold has
  rw [beq_iff_eq]
  apply UInt32.eq_of_toBitVec_eq
  ext i inside
  simp only [withMask, UInt32.toBitVec_and, UInt32.toBitVec_or, BitVec.getElem_and, BitVec.getElem_or]
  grind

end Flags32

namespace NvIndex

def pin (index : NvIndex) : TpmResult Pin := do return ⟨index.indexType, index.written, ← index.pinCounters⟩

theorem pin_is_ok (index : NvIndex) (pin : Pin) :
    index.pin = .ok pin ↔
      index.indexType = pin.indexType ∧ index.written = pin.written ∧ index.pinCounters = .ok pin.counters := by
  unfold NvIndex.pin
  rw [bind_is_ok]
  constructor
  · rintro ⟨counters, read, same⟩
    rw [pure_is_ok] at same
    subst same
    exact ⟨rfl, rfl, read⟩
  · rintro ⟨indexType, written, read⟩
    exact ⟨_, read, by rw [pure_is_ok, indexType, written]⟩

theorem pin_of_same (before after : NvIndex) (indexType : after.indexType = before.indexType)
    (written : after.written = before.written) (data : after.data = before.data) : after.pin = before.pin := by
  unfold NvIndex.pin pinCounters isPin
  rw [indexType, written, data]

theorem is_pin_of_counters (index : NvIndex) (counters : NvPinCounterParameters)
    (read : index.pinCounters = .ok counters) : index.isPin = true := by
  unfold pinCounters at read
  split at read
  · cases read
  next isPin => simpa using isPin

theorem is_pin_of_pin (index : NvIndex) (pin : Pin) (read : index.pin = .ok pin) : index.isPin = true :=
  index.is_pin_of_counters pin.counters ((index.pin_is_ok pin).mp read).2.2

theorem set_lock_type (index : NvIndex) (mask : UInt32) (locked : Bool) (apart : mask &&& NvAttributes.typeMask = 0) :
    (index.setAttributes (index.area.attributes.setTo mask locked)).indexType = index.indexType := by
  unfold indexType setAttributes NvAttributes.indexType
  dsimp only
  rw [Flags32.set_to_apart _ _ _ _ apart]

theorem set_lock_written (index : NvIndex) (mask : UInt32) (locked : Bool) (apart : mask &&& NvAttributes.written = 0) :
    (index.setAttributes (index.area.attributes.setTo mask locked)).written = index.written := by
  unfold written setAttributes Flags32.has
  dsimp only
  rw [Flags32.set_to_apart _ _ _ _ apart]

theorem set_read_lock_pin (index : NvIndex) (locked : Bool) : (index.setReadLock locked).pin = index.pin :=
  pin_of_same _ _ (index.set_lock_type _ locked (by decide)) (index.set_lock_written _ locked (by decide)) rfl

theorem set_write_lock_pin (index : NvIndex) (locked : Bool) : (index.setWriteLock locked).pin = index.pin :=
  pin_of_same _ _ (index.set_lock_type _ locked (by decide)) (index.set_lock_written _ locked (by decide)) rfl

theorem set_written_type (index : NvIndex) : index.setWritten.indexType = index.indexType := by
  unfold indexType setWritten setAttributes NvAttributes.indexType
  dsimp only
  rw [Flags32.with_mask_apart _ _ _ (by decide)]

theorem set_pin_counters_pin (index next : NvIndex) (counters : NvPinCounterParameters)
    (set : index.setPinCounters counters = .ok next) : next.pin = .ok ⟨index.indexType, true, counters⟩ := by
  unfold setPinCounters at set
  split at set
  · cases set
  next isPin =>
    cases set
    have indexType : ({ index with data := counters.marshal } : NvIndex).setWritten.indexType = index.indexType :=
      set_written_type _
    rw [pin_is_ok]
    refine ⟨indexType, Flags32.has_with_mask _ _, ?_⟩
    have isPin : index.isPin = true := by simpa using isPin
    have written : ({ index with data := counters.marshal } : NvIndex).setWritten.written = true :=
      Flags32.has_with_mask _ _
    unfold NvIndex.isPin at isPin
    unfold pinCounters NvIndex.isPin
    rw [indexType, isPin, written]
    change (NvPinCounterParameters.unmarshal.fromBytes counters.marshal).mapError (fun _ => Rc.nvUninitialized) = _
    rw [decodes_pin_counters]
    rfl

end NvIndex

namespace NvStore

def pinAt (store : NvStore) (handle : UInt32) : TpmResult Pin := do (← store.get handle).pin

theorem pin_at_is_ok (store : NvStore) (handle : UInt32) (pin : Pin) :
    store.pinAt handle = .ok pin ↔ ∃ index, store.get handle = .ok index ∧ index.pin = .ok pin := by
  unfold pinAt
  rw [bind_is_ok]

theorem get_put (store : NvStore) (handle other : UInt32) (index : NvIndex) :
    (store.put handle index).get other = if other = handle then .ok index else store.get other := by
  unfold put get
  rw [SortedMap.get_insert]
  by_cases same : other = handle
  · rw [if_pos same, if_pos same]
  · rw [if_neg same, if_neg same]

theorem pin_at_put (store : NvStore) (handle other : UInt32) (index : NvIndex) :
    (store.put handle index).pinAt other = if other = handle then index.pin else store.pinAt other := by
  unfold pinAt
  rw [get_put]
  split <;> rfl

-- What recording the outcome of a comparison leaves in the store.
def recordPin (store : NvStore) (entity : Entity) (accepted : Bool) : NvStore :=
  match entity.pin with
  | none => store
  | some handle =>
    match store.get handle with
    | .error _ => store
    | .ok index =>
      match index.pin with
      | .error _ => store
      | .ok pin => store.put handle { index with data := (pin.turn accepted).counters.marshal }.setWritten

theorem record_pin_at (store : NvStore) (entity : Entity) (accepted : Bool) (handle : UInt32) (pin : Pin)
    (read : store.pinAt handle = .ok pin) :
    (store.recordPin entity accepted).pinAt handle =
      .ok (if entity.pin = some handle then pin.turn accepted else pin) := by
  unfold recordPin
  cases pinned : entity.pin with
  | none => simpa using read
  | some other =>
      by_cases same : other = handle
      · subst same
        obtain ⟨index, found, counters⟩ := (store.pin_at_is_ok other pin).mp read
        have isPin := index.is_pin_of_pin pin counters
        have set : index.setPinCounters (pin.turn accepted).counters =
            .ok ({ index with data := (pin.turn accepted).counters.marshal } : NvIndex).setWritten := by
          simp [NvIndex.setPinCounters, isPin]
        have after := index.set_pin_counters_pin _ _ set
        simp only [found, counters, if_true]
        refine (store.pin_at_put other other _).trans ?_
        rw [if_pos rfl, after, ((index.pin_is_ok pin).mp counters).1]
        rfl
      · have apart : ¬ some other = some handle := fun equal => same (Option.some.inj equal)
        rw [if_neg apart]
        dsimp only
        split
        · exact read
        next index found =>
          split
          · exact read
          · refine (store.pin_at_put other handle _).trans ?_
            rw [if_neg fun equal => same equal.symm, read]

end NvStore

namespace TpmState

section

variable [Primitives]

def pinAt (s : TpmState) (handle : UInt32) : TpmResult Pin := s.nv.pinAt handle

theorem pin_attempt_nv (s : TpmState) (entity : Entity) (accepted : Bool) :
    (final (pinAttempt entity accepted s)).nv = s.nv.recordPin entity accepted := by
  simp only [pinAttempt, run_get_bind, run_lift_bind]
  unfold recordPinAttempt NvStore.recordPin
  cases entity.pin with
  | none => rfl
  | some handle =>
      dsimp only
      cases s.nv.get handle with
      | error e => rfl
      | ok index =>
          simp only [bind, Except.bind, NvIndex.pin]
          cases counters : index.pinCounters with
          | error e => rfl
          | ok counters =>
              have isPin := index.is_pin_of_counters _ counters
              simp only [NvIndex.setPinCounters, isPin]
              rfl

theorem pin_attempt_nv_of_same (s t : TpmState) (entity : Entity) (accepted : Bool) (same : t.nv = s.nv) :
    (final (pinAttempt entity accepted t)).nv = s.nv.recordPin entity accepted := by
  rw [pin_attempt_nv, same]

theorem keeps_nv_refuse (isLockout guarded : Bool) (position : Nat) : Keeps (·.nv) (refuse isLockout guarded position) := by
  have recorded : Keeps (·.nv) (do
      modify fun s : TpmState => s.recordFailure guarded
      throw ((failureCode guarded).withSession position) : TpmM Unit) :=
    keeps_bind _ _ _ (keeps_modify _ _ fun s => record_failure_nv s guarded) fun _ => keeps_throw _ _
  unfold refuse
  exact keeps_ite _ _ _ _ (keeps_bind _ _ _ (keeps_modify _ _ fun _ => rfl) fun _ => recorded) recorded

-- Of all that settling an authorization changes, only the recording of a PIN attempt touches the store.
theorem settle_nv (request : Request) (index : Nat) (entity : Entity) (attempt : Attempt) (s : TpmState) :
    (final (settle request index entity attempt s)).nv =
      if attempt.form = .policyKey then s.nv else s.nv.recordPin entity attempt.accepted := by
  obtain ⟨form, guarded, accepted⟩ := attempt
  have compared : ∀ t : TpmState, t.nv = s.nv → (final ((do
      pinAttempt entity accepted
      if !accepted then throw ((failureCode guarded).withSession (index + 1)) : TpmM Unit) t)).nv =
        s.nv.recordPin entity accepted := by
    intro t same
    refine Eq.trans ?_ (pin_attempt_nv_of_same s t entity accepted same)
    refine final_bind_of_keeps (·.nv) _ _ (fun _ => ?_) t
    exact keeps_ite _ _ _ _ (keeps_throw _ _) (keeps_pure _ _)
  have refused : ∀ isLockout : Bool, (final ((do
      pinAttempt entity accepted
      if !accepted then refuse isLockout guarded (index + 1) : TpmM Unit) s)).nv = s.nv.recordPin entity accepted := by
    intro isLockout
    refine Eq.trans ?_ (pin_attempt_nv s entity accepted)
    refine final_bind_of_keeps (·.nv) _ _ (fun _ => ?_) s
    exact keeps_ite _ _ _ _ (keeps_nv_refuse _ _ _) (keeps_pure _ _)
  have spoken : (final (settle request index entity ⟨.password, guarded, accepted⟩ s)).nv =
      s.nv.recordPin entity accepted := by
    cases accepted with
    | true => exact compared s rfl
    | false =>
        cases named : request.names index Rh.lockout with
        | true =>
            simp only [settle, named]
            exact compared (s.recordLockoutFailure.recordFailure guarded) (record_failure_nv _ guarded)
        | false =>
            simp only [settle, named]
            exact compared (s.recordFailure guarded) (record_failure_nv s guarded)
  cases form with
  | password => exact spoken
  | policyPassword => exact spoken
  | hmac => exact refused _
  | policyAuthValue => exact refused _
  | policyKey =>
      rw [if_pos rfl]
      cases accepted with
      | true => rfl
      | false => exact keeps_nv_refuse false guarded (index + 1) s

theorem available_of_check (s : TpmState) (entity : Entity) (handle : UInt32) (pin : Pin)
    (named : entity.pin = some handle) (read : s.pinAt handle = .ok pin) (checked : s.checkPinAvailable entity = .ok ()) :
    pin.available := by
  obtain ⟨index, found, counters⟩ := (s.nv.pin_at_is_ok handle pin).mp read
  obtain ⟨_, written, counters⟩ := (index.pin_is_ok pin).mp counters
  unfold checkPinAvailable at checked
  simp only [named, found, bind_is_ok, guarded_then_is_ok, guarded_is_ok] at checked
  obtain ⟨other, same, set, current, read, limit, _⟩ := checked
  cases same
  rw [counters] at read
  cases read
  exact ⟨by rw [← written]; simpa using set, UInt32.not_le.mp limit⟩

-- The outcomes, in order, of the comparisons of a command with the authValue of a PIN Index.
def pinOutcomes (handle : UInt32) (made : List (Nat × Entity × Attempt)) : List Bool :=
  (made.filter fun each => each.2.1.pin == some handle && each.2.2.form != .policyKey).map (·.2.2.accepted)

theorem settle_turns (request : Request) (index : Nat) (entity : Entity) (attempt : Attempt) (s : TpmState)
    (handle : UInt32) (pin : Pin) (read : s.pinAt handle = .ok pin)
    (available : attempt.form = .policyKey ∨ s.checkPinAvailable entity = .ok ()) :
    ∃ middle, (∀ made after, middle.Turns (pinOutcomes handle made) after →
      pin.Turns (pinOutcomes handle ((index, entity, attempt) :: made)) after) ∧
      (final (settle request index entity attempt s)).pinAt handle = .ok middle := by
  have settled := settle_nv request index entity attempt s
  unfold pinAt at *
  rw [settled]
  by_cases counts : entity.pin = some handle ∧ attempt.form ≠ .policyKey
  · have ready := s.available_of_check entity handle pin counts.1 read (available.resolve_left counts.2)
    refine ⟨pin.turn attempt.accepted, fun made after turns => ?_, ?_⟩
    · have listed : pinOutcomes handle ((index, entity, attempt) :: made) =
          attempt.accepted :: pinOutcomes handle made := by
        simp [pinOutcomes, counts.1, counts.2]
      rw [listed]
      exact .cons pin after _ _ ready turns
    · rw [if_neg counts.2, NvStore.record_pin_at _ _ _ _ _ read, if_pos counts.1]
  · refine ⟨pin, fun made after turns => ?_, ?_⟩
    · have unlisted : pinOutcomes handle ((index, entity, attempt) :: made) = pinOutcomes handle made := by
        have none : (entity.pin == some handle && attempt.form != .policyKey) = false := by
          by_contra some
          simp only [Bool.not_eq_false, Bool.and_eq_true, beq_iff_eq, bne_iff_ne, ne_eq] at some
          exact counts some
        simp only [pinOutcomes, List.filter_cons, none, Bool.false_eq_true, if_false]
      rw [unlisted]
      exact turns
    · by_cases keyed : attempt.form = .policyKey
      · rw [if_pos keyed]
        exact read
      · rw [if_neg keyed, NvStore.record_pin_at _ _ _ _ _ read, if_neg fun named => counts ⟨named, keyed⟩]

theorem authorize_from_turns (request : Request) (names : List Bytes) (handle : UInt32) (count index : Nat) (s : TpmState)
    (pin : Pin) (read : s.pinAt handle = .ok pin) :
    ∃ after, pin.Turns (pinOutcomes handle (comparisons request names count index s)) after ∧
      (final (authorizeFrom request names count index s)).pinAt handle = .ok after := by
  induction count generalizing index s pin with
  | zero => exact ⟨pin, .nil pin, read⟩
  | succ count ih =>
      have follows := s.authorize_at_follows request names index
      unfold authorizeFrom comparisons
      cases judged : s.attemptAt request names index with
      | error e =>
          rw [judged] at follows
          simp only [bind, EStateM.bind, follows]
          exact ⟨pin, .nil pin, read⟩
      | ok pair =>
          obtain ⟨entity, attempt⟩ := pair
          rw [judged] at follows
          obtain ⟨_, _, _, cp, _, _, _, _, _, tried⟩ :=
            (s.attempt_at_is_ok request names index entity attempt).mp judged
          have available := s.attempt_available request index entity cp attempt tried
          obtain ⟨middle, first, moved⟩ := settle_turns request index entity attempt s handle pin read available
          cases outcome : attempt.accepted with
          | true =>
              obtain ⟨nv, settles⟩ := settle_accepted request index entity attempt s available outcome
              rw [settles] at moved
              simp only [bind, EStateM.bind, settles] at follows
              obtain ⟨after, turns, ended⟩ := ih (index + 1) { s with nv } middle moved
              refine ⟨after, ?_, ?_⟩
              · simp only [outcome, if_true, settles]
                exact first _ _ turns
              · simp only [bind, EStateM.bind, follows, pure, EStateM.pure]
                cases ran : authorizeFrom request names count (index + 1) { s with nv } with
                | ok contexts t =>
                    rw [ran] at ended
                    exact ended
                | error e t =>
                    rw [ran] at ended
                    exact ended
          | false =>
              obtain ⟨e, nv, settles⟩ := settle_refused request index entity attempt s available outcome
              rw [settles] at moved
              simp only [bind, EStateM.bind, settles] at follows
              refine ⟨middle, ?_, ?_⟩
              · simp only [outcome, Bool.false_eq_true, if_false]
                exact first [] middle (.nil middle)
              · simp only [bind, EStateM.bind, follows]
                exact moved

end

end TpmState

end Swtrust
