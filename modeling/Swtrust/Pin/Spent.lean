import Swtrust.Pin.Turns
import Swtrust.Startup.Reaching

set_option autoImplicit false
set_option linter.unusedSectionVars false

namespace Swtrust

open Library Action Handles

-- A PIN that is not available is not compared.
theorem Pin.turns_spent (pin after : Pin) (outcomes : List Bool) (turns : pin.Turns outcomes after)
    (spent : ¬ pin.available) : outcomes = [] ∧ after = pin := by
  cases turns with
  | nil => exact ⟨rfl, rfl⟩
  | cons _ _ _ _ available _ => exact absurd available spent

namespace NvStore

-- The PIN Index that the Index at a handle counts for.
def pinNamed (store : NvStore) (handle : UInt32) : Option UInt32 :=
  match store.get handle with
  | .ok index => if index.isPin then some index.area.nvIndex else none
  | .error _ => none

theorem pin_named_of_get (store : NvStore) (handle : UInt32) (index : NvIndex) (held : store.get handle = .ok index) :
    store.pinNamed handle = if index.isPin then some index.area.nvIndex else none := by
  unfold pinNamed
  rw [held]

-- Recording a comparison changes what an Index holds, not what it is.
theorem record_pin_named (store : NvStore) (entity : Entity) (accepted : Bool) (handle : UInt32) :
    (store.recordPin entity accepted).pinNamed handle = store.pinNamed handle := by
  unfold recordPin
  cases entity.pin with
  | none => rfl
  | some other =>
      dsimp only
      split
      · rfl
      next index held =>
        split
        · rfl
        next pin counters =>
          by_cases same : handle = other
          · subst same
            have put := store.get_put handle handle
              ({ index with data := (pin.turn accepted).counters.marshal } : NvIndex).setWritten
            rw [if_pos rfl] at put
            rw [pin_named_of_get _ _ _ put, pin_named_of_get _ _ _ held]
            have indexType := NvIndex.set_written_type { index with data := (pin.turn accepted).counters.marshal }
            unfold NvIndex.isPin
            rw [indexType]
            rfl
          · unfold pinNamed
            rw [get_put, if_neg same]

end NvStore

namespace TpmState

section

variable [Primitives]

-- An entity counts for a PIN Index exactly when its handle is that of one.
theorem entity_pin_named (s t : TpmState) (named handle : UInt32) (entity other : Entity)
    (found : s.entity named = .ok entity) (pinned : entity.pin = some handle) (held : t.entity named = .ok other) :
    s.nv.pinNamed named = some handle ∧ other.pin = t.nv.pinNamed named := by
  simp only [TpmState.entity, bind_is_ok] at found held
  obtain ⟨_, _, found⟩ := found
  obtain ⟨_, _, held⟩ := held
  by_cases hierarchy : Hierarchies.isHierarchy ((Hierarchies.baseOf named).getD named) = true
  · simp only [hierarchy, if_true, bind_is_ok, pure_is_ok] at found
    obtain ⟨_, _, rfl⟩ := found
    cases pinned
  rw [if_neg hierarchy] at found held
  by_cases lockout : named = Rh.lockout
  · rw [if_pos lockout, pure_is_ok] at found
    subst found
    cases pinned
  rw [if_neg lockout] at found held
  by_cases act : isAct named = true
  · rw [if_pos act, pure_is_ok] at found
    subst found
    cases pinned
  rw [if_neg act] at found held
  by_cases platform : named = Rh.platformNv
  · rw [if_pos platform, pure_is_ok] at found
    subst found
    cases pinned
  rw [if_neg platform] at found held
  by_cases pcr : isPcr named = true
  · rw [if_pos pcr, pure_is_ok] at found
    subst found
    cases pinned
  rw [if_neg pcr] at found held
  by_cases transient : ObjectSlots.isTransient named = true
  · rw [if_pos transient, bind_is_ok] at found
    obtain ⟨slot, _, found⟩ := found
    cases slot with
    | object o =>
        simp only [guarded_then_is_ok, pure_is_ok] at found
        obtain ⟨_, rfl⟩ := found
        cases pinned
    | sequence sequence =>
        rw [pure_is_ok] at found
        subst found
        cases pinned
  rw [if_neg transient] at found held
  by_cases persistent : isPersistent named = true
  · simp only [persistent, if_true, bind_is_ok, guarded_then_is_ok, pure_is_ok] at found
    obtain ⟨_, _, _, _, rfl⟩ := found
    cases pinned
  rw [if_neg persistent] at found held
  by_cases nv : NvStore.isNvHandle named = true
  · simp only [nv, if_true, bind_is_ok, guarded_then_is_ok, pure_is_ok] at found held
    obtain ⟨index, kept, _, rfl⟩ := found
    obtain ⟨next, left, _, rfl⟩ := held
    exact ⟨(s.nv.pin_named_of_get named index kept).trans pinned, (t.nv.pin_named_of_get named next left).symm⟩
  · rw [if_neg nv] at found
    cases found

-- The session decides which comparison an authorization comes to.
theorem MadeWith.same (s t : TpmState) (input : SessionInput) (form other : AuthForm) (sessions : t.sessions = s.sessions)
    (left : s.MadeWith input form) (right : t.MadeWith input other) : other = form := by
  cases left with
  | password handle same =>
      cases right with
      | password _ same' => exact same'.trans same.symm
      | hmac apart _ _ _ _ => exact absurd handle apart
      | policy apart _ _ _ _ => exact absurd handle apart
  | hmac apart session held plain same =>
      cases right with
      | password handle _ => exact absurd handle apart
      | hmac _ _ _ _ same' => exact same'.trans same.symm
      | policy _ session' held' policy _ =>
          rw [sessions, held] at held'
          cases held'
          rw [plain] at policy
          cases policy
  | policy apart session held policy same =>
      cases right with
      | password handle _ => exact absurd handle apart
      | hmac _ session' held' plain _ =>
          rw [sessions, held] at held'
          cases held'
          rw [plain] at policy
          cases policy
      | policy _ session' held' _ same' =>
          rw [sessions, held] at held'
          cases held'
          exact same'.trans same.symm

-- The authorization at a position asks for the authValue of a PIN Index.
def AsksPin (s : TpmState) (handle : UInt32) (request : Request) (position : Nat) : Prop :=
  ∃ named entity input form, request.handle position = .ok named ∧ s.entity named = .ok entity ∧
    entity.pin = some handle ∧ request.sessionAt position = .ok input ∧ s.MadeWith input form ∧ form ≠ .policyKey

variable (request : Request) (names : List Bytes) (handle : UInt32) (pin : Pin) (spent : ¬ pin.available)

include spent

theorem spent_not_asked (s t : TpmState) (read : t.pinAt handle = .ok pin) (sessions : t.sessions = s.sessions)
    (position : Nat) (named : t.nv.pinNamed = s.nv.pinNamed) (asks : s.AsksPin handle request position) :
    ∃ e, t.attemptAt request names position = .error e := by
  cases judged : t.attemptAt request names position with
  | error e => exact ⟨e, rfl⟩
  | ok pair =>
      obtain ⟨other, attempt⟩ := pair
      obtain ⟨h, entity, input, form, at_position, held, pinned, given, madeWith, value⟩ := asks
      obtain ⟨_, _, _, cp, _, at_position', found, _, _, tried⟩ :=
        (t.attempt_at_is_ok request names position other attempt).mp judged
      rw [at_position] at at_position'
      cases at_position'
      obtain ⟨input', given', asked⟩ := t.attempt_asked request position other cp attempt tried
      rw [given] at given'
      cases given'
      have same := MadeWith.same s t input form attempt.form sessions madeWith asked.madeWith
      have available := asked.available.resolve_left (same ▸ value)
      obtain ⟨stands, counts⟩ := entity_pin_named s t h handle entity other held pinned found
      rw [named, stands] at counts
      exact absurd (t.available_of_check other handle pin counts read available) spent

-- A PIN that cannot be tried again leaves every command that asks for it unauthorized, at whatever position.
theorem spent_refuses (s t : TpmState) (read : t.pinAt handle = .ok pin) (sessions : t.sessions = s.sessions)
    (named : t.nv.pinNamed = s.nv.pinNamed) (position count index : Nat) (after : index ≤ position)
    (before : position < index + count) (asks : s.AsksPin handle request position) :
    ∃ e t', authorizeFrom request names count index t = .error e t' := by
  induction count generalizing index t with
  | zero => exact absurd before (by omega)
  | succ count ih =>
      have follows := t.authorize_at_follows request names index
      unfold authorizeFrom
      cases judged : t.attemptAt request names index with
      | error e =>
          rw [judged] at follows
          simp only [bind, EStateM.bind, follows]
          exact ⟨e, t, rfl⟩
      | ok pair =>
          obtain ⟨entity, attempt⟩ := pair
          rw [judged] at follows
          obtain ⟨_, _, _, cp, _, _, _, _, _, tried⟩ :=
            (t.attempt_at_is_ok request names index entity attempt).mp judged
          have available := t.attempt_available request index entity cp attempt tried
          have apart : index ≠ position := by
            rintro rfl
            obtain ⟨e, refused⟩ := spent_not_asked request names handle pin spent s t read sessions index named asks
            rw [judged] at refused
            cases refused
          obtain ⟨middle, turning, moved⟩ := settle_turns request index entity attempt t handle pin read available
          -- The positions before it leave the PIN spent.
          obtain ⟨_, rfl⟩ := pin.turns_spent middle _ (turning [] middle (.nil middle)) spent
          cases outcome : attempt.accepted with
          | true =>
              have written := settle_nv request index entity attempt t
              obtain ⟨nv, settles⟩ := settle_accepted request index entity attempt t available outcome
              rw [settles] at moved written
              simp only [bind, EStateM.bind, settles] at follows
              have still : ({ t with nv } : TpmState).nv.pinNamed = s.nv.pinNamed := by
                funext other
                rw [← named]
                change nv.pinNamed other = t.nv.pinNamed other
                change nv = _ at written
                rw [written]
                split
                · rfl
                · exact t.nv.record_pin_named entity attempt.accepted other
              obtain ⟨e, t', refused⟩ := ih { t with nv } moved sessions still (index + 1) (by omega) (by omega)
              simp only [bind, EStateM.bind, follows, pure, EStateM.pure, refused]
              exact ⟨e, t', rfl⟩
          | false =>
              obtain ⟨e, nv, settles⟩ := settle_refused request index entity attempt t available outcome
              simp only [bind, EStateM.bind, settles] at follows
              simp only [bind, EStateM.bind, follows]
              exact ⟨e, _, rfl⟩

omit spent in
theorem run_of_unauthorized (s : TpmState) (locality : UInt8) (octets : Bytes) (e : TpmRc) (t : TpmState)
    (prepared : s.prepare locality octets = .ok (request, names))
    (refused : authorizeFrom request names request.info.authHandles 0 (nullifyShutdown request s) = .error e t) :
    ∃ e, (run locality octets s).1 = errorResponse e := by
  unfold run
  cases ran : execute locality octets s with
  | error e t => exact ⟨e, rfl⟩
  | ok executed t' =>
      obtain ⟨request', names', contexts, u, prepared', authorized, _⟩ := execute_is_ok locality octets s t' executed ran
      rw [prepared] at prepared'
      cases prepared'
      rw [refused] at authorized
      cases authorized

theorem spent_refused (s : TpmState) (locality : UInt8) (octets : Bytes) (read : s.pinAt handle = .ok pin)
    (prepared : s.prepare locality octets = .ok (request, names)) (position : Nat)
    (inside : position < request.info.authHandles) (asks : s.AsksPin handle request position) :
    ∃ e, (run locality octets s).1 = errorResponse e := by
  obtain ⟨_, _, same⟩ := nullify_shutdown_changes request s
  obtain ⟨e, t, refused⟩ := spent_refuses request names handle pin spent s (nullifyShutdown request s)
    (by rw [same]; exact read) (by rw [same]) (by rw [same]) position request.info.authHandles 0 (Nat.zero_le _)
    (by omega) asks
  exact run_of_unauthorized request names s locality octets e t prepared refused

end

end TpmState

end Swtrust
