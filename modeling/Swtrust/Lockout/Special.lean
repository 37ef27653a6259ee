import Swtrust.Lockout.Recovery

set_option autoImplicit false
set_option linter.unusedSectionVars false

namespace Swtrust

open Library Action

-- How long lockoutAuth stays barred: not at all, until a startup, or for so many milliseconds of Time.
inductive Barred where
  | free
  | untilStartup
  | timed (millis : Nat)
  deriving DecidableEq

namespace Barred

def enter (lockoutRecovery : UInt32) : Barred :=
  if lockoutRecovery = 0 then .untilStartup else .timed (lockoutRecovery.toNat * 1000)

def pass (millis : Nat) : Barred → Barred
  | .timed left => if left ≤ millis then .free else .timed (left - millis)
  | barred => barred

-- Time starts again at a startup, which ends what lasts until one.
def restart (lockoutRecovery : UInt32) : Barred → Barred
  | .free => .free
  | .untilStartup => if lockoutRecovery = 0 then .free else .timed (lockoutRecovery.toNat * 1000)
  | .timed left => if lockoutRecovery = 0 then .free else .timed (min left (lockoutRecovery.toNat * 1000))

-- What the TPM has recorded of it.
def Recorded (lockout : LockoutState) (time : Nat) : Barred → Prop
  | .free => True
  | .untilStartup => lockout.inLockout = true ∧ lockout.lockoutUntil = 0
  | .timed left => lockout.inLockout = true ∧
    (lockout.lockoutUntil.toNat = 2 ^ 64 - 1 ∨ time + left ≤ lockout.lockoutUntil.toNat)

theorem recorded_in_lockout (lockout : LockoutState) (time : Nat) (barred : Barred)
    (recorded : barred.Recorded lockout time) (holds : barred ≠ .free) : lockout.inLockout = true := by
  cases barred with
  | free => exact absurd rfl holds
  | untilStartup => exact recorded.1
  | timed left => exact recorded.1

-- Other counters, and a Time that is no later.
theorem recorded_of_same (before after : LockoutState) (time now : Nat) (barred : Barred)
    (recorded : barred.Recorded before time) (inLockout : after.inLockout = before.inLockout)
    (lockoutUntil : after.lockoutUntil = before.lockoutUntil) (sooner : now ≤ time) : barred.Recorded after now := by
  cases barred with
  | free => trivial
  | untilStartup => exact ⟨inLockout.trans recorded.1, lockoutUntil.trans recorded.2⟩
  | timed left =>
      refine ⟨inLockout.trans recorded.1, ?_⟩
      rw [lockoutUntil]
      rcases recorded.2 with never | due
      · exact .inl never
      · exact .inr (by omega)

theorem pass_zero_recorded (lockout : LockoutState) (time : Nat) (barred : Barred)
    (recorded : barred.Recorded lockout time) : (barred.pass 0).Recorded lockout time := by
  cases barred with
  | free => trivial
  | untilStartup => exact recorded
  | timed left =>
      change (if left ≤ 0 then Barred.free else .timed (left - 0)).Recorded lockout time
      by_cases spent : left ≤ 0
      · rw [if_pos spent]
        trivial
      · rw [if_neg spent]
        exact recorded

theorem recover_special (lockout : LockoutState) (time : UInt64) :
    (lockout.recover time).inLockout = lockout.inLockout ∧ (lockout.recover time).lockoutUntil = lockout.lockoutUntil := by
  unfold LockoutState.recover
  dsimp only
  split <;> exact ⟨rfl, rfl⟩

theorem pass_recorded (lockout : LockoutState) (time now : UInt64) (barred : Barred)
    (recorded : barred.Recorded lockout time.toNat) (runs : now.toNat < 2 ^ 64 - 1) (later : time.toNat ≤ now.toNat) :
    (barred.pass (now.toNat - time.toNat)).Recorded (lockout.onTime now) now.toNat := by
  obtain ⟨inLockout, lockoutUntil⟩ := recover_special lockout now
  unfold LockoutState.onTime LockoutState.release
  rw [inLockout, lockoutUntil]
  cases barred with
  | free => trivial
  | untilStartup =>
      rw [if_neg fun due => due.2.1 recorded.2]
      exact ⟨inLockout.trans recorded.1, lockoutUntil.trans recorded.2⟩
  | timed left =>
      change (if left ≤ now.toNat - time.toNat then Barred.free else .timed (left - (now.toNat - time.toNat))).Recorded _ _
      by_cases spent : left ≤ now.toNat - time.toNat
      · rw [if_pos spent]
        trivial
      · rw [if_neg spent]
        have early : ¬ lockout.lockoutUntil ≤ now := by
          rw [UInt64.le_iff_toNat_le]
          rcases recorded.2 with never | due
          · omega
          · omega
        rw [if_neg fun due => early due.2.2]
        refine ⟨inLockout.trans recorded.1, ?_⟩
        rw [lockoutUntil]
        rcases recorded.2 with never | due
        · exact .inl never
        · exact .inr (by omega)

theorem restart_recorded (lockout : LockoutState) (time : Nat) (barred : Barred)
    (recorded : barred.Recorded lockout time) :
    (barred.restart lockout.lockoutRecovery).Recorded lockout.onStartup 0 := by
  have whole : (lockout.lockoutRecovery.toUInt64 * 1000).toNat = lockout.lockoutRecovery.toNat * 1000 := by
    have bound := lockout.lockoutRecovery.toNat_lt
    rw [UInt64.toNat_mul, UInt32.toNat_toUInt64]
    simp only [UInt64.reduceToNat]
    omega
  by_cases none : lockout.lockoutRecovery = 0
  · cases barred <;> simp only [restart, none, if_true] <;> trivial
  · by_cases free : barred = .free
    · rw [free]
      trivial
    · have entered := recorded_in_lockout lockout time barred recorded free
      unfold LockoutState.onStartup
      simp only [entered, if_true, none, if_false]
      cases barred with
      | free => trivial
      | untilStartup =>
          simp only [restart, none, if_false]
          exact ⟨rfl, .inr (by dsimp only; omega)⟩
      | timed left =>
          simp only [restart, none, if_false]
          exact ⟨rfl, .inr (by dsimp only; omega)⟩

theorem enter_recorded (s : TpmState) :
    (enter s.lockout.lockoutRecovery).Recorded s.recordLockoutFailure.lockout s.clock.time.toNat := by
  unfold enter TpmState.recordLockoutFailure
  by_cases none : s.lockout.lockoutRecovery = 0
  · simp only [none, if_true]
    exact ⟨rfl, rfl⟩
  · simp only [none, if_false]
    refine ⟨rfl, ?_⟩
    have bound := s.lockout.lockoutRecovery.toNat_lt
    have whole : (s.lockout.lockoutRecovery.toUInt64 * 1000).toNat = s.lockout.lockoutRecovery.toNat * 1000 := by
      rw [UInt64.toNat_mul, UInt32.toNat_toUInt64]
      simp only [UInt64.reduceToNat]
      omega
    dsimp only
    rw [sat_add_to_nat, whole]
    omega

end Barred

namespace TpmState

section

variable [Primitives]

-- A failure against lockoutAuth that enters the special lockout.
def entersSpecial (s : TpmState) (event : Event) : Bool :=
  match event with
  | .command locality octets => found (s.received.refused locality octets) fun ended => ended.any fun e =>
    e.2.2.form.entersLockout && e.1.names e.2.1 Rh.lockout
  | _ => false

-- A command that lifts the lockout was authorized.
def lifts (s : TpmState) (event : Event) : Bool :=
  match event with
  | .command locality octets => forgives event && found (s.received.authorized locality octets) id
  | _ => false

def startsUp (s : TpmState) (event : Event) : Bool := !s.started && (s.after event).started

-- The session keys made of lockoutAuth that the TPM holds under sessions which still say so.
def boundKeys (s : TpmState) : List Bytes :=
  (s.sessions.sessions.values.filter fun session => session.bind == Rh.lockout).map (·.sessionKey)

section

-- The session keys made of lockoutAuth so far. A session keeps its key when an audit takes its binding away.
variable (keys : List Bytes)

-- A value computed from lockoutAuth: as the authValue of the entity, or in the session key of a session once bound to it.
def usesLockoutAuth (s : TpmState) (request : Request) (position : Nat) (attempt : Attempt) : Bool :=
  let bound := found (request.sessionAt position) fun input =>
    found (s.sessions.get input.handle) fun session => keys.contains session.sessionKey
  match attempt.form with
  | .password | .policyPassword => request.names position Rh.lockout
  | .hmac | .policyAuthValue => request.names position Rh.lockout || bound
  | .policyKey => bound

def comparesLockoutAuth (s : TpmState) (event : Event) : Bool :=
  match event with
  | .command locality octets => found (s.received.compared locality octets) fun compared =>
    compared.authorizing.any (fun made => s.usesLockoutAuth keys compared.request made.1 made.2.2) ||
      compared.keys.any fun session => keys.contains session.sessionKey
  | _ => false

-- A session through which the special lockout does not stop a comparison with lockoutAuth.
def escapesLockout (s : TpmState) (request : Request) (position : Nat) (input : SessionInput) : Bool :=
  let bound := fun protects : Session → Bool => found (s.sessions.get input.handle) fun session =>
    keys.contains session.sessionKey && !protects session
  if position < request.info.authHandles then
    if request.names position Rh.lockout then
      request.code == Cc.dictionaryAttackLockReset && s.usesAuthValue input || bound (·.bindUsesLockout)
    else bound fun session => session.isPolicy && session.policy.passwordNeeded ||
      session.bindUsesLockout && s.lockout.lockedOut && request.code != Cc.dictionaryAttackLockReset
  else bound fun _ => false

def escapes (s : TpmState) (event : Event) : Bool :=
  match event with
  | .command locality octets => found (parse octets locality) fun request =>
    request.sessions.zipIdx.any fun given => s.escapesLockout keys request given.2 given.1
  | _ => false

theorem given_at_position (request : Request) (position : Nat) (input : SessionInput)
    (given : request.sessionAt position = .ok input) : (input, position) ∈ request.sessions.zipIdx := by
  unfold Request.sessionAt at given
  split at given
  next some =>
    cases given
    exact List.mk_mem_zipIdx_iff_getElem?.mpr some
  next => cases given

theorem uses_lockout_auth_cases (s : TpmState) (request : Request) (position : Nat) (input : SessionInput)
    (attempt : Attempt) (given : request.sessionAt position = .ok input)
    (uses : s.usesLockoutAuth keys request position attempt = true) :
    request.names position Rh.lockout = true ∧ attempt.form ≠ .policyKey ∨
      (attempt.form ≠ .password ∧ attempt.form ≠ .policyPassword) ∧
        ∃ session, s.sessions.get input.handle = .ok session ∧ keys.contains session.sessionKey = true := by
  obtain ⟨form, guarded, accepted⟩ := attempt
  have bound := fun bound : found (s.sessions.get input.handle) (fun session => keys.contains session.sessionKey) = true =>
    ok_of_found _ _ bound
  have kept : found (request.sessionAt position) (fun input =>
      found (s.sessions.get input.handle) fun session => keys.contains session.sessionKey) =
      found (s.sessions.get input.handle) fun session => keys.contains session.sessionKey := by
    rw [given]
    rfl
  simp only [usesLockoutAuth, kept] at uses
  cases form with
  | password => exact .inl ⟨uses, nofun⟩
  | policyPassword => exact .inl ⟨uses, nofun⟩
  | policyKey => exact .inr ⟨⟨nofun, nofun⟩, bound uses⟩
  | hmac =>
      rcases (Bool.or_eq_true _ _).mp uses with named | keyed
      · exact .inl ⟨named, nofun⟩
      · exact .inr ⟨⟨nofun, nofun⟩, bound keyed⟩
  | policyAuthValue =>
      rcases (Bool.or_eq_true _ _).mp uses with named | keyed
      · exact .inl ⟨named, nofun⟩
      · exact .inr ⟨⟨nofun, nofun⟩, bound keyed⟩

-- In the special lockout a comparison with lockoutAuth is made only through a session that escapes it.
theorem escapes_of_attempt (s : TpmState) (request : Request) (names : List Bytes) (position : Nat) (entity : Entity)
    (attempt : Attempt) (judged : s.attemptAt request names position = .ok (entity, attempt))
    (inside : position < request.info.authHandles) (entered : s.lockout.inLockout = true)
    (uses : s.usesLockoutAuth keys request position attempt = true) :
    ∃ input, request.sessionAt position = .ok input ∧ s.escapesLockout keys request position input = true := by
  obtain ⟨_, _, _, cp, _, _, _, _, _, tried⟩ := (s.attempt_at_is_ok request names position entity attempt).mp judged
  obtain ⟨input, given, asked⟩ := s.attempt_asked request position entity cp attempt tried
  refine ⟨input, given, ?_⟩
  have passes := asked.lockout
  unfold escapesLockout
  rw [if_pos inside]
  rcases uses_lockout_auth_cases keys s request position input attempt given uses with
    ⟨named, value⟩ | ⟨⟨unspoken, unneeded⟩, session, held, bound⟩
  · have used := asked.madeWith.uses_auth_value _ _ _ value
    rw [if_pos named, used, Bool.and_true]
    have reset : request.code = Cc.dictionaryAttackLockReset := by
      by_contra other
      simp [checkLockout, entered, named, other, used] at passes
    simp [reset]
  · have made := asked.madeWith
    have member : session.sessionKey ∈ keys := by simpa using bound
    -- The session's key is made of lockoutAuth: the gate looks at what the session protects.
    cases named : request.names position Rh.lockout with
    | true =>
        by_cases protects : session.bindUsesLockout = true
        · have used : s.usesAuthValue input = true := by
            unfold usesAuthValue
            rw [held]
            split
            · rfl
            · simp [protects]
          have reset : request.code = Cc.dictionaryAttackLockReset := by
            by_contra other
            simp [checkLockout, entered, named, other, used] at passes
          simp [reset, used]
        · simp [held, found, member, protects]
    | false =>
        have asks : (session.isPolicy && session.policy.passwordNeeded) = false := by
          by_contra asks
          simp only [Bool.not_eq_false, Bool.and_eq_true] at asks
          cases made with
          | password _ same => exact unspoken same
          | hmac _ other found plain _ =>
              rw [held] at found
              cases found
              rw [plain] at asks
              exact absurd asks.1 (by decide)
          | policy _ other found _ same =>
              rw [held] at found
              cases found
              exact unneeded (by simp [same, policyForm, asks.2])
        have passed : (session.bindUsesLockout && s.lockout.lockedOut && request.code != Cc.dictionaryAttackLockReset) =
            false := by
          by_contra stopped
          simp only [Bool.not_eq_false, Bool.and_eq_true, bne_iff_ne] at stopped
          obtain ⟨⟨protects, lockedOut⟩, other⟩ := stopped
          have apart : input.handle ≠ Rh.rsPw := by
            cases made with
            | password _ same => exact absurd same unspoken
            | hmac apart => exact apart
            | policy apart => exact apart
          have guarded : attempt.guarded = true := by
            rw [asked.guarded]
            simp [daProtected, apart, held, protects]
          have used : s.usesAuthValue input = true := by simp [usesAuthValue, apart, held, protects]
          simp [checkLockout, guarded, lockedOut, other, used] at passes
        simp [held, found, member, asks, passed]

theorem escapes_of_compared (s : TpmState) (event : Event) (entered : s.lockout.inLockout = true)
    (compares : s.comparesLockoutAuth keys event = true) : s.escapes keys event = true := by
  unfold comparesLockoutAuth at compares
  split at compares
  next locality octets =>
    obtain ⟨compared, answered, compares⟩ := ok_of_found _ _ compares
    simp only [TpmState.compared, bind_is_ok] at answered
    obtain ⟨⟨request, names⟩, prepared, answered⟩ := answered
    obtain ⟨_, parsed, _⟩ := (s.received.prepare_is_ok locality octets request names).mp prepared
    rw [pure_is_ok] at answered
    subst answered
    simp only [escapes, parsed, found, List.any_eq_true]
    simp only [Bool.or_eq_true, List.any_eq_true] at compares
    have sessions : (nullifyShutdown request s.received).sessions = s.sessions := by
      unfold nullifyShutdown
      split <;> rfl
    have lockout : (nullifyShutdown request s.received).lockout = s.lockout :=
      lockout_of_view _ _ (nullify_shutdown_lockout request s.received)
    rcases compares with ⟨⟨position, entity, attempt⟩, made, uses⟩ | ⟨session, keyed, bound⟩
    · obtain ⟨nv, judged⟩ := comparisons_attempt request names _ 0 _ position entity attempt made
      have inside := comparisons_inside request names _ 0 _ position entity attempt made
      rw [Nat.zero_add] at inside
      have same : ∀ input, ({ nullifyShutdown request s.received with nv } : TpmState).escapesLockout keys request position
          input = s.escapesLockout keys request position input := by
        intro input
        simp only [escapesLockout, usesAuthValue, sessions, lockout]
      have uses : ({ nullifyShutdown request s.received with nv } : TpmState).usesLockoutAuth keys request position attempt =
          true := by
        simp only [usesLockoutAuth, sessions]
        exact uses
      obtain ⟨input, given, escaped⟩ := escapes_of_attempt keys _ request names position entity attempt judged inside
        (by dsimp only; rw [lockout]; exact entered) uses
      exact ⟨(input, position), given_at_position request position input given, same input ▸ escaped⟩
    · split at keyed
      next contexts t ran =>
        have frame := keeps_authorize_from request names request.info.authHandles 0 (nullifyShutdown request s.received)
        rw [ran] at frame
        obtain ⟨_, _, same⟩ := same_outside_guards _ _ frame
        change t = _ at same
        obtain ⟨input, member, held⟩ := t.key_comparisons_mem request names _ _ session keyed
        rw [same] at held
        dsimp only at held
        rw [sessions] at held
        obtain ⟨offset, given⟩ := List.mem_iff_getElem?.mp member
        rw [List.getElem?_drop] at given
        refine ⟨(input, request.info.authHandles + offset), List.mk_mem_zipIdx_iff_getElem?.mpr given, ?_⟩
        have made : session.sessionKey ∈ keys := by simpa using bound
        simp [escapesLockout, held, found, made]
      next => cases keyed
  next => cases compares

end

end

end TpmState

-- The state, how long lockoutAuth is barred, and the session keys made of it so far.
structure SpecialLockout where
  state : TpmState
  barred : Barred
  keys : List Bytes

namespace SpecialLockout

open TpmState

section

variable [Primitives]

def next (ledger : SpecialLockout) (event : Event) : SpecialLockout where
  state := ledger.state.after event
  barred :=
    if ledger.state.entersSpecial event then Barred.enter ledger.state.lockout.lockoutRecovery
    else if ledger.state.lifts event then .free
    else if ledger.state.startsUp event then ledger.barred.restart (ledger.state.after event).lockout.lockoutRecovery
    else ledger.barred.pass (ledger.state.passed event)
  keys := ledger.keys ∪ (ledger.state.after event).boundKeys

def afterAll (ledger : SpecialLockout) (events : List Event) : SpecialLockout := events.foldl next ledger

def Recorded (ledger : SpecialLockout) : Prop :=
  ledger.barred.Recorded ledger.state.lockout ledger.state.clock.time.toNat

variable (ledger : SpecialLockout) (event : Event)

theorem enters_of_unrefused (s : TpmState) (unrefused : s.Unrefused event) : s.entersSpecial event = false := by
  unfold entersSpecial
  split
  next locality octets =>
    cases judged : s.received.refused locality octets with
    | error e => rfl
    | ok ended =>
        cases ended with
        | none => rfl
        | some ended => exact absurd judged (unrefused locality octets ended rfl)
  next => rfl

-- An event that neither enters the lockout nor lets Time pass, and leaves what is recorded.
theorem recorded_of_still (recorded : ledger.Recorded) (unrefused : ledger.state.Unrefused event)
    (stands : ledger.state.passed event = 0) (still : ledger.state.startsUp event = false)
    (inLockout : (ledger.state.after event).lockout.inLockout = ledger.state.lockout.inLockout)
    (lockoutUntil : (ledger.state.after event).lockout.lockoutUntil = ledger.state.lockout.lockoutUntil)
    (sooner : (ledger.state.after event).clock.time.toNat ≤ ledger.state.clock.time.toNat) :
    (ledger.next event).Recorded := by
  have unentered := enters_of_unrefused event ledger.state unrefused
  have kept := Barred.recorded_of_same _ _ _ _ _ recorded inLockout lockoutUntil sooner
  unfold Recorded next
  simp only [unentered, still, stands, Bool.false_eq_true, if_false]
  split
  · trivial
  · exact Barred.pass_zero_recorded _ _ _ kept

theorem starts_up_of_same (s : TpmState) (same : (s.after event).started = s.started) : s.startsUp event = false := by
  unfold startsUp
  rw [same]
  cases s.started <;> rfl

theorem recorded_of_same_view (recorded : ledger.Recorded) (unrefused : ledger.state.Unrefused event)
    (stands : ledger.state.passed event = 0)
    (same : (ledger.state.after event).lockoutView = ledger.state.lockoutView) : (ledger.next event).Recorded := by
  have lockout := lockout_of_view _ _ same
  refine ledger.recorded_of_still event recorded unrefused stands ?_ ?_ ?_ ?_
  · exact starts_up_of_same event _ (started_of_view _ _ same)
  · exact congrArg LockoutState.inLockout lockout
  · exact congrArg LockoutState.lockoutUntil lockout
  · exact le_of_eq (congrArg UInt64.toNat (time_of_view _ _ same))

theorem counted_special (before : LockoutView) (lockout : LockoutState) (counted : before.Counted lockout) :
    lockout.inLockout = before.lockout.inLockout ∧ lockout.lockoutUntil = before.lockout.lockoutUntil ∧
      lockout.lockoutRecovery = before.lockout.lockoutRecovery := by
  rcases counted with rfl | rfl
  · exact ⟨rfl, rfl, rfl⟩
  · unfold LockoutState.countPendingFailure
    split
    · exact ⟨rfl, rfl, rfl⟩
    · split <;> exact ⟨rfl, rfl, rfl⟩

theorem recorded_of_restarted (recorded : ledger.Recorded) (unrefused : ledger.state.Unrefused event)
    (kept : ledger.state.lifts event = false) (idle : ledger.state.started = false)
    (restarted : ledger.state.lockoutView.Restarted (ledger.state.after event).lockoutView) :
    (ledger.next event).Recorded := by
  obtain ⟨lockout, counted, moved⟩ := restarted
  obtain ⟨inLockout, lockoutUntil, lockoutRecovery⟩ := counted_special _ _ counted
  have same := lockout_of_view _ _ moved
  have time := time_of_view _ _ moved
  have runs := started_of_view _ _ moved
  dsimp only at same time runs
  have starts : ledger.state.startsUp event = true := by simp [startsUp, idle, runs]
  have unentered := enters_of_unrefused event ledger.state unrefused
  have before := Barred.recorded_of_same _ lockout _ 0 _ recorded inLockout lockoutUntil (Nat.zero_le _)
  have after := Barred.restart_recorded lockout 0 ledger.barred before
  have whole : lockout.onStartup.lockoutRecovery = lockout.lockoutRecovery := by
    unfold LockoutState.onStartup
    dsimp only
    split
    · split <;> rfl
    · rfl
  unfold Recorded next
  simp only [unentered, kept, starts, Bool.false_eq_true, if_false, if_true]
  rw [same, time, whole]
  exact after

theorem lifts_of_other (s : TpmState) (locality : UInt8) (octets : Bytes) (request : Request)
    (parsed : parse octets locality = .ok request)
    (other : request.code ≠ Cc.dictionaryAttackLockReset ∧ request.code ≠ Cc.clear) :
    s.lifts (.command locality octets) = false := by
  simp [lifts, forgives, Event.isCommand, parsed, found, other.1, other.2]

theorem recorded_of_lifted (lifted : ledger.state.lifts event = true) (unrefused : ledger.state.Unrefused event) :
    (ledger.next event).Recorded := by
  have unentered := enters_of_unrefused event ledger.state unrefused
  unfold Recorded next
  simp only [unentered, lifted, Bool.false_eq_true, if_false, if_true]
  trivial

theorem record_failure_special (s : TpmState) (guarded : Bool) :
    (s.recordFailure guarded).lockout.inLockout = s.lockout.inLockout ∧
      (s.recordFailure guarded).lockout.lockoutUntil = s.lockout.lockoutUntil := by
  unfold recordFailure
  split
  · exact ⟨rfl, rfl⟩
  · split <;> exact ⟨rfl, rfl⟩

theorem recorded_of_refused (recorded : ledger.Recorded) (locality : UInt8) (octets : Bytes) (request : Request)
    (position : Nat) (attempt : Attempt) (sent : event = .command locality octets)
    (ended : ledger.state.received.refused locality octets = .ok (some (request, position, attempt)))
    (moved : (ledger.state.after event).lockoutView =
      ⟨(penalize request position attempt ledger.state).lockout, ledger.state.clock.time, ledger.state.started⟩) :
    (ledger.next event).Recorded := by
  have lockout := lockout_of_view _ _ moved
  have time := time_of_view _ _ moved
  have still := starts_up_of_same event ledger.state (started_of_view _ _ moved)
  have stands : ledger.state.passed event = 0 := by
    rw [sent]
    rfl
  have enters : ledger.state.entersSpecial event =
      (attempt.form.entersLockout && request.names position Rh.lockout) := by
    simp [entersSpecial, sent, ended, found]
  dsimp only at lockout time
  unfold Recorded next
  rw [lockout, time, enters]
  unfold penalize
  cases special : attempt.form.entersLockout && request.names position Rh.lockout with
  | true =>
      simp only [if_true]
      obtain ⟨inLockout, lockoutUntil⟩ := record_failure_special ledger.state.recordLockoutFailure attempt.guarded
      exact Barred.recorded_of_same _ _ _ _ _ (Barred.enter_recorded ledger.state) inLockout lockoutUntil (Nat.le_refl _)
  | false =>
      obtain ⟨inLockout, lockoutUntil⟩ := record_failure_special ledger.state attempt.guarded
      have kept := Barred.recorded_of_same _ _ _ _ _ recorded inLockout lockoutUntil (Nat.le_refl _)
      simp only [still, stands, Bool.false_eq_true, if_false]
      split
      · trivial
      · exact Barred.pass_zero_recorded _ _ _ kept

theorem recorded_next (recorded : ledger.Recorded) (runs : (ledger.state.after event).clock.time.toNat < 2 ^ 64 - 1) :
    (ledger.next event).Recorded := by
  have moves := ledger.state.event_moves_lockout event
  cases moves with
  | quiet unrefused stands same => exact ledger.recorded_of_same_view event recorded unrefused stands same
  | initialized unrefused stands time sooner moved =>
      have lockout := lockout_of_view _ _ moved
      have now := time_of_view _ _ moved
      have off := started_of_view _ _ moved
      dsimp only at now off
      refine ledger.recorded_of_still event recorded unrefused stands ?_ ?_ ?_ ?_
      · simp [startsUp, off]
      · exact congrArg LockoutState.inLockout lockout
      · exact congrArg LockoutState.lockoutUntil lockout
      · rw [now]
        rcases sooner with rfl | rfl
        · exact Nat.zero_le _
        · exact Nat.le_refl _
  | elapsed millis time passing later passes moved =>
      have lockout := lockout_of_view _ _ moved
      have now := time_of_view _ _ moved
      have still := starts_up_of_same event ledger.state (started_of_view _ _ moved)
      dsimp only at lockout now
      rw [now] at runs
      have unentered : ledger.state.entersSpecial event = false := by
        rw [passing]
        rfl
      have unlifted : ledger.state.lifts event = false := by
        rw [passing]
        rfl
      unfold Recorded next
      simp only [unentered, unlifted, still, Bool.false_eq_true, if_false]
      rw [lockout, now, passes]
      exact Barred.pass_recorded _ _ time _ recorded runs (UInt64.le_iff_toNat_le.mp later)
  | refused locality octets request position attempt sent ended moved =>
      exact ledger.recorded_of_refused event recorded locality octets request position attempt sent ended moved
  | administered unrefused locality octets request sent parsed started authorized moved =>
      have stands : ledger.state.passed event = 0 := by
        rw [sent]
        rfl
      cases moved with
      | quiet same => exact ledger.recorded_of_same_view event recorded unrefused stands same
      | restarted startup restarted =>
          refine ledger.recorded_of_restarted event recorded unrefused ?_ ?_ restarted
          · rw [sent]
            exact lifts_of_other _ locality octets request parsed (by rw [startup]; decide)
          · exact Recovery.idle_of_startup ledger.state request startup started
      | halfRestarted startup half =>
          rcases half with same | ⟨lockout, counted, moved⟩
          · exact ledger.recorded_of_same_view event recorded unrefused stands same
          · obtain ⟨inLockout, lockoutUntil, _⟩ := counted_special _ _ counted
            have same := lockout_of_view _ _ moved
            have time := time_of_view _ _ moved
            dsimp only at same time
            refine ledger.recorded_of_still event recorded unrefused stands ?_ ?_ ?_ ?_
            · exact starts_up_of_same event _ (started_of_view _ _ moved)
            · exact (congrArg LockoutState.inLockout same).trans inLockout
            · exact (congrArg LockoutState.lockoutUntil same).trans lockoutUntil
            · rw [time]
              exact Nat.zero_le _
      | cleared clear reset =>
          refine ledger.recorded_of_lifted event ?_ unrefused
          simp [lifts, forgives, Event.isCommand, sent, parsed, found, authorized, clear]
      | lockReset code cleared =>
          refine ledger.recorded_of_lifted event ?_ unrefused
          simp [lifts, forgives, Event.isCommand, sent, parsed, found, authorized, code]
      | parameters code maxTries recoveryTime lockoutRecovery set =>
          have lockout := lockout_of_view _ _ set
          refine ledger.recorded_of_still event recorded unrefused stands ?_ ?_ ?_ ?_
          · exact starts_up_of_same event _ (started_of_view _ _ set)
          · exact (congrArg LockoutState.inLockout lockout).trans rfl
          · exact (congrArg LockoutState.lockoutUntil lockout).trans rfl
          · exact le_of_eq (congrArg UInt64.toNat (time_of_view _ _ set))

end

end SpecialLockout

section

variable [Primitives]

namespace SpecialLockout

-- No session escapes the special lockout while it lasts, and Time does not saturate.
structure SparesLockoutAuth (ledger : SpecialLockout) (event : Event) : Prop where
  stops : ledger.state.lockout.inLockout = true → ledger.state.escapes ledger.keys event = false
  time : (ledger.state.after event).clock.time.toNat < 2 ^ 64 - 1

instance (ledger : SpecialLockout) (event : Event) : Decidable (ledger.SparesLockoutAuth event) :=
  decidable_of_iff (_ ∧ _) ⟨fun ⟨stops, time⟩ => ⟨stops, time⟩, fun spares => ⟨spares.stops, spares.time⟩⟩

theorem keys_kept (ledger : SpecialLockout) (events : List Event) (key : Bytes) (noted : key ∈ ledger.keys) :
    key ∈ (ledger.afterAll events).keys := by
  induction events generalizing ledger with
  | nil => exact noted
  | cons event rest ih => exact ih (ledger.next event) (List.mem_union_iff.mpr (.inl noted))

-- The key of a session that an event leaves bound to lockoutAuth is known from then on, whatever becomes of the binding.
theorem bound_key_noted (ledger : SpecialLockout) (event : Event) (later : List Event) (session : Session)
    (held : session ∈ (ledger.next event).state.sessions.sessions.values) (bound : session.bind = Rh.lockout) :
    session.sessionKey ∈ ((ledger.next event).afterAll later).keys := by
  refine keys_kept _ later _ (List.mem_union_iff.mpr (.inr (List.mem_map.mpr ⟨session, List.mem_filter.mpr ⟨held, ?_⟩, rfl⟩)))
  rw [bound]
  exact beq_self_eq_true _

end SpecialLockout

end

namespace Toy

end Toy

end Swtrust
