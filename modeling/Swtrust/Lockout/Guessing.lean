import Swtrust.Lockout.Recovery

set_option autoImplicit false
set_option linter.unusedSectionVars false

namespace Swtrust

open Library Action

namespace TpmState

section

variable [Primitives]

-- A session that authorizes nothing, and whose HMAC is not the one its session key gives.
def wrongSession (s : TpmState) (request : Request) (names : List Bytes) :
    Nat → List SessionInput → Option (Nat × Session)
  | _, [] => none
  | index, input :: rest =>
    match s.checkUnauthorizedSession request index input names, s.sessions.get input.handle with
    | .ok _, _ => wrongSession s request names (index + 1) rest
    | .error _, .error _ => none
    | .error _, .ok session =>
      let compared := do
        let cp ← Swtrust.cpHash session.authHash request.code names request.parameters
        s.expectedHmac request index input session session.sessionKey cp
      if found compared (· != input.hmac) then some (index, session) else none

-- The comparison with the key of an unauthorizing session that ended the command, if one did.
def mistaken (s : TpmState) (locality : UInt8) (command : Bytes) : TpmResult (Option (Nat × Session)) := do
  let (request, names) ← s.prepare locality command
  match authorizeFrom request names request.info.authHandles 0 (nullifyShutdown request s) with
  | .error _ _ => return none
  | .ok _ t => return t.wrongSession request names request.info.authHandles (request.sessions.drop request.info.authHandles)

-- A failed comparison against a value computed from the authValue of a protected entity.
def Guessed (s : TpmState) (request : Request) (position : Nat) (attempt : Attempt) : Bool :=
  attempt.guarded && found (request.sessionAt position) s.usesAuthValue

def guesses (s : TpmState) (event : Event) : Nat :=
  match event with
  | .command locality octets =>
    (if found (s.received.refused locality octets) (fun ended =>
        ended.any fun e => s.Guessed e.1 e.2.1 e.2.2) then 1 else 0) +
    (if found (s.received.mistaken locality octets) (fun ended => ended.any fun e => e.2.bindUsesLockout) then 1 else 0)
  | _ => 0

-- A session of the command that authorizes nothing is bound to a protected entity.
def carriesBoundSession (s : TpmState) (event : Event) : Bool :=
  match event with
  | .command locality octets => found (parse octets locality) fun request =>
    (request.sessions.drop request.info.authHandles).any fun input =>
      found (s.sessions.get input.handle) (·.bindUsesLockout)
  | _ => false

theorem wrong_session_mem (s : TpmState) (request : Request) (names : List Bytes) (index : Nat)
    (inputs : List SessionInput) (position : Nat) (session : Session)
    (wrong : s.wrongSession request names index inputs = some (position, session)) :
    ∃ input ∈ inputs, s.sessions.get input.handle = .ok session := by
  induction inputs generalizing index with
  | nil => cases wrong
  | cons input rest ih =>
      unfold wrongSession at wrong
      split at wrong
      · obtain ⟨other, member, held⟩ := ih _ wrong
        exact ⟨other, List.mem_cons_of_mem _ member, held⟩
      · cases wrong
      next held =>
        dsimp only at wrong
        split at wrong
        · cases wrong
          exact ⟨input, List.mem_cons_self, held⟩
        · cases wrong

-- Up to the comparison that failed, only counters of PIN Indices have moved.
theorem refusal_attempt (request : Request) (names : List Bytes) (count index : Nat) (s : TpmState) (position : Nat)
    (attempt : Attempt) (ended : refusal request names count index s = some (position, attempt)) :
    ∃ nv entity, attemptAt { s with nv } request names position = .ok (entity, attempt) ∧ attempt.accepted = false := by
  induction count generalizing index s with
  | zero => cases ended
  | succ count ih =>
      unfold refusal at ended
      split at ended
      · cases ended
      next entity tried judged =>
        obtain ⟨_, _, _, cp, _, _, _, _, _, attempted⟩ := (s.attempt_at_is_ok request names index entity tried).mp judged
        have available := s.attempt_available request index entity cp tried attempted
        split at ended
        next accepted =>
          obtain ⟨nv, settles⟩ := settle_accepted request index entity tried s available accepted
          rw [settles] at ended
          exact ih (index + 1) { s with nv } ended
        next refused =>
          cases ended
          exact ⟨s.nv, entity, judged, by simpa using refused⟩

-- The state a refused comparison was made in: as the command found it, but for counters of PIN Indices.
structure RefusedIn (s t : TpmState) (locality : UInt8) (octets : Bytes) (request : Request) (position : Nat)
    (entity : Entity) (cp : Bytes) (attempt : Attempt) : Prop where
  parsed : parse octets locality = .ok request
  view : t.lockoutView = s.lockoutView
  sessions : t.sessions = s.sessions
  tried : t.attempt request position entity cp = .ok attempt
  failed : attempt.accepted = false

theorem refused_in (s : TpmState) (locality : UInt8) (octets : Bytes) (request : Request) (position : Nat)
    (attempt : Attempt) (ended : s.refused locality octets = .ok (some (request, position, attempt))) :
    ∃ t entity cp, RefusedIn s t locality octets request position entity cp attempt := by
  simp only [TpmState.refused, bind_is_ok] at ended
  obtain ⟨⟨found, names⟩, prepared, ended⟩ := ended
  rw [pure_is_ok] at ended
  obtain ⟨_, parsed, _⟩ := (s.prepare_is_ok locality octets found names).mp prepared
  obtain ⟨_, refused, same⟩ := Option.map_eq_some_iff.mp ended
  obtain ⟨rfl, rfl⟩ := Prod.mk.inj same
  obtain ⟨nv, entity, judged, failed⟩ := refusal_attempt _ _ _ _ _ _ _ refused
  obtain ⟨_, _, _, cp, _, _, _, _, _, tried⟩ := (attempt_at_is_ok _ _ _ _ entity attempt).mp judged
  refine ⟨{ nullifyShutdown found s with nv }, entity, cp, parsed, nullify_shutdown_lockout found s, ?_, tried, failed⟩
  unfold nullifyShutdown
  split <;> rfl

-- A guess is answered only while failures are left.
theorem guess_below_maximum (s : TpmState) (locality : UInt8) (octets : Bytes) (request : Request) (position : Nat)
    (attempt : Attempt) (ended : s.received.refused locality octets = .ok (some (request, position, attempt)))
    (noReset : request.code ≠ Cc.dictionaryAttackLockReset) (guessed : s.Guessed request position attempt = true) :
    attempt.guarded = true ∧ s.lockout.failedTries < s.lockout.maxTries := by
  obtain ⟨t, entity, cp, refused⟩ := s.received.refused_in locality octets request position attempt ended
  obtain ⟨input, given, asked⟩ := t.attempt_asked request position entity cp attempt refused.tried
  have passes := asked.lockout
  simp only [Guessed, Bool.and_eq_true, given, found] at guessed
  have lockout := lockout_of_view t s.lockoutView refused.view
  have uses : t.usesAuthValue input = true := by
    unfold usesAuthValue
    rw [refused.sessions]
    exact guessed.2
  refine ⟨guessed.1, ?_⟩
  by_contra atMaximum
  have locked : s.lockout.lockedOut = true := by
    unfold LockoutState.lockedOut
    rw [Bool.or_eq_true, decide_eq_true_eq]
    exact .inr (UInt32.not_lt.mp atMaximum)
  unfold checkLockout at passes
  rw [uses, lockout, guessed.1] at passes
  simp [locked, noReset, lockoutView] at passes

theorem mistaken_none (s : TpmState) (locality : UInt8) (octets : Bytes)
    (carries : s.carriesBoundSession (.command locality octets) = false) (position : Nat) (session : Session)
    (ended : s.received.mistaken locality octets = .ok (some (position, session))) :
    session.bindUsesLockout = false := by
  simp only [mistaken, bind_is_ok] at ended
  obtain ⟨⟨request, names⟩, prepared, ended⟩ := ended
  obtain ⟨_, parsed, _⟩ := (s.received.prepare_is_ok locality octets request names).mp prepared
  have frame := keeps_authorize_from request names request.info.authHandles 0 (nullifyShutdown request s.received)
  cases ran : authorizeFrom request names request.info.authHandles 0 (nullifyShutdown request s.received) with
  | error e t =>
      rw [ran, pure_is_ok] at ended
      cases ended
  | ok contexts t =>
      rw [ran] at frame ended
      obtain ⟨_, _, same⟩ := same_outside_guards _ _ frame
      have sessions : t.sessions = s.sessions := by
        change t = _ at same
        rw [same]
        unfold nullifyShutdown
        split <;> rfl
      obtain ⟨input, member, held⟩ := t.wrong_session_mem request names _ _ position session (pure_is_ok _ _ |>.mp ended)
      rw [sessions] at held
      simp only [carriesBoundSession, parsed, found, List.any_eq_false] at carries
      have unbound := carries input member
      rw [held] at unbound
      simpa using unbound

end

end TpmState

-- The guesses answered, and the Time that has passed.
structure Guessing where
  state : TpmState
  guesses : Nat
  elapsed : Nat

-- How the guesses are paid for: by failures still counted, or by failures forgiven, of which there is one an interval
-- and one for the interval that was running at the start.
structure Paid (lockout : LockoutState) (time guesses elapsed forgiven : Nat) : Prop where
  rate : (forgiven - 1) * lockout.interval ≤ elapsed
  bounded : guesses ≤ lockout.maxTries.toNat + forgiven
  counted : guesses ≤ forgiven ∨ guesses ≤ lockout.failedTries.toNat + forgiven ∧
    (lockout.nextRecovery.toNat = 2 ^ 64 - 1 ∨
      time + forgiven * lockout.interval ≤ lockout.nextRecovery.toNat + elapsed)

namespace Paid

variable (before after : LockoutState) (time guesses elapsed forgiven : Nat)

theorem interval_of_same (recoveryTime : after.recoveryTime = before.recoveryTime) :
    after.interval = before.interval := by
  unfold LockoutState.interval
  rw [recoveryTime]

-- More failures counted, and a deadline no nearer.
theorem later (paid : Paid before time guesses elapsed forgiven) (now : Nat)
    (recoveryTime : after.recoveryTime = before.recoveryTime) (maxTries : after.maxTries = before.maxTries)
    (failedTries : before.failedTries.toNat ≤ after.failedTries.toNat)
    (deadline : before.failedTries.toNat = 0 ∨ after.nextRecovery.toNat = 2 ^ 64 - 1 ∨
      now + before.interval ≤ after.nextRecovery.toNat ∨
      now ≤ time ∧ after.nextRecovery = before.nextRecovery) :
    Paid after now guesses elapsed forgiven := by
  have interval := interval_of_same before after recoveryTime
  have rate := paid.rate
  refine ⟨by rw [interval]; exact rate, by rw [maxTries]; exact paid.bounded, ?_⟩
  rcases paid.counted with forgave | ⟨counted, due⟩
  · exact .inl forgave
  · rcases deadline with none | never | whole | ⟨sooner, same⟩
    · exact .inl (by omega)
    · exact .inr ⟨by omega, .inl never⟩
    · refine .inr ⟨by omega, .inr ?_⟩
      rw [interval]
      rcases Nat.eq_zero_or_pos forgiven with rfl | some
      · omega
      · have less : (forgiven - 1) * before.interval + before.interval = forgiven * before.interval := by
          rw [← Nat.succ_mul, Nat.succ_eq_add_one, Nat.sub_add_cancel some]
        omega
    · refine .inr ⟨by omega, ?_⟩
      rw [interval, same]
      rcases due with never | due
      · exact .inl never
      · exact .inr (by omega)

-- A guess: one failure more is counted, and the deadline is an interval from now.
theorem guess (paid : Paid before time guesses elapsed forgiven)
    (recoveryTime : after.recoveryTime = before.recoveryTime) (maxTries : after.maxTries = before.maxTries)
    (below : before.failedTries.toNat < before.maxTries.toNat)
    (failedTries : after.failedTries.toNat = before.failedTries.toNat + 1)
    (deadline : after.nextRecovery.toNat = min (time + before.interval) (2 ^ 64 - 1)) :
    Paid after time (guesses + 1) elapsed forgiven := by
  have interval := interval_of_same before after recoveryTime
  have rate := paid.rate
  refine ⟨by rw [interval]; exact rate, ?_, ?_⟩
  · rw [maxTries]
    rcases paid.counted with forgave | ⟨counted, _⟩
    · omega
    · omega
  · refine .inr ⟨?_, ?_⟩
    · rcases paid.counted with forgave | ⟨counted, _⟩
      · omega
      · omega
    · rw [interval]
      rcases Nat.eq_zero_or_pos forgiven with rfl | some
      · omega
      · have less : (forgiven - 1) * before.interval + before.interval = forgiven * before.interval := by
          rw [← Nat.succ_mul, Nat.succ_eq_add_one, Nat.sub_add_cancel some]
        omega

theorem pass (now : UInt64) (paid : Paid before time guesses elapsed forgiven) (later : time ≤ now.toNat)
    (count : Nat) (recovers : before.Recovers now after count) (running : before.recoveryTime ≠ 0)
    (runs : now.toNat < 2 ^ 64 - 1) :
    ∃ forgiven, Paid after now.toNat guesses (elapsed + (now.toNat - time)) forgiven := by
  have interval := interval_of_same before after recovers.recoveryTime
  have left := recovers.forgiven
  have rate := paid.rate
  have bounded := paid.bounded
  rcases paid.counted with forgave | ⟨counted, due⟩
  · refine ⟨forgiven, ?_, ?_, .inl forgave⟩
    · rw [interval]
      omega
    · rw [recovers.maxTries]
      exact bounded
  · have sum : (forgiven + count) * before.interval = forgiven * before.interval + count * before.interval :=
      Nat.add_mul _ _ _
    refine ⟨forgiven + count, ?_, ?_, ?_⟩
    · rw [interval]
      rcases Nat.eq_zero_or_pos count with rfl | some
      · rw [Nat.add_zero]
        omega
      · have less : (count - 1) * before.interval + before.interval = count * before.interval := by
          rw [← Nat.succ_mul, Nat.succ_eq_add_one, Nat.sub_add_cancel some]
        have fewer : (forgiven + count - 1) * before.interval + before.interval =
            (forgiven + count) * before.interval := by
          rw [← Nat.succ_mul, Nat.succ_eq_add_one, Nat.sub_add_cancel (by omega)]
        have last := recovers.due some
        rcases due with never | due
        · omega
        · omega
    · rw [recovers.maxTries]
      omega
    · rcases Nat.eq_zero_or_pos after.failedTries.toNat with none | some
      · exact .inl (by omega)
      · refine .inr ⟨by omega, ?_⟩
        rw [interval, recovers.deadline some running]
        rcases due with never | due
        · exact .inl (by omega)
        · omega

end Paid

namespace TpmState

section

variable [Primitives]

-- The runs the bound is about: nothing resets the logic or changes its parameters.
structure LeavesLogic (event : Event) : Prop where
  noReset : event.isCommand Cc.dictionaryAttackLockReset = false
  noParameters : event.isCommand Cc.dictionaryAttackParameters = false
  noClear : event.isCommand Cc.clear = false

-- No protected session is left out of the logic, and Time does not saturate.
structure CountsGuesses (s : TpmState) (event : Event) : Prop where
  carries : s.carriesBoundSession event = false
  time : (s.after event).clock.time.toNat < 2 ^ 64 - 1

theorem mistaken_counts_none (s : TpmState) (locality : UInt8) (octets : Bytes)
    (carries : s.carriesBoundSession (.command locality octets) = false) :
    found (s.received.mistaken locality octets) (fun ended => ended.any fun e => e.2.bindUsesLockout) = false := by
  cases judged : s.received.mistaken locality octets with
  | error e => rfl
  | ok ended =>
      cases ended with
      | none => rfl
      | some ended => exact s.mistaken_none locality octets carries ended.1 ended.2 judged

theorem guesses_of_unrefused (s : TpmState) (event : Event) (carries : s.carriesBoundSession event = false)
    (unrefused : s.Unrefused event) : s.guesses event = 0 := by
  unfold guesses
  split
  next locality octets =>
    rw [s.mistaken_counts_none locality octets carries]
    cases judged : s.received.refused locality octets with
    | error e => rfl
    | ok ended =>
        cases ended with
        | none => rfl
        | some ended => exact absurd judged (unrefused locality octets ended rfl)
  next => rfl

theorem guesses_of_refused (s : TpmState) (locality : UInt8) (octets : Bytes) (request : Request) (position : Nat)
    (attempt : Attempt) (carries : s.carriesBoundSession (.command locality octets) = false)
    (ended : s.received.refused locality octets = .ok (some (request, position, attempt))) :
    s.guesses (.command locality octets) = if s.Guessed request position attempt then 1 else 0 := by
  simp only [guesses]
  rw [s.mistaken_counts_none locality octets carries]
  simp [ended, found]

end

end TpmState

namespace Guessing

open TpmState

section

variable [Primitives]

def next (guessing : Guessing) (event : Event) : Guessing :=
  ⟨guessing.state.after event, guessing.guesses + guessing.state.guesses event,
    guessing.elapsed + guessing.state.passed event⟩

def afterAll (guessing : Guessing) (events : List Event) : Guessing := events.foldl next guessing

variable (guessing : Guessing)

structure Bounded (maxTries recoveryTime : UInt32) : Prop where
  maxTries : guessing.state.lockout.maxTries = maxTries
  recoveryTime : guessing.state.lockout.recoveryTime = recoveryTime
  paid : ∃ forgiven, Paid guessing.state.lockout guessing.state.clock.time.toNat guessing.guesses guessing.elapsed forgiven

variable (maxTries recoveryTime : UInt32) (event : Event)

-- An event that lets no Time pass and answers no guess.
theorem bounded_of_later (bounded : guessing.Bounded maxTries recoveryTime)
    (unguessed : guessing.state.guesses event = 0) (stands : guessing.state.passed event = 0)
    (sameRecovery : (guessing.state.after event).lockout.recoveryTime = guessing.state.lockout.recoveryTime)
    (sameMaximum : (guessing.state.after event).lockout.maxTries = guessing.state.lockout.maxTries)
    (failedTries : guessing.state.lockout.failedTries.toNat ≤ (guessing.state.after event).lockout.failedTries.toNat)
    (deadline : guessing.state.lockout.failedTries.toNat = 0 ∨
      (guessing.state.after event).lockout.nextRecovery.toNat = 2 ^ 64 - 1 ∨
      (guessing.state.after event).clock.time.toNat + guessing.state.lockout.interval ≤
        (guessing.state.after event).lockout.nextRecovery.toNat ∨
      (guessing.state.after event).clock.time.toNat ≤ guessing.state.clock.time.toNat ∧
        (guessing.state.after event).lockout.nextRecovery = guessing.state.lockout.nextRecovery) :
    (guessing.next event).Bounded maxTries recoveryTime := by
  obtain ⟨forgiven, paid⟩ := bounded.paid
  refine ⟨sameMaximum.trans bounded.maxTries, sameRecovery.trans bounded.recoveryTime, forgiven, ?_⟩
  simp only [next, unguessed, stands, Nat.add_zero]
  exact paid.later _ _ _ _ _ _ _ sameRecovery sameMaximum failedTries deadline

theorem bounded_of_same (bounded : guessing.Bounded maxTries recoveryTime)
    (unguessed : guessing.state.guesses event = 0) (stands : guessing.state.passed event = 0)
    (lockout : (guessing.state.after event).lockout = guessing.state.lockout)
    (sooner : (guessing.state.after event).clock.time.toNat ≤ guessing.state.clock.time.toNat) :
    (guessing.next event).Bounded maxTries recoveryTime := by
  refine guessing.bounded_of_later maxTries recoveryTime event bounded unguessed stands ?_ ?_ ?_ ?_
  · rw [lockout]
  · rw [lockout]
  · rw [lockout]
  · exact .inr (.inr (.inr ⟨sooner, by rw [lockout]⟩))

theorem counted_recovers (before : LockoutView) (lockout : LockoutState) (counted : before.Counted lockout) :
    lockout.recoveryTime = before.lockout.recoveryTime ∧ lockout.maxTries = before.lockout.maxTries ∧
      lockout.nextRecovery = before.lockout.nextRecovery ∧
      before.lockout.failedTries.toNat ≤ lockout.failedTries.toNat := by
  rcases counted with rfl | rfl
  · exact ⟨rfl, rfl, rfl, Nat.le_refl _⟩
  · exact before.lockout.count_pending_failure_recovers

theorem bounded_of_restarted (bounded : guessing.Bounded maxTries recoveryTime)
    (unguessed : guessing.state.guesses event = 0) (stands : guessing.state.passed event = 0)
    (restarted : guessing.state.lockoutView.Restarted (guessing.state.after event).lockoutView) :
    (guessing.next event).Bounded maxTries recoveryTime := by
  obtain ⟨lockout, counted, moved⟩ := restarted
  obtain ⟨sameRecovery, sameMaximum, _, failedTries⟩ := counted_recovers _ _ counted
  have same := lockout_of_view _ _ moved
  have time := time_of_view _ _ moved
  have started := lockout.on_startup_recovers
  dsimp only at same time
  refine guessing.bounded_of_later maxTries recoveryTime event bounded unguessed stands ?_ ?_ ?_ ?_
  · rw [same]
    exact started.1.trans sameRecovery
  · rw [same]
    exact started.2.1.trans sameMaximum
  · rw [same, started.2.2.1]
    exact failedTries
  · change guessing.state.lockout.failedTries.toNat ≤ lockout.failedTries.toNat at failedTries
    change lockout.recoveryTime = guessing.state.lockout.recoveryTime at sameRecovery
    rcases Nat.eq_zero_or_pos guessing.state.lockout.failedTries.toNat with none | some
    · exact .inl none
    · refine .inr (.inr (.inl ?_))
      rw [same, time, started.2.2.2 (by omega), Paid.interval_of_same guessing.state.lockout lockout sameRecovery]
      simp

theorem bounded_of_half_restarted (bounded : guessing.Bounded maxTries recoveryTime)
    (unguessed : guessing.state.guesses event = 0) (stands : guessing.state.passed event = 0)
    (half : guessing.state.lockoutView.HalfRestarted (guessing.state.after event).lockoutView) :
    (guessing.next event).Bounded maxTries recoveryTime := by
  rcases half with same | ⟨lockout, counted, moved⟩
  · refine guessing.bounded_of_same maxTries recoveryTime event bounded unguessed stands (lockout_of_view _ _ same) ?_
    have time := time_of_view _ _ same
    exact le_of_eq (congrArg UInt64.toNat time)
  · obtain ⟨sameRecovery, sameMaximum, nextRecovery, failedTries⟩ := counted_recovers _ _ counted
    have same := lockout_of_view _ _ moved
    have time := time_of_view _ _ moved
    dsimp only at same time
    refine guessing.bounded_of_later maxTries recoveryTime event bounded unguessed stands ?_ ?_ ?_ ?_
    · rw [same]
      exact sameRecovery
    · rw [same]
      exact sameMaximum
    · rw [same]
      exact failedTries
    · refine .inr (.inr (.inr ⟨?_, ?_⟩))
      · rw [time]
        exact Nat.zero_le _
      · rw [same]
        exact nextRecovery

-- A failure that is no guess at a protected value, as the session key of a session that is not bound.
theorem bounded_of_refused (request : Request) (position : Nat) (attempt : Attempt)
    (bounded : guessing.Bounded maxTries recoveryTime)
    (unguessed : guessing.state.guesses event = 0) (stands : guessing.state.passed event = 0)
    (on : guessing.state.lockout.recoveryTime ≠ 0)
    (lockout : (guessing.state.after event).lockout = (penalize request position attempt guessing.state).lockout)
    (time : (guessing.state.after event).clock.time = guessing.state.clock.time) :
    (guessing.next event).Bounded maxTries recoveryTime := by
  have penalized := penalize_penalizes request position attempt guessing.state
  refine guessing.bounded_of_later maxTries recoveryTime event bounded unguessed stands ?_ ?_ ?_ ?_
  · exact (congrArg LockoutState.recoveryTime lockout).trans penalized.recoveryTime
  · exact (congrArg LockoutState.maxTries lockout).trans penalized.maxTries
  · rw [lockout]
    by_cases guarded : attempt.guarded = true
    · have more := (penalized.counted guarded on).1
      have bound := guessing.state.lockout.failedTries.toNat_lt
      omega
    · exact le_of_eq (congrArg UInt32.toNat (penalized.free (.inl (by simpa using guarded))).1.symm)
  · rw [lockout, time]
    by_cases guarded : attempt.guarded = true
    · have deadline := (penalized.counted guarded on).2
      omega
    · exact .inr (.inr (.inr ⟨Nat.le_refl _, (penalized.free (.inl (by simpa using guarded))).2⟩))

theorem bounded_next (bounded : guessing.Bounded maxTries recoveryTime) (running : recoveryTime ≠ 0)
    (leaves : LeavesLogic event) (counts : guessing.state.CountsGuesses event) :
    (guessing.next event).Bounded maxTries recoveryTime := by
  have moves := guessing.state.event_moves_lockout event
  have on : guessing.state.lockout.recoveryTime ≠ 0 := bounded.recoveryTime ▸ running
  cases moves with
  | quiet unrefused stands same =>
      have unguessed := guesses_of_unrefused _ _ counts.carries unrefused
      refine guessing.bounded_of_same maxTries recoveryTime event bounded unguessed stands (lockout_of_view _ _ same) ?_
      have time := time_of_view _ _ same
      exact le_of_eq (congrArg UInt64.toNat time)
  | initialized unrefused stands time sooner moved =>
      have unguessed := guesses_of_unrefused _ _ counts.carries unrefused
      refine guessing.bounded_of_same maxTries recoveryTime event bounded unguessed stands (lockout_of_view _ _ moved) ?_
      have now := time_of_view _ _ moved
      dsimp only at now
      rw [now]
      rcases sooner with rfl | rfl
      · exact Nat.zero_le _
      · exact Nat.le_refl _
  | elapsed millis time passing later passes moved =>
      have unguessed : guessing.state.guesses event = 0 := by
        rw [passing]
        rfl
      have lockout := lockout_of_view _ _ moved
      have now := time_of_view _ _ moved
      have runs := counts.time
      dsimp only at lockout now
      rw [now] at runs
      obtain ⟨count, recovers⟩ := guessing.state.lockout.on_time_recovers time runs
      obtain ⟨forgiven, paid⟩ := bounded.paid
      obtain ⟨more, paid⟩ := paid.pass _ _ _ _ _ _ time (UInt64.le_iff_toNat_le.mp later) count recovers on runs
      refine ⟨?_, ?_, more, ?_⟩
      · exact (congrArg LockoutState.maxTries lockout).trans (recovers.maxTries.trans bounded.maxTries)
      · exact (congrArg LockoutState.recoveryTime lockout).trans (recovers.recoveryTime.trans bounded.recoveryTime)
      · simp only [next, unguessed, passes, lockout, now, Nat.add_zero]
        exact paid
  | refused locality octets request position attempt sent ended moved =>
      have stands : guessing.state.passed event = 0 := by
        rw [sent]
        rfl
      have parsed : parse octets locality = .ok request := by
        obtain ⟨_, _, _, refused⟩ := refused_in _ locality octets request position attempt ended
        exact refused.parsed
      have noReset : request.code ≠ Cc.dictionaryAttackLockReset := fun same => by
        have named := is_command_of_parse locality octets request parsed
        rw [← sent, same, leaves.noReset] at named
        cases named
      have counted := guesses_of_refused guessing.state locality octets request position attempt (sent ▸ counts.carries) ended
      have penalized := penalize_penalizes request position attempt guessing.state
      have lockout := lockout_of_view _ _ moved
      have now := time_of_view _ _ moved
      rw [← sent] at counted
      -- A wrong guess adds a failed try and pays for it; any other refusal adds no guess.
      cases guessed : guessing.state.Guessed request position attempt with
      | true =>
          rw [guessed, if_pos rfl] at counted
          obtain ⟨guarded, below⟩ := guess_below_maximum _ locality octets request position attempt ended noReset guessed
          obtain ⟨failedTries, nextRecovery⟩ := penalized.counted guarded on
          have bound := guessing.state.lockout.maxTries.toNat_lt
          rw [UInt32.lt_iff_toNat_lt] at below
          obtain ⟨forgiven, paid⟩ := bounded.paid
          refine ⟨?_, ?_, forgiven, ?_⟩
          · exact (congrArg LockoutState.maxTries lockout).trans (penalized.maxTries.trans bounded.maxTries)
          · exact (congrArg LockoutState.recoveryTime lockout).trans (penalized.recoveryTime.trans bounded.recoveryTime)
          · simp only [next, counted, stands, lockout, now, Nat.add_zero]
            exact paid.guess _ _ _ _ _ _ penalized.recoveryTime penalized.maxTries below (by omega) nextRecovery
      | false =>
          rw [guessed] at counted
          exact guessing.bounded_of_refused maxTries recoveryTime event request position attempt bounded counted stands on
            lockout now
  | administered unrefused locality octets request sent parsed started authorized moved =>
      have unguessed := guesses_of_unrefused _ _ counts.carries unrefused
      have stands : guessing.state.passed event = 0 := by
        rw [sent]
        rfl
      have named := is_command_of_parse locality octets request parsed
      rw [← sent] at named
      cases moved with
      | quiet same =>
          refine guessing.bounded_of_same maxTries recoveryTime event bounded unguessed stands (lockout_of_view _ _ same) ?_
          have time := time_of_view _ _ same
          exact le_of_eq (congrArg UInt64.toNat time)
      | restarted startup restarted =>
          exact guessing.bounded_of_restarted maxTries recoveryTime event bounded unguessed stands restarted
      | halfRestarted startup half =>
          exact guessing.bounded_of_half_restarted maxTries recoveryTime event bounded unguessed stands half
      | cleared clear reset =>
          -- The three commands that give tries back are the ones such a run does not hold.
          rw [clear, leaves.noClear] at named
          cases named
      | lockReset code cleared =>
          rw [code, leaves.noReset] at named
          cases named
      | parameters code _ _ _ set =>
          rw [code, leaves.noParameters] at named
          cases named

theorem bounded_after_all (events : List Event) (bounded : guessing.Bounded maxTries recoveryTime)
    (running : recoveryTime ≠ 0) (leaves : ∀ event ∈ events, LeavesLogic event)
    (counts : guessing.state.EveryEvent CountsGuesses events) :
    (guessing.afterAll events).Bounded maxTries recoveryTime := by
  have every := every_of_view _ _ next state (fun _ _ => rfl) guessing events counts
  have leaving := every_of_all next (fun _ event => LeavesLogic event) guessing events fun _ event member => leaves event member
  exact invariant_of_every _ _ (·.Bounded maxTries recoveryTime) (fun guessing event ⟨leaves, counts⟩ bounded =>
    guessing.bounded_next maxTries recoveryTime event bounded running leaves counts) guessing events
    (every_and _ _ _ _ _ leaving every) bounded

end

end Guessing

section

variable [Primitives]

theorem protected_guesses_bounded (s : TpmState) (running : s.lockout.recoveryTime ≠ 0) (events : List Event)
    (leaves : ∀ event ∈ events, TpmState.LeavesLogic event) (counts : s.EveryEvent TpmState.CountsGuesses events) :
    ((⟨s, 0, 0⟩ : Guessing).afterAll events).guesses ≤
      s.lockout.maxTries.toNat + ((⟨s, 0, 0⟩ : Guessing).afterAll events).elapsed / s.lockout.interval + 1 := by
  have started : Guessing.Bounded ⟨s, 0, 0⟩ s.lockout.maxTries s.lockout.recoveryTime :=
    ⟨rfl, rfl, 0, (Nat.zero_mul _).le, Nat.zero_le _, .inl (Nat.le_refl _)⟩
  have ended := Guessing.bounded_after_all ⟨s, 0, 0⟩ _ _ events started running leaves counts
  generalize (⟨s, 0, 0⟩ : Guessing).afterAll events = guessing at ended
  obtain ⟨maxTries, recoveryTime, forgiven, paid⟩ := ended
  have interval : guessing.state.lockout.interval = s.lockout.interval := Paid.interval_of_same _ _ recoveryTime
  have positive : 0 < s.lockout.interval := by
    have some : s.lockout.recoveryTime.toNat ≠ 0 := fun zero => running (UInt32.toNat_inj.mp zero)
    unfold LockoutState.interval
    omega
  have rate := paid.rate
  rw [interval] at rate
  have forgave := (Nat.le_div_iff_mul_le positive).mpr rate
  have bounded := paid.bounded
  rw [maxTries] at bounded
  omega

end

namespace Toy

-- An HMAC session bound to lockoutAuth, and a command that only audits with it: each is one more guess.
def boundSession : Bytes :=
  plainCommand Cc.startAuthSession [Rh.null, Rh.lockout]
    (sized16 (List.replicate 16 1) ++ sized16 [] ++ [Se.hmac] ++ be16 Alg.null ++ be16 Alg.sha256)

def auditGuess : Bytes :=
  let area := be32 Hc.hmacSessionFirst ++ sized16 [] ++
    [SessionAttributes.audit ||| SessionAttributes.continueSession] ++ sized16 [9]
  let body := be32 (UInt32.ofNat area.length) ++ area ++ be16 8
  be16 St.sessions ++ be32 (UInt32.ofNat (headerSize + body.length)) ++ be32 Cc.getRandom ++ body

def auditGuesses : List Event := List.replicate 3 (.command 0 auditGuess)

-- One failure is allowed, and the session is bound before the interval begins.
def beforeAudit : List Event :=
  startupEvents ++ [.command 0 (parametersCommand 1 1000 1), .command 0 boundSession]

def lockoutAuthGuess : Bytes :=
  authorizedCommand Cc.hierarchyChangeAuth [Rh.lockout] [(Rh.rsPw, [9])] (sized16 [1])

theorem audit_session_guesses_are_free :
    ¬ ∀ seed s, TpmState.manufacture seed = .ok s → ∀ before events : List Event,
      (s.afterAll before).lockout.recoveryTime ≠ 0 → (∀ event ∈ events, TpmState.LeavesLogic event) →
      ((⟨s.afterAll before, 0, 0⟩ : Guessing).afterAll events).guesses ≤ (s.afterAll before).lockout.maxTries.toNat +
        ((⟨s.afterAll before, 0, 0⟩ : Guessing).afterAll events).elapsed / (s.afterAll before).lockout.interval + 1 := by
  have guessed : manufactured (fun s =>
      let t := s.afterAll beforeAudit
      let guessing := (⟨t, 0, 0⟩ : Guessing).afterAll auditGuesses
      t.lockout.recoveryTime != 0 &&
        decide (t.lockout.maxTries.toNat + guessing.elapsed / t.lockout.interval + 1 < guessing.guesses)) = true := by
    unfold manufactured
    rw [manufacture_made]
    decide +kernel
  obtain ⟨s, made, guessed⟩ := ok_of_found _ _ guessed
  simp only [Bool.and_eq_true, bne_iff_ne, ne_eq, decide_eq_true_eq] at guessed
  intro bounded
  have kept := bounded _ s made beforeAudit auditGuesses guessed.1 fun event member => by
    rw [List.eq_of_mem_replicate member]
    exact ⟨by decide +kernel, by decide +kernel, by decide +kernel⟩
  exact absurd kept (Nat.not_le.mpr guessed.2)

theorem password_guess_is_bounded : ((⟨booted, 0, 0⟩ : Guessing).afterAll [.command 0 lockoutAuthGuess]).guesses = 1 ∧
    ((⟨booted, 0, 0⟩ : Guessing).afterAll [.command 0 lockoutAuthGuess]).guesses ≤ booted.lockout.maxTries.toNat +
      ((⟨booted, 0, 0⟩ : Guessing).afterAll [.command 0 lockoutAuthGuess]).elapsed / booted.lockout.interval + 1 := by
  refine ⟨by decide +kernel, protected_guesses_bounded booted (by decide +kernel) [.command 0 lockoutAuthGuess] ?_ ?_⟩
  · intro event member
    rw [List.mem_singleton.mp member]
    exact ⟨by decide +kernel, by decide +kernel, by decide +kernel⟩
  · exact ⟨⟨by decide +kernel, by decide +kernel⟩, trivial⟩

end Toy

end Swtrust
