import Swtrust.Lockout.Rate
import Swtrust.Pin.Bound
import Swtrust.Policy.Monotone

set_option autoImplicit false
set_option linter.unusedSectionVars false

namespace Swtrust

open Library Action

namespace Session

-- The session may authorize for no longer than it could.
structure Sooner (before after : Session) : Prop where
  sameType : after.sessionType = before.sessionType
  sameEpoch : after.timeEpoch = before.timeEpoch
  expiration : Restricts (fun a b => a ≤ b) before.policy.expiration after.policy.expiration

theorem sooner_of_narrows (before after : Session) (narrowed : before.Narrows after) : before.Sooner after :=
  ⟨narrowed.sameType, narrowed.sameEpoch, narrowed.policy.expiration⟩

theorem sooner_trans (first middle last : Session) (earlier : first.Sooner middle) (later : middle.Sooner last) :
    first.Sooner last :=
  ⟨later.sameType.trans earlier.sameType, later.sameEpoch.trans earlier.sameEpoch,
    restricts_trans (fun a b => a ≤ b) (fun _ _ _ left right => UInt64.le_trans left right) _ _ _
      earlier.expiration later.expiration⟩

-- An assertion that does not touch the expiration.
theorem sooner_of_policy (session : Session) (policy : PolicyState)
    (same : policy.expiration = session.policy.expiration) : session.Sooner { session with policy } :=
  ⟨rfl, rfl, same ▸ restricts_refl _ (fun a => UInt64.le_refl a) _⟩

end Session

def SoonerAt (handle : UInt32) (slots slots' : SessionSlots) : Prop :=
  ∀ before, slots.get handle = .ok before → before.isTrial = false →
    ∃ after, slots'.get handle = .ok after ∧ before.Sooner after

theorem sooner_at_of_narrows (handle : UInt32) (slots slots' : SessionSlots) (narrowed : NarrowsAt handle slots slots') :
    SoonerAt handle slots slots' := by
  intro before held real
  obtain ⟨after, left, narrows⟩ := narrowed before held real
  exact ⟨after, left, Session.sooner_of_narrows before after narrows⟩

theorem sooner_at_put (handle other : UInt32) (slots : SessionSlots) (session session' : Session)
    (found : slots.get other = .ok session) (sooner : session.Sooner session') :
    SoonerAt handle slots (slots.put other session') := by
  intro before held real
  by_cases same : handle = other
  · rw [← same, held] at found
    obtain rfl := Except.ok.inj found
    exact ⟨session', same ▸ SessionSlots.get_put_same slots other session', sooner⟩
  · exact ⟨before, (SessionSlots.get_put_other slots other handle session' same).trans held,
      Session.sooner_of_narrows before before before.narrows_refl⟩

section

variable [Primitives]

theorem duplication_select_sooner (s : TpmState) (request : Request) (handle : UInt32) :
    Moves (SoonerAt handle) (policyDuplicationSelect s request) := by
  unfold policyDuplicationSelect
  repeat refine moves_after_lift _ _ _ fun _ _ => ?_
  intro slots reply slots' ran
  rw [succeeds_bind] at ran
  obtain ⟨u, middle, inner, ends⟩ := ran
  rw [succeeds_pure] at ends
  obtain ⟨session, session', found, _, asserted, rfl⟩ := succeeds_on_policy_session _ _ slots middle u inner
  rw [← ends.2]
  refine sooner_at_put handle _ slots session session' found ?_
  simp only [succeeds_bind, succeeds_get, succeeds_lift] at asserted
  obtain ⟨_, _, ⟨rfl, rfl⟩, _, _, ⟨_, rfl⟩, _, _, extended, set⟩ := asserted
  obtain ⟨digest, rfl⟩ := extend_policy_digest_only _ _ _ _ _ extended
  rw [succeeds_set_policy _ _ _ _ set]
  exact Session.sooner_of_policy _ _ rfl

theorem ac_send_select_sooner (request : Request) (handle : UInt32) :
    Moves (SoonerAt handle) (policyAcSendSelect request) := by
  unfold policyAcSendSelect
  repeat refine moves_after_lift _ _ _ fun _ _ => ?_
  intro slots reply slots' ran
  rw [succeeds_bind] at ran
  obtain ⟨u, middle, inner, ends⟩ := ran
  rw [succeeds_pure] at ends
  obtain ⟨session, session', found, _, asserted, rfl⟩ := succeeds_on_policy_session _ _ slots middle u inner
  rw [← ends.2]
  refine sooner_at_put handle _ slots session session' found ?_
  simp only [succeeds_bind, succeeds_get, succeeds_lift] at asserted
  obtain ⟨_, _, ⟨rfl, rfl⟩, _, _, ⟨_, rfl⟩, _, _, extended, _, _, ⟨_, rfl⟩, set⟩ := asserted
  obtain ⟨digest, rfl⟩ := extend_policy_digest_only _ _ _ _ _ extended
  rw [succeeds_set_policy _ _ _ _ set]
  exact Session.sooner_of_policy _ _ rfl

-- The two commands that overwrite a command code leave the expiration alone as well.
theorem policy_command_sooner (handle : UInt32) (request : Request) (s s' : TpmState) (reply : Reply)
    (policy : isPolicyCommand request.code = true) (noRestart : request.code ≠ Cc.policyRestart)
    (ran : Succeeds (runCommand request) s reply s') : SoonerAt handle s.sessions s'.sessions := by
  by_cases duplication : request.code = Cc.policyDuplicationSelect
  · rw [runCommand, duplication] at ran
    obtain ⟨response, inner⟩ := Handler.succeeds_plain request .policy policyDuplicationSelect s s' reply ran
    exact duplication_select_sooner s request handle _ _ _ (succeeds_policy_scope _ s s' response inner)
  · by_cases acSend : request.code = Cc.policyAcSendSelect
    · rw [runCommand, acSend] at ran
      obtain ⟨response, inner⟩ := Handler.succeeds_plain request .policy (fun _ request => policyAcSendSelect request)
        s s' reply ran
      exact ac_send_select_sooner request handle _ _ _ (succeeds_policy_scope _ s s' response inner)
    · have nothing : OverwritesNothing handle request s.sessions :=
        ⟨fun named => absurd named duplication, fun named => absurd named acSend⟩
      exact sooner_at_of_narrows handle _ _ (policy_command_narrows handle request s s' reply policy noRestart nothing ran)

theorem policy_step_sooner (handle : UInt32) (before after : Session) (s : TpmState) (request : Request)
    (executed : Executed) (s' : TpmState) (step : PolicyStep handle before after s request executed s')
    (real : before.isTrial = false) : before.Sooner after := by
  obtain ⟨handed, t, t', reply, code, _, sessions, ran, left⟩ :=
    policy_step_handled handle before after s request executed s' step
  have sooner := policy_command_sooner handle handed t t' reply (code ▸ step.policy) (code ▸ step.noRestart) ran
  obtain ⟨handled, found, kept⟩ := sooner before ((congrArg (·.get handle) sessions).trans step.held) real
  obtain rfl := Except.ok.inj (found.symm.trans left)
  exact kept

-- No policy command but PolicyRestart puts a limit off.
theorem policy_run_sooner (handle : UInt32) (allowed : Request → SessionSlots → Prop) (first last : Session)
    (run : PolicyRun handle allowed first last) (real : first.isTrial = false) : first.Sooner last := by
  induction run with
  | done session => exact Session.sooner_of_narrows session session session.narrows_refl
  | idle before middle after same _ ih =>
      have stillReal : middle.isTrial = false := by
        rw [Session.isTrial, same.sameType]
        exact real
      have kept := Session.sooner_of_narrows before middle (Session.narrows_of_same_policy before middle same)
      exact Session.sooner_trans before middle after kept (ih stillReal)
  | step before middle after s request executed s' step _ _ ih =>
      have sooner := policy_step_sooner handle before middle s request executed s' step real
      have stillReal : middle.isTrial = false := by
        rw [Session.isTrial, sooner.sameType]
        exact real
      exact Session.sooner_trans before middle after sooner (ih stillReal)

-- The session authorizes a command in the state `t`.
def Session.Authorizes (session : Session) (t : TpmState) : Prop :=
  ∃ request index entity cp input u t', request.sessionAt index = .ok input ∧ input.handle ≠ Rh.rsPw ∧
    t.sessions.get input.handle = .ok session ∧ Succeeds (TpmState.checkAuthorization request index entity cp) t u t'

theorem authorizes_in_time (session : Session) (t : TpmState) (limit : UInt64) (policy : session.isPolicy = true)
    (limited : session.policy.expiration = some limit) (authorizes : session.Authorizes t) :
    session.timeEpoch = t.clock.timeEpoch ∧ t.clock.time ≤ limit := by
  obtain ⟨request, index, entity, cp, input, u, t', given, notPassword, held, accepted⟩ := authorizes
  obtain ⟨attempt, judged, _⟩ := TpmState.succeeds_check_authorization request index entity cp t t' u accepted
  have facts := t.attempt_of_policy_session request index entity cp input session attempt given notPassword held
    policy judged
  have expiration := facts.assertions.expiration
  unfold TpmState.checkExpiration at expiration
  rw [limited] at expiration
  obtain ⟨fresh, _⟩ := (refused_is_ok _ _ _ _).mp expiration
  rw [not_or, not_not] at fresh
  exact ⟨fresh.1, UInt64.not_lt.mp fresh.2⟩

theorem timeout_is_read (word : UInt64) : timeoutValue (be64 word) = some (word &&& ~~~expiresOnReset) := by
  have value : beNat (be64 word) = word.toNat :=
    be_nat_be_bytes_of_lt 8 word.toNat (lt_of_lt_of_eq word.toNat_lt (by decide))
  unfold timeoutValue
  rw [if_neg (by simp), value, UInt64.ofNat_toNat]

theorem without_reset_le (word : UInt64) : (word &&& ~~~expiresOnReset).toNat ≤ word.toNat := by
  rw [UInt64.toNat_and]
  exact Nat.and_le_left

theorem reset_flag_dropped (word : UInt64) :
    (word ||| expiresOnReset) &&& ~~~expiresOnReset = word &&& ~~~expiresOnReset := by
  apply UInt64.eq_of_toBitVec_eq
  simp only [UInt64.toBitVec_and, UInt64.toBitVec_or, UInt64.toBitVec_not]
  ext i h
  simp only [BitVec.getElem_and, BitVec.getElem_or, BitVec.getElem_not]
  cases word.toBitVec[i] <;> cases expiresOnReset.toBitVec[i] <;> rfl

-- The milliseconds that a negative expiration stands for.
def expiryMillis (expiration : UInt32) : Nat := (0 - expiration).toNat * 1000

theorem expiry_millis (expiration : UInt32) : ((0 - expiration).toUInt64 * 1000).toNat = expiryMillis expiration := by
  have small := (0 - expiration).toNat_lt
  unfold expiryMillis
  rw [UInt64.toNat_mul, UInt32.toNat_toUInt64]
  exact Nat.mod_eq_of_lt (by change _ * 1000 < 18446744073709551616; omega)

-- The limit that an expiration stands for: absolute, unless a nonce ties it to the start of the session.
theorem authorization_timeout_limit (start : UInt64) (expiration : UInt32) (withoutNonce : Bool)
    (expires : isNegative expiration = true) :
    ∃ limit, timeoutValue (authorizationTimeout start expiration withoutNonce) = some limit ∧
      limit.toNat ≤ (if withoutNonce then 0 else start.toNat) + expiryMillis expiration := by
  unfold authorizationTimeout
  rw [if_neg (by simp [expires]), timeout_is_read]
  refine ⟨_, rfl, ?_⟩
  cases withoutNonce with
  | true =>
      rw [if_pos rfl, if_pos rfl, reset_flag_dropped, Nat.zero_add, ← expiry_millis]
      exact without_reset_le _
  | false =>
      rw [if_neg (by simp), if_neg (by simp), ← expiry_millis]
      refine le_trans (without_reset_le _) ?_
      rw [sat_add_to_nat]
      exact Nat.min_le_left _ _

theorem ticket_timeout_limit (timeout : Bytes) (whole : timeout.length = 8) :
    ∃ limit, timeoutValue timeout = some limit ∧ limit.toNat = beNat timeout % 2 ^ 63 := by
  have small : beNat timeout < 18446744073709551616 := by
    have below := be_nat_lt timeout
    rw [whole] at below
    exact lt_of_lt_of_eq below (by decide)
  unfold timeoutValue
  rw [if_neg (by simp [whole])]
  refine ⟨_, rfl, ?_⟩
  rw [UInt64.toNat_and, UInt64.toNat_ofNat_of_lt' small, show (~~~expiresOnReset).toNat = 2 ^ 63 - 1 from rfl,
    Nat.and_two_pow_sub_one_eq_mod]

-- The common end of the three commands.
def recordLimit (commandCode : UInt32) (cpHashA authName policyRef timeout : Bytes) : Action TpmRc Session Unit := do
  checkCpHash (← get) cpHashA
  policyAuthorizationUpdate commandCode authName policyRef
  setCpHash cpHashA
  recordExpiration timeout

-- The session with what an authorization recorded of its limit.
structure Limited (timeout : Bytes) (before after : Session) : Prop where
  policy : before.isPolicy = true
  sameType : after.sessionType = before.sessionType
  sameEpoch : after.timeEpoch = before.timeEpoch
  expiration : after.policy.expiration = (before.policy.withExpiration timeout).expiration

theorem limit_recorded (commandCode : UInt32) (cpHashA authName policyRef timeout : Bytes)
    (session session' : Session) (u : Unit) (policy : session.isPolicy = true)
    (ran : Succeeds (recordLimit commandCode cpHashA authName policyRef timeout) session u session') :
    Limited timeout session session' := by
  unfold recordLimit at ran
  simp only [succeeds_bind, succeeds_get, succeeds_lift] at ran
  obtain ⟨_, _, ⟨rfl, rfl⟩, _, _, ⟨_, rfl⟩, _, _, updated, _, _, recorded, expiring⟩ := ran
  obtain ⟨digest, rfl⟩ := policy_authorization_update_digest_only _ _ _ _ _ _ updated
  rw [setCpHash] at recorded
  rw [recordExpiration] at expiring
  rw [succeeds_set_policy _ _ _ _ recorded] at expiring
  rw [succeeds_set_policy _ _ _ _ expiring]
  refine ⟨policy, rfl, rfl, ?_⟩
  unfold PolicyState.withExpiration
  cases timeoutValue timeout with
  | none =>
      dsimp only
      split
      · rfl
      · rfl
  | some expires =>
      dsimp only
      split
      · rfl
      · rfl

theorem limit_recorded_at (handle commandCode : UInt32) (cpHashA authName policyRef timeout : Bytes)
    (slots slots' : SessionSlots) (before : Session) (u : Unit) (found : slots.get handle = .ok before)
    (ran : Succeeds (onPolicySession handle (recordLimit commandCode cpHashA authName policyRef timeout)) slots u slots') :
    ∃ after, slots'.get handle = .ok after ∧ Limited timeout before after := by
  obtain ⟨session, session', held, policy, inner, rfl⟩ := succeeds_on_policy_session handle _ slots slots' u ran
  rw [found] at held
  obtain rfl := Except.ok.inj held
  exact ⟨session', SessionSlots.get_put_same slots handle session',
    limit_recorded commandCode cpHashA authName policyRef timeout before session' u policy inner⟩

-- The limit stands in the session, and no command is authorized by the session after it.
structure Records (handle : UInt32) (limit : Nat) (before after : Session) : Prop where
  recorded : ∃ expiration, after.policy.expiration = some expiration ∧ expiration.toNat ≤ limit ∧
    ∀ old, before.policy.expiration = some old → expiration ≤ old
  expires : ∀ allowed last t, PolicyRun handle allowed after last → last.Authorizes t →
    after.timeEpoch = t.clock.timeEpoch ∧ t.clock.time.toNat ≤ limit

theorem records_of_expiration (handle : UInt32) (limit : Nat) (before after : Session) (policy : after.isPolicy = true)
    (real : after.isTrial = false) (expiration : UInt64) (stands : after.policy.expiration = some expiration)
    (early : expiration.toNat ≤ limit) (lowered : ∀ old, before.policy.expiration = some old → expiration ≤ old) :
    Records handle limit before after := by
  refine ⟨⟨expiration, stands, early, lowered⟩, fun allowed last t run authorizes => ?_⟩
  have sooner := policy_run_sooner handle allowed after last run real
  obtain ⟨earlier, kept, below⟩ := sooner.expiration expiration stands
  have stillPolicy : last.isPolicy = true := by
    rw [Session.isPolicy, sooner.sameType]
    exact policy
  obtain ⟨fresh, inTime⟩ := authorizes_in_time last t earlier stillPolicy kept authorizes
  refine ⟨sooner.sameEpoch ▸ fresh, ?_⟩
  have first : t.clock.time.toNat ≤ earlier.toNat := inTime
  have second : earlier.toNat ≤ expiration.toNat := below
  omega

section

variable (handle : UInt32) (limit : Nat) (before after : Session) (timeout : Bytes)
  (limited : Limited timeout before after)

include limited

theorem limited_is_policy : after.isPolicy = true := by
  rw [Session.isPolicy, limited.sameType]
  exact limited.policy

theorem limited_is_real (real : before.isTrial = false) : after.isTrial = false := by
  rw [Session.isTrial, limited.sameType]
  exact real

theorem records_of_timeout (real : before.isTrial = false) (expires : UInt64)
    (read : timeoutValue timeout = some expires) (early : expires.toNat ≤ limit) : Records handle limit before after := by
  have policy := limited_is_policy before after timeout limited
  have stillReal := limited_is_real before after timeout limited real
  have stands := limited.expiration
  unfold PolicyState.withExpiration at stands
  rw [read] at stands
  cases recorded : before.policy.expiration with
  | none =>
      simp only [recorded, Option.map_none, Option.getD_none] at stands
      refine records_of_expiration handle limit before after policy stillReal expires stands early fun old held => ?_
      rw [recorded] at held
      cases held
  | some old =>
      simp only [recorded, Option.map_some, Option.getD_some] at stands
      refine records_of_expiration handle limit before after policy stillReal (min old expires) stands ?_ ?_
      · have below : (min old expires).toNat ≤ expires.toNat := by
          change (if old ≤ expires then old else expires).toNat ≤ expires.toNat
          split
          next sooner => exact sooner
          next => exact le_refl _
        omega
      · intro other held
        rw [recorded] at held
        obtain rfl := Option.some.inj held
        exact PolicyState.limit_min_le old expires

-- A timeout that is not one of a limit leaves the session as it was limited before.
theorem records_unread (real : before.isTrial = false) (unread : timeoutValue timeout = none) :
    Records handle limit before after ↔ ∃ old, before.policy.expiration = some old ∧ old.toNat ≤ limit := by
  have stands := limited.expiration
  unfold PolicyState.withExpiration at stands
  rw [unread] at stands
  constructor
  · rintro ⟨⟨expiration, held, early, _⟩, _⟩
    exact ⟨expiration, stands ▸ held, early⟩
  · rintro ⟨old, recorded, early⟩
    refine records_of_expiration handle limit before after (limited_is_policy before after timeout limited)
      (limited_is_real before after timeout limited real) old (stands.trans recorded) early fun other held => ?_
    rw [recorded] at held
    obtain rfl := Option.some.inj held
    exact UInt64.le_refl old

end

end

-- The commands by which an authorization is recorded on a policy session.
inductive LimitedAuthorization where
  | policySigned
  | policySecret
  | policyTicket

def Authorization.limit (a : Authorization) (session : Session) : Option Nat :=
  if isNegative a.expiration then
    some ((if a.nonceTpm.isEmpty then 0 else session.startTime.toNat) + expiryMillis a.expiration)
  else none

-- The top bit of a timeout is the flag that it expires on a TPM Reset.
def TicketUse.limit (use : TicketUse) : Option Nat :=
  if use.timeout.isEmpty then none else some (beNat use.timeout.buffer % 2 ^ 63)

def readOk {α β : Type} (result : TpmResult α) (next : α → Option β) : Option β :=
  match result with
  | .ok a => next a
  | .error _ => none

namespace LimitedAuthorization

section

variable [Primitives] (s : TpmState) (request : Request)

def run : LimitedAuthorization → PolicyM Reply
  | policySigned => Swtrust.policySigned s request
  | policySecret => Swtrust.policySecret s request
  | policyTicket => Response.reply <$> Swtrust.policyTicket s request

def session : LimitedAuthorization → TpmResult UInt32
  | policyTicket => request.handle 0
  | _ => request.handle 1

def limit (session : Session) : LimitedAuthorization → Option Nat
  | policySigned => readOk (request.params do
      let a ← Authorization.unmarshal
      return (a, ← Reader.withParameter 5 TpmtSignature.unmarshal)) fun read => read.1.limit session
  | policySecret => readOk (request.params Authorization.unmarshal) fun a => a.limit session
  | policyTicket => readOk (request.params TicketUse.unmarshal) TicketUse.limit

-- The two ways in which a limit is not read from the timeout.
def drops : LimitedAuthorization → Bool
  | policySigned => false
  | policySecret => (readOk (request.handle 0) fun entity => some (isPinPass s entity)).getD false
  | policyTicket => (readOk (request.params TicketUse.unmarshal) fun use =>
      some (use.timeout.buffer.length != 8)).getD false

theorem read_ok {α β : Type} (result : TpmResult α) (next : α → Option β) (b : β) (found : readOk result next = some b) :
    ∃ a, result = .ok a ∧ next a = some b := by
  unfold readOk at found
  cases result with
  | ok a => exact ⟨a, rfl, found⟩
  | error e => cases found

theorem authorization_limit (a : Authorization) (before : Session) (limit : Nat) (given : a.limit before = some limit) :
    isNegative a.expiration = true ∧
      limit = (if a.nonceTpm.isEmpty then 0 else before.startTime.toNat) + expiryMillis a.expiration := by
  unfold Authorization.limit at given
  by_cases negative : isNegative a.expiration = true
  · rw [if_pos negative] at given
    exact ⟨negative, (Option.some.inj given).symm⟩
  · rw [if_neg negative] at given
    cases given

theorem policy_session_is (handle : UInt32) (session before : Session) (held : s.sessions.get handle = .ok before)
    (asked : s.policySession handle = .ok session) : session = before := by
  simp only [TpmState.policySession, bind_is_ok, withHandle, map_error_is_ok, guarded_then_is_ok, pure_is_ok] at asked
  obtain ⟨_, found, _, rfl⟩ := asked
  rw [held] at found
  exact (Except.ok.inj found).symm

section

variable (handle : UInt32) (before : Session) (held : s.sessions.get handle = .ok before)
  (real : before.isTrial = false) (limit : Nat) (reply : Reply) (slots' : SessionSlots)

include held real

theorem policy_signed_limit (named : policySigned.session request = .ok handle)
    (given : policySigned.limit request before = some limit)
    (ran : Succeeds (policySigned.run s request) s.sessions reply slots') :
    ∃ after, slots'.get handle = .ok after ∧ Records handle limit before after := by
  obtain ⟨⟨a, signature⟩, read, given⟩ := read_ok _ _ _ given
  obtain ⟨negative, rfl⟩ := authorization_limit a before limit given
  simp only [run, Swtrust.policySigned, succeeds_bind, succeeds_lift] at ran
  obtain ⟨_, _, ⟨_, rfl⟩, other, _, ⟨same, rfl⟩, _, _, ⟨again, rfl⟩, authName, _, ⟨_, rfl⟩, session, _, ⟨asked, rfl⟩,
    _, _, ⟨_, rfl⟩, _, _, ⟨_, rfl⟩, _, _, ⟨_, rfl⟩, _, _, recorded, _, rfl⟩ := ran
  obtain rfl := Except.ok.inj (same.symm.trans named)
  obtain rfl := Except.ok.inj (read.symm.trans again)
  obtain rfl := policy_session_is s other session before held asked
  obtain ⟨after, left, limited⟩ := limit_recorded_at other _ _ _ _ _ _ _ session _ held recorded
  dsimp only at limited
  rw [if_pos negative] at limited
  obtain ⟨expires, value, early⟩ :=
    authorization_timeout_limit session.startTime a.expiration a.nonceTpm.isEmpty negative
  exact ⟨after, left, records_of_timeout other _ session after _ limited real expires value early⟩

theorem policy_secret_limit (named : policySecret.session request = .ok handle)
    (given : policySecret.limit request before = some limit)
    (ran : Succeeds (policySecret.run s request) s.sessions reply slots') :
    ∃ after, slots'.get handle = .ok after ∧ (Records handle limit before after ↔
      policySecret.drops s request = false ∨ ∃ old, before.policy.expiration = some old ∧ old.toNat ≤ limit) := by
  obtain ⟨a, read, given⟩ := read_ok _ _ _ given
  obtain ⟨negative, rfl⟩ := authorization_limit a before limit given
  simp only [run, Swtrust.policySecret, succeeds_bind, succeeds_lift] at ran
  obtain ⟨entity, _, ⟨asks, rfl⟩, other, _, ⟨same, rfl⟩, _, _, ⟨again, rfl⟩, authName, _, ⟨_, rfl⟩, _, _, ⟨_, rfl⟩,
    _, _, ⟨_, rfl⟩, session, _, ⟨asked, rfl⟩, _, _, ⟨_, rfl⟩, _, _, ⟨_, rfl⟩, _, _, ⟨_, rfl⟩, _, _, recorded, _, rfl⟩ := ran
  obtain rfl := Except.ok.inj (same.symm.trans named)
  obtain rfl := Except.ok.inj (read.symm.trans again)
  obtain rfl := policy_session_is s other session before held asked
  obtain ⟨after, left, limited⟩ := limit_recorded_at other _ _ _ _ _ _ _ session _ held recorded
  refine ⟨after, left, ?_⟩
  have dropped : policySecret.drops s request = isPinPass s entity := by simp [drops, asks, readOk]
  rw [if_pos negative] at limited
  rw [dropped]
  by_cases pass : isPinPass s entity = true
  · rw [if_pos pass] at limited
    rw [records_unread other _ session after [] limited real rfl]
    simp [pass]
  · rw [if_neg pass] at limited
    obtain ⟨expires, value, early⟩ :=
      authorization_timeout_limit session.startTime a.expiration a.nonceTpm.isEmpty negative
    have records := records_of_timeout other _ session after _ limited real expires value early
    simp [pass, records]

theorem policy_ticket_limit (named : policyTicket.session request = .ok handle)
    (given : policyTicket.limit request before = some limit)
    (ran : Succeeds (policyTicket.run s request) s.sessions reply slots') :
    ∃ after, slots'.get handle = .ok after ∧ (Records handle limit before after ↔
      policyTicket.drops s request = false ∨ ∃ old, before.policy.expiration = some old ∧ old.toNat ≤ limit) := by
  obtain ⟨use, read, given⟩ := read_ok _ _ _ given
  unfold TicketUse.limit at given
  split at given
  next => cases given
  next =>
    obtain rfl := Option.some.inj given
    simp only [run, Swtrust.policyTicket, succeeds_map, succeeds_bind, succeeds_lift] at ran
    obtain ⟨_, ⟨other, _, ⟨same, rfl⟩, _, _, ⟨again, rfl⟩, session, _, ⟨asked, rfl⟩, _, _, ⟨_, rfl⟩, _, _, recorded, ends⟩,
      _⟩ := ran
    obtain ⟨_, rfl⟩ := (succeeds_pure _ _ _ _).mp ends
    obtain rfl := Except.ok.inj (same.symm.trans named)
    obtain rfl := Except.ok.inj (read.symm.trans again)
    obtain rfl := policy_session_is s other session before held asked
    obtain ⟨after, left, limited⟩ := limit_recorded_at other _ _ _ _ _ _ _ session _ held recorded
    refine ⟨after, left, ?_⟩
    have dropped : policyTicket.drops s request = (use.timeout.buffer.length != 8) := by simp [drops, read, readOk]
    rw [dropped]
    by_cases whole : use.timeout.buffer.length = 8
    · obtain ⟨expires, value, same⟩ := ticket_timeout_limit use.timeout.buffer whole
      have records := records_of_timeout other _ session after _ limited real expires value same.le
      exact ⟨fun _ => .inl (by simp [whole]), fun _ => records⟩
    · have unread : timeoutValue use.timeout.buffer = none := by
        unfold timeoutValue
        rw [if_pos whole]
      rw [records_unread other _ session after _ limited real unread]
      simp [whole]

-- A limit is lost only on a PIN Pass Index, or on a timeout that the TPM never gave out.
theorem expiration_recorded (kind : LimitedAuthorization) (named : kind.session request = .ok handle)
    (given : kind.limit request before = some limit) (ran : Succeeds (kind.run s request) s.sessions reply slots') :
    ∃ after, slots'.get handle = .ok after ∧ (Records handle limit before after ↔
      kind.drops s request = false ∨ ∃ old, before.policy.expiration = some old ∧ old.toNat ≤ limit) := by
  cases kind with
  | policySigned =>
      obtain ⟨after, left, records⟩ := policy_signed_limit s request handle before held real limit reply slots' named
        given ran
      exact ⟨after, left, by simp [records, drops]⟩
  | policySecret => exact policy_secret_limit s request handle before held real limit reply slots' named given ran
  | policyTicket => exact policy_ticket_limit s request handle before held real limit reply slots' named given ran

end

end

end LimitedAuthorization

namespace Toy

-- A PIN Pass Index and a policy session.
def pinPolicy : TpmState := afterCommands [startSession Se.policy] (pinned Nt.pinPass)

-- TPM2_PolicySecret with no nonce and an expiration of minus one second.
def secretForOneSecond (entity : UInt32) : Request :=
  requestOf (authorizedCommand Cc.policySecret [entity, policyHandle] [(Rh.rsPw, [])]
    (sized16 [] ++ sized16 [] ++ sized16 [] ++ be32 (0 - 1)))

theorem policy_session_limited (entity : UInt32)
    (made : found (pinPolicy.sessions.get policyHandle) (fun session => !session.isTrial &&
      session.policy.expiration.isNone &&
      LimitedAuthorization.policySecret.limit (secretForOneSecond entity) session == some 1000) = true) :
    ∃ session, pinPolicy.sessions.get policyHandle = .ok session ∧ session.isTrial = false ∧
      session.policy.expiration = none ∧
      LimitedAuthorization.policySecret.limit (secretForOneSecond entity) session = some 1000 := by
  obtain ⟨session, held, tested⟩ := ok_of_found _ _ made
  simp only [Bool.and_eq_true, Bool.not_eq_true', Option.isNone_iff_eq_none, beq_iff_eq] at tested
  exact ⟨session, held, tested.1.1, tested.1.2, tested.2⟩

theorem pin_pass_drops_limit : ¬ ∀ (s : TpmState) (request : Request) (handle : UInt32) (before : Session) (limit : Nat)
    (reply : Reply) (slots' : SessionSlots) (kind : LimitedAuthorization), s.sessions.get handle = .ok before →
    before.isTrial = false → kind.session request = .ok handle → kind.limit request before = some limit →
    Succeeds (kind.run s request) s.sessions reply slots' →
    ∃ after, slots'.get handle = .ok after ∧ Records handle limit before after := by
  intro always
  obtain ⟨before, held, real, _, given⟩ := policy_session_limited pinHandle (by decide +kernel)
  obtain ⟨reply, slots', ran, unlimited⟩ := succeeds_of_ends_with
    (LimitedAuthorization.policySecret.run pinPolicy (secretForOneSecond pinHandle)) pinPolicy.sessions
    (fun _ slots => found (slots.get policyHandle) fun session => session.policy.expiration.isNone) (by decide +kernel)
  obtain ⟨session, left, none⟩ := ok_of_found _ _ unlimited
  obtain ⟨after, same, records⟩ := always pinPolicy (secretForOneSecond pinHandle) policyHandle before 1000 reply slots'
    .policySecret held real (by decide +kernel) given ran
  obtain rfl := Except.ok.inj (left.symm.trans same)
  obtain ⟨expiration, recorded, _⟩ := records.recorded
  rw [recorded] at none
  cases none

theorem owner_secret_is_limited : ∃ before after, ∃ slots' : SessionSlots, pinPolicy.sessions.get policyHandle = .ok before ∧
    slots'.get policyHandle = .ok after ∧ Records policyHandle 1000 before after := by
  obtain ⟨before, held, real, _, given⟩ := policy_session_limited Rh.owner (by decide +kernel)
  obtain ⟨reply, slots', ran, _⟩ := succeeds_of_ends_with
    (LimitedAuthorization.policySecret.run pinPolicy (secretForOneSecond Rh.owner)) pinPolicy.sessions
    (fun _ _ => true) (by decide +kernel)
  obtain ⟨after, left, records⟩ := LimitedAuthorization.expiration_recorded pinPolicy (secretForOneSecond Rh.owner)
    policyHandle before held real 1000 reply slots' .policySecret (by decide +kernel) given ran
  exact ⟨before, after, slots', held, left, records.mpr (.inl (by decide +kernel))⟩

end Toy

end Swtrust
