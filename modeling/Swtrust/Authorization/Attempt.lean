import Swtrust.Commands.Authorization

set_option autoImplicit false
set_option linter.unusedSectionVars false

namespace Swtrust

open Library Action Handles

-- What an authorization compares: a password, or an HMAC whose key may hold the authValue of the entity.
inductive AuthForm where
  | password | hmac | policyPassword | policyAuthValue | policyKey
  deriving DecidableEq

structure Attempt where
  form : AuthForm
  guarded : Bool
  accepted : Bool
  deriving DecidableEq

namespace TpmState

section

variable [Primitives]

def attemptPassword (s : TpmState) (form : AuthForm) (index : Nat) (entity : Entity) (input : SessionInput)
    (guarded : Bool) : TpmResult Attempt := do
  withSession (index + 1) (s.checkPinAvailable entity)
  return ⟨form, guarded, trimAuth input.hmac == trimAuth entity.auth⟩

def attemptPolicy (s : TpmState) (request : Request) (index : Nat) (entity : Entity) (cp : Bytes)
    (input : SessionInput) (session : Session) (guarded : Bool) : TpmResult Attempt := do
  checkPolicyDigest entity session (index + 1)
  s.checkAssertions request (index + 1) cp session
  if session.policy.passwordNeeded then s.attemptPassword .policyPassword index entity input guarded
  else
    let key := session.hmacKey entity.name entity.auth
    let expected ← s.expectedHmac request index input session key cp
    if session.policy.authValueNeeded then
      withSession (index + 1) (s.checkPinAvailable entity)
      return ⟨.policyAuthValue, guarded, authHmacAccepted key expected input.hmac⟩
    else return ⟨.policyKey, guarded, authHmacAccepted key expected input.hmac⟩

def attemptHmac (s : TpmState) (request : Request) (index : Nat) (entity : Entity) (cp : Bytes)
    (input : SessionInput) (session : Session) (guarded : Bool) : TpmResult Attempt := do
  let key := session.hmacKey entity.name entity.auth
  let expected ← s.expectedHmac request index input session key cp
  withSession (index + 1) (s.checkPinAvailable entity)
  return ⟨.hmac, guarded, authHmacAccepted key expected input.hmac⟩

-- Everything `check_authorization` does before it compares, and the outcome of the comparison.
def attempt (s : TpmState) (request : Request) (index : Nat) (entity : Entity) (cp : Bytes) : TpmResult Attempt := do
  let input ← request.sessionAt index
  let guarded := s.daProtected input entity
  let role := role request.code index
  s.checkLockout request index input guarded
  s.checkNvAuthorizationAvailable request index role
  if input.handle = Rh.rsPw then
    checkRoleAllowsAuthValue role entity (index + 1)
    if !entity.userWithAuth then throw (Rc.policyFail.withSession (index + 1))
    s.attemptPassword .password index entity input guarded
  else
    let session ← s.sessions.get input.handle
    if session.isTrial then throw (Rc.authType.withSession (index + 1))
    if session.isPolicy then
      if (role = .admin ∨ role = .dup) ∧ session.policy.commandCode ≠ some request.code then
        throw (Rc.policyFail.withSession (index + 1))
      s.attemptPolicy request index entity cp input session guarded
    else
      checkRoleAllowsAuthValue role entity (index + 1)
      if !entity.userWithAuth then throw (Rc.policyFail.withSession (index + 1))
      s.attemptHmac request index entity cp input session guarded

-- What the outcome changes, form by form in the order of the source.
def settle (request : Request) (index : Nat) (entity : Entity) (attempt : Attempt) : TpmM Unit :=
  match attempt.form with
  | .password | .policyPassword => do
    if !attempt.accepted then
      if request.names index Rh.lockout then modify recordLockoutFailure
      modify (·.recordFailure attempt.guarded)
    pinAttempt entity attempt.accepted
    if !attempt.accepted then throw ((failureCode attempt.guarded).withSession (index + 1))
  | .hmac => do
    pinAttempt entity attempt.accepted
    if !attempt.accepted then refuse (request.names index Rh.lockout) attempt.guarded (index + 1)
  | .policyAuthValue => do
    pinAttempt entity attempt.accepted
    if !attempt.accepted then refuse false attempt.guarded (index + 1)
  | .policyKey => if !attempt.accepted then refuse false attempt.guarded (index + 1) else pure ()

def settled (request : Request) (index : Nat) (entity : Entity) (attempt : TpmResult Attempt) : TpmM Unit := fun s =>
  match attempt with
  | .error e => .error e s
  | .ok attempt => settle request index entity attempt s

-- In the state `s` the code ends as its judgement says.
def Follows (s : TpmState) (request : Request) (index : Nat) (entity : Entity) (action : TpmM Unit)
    (result : TpmResult Attempt) : Prop :=
  action s = settled request index entity result s

section

variable {α β : Type} (s : TpmState) (request : Request) (index : Nat) (entity : Entity)

theorem follows_lift (result : TpmResult α) (next : α → TpmM Unit) (judge : α → TpmResult Attempt)
    (rest : ∀ a, s.Follows request index entity (next a) (judge a)) :
    s.Follows request index entity (liftM result >>= next) (result >>= judge) := by
  cases result with
  | error e => rfl
  | ok a => exact rest a

theorem follows_guard (c : Prop) [Decidable c] (e : TpmRc) (next : α → TpmM Unit) (judge : β → TpmResult Attempt)
    (action : TpmM Unit) (result : TpmResult Attempt) (rest : s.Follows request index entity action result) :
    s.Follows request index entity (if c then throw e >>= next else action) (if c then throw e >>= judge else result) := by
  by_cases holds : c
  · rw [if_pos holds, if_pos holds]
    rfl
  · rw [if_neg holds, if_neg holds]
    exact rest

theorem follows_ite (c : Prop) [Decidable c] (yes no : TpmM Unit) (judgeYes judgeNo : TpmResult Attempt)
    (left : c → s.Follows request index entity yes judgeYes)
    (right : ¬ c → s.Follows request index entity no judgeNo) :
    s.Follows request index entity (if c then yes else no) (if c then judgeYes else judgeNo) := by
  by_cases holds : c
  · rw [if_pos holds, if_pos holds]
    exact left holds
  · rw [if_neg holds, if_neg holds]
    exact right holds

variable (input : SessionInput) (session : Session) (guarded : Bool) (cp : Bytes)

theorem compare_password_follows (form : AuthForm) (either : form = .password ∨ form = .policyPassword) :
    s.Follows request index entity (comparePassword request index entity input guarded)
      (s.attemptPassword form index entity input guarded) := by
  refine s.follows_lift request index entity _ _ _ fun _ => ?_
  rcases either with rfl | rfl <;> rfl

theorem check_hmac_follows :
    s.Follows request index entity (checkHmac request index entity cp input session guarded)
      (s.attemptHmac request index entity cp input session guarded) := by
  refine s.follows_lift request index entity _ _ _ fun _ => ?_
  exact s.follows_lift request index entity _ _ _ fun _ => rfl

theorem check_policy_follows :
    s.Follows request index entity (checkPolicy request index entity cp input session guarded)
      (s.attemptPolicy request index entity cp input session guarded) := by
  refine s.follows_lift request index entity _ _ _ fun _ => ?_
  refine s.follows_lift request index entity _ _ _ fun _ => ?_
  refine s.follows_ite request index entity _ _ _ _ _ (fun _ => ?_) fun _ => ?_
  · exact s.compare_password_follows request index entity input guarded .policyPassword (.inr rfl)
  · refine s.follows_lift request index entity _ _ _ fun _ => ?_
    cases session.policy.authValueNeeded with
    | true => exact s.follows_lift request index entity _ _ _ fun _ => rfl
    | false =>
        simp only [Bool.false_eq_true, if_false]
        rfl

theorem check_authorization_follows :
    s.Follows request index entity (checkAuthorization request index entity cp)
      (s.attempt request index entity cp) := by
  refine s.follows_lift request index entity _ _ _ fun _ => ?_
  refine s.follows_lift request index entity _ _ _ fun _ => ?_
  refine s.follows_lift request index entity _ _ _ fun _ => ?_
  refine s.follows_ite request index entity _ _ _ _ _ (fun _ => ?_) fun _ => ?_
  · refine s.follows_lift request index entity _ _ _ fun _ => ?_
    refine s.follows_guard request index entity _ _ _ _ _ _ ?_
    exact s.compare_password_follows request index entity _ _ .password (.inl rfl)
  · refine s.follows_lift request index entity _ _ _ fun session => ?_
    refine s.follows_guard request index entity _ _ _ _ _ _ ?_
    refine s.follows_ite request index entity _ _ _ _ _ (fun _ => ?_) fun _ => ?_
    · refine s.follows_guard request index entity _ _ _ _ _ _ ?_
      exact s.check_policy_follows request index entity _ session _ cp
    · refine s.follows_lift request index entity _ _ _ fun _ => ?_
      refine s.follows_guard request index entity _ _ _ _ _ _ ?_
      exact s.check_hmac_follows request index entity _ session _ cp

end

end

end TpmState

end Swtrust
