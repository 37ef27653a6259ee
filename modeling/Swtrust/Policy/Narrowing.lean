import Swtrust.Commands.Execute
import Swtrust.Library.Restriction

set_option autoImplicit false
set_option linter.unusedSectionVars false

namespace Swtrust

open Library Action

namespace PolicyState

def needsAuthValue (policy : PolicyState) : Prop := policy.authValueNeeded = true ∨ policy.passwordNeeded = true

-- Every restriction recorded before stands afterwards, as it was or stronger. The digest is not a restriction.
structure Narrows (before after : PolicyState) : Prop where
  commandCode : Kept before.commandCode after.commandCode
  cpHash : Kept before.cpHash after.cpHash
  nameHash : Kept before.nameHash after.nameHash
  locality : Restricts (fun a b => ∃ other, a = b &&& other) before.locality after.locality
  pcrUpdateCounter : Kept before.pcrUpdateCounter after.pcrUpdateCounter
  authValue : before.needsAuthValue → after.needsAuthValue
  nvWritten : Kept before.nvWritten after.nvWritten
  templateHash : Kept before.templateHash after.templateHash
  parametersHash : Kept before.parametersHash after.parametersHash
  physicalPresence : before.physicalPresenceRequired = true → after.physicalPresenceRequired = true
  secureChannel : before.secureChannelRequired = true → after.secureChannelRequired = true
  expiration : Restricts (fun a b => a ≤ b) before.expiration after.expiration

theorem narrows_refl (policy : PolicyState) : policy.Narrows policy where
  commandCode := kept_refl _
  cpHash := kept_refl _
  nameHash := kept_refl _
  locality := restricts_refl _ (fun a => ⟨a, by simp⟩) _
  pcrUpdateCounter := kept_refl _
  authValue := id
  nvWritten := kept_refl _
  templateHash := kept_refl _
  parametersHash := kept_refl _
  physicalPresence := id
  secureChannel := id
  expiration := restricts_refl _ (fun a => UInt64.le_refl a) _

theorem masks_trans (a b c : UInt8) (left : ∃ other, a = b &&& other) (right : ∃ other, b = c &&& other) :
    ∃ other, a = c &&& other := by
  obtain ⟨x, rfl⟩ := left
  obtain ⟨y, rfl⟩ := right
  exact ⟨y &&& x, UInt8.and_assoc c y x⟩

theorem narrows_trans (first middle last : PolicyState) (earlier : first.Narrows middle) (later : middle.Narrows last) :
    first.Narrows last where
  commandCode := kept_trans _ _ _ earlier.commandCode later.commandCode
  cpHash := kept_trans _ _ _ earlier.cpHash later.cpHash
  nameHash := kept_trans _ _ _ earlier.nameHash later.nameHash
  locality := restricts_trans _ masks_trans _ _ _ earlier.locality later.locality
  pcrUpdateCounter := kept_trans _ _ _ earlier.pcrUpdateCounter later.pcrUpdateCounter
  authValue := later.authValue ∘ earlier.authValue
  nvWritten := kept_trans _ _ _ earlier.nvWritten later.nvWritten
  templateHash := kept_trans _ _ _ earlier.templateHash later.templateHash
  parametersHash := kept_trans _ _ _ earlier.parametersHash later.parametersHash
  physicalPresence := later.physicalPresence ∘ earlier.physicalPresence
  secureChannel := later.secureChannel ∘ earlier.secureChannel
  expiration := restricts_trans (fun a b => a ≤ b) (fun _ _ _ left right => UInt64.le_trans left right) _ _ _
    earlier.expiration later.expiration

theorem limit_min_le (old expires : UInt64) : min old expires ≤ old := by
  change (if old ≤ expires then old else expires) ≤ old
  by_cases sooner : old ≤ expires
  · rw [if_pos sooner]
    exact UInt64.le_refl old
  · rw [if_neg sooner]
    exact (UInt64.le_total old expires).resolve_left sooner

theorem with_expiration_narrows (policy : PolicyState) (timeout : Bytes) :
    policy.Narrows (policy.withExpiration timeout) := by
  unfold withExpiration
  cases timeoutValue timeout with
  | none => exact narrows_refl policy
  | some expires =>
      refine { narrows_refl policy with expiration := ?_ }
      intro old recorded
      refine ⟨min old expires, ?_, ?_⟩
      · simp [recorded]
      · exact limit_min_le old expires

end PolicyState

structure Session.Narrows (before after : Session) : Prop where
  sameHash : after.authHash = before.authHash
  sameType : after.sessionType = before.sessionType
  sameEpoch : after.timeEpoch = before.timeEpoch
  policy : before.policy.Narrows after.policy

namespace Session

theorem narrows_refl (session : Session) : session.Narrows session :=
  ⟨rfl, rfl, rfl, PolicyState.narrows_refl session.policy⟩

theorem narrows_trans (first middle last : Session) (earlier : first.Narrows middle) (later : middle.Narrows last) :
    first.Narrows last :=
  ⟨later.sameHash.trans earlier.sameHash, later.sameType.trans earlier.sameType,
    later.sameEpoch.trans earlier.sameEpoch, PolicyState.narrows_trans _ _ _ earlier.policy later.policy⟩

theorem narrows_of_policy (session : Session) (policy : PolicyState) (narrowed : session.policy.Narrows policy) :
    session.Narrows { session with policy } :=
  ⟨rfl, rfl, rfl, narrowed⟩

end Session

-- What an assertion does to the digest is no restriction.
def Session.DigestOnly (before after : Session) : Prop :=
  ∃ digest, after = { before with policy := { before.policy with digest } }

namespace Session

theorem digest_only_refl (session : Session) : session.DigestOnly session := ⟨session.policy.digest, rfl⟩

theorem digest_only_trans (first middle last : Session) (earlier : first.DigestOnly middle)
    (later : middle.DigestOnly last) : first.DigestOnly last := by
  obtain ⟨_, rfl⟩ := earlier
  obtain ⟨digest, rfl⟩ := later
  exact ⟨digest, rfl⟩

theorem narrows_of_digest_only (before after : Session) (moved : before.DigestOnly after) : before.Narrows after := by
  obtain ⟨digest, rfl⟩ := moved
  exact narrows_of_policy before _ { PolicyState.narrows_refl before.policy with }

end Session

theorem succeeds_set_policy (f : PolicyState → PolicyState) (session session' : Session) (u : Unit)
    (ran : Succeeds (setPolicy f) session u session') :
    session' = { session with policy := f session.policy } := by
  rw [setPolicy, succeeds_modify] at ran
  exact ran

section

variable [Crypto]

theorem extend_policy_digest_only (commandCode : UInt32) (data : Bytes) :
    Moves Session.DigestOnly (extendPolicy commandCode data) := by
  intro session u session' ran
  simp only [extendPolicy, succeeds_bind, succeeds_get, succeeds_lift, succeeds_set] at ran
  obtain ⟨_, _, ⟨rfl, rfl⟩, extended, _, ⟨made, rfl⟩, rfl⟩ := ran
  rw [Session.extendPolicy, bind_is_ok] at made
  obtain ⟨digest, _, shape⟩ := made
  rw [pure_is_ok] at shape
  exact ⟨digest, shape.symm⟩

theorem clear_policy_digest_only : Moves Session.DigestOnly clearPolicyDigest := by
  intro session u session' ran
  simp only [clearPolicyDigest, succeeds_bind, succeeds_get, succeeds_lift] at ran
  obtain ⟨_, _, ⟨rfl, rfl⟩, size, _, ⟨_, rfl⟩, cleared⟩ := ran
  exact ⟨_, succeeds_set_policy _ _ _ _ cleared⟩

theorem policy_authorization_update_digest_only (commandCode : UInt32) (authName policyRef : Bytes) :
    Moves Session.DigestOnly (policyAuthorizationUpdate commandCode authName policyRef) := by
  rw [policyAuthorizationUpdate]
  refine moves_bind _ Session.digest_only_trans _ _ (extend_policy_digest_only commandCode authName) fun _ => ?_
  intro session u session' ran
  simp only [succeeds_bind, succeeds_get, succeeds_lift] at ran
  obtain ⟨_, _, ⟨rfl, rfl⟩, digest, _, ⟨_, rfl⟩, set⟩ := ran
  exact ⟨digest, succeeds_set_policy _ _ _ _ set⟩

end

theorem succeeds_on_policy_session {α : Type} (handle : UInt32) (action : Action TpmRc Session α)
    (slots slots' : SessionSlots) (a : α) (ran : Succeeds (onPolicySession handle action) slots a slots') :
    ∃ session session', slots.get handle = .ok session ∧ session.isPolicy = true ∧ Succeeds action session a session' ∧
      slots' = slots.put handle session' := by
  simp only [onPolicySession, succeeds_bind, succeeds_get, succeeds_lift] at ran
  obtain ⟨_, _, ⟨rfl, rfl⟩, session, _, ⟨found, rfl⟩, ran⟩ := ran
  cases policy : session.isPolicy with
  | false => simp [policy, succeeds_bind] at ran
  | true =>
      simp only [policy, Bool.not_true, Bool.false_eq_true, if_false, succeeds_zoom] at ran
      obtain ⟨session', inner, rfl⟩ := ran
      refine ⟨session, session', ?_, policy, inner, rfl⟩
      rw [withHandle, map_error_is_ok] at found
      exact found

-- The session at `handle`, unless it is a trial, has been narrowed.
def NarrowsAt (handle : UInt32) (slots slots' : SessionSlots) : Prop :=
  ∀ before, slots.get handle = .ok before → before.isTrial = false →
    ∃ after, slots'.get handle = .ok after ∧ before.Narrows after

-- An assertion that narrows any session it is made on.
def Narrowing {α : Type} (action : Action TpmRc Session α) : Prop :=
  ∀ session a session', session.isTrial = false → Succeeds action session a session' → session.Narrows session'

namespace SessionSlots

theorem narrows_at_refl (handle : UInt32) (slots : SessionSlots) : NarrowsAt handle slots slots :=
  fun before found _ => ⟨before, found, before.narrows_refl⟩

theorem narrows_at_trans (handle : UInt32) (first middle last : SessionSlots) (earlier : NarrowsAt handle first middle)
    (later : NarrowsAt handle middle last) : NarrowsAt handle first last := by
  intro before found real
  obtain ⟨between, held, narrowed⟩ := earlier before found real
  have stillReal : between.isTrial = false := by rw [Session.isTrial, narrowed.sameType]; exact real
  obtain ⟨after, holds, further⟩ := later between held stillReal
  exact ⟨after, holds, Session.narrows_trans _ _ _ narrowed further⟩

theorem narrows_at_put (handle other : UInt32) (slots : SessionSlots) (session session' : Session)
    (found : slots.get other = .ok session)
    (narrowed : handle = other → session.isTrial = false → session.Narrows session') :
    NarrowsAt handle slots (slots.put other session') := by
  intro before held real
  by_cases same : handle = other
  · rw [← same, held] at found
    obtain rfl := Except.ok.inj found
    exact ⟨session', same ▸ get_put_same slots other session', narrowed same real⟩
  · exact ⟨before, (get_put_other slots other handle session' same).trans held, before.narrows_refl⟩

end SessionSlots

theorem on_policy_session_narrows {α : Type} (handle other : UInt32) (action : Action TpmRc Session α)
    (narrowing : Narrowing action) : Moves (NarrowsAt handle) (onPolicySession other action) := by
  intro slots a slots' ran
  obtain ⟨session, session', found, _, inner, rfl⟩ := succeeds_on_policy_session other action slots slots' a ran
  exact SessionSlots.narrows_at_put handle other slots session session' found
    fun _ real => narrowing session a session' real inner

theorem session_step_narrows {α β : Type} (handle other : UInt32) (action : Action TpmRc Session α)
    (rest : α → PolicyM β) (narrowing : Narrowing action) (ends : ∀ a, Moves (NarrowsAt handle) (rest a)) :
    Moves (NarrowsAt handle) (onPolicySession other action >>= rest) :=
  moves_bind _ (SessionSlots.narrows_at_trans handle) _ _ (on_policy_session_narrows handle other action narrowing) ends

theorem narrows_then_pure {β : Type} (handle : UInt32) (b : β) : Moves (NarrowsAt handle) (pure b : PolicyM β) :=
  moves_pure _ (SessionSlots.narrows_at_refl handle) b

theorem narrows_then_lift {β : Type} (handle : UInt32) (result : TpmResult β) :
    Moves (NarrowsAt handle) (liftM result : PolicyM β) :=
  moves_lift _ (SessionSlots.narrows_at_refl handle) result

theorem narrowing_of_digest_only {α : Type} (action : Action TpmRc Session α)
    (only : Moves Session.DigestOnly action) : Narrowing action := by
  intro session a session' _ ran
  exact Session.narrows_of_digest_only session session' (only session a session' ran)

-- The shape of most assertions: a check of what is recorded, the digest, and the new record.
theorem narrowing_assertion {α : Type} (check : Session → TpmResult α) (update : α → Action TpmRc Session Unit)
    (f : α → PolicyState → PolicyState) (only : ∀ a, Moves Session.DigestOnly (update a))
    (narrows : ∀ session a digest, session.isTrial = false → check session = .ok a →
      session.policy.Narrows (f a { session.policy with digest })) :
    Narrowing (do
      let a ← check (← get)
      update a
      setPolicy (f a)) := by
  intro session u session' real ran
  simp only [succeeds_bind, succeeds_get, succeeds_lift] at ran
  obtain ⟨_, _, ⟨rfl, rfl⟩, a, _, ⟨checked, rfl⟩, _, middle, updated, set⟩ := ran
  obtain ⟨digest, rfl⟩ := only a _ _ _ updated
  rw [succeeds_set_policy _ _ _ _ set]
  exact Session.narrows_of_policy _ _ (narrows _ a digest real checked)

end Swtrust
