import Swtrust.Nv.Held

set_option autoImplicit false
set_option linter.unusedSectionVars false

namespace Swtrust

open Library Action

-- An Index that a TPM Reset empties: its contents are never in NV.
def NvIndex.isVolatile (index : NvIndex) : Bool :=
  index.area.attributes.has NvAttributes.orderly && index.area.attributes.has NvAttributes.clearStclear

namespace NvStore

-- What is lasting at a handle: that an Index is defined there, and all of it unless it is volatile.
def lastingAt (store : NvStore) (handle : UInt32) : Option (Option NvIndex) :=
  (store.indices.get handle).map fun index => if index.isVolatile then none else some index

end NvStore

-- What outlasts the power, apart from the Indices, the clock, the audit digest and the count of failed tries.
structure LastingState where
  hierarchies : Hierarchies
  permanent : PermanentAttributes
  persistent : SortedMap UInt32 Object
  lockoutAuth : Bytes
  lockoutPolicy : TpmtHa
  lockoutParameters : UInt32 × UInt32 × UInt32
  pcrAuth : Bytes
  pcrPolicy : TpmtHa
  pcrAllocation : PcrAllocation
  actPolicy : TpmtHa
  algorithmSet : UInt32
  ppCommands : List UInt32
  auditAlg : UInt16
  auditCommands : List UInt32
  deriving DecidableEq

namespace TpmState

def lasting (s : TpmState) : LastingState where
  hierarchies := s.hierarchies
  permanent := s.permanent
  persistent := s.persistent
  lockoutAuth := s.lockoutAuth
  lockoutPolicy := s.lockoutPolicy
  lockoutParameters := (s.lockout.maxTries, s.lockout.recoveryTime, s.lockout.lockoutRecovery)
  pcrAuth := s.pcrAuth
  pcrPolicy := s.pcrPolicy
  pcrAllocation := s.pcrAllocation
  actPolicy := s.act.policy
  algorithmSet := s.algorithmSet
  ppCommands := s.ppCommands
  auditAlg := s.audit.alg
  auditCommands := s.audit.commands

-- Nothing persistent differs between two states.
def Still (s t : TpmState) : Prop := t.lasting = s.lasting ∧ ∀ handle, t.nv.lastingAt handle = s.nv.lastingAt handle

end TpmState

-- The commands that the mode is not about.
def readOnlyExempt : List UInt32 := [Cc.readOnlyControl, Cc.startup, Cc.shutdown]

section

variable [Primitives]

theorem handlers_spare_lasting : (handlers.all fun row =>
    ([.query, .random, .policy, .work, .context, .nv, .pcr, .startupClear, .clock, .test] : List Scope).contains
      row.2.scope || (readOnlyExempt ++ [Cc.actSetTimeout, Cc.dictionaryAttackLockReset, Cc.getCommandAuditDigest] ++
        Table.refusedWhenReadOnlyCodes).contains row.1) = true := by
  rfl

abbrev KeepsLasting (s t : TpmState) : Prop := t.lasting = s.lasting

theorem keeps_lasting_steady : Steady KeepsLasting := steady_of_view TpmState.lasting

theorem scopes_spare_lasting {α : Type} (scope : Scope) (action : Action TpmRc scope.State α)
    (spared : ([.query, .random, .policy, .work, .context, .nv, .pcr, .startupClear, .clock, .test] : List Scope).contains
      scope = true) : Guarantees KeepsLasting (scope.zoom action) := by
  cases scope with
  | allocation => exact absurd spared (by decide)
  | persistent => exact absurd spared (by decide)
  | act => exact absurd spared (by decide)
  | lockout => exact absurd spared (by decide)
  | audit => exact absurd spared (by decide)
  | admin => exact absurd spared (by decide)
  | whole => exact absurd spared (by decide)
  | _ => exact guarantees_zoom _ _ _ action fun _ => rfl

-- A command that Read-Only mode lets through keeps all that is lasting but the Indices.
theorem run_command_lasting (request : Request) (free : Table.refusedWhenReadOnly request.code = false)
    (apart : request.code ∉ readOnlyExempt) : Guarantees KeepsLasting (runCommand request) := by
  refine guarantees_run_listed _ keeps_lasting_steady.refl _ _ handlers_spare_lasting scopes_spare_lasting
    request fun listed => ?_
  unfold Table.refusedWhenReadOnly at free
  rw [List.mem_append, List.mem_append] at listed
  have listed : request.code ∈ ([Cc.actSetTimeout, Cc.dictionaryAttackLockReset, Cc.getCommandAuditDigest] : List UInt32) := by
    rcases listed with (exempt | listed) | refused
    · exact absurd exempt apart
    · exact listed
    · simp [refused] at free
  simp only [List.mem_cons, List.not_mem_nil, or_false] at listed
  rcases listed with code | code | code
  · rw [run_command_of request (.plain .act fun _ request => actSetTimeout request) (by rw [code]; rfl)]
    have kept : Keeps (fun act : Act => act.policy) (actSetTimeout request) := by
      refine keeps_lift_bind _ _ _ fun handle => keeps_lift_bind _ _ _ fun startTimeout => ?_
      have ended : Keeps (fun act : Act => act.policy) (do
          modify fun act => act.setTimeout startTimeout
          return .empty : Action TpmRc Act Response) := by
        refine keeps_bind _ _ _ (keeps_modify _ _ fun act => ?_) fun _ => keeps_pure _ _
        unfold Act.setTimeout
        dsimp only
        split <;> rfl
      exact keeps_ite _ _ _ _ (keeps_bind _ _ _ (keeps_throw _ _) fun _ => ended) ended
    intro s
    refine guarantees_map KeepsLasting _ (Scope.zoom .act (actSetTimeout request))
      (guarantees_zoom KeepsLasting _ _ _ fun s => ?_) s
    change LastingState.mk _ _ _ _ _ _ _ _ _ (final (actSetTimeout request s.act)).policy _ _ _ _ = _
    rw [show (final (actSetTimeout request s.act)).policy = s.act.policy from kept s.act]
    rfl
  · rw [run_command_of request (.plain .lockout fun _ request => dictionaryAttackLockReset request) (by rw [code]; rfl)]
    exact fun s => rfl
  · rw [run_command_of request (.issuing .audit getCommandAuditDigest) (by rw [code]; rfl)]
    intro s
    have kept : Keeps (fun t : AuditScope => (t.audit.alg, t.audit.commands)) (getCommandAuditDigest s request) := by
      refine keeps_lift_bind _ _ _ fun signHandle => keeps_lift_bind _ _ _ fun parameters => ?_
      refine keeps_lift_bind _ _ _ fun commandDigest => keeps_lift_bind _ _ _ fun _ => keeps_lift_bind _ _ _ fun _ => ?_
      refine keeps_lift_bind _ _ _ fun signer => keeps_bind _ _ _ (keeps_zoom _ _ _ _ fun _ _ => rfl) fun response => ?_
      exact keeps_ite _ _ _ _ (keeps_bind _ _ _ (keeps_modify _ _ fun _ => rfl) fun _ => keeps_pure _ _) (keeps_pure _ _)
    have zoomed : Guarantees KeepsLasting (Scope.audit.zoom (getCommandAuditDigest s request)) := by
      refine guarantees_zoom KeepsLasting _ _ (getCommandAuditDigest s request) fun t => ?_
      have same := kept ⟨t.work, t.audit, t.commandAuditSuppressed⟩
      rw [Prod.mk.injEq] at same
      generalize final (getCommandAuditDigest s request ⟨t.work, t.audit, t.commandAuditSuppressed⟩) = ended at same
      obtain ⟨alg, commands⟩ := same
      change LastingState.mk _ _ _ _ _ _ _ _ _ _ _ _ ended.audit.alg ended.audit.commands = _
      rw [alg, commands]
      rfl
    exact zoomed s

namespace TpmState

theorem lasting_spared_by_guards : SparedByGuards lasting := ⟨fun _ _ => rfl, fun _ _ _ => rfl, fun _ _ _ => rfl⟩

theorem read_only_lets (s : TpmState) (request : Request) (names : List Bytes)
    (readOnly : s.startupClear.has StartupClearAttributes.readOnly = true) (checked : s.checkRequest request = .ok names) :
    Table.refusedWhenReadOnly request.code = false ∧ (request.code ∈ revisingCommands →
      ∀ handle index, request.handle 1 = .ok handle → s.nv.get handle = .ok index → index.isVolatile = true) := by
  simp only [checkRequest, bind_is_ok] at checked
  obtain ⟨_, _, _, _, _, held, -⟩ := checked
  unfold checkReadOnly at held
  simp only [readOnly, Bool.not_true, Bool.false_eq_true, if_false, guarded_then_is_ok] at held
  obtain ⟨free, held⟩ := held
  refine ⟨by simpa using free, fun listed handle index named found => ?_⟩
  have needs : Table.readOnlyNeedsAVolatileIndex request.code = true := by
    unfold Table.readOnlyNeedsAVolatileIndex
    unfold revisingCommands at listed
    simp only [List.mem_cons, List.not_mem_nil, or_false] at listed
    rcases listed with code | code | code | code | code <;> rw [code] <;> decide
  rw [if_pos needs] at held
  have here : readOnlyIndex request = .ok handle := by simp [readOnlyIndex, named]
  simp only [here, withHandle, found, bind, Except.bind, Except.mapError] at held
  by_contra steady
  have refused : (!(decide (index.area.attributes.has NvAttributes.orderly = true ∧
      index.area.attributes.has NvAttributes.clearStclear = true))) = true := by
    rw [Bool.not_eq_true', decide_eq_false_iff_not]
    intro both
    exact steady (by simp [NvIndex.isVolatile, both])
  rw [if_pos refused] at held
  cases held

theorem nullify_shutdown_read_only (request : Request) (s : TpmState) :
    (nullifyShutdown request s).startupClear.has StartupClearAttributes.readOnly =
      s.startupClear.has StartupClearAttributes.readOnly := by
  unfold nullifyShutdown
  split
  · unfold Flags32.has
    dsimp only
    rw [Flags32.without_apart _ _ _ (by decide)]
  · rfl

theorem lasting_spared (request : Request) : SparedByAnswer request lasting where
  rng _ _ := rfl
  audit _ _ _ _ := rfl
  put _ _ _ _ := rfl
  remove _ _ _ := rfl

-- A command that the mode lets through changes nothing lasting outside the NV area.
theorem run_lasting (s : TpmState) (locality : UInt8) (octets : Bytes)
    (readOnly : s.startupClear.has StartupClearAttributes.readOnly = true)
    (apart : ∀ request, parse octets locality = .ok request → request.code ∉ readOnlyExempt) :
    (run locality octets s).2.lasting = s.lasting := by
  have undisturbed : Undisturbed KeepsLasting :=
    { steady := keeps_lasting_steady
      nullified := fun request s => by
        unfold nullifyShutdown
        split <;> rfl
      authorized := fun request names count index =>
        guarantees_authorize_from_of_settle _ keeps_lasting_steady request names
          (fun index entity attempt => keeps_settle lasting_spared_by_guards request index entity attempt) count index
      suppressed := fun _ _ => rfl
      failed := fun _ => rfl
      responded := fun request reply names contexts parameters => keeps_answer (lasting_spared request)
        (fun s => by
          unfold flushIfNeeded
          split
          · rfl
          · split <;> rfl) reply names contexts parameters }
  refine run_guarantees_prepared _ undisturbed s locality octets fun request names parameters prepared => ?_
  obtain ⟨_, parsed, _, checked⟩ := (s.prepare_is_ok locality octets request names).mp prepared
  have lets := (nullifyShutdown request s).read_only_lets request names
    (by rw [nullify_shutdown_read_only, readOnly]) checked
  exact run_command_lasting { request with parameters } lets.1 (apart request parsed)

end TpmState

end

end Swtrust
