import Swtrust.ReadOnly.Lasting
import Swtrust.Structures.Canonical
import Swtrust.Toy

set_option autoImplicit false
set_option linter.unusedSectionVars false

namespace Swtrust

open Library Action

namespace NvIndex

theorem with_mask_again {reserved : UInt32} (flags : Flags32 reserved) (mask : UInt32) (on : flags.has mask = true) :
    flags.withMask mask = flags := by
  unfold Flags32.has at on
  rw [beq_iff_eq] at on
  unfold Flags32.withMask
  have same : flags.value ||| mask = flags.value := by
    apply UInt32.eq_of_toBitVec_eq
    ext i inside
    have bit := congrArg (fun v : UInt32 => v.toBitVec[i]) on
    simp only [UInt32.toBitVec_and, BitVec.getElem_and] at bit
    simp only [UInt32.toBitVec_or, BitVec.getElem_or]
    grind
  rw [same]

theorem set_written_again (index : NvIndex) (written : index.written = true) : index.setWritten = index := by
  unfold setWritten
  rw [with_mask_again _ _ written]
  rfl

-- What is left of an Index by comparisons with its authValue.
inductive Turned (index : NvIndex) : NvIndex → Prop where
  | still : Turned index index
  | turned (pin : Pin) (read : index.pin = .ok pin) (counters : NvPinCounterParameters) :
      Turned index { index with data := counters.marshal }.setWritten

theorem turned_trans (first second third : NvIndex) (left : Turned first second) (right : Turned second third) :
    Turned first third := by
  cases left with
  | still => exact right
  | turned pin read counters =>
      cases right with
      | still => exact .turned pin read counters
      | turned _ _ later =>
          have same : ({ ({ first with data := counters.marshal } : NvIndex).setWritten with
              data := later.marshal } : NvIndex).setWritten = ({ first with data := later.marshal } : NvIndex).setWritten := by
            refine (set_written_again _ ?_).trans rfl
            exact Flags32.has_with_mask _ _
          rw [same]
          exact .turned pin read later

theorem turned_volatile (index next : NvIndex) (turned : Turned index next) : next.isVolatile = index.isVolatile := by
  cases turned with
  | still => rfl
  | turned _ _ counters =>
      unfold isVolatile
      rw [set_written_apart _ _ (by decide), set_written_apart _ _ (by decide)]

-- An Index whose counters ended where they began is the Index it was.
theorem turned_back (index next : NvIndex) (pin : Pin) (turned : Turned index next) (before : index.pin = .ok pin)
    (after : next.pin = .ok pin) : next = index := by
  cases turned with
  | still => rfl
  | turned _ _ counters =>
      have isPin := index.is_pin_of_pin pin before
      obtain ⟨_, writtenHere, read⟩ := (index.pin_is_ok pin).mp before
      have set : index.setPinCounters counters = .ok ({ index with data := counters.marshal } : NvIndex).setWritten := by
        simp [setPinCounters, isPin]
      rw [index.set_pin_counters_pin _ _ set] at after
      have ended := Except.ok.inj after
      have same : counters = pin.counters := congrArg Pin.counters ended
      have written : index.written = true := writtenHere.trans (congrArg Pin.written ended).symm
      have data : index.data = pin.counters.marshal := by
        unfold pinCounters at read
        simp only [isPin, written, Bool.not_true, Bool.false_eq_true, if_false, map_error_is_ok] at read
        unfold Reader.fromBytes at read
        split at read
        · cases read
        next ran =>
          cases read
          simpa using canonical_pin_counters _ _ _ ran
        · cases read
      have kept : ({ index with data := counters.marshal } : NvIndex) = index := by
        rw [same, ← data]
      rw [kept]
      exact index.set_written_again written

end NvIndex

namespace NvStore

-- Each Index is as it was, or had comparisons made with its authValue.
def Turned (before after : NvStore) : Prop := ∀ handle,
  match before.indices.get handle with
  | none => after.indices.get handle = none
  | some index => ∃ next, after.indices.get handle = some next ∧ index.Turned next

theorem turned_steady : Steady Turned where
  refl store handle := by
    cases store.indices.get handle with
    | none => rfl
    | some index => exact ⟨index, rfl, .still⟩
  trans first second third left right handle := by
    have here := left handle
    have there := right handle
    cases held : first.indices.get handle with
    | none =>
        rw [held] at here
        dsimp only at here
        rw [here] at there
        exact there
    | some index =>
        rw [held] at here
        obtain ⟨next, found, turned⟩ := here
        rw [found] at there
        obtain ⟨last, ended, again⟩ := there
        exact ⟨last, ended, index.turned_trans next last turned again⟩

theorem record_pin_turned (store : NvStore) (entity : Entity) (accepted : Bool) :
    store.Turned (store.recordPin entity accepted) := by
  unfold recordPin
  cases entity.pin with
  | none => exact turned_steady.refl store
  | some handle =>
      dsimp only
      cases held : store.get handle with
      | error e => exact turned_steady.refl store
      | ok index =>
          dsimp only
          cases read : index.pin with
          | error e => exact turned_steady.refl store
          | ok pin =>
              intro other
              have found := (store.get_is_ok handle index).mp held
              dsimp only [put]
              rw [SortedMap.get_insert]
              by_cases same : other = handle
              · subst same
                rw [found, if_pos rfl]
                exact ⟨_, rfl, .turned pin read _⟩
              · rw [if_neg same]
                exact turned_steady.refl store other

end NvStore

section

variable [Primitives]

namespace TpmState

theorem authorize_from_turned (request : Request) (names : List Bytes) (count index : Nat) :
    Guarantees (fun s t => s.nv.Turned t.nv) (authorizeFrom request names count index) := by
  have steady : Steady fun s t : TpmState => s.nv.Turned t.nv :=
    ⟨fun s => NvStore.turned_steady.refl s.nv, fun s t u => NvStore.turned_steady.trans s.nv t.nv u.nv⟩
  refine guarantees_authorize_from_of_settle _ steady request names (fun index entity attempt s => ?_) count index
  change s.nv.Turned (final (settle request index entity attempt s)).nv
  rw [settle_nv]
  split
  · exact NvStore.turned_steady.refl s.nv
  · exact s.nv.record_pin_turned entity attempt.accepted

end TpmState

end

namespace NvStore

variable (before after : NvStore) (handle : UInt32) (index : NvIndex)

-- An Index that is not volatile lasts unchanged exactly when its counters end where they began.
theorem lasting_at_held (held : before.indices.get handle = some index) (lasting : index.isVolatile = false)
    (next : NvIndex) (ended : after.indices.get handle = some next) (turned : index.Turned next) :
    after.lastingAt handle = before.lastingAt handle ↔ next = index := by
  unfold lastingAt
  rw [held, ended]
  simp [lasting, index.turned_volatile next turned]

theorem lasting_at_volatile (volatile : index.isVolatile = true) (held : before.indices.get handle = some index)
    (next : NvIndex) (ended : after.indices.get handle = some next) (same : next.isVolatile = index.isVolatile) :
    after.lastingAt handle = before.lastingAt handle := by
  unfold lastingAt
  rw [held, ended]
  simp [volatile, same]

end NvStore

section

variable [Primitives]

namespace TpmState

-- No comparison of the command moves the counters of a PIN Index that is not volatile.
def MovesNoLastingPin (s : TpmState) (locality : UInt8) (octets : Bytes) : Prop :=
  ∀ handle index pin, s.nv.get handle = .ok index → index.isVolatile = false → index.pin = .ok pin →
    ((s.pinComparisons handle locality octets).foldl Pin.turn pin).counters = pin.counters

theorem authorized_lasting_at (s : TpmState) (request : Request) (names : List Bytes) (handle : UInt32) :
    (final (authorizeFrom request names request.info.authHandles 0 s)).nv.lastingAt handle = s.nv.lastingAt handle ↔
      ∀ index pin, s.nv.get handle = .ok index → index.isVolatile = false → index.pin = .ok pin →
        ((pinOutcomes handle (comparisons request names request.info.authHandles 0 s)).foldl Pin.turn pin).counters =
          pin.counters := by
  have turned := authorize_from_turned request names request.info.authHandles 0 s handle
  generalize ended : final (authorizeFrom request names request.info.authHandles 0 s) = t at turned ⊢
  cases held : s.nv.indices.get handle with
  | none =>
      rw [held] at turned
      dsimp only at turned
      refine ⟨fun _ index pin found => ?_, fun _ => ?_⟩
      · rw [(s.nv.get_is_ok handle index).mp found] at held
        cases held
      · unfold NvStore.lastingAt
        rw [held, turned]
  | some index =>
      rw [held] at turned
      obtain ⟨next, found, turned⟩ := turned
      have here := (s.nv.get_is_ok handle index).mpr held
      have only : ∀ other, s.nv.get handle = .ok other → other = index := fun other same => by
        rw [here] at same
        exact (Except.ok.inj same).symm
      cases volatile : index.isVolatile with
      | true =>
          refine ⟨fun _ other pin same steady => ?_, fun _ => ?_⟩
          · rw [only other same, volatile] at steady
            cases steady
          · exact NvStore.lasting_at_volatile _ _ handle index volatile held next found (index.turned_volatile next turned)
      | false =>
          rw [NvStore.lasting_at_held _ _ handle index held volatile next found turned]
          cases read : index.pin with
          | error e =>
              refine ⟨fun _ other pin same _ counted => ?_, fun _ => ?_⟩
              · rw [only other same, read] at counted
                cases counted
              · cases turned with
                | still => rfl
                | turned pin counted counters =>
                    rw [read] at counted
                    cases counted
          | ok pin =>
              have first : s.pinAt handle = .ok pin := (s.nv.pin_at_is_ok handle pin).mpr ⟨index, here, read⟩
              obtain ⟨after, turns, last⟩ := authorize_from_turns request names handle request.info.authHandles 0 s pin first
              rw [ended] at last
              obtain ⟨other, same, counted⟩ := (t.nv.pin_at_is_ok handle after).mp last
              obtain rfl : other = next := by
                rw [(t.nv.get_is_ok handle next).mpr found] at same
                exact (Except.ok.inj same).symm
              have folded := Pin.turns_foldl pin after _ turns
              refine ⟨fun back first first' found' steady read' => ?_, fun unmoved => ?_⟩
              · obtain rfl := only first found'
                rw [read] at read'
                obtain rfl := Except.ok.inj read'
                rw [back, read] at counted
                rw [← folded, Except.ok.inj counted]
              · have counters := unmoved index pin here volatile read
                rw [← folded] at counters
                rw [Pin.turns_unmoved pin after _ turns counters] at counted
                exact index.turned_back other pin turned read counted

end TpmState

end

-- What the mode lets through of the NV commands changes no Index that is not volatile.
theorem nv_move_lasting_at [Profile] (request : Request) (before after : NvStore) (move : NvMove request before after)
    (free : Table.refusedWhenReadOnly request.code = false) (apart : request.code ∉ readOnlyExempt)
    (undefining : request.code ≠ Cc.nvDefineSpace2)
    (volatile : request.code ∈ revisingCommands → ∀ handle index, request.handle 1 = .ok handle →
      before.get handle = .ok index → index.isVolatile = true) (handle : UInt32) :
    after.lastingAt handle = before.lastingAt handle := by
  have refused : ∀ code, Table.refusedWhenReadOnly code = true → request.code ≠ code := by
    rintro code listed rfl
    rw [free] at listed
    cases listed
  cases move with
  | same => rfl
  | define _ _ _ _ _ _ _ coded =>
      simp only [definingCommands, List.mem_cons, List.not_mem_nil, or_false] at coded
      rcases coded with code | code
      · exact absurd code (refused _ (by decide))
      · exact absurd code undefining
  | undefine _ _ _ coded =>
      rcases coded with code | code
      · exact absurd code (refused _ (by decide))
      · exact absurd code (refused _ (by decide))
  | revise other index next held revised named coded =>
      have empties := volatile coded other index named held
      have found := (before.get_is_ok other index).mp held
      by_cases same : handle = other
      · subst same
        refine NvStore.lasting_at_volatile _ _ handle index empties found next ?_ ?_
        · unfold NvStore.put
          rw [SortedMap.get_insert, if_pos rfl]
        · unfold NvIndex.isVolatile
          rw [revised.orderly, revised.clearStclear]
      · unfold NvStore.lastingAt NvStore.put
        rw [SortedMap.get_insert, if_neg same]
  | increment coded => exact absurd coded (refused _ (by decide))
  | changeAuth coded => exact absurd coded (refused _ (by decide))
  | lockAll coded => exact absurd coded (refused _ (by decide))
  | startup coded =>
      rw [coded] at apart
      exact absurd (by decide) apart
  | clear coded => exact absurd coded (refused _ (by decide))

namespace NvStore

-- Whether an Index may be defined.
def admits (store : NvStore) (index : NvIndex) : TpmResult Unit := do
  if !isNvHandle index.area.nvIndex then throw Rc.handle
  if store.indices.contains index.area.nvIndex then throw Rc.nvDefined
  if store.available < index.footprint then throw Rc.nvSpace

theorem define_ends (store : NvStore) (index : NvIndex) (blank : index.written = false) :
    final (NvStore.define index store) = match store.admits index with
      | .ok _ => { store with indices := store.indices.insert index.area.nvIndex index }
      | .error _ => store := by
  have noted : store.noteCounter index = store := by
    unfold NvStore.noteCounter
    simp [blank]
  unfold NvStore.define admits
  rw [run_modify_bind, noted, run_get_bind]
  dsimp only
  split
  · rfl
  · split
    · rfl
    · split <;> rfl

theorem admits_absent (store : NvStore) (index : NvIndex) (admitted : store.admits index = .ok ()) :
    store.indices.get index.area.nvIndex = none := by
  simp only [admits, guarded_then_is_ok] at admitted
  simpa [SortedMap.contains] using admitted.2.1

end NvStore

section

variable [Primitives]

namespace TpmState

-- The Index that TPM2_NV_DefineSpace2 defines.
def definedIndex (s : TpmState) (request : Request) : TpmResult NvIndex := do
  let authHandle ← request.handle 0
  let (auth, area2) ← request.params do
    let auth : Tpm2bDigest ← Reader.withParameter 1 Tpm2b.unmarshal
    return (auth.buffer, ← Reader.withParameter 2 (Reader.sized16 NvPublic2.unmarshal))
  let area ← match area2 with
    | .index area | .permanent area => pure area
    | .external _ => throw (Rc.attributes.withParameter 2)
  s.checkDefinition authHandle auth area
  let index : NvIndex := { area, auth, data := [], readLocked := false, writeLocked := false }
  s.nv.admits index
  return index

theorem define_space2_ends (s : TpmState) (request : Request) (code : request.code = Cc.nvDefineSpace2) :
    (final (runCommand request s)).nv = match s.definedIndex request with
      | .ok index => { s.nv with indices := s.nv.indices.insert index.area.nvIndex index }
      | .error _ => s.nv := by
  have defined : ∀ authHandle auth area, (final (define s authHandle auth area ⟨s.nv, s.startupClear⟩)).nv =
      match (do
        s.checkDefinition authHandle auth area
        let index : NvIndex := { area, auth, data := [], readLocked := false, writeLocked := false }
        s.nv.admits index
        return index : TpmResult NvIndex) with
      | .ok index => { s.nv with indices := s.nv.indices.insert index.area.nvIndex index }
      | .error _ => s.nv := by
    intro authHandle auth area
    simp only [define, run_lift_bind]
    cases checked : s.checkDefinition authHandle auth area with
    | error e => rfl
    | ok u =>
        have blank := check_definition_unwritten s authHandle auth area checked
        have ends := s.nv.define_ends { area, auth, data := [], readLocked := false, writeLocked := false } blank
        simp only [bind, EStateM.bind, Except.bind, zoomStore, Action.zoom]
        cases admits : s.nv.admits { area, auth, data := [], readLocked := false, writeLocked := false } with
        | ok u =>
            rw [admits] at ends
            cases ran : NvStore.define { area, auth, data := [], readLocked := false, writeLocked := false } s.nv with
            | ok u nv =>
                rw [ran] at ends
                exact ends
            | error e nv =>
                rw [ran] at ends
                exact ends
        | error e =>
            rw [admits] at ends
            cases ran : NvStore.define { area, auth, data := [], readLocked := false, writeLocked := false } s.nv with
            | ok u nv =>
                rw [ran] at ends
                exact ends
            | error e nv =>
                rw [ran] at ends
                exact ends
  have handled : (final (runCommand request s)).nv = (final (nvDefineSpace2 s request ⟨s.nv, s.startupClear⟩)).nv := by
    rw [run_command_of request (.plain .nv nvDefineSpace2) (by rw [code]; rfl)]
    change (final ((Response.reply <$> TpmState.zoomNvScope (nvDefineSpace2 s request) : TpmM Reply) s)).nv = _
    rw [final_map]
    simp only [TpmState.zoomNvScope, Action.zoom]
    cases nvDefineSpace2 s request ⟨s.nv, s.startupClear⟩ <;> rfl
  rw [handled]
  simp only [nvDefineSpace2, definedIndex, run_lift_bind]
  cases request.handle 0 with
  | error e => rfl
  | ok authHandle =>
      dsimp only [bind, Except.bind]
      cases request.params (do
          let auth : Tpm2bDigest ← Reader.withParameter 1 Tpm2b.unmarshal
          return (auth.buffer, ← Reader.withParameter 2 (Reader.sized16 NvPublic2.unmarshal))) with
      | error e => rfl
      | ok parameters =>
          obtain ⟨auth, area2⟩ := parameters
          cases area2 with
          | index area => exact defined authHandle auth area
          | permanent area => exact defined authHandle auth area
          | external area => rfl

-- The Index that a command defines after its authorizations.
def definition (t : TpmState) (request : Request) (names : List Bytes) (contexts : List AuthContext) : TpmResult NvIndex := do
  let decrypted ← t.admitted request names contexts
  definedIndex t decrypted

-- The command is a TPM2_NV_DefineSpace2 that is authorized, and what it asks for may be defined.
def definesIndex (s : TpmState) (locality : UInt8) (octets : Bytes) : Bool :=
  match s.prepare locality octets with
  | .error _ => false
  | .ok (request, names) =>
    match authorizeFrom request names request.info.authHandles 0 (nullifyShutdown request s) with
    | .error _ _ => false
    | .ok contexts t => request.code == Cc.nvDefineSpace2 && found (t.definition request names contexts) fun _ => true

theorem admitted_code (t : TpmState) (request decrypted : Request) (names : List Bytes) (contexts : List AuthContext)
    (admits : t.admitted request names contexts = .ok decrypted) : ∃ parameters, decrypted = { request with parameters } := by
  simp only [admitted, bind_is_ok] at admits
  obtain ⟨_, _, _, _, made⟩ := admits
  exact decrypt_parameters_only request t decrypted _ made

theorem after_authorization_defines (t : TpmState) (request : Request) (names : List Bytes) (contexts : List AuthContext)
    (code : request.code = Cc.nvDefineSpace2) : (final (afterAuthorization request names contexts t)).nv =
      match t.definition request names contexts with
      | .ok index => { t.nv with indices := t.nv.indices.insert index.area.nvIndex index }
      | .error _ => t.nv := by
  have ends := after_authorization_ends (fun s => s.nv) nv_spared_by_execution request names contexts t
  refine ends.trans ?_
  unfold definition
  cases admits : t.admitted request names contexts with
  | error e => rfl
  | ok decrypted =>
      obtain ⟨parameters, rfl⟩ := t.admitted_code request decrypted names contexts admits
      exact define_space2_ends { t with commandAuditSuppressed := false } { request with parameters } code

theorem definition_absent (t : TpmState) (request : Request) (names : List Bytes) (contexts : List AuthContext)
    (index : NvIndex) (defined : t.definition request names contexts = .ok index) :
    t.nv.indices.get index.area.nvIndex = none := by
  have checked : ∀ authHandle auth area, (do
      t.checkDefinition authHandle auth area
      let index : NvIndex := { area, auth, data := [], readLocked := false, writeLocked := false }
      t.nv.admits index
      return index : TpmResult NvIndex) = .ok index → t.nv.indices.get index.area.nvIndex = none := by
    intro authHandle auth area made
    simp only [bind_is_ok, pure_is_ok] at made
    obtain ⟨_, _, _, admitted, rfl⟩ := made
    exact t.nv.admits_absent _ admitted
  simp only [definition, definedIndex, bind_is_ok] at defined
  obtain ⟨_, _, authHandle, _, ⟨auth, area2⟩, _, defined⟩ := defined
  cases area2 with
  | index area => exact checked authHandle auth area defined
  | permanent area => exact checked authHandle auth area defined
  | external area => cases defined

end TpmState

end

section

variable [Primitives]

namespace TpmState

theorem turned_absent (s t : TpmState) (turned : s.nv.Turned t.nv) (handle : UInt32)
    (absent : t.nv.indices.get handle = none) : s.nv.indices.get handle = none := by
  have here := turned handle
  cases held : s.nv.indices.get handle with
  | none => rfl
  | some index =>
      rw [held] at here
      obtain ⟨next, found, _⟩ := here
      rw [absent] at found
      cases found

-- Past the authorizations the Indices that are not volatile stay, unless one is defined.
theorem after_authorization_lasting_at (s t : TpmState) (request : Request) (names : List Bytes)
    (contexts : List AuthContext) (readOnly : s.startupClear.has StartupClearAttributes.readOnly = true)
    (checked : s.checkRequest request = .ok names) (apart : request.code ∉ readOnlyExempt) (turned : s.nv.Turned t.nv)
    (undefining : request.code ≠ Cc.nvDefineSpace2) (handle : UInt32) :
    (final (afterAuthorization request names contexts t)).nv.lastingAt handle = t.nv.lastingAt handle := by
  have ends : (final (afterAuthorization request names contexts t)).nv = _ :=
    after_authorization_ends (fun s => s.nv) nv_spared_by_execution request names contexts t
  rw [ends]
  cases admits : t.admitted request names contexts with
  | error e => rfl
  | ok decrypted =>
      obtain ⟨parameters, rfl⟩ := t.admitted_code request decrypted names contexts admits
      obtain ⟨free, volatile⟩ := s.read_only_lets request names readOnly checked
      have moves := run_command_nv_moves { request with parameters } { t with commandAuditSuppressed := false }
      refine nv_move_lasting_at _ _ _ moves free apart undefining (fun listed other next named held => ?_) handle
      have found := (t.nv.get_is_ok other next).mp held
      have here := turned other
      cases before : s.nv.indices.get other with
      | none =>
          rw [before] at here
          dsimp only at here
          rw [found] at here
          cases here
      | some index =>
          rw [before] at here
          obtain ⟨last, same, worn⟩ := here
          rw [found] at same
          obtain rfl := Option.some.inj same
          rw [index.turned_volatile next worn]
          exact volatile listed other index named ((s.nv.get_is_ok other index).mpr before)

theorem run_lasting_at (s : TpmState) (locality : UInt8) (octets : Bytes)
    (readOnly : s.startupClear.has StartupClearAttributes.readOnly = true)
    (apart : ∀ request, parse octets locality = .ok request → request.code ∉ readOnlyExempt) :
    (∀ handle, (run locality octets s).2.nv.lastingAt handle = s.nv.lastingAt handle) ↔
      s.definesIndex locality octets = false ∧ s.MovesNoLastingPin locality octets := by
  have authorized : ∀ request names, s.prepare locality octets = .ok (request, names) →
      ((∀ handle, (final (authorizeFrom request names request.info.authHandles 0 (nullifyShutdown request s))).nv.lastingAt
        handle = s.nv.lastingAt handle) ↔ s.MovesNoLastingPin locality octets) := by
    intro request names prepared
    refine forall_congr' fun handle => ?_
    have here := (nullifyShutdown request s).authorized_lasting_at request names handle
    rw [nullify_shutdown_nv] at here
    rw [here, pin_comparisons_prepared s handle locality octets request names prepared]
  cases s.run_course locality octets with
  | unprepared e stopped same =>
      have still : (run locality octets s).2.nv = s.nv := by
        rcases same with same | ⟨request, _, same⟩
        · rw [same]
        · rw [same, nullify_shutdown_nv]
      refine ⟨fun _ => ⟨by simp [definesIndex, stopped], fun handle index pin _ _ _ => ?_⟩, fun _ handle => by rw [still]⟩
      simp [pinComparisons, TpmState.compared, stopped, bind, Except.bind]
  | unauthorized request names prepared e ran =>
      have settled := authorized request names prepared
      rw [ran] at settled
      have settled : (∀ handle, (run locality octets s).2.nv.lastingAt handle = s.nv.lastingAt handle) ↔
        s.MovesNoLastingPin locality octets := settled
      have undefined : s.definesIndex locality octets = false := by simp [definesIndex, prepared, ran]
      rw [undefined]
      simpa using settled
  | authorized request names prepared contexts t ran ended =>
      have settled := authorized request names prepared
      have turned := authorize_from_turned request names request.info.authHandles 0 (nullifyShutdown request s)
      rw [ran] at settled turned
      have turned : (nullifyShutdown request s).nv.Turned t.nv := turned
      have settled : (∀ handle, t.nv.lastingAt handle = s.nv.lastingAt handle) ↔ s.MovesNoLastingPin locality octets := settled
      obtain ⟨_, parsed, _, checked⟩ := (s.prepare_is_ok locality octets request names).mp prepared
      by_cases code : request.code = Cc.nvDefineSpace2
      · have ends := t.after_authorization_defines request names contexts code
        rw [← ended] at ends
        cases defined : t.definition request names contexts with
        | error e =>
            rw [defined] at ends
            have undefined : s.definesIndex locality octets = false := by simp [definesIndex, prepared, ran, defined, found]
            rw [ends, undefined]
            simpa using settled
        | ok index =>
            rw [defined] at ends
            have defines : s.definesIndex locality octets = true := by
              simp [definesIndex, prepared, ran, defined, found, code]
            have absent := turned_absent _ t turned _ (t.definition_absent request names contexts index defined)
            rw [nullify_shutdown_nv] at absent
            rw [defines]
            refine ⟨fun still => ?_, fun never => absurd never.1 (by decide)⟩
            have here := still index.area.nvIndex
            rw [ends] at here
            unfold NvStore.lastingAt at here
            rw [SortedMap.get_insert, if_pos rfl, absent] at here
            cases here
      · have kept := after_authorization_lasting_at (nullifyShutdown request s) t request names contexts
          (by rw [nullify_shutdown_read_only, readOnly]) checked (apart request parsed) turned code
        have undefined : s.definesIndex locality octets = false := by simp [definesIndex, prepared, ran, code]
        rw [undefined, ended, ← settled]
        simp [kept]

end TpmState

-- In Read-Only mode a command keeps all that is persistent exactly when it defines no Index and turns no lasting PIN.
theorem read_only_keeps_still (s : TpmState) (locality : UInt8) (octets : Bytes)
    (readOnly : s.startupClear.has StartupClearAttributes.readOnly = true)
    (apart : ∀ request, parse octets locality = .ok request → request.code ∉ readOnlyExempt) :
    s.Still (s.run locality octets).2 ↔ s.definesIndex locality octets = false ∧ s.MovesNoLastingPin locality octets := by
  rw [← s.run_lasting_at locality octets readOnly apart]
  exact ⟨fun still => still.2, fun still => ⟨s.run_lasting locality octets readOnly apart, still⟩⟩

end

namespace Toy

def setReadOnly : Bytes := authorizedCommand Cc.readOnlyControl [Rh.platform] [(Rh.rsPw, [])] (be8 1)

def defineWide : Bytes :=
  authorizedCommand Cc.nvDefineSpace2 [Rh.owner] [(Rh.rsPw, [])] (sized16 [] ++ sized16 (be8 Ht.nvIndex ++
    NvPublic.marshal { nvIndex := Hc.nvIndexFirst, nameAlg := Alg.sha256
                       attributes := ⟨NvAttributes.ownerwrite ||| NvAttributes.ownerread⟩
                       authPolicy := Tpm2b.empty, dataSize := 8 }))

-- A device put into Read-Only mode by its platform.
def heldStill (s : TpmState) : TpmState := ((Tpm.manufactured s).afterAll (startedWith [setReadOnly])).state

def spares (octets : Bytes) : Bool := found (parse octets 0) fun request => !readOnlyExempt.contains request.code

theorem apart_of_spares (octets : Bytes) (spared : spares octets = true) :
    ∀ request, parse octets 0 = .ok request → request.code ∉ readOnlyExempt := by
  intro request parsed
  simpa [spares, found, parsed] using spared

-- TPM2_NV_DefineSpace2 is missing from the list of the commands that the mode refuses.
theorem read_only_defines_index : ¬ ∀ (s : TpmState) (locality : UInt8) (octets : Bytes),
    s.startupClear.has StartupClearAttributes.readOnly = true →
    (∀ request, parse octets locality = .ok request → request.code ∉ readOnlyExempt) →
    s.Still (s.run locality octets).2 := by
  intro keeps
  have tested : found (TpmState.manufacture (List.replicate 48 7)) (fun s =>
      (heldStill s).startupClear.has StartupClearAttributes.readOnly && spares defineWide &&
        decide ((heldStill s).nv.lastingAt Hc.nvIndexFirst = none) &&
        ((((heldStill s).run 0 defineWide).2.nv.lastingAt Hc.nvIndexFirst).isSome)) = true := by
    rw [manufacture_made]
    decide +kernel
  obtain ⟨s, _, tested⟩ := ok_of_found _ _ tested
  simp only [Bool.and_eq_true, decide_eq_true_eq] at tested
  obtain ⟨⟨⟨readOnly, spared⟩, absent⟩, defined⟩ := tested
  have still := (keeps _ 0 defineWide readOnly (apart_of_spares _ spared)).2 Hc.nvIndexFirst
  rw [still, absent] at defined
  cases defined

-- The same with a written PIN Fail Index.
def pinHeldStill (s : TpmState) : TpmState :=
  ((Tpm.manufactured s).afterAll (startedWith [definePin Nt.pinFail, writePin 2, setReadOnly])).state

def turnsPin (s : TpmState) (handle : UInt32) (index : NvIndex) (octets : Bytes) : Bool :=
  !index.isVolatile && found index.pin fun pin =>
    decide (((s.pinComparisons handle 0 octets).foldl Pin.turn pin).counters ≠ pin.counters)

-- Reading the Index with its PIN keeps all that is persistent, and trying another PIN counts a failure.
theorem read_only_reads_still : ∃ s : TpmState, s.startupClear.has StartupClearAttributes.readOnly = true ∧
    (s.nv.get pinHandle).isOk = true ∧ s.Still (s.run 0 (readPin [5])).2 ∧ ¬ s.Still (s.run 0 (readPin [6])).2 := by
  have tested : found (TpmState.manufacture (List.replicate 48 7)) (fun s =>
      (pinHeldStill s).startupClear.has StartupClearAttributes.readOnly &&
        (spares (readPin [5]) && !((pinHeldStill s).definesIndex 0 (readPin [5]))) &&
        ((pinHeldStill s).nv.indices.entries.all fun (handle, index) =>
          !(turnsPin (pinHeldStill s) handle index (readPin [5]))) &&
        (spares (readPin [6]) && found ((pinHeldStill s).nv.get pinHandle) fun index =>
          turnsPin (pinHeldStill s) pinHandle index (readPin [6]))) = true := by
    rw [manufacture_made]
    decide +kernel
  obtain ⟨s, _, tested⟩ := ok_of_found _ _ tested
  simp only [Bool.and_eq_true, Bool.not_eq_true'] at tested
  obtain ⟨⟨⟨readOnly, spared, undefined⟩, unturned⟩, sparedToo, turned⟩ := tested
  obtain ⟨pinned, held, turns⟩ := ok_of_found _ _ turned
  refine ⟨pinHeldStill s, readOnly, by rw [held]; rfl, ?_, ?_⟩
  · apply (read_only_keeps_still _ 0 _ readOnly (apart_of_spares _ spared)).mpr
    refine ⟨undefined, fun handle index pin known lasting counts => ?_⟩
    by_contra moved
    have member := find_entry_mem handle index _ ((NvStore.get_is_ok _ handle index).mp known)
    have same := List.all_eq_true.mp unturned _ member
    simp [turnsPin, lasting, counts, found, moved] at same
  · intro still
    obtain ⟨_, unmoved⟩ := (read_only_keeps_still _ 0 _ readOnly (apart_of_spares _ sparedToo)).mp still
    simp only [turnsPin, Bool.and_eq_true, Bool.not_eq_true'] at turns
    obtain ⟨pin, counts, moved⟩ := ok_of_found _ _ turns.2
    exact of_decide_eq_true moved (unmoved pinHandle pinned pin held turns.1 counts)

end Toy

end Swtrust
