import Swtrust.Nv.Shape
import Swtrust.Pin.Handlers
import Swtrust.Library.Guarantee
import Swtrust.Library.Total

set_option autoImplicit false
set_option linter.unusedSectionVars false

namespace Swtrust

open Library Action

theorem sized_read (max : Nat) (value : Tpm2b max) (rest input : Bytes)
    (read : (Tpm2b.unmarshal : Reader (Tpm2b max)).run input = .ok (value, rest)) :
    value.buffer.length = beNat (input.take 2) := by
  have taken : ∀ (count : Nat) (input : Bytes) (result : Bytes × Bytes),
      (takeOctets Rc.insufficient count : Reader Bytes).run input = .ok result →
      result = (input.take count, input.drop count) ∧ (input.take count).length = count := by
    intro count input result ran
    simp only [StateT.run, takeOctets] at ran
    split at ran
    · cases ran
    next long =>
      cases ran
      exact ⟨rfl, by simp; omega⟩
  simp only [Tpm2b.unmarshal, u16, takeNat, take, StateT.run_bind, bind_is_ok, StateT.run_pure, pure_is_ok] at read
  obtain ⟨⟨size, later⟩, ⟨⟨n, more⟩, ⟨octets, two, got⟩, last⟩, read⟩ := read
  obtain ⟨rfl, width⟩ := taken 2 input octets two
  cases got
  cases last
  have small : beNat (input.take 2) < 2 ^ 16 := by
    have bounded := be_nat_lt (input.take 2)
    rwa [width] at bounded
  have sized : (UInt16.ofNat (beNat (input.take 2))).toNat = beNat (input.take 2) :=
    UInt16.toNat_ofNat_of_lt' small
  dsimp only at read
  rw [sized] at read
  by_cases large : max < beNat (input.take 2)
  · rw [if_pos large] at read
    cases read
  · rw [if_neg large, StateT.run_bind, bind_is_ok] at read
    obtain ⟨⟨buffer, _⟩, body, made⟩ := read
    obtain ⟨same, long⟩ := taken _ _ _ body
    cases same
    dsimp only at made
    have whole : (Tpm2b.new ((input.drop 2).take (beNat (input.take 2))) : TpmResult (Tpm2b max)) = .ok value := by
      cases built : (Tpm2b.new ((input.drop 2).take (beNat (input.take 2))) : TpmResult (Tpm2b max)) with
      | error e =>
          rw [built] at made
          cases made
      | ok other =>
          rw [built] at made
          cases made
          rfl
    rw [Tpm2b.new_buffer _ _ whole]
    exact long

theorem sized_parameter {max : Nat} (request : Request) (position : Nat) (value : Tpm2b max)
    (read : request.params (Reader.withParameter position Tpm2b.unmarshal) = .ok value) :
    value.buffer.length = beNat (request.parameters.take 2) := by
  simp only [Request.params, Request.read, bind_is_ok, pure_is_ok, StateT.run_bind, Prod.exists] at read
  obtain ⟨_, _, ⟨made, rest, taken, _, _, _, given⟩, rfl⟩ := read
  cases given
  simp only [StateT.run, Reader.withParameter, Reader.mapErr, map_error_is_ok] at taken
  exact sized_read max _ rest request.parameters taken

namespace NvIndex

-- An Index with the same public area but its attributes, and as a counter with the same contents.
structure Revised [Profile] (before after : NvIndex) : Prop where
  area : after.area = { before.area with attributes := after.area.attributes }
  auth : after.auth = before.auth
  indexType : after.indexType = before.indexType
  orderly : after.area.attributes.has NvAttributes.orderly = before.area.attributes.has NvAttributes.orderly
  clearStclear : after.area.attributes.has NvAttributes.clearStclear = before.area.attributes.has NvAttributes.clearStclear
  counter : before.indexType = Nt.counter → after.data = before.data ∧ after.written = before.written
  shaped : before.Shaped → after.Shaped

section

variable [Profile]

theorem revised_self (index : NvIndex) : Revised index index := ⟨rfl, rfl, rfl, rfl, rfl, fun _ => ⟨rfl, rfl⟩, id⟩

theorem revised_read_lock (index : NvIndex) (locked : Bool) : Revised index (index.setReadLock locked) :=
  ⟨rfl, rfl, index.set_lock_type _ locked (by decide), index.set_lock_apart _ _ locked (by decide),
    index.set_lock_apart _ _ locked (by decide),
    fun _ => ⟨rfl, index.set_lock_written _ locked (by decide)⟩, index.shaped_read_lock locked⟩

theorem revised_write_lock (index : NvIndex) (locked : Bool) : Revised index (index.setWriteLock locked) :=
  ⟨rfl, rfl, index.set_lock_type _ locked (by decide), index.set_lock_apart _ _ locked (by decide),
    index.set_lock_apart _ _ locked (by decide),
    fun _ => ⟨rfl, index.set_lock_written _ locked (by decide)⟩, index.shaped_write_lock locked⟩

theorem revised_written (index : NvIndex) (data : Bytes) (plain : index.indexType ≠ Nt.counter)
    (shaped : index.Shaped → ({ index with data } : NvIndex).setWritten.Shaped) :
    Revised index { index with data }.setWritten :=
  ⟨rfl, rfl, { index with data }.set_written_type, { index with data }.set_written_apart _ (by decide),
    { index with data }.set_written_apart _ (by decide), fun counter => absurd counter plain, shaped⟩

theorem write_revised (index next : NvIndex) (offset : UInt16) (value : Bytes) (plain : index.indexType ≠ Nt.counter)
    (written : index.write offset value = .ok next) : Revised index next := by
  have shaped := index.shaped_write next offset value written
  unfold write at written
  dsimp only at written
  split at written
  · cases written
  · split at written
    · cases written
    · obtain rfl := Except.ok.inj written
      exact index.revised_written _ plain shaped

theorem set_bits_revised (index next : NvIndex) (bits : UInt64) (set : index.setBits bits = .ok next) :
    Revised index next := by
  have shaped := index.shaped_set_bits next bits set
  unfold setBits at set
  rw [guarded_then_is_ok] at set
  obtain ⟨typed, set⟩ := set
  have plain : index.indexType ≠ Nt.counter := by
    rw [not_not.mp typed]
    decide
  split at set
  · simp only [bind_is_ok, pure_is_ok] at set
    obtain ⟨_, _, rfl⟩ := set
    exact index.revised_written _ plain shaped
  · simp only [bind_is_ok, pure_is_ok] at set
    obtain ⟨_, _, rfl⟩ := set
    exact index.revised_written _ plain shaped

end

theorem extend_revised [Crypto] (index next : NvIndex) (value : Bytes) (extended : index.extend value = .ok next) :
    Revised index next := by
  have shaped := index.shaped_extend next value extended
  unfold extend at extended
  rw [guarded_then_is_ok] at extended
  obtain ⟨typed, extended⟩ := extended
  split at extended
  · cases extended
  · simp only [bind_is_ok, pure_is_ok] at extended
    obtain ⟨_, _, rfl⟩ := extended
    refine index.revised_written _ ?_ shaped
    rw [not_not.mp typed]
    decide

end NvIndex

-- The commands that define an Index, and those that revise one.
def definingCommands : List UInt32 := [Cc.nvDefineSpace, Cc.nvDefineSpace2]

def revisingCommands : List UInt32 := [Cc.nvWrite, Cc.nvExtend, Cc.nvSetBits, Cc.nvWriteLock, Cc.nvReadLock]

-- All that the handler of a command does to the NV store.
inductive NvMove [Profile] (request : Request) (before : NvStore) : NvStore → Prop where
  | same : NvMove request before before
  | define (index : NvIndex) (blank : index.written = false) (shaped : index.Shaped)
      (lasting : index.indexType = Nt.counter → index.area.attributes.has NvAttributes.clearStclear = false)
      (ranged : NvStore.isNvHandle index.area.nvIndex = true) (absent : before.indices.get index.area.nvIndex = none)
      (fits : index.footprint ≤ before.available) (coded : request.code ∈ definingCommands) :
      NvMove request before { before with indices := before.indices.insert index.area.nvIndex index }
  | undefine (handle : UInt32) (index : NvIndex) (held : before.get handle = .ok index)
      (coded : request.code = Cc.nvUndefineSpace ∨ request.code = Cc.nvUndefineSpaceSpecial) :
      NvMove request before ({ before with indices := before.indices.erase handle }.noteCounter index)
  | revise (handle : UInt32) (index next : NvIndex) (held : before.get handle = .ok index) (revised : index.Revised next)
      (named : request.handle 1 = .ok handle) (coded : request.code ∈ revisingCommands) :
      NvMove request before (before.put handle next)
  | increment (coded : request.code = Cc.nvIncrement) (handle : UInt32) (named : request.handle 1 = .ok handle)
      (index next : NvIndex) (value : UInt64) (held : before.get handle = .ok index)
      (counted : index.increment before.highestCounter = .ok (value, next)) :
      NvMove request before ((before.put handle next).raiseFloor value)
  | changeAuth (coded : request.code = Cc.nvChangeAuth) (handle : UInt32) (named : request.handle 0 = .ok handle)
      (index : NvIndex) (held : before.get handle = .ok index) (auth : Bytes)
      (sized : auth.length = beNat (request.parameters.take 2)) :
      NvMove request before (before.put handle { index with auth })
  | lockAll (coded : request.code = Cc.nvGlobalWriteLock) : NvMove request before before.globalWriteLock
  | startup (coded : request.code = Cc.startup) (restart disorderly : Bool) :
      NvMove request before (before.onStartupClearWith restart disorderly)
  | clear (coded : request.code = Cc.clear) : NvMove request before before.clearOwnerIndices

section

variable [Primitives]

section

variable (s : TpmState) (request : Request)

-- An action on the NV of a command makes one move.
def Moving {α : Type} (action : Action TpmRc NvScope α) : Prop :=
  Reaches (fun t : NvScope => t.nv) s.nv action (NvMove request s.nv)

variable {s request}

theorem moving_lift {α β : Type} (result : TpmResult β) (next : β → Action TpmRc NvScope α)
    (rest : ∀ b, result = .ok b → Moving s request (next b)) : Moving s request (liftM result >>= next) :=
  reaches_lift _ _ _ .same result next rest

theorem moving_guard {α β : Type} (c : Prop) [Decidable c] (e : TpmRc) (next : β → Action TpmRc NvScope α)
    (rest : Action TpmRc NvScope α) (moving : ¬ c → Moving s request rest) :
    Moving s request (if c then (throw e : Action TpmRc NvScope β) >>= next else rest) :=
  reaches_guard _ _ _ .same c e next rest moving

theorem moving_modify {α : Type} (f : NvStore → NvStore) (next : PUnit → Action TpmRc NvScope α)
    (kept : ∀ u, Keeps (·.nv) (next u)) (moved : NvMove request s.nv (f s.nv)) :
    Moving s request (modifyNv f >>= next) := by
  refine reaches_then _ _ _ _ _ kept fun t same => ?_
  change NvMove request s.nv (f t.nv)
  rw [show t.nv = s.nv from same]
  exact moved

variable (s request)

-- The size that the type of an Index asks for.
theorem required_size (area : NvPublic) (digest : Option Nat)
    (valid : (do
      let required ←
        if area.attributes.indexType = Nt.counter ∨ area.attributes.indexType = Nt.bits ∨
            area.attributes.indexType = Nt.pinFail ∨ area.attributes.indexType = Nt.pinPass then pure (some 8)
        else if area.attributes.indexType = Nt.extend then pure digest
        else if area.attributes.indexType = Nt.ordinary then pure none
        else throw (Rc.attributes.withParameter 2)
      match required with
      | some n => if area.dataSize.toNat ≠ n then throw (Rc.size.withParameter 2)
      | none => pure ()
      if Config.maxNvIndexSize < area.dataSize.toNat then throw (Rc.size.withParameter 2) : TpmResult Unit) = .ok ()) :
    (area.attributes.indexType = Nt.counter ∨ area.attributes.indexType = Nt.bits ∨
        area.attributes.indexType = Nt.pinFail ∨ area.attributes.indexType = Nt.pinPass → area.dataSize.toNat = 8) ∧
      (area.attributes.indexType = Nt.extend → ∀ size, digest = some size → area.dataSize.toNat = size) := by
  dsimp only at valid
  by_cases wide : area.attributes.indexType = Nt.counter ∨ area.attributes.indexType = Nt.bits ∨
      area.attributes.indexType = Nt.pinFail ∨ area.attributes.indexType = Nt.pinPass
  · rw [if_pos wide, pure_bind] at valid
    dsimp only at valid
    rw [guarded_then_is_ok] at valid
    refine ⟨fun _ => not_not.mp valid.1, fun extend => ?_⟩
    rw [extend] at wide
    exact absurd wide (by decide)
  · refine ⟨fun named => absurd named wide, fun extend size sized => ?_⟩
    rw [if_neg wide, if_pos extend, pure_bind, sized] at valid
    dsimp only at valid
    rw [guarded_then_is_ok] at valid
    exact not_not.mp valid.1

theorem valid_public_sized (authHandle : UInt32) (area : NvPublic) (valid : s.validateNewPublic area authHandle = .ok ()) :
    area.attributes.has NvAttributes.written = false ∧
      (area.attributes.indexType = Nt.counter ∨ area.attributes.indexType = Nt.bits ∨
          area.attributes.indexType = Nt.pinFail ∨ area.attributes.indexType = Nt.pinPass → area.dataSize.toNat = 8) ∧
      (area.attributes.indexType = Nt.extend → ∀ size, digestSize area.nameAlg = some size → area.dataSize.toNat = size) := by
  simp only [TpmState.validateNewPublic, guarded_then_is_ok] at valid
  obtain ⟨_, _, _, _, _, _, _, valid⟩ := valid
  by_cases policy : (!area.authPolicy.isEmpty) = true
  · rw [if_pos policy] at valid
    cases sized : digestSize area.nameAlg with
    | none =>
        rw [sized] at valid
        change (Except.error _ : TpmResult Unit) = .ok () at valid
        cases valid
    | some want =>
        rw [sized] at valid
        dsimp only at valid
        rw [guarded_then_is_ok, guarded_then_is_ok] at valid
        exact ⟨Bool.eq_false_iff.mpr valid.2.1, required_size area (some want) valid.2.2⟩
  · rw [if_neg policy, guarded_then_is_ok] at valid
    exact ⟨Bool.eq_false_iff.mpr valid.1, required_size area (digestSize area.nameAlg) valid.2⟩

-- What a definition that was let through makes of its Index.
theorem check_definition_shaped (authHandle : UInt32) (auth : Bytes) (area : NvPublic)
    (checked : s.checkDefinition authHandle auth area = .ok ()) :
    NvIndex.Shaped { area, auth, data := [], readLocked := false, writeLocked := false } := by
  simp only [TpmState.checkDefinition, bind_is_ok, guarded_then_is_ok, map_error_is_ok] at checked
  obtain ⟨_, valid, nameDigest, sized, _, _, _, _, unlocked, _⟩ := checked
  obtain ⟨unwritten, wide, digest⟩ := valid_public_sized s authHandle area valid
  rw [not_or] at unlocked
  refine ⟨fun _ => rfl, fun written => ?_, fun named => wide ?_, fun extend => ?_, ?_, ?_⟩
  · exact absurd (unwritten.symm.trans written) (by decide)
  · simp only [NvIndex.isWide, NvIndex.isPin, NvIndex.indexType, Bool.or_eq_true, beq_iff_eq] at named
    rcases named with (counter | bits) | pinFail | pinPass
    · exact .inl counter
    · exact .inr (.inl bits)
    · exact .inr (.inr (.inl pinFail))
    · exact .inr (.inr (.inr pinPass))
  · rw [digest extend nameDigest (digest_size_of_hash _ _ sized)]
    exact sized
  · exact (Bool.eq_false_iff.mpr unlocked.1).symm
  · exact (Bool.eq_false_iff.mpr unlocked.2).symm

theorem check_definition_unwritten (authHandle : UInt32) (auth : Bytes) (area : NvPublic)
    (checked : s.checkDefinition authHandle auth area = .ok ()) : area.attributes.has NvAttributes.written = false := by
  simp only [TpmState.checkDefinition, bind_is_ok] at checked
  obtain ⟨_, valid, -⟩ := checked
  exact (valid_public_sized s authHandle area valid).1

theorem check_definition_lasting (authHandle : UInt32) (auth : Bytes) (area : NvPublic)
    (checked : s.checkDefinition authHandle auth area = .ok ()) (counter : area.attributes.indexType = Nt.counter) :
    area.attributes.has NvAttributes.clearStclear = false := by
  simp only [TpmState.checkDefinition, bind_is_ok] at checked
  obtain ⟨_, valid, -⟩ := checked
  simp only [TpmState.validateNewPublic, guarded_then_is_ok] at valid
  obtain ⟨_, _, _, apart, -⟩ := valid
  cases cleared : area.attributes.has NvAttributes.clearStclear with
  | false => rfl
  | true => exact absurd ⟨counter, cleared⟩ apart

theorem define_moving (coded : request.code ∈ definingCommands) (authHandle : UInt32) (auth : Bytes) (area : NvPublic) :
    Moving s request (define s authHandle auth area) := by
  refine moving_lift _ _ fun _ checked => ?_
  refine reaches_then _ _ _ _ _ (fun _ => keeps_pure _ _) fun t same => ?_
  let index : NvIndex := { area, auth, data := [], readLocked := false, writeLocked := false }
  have unwritten : index.written = false := check_definition_unwritten s authHandle auth area checked
  have lasting := check_definition_lasting s authHandle auth area checked
  have noted : s.nv.noteCounter index = s.nv := by
    unfold NvStore.noteCounter
    simp [unwritten]
  have outside : NvMove request s.nv (final (NvStore.define index s.nv)) := by
    unfold NvStore.define
    rw [run_modify_bind, noted, run_get_bind]
    dsimp only
    split
    · exact .same
    next ranged =>
      split
      · exact .same
      next free =>
        split
        · exact .same
        next fits =>
          refine .define index unwritten (check_definition_shaped s authHandle auth area checked)
            lasting (by simpa using ranged) ?_ (Nat.le_of_not_lt fits)
            coded
          simpa [SortedMap.contains] using free
  have same : t.nv = s.nv := same
  rw [← same] at outside ⊢
  unfold zoomStore Action.zoom
  dsimp only
  cases ran : NvStore.define index t.nv with
  | ok u nv =>
      rw [ran] at outside
      exact outside
  | error e nv =>
      rw [ran] at outside
      exact outside

theorem define_space_moving (coded : request.code = Cc.nvDefineSpace) : Moving s request (nvDefineSpace s request) := by
  refine moving_lift _ _ fun authHandle _ => moving_lift _ _ fun parameters _ => ?_
  exact define_moving s request (by rw [coded]; decide) authHandle parameters.1 parameters.2

theorem define_space2_moving (coded : request.code = Cc.nvDefineSpace2) : Moving s request (nvDefineSpace2 s request) := by
  refine moving_lift _ _ fun authHandle _ => moving_lift _ _ fun parameters _ => ?_
  obtain ⟨auth, area2⟩ := parameters
  cases area2 with
  | index area => exact define_moving s request (by rw [coded]; decide) authHandle auth area
  | permanent area => exact define_moving s request (by rw [coded]; decide) authHandle auth area
  | external area => exact reaches_keeps _ _ _ .same _ (keeps_throw _ _)

theorem undefine_moving (coded : request.code = Cc.nvUndefineSpace ∨ request.code = Cc.nvUndefineSpaceSpecial)
    (handle : UInt32) (nv : NvStore) (undefined : s.nv.undefine handle = .ok nv)
    (next : PUnit → Action TpmRc NvScope Response) (kept : ∀ u, Keeps (·.nv) (next u)) :
    Moving s request (modifyNv (fun _ => nv) >>= next) := by
  refine moving_modify _ _ kept ?_
  simp only [NvStore.undefine, bind_is_ok, pure_is_ok] at undefined
  obtain ⟨index, held, rfl⟩ := undefined
  exact .undefine handle index held coded

theorem undefine_space_moving (coded : request.code = Cc.nvUndefineSpace) :
    Moving s request (nvUndefineSpace s request) := by
  refine moving_lift _ _ fun authHandle _ => moving_lift _ _ fun nvHandle _ => moving_lift _ _ fun index _ => ?_
  refine moving_guard _ _ _ _ fun _ => moving_guard _ _ _ _ fun _ => ?_
  have last : Moving s request (do
      let nv ← s.nv.undefine nvHandle
      modifyNv fun _ => nv
      return Response.notReading request [] : Action TpmRc NvScope Response) :=
    moving_lift _ _ fun nv undefined => undefine_moving s request (.inl coded) nvHandle nv undefined _ fun _ => keeps_pure _ _
  split
  · exact moving_guard _ _ _ _ fun _ => last
  · exact last

theorem undefine_space_special_moving (coded : request.code = Cc.nvUndefineSpaceSpecial) :
    Moving s request (nvUndefineSpaceSpecial s request) := by
  refine moving_lift _ _ fun nvHandle _ => moving_lift _ _ fun platform _ => ?_
  refine moving_guard _ _ _ _ fun _ => moving_lift _ _ fun index _ => moving_guard _ _ _ _ fun _ => ?_
  exact moving_lift _ _ fun nv undefined => undefine_moving s request (.inr coded) nvHandle nv undefined _
    fun _ => keeps_pure _ _

theorem writable_held (handle authHandle : UInt32) (index : NvIndex)
    (writable : s.writable request handle authHandle = .ok index) : s.nv.get handle = .ok index := by
  simp only [TpmState.writable, TpmState.indexAt, bind_is_ok, withHandle, map_error_is_ok, guarded_then_is_ok,
    pure_is_ok] at writable
  obtain ⟨_, held, _, _, _, rfl⟩ := writable
  exact held

theorem write_index_moving {α : Type} (coded : request.code ∈ revisingCommands) (parameters : Reader α)
    (change : α → NvIndex → TpmResult NvIndex)
    (revises : ∀ value index next, change value index = .ok next → index.Revised next) :
    Moving s request (writeIndex s request parameters change) := by
  refine moving_lift _ _ fun authHandle _ => moving_lift _ _ fun nvHandle named => moving_lift _ _ fun value _ => ?_
  refine moving_lift _ _ fun index writable => moving_lift _ _ fun next changed => ?_
  refine moving_modify _ _ (fun _ => ?_) ?_
  · exact keeps_bind _ _ _ (keeps_note_orderly_write _) fun _ => keeps_pure _ _
  · exact .revise nvHandle index next (writable_held s request nvHandle authHandle index writable)
      (revises value index next changed) named coded

theorem write_moving (coded : request.code = Cc.nvWrite) : Moving s request (nvWrite s request) := by
  refine write_index_moving s request (by rw [coded]; decide) _ _ fun value index next changed => ?_
  rw [guarded_then_is_ok] at changed
  obtain ⟨typed, changed⟩ := changed
  rw [map_error_is_ok] at changed
  exact index.write_revised next _ _ (fun counter => typed (.inl counter)) changed

theorem increment_moving (coded : request.code = Cc.nvIncrement) : Moving s request (nvIncrement s request) := by
  refine moving_lift _ _ fun authHandle _ => moving_lift _ _ fun nvHandle named => moving_lift _ _ fun _ _ => ?_
  refine moving_lift _ _ fun nv incremented => moving_modify _ _ (fun _ => ?_) ?_
  · exact keeps_bind _ _ _ (keeps_note_orderly_write _) fun _ => keeps_pure _ _
  · simp only [NvStore.increment, bind_is_ok, pure_is_ok] at incremented
    obtain ⟨index, held, ⟨value, next⟩, counted, rfl⟩ := incremented
    exact .increment coded nvHandle named index next value held counted

theorem index_at_held (handle : UInt32) (position : Nat) (index : NvIndex)
    (found : s.indexAt handle position = .ok index) : s.nv.get handle = .ok index := by
  simpa only [TpmState.indexAt, withHandle, map_error_is_ok] using found

theorem write_lock_moving (coded : request.code = Cc.nvWriteLock) : Moving s request (nvWriteLock s request) := by
  refine moving_lift _ _ fun authHandle _ => moving_lift _ _ fun nvHandle named => moving_lift _ _ fun index found => ?_
  refine moving_lift _ _ fun _ _ => moving_guard _ _ _ _ fun _ => moving_modify _ _ (fun _ => keeps_pure _ _) ?_
  exact .revise nvHandle index _ (index_at_held s nvHandle 2 index found) (index.revised_write_lock true) named
    (by rw [coded]; decide)

theorem read_lock_moving (coded : request.code = Cc.nvReadLock) : Moving s request (nvReadLock s request) := by
  refine moving_lift _ _ fun authHandle _ => moving_lift _ _ fun nvHandle named => moving_lift _ _ fun index found => ?_
  refine moving_lift _ _ fun _ _ => moving_guard _ _ _ _ fun _ => moving_modify _ _ (fun _ => keeps_pure _ _) ?_
  exact .revise nvHandle index _ (index_at_held s nvHandle 2 index found) (index.revised_read_lock true) named
    (by rw [coded]; decide)

theorem change_auth_moving (coded : request.code = Cc.nvChangeAuth) : Moving s request (nvChangeAuth s request) := by
  refine moving_lift _ _ fun nvHandle named => moving_lift _ _ fun newAuth read => moving_lift _ _ fun index found => ?_
  refine moving_lift _ _ fun limit _ => moving_guard _ _ _ _ fun _ => moving_modify _ _ (fun _ => keeps_pure _ _) ?_
  refine .changeAuth coded nvHandle named index (index_at_held s nvHandle 1 index found) newAuth.buffer ?_
  exact sized_parameter request 1 newAuth read

theorem global_write_lock_moving (coded : request.code = Cc.nvGlobalWriteLock) :
    Moving s request (nvGlobalWriteLock request) :=
  moving_modify _ _ (fun _ => keeps_pure _ _) (.lockAll coded)

theorem reaches_handler (run : TpmState → Request → Action TpmRc NvScope Response) (moving : Moving s request (run s request))
    (handler : handlerOf request.code = some (.plain .nv run)) :
    NvMove request s.nv (final (runCommand request s)).nv := by
  have ended := moving ⟨s.nv, s.startupClear⟩ rfl
  unfold runCommand
  rw [handler]
  change NvMove request s.nv (final ((Response.reply <$> TpmState.zoomNvScope (run s request) : TpmM Reply) s)).nv
  simp only [Functor.map, EStateM.map, TpmState.zoomNvScope, Action.zoom]
  cases ran : run s request ⟨s.nv, s.startupClear⟩ with
  | ok response t =>
      rw [ran] at ended
      exact ended
  | error e t =>
      rw [ran] at ended
      exact ended

theorem nv_command_moves (listed : request.code ∈ nvCommands) : NvMove request s.nv (final (runCommand request s)).nv := by
  simp only [nvCommands, List.mem_cons, List.not_mem_nil, or_false] at listed
  rcases listed with code | code | code | code | code | code | code | code | code | code | code | code
  · exact reaches_handler s request _ (define_space_moving s request code) (by rw [code]; rfl)
  · exact reaches_handler s request _ (define_space2_moving s request code) (by rw [code]; rfl)
  · exact reaches_handler s request _ (undefine_space_moving s request code) (by rw [code]; rfl)
  · exact reaches_handler s request _ (undefine_space_special_moving s request code) (by rw [code]; rfl)
  · exact reaches_handler s request _ (write_moving s request code) (by rw [code]; rfl)
  · exact reaches_handler s request _ (increment_moving s request code) (by rw [code]; rfl)
  · exact reaches_handler s request nvExtend (write_index_moving s request (by rw [code]; decide) _ _ fun value index next =>
      index.extend_revised next value) (by rw [code]; rfl)
  · exact reaches_handler s request nvSetBits (write_index_moving s request (by rw [code]; decide) _ _ fun bits index next =>
      index.set_bits_revised next bits) (by rw [code]; rfl)
  · exact reaches_handler s request _ (write_lock_moving s request code) (by rw [code]; rfl)
  · exact reaches_handler s request _ (global_write_lock_moving s request code) (by rw [code]; rfl)
  · exact reaches_handler s request _ (read_lock_moving s request code) (by rw [code]; rfl)
  · exact reaches_handler s request _ (change_auth_moving s request code) (by rw [code]; rfl)

end

section

variable (request : Request) (store : NvStore)

open TpmState

theorem startup_clear_nv_moves (coded : request.code = Cc.startup) (locality : UInt8) :
    Ensures (fun s : TpmState => s.nv = store) (onStartupClear locality)
      (fun _ s => NvMove request store s.nv) fun s => NvMove request store s.nv := by
  have falls : ∀ s : TpmState, s.nv = store → NvMove request store s.nv := fun s same => by
    rw [same]
    exact .same
  have cleared : ∀ restart disorderly : Bool, Ensures (fun s : TpmState => s.nv = store)
      (modify fun s => { s with nv := s.nv.onStartupClearWith restart disorderly } : TpmM PUnit)
      (fun _ s => NvMove request store s.nv) fun s => NvMove request store s.nv := by
    intro restart disorderly
    refine ensures_modify _ _ _ _ fun s same => ?_
    change NvMove request store (s.nv.onStartupClearWith restart disorderly)
    rw [same]
    exact .startup coded restart disorderly
  refine ensures_keeps_bind (fun s : TpmState => s.nv) (· = store) _ _ _ _ (keeps_get _) falls fun s => ?_
  refine ensures_keeps_bind (fun s : TpmState => s.nv) (· = store) _ _ _ _ (keeps_zoom _ _ _ _ fun _ _ => rfl) falls fun _ => ?_
  refine ensures_keeps_bind (fun s : TpmState => s.nv) (· = store) _ _ _ _ (keeps_modify _ _ fun _ => rfl) falls fun _ => ?_
  by_cases restart : (s.shutdownType == Su.state) = true
  · simp only [restart, Bool.not_true, Bool.false_eq_true, if_false, if_true]
    refine ensures_keeps_bind (fun s : TpmState => s.nv) (· = store) _ _ _ _ (keeps_modify _ _ fun _ => rfl) falls fun _ => ?_
    refine ensures_keeps_bind (fun s : TpmState => s.nv) (· = store) _ _ _ _ (keeps_modify _ _ fun _ => rfl) falls fun _ => ?_
    refine ensures_bind _ _ _ _ _ _ (cleared _ _) fun _ => ?_
    refine ensures_of_keeps (fun s : TpmState => s.nv) (NvMove request store) _ ?_
    refine keeps_bind _ _ _ (keeps_modify _ _ fun _ => rfl) fun _ => ?_
    refine keeps_bind _ _ _ (keeps_modify _ _ fun _ => rfl) fun _ => ?_
    exact keeps_nv_after_time _ _ (keeps_nv_start_timers _ _ _)
  · simp only [restart, Bool.not_false, Bool.false_eq_true, if_false, if_true]
    refine ensures_keeps_bind (fun s : TpmState => s.nv) (· = store) _ _ _ _ (keeps_modify _ _ fun _ => rfl) falls fun _ => ?_
    refine ensures_keeps_bind (fun s : TpmState => s.nv) (· = store) _ _ _ _ (keeps_modify _ _ fun _ => rfl) falls fun _ => ?_
    refine ensures_keeps_bind (fun s : TpmState => s.nv) (· = store) _ _ _ _ (keeps_modify _ _ fun _ => rfl) falls fun _ => ?_
    refine ensures_bind _ _ _ _ _ _ (cleared _ _) fun _ => ?_
    refine ensures_of_keeps (fun s : TpmState => s.nv) (NvMove request store) _ ?_
    refine keeps_bind _ _ _ (keeps_modify _ _ fun _ => rfl) fun _ => ?_
    refine keeps_bind _ _ _ (keeps_zoom _ _ _ _ fun _ _ => rfl) fun _ => ?_
    refine keeps_bind _ _ _ (keeps_modify _ _ fun _ => rfl) fun _ => ?_
    refine keeps_bind _ _ _ (keeps_modify _ _ fun _ => rfl) fun _ => ?_
    refine keeps_nv_after_time _ _ ?_
    refine keeps_bind _ _ _ (keeps_modify _ _ fun _ => rfl) fun _ => ?_
    exact keeps_bind _ _ _ (keeps_zoom _ _ _ _ fun _ _ => rfl) fun _ => keeps_nv_start_timers _ _ _

theorem startup_nv_moves (coded : request.code = Cc.startup) :
    Ensures (fun s : TpmState => s.nv = store) (startup request)
      (fun _ s => NvMove request store s.nv) fun s => NvMove request store s.nv := by
  have falls : ∀ s : TpmState, s.nv = store → NvMove request store s.nv := fun s same => by
    rw [same]
    exact .same
  unfold startup
  refine ensures_keeps_bind (fun s : TpmState => s.nv) (· = store) _ _ _ _ (keeps_lift _ _) falls fun startupType => ?_
  refine ensures_guard _ _ _ _ _ _ _ falls fun _ => ?_
  refine ensures_ite _ _ _ _ _ _ (fun _ => ?_) fun _ => ?_
  · refine ensures_bind _ _ _ _ _ _ (startup_clear_nv_moves request store coded _) fun _ => ?_
    exact ensures_pure _ _ _ _ fun _ kept => kept
  · refine ensures_ite _ _ _ _ _ _ (fun _ => ?_) fun _ => ensures_throw _ _ _ _ falls
    refine ensures_keeps_bind (fun s : TpmState => s.nv) (· = store) _ _ _ _ (keeps_get _) falls fun s => ?_
    refine ensures_guard _ _ _ _ _ _ _ falls fun _ => ?_
    refine ensures_bind _ _ _ (fun _ t => NvMove request store t.nv) _ _ ?_ fun _ => ?_
    · exact ensures_imply _ _ _ _ _ _ (TpmState.startup_state_nv store request.locality) (fun _ => falls) falls
    · exact ensures_pure _ _ _ _ fun _ kept => kept

theorem clear_nv_moves (coded : request.code = Cc.clear) :
    Ensures (fun s : TpmState => s.nv = store) (clear request)
      (fun _ s => NvMove request store s.nv) fun s => NvMove request store s.nv := by
  have falls : ∀ s : TpmState, s.nv = store → NvMove request store s.nv := fun s same => by
    rw [same]
    exact .same
  unfold clear
  refine ensures_keeps_bind (fun s : TpmState => s.nv) (· = store) _ _ _ _ (keeps_get _) falls fun s => ?_
  refine ensures_guard _ _ _ _ _ _ _ falls fun _ => ?_
  refine ensures_bind _ _ _ (fun _ t => NvMove request store t.nv) _ _ ?_ fun _ => ?_
  · unfold onClear
    refine ensures_keeps_bind (fun s : TpmState => s.nv) (· = store) _ _ _ _ (keeps_zoom _ _ _ _ fun _ _ => rfl)
      falls fun _ => ?_
    refine ensures_modify _ _ _ _ fun s same => ?_
    change NvMove request store s.nv.clearOwnerIndices
    rw [same]
    exact .clear coded
  · refine ensures_bind _ _ _ (fun _ t => NvMove request store t.nv) _ _ ?_ fun _ => ?_
    · exact ensures_modify _ _ _ _ fun _ kept => kept
    · exact ensures_pure _ _ _ _ fun _ kept => kept

end

-- What the handler of any command does to the NV store.
theorem run_command_nv_moves (request : Request) (s : TpmState) :
    NvMove request s.nv (final (runCommand request s)).nv := by
  have kept : (final (runCommand request s)).nv = s.nv → NvMove request s.nv (final (runCommand request s)).nv :=
    fun same => by
      rw [same]
      exact .same
  cases named : handlerOf request.code with
  | none =>
      refine kept ?_
      unfold runCommand
      rw [named]
      rfl
  | some handler =>
      have spares := List.all_eq_true.mp handlers_spare_nv _ (handler_mem _ _ named)
      simp only [Bool.or_eq_true, List.contains_eq_mem, decide_eq_true_eq, List.mem_cons] at spares
      rcases spares with spares | startupCode | shutdownCode | clearCode | listed
      · refine kept ?_
        unfold runCommand
        rw [named]
        exact handler.keeps_run _ request (fun action => handler.scope.keeps_nv action spares) s
      · unfold runCommand
        rw [startupCode]
        change NvMove request s.nv
          (final ((Handler.plain .whole fun _ request => startup request).run request s)).nv
        rw [TpmState.final_whole_plain]
        rcases ensures_final _ _ _ _ s (startup_nv_moves request s.nv startupCode) rfl with ⟨_, left⟩ | left
        · exact left
        · exact left
      · refine kept ?_
        unfold runCommand
        rw [shutdownCode]
        change (final ((Handler.plain .whole fun _ request => shutdown request).run request s)).nv = s.nv
        rw [TpmState.final_whole_plain]
        exact keeps_nv_shutdown request s
      · unfold runCommand
        rw [clearCode]
        change NvMove request s.nv
          (final ((Handler.plain .whole fun _ request => clear request).run request s)).nv
        rw [TpmState.final_whole_plain]
        rcases ensures_final _ _ _ _ s (clear_nv_moves request s.nv clearCode) rfl with ⟨_, left⟩ | left
        · exact left
        · exact left
      · exact nv_command_moves s request listed

end

end Swtrust
