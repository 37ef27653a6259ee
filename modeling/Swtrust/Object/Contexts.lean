import Swtrust.Crypto.Inverses
import Swtrust.Object.Placed
import Swtrust.Session.Answered
import Swtrust.Session.Table
import Swtrust.Store.Restore

set_option autoImplicit false
set_option linter.unusedSectionVars false

-- What TPM2_ContextSave gives out, TPM2_ContextLoad takes back, and what it makes of it is what was saved.

namespace Swtrust

open Library Action TpmState

def SequenceKind.octets : SequenceKind → Bytes
  | .hash hashAlg => be8 0 ++ be16 hashAlg
  | .hmac hashAlg key => be8 1 ++ be16 hashAlg ++ sized16 key
  | .event => be8 2

-- A sequence whose buffer is no longer than `update` lets it become.
structure Sequence.Fits (sequence : Sequence) : Prop where
  key : ∀ hashAlg key, sequence.kind = .hmac hashAlg key → key.length < 65536
  auth : sequence.auth.length < 65536
  buffer : sequence.buffer.length ≤ maxSequenceBytes

theorem sized16_length (octets : Bytes) : (sized16 octets).length = octets.length + 2 := by
  rw [sized16, List.length_append, be16_length]
  omega

theorem sized_option_length (value : Option Bytes) (octets : Bytes) (held : value = some octets) :
    octets.length ≤ (beOption sized16 value).length := by
  rw [held, beOption, List.length_append, sized16_length]
  omega

-- Whatever is written into a context that is no longer than a context gets is read back at its length.
theorem Sequence.fits_of_short (sequence : Sequence) (short : sequence.marshal.length < 65536) : sequence.Fits := by
  simp only [marshal, List.length_append, sized16_length] at short
  refine ⟨fun hashAlg key kind => ?_, by omega, ?_⟩
  · rw [kind] at short
    simp only [List.length_append, sized16_length] at short
    omega
  · unfold maxSequenceBytes
    omega

theorem decodes_sequence_kind (kind : SequenceKind) (fits : ∀ hashAlg key, kind = .hmac hashAlg key → key.length < 65536) :
    Decodes SequenceKind.unmarshal kind.octets kind := by
  cases kind with
  | hash hashAlg =>
      refine decodes_bind _ _ _ _ _ _ (decodes_u8 _) ?_
      exact decodes_bind_last _ _ _ _ _ (decodes_u16 _) (decodes_pure _)
  | hmac hashAlg key =>
      rw [SequenceKind.octets, List.append_assoc]
      refine decodes_bind _ _ _ _ _ _ (decodes_u8 _) ?_
      refine decodes_bind _ _ _ _ _ _ (decodes_u16 _) ?_
      exact decodes_bind_last _ _ _ _ _ (decodes_read_sized _ (fits hashAlg key rfl)) (decodes_pure _)
  | event => exact decodes_bind_last _ _ _ _ _ (decodes_u8 _) (decodes_pure _)

theorem decodes_sequence (sequence : Sequence) (fits : sequence.Fits) :
    Decodes Sequence.unmarshal sequence.marshal sequence := by
  have length : (UInt32.ofNat sequence.buffer.length).toNat = sequence.buffer.length :=
    UInt32.toNat_ofNat_of_lt' (Nat.lt_of_le_of_lt fits.buffer (by decide))
  have parts : sequence.marshal = sequence.kind.octets ++ (sized16 sequence.auth ++
      (be32 (UInt32.ofNat sequence.buffer.length) ++ (sequence.buffer ++ beBool sequence.shortFirstBuffer))) := by
    unfold Sequence.marshal SequenceKind.octets
    cases sequence.kind <;> simp only [List.append_assoc]
  rw [parts]
  refine decodes_bind _ _ _ _ _ _ (decodes_sequence_kind _ fits.key) ?_
  refine decodes_bind _ _ _ _ _ _ (decodes_read_sized _ fits.auth) ?_
  refine decodes_bind _ _ _ _ _ _ (decodes_u32 _) ?_
  rw [length, if_neg (Nat.not_lt.mpr fits.buffer)]
  refine decodes_bind _ _ _ _ _ _ (decodes_take _) ?_
  exact decodes_bind_last _ _ _ _ _ (decodes_flag _) (decodes_pure _)

structure PolicyState.Fits (policy : PolicyState) : Prop where
  digest : policy.digest.length < 65536
  cpHash : ∀ octets, policy.cpHash = some octets → octets.length < 65536
  nameHash : ∀ octets, policy.nameHash = some octets → octets.length < 65536
  templateHash : ∀ octets, policy.templateHash = some octets → octets.length < 65536
  parametersHash : ∀ octets, policy.parametersHash = some octets → octets.length < 65536
  secureChannelKeyHash : ∀ octets, policy.secureChannelKeyHash = some octets → octets.length < 65536
  timeoutNonce : policy.timeoutNonce.length < 65536

theorem PolicyState.fits_of_short (policy : PolicyState) (short : policy.marshal.length < 65536) : policy.Fits := by
  simp only [marshal, List.length_append, sized16_length] at short
  have optional : ∀ (value : Option Bytes), (beOption sized16 value).length < 65536 →
      ∀ octets, value = some octets → octets.length < 65536 := fun value bounded octets held =>
    Nat.lt_of_le_of_lt (sized_option_length value octets held) bounded
  exact ⟨by omega, optional _ (by omega), optional _ (by omega), optional _ (by omega), optional _ (by omega),
    optional _ (by omega), by omega⟩

theorem decodes_policy_state (policy : PolicyState) (fits : policy.Fits) :
    Decodes PolicyState.unmarshal policy.marshal policy := by
  have sized : ∀ value : Option Bytes, (∀ octets, value = some octets → octets.length < 65536) →
      Decodes (readOption readSized) (beOption sized16 value) value := fun value short =>
    decodes_option _ _ _ fun octets held => decodes_read_sized octets (short octets held)
  simp only [PolicyState.marshal, List.append_assoc]
  refine decodes_bind _ _ _ _ _ _ (decodes_read_sized _ fits.digest) ?_
  refine decodes_bind _ _ _ _ _ _ (decodes_option _ _ _ fun a _ => decodes_u32 a) ?_
  refine decodes_bind _ _ _ _ _ _ (sized _ fits.cpHash) ?_
  refine decodes_bind _ _ _ _ _ _ (sized _ fits.nameHash) ?_
  refine decodes_bind _ _ _ _ _ _ (decodes_option _ _ _ fun a _ => decodes_u8 a) ?_
  refine decodes_bind _ _ _ _ _ _ (decodes_option _ _ _ fun a _ => decodes_u32 a) ?_
  refine decodes_bind _ _ _ _ _ _ (decodes_flag _) ?_
  refine decodes_bind _ _ _ _ _ _ (decodes_flag _) ?_
  refine decodes_bind _ _ _ _ _ _ (decodes_option _ _ _ fun a _ => decodes_flag a) ?_
  refine decodes_bind _ _ _ _ _ _ (sized _ fits.templateHash) ?_
  refine decodes_bind _ _ _ _ _ _ (sized _ fits.parametersHash) ?_
  refine decodes_bind _ _ _ _ _ _ (decodes_flag _) ?_
  refine decodes_bind _ _ _ _ _ _ (decodes_flag _) ?_
  refine decodes_bind _ _ _ _ _ _ (sized _ fits.secureChannelKeyHash) ?_
  refine decodes_bind _ _ _ _ _ _ (decodes_option _ _ _ fun a _ => decodes_u64 a) ?_
  exact decodes_bind_last _ _ _ _ _ (decodes_read_sized _ fits.timeoutNonce) (decodes_pure _)

section

variable [Primitives]

structure Session.Fits (session : Session) : Prop where
  authHash : ∃ size, Hash.digestSize session.authHash = .ok size
  nonceTpm : session.nonceTpm.length < 65536
  nonceCaller : session.nonceCaller.length < 65536
  sessionKey : session.sessionKey.length < 65536
  bindName : session.bindName.length < 65536
  symmetric : session.symmetric.Admitted
  policy : session.policy.Fits
  digest : session.audit.digest.length < 65536

theorem Session.fits_of_short (session : Session) (formed : session.make.Formed) (short : session.marshal.length < 65536) :
    session.Fits := by
  simp only [marshal, List.length_append, sized16_length] at short
  exact ⟨digest_size_supported _ formed.hashed, by omega, by omega, by omega, by omega, formed.admitted,
    session.policy.fits_of_short (by omega), by omega⟩

-- The attributes are those of the last use, and come with the next.
theorem decodes_session (session : Session) (fits : session.Fits) :
    Decodes Session.unmarshal session.marshal { session with attributes := ⟨0⟩ } := by
  obtain ⟨size, sized⟩ := fits.authHash
  have made : Session.new session.handle session.sessionType session.authHash session.nonceTpm session.nonceCaller
      session.sessionKey session.bind session.bindName session.symmetric =
      .ok { session with
        bindUsesLockout := false, startTime := 0, timeEpoch := 0, attributes := ⟨0⟩, audit := {}
        policy := { digest := List.replicate size 0 } } := by
    unfold Session.new
    rw [sized]
    rfl
  simp only [Session.marshal, List.append_assoc]
  refine decodes_bind _ _ _ _ _ _ (decodes_u32 _) ?_
  refine decodes_bind _ _ _ _ _ _ (decodes_u8 _) ?_
  refine decodes_bind _ _ _ _ _ _ (decodes_u16 _) ?_
  refine decodes_bind _ _ _ _ _ _ (decodes_read_sized _ fits.nonceTpm) ?_
  refine decodes_bind _ _ _ _ _ _ (decodes_read_sized _ fits.nonceCaller) ?_
  refine decodes_bind _ _ _ _ _ _ (decodes_read_sized _ fits.sessionKey) ?_
  refine decodes_bind _ _ _ _ _ _ (decodes_u32 _) ?_
  refine decodes_bind _ _ _ _ _ _ (decodes_read_sized _ fits.bindName) ?_
  refine decodes_bind _ _ _ _ _ _ (decodes_flag _) ?_
  refine decodes_bind _ _ _ _ _ _ (decodes_u64 _) ?_
  refine decodes_bind _ _ _ _ _ _ (decodes_u64 _) ?_
  refine decodes_bind _ _ _ _ _ _ (decodes_sym_def _ fits.symmetric) ?_
  refine decodes_bind _ _ _ _ _ _ (decodes_policy_state _ fits.policy) ?_
  refine decodes_bind _ _ _ _ _ _ (decodes_flag _) ?_
  refine decodes_bind_last _ _ _ _ _ (decodes_read_sized _ fits.digest) ?_
  show Decodes _ ([] ++ []) _
  exact decodes_bind _ _ _ _ _ _ (decodes_lifted _ _ made) (decodes_pure _)

theorem Object.qualified_name_short (object : Object) (short : object.marshal.length < 65536) :
    object.qualifiedName.length < 65536 := by
  simp only [marshal, List.length_append, sized16_length] at short
  omega

theorem decodes_saved_object (object : Object) (sound : object.Sound) (short : object.marshal.length < 65536) :
    Decodes (Object.unmarshal object.stateClear) object.marshal object := by
  have sensitive : Decodes (readOption TpmtSensitive.unmarshal) (beOption TpmtSensitive.marshal object.sensitive)
      object.sensitive :=
    decodes_option _ _ _ fun a held => decodes_of_legible _ _ _ steady_sensitive (sound.sensitive a held)
  simp only [Object.marshal, List.append_assoc]
  refine decodes_bind _ _ _ _ _ _ (decodes_u32 _) ?_
  refine decodes_bind _ _ _ _ _ _ (decodes_flag _) ?_
  refine decodes_bind _ _ _ _ _ _ (decodes_of_legible _ _ _ (steady_public false) sound.area) ?_
  refine decodes_bind _ _ _ _ _ _ sensitive ?_
  refine decodes_bind_last _ _ _ _ _ (decodes_read_sized _ (object.qualified_name_short short)) ?_
  show Decodes _ ([] ++ []) _
  refine decodes_bind _ _ _ _ _ _ (decodes_lifted _ () sound.valid) ?_
  show Decodes _ ([] ++ []) _
  exact decodes_bind _ _ _ _ _ _ (decodes_lifted _ _ sound.name) (decodes_pure _)

theorem prefix_of_decodes {α : Type} (reader : Reader α) (octets : Bytes) (value : α)
    (read : Decodes reader octets value) : reader.prefixOf octets = .ok value := by
  have whole := read []
  rw [List.append_nil] at whole
  unfold Reader.prefixOf
  rw [whole]
  rfl

theorem decodes_context (context : Context) : Decodes Context.unmarshal context.marshal context := by
  simp only [Context.marshal, List.append_assoc]
  refine decodes_bind _ _ _ _ _ _ (decodes_u64 _) ?_
  refine decodes_bind _ _ _ _ _ _ (decodes_u32 _) ?_
  refine decodes_bind _ _ _ _ _ _ (decodes_u32 _) ?_
  exact decodes_bind_last _ _ _ _ _ (Tpm2b.decodes_unmarshal (by decide) _) (decodes_pure _)

theorem decodes_context_data (data : ContextData) : Decodes ContextData.unmarshal data.marshal data := by
  refine decodes_bind _ _ _ _ _ _ (Tpm2b.decodes_unmarshal (by decide) _) ?_
  exact decodes_bind_last _ _ _ _ _ (Tpm2b.decodes_unmarshal (by decide) _) (decodes_pure _)

-- No startup and no change of a hierarchy between the two, as far as a context under one proof can tell.
structure SealedAlike (s later : TpmState) (hierarchy savedHandle : UInt32) : Prop where
  proof : later.hierarchyProof hierarchy = s.hierarchyProof hierarchy
  counters : contextCounters later savedHandle = contextCounters s savedHandle

-- What is encrypted into a context is two octets of length, then the sequence, then the body.
theorem sealed_short (inverts : CfbInverts) (s : TpmState) (hierarchy savedHandle : UInt32) (sequence : UInt64)
    (body : Bytes) (blob : Tpm2bContextData) (mac : Mac)
    (made : sealContext s hierarchy sequence savedHandle body = .ok (blob, mac)) :
    (be64 sequence ++ body).length + 2 ≤ Config.maxContextSize := by
  unfold sealContext at made
  obtain ⟨⟨key, iv⟩, _, made⟩ := (bind_is_ok _ _ _).mp made
  obtain ⟨encrypted, ciphered, made⟩ := (bind_is_ok _ _ _).mp made
  obtain ⟨_, _, made⟩ := (bind_is_ok _ _ _).mp made
  obtain ⟨_, _, made⟩ := (bind_is_ok _ _ _).mp made
  obtain ⟨_, _, made⟩ := (bind_is_ok _ _ _).mp made
  obtain ⟨sealed, fitted, _⟩ := (bind_is_ok _ _ _).mp made
  have bound := sealed.fits
  rw [Tpm2b.new_buffer _ _ fitted, (Sym.cfb_undone inverts key iv _ encrypted ciphered).1, sized16_length] at bound
  exact bound

theorem body_short (inverts : CfbInverts) (s : TpmState) (hierarchy savedHandle : UInt32) (sequence : UInt64)
    (body : Bytes) (blob : Tpm2bContextData) (mac : Mac)
    (made : sealContext s hierarchy sequence savedHandle body = .ok (blob, mac)) : body.length < 65536 := by
  have bound := sealed_short inverts s hierarchy savedHandle sequence body blob mac made
  rw [List.length_append] at bound
  unfold Config.maxContextSize at bound
  omega

theorem open_sealed (inverts : CfbInverts) (s later : TpmState) (hierarchy savedHandle : UInt32) (sequence : UInt64)
    (body : Bytes) (blob : Tpm2bContextData) (mac : Mac) (alike : SealedAlike s later hierarchy savedHandle)
    (made : sealContext s hierarchy sequence savedHandle body = .ok (blob, mac)) (t : ContextScope) :
    Succeeds (openContext later ⟨sequence, savedHandle, hierarchy, blob⟩) t body t := by
  have inside := sealed_short inverts s hierarchy savedHandle sequence body blob mac made
  unfold sealContext at made
  obtain ⟨⟨key, iv⟩, keyed, made⟩ := (bind_is_ok _ _ _).mp made
  obtain ⟨encrypted, ciphered, made⟩ := (bind_is_ok _ _ _).mp made
  obtain ⟨mac', macked, made⟩ := (bind_is_ok _ _ _).mp made
  obtain ⟨value, valued, made⟩ := (bind_is_ok _ _ _).mp made
  obtain ⟨integrity, fitting, made⟩ := (bind_is_ok _ _ _).mp made
  obtain ⟨sealed, fitted, made⟩ := (bind_is_ok _ _ _).mp made
  obtain ⟨blob', whole, made⟩ := (bind_is_ok _ _ _).mp made
  cases made
  have held : blob.buffer = ContextData.marshal ⟨integrity, sealed⟩ := Tpm2b.new_buffer _ _ whole
  have same : sealed.buffer = encrypted := Tpm2b.new_buffer _ _ fitted
  have checked : integrity.buffer = value := Tpm2b.new_buffer _ _ fitting
  have decrypted := (Sym.cfb_undone inverts key iv _ encrypted ciphered).2
  have again : contextEncryption later hierarchy sequence savedHandle = .ok (key, iv) := by
    rw [← keyed]
    unfold contextEncryption
    rw [alike.proof]
  have remacked : contextMac later hierarchy sequence savedHandle sealed.buffer = .ok mac := by
    rw [← macked, same]
    unfold contextMac
    rw [alike.proof, alike.counters]
  have read : ContextData.unmarshal.fromBytes blob.buffer = .ok ⟨integrity, sealed⟩ := by
    rw [held]
    exact from_bytes_of_decodes _ _ _ (decodes_context_data _)
  have short : (be64 sequence ++ body).length < 65536 := by
    unfold Config.maxContextSize at inside
    omega
  have prefixed : beNat ((sized16 (be64 sequence ++ body)).take 2) = (be64 sequence ++ body).length := by
    have first : (sized16 (be64 sequence ++ body)).take 2 = be16 (UInt16.ofNat (be64 sequence ++ body).length) :=
      List.take_left' (be16_length _)
    have size : (UInt16.ofNat (be64 sequence ++ body).length).toNat = (be64 sequence ++ body).length := by
      simpa using Nat.mod_eq_of_lt short
    rw [first, be16, size]
    exact be_nat_be_bytes_of_lt 2 _ (by omega)
  have left : (sized16 (be64 sequence ++ body)).drop 2 = be64 sequence ++ body := List.drop_left' (be16_length _)
  have numbered : UInt64.ofNat (beNat ((be64 sequence ++ body).take 8)) = sequence := by
    rw [List.take_left' (be64_length _), be64, be_nat_be_bytes_of_lt 8 _ (by simpa using sequence.toNat_lt)]
    exact UInt64.ofNat_toNat
  have total := sized16_length (be64 sequence ++ body)
  have some : 8 ≤ (be64 sequence ++ body).length := by
    rw [List.length_append, be64_length]
    omega
  unfold openContext
  simp only [succeeds_bind, succeeds_lift, succeeds_guard]
  refine ⟨⟨integrity, sealed⟩, t, ⟨by rw [read]; rfl, rfl⟩, mac, t, ⟨remacked, rfl⟩, value, t, ⟨valued, rfl⟩, ?_⟩
  refine ⟨not_not.mpr checked.symm, (key, iv), t, ⟨again, rfl⟩, ?_⟩
  refine ⟨sized16 (be64 sequence ++ body), t, ⟨by rw [same]; exact decrypted, rfl⟩, ?_, ?_, ?_⟩
  · rw [total]
    omega
  · rw [prefixed, total]
    omega
  · rw [left, numbered, if_neg (not_not.mpr rfl), List.drop_left' (be64_length _)]
    exact (succeeds_pure _ _ _ _).mpr ⟨rfl, rfl⟩

-- An object whose Name says which hash it is under, or a sequence, which has no Name.
def Slot.HasNameAlg : Slot → Prop
  | .object o => o.area.nameAlg ≠ Alg.null
  | .sequence _ => True

theorem slot_handle (slot : Slot) : isSessionHandle (contextBody slot).2.1 = false := by
  cases slot with
  | object o => cases clear : o.stateClear <;> simp only [contextBody, clear] <;> decide
  | sequence sequence => exact (by decide : isSessionHandle Saved.sequenceObject = false)

-- A context of an object or a sequence is taken back into a slot by what its handle says it is.
theorem slot_restored (slot : Slot) (sound : slot.Sound) (hashed : slot.HasNameAlg)
    (short : (contextBody slot).2.2.length < 65536) (request : Request) (s : TpmState) (t : ContextScope)
    (sequence : UInt64) (blob : Tpm2bContextData) (handle : UInt32) (objects : ObjectSlots)
    (sent : request.parameters = Context.marshal ⟨sequence, (contextBody slot).2.1, (contextBody slot).1, blob⟩)
    (counted : sequence < t.sessions.objectCounter) (enabled : s.hierarchies.isEnabled (contextBody slot).1 = true)
    (opened : Succeeds (openContext s ⟨sequence, (contextBody slot).2.1, (contextBody slot).1, blob⟩) t
      (contextBody slot).2.2 t)
    (placed : t.objects.insertSlot slot = .ok (handle, objects)) :
    Succeeds (contextLoad s request) t (Response.withHandle handle []) { t with objects } := by
  have read : request.params (Context.unmarshal.withParameter 1) =
      .ok ⟨sequence, (contextBody slot).2.1, (contextBody slot).1, blob⟩ := by
    refine params_of_decodes _ _ _ ?_
    rw [sent]
    exact decodes_with_parameter _ _ _ _ (decodes_context _)
  have entered : Succeeds (restoreSlot slot) t handle { t with objects } := by
    unfold restoreSlot
    simp only [succeeds_bind, succeeds_lift, succeeds_get, succeeds_modify, succeeds_pure]
    exact ⟨t, t, ⟨rfl, rfl⟩, (handle, objects), t, ⟨placed, rfl⟩, (), _, rfl, rfl, rfl⟩
  have viable : checkViable t.sessions ⟨sequence, (contextBody slot).2.1, (contextBody slot).1, blob⟩ = .ok () := by
    unfold checkViable
    simp only [slot_handle, Bool.false_eq_true, if_false, false_and]
    rw [decide_eq_true counted]
    rfl
  unfold contextLoad
  simp only [succeeds_bind, succeeds_lift, succeeds_get, succeeds_guard]
  refine ⟨_, t, ⟨read, rfl⟩, t, t, ⟨rfl, rfl⟩, (), t, ⟨viable, rfl⟩, ?_⟩
  refine ⟨by simpa using enabled, (contextBody slot).2.2, t, opened, ?_⟩
  simp only [slot_handle, Bool.false_eq_true, if_false]
  cases slot with
  | sequence saved =>
      have decoded : badContext (Sequence.unmarshal.prefixOf saved.marshal) = .ok saved := by
        rw [prefix_of_decodes _ _ _ (decodes_sequence saved (saved.fits_of_short short))]
        rfl
      rw [if_pos (show (contextBody (Slot.sequence saved)).2.1 = Saved.sequenceObject from rfl)]
      simp only [succeeds_bind, succeeds_lift, succeeds_pure]
      exact ⟨saved, t, ⟨decoded, rfl⟩, handle, _, entered, rfl, rfl⟩
  | object saved =>
      have clear : decide ((contextBody (Slot.object saved)).2.1 = Saved.transientStclear) = saved.stateClear := by
        cases held : saved.stateClear <;> simp only [contextBody, held] <;> decide
      have kind : (contextBody (Slot.object saved)).2.1 = Saved.transientObject ∨
          (contextBody (Slot.object saved)).2.1 = Saved.transientStclear := by
        cases held : saved.stateClear <;> simp [contextBody, held]
      have other : ¬ (contextBody (Slot.object saved)).2.1 = Saved.sequenceObject := by
        rcases kind with same | same <;> rw [same] <;> decide
      have decoded : badContext ((Object.unmarshal saved.stateClear).prefixOf saved.marshal) = .ok saved := by
        rw [prefix_of_decodes _ _ _ (decodes_saved_object saved (sound hashed) short)]
        rfl
      rw [if_neg other, if_pos kind, clear]
      simp only [succeeds_bind, succeeds_lift, succeeds_pure]
      exact ⟨saved, t, ⟨decoded, rfl⟩, handle, _, entered, rfl, rfl⟩

-- What a save of an object or a sequence answers.
theorem slot_saved (s : TpmState) (request : Request) (t t' : ContextScope) (reply : Reply) (handle : UInt32)
    (named : request.handle 0 = .ok handle) (transient : isSessionHandle handle = false)
    (saved : Succeeds (contextSave s request) t reply t') :
    ∃ slot blob mac, t.objects.getSlot handle = .ok slot ∧ t.sessions.countersExhausted = false ∧
      sealContext s (contextBody slot).1 t.sessions.objectCounter (contextBody slot).2.1 (contextBody slot).2.2 =
        .ok (blob, mac) ∧
      reply.parameters = Context.marshal ⟨t.sessions.objectCounter, (contextBody slot).2.1, (contextBody slot).1, blob⟩ ∧
      t' = { t with sessions := t.sessions.nextObjectId.2 } := by
  unfold contextSave at saved
  simp only [succeeds_bind, succeeds_lift, succeeds_get, succeeds_guard] at saved
  obtain ⟨handle', _, ⟨named', rfl⟩, _, _, ⟨rfl, rfl⟩, counting, ran⟩ := saved
  obtain rfl := Except.ok.inj (named.symm.trans named')
  rw [if_neg (by rw [transient]; decide)] at ran
  simp only [succeeds_bind, succeeds_lift, succeeds_set, succeeds_pure] at ran
  obtain ⟨slot, _, ⟨found, rfl⟩, ⟨blob, mac⟩, _, ⟨sealed, rfl⟩, _, _, rfl, rfl, rfl⟩ := ran
  refine ⟨slot, blob, mac, (map_error_is_ok _ _ _).mp found, by simpa using counting, sealed, rfl, rfl⟩

theorem next_object_id_above (slots : SessionSlots) (counting : slots.countersExhausted = false) :
    slots.objectCounter < slots.nextObjectId.2.objectCounter := by
  have below : slots.objectCounter ≠ 0xFFFFFFFFFFFFFFFF := by
    unfold SessionSlots.countersExhausted at counting
    intro last
    rw [last] at counting
    simp at counting
  show slots.objectCounter < satSucc slots.objectCounter
  unfold satSucc
  rw [if_neg below, UInt64.lt_iff_toNat_lt]
  have apart : slots.objectCounter.toNat ≠ 2 ^ 64 - 1 := fun same => below (UInt64.toNat_inj.mp same)
  have bound := slots.objectCounter.toNat_lt
  rw [UInt64.toNat_add, show (1 : UInt64).toNat = 1 from rfl, Nat.mod_eq_of_lt (by omega)]
  omega

-- A saved object or sequence is what a load of its context puts into a free slot: whatever the TPM has been through since
-- nothing was loaded, and in whatever state it is by then, as long as the proof and the counters of the context are those
-- of the save and the hierarchy is enabled.
theorem saved_slot_loads (inverts : CfbInverts) (onCurve : Ecc.OnCurve) (empty : TpmState)
    (vacant : empty.objects = SortedMap.empty) (events : List Event) (s later : TpmState) (request again : Request)
    (t t' u : ContextScope) (reached : t.objects = (empty.afterAll events).objects) (reply : Reply) (handle : UInt32)
    (slot : Slot) (named : request.handle 0 = .ok handle) (transient : isSessionHandle handle = false)
    (found : t.objects.getSlot handle = .ok slot) (hashed : slot.HasNameAlg)
    (saved : Succeeds (contextSave s request) t reply t') (sent : again.parameters = reply.parameters)
    (alike : SealedAlike s later (contextBody slot).1 (contextBody slot).2.1)
    (enabled : later.hierarchies.isEnabled (contextBody slot).1 = true)
    (counted : t'.sessions.objectCounter ≤ u.sessions.objectCounter) (room : u.objects.size < Config.maxLoadedObjects) :
    ∃ given, u.objects.get given = none ∧ Succeeds (contextLoad later again) u (Response.withHandle given [])
      { u with objects := u.objects.insert given slot } := by
  have sound : slot.Sound := run_sound onCurve empty vacant events handle slot (reached ▸ found)
  obtain ⟨other, blob, mac, held, counting, sealed, written, rfl⟩ :=
    slot_saved s request t t' reply handle named transient saved
  obtain rfl := Except.ok.inj (found.symm.trans held)
  obtain ⟨given, placed, free, -⟩ := u.objects.insert_slot_room slot room
  refine ⟨given, free, ?_⟩
  apply slot_restored slot sound hashed (body_short inverts s _ _ _ _ blob mac sealed) again later u
    t.sessions.objectCounter blob given _ (sent.trans written) ?_ enabled ?_ placed
  · exact UInt64.lt_of_lt_of_le (next_object_id_above t.sessions counting) counted
  · exact open_sealed inverts s later _ _ _ _ blob mac alike sealed u

theorem session_put_back (slots : SessionSlots) (session : Session) (sequence : UInt64)
    (kept : slots.saved.get session.handle = some sequence) (room : slots.sessions.size < Config.maxLoadedSessions) :
    ∃ next, slots.restore session sequence = .ok next ∧ next.get session.handle = .ok session ∧
      next.saved.get session.handle = none := by
  refine ⟨{ slots.nextContextId.2 with
    version := slots.version.insert session.handle slots.nextContextId.1
    saved := slots.saved.erase session.handle
    sessions := slots.sessions.insert session.handle session }, ?_, ?_, SortedMap.get_erase_same _ _⟩
  · unfold SessionSlots.restore
    rw [kept]
    dsimp only
    rw [if_neg (not_not.mpr rfl), if_neg (Nat.not_le.mpr room)]
    rfl
  · unfold SessionSlots.get
    rw [SortedMap.get_insert_same]

-- A saved session comes back under its handle, and its context is spent with that: whatever the TPM that saved it had been
-- through since it had no session in memory.
theorem saved_session_loads (inverts : CfbInverts) (empty : TpmState) (vacant : empty.sessions.sessions = SortedMap.empty)
    (events : List Event) (s later : TpmState) (request again : Request) (t t' u : ContextScope)
    (reached : t.sessions = (empty.afterAll events).sessions) (reply : Reply) (handle : UInt32) (session : Session)
    (sequence : UInt64) (named : request.handle 0 = .ok handle) (isSession : isSessionHandle handle = true)
    (held : t.sessions.get handle = .ok session) (saved : Succeeds (contextSave s request) t reply t')
    (sent : again.parameters = reply.parameters) (alike : SealedAlike s later Rh.null handle)
    (latest : t'.sessions.saved.get handle = some sequence) (kept : u.sessions.saved.get handle = some sequence)
    (viable : ∀ contextBlob, checkViable u.sessions ⟨sequence, handle, Rh.null, contextBlob⟩ = .ok ())
    (room : u.sessions.sessions.size < Config.maxLoadedSessions) :
    ∃ u', Succeeds (contextLoad later again) u (Response.withHandle handle []) u' ∧
      u'.sessions.get handle = .ok { session with attributes := ⟨0⟩ } ∧ u'.sessions.saved.get handle = none := by
  obtain ⟨own, formed⟩ := run_formed empty vacant events handle session (reached ▸ held)
  unfold contextSave at saved
  simp only [succeeds_bind, succeeds_lift, succeeds_get, succeeds_guard] at saved
  obtain ⟨handle', _, ⟨named', rfl⟩, _, _, ⟨rfl, rfl⟩, counting, ran⟩ := saved
  obtain rfl := Except.ok.inj (named.symm.trans named')
  rw [if_pos isSession] at ran
  simp only [succeeds_bind, succeeds_lift, succeeds_set, succeeds_pure] at ran
  obtain ⟨⟨⟨session', number⟩, sessions⟩, _, ⟨found, rfl⟩, _, _, rfl, ⟨blob, mac⟩, _, ⟨sealed, rfl⟩, rfl, rfl⟩ := ran
  have same : session' = session ∧ number = sequence := by
    have ended := (map_error_is_ok _ _ _).mp found
    unfold SessionSlots.save at ended
    rw [held] at ended
    cases ended
    refine ⟨rfl, ?_⟩
    rw [SortedMap.get_insert_same] at latest
    exact Option.some.inj latest
  obtain ⟨rfl, rfl⟩ := same
  have short := body_short inverts s Rh.null handle number session'.marshal blob mac sealed
  have read : again.params (Context.unmarshal.withParameter 1) = .ok ⟨number, handle, Rh.null, blob⟩ := by
    refine params_of_decodes _ _ _ ?_
    rw [sent]
    exact decodes_with_parameter _ _ _ _ (decodes_context _)
  have decoded : badContext (Session.unmarshal.prefixOf session'.marshal) = .ok { session' with attributes := ⟨0⟩ } := by
    rw [prefix_of_decodes _ _ _ (decodes_session session' (session'.fits_of_short formed short))]
    rfl
  obtain ⟨slots, restored, there, spent⟩ := session_put_back u.sessions { session' with attributes := ⟨0⟩ } number
    (own ▸ kept) room
  have opened := open_sealed inverts s later Rh.null handle number session'.marshal blob mac alike sealed u
  refine ⟨{ u with sessions := slots }, ?_, own ▸ there, own ▸ spent⟩
  unfold contextLoad
  simp only [succeeds_bind, succeeds_lift, succeeds_get, succeeds_guard]
  refine ⟨_, u, ⟨read, rfl⟩, u, u, ⟨rfl, rfl⟩, (), u, ⟨viable blob, rfl⟩, ?_⟩
  refine ⟨by simp [show later.hierarchies.isEnabled Rh.null = true from rfl], session'.marshal, u, opened, ?_⟩
  rw [if_pos isSession]
  unfold restoreSession
  simp only [succeeds_bind, succeeds_lift, succeeds_get, succeeds_guard, succeeds_modify, succeeds_pure]
  exact ⟨handle, _, ⟨{ session' with attributes := ⟨0⟩ }, u, ⟨decoded, rfl⟩, not_not.mpr own, u, u, ⟨rfl, rfl⟩, slots, u,
    ⟨by rw [restored]; rfl, rfl⟩, (), _, rfl, rfl, rfl⟩, rfl, rfl⟩

end

namespace Toy

-- The commands after a startup that clears.
def boots (commands : List Bytes) : List Event :=
  .powerOn :: (plainCommand Cc.startup [] (be16 Su.clear) :: commands).map (.command 0)

def ownsSealed (s : TpmState) : TpmState := s.afterAll (boots [createSealed Rh.owner])

def savesSealed : Request := requestOf (plainCommand Cc.contextSave [Hc.transientFirst] [])

def loads (parameters : Bytes) : Request := { requestOf (plainCommand Cc.contextLoad [] []) with parameters }

-- The owner's object is loaded twice, the second time from the context of the first.
theorem sealed_comes_back : ∃ s slot reply t' given, (ownsSealed s).objects.getSlot Hc.transientFirst = .ok slot ∧
    Succeeds (contextSave (ownsSealed s) savesSealed) (ownsSealed s).contextScope reply t' ∧
    t'.objects.get given = none ∧
    Succeeds (contextLoad (ownsSealed s) (loads reply.parameters)) t' (Response.withHandle given [])
      { t' with objects := t'.objects.insert given slot } := by
  have tested : found (TpmState.manufacture (List.replicate 48 7)) (fun s =>
      decide (s.objects = SortedMap.empty) &&
      found ((ownsSealed s).objects.object Hc.transientFirst) (fun o =>
        decide (o.area.nameAlg ≠ Alg.null ∧ (ownsSealed s).hierarchies.isEnabled o.hierarchy = true)) &&
      endsWith (contextSave (ownsSealed s) savesSealed) (ownsSealed s).contextScope fun _ t' =>
        decide (t'.objects.size < Config.maxLoadedObjects)) = true := by
    rw [manufacture_made]
    decide +kernel
  obtain ⟨s, -, tested⟩ := ok_of_found _ _ tested
  simp only [Bool.and_eq_true, decide_eq_true_eq] at tested
  obtain ⟨⟨vacant, held⟩, ends⟩ := tested
  obtain ⟨o, loaded, fitting⟩ := ok_of_found _ _ held
  obtain ⟨slot, found, own⟩ := (bind_is_ok _ _ _).mp loaded
  obtain ⟨hashed, enabled⟩ := of_decide_eq_true fitting
  have is : slot = .object o := by
    cases slot with
    | object other =>
        cases own
        rfl
    | sequence sequence => cases own
  subst is
  obtain ⟨reply, t', saved, room⟩ := succeeds_of_ends_with _ _ _ ends
  obtain ⟨given, free, restored⟩ := saved_slot_loads (fun _ _ _ => rfl) (fun _ _ _ _ made => by cases made) s vacant
    (boots [createSealed Rh.owner])
    (ownsSealed s) (ownsSealed s) savesSealed (loads reply.parameters) (ownsSealed s).contextScope t' t' rfl reply
    Hc.transientFirst (.object o) rfl (by decide) found hashed saved rfl ⟨rfl, rfl⟩ enabled (UInt64.le_refl _)
    (of_decide_eq_true room)
  exact ⟨s, .object o, reply, t', given, found, saved, free, restored⟩

def startsHmac (s : TpmState) : TpmState := s.afterAll (boots [startSession Se.hmac])

def savesHmac : Request := requestOf (savesSession 0)

theorem session_comes_back : ∃ s session reply t' u', (startsHmac s).sessions.get (hmacSession 0) = .ok session ∧
    Succeeds (contextSave (startsHmac s) savesHmac) (startsHmac s).contextScope reply t' ∧
    Succeeds (contextLoad (startsHmac s) (loads reply.parameters)) t' (Response.withHandle (hmacSession 0) []) u' ∧
    u'.sessions.get (hmacSession 0) = .ok { session with attributes := ⟨0⟩ } := by
  have tested : found (TpmState.manufacture (List.replicate 48 7)) (fun s =>
      decide (s.sessions.sessions = SortedMap.empty) &&
      found ((startsHmac s).sessions.get (hmacSession 0)) (fun _ => true) &&
      endsWith (contextSave (startsHmac s) savesHmac) (startsHmac s).contextScope fun _ t' =>
        decide (t'.sessions.saved.get (hmacSession 0) = some 1 ∧ t'.sessions.sessions.size < Config.maxLoadedSessions ∧
          t'.sessions.contextCounter = 2 ∧ t'.sessions.atContextGap = false)) = true := by
    rw [manufacture_made]
    decide +kernel
  obtain ⟨s, -, tested⟩ := ok_of_found _ _ tested
  simp only [Bool.and_eq_true, decide_eq_true_eq] at tested
  obtain ⟨⟨vacant, held⟩, ends⟩ := tested
  obtain ⟨session, loaded, -⟩ := ok_of_found _ _ held
  obtain ⟨reply, t', saved, parked⟩ := succeeds_of_ends_with _ _ _ ends
  obtain ⟨kept, room, counter, gap⟩ := of_decide_eq_true parked
  have viable : ∀ blob, checkViable t'.sessions ⟨1, hmacSession 0, Rh.null, blob⟩ = .ok () := by
    intro blob
    unfold checkViable
    simp only [counter, gap]
    rfl
  obtain ⟨u', restored, back, -⟩ := saved_session_loads (fun _ _ _ => rfl) s vacant (boots [startSession Se.hmac])
    (startsHmac s) (startsHmac s) savesHmac (loads reply.parameters) (startsHmac s).contextScope t' t' rfl reply
    (hmacSession 0) session 1 rfl (by decide) loaded saved rfl ⟨rfl, rfl⟩ kept kept viable room
  exact ⟨s, session, reply, t', u', loaded, saved, restored, back⟩

end Toy

end Swtrust
