import Swtrust.Object.Slots
import Swtrust.Policy.Monotone

set_option autoImplicit false
set_option linter.unusedSectionVars false

-- A digest made in parts is the digest of the whole, however the message is cut and whatever else runs in between.

namespace Swtrust

open Library Action TpmState

-- The one thing the cut decides: a message whose first part is too short to show what it begins with gets no ticket.
def shortStart : List Bytes → Bool
  | [] => false
  | first :: _ => decide (first.length < 4)

-- An empty first part counts as a short one, so an empty buffer says that there was none or that it was short.
theorem short_start_append (parts : List Bytes) (part : Bytes) :
    (shortStart parts || (parts.flatten.isEmpty && decide (part.length < 4))) = shortStart (parts ++ [part]) := by
  cases parts with
  | nil => rfl
  | cons first rest =>
      by_cases short : first.length < 4
      · simp [shortStart, short]
      · have filled : (first :: rest).flatten.isEmpty = false := by
          cases first with
          | nil => exact absurd (by decide) short
          | cons octet others => rfl
        rw [filled]
        simp [shortStart]

namespace Sequence

theorem update_fed (sequence next : Sequence) (data : Bytes) (updated : sequence.update data = .ok next) :
    next = { sequence with
      buffer := sequence.buffer ++ data
      shortFirstBuffer := sequence.shortFirstBuffer || (sequence.buffer.isEmpty && decide (data.length < 4)) } := by
  unfold update at updated
  by_cases large : maxSequenceBytes < sequence.buffer.length + data.length
  · rw [if_pos large] at updated
    cases updated
  · rw [if_neg large] at updated
    cases updated
    by_cases first : sequence.buffer.isEmpty = true ∧ data.length < 4
    · simp [first.1, first.2]
    · rw [if_neg first]
      have kept : (sequence.buffer.isEmpty && decide (data.length < 4)) = false := by
        rw [Bool.eq_false_iff]
        intro both
        obtain ⟨empty, short⟩ := Bool.and_eq_true_iff.mp both
        exact first ⟨empty, of_decide_eq_true short⟩
      rw [kept, Bool.or_false]

-- A sequence that was started and fed.
def madeOf (kind : SequenceKind) (auth : Bytes) (parts : List Bytes) : Sequence where
  kind := kind
  auth := auth
  buffer := parts.flatten
  shortFirstBuffer := shortStart parts

theorem update_made_of (kind : SequenceKind) (auth : Bytes) (parts : List Bytes) (data : Bytes) (next : Sequence)
    (updated : (madeOf kind auth parts).update data = .ok next) : next = madeOf kind auth (parts ++ [data]) := by
  rw [update_fed _ _ _ updated]
  unfold madeOf
  rw [← short_start_append parts data, List.flatten_append, List.flatten_singleton]

end Sequence

section

variable [Primitives]

-- What becomes of a TPM while a sequence is fed: the sequence is updated, or something else is done and leaves it alone.
inductive Fed (handle : UInt32) : TpmState → List Bytes → TpmState → Prop where
  | done (s : TpmState) : Fed handle s [] s
  | other (s t u : TpmState) (parts : List Bytes) (left : t.objects.get handle = s.objects.get handle)
      (rest : Fed handle t parts u) : Fed handle s parts u
  | update (s t u : TpmState) (request : Request) (reply : Reply) (part : Bytes) (parts : List Bytes)
      (code : request.code = Cc.sequenceUpdate) (named : request.handle 0 = .ok handle)
      (sent : request.params unmarshalBuffer = .ok part) (updated : Succeeds (runCommand request) s reply t)
      (rest : Fed handle t parts u) : Fed handle s (part :: parts) u

theorem handler_of_sequences : handlerOf Cc.sequenceUpdate = some (.plain .work sequenceUpdate) ∧
    handlerOf Cc.sequenceComplete = some (issuingQuery sequenceComplete) ∧
    handlerOf Cc.hashSequenceStart = some (.plain .work fun _ request => hashSequenceStart request) ∧
    handlerOf Cc.hmacStart = some (.plain .work hmacStart) := ⟨rfl, rfl, rfl, rfl⟩

theorem update_feeds (s t : TpmState) (request : Request) (reply : Reply) (handle : UInt32) (part : Bytes)
    (sequence : Sequence) (code : request.code = Cc.sequenceUpdate) (named : request.handle 0 = .ok handle)
    (sent : request.params unmarshalBuffer = .ok part) (held : s.objects.get handle = some (.sequence sequence))
    (updated : Succeeds (runCommand request) s reply t) :
    ∃ next, sequence.update part = .ok next ∧ t.objects.get handle = some (.sequence next) := by
  unfold runCommand at updated
  rw [code, handler_of_sequences.1] at updated
  obtain ⟨response, ran⟩ := Handler.succeeds_plain request .work sequenceUpdate s t reply updated
  obtain ⟨w, inner, rfl⟩ := (succeeds_zoom _ _ _ _ _ _).mp ran
  unfold sequenceUpdate at inner
  simp only [succeeds_bind, succeeds_lift, succeeds_modify, succeeds_pure] at inner
  obtain ⟨handle', _, ⟨named', rfl⟩, part', _, ⟨sent', rfl⟩, slot, _, ⟨found, rfl⟩, sequence', _, ⟨taken, rfl⟩, next, _,
    ⟨made, rfl⟩, _, _, rfl, _, rfl⟩ := inner
  obtain rfl := Except.ok.inj (named.symm.trans named')
  obtain rfl := Except.ok.inj (sent.symm.trans sent')
  have stored := (map_error_is_ok _ _ _).mp found
  have same : slot = .sequence sequence := by
    have got : s.objects.getSlot handle = .ok (.sequence sequence) := by
      unfold ObjectSlots.getSlot
      rw [held]
    exact Except.ok.inj (stored.symm.trans got)
  subst same
  cases taken
  exact ⟨next, made, SortedMap.get_insert_same _ _ _⟩

theorem fed_holds (kind : SequenceKind) (auth : Bytes) (handle : UInt32) (s u : TpmState) (parts : List Bytes)
    (fed : Fed handle s parts u) : ∀ before : List Bytes,
      s.objects.get handle = some (.sequence (Sequence.madeOf kind auth before)) →
      u.objects.get handle = some (.sequence (Sequence.madeOf kind auth (before ++ parts))) := by
  induction fed with
  | done s =>
      intro before held
      rw [List.append_nil]
      exact held
  | other s t u parts left rest ih =>
      intro before held
      exact ih before (left.trans held)
  | update s t u request reply part parts code named sent updated rest ih =>
      intro before held
      obtain ⟨next, made, kept⟩ := update_feeds s t request reply handle part _ code named sent held updated
      rw [Sequence.update_made_of kind auth before part next made] at kept
      have later := ih (before ++ [part]) kept
      rwa [List.append_assoc] at later

theorem started_holds (w w' : Work) (kind : SequenceKind) (auth : Bytes) (response : Response)
    (began : Succeeds (startSequence kind auth) w response w') :
    ∃ handle, response.handle = some handle ∧
      w'.objects.get handle = some (.sequence (Sequence.madeOf kind auth [])) := by
  unfold startSequence Work.insert at began
  simp only [succeeds_bind, succeeds_lift, succeeds_get, succeeds_modify, succeeds_pure] at began
  obtain ⟨_, _, ⟨_, _, ⟨rfl, rfl⟩, ⟨handle, objects⟩, _, ⟨placed, rfl⟩, _, _, rfl, rfl, rfl⟩, rfl, rfl⟩ := began
  refine ⟨handle, rfl, ?_⟩
  rw [ObjectSlots.insert_slot_put _ _ _ _ placed]
  exact SortedMap.get_insert_same _ _ _

-- The slot of a hash sequence, and that its hash is one the TPM has.
theorem hash_started (s₀ s : TpmState) (start : Request) (opened : Reply) (handle : UInt32) (hashAlg : UInt16) (auth : Bytes)
    (begins : start.code = Cc.hashSequenceStart) (asked : start.params unmarshalStart = .ok (auth, hashAlg))
    (chosen : hashAlg ≠ Alg.null) (began : Succeeds (runCommand start) s₀ opened s) (given : opened.handle = some handle) :
    Hash.isSupported hashAlg = true ∧
      s.objects.get handle = some (.sequence (Sequence.madeOf (.hash hashAlg) auth [])) := by
  unfold runCommand at began
  rw [begins, handler_of_sequences.2.2.1] at began
  simp only [Handler.run, succeeds_bind, succeeds_get, succeeds_map] at began
  obtain ⟨_, _, ⟨rfl, rfl⟩, response, ran, rfl⟩ := began
  obtain ⟨w, inner, rfl⟩ := (succeeds_zoom _ _ _ _ _ _).mp ran
  unfold hashSequenceStart at inner
  simp only [succeeds_bind, succeeds_lift] at inner
  obtain ⟨⟨auth', hashAlg'⟩, _, ⟨asked', rfl⟩, inner⟩ := inner
  obtain ⟨rfl, rfl⟩ := Prod.mk.inj (Except.ok.inj (asked.symm.trans asked'))
  dsimp only at inner
  rw [if_neg chosen] at inner
  cases supported : Hash.isSupported hashAlg with
  | false =>
      rw [supported] at inner
      simp [succeeds_bind] at inner
  | true =>
      simp only [supported, Bool.not_true, Bool.false_eq_true, if_false] at inner
      obtain ⟨other, named, held⟩ := started_holds _ _ _ _ _ inner
      have same : other = handle := Option.some.inj (named.symm.trans given)
      subst same
      exact ⟨rfl, held⟩

def completeParams : Reader (Bytes × UInt32) := do
  let buffer ← unmarshalBuffer
  return (buffer, ← Reader.withParameter 2 u32)

-- What TPM2_Hash answers for some data, with its ticket or without one.
def ticketOf (s : TpmState) (hierarchy : UInt32) (hashAlg : UInt16) (data digest : Bytes) (ticketed : Bool) :
    TpmResult (Ticket × List Mac) :=
  if ticketed then hashTicket s hierarchy hashAlg data digest else .ok (Ticket.null St.hashcheck, [])

def hashReply (s : TpmState) (hierarchy : UInt32) (hashAlg : UInt16) (data : Bytes) (ticketed : Bool) : TpmResult Reply := do
  let digest ← Hash.digest hashAlg data
  let (ticket, macs) ← ticketOf s hierarchy hashAlg data digest ticketed
  let digest : Tpm2bDigest ← Tpm2b.new digest
  return { parameters := digest.marshal ++ ticket.marshal, macs }

def hashParams : Reader (Bytes × UInt16 × UInt32) := do
  let data : Tpm2bMaxBuffer ← Reader.withParameter 1 Tpm2b.unmarshal
  let hashAlg ← Reader.withParameter 2 u16
  return (data.buffer, hashAlg, ← Reader.withParameter 3 u32)

theorem hash_command_reply (s : TpmState) (whole : Request) (hashAlg : UInt16) (data digest : Bytes) (hierarchy : UInt32)
    (made : Hash.digest hashAlg data = .ok digest) (sent : whole.params hashParams = .ok (data, hashAlg, hierarchy)) :
    hashCommand s whole = hashReply s hierarchy hashAlg data true := by
  unfold hashParams at sent
  unfold hashCommand hashReply
  rw [sent]
  simp only [bind, Except.bind, Except.mapError, made]
  rfl

def completed (s : TpmState) (sequence : Sequence) (hierarchy : UInt32) (data : Bytes) (short : Bool) : TpmResult Reply := do
  let (digest, ticket, macs) ← sequenceDigest s sequence hierarchy data short
  let digest : Tpm2bDigest ← Tpm2b.new digest
  return { parameters := digest.marshal ++ ticket.marshal, macs }

theorem complete_made_of (u : TpmState) (complete : Request) (handle hierarchy : UInt32) (kind : SequenceKind)
    (auth last : Bytes) (parts : List Bytes) (named : complete.handle 0 = .ok handle)
    (sent : complete.params completeParams = .ok (last, hierarchy)) (digests : kind ≠ .event)
    (held : u.objects.get handle = some (.sequence (Sequence.madeOf kind auth parts))) :
    sequenceComplete u complete = completed u (Sequence.madeOf kind auth parts) hierarchy (parts ++ [last]).flatten
      (shortStart (parts ++ [last])) := by
  have found : u.objects.getSlot handle = .ok (.sequence (Sequence.madeOf kind auth parts)) := by
    unfold ObjectSlots.getSlot
    rw [held]
  have digesting : (Sequence.madeOf kind auth parts).isEvent = false := beq_eq_false_iff_ne.mpr digests
  unfold completeParams at sent
  unfold sequenceComplete completed
  rw [named, sent]
  simp only [bind, Except.bind, found, withHandle, Except.mapError, Slot.asSequence, digesting, Bool.false_eq_true, if_false]
  rw [← short_start_append, List.flatten_append, List.flatten_singleton]
  rfl

theorem completed_hash (s : TpmState) (hierarchy : UInt32) (hashAlg : UInt16) (auth data : Bytes) (parts : List Bytes)
    (short : Bool) : completed s (Sequence.madeOf (.hash hashAlg) auth parts) hierarchy data short =
      hashReply s hierarchy hashAlg data (!short) := by
  unfold completed sequenceDigest hashReply ticketOf Sequence.madeOf
  dsimp only
  cases Hash.digest hashAlg data with
  | error e => rfl
  | ok digest =>
      cases short with
      | true => rfl
      | false =>
          simp only [bind, Except.bind]
          cases hashTicket s hierarchy hashAlg data digest with
          | error e => rfl
          | ok made => rfl

-- A hash made in parts is the hash TPM2_Hash makes of the whole, and so is the ticket, unless the first part is too short
-- to show what the message begins with: then there is none. What else the TPM does in between makes no difference.
theorem hash_sequence_is_one_hash (start complete : Request) (s₀ s u : TpmState) (opened : Reply) (handle hierarchy : UInt32)
    (hashAlg : UInt16) (auth last : Bytes) (parts : List Bytes) (begins : start.code = Cc.hashSequenceStart)
    (asked : start.params unmarshalStart = .ok (auth, hashAlg)) (chosen : hashAlg ≠ Alg.null)
    (began : Succeeds (runCommand start) s₀ opened s) (given : opened.handle = some handle) (fed : Fed handle s parts u)
    (named : complete.handle 0 = .ok handle) (sent : complete.params completeParams = .ok (last, hierarchy)) :
    sequenceComplete u complete =
        hashReply u hierarchy hashAlg (parts ++ [last]).flatten (!shortStart (parts ++ [last])) ∧
      ∀ whole : Request, whole.params hashParams = .ok ((parts ++ [last]).flatten, hashAlg, hierarchy) →
        hashCommand u whole = hashReply u hierarchy hashAlg (parts ++ [last]).flatten true := by
  obtain ⟨supported, held⟩ := hash_started s₀ s start opened handle hashAlg auth begins asked chosen began given
  have fedHolds := fed_holds (.hash hashAlg) auth handle s u parts fed [] held
  rw [List.nil_append] at fedHolds
  have done := complete_made_of u complete handle hierarchy _ auth last parts named sent (by simp) fedHolds
  refine ⟨done.trans (completed_hash u hierarchy hashAlg auth _ parts _), fun whole carried => ?_⟩
  unfold Hash.isSupported at supported
  cases sized : Hash.digestSize hashAlg with
  | error e =>
      rw [sized] at supported
      cases supported
  | ok size =>
      exact hash_command_reply u whole hashAlg _ _ hierarchy (Hash.digest_ok hashAlg _ size sized) carried

-- The key of an HMAC sequence is the one its object has when the sequence starts, whatever becomes of the object.
theorem hmac_started (s₀ s : TpmState) (start : Request) (opened : Reply) (handle keyHandle : UInt32) (requested : UInt16)
    (auth : Bytes) (begins : start.code = Cc.hmacStart) (keyed : start.handle 0 = .ok keyHandle)
    (asked : start.params unmarshalStart = .ok (auth, requested)) (began : Succeeds (runCommand start) s₀ opened s)
    (given : opened.handle = some handle) : ∃ key hashAlg, hmacKey s₀ keyHandle requested = .ok (key, hashAlg) ∧
      s.objects.get handle = some (.sequence (Sequence.madeOf (.hmac hashAlg key) auth [])) := by
  unfold runCommand at began
  rw [begins, handler_of_sequences.2.2.2] at began
  simp only [Handler.run, succeeds_bind, succeeds_get, succeeds_map] at began
  obtain ⟨_, _, ⟨rfl, rfl⟩, response, ran, rfl⟩ := began
  obtain ⟨w, inner, rfl⟩ := (succeeds_zoom _ _ _ _ _ _).mp ran
  unfold hmacStart at inner
  simp only [succeeds_bind, succeeds_lift] at inner
  obtain ⟨keyHandle', _, ⟨keyed', rfl⟩, ⟨auth', requested'⟩, _, ⟨asked', rfl⟩, ⟨key, hashAlg⟩, _, ⟨found, rfl⟩, inner⟩ := inner
  obtain rfl := Except.ok.inj (keyed.symm.trans keyed')
  obtain ⟨rfl, rfl⟩ := Prod.mk.inj (Except.ok.inj (asked.symm.trans asked'))
  obtain ⟨other, named, held⟩ := started_holds _ _ _ _ _ inner
  have same : other = handle := Option.some.inj (named.symm.trans given)
  subst same
  exact ⟨key, hashAlg, found, held⟩

def hmacReply (hashAlg : UInt16) (key data : Bytes) : TpmResult Tpm2bDigest := do Tpm2b.new (← hmac hashAlg key data)

def hmacParams : Reader (Bytes × UInt16) := do
  let buffer : Tpm2bMaxBuffer ← Reader.withParameter 1 Tpm2b.unmarshal
  return (buffer.buffer, ← Reader.withParameter 2 u16)

-- The same of an HMAC, with the key as it was at the start. Its ticket is always the empty one.
theorem hmac_sequence_is_one_hmac (start complete : Request) (s₀ s u : TpmState) (opened : Reply)
    (handle keyHandle hierarchy : UInt32) (requested : UInt16) (auth last : Bytes) (parts : List Bytes)
    (begins : start.code = Cc.hmacStart) (keyed : start.handle 0 = .ok keyHandle)
    (asked : start.params unmarshalStart = .ok (auth, requested)) (began : Succeeds (runCommand start) s₀ opened s)
    (given : opened.handle = some handle) (fed : Fed handle s parts u) (named : complete.handle 0 = .ok handle)
    (sent : complete.params completeParams = .ok (last, hierarchy)) :
    ∃ key hashAlg, hmacKey s₀ keyHandle requested = .ok (key, hashAlg) ∧
      sequenceComplete u complete = (hmacReply hashAlg key (parts ++ [last]).flatten).map (fun digest =>
        { parameters := digest.marshal ++ (Ticket.null St.hashcheck).marshal, macs := [] }) ∧
      ∀ whole : Request, whole.handle 0 = .ok keyHandle →
        whole.params hmacParams = .ok ((parts ++ [last]).flatten, requested) →
        hmacCommand s₀ whole =
          (hmacReply hashAlg key (parts ++ [last]).flatten).map (fun digest => Response.of digest.marshal) := by
  obtain ⟨key, hashAlg, found, held⟩ :=
    hmac_started s₀ s start opened handle keyHandle requested auth begins keyed asked began given
  have fedHolds := fed_holds (.hmac hashAlg key) auth handle s u parts fed [] held
  rw [List.nil_append] at fedHolds
  refine ⟨key, hashAlg, found, ?_, fun whole same carried => ?_⟩
  · rw [complete_made_of u complete handle hierarchy _ auth last parts named sent (by simp) fedHolds]
    unfold completed sequenceDigest hmacReply Sequence.madeOf
    dsimp only
    cases hmac hashAlg key (parts ++ [last]).flatten with
    | error e => rfl
    | ok value =>
        simp only [bind, Except.bind, pure, Except.pure]
        cases (Tpm2b.new value : TpmResult Tpm2bDigest) with
        | error e => rfl
        | ok digest => rfl
  · unfold hmacParams at carried
    unfold hmacCommand hmacReply
    rw [same, carried]
    simp only [bind, Except.bind, found]
    cases hmac hashAlg key (parts ++ [last]).flatten with
    | error e => rfl
    | ok value =>
        dsimp only
        cases (Tpm2b.new value : TpmResult Tpm2bDigest) with
        | error e => rfl
        | ok digest => rfl

end

namespace Toy

def startsHash : Request := requestOf (plainCommand Cc.hashSequenceStart [] (sized16 [] ++ be16 Alg.sha256))

def updatesHash : Request :=
  requestOf (authorizedCommand Cc.sequenceUpdate [Hc.transientFirst] [(Rh.rsPw, [])] (sized16 [1, 2, 3, 4]))

def completesHash : Request :=
  requestOf (authorizedCommand Cc.sequenceComplete [Hc.transientFirst] [(Rh.rsPw, [])] (sized16 [5] ++ be32 Rh.null))

def hashesWhole : Request := requestOf (plainCommand Cc.hash [] (sized16 [1, 2, 3, 4, 5] ++ be16 Alg.sha256 ++ be32 Rh.null))

theorem hashed_in_parts : ∃ opened s reply t, Succeeds (runCommand startsHash) blank opened s ∧
    Succeeds (runCommand updatesHash) s reply t ∧ sequenceComplete t completesHash = hashCommand t hashesWhole := by
  have tested : endsWith (runCommand startsHash) blank (fun opened s => decide (opened.handle = some Hc.transientFirst) &&
      endsWith (runCommand updatesHash) s fun _ _ => true) = true := by decide +kernel
  obtain ⟨opened, s, began, rest⟩ := succeeds_of_ends_with _ _ _ tested
  obtain ⟨given, updates⟩ := Bool.and_eq_true_iff.mp rest
  obtain ⟨reply, t, updated, -⟩ := succeeds_of_ends_with _ _ _ updates
  have fed : Fed Hc.transientFirst s [[1, 2, 3, 4]] t :=
    .update s t t updatesHash reply [1, 2, 3, 4] [] (by decide +kernel) (by decide +kernel) (by decide +kernel)
      updated (.done t)
  have both := hash_sequence_is_one_hash startsHash completesHash blank s t opened Hc.transientFirst Rh.null Alg.sha256 [] [5]
    [[1, 2, 3, 4]] (by decide +kernel) (by decide +kernel) (by decide) began (of_decide_eq_true given) fed
    (by decide +kernel) (by decide +kernel)
  exact ⟨opened, s, reply, t, began, updated, both.1.trans (both.2 hashesWhole (by decide +kernel)).symm⟩

-- An HMAC key that is loaded, and a sequence with it.
def hmacKeyed : TpmState :=
  let area := { sealedArea [] with objectAttributes := ⟨ObjectAttributes.userWithAuth ||| ObjectAttributes.signEncrypt⟩ }
  let sensitive : TpmtSensitive := ⟨Alg.keyedhash, Tpm2b.empty, Tpm2b.empty, .bits Tpm2b.empty⟩
  let objects : ObjectSlots :=
    SortedMap.empty.insert Hc.transientFirst (.object ⟨area, some sensitive, [], [], Rh.owner, false, false⟩)
  { blank with objects }

def startsKeyed : Request :=
  requestOf (authorizedCommand Cc.hmacStart [Hc.transientFirst] [(Rh.rsPw, [])] (sized16 [] ++ be16 Alg.sha256))

def updatesKeyed : Request :=
  requestOf (authorizedCommand Cc.sequenceUpdate [Hc.transientFirst + 1] [(Rh.rsPw, [])] (sized16 [1, 2, 3, 4]))

def completesKeyed : Request :=
  requestOf (authorizedCommand Cc.sequenceComplete [Hc.transientFirst + 1] [(Rh.rsPw, [])] (sized16 [5] ++ be32 Rh.null))

def macsWhole : Request :=
  requestOf (authorizedCommand Cc.hmac [Hc.transientFirst] [(Rh.rsPw, [])] (sized16 [1, 2, 3, 4, 5] ++ be16 Alg.sha256))

theorem hmac_in_parts : ∃ opened s reply t key hashAlg, Succeeds (runCommand startsKeyed) hmacKeyed opened s ∧
    Succeeds (runCommand updatesKeyed) s reply t ∧ hmacKey hmacKeyed Hc.transientFirst Alg.sha256 = .ok (key, hashAlg) ∧
    sequenceComplete t completesKeyed = (hmacReply hashAlg key [1, 2, 3, 4, 5]).map (fun digest =>
      { parameters := digest.marshal ++ (Ticket.null St.hashcheck).marshal, macs := [] }) ∧
    hmacCommand hmacKeyed macsWhole = (hmacReply hashAlg key [1, 2, 3, 4, 5]).map
      (fun digest => Response.of digest.marshal) := by
  have tested : endsWith (runCommand startsKeyed) hmacKeyed (fun opened s =>
      decide (opened.handle = some (Hc.transientFirst + 1)) &&
      endsWith (runCommand updatesKeyed) s fun _ _ => true) = true := by decide +kernel
  obtain ⟨opened, s, began, rest⟩ := succeeds_of_ends_with _ _ _ tested
  obtain ⟨given, updates⟩ := Bool.and_eq_true_iff.mp rest
  obtain ⟨reply, t, updated, -⟩ := succeeds_of_ends_with _ _ _ updates
  have fed : Fed (Hc.transientFirst + 1) s [[1, 2, 3, 4]] t :=
    .update s t t updatesKeyed reply [1, 2, 3, 4] [] (by decide +kernel) (by decide +kernel) (by decide +kernel) updated
      (.done t)
  obtain ⟨key, hashAlg, found, completed, whole⟩ := hmac_sequence_is_one_hmac startsKeyed completesKeyed hmacKeyed s t opened
    (Hc.transientFirst + 1) Hc.transientFirst Rh.null Alg.sha256 [] [5] [[1, 2, 3, 4]] (by decide +kernel)
    (by decide +kernel) (by decide +kernel) began (of_decide_eq_true given) fed (by decide +kernel) (by decide +kernel)
  exact ⟨opened, s, reply, t, key, hashAlg, began, updated, found, completed,
    whole macsWhole (by decide +kernel) (by decide +kernel)⟩

end Toy

end Swtrust
