import Swtrust.Commands.Reading
import Swtrust.Commands.X509
import Swtrust.Crypto.Padding
import Swtrust.Structures.Shortest

set_option autoImplicit false

namespace Swtrust

open Library

namespace Der

-- The octets are one SEQUENCE, of these elements in this order and nothing else.
def Lists (octets : Bytes) (fields : List Element) : Prop :=
  ∃ outer, only (tagged Tag.sequence) octets = .ok outer ∧ (elements fields.length).run outer.value = .ok (fields, []) ∧
    ∀ field ∈ fields, Decodes element field.raw field

theorem only_is_ok {α : Type} (reader : Reader α) (input : Bytes) (value : α) (read : only reader input = .ok value) :
    reader.run input = .ok (value, []) := by
  unfold only at read
  split at read
  · cases read
  · next other ran =>
      cases read
      exact ran
  · cases read

theorem only_of_decodes {α : Type} (reader : Reader α) (octets : Bytes) (value : α) (read : Decodes reader octets value) :
    only reader octets = .ok value := by
  have whole : reader.run octets = .ok (value, []) := by simpa using read []
  unfold only
  rw [whole]

theorem tagged_is_ok (want : UInt8) (input rest : Bytes) (e : Element) (read : (tagged want).run input = .ok (e, rest)) :
    element.run input = .ok (e, rest) ∧ e.tag = want := by
  obtain ⟨first, middle, began, made⟩ := (reader_bind_is_ok _ _ _ _ _).mp read
  by_cases other : first.tag ≠ want
  · rw [if_pos other] at made
    cases made
  · rw [if_neg other] at made
    cases made
    exact ⟨began, not_not.mp other⟩

theorem decodes_tagged (want : UInt8) (octets : Bytes) (e : Element) (read : Decodes element octets e)
    (same : e.tag = want) : Decodes (tagged want) octets e := by
  refine decodes_bind_last _ _ _ _ _ read ?_
  rw [if_neg (not_not.mpr same)]
  exact decodes_pure e

theorem element_not_empty (e : Element) (read : Decodes element e.raw e) : ∃ head rest, e.raw = head :: rest := by
  have once : element.run e.raw = .ok (e, []) := by simpa using read []
  obtain ⟨field, _, raw, _⟩ := element_is_ok _ _ _ once
  exact ⟨_, _, raw⟩

theorem element_shortens (input rest : Bytes) (e : Element) (read : element.run input = .ok (e, rest)) :
    rest.length < input.length := by
  obtain ⟨whole, again⟩ := element_again input rest e read
  obtain ⟨head, tail, raw⟩ := element_not_empty e again
  rw [whole, raw, List.length_append, List.length_cons]
  omega

theorem elements_is_ok (room : Nat) (input rest : Bytes) (list : List Element)
    (read : (elements room).run input = .ok (list, rest)) :
    rest = [] ∧ input = (list.map Element.raw).flatten ∧ list.length ≤ room ∧ ∀ e ∈ list, Decodes element e.raw e := by
  induction room generalizing input list with
  | zero =>
      obtain ⟨empty, middle, began, made⟩ := (reader_bind_is_ok _ _ _ _ _).mp read
      cases began
      cases input with
      | nil =>
          cases made
          simp
      | cons head tail =>
          obtain ⟨e, after, _, refused⟩ := (reader_bind_is_ok _ _ _ _ _).mp made
          cases refused
  | succ room ih =>
      obtain ⟨empty, middle, began, made⟩ := (reader_bind_is_ok _ _ _ _ _).mp read
      cases began
      cases input with
      | nil =>
          cases made
          simp
      | cons head tail =>
          obtain ⟨e, after, first, made⟩ := (reader_bind_is_ok _ _ _ _ _).mp made
          obtain ⟨others, last, more, made⟩ := (reader_bind_is_ok _ _ _ _ _).mp made
          cases made
          obtain ⟨whole, again⟩ := element_again _ _ _ first
          obtain ⟨ended, joined, few, each⟩ := ih after others more
          refine ⟨ended, ?_, Nat.succ_le_succ few, List.forall_mem_cons.mpr ⟨again, each⟩⟩
          rw [whole, joined, List.map_cons, List.flatten_cons]

theorem elements_more (room : Nat) (head : UInt8) (tail : Bytes) :
    (elements (room + 1)).run (head :: tail) =
      (element >>= fun e => elements room >>= fun others => pure (e :: others)).run (head :: tail) := rfl

theorem elements_of_decodes (room : Nat) (list : List Element) (few : list.length ≤ room)
    (each : ∀ e ∈ list, Decodes element e.raw e) :
    (elements room).run (list.map Element.raw).flatten = .ok (list, []) := by
  induction list generalizing room with
  | nil => cases room <;> rfl
  | cons e list ih =>
      cases room with
      | zero => cases few
      | succ room =>
          obtain ⟨read, each⟩ := List.forall_mem_cons.mp each
          obtain ⟨head, tail, raw⟩ := element_not_empty e read
          have first := read (list.map Element.raw).flatten
          have rest := ih room (Nat.le_of_succ_le_succ few) each
          rw [List.map_cons, List.flatten_cons]
          rw [raw, List.cons_append] at first ⊢
          rw [elements_more, reader_bind_is_ok]
          refine ⟨e, _, first, ?_⟩
          rw [reader_bind_is_ok]
          exact ⟨list, [], rest, rfl⟩

theorem lists_of_only (octets : Bytes) (outer : Element) (room : Nat) (fields : List Element) (rest : Bytes)
    (read : only (tagged Tag.sequence) octets = .ok outer) (listed : (elements room).run outer.value = .ok (fields, rest)) :
    Lists octets fields := by
  obtain ⟨_, joined, _, each⟩ := elements_is_ok room outer.value rest fields listed
  refine ⟨outer, read, ?_, each⟩
  rw [joined]
  exact elements_of_decodes fields.length fields (Nat.le_refl _) each

-- What `sequence` writes lists what was put in it.
theorem lists_sequence (fields : List Element) (each : ∀ field ∈ fields, Decodes element field.raw field)
    (small : (fields.map Element.raw).flatten.length < 256 ^ 4) :
    Lists (sequence (fields.map Element.raw)) fields := by
  have read := decodes_element Tag.sequence (fields.map Element.raw).flatten small
  refine ⟨_, only_of_decodes _ _ _ (decodes_tagged Tag.sequence _ _ read rfl), ?_, each⟩
  exact elements_of_decodes fields.length fields (Nat.le_refl _) each

theorem lists_length (octets : Bytes) (fields : List Element) (listed : Lists octets fields) :
    (fields.map Element.raw).flatten.length ≤ octets.length := by
  obtain ⟨outer, read, elements, _⟩ := listed
  obtain ⟨_, joined, _, _⟩ := elements_is_ok _ _ _ _ elements
  obtain ⟨field, _, raw, whole⟩ := element_is_ok _ _ _ (tagged_is_ok _ _ _ _ (only_is_ok _ _ _ read)).1
  rw [← joined, whole, raw, List.append_nil, List.length_append]
  exact Nat.le_add_left _ _

-- A loose bound, but enough for what goes into a certificate.
theorem tlv_length_le (tag : UInt8) (value : Bytes) : (tlv tag value).length ≤ 2 * value.length + 3 := by
  have field : (lengthOctets value.length).length ≤ value.length + 2 := by
    by_cases short : value.length < 0x80
    · rw [lengthOctets, if_pos short, List.length_singleton]
      omega
    · rw [length_octets_long _ (Nat.le_of_not_lt short), List.length_cons, be_bytes_length]
      have size : value.length.size ≤ value.length := Nat.size_le.mpr Nat.lt_two_pow_self
      omega
  rw [tlv, List.length_append, List.length_cons]
  omega

-- The octets are an element as `tlv` writes it, of no more octets than that.
def Wrote (octets : Bytes) (bound : Nat) : Prop := ∃ tag value, octets = tlv tag value ∧ 2 * value.length + 3 ≤ bound

theorem wrote_element (octets : Bytes) (bound : Nat) (wrote : Wrote octets bound) (small : bound < 256 ^ 4) :
    ∃ e : Element, e.raw = octets ∧ e.raw = tlv e.tag e.value ∧ Decodes element e.raw e := by
  obtain ⟨tag, value, rfl, fits⟩ := wrote
  exact ⟨⟨tag, value, tlv tag value⟩, rfl, rfl, decodes_element tag value (by omega)⟩

theorem wrote_length (octets : Bytes) (bound : Nat) (wrote : Wrote octets bound) : octets.length ≤ bound := by
  obtain ⟨tag, value, rfl, small⟩ := wrote
  exact Nat.le_trans (tlv_length_le tag value) small

theorem wrote_tlv (tag : UInt8) (value : Bytes) (bound : Nat) (small : value.length ≤ bound) :
    Wrote (tlv tag value) (2 * bound + 3) :=
  ⟨tag, value, rfl, by omega⟩

theorem wrote_sequence (parts : List Bytes) (bound : Nat) (small : parts.flatten.length ≤ bound) :
    Wrote (sequence parts) (2 * bound + 3) :=
  wrote_tlv Tag.sequence parts.flatten bound small

theorem wrote_unsigned_integer (value : Bytes) (bound : Nat) (small : value.length ≤ bound) :
    Wrote (unsignedInteger value) (2 * (bound + 1) + 3) := by
  have fewer := (List.dropWhile_sublist (fun octet : UInt8 => octet == 0) (l := value)).length_le
  unfold unsignedInteger
  cases trimmed : value.dropWhile (· == 0) with
  | nil => exact wrote_tlv Tag.integer [0] (bound + 1) (Nat.le_add_left 1 bound)
  | cons head rest =>
      rw [trimmed, List.length_cons] at fewer
      refine wrote_tlv Tag.integer _ (bound + 1) ?_
      by_cases high : 0x80 ≤ head
      · simp only [if_pos high, List.length_cons]
        omega
      · simp only [if_neg high, List.length_cons]
        omega

theorem wrote_bit_string (value : Bytes) (bound : Nat) (small : value.length ≤ bound) :
    Wrote (bitString value) (2 * (bound + 1) + 3) :=
  wrote_tlv Tag.bitString (0 :: value) (bound + 1) (Nat.succ_le_succ small)

end Der

namespace X509

theorem read_extensions_more (turns : Nat) (usage : Usage) (head : UInt8) (tail : Bytes) :
    (readExtensions (turns + 1) usage).run (head :: tail) = (do
      let extension ← Der.tagged Der.Tag.sequence
      let (oid, body) ← Der.only readExtension extension.value
      let usage ← useExtension usage oid body
      readExtensions turns usage : Reader Usage).run (head :: tail) := rfl

-- Any two loops with as many turns as there are octets read the same: neither ends before the octets do.
theorem read_extensions_enough (a b : Nat) (usage : Usage) (input : Bytes) (enoughA : input.length ≤ a)
    (enoughB : input.length ≤ b) : (readExtensions a usage).run input = (readExtensions b usage).run input := by
  induction a generalizing b usage input with
  | zero =>
      obtain rfl := List.length_eq_zero_iff.mp (Nat.le_zero.mp enoughA)
      cases b <;> rfl
  | succ a ih =>
      cases input with
      | nil => cases b <;> rfl
      | cons head tail =>
          cases b with
          | zero => cases enoughB
          | succ b =>
              rw [read_extensions_more, read_extensions_more]
              refine run_bind_congr _ _ _ _ fun extension after began => ?_
              have shorter := Der.element_shortens _ _ _ (Der.tagged_is_ok _ _ _ _ began).1
              rw [List.length_cons] at enoughA enoughB shorter
              refine run_bind_congr _ _ _ _ fun pair second read => ?_
              obtain rfl := run_lift_rest _ _ _ _ read
              refine run_bind_congr _ _ _ _ fun next third used => ?_
              obtain rfl := run_lift_rest _ _ _ _ used
              exact ih b next third (by omega) (by omega)

theorem curve_oid_length (curveId : UInt16) (oid : Bytes) (named : curveOid curveId = some oid) : oid.length ≤ 8 := by
  unfold curveOid at named
  repeat' split at named
  all_goals cases named
  all_goals decide

theorem padded_coordinates_length (size : Nat) (x y out : Bytes) (padded : paddedCoordinates size x y = .ok out) :
    out.length = 1 + 2 * size := by
  unfold paddedCoordinates at padded
  split at padded
  · cases padded
  · cases padded
    simp only [List.length_cons, List.length_append, List.length_replicate]
    omega

theorem wrote_rsa_key (modulus : Tpm2bPublicKeyRsa) (exponent : UInt32) :
    Der.Wrote (Der.sequence [Der.unsignedInteger modulus.buffer, Der.unsignedInteger (be32 exponent)]) 2100 := by
  have fits : modulus.buffer.length ≤ 512 := modulus.fits
  have first := Der.wrote_length _ _ (Der.wrote_unsigned_integer modulus.buffer 512 fits)
  have second := Der.wrote_length _ _ (Der.wrote_unsigned_integer (be32 exponent) 4 (Nat.le_of_eq (be32_length _)))
  obtain ⟨tag, value, same, small⟩ := Der.wrote_sequence
    [Der.unsignedInteger modulus.buffer, Der.unsignedInteger (be32 exponent)] 1042 (by
      simp only [List.flatten_cons, List.flatten_nil, List.length_append, List.length_nil]
      omega)
  exact ⟨tag, value, same, by omega⟩

theorem wrote_spki (object : Object) (spki : Bytes) (made : subjectPublicKeyInfo object = .ok spki) :
    Der.Wrote spki 20000 := by
  -- What names the algorithm is a few octets; the key is the rest.
  have whole : ∀ identifier key : Bytes, identifier.length ≤ 100 → key.length ≤ 2100 →
      Der.Wrote (Der.sequence [identifier, Der.bitString key]) 20000 := by
    intro identifier key named size
    have bits := Der.wrote_length _ _ (Der.wrote_bit_string key 2100 size)
    obtain ⟨tag, value, same, small⟩ := Der.wrote_sequence [identifier, Der.bitString key] 5000 (by
      simp only [List.flatten_cons, List.flatten_nil, List.length_append, List.length_nil]
      omega)
    exact ⟨tag, value, same, by omega⟩
  unfold subjectPublicKeyInfo at made
  split at made
  · cases made
    exact whole _ _ (by decide) (Der.wrote_length _ _ (wrote_rsa_key _ _))
  · next curveId _ point _ _ =>
      cases named : curveOid curveId with
      | none =>
          rw [named] at made
          cases made
      | some oid =>
          rw [named] at made
          obtain ⟨size, sized, made⟩ := (bind_is_ok _ _ _).mp made
          obtain ⟨encoded, padded, made⟩ := (bind_is_ok _ _ _).mp made
          cases made
          have length := padded_coordinates_length size _ _ encoded padded
          have few := Ecc.coordinate_size_small curveId size sized
          have short := curve_oid_length curveId oid named
          have first := Der.tlv_length_le Der.Tag.oid oidEcPublicKey
          have second := Der.tlv_length_le Der.Tag.oid oid
          have seven : oidEcPublicKey.length = 7 := rfl
          refine whole _ _ ?_ (by omega)
          have inner := Der.wrote_length _ _ (Der.wrote_sequence
            [Der.tlv Der.Tag.oid oidEcPublicKey, Der.tlv Der.Tag.oid oid] 36 (by
              simp only [List.flatten_cons, List.flatten_nil, List.length_append, List.length_nil]
              omega))
          omega
  · cases made

theorem signature_oid_length (scheme hashAlg : UInt16) (row : (UInt16 × UInt16) × Bytes)
    (named : signatureOids.find? (fun row => row.1 == (scheme, hashAlg)) = some row) : row.2.length ≤ 9 := by
  have all : ∀ row ∈ signatureOids, row.2.length ≤ 9 := by decide
  exact all row (List.mem_of_find?_eq_some named)

theorem wrote_signature_algorithm (scheme hashAlg : UInt16) (algorithm : Bytes)
    (named : signatureAlgorithm scheme hashAlg = some algorithm) : Der.Wrote algorithm 100 := by
  unfold signatureAlgorithm at named
  obtain ⟨row, found, named⟩ := Option.bind_eq_some_iff.mp named
  have short := signature_oid_length scheme hashAlg row found
  have identifier := Der.tlv_length_le Der.Tag.oid row.2
  have nothing := Der.tlv_length_le Der.Tag.null []
  obtain rfl := Option.some.inj named
  by_cases rsassa : scheme = Alg.rsassa
  · rw [if_pos rsassa]
    obtain ⟨tag, value, same, small⟩ := Der.wrote_sequence [Der.tlv Der.Tag.oid row.2, Der.tlv Der.Tag.null []] 24 (by
      simp only [List.flatten_cons, List.flatten_nil, List.length_append, List.length_nil] at nothing ⊢
      omega)
    exact ⟨tag, value, same, by omega⟩
  · rw [if_neg rsassa]
    obtain ⟨tag, value, same, small⟩ := Der.wrote_sequence [Der.tlv Der.Tag.oid row.2] 24 (by
      simp only [List.flatten_cons, List.flatten_nil, List.length_append, List.length_nil]
      omega)
    exact ⟨tag, value, same, by omega⟩

theorem partial_of_ok (algorithm : Option Bytes) (issuer validity subject extensions : Der.Element) (fields : Partial)
    (made : partialOf algorithm issuer validity subject extensions = .ok fields) :
    fields.algorithm = algorithm ∧ fields.issuer = issuer.raw ∧ fields.validity = validity.raw ∧
      fields.subject = subject.raw ∧ fields.extensions = extensions.raw := by
  unfold partialOf at made
  obtain ⟨_, made⟩ := (guarded_then_is_ok _ _ _ _ _).mp made
  obtain ⟨list, _, made⟩ := (bind_is_ok _ _ _).mp made
  obtain ⟨⟨usage, rest⟩, _, made⟩ := (bind_is_ok _ _ _).mp made
  dsimp only at made
  split at made
  · cases made
  · cases made
    exact ⟨rfl, rfl, rfl, rfl, rfl⟩

theorem parse_partial_ok (certificate : Bytes) (fields : Partial) (made : parsePartial certificate = .ok fields) :
    ∃ (algorithm : Option Der.Element) (issuer validity subject extensions : Der.Element),
      Der.Lists certificate (algorithm.toList ++ [issuer, validity, subject, extensions]) ∧
      fields.algorithm = algorithm.map Der.Element.raw ∧ fields.issuer = issuer.raw ∧ fields.validity = validity.raw ∧
      fields.subject = subject.raw ∧ fields.extensions = extensions.raw := by
  unfold parsePartial at made
  obtain ⟨outer, read, made⟩ := (bind_is_ok _ _ _).mp made
  obtain ⟨⟨list, rest⟩, listed, made⟩ := (bind_is_ok _ _ _).mp made
  have lists := Der.lists_of_only certificate outer 5 list rest read listed
  dsimp only at made
  split at made
  · next issuer validity subject extensions =>
      exact ⟨none, issuer, validity, subject, extensions, lists, partial_of_ok _ _ _ _ _ fields made⟩
  · next algorithm issuer validity subject extensions =>
      exact ⟨some algorithm, issuer, validity, subject, extensions, lists, partial_of_ok _ _ _ _ _ fields made⟩
  · cases made

end X509

section

variable [Primitives] (s : TpmState) (request : Request)

omit [Primitives] in
theorem serial_of_length (octets : Bytes) : (X509.serialOf octets).length = octets.length := by
  cases octets <;> rfl

namespace X509

def version : Bytes := Der.context 0 [Der.unsignedInteger [2]]

-- The octets that are hashed and signed.
def body (fields : Partial) (serial algorithm spki : Bytes) : Bytes :=
  Der.sequence [version, serial, algorithm, fields.issuer, fields.validity, fields.subject, spki, fields.extensions]

def sealBody (signer : Object) (scheme : Scheme) (hashAlg : UInt16) (added tbs : Bytes) : Action TpmRc Work Reply := do
  let digest ← Hash.digest hashAlg tbs
  let (signature, signed) ← signDigest signer scheme digest ⟨0, 2⟩
  let added ← ((Tpm2b.new added : TpmResult Tpm2bMaxBuffer).mapError fun _ => Rc.size.withParameter 3 : TpmResult _)
  let tbsDigest ← (Tpm2b.new digest : TpmResult Tpm2bDigest)
  return { parameters := added.marshal ++ tbsDigest.marshal ++ signature.marshal, signed := some signed }

def addedTo (fields : Partial) (serial algorithm spki : Bytes) : Bytes :=
  Der.sequence (if fields.algorithm.isSome then [version, serial, spki] else [version, serial, algorithm, spki])

def complete (object signer : Object) (scheme : Scheme) (hashAlg : UInt16) (fields : Partial) :
    Action TpmRc Work Reply := do
  let serial := Der.unsignedInteger (serialOf (← Work.bytes 20))
  let spki ← subjectPublicKeyInfo object
  let algorithm ← match fields.algorithm with
    | some supplied => pure supplied
    | none =>
      match signatureAlgorithm scheme.scheme hashAlg with
      | some algorithm => pure algorithm
      | none => throw (Rc.scheme.withParameter 2)
  sealBody signer scheme hashAlg (addedTo fields serial algorithm spki) (body fields serial algorithm spki)

theorem complete_ok (object signer : Object) (scheme : Scheme) (hashAlg : UInt16) (fields : Partial) (w w' : Work)
    (reply : Reply) (ran : Action.Succeeds (complete object signer scheme hashAlg fields) w reply w') :
    ∃ octets spki algorithm drawn, octets.length = 20 ∧ subjectPublicKeyInfo object = .ok spki ∧
      (fields.algorithm = some algorithm ∨
        (fields.algorithm = none ∧ signatureAlgorithm scheme.scheme hashAlg = some algorithm)) ∧
      Action.Succeeds (sealBody signer scheme hashAlg
        (addedTo fields (Der.unsignedInteger (serialOf octets)) algorithm spki)
        (body fields (Der.unsignedInteger (serialOf octets)) algorithm spki)) drawn reply w' := by
  unfold complete at ran
  obtain ⟨octets, drawn, serial, ran⟩ := (Action.succeeds_bind _ _ _ _ _).mp ran
  obtain ⟨spki, _, key, ran⟩ := (Action.succeeds_bind _ _ _ _ _).mp ran
  obtain ⟨made, rfl⟩ := (Action.succeeds_lift _ _ _ _).mp key
  have length := Work.bytes_length 20 w octets drawn serial
  cases supplied : fields.algorithm with
  | some algorithm =>
      rw [supplied] at ran
      exact ⟨octets, spki, algorithm, drawn, length, made, .inl rfl, ran⟩
  | none =>
      rw [supplied] at ran
      cases named : signatureAlgorithm scheme.scheme hashAlg with
      | none =>
          rw [named] at ran
          cases ran
      | some algorithm =>
          rw [named] at ran
          exact ⟨octets, spki, algorithm, drawn, length, made, .inr ⟨rfl, rfl⟩, ran⟩

end X509

-- The request names the object to be certified, and carries the partial certificate.
def X509.Asks (certificate : Tpm2bMaxBuffer) (object : Object) : Prop :=
  (∃ handle, request.handle 0 = .ok handle ∧ s.heldObject handle = .ok object) ∧
    ∃ reserved inScheme, request.params (do
      let reserved : Tpm2bData ← Reader.withParameter 1 Tpm2b.unmarshal
      let inScheme ← Scheme.unmarshalSigScheme.withParameter 2
      let certificate : Tpm2bMaxBuffer ← Reader.withParameter 3 Tpm2b.unmarshal
      return (reserved.buffer, inScheme, certificate.buffer)) = .ok (reserved, inScheme, certificate.buffer)

theorem certify_x509_ok (w w' : Work) (reply : Reply) (ran : Action.Succeeds (certifyX509 s request) w reply w') :
    ∃ (certificate : Tpm2bMaxBuffer) (object signer : Object) (scheme : Scheme) (hashAlg : UInt16) (fields : X509.Partial),
      X509.Asks s request certificate object ∧ X509.parsePartial certificate.buffer = .ok fields ∧
      Action.Succeeds (X509.complete object signer scheme hashAlg fields) w reply w' := by
  unfold certifyX509 at ran
  simp only [Action.succeeds_bind _ _ _ _ reply, Action.succeeds_lift, Action.succeeds_guard] at ran
  obtain ⟨objectHandle, _, ⟨handle, rfl⟩, signHandle, _, ⟨_, rfl⟩, ⟨reserved, inScheme, certificate⟩, _, ⟨read, rfl⟩, _,
    object, _, ⟨held, rfl⟩, _, signer, _, ⟨_, rfl⟩, scheme, _, ⟨_, rfl⟩, hashAlg, _, ⟨_, rfl⟩, fields, _, ⟨parsed, rfl⟩, _,
    _, ⟨_, rfl⟩, ran⟩ := ran
  obtain ⟨_, _, _, last⟩ := (reader_bind_is_ok _ _ _ _ _).mp ((params_is_ok _ _ _).mp read)
  obtain ⟨_, _, _, last⟩ := (reader_bind_is_ok _ _ _ _ _).mp last
  obtain ⟨buffer, _, _, last⟩ := (reader_bind_is_ok _ _ _ _ _).mp last
  cases last
  refine ⟨buffer, object, signer, scheme, hashAlg, fields, ?_, (map_error_is_ok _ _ _).mp parsed, ?_⟩
  · exact ⟨⟨objectHandle, handle, (map_error_is_ok _ _ _).mp held⟩, _, _, read⟩
  · cases claimed : fields.objectAttributes with
    | none =>
        rw [claimed] at ran
        exact ran
    | some value =>
        rw [claimed] at ran
        by_cases other : value ≠ object.area.objectAttributes.value
        · simp only [if_pos other] at ran
          cases ran
        · simp only [if_neg other] at ran
          exact ran

end

namespace X509

-- Of a certificate that was supplied and the body that was made from it: the body is one SEQUENCE of what the caller
-- supplied and what was added, in the order of a TBSCertificate, and each of its fields has the shortest length there is
-- exactly if each of those supplied has.
structure Completed (certificate tbs serial algorithm spki : Bytes) (supplied : Option Der.Element)
    (issuer validity subject extensions : Der.Element) (body : List Der.Element) : Prop where
  given : Der.Lists certificate (supplied.toList ++ [issuer, validity, subject, extensions])
  made : Der.Lists tbs body
  order : body.map Der.Element.raw =
    [version, serial, algorithm, issuer.raw, validity.raw, subject.raw, spki, extensions.raw]
  passed : ∀ field ∈ supplied, field.raw = algorithm
  shortest : (∀ field ∈ body, field.raw = Der.tlv field.tag field.value) ↔
    ∀ field ∈ supplied.toList ++ [issuer, validity, subject, extensions], ¬ Der.Padded field.raw

theorem completed_body (certificate : Tpm2bMaxBuffer) (fields : Partial) (octets algorithm spki : Bytes)
    (parsed : parsePartial certificate.buffer = .ok fields) (drawn : octets.length = 20) (key : Der.Wrote spki 20000)
    (named : fields.algorithm = some algorithm ∨ (fields.algorithm = none ∧ Der.Wrote algorithm 100)) :
    ∃ supplied issuer validity subject extensions list,
      Completed certificate.buffer (body fields (Der.unsignedInteger (serialOf octets)) algorithm spki)
        (Der.unsignedInteger (serialOf octets)) algorithm spki supplied issuer validity subject extensions list := by
  obtain ⟨supplied, issuer, validity, subject, extensions, given, same, issued, valid, named', extended⟩ :=
    parse_partial_ok _ _ parsed
  rw [same] at named
  have each : ∀ field ∈ supplied.toList ++ [issuer, validity, subject, extensions],
      Decodes Der.element field.raw field := by
    obtain ⟨_, _, _, each⟩ := given
    exact each
  have total := Nat.le_trans (Der.lists_length _ _ given) certificate.fits
  obtain ⟨versionField, versionRaw, versionShort, versionRead⟩ :=
    Der.wrote_element version 13 ⟨Der.Tag.context 0, _, rfl, by decide⟩ (by decide)
  have twenty : (serialOf octets).length ≤ 20 := by rw [serial_of_length, drawn]
  obtain ⟨serialField, serialRaw, serialShort, serialRead⟩ :=
    Der.wrote_element _ _ (Der.wrote_unsigned_integer (serialOf octets) 20 twenty) (by decide)
  obtain ⟨keyField, keyRaw, keyShort, keyRead⟩ := Der.wrote_element spki 20000 key (by decide)
  -- The algorithm is one element of the body, whether the caller gave it or the TPM wrote it.
  have identified : ∃ identifier : Der.Element, identifier.raw = algorithm ∧ Decodes Der.element identifier.raw identifier ∧
      (∀ field ∈ supplied, field = identifier) ∧
      (supplied = none → identifier.raw = Der.tlv identifier.tag identifier.value) ∧ algorithm.length ≤ 1024 := by
    cases supplied with
    | none =>
        obtain impossible | ⟨_, wrote⟩ := named
        · cases impossible
        · obtain ⟨e, raw, short, read⟩ := Der.wrote_element algorithm 100 wrote (by decide)
          have length := Der.wrote_length _ _ wrote
          exact ⟨e, raw, read, (fun field member => by cases member), fun _ => short, by omega⟩
    | some field =>
        obtain written | ⟨impossible, _⟩ := named
        · obtain rfl := Option.some.inj written
          refine ⟨field, rfl, each field (by simp), fun other member => ?_, (fun none => by cases none), ?_⟩
          · exact (Option.some.inj member).symm
          · simp only [Option.toList_some, List.cons_append, List.map_cons, List.flatten_cons, List.length_append] at total
            exact Nat.le_trans (Nat.le_add_right _ _) total
        · cases impossible
  obtain ⟨identifier, identifierRaw, identifierRead, passed, identifierShort, identifierLength⟩ := identified
  refine ⟨supplied, issuer, validity, subject, extensions,
    [versionField, serialField, identifier, issuer, validity, subject, keyField, extensions], given, ?_, ?_, ?_, ?_⟩
  · have bytes : body fields (Der.unsignedInteger (serialOf octets)) algorithm spki =
        Der.sequence ([versionField, serialField, identifier, issuer, validity, subject, keyField, extensions].map
          Der.Element.raw) := by
      simp only [body, List.map_cons, List.map_nil, versionRaw, serialRaw, identifierRaw, keyRaw, issued, valid, named',
        extended]
    rw [bytes]
    refine Der.lists_sequence _ ?_ ?_
    · simp only [List.forall_mem_cons, List.forall_mem_append] at each ⊢
      exact ⟨versionRead, serialRead, identifierRead, each.2.1, each.2.2.1, each.2.2.2.1, keyRead, each.2.2.2.2⟩
    · have keyLength := Der.wrote_length _ _ key
      have serialLength := Der.wrote_length _ _ (Der.wrote_unsigned_integer (serialOf octets) 20 twenty)
      have versionLength : version.length = 5 := by decide
      simp only [List.map_append, List.flatten_append, List.map_cons, List.map_nil, List.flatten_cons, List.flatten_nil,
        List.length_append, List.length_nil, versionRaw, serialRaw, identifierRaw, keyRaw, Config.maxDigestBuffer] at total ⊢
      omega
  · simp only [List.map_cons, List.map_nil, versionRaw, serialRaw, identifierRaw, keyRaw]
  · intro field member
    rw [passed field member, identifierRaw]
  -- A field of the caller may be padded; what the TPM writes never is.
  · have told : ∀ field ∈ supplied.toList ++ [issuer, validity, subject, extensions],
        (field.raw = Der.tlv field.tag field.value ↔ ¬ Der.Padded field.raw) :=
      fun field member => Der.raw_shortest field (each field member)
    constructor
    · intro all field member
      refine (told field member).mp (all field ?_)
      simp only [List.mem_append, Option.mem_toList, List.mem_cons, List.not_mem_nil, or_false] at member ⊢
      obtain caller | rest := member
      · exact .inr (.inr (.inl (passed field caller)))
      · tauto
    · intro unpadded
      have short : ∀ field ∈ supplied.toList ++ [issuer, validity, subject, extensions],
          field.raw = Der.tlv field.tag field.value := fun field member => (told field member).mpr (unpadded field member)
      have identifierWritten : identifier.raw = Der.tlv identifier.tag identifier.value := by
        cases supplied with
        | none => exact identifierShort rfl
        | some field =>
            rw [← passed field rfl]
            exact short field (by simp)
      simp only [List.forall_mem_cons, List.forall_mem_append] at short ⊢
      exact ⟨versionShort, serialShort, identifierWritten, short.2.1, short.2.2.1, short.2.2.2.1, keyShort, short.2.2.2.2⟩

end X509

section

variable [Primitives]

-- Reading undoes writing; the reader takes no length but the shortest exactly where no zero stands before it; the loop over
-- the extensions has turns enough; and certifying ends, with an error or with the body the parts make.
theorem der_certificate :
    (∀ (tag : UInt8) (value rest : Bytes), value.length < 256 ^ 4 →
      Der.element.run (Der.tlv tag value ++ rest) = .ok (⟨tag, value, Der.tlv tag value⟩, rest)) ∧
    (∀ input, (∀ e rest, Der.element.run input = .ok (e, rest) →
      e.raw = Der.tlv e.tag e.value ∧ input = Der.tlv e.tag e.value ++ rest) ↔ ¬ Der.Padded input) ∧
    (∀ turns usage input, input.length ≤ turns →
      (X509.readExtensions turns usage).run input = (X509.readExtensions input.length usage).run input) ∧
    ∀ (s : TpmState) (request : Request) (w : Work),
      (∃ e w', certifyX509 s request w = .error e w') ∨
      ∃ reply w', certifyX509 s request w = .ok reply w' ∧
        ∃ (certificate : Tpm2bMaxBuffer) (object signer : Object) (scheme : Scheme) (hashAlg : UInt16)
          (fields : X509.Partial) (octets algorithm spki : Bytes) (drawn : Work),
          let serial := Der.unsignedInteger (X509.serialOf octets)
          let tbs := X509.body fields serial algorithm spki
          X509.Asks s request certificate object ∧ X509.parsePartial certificate.buffer = .ok fields ∧
          octets.length = 20 ∧ X509.subjectPublicKeyInfo object = .ok spki ∧
          (fields.algorithm = none → X509.signatureAlgorithm scheme.scheme hashAlg = some algorithm) ∧
          (∃ supplied issuer validity subject extensions list,
            X509.Completed certificate.buffer tbs serial algorithm spki supplied issuer validity subject extensions list) ∧
          Action.Succeeds (X509.sealBody signer scheme hashAlg (X509.addedTo fields serial algorithm spki) tbs) drawn reply
            w' := by
  refine ⟨fun tag value rest small => Der.decodes_element tag value small rest, Der.element_shortest, ?_, ?_⟩
  · intro turns usage input enough
    exact X509.read_extensions_enough turns input.length usage input enough (Nat.le_refl _)
  · intro s request w
    -- The handler is total: only an answer has to be accounted for.
    cases ran : certifyX509 s request w with
    | error e w' => exact .inl ⟨e, w', rfl⟩
    | ok reply w' =>
        obtain ⟨certificate, object, signer, scheme, hashAlg, fields, asks, parsed, ended⟩ :=
          certify_x509_ok s request w w' reply ran
        obtain ⟨octets, spki, algorithm, drawn, length, made, named, signed⟩ :=
          X509.complete_ok object signer scheme hashAlg fields w w' reply ended
        refine .inr ⟨reply, w', rfl, certificate, object, signer, scheme, hashAlg, fields, octets, algorithm, spki, drawn,
          asks, parsed, length, made, ?_, ?_, signed⟩
        · intro absent
          obtain supplied | ⟨_, found⟩ := named
          · rw [absent] at supplied
            cases supplied
          · exact found
        · refine X509.completed_body certificate fields octets algorithm spki parsed length (X509.wrote_spki _ _ made) ?_
          exact named.imp_right fun ⟨absent, found⟩ => ⟨absent, X509.wrote_signature_algorithm _ _ _ found⟩

end

-- 82 00 80 says what 81 80 says, and is taken for it.
theorem padded_length_taken :
    ¬ ∀ (input : Bytes) (e : Der.Element) (rest : Bytes), Der.element.run input = .ok (e, rest) →
      e.raw = Der.tlv e.tag e.value := by
  intro shortest
  have form : Der.LengthField [0x82, 0x00, 0x80] 128 := .long 0x82 [0x00, 0x80] rfl (by decide) (by decide) (by decide)
  generalize content : List.replicate 128 (0 : UInt8) = value
  have size : value.length = 128 := content ▸ List.length_replicate
  have read := Der.decodes_element_field Der.Tag.octetString _ value (size.symm ▸ form) []
  have written := shortest _ _ _ read
  rw [Der.tlv, size] at written
  have same : [0x82, 0x00, 0x80] = Der.lengthOctets 128 := List.append_cancel_right (List.cons.inj written).2
  exact absurd same (by decide)

end Swtrust
