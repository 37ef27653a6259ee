import Swtrust.Commands.Crypto

set_option autoImplicit false

namespace Swtrust

open Library

section

variable [Primitives] (s : TpmState) (request : Request)

def hashCommand : TpmResult Reply := do
  let (data, hashAlg, hierarchy) ← request.params do
    let data : Tpm2bMaxBuffer ← Reader.withParameter 1 Tpm2b.unmarshal
    let hashAlg ← Reader.withParameter 2 u16
    return (data.buffer, hashAlg, ← Reader.withParameter 3 u32)
  let digest ← (Hash.digest hashAlg data).mapError fun _ => Rc.hash.withParameter 2
  let (ticket, macs) ← hashTicket s hierarchy hashAlg data digest
  let digest : Tpm2bDigest ← Tpm2b.new digest
  return { parameters := digest.marshal ++ ticket.marshal, macs }

def hmacCommand : TpmResult Response := do
  let handle ← request.handle 0
  let (buffer, requested) ← request.params do
    let buffer : Tpm2bMaxBuffer ← Reader.withParameter 1 Tpm2b.unmarshal
    return (buffer.buffer, ← Reader.withParameter 2 u16)
  let (key, hashAlg) ← hmacKey s handle requested
  let digest : Tpm2bDigest ← Tpm2b.new (← hmac hashAlg key buffer)
  return .of digest.marshal

def startSequence (kind : SequenceKind) (auth : Bytes) : Action TpmRc Work Response := do
  let handle ← Work.insert (.sequence { kind, auth, buffer := [], shortFirstBuffer := false })
  return .withHandle handle []

def unmarshalStart : Reader (Bytes × UInt16) := do
  let auth : Tpm2bDigest ← Reader.withParameter 1 Tpm2b.unmarshal
  return (auth.buffer, ← Reader.withParameter 2 u16)

def hashSequenceStart : Action TpmRc Work Response := do
  let (auth, hashAlg) ← request.params unmarshalStart
  if hashAlg = Alg.null then startSequence .event auth
  else
    if !Hash.isSupported hashAlg then throw (Rc.hash.withParameter 2)
    startSequence (.hash hashAlg) auth

def hmacStart : Action TpmRc Work Response := do
  let keyHandle ← request.handle 0
  let (auth, requested) ← request.params unmarshalStart
  let (key, hashAlg) ← hmacKey s keyHandle requested
  startSequence (.hmac hashAlg key) auth

def unmarshalBuffer : Reader Bytes := do
  let buffer : Tpm2bMaxBuffer ← Reader.withParameter 1 Tpm2b.unmarshal
  return buffer.buffer

def sequenceUpdate : Action TpmRc Work Response := do
  let handle ← request.handle 0
  let buffer ← request.params unmarshalBuffer
  let slot ← withHandle 1 (s.objects.getSlot handle)
  let sequence ← (← slot.asSequence).update buffer
  modify fun w => { w with objects := w.objects.insert handle (.sequence sequence) }
  return .empty

def sequenceDigest (sequence : Sequence) (hierarchy : UInt32) (data : Bytes) (short : Bool) :
    TpmResult (Bytes × Ticket × List Mac) := do
  match sequence.kind with
  | .hash hashAlg =>
    let digest ← Hash.digest hashAlg data
    if short then return (digest, Ticket.null St.hashcheck, [])
    return (digest, ← hashTicket s hierarchy hashAlg data digest)
  | .hmac hashAlg key => return (← hmac hashAlg key data, Ticket.null St.hashcheck, [])
  | .event => throw (Rc.mode.withHandle 1)

def sequenceComplete : TpmResult Reply := do
  let handle ← request.handle 0
  let (buffer, hierarchy) ← request.params do
    let buffer ← unmarshalBuffer
    return (buffer, ← Reader.withParameter 2 u32)
  let slot ← withHandle 1 (s.objects.getSlot handle)
  let sequence ← slot.asSequence
  if sequence.isEvent then throw (Rc.mode.withHandle 1)
  let short := sequence.shortFirstBuffer || (sequence.buffer.isEmpty && decide (buffer.length < 4))
  let (digest, ticket, macs) ← sequenceDigest s sequence hierarchy (sequence.buffer ++ buffer) short
  let digest : Tpm2bDigest ← Tpm2b.new digest
  return { parameters := digest.marshal ++ ticket.marshal, macs }

def digestValues : List (UInt16 × Bytes) → TpmResult (List TpmtHa)
  | [] => .ok []
  | (hashAlg, digest) :: rest => do
    let ha ← TpmtHa.new hashAlg digest
    return ha :: (← digestValues rest)

def marshalDigestValues (digests : List (UInt16 × Bytes)) : TpmResult Bytes := do
  return marshalList TpmtHa.marshal (← digestValues digests)

def eventSequenceComplete : Action TpmRc PcrBanks Response := do
  let pcrHandle ← request.handle 0
  let sequenceHandle ← request.handle 1
  let buffer ← request.params unmarshalBuffer
  let slot ← withHandle 2 (s.objects.getSlot sequenceHandle)
  let sequence ← slot.asSequence
  if !sequence.isEvent then throw (Rc.mode.withHandle 2)
  let data := sequence.buffer ++ buffer
  if pcrHandle ≠ Rh.null then
    let _ ← PcrBanks.event (pcrHandle - Hc.pcrFirst).toUInt16.toNat request.locality data
  let digests ← PcrBanks.hashAll data Config.implementedHashes
  return .of (← marshalDigestValues digests)

end

end Swtrust
