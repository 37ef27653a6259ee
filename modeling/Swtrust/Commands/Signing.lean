import Swtrust.Commands.Crypto
import Swtrust.Crypto.Fips

set_option autoImplicit false

namespace Swtrust

open Library

def checkNoContext (context : Bytes) (parameter : Nat) : TpmResult Unit :=
  if context.isEmpty then .ok () else .error (Rc.value.withParameter parameter)

def contextCounter (object : Object) (context : Bytes) (parameter : Nat) : TpmResult (Option UInt16) := do
  let usesCounter := (object.area.scheme.map fun scheme => scheme.scheme == Alg.ecdaa).getD false
  if !usesCounter then
    checkNoContext context parameter
    return none
  if context.length ≠ 2 then throw (Rc.size.withParameter parameter)
  return some (UInt16.ofNat (beNat context))

def schemeWithCounter (object : Object) (counter : Option UInt16) : TpmResult Scheme := do
  let scheme ← signingScheme object Scheme.null
  match counter with
  | none => return scheme
  | some count => return ⟨Alg.ecdaa, .ecdaa (← schemeHash scheme Rc.scheme) count⟩

def counterBytes (counter : Option UInt16) : Bytes :=
  match counter with
  | some count => [1] ++ be16 count
  | none => [0, 0, 0]

structure Binding where
  handle : UInt32
  counter : Option UInt16
  message : Bytes
  deriving DecidableEq

-- A sequence of TPM2_SignSequenceStart or TPM2_VerifySequenceStart begins with what it is bound to.
def sequenceBinding (sequence : Sequence) : TpmResult Binding :=
  if sequence.buffer.length < 9 then .error Rc.sequence
  else .ok {
    handle := UInt32.ofNat (beNat (sequence.buffer.take 4))
    counter :=
      if sequence.buffer.getD 6 0 ≠ 0 then some (UInt16.ofNat (beNat ((sequence.buffer.drop 7).take 2))) else none
    message := sequence.buffer.drop 9 }

section

variable [Primitives] (s : TpmState) (request : Request)

def checkTicketed (s : TpmState) (object : Object) (scheme : Scheme) (digest : Bytes) (validation : Ticket) :
    TpmResult Unit := do
  if object.has ObjectAttributes.restricted ∨ !validation.digest.isEmpty then
    let hashAlg := scheme.hashAlg.getD object.area.nameAlg
    if (← Hash.digestSize hashAlg) ≠ digest.length then throw (Rc.ticket.withParameter 3)
    verifyHashTicket s validation hashAlg digest 3

def sign : Action TpmRc Work Reply := do
  let keyHandle ← request.handle 0
  let (digest, inScheme, validation) ← request.params do
    let digest : Tpm2bDigest ← Reader.withParameter 1 Tpm2b.unmarshal
    let inScheme ← Scheme.unmarshalSigScheme.withParameter 2
    return (digest.buffer, inScheme, ← Reader.withParameter 3 (Ticket.unmarshalTagged [St.hashcheck]))
  let object ← s.objectAt keyHandle 1
  withHandle 1 (checkSigningKey object)
  let scheme ← signingScheme object inScheme
  checkTicketed s object scheme digest validation
  let (signature, signed) ← Action.withErr (withCounterParameter object 2) (signDigest object scheme digest ⟨1, 2⟩)
  return { parameters := signature.marshal, signed := some signed }

-- A verified ticket, or the one without an HMAC where the key is in the null hierarchy.
def verifiedTicket (s : TpmState) (object : Object) (tag : UInt16) (signed : Bytes) (digestAlg : Option UInt16) :
    TpmResult Reply := do
  if object.hierarchy = Rh.null then
    return { parameters := VerifiedTicket.marshal ⟨tag, Rh.null, digestAlg, Tpm2b.empty⟩ }
  let proof ← s.hierarchyProof object.hierarchy
  let hmac ← Tpm2b.new (← verifiedTicketHmac proof tag signed object.name digestAlg)
  return { parameters := VerifiedTicket.marshal ⟨tag, object.hierarchy, digestAlg, hmac⟩
           macs := [⟨proof, .verified tag signed object.name digestAlg⟩] }

def verifySignature : TpmResult Reply := do
  let keyHandle ← request.handle 0
  let (digest, signature) ← request.params do
    let digest : Tpm2bDigest ← Reader.withParameter 1 Tpm2b.unmarshal
    return (digest.buffer, ← TpmtSignature.unmarshal.withParameter 2)
  let object ← s.objectAt keyHandle 1
  verifyDigest object digest signature
  verifiedTicket s object St.verified digest none

def signDigestCommand : Action TpmRc Work Reply := do
  let keyHandle ← request.handle 0
  let (context, digest, validation) ← request.params do
    let context : Tpm2bSignatureCtx ← Reader.withParameter 1 Tpm2b.unmarshal
    let digest : Tpm2bDigest ← Reader.withParameter 2 Tpm2b.unmarshal
    return (context.buffer, digest.buffer, ← Reader.withParameter 3 (Ticket.unmarshalTagged [St.hashcheck]))
  let object ← s.objectAt keyHandle 1
  withHandle 1 (checkSigningKey object)
  if object.area.objectType = Alg.keyedhash then throw (Rc.scheme.withHandle 1)
  let counter ← contextCounter object context 1
  let scheme ← schemeWithCounter object counter
  checkTicketed s object scheme digest validation
  let (signature, signed) ← Action.withErr (withCounterParameter object 1) (signDigest object scheme digest ⟨2, 1⟩)
  return { parameters := signature.marshal, signed := some signed }

def verifyDigestSignature : TpmResult Reply := do
  let keyHandle ← request.handle 0
  let (context, digest, signature) ← request.params do
    let context : Tpm2bSignatureCtx ← Reader.withParameter 1 Tpm2b.unmarshal
    let digest : Tpm2bDigest ← Reader.withParameter 2 Tpm2b.unmarshal
    return (context.buffer, digest.buffer, ← TpmtSignature.unmarshal.withParameter 3)
  checkNoContext context 1
  let object ← s.objectAt keyHandle 1
  if object.area.objectType = Alg.keyedhash then throw (Rc.scheme.withHandle 1)
  withParameter 3 (checkSignatureScheme object signature)
  withParameter 2 (checkSignedDigestSize digest signature)
  verifyDigest object digest signature
  verifiedTicket s object St.digestVerified digest (some (signature.hashAlg.getD object.area.nameAlg))

def startBoundSequence (keyHandle : UInt32) (hashAlg : UInt16) (counter : Option UInt16) (auth : Bytes) :
    Action TpmRc Work Response := do
  if !Hash.isSupported hashAlg then throw (Rc.hash.withHandle 1)
  let buffer := be32 keyHandle ++ be16 hashAlg ++ counterBytes counter
  let handle ← Work.insert (.sequence { kind := .hash hashAlg, auth, buffer, shortFirstBuffer := false })
  return .withHandle handle []

def signSequenceStart : Action TpmRc Work Response := do
  let keyHandle ← request.handle 0
  let (auth, context) ← request.params do
    let auth : Tpm2bDigest ← Reader.withParameter 1 Tpm2b.unmarshal
    let context : Tpm2bSignatureCtx ← Reader.withParameter 2 Tpm2b.unmarshal
    return (auth.buffer, context.buffer)
  let object ← s.objectAt keyHandle 1
  withHandle 1 (checkSigningKey object)
  let counter ← contextCounter object context 2
  let scheme ← signingScheme object Scheme.null
  let hashAlg ← schemeHash scheme (Rc.scheme.withHandle 1)
  startBoundSequence keyHandle hashAlg counter auth

def boundSequence (s : TpmState) (sequenceHandle keyHandle : UInt32) : TpmResult Binding := do
  let slot ← withHandle 1 (s.objects.getSlot sequenceHandle)
  let binding ← sequenceBinding (← slot.asSequence)
  if binding.handle ≠ keyHandle then throw (Rc.signContextKey.withHandle 2)
  return binding

def signSequenceComplete : Action TpmRc Work Reply := do
  let sequenceHandle ← request.handle 0
  let keyHandle ← request.handle 1
  let buffer : Tpm2bMaxBuffer ← request.params (Reader.withParameter 1 Tpm2b.unmarshal)
  let binding ← boundSequence s sequenceHandle keyHandle
  let data := binding.message ++ buffer.buffer
  let object ← s.objectAt keyHandle 2
  withHandle 2 (checkSigningKey object)
  let restricted := object.has ObjectAttributes.restricted
  if signsAMessage object ∧ restricted then throw (Rc.attributes.withHandle 2)
  if restricted ∧ startsGenerated data then throw (Rc.value.withParameter 1)
  let scheme ← schemeWithCounter object binding.counter
  let (signature, signed) ← signMessage object scheme data ⟨0, 0⟩
  return { parameters := signature.marshal, signed }

def verifySequenceStart : Action TpmRc Work Response := do
  let keyHandle ← request.handle 0
  let (auth, hint, context) ← request.params do
    let auth : Tpm2bDigest ← Reader.withParameter 1 Tpm2b.unmarshal
    let hint : Tpm2bSignatureHint ← Reader.withParameter 2 Tpm2b.unmarshal
    let context : Tpm2bSignatureCtx ← Reader.withParameter 3 Tpm2b.unmarshal
    return (auth.buffer, hint.buffer, context.buffer)
  if !hint.isEmpty then throw (Rc.value.withParameter 2)
  checkNoContext context 3
  let object ← s.objectAt keyHandle 1
  let hashAlg ← schemeHash (object.area.scheme.getD Scheme.null) (Rc.scheme.withHandle 1)
  startBoundSequence keyHandle hashAlg none auth

def verifySequenceComplete : TpmResult Reply := do
  let sequenceHandle ← request.handle 0
  let keyHandle ← request.handle 1
  let signature ← request.params (TpmtSignature.unmarshal.withParameter 1)
  let binding ← boundSequence s sequenceHandle keyHandle
  let object ← s.objectAt keyHandle 2
  withParameter 1 (checkSignatureScheme object signature)
  verifyMessage object binding.message signature
  verifiedTicket s object St.messageVerified binding.message none

end

end Swtrust
