import Swtrust.Commands.Dispatch
import Swtrust.Structures.Signature
import Swtrust.Core.Protect
import Swtrust.Structures.Attest

set_option autoImplicit false

namespace Swtrust

open Library

-- The volatile part of the state that the object and signing commands change.
structure Work where
  objects : ObjectSlots
  commits : Commits
  rng : Drbg
  deriving DecidableEq

namespace Work

variable [Crypto]

def bytes (count : Nat) : Action TpmRc Work Bytes := Action.zoom (·.rng) (fun rng w => { w with rng }) (Drbg.bytes count)

def insert (slot : Slot) : Action TpmRc Work UInt32 := do
  let (handle, objects) ← (← get).objects.insertSlot slot
  modify fun w => { w with objects }
  return handle

def useCounter (object : Object) (counter : UInt16) (bits : UInt32) : Action TpmRc Work Bytes := do
  let (r, commits) ← (← get).commits.useCounter object.area.nameAlg object.name counter bits
  modify fun w => { w with commits }
  return r

end Work

namespace TpmState

def work (s : TpmState) : Work := ⟨s.objects, s.commits, s.rng⟩

def putWork (w : Work) (s : TpmState) : TpmState := { s with objects := w.objects, commits := w.commits, rng := w.rng }

def zoomWork {α : Type} : Action TpmRc Work α → TpmM α := Action.zoom work putWork

def objectOf (s : TpmState) (handle : UInt32) : TpmResult Object :=
  if ObjectSlots.isTransient handle then s.objects.object handle
  else if Handles.isPersistent handle then s.object handle
  else .error Rc.handle

-- Some commands look their object up without asking that the handle be a persistent one.
def heldObject (s : TpmState) (handle : UInt32) : TpmResult Object :=
  if ObjectSlots.isTransient handle then s.objects.object handle else s.object handle

def objectAt (s : TpmState) (handle : UInt32) (position : Nat) : TpmResult Object :=
  withHandle position (s.objectOf handle)

end TpmState

def signsAMessage (object : Object) : Bool :=
  if object.area.objectType ≠ Alg.keyedhash then false
  else match object.area.parameters with
    | .keyedHash scheme => scheme.scheme == Alg.hmac
    | _ => false

def checkSigningKey (object : Object) : TpmResult Unit := do
  if !object.has ObjectAttributes.signEncrypt then throw Rc.key
  if object.has ObjectAttributes.x509Sign then throw Rc.attributes
  if object.area.objectType = Alg.keyedhash ∧ !signsAMessage object then throw Rc.key
  if object.sensitive.isNone then throw Rc.key

structure SignParameters where
  digest : Nat
  scheme : Nat

def withCounterParameter (object : Object) (parameter : Nat) (e : TpmRc) : TpmRc :=
  let usesCounter := (object.area.scheme.map fun scheme => scheme.scheme == Alg.ecdaa).getD false
  if usesCounter ∧ (e = Rc.range ∨ e = Rc.value) then e.withParameter parameter else e

def checkSignatureScheme (object : Object) (signature : TpmtSignature) : TpmResult Unit := do
  let scheme := object.area.scheme.getD Scheme.null
  if scheme.isNull then return
  if scheme.scheme ≠ signature.sigAlg then throw Rc.scheme
  match scheme.hashAlg, signature.hashAlg with
  | some expected, some used => if expected ≠ used then throw Rc.scheme
  | _, _ => pure ()

def signingSchemeAt (object : Object) (supplied : Scheme) (schemeParameter : Nat) : TpmResult Scheme := do
  let objectScheme := object.area.scheme.getD Scheme.null
  if objectScheme.isNull then
    if supplied.isNull then throw (Rc.scheme.withParameter schemeParameter)
    return supplied
  if !supplied.isNull ∧ supplied.scheme ≠ objectScheme.scheme then throw (Rc.scheme.withParameter schemeParameter)
  if objectScheme.scheme = Alg.ecdaa then
    match supplied.detail with
    | .ecdaa _ count =>
      match objectScheme.hashAlg with
      | none => throw Rc.scheme
      | some hashAlg => return ⟨Alg.ecdaa, .ecdaa hashAlg count⟩
    | _ => return objectScheme
  return objectScheme

def signingScheme (object : Object) (supplied : Scheme) : TpmResult Scheme := signingSchemeAt object supplied 2

def schemeHash (scheme : Scheme) (rc : TpmRc) : TpmResult UInt16 :=
  match scheme.hashAlg with
  | some hashAlg => .ok hashAlg
  | none => .error rc

section

variable [Crypto]

def hashTicketHmac (proof : Bytes) (hashAlg : UInt16) (digest : Bytes) : TpmResult Bytes :=
  Mac.value ⟨proof, .hashCheck hashAlg digest⟩

def startsGenerated (data : Bytes) : Bool := decide (4 ≤ data.length) && data.take 4 == be32 tpmGeneratedValue

def hashTicket (s : TpmState) (hierarchy : UInt32) (hashAlg : UInt16) (data digest : Bytes) :
    TpmResult (Ticket × List Mac) := do
  if hierarchy = Rh.null ∨ startsGenerated data then return (Ticket.null St.hashcheck, [])
  let proof ← s.hierarchyProof hierarchy
  let hmac ← Tpm2b.new (← hashTicketHmac proof hashAlg digest)
  return (⟨St.hashcheck, hierarchy, hmac⟩, [⟨proof, .hashCheck hashAlg digest⟩])

def verifyHashTicket (s : TpmState) (validation : Ticket) (hashAlg : UInt16) (digest : Bytes) (parameter : Nat) :
    TpmResult Unit := do
  let reject := Rc.ticket.withParameter parameter
  if validation.digest.isEmpty then throw reject
  let proof ← (s.hierarchyProof validation.hierarchy).mapError fun _ => reject
  let expected ← hashTicketHmac proof hashAlg digest
  if expected ≠ validation.digest.buffer then throw reject

def verifiedTicketHmac (proof : Bytes) (tag : UInt16) (signed name : Bytes) (digestAlg : Option UInt16) :
    TpmResult Bytes :=
  Mac.value ⟨proof, .verified tag signed name digestAlg⟩

def checkSignedDigestSize (digest : Bytes) (signature : TpmtSignature) : TpmResult Unit := do
  match signature.hashAlg with
  | none => return
  | some hashAlg => if digest.length ≠ (← Hash.digestSize hashAlg) then throw Rc.size

def hmacKey (s : TpmState) (handle : UInt32) (requested : UInt16) : TpmResult (Bytes × UInt16) := do
  let object ← s.objectAt handle 1
  if object.area.objectType ≠ Alg.keyedhash then throw (Rc.type.withHandle 1)
  if !object.has ObjectAttributes.signEncrypt then throw (Rc.key.withHandle 1)
  if object.has ObjectAttributes.restricted then throw (Rc.attributes.withHandle 1)
  match object.sensitive with
  | none => throw (Rc.handle.withHandle 1)
  | some sensitive =>
    let schemeHash ← match object.area.parameters with
      | .keyedHash scheme =>
        if scheme.isNull then pure none
        else if scheme.scheme ≠ Alg.hmac then throw (Rc.scheme.withHandle 1)
        else pure scheme.hashAlg
      | _ => pure none
    let hashAlg ← match schemeHash with
      | some h => if requested = Alg.null ∨ requested = h then pure h else throw (Rc.value.withParameter 2)
      | none => if requested ≠ Alg.null then pure requested else throw (Rc.value.withParameter 2)
    if !Hash.isSupported hashAlg then throw (Rc.hash.withParameter 2)
    return (sensitive.sensitive.asSlice, hashAlg)

end

section

variable [Primitives]

def rsaSign (scheme : Scheme) (hashAlg : UInt16) (digest modulus : Bytes) (exponent : UInt32) (prime : Bytes)
    (at' : SignParameters) : Action TpmRc Work SignatureValue := do
  let key ← Rsa.RsaPrivate.fromPrime modulus exponent prime
  let size := key.area.size
  let block ←
    if scheme.scheme = Alg.rsassa then liftM (Rsa.pkcs1v15SignEncode hashAlg digest size)
    else if scheme.scheme = Alg.rsapss then do
      let em ← Rsa.pssEncode Work.bytes hashAlg digest key.area.bits
      pure (List.replicate (size - em.length) 0 ++ em)
    else throw (Rc.scheme.withParameter at'.scheme)
  let sig ← Rsa.privateOp key block
  return .rsa ⟨hashAlg, ← (Tpm2b.new sig : TpmResult Tpm2bPublicKeyRsa)⟩

def eccSign (object : Object) (scheme : Scheme) (hashAlg : UInt16) (digest : Bytes) (curveId : UInt16) (scalar : Bytes)
    (at' : SignParameters) : Action TpmRc Work SignatureValue := do
  let _ ← Ecc.curveBits curveId
  let sig ←
    if scheme.scheme = Alg.ecdsa then Ecc.ecdsaSign Work.bytes curveId scalar digest
    else if scheme.scheme = Alg.ecschnorr then Ecc.ecschnorrSign Work.bytes curveId scalar hashAlg digest
    else if scheme.scheme = Alg.ecdaa then
      match scheme.detail with
      | .ecdaa _ count => do
        let bits := UInt32.ofNat (((Primitives.eccOrder curveId).size + 7) / 8 * 8)
        let commitR ← Work.useCounter object count bits
        Ecc.ecdaaSign Work.bytes curveId scalar commitR hashAlg digest
      | _ => throw Rc.scheme
    else throw (Rc.scheme.withParameter at'.scheme)
  let r ← (Tpm2b.new sig.r : TpmResult Tpm2bEccParameter)
  return .ecc ⟨hashAlg, r, ← (Tpm2b.new sig.s : TpmResult Tpm2bEccParameter)⟩

def signDigest (object : Object) (scheme : Scheme) (digest : Bytes) (at' : SignParameters) :
    Action TpmRc Work (TpmtSignature × Signed) := do
  let signed : Signed := ⟨object, digest⟩
  match object.sensitive with
  | none => throw (Rc.handle.withHandle 1)
  | some sensitive =>
    let hashAlg ← schemeHash scheme Rc.scheme
    if digest.length ≠ (← Hash.digestSize hashAlg) then throw (Rc.size.withParameter at'.digest)
    let type := object.area.objectType
    if type = Alg.rsa then
      match object.area.parameters, object.area.unique with
      | .rsa _ _ _ exponent, .rsa modulus =>
        let value ← rsaSign scheme hashAlg digest modulus.buffer exponent sensitive.sensitive.asSlice at'
        return (⟨scheme.scheme, value⟩, signed)
      | _, _ => throw Rc.type
    else if type = Alg.ecc then
      match object.area.parameters with
      | .ecc _ _ curveId _ =>
        let value ← eccSign object scheme hashAlg digest curveId sensitive.sensitive.asSlice at'
        return (⟨scheme.scheme, value⟩, signed)
      | _ => throw Rc.type
    else if type = Alg.keyedhash then
      let mac ← hmac hashAlg sensitive.sensitive.asSlice digest
      return (⟨Alg.hmac, .hmac (← TpmtHa.new hashAlg mac)⟩, signed)
    else throw (Rc.type.withHandle 1)

def signMessage (object : Object) (scheme : Scheme) (message : Bytes) (at' : SignParameters) :
    Action TpmRc Work (TpmtSignature × Option Signed) := do
  if !signsAMessage object then
    let digest ← Hash.digest (← schemeHash scheme Rc.scheme) message
    let (signature, signed) ← signDigest object scheme digest at'
    return (signature, some signed)
  else
    match object.sensitive with
    | none => throw (Rc.handle.withHandle 1)
    | some sensitive =>
      let hashAlg ← schemeHash scheme Rc.scheme
      let mac ← hmac hashAlg sensitive.sensitive.asSlice message
      return (⟨Alg.hmac, .hmac (← TpmtHa.new hashAlg mac)⟩, none)

def verifyDigest (object : Object) (digest : Bytes) (signature : TpmtSignature) : TpmResult Unit := do
  (checkSignatureScheme object signature).mapError (·.withParameter 2)
  match object.area.unique, signature.signature with
  | .rsa modulus, .rsa sig =>
    match object.area.parameters with
    | .rsa _ _ _ exponent =>
      let area ← Rsa.RsaPublic.new modulus.buffer exponent
      let recovered ← (Rsa.publicOp area sig.sig.buffer).mapError fun _ => Rc.signature
      if signature.sigAlg = Alg.rsassa then
        let expected ← Rsa.pkcs1v15SignEncode sig.hash digest area.size
        if recovered ≠ expected then throw Rc.signature
      else if signature.sigAlg = Alg.rsapss then
        let emLen := (area.bits - 1 + 7) / 8
        (Rsa.pssVerify sig.hash digest (recovered.drop (recovered.length - emLen)) area.bits).mapError fun _ =>
          Rc.signature
      else throw (Rc.scheme.withParameter 2)
    | _ => throw Rc.type
  | .ecc point, .ecc sig =>
    match object.area.parameters with
    | .ecc _ _ curveId _ =>
      let _ ← Ecc.curveBits curveId
      let value : Ecc.EccSignature := ⟨sig.signatureR.buffer, sig.signatureS.buffer⟩
      if signature.sigAlg = Alg.ecdsa then Ecc.ecdsaVerify curveId point.x.buffer point.y.buffer digest value
      else if signature.sigAlg = Alg.ecschnorr then
        Ecc.ecschnorrVerify curveId point.x.buffer point.y.buffer sig.hash digest value
      else throw Rc.signature
    | _ => throw Rc.type
  | .keyedHash _, .hmac ha =>
    match object.sensitive with
    | none => throw (Rc.handle.withHandle 1)
    | some sensitive =>
      let expected ← hmac ha.hashAlg sensitive.sensitive.asSlice digest
      if expected ≠ ha.digest then throw Rc.signature
  | _, _ => throw Rc.signature

def verifyMessage (object : Object) (message : Bytes) (signature : TpmtSignature) : TpmResult Unit := do
  if !signsAMessage object then
    match signature.hashAlg with
    | none => throw (Rc.scheme.withParameter 1)
    | some hashAlg => verifyDigest object (← Hash.digest hashAlg message) signature
  else
    match object.sensitive with
    | none => throw (Rc.handle.withHandle 1)
    | some sensitive =>
      match signature.signature with
      | .hmac ha =>
        let expected ← hmac ha.hashAlg sensitive.sensitive.asSlice message
        if expected ≠ ha.digest then throw Rc.signature
      | _ => throw Rc.signature

end

end Swtrust
