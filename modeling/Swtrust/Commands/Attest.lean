import Swtrust.Commands.Capability
import Swtrust.Commands.Crypto
import Swtrust.Commands.Nv

set_option autoImplicit false

namespace Swtrust

open Library

structure AuditScope where
  work : Work
  audit : AuditState
  suppressed : Bool
  deriving DecidableEq

def TpmState.zoomAudit {α : Type} : Action TpmRc AuditScope α → TpmM α :=
  Action.zoom (fun s => ⟨s.work, s.audit, s.commandAuditSuppressed⟩) fun t s =>
    { s.putWork t.work with audit := t.audit, commandAuditSuppressed := t.suppressed }

def onWork {α : Type} : Action TpmRc Work α → Action TpmRc AuditScope α :=
  Action.zoom (·.work) fun work t => { t with work }

section

variable [Primitives]

def signingObject (s : TpmState) (handle : UInt32) : TpmResult Object := do
  let object ← s.heldObject handle
  if !object.has ObjectAttributes.signEncrypt then throw Rc.key
  return object

-- The signer and the scheme it signs with; `none` signs nothing.
abbrev Signer := Option (Object × Scheme)

def signerOf (s : TpmState) (handle : UInt32) (handleNumber : Nat) (inScheme : Scheme) (schemeParameter : Nat) :
    TpmResult Signer := do
  if handle = Rh.null then return none
  let object ← withHandle handleNumber (signingObject s handle)
  return some (object, ← signingSchemeAt object inScheme schemeParameter)

def signerHash (signer : Signer) (inScheme : Scheme) (schemeParameter : Nat) : TpmResult UInt16 :=
  match signer with
  | none => schemeHash inScheme (Rc.scheme.withParameter schemeParameter)
  | some (_, scheme) => schemeHash scheme (Rc.scheme.withParameter schemeParameter)

def Signer.anonymous (signer : Signer) : Bool := (signer.map fun p => isAnonymous p.2.scheme).getD false

def obfuscated (s : TpmState) (signer : Signer) : TpmResult (ClockInfo × UInt64) := do
  let clock := s.clockInfo
  let hierarchy := (signer.map (·.1.hierarchy)).getD Rh.null
  if hierarchy = Rh.endorsement ∨ hierarchy = Rh.platform then return (clock, Config.firmwareVersion)
  let nameAlg := (signer.map (·.1.area.nameAlg)).getD Config.contextIntegrityHashAlg
  let qualifiedName := (signer.map (·.1.qualifiedName)).getD (be32 Rh.null)
  let value ← kdfa nameAlg (← s.hierarchyProof Rh.owner) (ascii "OBFUSCATE") qualifiedName [] 128
  return ({ clock with
    resetCount := clock.resetCount + UInt32.ofNat (beNat ((value.drop 8).take 4))
    restartCount := clock.restartCount + UInt32.ofNat (beNat ((value.drop 12).take 4)) },
    Config.firmwareVersion + UInt64.ofNat (beNat (value.take 8)))

def Attested.withoutQualifiedName : Attested → Attested
  | .certify name _ => .certify name Tpm2b.empty
  | other => other

def buildAttest (s : TpmState) (signer : Signer) (extraData : Tpm2bData) (attested : Attested) : TpmResult Attest := do
  let qualifiedSigner := if signer.anonymous then [] else (signer.map (·.1.qualifiedName)).getD []
  let attested := if signer.anonymous then attested.withoutQualifiedName else attested
  let (clockInfo, firmwareVersion) ← obfuscated s signer
  return { qualifiedSigner := ← Tpm2b.new qualifiedSigner, extraData, clockInfo, firmwareVersion, attested }

-- An anonymous signature covers H(extraData ‖ H(blinded)), where `blinded` is the attest without both names.
def Attest.blinded (attest : Attest) : Attest := { attest with qualifiedSigner := Tpm2b.empty, extraData := Tpm2b.empty }

def attestDigest (scheme : Scheme) (attest : Attest) : TpmResult Bytes := do
  let hashAlg ← schemeHash scheme (Rc.scheme.withParameter 1)
  if isAnonymous scheme.scheme then
    Hash.digestParts hashAlg [attest.extraData.buffer, ← Hash.digest hashAlg attest.blinded.marshal]
  else Hash.digest hashAlg attest.marshal

def attestAndSign (s : TpmState) (signer : Signer) (extraData : Tpm2bData) (attested : Attested)
    (schemeParameter : Nat) : Action TpmRc Work Reply := do
  let attest ← buildAttest s signer extraData attested
  let (signature, signed) ← match signer with
    | none => pure (TpmtSignature.null, none)
    | some (object, scheme) => do
      let digest ← attestDigest scheme attest
      let (signature, signed) ← Action.withErr (withCounterParameter object schemeParameter)
        (signDigest object scheme digest ⟨0, schemeParameter⟩)
      pure (signature, some signed)
  let info : Tpm2bAttest ← (Tpm2b.new attest.marshal : TpmResult Tpm2bAttest)
  return { parameters := info.marshal ++ signature.marshal, signed }

def unmarshalQualifying : Reader (Tpm2bData × Scheme) := do
  let qualifyingData ← Reader.withParameter 1 Tpm2b.unmarshal
  return (qualifyingData, ← Scheme.unmarshalSigScheme.withParameter 2)

section

variable (s : TpmState) (request : Request)

def certify : Action TpmRc Work Reply := do
  let objectHandle ← request.handle 0
  let signHandle ← request.handle 1
  let (qualifyingData, inScheme) ← request.params unmarshalQualifying
  let object ← withHandle 1 (s.heldObject objectHandle)
  let name ← (Tpm2b.new object.name : TpmResult Tpm2bName)
  let qualifiedName ← (Tpm2b.new object.qualifiedName : TpmResult Tpm2bName)
  let signer ← signerOf s signHandle 2 inScheme 2
  attestAndSign s signer qualifyingData (.certify name qualifiedName) 2

def certifyCreation : Action TpmRc Work Reply := do
  let signHandle ← request.handle 0
  let objectHandle ← request.handle 1
  let (qualifyingData, creationHash, inScheme, ticket) ← request.params do
    let qualifyingData : Tpm2bData ← Reader.withParameter 1 Tpm2b.unmarshal
    let creationHash : Tpm2bDigest ← Reader.withParameter 2 Tpm2b.unmarshal
    let inScheme ← Scheme.unmarshalSigScheme.withParameter 3
    return (qualifyingData, creationHash, inScheme, ← Reader.withParameter 4 (Ticket.unmarshalTagged [St.creation]))
  let object ← withHandle 2 (s.heldObject objectHandle)
  let reject := Rc.ticket.withParameter 4
  let proof ← (s.hierarchyProof ticket.hierarchy).mapError fun _ => reject
  let expected ← Mac.value ⟨proof, .creation object.name creationHash.buffer⟩
  if expected ≠ ticket.digest.buffer then throw reject
  let name ← (Tpm2b.new object.name : TpmResult Tpm2bName)
  let signer ← signerOf s signHandle 1 inScheme 3
  attestAndSign s signer qualifyingData (.creation name creationHash) 3

def quote : Action TpmRc Work Reply := do
  let signHandle ← request.handle 0
  let (qualifyingData, inScheme, selection) ← request.params do
    let (qualifyingData, inScheme) ← unmarshalQualifying
    return (qualifyingData, inScheme, ← TpmlPcrSelection.unmarshal.withParameter 3)
  let signer ← signerOf s signHandle 1 inScheme 2
  let hashAlg ← signerHash signer inScheme 2
  let filtered := s.pcr.filterSelection selection
  let pcrDigest ← s.pcr.selectionDigest hashAlg filtered
  let pcrDigest ← (Tpm2b.new pcrDigest : TpmResult Tpm2bDigest)
  attestAndSign s signer qualifyingData (.quote filtered pcrDigest) 2

def getTime : Action TpmRc Work Reply := do
  let signHandle ← request.handle 1
  let (qualifyingData, inScheme) ← request.params unmarshalQualifying
  let signer ← signerOf s signHandle 2 inScheme 2
  attestAndSign s signer qualifyingData (.time ⟨s.clock.time, s.clockInfo⟩ Config.firmwareVersion) 2

def nvAttested (s : TpmState) (signHandle : UInt32) (inScheme : Scheme) (index : NvIndex) (size offset : UInt16) :
    TpmResult Attested := do
  let name ← Tpm2b.new (← index.name)
  if size = 0 ∧ offset = 0 then
    if !index.written then throw Rc.nvUninitialized
    let hashAlg ← signerHash (← signerOf s signHandle 1 inScheme 2) inScheme 2
    return .nvDigest name (← Tpm2b.new (← Hash.digest hashAlg index.data))
  return .nv name offset (← Tpm2b.new (← index.read offset size))

def nvCertify : Action TpmRc Work Reply := do
  let signHandle ← request.handle 0
  let authHandle ← request.handle 1
  let nvHandle ← request.handle 2
  let (qualifyingData, inScheme, size, offset) ← request.params do
    let (qualifyingData, inScheme) ← unmarshalQualifying
    let size ← Reader.withParameter 3 u16
    return (qualifyingData, inScheme, size, ← Reader.withParameter 4 u16)
  let index ← s.indexAt nvHandle 3
  withHandle 2 (checkReadAuthority index authHandle (s.authIsPolicy request 1))
  if index.readLocked then throw Rc.nvLocked
  let attested ← nvAttested s signHandle inScheme index size offset
  let signer ← signerOf s signHandle 1 inScheme 2
  attestAndSign s signer qualifyingData attested 2

def getSessionAuditDigest : Action TpmRc Work Reply := do
  let signHandle ← request.handle 1
  let sessionHandle ← request.handle 2
  let (qualifyingData, inScheme) ← request.params unmarshalQualifying
  let session ← withHandle 3 (s.sessions.get sessionHandle)
  if !session.audit.isAudit then throw (Rc.type.withHandle 3)
  let digest ← (Tpm2b.new session.audit.digest : TpmResult Tpm2bDigest)
  let signer ← signerOf s signHandle 2 inScheme 2
  attestAndSign s signer qualifyingData (.sessionAudit (s.audit.exclusiveSession == sessionHandle) digest) 2

def getCommandAuditDigest : Action TpmRc AuditScope Reply := do
  let signHandle ← request.handle 1
  let (qualifyingData, inScheme) ← request.params unmarshalQualifying
  let commandDigest ← Hash.digest s.audit.alg (s.audit.commands.flatMap be32)
  let auditDigest ← (Tpm2b.new s.audit.digest : TpmResult Tpm2bDigest)
  let commandDigest ← (Tpm2b.new commandDigest : TpmResult Tpm2bDigest)
  let signer ← signerOf s signHandle 2 inScheme 2
  let response ← onWork
    (attestAndSign s signer qualifyingData (.commandAudit s.audit.counter s.audit.alg auditDigest commandDigest) 2)
  if signHandle ≠ Rh.null then
    modify fun t => { t with audit := { t.audit with digest := [] } }
  return response

def unmarshalCodes : Reader (List UInt32) := unmarshalList u32 (capListMax 4)

def addAuditCodes (codes commands : List UInt32) : List UInt32 :=
  codes.foldl (fun commands code =>
    if (Table.lookup code).isNone ∨ code = Cc.shutdown ∨ commands.contains code then commands
    else commands ++ [code]) commands

def removeAuditCodes (codes commands : List UInt32) : List UInt32 :=
  commands.filter fun code => code == Cc.setCommandCodeAuditStatus || !codes.contains code

def setCommandCodeAuditStatus : Action TpmRc AuditScope Response := do
  let (auditAlg, setList, clearList) ← request.params do
    let auditAlg ← Reader.withParameter 1 u16
    let setList ← unmarshalCodes.withParameter 2
    return (auditAlg, setList, ← unmarshalCodes.withParameter 3)
  if auditAlg ≠ Alg.null ∧ !Hash.isSupported auditAlg then throw (Rc.hash.withParameter 1)
  if auditAlg ≠ Alg.null ∧ auditAlg ≠ s.audit.alg then
    if !setList.isEmpty ∨ !clearList.isEmpty then throw (Rc.value.withParameter 1)
    modify fun t => { t with audit := { t.audit with alg := auditAlg, digest := [] }, suppressed := true }
  else
    modify fun t =>
      let commands := removeAuditCodes clearList (addAuditCodes setList t.audit.commands)
      { t with audit := { t.audit with commands := commands.insertionSort (· ≤ ·) } }
  return .empty

end

end

end Swtrust
