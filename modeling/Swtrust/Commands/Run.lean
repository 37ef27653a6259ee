import Swtrust.Commands.Cipher
import Swtrust.Commands.Context
import Swtrust.Commands.Duplication
import Swtrust.Commands.Ecc
import Swtrust.Commands.Management
import Swtrust.Commands.Pcr
import Swtrust.Commands.Policy
import Swtrust.Commands.Signing
import Swtrust.Commands.X509

set_option autoImplicit false

namespace Swtrust

open Library

-- The part of the state a command's handler may change. It reads the whole state, and what is outside its scope
-- is the same after it, whether it succeeds or fails.
inductive Scope where
  | query | random | policy | work | context | nv | pcr | allocation | persistent | act | lockout | startupClear
  | clock | test | audit | admin | whole
  deriving DecidableEq

namespace Scope

abbrev State : Scope → Type
  | query => Unit
  | random => Drbg
  | policy => SessionSlots
  | work => Work
  | context => ContextScope
  | nv => NvScope
  | pcr => PcrBanks
  | allocation => AllocationScope
  | persistent => SortedMap UInt32 Object
  | act => Act
  | lockout => LockoutState
  | startupClear => StartupClearAttributes
  | clock => ClockState
  | test => TestScope
  | audit => AuditScope
  | admin => AdminScope
  | whole => TpmState

def zoom {α : Type} : (scope : Scope) → Action TpmRc scope.State α → TpmM α
  | query => Action.zoom (fun _ => ()) fun _ s => s
  | random => TpmState.zoomRng
  | policy => Action.zoom (·.sessions) fun sessions s => { s with sessions }
  | work => TpmState.zoomWork
  | context => TpmState.zoomContext
  | nv => TpmState.zoomNvScope
  | pcr => TpmState.zoomPcr
  | allocation => TpmState.zoomAllocation
  | persistent => Action.zoom (·.persistent) fun persistent s => { s with persistent }
  | act => Action.zoom (·.act) fun act s => { s with act }
  | lockout => Action.zoom (·.lockout) fun lockout s => { s with lockout }
  | startupClear => Action.zoom (·.startupClear) fun startupClear s => { s with startupClear }
  | clock => Action.zoom (·.clock) fun clock s => { s with clock }
  | test => TpmState.zoomTest
  | audit => TpmState.zoomAudit
  | admin => TpmState.zoomAdmin
  | whole => fun action => action

end Scope

-- Only an issuing handler puts a ticket or a context in its response, or signs.
inductive Handler where
  | plain (scope : Scope) (run : TpmState → Request → Action TpmRc scope.State Response)
  | issuing (scope : Scope) (run : TpmState → Request → Action TpmRc scope.State Reply)

namespace Handler

def scope : Handler → Scope
  | plain scope _ => scope
  | issuing scope _ => scope

def run (request : Request) : Handler → TpmM Reply
  | plain scope run => do
    let s ← get
    Response.reply <$> scope.zoom (run s request)
  | issuing scope run => do
    let s ← get
    scope.zoom (run s request)

end Handler

section

variable [Primitives]

def queryHandler (run : TpmState → Request → TpmResult Response) : Handler :=
  .plain .query fun s request => Action.ofExcept (run s request)

def issuingQuery (run : TpmState → Request → TpmResult Reply) : Handler :=
  .issuing .query fun s request => Action.ofExcept (run s request)

def policyHandlers : List (UInt32 × Handler) := [
  (Cc.policyRestart, .plain .policy fun _ request => policyRestart request),
  (Cc.policySigned, .issuing .policy policySigned),
  (Cc.policySecret, .issuing .policy policySecret),
  (Cc.policyTicket, .plain .policy policyTicket),
  (Cc.policyOr, .plain .policy fun _ request => policyOr request),
  (Cc.policyPcr, .plain .policy policyPcr),
  (Cc.policyLocality, .plain .policy fun _ request => policyLocality request),
  (Cc.policyNv, .plain .policy policyNv),
  (Cc.policyCounterTimer, .plain .policy policyCounterTimer),
  (Cc.policyCommandCode, .plain .policy fun _ request => policyCommandCode request),
  (Cc.policyPhysicalPresence, .plain .policy fun _ request => policyPhysicalPresence request),
  (Cc.policyCpHash, .plain .policy fun _ request => policyCpHash request),
  (Cc.policyNameHash, .plain .policy fun _ request => policyNameHash request),
  (Cc.policyDuplicationSelect, .plain .policy policyDuplicationSelect),
  (Cc.policyAuthorize, .plain .policy policyAuthorize),
  (Cc.policyAuthValue, .plain .policy fun _ request => policyAuthValue request),
  (Cc.policyPassword, .plain .policy fun _ request => policyPassword request),
  (Cc.policyGetDigest, queryHandler policyGetDigest),
  (Cc.policyNvWritten, .plain .policy fun _ request => policyNvWritten request),
  (Cc.policyTemplate, .plain .policy fun _ request => policyTemplate request),
  (Cc.policyAuthorizeNv, .plain .policy policyAuthorizeNv),
  (Cc.policyCapability, .plain .policy policyCapability),
  (Cc.policyParameters, .plain .policy fun _ request => policyParameters request),
  (Cc.policyTransportSpdm, .plain .policy fun _ request => policyTransportSpdm request),
  (Cc.policyAcSendSelect, .plain .policy fun _ request => policyAcSendSelect request)]

def handlers : List (UInt32 × Handler) := policyHandlers ++ [
  (Cc.startup, .plain .whole fun _ request => startup request),
  (Cc.shutdown, .plain .whole fun _ request => shutdown request),
  (Cc.selfTest, .plain .test fun _ request => selfTest request),
  (Cc.incrementalSelfTest, .plain .test fun _ request => incrementalSelfTest request),
  (Cc.getTestResult, queryHandler getTestResult),
  (Cc.create, .issuing .work create),
  (Cc.createLoaded, .plain .work createLoaded),
  (Cc.createPrimary, .issuing .work createPrimary),
  (Cc.load, .plain .work load),
  (Cc.loadExternal, .plain .work loadExternal),
  (Cc.readPublic, queryHandler readPublic),
  (Cc.unsealData, queryHandler readSealed),
  (Cc.objectChangeAuth, queryHandler objectChangeAuth),
  (Cc.testParms, queryHandler fun _ request => testParms request),
  (Cc.makeCredential, .plain .random makeCredential),
  (Cc.activateCredential, queryHandler activateCredential),
  (Cc.duplicate, .plain .random duplicate),
  (Cc.rewrap, .plain .random rewrap),
  (Cc.importObject, queryHandler importObject),
  (Cc.acGetCapability, queryHandler fun _ request => acGetCapability request),
  (Cc.acSend, queryHandler fun _ request => acSend request),
  (Cc.actSetTimeout, .plain .act fun _ request => actSetTimeout request),
  (Cc.rsaEncrypt, .plain .random rsaEncrypt),
  (Cc.rsaDecrypt, queryHandler rsaDecrypt),
  (Cc.ecdhKeyGen, .plain .random ecdhKeyGen),
  (Cc.ecdhZGen, queryHandler ecdhZgen),
  (Cc.eccParameters, queryHandler fun _ request => eccParameters request),
  (Cc.encryptDecrypt, queryHandler encryptDecrypt),
  (Cc.encryptDecrypt2, queryHandler encryptDecrypt2),
  (Cc.hash, issuingQuery hashCommand),
  (Cc.certifyX509, .issuing .work certifyX509),
  (Cc.setCapability, queryHandler fun _ request => setCapability request),
  (Cc.hmac, queryHandler hmacCommand),
  (Cc.hmacStart, .plain .work hmacStart),
  (Cc.hashSequenceStart, .plain .work fun _ request => hashSequenceStart request),
  (Cc.sequenceUpdate, .plain .work sequenceUpdate),
  (Cc.sequenceComplete, issuingQuery sequenceComplete),
  (Cc.eventSequenceComplete, .plain .pcr eventSequenceComplete),
  (Cc.certify, .issuing .work certify),
  (Cc.certifyCreation, .issuing .work certifyCreation),
  (Cc.quote, .issuing .work quote),
  (Cc.getTime, .issuing .work getTime),
  (Cc.getSessionAuditDigest, .issuing .work getSessionAuditDigest),
  (Cc.getCommandAuditDigest, .issuing .audit getCommandAuditDigest),
  (Cc.nvCertify, .issuing .work nvCertify),
  (Cc.setCommandCodeAuditStatus, .plain .audit setCommandCodeAuditStatus),
  (Cc.ecEphemeral, .plain .work fun _ request => ecEphemeral request),
  (Cc.sign, .issuing .work sign),
  (Cc.verifySignature, issuingQuery verifySignature),
  (Cc.commit, .plain .work commit),
  (Cc.zGen2Phase, .plain .work zgen2Phase),
  (Cc.eccEncrypt, .plain .random eccEncrypt),
  (Cc.eccDecrypt, queryHandler eccDecrypt),
  (Cc.encapsulate, .plain .random encapsulate),
  (Cc.decapsulate, queryHandler decapsulate),
  (Cc.signDigest, .issuing .work signDigestCommand),
  (Cc.verifyDigestSignature, issuingQuery verifyDigestSignature),
  (Cc.signSequenceStart, .plain .work signSequenceStart),
  (Cc.signSequenceComplete, .issuing .work signSequenceComplete),
  (Cc.verifySequenceStart, .plain .work verifySequenceStart),
  (Cc.verifySequenceComplete, issuingQuery verifySequenceComplete),
  (Cc.getRandom, .plain .random fun _ request => getRandom request),
  (Cc.stirRandom, .plain .random fun _ request => stirRandom request),
  (Cc.startAuthSession, .plain .context startAuthSession),
  (Cc.contextSave, .issuing .context contextSave),
  (Cc.contextLoad, .plain .context contextLoad),
  (Cc.flushContext, .plain .context fun _ request => flushContext request),
  (Cc.evictControl, .plain .persistent evictControl),
  (Cc.pcrExtend, .plain .pcr fun _ request => pcrExtend request),
  (Cc.pcrEvent, .plain .pcr fun _ request => pcrEvent request),
  (Cc.pcrRead, queryHandler pcrRead),
  (Cc.pcrAllocate, .plain .allocation pcrAllocate),
  (Cc.pcrSetAuthPolicy, queryHandler fun _ request => pcrSetAuthPolicy request),
  (Cc.pcrSetAuthValue, queryHandler fun _ request => pcrSetAuthValue request),
  (Cc.pcrReset, .plain .pcr fun _ request => pcrReset request),
  (Cc.hierarchyControl, .plain .admin fun _ request => hierarchyControl request),
  (Cc.setPrimaryPolicy, .plain .admin fun _ request => setPrimaryPolicy request),
  (Cc.changePps, .plain .admin fun _ request => changePps request),
  (Cc.changeEps, .plain .admin fun _ request => changeEps request),
  (Cc.clear, .plain .whole fun _ request => clear request),
  (Cc.clearControl, .plain .admin fun _ request => clearControl request),
  (Cc.hierarchyChangeAuth, .plain .admin fun _ request => hierarchyChangeAuth request),
  (Cc.dictionaryAttackLockReset, .plain .lockout fun _ request => dictionaryAttackLockReset request),
  (Cc.dictionaryAttackParameters, .plain .lockout fun _ request => dictionaryAttackParameters request),
  (Cc.ppCommands, .plain .admin fun _ request => ppCommands request),
  (Cc.setAlgorithmSet, .plain .admin fun _ request => setAlgorithmSet request),
  (Cc.readOnlyControl, .plain .startupClear fun _ request => readOnlyControl request),
  (Cc.getCapability, queryHandler getCapability),
  (Cc.nvDefineSpace, .plain .nv nvDefineSpace),
  (Cc.nvDefineSpace2, .plain .nv nvDefineSpace2),
  (Cc.nvUndefineSpace, .plain .nv nvUndefineSpace),
  (Cc.nvUndefineSpaceSpecial, .plain .nv nvUndefineSpaceSpecial),
  (Cc.nvReadPublic, queryHandler nvReadPublic),
  (Cc.nvReadPublic2, queryHandler nvReadPublic2),
  (Cc.nvWrite, .plain .nv nvWrite),
  (Cc.nvIncrement, .plain .nv nvIncrement),
  (Cc.nvExtend, .plain .nv nvExtend),
  (Cc.nvSetBits, .plain .nv nvSetBits),
  (Cc.nvWriteLock, .plain .nv nvWriteLock),
  (Cc.nvGlobalWriteLock, .plain .nv fun _ request => nvGlobalWriteLock request),
  (Cc.nvRead, queryHandler nvRead),
  (Cc.nvReadLock, .plain .nv nvReadLock),
  (Cc.nvChangeAuth, .plain .nv nvChangeAuth),
  (Cc.readClock, queryHandler fun s request => readClock s request),
  (Cc.clockSet, .plain .clock fun _ request => clockSet request),
  (Cc.clockRateAdjust, .plain .clock fun _ request => clockRateAdjust request),
  (Cc.vendorTcgTest, queryHandler fun _ request => vendorTcgTest request)]

def handlerOf (code : UInt32) : Option Handler := (handlers.find? fun row => row.1 == code).map (·.2)

def runCommand (request : Request) : TpmM Reply :=
  match handlerOf request.code with
  | none => throw Rc.commandCode
  | some handler => handler.run request

end

end Swtrust
