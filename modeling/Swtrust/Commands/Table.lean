import Swtrust.Constants

set_option autoImplicit false

namespace Swtrust

structure CommandInfo where
  code : UInt32
  handles : Nat
  authHandles : Nat
  responseHandle : Bool := false
  nv : Bool := false
  extensive : Bool := false
  flushed : Bool := false
  deriving DecidableEq

namespace Table

def plain (code : UInt32) (handles auth : Nat) : CommandInfo := { code, handles, authHandles := auth }

def nv (code : UInt32) (handles auth : Nat) : CommandInfo := { code, handles, authHandles := auth, nv := true }

def rhandle (code : UInt32) (handles auth : Nat) : CommandInfo :=
  { code, handles, authHandles := auth, responseHandle := true }

def commands : List CommandInfo := [
  nv Cc.nvUndefineSpaceSpecial 2 2,
  nv Cc.evictControl 2 1,
  ⟨Cc.hierarchyControl, 1, 1, false, true, true, false⟩,
  nv Cc.nvUndefineSpace 2 1,
  ⟨Cc.changeEps, 1, 1, false, true, true, false⟩,
  ⟨Cc.changePps, 1, 1, false, true, true, false⟩,
  ⟨Cc.clear, 1, 1, false, true, true, false⟩,
  nv Cc.clearControl 1 1,
  nv Cc.clockSet 1 1,
  nv Cc.hierarchyChangeAuth 1 1,
  nv Cc.nvDefineSpace 1 1,
  nv Cc.pcrAllocate 1 1,
  nv Cc.pcrSetAuthPolicy 1 1,
  nv Cc.ppCommands 1 1,
  nv Cc.setPrimaryPolicy 1 1,
  plain Cc.clockRateAdjust 1 1,
  nv Cc.setCapability 1 1,
  rhandle Cc.createPrimary 1 1,
  nv Cc.nvGlobalWriteLock 1 1,
  nv Cc.getCommandAuditDigest 2 2,
  nv Cc.nvIncrement 2 1,
  nv Cc.nvSetBits 2 1,
  nv Cc.nvExtend 2 1,
  nv Cc.nvWrite 2 1,
  nv Cc.nvWriteLock 2 1,
  nv Cc.dictionaryAttackLockReset 1 1,
  nv Cc.dictionaryAttackParameters 1 1,
  nv Cc.nvChangeAuth 1 1,
  nv Cc.pcrEvent 1 1,
  nv Cc.pcrReset 1 1,
  ⟨Cc.sequenceComplete, 1, 1, false, false, false, true⟩,
  nv Cc.setAlgorithmSet 1 1,
  nv Cc.setCommandCodeAuditStatus 1 1,
  nv Cc.incrementalSelfTest 0 0,
  nv Cc.selfTest 0 0,
  nv Cc.startup 0 0,
  nv Cc.shutdown 0 0,
  nv Cc.stirRandom 0 0,
  plain Cc.activateCredential 2 2,
  plain Cc.certify 2 2,
  plain Cc.certifyX509 2 2,
  plain Cc.policyNv 3 1,
  plain Cc.certifyCreation 2 1,
  plain Cc.duplicate 2 1,
  plain Cc.getTime 2 2,
  plain Cc.getSessionAuditDigest 3 2,
  plain Cc.nvRead 2 1,
  nv Cc.nvReadLock 2 1,
  plain Cc.objectChangeAuth 2 1,
  plain Cc.policySecret 2 1,
  plain Cc.rewrap 2 1,
  plain Cc.create 1 1,
  plain Cc.ecdhZGen 1 1,
  plain Cc.hmac 1 1,
  plain Cc.importObject 1 1,
  rhandle Cc.load 1 1,
  plain Cc.quote 1 1,
  plain Cc.rsaDecrypt 1 1,
  rhandle Cc.hmacStart 1 1,
  plain Cc.sequenceUpdate 1 1,
  plain Cc.sign 1 1,
  plain Cc.unsealData 1 1,
  plain Cc.policySigned 2 0,
  rhandle Cc.contextLoad 0 0,
  plain Cc.contextSave 1 0,
  plain Cc.ecdhKeyGen 1 0,
  plain Cc.encryptDecrypt 1 1,
  ⟨Cc.flushContext, 0, 0, false, false, false, false⟩,
  rhandle Cc.loadExternal 0 0,
  plain Cc.makeCredential 1 0,
  plain Cc.nvReadPublic 1 0,
  plain Cc.policyAuthorize 1 0,
  plain Cc.policyAuthValue 1 0,
  plain Cc.policyCommandCode 1 0,
  plain Cc.policyCounterTimer 1 0,
  plain Cc.policyCpHash 1 0,
  plain Cc.policyLocality 1 0,
  plain Cc.policyNameHash 1 0,
  plain Cc.policyOr 1 0,
  plain Cc.policyTicket 1 0,
  plain Cc.readPublic 1 0,
  plain Cc.rsaEncrypt 1 0,
  rhandle Cc.startAuthSession 2 0,
  plain Cc.verifySignature 1 0,
  plain Cc.eccParameters 0 0,
  plain Cc.getCapability 0 0,
  plain Cc.getRandom 0 0,
  plain Cc.getTestResult 0 0,
  plain Cc.hash 0 0,
  plain Cc.pcrRead 0 0,
  plain Cc.policyPcr 1 0,
  plain Cc.policyRestart 1 0,
  plain Cc.readClock 0 0,
  nv Cc.pcrExtend 1 1,
  plain Cc.pcrSetAuthValue 1 1,
  plain Cc.nvCertify 3 2,
  ⟨Cc.eventSequenceComplete, 2, 2, false, true, false, true⟩,
  rhandle Cc.hashSequenceStart 0 0,
  plain Cc.policyPhysicalPresence 1 0,
  plain Cc.policyDuplicationSelect 1 0,
  plain Cc.policyGetDigest 1 0,
  plain Cc.testParms 0 0,
  plain Cc.commit 1 1,
  plain Cc.policyPassword 1 0,
  plain Cc.zGen2Phase 1 1,
  plain Cc.ecEphemeral 0 0,
  plain Cc.policyNvWritten 1 0,
  plain Cc.policyTemplate 1 0,
  rhandle Cc.createLoaded 1 1,
  plain Cc.policyAuthorizeNv 3 1,
  plain Cc.encryptDecrypt2 1 1,
  plain Cc.acGetCapability 1 0,
  plain Cc.acSend 3 2,
  plain Cc.policyAcSendSelect 1 0,
  plain Cc.actSetTimeout 1 1,
  plain Cc.eccEncrypt 1 0,
  plain Cc.eccDecrypt 1 1,
  plain Cc.policyCapability 1 0,
  plain Cc.policyParameters 1 0,
  nv Cc.nvDefineSpace2 1 1,
  plain Cc.nvReadPublic2 1 0,
  plain Cc.readOnlyControl 1 1,
  plain Cc.policyTransportSpdm 1 0,
  ⟨Cc.verifySequenceComplete, 2, 1, false, false, false, true⟩,
  ⟨Cc.signSequenceComplete, 2, 2, false, false, false, true⟩,
  plain Cc.verifyDigestSignature 1 0,
  plain Cc.signDigest 1 1,
  plain Cc.encapsulate 1 0,
  plain Cc.decapsulate 1 1,
  rhandle Cc.verifySequenceStart 1 0,
  rhandle Cc.signSequenceStart 1 0,
  plain Cc.vendorTcgTest 0 0]

def lookup (code : UInt32) : Option CommandInfo := commands.find? (·.code == code)

def refusedWhenReadOnlyCodes : List UInt32 :=
  [Cc.create, Cc.createLoaded, Cc.createPrimary, Cc.objectChangeAuth, Cc.setCommandCodeAuditStatus,
    Cc.pcrAllocate, Cc.pcrSetAuthPolicy, Cc.pcrSetAuthValue, Cc.hierarchyControl, Cc.setPrimaryPolicy,
    Cc.changePps, Cc.changeEps, Cc.clear, Cc.clearControl, Cc.hierarchyChangeAuth,
    Cc.dictionaryAttackParameters, Cc.ppCommands, Cc.setAlgorithmSet, Cc.fieldUpgradeStart,
    Cc.fieldUpgradeData, Cc.evictControl, Cc.clockSet, Cc.clockRateAdjust, Cc.setCapability, Cc.nvDefineSpace,
    Cc.nvUndefineSpace, Cc.nvUndefineSpaceSpecial, Cc.nvIncrement, Cc.nvGlobalWriteLock, Cc.nvChangeAuth]

def refusedWhenReadOnly (code : UInt32) : Bool := refusedWhenReadOnlyCodes.contains code

def readOnlyNeedsAVolatileIndex (code : UInt32) : Bool :=
  ([Cc.nvWrite, Cc.nvExtend, Cc.nvSetBits, Cc.nvWriteLock, Cc.nvReadLock] : List UInt32).contains code

end Table

end Swtrust
