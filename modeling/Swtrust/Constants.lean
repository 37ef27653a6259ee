import Swtrust.Library.Wire

set_option autoImplicit false

namespace Swtrust

structure TpmRc where
  value : UInt32
  deriving DecidableEq

abbrev TpmResult := Except TpmRc

namespace Alg

def rsa : UInt16 := 0x0001
def sha1 : UInt16 := 0x0004
def hmac : UInt16 := 0x0005
def aes : UInt16 := 0x0006
def mgf1 : UInt16 := 0x0007
def keyedhash : UInt16 := 0x0008
def xor : UInt16 := 0x000A
def sha256 : UInt16 := 0x000B
def sha384 : UInt16 := 0x000C
def sha512 : UInt16 := 0x000D
def null : UInt16 := 0x0010
def sm3_256 : UInt16 := 0x0012
def rsassa : UInt16 := 0x0014
def rsaes : UInt16 := 0x0015
def rsapss : UInt16 := 0x0016
def oaep : UInt16 := 0x0017
def ecdsa : UInt16 := 0x0018
def ecdh : UInt16 := 0x0019
def ecdaa : UInt16 := 0x001A
def sm2 : UInt16 := 0x001B
def ecschnorr : UInt16 := 0x001C
def ecmqv : UInt16 := 0x001D
def hkdf : UInt16 := 0x001F
def kdf1Sp800_56a : UInt16 := 0x0020
def kdf2 : UInt16 := 0x0021
def kdf1Sp800_108 : UInt16 := 0x0022
def ecc : UInt16 := 0x0023
def symcipher : UInt16 := 0x0025
def sha3_256 : UInt16 := 0x0027
def sha3_384 : UInt16 := 0x0028
def sha3_512 : UInt16 := 0x0029
def ctr : UInt16 := 0x0040
def ofb : UInt16 := 0x0041
def cbc : UInt16 := 0x0042
def cfb : UInt16 := 0x0043
def ecb : UInt16 := 0x0044

end Alg

namespace Curve

def nistP192 : UInt16 := 0x0001
def nistP224 : UInt16 := 0x0002
def nistP256 : UInt16 := 0x0003
def nistP384 : UInt16 := 0x0004
def nistP521 : UInt16 := 0x0005
def sm2P256 : UInt16 := 0x0020

end Curve

namespace Cc

def nvUndefineSpaceSpecial : UInt32 := 0x0000011F
def evictControl : UInt32 := 0x00000120
def hierarchyControl : UInt32 := 0x00000121
def nvUndefineSpace : UInt32 := 0x00000122
def changeEps : UInt32 := 0x00000124
def changePps : UInt32 := 0x00000125
def clear : UInt32 := 0x00000126
def clearControl : UInt32 := 0x00000127
def clockSet : UInt32 := 0x00000128
def hierarchyChangeAuth : UInt32 := 0x00000129
def nvDefineSpace : UInt32 := 0x0000012A
def pcrAllocate : UInt32 := 0x0000012B
def pcrSetAuthPolicy : UInt32 := 0x0000012C
def ppCommands : UInt32 := 0x0000012D
def setPrimaryPolicy : UInt32 := 0x0000012E
def fieldUpgradeStart : UInt32 := 0x0000012F
def clockRateAdjust : UInt32 := 0x00000130
def createPrimary : UInt32 := 0x00000131
def nvGlobalWriteLock : UInt32 := 0x00000132
def getCommandAuditDigest : UInt32 := 0x00000133
def nvIncrement : UInt32 := 0x00000134
def nvSetBits : UInt32 := 0x00000135
def nvExtend : UInt32 := 0x00000136
def nvWrite : UInt32 := 0x00000137
def nvWriteLock : UInt32 := 0x00000138
def dictionaryAttackLockReset : UInt32 := 0x00000139
def dictionaryAttackParameters : UInt32 := 0x0000013A
def nvChangeAuth : UInt32 := 0x0000013B
def pcrEvent : UInt32 := 0x0000013C
def pcrReset : UInt32 := 0x0000013D
def sequenceComplete : UInt32 := 0x0000013E
def setAlgorithmSet : UInt32 := 0x0000013F
def setCommandCodeAuditStatus : UInt32 := 0x00000140
def fieldUpgradeData : UInt32 := 0x00000141
def incrementalSelfTest : UInt32 := 0x00000142
def selfTest : UInt32 := 0x00000143
def startup : UInt32 := 0x00000144
def shutdown : UInt32 := 0x00000145
def stirRandom : UInt32 := 0x00000146
def activateCredential : UInt32 := 0x00000147
def certify : UInt32 := 0x00000148
def policyNv : UInt32 := 0x00000149
def certifyCreation : UInt32 := 0x0000014A
def duplicate : UInt32 := 0x0000014B
def getTime : UInt32 := 0x0000014C
def getSessionAuditDigest : UInt32 := 0x0000014D
def nvRead : UInt32 := 0x0000014E
def nvReadLock : UInt32 := 0x0000014F
def objectChangeAuth : UInt32 := 0x00000150
def policySecret : UInt32 := 0x00000151
def rewrap : UInt32 := 0x00000152
def create : UInt32 := 0x00000153
def ecdhZGen : UInt32 := 0x00000154
def hmac : UInt32 := 0x00000155
def mac : UInt32 := 0x00000155
def importObject : UInt32 := 0x00000156
def load : UInt32 := 0x00000157
def quote : UInt32 := 0x00000158
def rsaDecrypt : UInt32 := 0x00000159
def hmacStart : UInt32 := 0x0000015B
def macStart : UInt32 := 0x0000015B
def sequenceUpdate : UInt32 := 0x0000015C
def sign : UInt32 := 0x0000015D
def unsealData : UInt32 := 0x0000015E
def policySigned : UInt32 := 0x00000160
def contextLoad : UInt32 := 0x00000161
def contextSave : UInt32 := 0x00000162
def ecdhKeyGen : UInt32 := 0x00000163
def encryptDecrypt : UInt32 := 0x00000164
def flushContext : UInt32 := 0x00000165
def loadExternal : UInt32 := 0x00000167
def makeCredential : UInt32 := 0x00000168
def nvReadPublic : UInt32 := 0x00000169
def policyAuthorize : UInt32 := 0x0000016A
def policyAuthValue : UInt32 := 0x0000016B
def policyCommandCode : UInt32 := 0x0000016C
def policyCounterTimer : UInt32 := 0x0000016D
def policyCpHash : UInt32 := 0x0000016E
def policyLocality : UInt32 := 0x0000016F
def policyNameHash : UInt32 := 0x00000170
def policyOr : UInt32 := 0x00000171
def policyTicket : UInt32 := 0x00000172
def readPublic : UInt32 := 0x00000173
def rsaEncrypt : UInt32 := 0x00000174
def startAuthSession : UInt32 := 0x00000176
def verifySignature : UInt32 := 0x00000177
def eccParameters : UInt32 := 0x00000178
def getCapability : UInt32 := 0x0000017A
def getRandom : UInt32 := 0x0000017B
def getTestResult : UInt32 := 0x0000017C
def hash : UInt32 := 0x0000017D
def pcrRead : UInt32 := 0x0000017E
def policyPcr : UInt32 := 0x0000017F
def policyRestart : UInt32 := 0x00000180
def readClock : UInt32 := 0x00000181
def pcrExtend : UInt32 := 0x00000182
def pcrSetAuthValue : UInt32 := 0x00000183
def nvCertify : UInt32 := 0x00000184
def eventSequenceComplete : UInt32 := 0x00000185
def hashSequenceStart : UInt32 := 0x00000186
def policyPhysicalPresence : UInt32 := 0x00000187
def policyDuplicationSelect : UInt32 := 0x00000188
def policyGetDigest : UInt32 := 0x00000189
def testParms : UInt32 := 0x0000018A
def commit : UInt32 := 0x0000018B
def policyPassword : UInt32 := 0x0000018C
def zGen2Phase : UInt32 := 0x0000018D
def ecEphemeral : UInt32 := 0x0000018E
def policyNvWritten : UInt32 := 0x0000018F
def policyTemplate : UInt32 := 0x00000190
def createLoaded : UInt32 := 0x00000191
def policyAuthorizeNv : UInt32 := 0x00000192
def encryptDecrypt2 : UInt32 := 0x00000193
def acGetCapability : UInt32 := 0x00000194
def acSend : UInt32 := 0x00000195
def policyAcSendSelect : UInt32 := 0x00000196
def certifyX509 : UInt32 := 0x00000197
def actSetTimeout : UInt32 := 0x00000198
def eccEncrypt : UInt32 := 0x00000199
def eccDecrypt : UInt32 := 0x0000019A
def policyCapability : UInt32 := 0x0000019B
def policyParameters : UInt32 := 0x0000019C
def nvDefineSpace2 : UInt32 := 0x0000019D
def nvReadPublic2 : UInt32 := 0x0000019E
def setCapability : UInt32 := 0x0000019F
def readOnlyControl : UInt32 := 0x000001A0
def policyTransportSpdm : UInt32 := 0x000001A1
def verifySequenceComplete : UInt32 := 0x000001A3
def signSequenceComplete : UInt32 := 0x000001A4
def verifyDigestSignature : UInt32 := 0x000001A5
def signDigest : UInt32 := 0x000001A6
def encapsulate : UInt32 := 0x000001A7
def decapsulate : UInt32 := 0x000001A8
def verifySequenceStart : UInt32 := 0x000001A9
def signSequenceStart : UInt32 := 0x000001AA
def vendorTcgTest : UInt32 := 0x20000000

end Cc

namespace Rc

def success : TpmRc := ⟨0x000⟩
def notInitialized : TpmRc := ⟨0x100⟩
def failure : TpmRc := ⟨0x101⟩
def sequence : TpmRc := ⟨0x103⟩
def disabled : TpmRc := ⟨0x120⟩
def exclusive : TpmRc := ⟨0x121⟩
def authType : TpmRc := ⟨0x124⟩
def authMissing : TpmRc := ⟨0x125⟩
def policy : TpmRc := ⟨0x126⟩
def pcr : TpmRc := ⟨0x127⟩
def pcrChanged : TpmRc := ⟨0x128⟩
def tooManyContexts : TpmRc := ⟨0x12E⟩
def authUnavailable : TpmRc := ⟨0x12F⟩
def commandSize : TpmRc := ⟨0x142⟩
def commandCode : TpmRc := ⟨0x143⟩
def authsize : TpmRc := ⟨0x144⟩
def authContext : TpmRc := ⟨0x145⟩
def nvRange : TpmRc := ⟨0x146⟩
def nvLocked : TpmRc := ⟨0x148⟩
def nvAuthorization : TpmRc := ⟨0x149⟩
def nvUninitialized : TpmRc := ⟨0x14A⟩
def nvSpace : TpmRc := ⟨0x14B⟩
def nvDefined : TpmRc := ⟨0x14C⟩
def badContext : TpmRc := ⟨0x150⟩
def cphash : TpmRc := ⟨0x151⟩
def noResult : TpmRc := ⟨0x154⟩
def sensitive : TpmRc := ⟨0x155⟩
def readOnly : TpmRc := ⟨0x156⟩
def attributes : TpmRc := ⟨0x082⟩
def hash : TpmRc := ⟨0x083⟩
def value : TpmRc := ⟨0x084⟩
def hierarchy : TpmRc := ⟨0x085⟩
def keySize : TpmRc := ⟨0x087⟩
def mode : TpmRc := ⟨0x089⟩
def type : TpmRc := ⟨0x08A⟩
def handle : TpmRc := ⟨0x08B⟩
def kdf : TpmRc := ⟨0x08C⟩
def range : TpmRc := ⟨0x08D⟩
def authFail : TpmRc := ⟨0x08E⟩
def pp : TpmRc := ⟨0x090⟩
def scheme : TpmRc := ⟨0x092⟩
def size : TpmRc := ⟨0x095⟩
def symmetric : TpmRc := ⟨0x096⟩
def tag : TpmRc := ⟨0x097⟩
def selector : TpmRc := ⟨0x098⟩
def insufficient : TpmRc := ⟨0x09A⟩
def signature : TpmRc := ⟨0x09B⟩
def key : TpmRc := ⟨0x09C⟩
def policyFail : TpmRc := ⟨0x09D⟩
def integrity : TpmRc := ⟨0x09F⟩
def ticket : TpmRc := ⟨0x0A0⟩
def reservedBits : TpmRc := ⟨0x0A1⟩
def badAuth : TpmRc := ⟨0x0A2⟩
def expired : TpmRc := ⟨0x0A3⟩
def policyCc : TpmRc := ⟨0x0A4⟩
def binding : TpmRc := ⟨0x0A5⟩
def curve : TpmRc := ⟨0x0A6⟩
def eccPoint : TpmRc := ⟨0x0A7⟩
def svnLimited : TpmRc := ⟨0x0A9⟩
def signContextKey : TpmRc := ⟨0x0AD⟩
def channel : TpmRc := ⟨0x0B0⟩
def contextGap : TpmRc := ⟨0x901⟩
def objectMemory : TpmRc := ⟨0x902⟩
def sessionMemory : TpmRc := ⟨0x903⟩
def memory : TpmRc := ⟨0x904⟩
def sessionHandles : TpmRc := ⟨0x905⟩
def locality : TpmRc := ⟨0x907⟩
def referenceH0 : TpmRc := ⟨0x910⟩
def referenceS0 : TpmRc := ⟨0x918⟩
def lockout : TpmRc := ⟨0x921⟩
def nvUnavailable : TpmRc := ⟨0x923⟩

end Rc

namespace Eo

def eq : UInt16 := 0x0000
def neq : UInt16 := 0x0001
def signedGt : UInt16 := 0x0002
def unsignedGt : UInt16 := 0x0003
def signedLt : UInt16 := 0x0004
def unsignedLt : UInt16 := 0x0005
def signedGe : UInt16 := 0x0006
def unsignedGe : UInt16 := 0x0007
def signedLe : UInt16 := 0x0008
def unsignedLe : UInt16 := 0x0009
def bitset : UInt16 := 0x000A
def bitclear : UInt16 := 0x000B

end Eo

namespace St

def noSessions : UInt16 := 0x8001
def sessions : UInt16 := 0x8002
def attestNv : UInt16 := 0x8014
def attestCommandAudit : UInt16 := 0x8015
def attestSessionAudit : UInt16 := 0x8016
def attestCertify : UInt16 := 0x8017
def attestQuote : UInt16 := 0x8018
def attestTime : UInt16 := 0x8019
def attestCreation : UInt16 := 0x801A
def attestNvDigest : UInt16 := 0x801C
def creation : UInt16 := 0x8021
def verified : UInt16 := 0x8022
def authSecret : UInt16 := 0x8023
def hashcheck : UInt16 := 0x8024
def authSigned : UInt16 := 0x8025
def messageVerified : UInt16 := 0x8026
def digestVerified : UInt16 := 0x8027

end St

namespace Su

def clear : UInt16 := 0x0000
def state : UInt16 := 0x0001
def none : UInt16 := 0xFFFF

end Su

namespace Se

def hmac : UInt8 := 0x00
def policy : UInt8 := 0x01
def trial : UInt8 := 0x03

end Se

namespace Rh

def owner : UInt32 := 0x40000001
def null : UInt32 := 0x40000007
def unassigned : UInt32 := 0x40000008
def rsPw : UInt32 := 0x40000009
def lockout : UInt32 := 0x4000000A
def endorsement : UInt32 := 0x4000000B
def platform : UInt32 := 0x4000000C
def platformNv : UInt32 := 0x4000000D
def act_0 : UInt32 := 0x40000110
def actF : UInt32 := 0x4000011F
def fwOwner : UInt32 := 0x40000140
def fwEndorsement : UInt32 := 0x40000141
def fwPlatform : UInt32 := 0x40000142
def fwNull : UInt32 := 0x40000143
def svnOwnerBase : UInt32 := 0x40010000
def svnEndorsementBase : UInt32 := 0x40020000
def svnPlatformBase : UInt32 := 0x40030000
def svnNullBase : UInt32 := 0x40040000

end Rh

namespace Cap

def algs : UInt32 := 0x00000000
def handles : UInt32 := 0x00000001
def commands : UInt32 := 0x00000002
def ppCommands : UInt32 := 0x00000003
def auditCommands : UInt32 := 0x00000004
def pcrs : UInt32 := 0x00000005
def tpmProperties : UInt32 := 0x00000006
def pcrProperties : UInt32 := 0x00000007
def eccCurves : UInt32 := 0x00000008
def authPolicies : UInt32 := 0x00000009
def act : UInt32 := 0x0000000A
def pubKeys : UInt32 := 0x0000000B
def spdmSessionInfo : UInt32 := 0x0000000C
def last : UInt32 := 0x0000000C
def vendorProperty : UInt32 := 0x00000100

end Cap

namespace Pt

def familyIndicator : UInt32 := 0x00000100
def level : UInt32 := 0x00000101
def revision : UInt32 := 0x00000102
def errata : UInt32 := 0x00000103
def year : UInt32 := 0x00000104
def manufacturer : UInt32 := 0x00000105
def vendorString_1 : UInt32 := 0x00000106
def vendorString_2 : UInt32 := 0x00000107
def vendorString_3 : UInt32 := 0x00000108
def vendorString_4 : UInt32 := 0x00000109
def vendorTpmType : UInt32 := 0x0000010A
def firmwareVersion_1 : UInt32 := 0x0000010B
def firmwareVersion_2 : UInt32 := 0x0000010C
def inputBuffer : UInt32 := 0x0000010D
def hrTransientMin : UInt32 := 0x0000010E
def hrPersistentMin : UInt32 := 0x0000010F
def hrLoadedMin : UInt32 := 0x00000110
def activeSessionsMax : UInt32 := 0x00000111
def pcrCount : UInt32 := 0x00000112
def pcrSelectMin : UInt32 := 0x00000113
def contextGapMax : UInt32 := 0x00000114
def nvCountersMax : UInt32 := 0x00000116
def nvIndexMax : UInt32 := 0x00000117
def memory : UInt32 := 0x00000118
def clockUpdate : UInt32 := 0x00000119
def contextHash : UInt32 := 0x0000011A
def contextSym : UInt32 := 0x0000011B
def contextSymSize : UInt32 := 0x0000011C
def orderlyCount : UInt32 := 0x0000011D
def maxCommandSize : UInt32 := 0x0000011E
def maxResponseSize : UInt32 := 0x0000011F
def maxDigest : UInt32 := 0x00000120
def maxObjectContext : UInt32 := 0x00000121
def maxSessionContext : UInt32 := 0x00000122
def psFamilyIndicator : UInt32 := 0x00000123
def psLevel : UInt32 := 0x00000124
def psRevision : UInt32 := 0x00000125
def psDayOfYear : UInt32 := 0x00000126
def psYear : UInt32 := 0x00000127
def splitMax : UInt32 := 0x00000128
def totalCommands : UInt32 := 0x00000129
def libraryCommands : UInt32 := 0x0000012A
def vendorCommands : UInt32 := 0x0000012B
def nvBufferMax : UInt32 := 0x0000012C
def modes : UInt32 := 0x0000012D
def maxCapBuffer : UInt32 := 0x0000012E
def firmwareSvn : UInt32 := 0x0000012F
def firmwareMaxSvn : UInt32 := 0x00000130
def mlParameterSets : UInt32 := 0x00000131
def permanent : UInt32 := 0x00000200
def startupClear : UInt32 := 0x00000201
def hrNvIndex : UInt32 := 0x00000202
def hrLoaded : UInt32 := 0x00000203
def hrLoadedAvail : UInt32 := 0x00000204
def hrActive : UInt32 := 0x00000205
def hrActiveAvail : UInt32 := 0x00000206
def hrTransientAvail : UInt32 := 0x00000207
def hrPersistent : UInt32 := 0x00000208
def hrPersistentAvail : UInt32 := 0x00000209
def nvCounters : UInt32 := 0x0000020A
def nvCountersAvail : UInt32 := 0x0000020B
def algorithmSet : UInt32 := 0x0000020C
def loadedCurves : UInt32 := 0x0000020D
def lockoutCounter : UInt32 := 0x0000020E
def maxAuthFail : UInt32 := 0x0000020F
def lockoutInterval : UInt32 := 0x00000210
def lockoutRecovery : UInt32 := 0x00000211
def nvWriteRecovery : UInt32 := 0x00000212
def auditCounter_0 : UInt32 := 0x00000213
def auditCounter_1 : UInt32 := 0x00000214

end Pt

namespace PtPcr

def save : UInt32 := 0x00000000
def extendL0 : UInt32 := 0x00000001
def resetL0 : UInt32 := 0x00000002
def extendL1 : UInt32 := 0x00000003
def resetL1 : UInt32 := 0x00000004
def extendL2 : UInt32 := 0x00000005
def resetL2 : UInt32 := 0x00000006
def extendL3 : UInt32 := 0x00000007
def resetL3 : UInt32 := 0x00000008
def extendL4 : UInt32 := 0x00000009
def resetL4 : UInt32 := 0x0000000A
def noIncrement : UInt32 := 0x00000011
def drtmReset : UInt32 := 0x00000012
def policy : UInt32 := 0x00000013
def auth : UInt32 := 0x00000014

end PtPcr

namespace Ht

def pcr : UInt8 := 0x00
def nvIndex : UInt8 := 0x01
def hmacSession : UInt8 := 0x02
def policySession : UInt8 := 0x03
def externalNv : UInt8 := 0x11
def permanentNv : UInt8 := 0x12
def permanent : UInt8 := 0x40
def transient : UInt8 := 0x80
def persistent : UInt8 := 0x81

end Ht

namespace Hc

def pcrFirst : UInt32 := 0x00000000
def pcrLast : UInt32 := 0x00000017
def hmacSessionFirst : UInt32 := 0x02000000
def hmacSessionLast : UInt32 := 0x0200003F
def policySessionFirst : UInt32 := 0x03000000
def policySessionLast : UInt32 := 0x0300003F
def transientFirst : UInt32 := 0x80000000
def transientLast : UInt32 := 0x8000001F
def persistentFirst : UInt32 := 0x81000000
def persistentLast : UInt32 := 0x81FFFFFF
def platformPersistent : UInt32 := 0x81800000
def nvIndexFirst : UInt32 := 0x01000000
def nvIndexLast : UInt32 := 0x01FFFFFF
def svnOwnerFirst : UInt32 := 0x40010000
def svnOwnerLast : UInt32 := 0x4001FFFF
def svnEndorsementFirst : UInt32 := 0x40020000
def svnEndorsementLast : UInt32 := 0x4002FFFF
def svnPlatformFirst : UInt32 := 0x40030000
def svnPlatformLast : UInt32 := 0x4003FFFF
def svnNullFirst : UInt32 := 0x40040000
def svnNullLast : UInt32 := 0x4004FFFF
def acFirst : UInt32 := 0x90000000
def acLast : UInt32 := 0x9000FFFF

end Hc

end Swtrust
