import Swtrust.Structures.Base

set_option autoImplicit false

namespace Swtrust

open Library

structure Flags8 (reserved : UInt8) where
  value : UInt8
  deriving DecidableEq

namespace Flags8

variable {reserved : UInt8}

def has (flags : Flags8 reserved) (mask : UInt8) : Bool := (flags.value &&& mask) == mask

def without (flags : Flags8 reserved) (mask : UInt8) : Flags8 reserved := ⟨flags.value &&& ~~~mask⟩

def setTo (flags : Flags8 reserved) (mask : UInt8) (on : Bool) : Flags8 reserved :=
  if on then ⟨flags.value ||| mask⟩ else flags.without mask

def marshal (flags : Flags8 reserved) : Bytes := be8 flags.value

def unmarshal : Reader (Flags8 reserved) := do
  let value ← u8
  if (value &&& reserved) ≠ 0 then throw Rc.reservedBits
  return ⟨value⟩

end Flags8

structure Flags32 (reserved : UInt32) where
  value : UInt32
  deriving DecidableEq

namespace Flags32

variable {reserved : UInt32}

def has (flags : Flags32 reserved) (mask : UInt32) : Bool := (flags.value &&& mask) == mask

def any (flags : Flags32 reserved) (mask : UInt32) : Bool := (flags.value &&& mask) != 0

def withMask (flags : Flags32 reserved) (mask : UInt32) : Flags32 reserved := ⟨flags.value ||| mask⟩

def without (flags : Flags32 reserved) (mask : UInt32) : Flags32 reserved := ⟨flags.value &&& ~~~mask⟩

def setTo (flags : Flags32 reserved) (mask : UInt32) (on : Bool) : Flags32 reserved :=
  if on then flags.withMask mask else flags.without mask

def checkReserved (flags : Flags32 reserved) : TpmResult Unit :=
  if (flags.value &&& reserved) ≠ 0 then .error Rc.reservedBits else .ok ()

def marshal (flags : Flags32 reserved) : Bytes := be32 flags.value

def unmarshal : Reader (Flags32 reserved) := do
  let flags : Flags32 reserved := ⟨← u32⟩
  flags.checkReserved
  return flags

end Flags32

abbrev ObjectAttributes := Flags32 0xFFF0F009

namespace ObjectAttributes

def fixedTpm : UInt32 := 0x00000002
def stClear : UInt32 := 0x00000004
def fixedParent : UInt32 := 0x00000010
def sensitiveDataOrigin : UInt32 := 0x00000020
def userWithAuth : UInt32 := 0x00000040
def adminWithPolicy : UInt32 := 0x00000080
def firmwareLimited : UInt32 := 0x00000100
def svnLimited : UInt32 := 0x00000200
def noDa : UInt32 := 0x00000400
def encryptedDuplication : UInt32 := 0x00000800
def restricted : UInt32 := 0x00010000
def decrypt : UInt32 := 0x00020000
def signEncrypt : UInt32 := 0x00040000
def x509Sign : UInt32 := 0x00080000

end ObjectAttributes

abbrev SessionAttributes := Flags8 0x18

namespace SessionAttributes

def continueSession : UInt8 := 0x01
def auditExclusive : UInt8 := 0x02
def auditReset : UInt8 := 0x04
def decrypt : UInt8 := 0x20
def encrypt : UInt8 := 0x40
def audit : UInt8 := 0x80

end SessionAttributes

abbrev LocalityAttributes := Flags8 0x00

abbrev PermanentAttributes := Flags32 0xFFFFF8F8

namespace PermanentAttributes

def ownerAuthSet : UInt32 := 0x00000001
def endorsementAuthSet : UInt32 := 0x00000002
def lockoutAuthSet : UInt32 := 0x00000004
def disableClear : UInt32 := 0x00000100
def inLockout : UInt32 := 0x00000200
def tpmGeneratedEps : UInt32 := 0x00000400

end PermanentAttributes

abbrev StartupClearAttributes := Flags32 0x7FFFFFE0

namespace StartupClearAttributes

def phEnable : UInt32 := 0x00000001
def shEnable : UInt32 := 0x00000002
def ehEnable : UInt32 := 0x00000004
def phEnableNv : UInt32 := 0x00000008
def readOnly : UInt32 := 0x00000010
def orderly : UInt32 := 0x80000000

end StartupClearAttributes

abbrev NvAttributes := Flags32 0x01F00300

namespace NvAttributes

def ppwrite : UInt32 := 0x00000001
def ownerwrite : UInt32 := 0x00000002
def authwrite : UInt32 := 0x00000004
def policywrite : UInt32 := 0x00000008
def policyDelete : UInt32 := 0x00000400
def writelocked : UInt32 := 0x00000800
def writeall : UInt32 := 0x00001000
def writedefine : UInt32 := 0x00002000
def writeStclear : UInt32 := 0x00004000
def globallock : UInt32 := 0x00008000
def ppread : UInt32 := 0x00010000
def ownerread : UInt32 := 0x00020000
def authread : UInt32 := 0x00040000
def policyread : UInt32 := 0x00080000
def noDa : UInt32 := 0x02000000
def orderly : UInt32 := 0x04000000
def clearStclear : UInt32 := 0x08000000
def readlocked : UInt32 := 0x10000000
def written : UInt32 := 0x20000000
def platformcreate : UInt32 := 0x40000000
def readStclear : UInt32 := 0x80000000

def typeMask : UInt32 := 0x000000F0

def indexType (attributes : NvAttributes) : UInt8 := ((attributes.value &&& typeMask) >>> 4).toUInt8

end NvAttributes

namespace Nt

def ordinary : UInt8 := 0x0
def counter : UInt8 := 0x1
def bits : UInt8 := 0x2
def extend : UInt8 := 0x4
def pinFail : UInt8 := 0x8
def pinPass : UInt8 := 0x9

end Nt

end Swtrust
