import Swtrust.Crypto
import Swtrust.Structures.Keys
import Swtrust.Structures.Nv

set_option autoImplicit false

namespace Swtrust

open Library

def handleName (handle : UInt32) : Bytes := be32 handle

def nameIsHandle (handle : UInt32) : Bool := ([0x00, 0x40, 0x02, 0x03] : List UInt32).contains (handle >>> 24)

def isWellFormed [Profile] (name : Bytes) : Bool :=
  name.isEmpty || name.length == 4 ||
    (decide (2 ≤ name.length) && digestSize (UInt16.ofNat (beNat (name.take 2))) == some (name.length - 2))

section

variable [Crypto]

def hashedName (nameAlg : UInt16) (body : Bytes) : TpmResult Bytes := do
  let digest ← Hash.digest nameAlg body
  return be16 nameAlg ++ digest

def objectName (area : TpmtPublic) : TpmResult Bytes :=
  if area.nameAlg = Alg.null then .ok [] else hashedName area.nameAlg area.marshal

def nvName (area : NvPublic) : TpmResult Bytes := hashedName area.nameAlg area.marshal

def qualifiedName (childNameAlg : UInt16) (parentQualifiedName childName : Bytes) : TpmResult Bytes :=
  if childNameAlg = Alg.null then .ok [] else hashedName childNameAlg (parentQualifiedName ++ childName)

end

end Swtrust
