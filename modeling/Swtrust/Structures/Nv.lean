import Swtrust.Structures.Attributes

set_option autoImplicit false

namespace Swtrust

open Library

structure NvPublic where
  nvIndex : UInt32
  nameAlg : UInt16
  attributes : NvAttributes
  authPolicy : Tpm2bDigest
  dataSize : UInt16
  deriving DecidableEq

namespace NvPublic

def marshal (area : NvPublic) : Bytes :=
  be32 area.nvIndex ++ be16 area.nameAlg ++ area.attributes.marshal ++ area.authPolicy.marshal ++ be16 area.dataSize

def unmarshal [Profile] : Reader NvPublic := do
  let nvIndex ← u32
  let nameAlg ← readHashAlg Rc.hash
  let attributes ← Flags32.unmarshal
  let authPolicy ← Tpm2b.unmarshal
  let dataSize ← u16
  if Config.maxNvIndexSize < dataSize.toNat then throw Rc.size
  return { nvIndex, nameAlg, attributes, authPolicy, dataSize }

end NvPublic

abbrev NvExpAttributes := UInt64

namespace NvExpAttributes

def reserved : UInt64 := 0xFFFFFFF800000000

def unmarshal : Reader NvExpAttributes := do
  let value ← u64
  if (value &&& reserved) ≠ 0 then throw Rc.reservedBits
  (⟨value.toUInt32⟩ : NvAttributes).checkReserved
  return value

end NvExpAttributes

structure NvPublicExpAttr where
  nvIndex : UInt32
  nameAlg : UInt16
  attributes : NvExpAttributes
  authPolicy : Tpm2bDigest
  dataSize : UInt16
  deriving DecidableEq

def NvPublicExpAttr.unmarshal [Profile] : Reader NvPublicExpAttr := do
  let nvIndex ← u32
  let nameAlg ← readHashAlg Rc.hash
  let attributes ← NvExpAttributes.unmarshal
  let authPolicy ← Tpm2b.unmarshal
  let dataSize ← u16
  if Config.maxNvIndexSize < dataSize.toNat then throw Rc.size
  return { nvIndex, nameAlg, attributes, authPolicy, dataSize }

inductive NvPublic2 where
  | index (area : NvPublic)
  | external (area : NvPublicExpAttr)
  | permanent (area : NvPublic)
  deriving DecidableEq

namespace NvPublic2

def nvIndex : NvPublic2 → UInt32
  | .index area => area.nvIndex
  | .external area => area.nvIndex
  | .permanent area => area.nvIndex

def unmarshal [Profile] : Reader NvPublic2 := do
  let handleType ← u8
  let area ←
    if handleType = Ht.nvIndex then NvPublic2.index <$> NvPublic.unmarshal
    else if handleType = Ht.externalNv then NvPublic2.external <$> NvPublicExpAttr.unmarshal
    else if handleType = Ht.permanentNv then NvPublic2.permanent <$> NvPublic.unmarshal
    else throw Rc.selector
  if (area.nvIndex >>> 24).toUInt8 ≠ handleType then throw Rc.value
  return area

end NvPublic2

structure NvPinCounterParameters where
  pinCount : UInt32 := 0
  pinLimit : UInt32 := 0
  deriving DecidableEq

namespace NvPinCounterParameters

def marshal (p : NvPinCounterParameters) : Bytes := be32 p.pinCount ++ be32 p.pinLimit

def unmarshal : Reader NvPinCounterParameters := do
  let pinCount ← u32
  return ⟨pinCount, ← u32⟩

end NvPinCounterParameters

end Swtrust
