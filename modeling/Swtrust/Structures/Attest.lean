import Swtrust.Structures.Attributes

set_option autoImplicit false

namespace Swtrust

open Library

structure ClockInfo where
  clock : UInt64
  resetCount : UInt32
  restartCount : UInt32
  safe : Bool
  deriving DecidableEq

def unmarshalYesNo : Reader Bool := do
  let octet ← u8
  if octet = 0 then return false
  else if octet = 1 then return true
  else throw Rc.value

namespace ClockInfo

def marshal (info : ClockInfo) : Bytes :=
  be64 info.clock ++ be32 info.resetCount ++ be32 info.restartCount ++ beBool info.safe

def unmarshal : Reader ClockInfo := do
  let clock ← u64
  let resetCount ← u32
  let restartCount ← u32
  return { clock, resetCount, restartCount, safe := ← unmarshalYesNo }

end ClockInfo

structure TimeInfo where
  time : UInt64
  clockInfo : ClockInfo
  deriving DecidableEq

namespace TimeInfo

def marshal (info : TimeInfo) : Bytes := be64 info.time ++ info.clockInfo.marshal

def unmarshal : Reader TimeInfo := do
  let time ← u64
  return ⟨time, ← ClockInfo.unmarshal⟩

end TimeInfo

inductive Attested where
  | certify (name qualifiedName : Tpm2bName)
  | creation (objectName : Tpm2bName) (creationHash : Tpm2bDigest)
  | quote (pcrSelect : TpmlPcrSelection) (pcrDigest : Tpm2bDigest)
  | commandAudit (auditCounter : UInt64) (digestAlg : UInt16) (auditDigest commandDigest : Tpm2bDigest)
  | sessionAudit (exclusiveSession : Bool) (sessionDigest : Tpm2bDigest)
  | time (time : TimeInfo) (firmwareVersion : UInt64)
  | nv (indexName : Tpm2bName) (offset : UInt16) (nvContents : Tpm2bMaxNvBuffer)
  | nvDigest (indexName : Tpm2bName) (nvDigest : Tpm2bDigest)
  deriving DecidableEq

namespace Attested

def selector : Attested → UInt16
  | .certify .. => St.attestCertify
  | .creation .. => St.attestCreation
  | .quote .. => St.attestQuote
  | .commandAudit .. => St.attestCommandAudit
  | .sessionAudit .. => St.attestSessionAudit
  | .time .. => St.attestTime
  | .nv .. => St.attestNv
  | .nvDigest .. => St.attestNvDigest

def marshal : Attested → Bytes
  | .certify name qualifiedName => name.marshal ++ qualifiedName.marshal
  | .creation objectName creationHash => objectName.marshal ++ creationHash.marshal
  | .quote pcrSelect pcrDigest => TpmlPcrSelection.marshal pcrSelect ++ pcrDigest.marshal
  | .commandAudit auditCounter digestAlg auditDigest commandDigest =>
      be64 auditCounter ++ be16 digestAlg ++ auditDigest.marshal ++ commandDigest.marshal
  | .sessionAudit exclusiveSession sessionDigest => beBool exclusiveSession ++ sessionDigest.marshal
  | .time info firmwareVersion => info.marshal ++ be64 firmwareVersion
  | .nv indexName offset nvContents => indexName.marshal ++ be16 offset ++ nvContents.marshal
  | .nvDigest indexName digest => indexName.marshal ++ digest.marshal

def unmarshalWith [Profile] (selector : UInt16) : Reader Attested :=
  if selector = St.attestCertify then return .certify (← Tpm2b.unmarshal) (← Tpm2b.unmarshal)
  else if selector = St.attestCreation then return .creation (← Tpm2b.unmarshal) (← Tpm2b.unmarshal)
  else if selector = St.attestQuote then return .quote (← TpmlPcrSelection.unmarshal) (← Tpm2b.unmarshal)
  else if selector = St.attestCommandAudit then
    return .commandAudit (← u64) (← u16) (← Tpm2b.unmarshal) (← Tpm2b.unmarshal)
  else if selector = St.attestSessionAudit then return .sessionAudit (← unmarshalYesNo) (← Tpm2b.unmarshal)
  else if selector = St.attestTime then return .time (← TimeInfo.unmarshal) (← u64)
  else if selector = St.attestNv then return .nv (← Tpm2b.unmarshal) (← u16) (← Tpm2b.unmarshal)
  else if selector = St.attestNvDigest then return .nvDigest (← Tpm2b.unmarshal) (← Tpm2b.unmarshal)
  else throw Rc.selector

end Attested

def tpmGeneratedValue : UInt32 := 0xFF544347

structure Attest where
  magic : UInt32 := tpmGeneratedValue
  qualifiedSigner : Tpm2bName
  extraData : Tpm2bData
  clockInfo : ClockInfo
  firmwareVersion : UInt64
  attested : Attested
  deriving DecidableEq

namespace Attest

def marshal (attest : Attest) : Bytes :=
  be32 attest.magic ++ be16 attest.attested.selector ++ attest.qualifiedSigner.marshal ++ attest.extraData.marshal ++
    attest.clockInfo.marshal ++ be64 attest.firmwareVersion ++ attest.attested.marshal

def unmarshal [Profile] : Reader Attest := do
  let magic ← u32
  if magic ≠ tpmGeneratedValue then throw Rc.value
  let selector ← u16
  let qualifiedSigner ← Tpm2b.unmarshal
  let extraData ← Tpm2b.unmarshal
  let clockInfo ← ClockInfo.unmarshal
  let firmwareVersion ← u64
  let attested ← Attested.unmarshalWith selector
  return { magic, qualifiedSigner, extraData, clockInfo, firmwareVersion, attested }

end Attest

structure CreationData where
  pcrSelect : TpmlPcrSelection
  pcrDigest : Tpm2bDigest
  locality : LocalityAttributes
  parentNameAlg : UInt16
  parentName : Tpm2bName
  parentQualifiedName : Tpm2bName
  outsideInfo : Tpm2bData
  deriving DecidableEq

namespace CreationData

def marshal (data : CreationData) : Bytes :=
  TpmlPcrSelection.marshal data.pcrSelect ++ data.pcrDigest.marshal ++ data.locality.marshal ++
    be16 data.parentNameAlg ++ data.parentName.marshal ++ data.parentQualifiedName.marshal ++ data.outsideInfo.marshal

end CreationData

end Swtrust
