import Swtrust.Marshal

set_option autoImplicit false

namespace Swtrust

open Library

class Profile where
  isStrict : Bool

export Profile (isStrict)

namespace Config

def implementationPcr : Nat := 24
def hcrtmPcr : Nat := 0
def drtmPcr : Nat := 17
def pcrSelectMin : Nat := 3
def pcrSelectMax : Nat := 3
def maxLoadedObjects : Nat := 32
def maxLoadedSessions : Nat := 32
def maxActiveSessions : Nat := 64
def maxCommitSequences : Nat := 128
def commitNonceBytes : Nat := 64
def maxSessionNum : Nat := 3
def minEvictObjects : Nat := 32
def contextGapMax : UInt64 := 0xFFFF
def maxOrderlyCount : UInt64 := 0xFF
def nvClockUpdateInterval : UInt64 := 0x20000
def maxClock : UInt64 := 0xFFFF000000000000
def commitEphemeralHashAlg : UInt16 := Alg.sha384
def primarySeedSize : Nat := 32
def contextIntegrityHashAlg : UInt16 := Alg.sha512
def maxCommandSize : Nat := 4096
def maxDigestBuffer : Nat := 1024
def maxNvBufferSize : Nat := 1024
def maxNvIndexSize : Nat := 8500
def minCounterIndices : Nat := 8
def nvMemorySize : Nat := 128 * 1024
def maxRngEntropySize : Nat := 128
def maxDigestSize : Nat := 64
def algorithmSet : UInt32 := 0
def maxContextSize : Nat := 2048
def hashCount : Nat := 8
def maxRsaKeyBytes : Nat := 512
def maxEccKeyBytes : Nat := 66
def defaultMaxAuthFail : UInt32 := 32
def defaultLockoutInterval : UInt32 := 1000
def defaultLockoutRecovery : UInt32 := 1000
def firmwareVersion : UInt64 := 0x0001000000000000
def firmwareSvn : UInt32 := 0

def hashesLegacy : List UInt16 :=
  [Alg.sha1, Alg.sha256, Alg.sha384, Alg.sha512, Alg.sha3_256, Alg.sha3_384, Alg.sha3_512]

def hashesStrict : List UInt16 := [Alg.sha256, Alg.sha384, Alg.sha512, Alg.sha3_256, Alg.sha3_384, Alg.sha3_512]

def implementedHashes [Profile] : List UInt16 := if isStrict then hashesStrict else hashesLegacy

def defaultPcrBanks : List UInt16 := [Alg.sha256, Alg.sha384]

def implementedPcrBanks [Profile] : List UInt16 := if isStrict then hashesStrict else hashesLegacy

def implementedCurves : List UInt16 := [Curve.nistP224, Curve.nistP256, Curve.nistP384, Curve.nistP521]
def implementedRsaKeyBits : List UInt16 := [2048, 3072, 4096]
def implementedAesKeyBits : List UInt16 := [128, 192, 256]

end Config

def digestSize [Profile] (hashAlg : UInt16) : Option Nat :=
  if hashAlg = Alg.sha1 ∧ isStrict = true then none
  else if hashAlg = Alg.sha1 then some 20
  else if hashAlg = Alg.sha256 ∨ hashAlg = Alg.sha3_256 then some 32
  else if hashAlg = Alg.sha384 ∨ hashAlg = Alg.sha3_384 then some 48
  else if hashAlg = Alg.sha512 ∨ hashAlg = Alg.sha3_512 then some 64
  else if hashAlg = Alg.sm3_256 then some 32
  else none

def readHashAlg [Profile] (rc : TpmRc) : Reader UInt16 := do
  let hashAlg ← u16
  if (digestSize hashAlg).isNone then throw rc
  return hashAlg

structure Tpm2b (max : Nat) where
  buffer : Bytes
  fits : buffer.length ≤ max
  deriving DecidableEq

namespace Tpm2b

variable {max : Nat}

@[ext] theorem ext {a b : Tpm2b max} (same : a.buffer = b.buffer) : a = b := by
  cases a
  cases b
  simpa using same

def empty : Tpm2b max := ⟨[], Nat.zero_le _⟩

def new (buffer : Bytes) : TpmResult (Tpm2b max) :=
  if fits : buffer.length ≤ max then .ok ⟨buffer, fits⟩ else .error Rc.size

def isEmpty (value : Tpm2b max) : Bool := value.buffer.isEmpty

def marshal (value : Tpm2b max) : Bytes := sized16 value.buffer

def unmarshal : Reader (Tpm2b max) := do
  let size ← u16
  if max < size.toNat then throw Rc.size
  let buffer ← take size.toNat
  new buffer

theorem new_buffer (buffer : Bytes) (value : Tpm2b max) (made : new buffer = .ok value) : value.buffer = buffer := by
  unfold new at made
  split at made
  · cases made
    rfl
  · cases made

theorem decodes_unmarshal (bounded : max < 65536) (value : Tpm2b max) :
    Decodes (unmarshal : Reader (Tpm2b max)) value.marshal value := by
  have short := Nat.lt_of_le_of_lt value.fits bounded
  have size : (UInt16.ofNat value.buffer.length).toNat = value.buffer.length := by
    simpa using Nat.mod_eq_of_lt short
  refine decodes_bind _ _ _ _ _ _ (decodes_u16 _) ?_
  rw [size, if_neg (Nat.not_lt.mpr value.fits)]
  refine decodes_bind_last _ _ _ _ _ (decodes_take value.buffer) ?_
  intro rest
  simp [new, value.fits]

end Tpm2b

abbrev Tpm2bDigest := Tpm2b 64
abbrev Tpm2bNonce := Tpm2bDigest
abbrev Tpm2bAuth := Tpm2bDigest
abbrev Tpm2bOperand := Tpm2bDigest
abbrev Tpm2bData := Tpm2b 66
abbrev Tpm2bName := Tpm2b 66
abbrev Tpm2bEvent := Tpm2b 1024
abbrev Tpm2bMaxBuffer := Tpm2b Config.maxDigestBuffer
abbrev Tpm2bMaxNvBuffer := Tpm2b Config.maxNvBufferSize
abbrev Tpm2bTimeout := Tpm2b 8
abbrev Tpm2bSymKey := Tpm2b 64
abbrev Tpm2bLabel := Tpm2b 32
abbrev Tpm2bSensitiveData := Tpm2b 128
abbrev Tpm2bPublicKeyRsa := Tpm2b Config.maxRsaKeyBytes
abbrev Tpm2bPrivateKeyRsa := Tpm2b (Config.maxRsaKeyBytes / 2 * 5)
abbrev Tpm2bEccParameter := Tpm2b Config.maxEccKeyBytes
abbrev Tpm2bEncryptedSecret := Tpm2b Config.maxRsaKeyBytes
abbrev Tpm2bSignatureCtx := Tpm2b 255
abbrev Tpm2bSignatureHint := Tpm2b Config.maxEccKeyBytes
abbrev Tpm2bIv := Tpm2b 16
abbrev Tpm2bAttest := Tpm2b (4 + 2 + (2 + 66) + (2 + 66) + 17 + 8 + (2 + 66) + 2 + (2 + Config.maxNvBufferSize))
abbrev Tpm2bPrivate := Tpm2b ((2 + 64) + 2 + (2 + (2 + 64) + (2 + 64) + (2 + Config.maxRsaKeyBytes / 2 * 5)))
abbrev Tpm2bIdObject := Tpm2b ((2 + 66) + (2 + 66))
abbrev Tpm2bContextSensitive := Tpm2b Config.maxContextSize
abbrev Tpm2bContextData := Tpm2b ((2 + 66) + 2 + Config.maxContextSize)
abbrev Tpm2bTemplate :=
  Tpm2b (2 + 2 + 4 + (2 + 64) + (2 + 2 + 2) + (2 + 2) + 2 + 4 + (2 + Config.maxRsaKeyBytes))
abbrev Tpm2bSharedSecret := Tpm2b 64

structure TpmtHa where
  hashAlg : UInt16
  digest : Bytes
  deriving DecidableEq

namespace TpmtHa

def null : TpmtHa := ⟨Alg.null, []⟩

def new [Profile] (hashAlg : UInt16) (digest : Bytes) : TpmResult TpmtHa :=
  if hashAlg = Alg.null then
    if !digest.isEmpty then .error Rc.size else .ok ⟨hashAlg, digest⟩
  else
    match digestSize hashAlg with
    | some size => if size = digest.length then .ok ⟨hashAlg, digest⟩ else .error Rc.size
    | none => .error Rc.hash

def marshal (ha : TpmtHa) : Bytes := be16 ha.hashAlg ++ ha.digest

def unmarshal [Profile] : Reader TpmtHa := do
  let hashAlg ← u16
  if hashAlg = Alg.null then
    return ⟨hashAlg, []⟩
  match digestSize hashAlg with
  | none => throw Rc.hash
  | some size => return ⟨hashAlg, ← take size⟩

end TpmtHa

structure PcrSelect where
  bits : Bytes
  deriving DecidableEq

namespace PcrSelect

def none : PcrSelect := ⟨List.replicate Config.pcrSelectMin 0⟩

def isSelected (select : PcrSelect) (index : Nat) : Bool :=
  match select.bits[index / 8]? with
  | some octet => octet.toNat.testBit (index % 8)
  | Option.none => false

def selectIn (select : PcrSelect) (index : Nat) : PcrSelect :=
  let padded := select.bits ++ List.replicate (index / 8 + 1 - select.bits.length) 0
  ⟨padded.modify (index / 8) (· ||| ((1 : UInt8) <<< UInt8.ofNat (index % 8)))⟩

def deselect (select : PcrSelect) (index : Nat) : PcrSelect :=
  ⟨select.bits.modify (index / 8) (· &&& ~~~((1 : UInt8) <<< UInt8.ofNat (index % 8)))⟩

def selected (select : PcrSelect) : List Nat :=
  (List.range (8 * select.bits.length)).filter select.isSelected

def marshal (select : PcrSelect) : Bytes := be8 (UInt8.ofNat select.bits.length) ++ select.bits

def unmarshal : Reader PcrSelect := do
  let size ← u8
  if size.toNat < Config.pcrSelectMin ∨ Config.pcrSelectMax < size.toNat then throw Rc.value
  return ⟨← take size.toNat⟩

end PcrSelect

structure PcrSelection where
  hashAlg : UInt16
  select : PcrSelect
  deriving DecidableEq

namespace PcrSelection

def marshal (selection : PcrSelection) : Bytes := be16 selection.hashAlg ++ selection.select.marshal

def unmarshal [Profile] : Reader PcrSelection := do
  let hashAlg ← readHashAlg Rc.hash
  return ⟨hashAlg, ← PcrSelect.unmarshal⟩

end PcrSelection

abbrev TpmlPcrSelection := List PcrSelection

def TpmlPcrSelection.marshal (list : TpmlPcrSelection) : Bytes := marshalList PcrSelection.marshal list

def TpmlPcrSelection.unmarshal [Profile] : Reader TpmlPcrSelection :=
  unmarshalList PcrSelection.unmarshal Config.hashCount

def TpmlDigestValues.unmarshal [Profile] : Reader (List TpmtHa) := unmarshalList TpmtHa.unmarshal Config.hashCount

def TpmlDigest.unmarshal : Reader (List Tpm2bDigest) := do
  let count ← u32
  if count.toNat < 2 ∨ 8 < count.toNat then throw Rc.size
  decodeMany Tpm2b.unmarshal count.toNat

end Swtrust
