import Swtrust.Library.SortedMap
import Swtrust.Core.Hierarchy
import Swtrust.Structures.Schemes

set_option autoImplicit false

namespace Swtrust

open Library

structure PolicyState where
  digest : Bytes
  commandCode : Option UInt32 := none
  cpHash : Option Bytes := none
  nameHash : Option Bytes := none
  locality : Option UInt8 := none
  pcrUpdateCounter : Option UInt32 := none
  authValueNeeded : Bool := false
  passwordNeeded : Bool := false
  nvWritten : Option Bool := none
  templateHash : Option Bytes := none
  parametersHash : Option Bytes := none
  physicalPresenceRequired : Bool := false
  secureChannelRequired : Bool := false
  secureChannelKeyHash : Option Bytes := none
  expiration : Option UInt64 := none
  timeoutNonce : Bytes := []
  deriving DecidableEq

namespace PolicyState

def marshal (policy : PolicyState) : Bytes :=
  sized16 policy.digest ++ beOption be32 policy.commandCode ++ beOption sized16 policy.cpHash ++
    beOption sized16 policy.nameHash ++ beOption be8 policy.locality ++ beOption be32 policy.pcrUpdateCounter ++
    beBool policy.authValueNeeded ++ beBool policy.passwordNeeded ++ beOption beBool policy.nvWritten ++
    beOption sized16 policy.templateHash ++ beOption sized16 policy.parametersHash ++
    beBool policy.physicalPresenceRequired ++ beBool policy.secureChannelRequired ++
    beOption sized16 policy.secureChannelKeyHash ++ beOption be64 policy.expiration ++ sized16 policy.timeoutNonce

def unmarshal : Reader PolicyState := do
  let digest ← readSized
  let commandCode ← readOption u32
  let cpHash ← readOption readSized
  let nameHash ← readOption readSized
  let locality ← readOption u8
  let pcrUpdateCounter ← readOption u32
  let authValueNeeded ← readFlag
  let passwordNeeded ← readFlag
  let nvWritten ← readOption readFlag
  let templateHash ← readOption readSized
  let parametersHash ← readOption readSized
  let physicalPresenceRequired ← readFlag
  let secureChannelRequired ← readFlag
  let secureChannelKeyHash ← readOption readSized
  let expiration ← readOption u64
  let timeoutNonce ← readSized
  return {
    digest, commandCode, cpHash, nameHash, locality, pcrUpdateCounter, authValueNeeded, passwordNeeded, nvWritten
    templateHash, parametersHash, physicalPresenceRequired, secureChannelRequired, secureChannelKeyHash
    expiration, timeoutNonce }

end PolicyState

structure SessionAudit where
  isAudit : Bool := false
  digest : Bytes := []
  deriving DecidableEq

structure Session where
  handle : UInt32
  sessionType : UInt8
  authHash : UInt16
  nonceTpm : Bytes
  nonceCaller : Bytes
  sessionKey : Bytes
  bind : UInt32
  bindName : Bytes
  bindUsesLockout : Bool := false
  startTime : UInt64 := 0
  timeEpoch : UInt64 := 0
  symmetric : SymDef
  policy : PolicyState
  audit : SessionAudit := {}
  attributes : SessionAttributes := ⟨0⟩
  deriving DecidableEq

def trimAuth (auth : Bytes) : Bytes := (auth.reverse.dropWhile (· == 0)).reverse

section

variable [Crypto]

def extendAudit (hashAlg : UInt16) (digest cpHash rpHash : Bytes) : TpmResult Bytes := do
  let size ← Hash.digestSize hashAlg
  let old := if digest.length = size then digest else List.replicate size 0
  Hash.digestParts hashAlg [old, cpHash, rpHash]

namespace Session

def new (handle : UInt32) (sessionType : UInt8) (authHash : UInt16) (nonceTpm nonceCaller sessionKey : Bytes)
    (bind : UInt32) (bindName : Bytes) (symmetric : SymDef) : TpmResult Session := do
  let size ← Hash.digestSize authHash
  let policy : PolicyState := { digest := List.replicate size 0 }
  return { handle, sessionType, authHash, nonceTpm, nonceCaller, sessionKey, bind, bindName, symmetric, policy }

def isPolicy (s : Session) : Bool := s.sessionType == Se.policy || s.sessionType == Se.trial

def isTrial (s : Session) : Bool := s.sessionType == Se.trial

def isHmac (s : Session) : Bool := s.sessionType == Se.hmac

def bindId (name authValue : Bytes) : Bytes := name ++ trimAuth authValue

def isBoundTo (s : Session) (name authValue : Bytes) : Bool :=
  s.bind != Rh.null && !s.bindName.isEmpty && s.bindName == bindId name authValue

def hmacKey (s : Session) (entityName authValue : Bytes) : Bytes :=
  let wantsAuth := if s.isPolicy then s.policy.authValueNeeded else !s.isBoundTo entityName authValue
  if wantsAuth then s.sessionKey ++ trimAuth authValue else s.sessionKey

def sessionValue (s : Session) (authValue : Bytes) : Bytes := s.sessionKey ++ trimAuth authValue

def restartPolicy (s : Session) : TpmResult Session := do
  let size ← Hash.digestSize s.authHash
  return { s with policy := { digest := List.replicate size 0 } }

def extendPolicy (s : Session) (commandCode : UInt32) (data : Bytes) : TpmResult Session := do
  let digest ← Hash.digestParts s.authHash [s.policy.digest, be32 commandCode, data]
  return { s with policy := { s.policy with digest } }

end Session

def authHmacAccepted (key expected supplied : Bytes) : Bool :=
  if key.isEmpty && supplied.isEmpty then true else expected == supplied

def deriveSessionKey (authHash : UInt16) (plain : Bool) (bindAuth salt nonceTpm nonceCaller : Bytes) :
    TpmResult Bytes := do
  if plain then return []
  let size ← Hash.digestSize authHash
  kdfa authHash (trimAuth bindAuth ++ salt) (ascii "ATH") nonceTpm nonceCaller (UInt32.ofNat (size * 8))

def cpHash (hashAlg : UInt16) (commandCode : UInt32) (names : List Bytes) (parameters : Bytes) : TpmResult Bytes :=
  Hash.digestParts hashAlg ([be32 commandCode] ++ names ++ [parameters])

def rpHash (hashAlg : UInt16) (responseCode commandCode : UInt32) (parameters : Bytes) : TpmResult Bytes :=
  Hash.digestParts hashAlg [be32 responseCode, be32 commandCode, parameters]

def authHmacWithNonces (authHash : UInt16) (hmacKey pHash nonceNewer nonceOlder nonceDecrypt nonceEncrypt : Bytes)
    (attributes : SessionAttributes) : TpmResult Bytes :=
  hmacParts authHash hmacKey [pHash, nonceNewer, nonceOlder, nonceDecrypt, nonceEncrypt, [attributes.value]]

def parameterEncryptionKey (authHash : UInt16) (sessionKey extraKey nonceNewer nonceOlder : Bytes) (keyBits : UInt16)
    (ivBytes : Nat) : TpmResult (Bytes × Bytes) := do
  let material := sessionKey ++ trimAuth extraKey
  let out ← kdfa authHash material (ascii "CFB") nonceNewer nonceOlder (UInt32.ofNat (keyBits.toNat + ivBytes * 8))
  return (out.take (keyBits.toNat / 8), out.drop (keyBits.toNat / 8))

end

structure SessionSlots where
  sessions : SortedMap UInt32 Session
  saved : SortedMap UInt32 UInt64
  version : SortedMap UInt32 UInt64
  contextCounter : UInt64
  objectCounter : UInt64
  deriving DecidableEq

def isSessionHandle (handle : UInt32) : Bool :=
  Hierarchies.inRange Hc.hmacSessionFirst Hc.hmacSessionLast handle ||
    Hierarchies.inRange Hc.policySessionFirst Hc.policySessionLast handle

def isSessionType (sessionType : UInt8) : Bool := [Se.hmac, Se.policy, Se.trial].contains sessionType

def isValidAuthHash [Profile] (algId : UInt16) : Bool := algId != Alg.null && Hash.isSupported algId

def minimum : List UInt64 → Option UInt64
  | [] => none
  | head :: tail =>
      match minimum tail with
      | none => some head
      | some least => some (min head least)

namespace SessionSlots

def new : SessionSlots := ⟨SortedMap.empty, SortedMap.empty, SortedMap.empty, 1, 1⟩

def active (slots : SessionSlots) : Nat := slots.sessions.size + slots.saved.size

def oldestActive (slots : SessionSlots) : Option UInt64 := minimum (slots.saved.values ++ slots.version.values)

def atContextGap (slots : SessionSlots) : Bool :=
  match slots.oldestActive with
  | some oldest => decide (satSub slots.contextCounter oldest > Config.contextGapMax)
  | none => false

def checkGap (slots : SessionSlots) : TpmResult Unit := if slots.atContextGap then .error Rc.contextGap else .ok ()

def countersExhausted (slots : SessionSlots) : Bool :=
  slots.contextCounter == 0xFFFFFFFFFFFFFFFF || slots.objectCounter == 0xFFFFFFFFFFFFFFFF

def nextContextId (slots : SessionSlots) : UInt64 × SessionSlots :=
  (slots.contextCounter, { slots with contextCounter := satSucc slots.contextCounter })

def nextObjectId (slots : SessionSlots) : UInt64 × SessionSlots :=
  (slots.objectCounter, { slots with objectCounter := satSucc slots.objectCounter })

def isFlushableSession (handle : UInt32) : Bool :=
  isSessionHandle handle ||
    (!Hierarchies.inRange Hc.transientFirst Hc.transientLast handle &&
      decide (handle &&& 0x00FFFFFF < UInt32.ofNat Config.maxActiveSessions))

def contextIdTaken (slots : SessionSlots) (index : UInt32) : Bool :=
  (slots.sessions.keys ++ slots.saved.keys).any fun h => h &&& 0x00FFFFFF == index

def allocateHandle (slots : SessionSlots) (sessionType : UInt8) : TpmResult UInt32 :=
  let base := if sessionType = Se.hmac then Hc.hmacSessionFirst else Hc.policySessionFirst
  match (List.range Config.maxActiveSessions).find? fun i => !slots.contextIdTaken (UInt32.ofNat i) with
  | some i => .ok (base + UInt32.ofNat i)
  | none => .error Rc.sessionHandles

def insert (slots : SessionSlots) (session : Session) : TpmResult SessionSlots := do
  if Config.maxLoadedSessions ≤ slots.sessions.size then throw Rc.sessionMemory
  if Config.maxActiveSessions ≤ slots.active then throw Rc.sessionHandles
  slots.checkGap
  if slots.countersExhausted then throw Rc.tooManyContexts
  let (id, slots) := slots.nextContextId
  return { slots with
    version := slots.version.insert session.handle id
    sessions := slots.sessions.insert session.handle session }

def get (slots : SessionSlots) (handle : UInt32) : TpmResult Session :=
  match slots.sessions.get handle with
  | some session => .ok session
  | none => .error Rc.handle

def put (slots : SessionSlots) (handle : UInt32) (session : Session) : SessionSlots :=
  { slots with sessions := slots.sessions.insert handle session }

def remove (slots : SessionSlots) (handle : UInt32) : SessionSlots :=
  { slots with
    saved := slots.saved.erase handle
    version := slots.version.erase handle
    sessions := slots.sessions.erase handle }

theorem get_put_same (slots : SessionSlots) (handle : UInt32) (session : Session) :
    (slots.put handle session).get handle = .ok session := by
  simp [get, put]

theorem get_put_other (slots : SessionSlots) (handle other : UInt32) (session : Session) (different : other ≠ handle) :
    (slots.put handle session).get other = slots.get other := by
  simp only [get, put]
  rw [SortedMap.get_insert_other _ _ _ _ different]

theorem get_remove_other (slots : SessionSlots) (handle other : UInt32) (different : other ≠ handle) :
    (slots.remove handle).get other = slots.get other := by
  simp only [get, remove]
  rw [SortedMap.get_erase_other _ _ _ different]

def flushCandidates (slots : SessionSlots) (handle : UInt32) : List UInt32 :=
  let index := handle &&& 0x00FFFFFF
  let aliases := [Hc.hmacSessionFirst, Hc.policySessionFirst].map fun base => (base &&& 0xFF000000) ||| index
  handle :: aliases.filter fun aliased =>
    aliased != handle && (slots.sessions.contains aliased || slots.saved.contains aliased)

def flushFirst (slots : SessionSlots) : List UInt32 → TpmResult UInt32 × SessionSlots
  | [] => (.error Rc.handle, slots)
  | candidate :: rest =>
      let present := slots.sessions.contains candidate || slots.saved.contains candidate
      let slots := slots.remove candidate
      if present then (.ok candidate, slots) else flushFirst slots rest

def flush (slots : SessionSlots) (handle : UInt32) : TpmResult UInt32 × SessionSlots :=
  slots.flushFirst (slots.flushCandidates handle)

def save (slots : SessionSlots) (handle : UInt32) : TpmResult ((Session × UInt64) × SessionSlots) := do
  let session ← slots.get handle
  let id := (slots.version.get handle).getD slots.contextCounter
  return ((session, id), { slots with
    sessions := slots.sessions.erase handle
    version := slots.version.erase handle
    saved := slots.saved.insert handle id })

def restore (slots : SessionSlots) (session : Session) (version : UInt64) : TpmResult SessionSlots := do
  match slots.saved.get session.handle with
  | none => throw Rc.handle
  | some current => if current ≠ version then throw Rc.value
  if Config.maxLoadedSessions ≤ slots.sessions.size then throw Rc.sessionMemory
  let (id, slots) := slots.nextContextId
  return { slots with
    version := slots.version.insert session.handle id
    saved := slots.saved.erase session.handle
    sessions := slots.sessions.insert session.handle session }

def contains (slots : SessionSlots) (handle : UInt32) : Bool :=
  slots.sessions.contains handle || slots.saved.contains handle

def clear (_ : SessionSlots) : SessionSlots := new

def restoreSavedContexts (slots : SessionSlots) (saved : List (UInt32 × UInt64)) (counter objectCounter : UInt64) :
    SessionSlots :=
  { slots with saved := SortedMap.ofList saved, contextCounter := counter, objectCounter }

def flushLoaded (slots : SessionSlots) : SessionSlots :=
  { slots with sessions := SortedMap.empty, version := SortedMap.empty }

end SessionSlots

end Swtrust
