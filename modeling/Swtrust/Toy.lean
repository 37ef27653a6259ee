import Swtrust.Commands.Execute

set_option autoImplicit false

-- A concrete instance of what lies outside the repository, small enough to evaluate: a polynomial for every hash,
-- the identity for the block modes, and no curve.

namespace Swtrust.Toy

open Library

def polynomial (size : Nat) (data : Bytes) : Bytes :=
  beBytes size (data.foldl (fun total octet => (total * 257 + octet.toNat + 1) % 256 ^ size) 1)

def widthOf (hashAlg : UInt16) : Nat :=
  if hashAlg = Alg.sha1 then 20
  else if hashAlg = Alg.sha256 ∨ hashAlg = Alg.sha3_256 then 32
  else if hashAlg = Alg.sha384 ∨ hashAlg = Alg.sha3_384 then 48
  else 64

scoped instance : Profile := ⟨false⟩

theorem width_of_digest_size (hashAlg : UInt16) (size : Nat) (sized : Hash.digestSize hashAlg = .ok size) :
    widthOf hashAlg = size := by
  simp only [Hash.digestSize] at sized
  split at sized
  · cases sized
  · simp only [widthOf]
    repeat' split at sized
    all_goals try cases sized
    all_goals simp_all

theorem polynomial_length (hashAlg : UInt16) (data : Bytes) (size : Nat) (sized : Hash.digestSize hashAlg = .ok size) :
    (polynomial (widthOf hashAlg) data).length = size := by
  rw [polynomial, be_bytes_length, width_of_digest_size hashAlg size sized]

theorem copied_length (_ : UInt16) (_ : Bool) (_ iv data : Bytes) : (data, iv).1.length = data.length := rfl

scoped instance : Primitives where
  toProfile := inferInstance
  hash hashAlg data := polynomial (widthOf hashAlg) data
  hash_length := polynomial_length
  eccField _ := (0, 0, 0)
  eccOrder _ := 0
  eccGenerator _ := (0, 0)
  eccIsOnCurve _ _ _ := false
  eccMultiply _ _ _ := none
  eccAdd _ _ _ := none
  isProbablyPrime _ := false
  aesCrypt _ _ _ iv data := (data, iv)
  aesCrypt_length := copied_length
  knownAnswerTests := .ok ()
  integrityTest := .ok []

def plainCommand (code : UInt32) (handles : List UInt32) (parameters : Bytes) : Bytes :=
  let body := handles.flatMap be32 ++ parameters
  be16 St.noSessions ++ be32 (UInt32.ofNat (headerSize + body.length)) ++ be32 code ++ body

-- A command whose sessions carry no nonce, the attribute continueSession and the given HMAC.
def authorizedCommand (code : UInt32) (handles : List UInt32) (sessions : List (UInt32 × Bytes))
    (parameters : Bytes) : Bytes :=
  let area := sessions.flatMap fun session =>
    be32 session.1 ++ sized16 [] ++ [SessionAttributes.continueSession] ++ sized16 session.2
  let body := handles.flatMap be32 ++ be32 (UInt32.ofNat area.length) ++ area ++ parameters
  be16 St.sessions ++ be32 (UInt32.ofNat (headerSize + body.length)) ++ be32 code ++ body

def requestOf (command : Bytes) : Request :=
  (parse command 0).toOption.getD ⟨⟨0, 0, 0, false, false, false, false⟩, 0, 0, [], [], [], 0⟩

def sealedArea (authPolicy : Bytes) : TpmtPublic where
  objectType := Alg.keyedhash
  nameAlg := Alg.sha256
  objectAttributes := ⟨ObjectAttributes.userWithAuth⟩
  authPolicy := (Tpm2b.new authPolicy : TpmResult Tpm2bDigest).toOption.getD Tpm2b.empty
  parameters := .keyedHash Scheme.null
  unique := .keyedHash Tpm2b.empty

def afterCommands (commands : List Bytes) (s : TpmState) : TpmState :=
  commands.foldl (fun s command => (TpmState.run 0 command s).2) s

def blank : TpmState where
  hierarchies := ⟨Hierarchy.blank, Hierarchy.blank, Hierarchy.blank, Hierarchy.blank, true, [], []⟩
  permanent := ⟨0⟩
  clock := {}
  pcrAllocation := []
  pcr := ⟨SortedMap.empty, SortedMap.empty, 0⟩
  rng := ⟨[], [], 0⟩

def manufacturedState : TpmState where
  hierarchies :=
    let drawn (seed proof : Nat) : Hierarchy := { Hierarchy.blank with seed := beBytes 32 seed, proof := beBytes 32 proof }
    { platform := drawn 0xb2b6b77719ea834794acaebabeb6dc8bdae0fe422df9dbeb9af38d99a784a4aa
        0x0a59e83014a72617cff744e4a5fb495324809a0183ef66f9673b8e8a2e00290f
      owner := drawn 0xdc3061eab6d79636d19e752a9340b5261190d64cab131bfe63824927d651774c
        0x50763b396953ffe2e832ada170253afd0336136bb059b427957d78c064f1bee1
      endorsement := drawn 0x4b16eee82a33479d6450842a3665d22a275c02edc59dba36a2e80c635e945f14
        0x932eaa0dbf77b66f40c9f7e938228cb4b834d6835d2d14ee22b8476152f856ae
      null := drawn 0x3f70831af9fce5ac1a3e8e76329efda437150c56505b6e9ed0e9aee7ca33fb58
        0x3c1046927b5a17eff18d6758bd3610ffae8b4118f27653e238104f934e24307a
      platformNvEnabled := true
      bootloaderSecret := beBytes 32 0xc090cd01f9803017e2a84c2cc28c3cea316280b633d78d92511eae62aa2fbd71
      firmwareCode := [] }
  rng :=
    { key := beBytes 32 0x57b8e7bbb3d3539e6478255821cb999713ecca4e4490598d688c950edc8f6188
      value := beBytes 32 0xb82711a246e951d1ec3d8dedc022a775465ad334fee3da529d78770a26e06c0e
      reseedCounter := 10 }
  permanent := ⟨PermanentAttributes.tpmGeneratedEps⟩
  clock := { safe := true }
  pcrAllocation := PcrBanks.wholeBanks Config.defaultPcrBanks
  pcr := (PcrBanks.new (PcrBanks.wholeBanks Config.defaultPcrBanks)).toOption.getD ⟨SortedMap.empty, SortedMap.empty, 0⟩

-- The generator runs here once: whatever is evaluated from this state on starts from the octets it gave.
theorem manufacture_made : TpmState.manufacture (List.replicate 48 7) = .ok manufacturedState := by
  have draws : (Drbg.instantiate (List.replicate 48 7) [] (ascii "swtrust") >>= Hierarchies.new) =
      .ok (manufacturedState.hierarchies, manufacturedState.rng) := by decide +kernel
  have banks : PcrBanks.new (PcrBanks.wholeBanks Config.defaultPcrBanks) = .ok manufacturedState.pcr := by decide +kernel
  obtain ⟨rng, instantiated, hierarchies⟩ := (bind_is_ok _ _ _).mp draws
  unfold TpmState.manufacture
  rw [instantiated]
  simp only [bind, Except.bind, hierarchies, banks]
  rfl

-- A TPM fresh from manufacture, after TPM2_Startup(CLEAR).
def booted : TpmState :=
  match TpmState.manufacture (List.replicate 48 7) with
  | .ok s => afterCommands [plainCommand Cc.startup [] (be16 Su.clear)] s
  | .error _ => blank

theorem booted_made : booted = afterCommands [plainCommand Cc.startup [] (be16 Su.clear)] manufacturedState := by
  unfold booted
  rw [manufacture_made]

-- The handle of the first session of a policy or a trial.
def policyHandle : UInt32 := 0x03000000

def startSession (sessionType : UInt8) : Bytes :=
  plainCommand Cc.startAuthSession [Rh.null, Rh.null]
    (sized16 (List.replicate 16 1) ++ sized16 [] ++ [sessionType] ++ be16 Alg.null ++ be16 Alg.sha256)

end Swtrust.Toy
