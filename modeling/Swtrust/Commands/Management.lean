import Swtrust.Commands.Hierarchy

set_option autoImplicit false

namespace Swtrust

open Library

structure TestScope where
  failureMode : Bool
  selfTestDone : Bool
  testDigest : Bytes
  testFailure : Option String
  deriving DecidableEq

def TpmState.zoomTest {α : Type} : Action TpmRc TestScope α → TpmM α :=
  Action.zoom (fun s => ⟨s.failureMode, s.selfTestDone, s.testDigest, s.testFailure⟩) fun t s =>
    { s with failureMode := t.failureMode, selfTestDone := t.selfTestDone, testDigest := t.testDigest
             testFailure := t.testFailure }

def clockStep (adjust : UInt8) : TpmResult Int :=
  match adjust.toNat with
  | 253 => .ok (-10)
  | 254 => .ok (-5)
  | 255 => .ok (-1)
  | 0 => .ok 0
  | 1 => .ok 1
  | 2 => .ok 5
  | 3 => .ok 10
  | _ => .error (Rc.value.withParameter 1)

def minimalBytes (value : Nat) : Bytes := beBytes ((value.size + 7) / 8) value

def testedAlgorithms [Profile] : List UInt16 :=
  ([Alg.sha1, Alg.sha256, Alg.sha384, Alg.sha512, Alg.sha3_256, Alg.sha3_384, Alg.sha3_512, Alg.hmac, Alg.aes, Alg.cfb,
    Alg.kdf1Sp800_108, Alg.kdf1Sp800_56a, Alg.rsa, Alg.rsassa, Alg.ecc, Alg.ecdsa, Alg.ecdh] : List UInt16).filter
    fun a => a != Alg.sha1 || Hash.isSupported Alg.sha1

section

variable [Primitives]

def startup (request : Request) : TpmM Response := do
  let startupType ← request.params (Reader.withParameter 1 u16)
  if request.locality ≠ 0 ∧ request.locality ≠ 3 then throw Rc.locality
  if startupType = Su.clear then TpmState.onStartupClear request.locality
  else if startupType = Su.state then
    if (← get).shutdownType ≠ Su.state then throw (Rc.value.withParameter 1)
    TpmState.onStartupState request.locality
  else throw (Rc.value.withParameter 1)
  return .empty

def shutdown (request : Request) : TpmM Response := do
  let shutdownType ← request.params (Reader.withParameter 1 u16)
  if shutdownType = Su.state ∧ (← get).pcrAllocationPending then throw (Rc.value.withParameter 1)
  if shutdownType ≠ Su.clear ∧ shutdownType ≠ Su.state then throw (Rc.value.withParameter 1)
  modify fun s => { s with
    shutdownType
    act := if shutdownType = Su.state then s.act.onShutdownState else s.act
    startupClear := s.startupClear.withMask StartupClearAttributes.orderly }
  return .empty

def failTest {α : Type} (which : String) : Action TpmRc TestScope α := do
  modify fun t => { t with failureMode := true, selfTestDone := false, testFailure := some which }
  throw Rc.failure

def runSelfTests : Action TpmRc TestScope Unit := do
  match Primitives.knownAnswerTests with
  | .error which => failTest which
  | .ok () => pure ()
  match Primitives.integrityTest with
  | .error which => failTest which
  | .ok digest => modify fun t => { t with testDigest := digest }
  modify fun t => { t with selfTestDone := true, testFailure := none }

section

variable (s : TpmState) (request : Request)

def setCapability : TpmResult Response := do
  let body ← request.params (Reader.withParameter 1 readSized)
  let _ ← (Reader.withParameter 1 u32).run body
  throw (Rc.value.withParameter 1)

def selfTest : Action TpmRc TestScope Response := do
  let fullTest ← request.params (Reader.withParameter 1 u8)
  if 1 < fullTest then throw (Rc.value.withParameter 1)
  if fullTest = 0 ∧ (← get).selfTestDone then return .empty
  runSelfTests
  return .empty

def incrementalSelfTest : Action TpmRc TestScope Response := do
  let toTest ← request.params (Reader.withParameter 1 (unmarshalList u16 (capListMax 2)))
  if !(toTest.all fun a => implementedAlgorithms.contains a) then throw (Rc.value.withParameter 1)
  if !(← get).selfTestDone then runSelfTests
  let remaining := implementedAlgorithms.filter fun a => !testedAlgorithms.contains a
  return .of (marshalList be16 remaining)

def getTestResult : TpmResult Response := do
  let data : Tpm2bDigest ← Tpm2b.new (((s.testFailure.map fun which => which.toUTF8.toList)).getD s.testDigest)
  return .notReading request (data.marshal ++ be32 (if s.failureMode then Rc.failure.value else Rc.success.value))

def getRandom : Action TpmRc Drbg Response := do
  let requested ← request.params (Reader.withParameter 1 u16)
  let octets ← Drbg.bytes (min requested.toNat Config.maxDigestSize)
  let octets ← (Tpm2b.new octets : TpmResult Tpm2bDigest)
  return .of octets.marshal

def stirRandom : Action TpmRc Drbg Response := do
  let data : Tpm2bSensitiveData ← request.params (Reader.withParameter 1 Tpm2b.unmarshal)
  if Config.maxRngEntropySize < data.buffer.length then throw (Rc.size.withParameter 1)
  set (← (← get).stir data.buffer)
  return .empty

def readClock : TpmResult Response :=
  .ok (.notReading request (be64 s.clock.time ++ s.clockInfo.marshal))

def clockSet : Action TpmRc ClockState Response := do
  let newTime ← request.params (Reader.withParameter 1 u64)
  let clock ← get
  if newTime < clock.clock ∨ Config.maxClock < newTime then throw (Rc.value.withParameter 1)
  let nvElapsed := satAdd clock.nvElapsed (newTime - clock.clock)
  let clock := { clock with clock := newTime, nvElapsed }
  set (if Config.nvClockUpdateInterval ≤ nvElapsed then { clock with nvElapsed := 0, safe := true } else clock)
  return .empty

def clockRateAdjust : Action TpmRc ClockState Response := do
  let adjust ← request.params (Reader.withParameter 1 u8)
  let step ← clockStep adjust
  let adjusted := (← get).rateAdjust + step
  if adjusted < -100 ∨ 100 < adjusted then throw (Rc.value.withParameter 1)
  modify fun clock => { clock with rateAdjust := adjusted }
  return .empty

def testParms : TpmResult Response := do
  let parms ← request.params (Reader.withParameter 1 do PublicParms.unmarshalWith (← u16))
  match parms with
  | .ecc _ _ curveId kdf => if !kdf.isNull ∧ !Dhkem.isKemSuite curveId kdf then throw (Rc.kdf.withParameter 1)
  | _ => pure ()
  return .empty

def eccParameterOctets (value : Bytes) : TpmResult Bytes := do
  let value : Tpm2bEccParameter ← Tpm2b.new value
  return value.marshal

def eccParameters : TpmResult Response := do
  let curveId ← request.params (Reader.withParameter 1 u16)
  let bits ← (Ecc.curveBits curveId).mapError fun _ => Rc.curve.withParameter 1
  let (p, a, b) := Primitives.eccField curveId
  let (gx, gy) ← Ecc.coordinates curveId (some (Primitives.eccGenerator curveId))
  return .of (be16 curveId ++ be16 (UInt16.ofNat bits) ++ be16 Alg.null ++ be16 Alg.null ++
    (← eccParameterOctets (minimalBytes p)) ++ (← eccParameterOctets (minimalBytes a)) ++
    (← eccParameterOctets (minimalBytes b)) ++ (← eccParameterOctets gx) ++ (← eccParameterOctets gy) ++
    (← eccParameterOctets (minimalBytes (Primitives.eccOrder curveId))) ++ (← eccParameterOctets [1]))

def getCapability : TpmResult Response := do
  let (capability, property, count) ← request.params do
    let capability ← Reader.withParameter 1 u32
    let property ← Reader.withParameter 2 u32
    return (capability, property, ← Reader.withParameter 3 u32)
  let (more, data) ← s.buildCapability capability property count.toNat
  return .of (beBool more ++ be32 data.selector ++ data.marshal)

def vendorTcgTest : TpmResult Response := do
  let data : Tpm2bData ← request.params (Reader.withParameter 1 Tpm2b.unmarshal)
  return .of data.marshal

end

end

end Swtrust
