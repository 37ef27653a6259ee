import Swtrust.Crypto.Rsa

set_option autoImplicit false

namespace Swtrust.Ecc

open Library Rsa

def curveBits (curveId : UInt16) : TpmResult Nat :=
  if curveId = Curve.nistP224 then .ok 224
  else if curveId = Curve.nistP256 then .ok 256
  else if curveId = Curve.nistP384 then .ok 384
  else if curveId = Curve.nistP521 then .ok 521
  else .error Rc.curve

def coordinateSize (curveId : UInt16) : TpmResult Nat := do return ((← curveBits curveId) + 7) / 8

structure EccKey where
  private' : Bytes
  publicX : Bytes
  publicY : Bytes
  deriving DecidableEq

structure EccSignature where
  r : Bytes
  s : Bytes
  deriving DecidableEq

section

variable [Primitives]

def fromCoordinates (curveId : UInt16) (x y : Bytes) : TpmResult Point := do
  let _ ← curveBits curveId
  if Primitives.eccIsOnCurve curveId (beNat x) (beNat y) then return some (beNat x, beNat y)
  throw Rc.eccPoint

def coordinates (curveId : UInt16) (point : Point) : TpmResult (Bytes × Bytes) := do
  match point with
  | none => throw Rc.noResult
  | some (x, y) =>
    let size ← coordinateSize curveId
    return (← toBytesPadded x size, ← toBytesPadded y size)

def multiplyGenerator (curveId : UInt16) (scalar : Nat) : Point :=
  Primitives.eccMultiply curveId (some (Primitives.eccGenerator curveId)) scalar

def ecdh (curveId : UInt16) (scalar : Nat) (peerX peerY : Bytes) : TpmResult (Bytes × Bytes) := do
  let peer ← fromCoordinates curveId peerX peerY
  coordinates curveId (Primitives.eccMultiply curveId peer scalar)

def digestToScalar (curveId : UInt16) (digest : Bytes) : Nat :=
  let keepBits := min (Primitives.eccOrder curveId).size (digest.length * 8)
  let count := (keepBits + 7) / 8
  beNat (digest.take count) / 2 ^ (count * 8 - keepBits)

section

-- `fill` is the generator the source takes as `&mut dyn Rng`.

variable {σ : Type} (fill : Nat → Action TpmRc σ Bytes)

def maskTop (spare : Nat) (octets : Bytes) : Bytes :=
  if spare = 0 then octets else octets.modify 0 (· &&& ((0xff : UInt8) >>> UInt8.ofNat spare))

def privateKeyFrom (curveId : UInt16) (size : Nat) : Nat → Action TpmRc σ Nat
  | 0 => throw Rc.noResult
  | turns + 1 => do
    let order := Primitives.eccOrder curveId
    let octets ← fill size
    let candidate := beNat (maskTop (size * 8 - order.size) octets)
    if candidate = 0 ∨ order ≤ candidate then privateKeyFrom curveId size turns else return candidate

def privateKeyFromRng (curveId : UInt16) : Action TpmRc σ Nat := do
  privateKeyFrom fill curveId (← coordinateSize curveId) 1000

def privateKeyExtraBits (curveId : UInt16) : Action TpmRc σ Nat := do
  let order := Primitives.eccOrder curveId
  let wanted := order.size + 64
  let octets ← fill ((wanted + 7) / 8)
  let candidate := beNat (maskTop (octets.length * 8 - wanted) octets)
  return candidate % (order - 1) + 1

def keyFromPrivate (curveId : UInt16) (scalar : Nat) : TpmResult EccKey := do
  let (publicX, publicY) ← coordinates curveId (multiplyGenerator curveId scalar)
  return ⟨← toBytesPadded scalar (← coordinateSize curveId), publicX, publicY⟩

-- `pairwise_generated_ecc` multiplies the generator once more and compares; group arithmetic is a function here.
def generate (curveId : UInt16) : Action TpmRc σ EccKey := do
  let _ ← curveBits curveId
  let scalar ← privateKeyFromRng fill curveId
  keyFromPrivate curveId scalar

def ecdsaTurn (curveId : UInt16) (scalar e size : Nat) : Nat → Action TpmRc σ EccSignature
  | 0 => throw Rc.noResult
  | turns + 1 => do
    let order := Primitives.eccOrder curveId
    let k ← privateKeyFromRng fill curveId
    match multiplyGenerator curveId k with
    | none => ecdsaTurn curveId scalar e size turns
    | some (x, _) =>
      let r := x % order
      if r = 0 then ecdsaTurn curveId scalar e size turns
      else
        let inverse ← modInverse k order
        let s := inverse * ((e + r * scalar % order) % order) % order
        if s = 0 then ecdsaTurn curveId scalar e size turns
        else return ⟨← toBytesPadded r size, ← toBytesPadded s size⟩

def ecdsaSign (curveId : UInt16) (scalar digest : Bytes) : Action TpmRc σ EccSignature := do
  ecdsaTurn fill curveId (beNat scalar) (digestToScalar curveId digest) (← coordinateSize curveId) 1000

def ecschnorrTurn (curveId hashAlg : UInt16) (scalar : Nat) (digest : Bytes) (size : Nat) :
    Nat → Action TpmRc σ EccSignature
  | 0 => throw Rc.noResult
  | turns + 1 => do
    let order := Primitives.eccOrder curveId
    let k ← privateKeyFromRng fill curveId
    match multiplyGenerator curveId k with
    | none => ecschnorrTurn curveId hashAlg scalar digest size turns
    | some point =>
      let (x, _) ← coordinates curveId (some point)
      let r := beNat (← Hash.digestParts hashAlg [x, digest]) % order
      if r = 0 then ecschnorrTurn curveId hashAlg scalar digest size turns
      else
        let s := (k + r * scalar % order) % order
        if s = 0 then ecschnorrTurn curveId hashAlg scalar digest size turns
        else return ⟨← toBytesPadded r size, ← toBytesPadded s size⟩

def ecschnorrSign (curveId : UInt16) (scalar : Bytes) (hashAlg : UInt16) (digest : Bytes) :
    Action TpmRc σ EccSignature := do
  let size ← coordinateSize curveId
  let _ ← Hash.digestSize hashAlg
  ecschnorrTurn fill curveId hashAlg (beNat scalar) digest size 1000

def ecdaaTurn (curveId hashAlg : UInt16) (scalar r : Nat) (digest : Bytes) (size : Nat) :
    Nat → Action TpmRc σ EccSignature
  | 0 => throw Rc.noResult
  | turns + 1 => do
    let order := Primitives.eccOrder curveId
    let k ← privateKeyFromRng fill curveId
    let kOctets ← toBytesPadded k size
    let t := beNat (← Hash.digestParts hashAlg [kOctets, digest]) % order
    let s := (r + t * scalar % order) % order
    if s = 0 then ecdaaTurn curveId hashAlg scalar r digest size turns
    else return ⟨kOctets, ← toBytesPadded s size⟩

def ecdaaSign (curveId : UInt16) (scalar commitR : Bytes) (hashAlg : UInt16) (digest : Bytes) :
    Action TpmRc σ EccSignature := do
  let size ← coordinateSize curveId
  let r := beNat commitR % Primitives.eccOrder curveId
  if r = 0 then throw Rc.value
  ecdaaTurn fill curveId hashAlg (beNat scalar) r digest size 1000

end

def inRange (curveId : UInt16) (r s : Nat) : Bool :=
  r != 0 && s != 0 && decide (r < Primitives.eccOrder curveId) && decide (s < Primitives.eccOrder curveId)

def ecdsaVerify (curveId : UInt16) (publicX publicY digest : Bytes) (sig : EccSignature) : TpmResult Unit := do
  let _ ← curveBits curveId
  let order := Primitives.eccOrder curveId
  let r := beNat sig.r
  let s := beNat sig.s
  if !inRange curveId r s then throw Rc.signature
  let inverse ← modInverse s order
  let u1 := digestToScalar curveId digest * inverse % order
  let u2 := r * inverse % order
  let area ← fromCoordinates curveId publicX publicY
  match Primitives.eccAdd curveId (multiplyGenerator curveId u1) (Primitives.eccMultiply curveId area u2) with
  | none => throw Rc.signature
  | some (x, _) => if x % order ≠ r then throw Rc.signature

def ecschnorrVerify (curveId : UInt16) (publicX publicY : Bytes) (hashAlg : UInt16) (digest : Bytes)
    (sig : EccSignature) : TpmResult Unit := do
  let _ ← curveBits curveId
  let order := Primitives.eccOrder curveId
  let r := beNat sig.r
  let s := beNat sig.s
  if !inRange curveId r s then throw Rc.signature
  let area ← fromCoordinates curveId publicX publicY
  match Primitives.eccAdd curveId (multiplyGenerator curveId s) (Primitives.eccMultiply curveId area (order - r)) with
  | none => throw Rc.signature
  | some point =>
    let (x, _) ← coordinates curveId (some point)
    if beNat (← Hash.digestParts hashAlg [x, digest]) % order ≠ r then throw Rc.signature

end

end Swtrust.Ecc
