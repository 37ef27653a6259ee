import Swtrust.Crypto.Ecc

set_option autoImplicit false

namespace Swtrust.Fips

open Library Rsa

section

variable [Primitives]

def pairwiseDigest : TpmResult Bytes := Hash.digest Alg.sha256 (ascii "pair-wise consistency test")

def repeatTo (pattern : Bytes) (count : Nat) : Bytes :=
  (List.range count).map fun i => pattern.getD (i % pattern.length) 0

def fixedRng (pattern : Bytes) (count : Nat) : Action TpmRc Unit Bytes :=
  if pattern.isEmpty then throw Rc.failure else return repeatTo pattern count

def pairwiseRsa (key : RsaPrivate) (sign decrypt : Bool) : TpmResult Unit := do
  let digest ← pairwiseDigest
  if sign then
    let encoded ← pkcs1v15SignEncode Alg.sha256 digest key.area.size
    let signature ← privateOp key encoded
    let recovered ← publicOp key.area signature
    if recovered ≠ encoded then throw Rc.failure
  if decrypt ∨ !sign then
    let message ← (oaepEncode (fixedRng digest) Alg.sha256 key.area.size digest [0]).eval ()
    let cipher ← publicOp key.area message
    if cipher = message then throw Rc.failure
    let back ← privateOp key cipher
    if back ≠ message then throw Rc.failure

def pairwiseEcc (curveId : UInt16) (key : Ecc.EccKey) (sign : Bool) : TpmResult Unit := do
  let scalar := key.private'
  let (x, y) ← Ecc.coordinates curveId (Ecc.multiplyGenerator curveId (beNat scalar))
  if x ≠ key.publicX ∨ y ≠ key.publicY then throw Rc.failure
  if sign then
    let digest ← pairwiseDigest
    let seed ← hmac Alg.sha256 scalar (ascii "pair-wise consistency test")
    let own ← Drbg.instantiate (seed ++ seed) [] (ascii "pct")
    let (signature, _) ← Drbg.run (Ecc.ecdsaSign Drbg.bytes curveId scalar digest) own
    (Ecc.ecdsaVerify curveId key.publicX key.publicY digest signature).mapError fun _ => Rc.failure

end

end Swtrust.Fips
