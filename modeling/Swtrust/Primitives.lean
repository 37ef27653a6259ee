import Swtrust.Crypto

set_option autoImplicit false

-- Group arithmetic, primality testing and the AES block modes come from a library outside the repository.
-- `none` is the point at infinity. The outcomes of the self tests are fixed by these and by the file the program
-- runs from: the name of the test that failed, and the digest of the file.

namespace Swtrust

open Library

abbrev Point := Option (Nat × Nat)

class Primitives extends Crypto where
  eccField : (curve : UInt16) → Nat × Nat × Nat
  eccOrder : (curve : UInt16) → Nat
  eccGenerator : (curve : UInt16) → Nat × Nat
  eccIsOnCurve : (curve : UInt16) → (x y : Nat) → Bool
  eccMultiply : (curve : UInt16) → (point : Point) → (scalar : Nat) → Point
  eccAdd : (curve : UInt16) → (a b : Point) → Point
  isProbablyPrime : Nat → Bool
  aesCrypt : (mode : UInt16) → (encrypting : Bool) → (key iv data : Bytes) → Bytes × Bytes
  aesCrypt_length : ∀ (mode : UInt16) (encrypting : Bool) (key iv data : Bytes),
    (aesCrypt mode encrypting key iv data).1.length = data.length
  knownAnswerTests : Except String Unit
  integrityTest : Except String Bytes

end Swtrust
