import Swtrust.Primitives

set_option autoImplicit false

namespace Swtrust

open Library

namespace Sym

def aesBlockSize : Nat := 16

def blockSize (algorithm : UInt16) : TpmResult Nat :=
  if algorithm = Alg.aes then .ok aesBlockSize else .error Rc.symmetric

def isSupportedMode (mode : UInt16) : Bool :=
  ([Alg.ctr, Alg.ofb, Alg.cbc, Alg.cfb, Alg.ecb] : List UInt16).contains mode

section

variable [Primitives]

-- The second component is the IV the cipher leaves behind.
def crypt (algorithm mode : UInt16) (key iv data : Bytes) (encrypting : Bool) : TpmResult (Bytes × Bytes) := do
  if algorithm ≠ Alg.aes then throw Rc.symmetric
  if !isSupportedMode mode then throw Rc.mode
  if mode = Alg.ecb then
    if !iv.isEmpty then throw Rc.size
  else if iv.length ≠ aesBlockSize then throw Rc.size
  if (mode = Alg.cbc ∨ mode = Alg.ecb) ∧ data.length % aesBlockSize ≠ 0 then throw Rc.size
  if !([16, 24, 32] : List Nat).contains key.length then throw Rc.keySize
  if data.isEmpty then return ([], iv)
  return Primitives.aesCrypt mode encrypting key iv data

def cfbEncrypt (key iv data : Bytes) : TpmResult Bytes := Prod.fst <$> crypt Alg.aes Alg.cfb key iv data true

def cfbDecrypt (key iv data : Bytes) : TpmResult Bytes := Prod.fst <$> crypt Alg.aes Alg.cfb key iv data false

def xorWith (mask : Bytes) (data : Bytes) : Bytes :=
  List.zipWith (· ^^^ ·) data mask ++ data.drop mask.length

def xorObfuscate (hashAlg : UInt16) (key nonceNewer nonceOlder data : Bytes) : TpmResult Bytes := do
  let mask ← kdfa hashAlg key (ascii "XOR") nonceNewer nonceOlder (UInt32.ofNat (data.length * 8))
  return xorWith mask data

end

end Sym

end Swtrust
