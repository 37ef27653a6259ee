import Swtrust.Crypto

set_option autoImplicit false

namespace Swtrust

open Library

structure SeededRng where
  hashAlg : UInt16
  seed : Bytes
  label : Bytes
  context : Bytes
  block : UInt64 := 0
  buffer : Bytes := []
  offset : Nat := 0
  deriving DecidableEq

section

variable [Crypto]

namespace SeededRng

def new (hashAlg : UInt16) (seed label context : Bytes) : SeededRng :=
  { hashAlg, seed, label := if label.contains 0 then [] else label, context }

def reset (rng : SeededRng) : SeededRng := { rng with block := 0, buffer := [], offset := 0 }

-- The octets a block of the stream is derived from: the context, and then the index of the block.
def contextV (context : Bytes) (block : UInt64) : Bytes := context ++ be64 block

def refill : Action TpmRc SeededRng Unit := do
  let rng ← get
  let blockSize ← Hash.digestSize rng.hashAlg
  let buffer ←
    kdfa rng.hashAlg rng.seed rng.label [] (contextV rng.context rng.block) (UInt32.ofNat (blockSize * 8))
  set { rng with buffer, offset := 0 }
  if rng.block = 0xFFFFFFFFFFFFFFFF then throw Rc.failure
  modify fun rng => { rng with block := rng.block + 1 }

-- Every turn of the loop hands out at least one octet, so `count` turns are enough.
def fill : Nat → Nat → Action TpmRc SeededRng Bytes
  | 0, _ => return []
  | turns + 1, count => do
    if count = 0 then return []
    if (← get).buffer.length ≤ (← get).offset then refill
    let rng ← get
    let head := (rng.buffer.drop rng.offset).take count
    set { rng with offset := rng.offset + head.length }
    return head ++ (← fill turns (count - head.length))

def bytes (count : Nat) : Action TpmRc SeededRng Bytes := fill count count

end SeededRng

end

end Swtrust
