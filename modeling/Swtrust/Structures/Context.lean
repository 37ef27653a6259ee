import Swtrust.Structures.Base

set_option autoImplicit false

namespace Swtrust

open Library

namespace Saved

def transientObject : UInt32 := 0x80000000
def sequenceObject : UInt32 := 0x80000001
def transientStclear : UInt32 := 0x80000002

end Saved

structure ContextData where
  integrity : Tpm2bDigest
  encrypted : Tpm2bContextSensitive
  deriving DecidableEq

namespace ContextData

def marshal (data : ContextData) : Bytes := data.integrity.marshal ++ data.encrypted.marshal

def unmarshal : Reader ContextData := do
  let integrity ← Tpm2b.unmarshal
  return ⟨integrity, ← Tpm2b.unmarshal⟩

end ContextData

structure Context where
  sequence : UInt64
  savedHandle : UInt32
  hierarchy : UInt32
  contextBlob : Tpm2bContextData
  deriving DecidableEq

namespace Context

def marshal (context : Context) : Bytes :=
  be64 context.sequence ++ be32 context.savedHandle ++ be32 context.hierarchy ++ context.contextBlob.marshal

def unmarshal : Reader Context := do
  let sequence ← u64
  let savedHandle ← u32
  let hierarchy ← u32
  return { sequence, savedHandle, hierarchy, contextBlob := ← Tpm2b.unmarshal }

end Context

end Swtrust
