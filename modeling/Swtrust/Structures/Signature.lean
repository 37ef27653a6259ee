import Swtrust.Core.Hierarchy
import Swtrust.Structures.Schemes

set_option autoImplicit false

namespace Swtrust

open Library

structure SignatureRsa where
  hash : UInt16
  sig : Tpm2bPublicKeyRsa
  deriving DecidableEq

namespace SignatureRsa

def marshal (signature : SignatureRsa) : Bytes := be16 signature.hash ++ signature.sig.marshal

def unmarshal [Profile] : Reader SignatureRsa := do
  let hash ← readHashAlg Rc.hash
  return ⟨hash, ← Tpm2b.unmarshal⟩

end SignatureRsa

structure SignatureEcc where
  hash : UInt16
  signatureR : Tpm2bEccParameter
  signatureS : Tpm2bEccParameter
  deriving DecidableEq

namespace SignatureEcc

def marshal (signature : SignatureEcc) : Bytes :=
  be16 signature.hash ++ signature.signatureR.marshal ++ signature.signatureS.marshal

def unmarshal [Profile] : Reader SignatureEcc := do
  let hash ← readHashAlg Rc.hash
  let signatureR ← Tpm2b.unmarshal
  return ⟨hash, signatureR, ← Tpm2b.unmarshal⟩

end SignatureEcc

inductive SignatureValue where
  | rsa (signature : SignatureRsa)
  | ecc (signature : SignatureEcc)
  | hmac (ha : TpmtHa)
  | null
  deriving DecidableEq

structure TpmtSignature where
  sigAlg : UInt16
  signature : SignatureValue
  deriving DecidableEq

namespace TpmtSignature

def null : TpmtSignature := ⟨Alg.null, .null⟩

def hashAlg (signature : TpmtSignature) : Option UInt16 :=
  match signature.signature with
  | .rsa s => some s.hash
  | .ecc s => some s.hash
  | .hmac ha => some ha.hashAlg
  | .null => none

def marshal (signature : TpmtSignature) : Bytes :=
  be16 signature.sigAlg ++
    match signature.signature with
    | .rsa s => s.marshal
    | .ecc s => s.marshal
    | .hmac ha => ha.marshal
    | .null => []

def unmarshal [Profile] : Reader TpmtSignature := do
  let sigAlg ← u16
  if sigAlg = Alg.rsassa ∨ sigAlg = Alg.rsapss then return ⟨sigAlg, .rsa (← SignatureRsa.unmarshal)⟩
  else if [Alg.ecdsa, Alg.ecdaa, Alg.sm2, Alg.ecschnorr].contains sigAlg then
    return ⟨sigAlg, .ecc (← SignatureEcc.unmarshal)⟩
  else if sigAlg = Alg.hmac then return ⟨sigAlg, .hmac (← TpmtHa.unmarshal)⟩
  else if sigAlg = Alg.null then return ⟨sigAlg, .null⟩
  else throw Rc.scheme

end TpmtSignature

structure Ticket where
  tag : UInt16
  hierarchy : UInt32
  digest : Tpm2bDigest
  deriving DecidableEq

namespace Ticket

def null (tag : UInt16) : Ticket := ⟨tag, Rh.null, Tpm2b.empty⟩

def unmarshalTagged (allowed : List UInt16) : Reader Ticket := do
  let tag ← u16
  if !allowed.contains tag then throw Rc.tag
  let hierarchy ← u32
  if !Hierarchies.isHierarchySelector hierarchy then throw Rc.value
  return ⟨tag, hierarchy, ← Tpm2b.unmarshal⟩

def marshal (ticket : Ticket) : Bytes := be16 ticket.tag ++ be32 ticket.hierarchy ++ ticket.digest.marshal

end Ticket

structure VerifiedTicket where
  tag : UInt16
  hierarchy : UInt32
  digestAlg : Option UInt16
  hmac : Tpm2bDigest
  deriving DecidableEq

namespace VerifiedTicket

def marshal (ticket : VerifiedTicket) : Bytes :=
  be16 ticket.tag ++ be32 ticket.hierarchy ++ (ticket.digestAlg.map be16).getD [] ++ ticket.hmac.marshal

def unmarshal [Profile] : Reader VerifiedTicket := do
  let tag ← u16
  let hierarchy ← u32
  if !Hierarchies.isHierarchySelector hierarchy then throw Rc.value
  let digestAlg ←
    if tag = St.verified ∨ tag = St.messageVerified then pure none
    else if tag = St.digestVerified then some <$> readHashAlg Rc.hash
    else throw Rc.tag
  return ⟨tag, hierarchy, digestAlg, ← Tpm2b.unmarshal⟩

end VerifiedTicket

end Swtrust
