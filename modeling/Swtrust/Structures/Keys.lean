import Swtrust.Structures.Schemes

set_option autoImplicit false

namespace Swtrust

open Library

def isPublicType (id : UInt16) : Bool := [Alg.keyedhash, Alg.symcipher, Alg.rsa, Alg.ecc].contains id

structure Derive where
  label : Tpm2bLabel
  context : Tpm2bLabel
  deriving DecidableEq

namespace Derive

def marshal (derive : Derive) : Bytes := derive.label.marshal ++ derive.context.marshal

def unmarshal : Reader Derive := do
  let label ← Tpm2b.unmarshal
  return ⟨label, ← Tpm2b.unmarshal⟩

end Derive

inductive PublicParms where
  | keyedHash (scheme : Scheme)
  | symCipher (sym : SymDef)
  | rsa (symmetric : SymDef) (scheme : Scheme) (keyBits : UInt16) (exponent : UInt32)
  | ecc (symmetric : SymDef) (scheme : Scheme) (curveId : UInt16) (kdf : Scheme)
  deriving DecidableEq

namespace PublicParms

def scheme : PublicParms → Option Scheme
  | .keyedHash scheme => some scheme
  | .symCipher _ => none
  | .rsa _ scheme _ _ => some scheme
  | .ecc _ scheme _ _ => some scheme

def symmetric : PublicParms → Option SymDef
  | .keyedHash _ => none
  | .symCipher sym => some sym
  | .rsa symmetric _ _ _ => some symmetric
  | .ecc symmetric _ _ _ => some symmetric

def unmarshalWith [Profile] (selector : UInt16) : Reader PublicParms := do
  if selector = Alg.keyedhash then return .keyedHash (← Scheme.unmarshalKeyedhash)
  else if selector = Alg.symcipher then return .symCipher (← SymDef.unmarshalSymDefObject)
  else if selector = Alg.rsa then
    let symmetric ← SymDef.unmarshalSymDefObject
    let scheme ← Scheme.unmarshalRsaScheme
    let keyBits ← u16
    if !Config.implementedRsaKeyBits.contains keyBits then throw Rc.value
    let exponent ← u32
    if exponent ≠ 0 ∧ (exponent ≤ 2 ∨ exponent % 2 = 0) then throw Rc.value
    return .rsa symmetric scheme keyBits exponent
  else if selector = Alg.ecc then
    let symmetric ← SymDef.unmarshalSymDefObject
    let scheme ← Scheme.unmarshalEccScheme
    let curveId ← u16
    if !Config.implementedCurves.contains curveId then throw Rc.curve
    return .ecc symmetric scheme curveId (← Scheme.unmarshalKdf)
  else throw Rc.type

def marshal : PublicParms → Bytes
  | .keyedHash scheme => scheme.marshal
  | .symCipher sym => sym.marshal
  | .rsa symmetric scheme keyBits exponent =>
      symmetric.marshal ++ scheme.marshal ++ be16 keyBits ++ be32 exponent
  | .ecc symmetric scheme curveId kdf => symmetric.marshal ++ scheme.marshal ++ be16 curveId ++ kdf.marshal

end PublicParms

inductive PublicId where
  | keyedHash (digest : Tpm2bDigest)
  | sym (digest : Tpm2bDigest)
  | rsa (modulus : Tpm2bPublicKeyRsa)
  | ecc (point : EccPoint)
  | derive (inner : Derive)
  deriving DecidableEq

namespace PublicId

def unmarshalWith (selector : UInt16) : Reader PublicId := do
  if selector = Alg.keyedhash then return .keyedHash (← Tpm2b.unmarshal)
  else if selector = Alg.symcipher then return .sym (← Tpm2b.unmarshal)
  else if selector = Alg.rsa then return .rsa (← Tpm2b.unmarshal)
  else if selector = Alg.ecc then return .ecc (← EccPoint.unmarshal)
  else throw Rc.type

def marshal : PublicId → Bytes
  | .keyedHash digest | .sym digest => digest.marshal
  | .rsa modulus => modulus.marshal
  | .ecc point => point.marshal
  | .derive inner => inner.marshal

end PublicId

structure TpmtPublic where
  objectType : UInt16
  nameAlg : UInt16
  objectAttributes : ObjectAttributes
  authPolicy : Tpm2bDigest
  parameters : PublicParms
  unique : PublicId
  deriving DecidableEq

namespace TpmtPublic

def unmarshalWith [Profile] (allowDerive : Bool) : Reader TpmtPublic := do
  let objectType ← u16
  if !isPublicType objectType then throw Rc.type
  let nameAlg ← u16
  if nameAlg ≠ Alg.null ∧ (digestSize nameAlg).isNone then throw Rc.hash
  let objectAttributes ← Flags32.unmarshal
  let authPolicy ← Tpm2b.unmarshal
  let parameters ← PublicParms.unmarshalWith objectType
  let unique ← if allowDerive then PublicId.derive <$> Derive.unmarshal else PublicId.unmarshalWith objectType
  return { objectType, nameAlg, objectAttributes, authPolicy, parameters, unique }

def unmarshal [Profile] : Reader TpmtPublic := unmarshalWith false

def scheme (area : TpmtPublic) : Option Scheme := area.parameters.scheme

def isParent (area : TpmtPublic) : Bool :=
  area.objectAttributes.has (ObjectAttributes.restricted ||| ObjectAttributes.decrypt)

def marshal (area : TpmtPublic) : Bytes :=
  be16 area.objectType ++ be16 area.nameAlg ++ area.objectAttributes.marshal ++
    area.authPolicy.marshal ++ area.parameters.marshal ++ area.unique.marshal

def unmarshalSized [Profile] : Reader TpmtPublic := Reader.sized16 unmarshal

def marshalSized (area : TpmtPublic) : Bytes := sized16 area.marshal

end TpmtPublic

inductive SensitiveComposite where
  | rsa (value : Tpm2bPrivateKeyRsa)
  | ecc (value : Tpm2bEccParameter)
  | bits (value : Tpm2bSensitiveData)
  | sym (value : Tpm2bSymKey)
  deriving DecidableEq

namespace SensitiveComposite

def selector : SensitiveComposite → UInt16
  | .rsa _ => Alg.rsa
  | .ecc _ => Alg.ecc
  | .bits _ => Alg.keyedhash
  | .sym _ => Alg.symcipher

def asSlice : SensitiveComposite → Bytes
  | .rsa value => value.buffer
  | .ecc value => value.buffer
  | .bits value => value.buffer
  | .sym value => value.buffer

def unmarshalWith (selector : UInt16) : Reader SensitiveComposite := do
  if selector = Alg.rsa then return .rsa (← Tpm2b.unmarshal)
  else if selector = Alg.ecc then return .ecc (← Tpm2b.unmarshal)
  else if selector = Alg.keyedhash then return .bits (← Tpm2b.unmarshal)
  else if selector = Alg.symcipher then return .sym (← Tpm2b.unmarshal)
  else throw Rc.type

def marshal : SensitiveComposite → Bytes
  | .rsa value => value.marshal
  | .ecc value => value.marshal
  | .bits value => value.marshal
  | .sym value => value.marshal

end SensitiveComposite

structure TpmtSensitive where
  sensitiveType : UInt16
  authValue : Tpm2bDigest
  seedValue : Tpm2bDigest
  sensitive : SensitiveComposite
  deriving DecidableEq

namespace TpmtSensitive

def marshal (sensitive : TpmtSensitive) : Bytes :=
  be16 sensitive.sensitiveType ++ sensitive.authValue.marshal ++ sensitive.seedValue.marshal ++
    sensitive.sensitive.marshal

def unmarshal : Reader TpmtSensitive := do
  let sensitiveType ← u16
  if !isPublicType sensitiveType then throw Rc.type
  let authValue ← Tpm2b.unmarshal
  let seedValue ← Tpm2b.unmarshal
  let sensitive ← SensitiveComposite.unmarshalWith sensitiveType
  return { sensitiveType, authValue, seedValue, sensitive }

def marshalSized (sensitive : TpmtSensitive) : Bytes := sized16 sensitive.marshal

def unmarshalSized : Reader TpmtSensitive := Reader.sized16 unmarshal

end TpmtSensitive

structure SensitiveCreate where
  userAuth : Tpm2bDigest
  data : Tpm2bSensitiveData
  deriving DecidableEq

def SensitiveCreate.unmarshal : Reader SensitiveCreate := do
  let userAuth ← Tpm2b.unmarshal
  return ⟨userAuth, ← Tpm2b.unmarshal⟩

def SensitiveCreate.unmarshalSized : Reader SensitiveCreate := Reader.sized16 unmarshal

end Swtrust
