import Swtrust.Crypto

set_option autoImplicit false

namespace Swtrust

open Library

structure Hierarchy where
  seed : Bytes
  proof : Bytes
  auth : Bytes
  policy : TpmtHa
  enabled : Bool
  deriving DecidableEq

structure Hierarchies where
  platform : Hierarchy
  owner : Hierarchy
  endorsement : Hierarchy
  null : Hierarchy
  platformNvEnabled : Bool
  bootloaderSecret : Bytes
  firmwareCode : Bytes
  deriving DecidableEq

namespace Hierarchy

variable [Crypto]

def blank : Hierarchy := { seed := [], proof := [], auth := [], policy := TpmtHa.null, enabled := true }

def rngBytes {σ : Type} (count : Nat) : Action TpmRc (σ × Drbg) Bytes :=
  Action.zoom Prod.snd (fun rng s => (s.1, rng)) (Drbg.bytes count)

def regenerateProof : Action TpmRc (Hierarchy × Drbg) Unit := do
  let proof ← rngBytes Config.primarySeedSize
  modify fun (h, rng) => ({ h with proof }, rng)

def regenerate : Action TpmRc (Hierarchy × Drbg) Unit := do
  let seed ← rngBytes Config.primarySeedSize
  modify fun (h, rng) => ({ h with seed }, rng)
  regenerateProof

def new (rng : Drbg) : TpmResult (Hierarchy × Drbg) :=
  match regenerate (blank, rng) with
  | .ok () made => .ok made
  | .error e _ => .error e

def clearAuthorization (h : Hierarchy) : Hierarchy := { h with auth := [], policy := TpmtHa.null }

end Hierarchy

namespace Hierarchies

def inRange (first last handle : UInt32) : Bool := decide (first ≤ handle) && decide (handle ≤ last)

def isHierarchy (handle : UInt32) : Bool := [Rh.platform, Rh.owner, Rh.endorsement, Rh.null].contains handle

def isHierarchySelector (handle : UInt32) : Bool :=
  isHierarchy handle || [Rh.fwOwner, Rh.fwPlatform, Rh.fwEndorsement, Rh.fwNull].contains handle ||
    inRange Hc.svnOwnerFirst Hc.svnOwnerLast handle || inRange Hc.svnPlatformFirst Hc.svnPlatformLast handle ||
    inRange Hc.svnEndorsementFirst Hc.svnEndorsementLast handle || inRange Hc.svnNullFirst Hc.svnNullLast handle

def baseOf (handle : UInt32) : Option UInt32 :=
  if handle = Rh.fwOwner then some Rh.owner
  else if handle = Rh.fwEndorsement then some Rh.endorsement
  else if handle = Rh.fwPlatform then some Rh.platform
  else if handle = Rh.fwNull then some Rh.null
  else if inRange Hc.svnOwnerFirst Hc.svnOwnerLast handle then some Rh.owner
  else if inRange Hc.svnEndorsementFirst Hc.svnEndorsementLast handle then some Rh.endorsement
  else if inRange Hc.svnPlatformFirst Hc.svnPlatformLast handle then some Rh.platform
  else if inRange Hc.svnNullFirst Hc.svnNullLast handle then some Rh.null
  else none

def svnOf (handle : UInt32) : Option UInt32 :=
  ([Hc.svnOwnerFirst, Hc.svnEndorsementFirst, Hc.svnPlatformFirst, Hc.svnNullFirst].find?
    fun first => inRange first (first + 0xFFFF) handle).map (handle - ·)

def isLimited (handle : UInt32) : Bool := (baseOf handle).isSome

def limitedSecretAvailable (handle : UInt32) : Bool :=
  match svnOf handle with
  | some svn => svn ≤ Config.firmwareSvn
  | none => true

def get (hs : Hierarchies) (handle : UInt32) : TpmResult Hierarchy :=
  if handle = Rh.platform then .ok hs.platform
  else if handle = Rh.owner then .ok hs.owner
  else if handle = Rh.endorsement then .ok hs.endorsement
  else if handle = Rh.null then .ok hs.null
  else .error Rc.value

def set (hs : Hierarchies) (handle : UInt32) (h : Hierarchy) : Hierarchies :=
  if handle = Rh.platform then { hs with platform := h }
  else if handle = Rh.owner then { hs with owner := h }
  else if handle = Rh.endorsement then { hs with endorsement := h }
  else if handle = Rh.null then { hs with null := h }
  else hs

def baseEnabled (hs : Hierarchies) (handle : UInt32) : Bool :=
  if handle = Rh.null then true
  else match hs.get handle with
    | .ok h => h.enabled
    | .error _ => false

def isEnabled (hs : Hierarchies) (handle : UInt32) : Bool :=
  if isHierarchy handle then hs.baseEnabled handle
  else match baseOf handle with
    | some base => hs.baseEnabled base
    | none => false

section

variable [Crypto]

def new (rng : Drbg) : TpmResult (Hierarchies × Drbg) := do
  let (platform, rng) ← Hierarchy.new rng
  let (owner, rng) ← Hierarchy.new rng
  let (endorsement, rng) ← Hierarchy.new rng
  let (null, rng) ← Hierarchy.new rng
  let (bootloaderSecret, rng) ← Drbg.run (Drbg.bytes Config.primarySeedSize) rng
  return ({ platform, owner, endorsement, null, platformNvEnabled := true, bootloaderSecret, firmwareCode := [] }, rng)

def repeatDigest : Nat → Bytes → TpmResult Bytes
  | 0, secret => .ok secret
  | count + 1, secret => do repeatDigest count (← Hash.digest Config.contextIntegrityHashAlg secret)

def additionalSecret (hs : Hierarchies) (handle : UInt32) : TpmResult (Bytes × Bytes) := do
  match svnOf handle with
  | some svn =>
    let secret ← kdfa Config.contextIntegrityHashAlg hs.bootloaderSecret (ascii "SVN_SECRET") [] [] 256
    let secret ← repeatDigest (Config.firmwareSvn.toNat + 1 - svn.toNat) secret
    return (secret, ascii "H_SVN_SECRET")
  | none =>
    let secret ← kdfa Config.contextIntegrityHashAlg hs.bootloaderSecret (ascii "FW_SECRET") hs.firmwareCode [] 256
    return (secret, ascii "H_FW_SECRET")

def derive (hs : Hierarchies) (handle : UInt32) (baseLabel : Bytes) (pick : Hierarchy → Bytes) : TpmResult Bytes :=
  match hs.get handle with
  | .ok h => .ok (pick h)
  | .error _ => do
    match baseOf handle with
    | none => throw Rc.value
    | some base =>
      if !limitedSecretAvailable handle then throw Rc.svnLimited
      let (additional, additionalLabel) ← hs.additionalSecret handle
      let h ← hs.get base
      kdfa Config.contextIntegrityHashAlg (pick h) baseLabel additional (additionalLabel ++ [0]) 256

def seedOf (hs : Hierarchies) (handle : UInt32) : TpmResult Bytes := hs.derive handle (ascii "H_SEED_SECRET") (·.seed)

def proofOf (hs : Hierarchies) (handle : UInt32) : TpmResult Bytes := hs.derive handle (ascii "H_PROOF_SECRET") (·.proof)

def nullOf : Action TpmRc (Hierarchy × Drbg) Unit → Action TpmRc (Hierarchies × Drbg) Unit :=
  Action.zoom (fun s => (s.1.null, s.2)) (fun t s => ({ s.1 with null := t.1 }, t.2))

def ownerOf : Action TpmRc (Hierarchy × Drbg) Unit → Action TpmRc (Hierarchies × Drbg) Unit :=
  Action.zoom (fun s => (s.1.owner, s.2)) (fun t s => ({ s.1 with owner := t.1 }, t.2))

def endorsementOf : Action TpmRc (Hierarchy × Drbg) Unit → Action TpmRc (Hierarchies × Drbg) Unit :=
  Action.zoom (fun s => (s.1.endorsement, s.2)) (fun t s => ({ s.1 with endorsement := t.1 }, t.2))

def onReset (fullReset : Bool) : Action TpmRc (Hierarchies × Drbg) Unit := do
  if fullReset then
    nullOf Hierarchy.regenerate
    modify fun (hs, rng) => ({ hs with null := hs.null.clearAuthorization }, rng)
  modify fun (hs, rng) => ({ hs with
    platform := { hs.platform.clearAuthorization with enabled := true }
    owner := { hs.owner with enabled := true }
    endorsement := { hs.endorsement with enabled := true }
    platformNvEnabled := true }, rng)

def onClear : Action TpmRc (Hierarchies × Drbg) Unit := do
  ownerOf Hierarchy.regenerate
  modify fun (hs, rng) => ({ hs with owner := hs.owner.clearAuthorization }, rng)
  endorsementOf Hierarchy.regenerateProof
  modify fun (hs, rng) => ({ hs with endorsement := hs.endorsement.clearAuthorization }, rng)
  modify fun (hs, rng) => ({ hs with
    owner := { hs.owner with enabled := true }
    endorsement := { hs.endorsement with enabled := true } }, rng)

end

end Hierarchies

end Swtrust
