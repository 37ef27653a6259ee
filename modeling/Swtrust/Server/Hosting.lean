import Swtrust.Object.Persistent
import Swtrust.Server.Channels

set_option autoImplicit false

-- The TPM behind the transports. What a call finds outside it (the time that passed, whether the file can be written,
-- what a new reading of it starts from) comes from `sky`, one entry a call.

namespace Swtrust

open Library

namespace Server

structure Weather where
  elapsed : UInt64
  written : Bool
  fresh : TpmState

structure Hosting where
  tpm : Tpm
  established : Bool := false
  cancelled : Bool := false
  calls : Nat := 0

section

variable [Primitives]

def Hosting.signal (h : Hosting) (signal : Signal) : Hosting := { h with tpm := h.tpm.after signal, calls := h.calls + 1 }

def tpmDevice (sky : Nat → Weather) : Device Hosting where
  execute := fun locality command h =>
    ((h.tpm.execute (sky h.calls).elapsed (sky h.calls).written locality command).1,
      h.signal (.execute (sky h.calls).elapsed (sky h.calls).written locality command))
  powerOn := fun h => h.signal (.powerOn (sky h.calls).fresh)
  powerOff := fun h => h.signal (.powerOff (sky h.calls).written)
  nvOn := fun h => h.signal (.nv true)
  nvOff := fun h => h.signal (.nv false)
  physicalPresence := fun asserted h => h.signal (.physicalPresence asserted)
  cancel := fun asserted h => { h with cancelled := asserted }
  hashStart := fun h => { h.signal .hashStart with established := true }
  hashData := fun data h => h.signal (.hashData data)
  hashEnd := fun h => h.signal .hashEnd
  established := fun h => h.established
  resetEstablished := fun _ h => { h with established := false }
  actGetSignaled := fun act h =>
    ((h.tpm.actGetSignaled act (sky h.calls).elapsed (sky h.calls).written).1,
      h.signal (.actGetSignaled act (sky h.calls).elapsed (sky h.calls).written))

end

-- What no call on the device breaks.
structure Device.Keeps {σ : Type} (device : Device σ) (holds : σ → Prop) : Prop where
  execute : ∀ locality command s, holds s → holds (device.execute locality command s).2
  powerOn : ∀ s, holds s → holds (device.powerOn s)
  powerOff : ∀ s, holds s → holds (device.powerOff s)
  nvOn : ∀ s, holds s → holds (device.nvOn s)
  nvOff : ∀ s, holds s → holds (device.nvOff s)
  physicalPresence : ∀ asserted s, holds s → holds (device.physicalPresence asserted s)
  cancel : ∀ asserted s, holds s → holds (device.cancel asserted s)
  hashStart : ∀ s, holds s → holds (device.hashStart s)
  hashData : ∀ data s, holds s → holds (device.hashData data s)
  hashEnd : ∀ s, holds s → holds (device.hashEnd s)
  resetEstablished : ∀ locality s, holds s → holds (device.resetEstablished locality s)
  actGetSignaled : ∀ act s, holds s → holds (device.actGetSignaled act s).2

section

variable {σ : Type} (device : Device σ) (holds : σ → Prop) (kept : device.Keeps holds)

include kept

theorem simulator_keeps (request : Simulator.Request) (host : Hosted σ) (here : holds host.device) :
    holds (Simulator.answer device request host).1.device := by
  cases request with
  | sendCommand locality command => exact kept.execute locality command _ here
  | remoteHandshake clientVersion => exact here
  | hashData data => exact kept.hashData data _ here
  | actGetSignaled act => exact kept.actGetSignaled act _ here
  | setAlternativeResult result => exact here
  | signal signal =>
      cases signal with
      | powerOn => exact kept.powerOn _ here
      | powerOff => exact kept.powerOff _ here
      | reset => exact kept.powerOn _ (kept.powerOff _ here)
      | restart => exact kept.powerOn _ (kept.powerOff _ here)
      | nvOn => exact kept.nvOn _ here
      | nvOff => exact kept.nvOff _ here
      | physPresOn => exact kept.physicalPresence true _ here
      | physPresOff => exact kept.physicalPresence false _ here
      | cancelOn => exact kept.cancel true _ here
      | cancelOff => exact kept.cancel false _ here
      | hashStart => exact kept.hashStart _ here
      | hashEnd => exact kept.hashEnd _ here
      | keyCacheOn => exact here
      | keyCacheOff => exact here
      | testFailureMode => exact here
      | getCommandResponseSizes => exact here
      | sessionEnd => exact here
      | stop => exact here

theorem control_keeps (request : Qemu.Control) (m : Qemu.Machine σ) (here : holds m.device) :
    holds (Qemu.answerControl device request m).1.device := by
  cases request with
  | hashData data => exact kept.hashData data _ here
  | bare bare =>
      cases bare with
      | getCapability => exact here
      | shutdown => exact kept.powerOff _ here
      | getEstablished => exact here
      | hashStart => exact kept.hashStart _ here
      | hashEnd => exact kept.hashEnd _ here
      | stop => exact kept.powerOff _ here
  | worded worded payload =>
      cases worded with
      | init => exact kept.nvOn _ (kept.powerOn _ here)
      | setBufferSize => exact here
      | setLocality =>
          simp only [Qemu.answerControl, Qemu.answerWorded]
          split
          · exact here
          · exact here
      | resetEstablished =>
          simp only [Qemu.answerControl, Qemu.answerWorded]
          split
          · exact here
          · exact kept.resetEstablished _ _ here

theorem channels_keep (acts : List Qemu.Act) : ∀ c : Qemu.Channels σ, holds c.machine.device →
    holds (c.afterAll device acts).machine.device := by
  induction acts with
  | nil => exact fun c here => here
  | cons act rest ih =>
      intro c here
      refine ih (c.after device act) ?_
      cases act with
      | control request => exact control_keeps device holds kept request c.machine here
      | arrive conn command =>
          simp only [Qemu.Channels.after]
          split
          · exact here
          · exact here
      | execute conn =>
          simp only [Qemu.Channels.after]
          cases c.waiting conn with
          | none => exact here
          | some command => exact kept.execute _ _ _ here

theorem simulator_serves (input : Bytes) (host : Hosted σ) (here : holds host.device) :
    holds (Simulator.serveConnection device input host).state.device := by
  obtain ⟨requests, tail, -, -, state, -⟩ := (Simulator.service device).serve_splits Simulator.Request.encode
    Simulator.Request.Fits Simulator.canonical_request Simulator.encode_nonempty
    (fun input request rest read => Simulator.request_fits input rest request read) input host
  show holds ((Simulator.service device).serve input host).state.device
  rw [state]
  clear state
  induction requests generalizing host with
  | nil => exact here
  | cons request rest ih =>
      have first := simulator_keeps device holds kept request host here
      cases goes : ((Simulator.service device).answer request host).2.2 with
      | true =>
          rw [(Simulator.service device).answers_cons_goes request rest host goes]
          exact ih _ first
      | false =>
          rw [(Simulator.service device).answers_cons_ends request rest host goes]
          exact first

end

section

variable [Primitives] (sky : Nat → Weather)

-- Every call makes one of the signals of the device, or none.
theorem signalled_keeps (start : Tpm) :
    (tpmDevice sky).Keeps fun h => ∃ signals : List Signal, h.tpm = start.afterAll signals := by
  have one : ∀ (h : Hosting) (signal : Signal), (∃ signals : List Signal, h.tpm = start.afterAll signals) →
      ∃ signals : List Signal, (h.signal signal).tpm = start.afterAll signals := by
    rintro h signal ⟨signals, reached⟩
    refine ⟨signals ++ [signal], ?_⟩
    simp only [Hosting.signal, reached, Tpm.afterAll, List.foldl_append, List.foldl_cons, List.foldl_nil]
  exact {
    execute := fun _ _ h => one h _
    powerOn := fun h => one h _
    powerOff := fun h => one h _
    nvOn := fun h => one h _
    nvOff := fun h => one h _
    physicalPresence := fun _ h => one h _
    cancel := fun _ _ reached => reached
    hashStart := fun h => one h .hashStart
    hashData := fun _ h => one h _
    hashEnd := fun h => one h _
    resetEstablished := fun _ _ reached => reached
    actGetSignaled := fun _ h => one h _ }

end

namespace Toy

open Swtrust.Toy

-- A client that starts the TPM, makes an object of the owner's and has it made persistent.
def persists : Bytes :=
  [.signal .powerOn, .signal .nvOn, .sendCommand 0 (plainCommand Cc.startup [] (be16 Su.clear)),
    .sendCommand 0 (createSealed Rh.owner),
    .sendCommand 0 (evictSealed Rh.owner Hc.persistentFirst)].flatMap Simulator.Request.encode

def still (s : TpmState) : Nat → Weather := fun _ => ⟨0, true, s⟩

end Toy

end Server

end Swtrust
