import Swtrust.Marshal
import Swtrust.Library.Service

set_option autoImplicit false

-- The socket protocol of the simulator. A connection is the octets its peer sends; the calls it makes on the device
-- are those the source makes, and the log is left out.

namespace Swtrust

open Library

namespace Server

inductive IoError where
  | unexpectedEof (text : String)
  | invalidData (text : String)
  deriving DecidableEq

structure Device (σ : Type) where
  execute : (locality : UInt8) → (command : Bytes) → σ → Bytes × σ
  powerOn : σ → σ
  powerOff : σ → σ
  nvOn : σ → σ
  nvOff : σ → σ
  physicalPresence : (asserted : Bool) → σ → σ
  cancel : (asserted : Bool) → σ → σ
  hashStart : σ → σ
  hashData : (data : Bytes) → σ → σ
  hashEnd : σ → σ
  established : σ → Bool
  resetEstablished : (locality : UInt8) → σ → σ
  actGetSignaled : (act : UInt32) → σ → Bool × σ

-- What the connections of one server share.
structure Hosted (σ : Type) where
  device : σ
  shutdown : Bool := false

def Hosted.call {σ : Type} (host : Hosted σ) (f : σ → σ) : Hosted σ := { host with device := f host.device }

namespace Simulator

def serverVersion : UInt32 := 1
def endpointInfo : UInt32 := 0x01 ||| 0x08
def ackOk : UInt32 := 0
def maxTransfer : UInt32 := 64 * 1024

-- The first word of a request, before which the stream may end; `serve` asks for the end before it reads.
def readU32Opt : Decoder IoError UInt32 := do return UInt32.ofNat (← takeNat (.unexpectedEof "truncated length") 4)

def short : IoError := .unexpectedEof "failed to fill whole buffer"

def readU32 : Decoder IoError UInt32 := do return UInt32.ofNat (← takeNat short 4)

def readU8 : Decoder IoError UInt8 := do return UInt8.ofNat (← takeNat short 1)

def readBlob : Decoder IoError Bytes := do
  let len ← readU32
  if maxTransfer < len then throw (.invalidData s!"transfer of {len} octets is too large")
  takeOctets short len.toNat

def writeBlob (b : Bytes) : Bytes := be32 (UInt32.ofNat b.length) ++ b

def writeAck : Bytes := be32 ackOk

namespace Op

def sendCommand : UInt32 := 8
def remoteHandshake : UInt32 := 15
def signalHashData : UInt32 := 6
def setAlternativeResult : UInt32 := 16
def actGetSignaled : UInt32 := 26

end Op

-- The operations that carry nothing.
inductive Signal where
  | powerOn
  | powerOff
  | reset
  | restart
  | nvOn
  | nvOff
  | physPresOn
  | physPresOff
  | cancelOn
  | cancelOff
  | hashStart
  | hashEnd
  | keyCacheOn
  | keyCacheOff
  | testFailureMode
  | getCommandResponseSizes
  | sessionEnd
  | stop
  deriving DecidableEq

namespace Signal

def opcode : Signal → UInt32
  | powerOn => 1
  | powerOff => 2
  | physPresOn => 3
  | physPresOff => 4
  | hashStart => 5
  | hashEnd => 7
  | cancelOn => 9
  | cancelOff => 10
  | nvOn => 11
  | nvOff => 12
  | keyCacheOn => 13
  | keyCacheOff => 14
  | reset => 17
  | restart => 18
  | sessionEnd => 20
  | stop => 21
  | getCommandResponseSizes => 25
  | testFailureMode => 30

def all : List Signal :=
  [powerOn, powerOff, reset, restart, nvOn, nvOff, physPresOn, physPresOff, cancelOn, cancelOff, hashStart, hashEnd,
    keyCacheOn, keyCacheOff, testFailureMode, getCommandResponseSizes, sessionEnd, stop]

def ofOpcode (opcode : UInt32) : Option Signal := all.find? fun signal => signal.opcode == opcode

end Signal

inductive Request where
  | sendCommand (locality : UInt8) (command : Bytes)
  | remoteHandshake (clientVersion : UInt32)
  | hashData (data : Bytes)
  | actGetSignaled (act : UInt32)
  | setAlternativeResult (result : UInt32)
  | signal (signal : Signal)
  deriving DecidableEq

def readRequest : Decoder IoError Request := do
  let opcode ← readU32Opt
  if opcode = Op.sendCommand then do
    let locality ← readU8
    let command ← readBlob
    return .sendCommand locality command
  else if opcode = Op.remoteHandshake then do
    let clientVersion ← readU32
    return .remoteHandshake clientVersion
  else if opcode = Op.signalHashData then do
    let data ← readBlob
    return .hashData data
  else if opcode = Op.actGetSignaled then do
    let act ← readU32
    return .actGetSignaled act
  else if opcode = Op.setAlternativeResult then do
    let result ← readU32
    return .setAlternativeResult result
  else
    match Signal.ofOpcode opcode with
    | some signal => return .signal signal
    | none => throw (.invalidData s!"unknown opcode {opcode}")

namespace Request

-- What a client writes.
def encode : Request → Bytes
  | .sendCommand locality command => be32 Op.sendCommand ++ (be8 locality ++ writeBlob command)
  | .remoteHandshake clientVersion => be32 Op.remoteHandshake ++ be32 clientVersion
  | .hashData data => be32 Op.signalHashData ++ writeBlob data
  | .actGetSignaled act => be32 Op.actGetSignaled ++ be32 act
  | .setAlternativeResult result => be32 Op.setAlternativeResult ++ be32 result
  | .signal sent => be32 sent.opcode

-- What is sent with a length is not longer than a transfer may be.
def Fits : Request → Prop
  | .sendCommand _ command => command.length ≤ maxTransfer.toNat
  | .hashData data => data.length ≤ maxTransfer.toNat
  | _ => True

end Request

section

variable {σ : Type} (device : Device σ)

def signalCall (host : Hosted σ) : Signal → Hosted σ
  | .powerOn => host.call device.powerOn
  | .powerOff => host.call device.powerOff
  | .reset | .restart => (host.call device.powerOff).call device.powerOn
  | .nvOn => host.call device.nvOn
  | .nvOff => host.call device.nvOff
  | .physPresOn => host.call (device.physicalPresence true)
  | .physPresOff => host.call (device.physicalPresence false)
  | .cancelOn => host.call (device.cancel true)
  | .cancelOff => host.call (device.cancel false)
  | .hashStart => host.call device.hashStart
  | .hashEnd => host.call device.hashEnd
  | .stop => { host with shutdown := true }
  | .keyCacheOn | .keyCacheOff | .testFailureMode | .getCommandResponseSizes | .sessionEnd => host

def signalReply : Signal → Bytes
  | .getCommandResponseSizes => be32 0 ++ be32 0 ++ writeAck
  | .sessionEnd => []
  | _ => writeAck

def answer (request : Request) (host : Hosted σ) : Hosted σ × Bytes × Bool :=
  match request with
  | .sendCommand locality command =>
    let (response, s) := device.execute locality command host.device
    ({ host with device := s }, writeBlob response ++ writeAck, true)
  | .remoteHandshake _ => (host, be32 serverVersion ++ be32 endpointInfo ++ writeAck, true)
  | .hashData data => (host.call (device.hashData data), writeAck, true)
  | .actGetSignaled act =>
    let (signaled, s) := device.actGetSignaled act host.device
    ({ host with device := s }, be32 (if signaled then 1 else 0) ++ writeAck, true)
  | .setAlternativeResult _ => (host, writeAck, true)
  | .signal signal =>
    (signalCall device host signal, signalReply signal, decide (signal ≠ .sessionEnd) && decide (signal ≠ .stop))

def service : Service IoError Request (Hosted σ) where
  read := readRequest
  answer := answer device

def serveConnection (input : Bytes) (host : Hosted σ) : Served IoError (Hosted σ) := (service device).serve input host

end

theorem canonical_word (e : IoError) : Canonical (do return UInt32.ofNat (← takeNat e 4) : Decoder IoError UInt32) be32 := by
  intro input value rest ran
  obtain ⟨n, middle, read, back⟩ := (reader_bind_is_ok _ _ _ _ _).mp ran
  cases back
  have small := take_nat_lt e 4 input _ n read
  have same : (UInt32.ofNat n).toNat = n := by
    rw [UInt32.toNat_ofNat']
    exact Nat.mod_eq_of_lt small
  rw [be32, same]
  exact canonical_take_nat e 4 input n _ read

theorem canonical_octet (e : IoError) : Canonical (do return UInt8.ofNat (← takeNat e 1) : Decoder IoError UInt8) be8 := by
  intro input value rest ran
  obtain ⟨n, middle, read, back⟩ := (reader_bind_is_ok _ _ _ _ _).mp ran
  cases back
  have written := canonical_take_nat e 1 input n _ read
  exact written

theorem canonical_blob : Canonical readBlob writeBlob := by
  intro input value rest ran
  obtain ⟨len, middle, read, ran⟩ := (reader_bind_is_ok _ _ _ _ _).mp ran
  have front := canonical_word short input len middle read
  by_cases large : maxTransfer < len
  · rw [if_pos large] at ran
    cases ran
  · rw [if_neg large] at ran
    have ran : (takeOctets short len.toNat : Decoder IoError Bytes).run middle = .ok (value, rest) := ran
    have back := canonical_take_octets short len.toNat middle value rest ran
    have length := take_octets_length short len.toNat middle value rest ran
    rw [List.nil_append] at front back ⊢
    rw [front, back, writeBlob, length, UInt32.ofNat_toNat, List.append_assoc]
    rfl

theorem blob_length (input value rest : Bytes) (ran : readBlob.run input = .ok (value, rest)) :
    value.length ≤ maxTransfer.toNat := by
  obtain ⟨len, middle, -, ran⟩ := (reader_bind_is_ok _ _ _ _ _).mp ran
  by_cases large : maxTransfer < len
  · rw [if_pos large] at ran
    cases ran
  · rw [if_neg large] at ran
    have ran : (takeOctets short len.toNat : Decoder IoError Bytes).run middle = .ok (value, rest) := ran
    rw [take_octets_length short len.toNat middle value rest ran]
    exact UInt32.le_iff_toNat_le.mp (UInt32.not_lt.mp large)

theorem signal_of_opcode (opcode : UInt32) (signal : Signal) (found : Signal.ofOpcode opcode = some signal) :
    signal.opcode = opcode := by
  have same := List.find?_some found
  exact beq_iff_eq.mp same

theorem of_opcode_signal (signal : Signal) : Signal.ofOpcode signal.opcode = some signal := by
  cases signal <;> decide

-- The words before the fields of a request are no signals.
theorem signal_apart (signal : Signal) : signal.opcode ≠ Op.sendCommand ∧ signal.opcode ≠ Op.remoteHandshake ∧
    signal.opcode ≠ Op.signalHashData ∧ signal.opcode ≠ Op.actGetSignaled ∧ signal.opcode ≠ Op.setAlternativeResult := by
  cases signal <;> decide

theorem canonical_request : Canonical readRequest Request.encode := by
  unfold readRequest
  refine rewrites_bind _ _ _ be32 _ (canonical_word _) fun opcode => ?_
  rw [List.nil_append]
  by_cases command : opcode = Op.sendCommand
  · rw [if_pos command, command]
    refine rewrites_bind _ _ _ be8 _ (canonical_octet _) fun locality => ?_
    refine rewrites_bind _ _ _ writeBlob _ canonical_blob fun command => ?_
    exact rewrites_pure _ _ _ (List.append_assoc _ _ _)
  rw [if_neg command]
  by_cases handshake : opcode = Op.remoteHandshake
  · rw [if_pos handshake, handshake]
    refine rewrites_bind _ _ _ be32 _ (canonical_word _) fun clientVersion => ?_
    exact rewrites_pure _ _ _ rfl
  rw [if_neg handshake]
  by_cases hash : opcode = Op.signalHashData
  · rw [if_pos hash, hash]
    refine rewrites_bind _ _ _ writeBlob _ canonical_blob fun data => ?_
    exact rewrites_pure _ _ _ rfl
  rw [if_neg hash]
  by_cases act : opcode = Op.actGetSignaled
  · rw [if_pos act, act]
    refine rewrites_bind _ _ _ be32 _ (canonical_word _) fun act => ?_
    exact rewrites_pure _ _ _ rfl
  rw [if_neg act]
  by_cases alternative : opcode = Op.setAlternativeResult
  · rw [if_pos alternative, alternative]
    refine rewrites_bind _ _ _ be32 _ (canonical_word _) fun result => ?_
    exact rewrites_pure _ _ _ rfl
  rw [if_neg alternative]
  cases found : Signal.ofOpcode opcode with
  | none => exact rewrites_throw _ _ _
  | some signal =>
      refine rewrites_pure _ _ _ ?_
      rw [Request.encode, signal_of_opcode opcode signal found]

theorem decodes_word (e : IoError) (value : UInt32) :
    Decodes (do return UInt32.ofNat (← takeNat e 4) : Decoder IoError UInt32) (be32 value) value := by
  have read := decodes_bind_pure (takeNat e 4) UInt32.ofNat (be32 value) _ (decodes_take_nat e 4 value.toNat value.toNat_lt)
  rwa [UInt32.ofNat_toNat] at read

theorem decodes_octet (e : IoError) (value : UInt8) :
    Decodes (do return UInt8.ofNat (← takeNat e 1) : Decoder IoError UInt8) (be8 value) value := by
  have read := decodes_bind_pure (takeNat e 1) UInt8.ofNat (beBytes 1 value.toNat) _
    (decodes_take_nat e 1 value.toNat value.toNat_lt)
  rw [UInt8.ofNat_toNat] at read
  have same : beBytes 1 value.toNat = be8 value := by simp [beBytes, be8]
  rwa [same] at read

theorem decodes_blob (data : Bytes) (fits : data.length ≤ maxTransfer.toNat) : Decodes readBlob (writeBlob data) data := by
  have small : (UInt32.ofNat data.length).toNat = data.length := by
    rw [UInt32.toNat_ofNat']
    exact Nat.mod_eq_of_lt (Nat.lt_of_le_of_lt fits (by decide))
  refine decodes_bind _ _ _ _ _ _ (decodes_word _ _) ?_
  have inside : ¬ maxTransfer < UInt32.ofNat data.length := by
    rw [UInt32.not_lt, UInt32.le_iff_toNat_le, small]
    exact fits
  rw [if_neg inside, small]
  exact decodes_take_octets short data

theorem decodes_request (request : Request) (fits : request.Fits) : Decodes readRequest request.encode request := by
  cases request with
  | sendCommand locality command =>
      refine decodes_bind _ _ _ _ _ _ (decodes_word _ _) ?_
      rw [if_pos rfl]
      refine decodes_bind _ _ _ _ _ _ (decodes_octet _ locality) ?_
      exact decodes_bind_pure _ _ _ _ (decodes_blob command fits)
  | remoteHandshake clientVersion =>
      refine decodes_bind _ _ _ _ _ _ (decodes_word _ _) ?_
      rw [if_neg (by decide), if_pos rfl]
      exact decodes_bind_pure _ _ _ _ (decodes_word _ clientVersion)
  | hashData data =>
      refine decodes_bind _ _ _ _ _ _ (decodes_word _ _) ?_
      rw [if_neg (by decide), if_neg (by decide), if_pos rfl]
      exact decodes_bind_pure _ _ _ _ (decodes_blob data fits)
  | actGetSignaled act =>
      refine decodes_bind _ _ _ _ _ _ (decodes_word _ _) ?_
      rw [if_neg (by decide), if_neg (by decide), if_neg (by decide), if_pos rfl]
      exact decodes_bind_pure _ _ _ _ (decodes_word _ act)
  | setAlternativeResult result =>
      refine decodes_bind _ _ _ _ _ _ (decodes_word _ _) ?_
      rw [if_neg (by decide), if_neg (by decide), if_neg (by decide), if_neg (by decide), if_pos rfl]
      exact decodes_bind_pure _ _ _ _ (decodes_word _ result)
  | signal signal =>
      obtain ⟨command, handshake, hash, act, alternative⟩ := signal_apart signal
      refine decodes_bind_last _ _ _ _ _ (decodes_word _ _) ?_
      rw [if_neg command, if_neg handshake, if_neg hash, if_neg act, if_neg alternative, of_opcode_signal signal]
      exact decodes_pure _

theorem encode_nonempty (request : Request) : request.encode ≠ [] := by
  intro nothing
  have length := congrArg List.length nothing
  cases request <;> simp [Request.encode] at length

theorem request_fits (input rest : Bytes) (request : Request) (read : readRequest.run input = .ok (request, rest)) :
    request.Fits := by
  obtain ⟨opcode, middle, -, read⟩ := (reader_bind_is_ok _ _ _ _ _).mp read
  by_cases command : opcode = Op.sendCommand
  · rw [if_pos command] at read
    obtain ⟨locality, middle, -, read⟩ := (reader_bind_is_ok _ _ _ _ _).mp read
    obtain ⟨command, middle, blob, read⟩ := (reader_bind_is_ok _ _ _ _ _).mp read
    cases read
    exact blob_length _ _ _ blob
  rw [if_neg command] at read
  by_cases handshake : opcode = Op.remoteHandshake
  · rw [if_pos handshake] at read
    obtain ⟨clientVersion, middle, -, read⟩ := (reader_bind_is_ok _ _ _ _ _).mp read
    cases read
    trivial
  rw [if_neg handshake] at read
  by_cases hash : opcode = Op.signalHashData
  · rw [if_pos hash] at read
    obtain ⟨data, middle, blob, read⟩ := (reader_bind_is_ok _ _ _ _ _).mp read
    cases read
    exact blob_length _ _ _ blob
  rw [if_neg hash] at read
  by_cases act : opcode = Op.actGetSignaled
  · rw [if_pos act] at read
    obtain ⟨act, middle, -, read⟩ := (reader_bind_is_ok _ _ _ _ _).mp read
    cases read
    trivial
  rw [if_neg act] at read
  by_cases alternative : opcode = Op.setAlternativeResult
  · rw [if_pos alternative] at read
    obtain ⟨result, middle, -, read⟩ := (reader_bind_is_ok _ _ _ _ _).mp read
    cases read
    trivial
  rw [if_neg alternative] at read
  cases found : Signal.ofOpcode opcode with
  | none =>
      rw [found] at read
      cases read
  | some signal =>
      rw [found] at read
      cases read
      trivial

-- Whatever a peer sends, and wherever it stops, the device has carried out whole requests, in the order in which
-- they stand at the front of the stream, none of them longer than a transfer may be; of what comes after them the
-- device has seen nothing.
theorem connection_makes_whole_requests {σ : Type} (device : Device σ) (input : Bytes) (host : Hosted σ) :
    ∃ requests tail, input = requests.flatMap Request.encode ++ tail ∧ (∀ request ∈ requests, request.Fits) ∧
      (serveConnection device input host).state = ((service device).answers requests host).1 ∧
      (serveConnection device input host).replies = ((service device).answers requests host).2.1 ∧
      (service device).Ends tail ((service device).answers requests host).2.2
        (serveConnection device input host).ending :=
  (service device).serve_splits Request.encode Request.Fits canonical_request encode_nonempty
    (fun input request rest read => request_fits input rest request read) input host

-- What a client that knows its request makes of the reply.
inductive Reply where
  | response (octets : Bytes)
  | handshake (version endpoint : UInt32)
  | signaled (value : UInt32)
  | sizes (command response : UInt32)
  | acknowledged
  | nothing
  deriving DecidableEq

def readAck (reply : Reply) : Decoder IoError Reply := do
  let ack ← readU32
  if ack ≠ ackOk then throw (.invalidData "not acknowledged")
  return reply

def readResponse : Decoder IoError Bytes := do
  let len ← readU32
  takeOctets short len.toNat

namespace Request

def readReply : Request → Decoder IoError Reply
  | .sendCommand _ _ => do readAck (.response (← readResponse))
  | .remoteHandshake _ => do
    let version ← readU32
    let endpoint ← readU32
    readAck (.handshake version endpoint)
  | .actGetSignaled _ => do readAck (.signaled (← readU32))
  | .signal .getCommandResponseSizes => do
    let command ← readU32
    let response ← readU32
    readAck (.sizes command response)
  | .signal .sessionEnd => return .nothing
  | .hashData _ | .setAlternativeResult _ | .signal _ => readAck .acknowledged

def closes (request : Request) : Bool := request == .signal .sessionEnd || request == .signal .stop

end Request

section

variable {σ : Type} (device : Device σ)

def replyTo (request : Request) (host : Hosted σ) : Reply :=
  match request with
  | .sendCommand locality command => .response (device.execute locality command host.device).1
  | .remoteHandshake _ => .handshake serverVersion endpointInfo
  | .actGetSignaled act => .signaled (if (device.actGetSignaled act host.device).1 then 1 else 0)
  | .signal .getCommandResponseSizes => .sizes 0 0
  | .signal .sessionEnd => .nothing
  | .hashData _ | .setAlternativeResult _ | .signal _ => .acknowledged

theorem decodes_ack (reply : Reply) : Decodes (readAck reply) writeAck reply := by
  refine decodes_bind_last _ _ _ _ _ (decodes_word short ackOk) ?_
  rw [if_neg (by decide)]
  exact decodes_pure reply

theorem decodes_response (octets : Bytes) (short' : octets.length < 2 ^ 32) :
    Decodes readResponse (writeBlob octets) octets := by
  have small : (UInt32.ofNat octets.length).toNat = octets.length := by
    rw [UInt32.toNat_ofNat']
    exact Nat.mod_eq_of_lt short'
  refine decodes_bind _ _ _ _ _ _ (decodes_word _ _) ?_
  rw [small]
  exact decodes_take_octets short octets

theorem decodes_reply (request : Request) (host : Hosted σ)
    (short' : ∀ locality command s, (device.execute locality command s).1.length < 2 ^ 32) :
    Decodes request.readReply (answer device request host).2.1 (replyTo device request host) := by
  cases request with
  | sendCommand locality command =>
      refine decodes_bind _ _ _ _ _ _ (decodes_response _ (short' locality command host.device)) ?_
      exact decodes_ack _
  | remoteHandshake clientVersion =>
      show Decodes _ (be32 serverVersion ++ be32 endpointInfo ++ writeAck) _
      rw [List.append_assoc]
      refine decodes_bind _ _ _ _ _ _ (decodes_word _ _) ?_
      refine decodes_bind _ _ _ _ _ _ (decodes_word _ _) ?_
      exact decodes_ack _
  | hashData data => exact decodes_ack _
  | actGetSignaled act =>
      refine decodes_bind _ _ _ _ _ _ (decodes_word _ _) ?_
      exact decodes_ack _
  | setAlternativeResult result => exact decodes_ack _
  | signal signal =>
      cases signal with
      | getCommandResponseSizes =>
          show Decodes _ (be32 0 ++ be32 0 ++ writeAck) _
          rw [List.append_assoc]
          refine decodes_bind _ _ _ _ _ _ (decodes_word _ _) ?_
          refine decodes_bind _ _ _ _ _ _ (decodes_word _ _) ?_
          exact decodes_ack _
      | sessionEnd => exact decodes_pure _
      | _ => exact decodes_ack _

theorem answer_goes_on (request : Request) (host : Hosted σ) :
    (answer device request host).2.2 = !request.closes := by
  cases request with
  | signal signal => cases signal <;> rfl
  | _ => rfl

-- A client that writes its requests one after the other without waiting has each of them carried out once, in its
-- order, and reads back from the stream of replies what the device answered to each.
theorem pipelined_exchange (short' : ∀ locality command s, (device.execute locality command s).1.length < 2 ^ 32)
    (requests : List Request) (fits : ∀ request ∈ requests, request.Fits) (host : Hosted σ) :
    (serveConnection device (requests.flatMap Request.encode) host).state =
        ((service device).answers requests host).1 ∧
      (Service.readReplies Request.readReply Request.closes requests).run
          (serveConnection device (requests.flatMap Request.encode) host).replies =
        .ok ((service device).repliesTo Request.closes (replyTo device) requests host, []) :=
  (service device).exchange Request.readReply Request.closes (replyTo device) Request.encode encode_nonempty
    (answer_goes_on device) (fun request host => decodes_reply device request host short') requests
    (fun request member => decodes_request request (fits request member)) host

end

namespace Toy

-- A device that answers with the command and counts its calls.
def echo : Device Nat where
  execute := fun _ command s => (command.take 8, s + 1)
  powerOn := fun s => s + 1
  powerOff := fun s => s + 1
  nvOn := fun s => s + 1
  nvOff := fun s => s + 1
  physicalPresence := fun _ s => s + 1
  cancel := fun _ s => s + 1
  hashStart := fun s => s + 1
  hashData := fun _ s => s + 1
  hashEnd := fun s => s + 1
  established := fun _ => false
  resetEstablished := fun _ s => s
  actGetSignaled := fun _ s => (false, s + 1)

def talk : List Request := [.remoteHandshake 1, .sendCommand 0 [1, 2], .signal .reset, .signal .stop]

theorem talk_is_heard : (serveConnection echo (talk.flatMap Request.encode) ⟨0, false⟩).state =
      ((service echo).answers talk ⟨0, false⟩).1 ∧
    (Service.readReplies Request.readReply Request.closes talk).run
        (serveConnection echo (talk.flatMap Request.encode) ⟨0, false⟩).replies =
      .ok ((service echo).repliesTo Request.closes (replyTo echo) talk ⟨0, false⟩, []) :=
  pipelined_exchange echo
    (fun _ command _ => Nat.lt_of_le_of_lt (List.length_take_le 8 command) (by decide))
    talk (by simp [talk, Request.Fits, maxTransfer])
    ⟨0, false⟩

end Toy

end Simulator

end Server

end Swtrust
