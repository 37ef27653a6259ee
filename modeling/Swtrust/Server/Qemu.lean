import Swtrust.Constants
import Swtrust.Server.Simulator

set_option autoImplicit false

-- The two channels of a virtual machine monitor: the control channel, and the data channel with bare commands. The
-- named pipe carries bare commands as well.

namespace Swtrust

open Library

namespace Server

namespace Qemu

def minBufferSize : UInt32 := 1024
def maxBufferSize : UInt32 := 4096
def maxLocality : UInt8 := 4
def headerSize : Nat := 10

-- INIT, SHUTDOWN, GET_ESTABLISHED, SET_LOCALITY, HASHING, RESET_ESTABLISHED, STOP and SET_BUFFERSIZE.
def capabilities : UInt32 := 0x1 ||| 0x2 ||| 0x4 ||| 0x8 ||| 0x10 ||| 0x80 ||| 0x400 ||| 0x2000

structure Link where
  locality : UInt8 := 0
  bufferSize : UInt32 := maxBufferSize
  deriving DecidableEq

def Link.agreeBufferSize (link : Link) (wanted : UInt32) : UInt32 × Link :=
  if wanted = 0 then (link.bufferSize, link)
  else
    let size := if wanted < minBufferSize then minBufferSize else if maxBufferSize < wanted then maxBufferSize else wanted
    (size, { link with bufferSize := size })

-- The requests without a payload, and those with one word.
inductive Bare where
  | getCapability
  | shutdown
  | getEstablished
  | hashStart
  | hashEnd
  | stop
  deriving DecidableEq

inductive Worded where
  | init
  | setLocality
  | resetEstablished
  | setBufferSize
  deriving DecidableEq

def Bare.number : Bare → UInt32
  | .getCapability => 1
  | .shutdown => 3
  | .getEstablished => 4
  | .hashStart => 6
  | .hashEnd => 8
  | .stop => 14

def Worded.number : Worded → UInt32
  | .init => 2
  | .setLocality => 5
  | .resetEstablished => 11
  | .setBufferSize => 17

def hashDataNumber : UInt32 := 7

def Bare.ofNumber (request : UInt32) : Option Bare :=
  [getCapability, shutdown, getEstablished, hashStart, hashEnd, stop].find? (·.number == request)

def Worded.ofNumber (request : UInt32) : Option Worded :=
  [init, setLocality, resetEstablished, setBufferSize].find? (·.number == request)

inductive Control where
  | bare (request : Bare)
  | worded (request : Worded) (payload : UInt32)
  | hashData (data : Bytes)
  deriving DecidableEq

-- A request whose payload length is not known cannot be skipped.
def readControl : Decoder IoError Control := do
  let request ← Simulator.readU32Opt
  match Bare.ofNumber request with
  | some bare => return .bare bare
  | none =>
    match Worded.ofNumber request with
    | some worded => return .worded worded (← Simulator.readU32)
    | none =>
      if request = hashDataNumber then return .hashData (← Simulator.readBlob)
      else throw (.invalidData s!"unknown control request {request}")

namespace Control

def encode : Control → Bytes
  | .bare request => be32 request.number
  | .worded request payload => be32 request.number ++ be32 payload
  | .hashData data => be32 hashDataNumber ++ Simulator.writeBlob data

def Fits : Control → Prop
  | .hashData data => data.length ≤ Simulator.maxTransfer.toNat
  | _ => True

end Control

structure Machine (σ : Type) where
  device : σ
  link : Link := {}
  shutdown : Bool := false

-- The first octet on the wire; the three that follow are padding.
def localityOf (payload : UInt32) : UInt8 := (payload >>> 24).toUInt8

def success : Bytes := be32 0

section

variable {σ : Type} (device : Device σ)

def answerBare (m : Machine σ) : Bare → Machine σ × Bytes
  | .getCapability => (m, success ++ be32 capabilities)
  | .shutdown => ({ m with device := device.powerOff m.device, shutdown := true }, success)
  | .getEstablished => (m, success ++ [if device.established m.device then 1 else 0, 0, 0, 0])
  | .hashStart => ({ m with device := device.hashStart m.device }, success)
  | .hashEnd => ({ m with device := device.hashEnd m.device }, success)
  | .stop => ({ m with device := device.powerOff m.device }, success)

def answerWorded (m : Machine σ) (payload : UInt32) : Worded → Machine σ × Bytes
  | .init => ({ m with device := device.nvOn (device.powerOn m.device) }, success)
  | .setLocality =>
      if maxLocality < localityOf payload then (m, be32 Rc.locality.value)
      else ({ m with link := { m.link with locality := localityOf payload } }, success)
  | .resetEstablished =>
      if maxLocality < localityOf payload then (m, be32 Rc.locality.value)
      else ({ m with device := device.resetEstablished (localityOf payload) m.device }, success)
  | .setBufferSize =>
      let (size, link) := m.link.agreeBufferSize payload
      ({ m with link }, success ++ (be32 size ++ (be32 minBufferSize ++ be32 maxBufferSize)))

def answerControl (request : Control) (m : Machine σ) : Machine σ × Bytes × Bool :=
  match request with
  | .bare bare => ((answerBare device m bare).1, (answerBare device m bare).2, decide (bare ≠ .shutdown))
  | .worded worded payload => ((answerWorded device m payload worded).1, (answerWorded device m payload worded).2, true)
  | .hashData data => ({ m with device := device.hashData data m.device }, success, true)

def controlService : Service IoError Control (Machine σ) where
  read := readControl
  answer := answerControl device

def sizeField (header : Bytes) : Nat := beNat ((header.drop 2).take 4)

def readCommand : Decoder IoError Bytes := do
  let header ← takeOctets (.unexpectedEof "truncated command header") headerSize
  if sizeField header < headerSize ∨ Simulator.maxTransfer.toNat < sizeField header then
    throw (.invalidData s!"command size {sizeField header} is not usable")
  let rest ← takeOctets Simulator.short (sizeField header - headerSize)
  return header ++ rest

def answerData (command : Bytes) (m : Machine σ) : Machine σ × Bytes × Bool :=
  let (response, s) := device.execute m.link.locality command m.device
  ({ m with device := s }, response, true)

def dataService : Service IoError Bytes (Machine σ) where
  read := readCommand
  answer := answerData device

end

end Qemu

namespace Pipe

def sizeFieldEnd : Nat := 6

def readCommand : Decoder IoError Bytes := do
  let head ← takeOctets (.unexpectedEof "truncated command header") sizeFieldEnd
  if Qemu.sizeField head < Qemu.headerSize ∨ Simulator.maxTransfer.toNat < Qemu.sizeField head then
    throw (.invalidData s!"commandSize {Qemu.sizeField head} is out of range")
  let rest ← takeOctets Simulator.short (Qemu.sizeField head - sizeFieldEnd)
  return head ++ rest

-- The locality of a pipe client is always zero.
def answer {σ : Type} (device : Device σ) (command : Bytes) (host : Hosted σ) : Hosted σ × Bytes × Bool :=
  let (response, s) := device.execute 0 command host.device
  ({ host with device := s }, response, true)

def service {σ : Type} (device : Device σ) : Service IoError Bytes (Hosted σ) where
  read := readCommand
  answer := answer device

end Pipe

namespace Qemu

theorem bare_of_number (request : UInt32) (bare : Bare) (found : Bare.ofNumber request = some bare) :
    bare.number = request := by
  have same := List.find?_some found
  exact beq_iff_eq.mp same

theorem worded_of_number (request : UInt32) (worded : Worded) (found : Worded.ofNumber request = some worded) :
    worded.number = request := by
  have same := List.find?_some found
  exact beq_iff_eq.mp same

theorem canonical_control : Canonical readControl Control.encode := by
  unfold readControl
  refine rewrites_bind _ _ _ be32 _ (Simulator.canonical_word _) fun request => ?_
  rw [List.nil_append]
  cases bare : Bare.ofNumber request with
  | some found =>
      refine rewrites_pure _ _ _ ?_
      rw [Control.encode, bare_of_number request found bare]
  | none =>
      cases worded : Worded.ofNumber request with
      | some found =>
          refine rewrites_bind _ _ _ be32 _ (Simulator.canonical_word _) fun payload => ?_
          refine rewrites_pure _ _ _ ?_
          rw [Control.encode, worded_of_number request found worded]
      | none =>
          by_cases hash : request = hashDataNumber
          · simp only [if_pos hash]
            refine rewrites_bind _ _ _ Simulator.writeBlob _ Simulator.canonical_blob fun data => ?_
            refine rewrites_pure _ _ _ ?_
            rw [Control.encode, hash]
          · simp only [if_neg hash]
            exact rewrites_throw _ _ _

theorem control_fits (input rest : Bytes) (request : Control) (read : readControl.run input = .ok (request, rest)) :
    request.Fits := by
  obtain ⟨number, middle, -, read⟩ := (reader_bind_is_ok _ _ _ _ _).mp read
  cases bare : Bare.ofNumber number with
  | some found =>
      rw [bare] at read
      cases read
      trivial
  | none =>
      rw [bare] at read
      cases worded : Worded.ofNumber number with
      | some found =>
          rw [worded] at read
          obtain ⟨payload, middle, -, read⟩ := (reader_bind_is_ok _ _ _ _ _).mp read
          cases read
          trivial
      | none =>
          rw [worded] at read
          by_cases hash : number = hashDataNumber
          · simp only [if_pos hash] at read
            obtain ⟨data, middle, blob, read⟩ := (reader_bind_is_ok _ _ _ _ _).mp read
            cases read
            exact Simulator.blob_length _ _ _ blob
          · simp only [if_neg hash] at read
            cases read

theorem decodes_control (request : Control) (fits : request.Fits) : Decodes readControl request.encode request := by
  cases request with
  | bare bare =>
      refine decodes_bind_last _ _ _ _ _ (Simulator.decodes_word _ _) ?_
      have found : Bare.ofNumber bare.number = some bare := by cases bare <;> decide
      rw [found]
      exact decodes_pure _
  | worded worded payload =>
      refine decodes_bind _ _ _ _ _ _ (Simulator.decodes_word _ _) ?_
      have none' : Bare.ofNumber worded.number = none := by cases worded <;> decide
      have found : Worded.ofNumber worded.number = some worded := by cases worded <;> decide
      rw [none', found]
      exact decodes_bind_pure _ _ _ _ (Simulator.decodes_word _ payload)
  | hashData data =>
      refine decodes_bind _ _ _ _ _ _ (Simulator.decodes_word _ _) ?_
      have none' : Bare.ofNumber hashDataNumber = none := by decide
      have none'' : Worded.ofNumber hashDataNumber = none := by decide
      rw [none', none'']
      exact decodes_bind_pure _ _ _ _ (Simulator.decodes_blob data fits)

theorem encode_nonempty (request : Control) : request.encode ≠ [] := by
  intro nothing
  have length := congrArg List.length nothing
  cases request <;> simp [Control.encode] at length

-- What the monitor makes of a reply: it reads the result first and stops there when that is not zero.
inductive Reply where
  | refused (result : UInt32)
  | done
  | capability (bits : UInt32)
  | established (octets : Bytes)
  | bufferSize (size least most : UInt32)
  deriving DecidableEq

def Control.readReply (request : Control) : Decoder IoError Reply := do
  let result ← Simulator.readU32
  if result ≠ 0 then return .refused result
  match request with
  | .bare .getCapability => return .capability (← Simulator.readU32)
  | .bare .getEstablished => return .established (← takeOctets Simulator.short 4)
  | .worded .setBufferSize _ => do
    let size ← Simulator.readU32
    let least ← Simulator.readU32
    let most ← Simulator.readU32
    return .bufferSize size least most
  | _ => return .done

def Control.closes (request : Control) : Bool := request == .bare .shutdown

-- A locality above four is refused, and nothing else is.
def Control.refused (request : Control) : Bool :=
  match request with
  | .worded .setLocality payload | .worded .resetEstablished payload => decide (maxLocality < localityOf payload)
  | _ => false

section

variable {σ : Type} (device : Device σ)

def replyTo (request : Control) (m : Machine σ) : Reply :=
  if request.refused then .refused Rc.locality.value
  else
    match request with
    | .bare .getCapability => .capability capabilities
    | .bare .getEstablished => .established [if device.established m.device then 1 else 0, 0, 0, 0]
    | .worded .setBufferSize payload => .bufferSize (m.link.agreeBufferSize payload).1 minBufferSize maxBufferSize
    | _ => .done

theorem decodes_done (request : Control) (fields : Bytes) (reply : Reply)
    (rest : Decodes (do
      match request with
      | .bare .getCapability => return .capability (← Simulator.readU32)
      | .bare .getEstablished => return .established (← takeOctets Simulator.short 4)
      | .worded .setBufferSize _ => do
        let size ← Simulator.readU32
        let least ← Simulator.readU32
        let most ← Simulator.readU32
        return .bufferSize size least most
      | _ => return .done) fields reply) : Decodes request.readReply (success ++ fields) reply := by
  refine decodes_bind _ _ _ _ _ _ (Simulator.decodes_word _ 0) ?_
  rw [if_neg (by decide)]
  exact rest

theorem decodes_refused (request : Control) :
    Decodes request.readReply (be32 Rc.locality.value) (.refused Rc.locality.value) := by
  refine decodes_bind_last _ _ _ _ _ (Simulator.decodes_word _ Rc.locality.value) ?_
  rw [if_pos (by decide)]
  exact decodes_pure _

theorem decodes_reply (request : Control) (m : Machine σ) :
    Decodes request.readReply (answerControl device request m).2.1 (replyTo device request m) := by
  have plain : ∀ reply, Decodes request.readReply (success ++ []) reply → Decodes request.readReply success reply := by
    intro reply read
    rwa [List.append_nil] at read
  cases request with
  | bare bare =>
      cases bare with
      | getCapability => exact decodes_done _ _ _ (decodes_bind_pure _ _ _ _ (Simulator.decodes_word _ _))
      | getEstablished =>
          refine decodes_done _ _ _ (decodes_bind_pure _ _ _ _ ?_)
          exact decodes_take_octets Simulator.short [if device.established m.device then 1 else 0, 0, 0, 0]
      | _ => exact plain _ (decodes_done _ _ _ (decodes_pure _))
  | worded worded payload =>
      cases worded with
      | init => exact plain _ (decodes_done _ _ _ (decodes_pure _))
      | setBufferSize =>
          refine decodes_done _ _ _ ?_
          refine decodes_bind _ _ _ _ _ _ (Simulator.decodes_word _ _) ?_
          refine decodes_bind _ _ _ _ _ _ (Simulator.decodes_word _ _) ?_
          exact decodes_bind_pure _ _ _ _ (Simulator.decodes_word _ _)
      | setLocality =>
          simp only [answerControl, answerWorded, replyTo, Control.refused, decide_eq_true_eq]
          by_cases high : maxLocality < localityOf payload
          · rw [if_pos high, if_pos high]
            exact decodes_refused _
          · rw [if_neg high, if_neg high]
            exact plain _ (decodes_done _ _ _ (decodes_pure _))
      | resetEstablished =>
          simp only [answerControl, answerWorded, replyTo, Control.refused, decide_eq_true_eq]
          by_cases high : maxLocality < localityOf payload
          · rw [if_pos high, if_pos high]
            exact decodes_refused _
          · rw [if_neg high, if_neg high]
            exact plain _ (decodes_done _ _ _ (decodes_pure _))
  | hashData data => exact plain _ (decodes_done _ _ _ (decodes_pure _))

theorem answer_goes_on (request : Control) (m : Machine σ) : (answerControl device request m).2.2 = !request.closes := by
  cases request with
  | bare bare => cases bare <;> rfl
  | _ => rfl

-- The control channel keeps its framing whatever is refused: the monitor that reads a reply the way it does finds the
-- next reply where it stopped.
theorem control_exchange (requests : List Control) (fits : ∀ request ∈ requests, request.Fits) (m : Machine σ) :
    ((controlService device).serve (requests.flatMap Control.encode) m).state =
        ((controlService device).answers requests m).1 ∧
      (Service.readReplies Control.readReply Control.closes requests).run
          ((controlService device).serve (requests.flatMap Control.encode) m).replies =
        .ok ((controlService device).repliesTo Control.closes (replyTo device) requests m, []) :=
  (controlService device).exchange Control.readReply Control.closes (replyTo device) Control.encode encode_nonempty
    (answer_goes_on device) (decodes_reply device) requests
    (fun request member => decodes_control request (fits request member)) m

theorem control_exchange_refused : ((controlService Simulator.Toy.echo).serve
        ([.worded .setLocality 0x05000000, .bare .getCapability].flatMap Control.encode) ⟨0, {}, false⟩).state =
      ((controlService Simulator.Toy.echo).answers [.worded .setLocality 0x05000000, .bare .getCapability]
        ⟨0, {}, false⟩).1 ∧
    (Service.readReplies Control.readReply Control.closes
        [.worded .setLocality 0x05000000, .bare .getCapability]).run
        ((controlService Simulator.Toy.echo).serve
          ([.worded .setLocality 0x05000000, .bare .getCapability].flatMap Control.encode) ⟨0, {}, false⟩).replies =
      .ok ((controlService Simulator.Toy.echo).repliesTo Control.closes (replyTo Simulator.Toy.echo)
        [.worded .setLocality 0x05000000, .bare .getCapability] ⟨0, {}, false⟩, []) :=
  control_exchange Simulator.Toy.echo _ (by simp [Control.Fits]) ⟨0, {}, false⟩

theorem control_makes_whole_requests (input : Bytes) (m : Machine σ) :
    ∃ requests tail, input = requests.flatMap Control.encode ++ tail ∧ (∀ request ∈ requests, request.Fits) ∧
      ((controlService device).serve input m).state = ((controlService device).answers requests m).1 ∧
      ((controlService device).serve input m).replies = ((controlService device).answers requests m).2.1 ∧
      (controlService device).Ends tail ((controlService device).answers requests m).2.2
        ((controlService device).serve input m).ending :=
  (controlService device).serve_splits Control.encode Control.Fits canonical_control encode_nonempty
    (fun input request rest read => control_fits input rest request read) input m

end

theorem size_field_take (input : Bytes) (count : Nat) (enough : 6 ≤ count) :
    sizeField (input.take count) = sizeField input := by
  unfold sizeField
  rw [List.drop_take, List.take_take, Nat.min_eq_left (by omega)]

-- Both readers of bare commands take the octets that the size field counts, when it counts at least a header and at
-- most a transfer, and they are there.
def CommandAt (input command rest : Bytes) : Prop :=
  headerSize ≤ sizeField input ∧ sizeField input ≤ Simulator.maxTransfer.toNat ∧ sizeField input ≤ input.length ∧
    command = input.take (sizeField input) ∧ rest = input.drop (sizeField input)

theorem framed_is_ok (front : Nat) (late : IoError) (odd : Bytes → IoError) (enough : 6 ≤ front) (fits : front ≤ headerSize)
    (input command rest : Bytes) :
    (do
      let head ← takeOctets late front
      if sizeField head < headerSize ∨ Simulator.maxTransfer.toNat < sizeField head then throw (odd head)
      let body ← takeOctets Simulator.short (sizeField head - front)
      return head ++ body : Decoder IoError Bytes).run input = .ok (command, rest) ↔ CommandAt input command rest := by
  rw [reader_bind_is_ok]
  constructor
  · rintro ⟨head, middle, first, second⟩
    have written := canonical_take_octets late front input head middle first
    have length := take_octets_length late front input head middle first
    rw [List.nil_append] at written
    have front' : head = input.take front := by rw [written, ← length]; simp
    have size : sizeField head = sizeField input := by rw [front', size_field_take input front enough]
    by_cases bad : sizeField head < headerSize ∨ Simulator.maxTransfer.toNat < sizeField head
    · rw [if_pos bad] at second
      cases second
    · rw [if_neg bad] at second
      obtain ⟨body, back, third, last⟩ := (reader_bind_is_ok _ _ _ _ _).mp second
      cases last
      have written' := canonical_take_octets _ _ middle body rest third
      have length' := take_octets_length _ _ middle body rest third
      rw [List.nil_append] at written'
      have whole : input = (head ++ body) ++ rest := by rw [written, written', List.append_assoc]; rfl
      have count : sizeField input = (head ++ body).length := by
        rw [List.length_append, length, length', ← size]
        simp only [headerSize] at bad fits
        omega
      rw [not_or, Nat.not_lt, Nat.not_lt, size] at bad
      refine ⟨bad.1, bad.2, ?_, ?_, ?_⟩
      · rw [count, whole, @List.length_append _ _ rest]
        exact Nat.le_add_right _ _
      · rw [count, whole, List.take_left]
      · rw [count, whole, List.drop_left]
  · rintro ⟨least, most, there, taken, left⟩
    have inside : ¬ input.length < front := by omega
    refine ⟨input.take front, input.drop front, ?_, ?_⟩
    · simp [takeOctets, StateT.run, inside]
    · rw [size_field_take input front enough, if_neg (by omega), reader_bind_is_ok]
      refine ⟨(input.drop front).take (sizeField input - front), (input.drop front).drop (sizeField input - front), ?_, ?_⟩
      · have more : ¬ (input.drop front).length < sizeField input - front := by
          rw [List.length_drop]
          omega
        simp only [takeOctets, StateT.run, if_neg more]
      · have split : input.take front ++ (input.drop front).take (sizeField input - front) = command := by
          rw [taken, ← List.take_add, Nat.add_sub_cancel' (by omega)]
        have last : (input.drop front).drop (sizeField input - front) = rest := by
          rw [left, List.drop_drop, Nat.add_sub_cancel' (by omega)]
        rw [split, last]
        rfl

theorem readers_agree (input command rest : Bytes) :
    Pipe.readCommand.run input = .ok (command, rest) ↔ readCommand.run input = .ok (command, rest) :=
  (framed_is_ok 6 _ (fun head => .invalidData s!"commandSize {sizeField head} is out of range") (by decide) (by decide)
      input command rest).trans
    (framed_is_ok headerSize _ (fun header => .invalidData s!"command size {sizeField header} is not usable") (by decide)
      (by decide) input command rest).symm

-- Two connections end alike: where one fails the other fails, with an error that may differ in its kind and its text.
def SameEnding : Ending IoError → Ending IoError → Prop
  | .failed _, .failed _ => True
  | a, b => a = b

-- A pipe client is served as a data channel at locality zero is, octet for octet, though the pipe asks for the size
-- of a command before it has read its header.
theorem pipe_serves_as_data_channel {σ : Type} (device : Device σ) (input : Bytes) (host : Hosted σ) (m : Machine σ)
    (same : host.device = m.device) (zero : m.link.locality = 0) :
    ((Pipe.service device).serve input host).state.device = ((dataService device).serve input m).state.device ∧
      ((Pipe.service device).serve input host).replies = ((dataService device).serve input m).replies ∧
      SameEnding ((Pipe.service device).serve input host).ending ((dataService device).serve input m).ending := by
  have all : ∀ (rounds : Nat) (input : Bytes) (host : Hosted σ) (m : Machine σ), host.device = m.device →
      m.link.locality = 0 →
      ((Pipe.service device).serveFrom rounds input host).state.device =
          ((dataService device).serveFrom rounds input m).state.device ∧
        ((Pipe.service device).serveFrom rounds input host).replies =
          ((dataService device).serveFrom rounds input m).replies ∧
        SameEnding ((Pipe.service device).serveFrom rounds input host).ending
          ((dataService device).serveFrom rounds input m).ending := by
    intro rounds
    induction rounds with
    | zero => exact fun input host m same _ => ⟨same, rfl, rfl⟩
    | succ rounds ih =>
        intro input host m same zero
        by_cases nothing : input = []
        · subst nothing
          exact ⟨same, rfl, rfl⟩
        have some' : ¬ input.isEmpty = true := by simpa using nothing
        cases read : (dataService device).read.run input with
        | ok pair =>
            obtain ⟨command, rest⟩ := pair
            have read' : (Pipe.service device).read.run input = .ok (command, rest) :=
              (readers_agree input command rest).mpr read
            rw [Service.serve_from_read _ _ _ _ _ _ nothing read, Service.serve_from_read _ _ _ _ _ _ nothing read']
            have answers : ((Pipe.service device).answer command host).1.device =
                  ((dataService device).answer command m).1.device ∧
                ((Pipe.service device).answer command host).2.1 = ((dataService device).answer command m).2.1 := by
              simp only [Pipe.service, Pipe.answer, dataService, answerData, same, zero, and_self]
            obtain ⟨state, replies, ending⟩ := ih rest ((Pipe.service device).answer command host).1
              ((dataService device).answer command m).1 answers.1 zero
            refine ⟨state, ?_, ending⟩
            show _ ++ _ = _ ++ _
            rw [answers.2, replies]
        | error e =>
            cases read' : (Pipe.service device).read.run input with
            | ok pair =>
                have found := (readers_agree input pair.1 pair.2).mp read'
                have found : (dataService device).read.run input = .ok (pair.1, pair.2) := found
                rw [read] at found
                cases found
            | error e' =>
                have failed : (dataService device).serveFrom (rounds + 1) input m = ⟨m, [], .failed e⟩ := by
                  rw [Service.serveFrom, if_neg some', read]
                have failed' : (Pipe.service device).serveFrom (rounds + 1) input host = ⟨host, [], .failed e'⟩ := by
                  rw [Service.serveFrom, if_neg some', read']
                rw [failed, failed']
                exact ⟨same, rfl, trivial⟩
  exact all _ input host m same zero

theorem pipe_serves_truncated :
    ((Pipe.service Simulator.Toy.echo).serve [0x80, 1, 0, 0, 0, 12, 0, 0] ⟨0, false⟩).state.device =
        ((dataService Simulator.Toy.echo).serve [0x80, 1, 0, 0, 0, 12, 0, 0] ⟨0, {}, false⟩).state.device ∧
      ((Pipe.service Simulator.Toy.echo).serve [0x80, 1, 0, 0, 0, 12, 0, 0] ⟨0, false⟩).replies =
        ((dataService Simulator.Toy.echo).serve [0x80, 1, 0, 0, 0, 12, 0, 0] ⟨0, {}, false⟩).replies ∧
      SameEnding ((Pipe.service Simulator.Toy.echo).serve [0x80, 1, 0, 0, 0, 12, 0, 0] ⟨0, false⟩).ending
        ((dataService Simulator.Toy.echo).serve [0x80, 1, 0, 0, 0, 12, 0, 0] ⟨0, {}, false⟩).ending :=
  pipe_serves_as_data_channel Simulator.Toy.echo _ ⟨0, false⟩ ⟨0, {}, false⟩ rfl rfl

end Qemu

end Server

end Swtrust
