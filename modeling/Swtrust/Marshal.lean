import Swtrust.Constants

set_option autoImplicit false

namespace Swtrust

open Library

namespace TpmRc

def rcFmt1 : UInt32 := 0x080

def isFormatOne (rc : TpmRc) : Bool := (rc.value &&& rcFmt1) != 0

def isBaseFormatOne (rc : TpmRc) : Bool := decide (0x080 ≤ rc.value) && decide (rc.value ≤ 0x0BF)

def qualify (rc : TpmRc) (kind : UInt32) (index max : Nat) : TpmRc :=
  if !rc.isBaseFormatOne then rc
  else if index = 0 ∨ index > max then rc
  else ⟨rcFmt1 ||| (rc.value &&& (0x03F : UInt32)) ||| kind ||| (UInt32.ofNat index <<< 8)⟩

def withHandle (rc : TpmRc) (index : Nat) : TpmRc := rc.qualify 0x000 index 7

def withParameter (rc : TpmRc) (index : Nat) : TpmRc := rc.qualify 0x040 index 15

def withSession (rc : TpmRc) (index : Nat) : TpmRc := rc.qualify 0x800 index 7

def atParameter (rc : TpmRc) (index : Nat) : TpmRc :=
  if !rc.isFormatOne then rc else TpmRc.withParameter ⟨rcFmt1 ||| (rc.value &&& (0x03F : UInt32))⟩ index

end TpmRc

def satSucc (value : UInt64) : UInt64 := if value = 0xFFFFFFFFFFFFFFFF then value else value + 1

def satSub (a b : UInt64) : UInt64 := if a < b then 0 else a - b

def satAdd (a b : UInt64) : UInt64 := if a + b < a then 0xFFFFFFFFFFFFFFFF else a + b

abbrev Reader := Decoder TpmRc

def Reader.mapErr {α : Type} (f : TpmRc → TpmRc) (reader : Reader α) : Reader α :=
  fun input => (reader input).mapError f

def Reader.withParameter {α : Type} (index : Nat) (reader : Reader α) : Reader α :=
  reader.mapErr (·.withParameter index)

def Reader.fromBytes {α : Type} (reader : Reader α) (input : Bytes) : TpmResult α :=
  match reader.run input with
  | .error e => .error e
  | .ok (value, []) => .ok value
  | .ok (_, _ :: _) => .error Rc.size

def expectEnd : Reader Unit := fun input =>
  if input.isEmpty then .ok ((), input) else .error Rc.size

def readerIsEmpty : Reader Bool := fun input => .ok (input.isEmpty, input)

def take (count : Nat) : Reader Bytes := takeOctets Rc.insufficient count

def u8 : Reader UInt8 := do return UInt8.ofNat (← takeNat Rc.insufficient 1)
def u16 : Reader UInt16 := do return UInt16.ofNat (← takeNat Rc.insufficient 2)
def u32 : Reader UInt32 := do return UInt32.ofNat (← takeNat Rc.insufficient 4)
def u64 : Reader UInt64 := do return UInt64.ofNat (← takeNat Rc.insufficient 8)

def Reader.sub {α : Type} (size : Nat) (reader : Reader α) : Reader α :=
  Decoder.within Rc.insufficient Rc.size size reader

def Reader.sized16 {α : Type} (reader : Reader α) : Reader α := do
  let size ← u16
  reader.sub size.toNat

def readSized : Reader Bytes := do
  let size ← u16
  take size.toNat

def be8 (value : UInt8) : Bytes := [value]
def be16 (value : UInt16) : Bytes := beBytes 2 value.toNat
def be32 (value : UInt32) : Bytes := beBytes 4 value.toNat
def be64 (value : UInt64) : Bytes := beBytes 8 value.toNat
def beBool (value : Bool) : Bytes := [if value then 1 else 0]

def sized16 (body : Bytes) : Bytes := be16 (UInt16.ofNat body.length) ++ body

def unmarshalList {α : Type} (reader : Reader α) (max : Nat) : Reader (List α) := do
  let count ← u32
  if max < count.toNat then throw Rc.size
  decodeMany reader count.toNat

def marshalList {α : Type} (encode : α → Bytes) (items : List α) : Bytes :=
  be32 (UInt32.ofNat items.length) ++ items.flatMap encode

def readFlag : Reader Bool := do return (← u8) != 0

def beOption {α : Type} (encode : α → Bytes) : Option α → Bytes
  | none => be8 0
  | some value => be8 1 ++ encode value

def readOption {α : Type} (reader : Reader α) : Reader (Option α) := do
  if ← readFlag then some <$> reader else return none

@[simp] theorem be16_length (value : UInt16) : (be16 value).length = 2 := be_bytes_length 2 _
@[simp] theorem be32_length (value : UInt32) : (be32 value).length = 4 := be_bytes_length 4 _
@[simp] theorem be64_length (value : UInt64) : (be64 value).length = 8 := be_bytes_length 8 _

theorem be32_inj (a b : UInt32) (same : be32 a = be32 b) : a = b :=
  UInt32.toNat_inj.mp (be_bytes_inj 4 _ _ (by simpa using a.toNat_lt) (by simpa using b.toNat_lt) same)

theorem be64_inj (a b : UInt64) (same : be64 a = be64 b) : a = b :=
  UInt64.toNat_inj.mp (be_bytes_inj 8 _ _ (by simpa using a.toNat_lt) (by simpa using b.toNat_lt) same)

theorem decodes_u8 (value : UInt8) : Decodes u8 (be8 value) value := by
  have read := decodes_bind_pure _ UInt8.ofNat _ _
    (decodes_take_nat Rc.insufficient 1 value.toNat (by simpa using value.toNat_lt))
  have shape : beBytes 1 value.toNat = be8 value := by simp [beBytes, be8]
  rw [shape, UInt8.ofNat_toNat] at read
  exact read

theorem decodes_u16 (value : UInt16) : Decodes u16 (be16 value) value := by
  have read := decodes_bind_pure _ UInt16.ofNat _ _
    (decodes_take_nat Rc.insufficient 2 value.toNat (by simpa using value.toNat_lt))
  rw [UInt16.ofNat_toNat] at read
  exact read

theorem decodes_u32 (value : UInt32) : Decodes u32 (be32 value) value := by
  have read := decodes_bind_pure _ UInt32.ofNat _ _
    (decodes_take_nat Rc.insufficient 4 value.toNat (by simpa using value.toNat_lt))
  rw [UInt32.ofNat_toNat] at read
  exact read

theorem decodes_take (octets : Bytes) : Decodes (take octets.length) octets octets :=
  decodes_take_octets Rc.insufficient octets

theorem decodes_read_sized (body : Bytes) (short : body.length < 65536) : Decodes readSized (sized16 body) body := by
  refine decodes_bind _ _ _ _ _ _ (decodes_u16 _) ?_
  have size : (UInt16.ofNat body.length).toNat = body.length := by
    simpa using Nat.mod_eq_of_lt short
  rw [size]
  exact decodes_take body

end Swtrust
