import Mathlib.Data.Nat.Size
import Swtrust.Marshal

set_option autoImplicit false

namespace Swtrust.Der

open Library

namespace Tag

def boolean : UInt8 := 0x01
def integer : UInt8 := 0x02
def bitString : UInt8 := 0x03
def octetString : UInt8 := 0x04
def null : UInt8 := 0x05
def oid : UInt8 := 0x06
def sequence : UInt8 := 0x30

def context (number : UInt8) : UInt8 := (0xA0 : UInt8) ||| number

end Tag

structure Element where
  tag : UInt8
  value : Bytes
  raw : Bytes
  deriving DecidableEq

def readLength : Reader Nat := do
  let first ← u8
  if first < 0x80 then return first.toNat
  let count := first.toNat - 0x80
  if count = 0 ∨ 4 < count then throw Rc.value
  let length ← takeNat Rc.insufficient count
  if length < 0x80 then throw Rc.value
  return length

def element : Reader Element := do
  let start ← get
  let tag ← u8
  let length ← readLength
  let value ← take length
  let rest ← get
  return { tag, value, raw := start.take (start.length - rest.length) }

def tagged (want : UInt8) : Reader Element := do
  let read ← element
  if read.tag ≠ want then throw Rc.value
  return read

def only {α : Type} (reader : Reader α) (input : Bytes) : TpmResult α :=
  match reader.run input with
  | .error e => .error e
  | .ok (value, []) => .ok value
  | .ok (_, _ :: _) => .error Rc.value

def elements : Nat → Reader (List Element)
  | 0 => do
    if ← readerIsEmpty then return []
    let _ ← element
    throw Rc.value
  | room + 1 => do
    if ← readerIsEmpty then return []
    let head ← element
    return head :: (← elements room)

def lengthOctets (length : Nat) : Bytes :=
  if length < 0x80 then [UInt8.ofNat length]
  else
    let octets := beBytes ((length.size + 7) / 8) length
    UInt8.ofNat (0x80 + octets.length) :: octets

def tlv (tag : UInt8) (value : Bytes) : Bytes := tag :: lengthOctets value.length ++ value

def sequence (parts : List Bytes) : Bytes := tlv Tag.sequence parts.flatten

def context (number : UInt8) (parts : List Bytes) : Bytes := tlv (Tag.context number) parts.flatten

def unsignedInteger (value : Bytes) : Bytes :=
  match value.dropWhile (· == 0) with
  | [] => tlv Tag.integer [0]
  | head :: rest => tlv Tag.integer (if 0x80 ≤ head then 0 :: head :: rest else head :: rest)

def bitString (value : Bytes) : Bytes := tlv Tag.bitString (0 :: value)

def bitField (value : Bytes) : TpmResult UInt32 :=
  match value with
  | [] => .error Rc.insufficient
  | unused :: bits =>
      if 7 < unused ∨ (bits.isEmpty ∧ unused ≠ 0) then .error Rc.value
      else if 4 < bits.length then .error Rc.size
      else .ok (UInt32.ofNat (beNat (bits ++ List.replicate (4 - bits.length) 0)))

theorem decodes_read_length (length : Nat) (small : length < 256 ^ 4) :
    Decodes readLength (lengthOctets length) length := by
  by_cases short : length < 0x80
  · have first := decodes_u8 (UInt8.ofNat length)
    have octet : (UInt8.ofNat length).toNat = length := by simp; omega
    have less : UInt8.ofNat length < 0x80 := by
      rw [UInt8.lt_iff_toNat_lt, octet]
      exact short
    rw [lengthOctets, if_pos short, readLength]
    refine decodes_bind_last _ _ _ _ _ first ?_
    rw [if_pos less, octet]
    exact decodes_pure length
  · have bits : length.size ≤ 32 := Nat.size_le.mpr (by omega)
    have positive : 8 ≤ length.size := by
      by_contra fewer
      have := Nat.size_le.mp (show length.size ≤ 7 by omega)
      omega
    generalize count : (length.size + 7) / 8 = width
    have width4 : width ≤ 4 := by omega
    have first := decodes_u8 (UInt8.ofNat (0x80 + width))
    have octet : (UInt8.ofNat (0x80 + width)).toNat = 0x80 + width := by simp; omega
    have notLess : ¬ UInt8.ofNat (0x80 + width) < 0x80 := by
      rw [UInt8.lt_iff_toNat_lt, octet]
      simp
    have fits : length < 256 ^ width := by
      have below := Nat.lt_size_self length
      have wide : length.size ≤ 8 * width := by omega
      calc length < 2 ^ length.size := below
        _ ≤ 2 ^ (8 * width) := Nat.pow_le_pow_right (by omega) wide
        _ = 256 ^ width := by rw [pow_mul]; norm_num
    have shape : lengthOctets length = [UInt8.ofNat (0x80 + width)] ++ beBytes width length := by
      simp only [lengthOctets, if_neg short, count, be_bytes_length, List.singleton_append]
    rw [shape, readLength]
    refine decodes_bind _ _ _ _ _ _ first ?_
    rw [if_neg notLess, octet, Nat.add_sub_cancel_left, if_neg (by omega)]
    refine decodes_bind_last _ _ _ _ _ (decodes_take_nat Rc.insufficient width length fits) ?_
    rw [if_neg short]
    exact decodes_pure length

-- What `tlv` writes `element` reads back, with the whole of it as the raw octets.
theorem decodes_element (tag : UInt8) (value : Bytes) (small : value.length < 256 ^ 4) :
    Decodes element (tlv tag value) ⟨tag, value, tlv tag value⟩ := by
  intro rest
  have tagRead := decodes_u8 tag (lengthOctets value.length ++ (value ++ rest))
  have lengthRead := decodes_read_length value.length small (value ++ rest)
  have valueRead := decodes_take value rest
  have input : tlv tag value ++ rest = be8 tag ++ (lengthOctets value.length ++ (value ++ rest)) := by
    simp [tlv, be8]
  have raw : (tlv tag value ++ rest).take ((tlv tag value ++ rest).length - rest.length) = tlv tag value := by
    rw [List.length_append, Nat.add_sub_cancel]
    exact List.take_left
  simp only [element, StateT.run_bind, StateT.run_get, StateT.run_pure, pure_bind]
  rw [input, tagRead]
  simp only [Except.bind, bind]
  rw [lengthRead]
  simp only [valueRead]
  rw [← input, raw]
  rfl

end Swtrust.Der
