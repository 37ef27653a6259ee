import Swtrust.Library.Wire

set_option autoImplicit false

namespace Swtrust

open Library

abbrev Text := List Char

namespace Hex

def digits : Text := "0123456789abcdef".toList

def digit (n : UInt8) : Char := digits.getD n.toNat '0'

def encode : Bytes → Text
  | [] => []
  | b :: rest => digit (b >>> 4) :: digit (b &&& 0x0f) :: encode rest

-- `i` counts the characters already written.
def wrapFrom (width : Nat) : (i : Nat) → Text → Text
  | _, [] => []
  | i, ch :: rest =>
      if 0 < i ∧ i % width = 0 then '\n' :: ch :: wrapFrom width (i + 1) rest
      else ch :: wrapFrom width (i + 1) rest

def encodeWrapped (bytes : Bytes) (width : Nat) : Text :=
  if width = 0 then encode bytes else wrapFrom width 0 (encode bytes)

def nibble (c : Char) : Option UInt8 :=
  if '0' ≤ c ∧ c ≤ '9' then some (c.toUInt8 - 48)
  else if 'a' ≤ c ∧ c ≤ 'f' then some (c.toUInt8 - 97 + 10)
  else if 'A' ≤ c ∧ c ≤ 'F' then some (c.toUInt8 - 65 + 10)
  else none

def isAsciiWhitespace (c : Char) : Bool := c == ' ' || c == '\t' || c == '\n' || c == '\x0c' || c == '\r'

-- `i` is the offset in octets. A character outside ASCII is refused at its first octet.
def decodeFrom : (i : Nat) → (high : Option UInt8) → Text → Except String Bytes
  | _, none, [] => .ok []
  | _, some _, [] => .error "hex input has an odd number of digits"
  | i, high, c :: rest =>
      if isAsciiWhitespace c then decodeFrom (i + c.utf8Size) high rest
      else
        match nibble c with
        | none => .error s!"invalid hex character at offset {i}"
        | some n =>
          match high with
          | none => decodeFrom (i + c.utf8Size) (some n) rest
          | some h => (fun out => (h <<< 4 ||| n) :: out) <$> decodeFrom (i + c.utf8Size) none rest

def decode (text : Text) : Except String Bytes := decodeFrom 0 none text

def stripped (text : Text) : Text := text.filter fun c => !isAsciiWhitespace c

theorem octet_of_halves (h n : UInt8) (highSmall : h < 16) (lowSmall : n < 16) :
    (h <<< 4 ||| n) >>> 4 = h ∧ (h <<< 4 ||| n) &&& 0x0f = n := by
  have all : ∀ a b : Fin 16, (UInt8.ofNat a.val <<< 4 ||| UInt8.ofNat b.val) >>> 4 = UInt8.ofNat a.val ∧
      (UInt8.ofNat a.val <<< 4 ||| UInt8.ofNat b.val) &&& 0x0f = UInt8.ofNat b.val := by decide +kernel
  have this := all ⟨h.toNat, UInt8.lt_iff_toNat_lt.mp highSmall⟩ ⟨n.toNat, UInt8.lt_iff_toNat_lt.mp lowSmall⟩
  simpa only [UInt8.ofNat_toNat] using this

theorem halves_of_octet (b : UInt8) : (b >>> 4) <<< 4 ||| (b &&& 0x0f) = b ∧ b >>> 4 < 16 ∧ b &&& 0x0f < 16 := by
  have all : ∀ a : Fin 256, (UInt8.ofNat a.val >>> 4) <<< 4 ||| (UInt8.ofNat a.val &&& 0x0f) = UInt8.ofNat a.val ∧
      UInt8.ofNat a.val >>> 4 < 16 ∧ UInt8.ofNat a.val &&& 0x0f < 16 := by decide +kernel
  have this := all ⟨b.toNat, b.toNat_lt⟩
  simpa only [UInt8.ofNat_toNat] using this

theorem digit_facts (n : UInt8) (small : n < 16) :
    nibble (digit n) = some n ∧ isAsciiWhitespace (digit n) = false ∧ (digit n).toLower = digit n := by
  have all : ∀ a : Fin 16, nibble (digit (UInt8.ofNat a.val)) = some (UInt8.ofNat a.val) ∧
      isAsciiWhitespace (digit (UInt8.ofNat a.val)) = false ∧
      (digit (UInt8.ofNat a.val)).toLower = digit (UInt8.ofNat a.val) := by decide +kernel
  have this := all ⟨n.toNat, UInt8.lt_iff_toNat_lt.mp small⟩
  simpa only [UInt8.ofNat_toNat] using this

-- What is read as a digit is that digit or its capital.
theorem nibble_digit (c : Char) (n : UInt8) (read : nibble c = some n) : n < 16 ∧ c.toLower = digit n := by
  have all : ∀ a : Fin 128, ∀ m, nibble (Char.ofNat a.val) = some m →
      m < 16 ∧ (Char.ofNat a.val).toLower = digit m := by
    have each : ∀ a : Fin 128, (nibble (Char.ofNat a.val)).all fun m =>
      decide (m < 16) && ((Char.ofNat a.val).toLower == digit m) := by decide +kernel
    intro a m found
    have this := each a
    simp only [found, Option.all_some, Bool.and_eq_true, decide_eq_true_eq, beq_iff_eq] at this
    exact this
  have ascii : c.toNat < 128 := by
    unfold nibble at read
    split at read
    next digit => exact Nat.lt_of_le_of_lt (Char.le_def.mp digit.2) (by decide)
    split at read
    next lower => exact Nat.lt_of_le_of_lt (Char.le_def.mp lower.2) (by decide)
    split at read
    next capital => exact Nat.lt_of_le_of_lt (Char.le_def.mp capital.2) (by decide)
    cases read
  have this := all ⟨c.toNat, ascii⟩ n
  simp only [Char.ofNat_toNat] at this
  exact this read

theorem digit_nibble (c : Char) (n : UInt8) (small : n < 16) (same : c.toLower = digit n) : (nibble c).isSome := by
  have all : ∀ a : Fin 128, ∀ b : Fin 16, (Char.ofNat a.val).toLower = digit (UInt8.ofNat b.val) →
      (nibble (Char.ofNat a.val)).isSome := by decide +kernel
  have narrow : ∀ b : Fin 16, (digit (UInt8.ofNat b.val)).toNat < 128 := by decide +kernel
  have ascii : c.toNat < 128 := by
    have bound := narrow ⟨n.toNat, UInt8.lt_iff_toNat_lt.mp small⟩
    simp only [UInt8.ofNat_toNat, ← same] at bound
    by_cases capital : c.val ≥ 'A'.val ∧ c.val ≤ 'Z'.val
    · exact Nat.lt_of_le_of_lt (UInt32.le_iff_toNat_le.mp capital.2) (by decide)
    · have kept : c.toLower = c := dif_neg capital
      rwa [kept] at bound
  have this := all ⟨c.toNat, ascii⟩ ⟨n.toNat, UInt8.lt_iff_toNat_lt.mp small⟩
  simp only [Char.ofNat_toNat, UInt8.ofNat_toNat] at this
  exact this same

-- The digit waiting for its second half.
def pending : Option UInt8 → Text
  | none => []
  | some h => [digit h]

theorem stripped_space (c : Char) (text : Text) (space : isAsciiWhitespace c = true) :
    stripped (c :: text) = stripped text := by
  simp [stripped, space]

theorem stripped_solid (c : Char) (text : Text) (solid : ¬ isAsciiWhitespace c = true) :
    stripped (c :: text) = c :: stripped text := by
  simp [stripped, solid]

theorem encode_head (c : Char) (text : Text) (data : Bytes) (same : c :: text = encode data) :
    ∃ b rest, data = b :: rest ∧ c = digit (b >>> 4) ∧ text = digit (b &&& 0x0f) :: encode rest := by
  cases data with
  | nil => cases same
  | cons b rest =>
      simp only [encode, List.cons.injEq] at same
      exact ⟨b, rest, rfl, same.1, same.2⟩

-- Every digit of an encoding can be read.
theorem encode_reads (text : Text) (data : Bytes) (same : text.map Char.toLower = encode data) (c : Char)
    (member : c ∈ text) : (nibble c).isSome := by
  have digits : ∀ data : Bytes, ∀ d ∈ encode data, ∃ n : UInt8, n < 16 ∧ d = digit n := by
    intro data
    induction data with
    | nil => simp [encode]
    | cons b rest ih =>
        obtain ⟨-, high, low⟩ := halves_of_octet b
        intro d found
        simp only [encode, List.mem_cons] at found
        rcases found with first | second | later
        · exact ⟨_, high, first⟩
        · exact ⟨_, low, second⟩
        · exact ih d later
  have lowered : c.toLower ∈ encode data := same ▸ List.mem_map_of_mem member
  obtain ⟨n, small, found⟩ := digits data _ lowered
  exact digit_nibble c n small found

theorem decode_from_ok_iff (text : Text) : ∀ (i : Nat) (high : Option UInt8) (_ : ∀ h ∈ high, h < 16) (data : Bytes),
    decodeFrom i high text = .ok data ↔ pending high ++ (stripped text).map Char.toLower = encode data := by
  induction text with
  | nil =>
      intro i high small data
      cases high with
      | none =>
          simp only [decodeFrom, pending, stripped, List.filter_nil, List.map_nil, List.append_nil, Except.ok.injEq]
          cases data with
          | nil => simp [encode]
          | cons b rest => simp [encode]
      | some h =>
          simp only [decodeFrom, pending, stripped, List.filter_nil, List.map_nil, List.append_nil, reduceCtorEq,
            false_iff]
          intro same
          obtain ⟨b, rest, -, -, short⟩ := encode_head _ _ _ same
          cases short
  | cons c rest ih =>
      intro i high small data
      by_cases space : isAsciiWhitespace c = true
      · rw [decodeFrom, if_pos space, stripped_space c rest space]
        exact ih _ high small data
      rw [decodeFrom, if_neg space, stripped_solid c rest space, List.map_cons]
      cases read : nibble c with
      | none =>
          simp only [reduceCtorEq, false_iff]
          intro same
          -- The digits after the one that waits are those of an encoding, and this one is not.
          cases high with
          | none =>
              have reads := encode_reads (c :: stripped rest) data same c List.mem_cons_self
              rw [read] at reads
              cases reads
          | some h =>
              have lowered : pending (some h) = (pending (some h)).map Char.toLower := by
                simp only [pending, List.map_cons, List.map_nil, (digit_facts h (small h rfl)).2.2]
              rw [lowered, ← List.map_cons, ← List.map_append] at same
              have reads := encode_reads _ data same c (List.mem_append_right _ List.mem_cons_self)
              rw [read] at reads
              cases reads
      | some n =>
          obtain ⟨low, lowered⟩ := nibble_digit c n read
          rw [lowered]
          cases high with
          | none =>
              exact ih _ (some n) (fun h member => by cases member; exact low) data
          | some h =>
              have high := small h rfl
              obtain ⟨first, second⟩ := octet_of_halves h n high low
              simp only [pending, List.singleton_append]
              constructor
              · intro decoded
                cases tail : decodeFrom (i + c.utf8Size) none rest with
                | error e =>
                    rw [tail] at decoded
                    cases decoded
                | ok out =>
                    rw [tail] at decoded
                    cases decoded
                    have more := (ih _ none (fun _ member => by cases member) out).mp tail
                    simp only [pending, List.nil_append] at more
                    simp only [encode, first, second, more]
              · intro same
                obtain ⟨b, out, rfl, front, back⟩ := encode_head _ _ _ same
                obtain ⟨whole, highPart, lowPart⟩ := halves_of_octet b
                simp only [List.cons.injEq] at back
                have more := (ih (i + c.utf8Size) none (fun _ member => by cases member) out).mpr back.2
                rw [more]
                have sameHigh : h = b >>> 4 := by
                  have read := (digit_facts h high).1
                  rw [front, (digit_facts _ highPart).1] at read
                  exact (Option.some.inj read).symm
                have sameLow : n = b &&& 0x0f := by
                  have read := (digit_facts n low).1
                  rw [back.1, (digit_facts _ lowPart).1] at read
                  exact (Option.some.inj read).symm
                rw [sameHigh, sameLow]
                exact congrArg (fun octet => Except.ok (octet :: out)) whole

-- The decoder takes the encoding of each octet string, in either case and broken by blanks anywhere, and nothing
-- else.
theorem decode_ok_iff (text : Text) (data : Bytes) :
    decode text = .ok data ↔ (stripped text).map Char.toLower = encode data :=
  decode_from_ok_iff text 0 none (fun _ member => by cases member) data

end Hex

end Swtrust
