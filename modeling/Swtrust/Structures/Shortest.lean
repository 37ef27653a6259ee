import Swtrust.Structures.Canonical
import Swtrust.Structures.Der

set_option autoImplicit false

namespace Swtrust

open Library

theorem be_nat_cons (head : UInt8) (octets : Bytes) :
    beNat (head :: octets) = head.toNat * 256 ^ octets.length + beNat octets := by
  induction octets using List.reverseRecOn with
  | nil => simp [beNat]
  | append_singleton octets octet ih =>
      rw [← List.cons_append, be_nat_concat, ih, be_nat_concat, List.length_append, List.length_singleton, pow_succ]
      ring

theorem u8_is_ok (input rest : Bytes) (octet : UInt8) (read : u8.run input = .ok (octet, rest)) :
    input = octet :: rest := by
  exact canonical_number 1 UInt8.ofNat be8 (fun _ _ => rfl) input octet rest read

namespace Der

-- The octets that are read as a length: one below 0x80, or a count and then as many octets of a larger number.
inductive LengthField : Bytes → Nat → Prop where
  | short (octet : UInt8) (small : octet < 0x80) : LengthField [octet] octet.toNat
  | long (first : UInt8) (digits : Bytes) (count : first.toNat = 0x80 + digits.length) (some : 0 < digits.length)
      (few : digits.length ≤ 4) (large : 0x80 ≤ beNat digits) : LengthField (first :: digits) (beNat digits)

theorem read_length_is_ok (input rest : Bytes) (length : Nat) (read : readLength.run input = .ok (length, rest)) :
    ∃ field, LengthField field length ∧ input = field ++ rest := by
  obtain ⟨first, middle, began, made⟩ := (reader_bind_is_ok _ _ _ _ _).mp read
  obtain rfl := u8_is_ok input middle first began
  by_cases small : first < 0x80
  · rw [if_pos small] at made
    cases made
    exact ⟨[first], .short first small, rfl⟩
  · rw [if_neg small] at made
    have above : 0x80 ≤ first.toNat := Nat.le_of_not_lt small
    by_cases refused : first.toNat - 0x80 = 0 ∨ 4 < first.toNat - 0x80
    · rw [if_pos refused] at made
      cases made
    · rw [if_neg refused] at made
      obtain ⟨number, after, taken, made⟩ := (reader_bind_is_ok _ _ _ _ _).mp made
      by_cases tiny : number < 0x80
      · rw [if_pos tiny] at made
        cases made
      · rw [if_neg tiny] at made
        cases made
        obtain ⟨digits, last, octets, summed⟩ := (reader_bind_is_ok _ _ _ _ _).mp taken
        cases summed
        have size := take_octets_length Rc.insufficient _ middle digits rest octets
        have here : middle = digits ++ rest := canonical_take_octets Rc.insufficient _ middle digits rest octets
        refine ⟨first :: digits, .long first digits ?_ ?_ ?_ (Nat.le_of_not_lt tiny), ?_⟩
        · omega
        · omega
        · omega
        · rw [here, List.cons_append]

theorem decodes_length_field (field : Bytes) (length : Nat) (form : LengthField field length) :
    Decodes readLength field length := by
  cases form with
  | short octet small =>
      refine decodes_bind_last _ _ _ _ _ (decodes_u8 octet) ?_
      rw [if_pos small]
      exact decodes_pure _
  | long first digits count some few large =>
      have notSmall : ¬ first < 0x80 := by
        rw [UInt8.lt_iff_toNat_lt, count]
        simp
      have read := decodes_take_nat Rc.insufficient digits.length (beNat digits) (be_nat_lt digits)
      rw [be_bytes_be_nat] at read
      refine decodes_bind _ _ [first] digits _ _ (decodes_u8 first) ?_
      rw [if_neg notSmall, count, Nat.add_sub_cancel_left, if_neg (by omega)]
      refine decodes_bind_last _ _ _ _ _ read ?_
      rw [if_neg (Nat.not_lt.mpr large)]
      exact decodes_pure _

theorem two_pow_octets (count : Nat) : 256 ^ count = 2 ^ (8 * count) := by
  rw [pow_mul]
  norm_num

theorem size_of_leading (head : UInt8) (digits : Bytes) (leading : head ≠ 0) :
    (beNat (head :: digits)).size ≤ 8 * (digits.length + 1) ∧ 8 * digits.length < (beNat (head :: digits)).size := by
  have positive : 1 ≤ head.toNat := by
    by_contra zero
    exact leading (UInt8.toNat_inj.mp (by simpa using zero))
  constructor
  · rw [Nat.size_le, ← two_pow_octets]
    exact be_nat_lt (head :: digits)
  · rw [Nat.lt_size, ← two_pow_octets, be_nat_cons]
    exact Nat.le_add_right_of_le (Nat.le_mul_of_pos_left _ positive)

theorem length_octets_long (length : Nat) (large : 0x80 ≤ length) :
    lengthOctets length = UInt8.ofNat (0x80 + (length.size + 7) / 8) :: beBytes ((length.size + 7) / 8) length := by
  rw [lengthOctets, if_neg (Nat.not_lt.mpr large)]
  simp only [be_bytes_length]

-- A length is written as `tlv` writes it exactly when no zero stands before the number.
theorem length_field_shortest (field : Bytes) (length : Nat) (form : LengthField field length) :
    field = lengthOctets length ↔ ∀ first digits, field ≠ first :: 0 :: digits := by
  cases form with
  | short octet small =>
      have less : octet.toNat < 0x80 := small
      refine ⟨fun _ first digits same => by simp at same, fun _ => ?_⟩
      rw [lengthOctets, if_pos less, UInt8.ofNat_toNat]
  | long first digits count some few large =>
      rw [length_octets_long _ large]
      cases digits with
      | nil => exact absurd some (Nat.lt_irrefl 0)
      | cons head digits =>
          by_cases leading : head = 0
          · subst leading
            constructor
            · intro same
              -- One octet fewer holds the number, so that as many as these are not the fewest.
              have width := congrArg List.length same
              rw [List.length_cons, List.length_cons, List.length_cons, be_bytes_length] at width
              have value : beNat (0 :: digits) = beNat digits := by rw [be_nat_cons]; simp
              have fits : beNat (0 :: digits) < 2 ^ (8 * digits.length) := by
                rw [value, ← two_pow_octets]
                exact be_nat_lt digits
              have size := Nat.size_le.mpr fits
              omega
            · intro unpadded
              exact absurd rfl (unpadded first digits)
          · obtain ⟨above, below⟩ := size_of_leading head digits leading
            have width : ((beNat (head :: digits)).size + 7) / 8 = (head :: digits).length := by
              rw [List.length_cons]
              omega
            rw [width, be_bytes_be_nat, ← count, UInt8.ofNat_toNat]
            refine ⟨fun _ other rest same => ?_, fun _ => rfl⟩
            exact leading (List.cons.inj (List.cons.inj same).2).1

-- An element of the input with a length that `tlv` would have written shorter.
def Padded (input : Bytes) : Prop :=
  ∃ tag first digits tail length, LengthField (first :: 0 :: digits) length ∧ length ≤ tail.length ∧
    input = tag :: first :: 0 :: digits ++ tail

theorem decodes_element_field (tag : UInt8) (field value : Bytes) (form : LengthField field value.length) :
    Decodes element (tag :: field ++ value) ⟨tag, value, tag :: field ++ value⟩ := by
  intro rest
  have tagRead := decodes_u8 tag (field ++ (value ++ rest))
  have lengthRead := decodes_length_field field value.length form (value ++ rest)
  have valueRead := decodes_take value rest
  have input : tag :: field ++ value ++ rest = be8 tag ++ (field ++ (value ++ rest)) := by simp [be8]
  have raw : (tag :: field ++ value ++ rest).take ((tag :: field ++ value ++ rest).length - rest.length) =
      tag :: field ++ value := by
    rw [List.length_append, Nat.add_sub_cancel]
    exact List.take_left
  simp only [element, StateT.run_bind, StateT.run_get, StateT.run_pure, pure_bind]
  rw [input, tagRead]
  simp only [Except.bind, bind]
  rw [lengthRead]
  simp only [valueRead]
  rw [← input, raw]
  rfl

theorem element_is_ok (input rest : Bytes) (e : Element) (read : element.run input = .ok (e, rest)) :
    ∃ field, LengthField field e.value.length ∧ e.raw = e.tag :: field ++ e.value ∧ input = e.raw ++ rest := by
  obtain ⟨start, first, began, read⟩ := (reader_bind_is_ok _ _ _ _ _).mp read
  cases began
  obtain ⟨tag, second, tagged, read⟩ := (reader_bind_is_ok _ _ _ _ _).mp read
  obtain ⟨length, third, sized, read⟩ := (reader_bind_is_ok _ _ _ _ _).mp read
  obtain ⟨value, fourth, taken, read⟩ := (reader_bind_is_ok _ _ _ _ _).mp read
  obtain ⟨left, fifth, ended, read⟩ := (reader_bind_is_ok _ _ _ _ _).mp read
  cases ended
  cases read
  obtain rfl := u8_is_ok input second tag tagged
  obtain ⟨field, form, rfl⟩ := read_length_is_ok second third length sized
  have here : third = value ++ rest := canonical_take_octets Rc.insufficient length third value rest taken
  have size := take_octets_length Rc.insufficient length third value rest taken
  subst here
  have whole : tag :: (field ++ (value ++ rest)) = tag :: field ++ value ++ rest := by simp
  have raw : (tag :: (field ++ (value ++ rest))).take ((tag :: (field ++ (value ++ rest))).length - rest.length) =
      tag :: field ++ value := by
    rw [whole, List.length_append, Nat.add_sub_cancel]
    exact List.take_left
  refine ⟨field, size ▸ form, raw, ?_⟩
  rw [raw, whole]

-- What was read once is read again from the octets it took.
theorem element_again (input rest : Bytes) (e : Element) (read : element.run input = .ok (e, rest)) :
    input = e.raw ++ rest ∧ Decodes element e.raw e := by
  obtain ⟨field, form, raw, whole⟩ := element_is_ok input rest e read
  refine ⟨whole, ?_⟩
  have again := decodes_element_field e.tag field e.value form
  rw [← raw] at again
  exact again

theorem element_shortest (input : Bytes) :
    (∀ e rest, element.run input = .ok (e, rest) → e.raw = tlv e.tag e.value ∧ input = tlv e.tag e.value ++ rest) ↔
      ¬ Padded input := by
  constructor
  · rintro shortest ⟨tag, first, digits, tail, length, form, inside, rfl⟩
    have size : (tail.take length).length = length := List.length_take_of_le inside
    have read := decodes_element_field tag (first :: 0 :: digits) (tail.take length) (size.symm ▸ form) (tail.drop length)
    rw [List.append_assoc, List.take_append_drop] at read
    have written := (shortest _ _ read).1
    have field : first :: 0 :: digits = lengthOctets length := by
      have same := (List.cons.inj written).2
      rw [size] at same
      exact List.append_cancel_right same
    exact (length_field_shortest _ _ form).mp field first digits rfl
  · intro unpadded e rest read
    obtain ⟨field, form, raw, whole⟩ := element_is_ok input rest e read
    have shortest : field = lengthOctets e.value.length := by
      rw [length_field_shortest _ _ form]
      rintro first digits rfl
      refine unpadded ⟨e.tag, first, digits, e.value ++ rest, e.value.length, form, ?_, ?_⟩
      · rw [List.length_append]
        exact Nat.le_add_right _ _
      · rw [whole, raw, List.append_assoc]
    have same : e.raw = tlv e.tag e.value := by rw [raw, shortest, tlv]
    exact ⟨same, same ▸ whole⟩

-- Of an element that was read, it can be told from its octets alone.
theorem raw_shortest (e : Element) (read : Decodes element e.raw e) :
    e.raw = tlv e.tag e.value ↔ ¬ Padded e.raw := by
  have once : element.run e.raw = .ok (e, []) := by simpa using read []
  constructor
  · intro written
    rw [← element_shortest]
    intro other rest again
    rw [once] at again
    cases again
    exact ⟨written, written.trans (List.append_nil _).symm⟩
  · intro unpadded
    exact ((element_shortest e.raw).mpr unpadded e [] once).1

end Der

end Swtrust
