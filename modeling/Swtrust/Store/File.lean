import Swtrust.Store.Hex

set_option autoImplicit false

-- The text of the state file. Files hold text here: one that is not UTF-8 is not modelled, nor are the errors of the
-- file system other than a file that is not there.

namespace Swtrust

open Library

namespace StateStore

def stateFile : Text := "tpm-state.hex".toList

def header : Text := "# swtrust TPM state v1".toList

def lineWidth : Nat := 64

def maxStateFileBytes : Nat := 8 * 1024 * 1024

-- What `save` writes.
def render (data : Bytes) : Text := header ++ '\n' :: Hex.encodeWrapped data lineWidth ++ ['\n']

def stripReturn (line : Text) : Text := if line.getLast? = some '\r' then line.dropLast else line

def linesFrom (line : Text) : Text → List Text
  | [] => if line.isEmpty then [] else [line]
  | c :: rest => if c = '\n' then stripReturn line :: linesFrom [] rest else linesFrom (line ++ [c]) rest

def lines (text : Text) : List Text := linesFrom [] text

def isWhitespace (c : Char) : Bool :=
  let n := c.toNat
  (0x09 ≤ n && n ≤ 0x0d) || n == 0x20 || n == 0x85 || n == 0xa0 || n == 0x1680 || (0x2000 ≤ n && n ≤ 0x200a) ||
    n == 0x2028 || n == 0x2029 || n == 0x202f || n == 0x205f || n == 0x3000

def trimStart (line : Text) : Text := line.dropWhile isWhitespace

def trimEnd (line : Text) : Text := (line.reverse.dropWhile isWhitespace).reverse

def isComment (line : Text) : Bool := (trimStart line).head? == some '#'

def octets (text : Text) : Nat := (text.map Char.utf8Size).sum

def parse (text : Text) : Except String Bytes :=
  match lines text with
  | first :: rest =>
    if trimEnd first = header then Hex.decode (rest.filter fun line => !isComment line).flatten
    else .error "missing the '# swtrust TPM state v1' header"
  | [] => .error "missing the '# swtrust TPM state v1' header"

-- `load` asks for the size of the file before it reads it, and the file may be another one by then.
def load (found read : Option Text) : Except String (Option Bytes) :=
  match found with
  | none => .ok none
  | some text =>
    if octets text > maxStateFileBytes then
      .error s!"state file is {octets text} octets, the limit is {maxStateFileBytes}"
    else
      match read with
      | none => .ok none
      | some text => some <$> parse text

end StateStore

namespace Hex

theorem stripped_wrap (width : Nat) (text : Text) : ∀ i, stripped (wrapFrom width i text) = stripped text := by
  induction text with
  | nil => intro i; rfl
  | cons ch rest ih =>
      intro i
      have here : ∀ front back : Text, stripped front = stripped back → stripped (ch :: front) = stripped (ch :: back) := by
        intro front back same
        by_cases space : isAsciiWhitespace ch = true
        · rw [stripped_space ch _ space, stripped_space ch _ space, same]
        · rw [stripped_solid ch _ space, stripped_solid ch _ space, same]
      by_cases breaks : 0 < i ∧ i % width = 0
      · rw [wrapFrom, if_pos breaks, stripped_space '\n' _ rfl]
        exact here _ _ (ih _)
      · rw [wrapFrom, if_neg breaks]
        exact here _ _ (ih _)

-- An encoding holds neither blanks nor capitals.
theorem encode_plain (data : Bytes) : ∀ c ∈ encode data, isAsciiWhitespace c = false ∧ c.toLower = c ∧ (nibble c).isSome := by
  induction data with
  | nil => simp [encode]
  | cons b rest ih =>
      obtain ⟨-, high, low⟩ := halves_of_octet b
      have plain : ∀ n : UInt8, n < 16 →
          isAsciiWhitespace (digit n) = false ∧ (digit n).toLower = digit n ∧ (nibble (digit n)).isSome := by
        intro n small
        obtain ⟨read, solid, lower⟩ := digit_facts n small
        exact ⟨solid, lower, Option.isSome_of_eq_some read⟩
      intro c member
      simp only [encode, List.mem_cons] at member
      rcases member with rfl | rfl | later
      · exact plain _ high
      · exact plain _ low
      · exact ih c later

theorem stripped_encode (data : Bytes) : (stripped (encode data)).map Char.toLower = encode data := by
  have kept : stripped (encode data) = encode data :=
    List.filter_eq_self.mpr fun c member => by simp [(encode_plain data c member).1]
  rw [kept]
  calc (encode data).map Char.toLower = (encode data).map id :=
        List.map_congr_left fun c member => (encode_plain data c member).2.1
    _ = encode data := List.map_id _

theorem stripped_encode_wrapped (data : Bytes) (width : Nat) :
    stripped (encodeWrapped data width) = stripped (encode data) := by
  unfold encodeWrapped
  split
  · rfl
  · exact stripped_wrap width _ 0

theorem wrap_members (width : Nat) (text : Text) : ∀ i, ∀ c ∈ wrapFrom width i text, c = '\n' ∨ c ∈ text := by
  induction text with
  | nil => simp [wrapFrom]
  | cons ch rest ih =>
      intro i c member
      have later : c ∈ ch :: wrapFrom width (i + 1) rest → c = '\n' ∨ c ∈ ch :: rest := by
        intro member
        rcases List.mem_cons.mp member with same | member
        · exact .inr (same ▸ List.mem_cons_self)
        · exact (ih _ c member).imp_right (List.mem_cons_of_mem _)
      by_cases breaks : 0 < i ∧ i % width = 0
      · rw [wrapFrom, if_pos breaks] at member
        rcases List.mem_cons.mp member with same | member
        · exact .inl same
        · exact later member
      · rw [wrapFrom, if_neg breaks] at member
        exact later member

theorem encode_length (data : Bytes) : (encode data).length = 2 * data.length := by
  induction data with
  | nil => rfl
  | cons b rest ih =>
      simp only [encode, List.length_cons, ih]
      omega

end Hex

namespace StateStore

theorem lines_from_flatten (text : Text) (plain : '\r' ∉ text) :
    ∀ line, '\r' ∉ line → (linesFrom line text).flatten = line ++ text.filter (· ≠ '\n') := by
  induction text with
  | nil =>
      intro line _
      cases line with
      | nil => rfl
      | cons c rest => simp [linesFrom]
  | cons c rest ih =>
      intro line clean
      have tail := ih (fun member => plain (List.mem_cons_of_mem _ member))
      by_cases ends : c = '\n'
      · have kept : stripReturn line = line := by
          unfold stripReturn
          rw [if_neg]
          intro last
          exact clean (List.mem_of_getLast? last)
        rw [linesFrom, if_pos ends, List.flatten_cons, tail [] List.not_mem_nil, kept]
        simp [ends]
      · have more := tail (line ++ [c]) (by
          intro member
          rcases List.mem_append.mp member with early | late
          · exact clean early
          · exact plain (List.mem_singleton.mp late ▸ List.mem_cons_self))
        rw [linesFrom, if_neg ends, more]
        simp [ends]

theorem lines_from_members (text : Text) : ∀ line, ∀ l ∈ linesFrom line text, ∀ c ∈ l, c ∈ line ∨ c ∈ text := by
  induction text with
  | nil =>
      intro line l member c inside
      unfold linesFrom at member
      split at member
      · cases member
      · exact .inl (List.mem_singleton.mp member ▸ inside)
  | cons ch rest ih =>
      intro line l member c inside
      by_cases ends : ch = '\n'
      · rw [linesFrom, if_pos ends] at member
        rcases List.mem_cons.mp member with same | later
        · subst same
          unfold stripReturn at inside
          split at inside
          · exact .inl (List.mem_of_mem_dropLast inside)
          · exact .inl inside
        · rcases ih [] l later c inside with nothing | found
          · cases nothing
          · exact .inr (List.mem_cons_of_mem _ found)
      · rw [linesFrom, if_neg ends] at member
        rcases ih _ l member c inside with early | late
        · rcases List.mem_append.mp early with front | here
          · exact .inl front
          · exact .inr (List.mem_singleton.mp here ▸ List.mem_cons_self)
        · exact .inr (List.mem_cons_of_mem _ late)

theorem lines_from_first (front : Text) (solid : '\n' ∉ front) (rest : Text) :
    ∀ line, linesFrom line (front ++ '\n' :: rest) = stripReturn (line ++ front) :: linesFrom [] rest := by
  induction front with
  | nil => intro line; simp [linesFrom]
  | cons c front ih =>
      intro line
      have apart : c ≠ '\n' := fun same => solid (same ▸ List.mem_cons_self)
      rw [List.cons_append, linesFrom, if_neg apart, ih (fun member => solid (List.mem_cons_of_mem _ member))]
      simp

-- A file that begins with the header and then holds digits, blanks and line ends is read as the digits say.
theorem parse_body (body : Text) (plain : ∀ c ∈ body, c = '\n' ∨ (Hex.nibble c).isSome) :
    parse (header ++ '\n' :: body) = Hex.decode (body.filter (· ≠ '\n')) := by
  have noReturn : '\r' ∉ body := by
    intro member
    rcases plain _ member with same | digit
    · exact absurd same (by decide)
    · exact absurd digit (by decide)
  have noMark : ∀ line ∈ linesFrom [] body, isComment line = false := by
    intro line member
    unfold isComment
    cases start : trimStart line with
    | nil => rfl
    | cons c rest =>
        have inside : c ∈ line := List.dropWhile_subset _ (start ▸ List.mem_cons_self)
        rcases lines_from_members body [] line member c inside with nothing | found
        · cases nothing
        have other : c ≠ '#' := by
          intro same
          subst same
          rcases plain _ found with same | digit
          · exact absurd same (by decide)
          · exact absurd digit (by decide)
        simpa using other
  unfold parse lines
  rw [lines_from_first header (by decide) body []]
  simp only [List.nil_append]
  have trimmed : trimEnd (stripReturn header) = header := by decide
  rw [if_pos trimmed, List.filter_eq_self.mpr (by intro line member; simp [noMark line member]),
    lines_from_flatten body noReturn [] List.not_mem_nil, List.nil_append]

theorem body_plain (data : Bytes) : ∀ c ∈ Hex.encodeWrapped data lineWidth ++ ['\n'], c = '\n' ∨ (Hex.nibble c).isSome := by
  intro c member
  rcases List.mem_append.mp member with inside | last
  · rcases Hex.wrap_members lineWidth (Hex.encode data) 0 c inside with same | digit
    · exact .inl same
    · exact .inr (Hex.encode_plain data c digit).2.2
  · exact .inl (List.mem_singleton.mp last)

theorem parse_render (data : Bytes) : parse (render data) = .ok data := by
  unfold render
  rw [List.append_assoc, List.cons_append, parse_body _ (body_plain data), Hex.decode_ok_iff]
  have kept : Hex.stripped ((Hex.encodeWrapped data lineWidth ++ ['\n']).filter (· ≠ '\n')) =
      Hex.stripped (Hex.encodeWrapped data lineWidth) := by
    unfold Hex.stripped
    rw [List.filter_filter, List.filter_append]
    have last : (['\n'].filter fun c => (!Hex.isAsciiWhitespace c && decide (c ≠ '\n'))) = [] := by decide
    rw [last, List.append_nil]
    apply List.filter_congr
    intro c _
    by_cases ends : c = '\n'
    · subst ends; rfl
    · simp [ends]
  rw [kept, Hex.stripped_encode_wrapped, Hex.stripped_encode]

theorem wrap_length (text : Text) : ∀ i, 0 < i →
    (Hex.wrapFrom lineWidth i text).length + (i - 1) / 64 = text.length + (i + text.length - 1) / 64 := by
  induction text with
  | nil => intro i _; simp [Hex.wrapFrom]
  | cons c rest ih =>
      intro i positive
      have tail := ih (i + 1) (Nat.succ_pos i)
      have width : lineWidth = 64 := rfl
      unfold Hex.wrapFrom
      split
      next breaks =>
        rw [width] at breaks
        simp only [List.length_cons] at tail ⊢
        omega
      next joined =>
        rw [width] at joined
        simp only [List.length_cons] at tail ⊢
        omega

theorem octets_of_ascii (text : Text) (ascii : ∀ c ∈ text, c.utf8Size = 1) : octets text = text.length := by
  unfold octets
  rw [List.map_congr_left ascii]
  simp

theorem hex_is_ascii (c : Char) (digit : (Hex.nibble c).isSome) : c.utf8Size = 1 := by
  have narrow : c.toNat < 128 := by
    obtain ⟨n, read⟩ := Option.isSome_iff_exists.mp digit
    unfold Hex.nibble at read
    split at read
    next number => exact Nat.lt_of_le_of_lt (Char.le_def.mp number.2) (by decide)
    split at read
    next lower => exact Nat.lt_of_le_of_lt (Char.le_def.mp lower.2) (by decide)
    split at read
    next capital => exact Nat.lt_of_le_of_lt (Char.le_def.mp capital.2) (by decide)
    cases read
  unfold Char.utf8Size
  rw [if_pos]
  exact UInt32.le_iff_toNat_le.mpr (Nat.le_of_lt_succ narrow)

theorem render_octets (data : Bytes) : octets (render data) = 24 + 2 * data.length + (2 * data.length - 1) / 64 := by
  have ascii : ∀ c ∈ render data, c.utf8Size = 1 := by
    intro c member
    unfold render at member
    rw [List.append_assoc] at member
    rcases List.mem_append.mp member with front | back
    · have all : header.all (fun c => c.utf8Size == 1) = true := by decide
      exact beq_iff_eq.mp (List.all_eq_true.mp all c front)
    rcases List.mem_cons.mp back with ends | inside
    · subst ends; rfl
    rcases body_plain data c inside with ends | digit
    · subst ends; rfl
    · exact hex_is_ascii c digit
  rw [octets_of_ascii _ ascii]
  have wrapped : (Hex.encodeWrapped data lineWidth).length = 2 * data.length + (2 * data.length - 1) / 64 := by
    have sized := Hex.encode_length data
    show (Hex.wrapFrom lineWidth 0 (Hex.encode data)).length = _
    cases coded : Hex.encode data with
    | nil =>
        rw [coded, List.length_nil] at sized
        simp [Hex.wrapFrom, ← sized]
    | cons c rest =>
        have tail := wrap_length rest 1 Nat.one_pos
        rw [coded, List.length_cons] at sized
        rw [Hex.wrapFrom, if_neg (by simp), List.length_cons, Nat.zero_add]
        omega
  have front : header.length = 22 := by decide
  unfold render
  simp only [List.length_append, List.length_cons, List.length_nil, wrapped, front]
  omega

-- Where a line stands is where the wrapping stands in it.
theorem wrapped_lines (text : Text) (plain : ∀ c ∈ text, (Hex.nibble c).isSome) :
    ∀ i line, line.length ≤ 64 → (0 < i → line.length = (i - 1) % 64 + 1) → (i = 0 → line = []) →
      ∀ l ∈ linesFrom line (Hex.wrapFrom lineWidth i text ++ ['\n']), l.length ≤ 64 := by
  have short : ∀ line : Text, (stripReturn line).length ≤ line.length := by
    intro line
    unfold stripReturn
    split
    · rw [List.length_dropLast]
      omega
    · exact Nat.le_refl _
  induction text with
  | nil =>
      intro i line bound _ _ l member
      simp only [Hex.wrapFrom, List.nil_append, linesFrom, if_true, List.isEmpty_nil, List.mem_singleton] at member
      rw [member]
      exact Nat.le_trans (short line) bound
  | cons c rest ih =>
      intro i line bound inside first l member
      have apart : c ≠ '\n' := by
        intro same
        have digit := plain c List.mem_cons_self
        rw [same] at digit
        exact absurd digit (by decide)
      have tail := ih (fun d later => plain d (List.mem_cons_of_mem _ later)) (i + 1)
      by_cases breaks : 0 < i ∧ i % lineWidth = 0
      · rw [Hex.wrapFrom, if_pos breaks, List.cons_append, linesFrom, if_pos rfl, List.cons_append, linesFrom,
          if_neg apart] at member
        rcases List.mem_cons.mp member with same | later
        · rw [same]
          exact Nat.le_trans (short line) bound
        · have width : lineWidth = 64 := rfl
          have here := breaks.2
          rw [width] at here
          apply tail ([] ++ [c]) (by simp) _ (by omega) l later
          intro _
          simp only [List.nil_append, List.length_singleton]
          omega
      · rw [Hex.wrapFrom, if_neg breaks, List.cons_append, linesFrom, if_neg apart] at member
        have width : lineWidth = 64 := rfl
        rw [width] at breaks
        have place : (line ++ [c]).length = (i + 1 - 1) % 64 + 1 := by
          rw [List.length_append, List.length_singleton]
          by_cases start : i = 0
          · rw [first start, start]
            rfl
          · have here := inside (Nat.pos_of_ne_zero start)
            omega
        exact tail (line ++ [c]) (by omega) (fun _ => place) (by omega) l member

-- The file holds the data and nothing else: the header, then lines of at most 64 digits. It is read back when it is
-- not too large, which depends on the length of the data alone.
theorem load_render (data : Bytes) :
    (∀ line ∈ lines (render data), line.length ≤ lineWidth) ∧
    load (some (render data)) (some (render data)) =
      if 24 + 2 * data.length + (2 * data.length - 1) / 64 ≤ maxStateFileBytes then .ok (some data)
      else .error s!"state file is {octets (render data)} octets, the limit is {maxStateFileBytes}" := by
  constructor
  · intro line member
    have split : lines (render data) =
        header :: linesFrom [] (Hex.wrapFrom lineWidth 0 (Hex.encode data) ++ ['\n']) := by
      unfold lines render
      rw [List.append_assoc, List.cons_append, lines_from_first header (by decide) _ []]
      exact congrArg (· :: _) (by decide)
    rw [split] at member
    rcases List.mem_cons.mp member with same | later
    · rw [same]
      decide
    · exact wrapped_lines _ (fun c inside => (Hex.encode_plain data c inside).2.2) 0 [] (Nat.zero_le _) (by simp)
        (fun _ => rfl) line later
  · unfold load
    rw [← render_octets data]
    by_cases fits : octets (render data) ≤ maxStateFileBytes
    · rw [if_pos fits]
      simp only [if_neg (Nat.not_lt.mpr fits), parse_render]
      rfl
    · rw [if_neg fits]
      simp only [if_pos (Nat.lt_of_not_le fits)]

end StateStore

end Swtrust
