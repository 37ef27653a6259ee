import Swtrust.Store.File
import Swtrust.Library.Run
import Mathlib.Logic.Function.Basic

set_option autoImplicit false

-- Threads of several processes save to one directory. Every call of `save` is broken into the calls it makes to the
-- file system; those of different saves come in any order, each may fail, and a process may die at any point.

namespace Swtrust

open Library

namespace StateStore

def decimal (n : Nat) : Text := Nat.toDigits 10 n

def tmp (pid : UInt32) (serial : UInt64) : Text :=
  stateFile ++ '.' :: (decimal pid.toNat ++ '.' :: (decimal serial.toNat ++ ".tmp".toList))

-- Where a save is: it has its name, its file holds a front of the text, or a call failed.
inductive Phase where
  | named (data : Bytes)
  | writing (data : Bytes) (rest : Text)
  | failed

structure World where
  files : Text → Option Text
  counters : UInt32 → UInt64
  saves : UInt32 × UInt64 → Option Phase

inductive Step where
  | begin (pid : UInt32) (data : Bytes)
  | create (pid : UInt32) (serial : UInt64)
  | write (pid : UInt32) (serial : UInt64) (count : Nat)
  | rename (pid : UInt32) (serial : UInt64)
  | fail (pid : UInt32) (serial : UInt64)
  | remove (pid : UInt32) (serial : UInt64) (removed : Bool)
  | crash (pid : UInt32)
  | clear (removed : Bool)

namespace World

def holds (w : World) (name : Text) (contents : Option Text) : World :=
  { w with files := Function.update w.files name contents }

def enters (w : World) (pid : UInt32) (serial : UInt64) (phase : Option Phase) : World :=
  { w with saves := Function.update w.saves (pid, serial) phase }

-- A step that its save does not await changes nothing. The dead leave their files; a process that gets their number
-- counts from zero.
def after (w : World) : Step → World
  | .begin pid data =>
      { w.enters pid (w.counters pid) (some (.named data)) with
        counters := Function.update w.counters pid (w.counters pid + 1) }
  | .create pid serial =>
      match w.saves (pid, serial) with
      | some (.named data) => (w.holds (tmp pid serial) (some [])).enters pid serial (some (.writing data (render data)))
      | _ => w
  | .write pid serial count =>
      match w.saves (pid, serial) with
      | some (.writing data rest) =>
          (w.holds (tmp pid serial) ((w.files (tmp pid serial)).map (· ++ rest.take count))).enters pid serial
            (some (.writing data (rest.drop count)))
      | _ => w
  | .rename pid serial =>
      match w.saves (pid, serial) with
      | some (.writing _ []) =>
          match w.files (tmp pid serial) with
          | some text => ((w.holds stateFile (some text)).holds (tmp pid serial) none).enters pid serial none
          | none => w.enters pid serial (some .failed)
      | _ => w
  | .fail pid serial =>
      match w.saves (pid, serial) with
      | some _ => w.enters pid serial (some .failed)
      | none => w
  | .remove pid serial removed =>
      match w.saves (pid, serial) with
      | some .failed => (if removed then w.holds (tmp pid serial) none else w).enters pid serial none
      | _ => w
  | .crash pid =>
      { w with
        counters := Function.update w.counters pid 0
        saves := fun save => if save.1 = pid then none else w.saves save }
  | .clear removed => if removed then w.holds stateFile none else w

def afterAll (w : World) (steps : List Step) : World := steps.foldl after w

-- The purpose of the store: one value, replaced as a whole when a save renames its file and gone when it is cleared.
def value (w : World) (held : Option Bytes) : Step → Option Bytes
  | .rename pid serial =>
      match w.saves (pid, serial) with
      | some (.writing data []) => if (w.files (tmp pid serial)).isSome then some data else held
      | _ => held
  | .clear removed => if removed then none else held
  | _ => held

def valueAfter (w : World) (held : Option Bytes) : List Step → Option Bytes
  | [] => held
  | step :: rest => (w.after step).valueAfter (w.value held step) rest

end World

theorem decimal_injective (m n : Nat) (same : decimal m = decimal n) : m = n := by
  have back := congrArg (fun digits => Nat.ofDigitChars 10 digits 0) same
  simpa only [decimal, Nat.ofDigitChars_ten_toDigits] using back

-- A number ends at the first dot.
theorem decimal_ends (m n : Nat) (front back : Text) (same : decimal m ++ '.' :: front = decimal n ++ '.' :: back) :
    m = n ∧ front = back := by
  have digits : ∀ k : Nat, ∀ c ∈ decimal k, c.isDigit = true := fun k c member =>
    Nat.isDigit_of_mem_toDigits (by decide) (by decide) member
  have number : ∀ (k : Nat) (rest : Text), (decimal k ++ '.' :: rest).takeWhile Char.isDigit = decimal k := by
    intro k rest
    rw [List.takeWhile_append_of_pos (digits k), List.takeWhile_cons_of_neg (by decide), List.append_nil]
  have heads := congrArg (List.takeWhile Char.isDigit) same
  rw [number, number] at heads
  have numbers := decimal_injective m n heads
  subst numbers
  have rest := List.append_cancel_left same
  simp only [List.cons.injEq, true_and] at rest
  exact ⟨rfl, rest⟩

theorem tmp_injective (a b : UInt32 × UInt64) (same : tmp a.1 a.2 = tmp b.1 b.2) : a = b := by
  unfold tmp at same
  have rest := List.append_cancel_left same
  simp only [List.cons.injEq, true_and] at rest
  obtain ⟨pids, rest⟩ := decimal_ends _ _ _ _ rest
  have serials := decimal_injective _ _ (List.append_cancel_right rest)
  exact Prod.ext (UInt32.toNat_inj.mp pids) (UInt64.toNat_inj.mp serials)

theorem tmp_apart (pid : UInt32) (serial : UInt64) : tmp pid serial ≠ stateFile := by
  intro same
  have sizes := congrArg List.length same
  simp [tmp] at sizes

namespace World

-- After `n` steps: the state file is the text of the value, the file of a save is the front of its text, and no two
-- saves have one serial.
structure Sound (w : World) (held : Option Bytes) (n : Nat) : Prop where
  stored : w.files stateFile = held.map render
  written : ∀ save data rest, w.saves save = some (.writing data rest) →
    ∃ text, w.files (tmp save.1 save.2) = some text ∧ text ++ rest = render data
  numbered : ∀ save, (w.saves save).isSome → save.2 < w.counters save.1
  counted : ∀ pid, (w.counters pid).toNat ≤ n

section

variable (w : World) (held : Option Bytes) (n : Nat)

theorem sound_later (sound : w.Sound held n) (m : Nat) (later : n ≤ m) : w.Sound held m :=
  { sound with counted := fun pid => Nat.le_trans (sound.counted pid) later }

-- A save touches its own file only, which no other save shares.
theorem sound_touched (sound : w.Sound held n) (pid : UInt32) (serial : UInt64) (contents : Option Text)
    (phase : Option Phase) (known : (w.saves (pid, serial)).isSome)
    (front : ∀ data rest, phase = some (.writing data rest) → ∃ text, contents = some text ∧ text ++ rest = render data) :
    ((w.holds (tmp pid serial) contents).enters pid serial phase).Sound held n where
  stored := by
    simp only [enters, holds]
    rw [Function.update_of_ne (tmp_apart pid serial).symm]
    exact sound.stored
  written := by
    intro save data rest found
    simp only [enters, holds]
    by_cases same : save = (pid, serial)
    · subst same
      have entered : phase = some (.writing data rest) := by
        simpa only [enters, Function.update_self] using found
      rw [Function.update_self]
      exact front data rest entered
    · have kept : w.saves save = some (.writing data rest) := by
        simpa only [enters, holds, Function.update_of_ne same] using found
      rw [Function.update_of_ne fun name => same (tmp_injective save (pid, serial) name)]
      exact sound.written save data rest kept
  numbered := by
    intro save found
    by_cases same : save = (pid, serial)
    · subst same
      exact sound.numbered _ known
    · apply sound.numbered
      simpa only [enters, holds, Function.update_of_ne same] using found
  counted := sound.counted

theorem sound_entered (sound : w.Sound held n) (pid : UInt32) (serial : UInt64) (phase : Option Phase)
    (known : (w.saves (pid, serial)).isSome) (idle : ∀ data rest, phase ≠ some (.writing data rest)) :
    (w.enters pid serial phase).Sound held n := by
  have touched := w.sound_touched held n sound pid serial (w.files (tmp pid serial)) phase known
    fun data rest same => absurd same (idle data rest)
  rwa [holds, Function.update_eq_self] at touched

theorem sound_replaced (sound : w.Sound held n) (next : Option Bytes) :
    (w.holds stateFile (next.map render)).Sound next n where
  stored := by simp only [holds, Function.update_self]
  written := by
    intro save data rest found
    simp only [holds]
    rw [Function.update_of_ne (tmp_apart save.1 save.2)]
    exact sound.written save data rest found
  numbered := sound.numbered
  counted := sound.counted

theorem sound_begun (sound : w.Sound held n) (room : n + 1 < 2 ^ 64) (pid : UInt32) (data : Bytes) :
    (w.after (.begin pid data)).Sound held (n + 1) := by
  have counter := sound.counted pid
  have next : (w.counters pid + 1).toNat = (w.counters pid).toNat + 1 := by
    rw [UInt64.toNat_add]
    exact Nat.mod_eq_of_lt (Nat.lt_of_le_of_lt (Nat.succ_le_succ counter) room)
  constructor
  · exact sound.stored
  · intro save other rest found
    apply sound.written save other rest
    by_cases same : save = (pid, w.counters pid)
    · subst same
      simp [after, enters] at found
    · simpa only [after, enters, Function.update_of_ne same] using found
  · intro save found
    show save.2 < Function.update w.counters pid (w.counters pid + 1) save.1
    by_cases same : save = (pid, w.counters pid)
    · subst same
      rw [Function.update_self]
      exact UInt64.lt_iff_toNat_lt.mpr (next ▸ Nat.lt_succ_self _)
    · have known : save.2 < w.counters save.1 := by
        apply sound.numbered
        simpa only [after, enters, Function.update_of_ne same] using found
      by_cases own : save.1 = pid
      · rw [own] at known ⊢
        rw [Function.update_self]
        have below := UInt64.lt_iff_toNat_lt.mp known
        exact UInt64.lt_iff_toNat_lt.mpr (by omega)
      · rwa [Function.update_of_ne own]
  · intro other
    show (Function.update w.counters pid (w.counters pid + 1) other).toNat ≤ n + 1
    by_cases own : other = pid
    · subst own
      rw [Function.update_self, next]
      exact Nat.succ_le_succ counter
    · rw [Function.update_of_ne own]
      exact Nat.le_succ_of_le (sound.counted other)

theorem sound_crashed (sound : w.Sound held n) (pid : UInt32) : (w.after (.crash pid)).Sound held n := by
  constructor
  · exact sound.stored
  · intro save data rest found
    apply sound.written save data rest
    by_cases own : save.1 = pid
    · simp [after, own] at found
    · simpa only [after, if_neg own] using found
  · intro save found
    show save.2 < Function.update w.counters pid 0 save.1
    by_cases own : save.1 = pid
    · simp [after, own] at found
    · rw [Function.update_of_ne own]
      apply sound.numbered
      simpa only [after, if_neg own] using found
  · intro other
    show (Function.update w.counters pid 0 other).toNat ≤ n
    by_cases own : other = pid
    · rw [own, Function.update_self]
      exact Nat.zero_le n
    · rw [Function.update_of_ne own]
      exact sound.counted other

theorem sound_renamed (sound : w.Sound held n) (pid : UInt32) (serial : UInt64) :
    (w.after (.rename pid serial)).Sound (w.value held (.rename pid serial)) n := by
  simp only [after, value]
  cases phase : w.saves (pid, serial) with
  | none => exact sound
  | some phase' =>
    cases phase' with
    | named data => exact sound
    | failed => exact sound
    | writing data rest =>
      cases rest with
      | cons c rest => exact sound
      | nil =>
          obtain ⟨text, found, whole⟩ := sound.written (pid, serial) data [] phase
          rw [List.append_nil] at whole
          subst whole
          simp only [found, Option.isSome_some, if_true]
          apply sound_touched _ _ _ (w.sound_replaced held n sound (some data)) pid serial none none
          · exact Option.isSome_of_eq_some phase
          · intro data rest same
            cases same

theorem sound_after (sound : w.Sound held n) (room : n + 1 < 2 ^ 64) (step : Step) :
    (w.after step).Sound (w.value held step) (n + 1) := by
  have stays := w.sound_later held n sound (n + 1) (Nat.le_succ n)
  cases step with
  | begin pid data => exact w.sound_begun held n sound room pid data
  | create pid serial =>
      simp only [after, value]
      cases phase : w.saves (pid, serial) with
      | none => exact stays
      | some phase' =>
        cases phase' with
        | writing data rest => exact stays
        | failed => exact stays
        | named data =>
            apply w.sound_touched held _ stays pid serial _ _ (Option.isSome_of_eq_some phase)
            intro other rest same
            cases same
            exact ⟨[], rfl, rfl⟩
  | write pid serial count =>
      simp only [after, value]
      cases phase : w.saves (pid, serial) with
      | none => exact stays
      | some phase' =>
        cases phase' with
        | named data => exact stays
        | failed => exact stays
        | writing data rest =>
            obtain ⟨text, found, whole⟩ := sound.written (pid, serial) data rest phase
            apply w.sound_touched held _ stays pid serial _ _ (Option.isSome_of_eq_some phase)
            intro other left same
            cases same
            refine ⟨text ++ rest.take count, ?_, ?_⟩
            · rw [found]
              rfl
            · rw [List.append_assoc, List.take_append_drop, whole]
  | rename pid serial => exact sound_later _ _ _ (w.sound_renamed held n sound pid serial) _ (Nat.le_succ n)
  | fail pid serial =>
      simp only [after, value]
      cases phase : w.saves (pid, serial) with
      | none => exact stays
      | some phase' =>
          apply w.sound_entered held _ stays pid serial _ (Option.isSome_of_eq_some phase)
          intro data rest same
          cases same
  | remove pid serial removed =>
      simp only [after, value]
      cases phase : w.saves (pid, serial) with
      | none => exact stays
      | some phase' =>
        cases phase' with
        | named data => exact stays
        | writing data rest => exact stays
        | failed =>
            cases removed with
            | false =>
                apply w.sound_entered held _ stays pid serial _ (Option.isSome_of_eq_some phase)
                intro data rest same
                cases same
            | true =>
                apply w.sound_touched held _ stays pid serial _ _ (Option.isSome_of_eq_some phase)
                intro data rest same
                cases same
  | crash pid => exact sound_later _ _ _ (w.sound_crashed held n sound pid) _ (Nat.le_succ n)
  | clear removed =>
      cases removed with
      | false => exact stays
      | true => exact w.sound_replaced held _ stays none

end

theorem sound_after_all (steps : List Step) : ∀ (w : World) (held : Option Bytes) (n : Nat), w.Sound held n →
    n + steps.length < 2 ^ 64 → (w.afterAll steps).Sound (w.valueAfter held steps) (n + steps.length) := by
  induction steps with
  | nil => exact fun w held n sound _ => sound
  | cons step rest ih =>
      intro w held n sound room
      rw [List.length_cons] at room ⊢
      have first := w.sound_after held n sound (by omega) step
      have later := ih (w.after step) (w.value held step) (n + 1) first (by omega)
      rwa [show n + 1 + rest.length = n + (rest.length + 1) by omega] at later

-- Every file but the state file is that of a save under way.
def Owned (w : World) : Prop :=
  ∀ name, (w.files name).isSome → name = stateFile ∨ ∃ save, (w.saves save).isSome ∧ name = tmp save.1 save.2

theorem owned_touched (w : World) (owned : w.Owned) (pid : UInt32) (serial : UInt64) (contents : Option Text)
    (phase : Option Phase) (kept : contents.isSome → phase.isSome) :
    ((w.holds (tmp pid serial) contents).enters pid serial phase).Owned := by
  intro name found
  simp only [enters, holds] at found ⊢
  by_cases own : name = tmp pid serial
  · subst own
    rw [Function.update_self] at found
    refine .inr ⟨(pid, serial), ?_, rfl⟩
    rw [Function.update_self]
    exact kept found
  · rw [Function.update_of_ne own] at found
    rcases owned name found with state | ⟨save, under, named⟩
    · exact .inl state
    · refine .inr ⟨save, ?_, named⟩
      rwa [Function.update_of_ne]
      intro same
      subst same
      exact own named

theorem owned_entered (w : World) (owned : w.Owned) (pid : UInt32) (serial : UInt64) (phase : Phase) :
    (w.enters pid serial (some phase)).Owned := by
  have touched := w.owned_touched owned pid serial (w.files (tmp pid serial)) (some phase) fun _ => rfl
  rwa [holds, Function.update_eq_self] at touched

theorem owned_replaced (w : World) (owned : w.Owned) (contents : Option Text) : (w.holds stateFile contents).Owned := by
  intro name found
  by_cases state : name = stateFile
  · exact .inl state
  · simp only [holds, Function.update_of_ne state] at found
    exact owned name found

theorem owned_after (w : World) (step : Step) (alive : ∀ pid, step ≠ .crash pid)
    (removes : ∀ pid serial, step ≠ .remove pid serial false) (owned : w.Owned) : (w.after step).Owned := by
  cases step with
  | begin pid data => exact w.owned_entered owned pid (w.counters pid) (.named data)
  | create pid serial =>
      simp only [after]
      cases phase : w.saves (pid, serial) with
      | none => exact owned
      | some phase' =>
        cases phase' with
        | writing data rest => exact owned
        | failed => exact owned
        | named data => exact w.owned_touched owned pid serial _ _ fun _ => rfl
  | write pid serial count =>
      simp only [after]
      cases phase : w.saves (pid, serial) with
      | none => exact owned
      | some phase' =>
        cases phase' with
        | named data => exact owned
        | failed => exact owned
        | writing data rest => exact w.owned_touched owned pid serial _ _ fun _ => rfl
  | rename pid serial =>
      simp only [after]
      cases phase : w.saves (pid, serial) with
      | none => exact owned
      | some phase' =>
        cases phase' with
        | named data => exact owned
        | failed => exact owned
        | writing data rest =>
          cases rest with
          | cons c rest => exact owned
          | nil =>
            cases found : w.files (tmp pid serial) with
            | none => exact w.owned_entered owned pid serial .failed
            | some text =>
                exact owned_touched _ (w.owned_replaced owned (some text)) pid serial none none fun none => none
  | fail pid serial =>
      simp only [after]
      cases phase : w.saves (pid, serial) with
      | none => exact owned
      | some phase' => exact w.owned_entered owned pid serial .failed
  | remove pid serial removed =>
      cases removed with
      | false => exact absurd rfl (removes pid serial)
      | true =>
          simp only [after, if_true]
          cases phase : w.saves (pid, serial) with
          | none => exact owned
          | some phase' =>
            cases phase' with
            | named data => exact owned
            | writing data rest => exact owned
            | failed => exact w.owned_touched owned pid serial none none fun none => none
  | crash pid => exact absurd rfl (alive pid)
  | clear removed =>
      cases removed with
      | false => exact owned
      | true => exact w.owned_replaced owned none

-- No run of saves leaves a file behind, unless a process dies or cannot remove its file.
theorem no_file_left_behind (w : World) (clean : ∀ name, name ≠ stateFile → w.files name = none) (steps : List Step)
    (alive : ∀ pid, .crash pid ∉ steps) (removes : ∀ pid serial, .remove pid serial false ∉ steps) (name : Text)
    (left : ((w.afterAll steps).files name).isSome) :
    name = stateFile ∨ ∃ save, ((w.afterAll steps).saves save).isSome ∧ name = tmp save.1 save.2 := by
  have start : w.Owned := by
    intro name found
    by_cases state : name = stateFile
    · exact .inl state
    · rw [clean name state] at found
      cases found
  have every := every_of_all after (fun _ step => (∀ pid, step ≠ .crash pid) ∧ ∀ pid serial, step ≠ .remove pid serial false)
    w steps fun _ step member =>
      ⟨fun pid same => alive pid (same ▸ member), fun pid serial same => removes pid serial (same ▸ member)⟩
  exact invariant_of_every after _ Owned (fun w step met owned => w.owned_after step met.1 met.2 owned) w steps every
    start name left

end World

-- What `load` makes of the values there are when it asks for the size of the file and when it reads the file.
def loadValue (found read : Option Bytes) : Except String (Option Bytes) :=
  match found with
  | none => .ok none
  | some data =>
    if 24 + 2 * data.length + (2 * data.length - 1) / 64 ≤ maxStateFileBytes then .ok read
    else .error s!"state file is {octets (render data)} octets, the limit is {maxStateFileBytes}"

theorem load_values (found read : Option Bytes) :
    load (found.map render) (read.map render) = loadValue found read := by
  cases found with
  | none => rfl
  | some data =>
      simp only [Option.map_some, load, loadValue, ← render_octets data]
      by_cases fits : octets (render data) ≤ maxStateFileBytes
      · rw [if_neg (Nat.not_lt.mpr fits), if_pos fits]
        cases read with
        | none => rfl
        | some later =>
            simp only [Option.map_some, parse_render]
            rfl
      · rw [if_pos (Nat.lt_of_not_le fits), if_neg fits]

-- However the saves of any number of processes are interleaved, fail or are cut off, the directory is one value that
-- a rename replaces as a whole, and `load` reads that value: never a part of a save, nor a mixture of two.
theorem saves_replace_one_value (w : World) (held : Option Bytes) (stored : w.files stateFile = held.map render)
    (idle : ∀ save, w.saves save = none) (asked later : List Step)
    (room : ∀ pid, (w.counters pid).toNat + (asked ++ later).length < 2 ^ 64) :
    load ((w.afterAll asked).files stateFile) ((w.afterAll (asked ++ later)).files stateFile) =
      loadValue (w.valueAfter held asked) (w.valueAfter held (asked ++ later)) := by
  have start : w.Sound held (2 ^ 64 - 1 - (asked ++ later).length) :=
    { stored
      written := fun save data rest found => by
        rw [idle save] at found
        cases found
      numbered := fun save found => by
        rw [idle save] at found
        cases found
      counted := fun pid => by
        have bound := room pid
        omega }
  have bound := room 0
  have first := World.sound_after_all asked w held _ start (by
    rw [List.length_append] at bound ⊢
    omega)
  have second := World.sound_after_all (asked ++ later) w held _ start (by omega)
  rw [first.stored, second.stored, load_values]

namespace Toy

def empty : World where
  files := fun _ => none
  counters := fun _ => 0
  saves := fun _ => none

-- Two threads of process 7 save at once, and process 8 dies while it writes: the rename of the first is done when a third
-- process asks for the size of the file, that of the second only before it reads the file.
def race : List Step :=
  [.begin 7 [1, 2], .begin 7 [9], .create 7 0, .begin 8 [5], .create 8 0, .write 7 0 7, .write 8 0 3, .create 7 1,
    .write 7 1 100, .write 7 0 100, .rename 7 0, .crash 8]

theorem race_ends : load ((empty.afterAll race).files stateFile) ((empty.afterAll (race ++ [.rename 7 1])).files stateFile) =
    loadValue (some [1, 2]) (some [9]) :=
  saves_replace_one_value empty none rfl (fun _ => rfl) race [.rename 7 1] (fun _ => by simp [empty, race])

-- A save that fails and removes its file, and the next that is under way.
def failure : List Step :=
  [.begin 7 [1, 2], .create 7 0, .write 7 0 7, .fail 7 0, .remove 7 0 true, .begin 7 [3], .create 7 1]

theorem failure_is_clean : (empty.afterAll failure).files (tmp 7 0) = none ∧
    (tmp 7 1 = stateFile ∨ ∃ save, ((empty.afterAll failure).saves save).isSome ∧ tmp 7 1 = tmp save.1 save.2) :=
  ⟨by decide +kernel, World.no_file_left_behind empty (fun _ _ => rfl) failure (by simp [failure]) (by simp [failure]) (tmp 7 1)
    (by decide +kernel)⟩

end Toy

end StateStore

end Swtrust
