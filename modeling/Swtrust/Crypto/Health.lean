import Swtrust.Crypto
import Mathlib.Data.List.Infix

set_option autoImplicit false

namespace Swtrust

open Library

structure HealthTests where
  last : Option UInt8
  repetitions : Nat
  windowValue : UInt8
  windowCount : Nat
  windowSeen : Nat
  window : Nat
  cutoff : Nat

namespace HealthTests

def repetitionCutoff : Nat := 32
def acquisitionCutoff : Nat := 10

def withWindow (window cutoff : Nat) : HealthTests where
  last := none
  repetitions := 0
  windowValue := 0
  windowCount := 0
  windowSeen := window
  window := max window 1
  cutoff := cutoff

def forAcquisition (size : Nat) : HealthTests := withWindow size acquisitionCutoff

def repetition (b : UInt8) (t : HealthTests) : Except String HealthTests :=
  if t.last = some b then
    if repetitionCutoff ≤ t.repetitions + 1 then .error "entropy repetition count"
    else .ok { t with repetitions := t.repetitions + 1 }
  else .ok { t with last := some b, repetitions := 1 }

-- A finished window starts a new one on the next octet, which becomes the value that window counts.
def proportion (b : UInt8) (t : HealthTests) : Except String HealthTests :=
  if t.window ≤ t.windowSeen then .ok { t with windowValue := b, windowCount := 1, windowSeen := 1 }
  else if b = t.windowValue then
    if t.cutoff ≤ t.windowCount + 1 then .error "entropy adaptive proportion"
    else .ok { t with windowSeen := t.windowSeen + 1, windowCount := t.windowCount + 1 }
  else .ok { t with windowSeen := t.windowSeen + 1 }

def observe (t : HealthTests) (b : UInt8) : Except String HealthTests := do
  let t ← t.repetition b
  t.proportion b

-- What becomes of the tests after a failure is left out: nobody asks them again.
def check (t : HealthTests) (data : Bytes) : Except String HealthTests := data.foldlM observe t

-- What the two tests are for: A value in a row as often as the cutoff, and a window whose first value comes as often
-- as the cutoff. The first octet of a window is not held against the source, whatever the cutoff.
def Stuck (data : Bytes) : Prop := ∃ b, List.replicate repetitionCutoff b <:+: data

def Skewed (window cutoff : Nat) (data : Bytes) : Prop :=
  ∃ k b, data[k * window]? = some b ∧ max cutoff 2 ≤ ((data.drop (k * window)).take window).count b

def run (b : UInt8) (data : Bytes) : Nat := (data.reverse.takeWhile (· = b)).length

theorem prefix_replicate (b : UInt8) (n : Nat) (data : Bytes) :
    List.replicate n b <+: data ↔ n ≤ (data.takeWhile (· = b)).length := by
  induction n generalizing data with
  | zero => simp
  | succ n ih =>
      rw [List.replicate_succ]
      cases data with
      | nil => simp
      | cons c rest =>
          rw [List.cons_prefix_cons, ih]
          by_cases same : b = c
          · subst same
            simp
          · have other : ¬ c = b := fun eq => same eq.symm
            simp [same, other]

theorem stuck_concat (data : Bytes) (b : UInt8) :
    Stuck (data ++ [b]) ↔ Stuck data ∨ repetitionCutoff ≤ run b data + 1 := by
  have reversed : ∀ data : Bytes, Stuck data ↔ ∃ c, List.replicate repetitionCutoff c <:+: data.reverse := by
    intro data
    apply exists_congr
    intro c
    rw [← List.reverse_infix, List.reverse_replicate]
  rw [reversed, reversed, List.reverse_append, List.reverse_singleton, List.singleton_append]
  constructor
  · rintro ⟨c, inside⟩
    rcases List.infix_cons_iff.mp inside with start | later
    · right
      rw [prefix_replicate] at start
      by_cases same : b = c
      · subst same
        simpa [run] using start
      · simp [same, repetitionCutoff] at start
    · exact .inl ⟨c, later⟩
  · rintro (⟨c, inside⟩ | enough)
    · exact ⟨c, List.infix_cons_iff.mpr (.inr inside)⟩
    · refine ⟨b, List.infix_cons_iff.mpr (.inl ?_)⟩
      rw [prefix_replicate]
      simpa [run] using enough

theorem run_concat_same (data : Bytes) (b : UInt8) : run b (data ++ [b]) = run b data + 1 := by
  simp [run]

theorem run_fresh (data : Bytes) (b : UInt8) (other : data.getLast? ≠ some b) : run b data = 0 := by
  unfold run
  rw [← List.head?_reverse] at other
  cases back : data.reverse with
  | nil => rfl
  | cons c rest =>
      rw [back, List.head?_cons] at other
      have apart : ¬ c = b := fun same => other (congrArg some same)
      simp [apart]

-- The octets of a window so far: it starts at a multiple of the width and is not over its end.
structure Window (width : Nat) (data : Bytes) (k : Nat) : Prop where
  begun : k * width < data.length
  open' : data.length ≤ k * width + width

theorem window_apart (width k j : Nat) (apart : j ≠ k) : j * width + width ≤ k * width ∨ k * width + width ≤ j * width := by
  rcases Nat.lt_or_gt_of_ne apart with less | more
  · left
    rw [← Nat.succ_mul]
    exact Nat.mul_le_mul_right width less
  · right
    rw [← Nat.succ_mul]
    exact Nat.mul_le_mul_right width more

theorem skewed_later (width cutoff : Nat) (data : Bytes) (b : UInt8) (skewed : Skewed width cutoff data) :
    Skewed width cutoff (data ++ [b]) := by
  obtain ⟨k, c, first, enough⟩ := skewed
  have inside : k * width < data.length := (List.getElem?_eq_some_iff.mp first).1
  refine ⟨k, c, ?_, ?_⟩
  · rw [List.getElem?_append_left inside]
    exact first
  · rw [List.drop_append_of_le_length (Nat.le_of_lt inside), List.take_append, List.count_append]
    exact Nat.le_trans enough (Nat.le_add_right _ _)

-- A window that is over is not changed by what follows.
theorem skewed_earlier (width cutoff : Nat) (data : Bytes) (b : UInt8) (k j : Nat) (c : UInt8) (apart : j ≠ k)
    (starts : k * width ≤ data.length) (ends : data.length < k * width + width)
    (first : (data ++ [b])[j * width]? = some c)
    (enough : max cutoff 2 ≤ (((data ++ [b]).drop (j * width)).take width).count c) : Skewed width cutoff data := by
  have inside := (List.getElem?_eq_some_iff.mp first).1
  rw [List.length_append, List.length_singleton] at inside
  have early : j * width + width ≤ data.length := by
    rcases window_apart width k j apart with before | behind
    · omega
    · omega
  refine ⟨j, c, ?_, ?_⟩
  · rwa [List.getElem?_append_left (by omega)] at first
  · rw [List.drop_append_of_le_length (by omega), List.take_append_of_le_length (by rw [List.length_drop]; omega)] at enough
    exact enough

-- What the tests remember of the octets they have passed.
structure Watched (width cutoff : Nat) (data : Bytes) (t : HealthTests) : Prop where
  window : t.window = width
  cutoff : t.cutoff = cutoff
  last : t.last = data.getLast?
  repetitions : ∀ b, t.last = some b → t.repetitions = run b data
  idle : data = [] → width ≤ t.windowSeen
  counting : ∀ k, Window width data k → data[k * width]? = some t.windowValue ∧
    t.windowCount = (data.drop (k * width)).count t.windowValue ∧ t.windowSeen = data.length - k * width

section

variable (width cutoff : Nat) (data : Bytes) (t : HealthTests)

theorem window_found (positive : 0 < width) (some' : data ≠ []) : ∃ k, Window width data k := by
  have length := List.length_pos_iff.mpr some'
  have parts := Nat.div_add_mod (data.length - 1) width
  have small := Nat.mod_lt (data.length - 1) positive
  rw [Nat.mul_comm] at parts
  exact ⟨(data.length - 1) / width, ⟨by omega, by omega⟩⟩

theorem window_unique (k j : Nat) (one : Window width data k) (other : Window width data j) : k = j := by
  by_contra apart
  obtain ⟨begun, ended⟩ := one
  obtain ⟨begun', ended'⟩ := other
  rcases window_apart width j k apart with before | behind
  · omega
  · omega

-- The next octet opens a window.
theorem opens_window (positive : 0 < width) (watched : Watched width cutoff data t) (full : t.window ≤ t.windowSeen) :
    ∃ k, data.length = k * width := by
  by_cases nothing : data = []
  · exact ⟨0, by simp [nothing]⟩
  · obtain ⟨k, here⟩ := window_found width data positive nothing
    obtain ⟨-, -, seen⟩ := watched.counting k here
    rw [watched.window, seen] at full
    obtain ⟨begun, ended⟩ := here
    exact ⟨k + 1, by rw [Nat.succ_mul]; omega⟩

theorem skewed_concat_open (positive : 0 < width) (b : UInt8) (k : Nat) (starts : data.length = k * width) :
    Skewed width cutoff (data ++ [b]) ↔ Skewed width cutoff data := by
  constructor
  · rintro ⟨j, c, first, enough⟩
    by_cases same : j = k
    · subst same
      rw [List.drop_append_of_le_length (Nat.le_of_eq starts.symm), ← starts, List.drop_length, List.nil_append] at enough
      have few : (([b] : Bytes).take width).count c ≤ 1 :=
        Nat.le_trans List.count_le_length (by rw [List.length_take, List.length_singleton]; omega)
      omega
    · exact skewed_earlier width cutoff data b k j c same (by omega) (by omega) first enough
  · exact skewed_later width cutoff data b

theorem skewed_concat_within (b : UInt8) (k : Nat) (within : k * width < data.length ∧ data.length < k * width + width)
    (value : UInt8) (first : data[k * width]? = some value) : Skewed width cutoff (data ++ [b]) ↔
      Skewed width cutoff data ∨ max cutoff 2 ≤ (data.drop (k * width)).count value + if b = value then 1 else 0 := by
  obtain ⟨begun, ended⟩ := within
  have whole : ((data ++ [b]).drop (k * width)).take width = data.drop (k * width) ++ [b] := by
    rw [List.drop_append_of_le_length (Nat.le_of_lt begun)]
    exact List.take_of_length_le (by rw [List.length_append, List.length_drop, List.length_singleton]; omega)
  have counted : (((data ++ [b]).drop (k * width)).take width).count value =
      (data.drop (k * width)).count value + if b = value then 1 else 0 := by
    rw [whole, List.count_append, List.count_singleton]
    simp
  have here : (data ++ [b])[k * width]? = some value := by rwa [List.getElem?_append_left begun]
  constructor
  · rintro ⟨j, c, start, enough⟩
    by_cases same : j = k
    · subst same
      rw [here] at start
      cases start
      exact .inr (counted ▸ enough)
    · exact .inl (skewed_earlier width cutoff data b k j c same (Nat.le_of_lt begun) ended start enough)
  · rintro (skewed | enough)
    · exact skewed_later width cutoff data b skewed
    · exact ⟨k, value, here, counted ▸ enough⟩

theorem repetition_step (b : UInt8) (watched : Watched width cutoff data t) (fine : ¬ Stuck data) :
    (Stuck (data ++ [b]) → t.repetition b = .error "entropy repetition count") ∧
      (¬ Stuck (data ++ [b]) → t.repetition b = .ok { t with last := some b, repetitions := run b data + 1 }) := by
  rw [stuck_concat, or_iff_right fine]
  unfold repetition
  by_cases same : t.last = some b
  · rw [if_pos same, watched.repetitions b same]
    refine ⟨fun enough => if_pos enough, fun few => ?_⟩
    rw [if_neg few, ← same]
  · have short : run b data = 0 := run_fresh data b (watched.last ▸ same)
    rw [if_neg same, short]
    exact ⟨fun enough => absurd enough (by decide), fun _ => rfl⟩

theorem proportion_step (positive : 0 < width) (b : UInt8) (watched : Watched width cutoff data t)
    (fine : ¬ Skewed width cutoff data)
    (u : HealthTests) (rest : u = { t with last := some b, repetitions := run b data + 1 }) :
    (Skewed width cutoff (data ++ [b]) → u.proportion b = .error "entropy adaptive proportion") ∧
      (¬ Skewed width cutoff (data ++ [b]) → ∃ u', u.proportion b = .ok u' ∧ Watched width cutoff (data ++ [b]) u') := by
  subst rest
  unfold proportion
  have runs : ∀ c, some b = some c → run b data + 1 = run c (data ++ [b]) := by
    intro c same
    cases same
    exact (run_concat_same data b).symm
  by_cases full : t.window ≤ t.windowSeen
  · obtain ⟨k, starts⟩ := opens_window width cutoff data t positive watched full
    rw [skewed_concat_open width cutoff data positive b k starts]
    refine ⟨fun skewed => absurd skewed fine, fun _ => ⟨_, if_pos full, ?_⟩⟩
    have only : Window width (data ++ [b]) k :=
      ⟨by rw [List.length_append, List.length_singleton]; omega, by rw [List.length_append, List.length_singleton]; omega⟩
    exact {
      window := watched.window
      cutoff := watched.cutoff
      last := List.getLast?_concat.symm
      repetitions := runs
      idle := fun nothing => absurd nothing (by simp)
      counting := fun j here => by
        have same := window_unique width (data ++ [b]) j k here only
        subst same
        rw [List.drop_append_of_le_length (Nat.le_of_eq starts.symm), ← starts, List.drop_length]
        simp }
  · have nonempty : data ≠ [] := fun nothing => full (watched.window ▸ watched.idle nothing)
    obtain ⟨k, here⟩ := window_found width data positive nonempty
    obtain ⟨first, counted, seen⟩ := watched.counting k here
    have within : k * width < data.length ∧ data.length < k * width + width := by
      rw [watched.window, seen] at full
      exact ⟨here.begun, by have := here.begun; omega⟩
    have only : Window width (data ++ [b]) k :=
      ⟨by rw [List.length_append, List.length_singleton]; omega, by rw [List.length_append, List.length_singleton]; omega⟩
    have grown : ∀ count, count = t.windowCount + (if b = t.windowValue then 1 else 0) →
        Watched width cutoff (data ++ [b])
          { t with last := some b, repetitions := run b data + 1, windowSeen := t.windowSeen + 1, windowCount := count } := by
      intro count exactly'
      exact {
        window := watched.window
        cutoff := watched.cutoff
        last := List.getLast?_concat.symm
        repetitions := runs
        idle := fun nothing => absurd nothing (by simp)
        counting := fun j found => by
          have same := window_unique width (data ++ [b]) j k found only
          subst same
          refine ⟨?_, ?_, ?_⟩
          · rwa [List.getElem?_append_left within.1]
          · rw [List.drop_append_of_le_length (Nat.le_of_lt within.1), List.count_append, List.count_singleton]
            simp only [exactly', counted, beq_iff_eq]
          · rw [List.length_append, List.length_singleton]
            simp only [seen]
            omega }
    rw [skewed_concat_within width cutoff data b k within t.windowValue first, or_iff_right fine, ← counted,
      if_neg full]
    have present : 1 ≤ t.windowCount := by
      rw [counted]
      apply List.count_pos_iff.mpr
      exact List.mem_of_getElem? (by rwa [List.getElem?_drop, Nat.add_zero])
    by_cases same : b = t.windowValue
    · simp only [if_pos same]
      have grown := grown (t.windowCount + 1) (by rw [if_pos same])
      by_cases ended : t.cutoff ≤ t.windowCount + 1
      · rw [if_pos ended]
        refine ⟨fun _ => rfl, fun few => absurd ?_ few⟩
        rw [watched.cutoff] at ended
        omega
      · rw [if_neg ended]
        refine ⟨fun enough => absurd ?_ ended, fun _ => ⟨_, rfl, grown⟩⟩
        rw [watched.cutoff]
        omega
    · simp only [if_neg same]
      refine ⟨fun enough => absurd ?_ fine, fun _ => ⟨_, rfl, grown t.windowCount (by rw [if_neg same, Nat.add_zero])⟩⟩
      refine ⟨k, t.windowValue, first, ?_⟩
      rw [List.take_of_length_le (by rw [List.length_drop]; omega), ← counted]
      exact enough

end

theorem watched_start (width cutoff : Nat) (positive : 0 < width) : Watched width cutoff [] (withWindow width cutoff) where
  window := Nat.max_eq_left positive
  cutoff := rfl
  last := rfl
  repetitions := fun b none => by cases none
  idle := fun _ => Nat.le_refl width
  counting := fun k here => absurd here.begun (by simp)

theorem check_watches (width cutoff : Nat) (positive : 0 < width) (data : Bytes) :
    (¬ Stuck data ∧ ¬ Skewed width cutoff data →
      ∃ t, (withWindow width cutoff).check data = .ok t ∧ Watched width cutoff data t) ∧
    (Stuck data ∨ Skewed width cutoff data → ∃ e, (withWindow width cutoff).check data = .error e) := by
  induction data using List.reverseRecOn with
  | nil =>
      refine ⟨fun _ => ⟨_, rfl, watched_start width cutoff positive⟩, ?_⟩
      rintro (⟨b, inside⟩ | ⟨k, b, first, -⟩)
      · have short := inside.length_le
        rw [List.length_replicate] at short
        exact absurd short (by decide)
      · simp at first
  | append_singleton data b ih =>
      have stepped : (withWindow width cutoff).check (data ++ [b]) =
          ((withWindow width cutoff).check data).bind (·.observe b) := by
        unfold check
        rw [List.foldlM_append]
        simp only [List.foldlM_cons, List.foldlM_nil, bind_pure]
        rfl
      rw [stepped]
      by_cases before : Stuck data ∨ Skewed width cutoff data
      · obtain ⟨e, failed⟩ := ih.2 before
        rw [failed]
        refine ⟨fun fine => absurd before ?_, fun _ => ⟨e, rfl⟩⟩
        rintro (stuck | skewed)
        · exact fine.1 ((stuck_concat data b).mpr (.inl stuck))
        · exact fine.2 (skewed_later width cutoff data b skewed)
      · obtain ⟨notStuck, notSkewed⟩ := not_or.mp before
        obtain ⟨t, passed, watched⟩ := ih.1 ⟨notStuck, notSkewed⟩
        obtain ⟨sticks, goes⟩ := repetition_step width cutoff data t b watched notStuck
        obtain ⟨fails, passes⟩ := proportion_step width cutoff data t positive b watched notSkewed _ rfl
        rw [passed]
        by_cases stuck : Stuck (data ++ [b])
        · refine ⟨fun fine => absurd stuck fine.1, fun _ => ⟨"entropy repetition count", ?_⟩⟩
          show (do let t ← t.repetition b; t.proportion b) = _
          rw [sticks stuck]
          rfl
        · have rest : (Except.ok t).bind (·.observe b) =
              proportion b { t with last := some b, repetitions := run b data + 1 } := by
            show (do let t ← t.repetition b; t.proportion b) = _
            rw [goes stuck]
            rfl
          rw [rest]
          refine ⟨fun fine => passes fine.2, ?_⟩
          rintro (again | skewed)
          · exact absurd again stuck
          · exact ⟨_, fails skewed⟩

-- However the source is read, in one request or in many, the tests pass just what neither sticks at a value nor keeps
-- coming back to the first value of a window.
theorem health_tests_decide (width cutoff : Nat) (positive : 0 < width) (chunks : List Bytes) :
    (chunks.foldlM check (withWindow width cutoff)).isOk = true ↔
      ¬ Stuck chunks.flatten ∧ ¬ Skewed width cutoff chunks.flatten := by
  have joined : ∀ (chunks : List Bytes) (t : HealthTests), chunks.foldlM check t = t.check chunks.flatten := by
    intro chunks
    induction chunks with
    | nil => intro t; rfl
    | cons chunk rest ih =>
        intro t
        rw [List.flatten_cons, check, List.foldlM_append, List.foldlM_cons]
        exact congrArg _ (funext ih)
  rw [joined]
  obtain ⟨passes, fails⟩ := check_watches width cutoff positive chunks.flatten
  constructor
  · intro passed
    by_contra bad
    obtain ⟨e, failed⟩ := fails (not_and_or.mp bad |>.imp not_not.mp not_not.mp)
    rw [failed] at passed
    cases passed
  · intro fine
    obtain ⟨t, passed, -⟩ := passes fine
    rw [passed]
    rfl

theorem acquisition_decides : ((([[1, 2], [1, 3]] : List Bytes)).foldlM check (forAcquisition 48)).isOk = true ↔
    ¬ Stuck [1, 2, 1, 3] ∧ ¬ Skewed 48 acquisitionCutoff [1, 2, 1, 3] :=
  health_tests_decide 48 acquisitionCutoff (by decide) [[1, 2], [1, 3]]

end HealthTests

section

variable [Crypto]

-- What the platform filled in is tested before the generator is made of it.
def Drbg.fromSystem (seed : Bytes) : TpmResult Drbg := do
  let _ ← ((HealthTests.forAcquisition seed.length).check seed).mapError fun _ => Rc.failure
  Drbg.instantiate seed [] (ascii "swtrust")

-- A generator comes only of octets that are neither stuck nor keep coming back to the first of them.
theorem from_system_is_ok (seed : Bytes) (some : seed ≠ []) (rng : Drbg) :
    Drbg.fromSystem seed = .ok rng ↔ ¬ HealthTests.Stuck seed ∧
      ¬ HealthTests.Skewed seed.length HealthTests.acquisitionCutoff seed ∧
      Drbg.instantiate seed [] (ascii "swtrust") = .ok rng := by
  have decides := HealthTests.check_watches seed.length HealthTests.acquisitionCutoff (List.length_pos_of_ne_nil some) seed
  unfold Drbg.fromSystem HealthTests.forAcquisition
  simp only [bind_is_ok, map_error_is_ok]
  constructor
  · rintro ⟨tests, passed, made⟩
    have fine : ¬ (HealthTests.Stuck seed ∨ HealthTests.Skewed seed.length HealthTests.acquisitionCutoff seed) := by
      intro bad
      obtain ⟨e, failed⟩ := decides.2 bad
      rw [failed] at passed
      cases passed
    rw [not_or] at fine
    exact ⟨fine.1, fine.2, made⟩
  · rintro ⟨steady, spread, made⟩
    obtain ⟨tests, passed, -⟩ := decides.1 ⟨steady, spread⟩
    exact ⟨tests, passed, made⟩

end

end Swtrust
