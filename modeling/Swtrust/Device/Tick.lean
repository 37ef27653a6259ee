import Swtrust.Device.Frame

set_option autoImplicit false
set_option linter.unusedSectionVars false

namespace Swtrust

open Library

namespace Library

-- The intervals between an instant and those that follow it.
def gaps (start : Nat) : List Nat → List Nat
  | [] => []
  | next :: rest => (next - start) :: gaps next rest

theorem gaps_sum (start : Nat) (instants : List Nat) (ordered : (start :: instants).Pairwise (· ≤ ·)) :
    start + (gaps start instants).sum = instants.getLastD start := by
  induction instants generalizing start with
  | nil => simp [gaps]
  | cons next rest ih =>
      obtain ⟨first, later⟩ := List.pairwise_cons.mp ordered
      have here : start ≤ next := first next List.mem_cons_self
      have there := ih next later
      rw [List.getLastD_cons, ← there, gaps, List.sum_cons]
      omega

end Library

-- The device with the instant, in nanoseconds, at which it last took the powered time.
structure TimedTpm where
  tpm : Tpm
  lastTick : Nat

-- A signal at an instant. The device takes the time itself, so what the signal says of it does not count.
structure TimedSignal where
  now : Nat
  signal : Signal

def nanosPerMilli : Nat := 1000000

namespace TimedTpm

def toMillis (nanos : Nat) : UInt64 :=
  let millis := nanos / nanosPerMilli
  if millis < 2 ^ 64 then UInt64.ofNat millis else 0xFFFFFFFFFFFFFFFF

def elapsed (now : Nat) (t : TimedTpm) : UInt64 × TimedTpm :=
  if !t.tpm.powered then (0, t) else (toMillis (now - t.lastTick), { t with lastTick := now })

def restartTick (now : Nat) (t : TimedTpm) : TimedTpm := { t with lastTick := now }

section

variable [Primitives]

def after (t : TimedTpm) (event : TimedSignal) : TimedTpm :=
  match event.signal with
  | .execute _ written locality command =>
      if !t.tpm.powered then t
      else
        let (millis, t) := t.elapsed event.now
        { t with tpm := t.tpm.after (.execute millis written locality command) }
  | .actGetSignaled act _ written =>
      if act ≠ 0 then t
      else
        let (millis, t) := t.elapsed event.now
        { t with tpm := t.tpm.after (.actGetSignaled act millis written) }
  | .powerOn fresh =>
      let t := t.restartTick event.now
      { t with tpm := t.tpm.after (.powerOn fresh) }
  | signal => { t with tpm := t.tpm.after signal }

def afterAll (t : TimedTpm) (events : List TimedSignal) : TimedTpm := events.foldl after t

end

end TimedTpm

namespace TimedSignal

-- The signals on which the device takes the time.
def takesTime (event : TimedSignal) : Bool :=
  match event.signal with
  | .execute .. => true
  | .actGetSignaled act .. => act == 0
  | _ => false

def switchesPower (event : TimedSignal) : Bool :=
  match event.signal with
  | .powerOn .. => true
  | .powerOff .. => true
  | .restart .. => true
  | _ => false

end TimedSignal

namespace TimedTpm

section

variable [Primitives]

-- The milliseconds that the events credit, one number for each on which the time is taken.
def credits (t : TimedTpm) : List TimedSignal → List UInt64
  | [] => []
  | event :: rest =>
      if event.takesTime then (t.elapsed event.now).1 :: (t.after event).credits rest else (t.after event).credits rest

def calls (events : List TimedSignal) : List Nat := (events.filter TimedSignal.takesTime).map TimedSignal.now

theorem calls_cons (event : TimedSignal) (rest : List TimedSignal) :
    calls (event :: rest) = if event.takesTime then event.now :: calls rest else calls rest := by
  by_cases takes : event.takesTime = true
  · simp [calls, takes]
  · simp [calls, takes]

theorem elapsed_powered (t : TimedTpm) (now : Nat) (powered : t.tpm.powered = true) :
    t.elapsed now = (toMillis (now - t.lastTick), { t with lastTick := now }) := by
  simp [elapsed, powered]

theorem executes_powered (t : Tpm) (elapsed : UInt64) (written : Bool) (locality : UInt8) (command : Bytes)
    (outcome : Bytes × Tpm) (ended : Tpm.Executes t elapsed written locality command outcome) :
    outcome.2.powered = t.powered := by
  cases ended with
  | saved healthy writes => rfl
  | closed refused writes => rfl
  | clockLost refused plain same rolled => rfl
  | unsaved plain same still => rfl

theorem act_get_signaled_powered (act : UInt32) (elapsed : UInt64) (written : Bool) (t : Tpm) :
    (t.actGetSignaled act elapsed written).2.powered = t.powered := by
  refine Tpm.holds_after_poll (fun u => u.powered = t.powered) t act elapsed written (fun _ => rfl) fun u same => ?_
  exact (u.persist_powered written).trans same

-- The tick is the instant at which the time was last taken, and nothing but a switch changes the power.
theorem after_ticks (t : TimedTpm) (event : TimedSignal) (powered : t.tpm.powered = true)
    (stays : event.switchesPower = false) : (t.after event).tpm.powered = true ∧
      (t.after event).lastTick = if event.takesTime then event.now else t.lastTick := by
  obtain ⟨now, signal⟩ := event
  cases signal with
  | execute elapsed written locality command =>
      simp only [after, powered, Bool.not_true, Bool.false_eq_true, if_false, elapsed_powered]
      have ended := t.tpm.execute_executes (toMillis (now - t.lastTick)) written locality command powered
      exact ⟨(executes_powered t.tpm _ written locality command _ ended).trans powered, rfl⟩
  | actGetSignaled act elapsed written =>
      by_cases other : act ≠ 0
      · simp only [after, if_pos other]
        refine ⟨powered, ?_⟩
        simp [TimedSignal.takesTime, other]
      · simp only [after, if_neg other, elapsed_powered, powered]
        refine ⟨(act_get_signaled_powered act _ written t.tpm).trans powered, ?_⟩
        simp [TimedSignal.takesTime, not_not.mp other]
  | powerOn fresh => cases stays
  | powerOff written => cases stays
  | restart fresh => cases stays
  | nv available => exact ⟨powered, rfl⟩
  | physicalPresence asserted => exact ⟨powered, rfl⟩
  | hashStart => exact ⟨powered, rfl⟩
  | hashData data => exact ⟨powered, rfl⟩
  | hashEnd => exact ⟨powered, rfl⟩

section

variable (events : List TimedSignal) (t : TimedTpm) (powered : t.tpm.powered = true)
  (stays : ∀ event ∈ events, event.switchesPower = false)

include powered stays

theorem credits_gaps : t.credits events = (gaps t.lastTick (calls events)).map toMillis := by
  induction events generalizing t with
  | nil => rfl
  | cons event rest ih =>
      obtain ⟨still, tick⟩ := after_ticks t event powered (stays event List.mem_cons_self)
      have later := ih (t.after event) still fun other member => stays other (List.mem_cons_of_mem _ member)
      rw [credits, later, tick, calls_cons]
      by_cases takes : event.takesTime = true
      · simp [takes, gaps, elapsed_powered, powered]
      · simp [takes]

theorem last_tick : (t.afterAll events).lastTick = (calls events).getLastD t.lastTick := by
  induction events generalizing t with
  | nil => rfl
  | cons event rest ih =>
      obtain ⟨still, tick⟩ := after_ticks t event powered (stays event List.mem_cons_self)
      have later := ih (t.after event) still fun other member => stays other (List.mem_cons_of_mem _ member)
      have unfolded : t.afterAll (event :: rest) = (t.after event).afterAll rest := rfl
      rw [unfolded, later, tick, calls_cons]
      by_cases takes : event.takesTime = true
      · rw [if_pos takes, if_pos takes, List.getLastD_cons]
      · rw [if_neg takes, if_neg takes]

end

-- What one taking of the time leaves uncredited.
def loss (nanos : Nat) : Nat :=
  if nanos / nanosPerMilli < 2 ^ 64 then nanos % nanosPerMilli else nanos - (2 ^ 64 - 1) * nanosPerMilli

theorem to_millis_loss (nanos : Nat) : (toMillis nanos).toNat * nanosPerMilli + loss nanos = nanos := by
  have parts := Nat.div_add_mod nanos nanosPerMilli
  unfold toMillis loss
  by_cases small : nanos / nanosPerMilli < 2 ^ 64
  · rw [if_pos small, if_pos small, UInt64.toNat_ofNat_of_lt' small]
    rw [Nat.mul_comm]
    exact parts
  · have whole : (2 ^ 64 - 1) * nanosPerMilli ≤ nanos :=
      (Nat.le_div_iff_mul_le (by decide)).mp (by omega)
    rw [if_neg small, if_neg small, show (0xFFFFFFFFFFFFFFFF : UInt64).toNat = 2 ^ 64 - 1 from rfl]
    omega

theorem loss_large (nanos : Nat) (large : ¬ nanos / nanosPerMilli < 2 ^ 64) : nanosPerMilli ≤ loss nanos := by
  have whole : 2 ^ 64 * nanosPerMilli ≤ nanos := (Nat.le_div_iff_mul_le (by decide)).mp (by omega)
  unfold loss
  rw [if_neg large]
  unfold nanosPerMilli at *
  omega

theorem credited_and_lost (intervals : List Nat) :
    ((intervals.map toMillis).map UInt64.toNat).sum * nanosPerMilli + (intervals.map loss).sum = intervals.sum := by
  induction intervals with
  | nil => simp
  | cons nanos rest ih =>
      have first := to_millis_loss nanos
      simp only [List.map_cons, List.sum_cons, Nat.add_mul]
      omega

-- Less than a millisecond is lost exactly where the fractions add up to less than one, and no interval is too long.
theorem small_loss (intervals : List Nat) : (intervals.map loss).sum < nanosPerMilli ↔
    (∀ nanos ∈ intervals, nanos / nanosPerMilli < 2 ^ 64) ∧
      (intervals.map (· % nanosPerMilli)).sum < nanosPerMilli := by
  have fractions : (∀ nanos ∈ intervals, nanos / nanosPerMilli < 2 ^ 64) →
      intervals.map loss = intervals.map (· % nanosPerMilli) := fun short =>
    List.map_congr_left fun nanos member => if_pos (short nanos member)
  constructor
  · intro small
    have short : ∀ nanos ∈ intervals, nanos / nanosPerMilli < 2 ^ 64 := by
      intro nanos member
      by_contra large
      have one := loss_large nanos large
      have within := List.le_sum_of_mem (List.mem_map_of_mem (f := loss) member)
      omega
    exact ⟨short, fractions short ▸ small⟩
  · rintro ⟨short, small⟩
    rw [fractions short]
    exact small

-- The time credited since `start` is the time that passed until it was last taken, but for less than a millisecond.
def Accounts (start : Nat) (t : TimedTpm) (events : List TimedSignal) : Prop :=
  let credited := ((t.credits events).map UInt64.toNat).sum * nanosPerMilli
  let passed := (t.afterAll events).lastTick - start
  credited ≤ passed ∧ passed - credited < nanosPerMilli

-- From a power on, at whatever rate the signals come.
theorem powered_time (t : TimedTpm) (start : Nat) (fresh : TpmState) (events : List TimedSignal)
    (stays : ∀ event ∈ events, event.switchesPower = false)
    (ordered : (start :: calls events).Pairwise (· ≤ ·)) :
    Accounts start (t.after ⟨start, .powerOn fresh⟩) events ↔
      (∀ nanos ∈ gaps start (calls events), nanos / nanosPerMilli < 2 ^ 64) ∧
        ((gaps start (calls events)).map (· % nanosPerMilli)).sum < nanosPerMilli := by
  have powered : (t.after ⟨start, .powerOn fresh⟩).tpm.powered = true := rfl
  have tick : (t.after ⟨start, .powerOn fresh⟩).lastTick = start := rfl
  have credited := credits_gaps events (t.after ⟨start, .powerOn fresh⟩) powered stays
  have last := last_tick events (t.after ⟨start, .powerOn fresh⟩) powered stays
  rw [tick] at credited last
  have passed := gaps_sum start (calls events) ordered
  have balance := credited_and_lost (gaps start (calls events))
  rw [← small_loss]
  unfold Accounts
  rw [credited, last, ← passed]
  constructor
  · rintro ⟨_, close⟩
    omega
  · intro small
    constructor
    · omega
    · omega

-- Signals that come less than a millisecond apart are given no time at all.
theorem quick_signals_stop_time (t : TimedTpm) (events : List TimedSignal) (powered : t.tpm.powered = true)
    (stays : ∀ event ∈ events, event.switchesPower = false)
    (quick : ∀ nanos ∈ gaps t.lastTick (calls events), nanos < nanosPerMilli) :
    ∀ millis ∈ t.credits events, millis = 0 := by
  rw [credits_gaps events t powered stays]
  intro millis member
  obtain ⟨nanos, listed, rfl⟩ := List.mem_map.mp member
  have none : nanos / nanosPerMilli = 0 := Nat.div_eq_of_lt (quick nanos listed)
  simp [toMillis, none]

end

end TimedTpm

namespace Toy

-- Two polls of the countdown timer, six tenths of a millisecond apart.
def quickPolls : List TimedSignal :=
  [⟨600000, .actGetSignaled 0 0 true⟩, ⟨1200000, .actGetSignaled 0 0 true⟩]

theorem quick_polls_lose_time : ¬ ∀ (t : TimedTpm) (start : Nat) (fresh : TpmState) (events : List TimedSignal),
    (∀ event ∈ events, event.switchesPower = false) → (start :: TimedTpm.calls events).Pairwise (· ≤ ·) →
    TimedTpm.Accounts start (t.after ⟨start, .powerOn fresh⟩) events := by
  intro always
  have accounts := always ⟨Tpm.manufactured blank, 0⟩ 0 blank quickPolls (by decide) (by decide)
  obtain ⟨_, lost⟩ := accounts
  exact absurd lost (by decide +kernel)

-- Three polls whose fractions of a millisecond add up to less than one, and one of a timer that is not there.
def slowPolls : List TimedSignal :=
  [⟨5200000, .actGetSignaled 0 0 true⟩, ⟨7000000, .actGetSignaled 1 0 true⟩, ⟨9500000, .actGetSignaled 0 0 true⟩,
    ⟨12900000, .actGetSignaled 0 0 true⟩]

theorem slow_polls_keep_time : TimedTpm.Accounts 0
    ((⟨Tpm.manufactured blank, 0⟩ : TimedTpm).after ⟨0, .powerOn blank⟩) slowPolls :=
  (TimedTpm.powered_time ⟨Tpm.manufactured blank, 0⟩ 0 blank slowPolls (by decide) (by decide)).mpr (by decide)

end Toy

end Swtrust
