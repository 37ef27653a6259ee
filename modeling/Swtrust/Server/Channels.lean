import Swtrust.Server.Qemu

set_option autoImplicit false

-- Connections side by side: any number of them on either channel of a virtual machine monitor, and the slots that
-- bound how many there are.

namespace Swtrust

open Library

namespace Server

namespace Qemu

-- A data connection reads a command, takes the locality there is, and then has the device run it; what the control
-- connections do may come in between.
inductive Act where
  | control (request : Control)
  | arrive (conn : Nat) (command : Bytes)
  | execute (conn : Nat)

structure Channels (σ : Type) where
  machine : Machine σ
  waiting : Nat → Option (UInt8 × Bytes) := fun _ => none
  executed : List (UInt8 × Bytes) := []

section

variable {σ : Type} (device : Device σ)

-- A connection that waits for its command reads no other.
def Channels.after (c : Channels σ) : Act → Channels σ
  | .control request => { c with machine := (answerControl device request c.machine).1 }
  | .arrive conn command =>
      if (c.waiting conn).isSome then c
      else { c with waiting := Function.update c.waiting conn (some (c.machine.link.locality, command)) }
  | .execute conn =>
      match c.waiting conn with
      | none => c
      | some (locality, command) =>
        { c with
          machine := { c.machine with device := (device.execute locality command c.machine.device).2 }
          waiting := Function.update c.waiting conn none
          executed := c.executed ++ [(locality, command)] }

def Channels.afterAll (c : Channels σ) (acts : List Act) : Channels σ := acts.foldl (Channels.after device) c

-- The locality that was chosen last, and accepted.
def chooses (locality : UInt8) : Act → UInt8
  | .control (.worded .setLocality payload) =>
      if maxLocality < localityOf payload then locality else localityOf payload
  | _ => locality

def chosen (acts : List Act) : UInt8 := acts.foldl chooses 0

theorem chosen_concat (acts : List Act) (act : Act) : chosen (acts ++ [act]) = chooses (chosen acts) act :=
  List.foldl_append

theorem agreed_in_range (link : Link) (wanted : UInt32)
    (inRange : minBufferSize ≤ link.bufferSize ∧ link.bufferSize ≤ maxBufferSize) :
    minBufferSize ≤ (link.agreeBufferSize wanted).2.bufferSize ∧
      (link.agreeBufferSize wanted).2.bufferSize ≤ maxBufferSize := by
  unfold Link.agreeBufferSize
  by_cases ask : wanted = 0
  · rw [if_pos ask]
    exact inRange
  rw [if_neg ask]
  by_cases low : wanted < minBufferSize
  · simp only [if_pos low]
    decide
  · simp only [if_neg low]
    by_cases high : maxBufferSize < wanted
    · simp only [if_pos high]
      decide
    · simp only [if_neg high]
      exact ⟨UInt32.not_lt.mp low, UInt32.not_lt.mp high⟩

-- A connection waits for no command: since each that arrived there has been one run.
def Idle (acts : List Act) (conn : Nat) : Prop :=
  ∀ before command later, acts = before ++ .arrive conn command :: later → .execute conn ∈ later

-- A connection waits for the command that arrived when it waited for none, and keeps the locality that was chosen then.
def WaitsFor (acts : List Act) (conn : Nat) (command : UInt8 × Bytes) : Prop :=
  ∃ before later, acts = before ++ .arrive conn command.2 :: later ∧ Idle before conn ∧ .execute conn ∉ later ∧
    command.1 = chosen before ∧ command.1 ≤ maxLocality

-- A command that was run is the one its connection waited for.
def ArrivedAt (acts : List Act) (command : UInt8 × Bytes) : Prop :=
  ∃ conn before later, acts = before ++ .execute conn :: later ∧ WaitsFor before conn command

structure Linked (acts : List Act) (c : Channels σ) : Prop where
  locality : c.machine.link.locality = chosen acts
  low : c.machine.link.locality ≤ maxLocality
  buffer : minBufferSize ≤ c.machine.link.bufferSize ∧ c.machine.link.bufferSize ≤ maxBufferSize
  idle : ∀ conn, c.waiting conn = none → Idle acts conn
  waiting : ∀ conn command, c.waiting conn = some command → WaitsFor acts conn command
  executed : ∀ command ∈ c.executed, ArrivedAt acts command

theorem idle_later (acts : List Act) (act : Act) (conn : Nat) (other : ∀ command, act ≠ .arrive conn command)
    (idle : Idle acts conn) : Idle (acts ++ [act]) conn := by
  intro before command later split
  rcases List.eq_nil_or_concat later with nothing | ⟨back, last, rest⟩
  · rw [nothing] at split
    have same := (List.append_inj' split rfl).2
    exact absurd (List.cons.inj same).1 (other command)
  · rw [rest, List.concat_eq_append, ← List.cons_append, ← List.append_assoc] at split
    obtain ⟨front, -⟩ := List.append_inj' split rfl
    rw [rest, List.concat_eq_append]
    exact List.mem_append_left _ (idle before command back front)

theorem idle_executed (acts : List Act) (conn : Nat) : Idle (acts ++ [.execute conn]) conn := by
  intro before command later split
  rcases List.eq_nil_or_concat later with nothing | ⟨back, last, rest⟩
  · rw [nothing] at split
    have same := (List.append_inj' split rfl).2
    cases same
  · rw [rest, List.concat_eq_append, ← List.cons_append, ← List.append_assoc] at split
    obtain ⟨-, same⟩ := List.append_inj' split rfl
    rw [rest, List.concat_eq_append, ← same]
    exact List.mem_append_right _ (List.mem_singleton_self _)

theorem waits_later (acts : List Act) (act : Act) (conn : Nat) (command : UInt8 × Bytes) (other : act ≠ .execute conn)
    (waits : WaitsFor acts conn command) : WaitsFor (acts ++ [act]) conn command := by
  obtain ⟨before, later, split, idle, unserved, rest⟩ := waits
  refine ⟨before, later ++ [act], by rw [split]; simp, idle, ?_, rest⟩
  simp only [List.mem_append, List.mem_singleton, not_or]
  exact ⟨unserved, fun same => other same.symm⟩

theorem arrived_later (acts : List Act) (act : Act) (command : UInt8 × Bytes) (arrived : ArrivedAt acts command) :
    ArrivedAt (acts ++ [act]) command := by
  obtain ⟨conn, before, later, split, waits⟩ := arrived
  exact ⟨conn, before, later ++ [act], by rw [split]; simp, waits⟩

theorem link_of_control (request : Control) (m : Machine σ) (acts : List Act) (same : m.link.locality = chosen acts)
    (low : m.link.locality ≤ maxLocality)
    (inRange : minBufferSize ≤ m.link.bufferSize ∧ m.link.bufferSize ≤ maxBufferSize) :
    (answerControl device request m).1.link.locality = chosen (acts ++ [.control request]) ∧
      (answerControl device request m).1.link.locality ≤ maxLocality ∧
      minBufferSize ≤ (answerControl device request m).1.link.bufferSize ∧
      (answerControl device request m).1.link.bufferSize ≤ maxBufferSize := by
  rw [chosen_concat]
  cases request with
  | hashData data => exact ⟨same, low, inRange⟩
  | bare bare => cases bare <;> exact ⟨same, low, inRange⟩
  | worded worded payload =>
      cases worded with
      | init => exact ⟨same, low, inRange⟩
      | resetEstablished =>
          simp only [answerControl, answerWorded]
          split
          · exact ⟨same, low, inRange⟩
          · exact ⟨same, low, inRange⟩
      | setBufferSize =>
          have agreed := agreed_in_range m.link payload inRange
          have kept : (m.link.agreeBufferSize payload).2.locality = m.link.locality := by
            unfold Link.agreeBufferSize
            split <;> rfl
          simp only [answerControl, answerWorded]
          rw [kept]
          exact ⟨same, low, agreed⟩
      | setLocality =>
          simp only [answerControl, answerWorded, chooses]
          by_cases high : maxLocality < localityOf payload
          · simp only [if_pos high]
            exact ⟨same, low, inRange⟩
          · simp only [if_neg high]
            exact ⟨trivial, UInt8.not_lt.mp high, inRange⟩

-- An act that runs nothing and leaves the connections as they are.
theorem linked_kept (acts : List Act) (c c' : Channels σ) (act : Act) (linked : Linked acts c)
    (quiet : ∀ conn, act ≠ .execute conn)
    (locality : c'.machine.link.locality = chosen (acts ++ [act])) (low : c'.machine.link.locality ≤ maxLocality)
    (buffer : minBufferSize ≤ c'.machine.link.bufferSize ∧ c'.machine.link.bufferSize ≤ maxBufferSize)
    (idle : ∀ conn, c'.waiting conn = none → c.waiting conn = none ∧ ∀ command, act ≠ .arrive conn command)
    (waiting : ∀ conn command, c'.waiting conn = some command →
      c.waiting conn = some command ∨ WaitsFor (acts ++ [act]) conn command)
    (executed : c'.executed = c.executed) : Linked (acts ++ [act]) c' where
  locality := locality
  low := low
  buffer := buffer
  idle conn none' := idle_later acts act conn (idle conn none').2 (linked.idle conn (idle conn none').1)
  waiting conn command found := by
    rcases waiting conn command found with before | now
    · exact waits_later acts act conn command (quiet conn) (linked.waiting conn command before)
    · exact now
  executed command member := arrived_later acts act command (linked.executed command (executed ▸ member))

theorem linked_after (acts : List Act) (c : Channels σ) (act : Act) (linked : Linked acts c) :
    Linked (acts ++ [act]) (c.after device act) := by
  cases act with
  | control request =>
      obtain ⟨locality, low, buffer⟩ :=
        link_of_control device request c.machine acts linked.locality linked.low linked.buffer
      exact linked_kept acts c _ _ linked (fun _ same => by cases same) locality low buffer
        (fun conn none' => ⟨none', fun _ same => by cases same⟩) (fun conn command found => .inl found) rfl
  | arrive conn command =>
      have same : chosen (acts ++ [.arrive conn command]) = chosen acts := chosen_concat _ _
      simp only [Channels.after]
      by_cases busy : (c.waiting conn).isSome = true
      · rw [if_pos busy]
        refine linked_kept acts c _ _ linked (fun _ same => by cases same) (linked.locality.trans same.symm) linked.low
          linked.buffer (fun other none' => ⟨none', fun _ same => ?_⟩) (fun conn command found => .inl found) rfl
        cases same
        rw [none'] at busy
        cases busy
      · rw [if_neg busy]
        have free : c.waiting conn = none := by simpa using busy
        refine linked_kept acts c _ _ linked (fun _ same => by cases same) (linked.locality.trans same.symm) linked.low
          linked.buffer (fun other none' => ?_) (fun other command' found => ?_) rfl
        · by_cases own : other = conn
          · subst own
            simp only [Function.update_self] at none'
            cases none'
          · simp only [Function.update_of_ne own] at none'
            exact ⟨none', fun _ same => own (by cases same; rfl)⟩
        · by_cases own : other = conn
          · subst own
            simp only [Function.update_self, Option.some.injEq] at found
            subst found
            exact .inr ⟨acts, [], rfl, linked.idle other free, List.not_mem_nil, linked.locality, linked.low⟩
          · simp only [Function.update_of_ne own] at found
            exact .inl found
  | execute conn =>
      have same : chosen (acts ++ [.execute conn]) = chosen acts := chosen_concat _ _
      have later : ∀ command ∈ c.executed, ArrivedAt (acts ++ [.execute conn]) command := fun command member =>
        arrived_later acts _ command (linked.executed command member)
      have others : ∀ other, other ≠ conn → Act.execute conn ≠ .execute other := fun other own same =>
        own (by cases same; rfl)
      simp only [Channels.after]
      cases found : c.waiting conn with
      | none =>
          refine ⟨linked.locality.trans same.symm, linked.low, linked.buffer, fun other none' => ?_,
            fun other command waits => ?_, later⟩
          · exact idle_later acts _ other (fun _ same => by cases same) (linked.idle other none')
          · refine waits_later acts _ other command (others other fun own => ?_) (linked.waiting other command waits)
            rw [own, found] at waits
            cases waits
      | some command =>
          refine ⟨linked.locality.trans same.symm, linked.low, linked.buffer, fun other none' => ?_,
            fun other command' waits => ?_, fun command' member => ?_⟩
          · by_cases own : other = conn
            · rw [own]
              exact idle_executed acts conn
            · simp only [Function.update_of_ne own] at none'
              exact idle_later acts _ other (fun _ same => by cases same) (linked.idle other none')
          · by_cases own : other = conn
            · subst own
              simp only [Function.update_self] at waits
              cases waits
            · simp only [Function.update_of_ne own] at waits
              exact waits_later acts _ other command' (others other own) (linked.waiting other command' waits)
          · rcases List.mem_append.mp member with early | here
            · exact later command' early
            · rw [List.mem_singleton.mp here]
              exact ⟨conn, acts, [], rfl, linked.waiting conn command found⟩

-- However the connections are interleaved, a command runs at the locality that was chosen last before its own arrival,
-- which is at most four, and the buffer size agreed is one the server supports.
theorem commands_run_at_chosen_locality (s : σ) (acts : List Act) :
    (∀ command ∈ ((⟨⟨s, {}, false⟩, fun _ => none, []⟩ : Channels σ).afterAll device acts).executed,
        ArrivedAt acts command) ∧
      ((⟨⟨s, {}, false⟩, fun _ => none, []⟩ : Channels σ).afterAll device acts).machine.link.locality = chosen acts ∧
      minBufferSize ≤ ((⟨⟨s, {}, false⟩, fun _ => none, []⟩ : Channels σ).afterAll device acts).machine.link.bufferSize ∧
      ((⟨⟨s, {}, false⟩, fun _ => none, []⟩ : Channels σ).afterAll device acts).machine.link.bufferSize ≤
        maxBufferSize := by
  have linked : Linked acts ((⟨⟨s, {}, false⟩, fun _ => none, []⟩ : Channels σ).afterAll device acts) := by
    induction acts using List.reverseRecOn with
    | nil =>
        refine ⟨rfl, ?_, ?_, ?_, ?_, ?_⟩
        · exact UInt8.zero_le
        · exact (by decide : minBufferSize ≤ maxBufferSize ∧ maxBufferSize ≤ maxBufferSize)
        · intro conn none' before command later split
          exact absurd split.symm (by simp)
        · intro conn command found
          cases found
        · intro command found
          cases found
    | append_singleton acts act ih =>
        unfold Channels.afterAll at ih ⊢
        rw [List.foldl_append]
        exact linked_after device acts _ act ih
  exact ⟨linked.executed, linked.locality, linked.buffer.1, linked.buffer.2⟩

end

end Qemu

-- The slots of the socket and of the channels: two accept loops share a count, which each raises before it looks.
def maxConnections : Nat := 64

-- Where a connection is that was accepted.
inductive Stage where
  | reserved (found : Nat)
  | refused
  | serving
  | closed
  deriving DecidableEq

structure Slots where
  active : Nat := 0
  stages : List Stage := []

inductive Move where
  | accept
  | look (conn : Nat)
  | giveBack (conn : Nat)
  | close (conn : Nat)

namespace Slots

-- `fetch_add` answers what was there before; what is done about it comes later, and connections of either port may do
-- the same in between.
def after (s : Slots) : Move → Slots
  | .accept => { active := s.active + 1, stages := s.stages ++ [.reserved s.active] }
  | .look conn =>
      match s.stages[conn]? with
      | some (.reserved found) =>
        { s with stages := s.stages.set conn (if maxConnections ≤ found then .refused else .serving) }
      | _ => s
  | .giveBack conn =>
      if s.stages[conn]? = some .refused then { active := s.active - 1, stages := s.stages.set conn .closed } else s
  | .close conn =>
      if s.stages[conn]? = some .serving then { active := s.active - 1, stages := s.stages.set conn .closed } else s

def afterAll (s : Slots) (moves : List Move) : Slots := moves.foldl after s

-- Those that hold a place or are about to: they found less than the bound when they came.
def admitted : Stage → Bool
  | .reserved found => decide (found < maxConnections)
  | .serving => true
  | _ => false

def counted (stage : Stage) : Bool := decide (stage ≠ .closed)

structure Sound (s : Slots) : Prop where
  counts : s.active = s.stages.countP counted
  bounded : s.stages.countP admitted ≤ maxConnections

theorem count_set (stages : List Stage) (conn : Nat) (old new : Stage) (here : stages[conn]? = some old)
    (p : Stage → Bool) : (stages.set conn new).countP p + (if p old then 1 else 0) =
      stages.countP p + (if p new then 1 else 0) := by
  obtain ⟨inside, same⟩ := List.getElem?_eq_some_iff.mp here
  have positive : p old = true → 0 < stages.countP p := fun holds =>
    List.countP_pos_iff.mpr ⟨old, List.mem_of_getElem? here, holds⟩
  rw [List.countP_set inside, same]
  cases old' : p old with
  | false => simp
  | true =>
      have := positive old'
      simp only [if_true]
      omega

-- A connection moves on: the count follows, and nobody is admitted who was not.
theorem sound_moved (s : Slots) (conn : Nat) (old new : Stage) (here : s.stages[conn]? = some old) (sound : s.Sound)
    (active : Nat) (follows : active + (if counted old then 1 else 0) = s.active + (if counted new then 1 else 0))
    (admits : admitted new = true → admitted old = true) : Sound ⟨active, s.stages.set conn new⟩ := by
  have total := count_set s.stages conn old new here counted
  have inside := count_set s.stages conn old new here admitted
  have counts := sound.counts
  have bounded := sound.bounded
  refine ⟨?_, ?_⟩
  · show active = (s.stages.set conn new).countP counted
    omega
  · show (s.stages.set conn new).countP admitted ≤ maxConnections
    cases old' : admitted old with
    | true =>
        rw [old', if_pos rfl] at inside
        split at inside
        · omega
        · omega
    | false =>
        have new' : admitted new = false := by
          cases new' : admitted new with
          | false => rfl
          | true => rw [← old', admits new']
        rw [old', new'] at inside
        simp only [Bool.false_eq_true, if_false] at inside
        omega

theorem sound_after (s : Slots) (move : Move) (sound : s.Sound) : (s.after move).Sound := by
  cases move with
  | accept =>
      have most : s.stages.countP admitted ≤ s.active := by
        rw [sound.counts]
        refine List.countP_mono_left fun stage _ holds => ?_
        cases stage <;> first | rfl | cases holds
      have bounded := sound.bounded
      refine ⟨?_, ?_⟩
      · simp only [after, List.countP_append, ← sound.counts]
        rfl
      · simp only [after, List.countP_append, List.countP_singleton, admitted, decide_eq_true_eq]
        split
        · omega
        · omega
  | look conn =>
      simp only [after]
      cases here : s.stages[conn]? with
      | none => exact sound
      | some stage =>
          cases stage with
          | refused => exact sound
          | serving => exact sound
          | closed => exact sound
          | reserved found =>
              by_cases full : maxConnections ≤ found
              · simp only [if_pos full]
                exact sound_moved s conn _ .refused here sound s.active rfl fun never => absurd never (by decide)
              · simp only [if_neg full]
                exact sound_moved s conn _ .serving here sound s.active rfl fun _ => decide_eq_true (Nat.not_le.mp full)
  | giveBack conn =>
      simp only [after]
      by_cases here : s.stages[conn]? = some .refused
      · rw [if_pos here]
        refine sound_moved s conn _ .closed here sound (s.active - 1) ?_ fun never => absurd never (by decide)
        have some' : 0 < s.active := by
          rw [sound.counts]
          exact List.countP_pos_iff.mpr ⟨_, List.mem_of_getElem? here, rfl⟩
        show s.active - 1 + 1 = s.active + 0
        omega
      · rw [if_neg here]
        exact sound
  | close conn =>
      simp only [after]
      by_cases here : s.stages[conn]? = some .serving
      · rw [if_pos here]
        refine sound_moved s conn _ .closed here sound (s.active - 1) ?_ fun never => absurd never (by decide)
        have some' : 0 < s.active := by
          rw [sound.counts]
          exact List.countP_pos_iff.mpr ⟨_, List.mem_of_getElem? here, rfl⟩
        show s.active - 1 + 1 = s.active + 0
        omega
      · rw [if_neg here]
        exact sound

-- However the two accept loops and the connections are interleaved, no more connections are served at once than the
-- bound, and when all are closed the count is back where it began.
theorem connections_stay_bounded (moves : List Move) :
    ((({} : Slots).afterAll moves).stages.countP (· = .serving) ≤ maxConnections) ∧
      ((∀ stage ∈ (({} : Slots).afterAll moves).stages, stage = .closed) → (({} : Slots).afterAll moves).active = 0) := by
  have sound : (({} : Slots).afterAll moves).Sound := by
    induction moves using List.reverseRecOn with
    | nil => exact ⟨rfl, by simp [afterAll]⟩
    | append_singleton moves move ih =>
        unfold afterAll at ih ⊢
        rw [List.foldl_append]
        exact sound_after _ move ih
  constructor
  · refine Nat.le_trans (List.countP_mono_left fun stage _ serving => ?_) sound.bounded
    rw [of_decide_eq_true serving]
    rfl
  · intro closed
    rw [sound.counts, List.countP_eq_zero]
    intro stage member
    rw [closed stage member]
    decide

end Slots

end Server

end Swtrust
