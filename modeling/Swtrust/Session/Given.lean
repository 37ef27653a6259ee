import Swtrust.Session.Gap

set_option autoImplicit false
set_option linter.unusedSectionVars false

-- The contexts that were given out for the session under a handle, and the numbers that tell them apart.

namespace Swtrust

open Library Action

-- What the table of the sessions says of one handle.
structure Place where
  loaded : Bool
  version : Option UInt64
  saved : Option UInt64
  counter : UInt64

structure GivenContext where
  number : UInt64
  policy : PolicyState

namespace Place

-- All that becomes of it: a session is numbered when it comes into memory, and its number goes with its context.
inductive Step (before : Place) : Place → Prop where
  | same : Step before before
  | other : Step before { before with counter := satSucc before.counter }
  | numbered : Step before ⟨true, some before.counter, none, satSucc before.counter⟩
  | saved (loaded : before.loaded = true) (left : before.counter ≠ 0xFFFFFFFFFFFFFFFF) :
      Step before ⟨false, none, some (before.version.getD before.counter), before.counter⟩
  | unloaded : Step before { before with loaded := false, version := none }
  | gone : Step before { before with loaded := false, version := none, saved := none }
  | cleared : Step before ⟨false, none, none, 1⟩

-- No context that was given out has the number of the session in memory, nor one that is still to come.
structure Numbered (given : List GivenContext) (place : Place) : Prop where
  below : ∀ context ∈ given, context.number < place.counter
  apart : ∀ number, place.version = some number → ∀ context ∈ given, context.number ≠ number
  counted : ∀ number, place.version = some number → number < place.counter ∨ place.counter = 0xFFFFFFFFFFFFFFFF
  identified : place.loaded = true → place.version.isSome = true
  unsaved : place.loaded = true → place.saved = none

variable {given : List GivenContext} {before after : Place}

-- Contexts given out before the numbers begin anew are not opened any more.
theorem step_keeps_numbered (step : Step before after) (numbered : before.Numbered given)
    (forward : ¬ after.counter < before.counter) : after.Numbered given := by
  obtain ⟨below, apart, counted, identified, unsaved⟩ := numbered
  have above : ∀ context ∈ given, context.number < after.counter := fun context member =>
    UInt64.lt_of_lt_of_le (below context member) (UInt64.not_lt.mp forward)
  have more : ∀ number : UInt64, number ≤ before.counter →
      number < satSucc before.counter ∨ satSucc before.counter = 0xFFFFFFFFFFFFFFFF := by
    intro number most
    by_cases last : before.counter = 0xFFFFFFFFFFFFFFFF
    · exact .inr (by rw [last]; rfl)
    · left
      unfold satSucc
      rw [if_neg last]
      exact UInt64.lt_of_le_of_lt most (NvStore.counted_above before.counter last)
  cases step with
  | same => exact ⟨below, apart, counted, identified, unsaved⟩
  | other =>
      refine ⟨above, apart, fun number version => ?_, identified, unsaved⟩
      rcases counted number version with less | last
      · exact more number (UInt64.le_of_lt less)
      · exact .inr (by rw [last]; rfl)
  | numbered =>
      refine ⟨above, fun number version context member => ?_, fun number version => ?_, fun _ => rfl, fun _ => rfl⟩
      all_goals obtain rfl := Option.some.inj version
      · exact UInt64.ne_of_lt (below context member)
      · exact more _ (UInt64.le_refl _)
  | saved | unloaded | gone | cleared => exact ⟨above, nofun, nofun, nofun, nofun⟩

-- What is saved in a step goes by the number it had in memory, and one that was saved before by the one it had.
theorem step_number (step : Step before after) (numbered : before.Numbered given) (number : UInt64)
    (saved : after.saved = some number) : before.saved = some number ∨
      before.loaded = true ∧ before.version = some number ∧ after.version = none ∧ number < after.counter := by
  cases step with
  | same | other | unloaded => exact .inl saved
  | numbered | gone | cleared => cases saved
  | saved loaded left =>
      obtain ⟨version, held⟩ := Option.isSome_iff_exists.mp (numbered.identified loaded)
      rw [held] at saved
      obtain rfl := Option.some.inj saved
      exact .inr ⟨loaded, held, rfl, (numbered.counted version held).resolve_right left⟩

-- A context of the session in memory, if it was saved in the step.
theorem step_numbered (made : List GivenContext)
    (own : ∀ context ∈ made, before.loaded = true ∧ after.saved = some context.number) (step : Step before after)
    (numbered : before.Numbered given) :
    after.Numbered (if after.counter < before.counter then [] else made ++ given) := by
  by_cases anew : after.counter < before.counter
  · rw [if_pos anew]
    cases step with
    | cleared => exact ⟨fun _ member => absurd member List.not_mem_nil, nofun, nofun, nofun, nofun⟩
    | same | saved | unloaded | gone => exact absurd anew (UInt64.lt_irrefl before.counter)
    | other | numbered => exact absurd anew (UInt64.not_lt.mpr (SessionSlots.counter_advances before.counter).1)
  rw [if_neg anew]
  have kept := step_keeps_numbered step numbered anew
  have fresh : ∀ context ∈ made, after.version = none ∧ context.number < after.counter := by
    intro context member
    obtain ⟨loaded, saved⟩ := own context member
    rcases step_number step numbered context.number saved with before | ⟨_, _, none, less⟩
    · rw [numbered.unsaved loaded] at before
      cases before
    · exact ⟨none, less⟩
  refine ⟨fun context member => ?_, fun number version context member => ?_, kept.counted, kept.identified, kept.unsaved⟩
  · rcases List.mem_append.mp member with made | before
    · exact (fresh context made).2
    · exact kept.below context before
  · rcases List.mem_append.mp member with made | before
    · rw [(fresh context made).1] at version
      cases version
    · exact kept.apart number version context before

-- A session that is removed leaves nothing behind.
def Left (before after : Place) : Prop :=
  after = before ∨ after = { before with loaded := false, version := none, saved := none }

theorem left_trans {before between after : Place} (first : Left before between) (second : Left between after) :
    Left before after := by
  rcases first with rfl | rfl
  · exact second
  · rcases second with rfl | rfl
    · exact .inr rfl
    · exact .inr rfl

theorem step_of_left (left : Left before after) : Step before after := by
  rcases left with rfl | rfl
  · exact .same
  · exact .gone

theorem left_counter (left : Left before after) : after.counter = before.counter := by
  rcases left with rfl | rfl
  · rfl
  · rfl

theorem left_saved (left : Left before after) (number : UInt64) (saved : after.saved = some number) :
    before.saved = some number := by
  rcases left with rfl | rfl
  · exact saved
  · cases saved

theorem left_keeps_numbered (left : Left before after) (numbered : before.Numbered given) : after.Numbered given :=
  step_keeps_numbered (step_of_left left) numbered (by rw [left_counter left]; exact UInt64.lt_irrefl before.counter)

end Place

namespace SessionSlots

variable (handle : UInt32)

def Shape.place (shape : Shape) : Place :=
  ⟨shape.kinds.contains handle, shape.version.get handle, shape.saved.get handle, shape.contextCounter⟩

-- The context of the session in memory that is saved after a step.
def newlyGiven (before : SessionSlots) (after : Shape) : List GivenContext :=
  match before.get handle, after.saved.get handle with
  | .ok session, some number => [⟨number, session.policy⟩]
  | _, _ => []

def collect (given : List GivenContext) (before : SessionSlots) (after : Shape) : List GivenContext :=
  if after.contextCounter < before.contextCounter then [] else newlyGiven handle before after ++ given

variable {handle}

theorem loaded_kind (slots : SessionSlots) (session : Session) (held : slots.get handle = .ok session) :
    slots.shape.kinds.contains handle = true := by
  refine (SortedMap.contains_iff_get _ _).mpr ⟨session.kind, ?_⟩
  unfold shape
  rw [SortedMap.get_map_values, (slots.get_is_ok handle session).mp held]
  rfl

theorem newly_given (before : SessionSlots) (after : Shape) (context : GivenContext)
    (member : context ∈ newlyGiven handle before after) : ∃ session, before.get handle = .ok session ∧
      after.saved.get handle = some context.number ∧ context.policy = session.policy := by
  unfold newlyGiven at member
  split at member
  next session number held saved =>
    rw [List.mem_singleton] at member
    subst member
    exact ⟨session, held, saved, rfl⟩
  next => cases member

theorem left_remove (slots : SessionSlots) (other : UInt32) :
    Place.Left (slots.shape.place handle) ((slots.remove other).shape.place handle) := by
  rw [shape_remove]
  unfold Shape.place
  dsimp only
  by_cases same : handle = other
  · subst same
    rw [SortedMap.contains_erase, SortedMap.get_erase_same, SortedMap.get_erase_same, decide_eq_false (not_not.mpr rfl)]
    exact .inr rfl
  · rw [SortedMap.contains_erase, SortedMap.get_erase_other _ _ _ same, SortedMap.get_erase_other _ _ _ same,
      decide_eq_true same]
    exact .inl rfl

theorem left_remove_all (handles : List UInt32) (slots : SessionSlots) :
    Place.Left (slots.shape.place handle) ((handles.foldl remove slots).shape.place handle) := by
  induction handles generalizing slots with
  | nil => exact .inl rfl
  | cons other rest ih => exact Place.left_trans (slots.left_remove other) (ih (slots.remove other))

theorem left_flush (slots : SessionSlots) (candidates : List UInt32) :
    Place.Left (slots.shape.place handle) ((slots.flushFirst candidates).2.shape.place handle) := by
  induction candidates generalizing slots with
  | nil => exact .inl rfl
  | cons candidate rest ih =>
      unfold flushFirst
      dsimp only
      split
      · exact slots.left_remove candidate
      · exact Place.left_trans (slots.left_remove candidate) (ih (slots.remove candidate))

-- A session that comes into memory under a handle takes the next number.
theorem step_insert (slots : SessionSlots) (handle other : UInt32) (kind : UInt32 × UInt8) (saved : SortedMap UInt32 UInt64)
    (objectCounter : UInt64) (here : saved.get other = none)
    (elsewhere : handle ≠ other → saved.get handle = slots.saved.get handle) :
    Place.Step (slots.shape.place handle) (Shape.place handle ⟨slots.shape.kinds.insert other kind, saved,
      slots.version.insert other slots.contextCounter, satSucc slots.contextCounter, objectCounter⟩) := by
  unfold Shape.place
  dsimp only
  by_cases same : handle = other
  · subst same
    rw [SortedMap.contains_insert, SortedMap.get_insert_same, here, decide_eq_true rfl]
    exact .numbered
  · rw [SortedMap.contains_insert, SortedMap.get_insert_other _ _ _ _ same, elsewhere same, decide_eq_false same]
    exact .other

theorem allocated_unsaved (slots : SessionSlots) (sessionType : UInt8) (other : UInt32)
    (typed : isSessionType sessionType = true) (allocated : slots.allocateHandle sessionType = .ok other) :
    slots.saved.get other = none := by
  refine (SortedMap.absent_iff_get slots.saved other).mp ?_
  cases held : slots.saved.contains other with
  | false => rfl
  | true =>
      refine absurd rfl ((slots.allocated sessionType other typed allocated).2 other ?_)
      unfold Shape.active
      exact Bool.or_eq_true_iff.mpr (.inr held)

theorem step_save (slots next : SessionSlots) (other : UInt32) (session : Session) (id : UInt64)
    (available : slots.countersExhausted = false) (saved : slots.save other = .ok ((session, id), next)) :
    Place.Step (slots.shape.place handle) (next.shape.place handle) := by
  obtain ⟨held, rfl, rfl⟩ := (slots.save_is_ok next other session id).mp saved
  unfold shape
  rw [kinds_erase]
  unfold Shape.place
  dsimp only
  by_cases same : handle = other
  · subst same
    rw [SortedMap.contains_erase, SortedMap.get_erase_same, SortedMap.get_insert_same, decide_eq_false (not_not.mpr rfl)]
    exact .saved (slots.loaded_kind session held) (slots.counter_left available)
  · rw [SortedMap.contains_erase, SortedMap.get_erase_other _ _ _ same, SortedMap.get_insert_other _ _ _ _ same,
      decide_eq_true same]
    exact .same

end SessionSlots

section

variable [Primitives] {handle : UInt32}

theorem move_step (code : UInt32) (before after : Holding) (move : Move code before after) :
    Place.Step (before.slots.shape.place handle) (after.slots.shape.place handle) := by
  cases move with
  | same after still exclusive =>
      rw [show after.slots.shape = before.slots.shape from congrArg Prod.fst still]
      exact .same
  | start coded sessionType other session slots typed allocated kind sized admitted inserted =>
      obtain ⟨_, _, _, _, rfl⟩ := (before.slots.insert_is_ok slots session).mp inserted
      have unsaved := before.slots.allocated_unsaved sessionType other typed allocated
      have named : session.handle = other := congrArg Prod.fst kind
      rw [← named] at unsaved
      have started := before.slots.step_insert handle session.handle session.kind before.slots.saved
        before.slots.objectCounter unsaved fun _ => rfl
      unfold SessionSlots.shape at started ⊢
      rw [SessionSlots.kinds_insert]
      exact started
  | save coded other session id slots available ranged saved =>
      exact before.slots.step_save slots other session id available saved
  | count coded available => exact .same
  | load coded context session slots viable ranged named body read restored =>
      obtain ⟨_, _, rfl⟩ := (before.slots.restore_is_ok slots session context.sequence).mp restored
      have back := before.slots.step_insert handle session.handle session.kind
        (before.slots.saved.erase session.handle) before.slots.objectCounter (SortedMap.get_erase_same _ _)
        fun apart => SortedMap.get_erase_other _ _ _ apart
      unfold SessionSlots.shape at back ⊢
      rw [SessionSlots.kinds_insert]
      exact back
  | flush coded other exclusive left => exact Place.step_of_left (before.slots.left_flush _)
  | clear coded => exact .cleared
  | flushLoaded coded => exact .unloaded

namespace TpmState

-- What becomes of a session in an event: what its handler does, and then the sessions that the response closes.
theorem event_step (s : TpmState) (handle : UInt32) (event : Event) : ∃ middle,
    Place.Step (s.sessions.shape.place handle) middle ∧
      Place.Left middle ((s.after event).sessions.shape.place handle) := by
  have same : ∀ t : TpmState, t.sessions.shape = s.sessions.shape → ∃ middle,
      Place.Step (s.sessions.shape.place handle) middle ∧ Place.Left middle (t.sessions.shape.place handle) := by
    intro t still
    rw [still]
    exact ⟨_, .same, .inl rfl⟩
  have flushed : ∀ t : TpmState, t.sessions = s.sessions.flushLoaded → ∃ middle,
      Place.Step (s.sessions.shape.place handle) middle ∧ Place.Left middle (t.sessions.shape.place handle) := by
    intro t still
    rw [still]
    exact ⟨_, .unloaded, .inl rfl⟩
  cases event with
  | elapse millis =>
      obtain ⟨_, _, _, changed⟩ := s.advance_time_changes millis
      exact same (s.advanceTime millis).2 (by rw [changed])
  | command locality octets =>
      rcases run_settled { s with hcrtmSequence := none } locality octets
        with still | ⟨request, _, after, move, handles, left, _⟩
      · exact same _ still
      · refine ⟨after.slots.shape.place handle, move_step _ _ _ move, ?_⟩
        change Place.Left _ ((run locality octets { s with hcrtmSequence := none }).2.sessions.shape.place handle)
        rw [left]
        exact after.slots.left_remove_all handles
  | powerOn =>
      obtain ⟨_, _, _, _, _, _, _, _, _, _, changed⟩ := s.power_on_changes
      exact flushed s.powerOn (by rw [changed])
  | powerOff => exact flushed s.powerOff rfl
  | hashEnd =>
      obtain ⟨_, _, _, _, changed⟩ := s.hash_end_changes
      exact same s.hashEnd (by rw [changed])
  | nv | physicalPresence | hashStart | hashData => exact same _ rfl

variable (handle)

-- The contexts that were given out for the session under the handle, and a state.
def recollect (ledger : List GivenContext × TpmState) (event : Event) : List GivenContext × TpmState :=
  (SessionSlots.collect handle ledger.1 ledger.2.sessions (ledger.2.after event).sessions.shape, ledger.2.after event)

def Numbered (ledger : List GivenContext × TpmState) : Prop := (ledger.2.sessions.shape.place handle).Numbered ledger.1

theorem after_numbered (ledger : List GivenContext × TpmState) (event : Event) (numbered : Numbered handle ledger) :
    Numbered handle (recollect handle ledger event) := by
  obtain ⟨given, s⟩ := ledger
  obtain ⟨middle, step, left⟩ := s.event_step handle event
  have own : ∀ context ∈ SessionSlots.newlyGiven handle s.sessions (s.after event).sessions.shape,
      (s.sessions.shape.place handle).loaded = true ∧ middle.saved = some context.number := by
    intro context member
    obtain ⟨session, held, saved, _⟩ := SessionSlots.newly_given s.sessions _ context member
    exact ⟨s.sessions.loaded_kind session held, Place.left_saved left context.number saved⟩
  have ended := Place.left_keeps_numbered left (Place.step_numbered _ own step numbered)
  rw [← Place.left_counter left] at ended
  exact ended

theorem event_number (given : List GivenContext) (s : TpmState) (event : Event) (numbered : Numbered handle (given, s))
    (number : UInt64) (saved : (s.after event).sessions.saved.get handle = some number) :
    s.sessions.saved.get handle = some number ∨ s.sessions.version.get handle = some number := by
  obtain ⟨middle, step, left⟩ := s.event_step handle event
  rcases Place.step_number step numbered number (Place.left_saved left number saved) with before | ⟨_, before, _⟩
  · exact .inl before
  · exact .inr before

theorem recollected (ledger : List GivenContext × TpmState) (events : List Event) :
    (events.foldl (recollect handle) ledger).2 = ledger.2.afterAll events := by
  induction events generalizing ledger with
  | nil => rfl
  | cons event rest ih => exact ih (recollect handle ledger event)

-- So it is in every run from a TPM without sessions, whatever becomes of the contexts.
theorem run_numbered (s : TpmState) (none : s.sessions.sessions = SortedMap.empty)
    (unnumbered : s.sessions.version = SortedMap.empty) (events : List Event) :
    Numbered handle (events.foldl (recollect handle) ([], s)) := by
  have start : Numbered handle ([], s) := by
    have unloaded : (s.sessions.shape.place handle).loaded = false := by
      change (s.sessions.sessions.mapValues fun _ session => session.kind).contains handle = false
      rw [none]
      rfl
    have version : (s.sessions.shape.place handle).version = Option.none := by
      change s.sessions.version.get handle = Option.none
      rw [unnumbered]
      rfl
    refine ⟨fun _ member => absurd member List.not_mem_nil, ?_, ?_, ?_, ?_⟩
    · exact fun _ _ _ member => absurd member List.not_mem_nil
    · intro number held
      rw [version] at held
      cases held
    · intro loaded
      rw [unloaded] at loaded
      cases loaded
    · intro loaded
      rw [unloaded] at loaded
      cases loaded
  exact invariant_of_every (recollect handle) (fun _ _ => True) (Numbered handle)
    (fun ledger event _ => after_numbered handle ledger event) ([], s) events (every_of_all _ _ _ events fun _ _ _ => trivial)
    start

end TpmState

end

end Swtrust
