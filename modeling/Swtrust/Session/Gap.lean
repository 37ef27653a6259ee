import Swtrust.Session.Table

set_option autoImplicit false
set_option linter.unusedSectionVars false

namespace Swtrust

open Library Action

namespace SessionSlots

theorem minimum_mem (numbers : List UInt64) (least : UInt64) (found : minimum numbers = some least) : least ∈ numbers := by
  induction numbers generalizing least with
  | nil => cases found
  | cons head tail ih =>
      unfold minimum at found
      cases rest : minimum tail with
      | none =>
          rw [rest] at found
          obtain rfl := Option.some.inj found
          exact List.mem_cons_self
      | some other =>
          rw [rest] at found
          have chosen : (if head ≤ other then head else other) = least := Option.some.inj found
          rw [← chosen]
          split
          · exact List.mem_cons_self
          · exact List.mem_cons_of_mem _ (ih other rest)

-- A number that ContextLoad can place, where the counter stands.
def Placed (counter id : UInt64) : Prop := id < counter ∧ counter.toNat ≤ id.toNat + Config.contextGapMax.toNat + 1

theorem Shape.placed_saved (shape : Shape) (tabled : shape.Tabled) (handle : UInt32) (id : UInt64)
    (saved : shape.saved.get handle = some id) : Placed shape.contextCounter id := by
  have number := number_saved shape tabled handle id saved
  exact ⟨tabled.numbers.below handle id number, tabled.numbers.near handle id number⟩

-- What is left of the order of the table where the session counter has run out.
structure Shape.Orderly (shape : Shape) : Prop where
  tabled : shape.contextCounter ≠ 0xFFFFFFFFFFFFFFFF → shape.Tabled
  placed : ∀ handle id, shape.saved.get handle = some id → Placed shape.contextCounter id
  typed : ∀ handle kind, shape.kinds.get handle = some kind → typedKind kind = true

theorem Shape.orderly_of_tabled (shape : Shape) (tabled : shape.Tabled) : shape.Orderly :=
  ⟨fun _ => tabled, shape.placed_saved tabled, fun handle kind held => (tabled.typed handle kind held).2⟩

theorem orderly_remove (slots : SessionSlots) (handle : UInt32) (orderly : slots.shape.Orderly) :
    (slots.remove handle).shape.Orderly := by
  have shape := slots.shape_remove handle
  refine ⟨fun room => slots.tabled_remove handle (orderly.tabled room), fun other id held => ?_, fun other kind held => ?_⟩
  · rw [shape] at held
    exact orderly.placed other id (SortedMap.get_of_erase _ _ _ _ held)
  · rw [shape] at held
    exact orderly.typed other kind (SortedMap.get_of_erase _ _ _ _ held)

theorem orderly_flush (slots : SessionSlots) (candidates : List UInt32) (orderly : slots.shape.Orderly) :
    (slots.flushFirst candidates).2.shape.Orderly := by
  induction candidates generalizing slots with
  | nil => exact orderly
  | cons candidate rest ih =>
      have removed := slots.orderly_remove candidate orderly
      unfold flushFirst
      dsimp only
      split
      · exact removed
      · exact ih (slots.remove candidate) removed

theorem orderly_unloaded (slots : SessionSlots) (next : Shape) (kinds : next.kinds = SortedMap.empty)
    (version : next.version = SortedMap.empty) (saved : next.saved = slots.saved)
    (counter : next.contextCounter = slots.contextCounter) (orderly : slots.shape.Orderly) : next.Orderly := by
  refine ⟨fun room => ?_, fun handle id held => ?_, ?_⟩
  · rw [counter] at room
    exact slots.tabled_unloaded next kinds version saved counter (orderly.tabled room)
  · rw [saved] at held
    rw [counter]
    exact orderly.placed handle id held
  · rw [kinds]
    nofun

-- The number of the last context of a saved session lies in the range that ContextLoad takes: only the gap is left to
-- refuse it.
theorem saved_viable (slots : SessionSlots) (context : Context) (ranged : isSessionHandle context.savedHandle = true)
    (placed : Placed slots.contextCounter context.sequence) :
    checkViable slots context =
      if slots.atContextGap = true ∧ slots.oldestActive ≠ some context.sequence then .error Rc.contextGap else .ok () := by
  obtain ⟨below, near⟩ := placed
  rw [UInt64.lt_iff_toNat_lt] at below
  have started : ¬ slots.contextCounter < 1 := by
    rw [UInt64.lt_iff_toNat_lt]
    change ¬ slots.contextCounter.toNat < 1
    omega
  have current : (satSub slots.contextCounter 1).toNat = slots.contextCounter.toNat - 1 := by
    unfold satSub
    rw [if_neg started, UInt64.toNat_sub_of_le _ _ (UInt64.not_lt.mp started)]
    rfl
  -- The sequence number lies between the two ends that are compared with saturation.
  have upper : context.sequence ≤ satSub slots.contextCounter 1 := by
    rw [UInt64.le_iff_toNat_le, current]
    omega
  have lower : satSub slots.contextCounter 1 ≤ satAdd context.sequence Config.contextGapMax := by
    have bound := slots.contextCounter.toNat_lt
    rw [UInt64.le_iff_toNat_le, current]
    unfold satAdd
    split
    · change slots.contextCounter.toNat - 1 ≤ 0xFFFFFFFFFFFFFFFF
      omega
    next fits =>
      rw [UInt64.lt_iff_toNat_lt, UInt64.toNat_add, not_lt] at fits
      rw [UInt64.toNat_add]
      have gap : Config.contextGapMax.toNat = 65535 := rfl
      rw [gap] at near fits ⊢
      have small := context.sequence.toNat_lt
      by_cases wraps : context.sequence.toNat + 65535 < 2 ^ 64
      · rw [Nat.mod_eq_of_lt wraps]
        omega
      · omega
  unfold checkViable
  simp only [ranged, if_true, upper, lower, decide_true, Bool.and_self, Bool.not_true, Bool.false_eq_true, if_false,
    true_and]
  rfl

theorem saved_viable_open (slots : SessionSlots) (tabled : slots.shape.Tabled) (context : Context)
    (ranged : isSessionHandle context.savedHandle = true) (saved : slots.saved.get context.savedHandle = some context.sequence)
    (spared : slots.atContextGap = false ∨ slots.oldestActive = some context.sequence) :
    checkViable slots context = .ok () := by
  rw [slots.saved_viable context ranged (Shape.placed_saved slots.shape tabled _ _ saved)]
  rcases spared with opened | oldest
  · simp [opened]
  · simp [oldest]

-- What is done about a full window: the session with the lowest number is loaded, saved and loaded, or flushed.
inductive Relief (slots : SessionSlots) : SessionSlots → Prop where
  | load (session : Session) (id : UInt64) (next : SessionSlots) (oldest : slots.oldestActive = some id)
      (restored : slots.restore session id = .ok next) : Relief slots next
  | reload (session : Session) (handle : UInt32) (id : UInt64) (away next : SessionSlots)
      (oldest : slots.oldestActive = some id) (held : slots.version.get handle = some id)
      (saved : slots.save handle = .ok ((session, id), away)) (named : session.handle = handle)
      (restored : away.restore session id = .ok next) : Relief slots next
  | flush (handle : UInt32) (id : UInt64) (oldest : slots.oldestActive = some id)
      (number : slots.saved.get handle = some id ∨ slots.version.get handle = some id) : Relief slots (slots.remove handle)

inductive Relieved : Nat → SessionSlots → SessionSlots → Prop where
  | none (slots : SessionSlots) : Relieved 0 slots slots
  | step (count : Nat) (slots middle next : SessionSlots) (first : Relief slots middle)
      (rest : Relieved count middle next) : Relieved (count + 1) slots next

-- The sessions whose number was drawn before the counter stood at a mark.
def weigh (mark id : UInt64) : Nat := if id < mark then 1 else 0

def old (slots : SessionSlots) (mark : UInt64) : Nat := slots.saved.total (weigh mark) + slots.version.total (weigh mark)

theorem total_insert_le {ν : Type} (map : SortedMap UInt32 ν) (weight : ν → Nat) (key : UInt32) (value : ν) :
    (map.insert key value).total weight ≤ map.total weight + weight value := by
  have counted := map.total_insert weight key value
  omega

theorem weigh_later (mark counter : UInt64) (later : mark ≤ counter) : weigh mark counter = 0 :=
  if_neg (UInt64.not_lt.mpr later)

-- Where the lowest number is not of the old ones, none is.
theorem old_none (slots : SessionSlots) (mark id : UInt64) (oldest : slots.oldestActive = some id)
    (late : weigh mark id = 0) : slots.old mark = 0 := by
  have above : mark ≤ id := by
    by_contra below
    unfold weigh at late
    rw [if_pos (UInt64.not_le.mp below)] at late
    cases late
  have none : ∀ map : SortedMap UInt32 UInt64, (∀ value ∈ map.values, id ≤ value) → map.total (weigh mark) = 0 := by
    intro map least
    unfold SortedMap.total
    refine List.sum_eq_zero fun weight member => ?_
    obtain ⟨entry, held, rfl⟩ := List.mem_map.mp member
    exact weigh_later mark entry.2 (UInt64.le_trans above (least entry.2 (List.mem_map_of_mem held)))
  unfold old
  rw [none slots.saved fun value member => minimum_le _ id oldest value (List.mem_append_left _ member),
    none slots.version fun value member => minimum_le _ id oldest value (List.mem_append_right _ member)]

-- A session that is brought back under the lowest number takes that out of the old ones.
theorem old_restored (slots next : SessionSlots) (session : Session) (mark id : UInt64) (later : mark ≤ slots.contextCounter)
    (restored : slots.restore session id = .ok next) : next.old mark + weigh mark id ≤ slots.old mark := by
  obtain ⟨held, _, rfl⟩ := (slots.restore_is_ok next session id).mp restored
  have gone := slots.saved.total_erase_held (weigh mark) session.handle id held
  have drawn := total_insert_le slots.version (weigh mark) session.handle slots.contextCounter
  rw [weigh_later mark slots.contextCounter later] at drawn
  unfold old
  dsimp only
  omega

theorem counter_advances (counter : UInt64) : counter ≤ satSucc counter ∧ (satSucc counter).toNat ≤ counter.toNat + 1 := by
  unfold satSucc
  split
  · exact ⟨UInt64.le_refl _, Nat.le_succ _⟩
  next room =>
    have above := NvStore.counted_above counter room
    refine ⟨UInt64.le_of_lt above, ?_⟩
    rw [UInt64.toNat_add]
    exact Nat.mod_le _ _

theorem counter_restored (slots next : SessionSlots) (session : Session) (id : UInt64)
    (restored : slots.restore session id = .ok next) :
    slots.contextCounter ≤ next.contextCounter ∧ next.contextCounter.toNat ≤ slots.contextCounter.toNat + 1 := by
  obtain ⟨_, _, rfl⟩ := (slots.restore_is_ok next session id).mp restored
  exact counter_advances slots.contextCounter

-- One step leaves one old session less, and draws at most one number.
theorem relief_step (slots next : SessionSlots) (relief : Relief slots next) (mark : UInt64)
    (later : mark ≤ slots.contextCounter) : next.old mark ≤ slots.old mark - 1 ∧
      slots.contextCounter ≤ next.contextCounter ∧ next.contextCounter.toNat ≤ slots.contextCounter.toNat + 1 := by
  have lowest : ∀ id, slots.oldestActive = some id → next.old mark + weigh mark id ≤ slots.old mark →
      next.old mark ≤ slots.old mark - 1 := by
    intro id oldest fewer
    by_cases early : id < mark
    · have one : weigh mark id = 1 := if_pos early
      omega
    · have none := slots.old_none mark id oldest (if_neg early)
      omega
  cases relief with
  | load session id next oldest restored =>
      exact ⟨lowest id oldest (slots.old_restored next session mark id later restored),
        slots.counter_restored next session id restored⟩
  | reload session handle id away next oldest held saved named restored =>
      obtain ⟨_, _, rfl⟩ := (slots.save_is_ok away handle session id).mp saved
      have moved := counter_restored _ next session id restored
      have back := old_restored _ next session mark id (by exact later) restored
      refine ⟨lowest id oldest ?_, moved⟩
      have out := slots.version.total_erase_held (weigh mark) handle id held
      have put := total_insert_le slots.saved (weigh mark) handle id
      unfold old at back ⊢
      dsimp only at back
      omega
  | flush handle id oldest number =>
      refine ⟨lowest id oldest ?_, UInt64.le_refl _, Nat.le_succ _⟩
      have saved := slots.saved.total_erase_le (weigh mark) handle
      have version := slots.version.total_erase_le (weigh mark) handle
      unfold old remove
      dsimp only
      rcases number with held | held
      · have gone := slots.saved.total_erase_held (weigh mark) handle id held
        omega
      · have gone := slots.version.total_erase_held (weigh mark) handle id held
        omega

theorem relieved_steps (count : Nat) (slots next : SessionSlots) (relieved : Relieved count slots next) (mark : UInt64)
    (later : mark ≤ slots.contextCounter) : next.old mark ≤ slots.old mark - count ∧
      next.contextCounter.toNat ≤ slots.contextCounter.toNat + count := by
  induction relieved with
  | none slots => exact ⟨Nat.le_refl _, Nat.le_refl _⟩
  | step count slots middle next first rest ih =>
      obtain ⟨fewer, onwards, drawn⟩ := slots.relief_step middle first mark later
      obtain ⟨left, counted⟩ := ih (UInt64.le_trans later onwards)
      omega

theorem old_all (slots : SessionSlots) (mark : UInt64) : slots.old mark ≤ slots.saved.size + slots.version.size := by
  have each : ∀ map : SortedMap UInt32 UInt64, map.total (weigh mark) ≤ map.size := by
    intro map
    rw [map.size_eq_total]
    unfold SortedMap.total
    refine List.sum_le_sum fun entry _ => ?_
    unfold weigh
    split
    · exact Nat.le_refl _
    · exact Nat.zero_le _
  exact Nat.add_le_add (each _) (each _)

-- After as many steps as there are sessions the window stands open.
theorem relieved_open (slots next : SessionSlots) (count : Nat) (relieved : Relieved count slots next)
    (enough : slots.saved.size + slots.version.size ≤ count) (few : count ≤ Config.contextGapMax.toNat) :
    next.atContextGap = false := by
  obtain ⟨left, counted⟩ := relieved_steps count slots next relieved slots.contextCounter (UInt64.le_refl _)
  have all := slots.old_all slots.contextCounter
  have none : next.old slots.contextCounter = 0 := by omega
  unfold atContextGap
  cases oldest : next.oldestActive with
  | none => rfl
  | some least =>
      have late : weigh slots.contextCounter least = 0 := by
        by_contra early
        have member : ∀ map : SortedMap UInt32 UInt64, map.total (weigh slots.contextCounter) = 0 →
            least ∈ map.values → False := by
          intro map zero member
          obtain ⟨entry, held, rfl⟩ := List.mem_map.mp member
          refine early ?_
          exact List.sum_eq_zero_iff.mp zero _ (List.mem_map_of_mem (f := fun entry => weigh slots.contextCounter entry.2) held)
        have found := minimum_mem _ least oldest
        unfold old at none
        rcases List.mem_append.mp found with saved | loaded
        · exact member next.saved (by omega) saved
        · exact member next.version (by omega) loaded
      have above : slots.contextCounter ≤ least := by
        by_contra below
        unfold weigh at late
        rw [if_pos (UInt64.not_le.mp below)] at late
        cases late
      dsimp only
      rw [decide_eq_false_iff_not, gt_iff_lt, UInt64.lt_iff_toNat_lt, not_lt]
      rw [UInt64.le_iff_toNat_le] at above
      unfold satSub
      split
      · exact Nat.zero_le _
      next ahead =>
        rw [UInt64.toNat_sub_of_le _ _ (UInt64.not_lt.mp ahead)]
        omega

theorem minimum_eq (numbers : List UInt64) (least : UInt64) (member : least ∈ numbers)
    (le : ∀ number ∈ numbers, least ≤ number) : minimum numbers = some least := by
  cases found : minimum numbers with
  | none =>
      rw [minimum_none _ found] at member
      cases member
  | some other =>
      have below := minimum_le _ other found least member
      have above := le other (minimum_mem _ other found)
      rw [UInt64.le_antisymm below above]

theorem session_of_typed (kind : UInt32 × UInt8) (typed : typedKind kind = true) : isSessionHandle kind.1 = true := by
  unfold typedKind at typed
  unfold isSessionHandle
  split at typed
  · rw [typed, Bool.true_or]
  · rw [Bool.and_eq_true] at typed
    rw [typed.2, Bool.or_true]

-- A loaded session, its number, and what is left when it is saved.
theorem save_loaded (slots : SessionSlots) (tabled : slots.shape.Tabled) (handle : UInt32) (id : UInt64)
    (held : slots.version.get handle = some id) : ∃ session away, slots.save handle = .ok ((session, id), away) ∧
      session.handle = handle ∧ isSessionHandle handle = true ∧ slots.sessions.get handle = some session := by
  have loaded : slots.shape.kinds.contains handle = true := by
    rw [← tabled.identified]
    exact (SortedMap.contains_iff_get _ _).mpr ⟨id, held⟩
  obtain ⟨kind, kept⟩ := (SortedMap.contains_iff_get _ _).mp loaded
  have typed := tabled.typed handle kind kept
  unfold shape at kept
  rw [SortedMap.get_map_values] at kept
  obtain ⟨session, found, rfl⟩ := Option.map_eq_some_iff.mp kept
  refine ⟨session, _, (slots.save_is_ok _ handle session id).mpr
    ⟨(slots.get_is_ok handle session).mpr found, by rw [held]; rfl, rfl⟩, typed.1, ?_, found⟩
  rw [← typed.1]
  exact session_of_typed _ typed.2

-- A saved session can be brought back where there is a free slot.
theorem restore_saved (slots : SessionSlots) (session : Session) (id : UInt64)
    (saved : slots.saved.get session.handle = some id) (room : slots.sessions.size < Config.maxLoadedSessions) :
    ∃ next, slots.restore session id = .ok next := ⟨_, (slots.restore_is_ok _ session id).mpr ⟨saved, room, rfl⟩⟩

theorem relief_flush (slots : SessionSlots) (gap : slots.atContextGap = true) : ∃ next, Relief slots next := by
  unfold atContextGap at gap
  cases oldest : slots.oldestActive with
  | none =>
      rw [oldest] at gap
      cases gap
  | some id =>
      have listed := minimum_mem _ id oldest
      rw [List.mem_append, SortedMap.mem_values_iff, SortedMap.mem_values_iff] at listed
      rcases listed with ⟨handle, saved⟩ | ⟨handle, loaded⟩
      · exact ⟨_, .flush handle id oldest (.inl saved)⟩
      · exact ⟨_, .flush handle id oldest (.inr loaded)⟩

-- The oldest session stays so when it is saved.
theorem oldest_away (slots away : SessionSlots) (tabled : slots.shape.Tabled) (handle : UInt32) (session : Session)
    (id : UInt64) (oldest : slots.oldestActive = some id) (saved : slots.save handle = .ok ((session, id), away))
    (ranged : isSessionHandle handle = true) : away.oldestActive = some id := by
  have tabledAway := slots.tabled_saved away handle session id ranged saved tabled
  obtain ⟨_, number, rfl⟩ := (slots.save_is_ok away handle session id).mp saved
  refine minimum_eq _ id ?_ fun other listed => ?_
  · rw [List.mem_append, SortedMap.mem_values_iff]
    exact .inl ⟨handle, SortedMap.get_insert_same _ _ _⟩
  · dsimp only at listed
    rw [List.mem_append, SortedMap.mem_values_iff, SortedMap.mem_values_iff] at listed
    rcases listed with ⟨key, found⟩ | ⟨key, found⟩
    · rw [SortedMap.get_insert] at found
      split at found
      · obtain rfl := Option.some.inj found
        exact UInt64.le_refl _
      · exact minimum_le _ id oldest other
          (List.mem_append_left _ ((SortedMap.mem_values_iff _ _).mpr ⟨key, found⟩))
    · exact minimum_le _ id oldest other (List.mem_append_right _
        ((SortedMap.mem_values_iff _ _).mpr ⟨key, SortedMap.get_of_erase _ _ _ _ found⟩))

theorem version_size (slots : SessionSlots) (tabled : slots.shape.Tabled) : slots.version.size = slots.sessions.size := by
  have same : slots.version.mapValues (fun _ _ => ()) = slots.sessions.mapValues fun _ _ => () := by
    refine SortedMap.ext_get fun handle => ?_
    have both := tabled.identified handle
    unfold SortedMap.contains shape at both
    dsimp only at both
    rw [SortedMap.get_map_values, Option.isSome_map] at both
    rw [SortedMap.get_map_values, SortedMap.get_map_values]
    cases left : slots.version.get handle with
    | none =>
        rw [left] at both
        cases right : slots.sessions.get handle with
        | none => rfl
        | some session =>
            rw [right] at both
            cases both
    | some id =>
        rw [left] at both
        cases right : slots.sessions.get handle with
        | none =>
            rw [right] at both
            cases both
        | some session => rfl
  have sizes : ∀ {ν : Type} (map : SortedMap UInt32 ν), (map.mapValues fun _ _ => ()).size = map.size := by
    intro ν map
    simp [SortedMap.mapValues, SortedMap.size]
  rw [← sizes slots.version, same, sizes]

end SessionSlots

section

variable [Primitives]

-- ContextLoad takes the context of a session that opens.
def Accepts (s : TpmState) (slots : SessionSlots) (handle : UInt32) (id : UInt64) : Prop :=
  ∀ (request : Request) (t : ContextScope) (context : Context) (body : Bytes) (session : Session), t.sessions = slots →
    request.params (Context.unmarshal.withParameter 1) = .ok context → context.savedHandle = handle →
    context.sequence = id → s.hierarchies.isEnabled context.hierarchy = true → openContext s context t = .ok body t →
    Session.unmarshal.prefixOf body = .ok session → session.handle = handle →
    ∃ response next, contextLoad s request t = .ok response next ∧ slots.restore session id = .ok next.sessions

-- No number is left, so no session is started or saved.
theorem move_orderly (code : UInt32) (before after : Holding) (move : Move code before after)
    (genuine : code = Cc.contextLoad → ∀ handle kind, before.slots.saved.contains handle = true →
      after.slots.shape.kinds.get handle = some kind → typedKind kind = true)
    (orderly : before.slots.shape.Orderly) : after.slots.shape.Orderly := by
  by_cases last : before.slots.contextCounter = 0xFFFFFFFFFFFFFFFF
  · cases move with
    | same after still exclusive =>
        rw [show after.slots.shape = before.slots.shape from congrArg Prod.fst still]
        exact orderly
    | start coded sessionType handle session slots typed allocated kind sized admitted inserted =>
        obtain ⟨_, _, _, available, _⟩ := (before.slots.insert_is_ok slots session).mp inserted
        exact absurd last (before.slots.counter_left available)
    | save coded handle session id slots available ranged saved => exact absurd last (before.slots.counter_left available)
    | count coded available => exact absurd last (before.slots.counter_left available)
    | load coded context session slots viable ranged named body read restored =>
        obtain ⟨held, _, rfl⟩ := (before.slots.restore_is_ok slots session context.sequence).mp restored
        have stays : satSucc before.slots.contextCounter = before.slots.contextCounter := by
          unfold satSucc
          rw [if_pos last]
        refine ⟨fun room => absurd (stays.trans last) room, fun handle id found => ?_, fun handle kind found => ?_⟩
        · change SessionSlots.Placed (satSucc before.slots.contextCounter) id
          rw [stays]
          exact orderly.placed handle id (SortedMap.get_of_erase _ _ _ _ found)
        · by_cases same : handle = session.handle
          · rw [same] at found
            exact genuine coded session.handle kind
              ((SortedMap.contains_iff_get _ _).mpr ⟨context.sequence, held⟩) found
          · refine orderly.typed handle kind ?_
            unfold SessionSlots.shape at found ⊢
            rw [SessionSlots.kinds_insert, SortedMap.get_insert_other _ _ _ _ same] at found
            exact found
    | flush coded handle exclusive left => exact before.slots.orderly_flush _ orderly
    | clear coded => exact SessionSlots.Shape.orderly_of_tabled _ SessionSlots.tabled_new
    | flushLoaded coded => exact before.slots.orderly_unloaded _ rfl rfl rfl rfl orderly
  · exact SessionSlots.Shape.orderly_of_tabled _
      (move_tabled code before after move (fun _ => last) genuine (orderly.tabled last))

theorem orderly_survives : Survives (fun _ => true) SessionSlots.Shape.Orderly where
  move code before after move _ genuine orderly := move_orderly code before after move genuine orderly
  remove slots handle orderly := slots.orderly_remove handle orderly
  unload slots next kinds version saved counter orderly := slots.orderly_unloaded next kinds version saved counter orderly
  typed _ orderly handle kind held := orderly.typed handle kind held

theorem accepts_of_viable (s : TpmState) (slots : SessionSlots) (handle : UInt32) (id : UInt64)
    (ranged : isSessionHandle handle = true) (saved : slots.saved.get handle = some id)
    (room : slots.sessions.size < Config.maxLoadedSessions)
    (viable : ∀ context : Context, context.savedHandle = handle → context.sequence = id →
      checkViable slots context = .ok ()) : Accepts s slots handle id := by
  intro request t context body session same given named numbered enabled opened read whose
  obtain ⟨next, restored⟩ := slots.restore_saved session id (by rw [whose]; exact saved) room
  have looked := viable context named numbered
  refine ⟨Response.withHandle context.savedHandle [], { t with sessions := next }, ?_, restored⟩
  unfold contextLoad
  rw [run_lift_bind, given]
  dsimp only
  rw [run_get_bind, run_lift_bind, same, looked]
  dsimp only
  rw [enabled]
  simp only [Bool.not_true, Bool.false_eq_true, if_false]
  simp only [bind, EStateM.bind]
  rw [opened]
  dsimp only
  rw [named, ranged]
  simp only [if_true]
  have brought : restoreSession context body t = .ok context.savedHandle { t with sessions := next } := by
    unfold restoreSession
    rw [run_lift_bind, badContext, read]
    dsimp only [Except.mapError]
    rw [if_neg (by rw [whose, named]; exact fun apart => apart rfl), run_get_bind, run_lift_bind, same, numbered, restored]
    rfl
  unfold EStateM.bind
  rw [brought, named]
  rfl

-- ContextSave takes a loaded session whose context can be sealed, whatever the gap.
theorem context_save_accepts (s : TpmState) (request : Request) (t : ContextScope) (handle : UInt32) (session : Session)
    (id : UInt64) (away : SessionSlots) (blob : Tpm2bContextData × Mac) (named : request.handle 0 = .ok handle)
    (ranged : isSessionHandle handle = true) (available : t.sessions.countersExhausted = false)
    (saved : t.sessions.save handle = .ok ((session, id), away))
    (sealing : sealContext s Rh.null id handle session.marshal = .ok blob) :
    ∃ reply next, contextSave s request t = .ok reply next ∧ next.sessions = away := by
  let context : Context := { sequence := id, savedHandle := handle, hierarchy := Rh.null, contextBlob := blob.1 }
  refine ⟨{ parameters := context.marshal, unread := request.parameters, macs := [blob.2] },
    { t with sessions := away }, ?_, rfl⟩
  unfold contextSave
  rw [run_lift_bind, named]
  dsimp only
  rw [run_get_bind, available]
  simp only [Bool.false_eq_true, if_false, ranged, if_true]
  rw [run_lift_bind, saved]
  dsimp only [withHandle, Except.mapError]
  rw [run_set_bind, run_lift_bind, sealing]
  rfl

-- The oldest session can be renewed: it is saved and can be loaded into a free slot, or it is loaded and can be saved and
-- then loaded.
def Renewable (s : TpmState) (slots : SessionSlots) : Prop :=
  ∃ handle id, slots.oldestActive = some id ∧
    ((slots.saved.get handle = some id ∧
        (slots.sessions.size < Config.maxLoadedSessions → Accepts s slots handle id)) ∨
      ∃ session away, slots.version.get handle = some id ∧ slots.save handle = .ok ((session, id), away) ∧
        isSessionHandle handle = true ∧ Accepts s away handle id)

theorem renewable_at_gap (s : TpmState) (slots : SessionSlots) (tabled : slots.shape.Tabled)
    (gap : slots.atContextGap = true) : Renewable s slots := by
  unfold SessionSlots.atContextGap at gap
  cases oldest : slots.oldestActive with
  | none =>
      rw [oldest] at gap
      cases gap
  | some id =>
      have listed := SessionSlots.minimum_mem _ id oldest
      rw [List.mem_append, SortedMap.mem_values_iff, SortedMap.mem_values_iff] at listed
      rcases listed with ⟨handle, saved⟩ | ⟨handle, loaded⟩
      · have ranged := tabled.ranged handle ((SortedMap.contains_iff_get _ _).mpr ⟨id, saved⟩)
        refine ⟨handle, id, oldest, .inl ⟨saved, fun room => ?_⟩⟩
        refine accepts_of_viable s slots handle id ranged saved room fun context named numbered => ?_
        subst named numbered
        exact slots.saved_viable_open tabled context ranged saved (.inr oldest)
      · obtain ⟨session, away, ran, whose, ranged, held⟩ := slots.save_loaded tabled handle id loaded
        refine ⟨handle, id, oldest, .inr ⟨session, away, loaded, ran, ranged, ?_⟩⟩
        have left := slots.oldest_away away tabled handle session id oldest ran ranged
        have tabledAway := slots.tabled_saved away handle session id ranged ran tabled
        obtain ⟨_, _, rfl⟩ := (slots.save_is_ok away handle session id).mp ran
        have kept : (slots.saved.insert handle id).get handle = some id := SortedMap.get_insert_same _ _ _
        have room : (slots.sessions.erase handle).size < Config.maxLoadedSessions := by
          have counted := SortedMap.size_erase_held slots.sessions handle
            ((SortedMap.contains_iff_get _ _).mpr ⟨session, held⟩)
          have full := tabled.loaded
          rw [slots.kinds_size] at full
          omega
        refine accepts_of_viable s _ handle id ranged kept room fun context named numbered => ?_
        subst named numbered
        exact SessionSlots.saved_viable_open _ tabledAway context ranged kept (.inr left)

-- A window that is not full refuses nothing.
theorem gap_refuses (slots : SessionSlots) :
    (∀ session, slots.insert session = .error Rc.contextGap → slots.atContextGap = true) ∧
      ∀ context, checkViable slots context = .error Rc.contextGap → slots.atContextGap = true := by
  constructor
  · intro session refused
    cases gap : slots.atContextGap with
    | true => rfl
    | false =>
        exfalso
        unfold SessionSlots.insert SessionSlots.checkGap at refused
        rw [gap] at refused
        by_cases loaded : Config.maxLoadedSessions ≤ slots.sessions.size
        · rw [if_pos loaded] at refused
          cases refused
        · rw [if_neg loaded] at refused
          by_cases all : Config.maxActiveSessions ≤ slots.active
          · rw [if_pos all] at refused
            cases refused
          · rw [if_neg all] at refused
            by_cases last : slots.countersExhausted = true
            · simp only [last, if_true] at refused
              cases refused
            · simp only [last] at refused
              cases refused
  · intro context refused
    cases gap : slots.atContextGap with
    | true => rfl
    | false =>
        exfalso
        unfold checkViable at refused
        rw [gap] at refused
        dsimp only at refused
        generalize (if isSessionHandle context.savedHandle = true then
          decide (context.sequence ≤ satSub slots.contextCounter 1) &&
            decide (satSub slots.contextCounter 1 ≤ satAdd context.sequence Config.contextGapMax)
          else decide (context.sequence < slots.objectCounter)) = viable at refused
        cases viable with
        | false =>
            cases refused
        | true =>
            simp only [Bool.false_eq_true, false_and, and_false, if_false, Bool.not_true] at refused
            cases refused

-- In every state of a run in which no context is forged, the last context of a saved session is in the range that is taken.
-- While the counters last, where the gap refuses a session the one with the lowest number can be renewed, or flushed; after
-- as many such steps as there are sessions the gap refuses none; and a context that can be sealed is saved.
theorem context_gap_passes (s : TpmState) (start : s.sessions.shape.Tabled) (signals : List Signal)
    (tracked : Every Tpm.remember (fun ledger signal => Tpm.tracks (fun _ => true) ledger signal = true)
      ([], Tpm.manufactured s) signals)
    (slots : SessionSlots) (reached : ((Tpm.manufactured s).afterAll signals).state.sessions = slots) :
    (∀ context : Context, isSessionHandle context.savedHandle = true →
        slots.saved.get context.savedHandle = some context.sequence →
        checkViable slots context = .ok () ∨ checkViable slots context = .error Rc.contextGap) ∧
      (slots.countersExhausted = false →
        ((∃ session, slots.insert session = .error Rc.contextGap) ∨
            (∃ context, checkViable slots context = .error Rc.contextGap) →
          Renewable ((Tpm.manufactured s).afterAll signals).state slots ∧ ∃ next, SessionSlots.Relief slots next) ∧
        (∀ next, SessionSlots.Relieved slots.active slots next →
          (∀ session, next.insert session ≠ .error Rc.contextGap) ∧
            ∀ context, checkViable next context ≠ .error Rc.contextGap) ∧
        ∀ request (t : ContextScope) handle session id away blob, t.sessions = slots → request.handle 0 = .ok handle →
          isSessionHandle handle = true → slots.save handle = .ok ((session, id), away) →
          sealContext ((Tpm.manufactured s).afterAll signals).state Rh.null id handle session.marshal = .ok blob →
          ∃ reply next, contextSave ((Tpm.manufactured s).afterAll signals).state request t = .ok reply next) := by
  -- What the run keeps: every saved session has a number of its own behind the counter.
  have orderly : slots.shape.Orderly := by
    rw [← reached]
    exact (Tpm.run_holds _ _ orderly_survives s (SessionSlots.Shape.orderly_of_tabled _ start) signals tracked).1
  refine ⟨fun context ranged saved => ?_, fun available => ?_⟩
  · rw [slots.saved_viable context ranged (orderly.placed _ _ saved)]
    split
    · exact .inr rfl
    · exact .inl rfl
  have tabled := orderly.tabled (slots.counter_left available)
  refine ⟨fun refused => ?_, fun next relieved => ?_, ?_⟩
  · have gap : slots.atContextGap = true :=
      refused.elim (fun ⟨session, refused⟩ => (gap_refuses slots).1 session refused)
        fun ⟨context, refused⟩ => (gap_refuses slots).2 context refused
    exact ⟨renewable_at_gap _ slots tabled gap, slots.relief_flush gap⟩
  · have few := tabled.all
    rw [slots.kinds_size] at few
    have opened := slots.relieved_open next slots.active relieved (by
        rw [slots.version_size tabled]
        unfold SessionSlots.active
        omega) (Nat.le_trans few (by decide))
    refine ⟨fun session refused => ?_, fun context refused => ?_⟩
    · rw [(gap_refuses next).1 session refused] at opened
      cases opened
    · rw [(gap_refuses next).2 context refused] at opened
      cases opened
  · intro request t handle session id away blob same named ranged saved sealing
    subst same
    obtain ⟨reply, next, ran, _⟩ := context_save_accepts _ request t handle session id away blob named ranged available
      saved sealing
    exact ⟨reply, next, ran⟩

end

namespace Toy

-- One saved session, as far behind the last number as any may be.
def farBehind : SessionSlots :=
  { SessionSlots.new with
    saved := SortedMap.empty.insert (hmacSession 0) 0xFFFFFFFFFFFEFFFF
    contextCounter := 0xFFFFFFFFFFFFFFFF }

theorem far_behind_tabled : farBehind.shape.Tabled := by
  have only : ∀ handle id, farBehind.shape.saved.get handle = some id → handle = hmacSession 0 ∧ id = 0xFFFFFFFFFFFEFFFF := by
    intro handle id held
    change (SortedMap.empty.insert (hmacSession 0) 0xFFFFFFFFFFFEFFFF : SortedMap UInt32 UInt64).get handle = some id at held
    rw [SortedMap.get_insert] at held
    split at held
    next same => exact ⟨same, (Option.some.inj held).symm⟩
    next => cases held
  have active : ∀ handle, farBehind.shape.active handle = true → handle = hmacSession 0 := by
    intro handle held
    obtain ⟨id, found⟩ := (SortedMap.contains_iff_get _ _).mp held
    exact (only handle id found).1
  refine ⟨by decide, by decide, nofun, fun a b left right _ => (active a left).trans (active b right).symm, fun _ => rfl,
    ⟨fun a b id left right => (only a id left).1.trans (only b id right).1.symm, fun handle id held => ?_,
      fun handle id held => ?_⟩, nofun, fun handle held => ?_⟩
  · rw [(only handle id held).2]
    decide
  · rw [(only handle id held).2]
    decide
  · obtain ⟨id, found⟩ := (SortedMap.contains_iff_get _ _).mp held
    rw [(only handle id found).1]
    decide

-- Where the counter has run out, no step makes room for a session that the gap refuses.
theorem exhausted_counter_refuses : ¬ ∀ s : TpmState, s.sessions.shape.Tabled → ∀ session next,
    s.sessions.insert session = .error Rc.contextGap → SessionSlots.Relieved s.sessions.active s.sessions next →
    ∃ ended, next.insert session = .ok ended := by
  intro accepted
  let session : Session := {
    handle := hmacSession 1, sessionType := Se.hmac, authHash := Alg.sha256, nonceTpm := [], nonceCaller := []
    sessionKey := [], bind := Rh.null, bindName := [], symmetric := SymDef.null, policy := { digest := [] } }
  have relieved : SessionSlots.Relieved 1 farBehind (farBehind.remove (hmacSession 0)) :=
    .step 0 _ _ _ (.flush (hmacSession 0) 0xFFFFFFFFFFFEFFFF (by decide) (.inl (by decide))) (.none _)
  obtain ⟨ended, inserted⟩ := accepted { blank with sessions := farBehind } far_behind_tabled session _ rfl relieved
  obtain ⟨_, _, _, available, _⟩ := (SessionSlots.insert_is_ok _ _ _).mp inserted
  exact absurd available (by decide)

theorem saves_two_gap : ∃ s signals, (s : TpmState).sessions.shape.Tabled ∧
    Every Tpm.remember (fun ledger signal => Tpm.tracks (fun _ => true) ledger signal = true) ([], Tpm.manufactured s) signals ∧
    0 < ((Tpm.manufactured s).afterAll signals).state.sessions.active ∧
    ∀ next, SessionSlots.Relieved ((Tpm.manufactured s).afterAll signals).state.sessions.active
      ((Tpm.manufactured s).afterAll signals).state.sessions next → ∀ session, next.insert session ≠ .error Rc.contextGap := by
  have tested : found (TpmState.manufacture (List.replicate 48 7)) (fun s =>
      let s := counting 1 s
      let signals := startsTwo ++ sent [savesSession 0]
      decide (Every Tpm.remember (fun ledger signal => Tpm.tracks (fun _ => true) ledger signal = true)
          ([], Tpm.manufactured s) signals) &&
        decide (0 < ((Tpm.manufactured s).afterAll signals).state.sessions.active) &&
        !((Tpm.manufactured s).afterAll signals).state.sessions.countersExhausted) = true := by
    rw [manufacture_made]
    decide +kernel
  obtain ⟨s, _, tested⟩ := ok_of_found _ _ tested
  simp only [Bool.and_eq_true, decide_eq_true_eq, Bool.not_eq_true'] at tested
  obtain ⟨⟨tracked, active⟩, available⟩ := tested
  refine ⟨_, _, counting_tabled 1 s, tracked, active, fun next relieved => ?_⟩
  exact (((context_gap_passes _ (counting_tabled 1 s) _ tracked _ rfl).2 available).2.1 next relieved).1

end Toy

end Swtrust
