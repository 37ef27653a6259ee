import Swtrust.Session.Exclusive
import Swtrust.Nv.Counters

set_option autoImplicit false
set_option linter.unusedSectionVars false

namespace Swtrust

open Library Action

-- Numbers drawn from one counter, no two alike, and none too far behind it.
structure Numbers {κ : Type} (gap : Nat) (number : κ → Option UInt64) (counter : UInt64) : Prop where
  distinct : ∀ a b id, number a = some id → number b = some id → a = b
  below : ∀ key id, number key = some id → id < counter
  near : ∀ key id, number key = some id → counter.toNat ≤ id.toNat + gap + 1

theorem numbers_fewer {κ : Type} (gap : Nat) (before after : κ → Option UInt64) (counter : UInt64)
    (fewer : ∀ key id, after key = some id → before key = some id) (numbers : Numbers gap before counter) :
    Numbers gap after counter :=
  ⟨fun a b id left right => numbers.distinct a b id (fewer a id left) (fewer b id right),
    fun key id held => numbers.below key id (fewer key id held), fun key id held => numbers.near key id (fewer key id held)⟩

-- The next number of the counter goes to one key, and the others are near enough for the step.
theorem numbers_renewed {κ : Type} [DecidableEq κ] (gap : Nat) (before after : κ → Option UInt64) (counter : UInt64) (key : κ)
    (numbers : Numbers gap before counter) (here : after key = some counter)
    (others : ∀ other, other ≠ key → after other = before other) (room : counter ≠ 0xFFFFFFFFFFFFFFFF)
    (window : ∀ other id, other ≠ key → before other = some id → counter.toNat ≤ id.toNat + gap) :
    Numbers gap after (satSucc counter) := by
  have step : satSucc counter = counter + 1 := if_neg room
  have above := NvStore.counted_above counter room
  have next : (satSucc counter).toNat = counter.toNat + 1 := by
    have bound := counter.toNat_lt
    have apart : counter.toNat ≠ 0xFFFFFFFFFFFFFFFF := fun same => room (UInt64.toNat_inj.mp same)
    rw [step, UInt64.toNat_add]
    change (counter.toNat + 1) % 2 ^ 64 = counter.toNat + 1
    omega
  have fresh : ∀ other, other ≠ key → after other ≠ some counter := by
    intro other apart same
    rw [others other apart] at same
    exact UInt64.lt_irrefl _ (numbers.below other counter same)
  refine ⟨fun a b id left right => ?_, fun other id held => ?_, fun other id held => ?_⟩
  · by_cases first : a = key
    · by_cases second : b = key
      · rw [first, second]
      · rw [first, here] at left
        exact absurd (right.trans left.symm) (fresh b second)
    · by_cases second : b = key
      · rw [second, here] at right
        exact absurd (left.trans right.symm) (fresh a first)
      · rw [others a first] at left
        rw [others b second] at right
        exact numbers.distinct a b id left right
  · rw [step]
    by_cases same : other = key
    · rw [same, here] at held
      obtain rfl := Option.some.inj held
      exact above
    · rw [others other same] at held
      exact UInt64.lt_trans (numbers.below other id held) above
  · rw [next]
    by_cases same : other = key
    · rw [same, here] at held
      obtain rfl := Option.some.inj held
      omega
    · rw [others other same] at held
      have near := window other id same held
      omega

theorem minimum_le (numbers : List UInt64) (least : UInt64) (found : minimum numbers = some least) :
    ∀ number ∈ numbers, least ≤ number := by
  induction numbers generalizing least with
  | nil => cases found
  | cons head tail ih =>
      unfold minimum at found
      cases rest : minimum tail with
      | none =>
          rw [rest] at found
          obtain rfl := Option.some.inj found
          cases tail with
          | nil => simp
          | cons second others =>
              unfold minimum at rest
              split at rest
              · cases rest
              · cases rest
      | some other =>
          rw [rest] at found
          have low : (if head ≤ other then head else other) = least := Option.some.inj found
          have both : least ≤ head ∧ least ≤ other := by
            rw [← low]
            split
            next below => exact ⟨UInt64.le_refl _, below⟩
            next above => exact ⟨UInt64.le_of_lt (UInt64.not_le.mp above), UInt64.le_refl _⟩
          intro number member
          rcases List.mem_cons.mp member with rfl | member
          · exact both.1
          · exact UInt64.le_trans both.2 (ih other rest number member)

-- The handles of a session of each type.
def typedKind (kind : UInt32 × UInt8) : Bool :=
  if kind.2 = Se.hmac then Hierarchies.inRange Hc.hmacSessionFirst Hc.hmacSessionLast kind.1
  else isSessionType kind.2 && Hierarchies.inRange Hc.policySessionFirst Hc.policySessionLast kind.1

namespace SessionSlots

namespace Shape

def number (shape : Shape) (handle : UInt32) : Option UInt64 :=
  match shape.version.get handle with
  | some id => some id
  | none => shape.saved.get handle

-- A session is loaded or saved under the handle.
def active (shape : Shape) (handle : UInt32) : Bool := shape.kinds.contains handle || shape.saved.contains handle

structure Tabled (shape : Shape) : Prop where
  loaded : shape.kinds.size ≤ Config.maxLoadedSessions
  all : shape.kinds.size + shape.saved.size ≤ Config.maxActiveSessions
  apart : ∀ handle, shape.kinds.contains handle = true → shape.saved.contains handle = false
  indexed : ∀ a b, shape.active a = true → shape.active b = true → a &&& 0x00FFFFFF = b &&& 0x00FFFFFF → a = b
  identified : ∀ handle, shape.version.contains handle = shape.kinds.contains handle
  numbers : Numbers Config.contextGapMax.toNat shape.number shape.contextCounter
  typed : ∀ handle kind, shape.kinds.get handle = some kind → kind.1 = handle ∧ typedKind kind = true
  ranged : ∀ handle, shape.saved.contains handle = true → isSessionHandle handle = true

-- Fewer sessions, each as it was.
structure Fewer (before after : Shape) : Prop where
  kinds : ∀ handle kind, after.kinds.get handle = some kind → before.kinds.get handle = some kind
  saved : ∀ handle id, after.saved.get handle = some id → before.saved.get handle = some id
  version : ∀ handle id, after.version.get handle = some id → before.version.get handle = some id
  identified : ∀ handle, after.version.contains handle = after.kinds.contains handle
  loaded : after.kinds.size ≤ before.kinds.size
  away : after.saved.size ≤ before.saved.size
  counter : after.contextCounter = before.contextCounter

theorem contains_fewer {ν : Type} (before after : SortedMap UInt32 ν)
    (fewer : ∀ handle value, after.get handle = some value → before.get handle = some value) (handle : UInt32)
    (held : after.contains handle = true) : before.contains handle = true := by
  obtain ⟨value, found⟩ := (SortedMap.contains_iff_get after handle).mp held
  exact (SortedMap.contains_iff_get before handle).mpr ⟨value, fewer handle value found⟩

-- A saved session has no number in memory.
theorem number_saved (shape : Shape) (tabled : shape.Tabled) (handle : UInt32) (id : UInt64)
    (saved : shape.saved.get handle = some id) : shape.number handle = some id := by
  have held : shape.saved.contains handle = true := (SortedMap.contains_iff_get _ handle).mpr ⟨id, saved⟩
  have unloaded : shape.kinds.contains handle = false := by
    cases loaded : shape.kinds.contains handle with
    | false => rfl
    | true =>
        rw [tabled.apart handle loaded] at held
        cases held
  have none : shape.version.get handle = none :=
    (SortedMap.absent_iff_get _ handle).mp ((tabled.identified handle).trans unloaded)
  unfold number
  rw [none]
  exact saved

theorem tabled_fewer (before after : Shape) (fewer : Fewer before after) (tabled : before.Tabled) : after.Tabled := by
  have kinds := contains_fewer _ _ fewer.kinds
  have saved := contains_fewer _ _ fewer.saved
  have active : ∀ handle, after.active handle = true → before.active handle = true := by
    intro handle held
    unfold Shape.active at held ⊢
    rw [Bool.or_eq_true] at held ⊢
    exact held.imp (kinds handle) (saved handle)
  refine ⟨fewer.loaded.trans tabled.loaded, ?_, fun handle held => ?_, fun a b left right => ?_, fewer.identified, ?_, ?_, ?_⟩
  · have loaded := fewer.loaded
    have away := fewer.away
    have all := tabled.all
    omega
  · have gone := tabled.apart handle (kinds handle held)
    cases kept : after.saved.contains handle with
    | false => rfl
    | true =>
        rw [saved handle kept] at gone
        cases gone
  · exact tabled.indexed a b (active a left) (active b right)
  · rw [fewer.counter]
    refine numbers_fewer _ _ _ _ (fun handle id held => ?_) tabled.numbers
    unfold number at held
    cases loaded : after.version.get handle with
    | some other =>
        rw [loaded] at held
        unfold number
        rw [fewer.version handle other loaded]
        exact held
    | none =>
        rw [loaded] at held
        exact number_saved before tabled handle id (fewer.saved handle id held)
  · exact fun handle kind held => tabled.typed handle kind (fewer.kinds handle kind held)
  · exact fun handle held => tabled.ranged handle (saved handle held)

-- A new session, under a number that no other has.
theorem tabled_start (shape : Shape) (handle : UInt32) (kind : UInt32 × UInt8) (objectCounter : UInt64)
    (named : kind.1 = handle) (typed : typedKind kind = true)
    (free : ∀ other, shape.active other = true → other &&& 0x00FFFFFF ≠ handle &&& 0x00FFFFFF)
    (loaded : shape.kinds.size < Config.maxLoadedSessions)
    (all : shape.kinds.size + shape.saved.size < Config.maxActiveSessions) (room : shape.contextCounter ≠ 0xFFFFFFFFFFFFFFFF)
    (window : ∀ other id, shape.number other = some id → shape.contextCounter.toNat ≤ id.toNat + Config.contextGapMax.toNat)
    (tabled : shape.Tabled) : Tabled ⟨shape.kinds.insert handle kind, shape.saved,
      shape.version.insert handle shape.contextCounter, satSucc shape.contextCounter, objectCounter⟩ := by
  have idle : shape.active handle = false := by
    cases held : shape.active handle with
    | false => rfl
    | true => exact absurd rfl (free handle held)
  obtain ⟨unloaded, away⟩ := Bool.or_eq_false_iff.mp idle
  refine ⟨?_, ?_, fun other held => ?_, fun a b left right same => ?_, fun other => ?_, ?_, fun other k held => ?_,
    tabled.ranged⟩
  · rw [SortedMap.size_insert_new _ _ _ unloaded]
    omega
  · rw [SortedMap.size_insert_new _ _ _ unloaded]
    dsimp only
    omega
  · rw [SortedMap.contains_insert, Bool.or_eq_true, decide_eq_true_eq] at held
    rcases held with rfl | held
    · exact away
    · exact tabled.apart other held
  · have before : ∀ other, Shape.active ⟨shape.kinds.insert handle kind, shape.saved,
        shape.version.insert handle shape.contextCounter, satSucc shape.contextCounter, objectCounter⟩ other = true →
        other = handle ∨ shape.active other = true := by
      intro other held
      unfold Shape.active at held ⊢
      dsimp only at held
      rw [SortedMap.contains_insert, Bool.or_assoc, Bool.or_eq_true, decide_eq_true_eq] at held
      exact held
    rcases before a left with rfl | first
    · rcases before b right with rfl | second
      · rfl
      · exact absurd same.symm (free b second)
    · rcases before b right with rfl | second
      · exact absurd same (free a first)
      · exact tabled.indexed a b first second same
  · dsimp only
    rw [SortedMap.contains_insert, SortedMap.contains_insert, tabled.identified]
  · refine numbers_renewed _ shape.number _ _ handle tabled.numbers ?_ (fun other apart => ?_) room
      fun other id _ held => window other id held
    · unfold number
      dsimp only
      rw [SortedMap.get_insert_same]
    · unfold number
      dsimp only
      rw [SortedMap.get_insert_other _ _ _ _ apart]
  · dsimp only at held
    rw [SortedMap.get_insert] at held
    split at held
    next here =>
      obtain rfl := Option.some.inj held
      exact ⟨named.trans here.symm, typed⟩
    next => exact tabled.typed other k held

-- A session put away keeps its number.
theorem tabled_save (shape : Shape) (handle : UInt32) (id : UInt64) (held : shape.version.get handle = some id)
    (ranged : isSessionHandle handle = true) (tabled : shape.Tabled) : Tabled { shape with
      kinds := shape.kinds.erase handle, version := shape.version.erase handle, saved := shape.saved.insert handle id } := by
  have loaded : shape.kinds.contains handle = true := by
    rw [← tabled.identified]
    exact (SortedMap.contains_iff_get _ _).mpr ⟨id, held⟩
  have away := tabled.apart handle loaded
  have counted := SortedMap.size_erase_held _ _ loaded
  have whole := tabled.loaded
  have all := tabled.all
  have active : ∀ other, Shape.active { shape with
      kinds := shape.kinds.erase handle, version := shape.version.erase handle, saved := shape.saved.insert handle id }
      other = true → shape.active other = true := by
    intro other found
    by_cases same : other = handle
    · unfold Shape.active
      rw [same, loaded]
      rfl
    · unfold Shape.active at found ⊢
      dsimp only at found
      rw [SortedMap.contains_erase, SortedMap.contains_insert] at found
      simpa [same] using found
  refine ⟨?_, ?_, fun other found => ?_, fun a b left right => tabled.indexed a b (active a left) (active b right),
    fun other => ?_, ?_, fun other kind found => tabled.typed other kind (SortedMap.get_of_erase _ _ _ _ found),
    fun other found => ?_⟩
  · dsimp only
    omega
  · dsimp only
    rw [SortedMap.size_insert_new _ _ _ away]
    omega
  · dsimp only at found ⊢
    rw [SortedMap.contains_erase, Bool.and_eq_true, decide_eq_true_eq] at found
    rw [SortedMap.contains_insert, tabled.apart other found.2, decide_eq_false found.1]
    rfl
  · dsimp only
    rw [SortedMap.contains_erase, SortedMap.contains_erase, tabled.identified]
  · refine numbers_fewer _ shape.number _ _ (fun other number found => ?_) tabled.numbers
    unfold Shape.number at found
    dsimp only at found
    by_cases same : other = handle
    · rw [same, SortedMap.get_erase_same] at found
      dsimp only at found
      rw [SortedMap.get_insert_same] at found
      unfold Shape.number
      rw [same, held]
      exact found
    · rw [SortedMap.get_erase_other _ _ _ same, SortedMap.get_insert_other _ _ _ _ same] at found
      exact found
  · dsimp only at found
    rw [SortedMap.contains_insert, Bool.or_eq_true, decide_eq_true_eq] at found
    rcases found with rfl | found
    · exact ranged
    · exact tabled.ranged other found

-- A session brought back gets the next number.
theorem tabled_load (shape : Shape) (handle : UInt32) (kind : UInt32 × UInt8) (id : UInt64)
    (held : shape.saved.get handle = some id) (named : kind.1 = handle) (typed : typedKind kind = true)
    (loaded : shape.kinds.size < Config.maxLoadedSessions) (room : shape.contextCounter ≠ 0xFFFFFFFFFFFFFFFF)
    (window : ∀ other number, other ≠ handle → shape.number other = some number →
      shape.contextCounter.toNat ≤ number.toNat + Config.contextGapMax.toNat)
    (tabled : shape.Tabled) : Tabled ⟨shape.kinds.insert handle kind, shape.saved.erase handle,
      shape.version.insert handle shape.contextCounter, satSucc shape.contextCounter, shape.objectCounter⟩ := by
  have away : shape.saved.contains handle = true := (SortedMap.contains_iff_get _ _).mpr ⟨id, held⟩
  have unloaded : shape.kinds.contains handle = false := by
    cases found : shape.kinds.contains handle with
    | false => rfl
    | true =>
        rw [tabled.apart handle found] at away
        cases away
  have counted := SortedMap.size_erase_held _ _ away
  have all := tabled.all
  -- No handle becomes active that was not: the one brought back was saved before.
  have active : ∀ other, Shape.active ⟨shape.kinds.insert handle kind, shape.saved.erase handle,
      shape.version.insert handle shape.contextCounter, satSucc shape.contextCounter, shape.objectCounter⟩ other = true →
      shape.active other = true := by
    intro other found
    by_cases same : other = handle
    · unfold Shape.active
      rw [same, away, Bool.or_true]
    · unfold Shape.active at found ⊢
      dsimp only at found
      rw [SortedMap.contains_insert, SortedMap.contains_erase] at found
      simpa [same] using found
  refine ⟨?_, ?_, fun other found => ?_, fun a b left right => tabled.indexed a b (active a left) (active b right),
    fun other => ?_, ?_, fun other k found => ?_, fun other found => ?_⟩
  · rw [SortedMap.size_insert_new _ _ _ unloaded]
    omega
  · rw [SortedMap.size_insert_new _ _ _ unloaded]
    dsimp only
    omega
  · dsimp only at found ⊢
    rw [SortedMap.contains_insert, Bool.or_eq_true, decide_eq_true_eq] at found
    rw [SortedMap.contains_erase]
    rcases found with rfl | found
    · simp
    · rw [tabled.apart other found, Bool.and_false]
  · dsimp only
    rw [SortedMap.contains_insert, SortedMap.contains_insert, tabled.identified]
  · refine numbers_renewed _ shape.number _ _ handle tabled.numbers ?_ (fun other apart => ?_) room window
    · unfold number
      dsimp only
      rw [SortedMap.get_insert_same]
    · unfold number
      dsimp only
      rw [SortedMap.get_insert_other _ _ _ _ apart, SortedMap.get_erase_other _ _ _ apart]
  · dsimp only at found
    rw [SortedMap.get_insert] at found
    split at found
    next here =>
      obtain rfl := Option.some.inj found
      exact ⟨named.trans here.symm, typed⟩
    next => exact tabled.typed other k found
  · dsimp only at found
    rw [SortedMap.contains_erase, Bool.and_eq_true] at found
    exact tabled.ranged other found.2

end Shape

theorem number_listed (slots : SessionSlots) (handle : UInt32) (id : UInt64)
    (held : slots.shape.number handle = some id) : id ∈ slots.saved.values ++ slots.version.values := by
  rw [List.mem_append, SortedMap.mem_values_iff, SortedMap.mem_values_iff]
  change (match slots.version.get handle with | some id => some id | none => slots.saved.get handle) = some id at held
  cases loaded : slots.version.get handle with
  | some other =>
      rw [loaded] at held
      exact .inr ⟨handle, loaded.trans held⟩
  | none =>
      rw [loaded] at held
      exact .inl ⟨handle, held⟩

theorem oldest_le (slots : SessionSlots) (least : UInt64) (oldest : slots.oldestActive = some least) (handle : UInt32)
    (id : UInt64) (held : slots.shape.number handle = some id) : least ≤ id :=
  minimum_le _ least oldest id (slots.number_listed handle id held)

theorem minimum_none (numbers : List UInt64) (none : minimum numbers = none) : numbers = [] := by
  cases numbers with
  | nil => rfl
  | cons head tail =>
      unfold minimum at none
      split at none
      · cases none
      · cases none

-- Where the window stands open, the step of the counter leaves no session behind it.
theorem window_open (slots : SessionSlots) (opened : slots.atContextGap = false) (handle : UInt32) (id : UInt64)
    (held : slots.shape.number handle = some id) : slots.contextCounter.toNat ≤ id.toNat + Config.contextGapMax.toNat := by
  unfold atContextGap at opened
  cases oldest : slots.oldestActive with
  | none =>
      have member := slots.number_listed handle id held
      rw [minimum_none _ oldest] at member
      cases member
  | some least =>
      rw [oldest] at opened
      have le := slots.oldest_le least oldest handle id held
      have near := of_decide_eq_false opened
      rw [UInt64.le_iff_toNat_le] at le
      rw [gt_iff_lt, UInt64.lt_iff_toNat_lt, not_lt] at near
      unfold satSub at near
      split at near
      next behind =>
        rw [UInt64.lt_iff_toNat_lt] at behind
        omega
      next ahead =>
        rw [UInt64.toNat_sub_of_le _ _ (UInt64.not_lt.mp ahead)] at near
        omega

theorem kinds_size (slots : SessionSlots) : slots.shape.kinds.size = slots.sessions.size := by
  simp [shape, SortedMap.mapValues, SortedMap.size]

theorem kinds_insert (sessions : SortedMap UInt32 Session) (handle : UInt32) (session : Session) :
    (sessions.insert handle session).mapValues (fun _ session => session.kind) =
      (sessions.mapValues fun _ session => session.kind).insert handle session.kind :=
  sessions.map_values_insert _ handle session

theorem kinds_erase (sessions : SortedMap UInt32 Session) (handle : UInt32) :
    (sessions.erase handle).mapValues (fun _ session => session.kind) =
      (sessions.mapValues fun _ session => session.kind).erase handle := sessions.map_values_erase _ handle

theorem allocated_index : ∀ i ∈ List.range Config.maxActiveSessions,
    ((Hc.hmacSessionFirst + UInt32.ofNat i) &&& 0x00FFFFFF == UInt32.ofNat i &&
      (Hc.policySessionFirst + UInt32.ofNat i) &&& 0x00FFFFFF == UInt32.ofNat i &&
      Hierarchies.inRange Hc.hmacSessionFirst Hc.hmacSessionLast (Hc.hmacSessionFirst + UInt32.ofNat i) &&
      Hierarchies.inRange Hc.policySessionFirst Hc.policySessionLast (Hc.policySessionFirst + UInt32.ofNat i)) = true :=
  List.all_eq_true.mp (by decide +kernel)

-- The handle of a new session is of its type, and has a number that no other session has.
theorem allocated (slots : SessionSlots) (sessionType : UInt8) (handle : UInt32)
    (typed : isSessionType sessionType = true) (given : slots.allocateHandle sessionType = .ok handle) :
    typedKind (handle, sessionType) = true ∧
      ∀ other, slots.shape.active other = true → other &&& 0x00FFFFFF ≠ handle &&& 0x00FFFFFF := by
  unfold allocateHandle at given
  dsimp only at given
  cases found : (List.range Config.maxActiveSessions).find? fun i => !slots.contextIdTaken (UInt32.ofNat i) with
  | none =>
      rw [found] at given
      cases given
  | some i =>
      rw [found] at given
      have free := List.find?_some found
      have facts := allocated_index i (List.mem_of_find?_eq_some found)
      simp only [Bool.and_eq_true, beq_iff_eq] at facts
      obtain ⟨⟨⟨hmac, policy⟩, hmacRange⟩, policyRange⟩ := facts
      have named := Except.ok.inj given
      have index : handle &&& 0x00FFFFFF = UInt32.ofNat i := by
        rw [← named]
        split
        · exact hmac
        · exact policy
      refine ⟨?_, fun other active same => ?_⟩
      · unfold typedKind
        dsimp only
        rw [← named]
        by_cases isHmac : sessionType = Se.hmac
        · rw [if_pos isHmac, if_pos isHmac]
          exact hmacRange
        · rw [if_neg isHmac, if_neg isHmac, typed]
          exact policyRange
      · rw [index] at same
        have member : other ∈ slots.sessions.keys ++ slots.saved.keys := by
          rw [List.mem_append, ← SortedMap.contains_iff_key, ← SortedMap.contains_iff_key]
          unfold Shape.active shape at active
          rw [Bool.or_eq_true, SortedMap.contains_iff_get] at active
          rcases active with ⟨kind, held⟩ | held
          · rw [SortedMap.get_map_values] at held
            obtain ⟨session, found, _⟩ := Option.map_eq_some_iff.mp held
            exact .inl ((SortedMap.contains_iff_get _ _).mpr ⟨session, found⟩)
          · exact .inr held
        have taken : slots.contextIdTaken (UInt32.ofNat i) = true :=
          List.any_eq_true.mpr ⟨other, member, beq_iff_eq.mpr same⟩
        rw [taken] at free
        cases free

theorem counter_left (slots : SessionSlots) (available : slots.countersExhausted = false) :
    slots.contextCounter ≠ 0xFFFFFFFFFFFFFFFF := by
  intro last
  unfold countersExhausted at available
  rw [last] at available
  cases available

theorem tabled_insert (slots next : SessionSlots) (session : Session) (sessionType : UInt8) (handle : UInt32)
    (typed : isSessionType sessionType = true) (given : slots.allocateHandle sessionType = .ok handle)
    (kind : session.kind = (handle, sessionType)) (inserted : slots.insert session = .ok next)
    (tabled : slots.shape.Tabled) : next.shape.Tabled := by
  obtain ⟨loaded, all, gap, available, rfl⟩ := (slots.insert_is_ok next session).mp inserted
  obtain ⟨ranged, free⟩ := slots.allocated sessionType handle typed given
  have named : session.handle = handle := congrArg Prod.fst kind
  rw [← slots.kinds_size] at loaded
  unfold active at all
  rw [← slots.kinds_size] at all
  have started := Shape.tabled_start slots.shape handle session.kind slots.objectCounter named (kind ▸ ranged) free loaded
    all (slots.counter_left available) (slots.window_open gap) tabled
  unfold shape at started ⊢
  rw [kinds_insert, named]
  exact started

theorem tabled_saved (slots next : SessionSlots) (handle : UInt32) (session : Session) (id : UInt64)
    (ranged : isSessionHandle handle = true) (ran : slots.save handle = .ok ((session, id), next))
    (tabled : slots.shape.Tabled) : next.shape.Tabled := by
  obtain ⟨held, number, rfl⟩ := (slots.save_is_ok next handle session id).mp ran
  have loaded : slots.shape.kinds.contains handle = true := by
    refine (SortedMap.contains_iff_get _ _).mpr ⟨session.kind, ?_⟩
    unfold shape
    rw [SortedMap.get_map_values, (slots.get_is_ok handle session).mp held]
    rfl
  rw [← tabled.identified, SortedMap.contains_iff_get] at loaded
  obtain ⟨other, version⟩ := loaded
  have same : other = id := by
    rw [← number]
    change slots.version.get handle = some other at version
    rw [version]
    rfl
  have away := Shape.tabled_save slots.shape handle id (same ▸ version) ranged tabled
  unfold shape at away ⊢
  rw [kinds_erase]
  exact away

theorem tabled_restored (slots next : SessionSlots) (context : Context) (session : Session)
    (viable : checkViable slots context = .ok ()) (ranged : isSessionHandle context.savedHandle = true)
    (ran : slots.restore session context.sequence = .ok next) (typed : typedKind session.kind = true)
    (room : slots.contextCounter ≠ 0xFFFFFFFFFFFFFFFF) (tabled : slots.shape.Tabled) : next.shape.Tabled := by
  obtain ⟨held, loaded, rfl⟩ := (slots.restore_is_ok next session context.sequence).mp ran
  rw [← slots.kinds_size] at loaded
  have here := Shape.number_saved slots.shape tabled session.handle context.sequence held
  have window : ∀ other number, other ≠ session.handle → slots.shape.number other = some number →
      slots.contextCounter.toNat ≤ number.toNat + Config.contextGapMax.toNat := by
    intro other number apart numbered
    cases gap : slots.atContextGap with
    | false => exact slots.window_open gap other number numbered
    | true =>
        -- At the gap only the oldest session may be loaded, and every other is one number nearer.
        simp only [checkViable, guarded_then_is_ok, guarded_is_ok] at viable
        have oldest : slots.oldestActive = some context.sequence := by
          by_contra other
          exact viable.2.1 ⟨ranged, gap, other⟩
        have le := slots.oldest_le context.sequence oldest other number numbered
        have near := tabled.numbers.near session.handle context.sequence here
        have distinct : context.sequence ≠ number := fun same =>
          apart (tabled.numbers.distinct other session.handle number numbered (same ▸ here))
        have strict : context.sequence.toNat ≠ number.toNat := fun same => distinct (UInt64.toNat_inj.mp same)
        rw [UInt64.le_iff_toNat_le] at le
        change slots.contextCounter.toNat ≤ _ at near
        omega
  have back := Shape.tabled_load slots.shape session.handle session.kind context.sequence held rfl typed loaded room
    window tabled
  unfold shape at back ⊢
  rw [kinds_insert]
  exact back

end SessionSlots

namespace SessionSlots

theorem fewer_remove (slots : SessionSlots) (handle : UInt32) (identified : ∀ other,
    slots.shape.version.contains other = slots.shape.kinds.contains other) :
    Shape.Fewer slots.shape (slots.remove handle).shape := by
  rw [shape_remove]
  refine ⟨fun other kind => SortedMap.get_of_erase _ _ _ _, fun other id => SortedMap.get_of_erase _ _ _ _,
    fun other id => SortedMap.get_of_erase _ _ _ _, fun other => ?_, SortedMap.size_erase_le _ _,
    SortedMap.size_erase_le _ _, rfl⟩
  dsimp only
  rw [SortedMap.contains_erase, SortedMap.contains_erase]
  have same := identified other
  unfold shape at same
  rw [same]
  rfl

theorem tabled_remove (slots : SessionSlots) (handle : UInt32) (tabled : slots.shape.Tabled) :
    (slots.remove handle).shape.Tabled :=
  Shape.tabled_fewer _ _ (slots.fewer_remove handle tabled.identified) tabled

theorem tabled_flush (slots : SessionSlots) (candidates : List UInt32) (tabled : slots.shape.Tabled) :
    (slots.flushFirst candidates).2.shape.Tabled := by
  induction candidates generalizing slots with
  | nil => exact tabled
  | cons candidate rest ih =>
      have removed := slots.tabled_remove candidate tabled
      unfold flushFirst
      dsimp only
      split
      · exact removed
      · exact ih (slots.remove candidate) removed

-- No session in memory, and those that were saved.
theorem tabled_unloaded (slots : SessionSlots) (next : Shape) (kinds : next.kinds = SortedMap.empty)
    (version : next.version = SortedMap.empty) (saved : next.saved = slots.saved)
    (counter : next.contextCounter = slots.contextCounter) (tabled : slots.shape.Tabled) : next.Tabled := by
  refine Shape.tabled_fewer slots.shape next ⟨?_, ?_, ?_, ?_, ?_, ?_, counter⟩ tabled
  · rw [kinds]
    nofun
  · rw [saved]
    exact fun _ _ => id
  · rw [version]
    nofun
  · rw [kinds, version]
    exact fun _ => rfl
  · rw [kinds]
    exact Nat.zero_le _
  · rw [saved]
    exact Nat.le_refl _

theorem tabled_new : new.shape.Tabled := by
  refine ⟨Nat.zero_le _, Nat.zero_le _, nofun, nofun, fun _ => rfl, ⟨nofun, nofun, nofun⟩, nofun, nofun⟩

end SessionSlots

section

variable [Primitives]

-- What a move of a handler needs to keep the table: a number for a session it brings back, and the type that had.
theorem move_tabled (code : UInt32) (before after : Holding) (move : Move code before after)
    (room : code = Cc.contextLoad → before.slots.contextCounter ≠ 0xFFFFFFFFFFFFFFFF)
    (genuine : code = Cc.contextLoad → ∀ handle kind, before.slots.saved.contains handle = true →
      after.slots.shape.kinds.get handle = some kind → typedKind kind = true)
    (tabled : before.slots.shape.Tabled) : after.slots.shape.Tabled := by
  cases move with
  | same after still exclusive =>
      rw [show after.slots.shape = before.slots.shape from congrArg Prod.fst still]
      exact tabled
  | start coded sessionType handle session slots typed allocated kind sized admitted inserted =>
      exact before.slots.tabled_insert slots session sessionType handle typed allocated kind inserted tabled
  | save coded handle session id slots available ranged saved =>
      exact before.slots.tabled_saved slots handle session id ranged saved tabled
  | count coded available =>
      exact ⟨tabled.loaded, tabled.all, tabled.apart, tabled.indexed, tabled.identified, tabled.numbers, tabled.typed,
        tabled.ranged⟩
  | load coded context session slots viable ranged named body read restored =>
      obtain ⟨held, _, moved⟩ := (before.slots.restore_is_ok slots session context.sequence).mp restored
      refine before.slots.tabled_restored slots context session viable ranged restored ?_ (room coded) tabled
      refine genuine coded session.handle session.kind ((SortedMap.contains_iff_get _ _).mpr ⟨_, held⟩) ?_
      rw [← moved]
      unfold SessionSlots.shape
      rw [SessionSlots.kinds_insert, SortedMap.get_insert_same]
  | flush coded handle exclusive left => exact before.slots.tabled_flush _ tabled
  | clear coded => exact SessionSlots.tabled_new
  | flushLoaded coded => exact before.slots.tabled_unloaded _ rfl rfl rfl rfl tabled

-- What is kept of the table of sessions wherever a context that is brought back finds room for its number.
structure Survives (room : UInt64 → Bool) (holds : SessionSlots.Shape → Prop) : Prop where
  move : ∀ code before after, Move code before after →
    (code = Cc.contextLoad → room before.slots.contextCounter = true) →
    (code = Cc.contextLoad → ∀ handle kind, before.slots.saved.contains handle = true →
      after.slots.shape.kinds.get handle = some kind → typedKind kind = true) →
    holds before.slots.shape → holds after.slots.shape
  remove : ∀ (slots : SessionSlots) handle, holds slots.shape → holds (slots.remove handle).shape
  unload : ∀ (slots : SessionSlots) (next : SessionSlots.Shape), next.kinds = SortedMap.empty →
    next.version = SortedMap.empty → next.saved = slots.saved → next.contextCounter = slots.contextCounter →
    holds slots.shape → holds next
  typed : ∀ shape, holds shape → ∀ handle kind, shape.kinds.get handle = some kind → typedKind kind = true

def hasNext (counter : UInt64) : Bool := decide (counter ≠ 0xFFFFFFFFFFFFFFFF)

theorem tabled_survives : Survives hasNext SessionSlots.Shape.Tabled where
  move code before after move room genuine tabled :=
    move_tabled code before after move (fun coded => of_decide_eq_true (room coded)) genuine tabled
  remove slots handle tabled := slots.tabled_remove handle tabled
  unload slots next kinds version saved counter tabled := slots.tabled_unloaded next kinds version saved counter tabled
  typed _ tabled handle kind held := (tabled.typed handle kind held).2

namespace TpmState

-- What a command leaves of the sessions: its handler moves, and its response closes some of its own.
def Settled (request : Request) (s t : TpmState) : Prop :=
  ∃ after : Holding, Move request.code s.holding after ∧ ∃ handles : List UInt32,
    t.sessions.shape = (handles.foldl SessionSlots.remove after.slots).shape ∧
      ∀ handle ∈ handles, ∃ input ∈ request.sessions, input.handle = handle

theorem settled_of_move (request : Request) (s t : TpmState) (move : Move request.code s.holding t.holding) :
    Settled request s t := ⟨t.holding, move, [], rfl, nofun⟩

theorem after_authorization_settles (request : Request) (names : List Bytes) (contexts : List AuthContext) (s : TpmState) :
    Ensures (fun t => t = s) (afterAuthorization request names contexts) (fun _ t => Settled request s t)
      (Settled request s) := by
  have stays : Settled request s s := settled_of_move request s s (move_refl _ _)
  unfold afterAuthorization
  refine ensures_get_bind _ _ _ _ fun t same => ?_
  subst same
  refine ensures_lift_bind _ _ t _ _ stays fun _ _ => ensures_get_bind _ _ _ _ fun u same => ?_
  subst same
  refine ensures_lift_bind _ _ u _ _ stays fun _ _ => ensures_get_bind _ _ _ _ fun s same => ?_
  subst same
  refine ensures_lift_bind _ _ s _ _ stays fun decrypted made => ?_
  obtain ⟨parameters, rfl⟩ := decrypt_parameters_only request s decrypted _ made
  refine ensures_bind _ _ _ (fun _ t => Move request.code s.holding t.holding) _ _ ?_ fun reply => ?_
  · exact ensures_imply _ _ _ _ _ _ (run_guarded_moves { request with parameters } s) (fun _ _ => id)
      fun t move => settled_of_move request s t move
  · refine ensures_guard _ _ _ _ _ _ _ (fun t move => settled_of_move request s t move) fun _ => ?_
    intro t move
    have closes : ∀ u, Answers { request with parameters } t u → Settled request s u := fun u answers => by
      obtain ⟨handles, left, given⟩ := answers.closed
      exact ⟨t.holding, move, handles, congrArg (·.1.1) left, given⟩
    have answered : Ensures (fun u => u = t) (do
        let octets ← respond { request with parameters } reply names contexts request.parameters
        return ⟨octets, { request with parameters }, reply⟩ : TpmM Executed)
        (fun _ u => Settled request s u) (Settled request s) := by
      refine ensures_bind _ _ _ (fun _ u => Settled request s u) _ _ ?_ fun _ => ensures_pure _ _ _ _ fun _ => id
      exact ensures_imply _ _ _ _ _ _ (respond_answers { request with parameters } reply names contexts _ t)
        (fun _ u answers => closes u answers.1) closes
    exact answered t rfl

theorem run_settled (s : TpmState) (locality : UInt8) (octets : Bytes) :
    (run locality octets s).2.sessions.shape = s.sessions.shape ∨ ∃ request, parse octets locality = .ok request ∧
      Settled request s (run locality octets s).2 := by
  cases s.run_course locality octets with
  | unprepared e stopped same =>
      left
      rcases same with same | ⟨request, _, same⟩
      · rw [same]
      · rw [same]
        exact congrArg (·.1.shape) (nullify_shutdown_seat request s)
  | unauthorized request names prepared e ran =>
      have same := authorize_from_seat request names s
      rw [ran] at same
      exact .inl (congrArg (fun seat : SessionSlots × AuditState => seat.1.shape) same)
  | authorized request names prepared contexts t ran ended =>
      have same := authorize_from_seat request names s
      rw [ran] at same
      replace same : t.holding = s.holding := holding_of_seat s t same
      obtain ⟨_, parsed, _⟩ := (s.prepare_is_ok locality octets request names).mp prepared
      refine .inr ⟨request, parsed, ?_⟩
      have settled : Settled request t (run locality octets s).2 := by
        rw [ended]
        rcases ensures_final _ _ _ _ t (after_authorization_settles request names contexts t) rfl with ⟨_, left⟩ | left
        · exact left
        · exact left
      unfold Settled at settled ⊢
      rw [← same]
      exact settled

theorem run_survives (room : UInt64 → Bool) (holds : SessionSlots.Shape → Prop) (survives : Survives room holds)
    (s : TpmState) (locality : UInt8) (octets : Bytes)
    (number : found (parse octets locality) (·.code == Cc.contextLoad) = true → room s.sessions.contextCounter = true)
    (genuine : ∀ handle kind, s.sessions.saved.contains handle = true →
      (run locality octets s).2.sessions.shape.kinds.get handle = some kind → typedKind kind = true)
    (held : holds s.sessions.shape) : holds (run locality octets s).2.sessions.shape := by
  have removes : ∀ (handles : List UInt32) (slots : SessionSlots), holds slots.shape →
      holds (handles.foldl SessionSlots.remove slots).shape := by
    intro handles
    induction handles with
    | nil => exact fun _ held => held
    | cons handle rest ih => exact fun slots held => ih _ (survives.remove slots handle held)
  rcases s.run_settled locality octets with same | ⟨request, parsed, after, move, handles, shape, given⟩
  · rw [same]
    exact held
  · rw [shape]
    refine removes handles after.slots (survives.move _ _ _ move (fun code => ?_) (fun code => ?_) held)
    · exact number (by simp [found, parsed, code])
    · -- ContextLoad has no sessions of its own that could be closed.
      have none := parsed_no_sessions octets locality request parsed (by rw [code]; rfl)
      have empty : handles = [] := by
        cases handles with
        | nil => rfl
        | cons handle rest =>
            obtain ⟨input, member, _⟩ := given handle List.mem_cons_self
            rw [none] at member
            cases member
      intro handle kind saved held
      rw [empty] at shape
      refine genuine handle kind saved ?_
      rw [shape]
      exact held

end TpmState

namespace Tpm

def kinds (t : Tpm) : List (UInt32 × UInt8) := t.state.sessions.shape.kinds.values

-- A command that is to bring a context back finds room for its number.
def hasRoom (room : UInt64 → Bool) (t : Tpm) : Signal → Bool
  | .execute _ _ locality command =>
    !found (parse command locality) (·.code == Cc.contextLoad) || room t.state.sessions.contextCounter
  | _ => true

-- What `load` starts from has no sessions.
def startsEmpty : Signal → Bool
  | .powerOn fresh | .restart fresh =>
    decide (fresh.sessions.sessions = SortedMap.empty) && decide (fresh.sessions.version = SortedMap.empty)
  | _ => true

-- A session that comes back from where it was saved has been in memory before, of the same type: its context was not
-- forged.
def genuine (seen : List (UInt32 × UInt8)) (t : Tpm) (signal : Signal) : Bool :=
  t.state.sessions.saved.keys.all fun handle =>
    match (t.after signal).state.sessions.shape.kinds.get handle with
    | some kind => seen.contains kind
    | none => true

-- A TPM, and the sessions it has had in memory.
def remember (ledger : List (UInt32 × UInt8) × Tpm) (signal : Signal) : List (UInt32 × UInt8) × Tpm :=
  (ledger.2.kinds ++ ledger.1, ledger.2.after signal)

def tracks (room : UInt64 → Bool) (ledger : List (UInt32 × UInt8) × Tpm) (signal : Signal) : Bool :=
  ledger.2.hasRoom room signal && startsEmpty signal && genuine (ledger.2.kinds ++ ledger.1) ledger.2 signal

section

variable (room : UInt64 → Bool) (holds : SessionSlots.Shape → Prop)

structure Holds (ledger : List (UInt32 × UInt8) × Tpm) : Prop where
  state : holds ledger.2.state.sessions.shape
  store : holds ledger.2.store.sessions.shape
  seen : ∀ kind ∈ ledger.1, typedKind kind = true

variable (survives : Survives room holds)

include survives

theorem typed_kinds (t : Tpm) (held : holds t.state.sessions.shape) (seen : List (UInt32 × UInt8))
    (typed : ∀ kind ∈ seen, typedKind kind = true) : ∀ kind ∈ t.kinds ++ seen, typedKind kind = true := by
  intro kind member
  rcases List.mem_append.mp member with here | before
  · obtain ⟨handle, found⟩ := (SortedMap.mem_values_iff _ _).mp here
    exact survives.typed _ held handle kind found
  · exact typed kind before

theorem restored_survives (fresh saved : TpmState) (loaded : fresh.sessions.sessions = SortedMap.empty)
    (version : fresh.sessions.version = SortedMap.empty) (held : holds saved.sessions.shape) :
    holds (TpmState.restored fresh saved).sessions.shape := by
  have same : (TpmState.restored fresh saved).sessions = fresh.sessions.restoreSavedContexts
      saved.sessions.saved.entries saved.sessions.contextCounter saved.sessions.objectCounter := rfl
  rw [same]
  refine survives.unload saved.sessions _ ?_ version (SortedMap.of_list_entries _) rfl held
  unfold SessionSlots.shape SessionSlots.restoreSavedContexts
  dsimp only
  rw [loaded]
  rfl

theorem flushed_survives (slots : SessionSlots) (held : holds slots.shape) : holds slots.flushLoaded.shape :=
  survives.unload slots _ rfl rfl rfl rfl held

theorem power_on_survives (s : TpmState) (held : holds s.sessions.shape) : holds s.powerOn.sessions.shape := by
  obtain ⟨_, _, _, _, _, _, _, _, _, _, same⟩ := s.power_on_changes
  rw [same]
  exact flushed_survives room holds survives _ held

theorem execute_survives (t : Tpm) (elapsed : UInt64) (written : Bool) (locality : UInt8) (command : Bytes)
    (roomy : t.hasRoom room (.execute elapsed written locality command) = true)
    (came : ∀ handle kind, t.state.sessions.saved.contains handle = true →
      (t.execute elapsed written locality command).2.state.sessions.shape.kinds.get handle = some kind →
        typedKind kind = true)
    (state : holds t.state.sessions.shape) (store : holds t.store.sessions.shape) :
    holds (t.execute elapsed written locality command).2.state.sessions.shape ∧
      holds (t.execute elapsed written locality command).2.store.sessions.shape := by
  cases powered : t.powered with
  | false =>
      have same := t.execute_unpowered elapsed written locality command powered
      rw [same]
      exact ⟨state, store⟩
  | true =>
      have arrived : (t.arrive elapsed).2.sessions = t.state.sessions := by
        obtain ⟨_, _, _, same⟩ := ({ t.state with hcrtmSequence := none } : TpmState).advance_time_changes elapsed
        unfold arrive
        rw [same]
      have number : found (parse command locality) (·.code == Cc.contextLoad) = true →
          room (t.arrive elapsed).2.sessions.contextCounter = true := by
        intro loads
        rw [arrived]
        simpa [hasRoom, loads] using roomy
      have ended := t.execute_executes elapsed written locality command powered
      generalize t.execute elapsed written locality command = result at ended came ⊢
      have ran : result.2.state.sessions.shape = (t.ran elapsed locality command).2.sessions.shape →
          holds (t.ran elapsed locality command).2.sessions.shape := by
        intro same
        refine TpmState.run_survives room holds survives (t.arrive elapsed).2 locality command number
          (fun handle kind saved held => ?_) ?_
        · rw [arrived] at saved
          refine came handle kind saved ?_
          rw [same]
          exact held
        · rw [arrived]
          exact state
      cases ended with
      | saved healthy writes => exact ⟨ran rfl, ran rfl⟩
      | closed refused writes => exact ⟨ran rfl, store⟩
      | clockLost refused plain same rolled => exact ⟨ran rfl, store⟩
      | unsaved plain same still => exact ⟨ran rfl, store⟩

theorem signal_survives (ledger : List (UInt32 × UInt8) × Tpm) (signal : Signal)
    (tracked : tracks room ledger signal = true) (held : Holds holds ledger) : Holds holds (remember ledger signal) := by
  obtain ⟨seen, t⟩ := ledger
  obtain ⟨state, store, typed⟩ := held
  have kinds := typed_kinds room holds survives t state seen typed
  unfold tracks at tracked
  rw [Bool.and_eq_true, Bool.and_eq_true] at tracked
  obtain ⟨⟨roomy, empty⟩, real⟩ := tracked
  -- A write puts the state into the store, which then holds what the state holds.
  have persisted : ∀ (u : Tpm) (written : Bool), holds u.state.sessions.shape → holds u.store.sessions.shape →
      holds (u.persist written).2.state.sessions.shape ∧ holds (u.persist written).2.store.sessions.shape := by
    intro u written state store
    exact holds_after_persist (fun t => holds t.state.sessions.shape ∧ holds t.store.sessions.shape) u written
      ⟨state, store⟩ ⟨state, state⟩
  refine (fun both : holds (t.after signal).state.sessions.shape ∧ holds (t.after signal).store.sessions.shape =>
    ⟨both.1, both.2, kinds⟩) ?_
  cases signal with
  | execute elapsed written locality command =>
      refine execute_survives room holds survives t elapsed written locality command roomy
        (fun handle kind saved held => ?_) state store
      have listed := List.all_eq_true.mp real handle ((SortedMap.contains_iff_key _ _).mp saved)
      rw [show (t.after (.execute elapsed written locality command)).state.sessions.shape.kinds.get handle = some kind
        from held] at listed
      exact kinds kind (List.contains_iff_mem.mp listed)
  | powerOn fresh =>
      simp only [startsEmpty, Bool.and_eq_true, decide_eq_true_eq] at empty
      refine ⟨?_, store⟩
      unfold after powerOn
      dsimp only
      split
      · exact power_on_survives room holds survives _
          (restored_survives room holds survives fresh t.store empty.1 empty.2 store)
      · exact power_on_survives room holds survives _ state
  | powerOff written =>
      obtain ⟨state, store⟩ := persisted t written state store
      exact ⟨flushed_survives room holds survives _ state, store⟩
  | nv available => exact ⟨state, store⟩
  | physicalPresence asserted => exact ⟨state, store⟩
  | hashStart => exact ⟨state, store⟩
  | hashData data => exact ⟨state, store⟩
  | hashEnd =>
      refine ⟨?_, store⟩
      obtain ⟨_, _, _, _, same⟩ := t.state.hash_end_changes
      change holds t.state.hashEnd.sessions.shape
      rw [same]
      exact state
  | actGetSignaled act elapsed written =>
      have advanced : ∀ millis, holds (t.state.advanceTime millis).2.sessions.shape := by
        intro millis
        obtain ⟨_, _, _, same⟩ := t.state.advance_time_changes millis
        rw [same]
        exact state
      exact holds_after_poll (fun t => holds t.state.sessions.shape ∧ holds t.store.sessions.shape) t act elapsed written
        (fun millis => ⟨advanced millis, store⟩) fun u both => persisted u written both.1 both.2
  | restart fresh =>
      simp only [startsEmpty, Bool.and_eq_true, decide_eq_true_eq] at empty
      have read := restored_survives room holds survives fresh t.store empty.1 empty.2 store
      exact ⟨read, store⟩

end

theorem remembered (ledger : List (UInt32 × UInt8) × Tpm) (signals : List Signal) :
    (signals.foldl remember ledger).2 = ledger.2.afterAll signals := by
  induction signals generalizing ledger with
  | nil => rfl
  | cons signal rest ih => exact ih (remember ledger signal)

theorem run_holds (room : UInt64 → Bool) (holds : SessionSlots.Shape → Prop) (survives : Survives room holds) (s : TpmState)
    (start : holds s.sessions.shape) (signals : List Signal)
    (tracked : Every remember (fun ledger signal => tracks room ledger signal = true) ([], manufactured s) signals) :
    holds ((manufactured s).afterAll signals).state.sessions.shape ∧
      holds ((manufactured s).afterAll signals).store.sessions.shape := by
  have kept := invariant_of_every _ _ (Holds holds) (signal_survives room holds survives) _ signals tracked
    ⟨start, start, nofun⟩
  rw [← remembered ([], manufactured s) signals]
  exact ⟨kept.state, kept.store⟩

end Tpm

-- The table of sessions in memory, and the one in the file, stay as they should in every run in which no context is forged
-- and no context is brought back when the session counter has run out.
theorem session_table_kept (s : TpmState) (start : s.sessions.shape.Tabled) (signals : List Signal)
    (tracked : Every Tpm.remember (fun ledger signal => Tpm.tracks hasNext ledger signal = true) ([], Tpm.manufactured s)
      signals) :
    ((Tpm.manufactured s).afterAll signals).state.sessions.shape.Tabled ∧
      ((Tpm.manufactured s).afterAll signals).store.sessions.shape.Tabled :=
  Tpm.run_holds hasNext _ tabled_survives s start signals tracked

end

namespace Toy

-- A TPM that was shut down when its session counter stood at a number.
def counting (counter : UInt64) (s : TpmState) : TpmState :=
  { s with shutdownType := Su.state, sessions := { SessionSlots.new with contextCounter := counter } }

theorem counting_tabled (counter : UInt64) (s : TpmState) : (counting counter s).sessions.shape.Tabled :=
  ⟨Nat.zero_le _, Nat.zero_le _, nofun, nofun, fun _ => rfl, ⟨nofun, nofun, nofun⟩, nofun, nofun⟩

def hmacSession (index : UInt32) : UInt32 := Hc.hmacSessionFirst + index

def savesSession (index : UInt32) : Bytes := plainCommand Cc.contextSave [hmacSession index] []

-- The context that a TPM answers with.
def contextOf (t : Tpm) (index : UInt32) : Bytes := (t.execute 0 true 0 (savesSession index)).1.drop 10

def startsTwo : List Signal := startedWith [startSession Se.hmac, startSession Se.hmac]

-- Two sessions that are saved and brought back.
def savesTwo (s : TpmState) : List Signal :=
  let t := (Tpm.manufactured s).afterAll startsTwo
  let first := contextOf t 0
  let second := contextOf (t.afterAll (sent [savesSession 0])) 1
  startsTwo ++ sent [savesSession 0, savesSession 1, plainCommand Cc.contextLoad [] first,
    plainCommand Cc.contextLoad [] second]

def firstNumbers : TpmState := counting 1 manufacturedState

def lastNumbers : TpmState := counting 0xFFFFFFFFFFFFFFFC manufacturedState

-- The last number goes to a session, and the counter stays on it.
theorem last_number_given_twice : ¬ ∀ s : TpmState, s.sessions.shape.Tabled → ∀ signals,
    Every Tpm.remember (fun ledger signal => Tpm.tracks (fun _ => true) ledger signal = true) ([], Tpm.manufactured s) signals →
    ((Tpm.manufactured s).afterAll signals).state.sessions.shape.Tabled := by
  intro always
  have ran : Every Tpm.remember (fun ledger signal => Tpm.tracks (fun _ => true) ledger signal = true)
      ([], Tpm.manufactured lastNumbers) (savesTwo lastNumbers) ∧
      let ended := ((Tpm.manufactured lastNumbers).afterAll (savesTwo lastNumbers)).state.sessions
      ended.shape.number (hmacSession 1) = some ended.contextCounter := by decide +kernel
  obtain ⟨tracked, given⟩ := ran
  unfold lastNumbers at tracked given
  generalize manufacturedState = s at tracked given
  have tabled := always _ (counting_tabled _ s) _ tracked
  exact absurd (tabled.numbers.below _ _ given) (UInt64.lt_irrefl _)

theorem saves_two_tabled : ∃ s signals, (s : TpmState).sessions.shape.Tabled ∧
    Every Tpm.remember (fun ledger signal => Tpm.tracks hasNext ledger signal = true) ([], Tpm.manufactured s) signals ∧
    ((Tpm.manufactured s).afterAll signals).state.sessions.sessions.keys = [hmacSession 0, hmacSession 1] ∧
    ((Tpm.manufactured s).afterAll signals).state.sessions.shape.Tabled ∧
    ((Tpm.manufactured s).afterAll signals).store.sessions.shape.Tabled := by
  have ran : Every Tpm.remember (fun ledger signal => Tpm.tracks hasNext ledger signal = true)
      ([], Tpm.manufactured firstNumbers) (savesTwo firstNumbers) ∧
      ((Tpm.manufactured firstNumbers).afterAll (savesTwo firstNumbers)).state.sessions.sessions.keys =
        [hmacSession 0, hmacSession 1] := by decide +kernel
  obtain ⟨tracked, back⟩ := ran
  unfold firstNumbers at tracked back
  generalize manufacturedState = s at tracked back
  exact ⟨_, _, counting_tabled 1 s, tracked, back, session_table_kept _ (counting_tabled 1 s) _ tracked⟩

end Toy

end Swtrust
