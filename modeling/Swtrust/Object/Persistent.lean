import Swtrust.Authorization.Binding
import Swtrust.Device.Frame
import Swtrust.Library.Total

set_option autoImplicit false
set_option linter.unusedSectionVars false

namespace Swtrust

open Library Action TpmState

-- An object that may lie under a persistent handle.
structure Object.Lasts (object : Object) (handle : UInt32) : Prop where
  ranged : Handles.isPersistent handle = true
  platform : Hc.platformPersistent ≤ handle ↔ object.hierarchy = Rh.platform
  hierarchy : object.hierarchy = Rh.platform ∨ object.hierarchy = Rh.owner ∨ object.hierarchy = Rh.endorsement
  lasting : object.stateClear = false

-- The persistent objects, each in its half of the range, and no more than there may be.
structure PersistentKept (persistent : SortedMap UInt32 Object) : Prop where
  each : ∀ handle object, persistent.get handle = some object → object.Lasts handle
  size : persistent.size ≤ Config.minEvictObjects

-- No object of a hierarchy is resident, nor of one derived from it.
structure Flushed (hierarchy : UInt32) (objects : ObjectSlots) (persistent : SortedMap UInt32 Object) : Prop where
  transient : ∀ handle object, objects.get handle = some (.object object) →
    ObjectSlots.belongs hierarchy object.hierarchy = false
  lasting : ∀ handle object, persistent.get handle = some object → ObjectSlots.belongs hierarchy object.hierarchy = false

-- The hierarchies that the command with a code empties.
def emptiedBy (code : UInt32) : List UInt32 :=
  if code = Cc.clear then [Rh.owner, Rh.endorsement]
  else if code = Cc.changeEps then [Rh.endorsement]
  else if code = Cc.changePps then [Rh.platform]
  else []

theorem Object.lasts_unlimited (object : Object) (handle : UInt32) (lasts : object.Lasts handle) :
    object.hierarchy ≠ Rh.null ∧ Hierarchies.isLimited object.hierarchy = false := by
  rcases lasts.hierarchy with platform | owner | endorsement
  · rw [platform]
    decide
  · rw [owner]
    decide
  · rw [endorsement]
    decide

-- A hierarchy that may hold persistent objects has none but its own among them.
theorem Object.lasts_belongs (object : Object) (handle hierarchy : UInt32) (lasts : object.Lasts handle)
    (apart : object.hierarchy ≠ hierarchy) : ObjectSlots.belongs hierarchy object.hierarchy = false := by
  have unlimited := (object.lasts_unlimited handle lasts).2
  unfold Hierarchies.isLimited at unlimited
  unfold ObjectSlots.belongs
  rw [Option.isSome_eq_false_iff, Option.isNone_iff_eq_none] at unlimited
  rw [unlimited]
  simp [apart]

theorem flush_hierarchy_gone (slots : ObjectSlots) (hierarchy handle : UInt32) (object : Object)
    (held : (slots.flushHierarchy hierarchy).get handle = some (.object object)) :
    slots.get handle = some (.object object) ∧ ObjectSlots.belongs hierarchy object.hierarchy = false := by
  unfold ObjectSlots.flushHierarchy at held
  rw [SortedMap.get_retain, Option.filter_eq_some_iff] at held
  exact ⟨held.1, by simpa using held.2⟩

namespace PersistentKept

variable (persistent : SortedMap UInt32 Object) (kept : PersistentKept persistent)

theorem empty : PersistentKept SortedMap.empty where
  each handle object held := by
    rw [SortedMap.get_empty] at held
    cases held
  size := Nat.zero_le _

include kept

theorem retain (keep : UInt32 → Object → Bool) : PersistentKept (persistent.retain keep) := by
  refine ⟨fun handle object held => ?_, ?_⟩
  · rw [SortedMap.get_retain] at held
    exact kept.each handle object (Option.filter_eq_some_iff.mp held).1
  · have fewer := persistent.total_retain_le (fun _ => 1) keep
    rw [← SortedMap.size_eq_total, ← SortedMap.size_eq_total] at fewer
    exact fewer.trans kept.size

theorem erase (handle : UInt32) : PersistentKept (persistent.erase handle) := retain persistent kept _

-- What is read back from the file differs in its Qualified Name at most.
theorem restored [Primitives] : PersistentKept (persistent.mapValues fun _ object => restoredObject object) := by
  refine ⟨fun handle object held => ?_, ?_⟩
  · rw [SortedMap.get_map_values] at held
    obtain ⟨before, found, rfl⟩ := Option.map_eq_some_iff.mp held
    obtain ⟨ranged, platform, hierarchy, lasting⟩ := kept.each handle before found
    exact ⟨ranged, platform, hierarchy, lasting⟩
  · unfold SortedMap.size SortedMap.mapValues
    rw [List.length_map]
    exact kept.size

theorem evict (object : Object) (auth handle : UInt32) (after : SortedMap UInt32 Object)
    (ranged : Handles.isPersistent handle = true)
    (half : decide (auth = Rh.platform) = decide (Hc.platformPersistent ≤ handle))
    (evicted : Swtrust.evict object auth handle persistent = .ok after) : PersistentKept after := by
  simp only [Swtrust.evict, guarded_then_is_ok] at evicted
  obtain ⟨_, proper, lasting, free, room, made⟩ := evicted
  rw [pure_is_ok] at made
  subst made
  have lasts : object.Lasts handle := by
    have sides : (auth = Rh.platform) = (Hc.platformPersistent ≤ handle) := by simpa using half
    refine ⟨ranged, ?_, ?_, by simpa using lasting⟩
    · rw [← sides]
      by_cases byPlatform : auth = Rh.platform
      · simpa [byPlatform] using proper
      · have other : object.hierarchy = Rh.owner ∨ object.hierarchy = Rh.endorsement := by
          rw [if_neg byPlatform] at proper
          simpa [or_iff_not_imp_left] using proper
        refine ⟨fun same => absurd same byPlatform, fun same => ?_⟩
        rw [same] at other
        exact absurd other (by decide)
    · by_cases byPlatform : auth = Rh.platform
      · exact .inl (by simpa [byPlatform] using proper)
      · rw [if_neg byPlatform] at proper
        exact .inr (by simpa [or_iff_not_imp_left] using proper)
  have absent : persistent.contains handle = false := by simpa using free
  refine ⟨fun other found held => ?_, ?_⟩
  · rw [SortedMap.get_insert] at held
    split at held
    next same =>
      cases held
      rw [same]
      exact lasts
    next => exact kept.each other found held
  · rw [persistent.size_insert_new handle object absent]
    omega

end PersistentKept

section

variable [Primitives]

-- A step that keeps the persistent objects where they may be.
def KeepsPlaces (s t : TpmState) : Prop := PersistentKept s.persistent → PersistentKept t.persistent

theorem keeps_places_steady : Steady KeepsPlaces := steady_of_invariant fun s : TpmState => PersistentKept s.persistent

theorem keeps_places_of_same (s t : TpmState) (same : t.persistent = s.persistent) : KeepsPlaces s t := fun kept => by
  rw [same]
  exact kept

theorem evict_control_places (s : TpmState) (request : Request) :
    Ensures PersistentKept (evictControl s request) (fun _ => PersistentKept) PersistentKept := by
  refine ensures_keeps_bind id PersistentKept _ _ _ _ (keeps_lift _ _) (fun _ => id) fun auth => ?_
  refine ensures_keeps_bind id PersistentKept _ _ _ _ (keeps_lift _ _) (fun _ => id) fun objectHandle => ?_
  refine ensures_keeps_bind id PersistentKept _ _ _ _ (keeps_lift _ _) (fun _ => id) fun handle => ?_
  refine ensures_guard _ _ _ _ _ _ _ (fun _ => id) fun ranged => ?_
  refine ensures_guard _ _ _ _ _ _ _ (fun _ => id) fun _ => ensures_get_bind _ _ _ _ fun persistent kept => ?_
  have falls : ∀ found, found = persistent → PersistentKept found := fun found same => same ▸ kept
  have ranged : Handles.isPersistent handle = true := by simpa using ranged
  by_cases removing : Handles.isPersistent objectHandle = true
  · simp only [removing, if_true]
    refine ensures_guard _ _ _ _ _ _ _ falls fun _ => ensures_guard _ _ _ _ _ _ _ falls fun _ => ?_
    refine ensures_guard _ _ _ _ _ _ _ falls fun _ => ?_
    intro found _
    exact PersistentKept.erase persistent kept handle
  · simp only [removing]
    refine ensures_guard _ _ _ _ _ _ _ falls fun half => ?_
    refine ensures_lift_bind _ _ persistent _ _ kept fun object _ => ?_
    refine ensures_lift_bind _ _ persistent _ _ kept fun after evicted => ?_
    intro found _
    exact PersistentKept.evict persistent kept object auth handle after ranged (not_not.mp half) evicted

def AdminScope.held (t : AdminScope) : ObjectSlots × SortedMap UInt32 Object := (t.objects, t.persistent)

-- The handlers of the hierarchies that leave the persistent objects alone, and all but the first the loaded ones.
theorem keeps_persistent_hierarchy_control (request : Request) : Keeps (·.persistent) (hierarchyControl request) := by
  have enabled : ∀ handle newState, Keeps (·.persistent) (modify (enableHierarchy handle newState) : AdminM PUnit) :=
    fun handle newState => keeps_modify _ _ fun t => by
      unfold enableHierarchy
      split <;> rfl
  have ended : ∀ action : AdminM PUnit, Keeps (·.persistent) action → Keeps (·.persistent) (do
      action
      return .empty : AdminM Response) := fun action kept => keeps_bind _ _ _ kept fun _ => keeps_pure _ _
  refine keeps_lift_bind _ _ _ fun authHandle => keeps_lift_bind _ _ _ fun parameters => ?_
  refine keeps_ite _ _ _ _ (keeps_bind _ _ _ (keeps_throw _ _) fun _ => ?_) ?_
  all_goals
    refine keeps_ite _ _ _ _ (ended _ (enabled _ _)) (keeps_ite _ _ _ _ ?_ ?_)
    · refine keeps_ite _ _ _ _ (keeps_bind _ _ _ (keeps_throw _ _) fun _ => ended _ (enabled _ _)) ?_
      exact ended _ (enabled _ _)
    · refine keeps_ite _ _ _ _ (ended _ (keeps_modify _ _ fun _ => rfl)) ?_
      exact keeps_bind _ _ _ (keeps_throw _ _) fun _ => keeps_pure _ _

theorem keeps_held_set_primary_policy (request : Request) : Keeps AdminScope.held (setPrimaryPolicy request) := by
  refine keeps_lift_bind _ _ _ fun authHandle => keeps_lift_bind _ _ _ fun parameters => ?_
  refine keeps_lift_bind _ _ _ fun _ => keeps_lift_bind _ _ _ fun value => ?_
  refine keeps_ite _ _ _ _ ?_ (keeps_ite _ _ _ _ ?_ (keeps_ite _ _ _ _ ?_ ?_))
  · exact keeps_bind _ _ _ (keeps_modify _ _ fun _ => rfl) fun _ => keeps_pure _ _
  · refine keeps_bind _ _ _ (keeps_get _) fun t => keeps_lift_bind _ _ _ fun h => ?_
    exact keeps_bind _ _ _ (keeps_modify _ _ fun _ => rfl) fun _ => keeps_pure _ _
  · exact keeps_bind _ _ _ (keeps_modify _ _ fun _ => rfl) fun _ => keeps_pure _ _
  · exact keeps_bind _ _ _ (keeps_throw _ _) fun _ => keeps_pure _ _

theorem keeps_held_clear_control (request : Request) : Keeps AdminScope.held (clearControl request) := by
  refine keeps_lift_bind _ _ _ fun authHandle => keeps_lift_bind _ _ _ fun disable => ?_
  have ended : Keeps AdminScope.held (do
      modify fun t => { t with permanent := t.permanent.setTo PermanentAttributes.disableClear disable }
      return .empty : AdminM Response) := keeps_bind _ _ _ (keeps_modify _ _ fun _ => rfl) fun _ => keeps_pure _ _
  exact keeps_ite _ _ _ _ (keeps_bind _ _ _ (keeps_throw _ _) fun _ => ended) ended

theorem keeps_held_hierarchy_change_auth (request : Request) : Keeps AdminScope.held (hierarchyChangeAuth request) := by
  have noted : ∀ bit : UInt32, Keeps AdminScope.held (do
      modify fun t => { t with permanent := t.permanent.withMask bit }
      return .empty : AdminM Response) := fun bit =>
    keeps_bind _ _ _ (keeps_modify _ _ fun _ => rfl) fun _ => keeps_pure _ _
  refine keeps_lift_bind _ _ _ fun authHandle => keeps_lift_bind _ _ _ fun newAuth => ?_
  have changed : ∀ rest : AdminM Response, Keeps AdminScope.held rest → Keeps AdminScope.held (do
      if authHandle = Rh.lockout then modify fun t => { t with lockoutAuth := newAuth.buffer }
      else if isAdministered authHandle then
        let h ← (← get).hierarchies.get authHandle
        modify fun t => { t with hierarchies := t.hierarchies.set authHandle { h with auth := newAuth.buffer } }
      else throw (Rc.value.withHandle 1)
      rest : AdminM Response) := by
    intro rest ended
    refine keeps_ite _ _ _ _ ?_ (keeps_ite _ _ _ _ ?_ (keeps_bind _ _ _ (keeps_throw _ _) fun _ => ended))
    · exact keeps_bind _ _ _ (keeps_modify _ _ fun _ => rfl) fun _ => ended
    · refine keeps_bind _ _ _ (keeps_get _) fun t => keeps_lift_bind _ _ _ fun h => ?_
      exact keeps_bind _ _ _ (keeps_modify _ _ fun _ => rfl) fun _ => ended
  refine keeps_ite _ _ _ _ (keeps_bind _ _ _ (keeps_throw _ _) fun _ => ?_) ?_
  all_goals
    cases authSetBit authHandle with
    | none => exact changed _ (keeps_pure _ _)
    | some bit => exact changed _ (noted bit)

theorem keeps_held_pp_commands (request : Request) : Keeps AdminScope.held (ppCommands request) := by
  refine keeps_lift_bind _ _ _ fun lists => ?_
  exact keeps_bind _ _ _ (keeps_modify _ _ fun _ => rfl) fun _ => keeps_pure _ _

theorem keeps_held_set_algorithm_set (request : Request) : Keeps AdminScope.held (setAlgorithmSet request) := by
  refine keeps_lift_bind _ _ _ fun algorithmSet => ?_
  have ended : Keeps AdminScope.held (do
      modify fun t => { t with algorithmSet }
      return .empty : AdminM Response) := keeps_bind _ _ _ (keeps_modify _ _ fun _ => rfl) fun _ => keeps_pure _ _
  exact keeps_ite _ _ _ _ (keeps_bind _ _ _ (keeps_throw _ _) fun _ => ended) ended

theorem change_pps_flushes (request : Request) :
    Ensures (fun t : AdminScope => PersistentKept t.persistent) (changePps request)
      (fun _ t => PersistentKept t.persistent ∧ Flushed Rh.platform t.objects t.persistent)
      (fun t => PersistentKept t.persistent) := by
  refine ensures_keeps_bind (fun t : AdminScope => t.persistent) PersistentKept _ _ _ _
    (keeps_zoom _ _ _ _ fun _ _ => rfl) (fun _ => id) fun _ => ?_
  refine ensures_bind _ _ _ (fun _ t => PersistentKept t.persistent ∧ Flushed Rh.platform t.objects t.persistent) _ _ ?_
    fun _ => ensures_pure _ _ _ _ fun _ => id
  refine ensures_modify _ _ _ _ fun t kept => ⟨?_, ?_, ?_⟩
  · exact PersistentKept.retain t.persistent kept fun handle _ => decide (handle < Hc.platformPersistent)
  · exact fun handle object held => (flush_hierarchy_gone t.objects Rh.platform handle object held).2
  · intro handle object held
    dsimp only at held
    rw [SortedMap.get_retain, Option.filter_eq_some_iff] at held
    have lasts := kept.each handle object held.1
    have below : ¬ Hc.platformPersistent ≤ handle := UInt32.not_le.mpr (by simpa using held.2)
    exact object.lasts_belongs handle Rh.platform lasts fun platform => below (lasts.platform.mpr platform)

theorem change_eps_flushes (request : Request) :
    Ensures (fun t : AdminScope => PersistentKept t.persistent) (changeEps request)
      (fun _ t => PersistentKept t.persistent ∧ Flushed Rh.endorsement t.objects t.persistent)
      (fun t => PersistentKept t.persistent) := by
  refine ensures_keeps_bind (fun t : AdminScope => t.persistent) PersistentKept _ _ _ _
    (keeps_zoom _ _ _ _ fun _ _ => rfl) (fun _ => id) fun _ => ?_
  refine ensures_bind _ _ _ (fun _ t => PersistentKept t.persistent ∧ Flushed Rh.endorsement t.objects t.persistent) _ _ ?_
    fun _ => ensures_pure _ _ _ _ fun _ => id
  refine ensures_modify _ _ _ _ fun t kept => ⟨?_, ?_, ?_⟩
  · exact PersistentKept.retain t.persistent kept fun _ object => object.hierarchy != Rh.endorsement
  · exact fun handle object held => (flush_hierarchy_gone t.objects Rh.endorsement handle object held).2
  · intro handle object held
    dsimp only at held
    rw [SortedMap.get_retain, Option.filter_eq_some_iff] at held
    exact object.lasts_belongs handle Rh.endorsement (kept.each handle object held.1) (by simpa using held.2)

-- TPM2_Clear leaves persistent objects of the platform only.
theorem clear_flushes (request : Request) :
    Ensures (fun s : TpmState => PersistentKept s.persistent) (clear request)
      (fun _ s => PersistentKept s.persistent ∧
        ∀ hierarchy ∈ ([Rh.owner, Rh.endorsement] : List UInt32), Flushed hierarchy s.objects s.persistent)
      (fun s => PersistentKept s.persistent) := by
  have cleared : ∀ s : TpmState, PersistentKept s.persistent →
      ∀ hierarchy ∈ ([Rh.owner, Rh.endorsement] : List UInt32),
        Flushed hierarchy ((ObjectSlots.flushHierarchy s.objects Rh.owner).flushHierarchy Rh.endorsement)
          (s.persistent.retain fun handle _ => decide (Hc.platformPersistent ≤ handle)) := by
    intro s kept hierarchy listed
    refine ⟨fun handle object held => ?_, fun handle object held => ?_⟩
    · obtain ⟨before, endorsement⟩ := flush_hierarchy_gone _ _ _ _ held
      have owner := (flush_hierarchy_gone _ _ _ _ before).2
      simp only [List.mem_cons, List.not_mem_nil, or_false] at listed
      rcases listed with rfl | rfl
      · exact owner
      · exact endorsement
    · rw [SortedMap.get_retain, Option.filter_eq_some_iff] at held
      have lasts := kept.each handle object held.1
      refine object.lasts_belongs handle hierarchy lasts ?_
      rw [lasts.platform.mp (of_decide_eq_true held.2)]
      rintro rfl
      exact absurd listed (by decide)
  have falls : ∀ s : TpmState, PersistentKept s.persistent → PersistentKept s.persistent := fun _ => id
  unfold clear
  refine ensures_keeps_bind (fun s : TpmState => s.persistent) PersistentKept _ _ _ _ (keeps_get _) falls fun s => ?_
  refine ensures_guard _ _ _ _ _ _ _ falls fun _ => ?_
  refine ensures_bind _ _ _ (fun _ s => PersistentKept s.persistent ∧
    ∀ hierarchy ∈ ([Rh.owner, Rh.endorsement] : List UInt32), Flushed hierarchy s.objects s.persistent) _ _ ?_ fun _ => ?_
  · unfold onClear
    refine ensures_keeps_bind (fun s : TpmState => s.persistent) PersistentKept _ _ _ _
      (keeps_zoom _ _ _ _ fun _ _ => rfl) falls fun _ => ?_
    refine ensures_modify _ _ _ _ fun s kept => ⟨?_, cleared s kept⟩
    exact PersistentKept.retain s.persistent kept fun handle _ => decide (Hc.platformPersistent ≤ handle)
  · refine ensures_bind _ _ _ (fun _ s => PersistentKept s.persistent ∧
      ∀ hierarchy ∈ ([Rh.owner, Rh.endorsement] : List UInt32), Flushed hierarchy s.objects s.persistent) _ _ ?_
      fun _ => ensures_pure _ _ _ _ fun _ => id
    exact ensures_modify _ _ _ _ fun _ => id

-- The handlers that may touch the persistent objects.
def persistentCommands : List UInt32 := [Cc.startup, Cc.shutdown, Cc.clear, Cc.evictControl, Cc.changePps, Cc.changeEps,
  Cc.hierarchyControl, Cc.setPrimaryPolicy, Cc.clearControl, Cc.hierarchyChangeAuth, Cc.ppCommands, Cc.setAlgorithmSet]

theorem handlers_spare_persistent : (handlers.all fun row =>
    !([.persistent, .admin, .whole] : List Scope).contains row.2.scope || persistentCommands.contains row.1) = true := by
  rfl

theorem scopes_spare_persistent {α : Type} (scope : Scope) (action : Action TpmRc scope.State α)
    (spared : (!([.persistent, .admin, .whole] : List Scope).contains scope) = true) :
    Guarantees KeepsPlaces (scope.zoom action) := by
  cases scope with
  | persistent => exact absurd spared (by decide)
  | admin => exact absurd spared (by decide)
  | whole => exact absurd spared (by decide)
  | _ => exact guarantees_zoom _ _ _ action fun s => keeps_places_of_same _ _ rfl

theorem preserves_of_ensures {σ α : Type} (holds : σ → Prop) (action : Action TpmRc σ α) (post : α → σ → Prop)
    (ensured : Ensures holds action post holds) (implied : ∀ a s, post a s → holds s) :
    Guarantees (fun s t => holds s → holds t) action := by
  intro s start
  rcases ensures_final _ _ _ _ s ensured start with ⟨a, ended⟩ | ended
  · exact implied a _ ended
  · exact ended

theorem run_command_places (request : Request) : Guarantees KeepsPlaces (runCommand request) := by
  have administered : ∀ run : Request → AdminM Response,
      Guarantees (fun s t => PersistentKept s.persistent → PersistentKept t.persistent) (run request) →
      Guarantees KeepsPlaces ((Handler.plain .admin fun _ request => run request).run request) := by
    intro run ensured s
    exact guarantees_map KeepsPlaces _ _ (guarantees_zoom KeepsPlaces TpmState.admin (fun t s => s.putAdmin t)
      (run request) fun s => ensured s.admin) s
  have spared : ∀ run : Request → AdminM Response, Keeps (·.persistent) (run request) →
      Guarantees KeepsPlaces ((Handler.plain .admin fun _ request => run request).run request) := by
    intro run kept
    refine administered run fun t holds => ?_
    rw [show (final (run request t)).persistent = t.persistent from kept t]
    exact holds
  refine guarantees_run_listed _ keeps_places_steady.refl _ persistentCommands handlers_spare_persistent
    scopes_spare_persistent request fun listed => ?_
  simp only [persistentCommands, List.mem_cons, List.not_mem_nil, or_false] at listed
  rcases listed with code | code | code | code | code | code | code | code | code | code | code | code
  · rw [run_command_of request (.plain .whole fun _ request => startup request) (by rw [code]; rfl)]
    exact fun s => guarantees_map _ _ _ (guarantees_startup _ ⟨keeps_places_steady,
      fun _ => keeps_places_of_same _ _ rfl, fun _ _ _ _ _ _ _ _ _ _ _ _ _ _ _ _ => keeps_places_of_same _ _ rfl,
      fun _ _ _ => keeps_places_of_same _ _ rfl⟩ request) s
  · rw [run_command_of request (.plain .whole fun _ request => shutdown request) (by rw [code]; rfl)]
    exact fun s => guarantees_map _ _ _ (guarantees_shutdown _ keeps_places_steady
      (fun _ _ _ _ => keeps_places_of_same _ _ rfl) request) s
  · rw [run_command_of request (.plain .whole fun _ request => clear request) (by rw [code]; rfl)]
    exact fun s => guarantees_map _ _ _ (preserves_of_ensures _ _ _ (clear_flushes request) fun _ _ ended => ended.1) s
  · rw [run_command_of request (.plain .persistent evictControl) (by rw [code]; rfl)]
    intro s
    refine guarantees_map KeepsPlaces _ (Scope.zoom .persistent (evictControl s request))
      (guarantees_zoom KeepsPlaces _ _ _ fun t => ?_) s
    exact preserves_of_ensures _ _ _ (evict_control_places s request) (fun _ _ => id) t.persistent
  · rw [run_command_of request (.plain .admin fun _ request => changePps request) (by rw [code]; rfl)]
    exact administered changePps (preserves_of_ensures _ _ _ (change_pps_flushes request) fun _ _ ended => ended.1)
  · rw [run_command_of request (.plain .admin fun _ request => changeEps request) (by rw [code]; rfl)]
    exact administered changeEps (preserves_of_ensures _ _ _ (change_eps_flushes request) fun _ _ ended => ended.1)
  · rw [run_command_of request (.plain .admin fun _ request => hierarchyControl request) (by rw [code]; rfl)]
    exact spared hierarchyControl (keeps_persistent_hierarchy_control request)
  · rw [run_command_of request (.plain .admin fun _ request => setPrimaryPolicy request) (by rw [code]; rfl)]
    exact spared setPrimaryPolicy fun t => congrArg Prod.snd (keeps_held_set_primary_policy request t)
  · rw [run_command_of request (.plain .admin fun _ request => clearControl request) (by rw [code]; rfl)]
    exact spared clearControl fun t => congrArg Prod.snd (keeps_held_clear_control request t)
  · rw [run_command_of request (.plain .admin fun _ request => hierarchyChangeAuth request) (by rw [code]; rfl)]
    exact spared hierarchyChangeAuth fun t => congrArg Prod.snd (keeps_held_hierarchy_change_auth request t)
  · rw [run_command_of request (.plain .admin fun _ request => ppCommands request) (by rw [code]; rfl)]
    exact spared ppCommands fun t => congrArg Prod.snd (keeps_held_pp_commands request t)
  · rw [run_command_of request (.plain .admin fun _ request => setAlgorithmSet request) (by rw [code]; rfl)]
    exact spared setAlgorithmSet fun t => congrArg Prod.snd (keeps_held_set_algorithm_set request t)

namespace TpmState

theorem keeps_places_undisturbed : Undisturbed KeepsPlaces where
  steady := keeps_places_steady
  nullified request s := by
    unfold nullifyShutdown
    split
    · exact keeps_places_of_same _ _ rfl
    · exact keeps_places_steady.refl s
  authorized request names count index :=
    guarantees_authorize_from _ (fun _ _ _ => keeps_places_of_same _ _ rfl) request names count index
  suppressed _ _ := keeps_places_of_same _ _ rfl
  failed _ := keeps_places_of_same _ _ rfl
  responded request reply names contexts parameters :=
    guarantees_respond_of_view (fun s => s.persistent) _ keeps_places_of_same request
      ⟨fun _ _ => rfl, fun _ _ => rfl, fun _ _ => rfl, fun _ _ _ _ => rfl, fun _ _ _ => rfl⟩ reply names contexts
      parameters

theorem run_places (s : TpmState) (locality : UInt8) (octets : Bytes) (kept : PersistentKept s.persistent) :
    PersistentKept (s.run locality octets).2.persistent :=
  run_guarantees _ keeps_places_undisturbed s locality octets (fun _ _ _ => run_command_places _) kept

theorem places_hold : Tpm.Invariant fun s => PersistentKept s.persistent where
  ran s locality octets := s.run_places locality octets
  changed _ _ _ _ _ _ _ _ _ _ _ _ _ _ _ _ := id
  flushed _ := id
  restored _ saved kept := PersistentKept.restored saved.persistent kept

theorem run_command_flushes (request : Request) (s t : TpmState) (reply : Reply) (kept : PersistentKept s.persistent)
    (ran : Succeeds (runCommand request) s reply t) :
    ∀ hierarchy ∈ emptiedBy request.code, Flushed hierarchy t.objects t.persistent := by
  have administered : ∀ (run : Request → AdminM Response) hierarchy,
      Ensures (fun t : AdminScope => PersistentKept t.persistent) (run request)
        (fun _ t => PersistentKept t.persistent ∧ Flushed hierarchy t.objects t.persistent)
        (fun t => PersistentKept t.persistent) →
      Succeeds ((Handler.plain .admin fun _ request => run request).run request) s reply t →
      Flushed hierarchy t.objects t.persistent := by
    intro run hierarchy ensured ran
    have ended := ensured s.admin kept
    unfold Succeeds at ran
    change (Response.reply <$> zoomAdmin (run request) : TpmM Reply) s = .ok reply t at ran
    simp only [Functor.map, EStateM.map, zoomAdmin, Action.zoom] at ran
    cases answered : run request s.admin with
    | ok response u =>
        rw [answered] at ran ended
        cases ran
        exact ended.2
    | error e u =>
        rw [answered] at ran
        cases ran
  intro hierarchy listed
  unfold emptiedBy at listed
  by_cases code : request.code = Cc.clear
  · rw [if_pos code] at listed
    rw [run_command_of request (.plain .whole fun _ request => clear request) (by rw [code]; rfl)] at ran
    have ended := clear_flushes request s kept
    unfold Succeeds at ran
    change (Response.reply <$> clear request : TpmM Reply) s = .ok reply t at ran
    simp only [Functor.map, EStateM.map] at ran
    cases answered : clear request s with
    | ok response u =>
        rw [answered] at ran ended
        cases ran
        exact ended.2 hierarchy listed
    | error e u =>
        rw [answered] at ran
        cases ran
  rw [if_neg code] at listed
  by_cases code : request.code = Cc.changeEps
  · rw [if_pos code, List.mem_singleton] at listed
    rw [run_command_of request (.plain .admin fun _ request => changeEps request) (by rw [code]; rfl)] at ran
    rw [listed]
    exact administered changeEps Rh.endorsement (change_eps_flushes request) ran
  rw [if_neg code] at listed
  by_cases code : request.code = Cc.changePps
  · rw [if_pos code, List.mem_singleton] at listed
    rw [run_command_of request (.plain .admin fun _ request => changePps request) (by rw [code]; rfl)] at ran
    rw [listed]
    exact administered changePps Rh.platform (change_pps_flushes request) ran
  rw [if_neg code] at listed
  cases listed

theorem emptying_not_flushed (code hierarchy : UInt32) (info : CommandInfo) (listed : Table.lookup code = some info)
    (emptied : hierarchy ∈ emptiedBy code) : info.flushed = false := by
  have each : (([Cc.clear, Cc.changeEps, Cc.changePps] : List UInt32).all fun code =>
      (Table.lookup code).map (·.flushed) == some false) = true := by decide +kernel
  have member : code ∈ ([Cc.clear, Cc.changeEps, Cc.changePps] : List UInt32) := by
    unfold emptiedBy at emptied
    split at emptied
    next same => simp [same]
    next =>
      split at emptied
      next same => simp [same]
      next =>
        split at emptied
        next same => simp [same]
        next => cases emptied
  have found := beq_iff_eq.mp (List.all_eq_true.mp each code member)
  rw [listed] at found
  exact Option.some.inj found

-- A command that succeeds leaves none of the objects that it is to flush.
theorem execute_flushes (s s' : TpmState) (locality : UInt8) (octets : Bytes) (executed : Executed)
    (kept : PersistentKept s.persistent) (ran : execute locality octets s = .ok executed s') :
    ∀ hierarchy ∈ emptiedBy executed.request.code, Flushed hierarchy s'.objects s'.persistent := by
  obtain ⟨request, parsed, succeeded⟩ := request_of_execute s s' locality octets executed ran
  obtain ⟨execution⟩ := execution_of_succeeds request s s' executed succeeded
  obtain ⟨parameters, same⟩ := execution.request_changes
  have authorized : PersistentKept execution.authorized.persistent := by
    obtain ⟨lockout, nv, changed⟩ := execution.authorized_changes
    rw [changed]
    exact keeps_places_undisturbed.nullified request s kept
  intro hierarchy emptied
  have flushed := run_command_flushes executed.request _ execution.handled executed.reply
    (by exact authorized) execution.running hierarchy emptied
  have unflushed : executed.request.info.flushed = false := by
    have listed := (parsed_handles octets locality request parsed).1
    rw [same] at emptied ⊢
    exact emptying_not_flushed request.code hierarchy request.info listed emptied
  have answered : Keeps (fun s : TpmState => (s.objects, s.persistent)) (respond executed.request executed.reply
      execution.names execution.contexts request.parameters) :=
    keeps_answer ⟨fun _ _ => rfl, fun _ _ _ _ => rfl, fun _ _ _ _ => rfl, fun _ _ _ => rfl⟩
      (fun s => by unfold flushIfNeeded; rw [unflushed]; rfl) _ _ _ _
  have ended := keeps_succeeds _ _ _ _ _ answered execution.responding
  rw [Prod.mk.injEq] at ended
  rw [ended.1, ended.2]
  exact flushed

end TpmState

-- After any run the persistent objects, in memory and in the file, lie where their hierarchies may have them; and a
-- TPM2_Clear, TPM2_ChangeEPS or TPM2_ChangePPS that succeeds leaves no object of the hierarchies it empties.
theorem persistent_objects_kept (s : TpmState) (empty : s.persistent = SortedMap.empty) (signals : List Signal)
    (t : Tpm) (reached : (Tpm.manufactured s).afterAll signals = t) :
    (∀ persistent, persistent = t.state.persistent ∨ persistent = t.store.persistent →
      persistent.size ≤ Config.minEvictObjects ∧ ∀ handle object, persistent.get handle = some object →
        object.Lasts handle ∧ object.hierarchy ≠ Rh.null ∧ Hierarchies.isLimited object.hierarchy = false) ∧
    ∀ elapsed written locality octets executed s', t.powered = true →
      TpmState.execute locality octets (t.arrive elapsed).2 = .ok executed s' →
      ∀ hierarchy ∈ emptiedBy executed.request.code,
        Flushed hierarchy (t.after (.execute elapsed written locality octets)).state.objects
          (t.after (.execute elapsed written locality octets)).state.persistent := by
  have start : PersistentKept s.persistent := by
    rw [empty]
    exact PersistentKept.empty
  have kept : t.InBoth fun s => PersistentKept s.persistent :=
    reached ▸ Tpm.run_invariant _ TpmState.places_hold s start signals
  refine ⟨fun persistent placed => ?_, fun elapsed written locality octets executed s' powered ran hierarchy emptied => ?_⟩
  · have each : PersistentKept persistent := by
      rcases placed with rfl | rfl
      · exact kept.state
      · exact kept.store
    refine ⟨each.size, fun handle object held => ?_⟩
    have lasts := each.each handle object held
    exact ⟨lasts, object.lasts_unlimited handle lasts⟩
  · have arrived : PersistentKept (t.arrive elapsed).2.persistent :=
      Tpm.arrive_holds _ TpmState.places_hold t elapsed kept.state
    have flushed := TpmState.execute_flushes _ s' locality octets executed arrived ran hierarchy emptied
    have after : (t.ran elapsed locality octets).2 = s' := by
      unfold Tpm.ran TpmState.run
      rw [ran]
    have ended := t.execute_executes elapsed written locality octets powered
    change Flushed hierarchy (t.execute elapsed written locality octets).2.state.objects
      (t.execute elapsed written locality octets).2.state.persistent
    generalize t.execute elapsed written locality octets = result at ended ⊢
    rw [← after] at flushed
    cases ended with
    | saved healthy writes => exact flushed
    | closed refused writes => exact flushed
    | clockLost refused plain same rolled => exact flushed
    | unsaved plain same still => exact flushed

end

namespace Toy

def createSealed (hierarchy : UInt32) : Bytes :=
  authorizedCommand Cc.createPrimary [hierarchy] [(Rh.rsPw, [])]
    (sized16 (sized16 [] ++ sized16 [1, 2, 3]) ++ sized16 (sealedArea []).marshal ++ sized16 [] ++ be32 0)

def evictSealed (auth handle : UInt32) : Bytes :=
  authorizedCommand Cc.evictControl [auth, Hc.transientFirst] [(Rh.rsPw, [])] (be32 handle)

-- The owner's object is persistent until TPM2_Clear.
theorem cleared_objects_gone : ∃ s t executed s', (s : TpmState).persistent = SortedMap.empty ∧
    (Tpm.manufactured s).afterAll (startedWith [createSealed Rh.owner, evictSealed Rh.owner Hc.persistentFirst]) = t ∧
    t.powered = true ∧ t.state.persistent.contains Hc.persistentFirst = true ∧
    TpmState.execute 0 (authorizedCommand Cc.clear [Rh.lockout] [(Rh.rsPw, [])] []) (t.arrive 0).2 = .ok executed s' ∧
    executed.request.code = Cc.clear ∧ t.state.persistent.size ≤ Config.minEvictObjects ∧
    Flushed Rh.owner (t.after (.execute 0 true 0 (authorizedCommand Cc.clear [Rh.lockout] [(Rh.rsPw, [])] []))).state.objects
      (t.after (.execute 0 true 0 (authorizedCommand Cc.clear [Rh.lockout] [(Rh.rsPw, [])] []))).state.persistent := by
  have tested : found (TpmState.manufacture (List.replicate 48 7)) (fun s =>
      let t := (Tpm.manufactured s).afterAll
        (startedWith [createSealed Rh.owner, evictSealed Rh.owner Hc.persistentFirst])
      decide (s.persistent = SortedMap.empty) && t.powered && t.state.persistent.contains Hc.persistentFirst &&
        endsWith (TpmState.execute 0 (authorizedCommand Cc.clear [Rh.lockout] [(Rh.rsPw, [])] [])) (t.arrive 0).2
          fun executed _ => executed.request.code == Cc.clear) = true := by
    rw [manufacture_made]
    decide +kernel
  obtain ⟨s, _, tested⟩ := ok_of_found _ _ tested
  simp only [Bool.and_eq_true, decide_eq_true_eq] at tested
  obtain ⟨⟨⟨empty, powered⟩, held⟩, ran⟩ := tested
  generalize reached : (Tpm.manufactured s).afterAll
    (startedWith [createSealed Rh.owner, evictSealed Rh.owner Hc.persistentFirst]) = t at powered held ran
  obtain ⟨executed, s', succeeded, coded⟩ := succeeds_of_ends_with _ _ _ ran
  have code : executed.request.code = Cc.clear := beq_iff_eq.mp coded
  obtain ⟨placed, flushed⟩ := persistent_objects_kept s empty _ t reached
  refine ⟨s, t, executed, s', empty, reached, powered, held, succeeded, code, (placed _ (.inl rfl)).1, ?_⟩
  exact flushed 0 true 0 _ executed s' powered succeeded Rh.owner (by rw [code]; decide)

end Toy

end Swtrust
