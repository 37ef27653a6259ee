import Swtrust.Commands.Reading
import Swtrust.Commands.Run
import Swtrust.Library.Guarantee
import Swtrust.Object.Slots
import Swtrust.Structures.ReadBack

set_option autoImplicit false
set_option linter.unusedSectionVars false

-- What is loaded into a slot passes the checks that a context of it is loaded with.

namespace Swtrust

open Library Action

section

variable {α : Type}

theorem yields_with_parameter (index : Nat) (reader : Reader α) (good : α → Prop) (each : Yields reader good) :
    Yields (reader.withParameter index) good := fun input value rest ran =>
  each input value rest ((with_parameter_is_ok index reader input (value, rest)).mp ran)

theorem yields_sized16 (reader : Reader α) (good : α → Prop) (each : Yields reader good) : Yields reader.sized16 good :=
  yields_bind _ _ _ fun _ => yields_within _ _ _ _ _ each

theorem yields_option (reader : Reader α) (good : α → Prop) (each : Yields reader good) :
    Yields (readOption reader) fun held => ∀ value, held = some value → good value := by
  refine yields_bind _ _ _ fun present => yields_ite _ _ _ _ (fun _ => ?_) fun _ => ?_
  · refine yields_bind_known _ _ good _ each fun value holds => yields_pure _ _ ?_
    rintro _ ⟨⟩
    exact holds
  · exact yields_pure _ _ fun value held => by cases held

theorem yields_from_bytes (reader : Reader α) (good : α → Prop) (each : Yields reader good) (octets : Bytes) (value : α)
    (read : reader.fromBytes octets = .ok value) : good value := by
  unfold Reader.fromBytes at read
  split at read
  · cases read
  next made ran =>
    cases read
    exact each octets value [] ran
  · cases read

theorem yields_prefix (reader : Reader α) (good : α → Prop) (each : Yields reader good) (octets : Bytes) (value : α)
    (read : reader.prefixOf octets = .ok value) : good value := by
  unfold Reader.prefixOf at read
  obtain ⟨⟨made, rest⟩, ran, rfl⟩ := (map_is_ok _ _ _).mp read
  exact each octets made rest ran

end

section

variable [Primitives]

theorem public_legible : Yields TpmtPublic.unmarshal (Legible TpmtPublic.unmarshal TpmtPublic.marshal) :=
  yields_legible _ _ (reads_back _ _ (canonical_public false) (steady_public false))

theorem sensitive_legible : Yields TpmtSensitive.unmarshal (Legible TpmtSensitive.unmarshal TpmtSensitive.marshal) :=
  yields_legible _ _ (reads_back _ _ canonical_sensitive steady_sensitive)

-- An object whose areas are in the form they are read in, and bound to each other, and whose Name is that of its area.
structure Object.Sound (object : Object) : Prop where
  area : Legible TpmtPublic.unmarshal TpmtPublic.marshal object.area
  sensitive : ∀ sensitive, object.sensitive = some sensitive →
    Legible TpmtSensitive.unmarshal TpmtSensitive.marshal sensitive
  valid : validateRestored object.area object.sensitive = .ok ()
  name : objectName object.area = .ok object.name

-- The TPM itself makes objects without a name algorithm, whose parts a load would find no hash to compare with.
def Slot.Sound : Slot → Prop
  | .object o => o.area.nameAlg ≠ Alg.null → o.Sound
  | .sequence _ => True

theorem inherit_sound (object : Object) (stateClear : Bool) (sound : (Slot.object object).Sound) :
    (Slot.object (object.inherit stateClear)).Sound := fun hashed =>
  have held := sound hashed
  ⟨held.area, held.sensitive, held.valid, held.name⟩

-- Every slot was there before, or is sound.
def Placed (before after : ObjectSlots) : Prop :=
  ∀ handle slot, after.get handle = some slot → before.get handle = some slot ∨ slot.Sound

theorem placed_put (slots : ObjectSlots) (slot : Slot) (handle : UInt32) (sound : slot.Sound) :
    Placed slots (slots.insert handle slot) := by
  intro other held found
  rw [SortedMap.get_insert] at found
  split at found
  · obtain rfl := Option.some.inj found
    exact .inr sound
  · exact .inl found

theorem placed_insert (slots objects : ObjectSlots) (slot : Slot) (handle : UInt32) (sound : slot.Sound)
    (inserted : slots.insertSlot slot = .ok (handle, objects)) : Placed slots objects := by
  rw [ObjectSlots.insert_slot_put slots objects slot handle inserted]
  exact placed_put slots slot handle sound

theorem placed_retain (slots : ObjectSlots) (keep : UInt32 → Slot → Bool) : Placed slots (slots.retain keep) := by
  intro handle slot found
  rw [SortedMap.get_retain, Option.filter_eq_some_iff] at found
  exact .inl found.1

theorem placed_steady {σ : Type} (view : σ → ObjectSlots) : Steady fun s t => Placed (view s) (view t) where
  refl _ _ _ held := .inl held
  trans _ _ _ first second handle slot held := (second handle slot held).elim (first handle slot) .inr

def WorkPlaces (w w' : Work) : Prop := Placed w.objects w'.objects

def ContextPlaces (t t' : ContextScope) : Prop := Placed t.objects t'.objects

theorem work_places_steady : Steady WorkPlaces := placed_steady fun w : Work => w.objects

theorem context_places_steady : Steady ContextPlaces := placed_steady fun t : ContextScope => t.objects

theorem work_places_insert (slot : Slot) (sound : slot.Sound) : Guarantees WorkPlaces (Work.insert slot) := by
  intro w
  unfold Work.insert
  rw [run_get_bind, run_lift_bind]
  cases inserted : w.objects.insertSlot slot with
  | error e => exact work_places_steady.refl w
  | ok pair => exact placed_insert w.objects pair.2 slot pair.1 sound inserted

theorem context_places_restore (slot : Slot) (sound : slot.Sound) : Guarantees ContextPlaces (restoreSlot slot) := by
  intro t
  unfold restoreSlot
  rw [run_get_bind, run_lift_bind]
  cases inserted : t.objects.insertSlot slot with
  | error e => exact context_places_steady.refl t
  | ok pair => exact placed_insert t.objects pair.2 slot pair.1 sound inserted

theorem object_named (area : TpmtPublic) (sensitive : Option TpmtSensitive) (hierarchy : UInt32) (parent : Bytes)
    (tpmGenerated : Bool) (object : Object) (made : Object.new area sensitive hierarchy parent tpmGenerated = .ok object) :
    object.area = area ∧ object.sensitive = sensitive ∧ objectName area = .ok object.name := by
  unfold Object.new at made
  obtain ⟨name, named, made⟩ := (bind_is_ok _ _ _).mp made
  obtain ⟨_, _, made⟩ := (bind_is_ok _ _ _).mp made
  cases made
  exact ⟨rfl, rfl, named⟩

theorem valid_of_checks (area : TpmtPublic) (sensitive : Option TpmtSensitive) (loaded : validateLoadedPublic area = .ok ())
    (bound : ∀ held, sensitive = some held → checkBinding area held = .ok ()) : validateRestored area sensitive = .ok () := by
  unfold validateRestored
  rw [loaded]
  cases sensitive with
  | none => rfl
  | some held => exact bound held rfl

section

variable (s : TpmState) (request : Request)

-- What TPM2_Load puts into a slot was read from its two parts, and passed the checks of an object with both.
theorem load_places : Guarantees WorkPlaces (load s request) := by
  have steady := work_places_steady
  refine guarantees_lift_bind steady.refl _ _ fun parentHandle _ => ?_
  refine guarantees_lift_bind steady.refl _ _ fun parts read => ?_
  have area : Legible TpmtPublic.unmarshal TpmtPublic.marshal parts.2 := by
    refine yields_bind _ _ (fun parts : Bytes × TpmtPublic => Legible TpmtPublic.unmarshal TpmtPublic.marshal parts.2)
      (fun wrapped => ?_) _ _ _ ((params_is_ok _ _ _).mp read)
    refine yields_bind_known _ _ _ _ (yields_with_parameter 2 _ _ (yields_sized16 _ _ public_legible)) fun area legible => ?_
    exact yields_pure _ _ legible
  refine guarantees_guard steady.refl _ _ _ _ fun _ => ?_
  refine guarantees_lift_bind steady.refl _ _ fun parent _ => guarantees_lift_bind steady.refl _ _ fun _ loaded => ?_
  refine guarantees_lift_bind steady.refl _ _ fun _ _ => guarantees_lift_bind steady.refl _ _ fun name _ => ?_
  refine guarantees_lift_bind steady.refl _ _ fun plain _ => guarantees_lift_bind steady.refl _ _ fun sensitive given => ?_
  refine guarantees_lift_bind steady.refl _ _ fun _ bound => guarantees_lift_bind steady.refl _ _ fun object made => ?_
  obtain ⟨areaSame, sensitiveSame, named⟩ := object_named _ _ _ _ _ object made
  have sound : (Slot.object object).Sound := fun _ => by
    refine ⟨areaSame ▸ area, ?_, ?_, areaSame ▸ named⟩
    · rw [sensitiveSame]
      rintro _ ⟨⟩
      exact yields_from_bytes _ _ sensitive_legible plain sensitive ((map_error_is_ok _ _ _).mp given)
    · rw [areaSame, sensitiveSame]
      refine valid_of_checks _ _ ((map_error_is_ok _ _ _).mp loaded) ?_
      rintro _ ⟨⟩
      exact (map_error_is_ok _ _ _).mp bound
  refine guarantees_bind steady _ _ (work_places_insert _ (inherit_sound object _ sound)) fun handle => ?_
  exact guarantees_lift_bind steady.refl _ _ fun _ _ => guarantees_pure steady.refl _

theorem external_sensitive_legible : Yields unmarshalExternalSensitive fun held => ∀ sensitive, held = some sensitive →
    Legible TpmtSensitive.unmarshal TpmtSensitive.marshal sensitive := by
  refine yields_bind _ _ _ fun size => yields_ite _ _ _ _ (fun _ => yields_pure _ _ fun _ held => by cases held) fun _ => ?_
  rw [map_eq_pure_bind]
  refine yields_bind_known _ _ _ _ (yields_within _ _ _ _ _ sensitive_legible) fun sensitive legible => yields_pure _ _ ?_
  rintro _ ⟨⟩
  exact legible

theorem load_external_places : Guarantees WorkPlaces (loadExternal s request) := by
  have steady := work_places_steady
  refine guarantees_lift_bind steady.refl _ _ fun parts read => ?_
  have legible : (∀ sensitive, parts.1 = some sensitive → Legible TpmtSensitive.unmarshal TpmtSensitive.marshal sensitive) ∧
      Legible TpmtPublic.unmarshal TpmtPublic.marshal parts.2.1 := by
    refine yields_bind_known _ _ _ (fun parts : Option TpmtSensitive × TpmtPublic × UInt32 =>
      (∀ sensitive, parts.1 = some sensitive → Legible TpmtSensitive.unmarshal TpmtSensitive.marshal sensitive) ∧
        Legible TpmtPublic.unmarshal TpmtPublic.marshal parts.2.1)
      (yields_with_parameter 1 _ _ external_sensitive_legible) (fun sensitive private' => ?_) _ _ _
      ((params_is_ok _ _ _).mp read)
    refine yields_bind_known _ _ _ _ (yields_with_parameter 2 _ _ (yields_sized16 _ _ public_legible)) fun area public' => ?_
    exact yields_bind _ _ _ fun _ => yields_pure _ _ ⟨private', public'⟩
  refine guarantees_lift_bind steady.refl _ _ fun _ loaded => guarantees_lift_bind steady.refl _ _ fun _ _ => ?_
  -- With or without a private part, the rest of the command is the same.
  have rest : (∀ held, parts.1 = some held → checkBinding parts.2.1 held = .ok ()) →
      Guarantees WorkPlaces (do
        if !Hierarchies.isHierarchy parts.2.2 ∧ !Hierarchies.isLimited parts.2.2 then throw (Rc.hierarchy.withParameter 3)
        if !Hierarchies.limitedSecretAvailable parts.2.2 then throw (Rc.svnLimited.withParameter 3)
        if !s.hierarchies.isEnabled parts.2.2 then throw (Rc.hierarchy.withParameter 3)
        let object ← Object.new parts.2.1 parts.1 parts.2.2 (handleName parts.2.2) false
        let handle ← Work.insert (.object object)
        return Response.withHandle handle (← nameOctets object.name) : Action TpmRc Work Response) := by
    intro bound
    iterate 3 refine guarantees_guard steady.refl _ _ _ _ fun _ => ?_
    refine guarantees_lift_bind steady.refl _ _ fun object made => ?_
    obtain ⟨areaSame, sensitiveSame, named⟩ := object_named _ _ _ _ _ object made
    have sound : object.Sound := by
      refine ⟨areaSame ▸ legible.2, ?_, ?_, areaSame ▸ named⟩
      · rw [sensitiveSame]
        exact legible.1
      · rw [areaSame, sensitiveSame]
        exact valid_of_checks _ _ ((map_error_is_ok _ _ _).mp loaded) bound
    refine guarantees_bind steady _ _ (work_places_insert (.object object) fun _ => sound) fun handle => ?_
    exact guarantees_lift_bind steady.refl _ _ fun _ _ => guarantees_pure steady.refl _
  dsimp only
  split
  next sensitive held =>
    refine guarantees_lift_bind steady.refl _ _ fun _ checked => rest ?_
    rw [held]
    rintro _ ⟨⟩
    simp only [checkExternalSensitive, guarded_then_is_ok] at checked
    exact (map_error_is_ok _ _ _).mp checked.2.2.2.2
  next held =>
    refine rest ?_
    rw [held]
    rintro _ ⟨⟩

theorem start_places (kind : SequenceKind) (auth : Bytes) : Guarantees WorkPlaces (startSequence kind auth) := by
  have steady := work_places_steady
  exact guarantees_bind steady _ _ (work_places_insert (.sequence _) trivial) fun _ => guarantees_pure steady.refl _

theorem restored_sound (stateClear : Bool) : Yields (Object.unmarshal stateClear) Object.Sound := by
  iterate 2 refine yields_bind _ _ _ fun _ => ?_
  refine yields_bind_known _ _ _ _ public_legible fun area legible => ?_
  refine yields_bind_known _ _ _ _ (yields_option _ _ sensitive_legible) fun sensitive private' => ?_
  refine yields_bind _ _ _ fun qualifiedName => ?_
  refine yields_bind_known _ _ _ _ (yields_lift _) fun _ valid => ?_
  refine yields_bind_known _ _ _ _ (yields_lift _) fun name named => ?_
  exact yields_pure _ _ ⟨legible, private', valid, named⟩

theorem open_context_places (context : Context) : Guarantees ContextPlaces (openContext s context) := by
  have refl := context_places_steady.refl
  iterate 3 refine guarantees_lift_bind refl _ _ fun _ _ => ?_
  refine guarantees_guard refl _ _ _ _ fun _ => ?_
  iterate 2 refine guarantees_lift_bind refl _ _ fun _ _ => ?_
  iterate 2 refine guarantees_guard refl _ _ _ _ fun _ => ?_
  refine guarantees_ite _ _ _ _ (fun _ => ?_) fun _ => guarantees_pure refl _
  refine guarantees_bind context_places_steady _ _ (guarantees_modify _ _ fun t => refl t) fun _ => ?_
  exact guarantees_bind context_places_steady _ _ (guarantees_throw refl _) fun _ => guarantees_pure refl _

theorem restore_session_places (context : Context) (body : Bytes) :
    Guarantees ContextPlaces (restoreSession context body) := by
  have refl := context_places_steady.refl
  refine guarantees_lift_bind refl _ _ fun session _ => guarantees_guard refl _ _ _ _ fun _ => ?_
  refine guarantees_get_bind _ _ fun t => guarantees_lift_bind refl _ _ (fun sessions _ => ?_) t
  refine guarantees_bind context_places_steady _ _ (guarantees_modify _ _ fun t => refl t) fun _ => ?_
  exact guarantees_pure refl _

theorem context_load_places : Guarantees ContextPlaces (contextLoad s request) := by
  have steady := context_places_steady
  refine guarantees_lift_bind steady.refl _ _ fun context _ => guarantees_get_bind _ _ fun t => ?_
  refine guarantees_lift_bind steady.refl _ _ (fun _ _ => ?_) t
  refine guarantees_guard steady.refl _ _ _ _ fun _ => ?_
  refine guarantees_bind steady _ _ (open_context_places s context) fun body => ?_
  have then' : ∀ action : Action TpmRc ContextScope UInt32, Guarantees ContextPlaces action →
      Guarantees ContextPlaces (action >>= fun handle => pure (Response.withHandle handle [])) := fun action places =>
    guarantees_bind steady _ _ places fun _ => guarantees_pure steady.refl _
  refine guarantees_ite _ _ _ _ (fun _ => then' _ ?_) fun _ => guarantees_ite _ _ _ _ (fun _ => ?_) fun _ =>
    guarantees_ite _ _ _ _ (fun _ => ?_) fun _ => then' _ (guarantees_throw steady.refl _)
  · exact restore_session_places context body
  · refine guarantees_lift_bind steady.refl _ _ fun sequence _ => ?_
    exact then' _ (context_places_restore (.sequence sequence) trivial)
  · refine guarantees_lift_bind steady.refl _ _ fun object read => ?_
    refine then' _ (context_places_restore (.object object) fun _ => ?_)
    exact yields_prefix _ _ (restored_sound _) body object ((map_error_is_ok _ _ _).mp read)

end

end

end Swtrust
