import Swtrust.Store.Restore

set_option autoImplicit false
set_option linter.unusedSectionVars false

-- What `load` accepts is a TPM that could have been: whoever wrote the file, in whichever version.

namespace Swtrust

open Library Record

namespace Record

section

variable [Primitives]

theorem kept_allocation_some (saved : PcrAllocation) : keptAllocation saved ≠ [] := by
  unfold keptAllocation
  dsimp only
  split
  next => decide
  next some => exact fun none => some (by rw [none]; rfl)

theorem allocation_yields (version : UInt32) : Yields (readPcrAllocation version) fun allocation =>
    allocation ≠ [] ∧ ∀ bank ∈ allocation, (digestSize bank.1).isSome = true := by
  refine yields_bind _ _ _ fun count => yields_bind _ _ _ fun saved => yields_pure _ _ ?_
  exact ⟨kept_allocation_some saved, kept_allocation_known saved⟩

-- The banks come up as wide as their digests, and no value that is read changes the width of a register.
theorem allocate_into_fits (allocation : PcrAllocation) :
    ∀ (maps made : SortedMap UInt16 PcrBank × SortedMap UInt16 (List Bool))
    (updateCounter : UInt32), PcrBanks.allocateInto maps allocation = .ok made →
    (⟨maps.1, maps.2, updateCounter⟩ : PcrBanks).Fits → (⟨made.1, made.2, updateCounter⟩ : PcrBanks).Fits := by
  induction allocation with
  | nil =>
      intro maps made updateCounter ran fits
      cases ran
      exact fits
  | cons bank rest ih =>
      intro maps made updateCounter ran fits
      unfold PcrBanks.allocateInto at ran
      by_cases some : bank.2.any id = true
      · rw [if_pos some] at ran
        cases sized : digestSize bank.1 with
        | none =>
            rw [sized] at ran
            cases ran
        | some size =>
            rw [sized] at ran
            exact ih _ _ _ ran (PcrBanks.fits_allocate ⟨maps.1, maps.2, updateCounter⟩ bank.1 _ size sized fits)
      · rw [if_neg some] at ran
        exact ih _ _ _ ran fits

theorem new_fits (allocation : PcrAllocation) (pcr : PcrBanks) (new : PcrBanks.new allocation = .ok pcr) : pcr.Fits := by
  unfold PcrBanks.new PcrBanks.allocate at new
  cases ran : PcrBanks.allocateInto (SortedMap.empty, SortedMap.empty) allocation with
  | error e =>
      rw [ran] at new
      cases new
  | ok made =>
      rw [ran] at new
      have fits := allocate_into_fits allocation _ made 0 ran ⟨fun _ => rfl, fun _ _ found => by cases found⟩
      cases new
      exact (PcrBanks.moves_reset_all _ none 0).fits fits

theorem put_register_fits (pcr : PcrBanks) (hashAlg : UInt16) (index : Nat) (value : Bytes) (fits : pcr.Fits) :
    (pcr.putRegister hashAlg index value).Fits := by
  unfold PcrBanks.putRegister
  split
  next => exact fits
  next bank held =>
    split
    next => exact fits
    next slot found =>
      by_cases equal : slot.length = value.length
      · rw [if_pos equal]
        obtain ⟨size, sized, -, each⟩ := fits.registers hashAlg bank held
        have width := each slot (List.mem_of_getElem? found)
        exact (PcrBanks.moves_set pcr hashAlg bank index value held (by rw [sized, ← equal, width])).fits fits
      · rw [if_neg equal]
        exact fits

theorem registers_yield (hashAlg : UInt16) (count : Nat) : ∀ (index : Nat) (pcr : PcrBanks), pcr.Fits →
    Yields (PcrBanks.unmarshalRegisters hashAlg count index pcr) PcrBanks.Fits := by
  induction count with
  | zero => exact fun index pcr fits => yields_pure pcr _ fits
  | succ count ih =>
      intro index pcr fits
      exact yields_bind _ _ _ fun value => ih _ _ (put_register_fits pcr hashAlg index value fits)

theorem banks_yield (count : Nat) : ∀ pcr : PcrBanks, pcr.Fits → Yields (PcrBanks.unmarshalBanks count pcr) PcrBanks.Fits := by
  induction count with
  | zero => exact fun pcr fits => yields_pure pcr _ fits
  | succ count ih =>
      intro pcr fits
      refine yields_bind _ _ _ fun hashAlg => yields_bind _ _ _ fun registers => ?_
      exact yields_bind_known _ _ _ _ (registers_yield hashAlg registers.toNat 0 pcr fits) fun next fits => ih next fits

theorem pcr_yields (allocation : PcrAllocation) : Yields (readPcr allocation) PcrBanks.Fits := by
  refine yields_bind_known _ _ _ _ (yields_lift _) fun made new => ?_
  have values : Yields made.unmarshalValues PcrBanks.Fits :=
    yields_bind _ _ _ fun banks => banks_yield banks.toNat made (new_fits allocation made new)
  refine yields_bind_known _ _ _ _ values fun pcr fits => yields_bind _ _ _ fun updateCounter => ?_
  exact yields_pure _ _ ((PcrBanks.moves_counter pcr updateCounter).fits fits)

theorem define_spacious (nv next : NvStore) (index : NvIndex) (defined : defineNv nv index = .ok next)
    (spacious : NvStore.Spacious nv.plots) : NvStore.Spacious next.plots := by
  have ran := (define_nv_is_ok nv next index).mp defined
  unfold NvStore.define at ran
  simp only [Action.succeeds_bind, Action.succeeds_modify, Action.succeeds_get, Action.succeeds_guard,
    Action.succeeds_set] at ran
  obtain ⟨_, _, rfl, _, _, ⟨rfl, rfl⟩, ranged, free, room, rfl⟩ := ran
  have noted := nv.note_counter_indices index
  have before : NvStore.Spacious (nv.noteCounter index).plots := by
    unfold NvStore.plots at spacious ⊢
    rw [noted]
    exact spacious
  refine NvStore.spacious_define _ index ?_ ?_ (Nat.not_lt.mp room) before
  · simpa using ranged
  · exact (SortedMap.absent_iff_get _ _).mp (by simpa using free)

theorem nv_indices_yield (count : Nat) : ∀ nv : NvStore, NvStore.Spacious nv.plots →
    Yields (readNvIndices count nv) fun nv => NvStore.Spacious nv.plots := by
  induction count with
  | zero => exact fun nv spacious => yields_pure nv _ spacious
  | succ count ih =>
      intro nv spacious
      refine yields_bind _ _ _ fun index => yields_bind_known _ _ _ _ (yields_lift _) fun next defined => ?_
      exact ih next (define_spacious nv next index defined spacious)

theorem nv_yields (version : UInt32) : Yields (readNv version) fun nv => NvStore.Spacious nv.plots := by
  have start : NvStore.Spacious NvStore.new.plots := ⟨Nat.zero_le _, fun _ _ found => by cases found⟩
  refine yields_bind _ _ _ fun counterFloor => yields_bind _ _ _ fun count => ?_
  exact yields_bind_known _ _ _ _ (nv_indices_yield count NvStore.new start) fun nv spacious => yields_pure _ _ spacious

-- An object that TPM2_Load would take today, named by its public area, and under its hierarchy alone.
structure Restored (object : Object) : Prop where
  valid : validateRestored object.area object.sensitive = .ok ()
  name : objectName object.area = .ok object.name
  qualifiedName : qualifiedName object.area.nameAlg (handleName object.hierarchy) object.name = .ok object.qualifiedName

theorem new_restored (area : TpmtPublic) (sensitive : Option TpmtSensitive) (hierarchy : UInt32) (tpmGenerated : Bool)
    (object : Object) (valid : validateRestored area sensitive = .ok ())
    (made : Object.new area sensitive hierarchy (handleName hierarchy) tpmGenerated = .ok object) : Restored object := by
  unfold Object.new at made
  obtain ⟨name, named, made⟩ := (bind_is_ok _ _ _).mp made
  obtain ⟨qualified, qualifies, made⟩ := (bind_is_ok _ _ _).mp made
  cases made
  exact ⟨valid, named, qualifies⟩

theorem object_yields (version : UInt32) : Yields (readObject version) fun entry => Restored entry.2 := by
  refine yields_bind _ _ _ fun handle => yields_bind _ _ _ fun hierarchy => yields_bind _ _ _ fun tpmGenerated => ?_
  refine yields_bind _ _ _ fun recorded => yields_bind _ _ _ fun area => yields_bind _ _ _ fun sensitive => ?_
  refine yields_bind_known _ _ _ _ (yields_lift _) fun _ valid => yields_guarded _ _ _ _ fun _ => ?_
  refine yields_bind_known _ _ _ _ (yields_lift _) fun object made => yields_pure _ _ ?_
  exact new_restored area sensitive hierarchy tpmGenerated object valid made

theorem of_list_holds {ν : Type} (good : ν → Prop) (entries : List (UInt32 × ν)) (each : ∀ entry ∈ entries, good entry.2)
    (key : UInt32) (value : ν) (held : (SortedMap.ofList entries).get key = some value) : good value := by
  have onto : ∀ (entries : List (UInt32 × ν)) (map : SortedMap UInt32 ν), (∀ entry ∈ entries, good entry.2) →
      (∀ key value, map.get key = some value → good value) → ∀ key value,
      (entries.foldl (fun map entry => map.insert entry.1 entry.2) map).get key = some value → good value := by
    intro entries
    induction entries with
    | nil => exact fun map _ start => start
    | cons entry rest ih =>
        intro map each start
        refine ih _ (fun entry member => each entry (List.mem_cons_of_mem _ member)) fun key value found => ?_
        rw [SortedMap.get_insert] at found
        split at found
        · cases found
          exact each entry List.mem_cons_self
        · exact start key value found
  exact onto entries SortedMap.empty each (fun _ _ found => by cases found) key value held

theorem persistent_yields (version : UInt32) : Yields (readPersistent version) fun persistent =>
    ∀ handle object, persistent.get handle = some object → Restored object := by
  refine yields_bind _ _ _ fun count => ?_
  refine yields_bind_known _ _ _ _ (yields_many _ _ (object_yields version) count) fun entries each => yields_pure _ _ ?_
  exact of_list_holds Restored entries each.2

def CommitsRead (fresh commits : Commits) : Prop :=
  commits = fresh ∨
    commits.random.length = Config.commitNonceBytes ∧ commits.used.length = Config.maxCommitSequences / 8

theorem commits_yield (fresh : Commits) : Yields (readCommits fresh) (CommitsRead fresh) := by
  refine yields_bind _ _ _ fun ended => yields_ite _ _ _ _ (fun _ => yields_pure _ _ (.inl rfl)) fun _ => ?_
  refine yields_bind _ _ _ fun random => yields_bind _ _ _ fun count => yields_bind _ _ _ fun used => ?_
  refine yields_ite _ _ _ _ (fun _ => yields_guarded _ _ _ _ fun _ => yields_pure _ _ (.inl rfl)) fun _ => ?_
  refine yields_guarded _ _ _ _ fun sized => yields_pure _ _ (.inr ?_)
  exact not_or.mp sized |>.imp not_not.mp not_not.mp

-- The startup block changes three fields.
theorem startup_yields (version : UInt32) (s : TpmState) : Yields (readStartup version s) fun t =>
    ∃ startupClear hcrtmAtLastStartup startupLocality,
      t = { s with startupClear, hcrtmAtLastStartup, startupLocality } := by
  refine yields_ite _ _ _ _ (fun _ => yields_pure _ _ ⟨_, _, _, rfl⟩) fun _ => yields_bind _ _ _ fun ended => ?_
  refine yields_ite _ _ _ _ (fun _ => yields_pure _ _ ⟨_, _, _, rfl⟩) fun _ => yields_bind _ _ _ fun startupClear => ?_
  refine yields_ite _ _ _ _ (fun _ => yields_pure _ _ ⟨_, _, _, rfl⟩) fun _ => ?_
  refine yields_bind _ _ _ fun hcrtmAtLastStartup => yields_bind _ _ _ fun startupLocality => ?_
  exact yields_pure _ _ ⟨_, _, _, rfl⟩

theorem saved_contexts_yield (version : UInt32) (fresh : SessionSlots) : Yields (readSavedContexts version fresh)
    fun sessions => sessions.sessions = fresh.sessions ∧ sessions.version = fresh.version := by
  refine yields_ite _ _ _ _ (fun _ => yields_pure _ _ ⟨rfl, rfl⟩) fun _ => yields_bind _ _ _ fun ended => ?_
  refine yields_ite _ _ _ _ (fun _ => yields_pure _ _ ⟨rfl, rfl⟩) fun _ => yields_bind _ _ _ fun count => ?_
  refine yields_bind _ _ _ fun saved => yields_bind _ _ _ fun counter => ?_
  refine yields_ite _ _ _ _ (fun _ => yields_pure _ _ ⟨rfl, rfl⟩) fun _ => yields_bind _ _ _ fun objectCounter => ?_
  exact yields_pure _ _ ⟨rfl, rfl⟩

-- Nothing is left of what `read` accepts.
def Exhausts {α : Type} (reader : Reader α) : Prop := ∀ input value rest, reader.run input = .ok (value, rest) → rest = []

theorem exhausts_bind {α β : Type} (reader : Reader α) (next : α → Reader β) (then_ : ∀ a, Exhausts (next a)) :
    Exhausts (reader >>= next) := by
  intro input value rest ran
  obtain ⟨a, middle, -, ended⟩ := (reader_bind_is_ok reader next input rest value).mp ran
  exact then_ a middle value rest ended

theorem exhausts_guarded {α : Type} (c : Prop) [Decidable c] (e : TpmRc) (reader : Reader α) (exhausts : Exhausts reader) :
    Exhausts (do
      if c then throw e
      reader : Reader α) := by
  by_cases holds : c
  · simp only [if_pos holds]
    intro input value rest ran
    obtain ⟨_, _, thrown, -⟩ := (reader_bind_is_ok _ _ _ _ _).mp ran
    cases thrown
  · simp only [if_neg holds]
    exact exhausts

theorem exhausts_at_end {α : Type} (value : α) : Exhausts (do
    if !(← readerIsEmpty) then throw Rc.badContext
    return value : Reader α) := by
  intro input made rest ran
  cases input with
  | nil =>
      cases ran
      rfl
  | cons octet more =>
      obtain ⟨ended, middle, began, ran⟩ := (reader_bind_is_ok _ _ _ _ _).mp ran
      cases began
      obtain ⟨_, _, thrown, -⟩ := (reader_bind_is_ok _ _ _ _ _).mp ran
      cases thrown

theorem canonical_bit : Canonical readBit beBool := by
  refine rewrites_bind _ _ _ be8 _ canonical_u8 fun octet => ?_
  refine rewrites_ite _ _ _ _ _ (fun no => ?_) fun _ => rewrites_ite _ _ _ _ _ (fun yes => ?_) fun _ => rewrites_throw _ _ _
  · rw [no]
    exact rewrites_pure _ _ _ rfl
  · rw [yes]
    exact rewrites_pure _ _ _ rfl

-- How a record of the profile that runs begins.
def preamble (version : UInt32) : Bytes :=
  be32 version ++ if version = stateVersionWithoutProfile then [] else beBool isStrict

theorem read_begins (fresh s : TpmState) (data rest : Bytes) (ran : (TpmState.read fresh).run data = .ok (s, rest)) :
    ∃ version ∈ knownVersions, ∃ more, data = preamble version ++ more := by
  obtain ⟨version, first, versioned, ran⟩ := (reader_bind_is_ok _ _ _ _ _).mp ran
  have front : data = be32 version ++ first := canonical_u32 data version first versioned
  by_cases unknown : (!knownVersions.contains version) = true
  · simp only [if_pos unknown] at ran
    obtain ⟨_, _, thrown, -⟩ := (reader_bind_is_ok _ _ _ _ _).mp ran
    cases thrown
  simp only [if_neg unknown] at ran
  obtain ⟨strict, second, profiled, ran⟩ := (reader_bind_is_ok _ _ _ _ _).mp ran
  by_cases other : strict ≠ isStrict
  · simp only [if_pos other] at ran
    obtain ⟨_, _, thrown, -⟩ := (reader_bind_is_ok _ _ _ _ _).mp ran
    cases thrown
  obtain rfl := not_not.mp other
  refine ⟨version, by simpa using unknown, second, ?_⟩
  unfold readWrittenStrict at profiled
  unfold preamble
  by_cases old : version = stateVersionWithoutProfile
  · rw [if_neg (not_not.mpr old)] at profiled
    have same : first = second := congrArg Prod.snd (Except.ok.inj profiled)
    rw [if_pos old, List.append_nil, ← same]
    exact front
  · rw [if_pos old] at profiled
    have bit : first = beBool isStrict ++ second := canonical_bit first _ second profiled
    rw [if_neg old, front, bit, List.append_assoc]

end

end Record

namespace TpmState

section

variable [Primitives]

structure Accepted (fresh s : TpmState) : Prop where
  allocated : s.pcrAllocation ≠ []
  allocation : ∀ bank ∈ s.pcrAllocation, (digestSize bank.1).isSome = true
  pcr : s.pcr.Fits
  nv : NvStore.Spacious s.nv.plots
  persistent : ∀ handle object, s.persistent.get handle = some object → Restored object
  commits : CommitsRead fresh.commits s.commits
  objects : s.objects = fresh.objects
  sessions : s.sessions.sessions = fresh.sessions.sessions
  started : s.started = fresh.started

theorem read_yields (fresh : TpmState) : Yields (TpmState.read fresh) (Accepted fresh) := by
  refine yields_bind _ _ _ fun version => yields_guarded _ _ _ _ fun known => ?_
  refine yields_bind _ _ _ fun writtenStrict => yields_guarded _ _ _ _ fun profile => ?_
  refine yields_bind _ _ _ fun manufactured => yields_bind _ _ _ fun hierarchies => yields_bind _ _ _ fun lockout => ?_
  refine yields_bind _ _ _ fun permanent => yields_bind _ _ _ fun clock => yields_bind _ _ _ fun drawn => ?_
  refine yields_bind _ _ _ fun algorithmSet => yields_bind _ _ _ fun lockoutAuth => ?_
  refine yields_bind _ _ _ fun lockoutPolicy => yields_bind _ _ _ fun pcrAuth => yields_bind _ _ _ fun pcrPolicy => ?_
  refine yields_bind _ _ _ fun shutdownType => ?_
  refine yields_bind_known _ _ _ _ (allocation_yields version) fun allocation allocated => ?_
  refine yields_bind_known _ _ _ _ (pcr_yields allocation) fun pcr fits => ?_
  refine yields_bind _ _ _ fun ppCommands => yields_bind _ _ _ fun audit => ?_
  refine yields_bind_known _ _ _ _ (nv_yields version) fun nv spacious => ?_
  refine yields_bind_known _ _ _ _ (persistent_yields version) fun persistent restored => ?_
  refine yields_bind_known _ _ _ _ (commits_yield fresh.commits) fun commits sized => yields_bind _ _ _ fun act => ?_
  refine yields_bind_known _ _ _ _ (startup_yields version _) fun s same => ?_
  refine yields_bind_known _ _ _ _ (saved_contexts_yield version fresh.sessions) fun sessions none => ?_
  refine yields_bind _ _ _ fun ended => yields_guarded _ _ _ _ fun _ => yields_pure _ _ ?_
  obtain ⟨_, _, _, rfl⟩ := same
  exact ⟨allocated.1, allocated.2, fits, spacious, restored, sized, rfl, none.1, rfl⟩

theorem read_exhausts (fresh : TpmState) : Exhausts (TpmState.read fresh) := by
  refine exhausts_bind _ _ fun version => exhausts_guarded _ _ _ ?_
  refine exhausts_bind _ _ fun writtenStrict => exhausts_guarded _ _ _ ?_
  refine exhausts_bind _ _ fun manufactured => exhausts_bind _ _ fun hierarchies => exhausts_bind _ _ fun lockout => ?_
  refine exhausts_bind _ _ fun permanent => exhausts_bind _ _ fun clock => exhausts_bind _ _ fun drawn => ?_
  refine exhausts_bind _ _ fun algorithmSet => exhausts_bind _ _ fun lockoutAuth => exhausts_bind _ _ fun lockoutPolicy => ?_
  refine exhausts_bind _ _ fun pcrAuth => exhausts_bind _ _ fun pcrPolicy => exhausts_bind _ _ fun shutdownType => ?_
  refine exhausts_bind _ _ fun allocation => exhausts_bind _ _ fun pcr => exhausts_bind _ _ fun ppCommands => ?_
  refine exhausts_bind _ _ fun audit => exhausts_bind _ _ fun nv => exhausts_bind _ _ fun persistent => ?_
  refine exhausts_bind _ _ fun commits => exhausts_bind _ _ fun act => exhausts_bind _ _ fun s => ?_
  exact exhausts_bind _ _ fun sessions => exhausts_at_end _

-- Whatever octets `load` takes, they are a whole record of this profile, in a version it knows, and the TPM it makes of
-- them has the banks, the NV Indices, the persistent objects and the commit values that a running one could have.
theorem accepted_could_be (fresh s : TpmState) (data : Bytes) (accepted : load fresh data = .ok s) :
    (∃ version ∈ knownVersions, ∃ more, data = preamble version ++ more) ∧ (TpmState.read fresh).run data = .ok (s, []) ∧
      Accepted fresh s := by
  unfold load at accepted
  cases ran : (TpmState.read fresh).run data with
  | error e =>
      rw [ran] at accepted
      cases accepted
  | ok made =>
      obtain ⟨t, rest⟩ := made
      rw [ran] at accepted
      cases accepted
      have none : rest = [] := read_exhausts fresh data _ rest ran
      exact ⟨read_begins fresh _ data rest ran, by rw [none], read_yields fresh data _ rest ran⟩

end

end TpmState

namespace Toy

theorem owned_accepted : ∃ s t, TpmState.load s (owned s).save = .ok t ∧
    t.persistent.contains Hc.persistentFirst = true ∧ TpmState.Accepted s t := by
  have tested : found (TpmState.manufacture (List.replicate 48 7)) (fun s =>
      found (TpmState.load s (owned s).save) fun t => t.persistent.contains Hc.persistentFirst) = true := by
    rw [manufacture_made]
    decide +kernel
  obtain ⟨s, -, tested⟩ := ok_of_found _ _ tested
  obtain ⟨t, accepted, held⟩ := ok_of_found _ _ tested
  exact ⟨s, t, accepted, held, (TpmState.accepted_could_be s t _ accepted).2.2⟩

end Toy

end Swtrust
