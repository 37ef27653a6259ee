import Swtrust.Commands.Reading
import Swtrust.Library.Total
import Swtrust.Nv.Counters
import Swtrust.Object.Persistent
import Swtrust.Pcr.Allotted
import Swtrust.Store.Record
import Swtrust.Structures.ReadBack

set_option autoImplicit false
set_option linter.unusedSectionVars false

-- What `save` writes of a TPM, `load` reads as it, down to the parts that a TPM is only given when it starts.

namespace Swtrust

open Library Record

theorem decodes_u64 (value : UInt64) : Decodes u64 (be64 value) value := by
  have read := decodes_bind_pure _ UInt64.ofNat _ _
    (decodes_take_nat Rc.insufficient 8 value.toNat (by simpa using value.toNat_lt))
  rw [UInt64.ofNat_toNat] at read
  exact read

theorem decodes_flag (value : Bool) : Decodes readFlag (beBool value) value := by
  cases value with
  | false => exact decodes_bind_pure _ (· != 0) _ _ (decodes_u8 0)
  | true => exact decodes_bind_pure _ (· != 0) _ _ (decodes_u8 1)

theorem decodes_option {α : Type} (reader : Reader α) (encode : α → Bytes) (value : Option α)
    (each : ∀ a, value = some a → Decodes reader (encode a) a) :
    Decodes (readOption reader) (beOption encode value) value := by
  cases value with
  | none => exact decodes_bind_last _ _ _ _ _ (decodes_flag false) (decodes_pure none)
  | some a =>
      refine decodes_bind _ _ _ _ _ _ (decodes_flag true) ?_
      show Decodes (some <$> reader) (encode a) (some a)
      rw [map_eq_pure_bind]
      exact decodes_bind_pure _ some _ _ (each a rfl)

theorem decodes_lifted {α : Type} (result : TpmResult α) (a : α) (made : result = .ok a) :
    Decodes (liftM result : Reader α) [] a := by
  rw [made]
  exact fun _ => rfl

-- A block that is there is read, where one that is not would have been passed over.
theorem decodes_unless_end {α : Type} (absent : α) (reader : Reader α) (octets : Bytes) (a : α) (some : octets ≠ [])
    (read : Decodes reader octets a) :
    Decodes (do
      if ← readerIsEmpty then return absent
      reader : Reader α) octets a := by
  intro rest
  have more : (octets ++ rest).isEmpty = false := by
    cases octets with
    | nil => exact absurd rfl some
    | cons head tail => rfl
  show StateT.run (if (octets ++ rest).isEmpty = true then pure absent else reader) (octets ++ rest) = .ok (a, rest)
  rw [more]
  exact read rest

namespace Record

theorem decodes_since {α : Type} (version first : UInt32) (reader : Reader α) (absent : α) (octets : Bytes) (a : α)
    (late : first ≤ version) (read : Decodes reader octets a) : Decodes (since version first reader absent) octets a := by
  unfold since
  rw [if_pos late]
  exact read

theorem decodes_bounded_count (max count : Nat) (few : count ≤ max) (small : max < 2 ^ 32) :
    Decodes (boundedCount max) (be32 (UInt32.ofNat count)) count := by
  have size : (UInt32.ofNat count).toNat = count := UInt32.toNat_ofNat_of_lt' (Nat.lt_of_le_of_lt few small)
  refine decodes_bind_last _ _ _ _ _ (decodes_u32 _) ?_
  rw [size, if_neg (Nat.not_lt.mpr few)]
  exact decodes_pure count

theorem decodes_bit (value : Bool) : Decodes readBit (beBool value) value := by
  cases value with
  | false => exact decodes_bind_last _ _ _ _ _ (decodes_u8 0) (decodes_pure false)
  | true => exact decodes_bind_last _ _ _ _ _ (decodes_u8 1) (decodes_pure true)

theorem decodes_codes (codes : List UInt32) (few : codes.length ≤ 512) : Decodes readCodes (writeCodes codes) codes :=
  decodes_bind _ _ _ _ _ _ (decodes_bounded_count 512 _ few (by decide))
    (decodes_many u32 be32 codes fun code _ => decodes_u32 code)

section

variable [Profile]

-- The digest of a policy is of its algorithm's size, or there is neither.
abbrev Whole (policy : TpmtHa) : Prop := Legible TpmtHa.unmarshal TpmtHa.marshal policy

theorem decodes_policy (policy : TpmtHa) (whole : Whole policy) : Decodes TpmtHa.unmarshal policy.marshal policy :=
  decodes_of_legible _ _ _ steady_ha whole

structure HierarchyFits (h : Hierarchy) : Prop where
  seed : h.seed.length < 65536
  proof : h.proof.length < 65536
  auth : h.auth.length < 65536
  policy : Whole h.policy

structure HierarchiesFit (hs : Hierarchies) : Prop where
  platform : HierarchyFits hs.platform
  owner : HierarchyFits hs.owner
  endorsement : HierarchyFits hs.endorsement
  null : HierarchyFits hs.null
  bootloaderSecret : hs.bootloaderSecret.length < 65536

theorem decodes_hierarchy (h : Hierarchy) (fits : HierarchyFits h) : Decodes readHierarchy (saveHierarchy h) h := by
  simp only [saveHierarchy, List.append_assoc]
  refine decodes_bind _ _ _ _ _ _ (decodes_read_sized _ fits.seed) ?_
  refine decodes_bind _ _ _ _ _ _ (decodes_read_sized _ fits.proof) ?_
  refine decodes_bind _ _ _ _ _ _ (decodes_read_sized _ fits.auth) ?_
  refine decodes_bind _ _ _ _ _ _ (decodes_policy _ fits.policy) ?_
  exact decodes_bind_last _ _ _ _ _ (decodes_flag h.enabled) (decodes_pure h)

theorem decodes_hierarchies (hs fresh : Hierarchies) (fit : HierarchiesFit hs) :
    Decodes (readHierarchies stateVersion fresh) (saveHierarchies hs)
      { hs with firmwareCode := fresh.firmwareCode } := by
  simp only [saveHierarchies, List.append_assoc]
  refine decodes_bind _ _ _ _ _ _ (decodes_hierarchy _ fit.platform) ?_
  refine decodes_bind _ _ _ _ _ _ (decodes_hierarchy _ fit.owner) ?_
  refine decodes_bind _ _ _ _ _ _ (decodes_hierarchy _ fit.endorsement) ?_
  refine decodes_bind _ _ _ _ _ _ (decodes_hierarchy _ fit.null) ?_
  refine decodes_bind _ _ _ _ _ _ (decodes_flag _) ?_
  refine decodes_bind_last _ _ _ _ _ ?_ (decodes_pure _)
  exact decodes_since _ _ _ _ _ _ (by decide) (decodes_read_sized _ fit.bootloaderSecret)

end

theorem decodes_lockout (lockout : LockoutState) :
    Decodes LockoutState.unmarshal lockout.marshal { lockout with lockoutUntil := 0 } := by
  simp only [LockoutState.marshal, List.append_assoc]
  refine decodes_bind _ _ _ _ _ _ (decodes_u32 _) ?_
  refine decodes_bind _ _ _ _ _ _ (decodes_u32 _) ?_
  refine decodes_bind _ _ _ _ _ _ (decodes_u32 _) ?_
  refine decodes_bind _ _ _ _ _ _ (decodes_u32 _) ?_
  refine decodes_bind _ _ _ _ _ _ (decodes_flag _) ?_
  exact decodes_bind_last _ _ _ _ _ (decodes_u64 _) (decodes_pure _)

theorem decodes_clock (clock : ClockState) (fits : clock.resetValue.length < 65536) :
    Decodes (ClockState.read stateVersion) clock.marshal (clock.restored clock.resetValue) := by
  simp only [ClockState.marshal, List.append_assoc]
  refine decodes_bind _ _ _ _ _ _ (decodes_u64 _) ?_
  refine decodes_bind _ _ _ _ _ _ (decodes_u32 _) ?_
  refine decodes_bind _ _ _ _ _ _ (decodes_u32 _) ?_
  refine decodes_bind _ _ _ _ _ _ (decodes_since _ _ _ _ _ _ (by decide) (decodes_u32 _)) ?_
  refine decodes_bind _ _ _ _ _ _ (decodes_since _ _ _ _ _ _ (by decide) (decodes_read_sized _ fits)) ?_
  refine decodes_bind _ _ _ _ _ _ (decodes_flag _) ?_
  refine decodes_bind _ _ _ _ _ _ (decodes_u32 _) ?_
  exact decodes_bind_last _ _ _ _ _ (decodes_u64 _) (decodes_pure _)

section

variable [Primitives]

theorem unpack_bits_packed (bits : List Bool) (whole : bits.length = Config.implementationPcr) :
    unpackBits (packBits bits) = bits := by
  have inside : ∀ i ∈ (List.range bits.length).filter fun i => bits[i]?.getD false,
      i / 8 < (List.replicate ((Config.implementationPcr + 7) / 8) (0 : UInt8)).length := by
    intro i member
    have below : i < bits.length := List.mem_range.mp (List.mem_filter.mp member).1
    rw [whole] at below
    have bound : (List.replicate ((Config.implementationPcr + 7) / 8) (0 : UInt8)).length = 3 := rfl
    rw [bound]
    have last : i < 24 := below
    omega
  refine List.ext_getElem (by simp [unpackBits, whole]) fun i first second => ?_
  simp only [unpackBits, packBits, List.getElem_map, List.getElem_range]
  rw [Bitmap.bit_raise_all _ _ inside, Bitmap.bit_zeros, Bool.or_false]
  simp [List.mem_filter, second]

theorem decodes_bank (bank : UInt16 × List Bool) (whole : bank.2.length = Config.implementationPcr) :
    Decodes (readBank stateVersion) (saveBank bank) bank := by
  have packed : (packBits bank.2).length = 3 := by
    rw [packBits, Bitmap.length_raise_all]
    rfl
  have raw := decodes_take (packBits bank.2)
  rw [packed] at raw
  simp only [saveBank, List.append_assoc]
  refine decodes_bind _ _ _ _ _ _ (decodes_u16 _) ?_
  refine decodes_bind_last _ _ _ bank.2 _ (decodes_since _ _ _ _ _ _ (by decide) ?_) (decodes_pure bank)
  refine decodes_bind _ _ _ _ _ _ (decodes_u8 _) ?_
  refine decodes_bind_last _ _ _ _ _ raw ?_
  rw [unpack_bits_packed _ whole]
  exact decodes_pure _

structure AllocationFits (allocation : PcrAllocation) : Prop where
  few : allocation.length ≤ Config.hashCount
  whole : ∀ bank ∈ allocation, bank.2.length = Config.implementationPcr

theorem decodes_allocation (allocation : PcrAllocation) (fits : AllocationFits allocation) :
    Decodes (readPcrAllocation stateVersion) (savePcrAllocation allocation) (keptAllocation allocation) := by
  refine decodes_bind _ _ _ _ _ _ (decodes_bounded_count _ _ fits.few (by decide)) ?_
  refine decodes_bind_last _ _ _ _ _ ?_ (decodes_pure _)
  exact decodes_many _ _ _ fun bank member => decodes_bank bank (fits.whole bank member)

structure AuditFits (audit : AuditState) : Prop where
  digest : audit.digest.length < 65536
  commands : audit.commands.length ≤ 512

theorem decodes_audit (audit fresh : AuditState) (fits : AuditFits audit) :
    Decodes (readAudit fresh) (saveAudit audit) { audit with exclusiveSession := fresh.exclusiveSession } := by
  simp only [saveAudit, List.append_assoc]
  refine decodes_bind _ _ _ _ _ _ (decodes_u16 _) ?_
  refine decodes_bind _ _ _ _ _ _ (decodes_read_sized _ fits.digest) ?_
  refine decodes_bind _ _ _ _ _ _ (decodes_u64 _) ?_
  exact decodes_bind_last _ _ _ _ _ (decodes_codes _ fits.commands) (decodes_pure _)

-- The values that are read go over a bank as it comes up, those from a place of it on, each that has the length of
-- the register it finds.
def overlay (start : Nat) (values : List Bytes) (bank : PcrBank) : PcrBank :=
  bank.mapIdx fun index register =>
    if index < start then register
    else match values[index - start]? with
      | some value => if value.length = register.length then value else register
      | none => register

theorem overlay_none (start : Nat) (bank : PcrBank) : overlay start [] bank = bank := by
  refine List.ext_getElem? fun index => ?_
  rw [overlay, List.getElem?_mapIdx]
  cases bank[index]? <;> simp

-- One more value is put before the rest goes on at the next place.
theorem overlay_cons (start : Nat) (value : Bytes) (values : List Bytes) (bank : PcrBank) :
    overlay (start + 1) values (overlay start [value] bank) = overlay start (value :: values) bank := by
  refine List.ext_getElem? fun index => ?_
  simp only [overlay, List.getElem?_mapIdx]
  cases bank[index]? with
  | none => rfl
  | some register =>
      simp only [Option.map_some, Option.some.injEq]
      by_cases before : index < start
      · have earlier : index < start + 1 := by omega
        simp [before, earlier]
      by_cases here : index = start
      · subst here
        simp
      · have later : ¬ index < start + 1 := by omega
        have offset : index - start = (index - (start + 1)) + 1 := by omega
        have beyond : ([value] : List Bytes)[index - start]? = none := by
          rw [offset]
          rfl
        rw [if_neg before, if_neg before, if_neg later, beyond, offset, List.getElem?_cons_succ]

def overlayBank (hashAlg : UInt16) (start : Nat) (values : List Bytes) (pcr : PcrBanks) : PcrBanks :=
  { pcr with banks := pcr.banks.mapValues fun a bank => if a = hashAlg then overlay start values bank else bank }

theorem overlay_bank_get (hashAlg : UInt16) (start : Nat) (values : List Bytes) (pcr : PcrBanks) (key : UInt16) :
    (overlayBank hashAlg start values pcr).banks.get key =
      (pcr.banks.get key).map fun bank => if key = hashAlg then overlay start values bank else bank :=
  SortedMap.get_map_values _ _ key

-- Banks with the same registers, whatever made them.
theorem banks_ext (a b : PcrBanks) (banks : ∀ key, a.banks.get key = b.banks.get key) (allocated : a.allocated = b.allocated)
    (counter : a.updateCounter = b.updateCounter) : a = b := by
  have same := SortedMap.ext_get banks
  cases a
  cases b
  simp_all

theorem overlay_beyond (index i : Nat) (value : Bytes) (place : i ≠ index) (after : ¬ i < index) :
    ([value] : List Bytes)[i - index]? = none := by
  have offset : i - index = (i - index - 1) + 1 := by omega
  rw [offset]
  rfl

-- One value goes where a register of its length is.
theorem overlay_one (index : Nat) (value slot : Bytes) (bank : PcrBank) (found : bank[index]? = some slot)
    (equal : slot.length = value.length) : overlay index [value] bank = bank.set index value := by
  refine List.ext_getElem? fun i => ?_
  rw [overlay, List.getElem?_mapIdx, List.getElem?_set]
  by_cases place : i = index
  · subst place
    have inside : i < bank.length := (List.getElem?_eq_some_iff.mp found).1
    rw [found, if_pos rfl, if_pos inside]
    simp [equal]
  · have other : ¬ index = i := fun eq => place eq.symm
    rw [if_neg other]
    cases bank[i]? with
    | none => rfl
    | some register =>
        by_cases before : i < index
        · simp [before]
        · simp [before, overlay_beyond index i value place before]

theorem overlay_nowhere (index : Nat) (value : Bytes) (bank : PcrBank)
    (unequal : ∀ slot, bank[index]? = some slot → slot.length ≠ value.length) : overlay index [value] bank = bank := by
  refine List.ext_getElem? fun i => ?_
  rw [overlay, List.getElem?_mapIdx]
  cases found : bank[i]? with
  | none => rfl
  | some register =>
      by_cases here : i = index
      · subst here
        have apart : value.length ≠ register.length := (unequal register found).symm
        simp [apart]
      · by_cases before : i < index
        · simp [before]
        · simp [before, overlay_beyond index i value here before]

theorem put_register_overlays (pcr : PcrBanks) (hashAlg : UInt16) (index : Nat) (value : Bytes) :
    pcr.putRegister hashAlg index value = overlayBank hashAlg index [value] pcr := by
  have unmoved : (∀ bank, pcr.banks.get hashAlg = some bank → overlay index [value] bank = bank) →
      pcr = overlayBank hashAlg index [value] pcr := by
    intro still
    refine banks_ext _ _ (fun key => ?_) rfl rfl
    rw [overlay_bank_get]
    cases found : pcr.banks.get key with
    | none => rfl
    | some bank =>
        by_cases here : key = hashAlg
        · subst here
          simp [still bank found]
        · simp [here]
  unfold PcrBanks.putRegister
  split
  next absent =>
    refine unmoved fun bank held => ?_
    cases absent.symm.trans held
  next bank found =>
    split
    next nothing =>
      refine unmoved fun other held => overlay_nowhere _ _ _ fun slot at' => ?_
      obtain rfl := Option.some.inj (found.symm.trans held)
      cases nothing.symm.trans at'
    next slot slotted =>
      by_cases equal : slot.length = value.length
      · rw [if_pos equal]
        refine banks_ext _ _ (fun key => ?_) rfl rfl
        rw [overlay_bank_get]
        show (pcr.banks.insert hashAlg (bank.set index value)).get key = _
        rw [SortedMap.get_insert]
        by_cases here : key = hashAlg
        · subst here
          rw [if_pos rfl, found, Option.map_some, if_pos rfl, overlay_one index value slot bank slotted equal]
        · rw [if_neg here]
          cases pcr.banks.get key <;> simp [here]
      · rw [if_neg equal]
        refine unmoved fun other held => overlay_nowhere _ _ _ fun slot' at' => ?_
        obtain rfl := Option.some.inj (found.symm.trans held)
        obtain rfl := Option.some.inj (slotted.symm.trans at')
        exact equal

theorem overlay_bank_cons (hashAlg : UInt16) (start : Nat) (value : Bytes) (values : List Bytes) (pcr : PcrBanks) :
    overlayBank hashAlg (start + 1) values (overlayBank hashAlg start [value] pcr) =
      overlayBank hashAlg start (value :: values) pcr := by
  refine banks_ext _ _ (fun key => ?_) rfl rfl
  rw [overlay_bank_get, overlay_bank_get, overlay_bank_get]
  cases pcr.banks.get key with
  | none => rfl
  | some bank =>
      by_cases here : key = hashAlg
      · simp [here, overlay_cons]
      · simp [here]

theorem overlay_bank_none (hashAlg : UInt16) (start : Nat) (pcr : PcrBanks) :
    overlayBank hashAlg start [] pcr = pcr := by
  refine banks_ext _ _ (fun key => ?_) rfl rfl
  rw [overlay_bank_get]
  cases pcr.banks.get key <;> simp [overlay_none]

-- The registers of one bank, one after the other.
theorem decodes_registers (hashAlg : UInt16) (values : List Bytes) (sized : ∀ value ∈ values, value.length < 65536) :
    ∀ (start : Nat) (pcr : PcrBanks),
      Decodes (PcrBanks.unmarshalRegisters hashAlg values.length start pcr) (values.flatMap sized16)
        (overlayBank hashAlg start values pcr) := by
  induction values with
  | nil =>
      intro start pcr
      rw [overlay_bank_none]
      exact decodes_pure pcr
  | cons value rest ih =>
      intro start pcr
      have others := ih (fun value member => sized value (List.mem_cons_of_mem _ member)) (start + 1)
        (pcr.putRegister hashAlg start value)
      rw [put_register_overlays, overlay_bank_cons] at others
      refine decodes_bind _ _ _ _ _ _ (decodes_read_sized _ (sized value List.mem_cons_self)) ?_
      rw [put_register_overlays]
      exact others

def overlayBanks (entries : List (UInt16 × PcrBank)) (pcr : PcrBanks) : PcrBanks :=
  entries.foldl (fun pcr entry => overlayBank entry.1 0 entry.2 pcr) pcr

structure BankFits (bank : PcrBank) : Prop where
  few : bank.length < 2 ^ 32
  sized : ∀ value ∈ bank, value.length < 65536

theorem decodes_banks (entries : List (UInt16 × PcrBank)) (fit : ∀ entry ∈ entries, BankFits entry.2) :
    ∀ pcr : PcrBanks, Decodes (PcrBanks.unmarshalBanks entries.length pcr)
      (entries.flatMap fun entry => be16 entry.1 ++ be32 (UInt32.ofNat entry.2.length) ++ entry.2.flatMap sized16)
      (overlayBanks entries pcr) := by
  induction entries with
  | nil => exact fun pcr => decodes_pure pcr
  | cons entry rest ih =>
      intro pcr
      have fits := fit entry List.mem_cons_self
      have size : (UInt32.ofNat entry.2.length).toNat = entry.2.length := UInt32.toNat_ofNat_of_lt' fits.few
      have others := ih (fun entry member => fit entry (List.mem_cons_of_mem _ member)) (overlayBank entry.1 0 entry.2 pcr)
      have registers := decodes_registers entry.1 entry.2 fits.sized 0 pcr
      simp only [List.flatMap_cons, List.append_assoc]
      refine decodes_bind _ _ _ _ _ _ (decodes_u16 _) ?_
      refine decodes_bind _ _ _ _ _ _ (decodes_u32 _) ?_
      rw [size]
      exact decodes_bind _ _ _ _ _ _ registers others

-- Of the banks that were written each key has at most one, so that a bank is gone over at most once.
theorem overlay_banks_get (entries : List (UInt16 × PcrBank)) (ordered : Ascending entries) :
    ∀ (pcr : PcrBanks) (key : UInt16), (overlayBanks entries pcr).banks.get key =
      (pcr.banks.get key).map (overlay 0 ((findEntry key entries).getD [])) := by
  induction entries with
  | nil =>
      intro pcr key
      show pcr.banks.get key = (pcr.banks.get key).map (overlay 0 [])
      cases pcr.banks.get key <;> simp [overlay_none]
  | cons entry rest ih =>
      intro pcr key
      obtain ⟨below, later⟩ := List.pairwise_cons.mp ordered
      show (overlayBanks rest (overlayBank entry.1 0 entry.2 pcr)).banks.get key = _
      rw [ih later, overlay_bank_get]
      obtain ⟨a, bank⟩ := entry
      by_cases here : key = a
      · subst here
        have absent : findEntry key rest = none := find_below key rest below
        rw [absent, findEntry, if_pos rfl]
        cases pcr.banks.get key <;> simp [overlay_none]
      · have apart : ¬ rank a = rank key := fun same => here (Rank.injective same).symm
        rw [findEntry, if_neg apart]
        cases pcr.banks.get key <;> simp [here]

theorem overlay_banks_rest (entries : List (UInt16 × PcrBank)) : ∀ pcr : PcrBanks,
    (overlayBanks entries pcr).allocated = pcr.allocated := by
  induction entries with
  | nil => exact fun _ => rfl
  | cons entry rest ih => exact fun pcr => ih (overlayBank entry.1 0 entry.2 pcr)

structure PcrFits (pcr : PcrBanks) : Prop where
  few : pcr.banks.size < 2 ^ 32
  banks : ∀ entry ∈ pcr.banks.entries, BankFits entry.2

theorem decodes_pcr (fresh saved : TpmState) (allocation : PcrAllocation) (made : PcrBanks)
    (new : PcrBanks.new allocation = .ok made) (fits : PcrFits saved.pcr) :
    Decodes (readPcr allocation) (saved.pcr.marshalValues ++ be32 saved.pcr.updateCounter)
      (TpmState.restoredPcr fresh saved allocation) := by
  have same : ({ overlayBanks saved.pcr.banks.entries made with updateCounter := saved.pcr.updateCounter } : PcrBanks) =
      TpmState.restoredPcr fresh saved allocation := by
    unfold TpmState.restoredPcr
    rw [new]
    refine banks_ext _ _ (fun key => ?_) (overlay_banks_rest _ made) rfl
    show (overlayBanks saved.pcr.banks.entries made).banks.get key = (made.banks.mapValues _).get key
    rw [overlay_banks_get _ saved.pcr.banks.ascending, SortedMap.get_map_values]
    rfl
  have size : (UInt32.ofNat saved.pcr.banks.size).toNat = saved.pcr.banks.entries.length :=
    UInt32.toNat_ofNat_of_lt' fits.few
  have values : Decodes made.unmarshalValues saved.pcr.marshalValues (overlayBanks saved.pcr.banks.entries made) := by
    refine decodes_bind _ _ _ _ _ _ (decodes_u32 _) ?_
    rw [size]
    exact decodes_banks _ fits.banks made
  rw [← same]
  show Decodes _ ([] ++ (saved.pcr.marshalValues ++ be32 saved.pcr.updateCounter)) _
  refine decodes_bind _ _ _ _ _ _ (decodes_lifted _ made new) ?_
  refine decodes_bind _ _ _ _ _ _ values ?_
  exact decodes_bind_last _ _ _ _ _ (decodes_u32 _) (decodes_pure _)

theorem allocate_into_ok (allocation : PcrAllocation) (known : ∀ bank ∈ allocation, (digestSize bank.1).isSome = true) :
    ∀ maps, ∃ made, PcrBanks.allocateInto maps allocation = .ok made := by
  induction allocation with
  | nil => exact fun maps => ⟨maps, rfl⟩
  | cons bank rest ih =>
      intro maps
      have others := ih fun bank member => known bank (List.mem_cons_of_mem _ member)
      obtain ⟨size, sized⟩ := Option.isSome_iff_exists.mp (known bank List.mem_cons_self)
      unfold PcrBanks.allocateInto
      by_cases some : bank.2.any id = true
      · rw [if_pos some, sized]
        exact others _
      · rw [if_neg some]
        exact others maps

theorem kept_allocation_known (saved : PcrAllocation) (bank : UInt16 × List Bool) (member : bank ∈ keptAllocation saved) :
    (digestSize bank.1).isSome = true := by
  unfold keptAllocation at member
  dsimp only at member
  split at member
  · unfold PcrBanks.wholeBanks at member
    obtain ⟨a, default, rfl⟩ := List.mem_map.mp member
    have sha : a = Alg.sha256 ∨ a = Alg.sha384 := by simpa [Config.defaultPcrBanks] using default
    rcases sha with rfl | rfl <;> rfl
  · obtain ⟨size, sized⟩ := implemented_bank_width bank.1 (List.mem_filter.mp member).2
    rw [sized]
    rfl

theorem kept_allocation_made (saved : PcrAllocation) : ∃ made, PcrBanks.new (keptAllocation saved) = .ok made := by
  obtain ⟨made, ran⟩ := allocate_into_ok (keptAllocation saved) (kept_allocation_known saved)
    (SortedMap.empty, SortedMap.empty)
  refine ⟨PcrBanks.resetAllBut { PcrBanks.empty with banks := made.1, allocated := made.2 } none 0, ?_⟩
  unfold PcrBanks.new PcrBanks.allocate
  rw [ran]
  rfl

structure NvIndexFits (index : NvIndex) : Prop where
  area : Legible NvPublic.unmarshal NvPublic.marshal index.area
  auth : index.auth.length < 65536
  data : index.data.length < 65536

theorem decodes_nv_index (index : NvIndex) (fits : NvIndexFits index) :
    Decodes readNvIndex (saveNvIndex index) index := by
  simp only [saveNvIndex, List.append_assoc]
  refine decodes_bind _ _ _ _ _ _ (decodes_of_legible _ _ _ steady_nv_public fits.area) ?_
  refine decodes_bind _ _ _ _ _ _ (decodes_read_sized _ fits.auth) ?_
  refine decodes_bind _ _ _ _ _ _ (decodes_read_sized _ fits.data) ?_
  refine decodes_bind _ _ _ _ _ _ (decodes_flag _) ?_
  exact decodes_bind_last _ _ _ _ _ (decodes_flag _) (decodes_pure index)

theorem define_nv_is_ok (nv next : NvStore) (index : NvIndex) :
    defineNv nv index = .ok next ↔ Action.Succeeds (NvStore.define index) nv () next := by
  have both : defineNv nv index = .ok next ↔ Action.Succeeds (do NvStore.define index; get) nv next next := by
    unfold defineNv Action.eval Action.Succeeds
    cases ended : (do NvStore.define index; get : Action TpmRc NvStore NvStore) nv with
    | error e after => simp
    | ok value after =>
        obtain ⟨_, _, _, got⟩ := (Action.succeeds_bind _ _ _ _ _).mp ended
        obtain ⟨rfl, rfl⟩ := (Action.succeeds_get _ _ _).mp got
        simp
  rw [both, Action.succeeds_bind]
  constructor
  · rintro ⟨u, middle, defined, got⟩
    obtain ⟨rfl, -⟩ := (Action.succeeds_get _ _ _).mp got
    exact defined
  · intro defined
    exact ⟨(), next, defined, (Action.succeeds_get _ _ _).mpr ⟨rfl, rfl⟩⟩

-- Indices that can be defined one after the other are read so.
theorem decodes_nv_indices (indices : List NvIndex) (fit : ∀ index ∈ indices, NvIndexFits index) :
    ∀ nv loaded : NvStore, Action.Succeeds (NvStore.defineAll indices) nv () loaded →
      Decodes (readNvIndices indices.length nv) (indices.flatMap saveNvIndex) loaded := by
  induction indices with
  | nil =>
      intro nv loaded ran
      obtain ⟨-, rfl⟩ := (Action.succeeds_pure _ _ _ _).mp ran
      exact decodes_pure nv
  | cons index rest ih =>
      intro nv loaded ran
      obtain ⟨u, next, defined, others⟩ := (Action.succeeds_bind _ _ _ _ _).mp ran
      refine decodes_bind _ _ _ _ _ _ (decodes_nv_index index (fit index List.mem_cons_self)) ?_
      show Decodes _ ([] ++ rest.flatMap saveNvIndex) loaded
      refine decodes_bind _ _ _ _ _ _ (decodes_lifted _ next ((define_nv_is_ok nv next index).mpr defined)) ?_
      exact ih (fun index member => fit index (List.mem_cons_of_mem _ member)) next loaded others

theorem define_highest (nv next : NvStore) (index : NvIndex)
    (defined : Action.Succeeds (NvStore.define index) nv () next) :
    next.highestCounter = (nv.noteCounter index).highestCounter := by
  unfold NvStore.define at defined
  simp only [Action.succeeds_bind, Action.succeeds_modify, Action.succeeds_get, Action.succeeds_guard,
    Action.succeeds_set] at defined
  obtain ⟨_, _, rfl, _, _, ⟨rfl, rfl⟩, _, _, _, rfl⟩ := defined
  rfl

theorem define_all_highest (indices : List NvIndex) :
    ∀ nv loaded : NvStore, Action.Succeeds (NvStore.defineAll indices) nv () loaded → loaded.highestCounter =
      (indices.map NvIndex.count).foldl (fun floor count => count.value.elim floor (max floor)) nv.highestCounter := by
  induction indices with
  | nil =>
      intro nv loaded ran
      obtain ⟨-, rfl⟩ := (Action.succeeds_pure _ _ _ _).mp ran
      rfl
  | cons index rest ih =>
      intro nv loaded ran
      obtain ⟨u, next, defined, others⟩ := (Action.succeeds_bind _ _ _ _ _).mp ran
      rw [ih next loaded others, define_highest nv next index defined, NvStore.note_counter_tally]
      rfl

-- The Indices lie under their handles, and fit into the NV memory.
structure NvFits (nv : NvStore) : Prop where
  few : nv.indices.size ≤ 4096
  indices : ∀ index ∈ nv.indices.values, NvIndexFits index
  spacious : NvStore.Spacious nv.plots

-- As the Indices are defined one after the other, the floor of the counters rises to what each of them has counted.
theorem raised_floor (nv loaded : NvStore)
    (defined : Action.Succeeds (NvStore.defineAll nv.indices.values) NvStore.new () loaded)
    (same : loaded.indices = nv.indices) : loaded.raiseFloor nv.highestCounter = TpmState.restoredNv nv := by
  have highest := define_all_highest nv.indices.values NvStore.new loaded defined
  have restored : (TpmState.restoredNv nv).highestCounter = max loaded.highestCounter nv.highestCounter := by
    refine (nv.noted_highest nv.indices.values).trans ?_
    rw [highest, ← NvTally.notes_from]
    refine congrArg (List.foldl _ · _) ?_
    show nv.highestCounter = max 0 nv.highestCounter
    rw [← UInt64.toNat_inj, UInt64.toNat_max]
    exact (Nat.zero_max _).symm
  unfold NvStore.raiseFloor
  rw [same, ← TpmState.restored_nv_indices nv]
  exact congrArg (NvStore.mk (TpmState.restoredNv nv).indices) restored.symm

theorem decodes_nv (nv : NvStore) (fits : NvFits nv) :
    Decodes (readNv stateVersion) (saveNv nv) (TpmState.restoredNv nv) := by
  obtain ⟨loaded, defined, same⟩ := nv.defined_again fits.spacious
  have raised := raised_floor nv loaded defined same
  have count : nv.indices.values.length = nv.indices.size := List.length_map _
  simp only [saveNv, List.append_assoc]
  refine decodes_bind _ _ _ _ _ _ (decodes_since _ _ _ _ _ _ (by decide) (decodes_u64 _)) ?_
  refine decodes_bind _ _ _ _ _ _ (decodes_bounded_count _ _ fits.few (by decide)) ?_
  rw [← count]
  refine decodes_bind_last _ _ _ _ _ (decodes_nv_indices _ fits.indices _ _ defined) ?_
  rw [raised]
  exact decodes_pure _

-- A public area and, where there is one, a sensitive area that pass what TPM2_Load would ask of them, under the Name of
-- the public area, in an object that is not bound to the next startup.
structure ObjectFits (object : Object) : Prop where
  area : Legible TpmtPublic.unmarshal TpmtPublic.marshal object.area
  sensitive : ∀ sensitive, object.sensitive = some sensitive →
    Legible TpmtSensitive.unmarshal TpmtSensitive.marshal sensitive
  valid : validateRestored object.area object.sensitive = .ok ()
  name : objectName object.area = .ok object.name
  unmarked : object.area.objectAttributes.has ObjectAttributes.stClear = false
  lasting : object.stateClear = false

-- Whatever has a Name has a Qualified Name under every parent.
theorem qualified_of_named (area : TpmtPublic) (name parent : Bytes) (named : objectName area = .ok name) :
    ∃ qualified, qualifiedName area.nameAlg parent name = .ok qualified := by
  unfold objectName at named
  unfold qualifiedName
  by_cases null : area.nameAlg = Alg.null
  · rw [if_pos null]
    exact ⟨[], rfl⟩
  · rw [if_neg null] at named ⊢
    unfold hashedName Hash.digest at named ⊢
    cases sized : Hash.digestSize area.nameAlg with
    | error e =>
        rw [sized] at named
        cases named
    | ok size => exact ⟨_, rfl⟩

theorem object_made (object : Object) (fits : ObjectFits object) :
    Object.new object.area object.sensitive object.hierarchy (handleName object.hierarchy) object.tpmGenerated =
      .ok (TpmState.restoredObject object) := by
  obtain ⟨qualified, made⟩ := qualified_of_named object.area object.name (handleName object.hierarchy) fits.name
  unfold Object.new TpmState.restoredObject
  rw [fits.name]
  show (do
    let qualifiedName ← qualifiedName object.area.nameAlg (handleName object.hierarchy) object.name
    return (⟨object.area, object.sensitive, object.name, qualifiedName, object.hierarchy, object.tpmGenerated,
      object.area.objectAttributes.has ObjectAttributes.stClear⟩ : Object) : TpmResult Object) = _
  rw [made, fits.unmarked]
  show (Except.ok _ : TpmResult Object) = _
  rw [← fits.lasting]
  rfl

theorem decodes_object (entry : UInt32 × Object) (fits : ObjectFits entry.2) :
    Decodes (readObject stateVersion) (saveObject entry) (entry.1, TpmState.restoredObject entry.2) := by
  have recorded : Decodes (some <$> readFlag) (beBool entry.2.stateClear) (some entry.2.stateClear) := by
    rw [map_eq_pure_bind]
    exact decodes_bind_pure _ some _ _ (decodes_flag _)
  have sensitive : Decodes (readOption TpmtSensitive.unmarshal) (beOption TpmtSensitive.marshal entry.2.sensitive)
      entry.2.sensitive :=
    decodes_option _ _ _ fun a held => decodes_of_legible _ _ _ steady_sensitive (fits.sensitive a held)
  simp only [saveObject, List.append_assoc]
  refine decodes_bind _ _ _ _ _ _ (decodes_u32 _) ?_
  refine decodes_bind _ _ _ _ _ _ (decodes_u32 _) ?_
  refine decodes_bind _ _ _ _ _ _ (decodes_flag _) ?_
  refine decodes_bind _ _ _ _ _ _ (decodes_since _ _ _ _ _ _ (by decide) recorded) ?_
  refine decodes_bind _ _ _ _ _ _ (decodes_of_legible _ _ _ (steady_public false) fits.area) ?_
  refine decodes_bind_last _ _ _ _ _ sensitive ?_
  show Decodes _ ([] ++ []) _
  refine decodes_bind _ _ _ _ _ _ (decodes_lifted _ () fits.valid) ?_
  rw [fits.lasting]
  show Decodes _ ([] ++ []) _
  exact decodes_bind _ _ _ _ _ _ (decodes_lifted _ _ (object_made entry.2 fits)) (decodes_pure _)

structure PersistentFits (persistent : SortedMap UInt32 Object) : Prop where
  few : persistent.size ≤ Config.minEvictObjects * 64
  objects : ∀ entry ∈ persistent.entries, ObjectFits entry.2

theorem decodes_objects (entries : List (UInt32 × Object)) (fit : ∀ entry ∈ entries, ObjectFits entry.2) :
    Decodes (decodeMany (readObject stateVersion) entries.length) (entries.flatMap saveObject)
      (entries.map fun entry => (entry.1, TpmState.restoredObject entry.2)) := by
  induction entries with
  | nil => exact decodes_pure []
  | cons entry rest ih =>
      have others := ih fun entry member => fit entry (List.mem_cons_of_mem _ member)
      refine decodes_bind _ _ _ _ _ _ (decodes_object entry (fit entry List.mem_cons_self)) ?_
      exact decodes_bind_pure _ (_ :: ·) _ _ others

theorem decodes_persistent (persistent : SortedMap UInt32 Object) (fits : PersistentFits persistent) :
    Decodes (readPersistent stateVersion) (savePersistent persistent)
      (persistent.mapValues fun _ object => TpmState.restoredObject object) := by
  refine decodes_bind _ _ _ _ _ _ (decodes_bounded_count _ _ fits.few (by decide)) ?_
  refine decodes_bind_last _ _ _ _ _ (decodes_objects _ fits.objects) ?_
  have again := SortedMap.of_list_entries (persistent.mapValues fun _ object => TpmState.restoredObject object)
  rw [← again]
  exact decodes_pure _

structure CommitsFit (commits : Commits) : Prop where
  random : commits.isReady = true → commits.random.length = Config.commitNonceBytes
  used : commits.isReady = true → commits.used.length = Config.maxCommitSequences / 8

theorem decodes_commits (commits fresh : Commits) (fit : CommitsFit commits) :
    Decodes (readCommits fresh) (saveCommits commits) (if commits.isReady then commits else fresh) := by
  cases ready : commits.isReady with
  | true =>
      have random := fit.random ready
      have used := fit.used ready
      have shortRandom : commits.random.length < 65536 := by
        rw [random]
        decide
      have shortUsed : commits.used.length < 65536 := by
        rw [used]
        decide
      have given : ¬ (commits.random.isEmpty && commits.used.isEmpty) = true := by
        unfold Commits.isReady at ready
        simp only [Bool.and_eq_true, Bool.not_eq_true'] at ready ⊢
        rw [ready.1]
        exact fun both => Bool.false_ne_true both.1
      unfold saveCommits
      rw [if_pos ready, if_pos rfl]
      refine decodes_unless_end _ _ _ _ ?_ ?_
      · intro none
        have length := congrArg List.length none
        simp [sized16] at length
      simp only [List.append_assoc]
      refine decodes_bind _ _ _ _ _ _ (decodes_read_sized _ shortRandom) ?_
      refine decodes_bind _ _ _ _ _ _ (decodes_u64 _) ?_
      refine decodes_bind_last _ _ _ _ _ (decodes_read_sized _ shortUsed) ?_
      rw [if_neg given, if_neg (by rw [random, used]; decide)]
      exact decodes_pure commits
  | false =>
      unfold saveCommits
      rw [ready, if_neg Bool.false_ne_true, if_neg Bool.false_ne_true]
      refine decodes_unless_end _ _ _ _ ?_ ?_
      · intro none
        have length := congrArg List.length none
        simp [sized16] at length
      simp only [List.append_assoc]
      refine decodes_bind _ _ _ _ _ _ (decodes_read_sized _ (by decide)) ?_
      refine decodes_bind _ _ _ _ _ _ (decodes_u64 _) ?_
      refine decodes_bind_last _ _ _ _ _ (decodes_read_sized _ (by decide)) ?_
      exact decodes_pure fresh

structure ActFits (act : Act) : Prop where
  digest : act.policy.digest.length < 65536
  policy : TpmtHa.new act.policy.hashAlg act.policy.digest = .ok act.policy

theorem decodes_act (act fresh : Act) (everStarted started : Bool) (fits : ActFits act) :
    Decodes (readAct fresh started) (saveAct act everStarted)
      ({ fresh.restore act.timeout act.signaled with policy := act.policy }, everStarted) := by
  have ever : Decodes readEverStarted (beBool everStarted) everStarted :=
    decodes_unless_end _ _ _ _ (List.cons_ne_nil _ _) (decodes_bit _)
  refine decodes_unless_end _ _ _ _ ?_ ?_
  · intro none
    have length := congrArg List.length none
    simp [saveAct] at length
  simp only [saveAct, List.append_assoc]
  refine decodes_bind _ _ _ _ _ _ (decodes_u32 _) ?_
  refine decodes_bind _ _ _ _ _ _ (decodes_bit _) ?_
  refine decodes_bind _ _ _ _ _ _ (decodes_u16 _) ?_
  refine decodes_bind _ _ _ _ _ _ (decodes_read_sized _ fits.digest) ?_
  show Decodes _ ([] ++ beBool everStarted) _
  refine decodes_bind _ _ _ _ _ _ (decodes_lifted _ _ fits.policy) ?_
  exact decodes_bind_last _ _ _ _ _ ever (decodes_pure _)

theorem decodes_startup (s saved : TpmState) :
    Decodes (readStartup stateVersion s) (saveStartup saved) { s with
      startupClear := saved.startupClear
      hcrtmAtLastStartup := saved.hcrtmAtLastStartup
      startupLocality := saved.startupLocality } := by
  unfold readStartup
  rw [if_neg (by decide)]
  refine decodes_unless_end _ _ _ _ ?_ ?_
  · intro none
    have length := congrArg List.length none
    simp [saveStartup] at length
  simp only [saveStartup, List.append_assoc]
  refine decodes_bind _ _ _ _ _ _ (decodes_u32 _) ?_
  rw [if_neg (by decide)]
  refine decodes_bind _ _ _ _ _ _ (decodes_flag _) ?_
  exact decodes_bind_last _ _ _ _ _ (decodes_u8 _) (decodes_pure _)

theorem decodes_saved_context (entry : UInt32 × UInt64) : Decodes readSavedContext (saveSavedContext entry) entry := by
  refine decodes_bind _ _ _ _ _ _ (decodes_u32 _) ?_
  exact decodes_bind_last _ _ _ _ _ (decodes_u64 _) (decodes_pure _)

theorem decodes_saved_contexts (sessions fresh : SessionSlots) (few : sessions.saved.size ≤ Config.maxActiveSessions) :
    Decodes (readSavedContexts stateVersion fresh) (saveSavedContexts sessions)
      (fresh.restoreSavedContexts sessions.saved.entries sessions.contextCounter sessions.objectCounter) := by
  unfold readSavedContexts
  rw [if_neg (by decide)]
  refine decodes_unless_end _ _ _ _ ?_ ?_
  · intro none
    have length := congrArg List.length none
    simp [saveSavedContexts] at length
  simp only [saveSavedContexts, List.append_assoc]
  refine decodes_bind _ _ _ _ _ _ (decodes_bounded_count _ _ few (by decide)) ?_
  refine decodes_bind _ _ _ _ _ _ (decodes_many _ saveSavedContext _ fun entry _ => decodes_saved_context entry) ?_
  refine decodes_bind _ _ _ _ _ _ (decodes_u64 _) ?_
  rw [if_neg (by decide)]
  exact decodes_bind_last _ _ _ _ _ (decodes_u64 _) (decodes_pure _)

end

end Record

namespace TpmState

section

variable [Primitives]

-- What goes into a record and comes out of it again: every part is as long as its length says at most, there are no
-- more of each than are read back, what has a form of its own is written in it, the Indices fit into the NV memory under
-- their handles, and the objects pass what is asked of them. A TPM without a resetValue needs one to be drawn for it.
structure Recordable (fresh s : TpmState) : Prop where
  hierarchies : HierarchiesFit s.hierarchies
  permanent : Legible Flags32.unmarshal Flags32.marshal s.permanent
  resetValue : s.clock.resetValue.length < 65536
  drawn : s.clock.resetValue = [] → (do
    Drbg.run (Drbg.bytes (← Hash.digestSize Config.contextIntegrityHashAlg)) fresh.rng : TpmResult (Bytes × Drbg)).isOk
  lockoutAuth : s.lockoutAuth.length < 65536
  lockoutPolicy : Whole s.lockoutPolicy
  pcrAuth : s.pcrAuth.length < 65536
  pcrPolicy : Whole s.pcrPolicy
  allocation : AllocationFits s.pcrAllocation
  pcr : PcrFits s.pcr
  ppCommands : s.ppCommands.length ≤ 512
  audit : AuditFits s.audit
  nv : NvFits s.nv
  persistent : PersistentFits s.persistent
  commits : CommitsFit s.commits
  act : ActFits s.act
  sessions : s.sessions.saved.size ≤ Config.maxActiveSessions

theorem reset_value_drawn (fresh s : TpmState) (recordable : Recordable fresh s) :
    drawResetValue fresh.rng (s.clock.restored s.clock.resetValue) =
      .ok ((restored fresh s).clock, (restored fresh s).rng) := by
  unfold drawResetValue
  cases kept : s.clock.resetValue.isEmpty with
  | false =>
      have given : ¬ (s.clock.restored s.clock.resetValue).resetValue.isEmpty = true := by
        show ¬ s.clock.resetValue.isEmpty = true
        rw [kept]
        decide
      rw [if_neg given]
      simp only [restored, kept]
      rfl
  | true =>
      have none : s.clock.resetValue = [] := List.isEmpty_iff.mp kept
      have sized : Hash.digestSize Config.contextIntegrityHashAlg = .ok 64 := rfl
      have drawn : (Drbg.run (Drbg.bytes 64) fresh.rng).isOk = true := recordable.drawn none
      have emptied : (s.clock.restored s.clock.resetValue).resetValue.isEmpty = true := kept
      rw [if_pos emptied, sized]
      cases ran : Drbg.run (Drbg.bytes 64) fresh.rng with
      | error e =>
          rw [ran] at drawn
          cases drawn
      | ok made =>
          simp only [restored, kept, sized]
          show (do
            let drawn ← Drbg.run (Drbg.bytes 64) fresh.rng
            return ({ s.clock.restored s.clock.resetValue with resetValue := drawn.1 }, drawn.2) : TpmResult _) = _
          rw [ran]
          show _ = Except.ok (s.clock.restored ((Drbg.run (Drbg.bytes 64) fresh.rng).toOption.getD ([], fresh.rng)).1,
            ((Drbg.run (Drbg.bytes 64) fresh.rng).toOption.getD ([], fresh.rng)).2)
          rw [ran]
          rfl

theorem load_save (fresh s : TpmState) (recordable : Recordable fresh s) : load fresh (save s) = .ok (restored fresh s) := by
  obtain ⟨made, new⟩ := kept_allocation_made s.pcrAllocation
  have whole : (read fresh).run (save s) = .ok (restored fresh s, []) := by
    unfold TpmState.read save
    simp only [List.append_assoc]
    refine (run_bind_decodes _ _ _ _ _ (decodes_u32 _)).trans ?_
    rw [if_neg (by decide)]
    refine (run_bind_decodes _ _ _ _ isStrict (decodes_bit _)).trans ?_
    rw [if_neg (not_not.mpr rfl)]
    refine (run_bind_decodes _ _ _ _ _ (decodes_flag _)).trans ?_
    refine (run_bind_decodes _ _ _ _ _ (decodes_hierarchies _ _ recordable.hierarchies)).trans ?_
    refine (run_bind_decodes _ _ _ _ _ (decodes_lockout _)).trans ?_
    refine (run_bind_decodes _ _ _ _ _ (decodes_of_legible _ _ _ steady_flags recordable.permanent)).trans ?_
    refine (run_bind_decodes _ _ _ _ _ (decodes_clock _ recordable.resetValue)).trans ?_
    refine (run_bind_decodes _ _ [] _ _ (decodes_lifted _ _ (reset_value_drawn fresh s recordable))).trans ?_
    refine (run_bind_decodes _ _ _ _ _ (decodes_u32 _)).trans ?_
    refine (run_bind_decodes _ _ _ _ _ (decodes_read_sized _ recordable.lockoutAuth)).trans ?_
    refine (run_bind_decodes _ _ _ _ _ (decodes_policy _ recordable.lockoutPolicy)).trans ?_
    refine (run_bind_decodes _ _ _ _ _ (decodes_read_sized _ recordable.pcrAuth)).trans ?_
    refine (run_bind_decodes _ _ _ _ _ (decodes_policy _ recordable.pcrPolicy)).trans ?_
    refine (run_bind_decodes _ _ _ _ _ (decodes_u16 _)).trans ?_
    refine (run_bind_decodes _ _ _ _ _ (decodes_allocation _ recordable.allocation)).trans ?_
    rw [← List.append_assoc s.pcr.marshalValues]
    refine (run_bind_decodes _ _ _ _ _ (decodes_pcr fresh s _ made new recordable.pcr)).trans ?_
    refine (run_bind_decodes _ _ _ _ _ (decodes_codes _ recordable.ppCommands)).trans ?_
    refine (run_bind_decodes _ _ _ _ _ (decodes_audit _ _ recordable.audit)).trans ?_
    refine (run_bind_decodes _ _ _ _ _ (decodes_nv _ recordable.nv)).trans ?_
    refine (run_bind_decodes _ _ _ _ _ (decodes_persistent _ recordable.persistent)).trans ?_
    refine (run_bind_decodes _ _ _ _ _ (decodes_commits _ _ recordable.commits)).trans ?_
    refine (run_bind_decodes _ _ _ _ _ (decodes_act _ _ _ _ recordable.act)).trans ?_
    refine (run_bind_decodes _ _ _ _ _ (decodes_startup _ s)).trans ?_
    rw [← List.append_nil (saveSavedContexts s.sessions)]
    refine (run_bind_decodes _ _ _ _ _ (decodes_saved_contexts _ _ recordable.sessions)).trans ?_
    rfl
  unfold load
  rw [whole]
  rfl

end

end TpmState

namespace Toy

-- An ORDERLY counter that was rounded up and an owner's object made persistent, and the policy and the sizes of
-- everything else as manufacture leaves them.
def owned (s : TpmState) : TpmState :=
  ((Tpm.manufactured s).afterAll
    (roundedUp ++ sent [createSealed Rh.owner, evictSealed Rh.owner Hc.persistentFirst])).state

-- The object comes back, and the count, which the floor of the counters has now come up to.
theorem owned_comes_back : ∃ s, (owned s).persistent.contains Hc.persistentFirst = true ∧
    (owned s).nv.tally.valueAt counterHandle = some 255 ∧ (owned s).nv.highestCounter = 1 ∧
    TpmState.load s (owned s).save = .ok (TpmState.restored s (owned s)) ∧
    (TpmState.restored s (owned s)).nv.highestCounter = 255 := by
  have tested : found (TpmState.manufacture (List.replicate 48 7)) (fun s =>
      let kept := owned s
      kept.persistent.contains Hc.persistentFirst &&
      decide (kept.nv.tally.valueAt counterHandle = some 255 ∧ kept.nv.highestCounter = 1 ∧
        (TpmState.restored s kept).nv.highestCounter = 255) &&
      decide (kept.nv.indices.size ≤ 4096 ∧ kept.nv.used ≤ Config.nvMemorySize) &&
      (kept.nv.indices.entries.all fun entry => decide (entry.2.area.nvIndex = entry.1) && NvStore.isNvHandle entry.1 &&
        decide (Legible NvPublic.unmarshal NvPublic.marshal entry.2.area ∧ entry.2.auth.length < 65536 ∧
          entry.2.data.length < 65536)) &&
      ([kept.hierarchies.platform, kept.hierarchies.owner, kept.hierarchies.endorsement, kept.hierarchies.null].all fun h =>
        decide (h.seed.length < 65536 ∧ h.proof.length < 65536 ∧ h.auth.length < 65536 ∧ Whole h.policy)) &&
      decide (kept.hierarchies.bootloaderSecret.length < 65536 ∧
        Legible Flags32.unmarshal Flags32.marshal kept.permanent ∧ kept.clock.resetValue.length < 65536 ∧
        kept.clock.resetValue ≠ [] ∧ kept.lockoutAuth.length < 65536 ∧ Whole kept.lockoutPolicy ∧
        kept.pcrAuth.length < 65536 ∧ Whole kept.pcrPolicy ∧ kept.pcrAllocation.length ≤ Config.hashCount ∧
        kept.pcr.banks.size < 2 ^ 32 ∧ kept.ppCommands.length ≤ 512 ∧ kept.audit.digest.length < 65536 ∧
        kept.audit.commands.length ≤ 512 ∧ kept.persistent.size ≤ Config.minEvictObjects * 64 ∧
        kept.commits.random.length = Config.commitNonceBytes ∧
        kept.commits.used.length = Config.maxCommitSequences / 8 ∧ kept.act.policy.digest.length < 65536 ∧
        TpmtHa.new kept.act.policy.hashAlg kept.act.policy.digest = .ok kept.act.policy ∧
        kept.sessions.saved.size ≤ Config.maxActiveSessions) &&
      (kept.pcrAllocation.all fun bank => decide (bank.2.length = Config.implementationPcr)) &&
      (kept.pcr.banks.entries.all fun entry => decide (entry.2.length < 2 ^ 32) &&
        entry.2.all fun value => decide (value.length < 65536)) &&
      kept.persistent.entries.all fun entry =>
        decide (Legible TpmtPublic.unmarshal TpmtPublic.marshal entry.2.area) &&
        (entry.2.sensitive.all fun sensitive => decide (Legible TpmtSensitive.unmarshal TpmtSensitive.marshal sensitive)) &&
        decide (validateRestored entry.2.area entry.2.sensitive = .ok () ∧ objectName entry.2.area = .ok entry.2.name ∧
          entry.2.area.objectAttributes.has ObjectAttributes.stClear = false ∧ entry.2.stateClear = false)) = true := by
    rw [manufacture_made]
    decide +kernel
  obtain ⟨s, -, tested⟩ := ok_of_found _ _ tested
  simp only [Bool.and_eq_true, decide_eq_true_eq, List.all_eq_true, Option.all_eq_true] at tested
  obtain ⟨⟨⟨⟨⟨⟨⟨⟨held, counted, floor, raised⟩, few, room⟩, indices⟩, hierarchies⟩, parts⟩, banks⟩, registers⟩,
    objects⟩ := tested
  obtain ⟨secret, permanent, resetValue, drawn, lockoutAuth, lockoutPolicy, pcrAuth, pcrPolicy, allocation, pcr, ppCommands,
    digest, commands, persistent, random, used, actDigest, actPolicy, sessions⟩ := parts
  have each : ∀ h, h ∈ [(owned s).hierarchies.platform, (owned s).hierarchies.owner, (owned s).hierarchies.endorsement,
      (owned s).hierarchies.null] → HierarchyFits h := fun h member =>
    ⟨(hierarchies h member).1, (hierarchies h member).2.1, (hierarchies h member).2.2.1, (hierarchies h member).2.2.2⟩
  have fits : TpmState.Recordable s (owned s) :=
    { hierarchies :=
        { platform := each _ (by simp)
          owner := each _ (by simp)
          endorsement := each _ (by simp)
          null := each _ (by simp)
          bootloaderSecret := secret }
      permanent, resetValue, lockoutAuth, lockoutPolicy, pcrAuth, pcrPolicy, ppCommands, sessions
      drawn := fun none => absurd none drawn
      allocation := ⟨allocation, banks⟩
      pcr := ⟨pcr, fun entry member => ⟨(registers entry member).1, (registers entry member).2⟩⟩
      audit := ⟨digest, commands⟩
      nv :=
        { few
          indices := fun index member => by
            obtain ⟨entry, inside, rfl⟩ := List.mem_map.mp member
            obtain ⟨_, area, auth, data⟩ := indices entry inside
            exact ⟨area, auth, data⟩
          spacious := NvStore.spacious_of_entries _ room fun entry inside => (indices entry inside).1 }
      persistent := ⟨persistent, fun entry member => by
        obtain ⟨⟨area, sensitive⟩, valid, name, unmarked, lasting⟩ := objects entry member
        exact ⟨area, sensitive, valid, name, unmarked, lasting⟩⟩
      commits := ⟨fun _ => random, fun _ => used⟩
      act := ⟨actDigest, actPolicy⟩ }
  exact ⟨s, held, counted, floor, TpmState.load_save s (owned s) fits, raised⟩

end Toy

end Swtrust
