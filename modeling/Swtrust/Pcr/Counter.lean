import Swtrust.Toy

set_option autoImplicit false
set_option linter.unusedSectionVars false

namespace Swtrust

open Library Library.Action

namespace PcrBanks

def digestsOf (hashAlg : UInt16) (digests : List (UInt16 × Bytes)) : List Bytes :=
  (digests.filter fun entry => entry.1 = hashAlg).map Prod.snd

theorem digests_of_append (a : UInt16) (first second : List (UInt16 × Bytes)) :
    digestsOf a (first ++ second) = digestsOf a first ++ digestsOf a second := by
  simp [digestsOf]

-- The banks of a list that have the register, each once.
def touched (pcr : PcrBanks) (index : Nat) (named : List UInt16) : Finset UInt16 :=
  named.toFinset.filter fun a => pcr.hasBank a ∧ pcr.hasPcr a index

theorem touched_subset (pcr : PcrBanks) (index : Nat) (named : List UInt16) :
    pcr.touched index named ⊆ named.toFinset.filter fun a => pcr.hasBank a := by
  intro a member
  simp only [touched, Finset.mem_filter] at member ⊢
  exact ⟨member.1, member.2.1⟩

theorem algorithms_has_bank (pcr : PcrBanks) (a : UInt16) (listed : a ∈ pcr.algorithms) : pcr.hasBank a = true := by
  obtain ⟨⟨key, bank⟩, member, rfl⟩ := List.mem_map.mp listed
  have found := SortedMap.mem_get pcr.banks key bank member
  simp [hasBank, SortedMap.contains, found]

theorem card_le (found : Finset UInt16) : found.card ≤ 65536 := by
  have injective : Function.Injective UInt16.toNat := fun _ _ same => UInt16.toNat_inj.mp same
  calc found.card = (found.image UInt16.toNat).card := (Finset.card_image_of_injective found injective).symm
    _ ≤ (Finset.range 65536).card := by
        apply Finset.card_le_card
        intro n member
        obtain ⟨a, _, rfl⟩ := Finset.mem_image.mp member
        exact Finset.mem_range.mpr a.toNat_lt
    _ = 65536 := Finset.card_range _

-- Adding numbers of banks to the counter tells them apart.
theorem counter_apart (counter : UInt32) (m n : Nat) (small : m ≤ 65536) (other : n ≤ 65536) :
    counter + UInt32.ofNat m = counter + UInt32.ofNat n ↔ m = n := by
  constructor
  · intro same
    have equal := congrArg UInt32.toNat (UInt32.add_right_inj counter |>.mp same)
    rw [UInt32.toNat_ofNat_of_lt' (by change m < 4294967296; omega),
      UInt32.toNat_ofNat_of_lt' (by change n < 4294967296; omega)] at equal
    exact equal
  · rintro rfl
    rfl

section

variable [Crypto]

-- One bank with its register extended with several digests in turn.
def extendBank (hashAlg : UInt16) (index : Nat) : PcrBank → List Bytes → TpmResult PcrBank
  | bank, [] => .ok bank
  | bank, digest :: rest => do
    let next ← Hash.digestParts hashAlg [bank[index]?.getD [], digest]
    extendBank hashAlg index (bank.set index next) rest

-- What a list of digests does to the banks: each that has the register is extended with its own digests.
structure Extended (index : Nat) (digests : List (UInt16 × Bytes)) (before after : PcrBanks) : Prop where
  allocated : after.allocated = before.allocated
  absent : ∀ a, before.banks.get a = none → after.banks.get a = none
  kept : ∀ a, before.hasPcr a index = false → after.banks.get a = before.banks.get a
  extended : ∀ a bank, before.hasPcr a index = true → before.banks.get a = some bank →
    ∃ later, after.banks.get a = some later ∧ extendBank a index bank (digestsOf a digests) = .ok later

theorem extended_nil (index : Nat) (pcr : PcrBanks) : Extended index [] pcr pcr :=
  ⟨rfl, fun _ none => none, fun _ _ => rfl, fun _ bank _ found => ⟨bank, found, rfl⟩⟩

theorem Extended.has_bank {index : Nat} {digests : List (UInt16 × Bytes)} {before after : PcrBanks}
    (step : Extended index digests before after) (a : UInt16) : after.hasBank a = before.hasBank a := by
  unfold hasBank SortedMap.contains
  cases found : before.banks.get a with
  | none => rw [step.absent a found]
  | some bank =>
      cases has : before.hasPcr a index with
      | false => rw [step.kept a has, found]
      | true =>
          obtain ⟨later, here, _⟩ := step.extended a bank has found
          rw [here]
          rfl

theorem Extended.has_pcr {index : Nat} {digests : List (UInt16 × Bytes)} {before after : PcrBanks}
    (step : Extended index digests before after) (a : UInt16) (register : Nat) :
    after.hasPcr a register = before.hasPcr a register := by
  unfold hasPcr
  rw [step.allocated]

theorem extend_bank_append (a : UInt16) (index : Nat) (bank middle : PcrBank) (first second : List Bytes)
    (ran : extendBank a index bank first = .ok middle) :
    extendBank a index bank (first ++ second) = extendBank a index middle second := by
  induction first generalizing bank with
  | nil =>
      cases ran
      rfl
  | cons digest rest ih =>
      simp only [List.cons_append, extendBank] at ran ⊢
      cases next : Hash.digestParts a [bank[index]?.getD [], digest] with
      | error e =>
          rw [next] at ran
          cases ran
      | ok value =>
          rw [next] at ran
          exact ih _ ran

theorem extended_append (index : Nat) (first second : List (UInt16 × Bytes)) (before middle after : PcrBanks)
    (here : Extended index first before middle) (there : Extended index second middle after) :
    Extended index (first ++ second) before after := by
  refine ⟨there.allocated.trans here.allocated, fun a none => there.absent a (here.absent a none), ?_, ?_⟩
  · intro a lacks
    rw [there.kept a ((here.has_pcr a index).trans lacks), here.kept a lacks]
  · intro a bank has found
    obtain ⟨half, halfway, ran⟩ := here.extended a bank has found
    obtain ⟨later, found, rest⟩ := there.extended a half ((here.has_pcr a index).trans has) halfway
    refine ⟨later, found, ?_⟩
    rw [digests_of_append, extend_bank_append a index bank half _ _ ran, rest]

-- A digest of a bank that the TPM lacks is passed over.
theorem extended_unknown (index : Nat) (a : UInt16) (digest : Bytes) (pcr : PcrBanks) (lacks : pcr.hasBank a = false) :
    Extended index [(a, digest)] pcr pcr := by
  refine ⟨rfl, fun _ none => none, fun _ _ => rfl, fun other bank _ found => ⟨bank, found, ?_⟩⟩
  have apart : a ≠ other := by
    rintro rfl
    simp [hasBank, SortedMap.contains, found] at lacks
  simp [digestsOf, apart, extendBank]

theorem extend_digest_ran (a : UInt16) (index : Nat) (digest : Bytes) (before after : PcrBanks) (u : Unit)
    (ran : Succeeds (extendDigest a index digest) before u after) :
    Extended index [(a, digest)] before after ∧ after.updateCounter = before.updateCounter := by
  unfold extendDigest at ran
  rw [succeeds_get_bind] at ran
  by_cases has : before.hasPcr a index = true
  · rw [if_neg (by simp [has])] at ran
    obtain ⟨_, ran⟩ := (succeeds_guard _ _ _ _ _ _ _).mp ran
    cases sized : digestSize a with
    | none =>
        rw [sized] at ran
        exact absurd ran (succeeds_throw _ _ _ _)
    | some size =>
        rw [sized] at ran
        obtain ⟨_, ran⟩ := (succeeds_guard _ _ _ _ _ _ _).mp ran
        cases found : before.banks.get a with
        | none =>
            rw [found] at ran
            exact absurd ran (succeeds_throw _ _ _ _)
        | some bank =>
            rw [found] at ran
            obtain ⟨next, _, drawn, ran⟩ := (succeeds_bind _ _ _ _ _).mp ran
            obtain ⟨hashed, rfl⟩ := (succeeds_lift _ _ _ _).mp drawn
            obtain rfl := (succeeds_set _ _ _ _).mp ran
            have elsewhere : ∀ other, other ≠ a →
                (before.banks.insert a (bank.set index next)).get other = before.banks.get other :=
              fun other apart => SortedMap.get_insert_other _ _ _ _ apart
            refine ⟨⟨rfl, ?_, ?_, ?_⟩, rfl⟩
            · intro other none
              have apart : other ≠ a := by
                rintro rfl
                rw [found] at none
                cases none
              exact (elsewhere other apart).trans none
            · intro other lacks
              have apart : other ≠ a := by
                rintro rfl
                rw [has] at lacks
                cases lacks
              exact elsewhere other apart
            · intro other kept _ there
              by_cases same : other = a
              · subst same
                rw [found] at there
                obtain rfl := Option.some.inj there
                refine ⟨bank.set index next, SortedMap.get_insert_same _ _ _, ?_⟩
                have one : digestsOf other [(other, digest)] = [digest] := by simp [digestsOf]
                rw [one]
                unfold extendBank
                rw [hashed]
                rfl
              · refine ⟨kept, (elsewhere other same).trans there, ?_⟩
                simp [digestsOf, Ne.symm same, extendBank]
  · rw [if_pos (by simp [has])] at ran
    obtain ⟨_, rfl⟩ := (succeeds_pure _ _ _ _).mp ran
    refine ⟨⟨rfl, fun _ none => none, fun _ _ => rfl, fun other bank there found => ⟨bank, found, ?_⟩⟩, rfl⟩
    have apart : a ≠ other := by
      rintro rfl
      exact has there
    simp [digestsOf, apart, extendBank]

-- The banks counted are those of the list that the TPM has, whether or not they have the register.
theorem extend_all_ran (index : Nat) (digests : List (UInt16 × Bytes)) (counted found : List UInt16)
    (before after : PcrBanks) (ran : Succeeds (extendAll index digests counted) before found after) (once : counted.Nodup) :
    Extended index digests before after ∧ after.updateCounter = before.updateCounter ∧ found.Nodup ∧
      found.toFinset = counted.toFinset ∪ (digests.map Prod.fst).toFinset.filter fun a => before.hasBank a := by
  induction digests generalizing counted before with
  | nil =>
      unfold extendAll at ran
      obtain ⟨rfl, rfl⟩ := (succeeds_pure _ _ _ _).mp ran
      exact ⟨extended_nil index before, rfl, once, by simp⟩
  | cons head rest ih =>
      obtain ⟨a, digest⟩ := head
      unfold extendAll at ran
      rw [succeeds_get_bind] at ran
      by_cases has : before.hasBank a = true
      · rw [if_neg (by simp [has])] at ran
        obtain ⟨_, middle, here, ran⟩ := (succeeds_bind _ _ _ _ _).mp ran
        obtain ⟨first, same⟩ := extend_digest_ran a index digest before middle _ here
        have fresh : (if counted.contains a then counted else counted ++ [a]).Nodup := by
          by_cases already : a ∈ counted
          · simpa [already] using once
          · simpa [already, List.nodup_append] using ⟨once, fun b member same => already (same ▸ member)⟩
        obtain ⟨later, counter, nodup, members⟩ := ih _ middle ran fresh
        refine ⟨extended_append index [(a, digest)] rest before middle after first later, counter.trans same, nodup, ?_⟩
        rw [members]
        ext b
        simp only [first.has_bank, Finset.mem_union, List.mem_toFinset, Finset.mem_filter, List.map_cons, List.mem_cons]
        by_cases already : a ∈ counted
        · simp only [List.contains_iff_mem, already, if_true]
          constructor
          · rintro (old | ⟨listed, holds⟩)
            · exact .inl old
            · exact .inr ⟨.inr listed, holds⟩
          · rintro (old | ⟨rfl | listed, holds⟩)
            · exact .inl old
            · exact .inl already
            · exact .inr ⟨listed, holds⟩
        · simp only [List.contains_iff_mem, already, if_false, List.mem_append, List.mem_singleton]
          constructor
          · rintro ((old | rfl) | ⟨listed, holds⟩)
            · exact .inl old
            · exact .inr ⟨.inl rfl, has⟩
            · exact .inr ⟨.inr listed, holds⟩
          · rintro (old | ⟨rfl | listed, holds⟩)
            · exact .inl (.inl old)
            · exact .inl (.inr rfl)
            · exact .inr ⟨listed, holds⟩
      · have lacks : before.hasBank a = false := by simpa using has
        rw [if_pos (by simp [lacks])] at ran
        obtain ⟨later, counter, nodup, members⟩ := ih counted before ran once
        refine ⟨extended_append index [(a, digest)] rest before before after (extended_unknown index a digest before lacks)
          later, counter, nodup, ?_⟩
        rw [members]
        ext b
        simp only [Finset.mem_union, List.mem_toFinset, Finset.mem_filter, List.map_cons, List.mem_cons]
        constructor
        · rintro (old | ⟨listed, holds⟩)
          · exact .inl old
          · exact .inr ⟨.inr listed, holds⟩
        · rintro (old | ⟨rfl | listed, holds⟩)
          · exact .inl old
          · exact absurd holds has
          · exact .inr ⟨listed, holds⟩

-- What an extend adds to the counter is what it counted, which the registers it changed need not be.
theorem extend_ran (index : Nat) (locality : UInt8) (digests : List (UInt16 × Bytes)) (before after : PcrBanks)
    (u : Unit) (ran : Succeeds (extend index locality digests) before u after) :
    Extended index digests before after ∧ after.updateCounter = before.updateCounter +
      UInt32.ofNat (if Pcr.noIncrement index then 0
        else ((digests.map Prod.fst).toFinset.filter fun a => before.hasBank a).card) := by
  unfold extend at ran
  obtain ⟨_, ran⟩ := (succeeds_guard _ _ _ _ _ _ _).mp ran
  obtain ⟨_, ran⟩ := (succeeds_guard _ _ _ _ _ _ _).mp ran
  rw [succeeds_get_bind] at ran
  obtain ⟨_, _, checked, ran⟩ := (succeeds_bind _ _ _ _ _).mp ran
  obtain ⟨_, rfl⟩ := (succeeds_lift _ _ _ _).mp checked
  obtain ⟨counted, middle, looped, ran⟩ := (succeeds_bind _ _ _ _ _).mp ran
  obtain ⟨step, counter, once, members⟩ := extend_all_ran index digests [] counted before middle looped List.nodup_nil
  by_cases skipped : Pcr.noIncrement index = true
  · rw [if_neg (by simp [skipped])] at ran
    obtain ⟨_, rfl⟩ := (succeeds_pure _ _ _ _).mp ran
    refine ⟨step, ?_⟩
    rw [counter, if_pos skipped]
    simp
  · rw [if_pos (by simp [skipped])] at ran
    obtain rfl := (succeeds_modify _ _ _ _).mp ran
    refine ⟨⟨step.allocated, step.absent, step.kept, step.extended⟩, ?_⟩
    have length : counted.length = ((digests.map Prod.fst).toFinset.filter fun a => before.hasBank a).card := by
      rw [← List.toFinset_card_of_nodup once, members]
      simp
    rw [if_neg skipped, ← length, ← counter]

theorem hash_all_names (data : Bytes) (algorithms : List UInt16) (digests : List (UInt16 × Bytes))
    (hashed : hashAll data algorithms = .ok digests) : digests.map Prod.fst = algorithms := by
  induction algorithms generalizing digests with
  | nil =>
      cases hashed
      rfl
  | cons a rest ih =>
      obtain ⟨digest, _, hashed⟩ := (bind_is_ok _ _ _).mp hashed
      obtain ⟨others, later, hashed⟩ := (bind_is_ok _ _ _).mp hashed
      cases hashed
      simp [ih others later]

-- An event extends every bank the TPM has.
theorem event_ran (index : Nat) (locality : UInt8) (data : Bytes) (before after : PcrBanks)
    (digests : List (UInt16 × Bytes)) (ran : Succeeds (event index locality data) before digests after) :
    digests.map Prod.fst = before.algorithms ∧ Succeeds (extend index locality digests) before () after := by
  unfold event at ran
  rw [succeeds_get_bind] at ran
  obtain ⟨_, _, made, ran⟩ := (succeeds_bind _ _ _ _ _).mp ran
  obtain ⟨hashed, rfl⟩ := (succeeds_lift _ _ _ _).mp made
  obtain ⟨_, _, extended, ran⟩ := (succeeds_bind _ _ _ _ _).mp ran
  obtain ⟨rfl, rfl⟩ := (succeeds_pure _ _ _ _).mp ran
  exact ⟨hash_all_names _ _ _ hashed, extended⟩

-- A reset is counted once, however many banks it clears.
theorem reset_ran (pcr after : PcrBanks) (index : Nat) (locality : UInt8) (ran : pcr.reset index locality = .ok after) :
    after.updateCounter = pcr.updateCounter + UInt32.ofNat (if Pcr.noIncrement index then 0
        else if (pcr.touched index pcr.algorithms).Nonempty then 1 else 0) ∧
      ∀ a bank, a ∈ pcr.touched index pcr.algorithms → pcr.banks.get a = some bank →
        after.banks.get a = some (bank.set index (List.replicate (sizeOr0 a) 0)) := by
  unfold reset at ran
  by_cases has : pcr.algorithms.any (fun a => pcr.hasPcr a index) = true
  · rw [if_neg (by simp [has])] at ran
    obtain ⟨_, ran⟩ := (refused_is_ok _ _ _ _).mp ran
    obtain ⟨_, ran⟩ := (refused_is_ok _ _ _ _).mp ran
    have reached : (pcr.touched index pcr.algorithms).Nonempty := by
      obtain ⟨a, listed, here⟩ := List.any_eq_true.mp has
      refine ⟨a, ?_⟩
      simp only [touched, Finset.mem_filter, List.mem_toFinset]
      exact ⟨listed, pcr.algorithms_has_bank a listed, here⟩
    cases ran
    rw [if_pos reached]
    constructor
    · by_cases skipped : Pcr.noIncrement index = true
      · simp [count, skipped]
      · simp [count, skipped, bumpUpdateCounter]
    · intro a bank _ found
      have same : ∀ banks : PcrBanks, (banks.count index).banks = banks.banks := by
        intro banks
        unfold count
        split
        · rfl
        · rfl
      rw [same]
      simp [SortedMap.get_map_values, found]
  · rw [if_pos (by simp [has])] at ran
    cases ran
    have none : ∀ a, a ∉ pcr.touched index pcr.algorithms := by
      intro a member
      simp only [touched, Finset.mem_filter, List.mem_toFinset] at member
      exact has (List.any_eq_true.mpr ⟨a, member.1, member.2.2⟩)
    refine ⟨?_, fun a _ member => absurd member (none a)⟩
    have unmoved : ¬ (pcr.touched index pcr.algorithms).Nonempty := fun ⟨a, member⟩ => none a member
    simp [unmoved]

end

end PcrBanks

-- The commands that move the registers of one PCR.
inductive PcrUpdate where
  | extend
  | event
  | eventSequence
  | reset

namespace PcrUpdate

section

variable [Primitives] (s : TpmState) (request : Request)

def run : PcrUpdate → Action TpmRc PcrBanks Response
  | extend => pcrExtend request
  | event => pcrEvent request
  | eventSequence => eventSequenceComplete s request
  | reset => pcrReset request

theorem index_of (handle : UInt32) (index : Nat) (made : pcrIndex handle = .ok index) :
    handle ≠ Rh.null ∧ handle.toNat = index := by
  unfold pcrIndex at made
  split at made
  next low =>
    cases made
    refine ⟨?_, rfl⟩
    rintro rfl
    exact absurd low (by decide)
  next => cases made

-- The PCR that a command names: an event may name none.
def pcr (update : PcrUpdate) : Option Nat :=
  match update, request.handle 0 with
  | _, .error _ => none
  | .eventSequence, .ok handle => if handle = Rh.null then none else some (handle - Hc.pcrFirst).toUInt16.toNat
  | _, .ok handle => if handle = Rh.null then none else some handle.toNat

-- The banks that a command gives a digest for.
def named (before : PcrBanks) : PcrUpdate → List UInt16
  | extend =>
      match request.params (TpmlDigestValues.unmarshal.withParameter 1) with
      | .ok digests => digests.map TpmtHa.hashAlg
      | .error _ => []
  | _ => before.algorithms

-- The banks whose register a command moves.
def moved (update : PcrUpdate) (before : PcrBanks) : Finset UInt16 :=
  match update.pcr request with
  | none => ∅
  | some index => before.touched index (update.named request before)

def counts (update : PcrUpdate) : Bool :=
  match update.pcr request with
  | none => false
  | some index => !Pcr.noIncrement index

def increments (update : PcrUpdate) (before : PcrBanks) : Nat :=
  if update.counts request then
    match update with
    | reset => if (update.moved request before).Nonempty then 1 else 0
    | _ => (update.moved request before).card
  else 0

-- The counter after a command: it has moved exactly where a policy that is bound to it is to fail.
structure Exact (update : PcrUpdate) (before after : PcrBanks) : Prop where
  counter : after.updateCounter = before.updateCounter + UInt32.ofNat (update.increments request before)
  invalidates : after.updateCounter ≠ before.updateCounter ↔
    update.counts request = true ∧ (update.moved request before).Nonempty

-- What a command does to the banks that have its register.
def Moves (update : PcrUpdate) (before after : PcrBanks) : Prop :=
  match update with
  | reset => ∀ index a bank, update.pcr request = some index → a ∈ update.moved request before →
      before.banks.get a = some bank → after.banks.get a = some (bank.set index (List.replicate (sizeOr0 a) 0))
  | _ =>
      match update.pcr request with
      | none => after = before
      | some index => ∃ digests, digests.map Prod.fst = update.named request before ∧
          PcrBanks.Extended index digests before after

-- The allocation gives the register to every bank that the command counts.
def Whole (update : PcrUpdate) (before : PcrBanks) : Prop :=
  ∀ index, update.pcr request = some index → ∀ a ∈ update.named request before,
    before.hasBank a = true → before.hasPcr a index = true

end

section

variable [Primitives] {request : Request} (update : PcrUpdate) {before after : PcrBanks} {index : Nat}
  (names : update.pcr request = some index)
  (each : update ≠ .reset)

include names

theorem counts_index : update.counts request = !Pcr.noIncrement index := by
  unfold counts
  rw [names]

theorem moved_index : update.moved request before = before.touched index (update.named request before) := by
  unfold moved
  rw [names]

include each

theorem increments_each : update.increments request before =
    if Pcr.noIncrement index then 0 else (before.touched index (update.named request before)).card := by
  unfold increments counts moved
  rw [names]
  cases update with
  | reset => exact absurd rfl each
  | extend => cases skipped : Pcr.noIncrement index <;> simp [skipped]
  | event => cases skipped : Pcr.noIncrement index <;> simp [skipped]
  | eventSequence => cases skipped : Pcr.noIncrement index <;> simp [skipped]

-- The counter is right exactly where no bank is counted that lacks the register.
theorem exact_iff (counter : after.updateCounter = before.updateCounter + UInt32.ofNat (if Pcr.noIncrement index then 0
      else ((update.named request before).toFinset.filter fun a => before.hasBank a).card)) :
    update.Exact request before after ↔ update.counts request = false ∨ update.Whole request before := by
  have inside := before.touched_subset index (update.named request before)
  have increments : update.increments request before = if Pcr.noIncrement index then 0
      else (before.touched index (update.named request before)).card := update.increments_each names each
  have counts := update.counts_index names
  have moved : update.moved request before = before.touched index (update.named request before) :=
    update.moved_index names
  by_cases skipped : Pcr.noIncrement index = true
  · rw [if_pos skipped] at counter increments
    have same : after.updateCounter = before.updateCounter := by simpa using counter
    refine ⟨fun _ => .inl (by simp [counts, skipped]), fun _ => ⟨by simpa [increments] using counter, ?_⟩⟩
    simp [same, counts, skipped]
  · rw [if_neg skipped] at counter increments
    -- The registers touched are among those of the counted banks, and equal them just when none is missing.
    have whole : update.Whole request before ↔
        before.touched index (update.named request before) =
          (update.named request before).toFinset.filter fun a => before.hasBank a := by
      unfold Whole
      simp only [names, Option.some.injEq, forall_eq']
      constructor
      · intro whole
        refine Finset.Subset.antisymm inside fun a member => ?_
        simp only [PcrBanks.touched, Finset.mem_filter, List.mem_toFinset] at member ⊢
        exact ⟨member.1, member.2, whole a member.1 member.2⟩
      · intro same a listed has
        have member : a ∈ before.touched index (update.named request before) := by
          rw [same]
          simpa using ⟨listed, has⟩
        simp only [PcrBanks.touched, Finset.mem_filter] at member
        exact member.2.2
    have cards := PcrBanks.counter_apart before.updateCounter
    constructor
    · intro exact
      have equal := exact.counter
      rw [counter, increments] at equal
      have sizes := (cards _ _ (PcrBanks.card_le _) (PcrBanks.card_le _)).mp equal
      exact .inr (whole.mpr (Finset.eq_of_subset_of_card_le inside sizes.le))
    · rintro (none | all)
      · simp [counts, skipped] at none
      · rw [← whole.mp all] at counter
        refine ⟨by rw [increments, counter], ?_⟩
        have still := (cards _ 0 (PcrBanks.card_le (before.touched index (update.named request before))) (by omega)).not
        rw [← counter] at still
        have apart : after.updateCounter ≠ before.updateCounter ↔
            ¬ (before.touched index (update.named request before)).card = 0 := by simpa using still
        rw [apart, counts, moved]
        simp [skipped, Finset.nonempty_iff_ne_empty]

end

section

variable [Primitives] (s : TpmState) (request : Request) (before after : PcrBanks) (response : Response)

theorem extend_pairs_names (digests : List TpmtHa) (pairs : List (UInt16 × Bytes))
    (paired : extendPairs digests = .ok pairs) : pairs.map Prod.fst = digests.map TpmtHa.hashAlg := by
  induction digests generalizing pairs with
  | nil =>
      cases paired
      rfl
  | cons head rest ih =>
      obtain ⟨_, paired⟩ := (guarded_then_is_ok _ _ _ _ _).mp paired
      obtain ⟨others, later, paired⟩ := (bind_is_ok _ _ _).mp paired
      cases paired
      simp [ih others later]

theorem extend_moves (ran : Succeeds (pcrExtend request) before response after) :
    ∃ index digests, extend.pcr request = some index ∧ digests.map Prod.fst = extend.named request before ∧
      Succeeds (PcrBanks.extend index request.locality digests) before () after := by
  unfold pcrExtend at ran
  obtain ⟨handle, _, asked, ran⟩ := (succeeds_bind _ _ _ _ _).mp ran
  obtain ⟨named, rfl⟩ := (succeeds_lift _ _ _ _).mp asked
  obtain ⟨index, _, asked, ran⟩ := (succeeds_bind _ _ _ _ _).mp ran
  obtain ⟨indexed, rfl⟩ := (succeeds_lift _ _ _ _).mp asked
  obtain ⟨digests, _, asked, ran⟩ := (succeeds_bind _ _ _ _ _).mp ran
  obtain ⟨read, rfl⟩ := (succeeds_lift _ _ _ _).mp asked
  obtain ⟨pairs, _, asked, ran⟩ := (succeeds_bind _ _ _ _ _).mp ran
  obtain ⟨paired, rfl⟩ := (succeeds_lift _ _ _ _).mp asked
  obtain ⟨_, _, extended, ran⟩ := (succeeds_bind _ _ _ _ _).mp ran
  obtain ⟨_, rfl⟩ := (succeeds_pure _ _ _ _).mp ran
  refine ⟨index, pairs, ?_, ?_, (succeeds_with_err _ _ _ _ _).mp extended⟩
  · obtain ⟨apart, same⟩ := index_of handle index indexed
    simp [pcr, named, apart, same]
  · rw [extend_pairs_names digests pairs paired, PcrUpdate.named, read]

theorem event_moves (ran : Succeeds (pcrEvent request) before response after) :
    (event.pcr request = none ∧ after = before) ∨
    ∃ index digests, event.pcr request = some index ∧ digests.map Prod.fst = event.named request before ∧
      Succeeds (PcrBanks.extend index request.locality digests) before () after := by
  unfold pcrEvent at ran
  obtain ⟨handle, _, asked, ran⟩ := (succeeds_bind _ _ _ _ _).mp ran
  obtain ⟨named, rfl⟩ := (succeeds_lift _ _ _ _).mp asked
  obtain ⟨data, _, asked, ran⟩ := (succeeds_bind _ _ _ _ _).mp ran
  obtain ⟨_, rfl⟩ := (succeeds_lift _ _ _ _).mp asked
  by_cases blank : handle = Rh.null
  · rw [if_pos blank, succeeds_get_bind] at ran
    simp only [succeeds_bind, succeeds_lift, succeeds_pure] at ran
    obtain ⟨_, _, ⟨_, rfl⟩, _, _, ⟨_, rfl⟩, _, rfl⟩ := ran
    exact .inl ⟨by simp [pcr, named, blank], rfl⟩
  · rw [if_neg blank] at ran
    obtain ⟨index, _, asked, ran⟩ := (succeeds_bind _ _ _ _ _).mp ran
    obtain ⟨indexed, rfl⟩ := (succeeds_lift _ _ _ _).mp asked
    obtain ⟨digests, _, made, ran⟩ := (succeeds_bind _ _ _ _ _).mp ran
    simp only [succeeds_bind, succeeds_lift, succeeds_pure] at ran
    obtain ⟨_, _, ⟨_, rfl⟩, _, rfl⟩ := ran
    obtain ⟨names, extended⟩ := PcrBanks.event_ran index request.locality _ before _ digests made
    obtain ⟨apart, same⟩ := index_of handle index indexed
    exact .inr ⟨index, digests, by simp [pcr, named, apart, same], names, extended⟩

theorem event_sequence_moves (ran : Succeeds (eventSequenceComplete s request) before response after) :
    (eventSequence.pcr request = none ∧ after = before) ∨
    ∃ index digests, eventSequence.pcr request = some index ∧
      digests.map Prod.fst = eventSequence.named request before ∧
      Succeeds (PcrBanks.extend index request.locality digests) before () after := by
  unfold eventSequenceComplete at ran
  obtain ⟨handle, _, asked, ran⟩ := (succeeds_bind _ _ _ _ _).mp ran
  obtain ⟨named, rfl⟩ := (succeeds_lift _ _ _ _).mp asked
  simp only [succeeds_bind, succeeds_lift] at ran
  obtain ⟨_, _, ⟨_, rfl⟩, _, _, ⟨_, rfl⟩, _, _, ⟨_, rfl⟩, _, _, ⟨_, rfl⟩, ran⟩ := ran
  obtain ⟨_, ran⟩ := (succeeds_guard _ _ _ _ _ _ _).mp ran
  by_cases blank : handle = Rh.null
  · rw [if_neg (by simpa using blank)] at ran
    simp only [succeeds_bind, succeeds_lift, succeeds_pure] at ran
    obtain ⟨_, _, ⟨_, rfl⟩, _, _, ⟨_, rfl⟩, _, rfl⟩ := ran
    exact .inl ⟨by simp [pcr, named, blank], rfl⟩
  · rw [if_pos blank] at ran
    obtain ⟨digests, middle, made, ran⟩ := (succeeds_bind _ _ _ _ _).mp ran
    simp only [succeeds_bind, succeeds_lift, succeeds_pure] at ran
    obtain ⟨_, _, ⟨_, rfl⟩, _, _, ⟨_, rfl⟩, _, rfl⟩ := ran
    obtain ⟨names, extended⟩ := PcrBanks.event_ran _ request.locality _ before _ digests made
    exact .inr ⟨_, digests, by simp [pcr, named, blank], names, extended⟩

theorem reset_moves (ran : Succeeds (pcrReset request) before response after) :
    ∃ index, reset.pcr request = some index ∧ before.reset index request.locality = .ok after := by
  unfold pcrReset at ran
  simp only [succeeds_bind, succeeds_lift, succeeds_get, succeeds_set, succeeds_pure] at ran
  obtain ⟨handle, _, ⟨named, rfl⟩, index, _, ⟨indexed, rfl⟩, _, _, ⟨rfl, rfl⟩, _, _, ⟨made, rfl⟩, _, _, rfl, _, rfl⟩ := ran
  obtain ⟨apart, same⟩ := index_of handle index indexed
  exact ⟨index, by simp [pcr, named, apart, same], made⟩

-- What the three commands that extend do to the banks, and where they count right.
theorem extending_exact (update : PcrUpdate) (each : update ≠ .reset)
    (ran : (update.pcr request = none ∧ after = before) ∨
      ∃ index digests, update.pcr request = some index ∧ digests.map Prod.fst = update.named request before ∧
        Succeeds (PcrBanks.extend index request.locality digests) before () after) :
    (match update.pcr request with
      | none => after = before
      | some index => ∃ digests, digests.map Prod.fst = update.named request before ∧
          PcrBanks.Extended index digests before after) ∧
      (update.Exact request before after ↔ update.counts request = false ∨ update.Whole request before) := by
  rcases ran with ⟨none, rfl⟩ | ⟨index, digests, names, named, extended⟩
  · have uncounted : update.counts request = false := by
      unfold counts
      rw [none]
    have nothing : update.increments request after = 0 := by
      unfold increments
      rw [uncounted]
      rfl
    rw [none]
    refine ⟨rfl, fun _ => .inl uncounted, fun _ => ⟨by simp [nothing], by simp [uncounted]⟩⟩
  · obtain ⟨moved, counter⟩ := PcrBanks.extend_ran index request.locality digests before after () extended
    rw [named] at counter
    refine ⟨?_, update.exact_iff names each counter⟩
    rw [names]
    exact ⟨digests, named, moved⟩

theorem reset_exact (ran : Succeeds (pcrReset request) before response after) :
    reset.Moves request before after ∧ reset.Exact request before after := by
  obtain ⟨index, names, made⟩ := reset_moves request before after response ran
  obtain ⟨counter, cleared⟩ := PcrBanks.reset_ran before after index request.locality made
  have moved : reset.moved request before = before.touched index before.algorithms := reset.moved_index names
  have counts := reset.counts_index names
  refine ⟨fun other a bank named member found => ?_, ?_, ?_⟩
  · rw [names] at named
    obtain rfl := Option.some.inj named
    exact cleared a bank (moved ▸ member) found
  · rw [counter]
    unfold increments
    rw [counts, moved]
    cases skipped : Pcr.noIncrement index <;> simp
  · rw [counter, counts, moved]
    by_cases skipped : Pcr.noIncrement index = true
    · simp [skipped]
    · by_cases reached : (before.touched index before.algorithms).Nonempty
      · simp [skipped, reached]
      · simp [skipped, reached]

-- Each of the four commands counts what it changed, but for an extend that counts a bank without the register.
theorem counter_exact (update : PcrUpdate) (ran : Succeeds (update.run s request) before response after) :
    update.Moves request before after ∧ (update.Exact request before after ↔
      update = reset ∨ update.counts request = false ∨ update.Whole request before) := by
  cases update with
  | extend =>
      obtain ⟨moves, exact⟩ := extending_exact request before after extend (by simp)
        (.inr (extend_moves request before after response ran))
      exact ⟨moves, by simpa using exact⟩
  | event =>
      obtain ⟨moves, exact⟩ := extending_exact request before after event (by simp)
        (event_moves request before after response ran)
      exact ⟨moves, by simpa using exact⟩
  | eventSequence =>
      obtain ⟨moves, exact⟩ := extending_exact request before after eventSequence (by simp)
        (event_sequence_moves s request before after response ran)
      exact ⟨moves, by simpa using exact⟩
  | reset =>
      obtain ⟨moves, exact⟩ := reset_exact request before after response ran
      exact ⟨moves, by simpa using exact⟩

end

end PcrUpdate

namespace Toy

-- The bank of SHA-384 without its first register.
def partlyAllocated : PcrBanks :=
  (PcrBanks.new [(Alg.sha256, List.replicate 24 true), (Alg.sha384, false :: List.replicate 23 true)]).toOption.getD
    PcrBanks.empty

def wholeAllocated : PcrBanks :=
  (PcrBanks.new (PcrBanks.wholeBanks [Alg.sha256, Alg.sha384])).toOption.getD PcrBanks.empty

def extendOfFirst : Request :=
  requestOf (authorizedCommand Cc.pcrExtend [0] [(Rh.rsPw, [])] (be32 1 ++ be16 Alg.sha384 ++ List.replicate 48 7))

theorem extend_counts_nothing : ¬ ∀ (s : TpmState) (request : Request) (before after : PcrBanks) (response : Response)
    (update : PcrUpdate), Succeeds (update.run s request) before response after → update.Exact request before after := by
  intro always
  obtain ⟨response, after, ran, counted⟩ := succeeds_of_ends_with (pcrExtend extendOfFirst) partlyAllocated
    (fun _ after => after.updateCounter == 1) (by decide +kernel)
  have exact := always blank extendOfFirst partlyAllocated after response .extend ran
  have counter := exact.counter
  rw [show PcrUpdate.extend.increments extendOfFirst partlyAllocated = 0 by decide +kernel,
    show partlyAllocated.updateCounter = 0 by decide +kernel, eq_of_beq counted] at counter
  exact absurd counter (by decide)

theorem whole_bank_counted : ∃ response after, Succeeds (pcrExtend extendOfFirst) wholeAllocated response after ∧
    PcrUpdate.extend.Exact extendOfFirst wholeAllocated after := by
  obtain ⟨response, after, ran, _⟩ := succeeds_of_ends_with (pcrExtend extendOfFirst) wholeAllocated
    (fun _ _ => true) (by decide +kernel)
  have whole : PcrUpdate.extend.Whole extendOfFirst wholeAllocated := by
    intro index names
    rw [show PcrUpdate.extend.pcr extendOfFirst = some 0 by decide +kernel] at names
    obtain rfl := Option.some.inj names
    have named : (PcrUpdate.named extendOfFirst wholeAllocated .extend == [Alg.sha384]) = true := by decide +kernel
    have has : wholeAllocated.hasPcr Alg.sha384 0 = true := by decide +kernel
    intro a member _
    rw [eq_of_beq named, List.mem_singleton] at member
    rw [member]
    exact has
  have exact := PcrUpdate.counter_exact blank extendOfFirst wholeAllocated after response .extend ran
  exact ⟨response, after, ran, exact.2.mpr (.inr (.inr whole))⟩

end Toy

end Swtrust
