import Swtrust.Commands.Pcr
import Swtrust.Policy.Assertions
import Swtrust.Commands.Attest
import Swtrust.Library.Total
import Swtrust.Library.Bitmap
import Swtrust.Toy
import Mathlib.Logic.Function.Iterate

set_option autoImplicit false

namespace Swtrust

open Library Action

namespace PcrSelect

theorem selected_members (select : PcrSelect) : select.selected = Bitmap.members select.bits := rfl

theorem select_in_raises (select : PcrSelect) (index : Nat) (inside : index / 8 < select.bits.length) :
    select.selectIn index = ⟨Bitmap.raise select.bits index⟩ := by
  have full : index / 8 + 1 - select.bits.length = 0 := by omega
  unfold selectIn
  dsimp only
  rw [full, List.replicate_zero, List.append_nil]
  rfl

theorem select_all_raises (select : PcrSelect) (indices : List Nat) (inside : ∀ i ∈ indices, i / 8 < select.bits.length) :
    indices.foldl selectIn select = ⟨indices.foldl Bitmap.raise select.bits⟩ := by
  induction indices generalizing select with
  | nil => rfl
  | cons index rest ih =>
      have length : (Bitmap.raise select.bits index).length = select.bits.length := List.length_modify _ _ _
      rw [List.foldl_cons, select_in_raises _ _ (inside index List.mem_cons_self), List.foldl_cons]
      exact ih ⟨Bitmap.raise select.bits index⟩ fun i member => length ▸ inside i (List.mem_cons_of_mem _ member)

theorem deselect_all_lowers (select : PcrSelect) (indices : List Nat) :
    indices.foldl deselect select = ⟨indices.foldl Bitmap.lower select.bits⟩ := by
  induction indices generalizing select with
  | nil => rfl
  | cons index rest ih => exact ih (select.deselect index)

-- What a caller that was given `returned` has still to ask for.
def without (requested returned : PcrSelect) : PcrSelect := ⟨Bitmap.without requested.bits returned.bits⟩

end PcrSelect

theorem limit_select_keeps (remaining : Nat) (select : PcrSelect) :
    (limitSelect remaining select).2.selected = select.selected.take remaining ∧
      (limitSelect remaining select).2.bits.length = select.bits.length := by
  unfold limitSelect
  dsimp only
  rw [PcrSelect.deselect_all_lowers]
  exact ⟨Bitmap.members_lower_drop select.bits remaining, Bitmap.length_lower_all _ _⟩

namespace PcrBanks

-- A register there is a value of, in a bank that is allocated.
def present (pcr : PcrBanks) (register : UInt16 × Nat) : Bool :=
  pcr.banks.contains register.1 && (decide (register.2 < Config.implementationPcr) && pcr.hasPcr register.1 register.2)

def value (pcr : PcrBanks) (register : UInt16 × Nat) : Bytes :=
  ((pcr.banks.get register.1).bind (·[register.2]?)).getD []

theorem filter_select_selected (pcr : PcrBanks) (sel : PcrSelection) :
    (pcr.filterSelect sel).selected = sel.select.selected.filter (fun index => pcr.present (sel.hashAlg, index)) ∧
      sel.select.bits.length ≤ (pcr.filterSelect sel).bits.length := by
  have wide : sel.select.bits.length ≤ max sel.select.bits.length Config.pcrSelectMin := Nat.le_max_left _ _
  unfold filterSelect
  dsimp only
  cases held : pcr.banks.contains sel.hashAlg with
  | false =>
      -- A bank that is not allocated has no register, whatever is selected of it.
      have absent : (fun index => pcr.present (sel.hashAlg, index)) = fun _ => false := by
        funext index
        unfold present
        rw [held]
        rfl
      simp only [Bool.false_eq_true, if_false, List.length_replicate]
      refine ⟨?_, wide⟩
      rw [absent, List.filter_false, PcrSelect.selected_members]
      refine Bitmap.members_eq _ _ List.Pairwise.nil fun i => ?_
      rw [Bitmap.bit_zeros]
      simp
  | true =>
      have same : (fun index => decide (index < Config.implementationPcr) && pcr.hasPcr sel.hashAlg index) =
          fun index => pcr.present (sel.hashAlg, index) := by
        funext index
        unfold present
        rw [held, Bool.true_and]
      simp only [if_true]
      rw [same]
      -- Every register that is kept lies within the octets of the selection.
      have inside : ∀ i ∈ sel.select.selected.filter (fun index => pcr.present (sel.hashAlg, index)),
          i / 8 < (List.replicate (max sel.select.bits.length Config.pcrSelectMin) (0 : UInt8)).length := by
        intro i member
        have listed := List.mem_of_mem_filter member
        unfold PcrSelect.selected at listed
        have bound := List.mem_range.mp (List.mem_of_mem_filter listed)
        rw [List.length_replicate]
        omega
      rw [PcrSelect.select_all_raises _ _ inside]
      refine ⟨?_, by rw [Bitmap.length_raise_all, List.length_replicate]; exact wide⟩
      rw [PcrSelect.selected_members]
      refine Bitmap.members_eq _ _ ((Bitmap.members_ascending _).filter _) fun i => ?_
      rw [Bitmap.bit_raise_all _ _ inside, Bitmap.bit_zeros, Bool.or_false, decide_eq_true_eq]

end PcrBanks

-- The registers that a selection names, one entry after the other.
def TpmlPcrSelection.named (selection : TpmlPcrSelection) : List (UInt16 × Nat) :=
  selection.flatMap fun sel => sel.select.selected.map fun index => (sel.hashAlg, index)

open TpmlPcrSelection

theorem named_cons (sel : PcrSelection) (rest : TpmlPcrSelection) :
    named (sel :: rest) = sel.select.selected.map (fun index => (sel.hashAlg, index)) ++ named rest := rfl

theorem named_limit (remaining : Nat) (selection : TpmlPcrSelection) :
    named (limitSelection remaining selection) = (named selection).take remaining := by
  induction selection generalizing remaining with
  | nil => simp [limitSelection, named]
  | cons sel rest ih =>
      have kept := (limit_select_keeps remaining sel.select).1
      have left : (limitSelect remaining sel.select).1 = remaining - sel.select.selected.length := rfl
      unfold limitSelection
      rw [named_cons, named_cons, List.take_append, List.length_map]
      dsimp only
      rw [kept, left, ih, List.map_take]

-- A caller asks again for what it asked for and was not given.
def TpmlPcrSelection.without (requested returned : TpmlPcrSelection) : TpmlPcrSelection :=
  requested.zipWith (fun sel given => { sel with select := sel.select.without given.select }) returned

-- Entry by entry, what is asked for next is what the page left out.
theorem named_without (requested returned : TpmlPcrSelection) (count : Nat)
    (page : List.Forall₂ (fun sel given : PcrSelection => given.select.selected = sel.select.selected ∧
      given.hashAlg = sel.hashAlg ∧ sel.select.bits.length ≤ given.select.bits.length) requested returned) :
    named (requested.without (limitSelection count returned)) = (named requested).drop count := by
  induction page generalizing count with
  | nil => simp [limitSelection, without, named]
  | cons here rest ih =>
      rename_i sel given _ _
      obtain ⟨selected, bank, wide⟩ := here
      obtain ⟨kept, length⟩ := limit_select_keeps count given.select
      have left : (limitSelect count given.select).1 = count - given.select.selected.length := rfl
      -- The entries before this one have used up a part of the count.
      have leaves := Bitmap.members_without_take sel.select.bits (limitSelect count given.select).2.bits count
        (by rw [length]; exact wide) (by
          rw [← PcrSelect.selected_members, ← PcrSelect.selected_members, kept, selected])
      unfold limitSelection
      dsimp only
      unfold TpmlPcrSelection.without at ih ⊢
      rw [List.zipWith_cons_cons, named_cons, named_cons, List.drop_append, List.length_map, ih, left, selected]
      refine congrArg (· ++ _) ?_
      rw [← List.map_drop]
      exact congrArg (List.map _) leaves

namespace PcrBanks

variable (pcr : PcrBanks)

theorem named_filter (selection : TpmlPcrSelection) :
    named (pcr.filterSelection selection) = (named selection).filter pcr.present := by
  induction selection with
  | nil => rfl
  | cons sel rest ih =>
      have kept := (pcr.filter_select_selected sel).1
      unfold filterSelection at ih ⊢
      rw [List.map_cons, named_cons, named_cons, List.filter_append, ih, List.filter_map]
      dsimp only
      rw [kept]
      rfl

-- Of registers that are all present every one is read.
theorem read_selection_values (selection : TpmlPcrSelection) (all : ∀ register ∈ named selection, pcr.present register = true) :
    pcr.readSelection selection = (named selection).map pcr.value := by
  induction selection with
  | nil => rfl
  | cons sel rest ih =>
      have others : ∀ register ∈ named rest, pcr.present register = true := fun register member =>
        all register (List.mem_append_right _ member)
      have here : ∀ index ∈ sel.select.selected, pcr.present (sel.hashAlg, index) = true := fun index member =>
        all _ (List.mem_append_left _ (List.mem_map_of_mem member))
      have tail := ih others
      unfold readSelection at tail ⊢
      rw [List.flatMap_cons, tail, named_cons, List.map_append, List.map_map]
      refine congrArg (· ++ (named rest).map pcr.value) ?_
      cases selected : sel.select.selected with
      | nil => cases pcr.banks.get sel.hashAlg <;> rfl
      | cons first others =>
          rw [← selected]
          -- All registers of an entry are of one bank, and it is there as soon as one of them is.
          have bank := here first (by rw [selected]; exact List.mem_cons_self)
          simp only [present, Bool.and_eq_true, decide_eq_true_eq] at bank
          obtain ⟨registers, found⟩ := (SortedMap.contains_iff_get _ _).mp bank.1
          have all : sel.select.selected.filter (· < Config.implementationPcr) = sel.select.selected := by
            refine List.filter_eq_self.mpr fun index member => ?_
            have held := here index member
            simp only [present, Bool.and_eq_true] at held
            exact held.2.1
          rw [found]
          dsimp only
          rw [all]
          refine List.map_congr_left fun index _ => ?_
          simp [value, found]

-- What one TPM2_PCR_Read returns: the registers it read, and their values.
def readPage (requested : TpmlPcrSelection) : TpmlPcrSelection × List Bytes :=
  let filtered := pcr.filterSelection requested
  let selected := if pcrReadMax < (pcr.readSelection filtered).length then limitSelection pcrReadMax filtered else filtered
  (selected, pcr.readSelection selected)

-- One more TPM2_PCR_Read, for what is left to be read, and the values so far.
def readMore (progress : TpmlPcrSelection × List Bytes) : TpmlPcrSelection × List Bytes :=
  let page := pcr.readPage progress.1
  (progress.1.without page.1, progress.2 ++ page.2)

theorem present_of_filtered (selection : TpmlPcrSelection) :
    ∀ register ∈ named (pcr.filterSelection selection), pcr.present register = true := by
  intro register member
  rw [named_filter] at member
  exact List.of_mem_filter member

theorem named_page (requested : TpmlPcrSelection) :
    named (pcr.readPage requested).1 = ((named requested).filter pcr.present).take pcrReadMax ∧
      (pcr.readPage requested).2 = (((named requested).filter pcr.present).take pcrReadMax).map pcr.value := by
  have filtered := pcr.named_filter requested
  have present := pcr.present_of_filtered requested
  have count : (pcr.readSelection (pcr.filterSelection requested)).length = ((named requested).filter pcr.present).length := by
    rw [pcr.read_selection_values _ present, List.length_map, filtered]
  have selected : named (pcr.readPage requested).1 = ((named requested).filter pcr.present).take pcrReadMax := by
    unfold readPage
    dsimp only
    by_cases more : pcrReadMax < (pcr.readSelection (pcr.filterSelection requested)).length
    · rw [if_pos more, named_limit, filtered]
    · rw [if_neg more, filtered, List.take_of_length_le (by omega)]
  have values := pcr.read_selection_values (pcr.readPage requested).1 fun register member => by
    rw [selected] at member
    exact List.of_mem_filter (List.mem_of_mem_take member)
  refine ⟨selected, ?_⟩
  rw [← selected]
  exact values

end PcrBanks

theorem limit_selection_all (remaining : Nat) (selection : TpmlPcrSelection) (few : (named selection).length ≤ remaining) :
    limitSelection remaining selection = selection := by
  induction selection generalizing remaining with
  | nil => rfl
  | cons sel rest ih =>
      rw [named_cons, List.length_append, List.length_map] at few
      have whole : limitSelect remaining sel.select = (remaining - sel.select.selected.length, sel.select) := by
        unfold limitSelect
        dsimp only
        rw [List.drop_eq_nil_of_le (by omega)]
        rfl
      unfold limitSelection
      rw [whole]
      dsimp only
      rw [ih _ (by omega)]

namespace PcrBanks

variable (pcr : PcrBanks)

-- Entry by entry, filtering takes nothing from a selection of registers that are all present.
theorem filter_keeps_present (selection : TpmlPcrSelection)
    (all : ∀ register ∈ named selection, pcr.present register = true) :
    List.Forall₂ (fun sel given : PcrSelection => given.select.selected = sel.select.selected ∧
      given.hashAlg = sel.hashAlg ∧ sel.select.bits.length ≤ given.select.bits.length) selection
      (pcr.filterSelection selection) := by
  induction selection with
  | nil => exact .nil
  | cons sel rest ih =>
      obtain ⟨kept, wide⟩ := pcr.filter_select_selected sel
      have here : sel.select.selected.filter (fun index => pcr.present (sel.hashAlg, index)) = sel.select.selected :=
        List.filter_eq_self.mpr fun index member =>
          all (sel.hashAlg, index) (List.mem_append_left _ (List.mem_map_of_mem member))
      refine .cons ⟨kept.trans here, rfl, wide⟩ (ih fun register member => all register (List.mem_append_right _ member))

-- A page is the first of what is left, and leaves the others.
theorem read_more_moves (selection : TpmlPcrSelection) (values : List Bytes)
    (all : ∀ register ∈ named selection, pcr.present register = true) :
    named (pcr.readMore (selection, values)).1 = (named selection).drop pcrReadMax ∧
      (pcr.readMore (selection, values)).2 = values ++ ((named selection).take pcrReadMax).map pcr.value := by
  have kept : (named selection).filter pcr.present = named selection := List.filter_eq_self.mpr all
  have filtered := pcr.named_filter selection
  rw [kept] at filtered
  have read := (pcr.named_page selection).2
  rw [kept] at read
  refine ⟨?_, congrArg (values ++ ·) read⟩
  -- A page that has room for everything is not limited, and limiting it would change nothing.
  have page : (pcr.readPage selection).1 = limitSelection pcrReadMax (pcr.filterSelection selection) := by
    have count : (pcr.readSelection (pcr.filterSelection selection)).length = (named selection).length := by
      rw [pcr.read_selection_values _ (pcr.present_of_filtered selection), List.length_map, filtered]
    unfold readPage
    dsimp only
    by_cases more : pcrReadMax < (pcr.readSelection (pcr.filterSelection selection)).length
    · rw [if_pos more]
    · rw [if_neg more, limit_selection_all _ _ (by rw [filtered]; omega)]
  unfold readMore
  dsimp only
  rw [page]
  exact named_without selection _ pcrReadMax (pcr.filter_keeps_present selection all)

theorem read_rounds (rounds : Nat) (selection : TpmlPcrSelection) (values : List Bytes)
    (all : ∀ register ∈ named selection, pcr.present register = true) :
    named (pcr.readMore^[rounds] (selection, values)).1 = (named selection).drop (pcrReadMax * rounds) ∧
      (pcr.readMore^[rounds] (selection, values)).2 =
        values ++ ((named selection).take (pcrReadMax * rounds)).map pcr.value := by
  induction rounds generalizing selection values with
  | zero => simp
  | succ rounds ih =>
      obtain ⟨left, read⟩ := pcr.read_more_moves selection values all
      have still : ∀ register ∈ named (pcr.readMore (selection, values)).1, pcr.present register = true := by
        intro register member
        rw [left] at member
        exact all register (List.mem_of_mem_drop member)
      obtain ⟨rest, later⟩ := ih (pcr.readMore (selection, values)).1 (pcr.readMore (selection, values)).2 still
      rw [Function.iterate_succ_apply]
      refine ⟨?_, ?_⟩
      · rw [rest, left, List.drop_drop]
        congr 1
        rw [Nat.mul_succ, Nat.add_comm]
      · rw [later, read, left, List.append_assoc, ← List.map_append, List.take_drop]
        have split : (named selection).take (pcrReadMax * (rounds + 1)) = (named selection).take pcrReadMax ++
            ((named selection).take (pcrReadMax + pcrReadMax * rounds)).drop pcrReadMax := by
          have parts := List.take_append_drop pcrReadMax ((named selection).take (pcrReadMax + pcrReadMax * rounds))
          rw [List.take_take, Nat.min_eq_left (Nat.le_add_right _ _)] at parts
          rw [parts, Nat.mul_succ, Nat.add_comm]
        rw [split]

-- TPM2_PCR_Read for what it was not given yet, until nothing is left.
structure ReadsInFull (selection : TpmlPcrSelection) (values : List Bytes) : Prop where
  rounds : ∃ rounds, named (pcr.readMore^[rounds] (pcr.filterSelection selection, [])).1 = [] ∧
    (pcr.readMore^[rounds] (pcr.filterSelection selection, [])).2 = values

theorem reads_in_full (selection : TpmlPcrSelection) :
    pcr.ReadsInFull selection ((named (pcr.filterSelection selection)).map pcr.value) := by
  obtain ⟨left, read⟩ := pcr.read_rounds (named (pcr.filterSelection selection)).length (pcr.filterSelection selection) []
    (pcr.present_of_filtered selection)
  have enough : (named (pcr.filterSelection selection)).length ≤
      pcrReadMax * (named (pcr.filterSelection selection)).length := Nat.le_mul_of_pos_left _ (by decide)
  refine ⟨(named (pcr.filterSelection selection)).length, ?_, ?_⟩
  · rw [left, List.drop_eq_nil_of_le enough]
  · rw [read, List.take_of_length_le enough, List.nil_append]

theorem read_in_full_values (selection : TpmlPcrSelection) (values : List Bytes)
    (read : pcr.ReadsInFull selection values) : values = (named (pcr.filterSelection selection)).map pcr.value := by
  obtain ⟨rounds, left, rfl⟩ := read.rounds
  obtain ⟨rest, values⟩ := pcr.read_rounds rounds (pcr.filterSelection selection) [] (pcr.present_of_filtered selection)
  rw [rest, List.drop_eq_nil_iff] at left
  rw [values, List.take_of_length_le left, List.nil_append]

end PcrBanks

namespace PcrBanks

section

variable [Crypto] (pcr : PcrBanks)

-- The loops of `selection_digest`, which hands the registers to the hash one by one.
def hashBank (bank : PcrBank) (hashed : Bytes) (select : PcrSelect) : Bytes :=
  select.selected.foldl (fun hashed index =>
    if Config.implementationPcr ≤ index then hashed else hashed ++ bank[index]?.getD [])
    hashed

def hashSelection (selection : TpmlPcrSelection) : Bytes :=
  selection.foldl (fun hashed sel =>
    match pcr.banks.get sel.hashAlg with
    | none => hashed
    | some bank => hashBank bank hashed sel.select) []

theorem selection_digest_hashes (hashAlg : UInt16) (selection : TpmlPcrSelection) :
    pcr.selectionDigest hashAlg selection = Hash.digest hashAlg (pcr.hashSelection selection) := by
  have bank : ∀ (bank : PcrBank) (indices : List Nat) (hashed : Bytes),
      indices.foldl (fun hashed index => if Config.implementationPcr ≤ index then hashed else hashed ++ bank[index]?.getD [])
        hashed = hashed ++ ((indices.filter (· < Config.implementationPcr)).map fun index => bank[index]?.getD []).flatten := by
    intro bank indices
    induction indices with
    | nil => simp
    | cons index rest ih =>
        intro hashed
        by_cases beyond : Config.implementationPcr ≤ index
        · simp [ih, beyond]
        · simp [ih, beyond, Nat.lt_of_not_le beyond]
  have whole : ∀ (selection : TpmlPcrSelection) (hashed : Bytes), selection.foldl (fun hashed sel =>
      match pcr.banks.get sel.hashAlg with
      | none => hashed
      | some bank => hashBank bank hashed sel.select) hashed = hashed ++ (pcr.readSelection selection).flatten := by
    intro selection
    induction selection with
    | nil => simp [readSelection]
    | cons sel rest ih =>
        intro hashed
        unfold readSelection at ih ⊢
        rw [List.foldl_cons, ih, List.flatMap_cons, List.flatten_append]
        cases pcr.banks.get sel.hashAlg with
        | none => simp
        | some registers =>
            dsimp only
            rw [hashBank, bank, List.append_assoc]
  unfold selectionDigest Hash.digestParts hashSelection
  rw [whole, List.nil_append]

end

end PcrBanks

theorem selected_of_zero (select : PcrSelect) (zero : select.bits.all (· == 0) = true) : select.selected = [] := by
  have bits : select.bits = List.replicate select.bits.length 0 := by
    refine List.eq_replicate_iff.mpr ⟨rfl, fun octet member => ?_⟩
    exact eq_of_beq (List.all_eq_true.mp zero octet member)
  rw [PcrSelect.selected_members, bits]
  refine Bitmap.members_eq _ _ List.Pairwise.nil fun i => ?_
  rw [Bitmap.bit_zeros]
  simp

section

variable [Primitives]

def quoteParameters : Reader (Tpm2bData × Scheme × TpmlPcrSelection) := do
  let (qualifyingData, inScheme) ← unmarshalQualifying
  return (qualifyingData, inScheme, ← TpmlPcrSelection.unmarshal.withParameter 3)

def policyPcrParameters : Reader (Bytes × TpmlPcrSelection) := do
  let expected : Tpm2bDigest ← Reader.withParameter 1 Tpm2b.unmarshal
  return (expected.buffer, ← Reader.withParameter 2 TpmlPcrSelection.unmarshal)

-- What a policy session is extended with, and what it is afterwards.
structure FoldsPcr (handle : UInt32) (before : Session) (selection : TpmlPcrSelection) (digest : Bytes)
    (slots : SessionSlots) : Prop where
  folded : ∃ folded after, before.extendPolicy Cc.policyPcr (TpmlPcrSelection.marshal selection ++ digest) = .ok folded ∧
    slots.get handle = .ok after ∧ after.policy.digest = folded.policy.digest

-- TPM2_PolicyPCR on a session that is no trial compares and folds the digest over the values.
def AssertsPcr (s : TpmState) (selection : TpmlPcrSelection) (values : List Bytes) (handle : UInt32) (session : Session)
    (expected : Bytes) (slots : SessionSlots) : Prop :=
  ∃ digest, Hash.digestParts session.authHash values = .ok digest ∧ (expected = [] ∨ expected = digest) ∧
    FoldsPcr handle session (s.pcr.filterSelection selection) digest slots

-- On a trial session it compares nothing: it folds the digest that the caller gives, the one over the values when it gives
-- none, and the selection as it was given.
def TriesPcr (selection : TpmlPcrSelection) (values : List Bytes) (handle : UInt32) (session : Session)
    (expected : Bytes) (slots : SessionSlots) : Prop :=
  ∃ digest, Hash.digestParts session.authHash values = .ok digest ∧
    FoldsPcr handle session selection (if expected = [] then digest else expected) slots

-- What all commands make of a selection for which TPM2_PCR_Read returns the values.
structure SelectionMeans (s : TpmState) (selection : TpmlPcrSelection) (values : List Bytes) : Prop where
  echoed : values = (named (s.pcr.filterSelection selection)).map s.pcr.value ∧
    named (s.pcr.filterSelection selection) = (named selection).filter s.pcr.present
  quoted : ∀ (request : Request) (data : Tpm2bData) (scheme : Scheme) (w w' : Work) (reply : Reply),
    request.params quoteParameters = .ok (data, scheme, selection) → Succeeds (quote s request) w reply w' →
      ∃ signer hashAlg digest, signerHash signer scheme 2 = .ok hashAlg ∧
        Hash.digestParts hashAlg values = .ok (Tpm2b.buffer digest) ∧
        Succeeds (attestAndSign s signer data (.quote (s.pcr.filterSelection selection) digest) 2) w reply w'
  asserted : ∀ (request : Request) (handle : UInt32) (expected : Bytes) (session : Session) (response : Response)
      (slots : SessionSlots), request.handle 0 = .ok handle →
    request.params policyPcrParameters = .ok (expected, selection) → s.sessions.get handle = .ok session →
      session.isTrial = false → Succeeds (policyPcr s request) s.sessions response slots →
        AssertsPcr s selection values handle session expected slots
  tried : ∀ (request : Request) (handle : UInt32) (expected : Bytes) (session : Session) (response : Response)
      (slots : SessionSlots), request.handle 0 = .ok handle →
    request.params policyPcrParameters = .ok (expected, selection) → s.sessions.get handle = .ok session →
      session.isTrial = true → Succeeds (policyPcr s request) s.sessions response slots →
        TriesPcr selection values handle session expected slots
  created : ∀ (parentName parentQualifiedName : Bytes) (parentNameAlg nameAlg : UInt16) (outsideInfo : Tpm2bData)
      (locality : UInt8) (data : CreationData) (octets : Bytes),
    creationData s parentName parentQualifiedName parentNameAlg nameAlg outsideInfo selection locality = .ok (data, octets) →
      data.pcrSelect = s.pcr.filterSelection selection ∧
        (named (s.pcr.filterSelection selection) ≠ [] → Hash.digestParts nameAlg values = .ok data.pcrDigest.buffer)

end

section

variable [Primitives] (s : TpmState) (selection : TpmlPcrSelection) (values : List Bytes)
  (read : s.pcr.ReadsInFull selection values)

include read

theorem selection_digest_of_read (hashAlg : UInt16) :
    s.pcr.selectionDigest hashAlg (s.pcr.filterSelection selection) = Hash.digestParts hashAlg values := by
  unfold PcrBanks.selectionDigest
  rw [s.pcr.read_selection_values _ (s.pcr.present_of_filtered selection), s.pcr.read_in_full_values selection values read]

theorem quote_means (request : Request) (data : Tpm2bData) (scheme : Scheme) (w w' : Work) (reply : Reply)
    (given : request.params quoteParameters = .ok (data, scheme, selection))
    (ran : Succeeds (quote s request) w reply w') : ∃ signer hashAlg digest, signerHash signer scheme 2 = .ok hashAlg ∧
      Hash.digestParts hashAlg values = .ok (Tpm2b.buffer digest) ∧
      Succeeds (attestAndSign s signer data (.quote (s.pcr.filterSelection selection) digest) 2) w reply w' := by
  simp only [quote, succeeds_bind, succeeds_lift] at ran
  obtain ⟨_, _, ⟨_, rfl⟩, parameters, _, ⟨again, rfl⟩, signer, _, ⟨_, rfl⟩, hashAlg, _, ⟨hashed, rfl⟩, digest, _,
    ⟨made, rfl⟩, sized, _, ⟨fits, rfl⟩, signing⟩ := ran
  obtain rfl := Except.ok.inj (again.symm.trans given)
  dsimp only at hashed made signing
  rw [selection_digest_of_read s selection values read] at made
  refine ⟨signer, hashAlg, sized, hashed, ?_, signing⟩
  rw [made, Tpm2b.new_buffer _ _ fits]

theorem policy_pcr_folds (request : Request) (handle : UInt32) (expected : Bytes) (session : Session) (response : Response)
    (slots : SessionSlots) (named : request.handle 0 = .ok handle)
    (given : request.params policyPcrParameters = .ok (expected, selection))
    (held : s.sessions.get handle = .ok session) (ran : Succeeds (policyPcr s request) s.sessions response slots) :
    ∃ digest, Hash.digestParts session.authHash values = .ok digest ∧
      checkPcrs session expected digest s.pcr.updateCounter = .ok () ∧
      FoldsPcr handle session (if session.isTrial then selection else s.pcr.filterSelection selection)
        (if session.isTrial ∧ !expected.isEmpty then expected else digest) slots := by
  simp only [policyPcr, succeeds_bind, succeeds_lift, succeeds_pure] at ran
  obtain ⟨_, _, ⟨same, rfl⟩, parameters, _, ⟨again, rfl⟩, found, _, ⟨asked, rfl⟩, digest, _, ⟨made, rfl⟩, _, _, stepped,
    _, rfl⟩ := ran
  obtain rfl := Except.ok.inj (again.symm.trans given)
  obtain rfl := Except.ok.inj (same.symm.trans named)
  dsimp only at asked made stepped
  have here : found = session := by
    simp only [TpmState.policySession, bind_is_ok, withHandle, map_error_is_ok] at asked
    obtain ⟨other, got, asked⟩ := asked
    have same := Except.ok.inj (got.symm.trans held)
    obtain ⟨_, asked⟩ := (guarded_then_is_ok _ _ _ _ _).mp asked
    exact same ▸ (Except.ok.inj asked).symm
  rw [here] at made
  rw [selection_digest_of_read s selection values read] at made
  -- On the session itself the digest is compared first, and then the policy is extended.
  obtain ⟨before, after, got, _, acted, rfl⟩ := succeeds_on_policy_session _ _ _ _ _ stepped
  have same := Except.ok.inj (got.symm.trans held)
  rw [same, succeeds_get_bind] at acted
  simp only [succeeds_bind, succeeds_lift] at acted
  obtain ⟨_, _, ⟨checked, rfl⟩, _, _, set, extended⟩ := acted
  rw [succeeds_set_policy _ _ _ _ set] at extended
  rw [extendPolicy, succeeds_get_bind] at extended
  simp only [succeeds_bind, succeeds_lift, succeeds_set] at extended
  obtain ⟨folded, _, ⟨extending, rfl⟩, rfl⟩ := extended
  have digests : ∀ policy : PolicyState,
      (if session.isTrial = true then policy else { policy with pcrUpdateCounter := some s.pcr.updateCounter }).digest =
        policy.digest := by
    intro policy
    split <;> rfl
  simp only [Session.extendPolicy, bind_is_ok, pure_is_ok, digests] at extending
  obtain ⟨next, hashed, rfl⟩ := extending
  refine ⟨digest, made, checked, { session with policy := { session.policy with digest := next } }, _, ?_,
    SessionSlots.get_put_same _ _ _, rfl⟩
  unfold Session.extendPolicy
  rw [hashed]
  rfl

theorem policy_pcr_means (request : Request) (handle : UInt32) (expected : Bytes) (session : Session) (response : Response)
    (slots : SessionSlots) (named : request.handle 0 = .ok handle)
    (given : request.params policyPcrParameters = .ok (expected, selection))
    (held : s.sessions.get handle = .ok session) (real : session.isTrial = false)
    (ran : Succeeds (policyPcr s request) s.sessions response slots) :
    AssertsPcr s selection values handle session expected slots := by
  obtain ⟨digest, made, checked, folds⟩ :=
    policy_pcr_folds s selection values read request handle expected session response slots named given held ran
  simp only [real, Bool.false_eq_true, if_false, false_and] at folds
  refine ⟨digest, made, ?_, folds⟩
  simp only [checkPcrs, real, Bool.false_eq_true, if_false] at checked
  obtain ⟨compared, _⟩ := (guarded_then_is_ok _ _ _ _ _).mp checked
  by_cases empty : expected = []
  · exact .inl empty
  · refine .inr (not_not.mp fun differs => compared ⟨by simpa using empty, differs⟩)

theorem trial_pcr_means (request : Request) (handle : UInt32) (expected : Bytes) (session : Session) (response : Response)
    (slots : SessionSlots) (named : request.handle 0 = .ok handle)
    (given : request.params policyPcrParameters = .ok (expected, selection))
    (held : s.sessions.get handle = .ok session) (trial : session.isTrial = true)
    (ran : Succeeds (policyPcr s request) s.sessions response slots) :
    TriesPcr selection values handle session expected slots := by
  obtain ⟨digest, made, _, folds⟩ :=
    policy_pcr_folds s selection values read request handle expected session response slots named given held ran
  refine ⟨digest, made, ?_⟩
  rw [if_pos trial] at folds
  cases expected with
  | nil =>
      simp only [List.isEmpty_nil, Bool.not_true, Bool.false_eq_true, and_false, if_false] at folds
      exact folds
  | cons head rest =>
      simp only [trial, List.isEmpty_cons, Bool.not_false, and_self, if_true] at folds
      exact folds

theorem creation_data_means (parentName parentQualifiedName : Bytes) (parentNameAlg nameAlg : UInt16)
    (outsideInfo : Tpm2bData) (locality : UInt8) (data : CreationData) (octets : Bytes)
    (made : creationData s parentName parentQualifiedName parentNameAlg nameAlg outsideInfo selection locality =
      .ok (data, octets)) : data.pcrSelect = s.pcr.filterSelection selection ∧
      (named (s.pcr.filterSelection selection) ≠ [] → Hash.digestParts nameAlg values = .ok data.pcrDigest.buffer) := by
  have zero_none : (s.pcr.filterSelection selection).all (fun sel => sel.select.bits.all (· == 0)) = true →
      named (s.pcr.filterSelection selection) = [] := by
    intro zero
    refine List.flatMap_eq_nil_iff.mpr fun sel member => ?_
    rw [selected_of_zero _ (List.all_eq_true.mp zero sel member)]
    rfl
  unfold creationData at made
  dsimp only at made
  split at made
  next zero =>
    simp only [bind_is_ok, pure_is_ok, Prod.mk.injEq] at made
    obtain ⟨_, _, _, _, _, _, _, _, _, _, rfl, _⟩ := made
    -- For a selection of nothing there is nothing to hash.
    exact ⟨rfl, fun some => absurd (zero_none zero) some⟩
  next =>
    simp only [bind_is_ok, pure_is_ok, Prod.mk.injEq] at made
    obtain ⟨digest, hashed, sized, fits, _, _, _, _, _, _, rfl, _⟩ := made
    refine ⟨rfl, fun _ => ?_⟩
    rw [selection_digest_of_read s selection values read] at hashed
    rw [hashed, Tpm2b.new_buffer _ _ fits]

theorem selection_means : SelectionMeans s selection values where
  echoed := ⟨s.pcr.read_in_full_values selection values read, s.pcr.named_filter selection⟩
  quoted := quote_means s selection values read
  asserted := policy_pcr_means s selection values read
  tried := trial_pcr_means s selection values read
  created := creation_data_means s selection values read

end

-- The octets in which TPM2_PCR_Read returns a page.
theorem pcr_read_page [Primitives] (s : TpmState) (request : Request) (requested : TpmlPcrSelection) (response : Response)
    (given : request.params (TpmlPcrSelection.unmarshal.withParameter 1) = .ok requested)
    (ran : pcrRead s request = .ok response) : ∃ digests, marshalDigests (s.pcr.readPage requested).2 = .ok digests ∧
      response = .of (be32 s.pcr.updateCounter ++ TpmlPcrSelection.marshal (s.pcr.readPage requested).1 ++
        be32 (UInt32.ofNat (s.pcr.readPage requested).2.length) ++ digests) := by
  simp only [pcrRead, bind_is_ok, pure_is_ok] at ran
  obtain ⟨asked, again, digests, written, rfl⟩ := ran
  have same := Except.ok.inj (again.symm.trans given)
  subst same
  exact ⟨digests, written, rfl⟩

theorem selections_agree [Primitives] (s : TpmState) (selection : TpmlPcrSelection) :
    (∃ values, s.pcr.ReadsInFull selection values) ∧
      (∀ values, s.pcr.ReadsInFull selection values → SelectionMeans s selection values) ∧
      ∀ (request : Request) (requested : TpmlPcrSelection) (response : Response),
        request.params (TpmlPcrSelection.unmarshal.withParameter 1) = .ok requested → pcrRead s request = .ok response →
          ∃ digests, marshalDigests (s.pcr.readPage requested).2 = .ok digests ∧
            response = .of (be32 s.pcr.updateCounter ++ TpmlPcrSelection.marshal (s.pcr.readPage requested).1 ++
              be32 (UInt32.ofNat (s.pcr.readPage requested).2.length) ++ digests) :=
  ⟨⟨_, s.pcr.reads_in_full selection⟩, selection_means s selection, pcr_read_page s⟩

namespace Toy

def trialStarted : TpmState := afterCommands [startSession Se.trial] booted

-- The first register of one bank.
def firstRegister : TpmlPcrSelection := [⟨Alg.sha256, ⟨[1, 0, 0]⟩⟩]

def claimedDigest : Bytes := List.replicate 32 9

def trialPcr : Request :=
  requestOf (plainCommand Cc.policyPcr [policyHandle] (sized16 claimedDigest ++ TpmlPcrSelection.marshal firstRegister))

def firstValues : List Bytes := (named (trialStarted.pcr.filterSelection firstRegister)).map trialStarted.pcr.value

def trialAccepts : Bool :=
  (trialStarted.sessions.sessions.get policyHandle).any fun session =>
    found (Hash.digestParts session.authHash firstValues) (· != claimedDigest) &&
      endsWith (policyPcr trialStarted trialPcr) trialStarted.sessions fun _ _ => true

theorem trial_takes_claimed_digest : ¬ ∀ (s : TpmState) (selection : TpmlPcrSelection) (values : List Bytes),
    s.pcr.ReadsInFull selection values →
      ∀ (request : Request) (handle : UInt32) (expected : Bytes) (session : Session) (response : Response)
        (slots : SessionSlots), request.handle 0 = .ok handle →
      request.params policyPcrParameters = .ok (expected, selection) → s.sessions.get handle = .ok session →
        Succeeds (policyPcr s request) s.sessions response slots →
          AssertsPcr s selection values handle session expected slots := by
  intro claim
  have accepts : trialAccepts = true := by decide +kernel
  simp only [trialAccepts, Option.any_eq_true, Bool.and_eq_true] at accepts
  obtain ⟨session, held, differs, ends⟩ := accepts
  obtain ⟨digest, hashed, differs⟩ := ok_of_found _ _ differs
  obtain ⟨response, slots, ran, _⟩ := succeeds_of_ends_with _ _ _ ends
  obtain ⟨compared, again, same, _⟩ := claim trialStarted firstRegister firstValues
    (trialStarted.pcr.reads_in_full firstRegister) trialPcr policyHandle claimedDigest session response slots (by rfl)
    (by rfl) (by rw [SessionSlots.get, held]) ran
  rw [← Except.ok.inj (hashed.symm.trans again)] at same
  cases same with
  | inl empty => cases empty
  | inr same => exact absurd same.symm (by simpa using differs)

end Toy

end Swtrust
