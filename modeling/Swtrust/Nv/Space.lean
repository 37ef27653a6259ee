import Swtrust.Nv.Moves
import Swtrust.Pin.Durable

set_option autoImplicit false
set_option linter.unusedSectionVars false

namespace Swtrust

open Library Action

-- Where an Index lies, and the space it takes: its public area with the data that declares, and its authValue.
structure NvPlot where
  handle : UInt32
  extent : Nat
  auth : Nat

def NvPlot.size (plot : NvPlot) : Nat := plot.extent + plot.auth

namespace NvIndex

def plot (index : NvIndex) : NvPlot :=
  ⟨index.area.nvIndex, index.area.marshal.length + index.area.dataSize.toNat, index.auth.length⟩

theorem plot_size (index : NvIndex) : index.plot.size = index.footprint := by
  unfold plot NvPlot.size footprint
  dsimp only
  omega

theorem plot_of_area (before after : NvIndex) (area : after.area = { before.area with attributes := after.area.attributes })
    (auth : after.auth.length = before.auth.length) : after.plot = before.plot := by
  unfold plot NvPublic.marshal
  rw [auth, area]
  simp [Flags32.marshal]

theorem plot_revised [Profile] (before after : NvIndex) (revised : before.Revised after) : after.plot = before.plot :=
  plot_of_area _ _ revised.area (by rw [revised.auth])

theorem plot_incremented (before after : NvIndex) (floor value : UInt64)
    (counted : before.increment floor = .ok (value, after)) : after.plot = before.plot := by
  unfold increment at counted
  rw [guarded_then_is_ok] at counted
  obtain ⟨_, counted⟩ := counted
  split at counted
  · simp only [bind_is_ok, pure_is_ok, Prod.mk.injEq] at counted
    obtain ⟨_, _, _, rfl⟩ := counted
    exact plot_of_area _ _ rfl rfl
  · simp only [bind_is_ok, pure_is_ok, Prod.mk.injEq] at counted
    obtain ⟨_, _, _, rfl⟩ := counted
    exact plot_of_area _ _ rfl rfl

theorem plot_cleared (restart disorderly : Bool) (index : NvIndex) :
    (NvStore.clearIndex restart disorderly index).plot = index.plot := by
  unfold NvStore.clearIndex
  extract_lets read permanent unlocked kept left
  have first : read.plot = index.plot := by
    unfold read
    split
    · exact plot_of_area _ _ rfl rfl
    · rfl
  have second : unlocked.plot = read.plot := by
    unfold unlocked
    split
    · rfl
    · exact plot_of_area _ _ rfl rfl
  have third : kept.plot = unlocked.plot := by
    unfold kept
    split
    · exact plot_of_area _ _ rfl rfl
    · rfl
  have fourth : left.plot = kept.plot := by
    unfold left
    split
    · exact plot_of_area _ _ rfl rfl
    · rfl
  have whole := fourth.trans (third.trans (second.trans first))
  split
  · split
    · exact whole
    · exact whole
  · exact whole

end NvIndex

namespace NvStore

def plots (store : NvStore) : SortedMap UInt32 NvPlot := store.indices.mapValues fun _ index => index.plot

theorem used_total (store : NvStore) : store.used = store.plots.total NvPlot.size := by
  unfold used plots SortedMap.total SortedMap.values SortedMap.mapValues
  simp only [List.map_map]
  congr 1
  exact List.map_congr_left fun entry _ => entry.2.plot_size.symm

theorem get_plots (store : NvStore) (handle : UInt32) :
    store.plots.get handle = (store.indices.get handle).map NvIndex.plot := SortedMap.get_map_values _ _ _

theorem held_plot (store : NvStore) (handle : UInt32) (index : NvIndex) (held : store.get handle = .ok index) :
    store.plots.get handle = some index.plot := by
  rw [get_plots]
  unfold get at held
  cases stored : store.indices.get handle with
  | none =>
      rw [stored] at held
      cases held
  | some other =>
      rw [stored] at held
      cases held
      rfl

theorem plots_insert (indices : SortedMap UInt32 NvIndex) (handle : UInt32) (index : NvIndex) :
    (indices.insert handle index).mapValues (fun _ index => index.plot) =
      (indices.mapValues fun _ index => index.plot).insert handle index.plot :=
  indices.map_values_insert _ handle index

theorem plots_put (store : NvStore) (handle : UInt32) (index next : NvIndex) (held : store.get handle = .ok index)
    (same : next.plot = index.plot) : (store.put handle next).plots = store.plots := by
  refine SortedMap.ext_get fun other => ?_
  have here := store.held_plot handle index held
  unfold plots put
  rw [plots_insert, SortedMap.get_insert]
  split
  next equal =>
    rw [equal, same]
    exact here.symm
  next => rfl

theorem plots_map (store : NvStore) (f : NvIndex → NvIndex) (same : ∀ index, (f index).plot = index.plot) :
    ({ store with indices := store.indices.mapValues fun _ index => f index } : NvStore).plots = store.plots := by
  refine SortedMap.ext_get fun handle => ?_
  unfold plots
  rw [SortedMap.get_map_values, SortedMap.get_map_values, SortedMap.get_map_values]
  cases store.indices.get handle with
  | none => rfl
  | some index => exact congrArg some (same index)

-- The Indices lie under their handles, and fit into the NV memory.
structure Spacious (plots : SortedMap UInt32 NvPlot) : Prop where
  used : plots.total NvPlot.size ≤ Config.nvMemorySize
  keyed : ∀ handle plot, plots.get handle = some plot → plot.handle = handle ∧ isNvHandle handle = true

theorem spacious_retain (plots : SortedMap UInt32 NvPlot) (keep : UInt32 → NvPlot → Bool)
    (spacious : Spacious plots) : Spacious (plots.retain keep) := by
  refine ⟨(plots.total_retain_le _ keep).trans spacious.used, fun handle plot held => ?_⟩
  rw [SortedMap.get_retain] at held
  exact spacious.keyed handle plot (Option.filter_eq_some_iff.mp held).1

-- An Index put in the place of another, that takes no more than there is.
theorem spacious_put (store : NvStore) (handle : UInt32) (index next : NvIndex) (held : store.get handle = .ok index)
    (same : next.area.nvIndex = index.area.nvIndex)
    (fits : store.used + next.footprint ≤ Config.nvMemorySize + index.footprint) (spacious : Spacious store.plots) :
    Spacious (store.put handle next).plots := by
  have here := store.held_plot handle index held
  have counted := store.plots.total_insert_held NvPlot.size handle next.plot index.plot here
  rw [used_total] at fits
  have replaced : (store.put handle next).plots = store.plots.insert handle next.plot := plots_insert _ _ _
  rw [replaced]
  refine ⟨?_, fun other plot found => ?_⟩
  · rw [next.plot_size, index.plot_size] at counted
    omega
  · rw [SortedMap.get_insert] at found
    split at found
    next equal =>
      obtain ⟨named, ranged⟩ := spacious.keyed handle index.plot here
      cases found
      rw [equal]
      exact ⟨same.trans named, ranged⟩
    next => exact spacious.keyed other plot found

theorem spacious_define (store : NvStore) (index : NvIndex) (ranged : isNvHandle index.area.nvIndex = true)
    (absent : store.indices.get index.area.nvIndex = none) (fits : index.footprint ≤ store.available)
    (spacious : Spacious store.plots) :
    Spacious ({ store with indices := store.indices.insert index.area.nvIndex index } : NvStore).plots := by
  have free : store.plots.get index.area.nvIndex = none := by
    rw [get_plots, absent]
    rfl
  have counted := store.plots.total_insert_new NvPlot.size index.area.nvIndex index.plot free
  have bounded := spacious.used
  have added : ({ store with indices := store.indices.insert index.area.nvIndex index } : NvStore).plots =
      store.plots.insert index.area.nvIndex index.plot := plots_insert _ _ _
  rw [available, used_total] at fits
  rw [added]
  refine ⟨?_, fun other plot found => ?_⟩
  · rw [index.plot_size] at counted
    omega
  · rw [SortedMap.get_insert] at found
    split at found
    next equal =>
      cases found
      rw [equal]
      exact ⟨rfl, ranged⟩
    next => exact spacious.keyed other plot found

-- The new authValue of an NV_ChangeAuth takes no more space than there is.
def authFits (store : NvStore) (request : Request) : Bool :=
  request.code != Cc.nvChangeAuth ||
    match request.handle 0 with
    | .error _ => true
    | .ok handle =>
      match store.get handle with
      | .error _ => true
      | .ok index =>
        decide (store.used + beNat (request.parameters.take 2) ≤ Config.nvMemorySize + index.auth.length)

theorem auth_fits_of_plots (a b : NvStore) (request : Request) (same : a.plots = b.plots) :
    a.authFits request = b.authFits request := by
  have each : ∀ handle, a.plots.get handle = b.plots.get handle := fun handle => by rw [same]
  have used : a.used = b.used := by rw [used_total, used_total, same]
  unfold authFits
  cases request.handle 0 with
  | error e => rfl
  | ok handle =>
      have here := each handle
      rw [get_plots, get_plots] at here
      dsimp only [get]
      cases left : a.indices.get handle with
      | none =>
          rw [left] at here
          cases right : b.indices.get handle with
          | none => rfl
          | some index =>
              rw [right] at here
              cases here
      | some index =>
          rw [left] at here
          cases right : b.indices.get handle with
          | none =>
              rw [right] at here
              cases here
          | some other =>
              rw [right] at here
              have auth : index.auth.length = other.auth.length :=
                congrArg NvPlot.auth (Option.some.inj here)
              dsimp only
              rw [used, auth]

theorem auth_fits_of_parameters (store : NvStore) (request : Request) (parameters : Bytes)
    (same : parameters.take 2 = request.parameters.take 2) :
    store.authFits { request with parameters } = store.authFits request := by
  unfold authFits
  dsimp only [Request.handle]
  rw [same]

-- No move of a handler takes more space than there is, if that of NV_ChangeAuth does not.
theorem nv_move_spacious [Profile] (request : Request) (before after : NvStore) (move : NvMove request before after)
    (fits : before.authFits request = true) (spacious : Spacious before.plots) : Spacious after.plots := by
  have kept : ∀ store : NvStore, store.plots = before.plots → Spacious store.plots := fun store same => same ▸ spacious
  cases move with
  | same => exact spacious
  | define index blank shaped lasting ranged absent room => exact before.spacious_define index ranged absent room spacious
  | undefine handle index held =>
      unfold plots
      rw [note_counter_indices]
      have erased : (before.indices.erase handle).mapValues (fun _ index => index.plot) = before.plots.erase handle :=
        before.indices.map_values_erase _ handle
      dsimp only
      rw [erased]
      exact spacious_retain _ _ spacious
  | revise handle index next held revised =>
      exact kept _ (before.plots_put handle index next held (index.plot_revised next revised))
  | increment coded handle named index next value held counted =>
      exact kept _ (before.plots_put handle index next held (index.plot_incremented next _ value counted))
  | changeAuth coded handle named index held auth sized =>
      simp only [authFits, coded, bne_self_eq_false, Bool.false_or, named, held, decide_eq_true_eq] at fits
      refine before.spacious_put handle index _ held rfl ?_ spacious
      rw [← sized] at fits
      unfold NvIndex.footprint
      dsimp only
      omega
  | lockAll =>
      refine kept _ (before.plots_map _ fun index => ?_)
      split
      · exact NvIndex.plot_of_area _ _ rfl rfl
      · rfl
  | startup coded restart disorderly => exact kept _ (before.plots_map _ (NvIndex.plot_cleared restart disorderly))
  | clear coded =>
      have cleared : before.clearOwnerIndices.plots.total NvPlot.size ≤ before.plots.total NvPlot.size := by
        rw [← used_total, ← used_total]
        exact (List.filter_sublist.map _ |>.map _).sum_le_sum fun _ _ => Nat.zero_le _
      refine ⟨cleared.trans spacious.used, fun handle plot held => ?_⟩
      rw [get_plots] at held
      refine spacious.keyed handle plot ?_
      rw [get_plots]
      unfold clearOwnerIndices at held
      dsimp only at held
      rw [SortedMap.get_retain] at held
      cases stored : before.indices.get handle with
      | none =>
          rw [stored] at held
          cases held
      | some index =>
          rw [stored] at held
          obtain ⟨other, found, rfl⟩ := Option.map_eq_some_iff.mp held
          rw [(Option.filter_eq_some_iff.mp found).1]
          rfl

end NvStore

section

variable [Primitives]

theorem record_pin_plots (store : NvStore) (entity : Entity) (accepted : Bool) :
    (store.recordPin entity accepted).plots = store.plots := by
  unfold NvStore.recordPin
  cases entity.pin with
  | none => rfl
  | some handle =>
      dsimp only
      cases held : store.get handle with
      | error e => rfl
      | ok index =>
          dsimp only
          cases index.pin with
          | error e => rfl
          | ok pin => exact store.plots_put handle index _ held (NvIndex.plot_of_area _ _ rfl rfl)

namespace TpmState

theorem keeps_plots_authorize_from (request : Request) (names : List Bytes) (count index : Nat) :
    Keeps (fun s => s.nv.plots) (authorizeFrom request names count index) := by
  refine keeps_authorize_from_of_settle _ request names (fun index entity attempt s => ?_) count index
  rw [settle_nv]
  split
  · rfl
  · exact record_pin_plots s.nv entity attempt.accepted

-- The size of the first parameter is not encrypted with it.
theorem decrypt_parameters_size (s : TpmState) (request decrypted : Request) (authValues : List Bytes)
    (made : s.decryptParameters request authValues = .ok decrypted) :
    ∃ parameters, decrypted = { request with parameters } ∧ parameters.take 2 = request.parameters.take 2 := by
  unfold decryptParameters at made
  cases chosen : request.position SessionAttributes.decrypt with
  | none =>
      rw [chosen, pure_is_ok] at made
      exact ⟨request.parameters, made.symm, rfl⟩
  | some index =>
      rw [chosen] at made
      simp only [bind_is_ok] at made
      obtain ⟨input, _, made⟩ := made
      by_cases password : input.handle = Rh.rsPw
      · rw [if_pos password] at made
        cases made
      · rw [if_neg password, bind_is_ok] at made
        obtain ⟨session, _, made⟩ := made
        cases given : firstSizedParameter request.parameters with
        | none =>
            rw [given] at made
            cases made
        | some body =>
            rw [given, bind_is_ok] at made
            obtain ⟨plain, _, made⟩ := made
            rw [pure_is_ok] at made
            refine ⟨_, made.symm, ?_⟩
            have long : 2 ≤ request.parameters.length := by
              unfold firstSizedParameter at given
              dsimp only at given
              split at given
              · cases given
              · omega
            unfold spliceFirstParameter
            rw [List.append_assoc, List.take_append_of_le_length (by simp; omega), List.take_take, Nat.min_self]

theorem run_guarded_spacious (request : Request) (s : TpmState) (fits : s.nv.authFits request = true)
    (spacious : NvStore.Spacious s.nv.plots) : NvStore.Spacious (final (runGuarded request s)).nv.plots := by
  have ended : (final (runGuarded request s)).nv = _ := final_run_guarded (fun s => s.nv) nv_spared_by_execution request s
  rw [ended]
  exact NvStore.nv_move_spacious request s.nv _
    (run_command_nv_moves request { s with commandAuditSuppressed := false }) fits spacious

theorem after_authorization_spacious (request : Request) (names : List Bytes) (contexts : List AuthContext)
    (s : TpmState) (fits : s.nv.authFits request = true) (spacious : NvStore.Spacious s.nv.plots) :
    Ensures (fun t => t = s) (afterAuthorization request names contexts) (fun _ t => NvStore.Spacious t.nv.plots)
      (fun t => NvStore.Spacious t.nv.plots) := by
  unfold afterAuthorization
  refine ensures_get_bind _ _ _ _ fun t same => ?_
  subst same
  refine ensures_lift_bind _ _ t _ _ spacious fun _ _ => ensures_get_bind _ _ _ _ fun u same => ?_
  subst same
  refine ensures_lift_bind _ _ u _ _ spacious fun _ _ => ensures_get_bind _ _ _ _ fun s same => ?_
  subst same
  refine ensures_lift_bind _ _ s _ _ spacious fun decrypted made => ?_
  obtain ⟨parameters, rfl, sized⟩ := decrypt_parameters_size s request decrypted _ made
  refine ensures_bind _ _ _ (fun _ t => NvStore.Spacious t.nv.plots) _ _ ?_ fun reply => ?_
  · intro t same
    rw [same]
    have ran := run_guarded_spacious { request with parameters } s
      ((s.nv.auth_fits_of_parameters request parameters sized).trans fits) spacious
    cases ended : runGuarded { request with parameters } s with
    | ok reply t =>
        rw [ended] at ran
        exact ran
    | error e t =>
        rw [ended] at ran
        exact ran
  · refine ensures_guard _ _ _ _ _ _ _ (fun _ => id) fun _ => ?_
    refine ensures_of_keeps (fun s : TpmState => s.nv) (fun nv => NvStore.Spacious nv.plots) _ ?_
    exact keeps_bind _ _ _ (keeps_respond (nv_spared_by_execution.response _) _ _ _ _) fun _ => keeps_pure _ _

theorem run_spacious (s : TpmState) (locality : UInt8) (octets : Bytes)
    (fits : found (parse octets locality) s.nv.authFits = true ∨ ∀ request, parse octets locality ≠ .ok request)
    (spacious : NvStore.Spacious s.nv.plots) : NvStore.Spacious (s.run locality octets).2.nv.plots := by
  have guarded : ∀ request names, (final (authorizeFrom request names request.info.authHandles 0
      (nullifyShutdown request s))).nv.plots = s.nv.plots := by
    intro request names
    have kept := keeps_plots_authorize_from request names request.info.authHandles 0 (nullifyShutdown request s)
    dsimp only at kept
    rw [kept, nullify_shutdown_nv]
  have course := s.run_course locality octets
  cases course with
  | unprepared e stopped same =>
      rcases same with same | ⟨request, _, same⟩
      · rw [same]
        exact spacious
      · rw [same, nullify_shutdown_nv]
        exact spacious
  | unauthorized request names prepared e ran =>
      have same := guarded request names
      rw [ran] at same
      change (s.run locality octets).2.nv.plots = _ at same
      rw [same]
      exact spacious
  | authorized request names prepared contexts t ran ended =>
      have same := guarded request names
      rw [ran] at same
      change t.nv.plots = _ at same
      obtain ⟨_, parsed, _⟩ := (s.prepare_is_ok locality octets request names).mp prepared
      have room : t.nv.authFits request = true := by
        rw [NvStore.auth_fits_of_plots _ _ request same]
        rcases fits with fits | unread
        · rw [parsed] at fits
          exact fits
        · exact absurd parsed (unread request)
      rw [ended]
      rcases ensures_final _ _ _ _ t (after_authorization_spacious request names contexts t room (same ▸ spacious)) rfl
        with ⟨_, left⟩ | left
      · exact left
      · exact left

end TpmState

namespace NvStore

-- What the load of a state file does with the Indices it reads.
def defineAll : List NvIndex → Action TpmRc NvStore Unit
  | [] => return ()
  | index :: rest => do
    define index
    defineAll rest

-- An Index above those there are, in space that is left.
theorem define_last (store : NvStore) (index : NvIndex) (ranged : isNvHandle index.area.nvIndex = true)
    (above : ∀ entry ∈ store.indices.entries, rank entry.1 < rank index.area.nvIndex)
    (fits : store.used + index.footprint ≤ Config.nvMemorySize) :
    ∃ next, Succeeds (define index) store () next ∧
      next.indices.entries = store.indices.entries ++ [(index.area.nvIndex, index)] := by
  have same := store.note_counter_indices index
  have used : (store.noteCounter index).used = store.used := by
    unfold NvStore.used
    rw [same]
  have free : (store.noteCounter index).indices.contains index.area.nvIndex = false := by
    rw [same]
    unfold SortedMap.contains
    cases held : store.indices.get index.area.nvIndex with
    | none => rfl
    | some other => exact absurd (above _ (store.indices.get_mem _ _ held)) (Nat.lt_irrefl _)
  have room : ¬ (store.noteCounter index).available < index.footprint := by
    unfold available
    omega
  refine ⟨{ store.noteCounter index with indices := (store.noteCounter index).indices.insert index.area.nvIndex index }, ?_, ?_⟩
  · unfold define Succeeds
    rw [run_modify_bind, run_get_bind]
    simp only [ranged, free, Bool.not_true, Bool.false_eq_true, if_false, if_neg room]
    rfl
  · dsimp only
    rw [same]
    exact store.indices.insert_above _ _ above

theorem define_all_entries (rest : List NvIndex) (store : NvStore)
    (placed : (store.indices.entries ++ rest.map fun index => (index.area.nvIndex, index)).Pairwise
      fun a b => rank a.1 < rank b.1)
    (ranged : ∀ index ∈ rest, isNvHandle index.area.nvIndex = true)
    (fits : store.used + (rest.map NvIndex.footprint).sum ≤ Config.nvMemorySize) :
    ∃ loaded, Succeeds (defineAll rest) store () loaded ∧
      loaded.indices.entries = store.indices.entries ++ rest.map fun index => (index.area.nvIndex, index) := by
  induction rest generalizing store with
  | nil => exact ⟨store, rfl, by simp⟩
  | cons index rest ih =>
      simp only [List.map_cons, List.sum_cons] at placed fits ⊢
      obtain ⟨_, _, across⟩ := List.pairwise_append.mp placed
      obtain ⟨next, defined, entries⟩ := store.define_last index (ranged index List.mem_cons_self)
        (fun entry member => across entry member _ List.mem_cons_self) (by omega)
      have grown : next.used = store.used + index.footprint := by
        unfold NvStore.used SortedMap.values
        rw [entries]
        simp
      obtain ⟨loaded, others, whole⟩ := ih next (by rw [entries]; simpa using placed)
        (fun other member => ranged other (List.mem_cons_of_mem _ member)) (by omega)
      refine ⟨loaded, ?_, by rw [whole, entries]; simp⟩
      unfold defineAll
      exact (succeeds_bind _ _ _ _ _).mpr ⟨(), next, defined, others⟩

theorem spacious_of_entries (store : NvStore) (used : store.used ≤ Config.nvMemorySize)
    (keyed : ∀ entry ∈ store.indices.entries, entry.2.area.nvIndex = entry.1 ∧ isNvHandle entry.1 = true) :
    Spacious store.plots := by
  refine ⟨store.used_total ▸ used, fun handle plot held => ?_⟩
  rw [get_plots] at held
  obtain ⟨index, stored, rfl⟩ := Option.map_eq_some_iff.mp held
  exact keyed (handle, index) (store.indices.get_mem handle index stored)

-- The Indices of a store that lie under their handles and fit can be defined again, in the order of their handles.
theorem defined_again (store : NvStore) (spacious : Spacious store.plots) :
    ∃ loaded, Succeeds (defineAll store.indices.values) new () loaded ∧ loaded.indices = store.indices := by
  have named : ∀ entry ∈ store.indices.entries, entry.2.area.nvIndex = entry.1 ∧ isNvHandle entry.1 = true := by
    intro entry member
    refine spacious.keyed entry.1 entry.2.plot ?_
    rw [get_plots, store.indices.mem_get entry.1 entry.2 member]
    rfl
  have entries : (store.indices.values.map fun index => (index.area.nvIndex, index)) = store.indices.entries := by
    unfold SortedMap.values
    rw [List.map_map]
    conv_rhs => rw [← List.map_id store.indices.entries]
    refine List.map_congr_left fun entry member => ?_
    exact Prod.ext (named entry member).1 rfl
  have used := spacious.used
  rw [← used_total] at used
  obtain ⟨loaded, ran, whole⟩ := define_all_entries store.indices.values new
    (by rw [entries]; exact store.indices.ascending)
    (by
      intro index member
      obtain ⟨entry, held, rfl⟩ := List.mem_map.mp member
      rw [(named entry held).1]
      exact (named entry held).2)
    (by simpa [NvStore.used, new, SortedMap.values, SortedMap.empty] using used)
  exact ⟨loaded, ran, SortedMap.ext (by rw [whole, entries]; rfl)⟩

end NvStore

-- The Indices fit into the NV memory, and can be defined again in the order of their handles.
def NvStore.Fits (store : NvStore) : Prop :=
  store.used ≤ Config.nvMemorySize ∧
    ∃ loaded, Succeeds (NvStore.defineAll store.indices.values) NvStore.new () loaded ∧ loaded.indices = store.indices

theorem NvStore.fits_of_spacious (store : NvStore) (spacious : NvStore.Spacious store.plots) : store.Fits :=
  ⟨store.used_total ▸ spacious.used, store.defined_again spacious⟩

namespace Tpm

-- A command that is no NV_ChangeAuth, or one whose new authValue fits into the space there is.
def authFits (t : Tpm) : Signal → Bool
  | .execute _ _ locality command =>
    match parse command locality with
    | .ok request => t.state.nv.authFits request
    | .error _ => true
  | _ => true

-- The Indices in memory and those in the file.
structure Spacious (t : Tpm) : Prop where
  state : NvStore.Spacious t.state.nv.plots
  store : NvStore.Spacious t.store.nv.plots

theorem persist_spacious (t : Tpm) (written : Bool) (spacious : t.Spacious) : (t.persist written).2.Spacious := by
  exact holds_after_persist Spacious t written spacious ⟨spacious.state, spacious.state⟩

theorem execute_spacious (t : Tpm) (elapsed : UInt64) (written : Bool) (locality : UInt8) (command : Bytes)
    (fits : t.authFits (.execute elapsed written locality command) = true) (spacious : t.Spacious) :
    (t.execute elapsed written locality command).2.Spacious := by
  cases powered : t.powered with
  | false =>
      have same := t.execute_unpowered elapsed written locality command powered
      rw [same]
      exact spacious
  | true =>
      have arrived : (t.arrive elapsed).2.nv = t.state.nv := TpmState.advance_time_nv _ elapsed
      have ran : NvStore.Spacious (t.ran elapsed locality command).2.nv.plots := by
        refine TpmState.run_spacious (t.arrive elapsed).2 locality command ?_ (arrived ▸ spacious.state)
        rw [arrived]
        cases read : parse command locality with
        | ok request =>
            simp only [authFits, read] at fits
            exact .inl fits
        | error e =>
            right
            intro request parsed
            cases parsed
      have ended := t.execute_executes elapsed written locality command powered
      generalize t.execute elapsed written locality command = result at ended ⊢
      cases ended with
      | saved healthy writes => exact ⟨ran, ran⟩
      | closed refused writes => exact ⟨ran, spacious.store⟩
      | clockLost refused plain same rolled => exact ⟨ran, spacious.store⟩
      | unsaved plain same still => exact ⟨ran, spacious.store⟩

theorem restored_nv_spacious (nv : NvStore) (spacious : NvStore.Spacious nv.plots) :
    NvStore.Spacious (TpmState.restoredNv nv).plots := by
  unfold NvStore.plots
  rw [TpmState.restored_nv_indices]
  exact spacious

theorem power_on_spacious (t : Tpm) (fresh : TpmState) (spacious : t.Spacious) : (t.powerOn fresh).Spacious := by
  refine ⟨?_, spacious.store⟩
  unfold powerOn
  dsimp only
  split
  · rw [TpmState.power_on_nv]
    exact restored_nv_spacious t.store.nv spacious.store
  · rw [TpmState.power_on_nv]
    exact spacious.state

theorem signal_spacious (t : Tpm) (signal : Signal) (fits : t.authFits signal = true) (spacious : t.Spacious) :
    (t.after signal).Spacious := by
  cases signal with
  | execute elapsed written locality command => exact t.execute_spacious elapsed written locality command fits spacious
  | powerOn fresh => exact t.power_on_spacious fresh spacious
  | powerOff written => exact ⟨(t.persist_spacious written spacious).state, (t.persist_spacious written spacious).store⟩
  | nv available => exact ⟨spacious.state, spacious.store⟩
  | physicalPresence asserted => exact ⟨spacious.state, spacious.store⟩
  | hashStart => exact ⟨spacious.state, spacious.store⟩
  | hashData data => exact ⟨spacious.state, spacious.store⟩
  | hashEnd =>
      refine ⟨?_, spacious.store⟩
      change NvStore.Spacious t.state.hashEnd.nv.plots
      rw [TpmState.hash_end_nv]
      exact spacious.state
  | actGetSignaled act elapsed written =>
      have advanced : ∀ millis, ({ t with state := (t.state.advanceTime millis).2 } : Tpm).Spacious := fun millis =>
        ⟨by rw [TpmState.advance_time_nv]; exact spacious.state, spacious.store⟩
      exact holds_after_poll Spacious t act elapsed written advanced fun u => u.persist_spacious written
  | restart fresh => exact ⟨restored_nv_spacious t.store.nv spacious.store, spacious.store⟩

end Tpm

-- In every state of a run whose NV_ChangeAuth commands fit, the Indices in memory and in the file fit, and can be
-- defined again.
theorem nv_space_bounded (s : TpmState) (empty : s.nv.indices = SortedMap.empty) (signals : List Signal)
    (fits : Every Tpm.after (fun t signal => t.authFits signal = true) (Tpm.manufactured s) signals) :
    ((Tpm.manufactured s).afterAll signals).state.nv.Fits ∧ ((Tpm.manufactured s).afterAll signals).store.nv.Fits := by
  have start : NvStore.Spacious s.nv.plots := by
    unfold NvStore.plots
    rw [empty]
    exact ⟨Nat.zero_le _, nofun⟩
  have spacious : ((Tpm.manufactured s).afterAll signals).Spacious :=
    invariant_of_every _ _ Tpm.Spacious (fun t signal fits => t.signal_spacious signal fits) _ signals fits ⟨start, start⟩
  exact ⟨NvStore.fits_of_spacious _ spacious.state, NvStore.fits_of_spacious _ spacious.store⟩

end

namespace Toy

-- A session in which the policy for a change of an authValue is met.
def authPolicySession : List Bytes := [startSession Se.policy,
  plainCommand Cc.policyCommandCode [policyHandle] (be32 Cc.nvChangeAuth)]

def authChangePolicy : Bytes :=
  ((afterCommands authPolicySession booted).sessions.get policyHandle).toOption.elim [] (·.policy.digest)

def fillingHandle (index : Nat) : UInt32 := Hc.nvIndexFirst + UInt32.ofNat index

def defineFilling (index : Nat) (policy : Bytes) (size : UInt16) : Bytes :=
  let attributes : UInt32 := NvAttributes.noDa ||| NvAttributes.ownerwrite ||| NvAttributes.ownerread
  authorizedCommand Cc.nvDefineSpace [Rh.owner] [(Rh.rsPw, [])] (sized16 [] ++ sized16
    (NvPublic.marshal { nvIndex := fillingHandle index, nameAlg := Alg.sha256, attributes := ⟨attributes⟩
                        authPolicy := (Tpm2b.new policy : TpmResult Tpm2bDigest).toOption.getD Tpm2b.empty
                        dataSize := size }))

-- Indices that take the whole NV memory.
def filling : List Bytes :=
  (List.range 15).map (fun index => defineFilling index [] 8500) ++ [defineFilling 15 authChangePolicy 3316]

-- An authValue of the length of a digest.
def changesFilling (index : Nat) : List Bytes := authPolicySession ++
  [authorizedCommand Cc.nvChangeAuth [fillingHandle index] [(policyHandle, [])] (sized16 (List.replicate 32 5))]

-- The Indices in the file then take more than the NV memory, and cannot be defined again.
theorem change_auth_overfills : ¬ ∀ seed s, TpmState.manufacture seed = .ok s → ∀ signals,
    ((Tpm.manufactured s).afterAll signals).store.nv.used ≤ Config.nvMemorySize := by
  intro bounded
  have tested : found (TpmState.manufacture (List.replicate 48 7)) (fun s =>
      decide (Config.nvMemorySize <
        ((Tpm.manufactured s).afterAll (startedWith (filling ++ changesFilling 15))).store.nv.used)) = true := by
    rw [manufacture_made]
    decide +kernel
  obtain ⟨s, made, tested⟩ := ok_of_found _ _ tested
  have exceeded := of_decide_eq_true tested
  exact absurd (bounded _ s made _) (Nat.not_le.mpr exceeded)

-- The same change where there is room for it.
theorem filling_fits : ∃ s signals, (s : TpmState).nv.indices = SortedMap.empty ∧
    Every Tpm.after (fun t signal => t.authFits signal = true) (Tpm.manufactured s) signals ∧
    found (((Tpm.manufactured s).afterAll signals).state.nv.get (fillingHandle 0))
      (fun index => index.auth == List.replicate 32 5) = true ∧
    ((Tpm.manufactured s).afterAll signals).state.nv.Fits ∧ ((Tpm.manufactured s).afterAll signals).store.nv.Fits := by
  have tested : found (TpmState.manufacture (List.replicate 48 7)) (fun s =>
      let signals := startedWith (defineFilling 0 authChangePolicy 8500 :: changesFilling 0)
      decide (s.nv.indices = SortedMap.empty) &&
        decide (Every Tpm.after (fun t signal => t.authFits signal = true) (Tpm.manufactured s) signals) &&
        found (((Tpm.manufactured s).afterAll signals).state.nv.get (fillingHandle 0))
          (fun index => index.auth == List.replicate 32 5)) = true := by
    rw [manufacture_made]
    decide +kernel
  obtain ⟨s, _, tested⟩ := ok_of_found _ _ tested
  simp only [Bool.and_eq_true, decide_eq_true_eq] at tested
  obtain ⟨⟨empty, fits⟩, changed⟩ := tested
  exact ⟨s, _, empty, fits, changed, nv_space_bounded s empty _ fits⟩

end Toy

end Swtrust
