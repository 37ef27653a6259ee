import Swtrust.Commit.Moves
import Swtrust.Commit.Window
import Swtrust.Session.Answered
import Swtrust.Startup.Sequence

set_option autoImplicit false
set_option linter.unusedSectionVars false

namespace Swtrust

open Library Action

-- A counter is let through, and spent with that.
def Commits.Uses (counter : UInt16) (before after : Commits) : Prop :=
  ∃ full, before.fullCounter counter = .ok full ∧ after = before.setBit full false

namespace CommitLog

section

variable (log : CommitLog) (commits : Commits) (held : log.Held commits)

include held

theorem spends_bit (counter : UInt16) (full : UInt64) (named : commits.fullCounter counter = .ok full) (i : Nat) :
    (commits.setBit full false).bit i =
      if log.named commits counter % Config.maxCommitSequences = i then false else commits.bit i := by
  obtain ⟨outstanding, _, rfl⟩ := log.full_counter_names commits held counter full named
  have set : commits.bit (log.named commits counter % Config.maxCommitSequences) = true :=
    (held.bits _ (Nat.mod_lt _ (by decide))).mpr ⟨_, outstanding, rfl⟩
  have made : commits.used.length = Config.maxCommitSequences / 8 := by
    refine held.sized.resolve_left fun none => ?_
    simp [Commits.bit, none] at set
  have slot : Commits.index (UInt64.ofNat (log.named commits counter)) =
      log.named commits counter % Config.maxCommitSequences := by
    simp only [Commits.index, UInt64.toNat_ofNat', Config.maxCommitSequences]
    omega
  rw [commits.bit_set_bit _ _ i made, slot]

-- One change of the array spends one commit.
theorem uses_spend_alike (after : Commits) (first second : UInt16) (one : Commits.Uses first commits after)
    (other : Commits.Uses second commits after) : log.spend commits first = log.spend commits second := by
  obtain ⟨fullOne, namedOne, movedOne⟩ := one
  obtain ⟨fullOther, namedOther, movedOther⟩ := other
  obtain ⟨outOne, _, _⟩ := log.full_counter_names commits held first fullOne namedOne
  obtain ⟨outOther, _, _⟩ := log.full_counter_names commits held second fullOther namedOther
  have inside : log.named commits first % Config.maxCommitSequences < Config.maxCommitSequences :=
    Nat.mod_lt _ (by decide)
  have cleared := log.spends_bit commits held first fullOne namedOne (log.named commits first % Config.maxCommitSequences)
  have kept := log.spends_bit commits held second fullOther namedOther (log.named commits first % Config.maxCommitSequences)
  have set : commits.bit (log.named commits first % Config.maxCommitSequences) = true :=
    (held.bits _ inside).mpr ⟨_, outOne, rfl⟩
  rw [← movedOne, if_pos rfl] at cleared
  rw [← movedOther, cleared, set] at kept
  -- The bit that the one clears is still set after the other, unless both clear the same.
  have slots : log.named commits second % Config.maxCommitSequences =
      log.named commits first % Config.maxCommitSequences := by
    by_contra apart
    rw [if_neg apart] at kept
    cases kept
  have same : log.named commits second = log.named commits first := by
    obtain ⟨below, above, _⟩ := outOne
    obtain ⟨below', above', _⟩ := outOther
    simp only [Config.maxCommitSequences] at *
    omega
  unfold spend
  rw [same]

end

theorem take_is_no_use (commits : Commits) (counter : UInt16) : ¬ Commits.Uses counter commits commits.take := by
  rintro ⟨full, _, moved⟩
  have counts : commits.count + 1 = commits.count := congrArg Commits.count moved
  simp at counts

theorem rest_is_no_use (log : CommitLog) (commits : Commits) (held : log.Held commits) (counter : UInt16) :
    ¬ Commits.Uses counter commits commits := by
  rintro ⟨full, named, moved⟩
  obtain ⟨outstanding, _, _⟩ := log.full_counter_names commits held counter full named
  have cleared := log.spends_bit commits held counter full named (log.named commits counter % Config.maxCommitSequences)
  rw [← moved, if_pos rfl] at cleared
  have set := (held.bits _ (Nat.mod_lt _ (by decide))).mpr ⟨_, outstanding, rfl⟩
  rw [cleared] at set
  cases set

end CommitLog

section

variable [Primitives]

theorem Commits.Derives.uses {counter nameAlg : UInt16} {name : Bytes} {before after : Commits}
    (derives : Commits.Derives counter nameAlg name before after) : Commits.Uses counter before after := by
  obtain ⟨full, _, _, named, _, moved⟩ := derives
  exact ⟨full, named, moved⟩

-- What a command does with the commits leaves a counter to be used, unless it has derived its nonce or taken another.
theorem CommitMove.spares {commits after : Commits} (moved : CommitMove commits after) (log : CommitLog)
    (held : log.Held commits) (counter : UInt16) (full : UInt64) (accepted : commits.fullCounter counter = .ok full) :
    after.fullCounter counter = .ok full ∨
      (∃ nameAlg name, Commits.Derives counter nameAlg name commits after) ∨
      commits.isReady = true ∧ after = commits.take := by
  cases moved with
  | same => exact .inl accepted
  | taken ready => exact .inr (.inr ⟨ready, rfl⟩)
  | derived other nameAlg name _ derives =>
      by_cases same : counter = other
      · exact .inr (.inl ⟨nameAlg, name, same ▸ derives⟩)
      · obtain ⟨rest, named, moved⟩ := derives.uses
        rw [moved]
        exact .inl (log.full_counter_spared commits held other counter rest full named accepted same)

namespace TpmState

theorem commits_spared : SparedByCourse (·.commits) where
  execution := ⟨fun _ => ⟨fun _ _ => rfl, fun _ _ => rfl, fun _ _ => rfl, fun _ _ _ _ => rfl, fun _ _ _ => rfl⟩,
    fun _ _ => rfl, fun _ => rfl⟩
  guarded _ _ _ := rfl

-- The commits after a command are those that its handler left, if it came so far.
theorem command_commits (s : TpmState) (locality : UInt8) (octets : Bytes) :
    (s.after (.command locality octets)).commits = match s.received.reaching locality octets with
      | none => s.commits
      | some (request, t) => (final (runCommand request t)).commits := by
  change (run locality octets s.received).2.commits = _
  cases took : s.received.taken locality octets with
  | error e =>
      rw [s.received.run_of_refused locality octets e took, s.received.reaching_of_refused locality octets e took]
      rfl
  | ok request =>
      obtain ⟨_, _, undone⟩ := nullify_shutdown_changes request s.received
      have ended := run_reaches (·.commits) commits_spared s.received locality octets request took
      rw [undone] at ended
      exact ended

theorem signal_commits (s : TpmState) (event : Event) (signal : ∀ locality octets, event ≠ .command locality octets) :
    (s.after event).commits = s.commits := by
  cases event with
  | command locality octets => exact absurd rfl (signal locality octets)
  | elapse millis =>
      obtain ⟨_, _, _, same⟩ := s.advance_time_changes millis
      change (s.advanceTime millis).2.commits = s.commits
      rw [same]
  | powerOn =>
      obtain ⟨_, _, _, _, _, _, _, _, _, _, same⟩ := s.power_on_changes
      change s.powerOn.commits = s.commits
      rw [same]
  | hashEnd =>
      obtain ⟨_, _, _, _, same⟩ := s.hash_end_changes
      change s.hashEnd.commits = s.commits
      rw [same]
  | _ => rfl

theorem other_event_moves (s : TpmState) (event : Event) (other : ¬ s.Starts event) :
    CommitMove s.commits (s.after event).commits := by
  by_cases command : ∃ locality octets, event = .command locality octets
  · obtain ⟨locality, octets, rfl⟩ := command
    rw [s.command_commits locality octets]
    cases reached : s.received.reaching locality octets with
    | none => exact .same
    | some pair =>
        obtain ⟨request, t⟩ := pair
        obtain ⟨_, _, _, commits, _⟩ := s.received.reaching_judged locality octets request t reached
        have moves := run_command_moves_commits request
          (fun code => other ⟨locality, octets, request, t, rfl, reached, code⟩) t
        unfold StateMoves at moves
        rw [commits] at moves
        exact moves
  · rw [s.signal_commits event fun locality octets same => command ⟨locality, octets, same⟩]
    exact .same

theorem startup_event_recommits (s : TpmState) (event : Event) (starts : s.Starts event) :
    (s.after event).commits = s.commits ∨ (s.after event).commits.Fresh := by
  obtain ⟨locality, octets, request, t, rfl, reached, code⟩ := starts
  obtain ⟨_, _, commits, _⟩ := s.received.reaching_startup locality octets request t reached code
  rw [s.command_commits locality octets, reached]
  dsimp only
  rw [startup_run request t code, final_map]
  rcases ensures_final _ _ _ _ t (startup_recommits s.commits request) commits with ⟨_, left⟩ | same
  · exact left
  · exact .inl same

theorem startup_empty (request : Request) (s t : TpmState) (response : Response)
    (ran : startup request s = .ok response t) : response = .empty := by
  have empties : ∀ (pre : TpmState → Prop) (action : TpmM Unit), Ensures pre (action >>= fun _ => (pure .empty : TpmM Response))
      (fun response _ => response = .empty) fun _ => True := fun pre action =>
    ensures_bind _ _ _ (fun _ _ => True) _ _ (fun u _ => by split <;> trivial) fun _ => fun _ _ => rfl
  have ensured : Ensures (fun _ => True) (startup request) (fun response _ => response = .empty) fun _ => True := by
    refine ensures_bind _ _ _ (fun _ _ => True) _ _ (fun u _ => by split <;> trivial) fun startupType => ?_
    refine ensures_guard _ _ _ _ _ _ _ (fun _ => id) fun _ => ?_
    refine ensures_ite _ _ _ _ _ _ (fun _ => empties _ _) fun _ => ?_
    refine ensures_ite _ _ _ _ _ _ (fun _ => ?_) fun _ => empties _ _
    refine ensures_get_bind _ _ _ _ fun u _ => ?_
    exact ensures_guard _ _ _ _ _ _ _ (fun _ _ => trivial) fun _ => empties _ _
  exact ensures_of_succeeds _ _ _ _ s t response ensured trivial ran

-- What has passed every check, completed and been answered, has succeeded.
theorem after_authorization_made (request decrypted : Request) (names : List Bytes) (contexts : List AuthContext)
    (reply : Reply) (octets : Bytes) (t u v : TpmState) (admits : t.admitted request names contexts = .ok decrypted)
    (ran : runGuarded decrypted t = .ok reply u) (read : reply.unread = [])
    (answered : respond decrypted reply names contexts request.parameters u = .ok octets v) :
    afterAuthorization request names contexts t = .ok ⟨octets, decrypted, reply⟩ v := by
  simp only [admitted, bind_is_ok] at admits
  obtain ⟨_, unauthorized, _, audit, made⟩ := admits
  simp only [afterAuthorization, run_get_bind, run_lift_bind, unauthorized, audit, made]
  simp only [bind, EStateM.bind, ran, read, List.isEmpty_nil, Bool.not_true, Bool.false_eq_true, if_false, answered]
  rfl

-- A startup whose handler completes is answered.
theorem startup_answered (s : TpmState) (audited : Hash.isSupported s.audit.alg = true) (locality : UInt8)
    (octets : Bytes) (request : Request) (t t' : TpmState) (response : Response)
    (reached : s.reaching locality octets = some (request, t)) (code : request.code = Cc.startup)
    (ran : startup request t = .ok response t') : ∃ executed u, execute locality octets s = .ok executed u := by
  obtain ⟨_, _, lockout, nv, _, _, found⟩ := s.reaching_finds locality octets request t reached
  have computes : Hash.isSupported t'.audit.alg = true := by
    have kept := run_command_audit_hash request t
    rw [startup_run request t code, final_map, ran] at kept
    refine kept ?_
    rw [found]
    obtain ⟨_, _, nullified⟩ := nullify_shutdown_changes _ s
    rw [nullified]
    exact audited
  unfold reaching at reached
  cases prepared : s.prepare locality octets with
  | error e =>
      rw [prepared] at reached
      cases reached
  | ok pair =>
      obtain ⟨sent, names⟩ := pair
      simp only [prepared] at reached
      cases authorized : authorizeFrom sent names sent.info.authHandles 0 (nullifyShutdown sent s) with
      | error e u =>
          rw [authorized] at reached
          cases reached
      | ok contexts u =>
          simp only [authorized] at reached
          cases admits : u.admitted sent names contexts with
          | error e =>
              rw [admits] at reached
              cases reached
          | ok decrypted =>
              simp only [admits, Option.some.injEq, Prod.mk.injEq] at reached
              obtain ⟨rfl, rfl⟩ := reached
              rw [s.execute_authorized locality octets sent names prepared contexts u authorized]
              have made := admits
              simp only [admitted, bind_is_ok] at made
              obtain ⟨_, _, _, _, made⟩ := made
              obtain ⟨parameters, same⟩ := decrypt_parameters_only sent u decrypted _ made
              obtain ⟨_, parsed, _⟩ := (s.prepare_is_ok locality octets sent names).mp prepared
              have bare : decrypted.sessions = [] := by
                rw [same] at code ⊢
                exact parsed_no_sessions octets locality sent parsed (by rw [show sent.code = Cc.startup from code]; rfl)
              have guarded : runGuarded decrypted u = .ok (Response.empty : Response).reply t' := by
                unfold runGuarded
                rw [startup_run _ _ code]
                simp only [Functor.map, EStateM.map, ran, startup_empty _ _ _ _ ran]
              obtain ⟨octets, v, answered⟩ := respond_bare decrypted (Response.empty : Response).reply names contexts
                sent.parameters t' bare computes
              exact ⟨_, v, after_authorization_made sent decrypted names contexts _ octets u t' v admits guarded rfl answered⟩

-- What a command that fails does with the commits, a startup included.
theorem failed_command_moves (s : TpmState) (audited : Hash.isSupported s.audit.alg = true) (locality : UInt8)
    (octets : Bytes) (failed : ∀ executed t, execute locality octets s.received ≠ .ok executed t) :
    CommitMove s.commits (s.after (.command locality octets)).commits := by
  by_cases starts : s.Starts (.command locality octets)
  · obtain ⟨_, _, request, t, same, reached, code⟩ := starts
    cases same
    obtain ⟨_, _, commits, _⟩ := s.received.reaching_startup locality octets request t reached code
    rw [s.command_commits locality octets, reached]
    dsimp only
    rw [startup_run request t code, final_map]
    have ended := startup_recommits s.commits request t commits
    cases ran : startup request t with
    | ok response t' =>
        obtain ⟨executed, u, answered⟩ := s.received.startup_answered audited locality octets request t t' response
          reached code ran
        exact absurd answered (failed executed u)
    | error e t' =>
        rw [ran] at ended
        change CommitMove s.commits t'.commits
        rw [show t'.commits = s.commits from ended]
        exact .same
  · exact s.other_event_moves _ starts

-- A TPM Reset that completes leaves no commit of the time before it.
theorem reset_event_fresh (s : TpmState) (locality : UInt8) (octets : Bytes) (request : Request)
    (carried : s.received.carried locality octets = some request) (code : request.code = Cc.startup)
    (given : request.params (Reader.withParameter 1 u16) = .ok Su.clear) (lost : s.shutdownType ≠ Su.state) :
    s.Starts (.command locality octets) ∧ (s.after (.command locality octets)).commits.Fresh := by
  obtain ⟨t, reply, t', reached, ran⟩ := s.received.carried_reaches locality octets request carried
  refine ⟨⟨locality, octets, request, t, rfl, reached, code⟩, ?_⟩
  obtain ⟨_, boot, _⟩ := s.received.reaching_startup locality octets request t reached code
  have before : t.shutdownType ≠ Su.state := by
    rw [show t.shutdownType = s.shutdownType from congrArg Boot.shutdownType boot]
    exact lost
  obtain ⟨response, ended, started⟩ := (s.received.carried_startup locality octets request t reached code).mp carried
  rw [s.command_commits locality octets, reached]
  dsimp only
  rw [startup_run request t code]
  simp only [Functor.map, EStateM.map, started]
  change ended.commits.Fresh
  have succeeded : Succeeds (startup request) t response ended := started
  unfold startup at succeeded
  rw [succeeds_bind] at succeeded
  obtain ⟨startupType, _, read, succeeded⟩ := succeeded
  rw [succeeds_lift, given] at read
  obtain ⟨same, rfl⟩ := read
  obtain rfl := Except.ok.inj same
  rw [succeeds_guard, if_pos rfl, succeeds_bind] at succeeded
  obtain ⟨_, u, _, began, succeeded⟩ := succeeded
  obtain ⟨_, rfl⟩ := (succeeds_pure _ _ _ _).mp succeeded
  exact reset_recommits request.locality t _ u before began

end TpmState

namespace CommitLog

-- What an event adds to the log.
inductive Records (s : TpmState) (event : Event) (log : CommitLog) : CommitLog → Prop where
  | renewed (starts : s.Starts event) (fresh : (s.after event).commits.Fresh) : Records s event log {}
  | kept (same : (s.after event).commits = s.commits) (stale : s.Starts event → ¬ (s.after event).commits.Fresh) :
      Records s event log log
  | taken (other : ¬ s.Starts event) (ready : s.commits.isReady = true)
      (moved : (s.after event).commits = s.commits.take) : Records s event log log.take
  | derived (other : ¬ s.Starts event) (counter nameAlg : UInt16) (name : Bytes)
      (derives : Commits.Derives counter nameAlg name s.commits (s.after event).commits) :
      Records s event log (log.spend s.commits counter)

theorem records_exist (s : TpmState) (event : Event) (log : CommitLog) : ∃ log', Records s event log log' := by
  by_cases starts : s.Starts event
  · by_cases fresh : (s.after event).commits.Fresh
    · exact ⟨{}, .renewed starts fresh⟩
    · have same := (s.startup_event_recommits event starts).resolve_right fresh
      exact ⟨log, .kept same fun _ => fresh⟩
  · have moves := s.other_event_moves event starts
    generalize ended : (s.after event).commits = after at moves
    cases moves with
    | same => exact ⟨log, .kept ended fun started => absurd started starts⟩
    | taken ready => exact ⟨log.take, .taken starts ready ended⟩
    | derived counter nameAlg name _ derives =>
        exact ⟨log.spend s.commits counter, .derived starts counter nameAlg name (ended ▸ derives)⟩

theorem held_fresh (commits : Commits) (fresh : commits.Fresh) : ({} : CommitLog).Held commits := by
  obtain ⟨random, rfl⟩ := fresh
  exact held_reset random

theorem held_recorded (s : TpmState) (event : Event) (log log' : CommitLog) (held : log.Held s.commits)
    (records : Records s event log log') : log'.Held (s.after event).commits := by
  cases records with
  | renewed starts fresh => exact held_fresh _ fresh
  | kept same stale =>
      rw [same]
      exact held
  | taken other ready moved =>
      rw [moved]
      exact log.held_taken s.commits held ready
  | derived other counter nameAlg name derives =>
      obtain ⟨full, named, moved⟩ := derives.uses
      rw [moved]
      exact log.held_spent s.commits held counter full named

-- Until the next startup the random value stays, and what the log has of commits, it keeps.
theorem recorded_grows (s : TpmState) (event : Event) (log log' : CommitLog) (records : Records s event log log')
    (other : ¬ s.Starts event) : (s.after event).commits.random = s.commits.random ∧ log.issued ≤ log'.issued ∧
      ∀ j ∈ log.spent, j ∈ log'.spent := by
  cases records with
  | renewed starts fresh => exact absurd starts other
  | kept same stale => exact ⟨congrArg Commits.random same, le_refl _, fun _ member => member⟩
  | taken _ ready moved =>
      rw [moved]
      exact ⟨rfl, Nat.le_succ _, fun _ member => member⟩
  | derived _ counter nameAlg name derives =>
      obtain ⟨full, _, moved⟩ := derives.uses
      rw [moved]
      exact ⟨rfl, le_refl _, fun _ member => List.mem_cons_of_mem _ member⟩

-- An event that uses a counter is logged as that use.
theorem recorded_use (s : TpmState) (event : Event) (log log' : CommitLog) (held : log.Held s.commits)
    (records : Records s event log log') (other : ¬ s.Starts event) (counter : UInt16)
    (used : Commits.Uses counter s.commits (s.after event).commits) : log' = log.spend s.commits counter := by
  cases records with
  | renewed starts fresh => exact absurd starts other
  | kept same stale =>
      rw [same] at used
      exact absurd used (rest_is_no_use log s.commits held counter)
  | taken _ ready moved =>
      rw [moved] at used
      exact absurd used (take_is_no_use s.commits counter)
  | derived _ first nameAlg name derives => exact log.uses_spend_alike s.commits held _ first counter derives.uses used

-- What the events of a run add to the log one after the other.
inductive RunRecords : TpmState → CommitLog → List Event → CommitLog → Prop where
  | nil (s : TpmState) (log : CommitLog) : RunRecords s log [] log
  | cons (s : TpmState) (event : Event) (events : List Event) (log log' ended : CommitLog)
      (records : Records s event log log') (rest : RunRecords (s.after event) log' events ended) :
      RunRecords s log (event :: events) ended

theorem run_records_exist (events : List Event) (s : TpmState) (log : CommitLog) :
    ∃ ended, RunRecords s log events ended := by
  induction events generalizing s log with
  | nil => exact ⟨log, .nil s log⟩
  | cons event events ih =>
      obtain ⟨log', records⟩ := records_exist s event log
      obtain ⟨ended, rest⟩ := ih (s.after event) log'
      exact ⟨ended, .cons s event events log log' ended records rest⟩

theorem held_run (events : List Event) (s : TpmState) (log ended : CommitLog) (held : log.Held s.commits)
    (records : RunRecords s log events ended) : ended.Held (s.afterAll events).commits := by
  induction records with
  | nil s log => exact held
  | cons s event events log log' ended records rest ih => exact ih (held_recorded s event log log' held records)

theorem held_manufactured (seed : Bytes) (s : TpmState) (made : TpmState.manufacture seed = .ok s) :
    ({} : CommitLog).Held s.commits := by
  simp only [TpmState.manufacture, bind_is_ok, pure_is_ok] at made
  obtain ⟨_, _, _, _, _, _, rfl⟩ := made
  exact held_empty

end CommitLog

end

end Swtrust
