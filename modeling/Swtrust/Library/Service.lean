import Swtrust.Library.Canonical

set_option autoImplicit false

-- A service takes requests off a stream one after the other and answers each before it reads the next. It ends when
-- the stream does, when a request cannot be read, or with a request that closes it.

namespace Swtrust.Library

structure Service (ε Req σ : Type) where
  read : Decoder ε Req
  answer : Req → σ → σ × Bytes × Bool

inductive Ending (ε : Type) where
  | closed
  | ended
  | failed (e : ε)
  deriving DecidableEq

structure Served (ε σ : Type) where
  state : σ
  replies : Bytes
  ending : Ending ε

namespace Service

section

variable {ε Req σ : Type} (service : Service ε Req σ)

-- The requests are fewer than the octets, which bound the rounds.
def serveFrom : (rounds : Nat) → Bytes → σ → Served ε σ
  | 0, _, s => ⟨s, [], .closed⟩
  | rounds + 1, input, s =>
      if input.isEmpty then ⟨s, [], .closed⟩
      else
        match service.read.run input with
        | .error e => ⟨s, [], .failed e⟩
        | .ok (request, rest) =>
          let (s, reply, goesOn) := service.answer request s
          if goesOn then
            let served := serveFrom rounds rest s
            { served with replies := reply ++ served.replies }
          else ⟨s, reply, .ended⟩

def serve (input : Bytes) (s : σ) : Served ε σ := service.serveFrom (input.length + 1) input s

-- Requests answered one after the other, as far as the first that closes.
def answers : List Req → σ → σ × Bytes × Bool
  | [], s => (s, [], true)
  | request :: rest, s =>
      let (s, reply, goesOn) := service.answer request s
      if goesOn then
        let (s, replies, goesOn) := answers rest s
        (s, reply ++ replies, goesOn)
      else (s, reply, false)

-- How a stream ends that holds some requests and then `tail`.
inductive Ends (tail : Bytes) : (goesOn : Bool) → Ending ε → Prop where
  | closed (nothing : tail = []) : Ends tail true .closed
  | ended : Ends tail false .ended
  | failed (e : ε) (more : tail ≠ []) (refused : service.read.run tail = .error e) : Ends tail true (.failed e)

theorem answers_cons_goes (request : Req) (rest : List Req) (s : σ) (goes : (service.answer request s).2.2 = true) :
    service.answers (request :: rest) s =
      ((service.answers rest (service.answer request s).1).1,
        (service.answer request s).2.1 ++ (service.answers rest (service.answer request s).1).2.1,
        (service.answers rest (service.answer request s).1).2.2) := by
  rw [answers]
  simp only [goes, if_true]

theorem answers_cons_ends (request : Req) (rest : List Req) (s : σ) (ends : (service.answer request s).2.2 = false) :
    service.answers (request :: rest) s = ((service.answer request s).1, (service.answer request s).2.1, false) := by
  rw [answers]
  simp [ends]

theorem serve_from_read (rounds : Nat) (input rest : Bytes) (request : Req) (s : σ) (some' : input ≠ [])
    (read : service.read.run input = .ok (request, rest)) :
    service.serveFrom (rounds + 1) input s =
      if (service.answer request s).2.2 then
        { service.serveFrom rounds rest (service.answer request s).1 with
          replies := (service.answer request s).2.1 ++ (service.serveFrom rounds rest (service.answer request s).1).replies }
      else ⟨(service.answer request s).1, (service.answer request s).2.1, .ended⟩ := by
  rw [serveFrom, if_neg (by simpa using some'), read]

variable (encode : Req → Bytes) (good : Req → Prop)

-- Whatever arrives, what is done is what some list of requests asks for, and the stream begins with those requests
-- written out; of the rest nothing is done.
theorem serve_from_splits (canonical : Canonical service.read encode) (nonempty : ∀ request, encode request ≠ [])
    (checked : ∀ input request rest, service.read.run input = .ok (request, rest) → good request) :
    ∀ (rounds : Nat) (input : Bytes) (s : σ), input.length < rounds → ∃ requests tail,
      input = requests.flatMap encode ++ tail ∧ (∀ request ∈ requests, good request) ∧
      (service.serveFrom rounds input s).state = (service.answers requests s).1 ∧
      (service.serveFrom rounds input s).replies = (service.answers requests s).2.1 ∧
      service.Ends tail (service.answers requests s).2.2 (service.serveFrom rounds input s).ending := by
  intro rounds
  induction rounds with
  | zero => intro input s short; exact absurd short (Nat.not_lt_zero _)
  | succ rounds ih =>
      intro input s enough
      by_cases nothing : input = []
      · subst nothing
        refine ⟨[], [], rfl, by simp, rfl, rfl, ?_⟩
        exact .closed rfl
      cases read : service.read.run input with
      | error e =>
          have failed : service.serveFrom (rounds + 1) input s = ⟨s, [], .failed e⟩ := by
            rw [serveFrom, if_neg (by simpa using nothing), read]
          rw [failed]
          exact ⟨[], input, rfl, by simp, rfl, rfl, .failed e nothing read⟩
      | ok pair =>
          obtain ⟨request, rest⟩ := pair
          have front : input = encode request ++ rest := canonical input request rest read
          rw [service.serve_from_read rounds input rest request s nothing read]
          have shorter : rest.length < rounds := by
            have positive := List.length_pos_iff.mpr (nonempty request)
            rw [front, List.length_append] at enough
            omega
          cases goes : (service.answer request s).2.2 with
          | true =>
              obtain ⟨requests, tail, written, fine, state, replies, ends⟩ := ih rest (service.answer request s).1 shorter
              refine ⟨request :: requests, tail, ?_, ?_, ?_⟩
              · rw [front, written, List.flatMap_cons, List.append_assoc]
              · exact List.forall_mem_cons.mpr ⟨checked input request rest read, fine⟩
              · rw [service.answers_cons_goes request requests s goes, if_pos rfl]
                exact ⟨state, congrArg _ replies, ends⟩
          | false =>
              refine ⟨[request], rest, ?_, ?_, ?_⟩
              · rw [front, List.flatMap_cons, List.flatMap_nil, List.append_nil]
              · exact List.forall_mem_cons.mpr ⟨checked input request rest read, by simp⟩
              · rw [service.answers_cons_ends request [] s goes, if_neg (by decide)]
                exact ⟨rfl, rfl, .ended⟩

theorem serve_splits (canonical : Canonical service.read encode) (nonempty : ∀ request, encode request ≠ [])
    (checked : ∀ input request rest, service.read.run input = .ok (request, rest) → good request)
    (input : Bytes) (s : σ) : ∃ requests tail,
      input = requests.flatMap encode ++ tail ∧ (∀ request ∈ requests, good request) ∧
      (service.serve input s).state = (service.answers requests s).1 ∧
      (service.serve input s).replies = (service.answers requests s).2.1 ∧
      service.Ends tail (service.answers requests s).2.2 (service.serve input s).ending :=
  service.serve_from_splits encode good canonical nonempty checked _ input s (Nat.lt_succ_self _)

-- Requests that were written out are answered, all of them and in their order, whatever follows them.
theorem serve_from_written (requests : List Req)
    (reads : ∀ request ∈ requests, Decodes service.read (encode request) request)
    (nonempty : ∀ request, encode request ≠ []) :
    ∀ (rounds : Nat) (s : σ), (requests.flatMap encode).length < rounds →
      service.serveFrom rounds (requests.flatMap encode) s =
        ⟨(service.answers requests s).1, (service.answers requests s).2.1,
          if (service.answers requests s).2.2 then .closed else .ended⟩ := by
  induction requests with
  | nil =>
      intro rounds s enough
      cases rounds with
      | zero => exact absurd enough (Nat.not_lt_zero _)
      | succ rounds => rfl
  | cons request rest ih =>
      intro rounds s enough
      cases rounds with
      | zero => exact absurd enough (Nat.not_lt_zero _)
      | succ rounds =>
          have positive := List.length_pos_iff.mpr (nonempty request)
          rw [List.flatMap_cons, List.length_append] at enough
          have some' : encode request ++ rest.flatMap encode ≠ [] := by simp [nonempty request]
          rw [List.flatMap_cons,
            service.serve_from_read rounds _ _ request s some' (reads request List.mem_cons_self _)]
          cases goes : (service.answer request s).2.2 with
          | true =>
              rw [service.answers_cons_goes request rest s goes, if_pos rfl,
                ih (fun later member => reads later (List.mem_cons_of_mem _ member)) rounds _ (by omega)]
          | false => simp [service.answers_cons_ends request rest s goes]

theorem serve_written (requests : List Req)
    (reads : ∀ request ∈ requests, Decodes service.read (encode request) request)
    (nonempty : ∀ request, encode request ≠ []) (s : σ) :
    service.serve (requests.flatMap encode) s =
      ⟨(service.answers requests s).1, (service.answers requests s).2.1,
        if (service.answers requests s).2.2 then .closed else .ended⟩ :=
  service.serve_from_written encode requests reads nonempty _ s (Nat.lt_succ_self _)

end

-- The other end of the stream: one who knows the requests reads the replies back.
section

variable {ε Req Rep σ : Type} (service : Service ε Req σ) (readReply : Req → Decoder ε Rep) (closes : Req → Bool)
  (replyTo : Req → σ → Rep)

def readReplies : List Req → Decoder ε (List Rep)
  | [] => return []
  | request :: rest => do
    let reply ← readReply request
    if closes request then return [reply]
    let replies ← readReplies rest
    return reply :: replies

def repliesTo : List Req → σ → List Rep
  | [], _ => []
  | request :: rest, s =>
      if closes request then [replyTo request s]
      else replyTo request s :: repliesTo rest (service.answer request s).1

theorem decodes_replies (goes : ∀ request s, (service.answer request s).2.2 = !closes request)
    (reads : ∀ request s, Decodes (readReply request) (service.answer request s).2.1 (replyTo request s))
    (requests : List Req) : ∀ s, Decodes (readReplies readReply closes requests) (service.answers requests s).2.1
      (service.repliesTo closes replyTo requests s) := by
  induction requests with
  | nil => exact fun s => decodes_pure []
  | cons request rest ih =>
      intro s
      have here := goes request s
      cases last : closes request with
      | true =>
          rw [last] at here
          rw [service.answers_cons_ends request rest s here, repliesTo, if_pos last]
          refine decodes_bind_last _ _ _ _ _ (reads request s) ?_
          rw [if_pos last]
          exact decodes_pure _
      | false =>
          rw [last] at here
          rw [service.answers_cons_goes request rest s here, repliesTo, if_neg (by simp [last])]
          refine decodes_bind _ _ _ _ _ _ (reads request s) ?_
          rw [if_neg (by simp [last])]
          exact decodes_bind_pure _ _ _ _ (ih _)

theorem exchange (encode : Req → Bytes) (nonempty : ∀ request, encode request ≠ [])
    (goes : ∀ request s, (service.answer request s).2.2 = !closes request)
    (reads : ∀ request s, Decodes (readReply request) (service.answer request s).2.1 (replyTo request s))
    (requests : List Req) (written : ∀ request ∈ requests, Decodes service.read (encode request) request) (s : σ) :
    (service.serve (requests.flatMap encode) s).state = (service.answers requests s).1 ∧
      (readReplies readReply closes requests).run (service.serve (requests.flatMap encode) s).replies =
        .ok (service.repliesTo closes replyTo requests s, []) := by
  rw [service.serve_written encode requests written nonempty s]
  refine ⟨rfl, ?_⟩
  have read := service.decodes_replies readReply closes replyTo goes reads requests s []
  rwa [List.append_nil] at read

end

end Service

end Swtrust.Library
