import Swtrust.Authorization.Refusal

set_option autoImplicit false
set_option linter.unusedSectionVars false

namespace Swtrust

open Library Action

namespace TpmState

section

variable [Primitives]

-- The comparisons that authorize the handles of a command, up to the first that fails.
def comparisons (request : Request) (names : List Bytes) : Nat → Nat → TpmState → List (Nat × Entity × Attempt)
  | 0, _, _ => []
  | count + 1, index, s =>
    match s.attemptAt request names index with
    | .error _ => []
    | .ok (entity, attempt) =>
      (index, entity, attempt) ::
        if attempt.accepted then comparisons request names count (index + 1) (final (settle request index entity attempt s))
        else []

-- The keys of sessions that authorize nothing which an HMAC was compared under, up to the first that fails.
def keyComparisons (s : TpmState) (request : Request) (names : List Bytes) : Nat → List SessionInput → List Session
  | _, [] => []
  | index, input :: rest =>
    match s.sessions.get input.handle with
    | .error _ => []
    | .ok session =>
      let expected := do
        let cp ← Swtrust.cpHash session.authHash request.code names request.parameters
        s.expectedHmac request index input session session.sessionKey cp
      (if (session.sessionKey.isEmpty && input.hmac.isEmpty) || !found expected (fun _ => true) then [] else [session]) ++
        match s.checkUnauthorizedSession request index input names with
        | .ok _ => s.keyComparisons request names (index + 1) rest
        | .error _ => []

-- Every comparison is made in the state the command found, but for counters of PIN Indices.
theorem comparisons_attempt (request : Request) (names : List Bytes) (count index : Nat) (s : TpmState) (position : Nat)
    (entity : Entity) (attempt : Attempt)
    (member : (position, entity, attempt) ∈ comparisons request names count index s) :
    ∃ nv, attemptAt { s with nv } request names position = .ok (entity, attempt) := by
  induction count generalizing index s with
  | zero => cases member
  | succ count ih =>
      unfold comparisons at member
      split at member
      · cases member
      next first tried judged =>
        obtain ⟨_, _, _, cp, _, _, _, _, _, attempted⟩ := (s.attempt_at_is_ok request names index first tried).mp judged
        have available := s.attempt_available request index first cp tried attempted
        rcases List.mem_cons.mp member with same | later
        · cases same
          exact ⟨s.nv, judged⟩
        · split at later
          next accepted =>
            obtain ⟨nv, settles⟩ := settle_accepted request index first tried s available accepted
            rw [settles] at later
            exact ih (index + 1) { s with nv } later
          next => cases later

theorem comparisons_inside (request : Request) (names : List Bytes) (count index : Nat) (s : TpmState) (position : Nat)
    (entity : Entity) (attempt : Attempt)
    (member : (position, entity, attempt) ∈ comparisons request names count index s) : position < index + count := by
  induction count generalizing index s with
  | zero => cases member
  | succ count ih =>
      unfold comparisons at member
      split at member
      · cases member
      · rcases List.mem_cons.mp member with same | later
        · cases same
          omega
        · split at later
          · have inside := ih (index + 1) _ later
            omega
          · cases later

theorem key_comparisons_mem (s : TpmState) (request : Request) (names : List Bytes) (index : Nat)
    (inputs : List SessionInput) (session : Session) (member : session ∈ s.keyComparisons request names index inputs) :
    ∃ input ∈ inputs, s.sessions.get input.handle = .ok session := by
  induction inputs generalizing index with
  | nil => cases member
  | cons input rest ih =>
      unfold keyComparisons at member
      split at member
      · cases member
      next held =>
        rcases List.mem_append.mp member with here | later
        · split at here
          · cases here
          · cases List.mem_singleton.mp here
            exact ⟨input, List.mem_cons_self, held⟩
        · split at later
          · obtain ⟨other, inside, held⟩ := ih _ later
            exact ⟨other, List.mem_cons_of_mem _ inside, held⟩
          · cases later

end

end TpmState

end Swtrust
