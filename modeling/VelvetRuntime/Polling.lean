import Mathlib.Data.List.Basic

/-! A device that is polled: the chunks it delivers, and calls that each return one reply out of what they bring. -/

namespace polling

/-- What one read returned. -/
structure Chunk (α : Type) (limit : Nat) where
  bytes : List α
  nonempty : bytes ≠ []
  bounded : bytes.length ≤ limit

/-- One turn of a loop that waits for input: nothing came before the deadline, or the input ended; the read would have
blocked; the wait or the read failed; a chunk was read. -/
inductive Poll (α : Type) (limit : Nat) where
  | nothing
  | blocked
  | select_failed (reason : String)
  | read_failed (reason : String)
  | arrived (chunk : Chunk α limit)

section chunks

variable {α : Type} {limit : Nat}

/-- The chunks that were read. -/
def chunks_of (polls : List (Poll α limit)) : List (List α) :=
  polls.filterMap fun
    | .arrived chunk => some chunk.bytes
    | _ => none

/-- The part of the stream that was delivered. -/
def delivered (polls : List (Poll α limit)) : List α := (chunks_of polls).flatten

/-- What a read can return. -/
def IsChunk (limit : Nat) (chunk : List α) : Prop := chunk ≠ [] ∧ chunk.length ≤ limit

theorem isChunk_of_mem {polls : List (Poll α limit)} {chunk : List α} (hchunk : chunk ∈ chunks_of polls) :
    IsChunk limit chunk := by
  obtain ⟨poll, _, hpoll⟩ := List.mem_filterMap.mp hchunk
  cases poll with
  | arrived read =>
    cases hpoll
    exact ⟨read.nonempty, read.bounded⟩
  | _ => cases hpoll

/-- Whatever a read can return may arrive. -/
theorem exists_polls {chunks : List (List α)} (hchunks : ∀ chunk ∈ chunks, IsChunk limit chunk) :
    ∃ polls : List (Poll α limit), chunks_of polls = chunks := by
  induction chunks with
  | nil => exact ⟨[], rfl⟩
  | cons chunk rest ih =>
    rw [List.forall_mem_cons] at hchunks
    obtain ⟨polls, hpolls⟩ := ih hchunks.2
    exact ⟨.arrived ⟨chunk, hchunks.1.1, hchunks.1.2⟩ :: polls, congrArg (chunk :: ·) hpolls⟩

end chunks

section calls

variable {σ π ρ : Type} (call : σ → List π → ρ × σ × List π)

/-- What successive calls return. -/
def calls : Nat → σ → List π → List ρ
  | 0, _, _ => []
  | count + 1, state, polls =>
    (call state polls).1 :: calls count (call state polls).2.1 (call state polls).2.2

/-- A call returns the next of the replies to come, apart from those that do not count, and takes something off the weight
where any is to come. -/
structure Takes (counts : ρ → Bool) (to_come : σ → List π → List ρ) (weight : σ → List π → Nat) (state : σ)
    (polls : List π) (returned : ρ × σ × List π) : Prop where
  next : [returned.1].filter counts ++ to_come returned.2.1 returned.2.2 = to_come state polls
  lighter : weight returned.2.1 returned.2.2 < weight state polls ∨ to_come state polls = []

variable {call} {counts : ρ → Bool} {to_come : σ → List π → List ρ} {weight : σ → List π → Nat}

/-- Calls that have nothing to come return nothing that counts. -/
theorem calls_of_nothing (hcall : ∀ state polls, Takes counts to_come weight state polls (call state polls))
    (count : Nat) (state : σ) (polls : List π) (hnothing : to_come state polls = []) :
    (calls call count state polls).filter counts = [] := by
  induction count generalizing state polls with
  | zero => rfl
  | succ count ih =>
    obtain ⟨hreply, hlater⟩ := List.append_eq_nil_iff.mp ((hcall state polls).next.trans hnothing)
    rw [calls, ← List.singleton_append, List.filter_append, hreply, ih _ _ hlater]
    rfl

/-- As many calls as there is weight, or more, return all that is to come. -/
theorem calls_to_come (hcall : ∀ state polls, Takes counts to_come weight state polls (call state polls))
    (hweightless : ∀ state polls, weight state polls = 0 → to_come state polls = [])
    (count : Nat) (state : σ) (polls : List π) (hcount : weight state polls ≤ count) :
    (calls call count state polls).filter counts = to_come state polls := by
  induction count generalizing state polls with
  | zero => exact (hweightless state polls (Nat.le_zero.mp hcount)).symm
  | succ count ih =>
    obtain ⟨hnext, hlighter⟩ := hcall state polls
    rcases hlighter with hlighter | hnothing
    · rw [calls, ← List.singleton_append, List.filter_append, ih _ _ (by omega), hnext]
    · rw [hnothing]
      exact calls_of_nothing hcall (count + 1) state polls hnothing

end calls

section readers

variable {α ρ : Type} {limit : Nat} {counts : ρ → Bool} {to_come : List α → List (List α) → List ρ}
  {buffer after : List α} {poll : Poll α limit} {polls : List (Poll α limit)}

/-- How much there is left to take: each poll, and each item of the buffer and of the stream. -/
def weight (buffer : List α) (polls : List (Poll α limit)) : Nat :=
  polls.length + (buffer.length + (delivered polls).length)

/-- A call of a reader with a buffer, from which it makes replies as the chunks come. -/
abbrev Reads (counts : ρ → Bool) (to_come : List α → List (List α) → List ρ) (buffer : List α)
    (polls : List (Poll α limit)) (returned : ρ × List α × List (Poll α limit)) : Prop :=
  Takes counts (fun buffer polls => to_come buffer (chunks_of polls)) weight buffer polls returned

/-- A call that gives up at a poll which brings nothing. -/
theorem reads_waited {reply : ρ} (hreply : counts reply = false) (hpoll : chunks_of (poll :: polls) = chunks_of polls)
    (hafter : to_come after (chunks_of polls) = to_come buffer (chunks_of polls)) (hless : after.length ≤ buffer.length) :
    Reads counts to_come buffer (poll :: polls) (reply, after, polls) := by
  constructor
  · rw [hpoll, List.filter_cons_of_neg (Bool.eq_false_iff.mp hreply)]
    exact hafter
  · left
    simp only [weight, delivered, hpoll, List.length_cons]
    omega

/-- A call that goes on after a poll which brings nothing. -/
theorem Takes.passed {returned : ρ × List α × List (Poll α limit)} (hcall : Reads counts to_come after polls returned)
    (hpoll : chunks_of (poll :: polls) = chunks_of polls)
    (hafter : to_come after (chunks_of polls) = to_come buffer (chunks_of polls)) (hless : after.length ≤ buffer.length) :
    Reads counts to_come buffer (poll :: polls) returned := by
  obtain ⟨hnext, hlighter⟩ := hcall
  constructor
  · rw [hpoll, ← hafter]
    exact hnext
  · rw [hpoll, ← hafter]
    refine hlighter.imp_left fun hlt => Nat.lt_trans hlt ?_
    simp only [weight, delivered, hpoll, List.length_cons]
    omega

/-- A call that goes on with a chunk. -/
theorem Takes.arrived {returned : ρ × List α × List (Poll α limit)} {chunk : Chunk α limit}
    (hcall : Reads counts to_come (after ++ chunk.bytes) polls returned)
    (hafter : to_come (after ++ chunk.bytes) (chunks_of polls) = to_come buffer (chunk.bytes :: chunks_of polls))
    (hless : after.length ≤ buffer.length) : Reads counts to_come buffer (.arrived chunk :: polls) returned := by
  obtain ⟨hnext, hlighter⟩ := hcall
  have hbytes : delivered (.arrived chunk :: polls) = chunk.bytes ++ delivered polls := rfl
  constructor
  · exact hnext.trans hafter
  · change _ ∨ to_come buffer (chunk.bytes :: chunks_of polls) = []
    rw [← hafter]
    refine hlighter.imp_left fun hlt => Nat.lt_trans hlt ?_
    simp only [weight, hbytes, List.length_append, List.length_cons]
    omega

end readers

end polling
