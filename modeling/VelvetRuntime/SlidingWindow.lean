import Mathlib.Data.List.TakeWhile
import Mathlib.Order.Basic
import Mathlib.Tactic.Linarith

/-! Times of a log that are counted over a window, and the part of the log that is still stored. -/

namespace sliding_window

/-- The times in the half-open window that starts at a time. -/
def within (window : Nat) (log : List Int) (start : Int) : List Int :=
  log.filter (fun time => start ≤ time ∧ time < start + window)

/-- No window holds more times than the limit. -/
def Bounded (window limit : Nat) (log : List Int) : Prop :=
  ∀ start, (within window log start).length ≤ limit

/-- Only times that are out of every later window are no longer stored. -/
def Trimmed (window : Nat) (log stored : List Int) (clock : Int) : Prop :=
  ∃ dropped, log = dropped ++ stored ∧ ∀ time ∈ dropped, time ≤ clock - window

variable {window limit : Nat} {log stored : List Int} {clock now : Int}

theorem Trimmed.later (htrimmed : Trimmed window log stored clock) (hnow : clock ≤ now) :
    Trimmed window log stored now := by
  obtain ⟨dropped, hlog, hold⟩ := htrimmed
  refine ⟨dropped, hlog, fun time htime => ?_⟩
  have hbound := hold time htime
  omega

/-- Trimming at the current time. -/
theorem Trimmed.trim (htrimmed : Trimmed window log stored now) :
    Trimmed window log (stored.dropWhile (· ≤ now - window)) now := by
  obtain ⟨dropped, hlog, hold⟩ := htrimmed
  refine ⟨dropped ++ stored.takeWhile (· ≤ now - window), ?_, ?_⟩
  · rw [List.append_assoc, List.takeWhile_append_dropWhile]
    exact hlog
  · intro time htime
    rcases List.mem_append.mp htime with hdropped | htaken
    · exact hold time hdropped
    · simpa using List.mem_takeWhile_imp htaken

theorem Trimmed.concat (htrimmed : Trimmed window log stored clock) (time : Int) :
    Trimmed window (log ++ [time]) (stored ++ [time]) clock := by
  obtain ⟨dropped, hlog, hold⟩ := htrimmed
  exact ⟨dropped, by rw [hlog, List.append_assoc], hold⟩

/-- A window that holds the current time holds stored times only. -/
theorem length_within_le (htrimmed : Trimmed window log stored now) {start : Int} (hstart : now < start + window) :
    (within window log start).length ≤ stored.length := by
  obtain ⟨dropped, hlog, hold⟩ := htrimmed
  have hnone : within window dropped start = [] := by
    unfold within
    rw [List.filter_eq_nil_iff]
    intro time htime hin
    have hbound := hold time htime
    have hfirst := (of_decide_eq_true hin).1
    omega
  have hsplit : within window log start = within window stored start := by
    rw [hlog]
    unfold within at hnone ⊢
    rw [List.filter_append, hnone, List.nil_append]
  rw [hsplit]
  exact List.length_filter_le _ _

/-- The current time may be added while fewer times than the limit are stored. -/
theorem Bounded.concat (hbounded : Bounded window limit log) (htrimmed : Trimmed window log stored now)
    (hroom : stored.length < limit) : Bounded window limit (log ++ [now]) := by
  intro start
  unfold within
  rw [List.filter_append]
  by_cases hin : start ≤ now ∧ now < start + window
  · have hstored := length_within_le htrimmed hin.2
    unfold within at hstored
    rw [List.filter_cons_of_pos (by simpa using hin), List.filter_nil, List.length_append, List.length_singleton]
    omega
  · rw [List.filter_cons_of_neg (by simpa using hin), List.filter_nil, List.append_nil]
    exact hbounded start

/-- Fewer times are counted in a part of the log. -/
theorem Bounded.sublist (hbounded : Bounded window limit log) {part : List Int} (hpart : part.Sublist log) :
    Bounded window limit part :=
  fun start => ((hpart.filter _).length_le).trans (hbounded start)

theorem trimmed_nil (window : Nat) (clock : Int) : Trimmed window [] [] clock := ⟨[], rfl, fun _ htime => nomatch htime⟩

theorem bounded_nil (window limit : Nat) : Bounded window limit [] := fun _ => Nat.zero_le _

end sliding_window
