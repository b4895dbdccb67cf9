import Mathlib.Logic.Basic

/-- A sequence of steps from a first state, with what the steps put out in order. -/
inductive Trace {σ ι : Type} (step : σ → List ι → σ → Prop) (first : σ) : List ι → σ → Prop where
  | refl : Trace step first [] first
  | step {output more : List ι} {middle last : σ} (htrace : Trace step first output middle)
    (hstep : step middle more last) : Trace step first (output ++ more) last

namespace Trace

variable {σ ι : Type} {step step' : σ → List ι → σ → Prop} {first middle last : σ} {output more : List ι}

theorem single (hstep : step first output last) : Trace step first output last := by
  have htrace := Trace.refl.step hstep
  rwa [List.nil_append] at htrace

/-- A step that puts out nothing. -/
theorem quiet (htrace : Trace step first output middle) (hstep : step middle [] last) :
    Trace step first output last := by
  have hlonger := htrace.step hstep
  rwa [List.append_nil] at hlonger

theorem trans (hfirst : Trace step first output middle) (hsecond : Trace step middle more last) :
    Trace step first (output ++ more) last := by
  induction hsecond with
  | refl => rwa [List.append_nil]
  | step _ hstep ih =>
    rw [← List.append_assoc]
    exact ih.step hstep

/-- Steps of one kind are steps of another. -/
theorem mono (htrace : Trace step first output last) (hstep : ∀ before made after, step before made after →
    step' before made after) : Trace step' first output last := by
  induction htrace with
  | refl => exact .refl
  | step _ hlast ih => exact ih.step (hstep _ _ _ hlast)

/-- What every step keeps, a sequence keeps. -/
theorem invariant {holds : σ → Prop} (hkeeps : ∀ before made after, holds before → step before made after →
    holds after) (htrace : Trace step first output last) (hholds : holds first) : holds last := by
  induction htrace with
  | refl => exact hholds
  | step _ hlast ih => exact hkeeps _ _ _ ih hlast

/-- What every step keeps of a state and of all that was put out before it. -/
theorem invariant_output {holds : List ι → σ → Prop} (hkeeps : ∀ past before made after, holds past before →
    step before made after → holds (past ++ made) after) (htrace : Trace step first output last) {past : List ι}
    (hholds : holds past first) : holds (past ++ output) last := by
  induction htrace with
  | refl => rwa [List.append_nil]
  | step _ hlast ih =>
    rw [← List.append_assoc]
    exact hkeeps _ _ _ _ ih hlast

end Trace
