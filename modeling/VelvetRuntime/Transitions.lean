import Mathlib.Data.List.Basic

/-! Machines that answer each operation, and reports of the changes of what is seen of them. -/

namespace transitions

variable {σ ι ω S : Type}

/-- The state after a sequence of operations, and the answers in order. -/
def run (step : σ → ι → σ × ω) : σ → List ι → σ × List ω
  | state, [] => (state, [])
  | state, operation :: rest =>
    ((run step (step state operation).1 rest).1,
      (step state operation).2 :: (run step (step state operation).1 rest).2)

variable {step : σ → ι → σ × ω} {state : σ} {operations others : List ι}

theorem run_append : run step state (operations ++ others) =
    ((run step (run step state operations).1 others).1,
      (run step state operations).2 ++ (run step (run step state operations).1 others).2) := by
  induction operations generalizing state with
  | nil => rfl
  | cons operation rest ih => rw [List.cons_append, run, ih, run, List.cons_append]

theorem run_concat (operation : ι) : (run step state (operations ++ [operation])).1 =
    (step (run step state operations).1 operation).1 := by
  rw [run_append]
  rfl

/-- Every operation of a sequence, in the state in which it is called. -/
def Each (allowed : σ → ι → Prop) (step : σ → ι → σ × ω) : σ → List ι → Prop
  | _, [] => True
  | state, operation :: rest => allowed state operation ∧ Each allowed step (step state operation).1 rest

variable {allowed : σ → ι → Prop}

theorem each_append : Each allowed step state (operations ++ others) ↔
    Each allowed step state operations ∧ Each allowed step (run step state operations).1 others := by
  induction operations generalizing state with
  | nil => exact ⟨fun heach => ⟨trivial, heach⟩, And.right⟩
  | cons operation rest ih => rw [List.cons_append, Each, Each, ih, and_assoc, run]

theorem each_and {wanted : σ → ι → Prop} :
    Each (fun before operation => allowed before operation ∧ wanted before operation) step state operations ↔
      Each allowed step state operations ∧ Each wanted step state operations := by
  induction operations generalizing state with
  | nil => exact ⟨fun _ => ⟨trivial, trivial⟩, fun _ => trivial⟩
  | cons operation rest ih =>
    rw [Each, Each, Each, ih]
    exact and_and_and_comm

/-- What every allowed operation keeps, a sequence of allowed operations keeps. -/
theorem Each.invariant {motive : σ → Prop} (heach : Each allowed step state operations)
    (hstep : ∀ before operation, motive before → allowed before operation → motive (step before operation).1)
    (hholds : motive state) : motive (run step state operations).1 := by
  induction operations generalizing state with
  | nil => exact hholds
  | cons operation rest ih => exact ih heach.2 (hstep state operation hholds heach.1)

/-- From wherever it is due, `holds` stays until an operation releases it. -/
def StaysUntil (due holds : σ → Prop) (releases : σ → ι → Prop) (step : σ → ι → σ × ω) (state : σ)
    (operations : List ι) : Prop :=
  ∀ past later, past ++ later <+: operations → due (run step state past).1 →
    Each (fun before operation => ¬releases before operation) step (run step state past).1 later →
      holds (run step state (past ++ later)).1

/-- When the operations that break `holds` are known, a run keeps it exactly when none of them is called where it is due. -/
theorem stays_until_iff {due holds : σ → Prop} {releases breaks : σ → ι → Prop} (hstart : due state → holds state)
    (hbreaks : ∀ before operation, breaks before operation →
      due before ∧ ¬releases before operation ∧ ¬holds (step before operation).1)
    (hkeeps : ∀ before operation, (due before → holds before) → ¬breaks before operation →
      (due (step before operation).1 → holds (step before operation).1) ∧
        (due before → ¬releases before operation → due (step before operation).1)) :
    StaysUntil due holds releases step state operations ↔
      Each (fun before operation => ¬breaks before operation) step state operations := by
  constructor
  · intro hstays
    suffices hall : ∀ past rest, operations = past ++ rest →
        Each (fun before operation => ¬breaks before operation) step (run step state past).1 rest from hall [] _ rfl
    intro past rest hsplit
    induction rest generalizing past with
    | nil => trivial
    | cons operation rest ih =>
      refine ⟨fun hbroken => ?_, ?_⟩
      · obtain ⟨hdue, hunreleased, hlost⟩ := hbreaks _ _ hbroken
        have hprefix : past ++ [operation] <+: operations := ⟨rest, by rw [hsplit, List.append_assoc]; rfl⟩
        have hholds := hstays past [operation] hprefix hdue ⟨hunreleased, trivial⟩
        rw [run_concat] at hholds
        exact hlost hholds
      · rw [← run_concat]
        exact ih (past ++ [operation]) (by rw [hsplit, List.append_assoc]; rfl)
  · intro heach past later hprefix hdue hunreleased
    obtain ⟨rest, hsplit⟩ := hprefix
    rw [← hsplit, List.append_assoc, each_append, each_append] at heach
    obtain ⟨hpast, hlater, _⟩ := heach
    have hholds : due (run step state past).1 → holds (run step state past).1 :=
      hpast.invariant (motive := fun reached => due reached → holds reached)
        (fun before operation hbefore hallowed => (hkeeps before operation hbefore hallowed).1) hstart
    rw [run_append]
    -- what is due stays due while nothing releases it, and there it holds
    have hboth : Each (fun before operation => ¬breaks before operation ∧ ¬releases before operation) step
        (run step state past).1 later := each_and.mpr ⟨hlater, hunreleased⟩
    have hend := hboth.invariant (motive := fun reached => due reached ∧ holds reached)
      (fun before operation hbefore hallowed => by
        obtain ⟨hnext, hstill⟩ := hkeeps before operation (fun _ => hbefore.2) hallowed.1
        have hdue_next := hstill hbefore.1 hallowed.2
        exact ⟨hdue_next, hnext hdue_next⟩) ⟨hdue, hholds hdue⟩
    exact hend.2

/-- Reports that lead from a first value to a last one, each from where the one before it led. -/
def Chain (first : S) : List (S × S) → S → Prop
  | [], last => last = first
  | (before, after) :: rest, last => before = first ∧ Chain after rest last

theorem Chain.append {first middle last : S} : ∀ {reports more : List (S × S)}, Chain first reports middle →
    Chain middle more last → Chain first (reports ++ more) last
  | [], _, hfirst, hmore => by rwa [show middle = first from hfirst] at hmore
  | _ :: _, _, hfirst, hmore => ⟨hfirst.1, hfirst.2.append hmore⟩

end transitions
