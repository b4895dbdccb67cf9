import VelvetRuntime.Python.Program

namespace python.Program

variable {ε σ α β : Type}

/-- Two calls from two states end alike: they return the same value in states that are related, or they raise the same
exception. -/
def Agree (relates : α → σ → σ → Prop) (first second : Program ε σ α) (left right : σ) : Prop :=
  (∃ value after after', first.run left = .ok value after ∧ second.run right = .ok value after' ∧
    relates value after after') ∨
  ∃ error after after', first.run left = .error error after ∧ second.run right = .error error after'

variable {relates : α → σ → σ → Prop} {left right : σ} {first second : Program ε σ α}

theorem Agree.result_eq (hagree : Agree relates first second left right) :
    first.result left = second.result right := by
  unfold result
  rcases hagree with ⟨value, after, after', hfirst, hsecond, _⟩ | ⟨error, after, after', hfirst, hsecond⟩
  · rw [hfirst, hsecond]
  · rw [hfirst, hsecond]

theorem agree_pure {value : α} (hrelates : relates value left right) :
    Agree relates (pure value : Program ε σ α) (pure value) left right :=
  Or.inl ⟨value, left, right, rfl, rfl, hrelates⟩

theorem agree_throw (error : ε) : Agree relates (throw error : Program ε σ α) (throw error) left right :=
  Or.inr ⟨error, left, right, rfl, rfl⟩

theorem agree_of_except (outcome : Except ε α) (hrelates : ∀ value, outcome = .ok value → relates value left right) :
    Agree relates (of_except outcome : Program ε σ α) (of_except outcome) left right := by
  cases outcome with
  | ok value => exact agree_pure (hrelates value rfl)
  | error error => exact agree_throw error

variable {relates' : β → σ → σ → Prop} {next next' : α → Program ε σ β}

/-- The continuations start from what the two states have become. -/
theorem Agree.bind
    (hagree : Agree relates first second left right)
    (hnext : ∀ value after after', relates value after after' →
      Agree relates' (next value) (next' value) after after') :
    Agree relates' (first >>= next) (second >>= next') left right := by
  unfold Agree
  rw [run_bind, run_bind]
  rcases hagree with ⟨value, after, after', hfirst, hsecond, hrelates⟩ | ⟨error, after, after', hfirst, hsecond⟩
  · rw [hfirst, hsecond]
    exact hnext value after after' hrelates
  · rw [hfirst, hsecond]
    exact Or.inr ⟨error, after, after', rfl, rfl⟩

theorem agree_of_except_bind {outcome : Except ε α}
    (hnext : ∀ value, outcome = .ok value → Agree relates' (next value) (next' value) left right) :
    Agree relates' (of_except outcome >>= next) (of_except outcome >>= next') left right := by
  cases outcome with
  | ok value => exact hnext value rfl
  | error error => exact agree_throw error

/-- Two reads of the state. -/
theorem agree_get {next next' : σ → Program ε σ β} (hnext : Agree relates' (next left) (next' right) left right) :
    Agree relates' (get >>= next) (get >>= next') left right := hnext

variable {next next' : PUnit → Program ε σ β}

/-- Two writes of the state. -/
theorem agree_set {after after' : σ} (hnext : Agree relates' (next ⟨⟩) (next' ⟨⟩) after after') :
    Agree relates' (set after >>= next) (set after' >>= next') left right := hnext

theorem agree_modify {f f' : σ → σ} (hnext : Agree relates' (next ⟨⟩) (next' ⟨⟩) (f left) (f' right)) :
    Agree relates' (modify f >>= next) (modify f' >>= next') left right := hnext

/-- A handler that ends alike in any two states. -/
theorem Agree.tryCatch {handler handler' : ε → Program ε σ α} (hagree : Agree relates first second left right)
    (hhandler : ∀ error after after', Agree relates (handler error) (handler' error) after after') :
    Agree relates (tryCatch first handler) (tryCatch second handler') left right := by
  unfold Agree
  rw [run_tryCatch, run_tryCatch]
  rcases hagree with ⟨value, after, after', hfirst, hsecond, hrelates⟩ | ⟨error, after, after', hfirst, hsecond⟩
  · rw [hfirst, hsecond]
    exact Or.inl ⟨value, after, after', rfl, rfl, hrelates⟩
  · rw [hfirst, hsecond]
    exact hhandler error after after'

end python.Program
