import Mathlib.Logic.Basic

namespace python

/-- A call that returns or raises and keeps the changes it made to the state either way. -/
abbrev Program (ε σ α : Type) : Type := EStateM ε σ α

namespace Program

variable {ε σ α β : Type}

/-- Every way the call can end from a state: with a value, or with an exception. -/
def wp (program : Program ε σ α) (returns : α → σ → Prop) (raises : ε → σ → Prop) (state : σ) : Prop :=
  match program.run state with
  | .ok value after => returns value after
  | .error error after => raises error after

/-- The state after the call. -/
def after (program : Program ε σ α) (state : σ) : σ :=
  match program.run state with
  | .ok _ after => after
  | .error _ after => after

/-- How the call ends. -/
def result (program : Program ε σ α) (state : σ) : Except ε α :=
  match program.run state with
  | .ok value _ => .ok value
  | .error error _ => .error error

/-- A call of code outside the state, which returns or raises as given. -/
def of_except : Except ε α → Program ε σ α
  | .ok value => pure value
  | .error error => throw error

variable {returns : α → σ → Prop} {raises : ε → σ → Prop} {state : σ}

@[simp] theorem wp_pure (value : α) :
    wp (pure value : Program ε σ α) returns raises state ↔ returns value state := Iff.rfl

@[simp] theorem wp_throw (error : ε) :
    wp (throw error : Program ε σ α) returns raises state ↔ raises error state := Iff.rfl

@[simp] theorem wp_get {returns : σ → σ → Prop} :
    wp (get : Program ε σ σ) returns raises state ↔ returns state state := Iff.rfl

@[simp] theorem wp_set {returns : PUnit → σ → Prop} (next : σ) :
    wp (set next : Program ε σ PUnit) returns raises state ↔ returns ⟨⟩ next := Iff.rfl

@[simp] theorem wp_modify {returns : PUnit → σ → Prop} (f : σ → σ) :
    wp (modify f : Program ε σ PUnit) returns raises state ↔ returns ⟨⟩ (f state) := Iff.rfl

@[simp] theorem wp_of_except (outcome : Except ε α) :
    wp (of_except outcome : Program ε σ α) returns raises state ↔
      match outcome with
      | .ok value => returns value state
      | .error error => raises error state := by
  cases outcome with
  | ok value => rfl
  | error error => rfl

@[simp] theorem wp_bind {returns : β → σ → Prop} (program : Program ε σ α) (next : α → Program ε σ β) :
    wp (program >>= next) returns raises state ↔
      wp program (fun value => wp (next value) returns raises) raises state := by
  unfold wp EStateM.run
  change (match EStateM.bind program next state with | .ok value after => _ | .error error after => _) ↔ _
  unfold EStateM.bind
  cases program state with
  | ok value after => rfl
  | error error after => rfl

/-- `try: program except: handler`; the handler runs in the state the exception left. -/
@[simp] theorem wp_tryCatch (program : Program ε σ α) (handler : ε → Program ε σ α) :
    wp (tryCatch program handler) returns raises state ↔
      wp program returns (fun error => wp (handler error) returns raises) state := by
  unfold wp EStateM.run
  change (match EStateM.tryCatch program handler state with | .ok value after => _ | .error error after => _) ↔ _
  unfold EStateM.tryCatch
  cases program state with
  | ok value after => rfl
  | error error after => rfl

/-- `try: program finally: finalizer`; an exception of the finalizer takes the place of the outcome. -/
@[simp] theorem wp_tryFinally (program : Program ε σ α) (finalizer : Program ε σ β) :
    wp (tryFinally program finalizer) returns raises state ↔
      wp program (fun value => wp finalizer (fun _ => returns value) raises)
        (fun error => wp finalizer (fun _ => raises error) raises) state := by
  unfold wp EStateM.run tryFinally
  simp only [tryFinally', Functor.map, EStateM.map]
  cases program state with
  | ok value after =>
    dsimp only
    cases finalizer after with
    | ok _ last => rfl
    | error error last => rfl
  | error error after =>
    dsimp only
    cases finalizer after with
    | ok _ last => rfl
    | error error last => rfl

theorem run_bind (program : Program ε σ α) (next : α → Program ε σ β) (state : σ) :
    (program >>= next).run state = match program.run state with
      | .ok value after => (next value).run after
      | .error error after => .error error after := by
  change EStateM.bind program next state = _
  unfold EStateM.bind EStateM.run
  cases program state with
  | ok value after => rfl
  | error error after => rfl

theorem run_tryCatch (program : Program ε σ α) (handler : ε → Program ε σ α) (state : σ) :
    (tryCatch program handler).run state = match program.run state with
      | .ok value after => .ok value after
      | .error error after => (handler error).run after := by
  change EStateM.tryCatch program handler state = _
  unfold EStateM.tryCatch EStateM.run
  cases program state with
  | ok value after => rfl
  | error error after => rfl

/-- How a call ends whose value is passed on through a function. -/
theorem result_bind_pure (program : Program ε σ α) (f : α → β) (state : σ) :
    (program >>= fun value => pure (f value)).result state = (program.result state).map f := by
  unfold result
  rw [run_bind]
  cases program.run state with
  | ok value after => rfl
  | error error after => rfl

theorem after_bind_pure (program : Program ε σ α) (f : α → β) (state : σ) :
    (program >>= fun value => pure (f value)).after state = program.after state := by
  unfold after
  rw [run_bind]
  cases program.run state with
  | ok value after => rfl
  | error error after => rfl

variable {program : Program ε σ α}

/-- A relation between the end of a call and the state it leaves, as a precondition. -/
theorem wp_result_after (holds : Except ε α → σ → Prop) :
    wp program (fun value => holds (.ok value)) (fun error => holds (.error error)) state ↔
      holds (result program state) (after program state) := by
  unfold wp result after
  cases program.run state with
  | ok value next => rfl
  | error error next => rfl

theorem wp_of_result_ok {value : α} (hwp : wp program returns raises state)
    (hresult : result program state = .ok value) : returns value (after program state) := by
  unfold wp at hwp
  unfold result at hresult
  unfold after
  cases hrun : program.run state with
  | ok found next =>
    rw [hrun] at hwp hresult
    cases hresult
    exact hwp
  | error error next =>
    rw [hrun] at hresult
    cases hresult

theorem wp_of_result_error {error : ε} (hwp : wp program returns raises state)
    (hresult : result program state = .error error) : raises error (after program state) := by
  unfold wp at hwp
  unfold result at hresult
  unfold after
  cases hrun : program.run state with
  | ok found next =>
    rw [hrun] at hresult
    cases hresult
  | error found next =>
    rw [hrun] at hwp hresult
    cases hresult
    exact hwp

variable {returns' : α → σ → Prop} {raises' : ε → σ → Prop}

/-- Rule of consequence. -/
theorem wp_mono
    (hwp : wp program returns raises state)
    (hreturns : ∀ value after, returns value after → returns' value after)
    (hraises : ∀ error after, raises error after → raises' error after) :
    wp program returns' raises' state := by
  unfold wp at *
  cases hrun : program.run state with
  | ok value after =>
    rw [hrun] at hwp
    exact hreturns value after hwp
  | error error after =>
    rw [hrun] at hwp
    exact hraises error after hwp

/-- Two postconditions of one call hold together. -/
theorem wp_and
    (hfirst : wp program returns raises state) (hsecond : wp program returns' raises' state) :
    wp program (fun value after => returns value after ∧ returns' value after)
      (fun error after => raises error after ∧ raises' error after) state := by
  unfold wp at *
  cases hrun : program.run state with
  | ok value after =>
    rw [hrun] at hfirst hsecond
    exact ⟨hfirst, hsecond⟩
  | error error after =>
    rw [hrun] at hfirst hsecond
    exact ⟨hfirst, hsecond⟩

section Preserves

variable {ω : Type} (observe : σ → ω)

/-- However the call ends, an observation of the state comes out the same. -/
def Preserves (program : Program ε σ α) : Prop := ∀ state, observe (program.after state) = observe state

variable {observe}

theorem preserves_iff_wp : Preserves observe program ↔ ∀ state,
    wp program (fun _ after => observe after = observe state) (fun _ after => observe after = observe state) state :=
  forall_congr' fun state => (wp_result_after (fun _ after => observe after = observe state)).symm

theorem preserves_pure (value : α) : Preserves observe (pure value : Program ε σ α) := fun _ => rfl

theorem preserves_throw (error : ε) : Preserves observe (throw error : Program ε σ α) := fun _ => rfl

theorem Preserves.bind {next : α → Program ε σ β} (hprogram : Preserves observe program)
    (hnext : ∀ value, Preserves observe (next value)) : Preserves observe (program >>= next) := by
  rw [preserves_iff_wp]
  intro state
  rw [wp_bind]
  refine wp_mono (preserves_iff_wp.mp hprogram state) ?_ (fun _ _ hsame => hsame)
  intro value middle hsame
  refine wp_mono (preserves_iff_wp.mp (hnext value) middle) ?_ ?_
  · exact fun _ _ hthen => hthen.trans hsame
  · exact fun _ _ hthen => hthen.trans hsame

/-- A call that reads the state may go on differently from each state. -/
theorem preserves_get_bind {next : σ → Program ε σ α} (hnext : ∀ state, observe ((next state).after state) = observe state) :
    Preserves observe (get >>= next) := hnext

end Preserves

section Respects

variable {relation : σ → σ → Prop}

/-- However the call ends, the state it leaves stands in a relation to the one before. -/
def Respects (relation : σ → σ → Prop) (program : Program ε σ α) : Prop :=
  ∀ state, relation state (program.after state)

theorem respects_iff_wp : Respects relation program ↔ ∀ state,
    wp program (fun _ after => relation state after) (fun _ after => relation state after) state :=
  forall_congr' fun state => (wp_result_after (fun _ after => relation state after)).symm

theorem respects_pure (hrefl : ∀ state, relation state state) (value : α) :
    Respects relation (pure value : Program ε σ α) := hrefl

theorem respects_throw (hrefl : ∀ state, relation state state) (error : ε) :
    Respects relation (throw error : Program ε σ α) := hrefl

theorem respects_of_except (hrefl : ∀ state, relation state state) (outcome : Except ε α) :
    Respects relation (of_except outcome : Program ε σ α) := by
  cases outcome with
  | ok value => exact hrefl
  | error error => exact hrefl

theorem respects_modify {f : σ → σ} (hf : ∀ state, relation state (f state)) :
    Respects relation (modify f : Program ε σ PUnit) := hf

theorem Respects.bind
    (htrans : ∀ first second third, relation first second → relation second third → relation first third)
    {next : α → Program ε σ β} (hprogram : Respects relation program)
    (hnext : ∀ value, Respects relation (next value)) : Respects relation (program >>= next) := by
  rw [respects_iff_wp]
  intro state
  rw [wp_bind]
  refine wp_mono (respects_iff_wp.mp hprogram state) ?_ (fun _ _ hafter => hafter)
  intro value middle hmiddle
  refine wp_mono (respects_iff_wp.mp (hnext value) middle) ?_ ?_
  · exact fun _ after hafter => htrans state middle after hmiddle hafter
  · exact fun _ after hafter => htrans state middle after hmiddle hafter

theorem Respects.tryCatch
    (htrans : ∀ first second third, relation first second → relation second third → relation first third)
    {handler : ε → Program ε σ α} (hprogram : Respects relation program)
    (hhandler : ∀ error, Respects relation (handler error)) : Respects relation (tryCatch program handler) := by
  rw [respects_iff_wp]
  intro state
  rw [wp_tryCatch]
  refine wp_mono (respects_iff_wp.mp hprogram state) (fun _ _ hafter => hafter) ?_
  intro error middle hmiddle
  refine wp_mono (respects_iff_wp.mp (hhandler error) middle) ?_ ?_
  · exact fun _ after hafter => htrans state middle after hmiddle hafter
  · exact fun _ after hafter => htrans state middle after hmiddle hafter

end Respects

end Program

end python
