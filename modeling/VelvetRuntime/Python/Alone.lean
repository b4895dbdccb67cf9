import VelvetRuntime.Python.Thread

namespace python

namespace Thread

variable {ε α β σ ι κ : Type} {I : Interface} (semantics : Semantics ε I σ ι κ)

/-- How a thread that runs alone can end: each of its requests is served in the state that the one before it
left, whatever the inputs are. -/
inductive Alone : Thread ε I α → σ → List (Exchange ε I) → Except ε α → σ → Prop where
  | returns (value : α) (state : σ) : Alone (.returns value) state [] (.ok value) state
  | raises (error : ε) (state : σ) : Alone (.raises error) state [] (.error error) state
  | asks (request : I.Request) (next : Except ε (I.Answer request) → Thread ε I α) (input : ι) (state : σ)
    (path : List (Exchange ε I)) (result : Except ε α) (after : σ)
    (halone : Alone (next (semantics.serve input request state).1) (semantics.serve input request state).2 path result
      after) :
    Alone (.asks request next) state (⟨request, (semantics.serve input request state).1⟩ :: path) result after

variable {semantics} {state after : σ} {path : List (Exchange ε I)} {thread : Thread ε I α} {result : Except ε α}

@[simp] theorem alone_pure (value : α) :
    (pure value : Thread ε I α).Alone semantics state path result after ↔
      path = [] ∧ result = .ok value ∧ after = state := by
  constructor
  · rintro ⟨⟩
    exact ⟨rfl, rfl, rfl⟩
  · rintro ⟨rfl, rfl, rfl⟩
    exact .returns value after

@[simp] theorem alone_raises (error : ε) :
    (Thread.raises error : Thread ε I α).Alone semantics state path result after ↔
      path = [] ∧ result = .error error ∧ after = state := by
  constructor
  · rintro ⟨⟩
    exact ⟨rfl, rfl, rfl⟩
  · rintro ⟨rfl, rfl, rfl⟩
    exact .raises error after

@[simp] theorem alone_conclude (end_of : Except ε α) :
    (conclude end_of : Thread ε I α).Alone semantics state path result after ↔
      path = [] ∧ result = end_of ∧ after = state := by
  cases end_of with
  | ok value => exact alone_pure value
  | error error => exact alone_raises error

@[simp] theorem alone_perform (request : I.Request) {result : Except ε (I.Answer request)} :
    (perform request : Thread ε I (I.Answer request)).Alone semantics state path result after ↔
      ∃ input, path = [⟨request, result⟩] ∧ result = (semantics.serve input request state).1 ∧
        after = (semantics.serve input request state).2 := by
  unfold perform
  constructor
  · rintro ⟨⟩
    rename_i input path halone
    refine ⟨input, ?_⟩
    cases hanswer : (semantics.serve input request state).1 with
    | ok answer =>
      rw [hanswer] at halone
      obtain ⟨rfl, rfl, rfl⟩ := (alone_pure answer).mp halone
      exact ⟨rfl, rfl, rfl⟩
    | error error =>
      rw [hanswer] at halone
      obtain ⟨rfl, rfl, rfl⟩ := (alone_raises error).mp halone
      exact ⟨rfl, rfl, rfl⟩
  · rintro ⟨input, rfl, rfl, rfl⟩
    refine .asks request _ input state [] _ _ ?_
    cases (semantics.serve input request state).1 with
    | ok answer => exact .returns answer _
    | error error => exact .raises error _

theorem alone_attempt {result : Except ε (Except ε α)} :
    (attempt thread).Alone semantics state path result after ↔
      ∃ end_of, result = .ok end_of ∧ thread.Alone semantics state path end_of after := by
  constructor
  · intro halone
    induction thread generalizing state path with
    | returns value =>
      obtain ⟨rfl, rfl, rfl⟩ := (alone_pure _).mp halone
      exact ⟨_, rfl, .returns value _⟩
    | raises error =>
      obtain ⟨rfl, rfl, rfl⟩ := (alone_pure _).mp halone
      exact ⟨_, rfl, .raises error _⟩
    | asks request next ih =>
      cases halone with
      | asks _ _ input _ path _ _ hrest =>
        obtain ⟨end_of, hresult, hend⟩ := ih _ hrest
        exact ⟨end_of, hresult, .asks request next input state path end_of after hend⟩
  · rintro ⟨end_of, rfl, halone⟩
    induction halone with
    | returns value state => exact .returns _ _
    | raises error state => exact .returns _ _
    | asks request next input state path result after _ ih => exact .asks request _ input state path _ after ih

/-- A thread that goes on to another ends at its own exception, or as the other one does. -/
theorem alone_bind {next : α → Thread ε I β} {result : Except ε β} :
    (thread >>= next).Alone semantics state path result after ↔
      (∃ error, result = .error error ∧ thread.Alone semantics state path (.error error) after) ∨
      ∃ value between earlier later, path = earlier ++ later ∧ thread.Alone semantics state earlier (.ok value) between ∧
        (next value).Alone semantics between later result after := by
  change (thread.bind next).Alone semantics state path result after ↔ _
  constructor
  · intro halone
    induction thread generalizing state path with
    | returns value => exact Or.inr ⟨value, state, [], path, rfl, .returns value state, halone⟩
    | raises error =>
      obtain ⟨rfl, rfl, rfl⟩ := (alone_raises error).mp halone
      exact Or.inl ⟨error, rfl, .raises error _⟩
    | asks request rest ih =>
      cases halone with
      | asks _ _ input _ path _ _ hrest =>
        rcases ih _ hrest with ⟨error, hresult, hraised⟩ | ⟨value, between, earlier, later, rfl, hfirst, hsecond⟩
        · exact Or.inl ⟨error, hresult, .asks request rest input state path _ after hraised⟩
        · exact Or.inr ⟨value, between, _ :: earlier, later, rfl,
            .asks request rest input state earlier _ between hfirst, hsecond⟩
  · rintro (⟨error, rfl, halone⟩ | ⟨value, between, earlier, later, rfl, hfirst, hsecond⟩)
    · generalize hraised : Except.error error = raised at halone
      induction halone with
      | returns value state => cases hraised
      | raises other state =>
        cases hraised
        exact .raises error state
      | asks request rest input state path raised after _ ih =>
        exact .asks request _ input state path _ after (ih hraised)
    · generalize hreturned : Except.ok value = returned at hfirst
      induction hfirst with
      | returns found state =>
        cases hreturned
        exact hsecond
      | raises error state => cases hreturned
      | asks request rest input state path returned between _ ih =>
        exact .asks request _ input state _ _ after (ih hsecond hreturned)

/-- The requests of a thread that follows a protocol which looks at nothing but them. -/
def only (permitted : I.Request → Prop) : Protocol ε I Unit where
  allowed _ := permitted
  answered _ _ _ := True
  next _ _ _ := ()

variable {permitted : I.Request → Prop}

theorem quiet_only {request : I.Request} (hpermitted : permitted request) :
    Quiet (only (ε := ε) permitted) () request := ⟨hpermitted, fun _ => rfl⟩

/-- A thread that asks only for what keeps a view of the state leaves it the same. -/
theorem Alone.of_only {γ : Type} (view : σ → γ)
    (hkeeps : ∀ input request state, permitted request → view (semantics.serve input request state).2 = view state)
    (hfollows : thread.Follows (only permitted) (fun _ _ => True) (fun _ _ => True) ())
    (halone : thread.Alone semantics state path result after) :
    (∀ exchange ∈ path, permitted exchange.request) ∧ view after = view state := by
  induction halone with
  | returns value state => exact ⟨fun _ hmem => absurd hmem List.not_mem_nil, rfl⟩
  | raises error state => exact ⟨fun _ hmem => absurd hmem List.not_mem_nil, rfl⟩
  | asks request next input state path result after _ ih =>
    obtain ⟨hpermitted, hnext⟩ := hfollows
    obtain ⟨hrest, hview⟩ := ih (hnext _ trivial)
    exact ⟨List.forall_mem_cons.mpr ⟨hpermitted, hrest⟩, hview.trans (hkeeps input request state hpermitted)⟩

end Thread

namespace System

open Thread

variable {ε α σ ι κ : Type} {I : Interface} {semantics : Semantics ε I σ ι κ}

/-- Whatever the inputs of its steps are, a thread whose steps are the only ones comes to an end as a lone one. -/
theorem exists_alone (system : System ε I α σ) (index : Nat) (inputs : Nat → ι) :
    ∃ steps path, ∃ result : Except ε α,
      let ended := system.run semantics ((List.range steps).map fun step => .thread index (inputs step))
      (system.threads index).Alone semantics system.state path result ended.state ∧
        (ended.threads index).pending = none ∧
        ended.trace = system.trace ++ path.map fun exchange => ⟨index, exchange.request, exchange.answer⟩ := by
  generalize hthread : system.threads index = thread
  induction thread generalizing system inputs with
  | returns value =>
    exact ⟨0, [], .ok value, .returns value system.state, by simp [run, hthread, pending], by simp [run]⟩
  | raises error =>
    exact ⟨0, [], .error error, .raises error system.state, by simp [run, hthread, pending], by simp [run]⟩
  | asks request next ih =>
    have hstep : system.step semantics (.thread index (inputs 0)) = _ := step_of_request (inputs 0) hthread
    obtain ⟨steps, path, result, halone, hended, htrace⟩ := ih (semantics.serve (inputs 0) request system.state).1
      (system.step semantics (.thread index (inputs 0))) (fun step => inputs (step + 1)) (by rw [hstep]; simp)
    have hrun : system.run semantics ((List.range (steps + 1)).map fun step => .thread index (inputs step)) =
        (system.step semantics (.thread index (inputs 0))).run semantics
          ((List.range steps).map fun step => .thread index (inputs (step + 1))) := by
      rw [List.range_succ_eq_map, List.map_cons, List.map_map]
      rfl
    refine ⟨steps + 1, ⟨request, (semantics.serve (inputs 0) request system.state).1⟩ :: path, result, ?_⟩
    dsimp only
    refine ⟨?_, ?_, ?_⟩
    · rw [hrun]
      refine .asks request next (inputs 0) system.state path result _ ?_
      rw [hstep] at halone ⊢
      exact halone
    · rw [hrun]
      exact hended
    · rw [hrun, htrace, hstep]
      simp

end System

end python
