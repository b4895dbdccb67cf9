import Mathlib.Logic.Function.Basic

namespace python

/-- The atomic operations on what threads share, and what each of them answers. -/
structure Interface where
  Request : Type
  Answer : Request → Type

/-- The rest of a call that runs beside others: it returns, it raises, or it makes an atomic request and
goes on with the answer or the exception. -/
inductive Thread (ε : Type) (I : Interface) (α : Type) where
  | returns (value : α)
  | raises (error : ε)
  | asks (request : I.Request) (next : Except ε (I.Answer request) → Thread ε I α)

namespace Thread

variable {ε α β : Type} {I : Interface}

def bind : Thread ε I α → (α → Thread ε I β) → Thread ε I β
  | .returns value, next => next value
  | .raises error, _ => .raises error
  | .asks request rest, next => .asks request (fun answer => (rest answer).bind next)

instance : Monad (Thread ε I) where
  pure := .returns
  bind := bind

/-- One atomic request. -/
def perform (request : I.Request) : Thread ε I (I.Answer request) :=
  .asks request (fun
    | .ok answer => .returns answer
    | .error error => .raises error)

/-- How the thread ends, as a value. With it the source's `try` statements are written: what follows
looks at the end and decides whether the exception goes on. -/
def attempt : Thread ε I α → Thread ε I (Except ε α)
  | .returns value => .returns (.ok value)
  | .raises error => .returns (.error error)
  | .asks request next => .asks request (fun answer => (next answer).attempt)

/-- The end of an attempt, as the end of the thread. -/
def conclude : Except ε α → Thread ε I α
  | .ok value => .returns value
  | .error error => .raises error

/-- The request that the thread makes next. -/
def pending : Thread ε I α → Option I.Request
  | .asks request _ => some request
  | _ => none

end Thread

/-- What one thread may ask for at each stage of its work, which answers it can count on, and where each
answer leaves it. -/
structure Protocol (ε : Type) (I : Interface) (P : Type) where
  allowed : P → I.Request → Prop
  answered : P → (request : I.Request) → Except ε (I.Answer request) → Prop
  next : P → (request : I.Request) → Except ε (I.Answer request) → P

namespace Thread

variable {ε α β P : Type} {I : Interface} (protocol : Protocol ε I P)

/-- A request that is allowed at a stage and leaves the thread there. -/
structure Quiet (stage : P) (request : I.Request) : Prop where
  allowed : protocol.allowed stage request
  next : ∀ answer, protocol.next stage request answer = stage

/-- From a stage on the thread asks only for what the protocol allows, whatever the answers it can count
on are, and ends as described. -/
def Follows (returns : α → P → Prop) (raises : ε → P → Prop) : Thread ε I α → P → Prop
  | .returns value, stage => returns value stage
  | .raises error, stage => raises error stage
  | .asks request next, stage => protocol.allowed stage request ∧
    ∀ answer, protocol.answered stage request answer →
      (next answer).Follows returns raises (protocol.next stage request answer)

variable {protocol} {returns : α → P → Prop} {raises : ε → P → Prop} {stage : P}

@[simp] theorem follows_conclude (result : Except ε α) :
    (conclude result : Thread ε I α).Follows protocol returns raises stage ↔
      match result with
      | .ok value => returns value stage
      | .error error => raises error stage := by
  cases result with
  | ok value => rfl
  | error error => rfl

theorem follows_perform {request : I.Request} {returns : I.Answer request → P → Prop}
    (hallowed : protocol.allowed stage request)
    (hreturns : ∀ answer, protocol.answered stage request (.ok answer) →
      returns answer (protocol.next stage request (.ok answer)))
    (hraises : ∀ error, protocol.answered stage request (.error error) →
      raises error (protocol.next stage request (.error error))) :
    (perform request : Thread ε I (I.Answer request)).Follows protocol returns raises stage := by
  refine ⟨hallowed, ?_⟩
  intro answer hanswered
  cases answer with
  | ok answer => exact hreturns answer hanswered
  | error error => exact hraises error hanswered

theorem follows_perform_quiet {request : I.Request} {returns : I.Answer request → P → Prop}
    (hquiet : Quiet protocol stage request) (hreturns : ∀ answer, returns answer stage)
    (hraises : ∀ error, raises error stage) :
    (perform request : Thread ε I (I.Answer request)).Follows protocol returns raises stage := by
  refine follows_perform hquiet.allowed ?_ ?_
  · intro answer _
    rw [hquiet.next]
    exact hreturns answer
  · intro error _
    rw [hquiet.next]
    exact hraises error

theorem follows_bind {returns : β → P → Prop} (thread : Thread ε I α) (next : α → Thread ε I β) :
    (thread >>= next).Follows protocol returns raises stage ↔
      thread.Follows protocol (fun value => (next value).Follows protocol returns raises) raises stage := by
  change (thread.bind next).Follows protocol returns raises stage ↔ _
  induction thread generalizing stage with
  | returns value => rfl
  | raises error => rfl
  | asks request rest ih =>
    unfold bind Follows
    refine and_congr_right (fun _ => forall_congr' (fun answer => imp_congr_right (fun _ => ?_)))
    exact ih answer

theorem follows_attempt {returns : Except ε α → P → Prop} (thread : Thread ε I α) :
    (attempt thread).Follows protocol returns raises stage ↔
      thread.Follows protocol (fun value => returns (.ok value)) (fun error => returns (.error error)) stage := by
  induction thread generalizing stage with
  | returns value => rfl
  | raises error => rfl
  | asks request rest ih =>
    unfold attempt Follows
    refine and_congr_right (fun _ => forall_congr' (fun answer => imp_congr_right (fun _ => ?_)))
    exact ih answer

variable {thread : Thread ε I α}

/-- Rule of consequence. -/
theorem Follows.mono {returns' : α → P → Prop} {raises' : ε → P → Prop}
    (hfollows : thread.Follows protocol returns raises stage)
    (hreturns : ∀ value stage, returns value stage → returns' value stage)
    (hraises : ∀ error stage, raises error stage → raises' error stage) :
    thread.Follows protocol returns' raises' stage := by
  induction thread generalizing stage with
  | returns value => exact hreturns value stage hfollows
  | raises error => exact hraises error stage hfollows
  | asks request rest ih =>
    refine ⟨hfollows.1, ?_⟩
    intro answer hanswered
    exact ih answer (hfollows.2 answer hanswered)

/-- A request with its answer. -/
structure Exchange (ε : Type) (I : Interface) where
  request : I.Request
  answer : Except ε (I.Answer request)

/-- How a thread can end, and what it asked for on the way, whatever it is answered. -/
inductive Ends : Thread ε I α → List (Exchange ε I) → Except ε α → Prop where
  | returns (value : α) : Ends (.returns value) [] (.ok value)
  | raises (error : ε) : Ends (.raises error) [] (.error error)
  | asks (request : I.Request) (next : Except ε (I.Answer request) → Thread ε I α)
    (answer : Except ε (I.Answer request)) (path : List (Exchange ε I)) (result : Except ε α)
    (hends : Ends (next answer) path result) : Ends (.asks request next) (⟨request, answer⟩ :: path) result

/-- The exchanges and the end of a thread that gets the same answer whenever it asks for the same. -/
def play (answers : (request : I.Request) → Except ε (I.Answer request)) :
    Thread ε I α → List (Exchange ε I) × Except ε α
  | .returns value => ([], .ok value)
  | .raises error => ([], .error error)
  | .asks request next =>
    let (path, result) := (next (answers request)).play answers
    (⟨request, answers request⟩ :: path, result)

variable (answers : (request : I.Request) → Except ε (I.Answer request))

theorem ends_play (thread : Thread ε I α) :
    thread.Ends (thread.play answers).1 (thread.play answers).2 := by
  induction thread with
  | returns value => exact .returns value
  | raises error => exact .raises error
  | asks request next ih => exact .asks request next (answers request) _ _ (ih (answers request))

@[simp] theorem play_perform (request : I.Request) :
    (perform request : Thread ε I (I.Answer request)).play answers = ([⟨request, answers request⟩], answers request) := by
  unfold perform play
  cases answers request with
  | ok answer => rfl
  | error error => rfl

variable {next : α → Thread ε I β}

/-- What comes after a thread that returns goes on from its value. -/
theorem play_bind_of_ok {answers : (request : I.Request) → Except ε (I.Answer request)} {value : α} (hvalue : (thread.play answers).2 = .ok value) :
    (thread >>= next).play answers =
      ((thread.play answers).1 ++ ((next value).play answers).1, ((next value).play answers).2) := by
  change (thread.bind next).play answers = _
  induction thread with
  | returns found =>
    cases hvalue
    rfl
  | raises error => cases hvalue
  | asks request rest ih =>
    have hrest := ih (answers request) hvalue
    rw [bind, play, hrest]
    rfl

variable {exchange : Exchange ε I}

/-- What a thread asks for, it asks for in front of what comes after it. -/
theorem mem_play_bind {answers : (request : I.Request) → Except ε (I.Answer request)} (next : α → Thread ε I β) (hmem : exchange ∈ (thread.play answers).1) :
    exchange ∈ ((thread >>= next).play answers).1 := by
  change exchange ∈ ((thread.bind next).play answers).1
  induction thread with
  | returns value => exact absurd hmem List.not_mem_nil
  | raises error => exact absurd hmem List.not_mem_nil
  | asks request rest ih =>
    rcases List.mem_cons.mp hmem with rfl | hlater
    · exact List.mem_cons_self
    · exact List.mem_cons_of_mem _ (ih (answers request) hlater)

/-- When a thread returns, what the next one asks for is asked for. -/
theorem mem_play_of_ok {answers : (request : I.Request) → Except ε (I.Answer request)} (value : α) (hvalue : (thread.play answers).2 = .ok value)
    (hmem : exchange ∈ ((next value).play answers).1) : exchange ∈ ((thread >>= next).play answers).1 := by
  rw [play_bind_of_ok hvalue]
  exact List.mem_append_right _ hmem

theorem play_attempt (thread : Thread ε I α) :
    (attempt thread).play answers = ((thread.play answers).1, .ok (thread.play answers).2) := by
  induction thread with
  | returns value => rfl
  | raises error => rfl
  | asks request rest ih => rw [attempt, play, ih, play]

/-- An end that is as described. -/
def Described (returns : α → P → Prop) (raises : ε → P → Prop) : Except ε α → P → Prop
  | .ok value => returns value
  | .error error => raises error

/-- The protocol that forbids nothing and remembers everything. -/
def recording : Protocol ε I (List (Exchange ε I)) where
  allowed _ _ := True
  answered _ _ _ := True
  next history request answer := history ++ [⟨request, answer⟩]

/-- What is shown of a thread by following the record of its exchanges holds of all its ends. -/
theorem Follows.of_ends {returns : α → List (Exchange ε I) → Prop}
    {raises : ε → List (Exchange ε I) → Prop} {history path : List (Exchange ε I)} {result : Except ε α}
    (hfollows : thread.Follows recording returns raises history) (hends : thread.Ends path result) :
    Described returns raises result (history ++ path) := by
  induction hends generalizing history with
  | returns value =>
    rw [List.append_nil]
    exact hfollows
  | raises error =>
    rw [List.append_nil]
    exact hfollows
  | asks request next answer path result _ ih =>
    have hrest : Described returns raises result (history ++ [⟨request, answer⟩] ++ path) :=
      ih (hfollows.2 answer trivial)
    rw [List.append_assoc] at hrest
    exact hrest

end Thread

/-- A request that was served, with the thread that made it. -/
structure Served (ε : Type) (I : Interface) where
  thread : Nat
  request : I.Request
  answer : Except ε (I.Answer request)

/-- Threads over one shared state, with the requests served so far, oldest first. -/
structure System (ε : Type) (I : Interface) (α σ : Type) where
  state : σ
  threads : Nat → Thread ε I α
  trace : List (Served ε I)

/-- One step of an interleaving: a thread's next request is served, or the surroundings change the state.
The inputs are what neither the threads nor the state determine. -/
inductive Move (ι κ : Type) where
  | thread (index : Nat) (input : ι)
  | surroundings (input : κ)

/-- How requests are served and how the surroundings act. -/
structure Semantics (ε : Type) (I : Interface) (σ ι κ : Type) where
  serve : ι → (request : I.Request) → σ → Except ε (I.Answer request) × σ
  react : κ → σ → σ

namespace System

variable {ε α σ ι κ P : Type} {I : Interface} (semantics : Semantics ε I σ ι κ)

/-- A step; it changes nothing when the thread has ended. -/
def step (system : System ε I α σ) : Move ι κ → System ε I α σ
  | .thread index input =>
    match system.threads index with
    | .asks request next =>
      let (answer, state) := semantics.serve input request system.state
      { state
        threads := Function.update system.threads index (next answer)
        trace := system.trace ++ [⟨index, request, answer⟩] }
    | _ => system
  | .surroundings input => { system with state := semantics.react input system.state }

/-- The system after an interleaving. -/
def run (system : System ε I α σ) (moves : List (Move ι κ)) : System ε I α σ :=
  moves.foldl (step semantics) system

/-- Every step of an interleaving meets a condition on the system before it. -/
def Always (condition : System ε I α σ → Move ι κ → Prop) : System ε I α σ → List (Move ι κ) → Prop
  | _, [] => True
  | system, move :: rest => condition system move ∧ Always condition (system.step semantics move) rest

instance decidable_always (condition : System ε I α σ → Move ι κ → Prop)
    [∀ system move, Decidable (condition system move)] :
    (system : System ε I α σ) → (moves : List (Move ι κ)) → Decidable (Always semantics condition system moves)
  | _, [] => inferInstanceAs (Decidable True)
  | system, move :: rest =>
    have := decidable_always condition (system.step semantics move) rest
    inferInstanceAs (Decidable (_ ∧ _))

/-- Every thread follows its protocol from the stage given for it. -/
def Tracks (protocol : Nat → Protocol ε I P) (system : System ε I α σ) (stages : Nat → P) : Prop :=
  ∀ index, (system.threads index).Follows (protocol index) (fun _ _ => True) (fun _ _ => True) (stages index)

variable {semantics} {system : System ε I α σ} {moves : List (Move ι κ)}
variable {condition : System ε I α σ → Move ι κ → Prop}

theorem always_of_forall
    (hcondition : ∀ system move, condition system move) : Always semantics condition system moves := by
  induction moves generalizing system with
  | nil => trivial
  | cons move rest ih => exact ⟨hcondition system move, ih⟩

theorem Always.of_append {earlier later : List (Move ι κ)}
    (halways : Always semantics condition system (earlier ++ later)) :
    Always semantics condition system earlier ∧ Always semantics condition (system.run semantics earlier) later := by
  induction earlier generalizing system with
  | nil => exact ⟨trivial, halways⟩
  | cons move rest ih =>
    obtain ⟨hmove, hrest⟩ := halways
    exact ⟨⟨hmove, (ih hrest).1⟩, (ih hrest).2⟩

theorem step_of_request {index : Nat} (input : ι) {request : I.Request}
    {next : Except ε (I.Answer request) → Thread ε I α} (hthread : system.threads index = .asks request next) :
    system.step semantics (.thread index input) =
      { state := (semantics.serve input request system.state).2
        threads := Function.update system.threads index (next (semantics.serve input request system.state).1)
        trace := system.trace ++ [⟨index, request, (semantics.serve input request system.state).1⟩] } := by
  simp only [step, hthread]

theorem step_of_ended {index : Nat} (input : ι) (hended : (system.threads index).pending = none) :
    system.step semantics (.thread index input) = system := by
  unfold Thread.pending at hended
  cases hthread : system.threads index with
  | asks request next =>
    rw [hthread] at hended
    cases hended
  | returns value => simp only [step, hthread]
  | raises error => simp only [step, hthread]

/-- The request a tracked thread makes is one its stage allows. -/
theorem Tracks.allowed {protocol : Nat → Protocol ε I P} {stages : Nat → P} (htracks : Tracks protocol system stages)
    {index : Nat} {request : I.Request} (hpending : (system.threads index).pending = some request) :
    (protocol index).allowed (stages index) request := by
  have hfollows := htracks index
  cases hthread : system.threads index with
  | asks found next =>
    rw [hthread] at hpending hfollows
    cases hpending
    exact hfollows.1
  | returns value =>
    rw [hthread] at hpending
    cases hpending
  | raises error =>
    rw [hthread] at hpending
    cases hpending

/-- The invariant rule: an invariant that ties the shared state and the stages of all threads, that every
allowed request keeps and that gives each thread the answers it counts on, holds after every interleaving
whose steps meet the condition. -/
theorem invariant_of_steps {protocol : Nat → Protocol ε I P}
    {Inv : System ε I α σ → (Nat → P) → Prop}
    (hthread : ∀ system stages index input request next, Inv system stages →
      system.threads index = .asks request next → (protocol index).allowed (stages index) request →
      condition system (.thread index input) →
      (protocol index).answered (stages index) request (semantics.serve input request system.state).1 ∧
      Inv (system.step semantics (.thread index input))
        (Function.update stages index
          ((protocol index).next (stages index) request (semantics.serve input request system.state).1)))
    (hsurroundings : ∀ system stages input, Inv system stages → condition system (.surroundings input) →
      Inv (system.step semantics (.surroundings input)) stages)
    {stages : Nat → P} (hinv : Inv system stages) (htracks : Tracks protocol system stages)
    (halways : Always semantics condition system moves) :
    ∃ stages, Inv (system.run semantics moves) stages ∧ Tracks protocol (system.run semantics moves) stages := by
  induction moves generalizing system stages with
  | nil => exact ⟨stages, hinv, htracks⟩
  | cons move rest ih =>
    obtain ⟨hmove, hrest⟩ := halways
    cases move with
    | surroundings input => exact ih (hsurroundings system stages input hinv hmove) htracks hrest
    | thread index input =>
      have hfollows := htracks index
      have hended : (system.threads index).pending = none →
          ∃ stages, Inv ((system.step semantics (.thread index input)).run semantics rest) stages ∧
            Tracks protocol ((system.step semantics (.thread index input)).run semantics rest) stages := by
        intro hnone
        rw [step_of_ended input hnone] at hrest ⊢
        exact ih hinv htracks hrest
      cases hfound : system.threads index with
      | returns value => exact hended (by rw [hfound]; rfl)
      | raises error => exact hended (by rw [hfound]; rfl)
      | asks request next =>
        rw [hfound] at hfollows
        obtain ⟨hanswered, hkept⟩ := hthread system stages index input request next hinv hfound hfollows.1 hmove
        refine ih hkept ?_ hrest
        intro other
        rw [step_of_request input hfound]
        by_cases hother : other = index
        · subst hother
          simp only [Function.update_self]
          exact hfollows.2 _ hanswered
        · simp only [Function.update_of_ne hother]
          exact htracks other

end System

end python
