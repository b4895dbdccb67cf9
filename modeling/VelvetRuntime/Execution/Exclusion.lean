import VelvetRuntime.Execution.AtMostOnce

open python python.str velvet.court_token velvet.execution_contract velvet.resource_coordinator
open velvet.token_replay_ledger velvet.approved_executor

namespace velvet.coordinated_executor

open Thread System Function CoordinatedExecution

section

variable [StrLower]

/-- What a call has learnt and what it holds: whether its token counted as used, its last reading of the
clock, what the registry had under its executor name, and the resources of its lease. -/
structure Progress where
  used : Bool
  last_time : Option Int
  known : Option (Option ExecutorSpec)
  lease : Option (List String)

/-- A call asks about its own token, its own executor and its own lease, acquires at most one lease at a
time, and runs a handler only while it holds what the handler's contract declares. It can count on what it
has learnt: a used token stays used, the clock does not go back behind it and has reached the issue of the
token, and the registry keeps its answer. -/
def leasing (execution : CoordinatedExecution) : Protocol Error Requests Progress where
  allowed stage
    | .contains used token_id => used = execution.used_token_ids ∧ token_id = execution.token.token_id
    | .get registry name =>
      registry = execution.registry ∧ normalized name = normalized execution.executor_name
    | .acquire coordinator owner_id resources =>
      coordinator = execution.resource_coordinator ∧ owner_id = execution.owner_id ∧ stage.lease = none ∧
        resources_of resources ≠ []
    | .release coordinator owner_id =>
      coordinator = execution.resource_coordinator ∧ owner_id = execution.owner_id ∧ stage.lease.isSome = true
    | .finish_handler spec token =>
      token = execution.token ∧
        (spec.contract.exclusive_resources = [] ∨ stage.lease = some spec.contract.exclusive_resources)
    | _ => True
  answered stage
    | .contains _ _, answer => stage.used = true → answer ≠ .ok false
    | .time, answer => ∀ reading, answer = .ok reading →
      execution.token.issued_at ≤ reading ∧ ∀ last ∈ stage.last_time, last ≤ reading
    | .get _ _, answer => ∀ found ∈ stage.known, answer.toOption = found
    | _, _ => True
  next stage
    | .contains _ _, .ok true => { stage with used := true }
    | .time, .ok reading => { stage with last_time := some reading }
    | .get _ _, answer => { stage with known := some answer.toOption }
    | .acquire _ _ resources, .ok decision =>
      if decision.granted then { stage with lease := some (resources_of resources) } else stage
    | .release _ _, _ => { stage with lease := none }
    | _, _ => stage

variable (builtins : Builtins) (execution : CoordinatedExecution)

/-- The token has failed verification, and fails it again. -/
def Unverified (stage : Progress) : Prop :=
  ∃ current, (execution.now = some current ∨
      (execution.now = none ∧ stage.last_time = some current ∧ execution.token.issued_at ≤ current)) ∧
    verify_token builtins.sign execution.token execution.signing_key current = .ok false

/-- The checks before the safety check have refused the call, and refuse it again. -/
def Refused (stage : Progress) : Prop :=
  stage.used = true ∨ Unverified builtins execution stage ∨ stage.known = some none ∨
    ∃ spec, stage.known = some (some spec) ∧ (execution.refusal_of_spec spec).isSome = true

/-- A call that may go to the approved executor: it will be refused there, or it holds what its executor
declares. -/
def Ready (stage : Progress) : Prop :=
  Refused builtins execution stage ∨ ∃ spec, stage.known = some (some spec) ∧
    (spec.contract.exclusive_resources = [] ∨ stage.lease = some spec.contract.exclusive_resources)

variable {builtins execution} {stage : Progress}

theorem follows_verified_leasing {returns : Bool → Progress → Prop}
    {raises : Error → Progress → Prop}
    (hreturns : ∀ valid last_time, (valid = false ↔ Unverified builtins execution { stage with last_time }) →
      (Unverified builtins execution stage → valid = false) → returns valid { stage with last_time })
    (hraises : ∀ error last_time, raises error { stage with last_time }) :
    (execution.verified builtins).Follows (leasing execution) returns raises stage := by
  unfold Execution.verified
  cases hnow : execution.now with
  | some now =>
    have hverdict : ∀ last_time, Unverified builtins execution { stage with last_time } ↔
        verify_token builtins.sign execution.token execution.signing_key now = .ok false := by
      intro last_time
      constructor
      · rintro ⟨current, hcurrent | ⟨hnone, _⟩, hfails⟩
        · rw [hnow] at hcurrent
          cases hcurrent
          exact hfails
        · rw [hnow] at hnone
          cases hnone
      · intro hfails
        exact ⟨now, Or.inl hnow, hfails⟩
    change (conclude (I := Requests) _).Follows _ _ _ _
    rw [follows_conclude]
    cases hresult : verify_token builtins.sign execution.token execution.signing_key now with
    | error error => exact hraises error stage.last_time
    | ok valid =>
      rw [hresult] at hverdict
      refine hreturns valid stage.last_time ?_ ?_
      · rw [hverdict]
        simp
      · intro hunverified
        simpa using (hverdict stage.last_time).mp hunverified
  | none =>
    rw [follows_bind]
    refine follows_perform trivial ?_ (fun error _ => hraises error stage.last_time)
    intro reading hanswered
    obtain ⟨hissued, hlater⟩ := hanswered reading rfl
    change (conclude (I := Requests) _).Follows _ _ _ { stage with last_time := some reading }
    rw [follows_conclude]
    have hverdict : Unverified builtins execution { stage with last_time := some reading } ↔
        verify_token builtins.sign execution.token execution.signing_key reading = .ok false := by
      constructor
      · rintro ⟨current, hcurrent | ⟨_, hlast, _⟩, hfails⟩
        · rw [hnow] at hcurrent
          cases hcurrent
        · cases hlast
          exact hfails
      · intro hfails
        exact ⟨reading, Or.inr ⟨hnow, rfl, hissued⟩, hfails⟩
    cases hresult : verify_token builtins.sign execution.token execution.signing_key reading with
    | error error => exact hraises error (some reading)
    | ok valid =>
      rw [hresult] at hverdict
      refine hreturns valid (some reading) ?_ ?_
      · rw [hverdict]
        simp
      · rintro ⟨current, hcurrent | ⟨_, hlast, hbefore⟩, hfails⟩
        · rw [hnow] at hcurrent
          cases hcurrent
        · have hagain := verify_token_of_le hbefore (hlater current hlast) hfails
          rw [hresult] at hagain
          simpa using hagain

/-- The approved executor within a coordinated call that is ready for it keeps the lease as it is. -/
theorem follows_authorized_ready (hready : Ready builtins execution stage) :
    (execution.named.execute_authorized builtins).Follows (leasing execution)
      (fun _ after => after.lease = stage.lease) (fun _ after => after.lease = stage.lease) stage := by
  have hreceipts : ∀ stage receipt, receipt.of_execution = true →
      Quiet (leasing execution) stage (.receipt_sink receipt) := by
    intro stage receipt _
    exact ⟨trivial, fun _ => rfl⟩
  have hname : normalized execution.named.executor_name = normalized execution.executor_name :=
    normalized_normalized _
  unfold Execution.execute_authorized
  rw [follows_bind]
  refine follows_perform ⟨rfl, rfl⟩ ?_ (fun _ _ => rfl)
  intro used hused
  cases used with
  | true => exact follows_deny (hreceipts _) (fun _ => rfl) (fun _ => rfl)
  | false =>
    have hunused : stage.used = false := by
      cases hflag : stage.used with
      | false => rfl
      | true => exact absurd rfl (hused hflag)
    change (execution.named.verified builtins >>= _).Follows (leasing execution) _ _ stage
    rw [follows_bind]
    refine follows_verified_leasing ?_ (fun _ _ => rfl)
    intro valid last_time _ hunverified
    cases valid with
    | false => exact follows_deny (hreceipts _) (fun _ => rfl) (fun _ => rfl)
    | true =>
      have hverified : ¬ Unverified builtins execution stage := fun hnot => by cases hunverified hnot
      change (attempt (perform (I := Requests)
        (.get execution.registry (normalized execution.named.executor_name))) >>= _).Follows (leasing execution) _ _ _
      rw [follows_bind, follows_attempt]
      refine follows_perform ⟨rfl, ?_⟩ ?_ ?_
      · rw [hname, normalized_normalized]
      · intro spec hspec
        -- What the registry answers is what the call knew, so only a ready call gets past here.
        have hheld : execution.refusal_of_spec spec = none →
            spec.contract.exclusive_resources = [] ∨ stage.lease = some spec.contract.exclusive_resources := by
          intro haccepts
          rcases hready with (hflag | hnot | hmissing | ⟨found, hfound, hrefuses⟩) | ⟨found, hfound, hlease⟩
          · rw [hunused] at hflag
            cases hflag
          · exact absurd hnot hverified
          · have hanswer := hspec none hmissing
            cases hanswer
          · have hanswer := hspec (some found) hfound
            cases hanswer
            rw [haccepts] at hrefuses
            cases hrefuses
          · have hanswer := hspec (some found) hfound
            cases hanswer
            exact hlease
        dsimp only
        split
        · exact follows_deny (hreceipts _) (fun _ => rfl) (fun _ => rfl)
        · rename_i hnone
          have hresources := hheld hnone
          refine Execution.follows_begin_execution ⟨trivial, fun _ => rfl⟩ hreceipts trivial
            (fun _ _ => ⟨fun _ => rfl, fun _ => rfl⟩) ?_ (fun _ => rfl) (fun _ => rfl)
          exact Execution.follows_invoke trivial (fun _ => rfl) ⟨⟨rfl, hresources⟩, fun _ => rfl⟩ (hreceipts _)
            (fun _ => rfl) (fun _ => rfl)
      · intro error _
        dsimp only
        split
        · exact follows_deny (hreceipts _) (fun _ => rfl) (fun _ => rfl)
        · rfl

/-- A preflight that lets the call through has found its executor, and one that does not has learnt why. -/
theorem follows_preflight :
    (execution.preflight builtins).Follows (leasing execution)
      (fun refusal after => after.lease = none ∧
        match refusal with
        | some _ => Refused builtins execution after
        | none => ∃ spec, after.known = some (some spec))
      (fun _ after => after.lease = none) ⟨false, none, none, none⟩ := by
  unfold preflight
  rw [follows_bind]
  refine follows_perform ⟨rfl, rfl⟩ ?_ (fun _ _ => rfl)
  intro used _
  cases used with
  | true => exact ⟨rfl, Or.inl rfl⟩
  | false =>
    change (execution.verified builtins >>= _).Follows (leasing execution) _ _ ⟨false, none, none, none⟩
    rw [follows_bind]
    refine follows_verified_leasing ?_ (fun _ _ => rfl)
    intro valid last_time hverdict _
    cases valid with
    | false => exact ⟨rfl, Or.inr (Or.inl (hverdict.mp rfl))⟩
    | true =>
      change (attempt (perform (I := Requests)
        (.get execution.registry (normalized execution.executor_name))) >>= _).Follows (leasing execution) _ _ _
      rw [follows_bind, follows_attempt]
      refine follows_perform ⟨rfl, normalized_normalized _⟩ ?_ ?_
      · intro spec _
        refine ⟨rfl, ?_⟩
        cases hrefusal : execution.refusal_of_spec spec with
        | none => exact ⟨spec, rfl⟩
        | some refusal => exact Or.inr (Or.inr (Or.inr ⟨spec, rfl, by rw [hrefusal]; rfl⟩))
      · intro error _
        dsimp only
        split
        · exact ⟨rfl, Or.inr (Or.inr (Or.inl rfl))⟩
        · rfl

/-- A call that holds the lease of its executor gives it back, whatever happens. -/
theorem follows_execute_leased {spec : ExecutorSpec} (hknown : stage.known = some (some spec))
    (hlease : stage.lease = some spec.contract.exclusive_resources) :
    (execution.execute_leased builtins spec.contract.exclusive_resources).Follows (leasing execution)
      (fun _ after => after.lease = none) (fun _ _ => True) stage := by
  have hends : ∀ (result : Except Error ExecutionResult) (after : Progress), after.lease = stage.lease →
      (do
        let release ← perform (I := Requests) (.release execution.resource_coordinator execution.owner_id)
        let persisted ← persist (execution.resource_receipt
          (if release.granted then .RESOURCE_RELEASED else .RESOURCE_RELEASE_FAILED)
          spec.contract.exclusive_resources release (resource_errors release))
        conclude (result.map (after_release release persisted))).Follows
        (leasing execution) (fun _ after => after.lease = none) (fun _ _ => True) after := by
    intro result after hkept
    rw [follows_bind]
    refine follows_perform ⟨rfl, rfl, by rw [hkept, hlease]; rfl⟩ ?_ (fun _ _ => trivial)
    intro release _
    rw [follows_bind]
    refine follows_persist ⟨trivial, fun _ => rfl⟩ ?_ (fun _ => trivial)
    intro persisted
    rw [follows_conclude]
    split
    · rfl
    · trivial
  unfold execute_leased
  rw [follows_bind, follows_attempt]
  have hready : Ready builtins execution stage := Or.inr ⟨spec, hknown, Or.inr hlease⟩
  exact (follows_authorized_ready hready).mono (fun _ after hkept => hends _ after hkept)
    (fun _ after hkept => hends _ after hkept)

theorem follows_execute_exclusive {spec : ExecutorSpec} (hknown : stage.known = some (some spec))
    (hlease : stage.lease = none) (hresources : spec.contract.exclusive_resources ≠ []) :
    (execution.execute_exclusive builtins spec).Follows (leasing execution)
      (fun _ after => after.lease = none) (fun _ _ => True) stage := by
  have hrequested := spec.contract.resources_valid
  unfold execute_exclusive
  dsimp only
  rw [follows_bind]
  refine follows_perform ⟨rfl, rfl, hlease, ?_⟩ ?_ (fun _ _ => trivial)
  · rw [hrequested]
    exact hresources
  · intro acquisition _
    cases hgranted : acquisition.granted with
    | false =>
      have hstage : (leasing execution).next stage (.acquire execution.resource_coordinator execution.owner_id
          spec.contract.exclusive_resources) (.ok acquisition) = stage := by
        simp [leasing, hgranted]
      rw [hstage, if_pos (by simp), follows_bind]
      exact follows_persist ⟨trivial, fun _ => rfl⟩ (fun _ => hlease) (fun _ => trivial)
    | true =>
      have hstage : (leasing execution).next stage (.acquire execution.resource_coordinator execution.owner_id
          spec.contract.exclusive_resources) (.ok acquisition) =
          { stage with lease := some spec.contract.exclusive_resources } := by
        simp [leasing, hgranted, hrequested]
      rw [hstage, if_neg (by simp), follows_bind]
      refine follows_persist ⟨trivial, fun _ => rfl⟩ ?_ (fun _ => trivial)
      intro acquired
      cases acquired with
      | false =>
        rw [if_pos (by simp), follows_bind]
        exact follows_perform ⟨rfl, rfl, rfl⟩ (fun _ _ => rfl) (fun _ _ => trivial)
      | true =>
        rw [if_neg (by simp)]
        exact follows_execute_leased hknown rfl

/-- A coordinated call follows the protocol from its first step on. -/
theorem follows_leasing :
    (execution.execute_coordinated builtins).Follows (leasing execution) (fun _ _ => True) (fun _ _ => True)
      ⟨false, none, none, none⟩ := by
  unfold execute_coordinated
  rw [follows_bind]
  refine follows_preflight.mono ?_ (fun _ _ _ => trivial)
  rintro refusal stage ⟨hlease, hlearnt⟩
  cases refusal with
  | some state => exact (follows_authorized_ready (Or.inl hlearnt)).mono (fun _ _ _ => trivial) (fun _ _ _ => trivial)
  | none =>
    obtain ⟨found, hfound⟩ := hlearnt
    dsimp only
    rw [follows_bind]
    refine follows_perform ⟨rfl, normalized_normalized _⟩ ?_ (fun _ _ => trivial)
    intro spec hspec
    cases hspec (some found) hfound
    split
    · rename_i hnone
      have hready : Ready builtins execution { stage with known := some (some found) } :=
        Or.inr ⟨found, rfl, Or.inl hnone⟩
      exact (follows_authorized_ready hready).mono (fun _ _ _ => trivial) (fun _ _ _ => trivial)
    · rename_i hresources
      have hfollows : (execution.execute_exclusive builtins found).Follows (leasing execution)
          (fun _ after => after.lease = none) (fun _ _ => True)
          { stage with known := some (some found) } := follows_execute_exclusive rfl hlease hresources
      exact hfollows.mono (fun _ _ _ => trivial) (fun _ _ _ => trivial)

/-- A token id that counts as used from now on. -/
def Contained (token_id : String) (world : World) : UsedTokenIds → Prop
  | .ledger object => normalize token_id ≠ "" ∧ ∀ found,
    load_handle ((world.files (world.ledgers object).path).getD []) = .ok found → normalize token_id ∈ found
  | .plain_set object => token_id ∈ world.plain_sets object

/-- How the world may change under a call: the registries stay, the files and the sets grow, the ledger
objects keep their files, and the clock does not go back. -/
structure Grows (before after : World) : Prop where
  registries : after.registries = before.registries
  paths : ∀ object, (after.ledgers object).path = (before.ledgers object).path
  files : ∀ path, ∃ more, (after.files path).getD [] = (before.files path).getD [] ++ more
  plain_sets : ∀ object, before.plain_sets object ⊆ after.plain_sets object
  clock : before.clock ≤ after.clock

theorem Contained.grows {before after : World} {token_id : String} {used : UsedTokenIds}
    (hcontained : Contained token_id before used)
    (hpaths : ∀ object, (after.ledgers object).path = (before.ledgers object).path)
    (hfiles : ∀ path, ∃ more, (after.files path).getD [] = (before.files path).getD [] ++ more)
    (hsets : ∀ object, before.plain_sets object ⊆ after.plain_sets object) : Contained token_id after used := by
  cases used with
  | plain_set object => exact hsets object hcontained
  | ledger object =>
    obtain ⟨hwanted, hfound⟩ := hcontained
    refine ⟨hwanted, ?_⟩
    intro found hload
    obtain ⟨more, hmore⟩ := hfiles (before.ledgers object).path
    rw [hpaths, hmore] at hload
    obtain ⟨earlier, hearlier, hsubset⟩ := load_lines_append hload
    exact hsubset (hfound earlier hearlier)

/-- A used token id does not become unused. -/
theorem Contained.answer {world : World} {token_id : String} {used : UsedTokenIds}
    (hcontained : Contained token_id world used) (outcome : Outcome) :
    (serve builtins outcome (.contains used token_id) world).1 ≠ .ok false := by
  intro hanswer
  cases used with
  | plain_set object =>
    have hnot : token_id ∉ world.plain_sets object := by simpa [serve] using hanswer
    exact hnot hcontained
  | ledger object =>
    obtain ⟨hwanted, hfound⟩ := hcontained
    rcases (contains_ok_iff _ _ _ _ _).mp hanswer with ⟨hempty, _⟩ | ⟨_, _, found, hload, hmissing⟩
    · exact hwanted hempty
    · have hnot : normalize token_id ∉ found := by simpa using hmissing.symm
      exact hnot (hfound found hload)

theorem contained_of_answer {world : World} {token_id : String} {used : UsedTokenIds} {outcome : Outcome}
    (hanswer : (serve builtins outcome (.contains used token_id) world).1 = .ok true) :
    Contained token_id world used := by
  cases used with
  | plain_set object => simpa [serve, Contained] using hanswer
  | ledger object =>
    rcases (contains_ok_iff _ _ _ _ _).mp hanswer with ⟨_, hfalse⟩ | ⟨hwanted, _, found, hload, hpresent⟩
    · cases hfalse
    · refine ⟨hwanted, ?_⟩
      intro other hother
      rw [hload] at hother
      cases hother
      simpa using hpresent.symm

theorem serve_grows (builtins : Builtins) (outcome : Outcome) (request : Request) (world : World)
    (hclock : request = .time → world.clock ≤ outcome.time) :
    Grows world (serve builtins outcome request world).2 := by
  obtain ⟨hfiles, hpaths⟩ := serve_files builtins outcome request world
  have hsame : (∀ used token_id, request ≠ .consume used token_id) → ∀ path, ∃ more,
      ((serve builtins outcome request world).2.files path).getD [] = (world.files path).getD [] ++ more := by
    intro hnot path
    refine ⟨[], ?_⟩
    rw [hfiles hnot, List.append_nil]
  cases request with
  | contains used token_id =>
    cases used with
    | ledger object => exact ⟨rfl, hpaths, hsame (by simp), fun _ => List.Subset.refl _, le_refl _⟩
    | plain_set object => exact ⟨rfl, hpaths, hsame (by simp), fun _ => List.Subset.refl _, le_refl _⟩
  | time => exact ⟨rfl, hpaths, hsame (by simp), fun _ => List.Subset.refl _, hclock rfl⟩
  | consume used token_id =>
    cases used with
    | plain_set object =>
      simp only [serve] at hpaths ⊢
      split
      · exact ⟨rfl, fun _ => rfl, fun _ => ⟨[], by simp⟩, fun _ => List.Subset.refl _, le_refl _⟩
      · refine ⟨rfl, fun _ => rfl, fun _ => ⟨[], by simp⟩, ?_, le_refl _⟩
        intro other
        dsimp only
        by_cases hother : other = object
        · rw [hother, update_self]
          exact List.subset_append_left _ _
        · rw [update_of_ne hother]
          exact List.Subset.refl _
    | ledger object =>
      refine ⟨rfl, hpaths, ?_, fun _ => List.Subset.refl _, le_refl _⟩
      intro path
      simp only [serve]
      by_cases hpath : path = (world.ledgers object).path
      · rw [hpath, update_self]
        rcases consume_cases (world.ledgers object) outcome.access (world.files (world.ledgers object).path)
          token_id with ⟨_, _, _, hafter⟩ | ⟨_, hafter | hafter⟩
        · exact ⟨[consumed_line token_id], by rw [hafter]; rfl⟩
        · exact ⟨[], by rw [hafter, List.append_nil]⟩
        · exact ⟨[consumed_line token_id], hafter⟩
      · exact ⟨[], by rw [update_of_ne hpath, List.append_nil]⟩
  | _ => exact ⟨rfl, hpaths, hsame (by simp), fun _ => List.Subset.refl _, le_refl _⟩

variable (calls : Nat → CoordinatedExecution)

/-- What the calls have learnt still holds of the world. -/
structure Learnt (system : System Error Requests ExecutionResult World) (stages : Nat → Progress) : Prop where
  used : ∀ index, (stages index).used = true →
    Contained (calls index).token.token_id system.state (calls index).used_token_ids
  timed : ∀ index, ∀ last ∈ (stages index).last_time, last ≤ system.state.clock
  known : ∀ index, ∀ found ∈ (stages index).known,
    (system.state.registries (calls index).registry).executors.get? (normalized (calls index).executor_name) = found ∧
    ∃ served ∈ system.trace, ∃ name, served.request = .get (calls index).registry name ∧
      normalized name = normalized (calls index).executor_name

/-- Every lease of a call is in its coordinator, and no two calls hold one lease. -/
structure Held (system : System Error Requests ExecutionResult World) (stages : Nat → Progress) : Prop where
  leased : ∀ index, ∀ resources ∈ (stages index).lease, ∃ lease,
    (system.state.coordinators (calls index).resource_coordinator).leases.get? (normalized (calls index).owner_id) =
      some lease ∧ lease.resources = resources
  distinct : ∀ left right, (stages left).lease.isSome = true → (stages right).lease.isSome = true →
    (calls left).resource_coordinator = (calls right).resource_coordinator →
    normalized (calls left).owner_id = normalized (calls right).owner_id → left = right

/-- What ties the calls to the world they share. -/
structure Tied (system : System Error Requests ExecutionResult World) (stages : Nat → Progress) : Prop where
  learnt : Learnt calls system stages
  held : Held calls system stages

/-- Whether a request asks for an executor. -/
def looks_up (registry : Nat) (name : String) : Request → Bool
  | .get looked other => looked = registry && normalized other = normalized name
  | _ => false

/-- A request of a call that shares no lease and reads no clock that has gone back or is behind the token. -/
def Unshared (execution : CoordinatedExecution) (outcome : Outcome) (world : World) : Request → Prop
  | .acquire coordinator owner_id resources =>
    ∀ lease ∈ (world.coordinators coordinator).leases.get? (normalized owner_id),
      lease.resources ≠ resources_of resources
  | .time => execution.token.issued_at ≤ outcome.time ∧ world.clock ≤ outcome.time
  | _ => True

/-- The steps that share no lease and overtake no preflight: no call is granted a lease that its owner holds
already; the clock does not go back, and has reached the issue of the token when a call reads it; and no
executor is registered under a name that a call has looked up before. -/
def Exclusive (system : System Error Requests ExecutionResult World) : Move Outcome Surroundings → Prop
  | .thread index outcome =>
    ∀ request ∈ (system.threads index).pending, Unshared (calls index) outcome system.state request
  | .surroundings (.register registry spec) =>
    ∀ served ∈ system.trace, looks_up registry spec.name served.request = false
  | .surroundings (.reload _ _) => True

instance (execution : CoordinatedExecution) (outcome : Outcome) (world : World) (request : Request) :
    Decidable (Unshared execution outcome world request) :=
  match request with
  | .acquire coordinator owner_id resources => inferInstanceAs (Decidable
    (∀ lease ∈ (world.coordinators coordinator).leases.get? (normalized owner_id),
      lease.resources ≠ resources_of resources))
  | .time => inferInstanceAs (Decidable (_ ≤ _ ∧ _ ≤ _))
  | .contains .. | .get .. | .safety_check .. | .receipt_sink .. | .consume .. | .start_handler ..
  | .finish_handler .. | .release .. => inferInstanceAs (Decidable True)

instance (system : System Error Requests ExecutionResult World) (move : Move Outcome Surroundings) :
    Decidable (Exclusive calls system move) :=
  match move with
  | .thread index outcome => inferInstanceAs (Decidable
    (∀ request ∈ (system.threads index).pending, Unshared (calls index) outcome system.state request))
  | .surroundings (.register registry spec) => inferInstanceAs (Decidable
    (∀ served ∈ system.trace, looks_up registry spec.name served.request = false))
  | .surroundings (.reload _ _) => inferInstanceAs (Decidable True)

variable {calls} {system next : System Error Requests ExecutionResult World} {stages : Nat → Progress}
variable {index : Nat} {stage : Progress}

theorem Learnt.frame (hlearnt : Learnt calls system stages) (hgrows : Grows system.state next.state)
    (htrace : system.trace ⊆ next.trace) : Learnt calls next stages where
  used other hused := (hlearnt.used other hused).grows hgrows.paths hgrows.files hgrows.plain_sets
  timed other last hlast := (hlearnt.timed other last hlast).trans hgrows.clock
  known other found hfound := by
    obtain ⟨hregistered, served, hserved, hname⟩ := hlearnt.known other found hfound
    rw [hgrows.registries]
    exact ⟨hregistered, served, htrace hserved, hname⟩

/-- A call learns something that holds. -/
theorem Learnt.update (hlearnt : Learnt calls system stages)
    (hused : stage.used = true →
      Contained (calls index).token.token_id system.state (calls index).used_token_ids)
    (htimed : ∀ last ∈ stage.last_time, last ≤ system.state.clock)
    (hknown : ∀ found ∈ stage.known,
      (system.state.registries (calls index).registry).executors.get? (normalized (calls index).executor_name) =
        found ∧
      ∃ served ∈ system.trace, ∃ name, served.request = .get (calls index).registry name ∧
        normalized name = normalized (calls index).executor_name) :
    Learnt calls system (update stages index stage) := by
  refine ⟨?_, ?_, ?_⟩
  · intro other hother
    by_cases hsame : other = index
    · subst hsame
      rw [update_self] at hother
      exact hused hother
    · rw [update_of_ne hsame] at hother
      exact hlearnt.used other hother
  · intro other last hlast
    by_cases hsame : other = index
    · subst hsame
      rw [update_self] at hlast
      exact htimed last hlast
    · rw [update_of_ne hsame] at hlast
      exact hlearnt.timed other last hlast
  · intro other found hfound
    by_cases hsame : other = index
    · subst hsame
      rw [update_self] at hfound
      exact hknown found hfound
    · rw [update_of_ne hsame] at hfound
      exact hlearnt.known other found hfound

/-- A step that changes neither the coordinators nor a lease. -/
theorem Held.frame (hheld : Held calls system stages) (hcoordinators : next.state.coordinators =
    system.state.coordinators) (hlease : stage.lease = (stages index).lease) :
    Held calls next (Function.update stages index stage) := by
  have hleases : ∀ other, (Function.update stages index stage other).lease = (stages other).lease := by
    intro other
    by_cases hsame : other = index
    · rw [hsame, Function.update_self, hlease]
    · rw [Function.update_of_ne hsame]
  refine ⟨?_, ?_⟩
  · intro other resources hresources
    rw [hleases] at hresources
    rw [hcoordinators]
    exact hheld.leased other resources hresources
  · intro left right hleft hright
    rw [hleases] at hleft hright
    exact hheld.distinct left right hleft hright

theorem owner_id_nonempty (execution : CoordinatedExecution) : normalized execution.owner_id ≠ "" := by
  intro hempty
  have hblank := (normalized_eq_empty_iff _).mp hempty
  have hspaces := (split_eq_nil_iff _).mp ((strip_eq_nil_iff _).mp hblank)
  have hfirst := hspaces 'e' (by simp [owner_id])
  simp [isspace] at hfirst

/-- A call acquires: by the condition a lease that is granted is a new one. -/
theorem Held.acquire (hheld : Held calls system stages) {resources : List String}
    (hnone : (stages index).lease = none) (hrequested : resources_of resources ≠ [])
    (hexclusive : ∀ lease ∈ (system.state.coordinators (calls index).resource_coordinator).leases.get?
      (normalized (calls index).owner_id), lease.resources ≠ resources_of resources)
    (hcoordinators : next.state.coordinators = Function.update system.state.coordinators
      (calls index).resource_coordinator ((system.state.coordinators (calls index).resource_coordinator).acquire
        (calls index).owner_id resources).2)
    (hstage : stage.lease = if ((system.state.coordinators (calls index).resource_coordinator).acquire
      (calls index).owner_id resources).1.granted then some (resources_of resources) else none) :
    Held calls next (Function.update stages index stage) := by
  rcases ResourceCoordinator.acquire_cases (system.state.coordinators (calls index).resource_coordinator)
    (calls index).owner_id resources hrequested with ⟨hsame, hgranted⟩ | ⟨hnew, hleases⟩
  · -- Nothing was granted, or it was granted before.
    rw [hsame, Function.update_eq_self] at hcoordinators
    refine hheld.frame hcoordinators ?_
    rw [hstage, hnone]
    split
    · rename_i hyes
      obtain ⟨lease, hlease, hresources⟩ := hgranted hyes
      exact absurd hresources (hexclusive lease hlease)
    · rfl
  · have hafter : ∀ other, (next.state.coordinators (calls other).resource_coordinator).leases.get?
        (normalized (calls other).owner_id) =
          if (calls other).resource_coordinator = (calls index).resource_coordinator ∧
            normalized (calls other).owner_id = normalized (calls index).owner_id then
            some ⟨normalized (calls index).owner_id, resources_of resources⟩
          else (system.state.coordinators (calls other).resource_coordinator).leases.get?
            (normalized (calls other).owner_id) := by
      intro other
      rw [hcoordinators]
      by_cases hcoordinator : (calls other).resource_coordinator = (calls index).resource_coordinator
      · rw [hcoordinator, Function.update_self, hleases, Dict.get?_set]
        simp
      · rw [Function.update_of_ne hcoordinator, if_neg (fun hboth => hcoordinator hboth.1)]
    -- The owner had no lease, so no other call holds one under it.
    have hother : ∀ other, (stages other).lease.isSome = true →
        ¬ ((calls other).resource_coordinator = (calls index).resource_coordinator ∧
          normalized (calls other).owner_id = normalized (calls index).owner_id) := by
      rintro other hsome ⟨hcoordinator, howner⟩
      obtain ⟨found, hfound⟩ := Option.isSome_iff_exists.mp hsome
      obtain ⟨lease, hlease, _⟩ := hheld.leased other found hfound
      rw [hcoordinator, howner, hnew] at hlease
      cases hlease
    refine ⟨?_, ?_⟩
    · intro other found hfound
      rw [hafter]
      by_cases hsame : other = index
      · subst hsame
        rw [Function.update_self, hstage] at hfound
        rw [if_pos ⟨rfl, rfl⟩]
        split at hfound
        · cases hfound
          exact ⟨_, rfl, rfl⟩
        · cases hfound
      · rw [Function.update_of_ne hsame] at hfound
        rw [if_neg (hother other (Option.isSome_of_eq_some hfound))]
        exact hheld.leased other found hfound
    · intro left right hleft hright hcoordinator howner
      by_cases hl : left = index
      · by_cases hr : right = index
        · rw [hl, hr]
        · rw [Function.update_of_ne hr] at hright
          rw [hl] at hcoordinator howner
          exact absurd ⟨hcoordinator.symm, howner.symm⟩ (hother right hright)
      · rw [Function.update_of_ne hl] at hleft
        by_cases hr : right = index
        · rw [hr] at hcoordinator howner
          exact absurd ⟨hcoordinator, howner⟩ (hother left hleft)
        · rw [Function.update_of_ne hr] at hright
          exact hheld.distinct left right hleft hright hcoordinator howner

/-- A call gives its lease back, which no other call holds. -/
theorem Held.release (hheld : Held calls system stages) (hsome : (stages index).lease.isSome = true)
    (hcoordinators : next.state.coordinators = Function.update system.state.coordinators
      (calls index).resource_coordinator ((system.state.coordinators (calls index).resource_coordinator).release
        (calls index).owner_id).2)
    (hstage : stage.lease = none) : Held calls next (Function.update stages index stage) := by
  have hstages : ∀ other, (Function.update stages index stage other).lease.isSome = true →
      other ≠ index ∧ (stages other).lease.isSome = true := by
    intro other hother
    by_cases hsame : other = index
    · rw [hsame, Function.update_self, hstage] at hother
      cases hother
    · rw [Function.update_of_ne hsame] at hother
      exact ⟨hsame, hother⟩
  refine ⟨?_, ?_⟩
  · intro other found hfound
    obtain ⟨hne, hheld_other⟩ := hstages other (Option.isSome_of_eq_some hfound)
    rw [Function.update_of_ne hne] at hfound
    obtain ⟨lease, hlease, hresources⟩ := hheld.leased other found hfound
    refine ⟨lease, ?_, hresources⟩
    rw [hcoordinators]
    by_cases hcoordinator : (calls other).resource_coordinator = (calls index).resource_coordinator
    · have howner : normalized (calls other).owner_id ≠ normalized (calls index).owner_id := by
        intro howner
        exact hne (hheld.distinct other index hheld_other hsome hcoordinator howner)
      rw [hcoordinator, Function.update_self,
        ResourceCoordinator.get?_leases_release _ (owner_id_nonempty (calls index)), if_neg howner, ← hcoordinator]
      exact hlease
    · rw [Function.update_of_ne hcoordinator]
      exact hlease
  · intro left right hleft hright
    exact hheld.distinct left right (hstages left hleft).2 (hstages right hright).2

/-- What the served request teaches the call holds afterwards, and what it could count on was answered. -/
theorem Learnt.step (builtins : Builtins) (hlearnt : Learnt calls system stages) (outcome : Outcome) {request : Request}
    {rest : Except Error request.Answer → Thread Error Requests ExecutionResult}
    (hthread : system.threads index = .asks request rest)
    (hallowed : (leasing (calls index)).allowed (stages index) request)
    (hexclusive : Exclusive calls system (.thread index outcome)) :
    (leasing (calls index)).answered (stages index) request (serve builtins outcome request system.state).1 ∧
    Learnt calls (system.step (semantics builtins) (.thread index outcome))
      (Function.update stages index ((leasing (calls index)).next (stages index) request
        (serve builtins outcome request system.state).1)) := by
  have hclock : request = .time → (calls index).token.issued_at ≤ outcome.time ∧
      system.state.clock ≤ outcome.time := by
    rintro rfl
    exact hexclusive .time (by rw [hthread]; rfl)
  have hgrows := serve_grows builtins outcome request system.state (fun htime => (hclock htime).2)
  rw [step_of_request outcome hthread]
  have hframe : Learnt calls
      { state := (serve builtins outcome request system.state).2
        threads := Function.update system.threads index (rest (serve builtins outcome request system.state).1)
        trace := system.trace ++ [⟨index, request, (serve builtins outcome request system.state).1⟩] } stages :=
    hlearnt.frame hgrows (List.subset_append_left _ _)
  cases request with
  | contains used token_id =>
    obtain ⟨rfl, rfl⟩ := hallowed
    refine ⟨fun hused => (hlearnt.used index hused).answer outcome, ?_⟩
    refine hframe.update ?_ ?_ ?_
    · intro hused
      cases hanswer : (serve builtins outcome
          (.contains (calls index).used_token_ids (calls index).token.token_id) system.state).1 with
      | error error =>
        rw [hanswer] at hused
        exact hframe.used index hused
      | ok answer =>
        cases answer with
        | false =>
          rw [hanswer] at hused
          exact hframe.used index hused
        | true =>
          exact (contained_of_answer hanswer).grows hgrows.paths hgrows.files hgrows.plain_sets
    · intro last hlast
      refine hframe.timed index last ?_
      rcases hanswer : (serve builtins outcome
        (.contains (calls index).used_token_ids (calls index).token.token_id) system.state).1 with _ | _ | _ <;>
        rw [hanswer] at hlast <;> exact hlast
    · intro found hfound
      refine hframe.known index found ?_
      rcases hanswer : (serve builtins outcome
        (.contains (calls index).used_token_ids (calls index).token.token_id) system.state).1 with _ | _ | _ <;>
        rw [hanswer] at hfound <;> exact hfound
  | time =>
    obtain ⟨hissued, hlater⟩ := hclock rfl
    refine ⟨?_, hframe.update (hframe.used index) ?_ (hframe.known index)⟩
    · intro reading hreading
      cases hreading
      exact ⟨hissued, fun last hlast => (hlearnt.timed index last hlast).trans hlater⟩
    · intro last hlast
      cases hlast
      exact le_refl _
  | get registry name =>
    obtain ⟨rfl, hname⟩ := hallowed
    have hanswer : (serve builtins outcome (.get (calls index).registry name) system.state).1.toOption =
        (system.state.registries (calls index).registry).executors.get?
          (normalized (calls index).executor_name) := by
      simp only [serve, ExecutorRegistry.get, hname]
      split
      · rename_i spec hspec
        rw [hspec]
        rfl
      · rename_i hnone
        rw [hnone]
        rfl
    refine ⟨?_, hframe.update (hframe.used index) (hframe.timed index) ?_⟩
    · intro found hfound
      rw [hanswer]
      exact (hlearnt.known index found hfound).1
    · intro found hfound
      have hsame := Option.some.inj hfound
      refine ⟨?_, ⟨index, .get (calls index).registry name, _⟩, List.mem_append_right _ (List.mem_singleton_self _),
        name, rfl, hname⟩
      rw [← hsame, hanswer]
      rfl
  | acquire coordinator owner_id resources =>
    refine ⟨trivial, ?_⟩
    have hkept : ∀ decision : ResourceDecision,
        ((leasing (calls index)).next (stages index) (.acquire coordinator owner_id resources) (.ok decision)).used =
          (stages index).used ∧
        ((leasing (calls index)).next (stages index) (.acquire coordinator owner_id resources)
          (.ok decision)).last_time = (stages index).last_time ∧
        ((leasing (calls index)).next (stages index) (.acquire coordinator owner_id resources) (.ok decision)).known =
          (stages index).known := by
      intro decision
      simp only [leasing]
      split <;> exact ⟨rfl, rfl, rfl⟩
    obtain ⟨hused, htimed, hknown⟩ :=
      hkept ((system.state.coordinators coordinator).acquire owner_id resources).1
    refine hframe.update ?_ ?_ ?_
    · intro hflag
      exact hframe.used index (hused.symm.trans hflag)
    · intro last hlast
      exact hframe.timed index last (htimed.symm.trans hlast)
    · intro found hfound
      exact hframe.known index found (hknown.symm.trans hfound)
  | _ => exact ⟨trivial, hframe.update (hframe.used index) (hframe.timed index) (hframe.known index)⟩

theorem Held.step (hheld : Held calls system stages) (outcome : Outcome) {request : Request}
    {rest : Except Error request.Answer → Thread Error Requests ExecutionResult}
    (hthread : system.threads index = .asks request rest)
    (hallowed : (leasing (calls index)).allowed (stages index) request)
    (hexclusive : Exclusive calls system (.thread index outcome)) :
    Held calls (system.step (semantics builtins) (.thread index outcome))
      (Function.update stages index ((leasing (calls index)).next (stages index) request
        (serve builtins outcome request system.state).1)) := by
  rw [step_of_request outcome hthread]
  cases request with
  | acquire coordinator owner_id resources =>
    obtain ⟨rfl, rfl, hnone, hrequested⟩ := hallowed
    refine hheld.acquire hnone hrequested ?_ rfl ?_
    · exact hexclusive _ (by rw [hthread]; rfl)
    · simp only [leasing, serve]
      split
      · rfl
      · exact hnone
  | release coordinator owner_id =>
    obtain ⟨rfl, rfl, hsome⟩ := hallowed
    exact hheld.release hsome rfl rfl
  | contains used token_id =>
    have hkept : ∀ answer : Except Error Bool,
        ((leasing (calls index)).next (stages index) (.contains used token_id) answer).lease =
          (stages index).lease := by
      intro answer
      rcases answer with _ | _ | _ <;> rfl
    refine hheld.frame ?_ (hkept _)
    cases used <;> rfl
  | consume used token_id =>
    refine hheld.frame ?_ rfl
    cases used with
    | ledger object => rfl
    | plain_set object =>
      simp only [semantics, serve]
      split <;> rfl
  | _ => exact hheld.frame rfl rfl

/-- An executor that is registered in time and a ledger object that is made anew change nothing that a call
has learnt. -/
theorem Learnt.react (hlearnt : Learnt calls system stages) (input : Surroundings)
    (hexclusive : Exclusive calls system (.surroundings input)) :
    Learnt calls (system.step (semantics builtins) (.surroundings input)) stages := by
  cases input with
  | reload object access =>
    refine hlearnt.frame ⟨rfl, ?_, fun _ => ⟨[], (List.append_nil _).symm⟩, fun _ => List.Subset.refl _, le_refl _⟩
      (List.Subset.refl _)
    intro other
    simp only [System.step, semantics, coordinated_executor.react]
    by_cases hother : other = object
    · rw [hother, update_self, path_reload]
    · rw [update_of_ne hother]
  | register registry spec =>
    simp only [System.step, semantics, coordinated_executor.react]
    cases hregister : (system.state.registries registry).register builtins spec with
    | error error => exact hlearnt
    | ok after =>
      refine ⟨hlearnt.used, hlearnt.timed, ?_⟩
      intro index found hfound
      obtain ⟨hregistered, served, hserved, name, hrequest, hname⟩ := hlearnt.known index found hfound
      refine ⟨?_, served, hserved, name, hrequest, hname⟩
      dsimp only
      by_cases hregistry : (calls index).registry = registry
      · have hlooked := hexclusive served hserved
        have hother : normalized (calls index).executor_name ≠ normalized spec.name := by
          rw [← hname]
          simpa [hrequest, looks_up, hregistry] using hlooked
        rw [hregistry, update_self]
        unfold ExecutorRegistry.register at hregister
        dsimp only at hregister
        split at hregister
        · cases hregister
        · split at hregister
          · cases hregister
          · cases hregister
            rw [Dict.get?_set_of_ne _ _ hother, ← hregistry]
            exact hregistered
      · rw [update_of_ne hregistry]
        exact hregistered

theorem Held.react (hheld : Held calls system stages) (input : Surroundings) :
    Held calls (system.step (semantics builtins) (.surroundings input)) stages := by
  have hsame : (coordinated_executor.react builtins input system.state).coordinators =
      system.state.coordinators := by
    cases input with
    | reload object access => rfl
    | register registry spec =>
      simp only [coordinated_executor.react]
      split <;> rfl
  refine ⟨?_, hheld.distinct⟩
  intro index resources hresources
  simp only [System.step, semantics, hsame]
  exact hheld.leased index resources hresources

theorem normalized_of_mem_resources {values : List String} {resource : String}
    (hvalid : resources_of values = values) (hresource : resource ∈ values) : normalized resource = resource := by
  have hsorted : resource ∈ sorted_texts values := by
    rw [← hvalid] at hresource
    unfold resources_of at hresource
    split at hresource
    · cases hresource
    · exact hresource
  unfold sorted_texts at hsorted
  rw [List.mem_insertionSort, List.mem_dedup] at hsorted
  obtain ⟨original, _, rfl⟩ := List.mem_map.mp hsorted
  exact normalized_normalized original

/-- A call whose handler runs holds every resource that the handler's contract declares. -/
def HoldsDeclared (calls : Nat → CoordinatedExecution) (system : System Error Requests ExecutionResult World) :
    Prop :=
  ∀ index spec token, (system.threads index).pending = some (.finish_handler spec token) →
    ∀ resource ∈ spec.contract.exclusive_resources,
      (system.state.coordinators (calls index).resource_coordinator).owner_of resource =
        some (normalized (calls index).owner_id)

/-- Two handlers that run at the same time on one coordinator declare no common resource. -/
def RunsApart (calls : Nat → CoordinatedExecution) (system : System Error Requests ExecutionResult World) : Prop :=
  ∀ left right first second left_token right_token, left ≠ right →
    (calls left).resource_coordinator = (calls right).resource_coordinator →
    (system.threads left).pending = some (.finish_handler first left_token) →
    (system.threads right).pending = some (.finish_handler second right_token) →
    ∀ resource ∈ first.contract.exclusive_resources, resource ∉ second.contract.exclusive_resources

/-- Two calls with one token share a lease, and the first of them to end frees the resources of the other.
In every interleaving of coordinated calls whose steps share no lease and overtake no preflight, in every
state on the way, the running handlers hold what they declare and run apart. -/
theorem exclusive_resources_held (builtins : Builtins) (calls : Nat → CoordinatedExecution) (world : World)
    (moves : List (Move Outcome Surroundings))
    (halways : Always (semantics builtins) (Exclusive calls)
      (start builtins (fun index => .coordinated (calls index)) world) moves)
    (earlier : List (Move Outcome Surroundings)) (hearlier : earlier <+: moves) :
    let system := (start builtins (fun index => .coordinated (calls index)) world).run (semantics builtins) earlier
    HoldsDeclared calls system ∧ RunsApart calls system := by
  intro system
  obtain ⟨later, rfl⟩ := hearlier
  have hinitial : Tied calls (start builtins (fun index => .coordinated (calls index)) world)
      (fun _ => ⟨false, none, none, none⟩) := ⟨⟨by simp, by simp, by simp⟩, ⟨by simp, by simp⟩⟩
  obtain ⟨stages, ⟨_, hheld⟩, htracks⟩ : ∃ stages, Tied calls system stages ∧
      Tracks (fun index => leasing (calls index)) system stages := by
    refine invariant_of_steps ?_ ?_ hinitial (fun index => follows_leasing) halways.of_append.1
    · intro system stages index outcome request rest hinv hthread hallowed hexclusive
      obtain ⟨hanswered, hlearnt⟩ := hinv.learnt.step builtins outcome hthread hallowed hexclusive
      exact ⟨hanswered, hlearnt, hinv.held.step outcome hthread hallowed hexclusive⟩
    · intro system stages input hinv hexclusive
      exact ⟨hinv.learnt.react input hexclusive, hinv.held.react input⟩
  have howned : ∀ index spec token, (system.threads index).pending = some (.finish_handler spec token) →
      ∀ resource ∈ spec.contract.exclusive_resources,
        (stages index).lease = some spec.contract.exclusive_resources ∧
        (system.state.coordinators (calls index).resource_coordinator).owner_of resource =
          some (normalized (calls index).owner_id) := by
    intro index spec token hpending resource hresource
    obtain ⟨_, hlease⟩ := htracks.allowed hpending
    rcases hlease with hnone | hlease
    · rw [hnone] at hresource
      cases hresource
    · obtain ⟨lease, hfound, hresources⟩ := hheld.leased index _ hlease
      have hall := (ResourceCoordinator.owned _ _ lease hfound).2
      refine ⟨hlease, ?_⟩
      unfold ResourceCoordinator.owner_of
      rw [normalized_of_mem_resources spec.contract.resources_valid hresource]
      exact hall resource (by rw [hresources]; exact hresource)
  refine ⟨?_, ?_⟩
  · intro index spec token hpending resource hresource
    exact (howned index spec token hpending resource hresource).2
  · intro left right first second left_token right_token hne hcoordinator hleft hright resource hfirst hsecond
    obtain ⟨hleft_lease, hleft_owner⟩ := howned left first left_token hleft resource hfirst
    obtain ⟨hright_lease, hright_owner⟩ := howned right second right_token hright resource hsecond
    rw [hcoordinator] at hleft_owner
    have howner := Option.some.inj (hleft_owner.symm.trans hright_owner)
    exact hne (hheld.distinct left right (Option.isSome_of_eq_some hleft_lease)
      (Option.isSome_of_eq_some hright_lease) hcoordinator howner)

/-- What the running handler of a call declares. -/
def running_resources (thread : Thread Error Requests ExecutionResult) : Option (List String) :=
  match thread.pending with
  | some (.finish_handler spec _) => some spec.contract.exclusive_resources
  | _ => none

theorem pending_of_running_resources {thread : Thread Error Requests ExecutionResult} {resources : List String}
    (hrunning : running_resources thread = some resources) :
    ∃ spec token, thread.pending = some (.finish_handler spec token) ∧
      spec.contract.exclusive_resources = resources := by
  unfold running_resources at hrunning
  split at hrunning
  · rename_i spec token hpending
    exact ⟨spec, token, hpending, Option.some.inj hrunning⟩
  · cases hrunning

end

/-- Two calls for two tokens, one after the other: the handler of the second one runs and holds the air
conditioning. -/
theorem second_holder_alone :
    letI := StrLower.ascii
    let calls := fun index => comfort_execution (if index = 0 then "t1" else "t2") index
    let world := comfort_world (comfort_contract (by decide) (by decide))
    let system := (start plain_builtins (fun index => .coordinated (calls index)) world).run
      (semantics plain_builtins) (steps 0 15 ++ steps 1 11)
    running_resources (system.threads 1) = some ["hvac"] ∧
      (system.state.coordinators 0).owner_of "hvac" = some "execution:t2" ∧
      HoldsDeclared calls system ∧ RunsApart calls system := by
  have halways : letI := StrLower.ascii
      Always (semantics plain_builtins)
        (Exclusive (fun index => comfort_execution (if index = 0 then "t1" else "t2") index))
        (start plain_builtins (fun index => .coordinated (comfort_execution (if index = 0 then "t1" else "t2") index))
          (comfort_world (comfort_contract (by decide) (by decide))))
        (steps 0 15 ++ steps 1 11) := by decide
  refine ⟨by decide, by decide, ?_⟩
  let := StrLower.ascii
  exact exclusive_resources_held plain_builtins
    (fun index => comfort_execution (if index = 0 then "t1" else "t2") index)
    (comfort_world (comfort_contract (by decide) (by decide))) (steps 0 15 ++ steps 1 11) halways
    (steps 0 15 ++ steps 1 11) List.prefix_rfl

/-- Calls 0 and 1 carry one token. Call 1 acquires the lease of call 0 again, finds the token used and
releases it, while the handler of call 0 runs; call 2, with another token, then runs beside it. -/
theorem lease_freed_under_handler :
    letI := StrLower.ascii
    let calls := fun index => comfort_execution (if index = 2 then "t2" else "t1") index
    let world := comfort_world (comfort_contract (by decide) (by decide))
    let system := (start plain_builtins (fun index => .coordinated (calls index)) world).run
      (semantics plain_builtins) (steps 0 9 ++ steps 1 5 ++ steps 0 2 ++ steps 1 3 ++ steps 2 11)
    ¬ HoldsDeclared calls system ∧ ¬ RunsApart calls system := by
  have hfirst : letI := StrLower.ascii
      running_resources (((start plain_builtins (fun index => .coordinated
          (comfort_execution (if index = 2 then "t2" else "t1") index))
        (comfort_world (comfort_contract (by decide) (by decide)))).run (semantics plain_builtins)
          (steps 0 9 ++ steps 1 5 ++ steps 0 2 ++ steps 1 3 ++ steps 2 11)).threads 0) = some ["hvac"] := by
    decide
  have hsecond : letI := StrLower.ascii
      running_resources (((start plain_builtins (fun index => .coordinated
          (comfort_execution (if index = 2 then "t2" else "t1") index))
        (comfort_world (comfort_contract (by decide) (by decide)))).run (semantics plain_builtins)
          (steps 0 9 ++ steps 1 5 ++ steps 0 2 ++ steps 1 3 ++ steps 2 11)).threads 2) = some ["hvac"] := by
    decide
  have howner : letI := StrLower.ascii
      (((start plain_builtins (fun index => .coordinated
          (comfort_execution (if index = 2 then "t2" else "t1") index))
        (comfort_world (comfort_contract (by decide) (by decide)))).run (semantics plain_builtins)
          (steps 0 9 ++ steps 1 5 ++ steps 0 2 ++ steps 1 3 ++ steps 2 11)).state.coordinators 0).owner_of "hvac" ≠
        some (normalized (comfort_execution "t1" 0).owner_id) := by
    decide
  obtain ⟨first, first_token, hfirst_pending, hfirst_resources⟩ :=
    @pending_of_running_resources StrLower.ascii _ _ hfirst
  obtain ⟨second, second_token, hsecond_pending, hsecond_resources⟩ :=
    @pending_of_running_resources StrLower.ascii _ _ hsecond
  refine ⟨?_, ?_⟩
  · intro hholds
    refine howner (hholds 0 first first_token hfirst_pending "hvac" ?_)
    rw [hfirst_resources]
    exact List.mem_singleton_self _
  · intro happart
    refine happart 0 2 first second first_token second_token (by decide) rfl hfirst_pending hsecond_pending "hvac"
      ?_ ?_
    · rw [hfirst_resources]
      exact List.mem_singleton_self _
    · rw [hsecond_resources]
      exact List.mem_singleton_self _

end velvet.coordinated_executor
