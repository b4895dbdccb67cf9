import VelvetRuntime.Python.Alone
import VelvetRuntime.Execution.Exclusion

open python python.str velvet.court_token velvet.execution_contract velvet.resource_coordinator
open velvet.token_replay_ledger velvet.approved_executor velvet.coordinated_executor

namespace velvet.resource_coordinator

namespace ResourceCoordinator

theorem eq_of_tables {left right : ResourceCoordinator} (howners : left.owners = right.owners)
    (hleases : left.leases = right.leases) : left = right := by
  cases left
  cases right
  cases howners
  cases hleases
  rfl

/-- Resources that nobody owned are freed without a trace. -/
theorem freed_foldl_set {owner : String} {requested : List String} (hnodup : requested.Nodup)
    {owners : Dict String String} (hfree : ∀ resource ∈ requested, owners.get? resource = none) :
    freed (requested.foldl (fun owners resource => owners.set resource owner) owners) owner requested = owners := by
  induction requested with
  | nil => rfl
  | cons first rest ih =>
    obtain ⟨hfirst, hrest⟩ := List.nodup_cons.mp hnodup
    rw [List.forall_mem_cons] at hfree
    have hpopped : ∀ table : Dict String String,
        (rest.foldl (fun owners resource => owners.set resource owner) table).pop first =
          rest.foldl (fun owners resource => owners.set resource owner) (table.pop first) := by
      clear ih hfree hnodup hrest
      induction rest with
      | nil => exact fun _ => rfl
      | cons second rest ih =>
        intro table
        rw [List.mem_cons, not_or] at hfirst
        rw [List.foldl_cons, ih hfirst.2, Dict.pop_set_of_ne _ _ (Ne.symm hfirst.1), List.foldl_cons]
    have howned : (rest.foldl (fun owners resource => owners.set resource owner) (owners.set first owner)).get? first =
        some owner := by
      rw [Dict.get?_foldl_set, if_neg hfirst, Dict.get?_set_self]
    have hstep : freed (rest.foldl (fun owners resource => owners.set resource owner) (owners.set first owner)) owner
        (first :: rest) = freed (rest.foldl (fun owners resource => owners.set resource owner) owners) owner rest := by
      unfold freed
      rw [List.foldl_cons, if_pos howned, hpopped, Dict.pop_set_self, Dict.pop_of_get?_none _ hfree.1]
    rw [List.foldl_cons, hstep]
    exact ih hrest hfree.2

variable [StrLower]

theorem nodup_resources_of (values : List String) : (resources_of values).Nodup := by
  unfold resources_of
  split
  · exact List.nodup_nil
  · exact (List.perm_insertionSort _ _).nodup_iff.mpr (List.nodup_dedup _)

variable (self : ResourceCoordinator)

section

variable {owner_id : String} (howner : normalized owner_id ≠ "")
variable (hnew : self.leases.get? (normalized owner_id) = none)

include howner hnew

/-- For an owner without a lease, an acquisition changes the table exactly when it grants resources. -/
theorem acquire_new {resources : List String}
    (hrequested : resources_of resources ≠ []) :
    (self.acquire owner_id resources).2 = self ↔ (self.acquire owner_id resources).1.granted = false := by
  have hgrant : ∀ hnew' hfree, self.grant (normalized owner_id) (resources_of resources) hnew' hfree ≠ self := by
    intro hnew' hfree hsame
    have hleases := congrArg (fun coordinator => coordinator.leases.get? (normalized owner_id)) hsame
    dsimp only [grant] at hleases
    rw [Dict.get?_set_self, hnew] at hleases
    cases hleases
  unfold acquire
  dsimp only
  rw [if_neg howner, if_neg hrequested]
  split
  · rename_i existing hexisting
    rw [hnew] at hexisting
    cases hexisting
  · split
    · simp [hgrant]
    · simp

/-- A release takes back what an acquisition has done for an owner without a lease. -/
theorem release_acquire (resources : List String) :
    ((self.acquire owner_id resources).2.release owner_id).2 = self := by
  have hkept : (self.release owner_id).2 = self := by
    unfold release
    dsimp only
    rw [if_neg howner]
    split
    · rfl
    · rename_i lease hlease
      rw [hnew] at hlease
      cases hlease
  have hgranted : ∀ hnew' hfree,
      ((self.grant (normalized owner_id) (resources_of resources) hnew' hfree).release owner_id).2 = self := by
    intro hnew' hfree
    unfold release
    dsimp only
    rw [if_neg howner]
    split
    · rename_i hnone
      exact absurd (hnone.symm.trans (Dict.get?_set_self _ _ _)) (by simp)
    · rename_i lease hlease
      have hlease' : lease = ⟨normalized owner_id, resources_of resources⟩ :=
        Option.some.inj (hlease.symm.trans (Dict.get?_set_self _ _ _))
      subst hlease'
      refine eq_of_tables (freed_foldl_set (nodup_resources_of resources) hfree) ?_
      exact (Dict.pop_set_self _ _ _).trans (Dict.pop_of_get?_none _ hnew)
  unfold acquire
  dsimp only
  rw [if_neg howner]
  split
  · exact hkept
  · split
    · split
      · exact hkept
      · exact hkept
    · rename_i hnone
      split
      · rename_i hconflicts
        exact hgranted hnone (self.free_of_no_conflicts hnone hconflicts)
      · exact hkept

end

end ResourceCoordinator

end velvet.resource_coordinator

namespace velvet.coordinated_executor

open Thread System

section

variable [StrLower]

/-- The sink raises, on the receipt of an acquisition, what `except Exception` does not catch. -/
def interrupts : Exchange Error Requests → Bool
  | ⟨.receipt_sink (.resource .RESOURCE_ACQUIRED ..), .error error⟩ => !error.is_exception
  | _ => false

def denies : Exchange Error Requests → Bool
  | ⟨.acquire .., .ok decision⟩ => !decision.granted
  | _ => false

/-- The token is consumed, or the handler started. -/
def begins : Exchange Error Requests → Bool
  | ⟨.consume .., _⟩ | ⟨.start_handler .., _⟩ => true
  | _ => false

/-- The call has left the coordinators as they were, and began nothing when the acquisition was denied. -/
structure Restores (before : World) (path : List (Exchange Error Requests)) (after : World) : Prop where
  coordinators : after.coordinators = before.coordinators
  denied : path.any denies = true → path.any begins = false

/-- The requests of an execution without resources, and those of a preflight. -/
def executes : Request → Bool
  | .acquire .. | .release .. | .receipt_sink (.resource ..) => false
  | _ => true

def looks_up_only : Request → Bool
  | .contains .. | .time | .get .. => true
  | _ => false

def executing : Protocol Error Requests Unit := only fun request : Request => executes request = true

def looking_up : Protocol Error Requests Unit := only fun request : Request => looks_up_only request = true

variable (builtins : Builtins) {before after : World} {path : List (Exchange Error Requests)}

theorem serve_coordinators (outcome : Outcome) (request : Request) (world : World)
    (hexecutes : executes request = true) :
    (serve builtins outcome request world).2.coordinators = world.coordinators := by
  cases request with
  | contains used token_id => cases used <;> rfl
  | consume used token_id =>
    cases used with
    | ledger object => rfl
    | plain_set object =>
      dsimp only [serve]
      split <;> rfl
  | acquire coordinator owner_id resources => cases hexecutes
  | release coordinator owner_id => cases hexecutes
  | time => rfl
  | get registry name => rfl
  | safety_check token parameters => rfl
  | receipt_sink receipt => rfl
  | start_handler spec token parameters => rfl
  | finish_handler spec token => rfl

theorem follows_authorized_executes (execution : Execution) :
    (execution.execute_authorized builtins).Follows executing (fun _ _ => True) (fun _ _ => True) () := by
  have hreceipts : ∀ receipt : Receipt, receipt.of_execution = true →
      Quiet executing () (.receipt_sink receipt) := by
    intro receipt hreceipt
    cases receipt with
    | execution => exact quiet_only rfl
    | resource => cases hreceipt
  unfold Execution.execute_authorized
  rw [follows_bind]
  refine follows_perform_quiet (quiet_only rfl) ?_ (fun _ => trivial)
  intro used
  split
  · exact follows_deny hreceipts (fun _ => trivial) (fun _ => trivial)
  · rw [follows_bind]
    refine follows_verified builtins (quiet_only rfl) ?_ (fun _ => trivial)
    intro valid
    split
    · exact follows_deny hreceipts (fun _ => trivial) (fun _ => trivial)
    · rw [follows_bind, follows_attempt]
      refine follows_perform_quiet (quiet_only rfl) ?_ ?_
      · intro spec
        dsimp only
        split
        · exact follows_deny hreceipts (fun _ => trivial) (fun _ => trivial)
        · exact Execution.follows_begin_execution (quiet_only rfl) (fun _ => hreceipts) rfl
            (fun _ _ => ⟨fun _ => trivial, fun _ => trivial⟩)
            (Execution.follows_invoke rfl (fun _ => rfl) (quiet_only rfl) hreceipts (fun _ => trivial)
              (fun _ => trivial))
            (fun _ => trivial) (fun _ => trivial)
      · intro error
        dsimp only
        split
        · exact follows_deny hreceipts (fun _ => trivial) (fun _ => trivial)
        · trivial

theorem follows_preflight_looks_up (execution : CoordinatedExecution) :
    (execution.preflight builtins).Follows looking_up (fun _ _ => True) (fun _ _ => True) () := by
  unfold CoordinatedExecution.preflight
  rw [follows_bind]
  refine follows_perform_quiet (quiet_only rfl) ?_ (fun _ => trivial)
  intro used
  split
  · trivial
  · rw [follows_bind]
    refine follows_verified builtins (quiet_only rfl) ?_ (fun _ => trivial)
    intro valid
    split
    · trivial
    · rw [follows_bind, follows_attempt]
      refine follows_perform_quiet (quiet_only rfl) (fun _ => trivial) ?_
      intro error
      dsimp only
      split <;> trivial

variable {execution : CoordinatedExecution}

theorem any_eq_false_of {permitted : Request → Bool} {flag : Exchange Error Requests → Bool}
    (hpath : ∀ exchange ∈ path, permitted exchange.request = true)
    (hflag : ∀ exchange, permitted exchange.request = true → flag exchange = false) : path.any flag = false := by
  rw [List.any_eq_false]
  intro exchange hmem
  rw [hflag exchange (hpath exchange hmem)]
  exact Bool.false_ne_true

variable (exchange : Exchange Error Requests)

theorem interrupts_of_executes (hexecutes : executes exchange.request = true) :
    interrupts exchange = false := by
  unfold interrupts
  split
  · cases hexecutes
  · rfl

theorem denies_of_executes (hexecutes : executes exchange.request = true) :
    denies exchange = false := by
  unfold denies
  split
  · cases hexecutes
  · rfl

theorem begins_of_looks_up (hlooks : looks_up_only exchange.request = true) :
    begins exchange = false := by
  unfold begins
  split
  · cases hlooks
  · cases hlooks
  · rfl

theorem executes_of_looks_up {request : Request} (hlooks : looks_up_only request = true) :
    executes request = true := by
  cases request <;> first | rfl | cases hlooks

variable {result : Except Error ExecutionResult}

theorem authorized_path {named : Execution}
    (halone : (named.execute_authorized builtins).Alone (semantics builtins) before path result after) :
    after.coordinators = before.coordinators ∧ path.any interrupts = false ∧ path.any denies = false := by
  obtain ⟨hpath, hcoordinators⟩ := halone.of_only World.coordinators (serve_coordinators builtins)
    (follows_authorized_executes builtins named)
  exact ⟨hcoordinators, any_eq_false_of hpath interrupts_of_executes, any_eq_false_of hpath denies_of_executes⟩

theorem preflight_path {result : Except Error (Option ExecutionState)}
    (halone : (execution.preflight builtins).Alone (semantics builtins) before path result after) :
    after.coordinators = before.coordinators ∧ path.any interrupts = false ∧ path.any denies = false ∧
      path.any begins = false := by
  obtain ⟨hpath, hcoordinators⟩ := halone.of_only World.coordinators
    (fun outcome request world hlooks => serve_coordinators builtins outcome request world (executes_of_looks_up hlooks))
    (follows_preflight_looks_up builtins execution)
  have hexecutes : ∀ exchange ∈ path, executes exchange.request = true :=
    fun exchange hmem => executes_of_looks_up (hpath exchange hmem)
  exact ⟨hcoordinators, any_eq_false_of hexecutes interrupts_of_executes, any_eq_false_of hexecutes denies_of_executes,
    any_eq_false_of hpath begins_of_looks_up⟩

theorem alone_except_exception {α : Type} {body : Thread Error Requests α} {result : Except Error (Except Error α)}
    (halone : (except_exception body).Alone (semantics builtins) before path result after) :
    ∃ end_of, body.Alone (semantics builtins) before path end_of after ∧
      (result = .ok end_of ∧ (∀ error, end_of = .error error → error.is_exception = true) ∨
        ∃ error, result = .error error ∧ end_of = .error error ∧ error.is_exception = false) := by
  unfold except_exception at halone
  rcases alone_bind.mp halone with ⟨error, _, hbody⟩ | ⟨end_of, between, earlier, later, rfl, hbody, hrest⟩
  · obtain ⟨_, hend, _⟩ := alone_attempt.mp hbody
    cases hend
  · obtain ⟨_, hend, hbody⟩ := alone_attempt.mp hbody
    cases hend
    refine ⟨end_of, ?_⟩
    cases end_of with
    | ok value =>
      obtain ⟨rfl, rfl, rfl⟩ := (alone_pure _).mp hrest
      rw [List.append_nil]
      exact ⟨hbody, Or.inl ⟨rfl, by simp⟩⟩
    | error error =>
      dsimp only at hrest
      split at hrest
      · rename_i hexception
        obtain ⟨rfl, rfl, rfl⟩ := (alone_pure _).mp hrest
        rw [List.append_nil]
        refine ⟨hbody, Or.inl ⟨rfl, ?_⟩⟩
        rintro other hother
        cases hother
        exact hexception
      · rename_i hexception
        obtain ⟨rfl, rfl, rfl⟩ := (alone_raises _).mp hrest
        rw [List.append_nil]
        exact ⟨hbody, Or.inr ⟨error, rfl, rfl, by simpa using hexception⟩⟩

/-- How a receipt ends: it counts as persisted or not, or the sink's exception goes on. -/
theorem alone_persist {receipt : Receipt} {result : Except Error Bool}
    (halone : (persist receipt).Alone (semantics builtins) before path result after) :
    ∃ answer : Except Error Unit, path = [⟨.receipt_sink receipt, answer⟩] ∧ after = before ∧
      ((∃ persisted, result = .ok persisted) ∧ (∀ error, answer = .error error → error.is_exception = true) ∨
        ∃ error, result = .error error ∧ answer = .error error ∧ error.is_exception = false) := by
  unfold persist at halone
  rcases alone_bind.mp halone with ⟨error, rfl, hbody⟩ | ⟨caught, between, earlier, later, rfl, hbody, hrest⟩
  · obtain ⟨answer, hsink, hend⟩ := alone_except_exception builtins hbody
    obtain ⟨outcome, rfl, _, rfl⟩ := (alone_perform _).mp hsink
    rcases hend with ⟨hreturned, _⟩ | ⟨raised, hraised, rfl, hbase⟩
    · cases hreturned
    · exact ⟨_, rfl, rfl, Or.inr ⟨error, rfl, by cases hraised; rfl, by cases hraised; exact hbase⟩⟩
  · obtain ⟨answer, hsink, hend⟩ := alone_except_exception builtins hbody
    obtain ⟨outcome, rfl, _, hbetween⟩ := (alone_perform _).mp hsink
    have hbetween : between = before := hbetween
    subst hbetween
    rcases hend with ⟨hreturned, hexceptions⟩ | ⟨raised, hraised, _⟩
    · cases hreturned
      refine ⟨caught, ?_⟩
      have hpure : later = [] ∧ (∃ persisted, result = .ok persisted) ∧ after = between := by
        cases caught with
        | ok value =>
          obtain ⟨rfl, rfl, rfl⟩ := (alone_pure _).mp hrest
          exact ⟨rfl, ⟨_, rfl⟩, rfl⟩
        | error error =>
          obtain ⟨rfl, rfl, rfl⟩ := (alone_pure _).mp hrest
          exact ⟨rfl, ⟨_, rfl⟩, rfl⟩
      obtain ⟨rfl, hpersisted, rfl⟩ := hpure
      exact ⟨rfl, rfl, Or.inl ⟨hpersisted, hexceptions⟩⟩
    · cases hraised

/-- The owner of a call has no lease yet. -/
def Unleased (execution : CoordinatedExecution) (world : World) : Prop :=
  (world.coordinators execution.resource_coordinator).leases.get? (normalized execution.owner_id) = none

/-- The coordinators after the acquisition of a call. -/
def acquired (execution : CoordinatedExecution) (resources : List String) (world : World) :
    Nat → ResourceCoordinator :=
  Function.update world.coordinators execution.resource_coordinator
    ((world.coordinators execution.resource_coordinator).acquire execution.owner_id resources).2

variable {resources : List String}

/-- An acquisition leaves the coordinators as they are exactly when it is denied. -/
theorem acquired_eq (hunleased : Unleased execution before) (hresources : resources_of resources ≠ []) :
    acquired execution resources before = before.coordinators ↔
      ((before.coordinators execution.resource_coordinator).acquire execution.owner_id resources).1.granted = false := by
  rw [← ResourceCoordinator.acquire_new _ (owner_id_nonempty execution) hunleased hresources, acquired,
    Function.update_eq_self_iff]

variable {between : World}

section

variable (hunleased : Unleased execution before)
variable (hbetween : between.coordinators = acquired execution resources before)

include hunleased hbetween

/-- The release takes the coordinators back to where they were. -/
theorem alone_release {result : Except Error ResourceDecision}
    (halone : (perform (I := Requests) (.release execution.resource_coordinator execution.owner_id)).Alone
      (semantics builtins) between path result after) :
    after.coordinators = before.coordinators ∧ path.any interrupts = false ∧ path.any denies = false ∧
      path.any begins = false := by
  obtain ⟨outcome, rfl, _, rfl⟩ := (alone_perform _).mp halone
  refine ⟨?_, rfl, rfl, rfl⟩
  dsimp only [semantics, serve]
  rw [hbetween, acquired, Function.update_self, Function.update_idem,
    ResourceCoordinator.release_acquire _ (owner_id_nonempty execution) hunleased, Function.update_eq_self]

/-- Whatever the end of the leased execution is, the lease is gone after it. -/
theorem leased_restores
    (halone : (execution.execute_leased builtins resources).Alone (semantics builtins) between path result after) :
    after.coordinators = before.coordinators ∧ path.any interrupts = false ∧ path.any denies = false := by
  unfold CoordinatedExecution.execute_leased at halone
  rcases alone_bind.mp halone with ⟨error, _, hattempt⟩ | ⟨end_of, executed, first, rest, rfl, hattempt, halone⟩
  · obtain ⟨_, hend, _⟩ := alone_attempt.mp hattempt
    cases hend
  · obtain ⟨_, _, hexecution⟩ := alone_attempt.mp hattempt
    obtain ⟨hexecuted, hinterrupts, hdenies⟩ := authorized_path builtins hexecution
    have hafter : ∀ {path : List (Exchange Error Requests)} {result : Except Error ResourceDecision} {after : World},
        (perform (I := Requests) (.release execution.resource_coordinator execution.owner_id)).Alone
          (semantics builtins) executed path result after →
        after.coordinators = before.coordinators ∧ path.any interrupts = false ∧ path.any denies = false ∧
          path.any begins = false :=
      fun hrelease => alone_release builtins hunleased (hexecuted.trans hbetween) hrelease
    rw [List.any_append, List.any_append, hinterrupts, hdenies, Bool.false_or, Bool.false_or]
    rcases alone_bind.mp halone with ⟨error, _, hrelease⟩ | ⟨release, released, second, last, rfl, hrelease, halone⟩
    · obtain ⟨hcoordinators, hinterrupts, hdenies, _⟩ := hafter hrelease
      exact ⟨hcoordinators, hinterrupts, hdenies⟩
    · obtain ⟨hcoordinators, hinterrupts, hdenies, _⟩ := hafter hrelease
      rw [List.any_append, List.any_append, hinterrupts, hdenies, Bool.false_or, Bool.false_or, ← hcoordinators]
      rcases alone_bind.mp halone with ⟨error, _, hpersist⟩ | ⟨persisted, _, third, _, rfl, hpersist, hconclude⟩
      · obtain ⟨answer, rfl, rfl, _⟩ := alone_persist builtins hpersist
        cases release.granted <;> exact ⟨rfl, rfl, rfl⟩
      · obtain ⟨answer, rfl, rfl, _⟩ := alone_persist builtins hpersist
        obtain ⟨rfl, _, rfl⟩ := (alone_conclude _).mp hconclude
        cases release.granted <;> exact ⟨rfl, rfl, rfl⟩

end

/-- A call that acquires resources restores the coordinators unless the sink interrupts it with the lease in hand. -/
theorem exclusive_restores_iff (hunleased : Unleased execution before) {spec : ExecutorSpec}
    (hresources : spec.contract.exclusive_resources ≠ [])
    (halone : (execution.execute_exclusive builtins spec).Alone (semantics builtins) before path result after) :
    Restores before path after ↔ path.any interrupts = false := by
  have hrequested : resources_of spec.contract.exclusive_resources ≠ [] := by
    rw [spec.contract.resources_valid]
    exact hresources
  unfold CoordinatedExecution.execute_exclusive at halone
  rcases alone_bind.mp halone with ⟨error, _, hacquire⟩ | ⟨acquisition, between, _, rest, rfl, hacquire, hlater⟩
  · obtain ⟨_, _, hanswer, _⟩ := (alone_perform _).mp hacquire
    cases hanswer
  · obtain ⟨outcome, rfl, hanswer, hbetween⟩ := (alone_perform _).mp hacquire
    have hacquisition : acquisition = ((before.coordinators execution.resource_coordinator).acquire execution.owner_id
        spec.contract.exclusive_resources).1 := Except.ok.inj hanswer
    have hacquired : between.coordinators = acquired execution spec.contract.exclusive_resources before := by
      rw [hbetween]
      rfl
    have hkept := acquired_eq hunleased hrequested
    rw [← hacquisition, ← hacquired] at hkept
    clear hacquire hanswer hacquisition hbetween outcome
    split at hlater
    · -- Denied: nothing but the receipt of the denial comes after the acquisition.
      rename_i hdenied
      have hcoordinators := hkept.mpr (by simpa using hdenied)
      have hrest : (∃ answer : Except Error Unit, rest = [⟨.receipt_sink (execution.resource_receipt .RESOURCE_DENIED
          spec.contract.exclusive_resources acquisition (resource_errors acquisition)), answer⟩]) ∧ after = between := by
        rcases alone_bind.mp hlater with ⟨error, _, hpersist⟩ | ⟨persisted, _, first, _, rfl, hpersist, hpure⟩
        · obtain ⟨answer, rfl, rfl, _⟩ := alone_persist builtins hpersist
          exact ⟨⟨answer, rfl⟩, rfl⟩
        · obtain ⟨answer, rfl, rfl, _⟩ := alone_persist builtins hpersist
          obtain ⟨rfl, _, rfl⟩ := (alone_pure _).mp hpure
          exact ⟨⟨answer, rfl⟩, rfl⟩
      obtain ⟨⟨answer, rfl⟩, rfl⟩ := hrest
      exact ⟨fun _ => rfl, fun _ => ⟨hcoordinators, fun _ => rfl⟩⟩
    · rename_i hgranted
      have hgranted : acquisition.granted = true := by simpa using hgranted
      have hundenied : ∀ rest : List (Exchange Error Requests), rest.any denies = false →
          ¬ (List.any (⟨.acquire execution.resource_coordinator execution.owner_id spec.contract.exclusive_resources,
            .ok acquisition⟩ :: rest) denies = true) := by
        intro rest hrest
        rw [List.any_cons, hrest]
        simp [denies, hgranted]
      rcases alone_bind.mp hlater with ⟨error, _, hpersist⟩ | ⟨acquired, _, first, rest, rfl, hpersist, hend⟩
      · -- The receipt of the acquisition interrupts the call, and nobody releases the lease.
        obtain ⟨answer, rfl, rfl, ⟨⟨_, hreturned⟩, _⟩ | ⟨raised, _, rfl, hbase⟩⟩ := alone_persist builtins hpersist
        · cases hreturned
        · have hinterrupts : interrupts ⟨.receipt_sink (execution.resource_receipt .RESOURCE_ACQUIRED
              spec.contract.exclusive_resources acquisition []), .error raised⟩ = true := by
            simp [interrupts, CoordinatedExecution.resource_receipt, hbase]
          constructor
          · intro hrestores
            rw [hkept.mp hrestores.coordinators] at hgranted
            cases hgranted
          · intro hnone
            simp [hinterrupts] at hnone
      · obtain ⟨answer, rfl, rfl, ⟨_, hexceptions⟩ | ⟨raised, hraised, _⟩⟩ := alone_persist builtins hpersist
        · have hpersisted : interrupts ⟨.receipt_sink (execution.resource_receipt .RESOURCE_ACQUIRED
              spec.contract.exclusive_resources acquisition []), answer⟩ = false := by
            cases answer with
            | ok => rfl
            | error error => simp [interrupts, CoordinatedExecution.resource_receipt, hexceptions error rfl]
          have hrest : after.coordinators = before.coordinators ∧ rest.any interrupts = false ∧
              rest.any denies = false := by
            split at hend
            · rcases alone_bind.mp hend with ⟨error, _, hrelease⟩ | ⟨_, _, second, _, rfl, hrelease, hpure⟩
              · obtain ⟨hcoordinators, hinterrupts, hdenies, _⟩ := alone_release builtins hunleased hacquired hrelease
                exact ⟨hcoordinators, hinterrupts, hdenies⟩
              · obtain ⟨hcoordinators, hinterrupts, hdenies, _⟩ := alone_release builtins hunleased hacquired hrelease
                obtain ⟨rfl, _, rfl⟩ := (alone_pure _).mp hpure
                rw [List.append_nil]
                exact ⟨hcoordinators, hinterrupts, hdenies⟩
            · exact leased_restores builtins hunleased hacquired hend
          obtain ⟨hcoordinators, hinterrupts, hdenies⟩ := hrest
          refine ⟨fun _ => ?_, fun _ => ⟨hcoordinators, fun hdenied => absurd hdenied (hundenied _ ?_)⟩⟩
          · simp only [List.cons_append, List.nil_append, List.any_cons, hpersisted, hinterrupts, Bool.or_false]
            rfl
          · simp [hdenies, denies]
        · cases hraised

/-- Exchanges that look something up change nothing about what follows them. -/
theorem Restores.lookups_iff {rest : List (Exchange Error Requests)}
    (hcoordinators : between.coordinators = before.coordinators) (hinterrupts : path.any interrupts = false)
    (hdenies : path.any denies = false) (hbegins : path.any begins = false)
    (hrest : Restores between rest after ↔ rest.any interrupts = false) :
    Restores before (path ++ rest) after ↔ (path ++ rest).any interrupts = false := by
  rw [List.any_append, hinterrupts, Bool.false_or, ← hrest]
  constructor
  · rintro ⟨hafter, hdenied⟩
    refine ⟨hafter.trans hcoordinators.symm, fun hany => ?_⟩
    simpa [hbegins] using hdenied (by rw [List.any_append, hany, Bool.or_true])
  · rintro ⟨hafter, hdenied⟩
    refine ⟨hafter.trans hcoordinators, fun hany => ?_⟩
    rw [List.any_append, hdenies, Bool.false_or] at hany
    rw [List.any_append, hbegins, hdenied hany, Bool.false_or]

theorem coordinated_restores_iff (hunleased : Unleased execution before)
    (halone : (execution.execute_coordinated builtins).Alone (semantics builtins) before path result after) :
    Restores before path after ↔ path.any interrupts = false := by
  have hauthorized : ∀ {between : World} {rest : List (Exchange Error Requests)},
      (execution.named.execute_authorized builtins).Alone (semantics builtins) between rest result after →
      (Restores between rest after ↔ rest.any interrupts = false) := by
    intro between rest hexecution
    obtain ⟨hcoordinators, hinterrupts, hdenies⟩ := authorized_path builtins hexecution
    exact ⟨fun _ => hinterrupts, fun _ => ⟨hcoordinators, fun hdenied => by rw [hdenies] at hdenied; cases hdenied⟩⟩
  unfold CoordinatedExecution.execute_coordinated at halone
  rcases alone_bind.mp halone with ⟨error, _, hpreflight⟩ | ⟨refusal, between, first, rest, rfl, hpreflight, hrest⟩
  · obtain ⟨hcoordinators, hinterrupts, hdenies, _⟩ := preflight_path builtins hpreflight
    exact ⟨fun _ => hinterrupts, fun _ => ⟨hcoordinators, fun hdenied => by rw [hdenies] at hdenied; cases hdenied⟩⟩
  · obtain ⟨hcoordinators, hinterrupts, hdenies, hbegins⟩ := preflight_path builtins hpreflight
    refine Restores.lookups_iff hcoordinators hinterrupts hdenies hbegins ?_
    split at hrest
    · exact hauthorized hrest
    · rcases alone_bind.mp hrest with ⟨error, _, hget⟩ | ⟨spec, _, second, last, rfl, hget, hlast⟩
      · obtain ⟨_, rfl, _, rfl⟩ := (alone_perform _).mp hget
        exact ⟨fun _ => rfl, fun _ => ⟨rfl, fun _ => rfl⟩⟩
      · obtain ⟨_, rfl, _, rfl⟩ := (alone_perform _).mp hget
        refine Restores.lookups_iff rfl rfl rfl rfl ?_
        split at hlast
        · exact hauthorized hlast
        · rename_i hresources
          refine exclusive_restores_iff builtins ?_ hresources hlast
          unfold Unleased at hunleased ⊢
          rw [← hcoordinators] at hunleased
          exact hunleased

/-- What was served, without the thread. -/
def exchanges (trace : List (Served Error Requests)) : List (Exchange Error Requests) :=
  trace.map fun served => ⟨served.request, served.answer⟩

/-- A single call ends, whatever it meets outside, and restores the coordinators exactly when the sink does not
interrupt it on the receipt of its acquisition. -/
theorem execute_coordinated_restores_iff (builtins : Builtins) (execution : CoordinatedExecution) (world : World)
    (outcomes : Nat → Outcome) (hunleased : Unleased execution world) :
    ∃ steps,
      let ended := (start builtins (fun _ => .coordinated execution) world).run (semantics builtins)
        ((List.range steps).map fun step => .thread 0 (outcomes step))
      (ended.threads 0).pending = none ∧
        (Restores world (exchanges ended.trace) ended.state ↔ (exchanges ended.trace).any interrupts = false) := by
  obtain ⟨steps, path, result, halone, hended, htrace⟩ := @exists_alone _ _ _ _ _ _ (semantics builtins)
    (start builtins (fun _ => .coordinated execution) world) 0 outcomes
  refine ⟨steps, hended, ?_⟩
  have hexchanges : exchanges ((start builtins (fun _ => .coordinated execution) world).run (semantics builtins)
      ((List.range steps).map fun step => .thread 0 (outcomes step))).trace = path := by
    rw [htrace]
    change (path.map _).map _ = path
    rw [List.map_map]
    exact (List.map_congr_left fun _ _ => rfl).trans (List.map_id path)
  rw [hexchanges]
  exact coordinated_restores_iff builtins hunleased halone

/-- Everything goes well outside, up to a sink that is interrupted at one step. -/
def interrupted_outcome (interrupted step : Nat) : Outcome :=
  if step = interrupted then { plain_outcome with sink := .error ⟨.BaseException, ""⟩ } else plain_outcome

end

/-- A call of the comfort executor that nothing interrupts ends with its coordinator restored. -/
theorem comfort_restored :
    letI := StrLower.ascii
    let world := comfort_world (comfort_contract (by decide) (by decide))
    ∃ steps,
      let ended := (start plain_builtins (fun _ => .coordinated (comfort_execution "t1" 0)) world).run
        (semantics plain_builtins) ((List.range steps).map fun _ => .thread 0 plain_outcome)
      (ended.threads 0).pending = none ∧
        (Restores world (exchanges ended.trace) ended.state ↔ (exchanges ended.trace).any interrupts = false) := by
  let := StrLower.ascii
  exact execute_coordinated_restores_iff plain_builtins (comfort_execution "t1" 0)
    (comfort_world (comfort_contract (by decide) (by decide))) (fun _ => plain_outcome) rfl

/-- An interrupt that the sink raises on the receipt of the acquisition ends the call and leaves its lease behind. -/
theorem interrupted_lease_kept :
    letI := StrLower.ascii
    let world := comfort_world (comfort_contract (by decide) (by decide))
    let ended := (start plain_builtins (fun _ => .coordinated (comfort_execution "t1" 0)) world).run
      (semantics plain_builtins) ((List.range 5).map fun step => .thread 0 (interrupted_outcome 4 step))
    Unleased (comfort_execution "t1" 0) world ∧ (ended.threads 0).pending = none ∧
      (ended.state.coordinators 0).owner_of "hvac" = some "execution:t1" ∧
      ¬ Restores world (exchanges ended.trace) ended.state := by
  have hended : letI := StrLower.ascii
      (((start plain_builtins (fun _ => .coordinated (comfort_execution "t1" 0))
        (comfort_world (comfort_contract (by decide) (by decide)))).run (semantics plain_builtins)
          ((List.range 5).map fun step => .thread 0 (interrupted_outcome 4 step))).threads 0).pending = none := by
    decide
  have howned : letI := StrLower.ascii
      (((start plain_builtins (fun _ => .coordinated (comfort_execution "t1" 0))
        (comfort_world (comfort_contract (by decide) (by decide)))).run (semantics plain_builtins)
          ((List.range 5).map fun step => .thread 0 (interrupted_outcome 4 step))).state.coordinators 0).owner_of
        "hvac" = some "execution:t1" := by
    decide
  refine ⟨rfl, hended, howned, ?_⟩
  intro hrestores
  let := StrLower.ascii
  rw [congrFun hrestores.coordinators 0] at howned
  cases howned

end velvet.coordinated_executor
