import VelvetRuntime.DistributedWork.Moves
import VelvetRuntime.DistributedWork.Tables

open python python.str python.num
open velvet.distributed_work_service (plain_node plain_proposal)

namespace velvet.distributed_work_coordinator.DistributedWorkCoordinator

/-- The tasks that each node says it has and the tasks that it can have, by its normalised id. -/
structure TaskLimits where
  current_tasks : String → Nat
  max_concurrent_tasks : String → Nat
  current_tasks_le : ∀ node_id, current_tasks node_id ≤ max_concurrent_tasks node_id

section

variable [StrLower]

/-- The advertisement says what the table says about its node. -/
def TaskLimits.Advertised (limits : TaskLimits) (node : NodeAdvertisement) : Prop :=
  limits.current_tasks (normalized node.node_id) = node.current_tasks ∧
    limits.max_concurrent_tasks (normalized node.node_id) = node.max_concurrent_tasks

/-- No node holds more leases than it has room for. -/
def WithinLimits (self : DistributedWorkCoordinator) (limits : TaskLimits) : Prop :=
  ∀ node_id, limits.current_tasks node_id + self.active_count node_id ≤ limits.max_concurrent_tasks node_id

/-- The registered nodes advertise what the table says, and no node holds too many leases. -/
structure Limited (limits : TaskLimits) (coordinator : DistributedWorkCoordinator) : Prop where
  advertised : ∀ entry ∈ coordinator.registry.nodes.items, limits.Advertised entry.2
  within : coordinator.WithinLimits limits

variable {limits : TaskLimits} {self after : DistributedWorkCoordinator} {issued : List WorkLease}

theorem active_count_keep_leases (self : DistributedWorkCoordinator) (keep : String → WorkLease → Bool)
    (node_id : String) : (self.keep_leases keep).active_count node_id ≤ self.active_count node_id := by
  unfold active_count Dict.values
  exact ((List.filter_sublist.map Prod.snd).filter _).length_le

theorem active_count_store_lease (self : DistributedWorkCoordinator) {lease : WorkLease}
    (hrecord : LeaseOnRecord self.requirements lease.work_id lease)
    (hunleased : self.leases.get? lease.work_id = none) (node_id : String) :
    (self.store_lease lease hrecord).active_count node_id =
      self.active_count node_id + if lease.node_id = node_id then 1 else 0 := by
  unfold active_count Dict.values
  rw [leases_store_lease, Dict.items_set_of_get?_none _ _ hunleased, List.map_append, List.filter_append,
    List.length_append]
  congr 1
  by_cases hnode : lease.node_id = node_id
  · simp [hnode]
  · simp [hnode]

theorem advertised_set_availability (hadvertised : ∀ entry ∈ self.registry.nodes.items, limits.Advertised entry.2)
    (node_id : String) (availability : NodeAvailability) :
    ∀ entry ∈ (self.registry.set_availability node_id availability).nodes.items, limits.Advertised entry.2 := by
  intro entry hentry
  unfold VerifiedNodeRegistry.set_availability at hentry
  dsimp only at hentry
  split at hentry
  · exact hadvertised entry hentry
  · rename_i current hcurrent
    rcases (Dict.mem_items_set_iff _ _ _ _).mp hentry with rfl | ⟨_, hold⟩
    · have hold := hadvertised (normalized node_id, current) ((Dict.get?_eq_some_iff _ _ _).mp hcurrent)
      exact hold
    · exact hadvertised entry hold

section

variable (hlimited : Limited limits self)

include hlimited

theorem Limited.keep_leases (keep : String → WorkLease → Bool) :
    Limited limits (self.keep_leases keep) := by
  refine ⟨hlimited.advertised, ?_⟩
  intro node_id
  have hfewer := self.active_count_keep_leases keep node_id
  have hbound := hlimited.within node_id
  omega

theorem Limited.withdraw (work node : String) :
    Limited limits (self.withdraw work node) := by
  obtain ⟨hadvertised, hwithin⟩ := hlimited.keep_leases (fun key _ => key ≠ work)
  exact ⟨hadvertised, hwithin⟩

/-- The placement of a lease has counted the leases of its node. -/
theorem Limited.store_lease {requirement : WorkRequirement} {lease : WorkLease}
    (hrecord : LeaseOnRecord self.requirements lease.work_id lease) (hissued : Issued self requirement lease) :
    Limited limits (self.store_lease lease hrecord) := by
  obtain ⟨hadvertised, hwithin⟩ := hlimited
  refine ⟨hadvertised, ?_⟩
  intro node_id
  rw [self.active_count_store_lease hrecord hissued.unleased]
  have hbound := hwithin node_id
  split
  · rename_i hnode
    obtain ⟨node, hmem, hid, hroom⟩ := hissued.room
    obtain ⟨entry, hentry, rfl⟩ := List.mem_map.mp hmem
    obtain ⟨hcurrent, hmax⟩ := hadvertised entry ((Dict.mem_sorted_items _ _).mp hentry)
    rw [hid, hnode] at hcurrent hmax
    rw [hnode] at hroom
    omega
  · omega

theorem Limited.shift (hshift : Shift self issued after) : Limited limits after := by
  cases hshift with
  | availability node_id availability =>
    exact ⟨advertised_set_availability hlimited.advertised node_id availability, hlimited.within⟩
  | dropped keep => exact hlimited.keep_leases keep
  | withdrawn work lease hlease => exact hlimited.withdraw work lease.node_id
  | replaced work old_lease hold requirement lease hrecord hwork hissued =>
    exact (hlimited.withdraw work old_lease.node_id).store_lease hrecord hissued

theorem Limited.move (hmove : Move self issued after) : Limited limits after := by
  cases hmove with
  | shifted issued after hshift => exact hlimited.shift hshift
  | required requirement hunleased => exact ⟨hlimited.advertised, hlimited.within⟩
  | placed requirement lease hrecord hissued => exact hlimited.store_lease hrecord hissued

end

theorem Limited.moves (hlimited : Limited limits self) (hmoves : Moves self issued after) : Limited limits after :=
  hmoves.invariant (fun _ _ _ hbefore hmove => hbefore.move hmove) hlimited

theorem Limited.perform (hlimited : Limited limits self) {operation : Operation}
    (hregistered : ∀ advertisement, operation = .register advertisement → limits.Advertised advertisement) :
    Limited limits (self.perform operation).2 := by
  have hperformed := self.perform_performed operation
  generalize issued_leases (self.perform operation).1 = issued at hperformed
  generalize (self.perform operation).2 = after at hperformed ⊢
  obtain ⟨hadvertised, hwithin⟩ := id hlimited
  cases hperformed with
  | registered advertisement =>
    refine ⟨?_, hwithin⟩
    intro entry hentry
    dsimp only at hentry
    unfold VerifiedNodeRegistry.register at hentry
    dsimp only at hentry
    split at hentry
    · rcases (Dict.mem_items_set_iff _ _ _ _).mp hentry with rfl | ⟨_, hold⟩
      · exact hregistered advertisement rfl
      · exact hadvertised entry hold
    · exact hadvertised entry hentry
  | removed node_id => exact ⟨fun entry hentry => hadvertised entry (List.mem_of_mem_filter hentry), hwithin⟩
  | completed work_id node_id lease hlease hcompletes =>
    obtain ⟨hadvertised, hwithin⟩ := hlimited.keep_leases (fun key _ => key ≠ normalized work_id)
    exact ⟨hadvertised, hwithin⟩
  | moved _ _ _ hmoves => exact hlimited.moves hmoves

theorem limited_run (registry : VerifiedNodeRegistry) (hempty : registry.nodes.items = [])
    (operations : List Operation)
    (hregistered : ∀ advertisement, .register advertisement ∈ operations → limits.Advertised advertisement) :
    Limited limits ((new registry).run operations) := by
  induction operations using List.reverseRecOn with
  | nil =>
    refine ⟨?_, ?_⟩
    · intro entry hentry
      change entry ∈ registry.nodes.items at hentry
      rw [hempty] at hentry
      cases hentry
    · intro node_id
      exact limits.current_tasks_le node_id
  | append_singleton operations operation ih =>
    rw [run_append]
    refine (ih ?_).perform ?_
    · intro advertisement hmem
      exact hregistered advertisement (List.mem_append_left _ hmem)
    · rintro advertisement rfl
      exact hregistered advertisement (List.mem_append_right _ List.mem_cons_self)

/-- As long as the nodes keep advertising the same tasks, no node is ever given more work than it has room for,
neither between calls nor before or after any pass of a recovery. -/
theorem no_node_overcommitted (limits : TaskLimits) (body_id : String) (operations : List Operation)
    (hregistered : ∀ advertisement, .register advertisement ∈ operations → limits.Advertised advertisement) :
    ((new (VerifiedNodeRegistry.new body_id)).run operations).WithinLimits limits ∧
    ∀ now max_heartbeat_age lease_seconds, ∀ turn ∈ turns_of_recovery
      ((new (VerifiedNodeRegistry.new body_id)).run operations) now max_heartbeat_age lease_seconds,
      turn.coordinator.WithinLimits limits ∧ (turn.reassign now lease_seconds).2.WithinLimits limits := by
  have hlimited := limited_run (VerifiedNodeRegistry.new body_id) rfl operations hregistered
  refine ⟨hlimited.within, ?_⟩
  intro now max_heartbeat_age lease_seconds turn hturn
  obtain ⟨issued, hshifts, hheld⟩ := turns_of_recovery_shifts _ now max_heartbeat_age lease_seconds turn hturn
  have hbefore := hlimited.moves (moves_of_shifts hshifts)
  exact ⟨hbefore.within, (hbefore.moves
    (moves_of_shifts (reassign_locked_shifts hheld _ turn.required now lease_seconds))).within⟩

end

/-- `a` can have two tasks, every other node one. -/
def two_tasks_on_a : TaskLimits where
  current_tasks := fun _ => 0
  max_concurrent_tasks := fun node_id => if node_id = "a" then 2 else 1
  current_tasks_le := fun _ => Nat.zero_le _

/-- `a` takes `w1` and `w2` and falls silent; `b` is alive and has room for one of them. -/
def two_works_recovered [StrLower] (hfirst : velvet.distributed_work_service.IsNormalized "w1")
    (hsecond : velvet.distributed_work_service.IsNormalized "w2") : List Operation :=
  [.register (plain_node "a" 1 0 .AVAILABLE 2 text_a full_health zero_beat Nat.two_pos),
    .register (plain_node "b" (1 / 2) 90 .AVAILABLE 1 text_b half_health ninety_beat Nat.one_pos),
    .place (plain_proposal "w1" hfirst).to_requirement 0 1000 [],
    .place (plain_proposal "w2" hsecond).to_requirement 0 1000 [], .recover_unavailable_nodes 100 50 1000]

/-- Recovery moves one of the two works to `b` and leaves the other unplaced. -/
theorem two_works_within_limits :
    letI := StrLower.ascii
    let reached := (new (VerifiedNodeRegistry.new "body")).run (two_works_recovered (by decide) (by decide))
    reached.WithinLimits two_tasks_on_a ∧ reached.active_count "b" = 1 ∧ reached.active_count "a" = 0 := by
  have hcounts : letI := StrLower.ascii
      ((new (VerifiedNodeRegistry.new "body")).run (two_works_recovered (by decide) (by decide))).active_count "b" = 1 ∧
        ((new (VerifiedNodeRegistry.new "body")).run (two_works_recovered (by decide) (by decide))).active_count
          "a" = 0 := by decide +kernel
  have hnormal : letI := StrLower.ascii
      normalized "a" = "a" ∧ normalized "b" = "b" := by decide
  let := StrLower.ascii
  refine ⟨(no_node_overcommitted two_tasks_on_a "body" (two_works_recovered (by decide) (by decide)) ?_).1, hcounts⟩
  intro advertisement hmem
  simp only [two_works_recovered, List.mem_cons, List.not_mem_nil, Operation.register.injEq, or_false,
    reduceCtorEq] at hmem
  rcases hmem with rfl | rfl
  · exact ⟨rfl, (congrArg two_tasks_on_a.max_concurrent_tasks hnormal.1).trans rfl⟩
  · exact ⟨rfl, (congrArg two_tasks_on_a.max_concurrent_tasks hnormal.2).trans rfl⟩

end velvet.distributed_work_coordinator.DistributedWorkCoordinator
