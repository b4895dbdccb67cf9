import VelvetRuntime.Python.Except
import VelvetRuntime.DistributedWork.Moves
import VelvetRuntime.DistributedWork.Tables

open python python.str python.num

namespace velvet.distributed_work_coordinator

section

variable [StrLower]

namespace VerifiedNodeRegistry

variable {self : VerifiedNodeRegistry}

/-- The snapshot lists the registered nodes, each of them under its normalised id. -/
theorem mem_snapshot_iff {node : NodeAdvertisement} :
    node ∈ self.snapshot ↔ self.nodes.get? (normalized node.node_id) = some node := by
  unfold snapshot
  rw [List.mem_map]
  constructor
  · rintro ⟨entry, hentry, rfl⟩
    have hstored := (Dict.mem_sorted_items _ _).mp hentry
    rw [(self.members entry hstored).keyed]
    exact (Dict.get?_eq_some_iff _ _ _).mpr hstored
  · intro hget
    exact ⟨_, (Dict.mem_sorted_items _ _).mpr ((Dict.get?_eq_some_iff _ _ _).mp hget), rfl⟩

theorem keyed_of_get? {key : String} {node : NodeAdvertisement} (hget : self.nodes.get? key = some node) :
    normalized node.node_id = key :=
  (self.members (key, node) ((Dict.get?_eq_some_iff _ _ _).mp hget)).keyed

theorem get?_set_availability (node_id : String) (availability : NodeAvailability) (key : String) :
    (self.set_availability node_id availability).nodes.get? key =
      if key = normalized node_id then (self.nodes.get? key).map fun node => { node with availability }
      else self.nodes.get? key := by
  unfold set_availability
  dsimp only
  split
  · rename_i hnone
    split
    · rename_i hkey
      rw [hkey, hnone]
      rfl
    · rfl
  · rename_i current hcurrent
    rw [Dict.get?_set]
    split
    · rename_i hkey
      rw [hkey, hcurrent]
      rfl
    · rfl

end VerifiedNodeRegistry

namespace DistributedWorkCoordinator

variable {self : DistributedWorkCoordinator}

/-- The nodes that are marked offline, and no others, are offline. -/
theorem get?_mark_offline {failed : List String} (hnormal : ∀ node_id ∈ failed, normalized node_id = node_id)
    (key : String) : (self.mark_offline failed).registry.nodes.get? key =
      if key ∈ failed then (self.registry.nodes.get? key).map fun node => { node with availability := .OFFLINE }
      else self.registry.nodes.get? key := by
  unfold mark_offline
  induction failed generalizing self with
  | nil => rfl
  | cons node_id rest ih =>
    rw [List.forall_mem_cons] at hnormal
    have hrest := @ih { self with registry := self.registry.set_availability node_id .OFFLINE } hnormal.2
    rw [List.foldl_cons]
    refine hrest.trans ?_
    dsimp only
    rw [VerifiedNodeRegistry.get?_set_availability, hnormal.1]
    by_cases hkey : key = node_id
    · simp only [hkey, if_true, List.mem_cons, true_or]
      cases self.registry.nodes.get? node_id with
      | none => simp
      | some node => simp
    · simp [hkey]

/-- Failed nodes are listed under their normalised ids. -/
theorem normalized_of_failed {now max_heartbeat_age : ℚ} {failed : List String}
    (hfailed : self.failed_nodes now max_heartbeat_age = .ok failed) :
    ∀ node_id ∈ failed, normalized node_id = node_id := by
  unfold failed_nodes at hfailed
  obtain ⟨stale, _, rfl⟩ := except.map_eq_ok.mp hfailed
  intro node_id hmem
  unfold sorted_set at hmem
  rw [(List.perm_insertionSort _ _).mem_iff, List.mem_dedup] at hmem
  obtain ⟨value, _, rfl⟩ := List.mem_map.mp hmem
  exact normalized_normalized value

variable {lease : WorkLease}

/-- The tables are as they were, apart from leases that have expired. -/
structure AsBefore (now : ℚ) (before after : DistributedWorkCoordinator) : Prop where
  requirements : after.requirements = before.requirements
  refusals : after.refusals = before.refusals
  leases : ∀ work, after.leases.get? work = before.leases.get? work ∨
    after.leases.get? work = none ∧ ∃ lease, before.leases.get? work = some lease ∧ lease.expires_at ≤ now

theorem AsBefore.refl (now : ℚ) (self : DistributedWorkCoordinator) : AsBefore now self self :=
  ⟨rfl, rfl, fun _ => Or.inl rfl⟩

end DistributedWorkCoordinator

end

namespace DistributedWorkCoordinator

open velvet.distributed_work_service (IsNormalized plain_node plain_proposal)

end DistributedWorkCoordinator

end velvet.distributed_work_coordinator
