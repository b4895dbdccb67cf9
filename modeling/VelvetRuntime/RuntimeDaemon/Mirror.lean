import VelvetRuntime.DistributedWork.Attribution
import VelvetRuntime.RuntimeDaemon.Journal

open python python.str velvet.distributed_work_coordinator velvet.distributed_work_service

namespace velvet.distributed_work_daemon

open Program DistributedWorkCoordinator RuntimeLifecycleJournal DistributedWorkService

/-- The active work of a state file whose Runtime has received these events since it started. -/
def active_work (events : List LifecycleEvidence) : Dict String ActiveWork :=
  events.foldl (fun active evidence =>
    active_after active evidence.event_type evidence.subject_id evidence.payload evidence.receipt_id) .empty

/-- Whether the file lists a work then. -/
def lists (events : List LifecycleEvidence) (work : String) : Bool := ((active_work events).get? work).isSome

section

variable [StrLower]

/-- The state file lists exactly the works that the coordinator leases. -/
def Mirrors (world : Runtime) : Prop := ∀ work, lists world.journal work = (world.lease_of work).isSome

/-- The state file mirrors the leases, and no completion is pending. -/
structure Mirrored (world : Runtime) : Prop where
  mirrors : Mirrors world
  none_pending : ∀ work, world.pending_completion.get? work = none

/-- No lease of the coordinator has run out by a time. -/
def NoneExpired (world : Runtime) (now : ℚ) : Prop := ∀ lease ∈ world.coordinator.leases.values, now < lease.expires_at

/-- The Queen takes a result, if it is one that the lease escalates to her. -/
def Delivers (sinks : Sinks) (world : Runtime) (lease : WorkLease) (result : WorkResult) : Prop :=
  (result.important && lease.escalate_results_to_queen) = true →
    ∃ queen, sinks.queen = some queen ∧ queen world.queen_calls = .ok ()

/-- A call that gets as far as the coordinator's table or the Queen changes no lease without an event, and none after
its event. -/
def Announced (sinks : Sinks) (world : Runtime) : Operation → Prop
  | .submit proposal now lease_seconds =>
    0 ≤ now → world.proposals.get? proposal.proposal_id = none → 0 < lease_seconds → NoneExpired world now
  | .refuse work_id node_id reason _ lease_seconds =>
    ¬Blank reason → ∀ lease ∈ world.lease_of (normalized work_id), lease.node_id = normalized node_id →
    ∀ requirement ∈ world.coordinator.requirements.get? (normalized work_id),
      world.coordinator.Replaceable (normalized work_id) (normalized node_id) requirement → 0 < lease_seconds
  | .complete result =>
    ∀ lease ∈ world.lease_of result.work_id, lease.node_id = result.node_id → result.work_id ∈ world.accepted →
      Delivers sinks world lease result
  | .recover now max_heartbeat_age lease_seconds =>
    0 < max_heartbeat_age → NoneExpired world now ∧ Attributable world now max_heartbeat_age lease_seconds
  | _ => True

variable {sinks : Sinks} {world : Runtime}

/-- What a call should leave behind. -/
def Faithful (sinks : Sinks) (world : Runtime) (operation : Operation) (after : Runtime) : Prop :=
  Mirrored after ↔ Announced sinks world operation

variable {raises : Error → Runtime → Prop}

theorem Mirrored.congr {after : Runtime} (hmirrored : Mirrored world)
    (hlists : ∀ work, lists after.journal work = lists world.journal work)
    (hleases : after.coordinator.leases = world.coordinator.leases)
    (hpending : after.pending_completion = world.pending_completion) : Mirrored after where
  mirrors := by
    intro work
    unfold Runtime.lease_of
    rw [hlists, hleases]
    exact hmirrored.mirrors work
  none_pending := by
    rw [hpending]
    exact hmirrored.none_pending

/-- One entry of the table changed with its listing: the file mirrors the leases as before. -/
theorem Mirrored.update {after : Runtime} (hmirrored : Mirrored world) (work : String)
    (hlists : ∀ key, key ≠ work → lists after.journal key = lists world.journal key)
    (hleases : ∀ key, key ≠ work → after.lease_of key = world.lease_of key)
    (hpending : ∀ key, after.pending_completion.get? key = none) :
    Mirrored after ↔ lists after.journal work = (after.lease_of work).isSome := by
  constructor
  · intro hafter
    exact hafter.mirrors work
  · intro hwork
    refine ⟨?_, hpending⟩
    intro key
    by_cases hkey : key = work
    · rw [hkey, hwork]
    · rw [hlists key hkey, hleases key hkey]
      exact hmirrored.mirrors key

end

end velvet.distributed_work_daemon
