import VelvetRuntime.DistributedWork.Completion
import VelvetRuntime.RuntimeDaemon.Mirror

open python python.str velvet.distributed_work_coordinator velvet.distributed_work_service

namespace velvet.distributed_work_daemon

open Program DistributedWorkCoordinator RuntimeLifecycleJournal

section

variable [StrLower] {sinks : Sinks} {world : Runtime}

variable {prior : Dict String WorkLease} {decision : WorkPlacementDecision}

section

variable (hreceipts : ∀ number, sinks.receipts number = true) (hmirrored : Mirrored world)
variable (htied : Tied world.toDistributedWorkService)

include hreceipts hmirrored htied

end

theorem Mirrored.new (registry : VerifiedNodeRegistry) : Mirrored (start registry) :=
  ⟨fun _ => rfl, fun _ => rfl⟩

variable (boot_id : String) (interrupted : List String) (events : List LifecycleEvidence)

theorem run_concat (operations : List Operation) (operation : Operation) (world : Runtime) :
    run sinks world (operations ++ [operation]) = (perform sinks operation).after (run sinks world operations) := by
  rw [run_append]
  rfl

end

end velvet.distributed_work_daemon
