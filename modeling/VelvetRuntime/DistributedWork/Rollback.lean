import VelvetRuntime.DistributedWork.Atomicity
import VelvetRuntime.DistributedWork.Held

open python python.str velvet.distributed_work_coordinator

namespace velvet.distributed_work_service

open VerifiedNodeRegistry

open Program DistributedWorkCoordinator

section

variable [StrLower]

variable {sinks : Sinks} {world : Runtime}

variable {advertisement : NodeAdvertisement}

variable {registry : VerifiedNodeRegistry}

end

end velvet.distributed_work_service
