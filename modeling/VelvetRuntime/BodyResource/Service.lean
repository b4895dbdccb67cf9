import VelvetRuntime.Python.Num
import VelvetRuntime.BodyCapacity.Registry
import VelvetRuntime.DistributedWork.Nodes

open python python.str python.num velvet.body_capacity velvet.distributed_work_coordinator

namespace velvet.body_resource_transport

def MAX_RESOURCES_PER_NODE : Nat := 64

structure ResourceHeartbeatResult where
  decision : ResourceRegistrationDecision
  capacity : BodyCapacitySnapshot
  observed_at : ℚ
  deriving DecidableEq

variable [StrLower]

/-- The resource view of one active body. -/
structure BodyResourceService where
  registry : NodeResourceRegistry
  max_age_seconds : ℚ
  max_future_skew_seconds : ℚ
  max_age_positive : 0 < max_age_seconds
  max_future_skew_positive : 0 < max_future_skew_seconds

def validate_now (now : JsonFloat) : Except Error Unit :=
  if now.lt 0 then .error ⟨.ValueError, "now must be a non-negative number"⟩ else .ok ()

/-- The test `float(now) - float(observed_at) >= max_age_seconds`. -/
def BodyResourceService.stale (self : BodyResourceService) (now : JsonFloat)
    (advertisement : NodeResourceAdvertisement) : Bool :=
  (now.sub advertisement.observed_at).ge self.max_age_seconds

/-- The loop of `prune`: the snapshot forgets entries without a current proof, then every entry
that is too old at the given time is removed under its own node id. -/
def BodyResourceService.prune (self : BodyResourceService) (now : JsonFloat) :
    Except Error (List String) × BodyResourceService :=
  match validate_now now with
  | .error error => (.error error, self)
  | .ok _ =>
    let (advertisements, registry) := self.registry.snapshot
    let removed := advertisements.filter (fun advertisement => self.stale now advertisement)
    (.ok ((removed.map (·.node_id)).insertionSort (· ≤ ·)),
      { self with registry := removed.foldl (fun view gone => view.remove gone.node_id) registry })

/-- Registration through the registry, answered with the capacity that is left afterwards. -/
def BodyResourceService.publish (self : BodyResourceService) (advertisement : NodeResourceAdvertisement) :
    ResourceHeartbeatResult × BodyResourceService :=
  let (decision, registry) := self.registry.register advertisement
  let (capacity, registry) := registry.capacity_snapshot
  (⟨decision, capacity, advertisement.observed_at⟩, { self with registry })

/-- The checks of `register` before it prunes. -/
def BodyResourceService.register_refusal (self : BodyResourceService)
    (advertisement : NodeResourceAdvertisement) (now : JsonFloat) : Option Error :=
  if now.lt 0 then some ⟨.ValueError, "now must be a non-negative number"⟩
  else if MAX_RESOURCES_PER_NODE < advertisement.resources.length then
    some ⟨.ValueError, "resource advertisement exceeds per-node resource bound"⟩
  else if (now.sub advertisement.observed_at).lt (-self.max_future_skew_seconds) then
    some ⟨.ValueError, "resource advertisement timestamp is too far in the future"⟩
  else if (now.sub advertisement.observed_at).ge self.max_age_seconds then
    some ⟨.ValueError, "resource advertisement is already stale"⟩
  else none

def BodyResourceService.register (self : BodyResourceService) (advertisement : NodeResourceAdvertisement)
    (now : JsonFloat) : Except Error ResourceHeartbeatResult × BodyResourceService :=
  match self.register_refusal advertisement now with
  | some error => (.error error, self)
  | none =>
    match self.prune now with
    | (.error error, service) => (.error error, service)
    | (.ok _, service) =>
      let (result, service) := service.publish advertisement
      (.ok result, service)

end velvet.body_resource_transport

namespace velvet.body_aware_distributed_daemon

open velvet.body_resource_transport

variable [StrLower]

/-- What `_BodyBoundResourceService` adds: the functional registry and the local node's id. -/
structure BodyBinding where
  functional_registry : VerifiedNodeRegistry
  local_node_id : String

def BodyBinding.specialist_rejection_reason (self : BodyBinding) (max_age_seconds : ℚ)
    (advertisement : NodeResourceAdvertisement) (now : JsonFloat) : Option String :=
  match self.functional_registry.get advertisement.node_id with
  | none => some "functional-node-not-registered"
  | some node =>
    if node.body_id ≠ advertisement.body_id then some "functional-body-binding-mismatch"
    else if !node.body_verified then some "functional-body-not-verified"
    else if !node.continuity_verified then some "functional-continuity-not-verified"
    else if node.availability = .OFFLINE ∨ node.availability = .QUARANTINED then
      some "functional-node-unavailable"
    else if (now.sub node.last_heartbeat).ge max_age_seconds then some "functional-heartbeat-stale"
    else none

/-- The reason for which the body-bound service turns an advertisement away, if any. -/
def BodyBinding.rejection (self : BodyBinding) (max_age_seconds : ℚ)
    (advertisement : NodeResourceAdvertisement) (now : JsonFloat) : Option String :=
  if advertisement.node_id ≠ self.local_node_id then
    self.specialist_rejection_reason max_age_seconds advertisement now
  else none

/-- `_BodyBoundResourceService.register`: a specialist without a live functional node is turned
away, but the view is pruned at the time the message carries all the same. -/
def BodyBinding.register (self : BodyBinding) (service : BodyResourceService)
    (advertisement : NodeResourceAdvertisement) (now : JsonFloat) :
    Except Error ResourceHeartbeatResult × BodyResourceService :=
  match self.rejection service.max_age_seconds advertisement now with
  | none => service.register advertisement now
  | some reason =>
    match service.prune now with
    | (.error error, service) => (.error error, service)
    | (.ok _, service) =>
      let (capacity, registry) := service.registry.capacity_snapshot
      (.ok ⟨⟨false, "rejected", advertisement.node_id, [reason]⟩, capacity, advertisement.observed_at⟩,
        { service with registry })

end velvet.body_aware_distributed_daemon

namespace velvet.body_resource_byte_rpc

open velvet.body_resource_transport velvet.body_aware_distributed_daemon

variable [StrLower]

/-- The service behind the endpoint: `BodyResourceService` itself, or the body-bound subclass when
a binding is present. -/
structure BodyResourceByteEndpoint where
  service : BodyResourceService
  binding : Option BodyBinding

/-- A decoded `register_resources` message. -/
structure ResourceHeartbeat where
  advertisement : NodeResourceAdvertisement
  now : JsonFloat

def BodyResourceByteEndpoint.register (self : BodyResourceByteEndpoint) (message : ResourceHeartbeat) :
    Except Error ResourceHeartbeatResult × BodyResourceService :=
  match self.binding with
  | none => self.service.register message.advertisement message.now
  | some binding => binding.register self.service message.advertisement message.now

/-- The `register_resources` branch of `_dispatch`. -/
def BodyResourceByteEndpoint.dispatch (self : BodyResourceByteEndpoint) (source_peer_id : String)
    (message : ResourceHeartbeat) : Except Error ResourceHeartbeatResult × BodyResourceByteEndpoint :=
  if message.advertisement.node_id ≠ source_peer_id then
    (.error ⟨.PermissionError, "authenticated peer cannot publish resources for node_id " ++
      message.advertisement.node_id⟩, self)
  else
    let (result, service) := self.register message
    (result, { self with service })

end velvet.body_resource_byte_rpc
