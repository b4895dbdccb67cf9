import Mathlib.Data.String.Basic
import VelvetRuntime.Python.Dict
import VelvetRuntime.Python.Num
import VelvetRuntime.Error
import VelvetRuntime.BodyCapacity.Types

open python python.str velvet.body_capacity

namespace velvet.resource_reservations

@[ext] structure ResourceReservationItem where
  resource_id : String
  kind : ResourceKind
  scope : ResourceScope
  amount : ℚ
  unit : String
  required_capabilities : List String
  amount_nonneg : 0 ≤ amount

@[ext] structure ResourceReservation where
  work_id : String
  lease_id : String
  node_id : String
  expires_at : ℚ
  items : List ResourceReservationItem
  expires_at_positive : 0 < expires_at

/-- The ledger's only state: at most one reservation per normalised work id. -/
structure ResourceReservationLedger where
  by_work : Dict String ResourceReservation

variable [StrLower]

def ResourceReservationLedger.new : ResourceReservationLedger := ⟨.empty⟩

/-- What one reservation holds of the items filed under exactly this resource id. -/
def ResourceReservation.amount_of (reservation : ResourceReservation) (resource_id : String) : ℚ :=
  ((reservation.items.filter (fun item => item.resource_id = resource_id)).map (·.amount)).sum

/-- The lookup collapses the white space of the id it is asked for; the items keep the id as it
was advertised. -/
def ResourceReservationLedger.reserved_amount (self : ResourceReservationLedger)
    (node_id resource_id : String) (exclude_work_id : Option String) : ℚ :=
  let node := normalized node_id
  let resource := collapse_text resource_id
  let excluded := exclude_work_id.map normalized
  ((self.by_work.items.filter (fun entry => excluded ≠ some entry.1 && entry.2.node_id = node)).map
    (fun entry => entry.2.amount_of resource)).sum

def ResourceReservationLedger.choose_resource_locked (self : ResourceReservationLedger)
    (node_id : String) (resources : List ResourceAdvertisement) (requirement : ResourceRequirement)
    (staged : Dict String ℚ) : Option ResourceAdvertisement :=
  resources.find? (fun resource =>
    resource.offers requirement &&
      let committed := self.reserved_amount node_id resource.resource_id none +
        (staged.get? resource.resource_id).getD 0
      requirement.minimum_available ≤ max 0 (resource.available - committed))

def unavailable_error (node : String) (requirement : ResourceRequirement) : Error :=
  ⟨.ResourceReservationUnavailable, "node " ++ node ++ " cannot reserve " ++ requirement.kind.value ++
    " " ++ num.fixed 3 requirement.minimum_available ++ " " ++ requirement.unit⟩

def reservation_item (chosen : ResourceAdvertisement) (requirement : ResourceRequirement) :
    ResourceReservationItem where
  resource_id := chosen.resource_id
  kind := chosen.kind
  scope := chosen.scope
  amount := requirement.minimum_available
  unit := chosen.unit
  required_capabilities := requirement.required_capabilities
  amount_nonneg := requirement.minimum_nonneg

/-- The loop of `reserve` over the requirements. Nothing is stored until it has ended. -/
def ResourceReservationLedger.stage_items (self : ResourceReservationLedger) (node : String)
    (resources : List ResourceAdvertisement) :
    List ResourceRequirement → Dict String ℚ → Except Error (List ResourceReservationItem)
  | [], _ => .ok []
  | requirement :: rest, staged =>
    match self.choose_resource_locked node resources requirement staged with
    | none => .error (unavailable_error node requirement)
    | some chosen =>
      let amount := (staged.get? chosen.resource_id).getD 0 + requirement.minimum_available
      match self.stage_items node resources rest (staged.set chosen.resource_id amount) with
      | .error error => .error error
      | .ok items => .ok (reservation_item chosen requirement :: items)

/-- The arguments of one `reserve` call. -/
structure ReserveRequest where
  work_id : String
  lease_id : String
  node_id : String
  expires_at : ℚ
  advertisement : NodeResourceAdvertisement
  requirements : List ResourceRequirement

def ReserveRequest.resources (request : ReserveRequest) : List ResourceAdvertisement :=
  request.advertisement.resources.insertionSort (fun left right => left.resource_id ≤ right.resource_id)

def ResourceReservationLedger.reserve (self : ResourceReservationLedger) (request : ReserveRequest) :
    Except Error ResourceReservation × ResourceReservationLedger :=
  let work := normalized request.work_id
  let lease := collapse_text request.lease_id
  let node := normalized request.node_id
  if work = "" ∨ lease = "" ∨ node = "" then
    (.error ⟨.ValueError, "work_id, lease_id, and node_id are required"⟩, self)
  else if normalized request.advertisement.node_id ≠ node then
    (.error ⟨.ValueError, "resource advertisement does not belong to lease node"⟩, self)
  else if request.requirements = [] then
    (.error ⟨.ValueError, "at least one resource requirement is required"⟩, self)
  else
    match self.by_work.get? work with
    | some current =>
      if current.lease_id = lease ∧ current.node_id = node then (.ok current, self)
      else (.error ⟨.ValueError, "work already owns a different resource reservation"⟩, self)
    | none =>
      match self.stage_items node request.resources request.requirements .empty with
      | .error error => (.error error, self)
      | .ok items =>
        if hexpires : 0 < request.expires_at then
          let reservation : ResourceReservation :=
            { work_id := work, lease_id := lease, node_id := node, expires_at := request.expires_at,
              items, expires_at_positive := hexpires }
          (.ok reservation, ⟨self.by_work.set work reservation⟩)
        else (.error ⟨.ValueError, "expires_at must be finite and positive"⟩, self)

def ResourceReservationLedger.release (self : ResourceReservationLedger) (work_id : String) :
    Option ResourceReservation × ResourceReservationLedger :=
  let work := normalized work_id
  (self.by_work.get? work, ⟨self.by_work.pop work⟩)

def ResourceReservationLedger.prune (self : ResourceReservationLedger) (now : ℚ) :
    Except Error (List String) × ResourceReservationLedger :=
  if now < 0 then (.error ⟨.ValueError, "now must be a non-negative number"⟩, self)
  else
    let expired := self.by_work.filter (fun _ reservation => reservation.expires_at ≤ now)
    (.ok (expired.sorted_items.map Prod.fst),
      ⟨self.by_work.filter (fun _ reservation => !decide (reservation.expires_at ≤ now))⟩)

/-- One operation on the ledger. -/
inductive Operation where
  | reserve (request : ReserveRequest)
  | release (work_id : String)
  | prune (now : ℚ)

def ResourceReservationLedger.apply (self : ResourceReservationLedger) :
    Operation → ResourceReservationLedger
  | .reserve request => (self.reserve request).2
  | .release work_id => (self.release work_id).2
  | .prune now => (self.prune now).2

/-- The ledger after a sequence of operations on a new one. -/
def run (operations : List Operation) : ResourceReservationLedger :=
  operations.foldl ResourceReservationLedger.apply .new

end velvet.resource_reservations
