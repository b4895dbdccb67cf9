import Mathlib.Algebra.Order.Ring.Rat
import VelvetRuntime.Text

open python.str

namespace velvet.body_capacity

inductive ResourceKind where
  | MEMORY
  | STORAGE
  | COMPUTE
  | ACCELERATOR
  deriving DecidableEq, Repr

def ResourceKind.value : ResourceKind → String
  | .MEMORY => "memory"
  | .STORAGE => "storage"
  | .COMPUTE => "compute"
  | .ACCELERATOR => "accelerator"

inductive ResourceScope where
  | LOCAL
  | ATTACHED
  | BODY_SHARED
  deriving DecidableEq, Repr

/-- One advertised resource. The proofs are the checks of `__post_init__`; quantities are exact
rationals in place of finite floats. -/
@[ext] structure ResourceAdvertisement where
  resource_id : String
  kind : ResourceKind
  scope : ResourceScope
  capacity : ℚ
  available : ℚ
  unit : String
  capabilities : List String
  online : Bool
  resource_id_text : ¬ Blank resource_id
  capacity_positive : 0 < capacity
  available_nonneg : 0 ≤ available
  available_le : available ≤ capacity
  unit_text : ¬ Blank unit
  capabilities_text : ∀ capability ∈ capabilities, ¬ Blank capability

instance : DecidableEq ResourceAdvertisement := fun _ _ => decidable_of_iff _ ResourceAdvertisement.ext_iff.symm

/-- The resources one node reports, with resource ids unique per node. -/
@[ext] structure NodeResourceAdvertisement where
  node_id : String
  body_id : String
  observed_at : ℚ
  resources : List ResourceAdvertisement
  body_verified : Bool
  continuity_verified : Bool
  boot_id : String
  node_id_text : ¬ Blank node_id
  body_id_text : ¬ Blank body_id
  observed_at_nonneg : 0 ≤ observed_at
  resource_ids_unique : (resources.map ResourceAdvertisement.resource_id).Nodup

instance : DecidableEq NodeResourceAdvertisement := fun _ _ => decidable_of_iff _ NodeResourceAdvertisement.ext_iff.symm

/-- One resource requirement of a work proposal. -/
@[ext] structure ResourceRequirement where
  kind : ResourceKind
  minimum_available : ℚ
  unit : String
  accepted_scopes : List ResourceScope
  required_capabilities : List String
  minimum_nonneg : 0 ≤ minimum_available
  unit_text : ¬ Blank unit
  scopes_nonempty : accepted_scopes ≠ []
  required_capabilities_text : ∀ capability ∈ required_capabilities, ¬ Blank capability

instance : DecidableEq ResourceRequirement := fun _ _ => decidable_of_iff _ ResourceRequirement.ext_iff.symm

/-- The eligibility tests shared by placement and reservation, before any quantity is compared. -/
def ResourceAdvertisement.offers (resource : ResourceAdvertisement)
    (requirement : ResourceRequirement) : Bool :=
  resource.online && resource.kind = requirement.kind &&
    requirement.accepted_scopes.contains resource.scope &&
    stripped resource.unit = stripped requirement.unit &&
    requirement.required_capabilities.all (fun capability => resource.capabilities.contains capability)

end velvet.body_capacity
