import Mathlib.Algebra.Order.Ring.Rat
import Mathlib.Data.String.Basic
import VelvetRuntime.Python.Dict
import VelvetRuntime.Error
import VelvetRuntime.Text

open python python.str

namespace velvet.distributed_work_coordinator

inductive NodeTier where
  | MICROCONTROLLER
  | SPECIALIST_LINUX
  | HEAVY_LINUX
  | QUEEN
  deriving DecidableEq, Repr

def NodeTier.value : NodeTier → String
  | .MICROCONTROLLER => "microcontroller"
  | .SPECIALIST_LINUX => "specialist_linux"
  | .HEAVY_LINUX => "heavy_linux"
  | .QUEEN => "queen"

inductive NodeAvailability where
  | AVAILABLE
  | BUSY
  | SATURATED
  | DEGRADED
  | DRAINING
  | OFFLINE
  | QUARANTINED
  deriving DecidableEq, Repr

def NodeAvailability.value : NodeAvailability → String
  | .AVAILABLE => "available"
  | .BUSY => "busy"
  | .SATURATED => "saturated"
  | .DEGRADED => "degraded"
  | .DRAINING => "draining"
  | .OFFLINE => "offline"
  | .QUARANTINED => "quarantined"

/-- A node's advertisement. The proofs are the checks of `__post_init__`. -/
@[ext] structure NodeAdvertisement where
  node_id : String
  body_id : String
  organ : String
  tier : NodeTier
  capabilities : List String
  current_load : ℚ
  health : ℚ
  availability : NodeAvailability
  last_heartbeat : ℚ
  accepted_work_classes : List String
  refused_work_classes : List String
  max_concurrent_tasks : Nat
  current_tasks : Nat
  overflow_capable : Bool
  overflow_capabilities : List String
  temporary_absorption_capabilities : List String
  body_verified : Bool
  continuity_verified : Bool
  node_id_text : ¬ Blank node_id
  body_id_text : ¬ Blank body_id
  organ_text : ¬ Blank organ
  current_load_bounds : 0 ≤ current_load ∧ current_load ≤ 1
  health_bounds : 0 ≤ health ∧ health ≤ 1
  last_heartbeat_nonneg : 0 ≤ last_heartbeat
  max_concurrent_tasks_positive : 1 ≤ max_concurrent_tasks
  current_tasks_le : current_tasks ≤ max_concurrent_tasks
  values_text : ∀ value ∈ capabilities ++ accepted_work_classes ++ refused_work_classes ++
    overflow_capabilities ++ temporary_absorption_capabilities, ¬ Blank value

instance : DecidableEq NodeAdvertisement := fun _ _ => decidable_of_iff _ NodeAdvertisement.ext_iff.symm

structure NodeRegistrationDecision where
  accepted : Bool
  state : String
  node_id : String
  reasons : List String
  deriving DecidableEq, Repr

variable [StrLower]

/-- What `register` checks before it stores an advertisement under its normalised node id. -/
structure VerifiedMember (body_id key : String) (node : NodeAdvertisement) : Prop where
  keyed : normalized node.node_id = key
  body_bound : normalized node.body_id = body_id
  body_verified : node.body_verified = true
  continuity_verified : node.continuity_verified = true

/-- Only nodes verified as members of one active body, each under its normalised id. -/
structure VerifiedNodeRegistry where
  body_id : String
  nodes : Dict String NodeAdvertisement
  members : ∀ entry ∈ nodes.items, VerifiedMember body_id entry.1 entry.2

/-- An empty registry for the body; the constructor refuses a blank body id. -/
def VerifiedNodeRegistry.new (body_id : String) : VerifiedNodeRegistry :=
  ⟨normalized body_id, .empty, by simp [Dict.empty]⟩

def VerifiedNodeRegistry.rejection_reasons (self : VerifiedNodeRegistry)
    (advertisement : NodeAdvertisement) : List String :=
  (if normalized advertisement.body_id ≠ self.body_id then ["body-binding-mismatch"] else []) ++
  (if !advertisement.body_verified then ["body-not-verified"] else []) ++
  (if !advertisement.continuity_verified then ["continuity-not-verified"] else [])

theorem VerifiedNodeRegistry.member_of_no_reasons {self : VerifiedNodeRegistry}
    {advertisement : NodeAdvertisement} (haccepted : self.rejection_reasons advertisement = []) :
    VerifiedMember self.body_id (normalized advertisement.node_id) advertisement := by
  simp only [rejection_reasons, List.append_eq_nil_iff] at haccepted
  obtain ⟨⟨hbody, hverified⟩, hcontinuity⟩ := haccepted
  refine ⟨rfl, ?_, ?_, ?_⟩
  · by_contra hne
    simp [hne] at hbody
  · cases hflag : advertisement.body_verified <;> simp [hflag] at hverified ⊢
  · cases hflag : advertisement.continuity_verified <;> simp [hflag] at hcontinuity ⊢

def VerifiedNodeRegistry.register (self : VerifiedNodeRegistry) (advertisement : NodeAdvertisement) :
    NodeRegistrationDecision × VerifiedNodeRegistry :=
  let node_id := normalized advertisement.node_id
  if haccepted : self.rejection_reasons advertisement = [] then
    (⟨true, "registered", node_id, ["verified-body-organ"]⟩,
      { self with
        nodes := self.nodes.set node_id advertisement
        members := by
          intro entry hentry
          rcases (Dict.mem_items_set_iff _ _ _ _).mp hentry with rfl | ⟨_, hold⟩
          · exact member_of_no_reasons haccepted
          · exact self.members entry hold })
  else (⟨false, "rejected", node_id, self.rejection_reasons advertisement⟩, self)

def VerifiedNodeRegistry.get (self : VerifiedNodeRegistry) (node_id : String) : Option NodeAdvertisement :=
  self.nodes.get? (normalized node_id)

def VerifiedNodeRegistry.remove (self : VerifiedNodeRegistry) (node_id : String) : VerifiedNodeRegistry :=
  { self with
    nodes := self.nodes.pop (normalized node_id)
    members := fun entry hentry => self.members entry (List.mem_of_mem_filter hentry) }

def VerifiedNodeRegistry.set_availability (self : VerifiedNodeRegistry) (node_id : String)
    (availability : NodeAvailability) : VerifiedNodeRegistry :=
  let key := normalized node_id
  match hcurrent : self.nodes.get? key with
  | none => self
  | some current =>
    { self with
      nodes := self.nodes.set key { current with availability }
      members := by
        intro entry hentry
        rcases (Dict.mem_items_set_iff _ _ _ _).mp hentry with rfl | ⟨_, hold⟩
        · have hmember := self.members _ ((Dict.get?_eq_some_iff _ _ _).mp hcurrent)
          exact ⟨hmember.keyed, hmember.body_bound, hmember.body_verified, hmember.continuity_verified⟩
        · exact self.members entry hold }

def VerifiedNodeRegistry.expired_node_ids (self : VerifiedNodeRegistry) (now max_age_seconds : ℚ) :
    Except Error (List String) :=
  if max_age_seconds ≤ 0 then .error ⟨.ValueError, "max_age_seconds must be positive"⟩
  else .ok ((self.nodes.sorted_items.filter
    (fun entry => max_age_seconds ≤ now - entry.2.last_heartbeat)).map Prod.fst)

def VerifiedNodeRegistry.snapshot (self : VerifiedNodeRegistry) : List NodeAdvertisement :=
  self.nodes.sorted_items.map Prod.snd

end velvet.distributed_work_coordinator
