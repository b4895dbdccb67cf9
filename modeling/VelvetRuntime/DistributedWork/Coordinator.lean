import Mathlib.Data.Prod.Lex
import Mathlib.Data.List.Dedup
import VelvetRuntime.Python.Num
import VelvetRuntime.DistributedWork.Nodes

open python python.str python.num

namespace velvet.distributed_work_coordinator

inductive PlacementMode where
  | PRIMARY
  | OVERFLOW
  | TEMPORARY_ABSORPTION
  | QUEEN_FALLBACK
  | PARTIAL
  | OBSERVE_ONLY
  deriving DecidableEq, Repr

def PlacementMode.value : PlacementMode → String
  | .PRIMARY => "primary"
  | .OVERFLOW => "overflow"
  | .TEMPORARY_ABSORPTION => "temporary_absorption"
  | .QUEEN_FALLBACK => "queen_fallback"
  | .PARTIAL => "partial"
  | .OBSERVE_ONLY => "observe_only"

inductive DegradationMode where
  | NONE
  | FULL_REPLACEMENT
  | PARTIAL_REPLACEMENT
  | OBSERVE_ONLY
  | CAPABILITY_UNAVAILABLE
  deriving DecidableEq, Repr

def DegradationMode.value : DegradationMode → String
  | .NONE => "none"
  | .FULL_REPLACEMENT => "full_replacement"
  | .PARTIAL_REPLACEMENT => "partial_replacement"
  | .OBSERVE_ONLY => "observe_only"
  | .CAPABILITY_UNAVAILABLE => "capability_unavailable"

/-- `tuple(sorted(set(values)))`. -/
def sorted_set (values : List String) : List String :=
  values.dedup.insertionSort (· ≤ ·)

theorem mem_sorted_set {values : List String} {value : String} : value ∈ sorted_set values ↔ value ∈ values := by
  unfold sorted_set
  rw [(List.perm_insertionSort _ _).mem_iff, List.mem_dedup]

theorem sorted_set_eq_nil_iff {values : List String} : sorted_set values = [] ↔ values = [] := by
  rw [List.eq_nil_iff_forall_not_mem, List.eq_nil_iff_forall_not_mem]
  simp only [mem_sorted_set]

def NodeAdvertisement.advertised_capacity (node : NodeAdvertisement) : ℚ :=
  if node.max_concurrent_tasks ≤ node.current_tasks then 0
  else round 4 (max 0 (1 - node.current_load))

/-- What one piece of work asks of a node. The proofs are the checks of `__post_init__`. -/
@[ext] structure WorkRequirement where
  work_id : String
  work_class : String
  required_capabilities : List String
  preferred_capabilities : List String
  min_health : ℚ
  max_load : ℚ
  allow_overflow : Bool
  allow_temporary_absorption : Bool
  allow_partial : Bool
  partial_result_useful : Bool
  allow_queen_fallback : Bool
  observe_only_capability : Option String
  whole_system_coordination : Bool
  consequential : Bool
  work_id_text : ¬ Blank work_id
  work_class_text : ¬ Blank work_class
  required_nonempty : required_capabilities ≠ []
  capabilities_text : ∀ value ∈ required_capabilities ++ preferred_capabilities, ¬ Blank value
  observe_only_text : ∀ value ∈ observe_only_capability, ¬ Blank value
  min_health_bounds : 0 ≤ min_health ∧ min_health ≤ 1
  max_load_bounds : 0 ≤ max_load ∧ max_load ≤ 1

structure WorkCandidate where
  node_id : String
  organ : String
  mode : PlacementMode
  score : ℚ
  matched_capabilities : List String
  missing_capabilities : List String
  reasons : List String
  deriving DecidableEq

/-- A workload lease. The proofs are the checks of `__post_init__`. -/
structure WorkLease where
  lease_id : String
  work_id : String
  node_id : String
  organ : String
  mode : PlacementMode
  matched_capabilities : List String
  missing_capabilities : List String
  issued_at : ℚ
  expires_at : ℚ
  degradation : DegradationMode
  escalate_results_to_queen : Bool
  court_authorization_required : Bool
  court_authorized : Bool
  execution_authorized : Bool
  authority : String
  expiry_follows_issue : issued_at < expires_at
  not_authorized : court_authorized = false ∧ execution_authorized = false
  no_authority : authority = "none"
  deriving DecidableEq

@[ext] structure WorkPlacementDecision where
  placed : Bool
  state : String
  lease : Option WorkLease
  alternatives : List String
  degradation : DegradationMode
  reasons : List String
  agree : placed = lease.isSome
  reasons_nonempty : reasons ≠ []

instance : DecidableEq WorkPlacementDecision := fun _ _ => decidable_of_iff _ WorkPlacementDecision.ext_iff.symm

/-- `replace(decision, reasons=(reason,) + decision.reasons)`. -/
def WorkPlacementDecision.with_reason (decision : WorkPlacementDecision) (reason : String) :
    WorkPlacementDecision :=
  { decision with
    reasons := reason :: decision.reasons
    reasons_nonempty := by simp }

@[simp] theorem WorkPlacementDecision.with_reason_lease (decision : WorkPlacementDecision) (reason : String) :
    (decision.with_reason reason).lease = decision.lease := rfl

def exclusion_reason (requirement : WorkRequirement) (node : NodeAdvertisement) (active_leases : Nat) :
    Option String :=
  if !node.body_verified then some "body-not-verified"
  else if !node.continuity_verified then some "continuity-not-verified"
  else if node.availability ∈ [.SATURATED, .DRAINING, .OFFLINE, .QUARANTINED] then
    some ("availability:" ++ node.availability.value)
  else if node.health < requirement.min_health then some "health-below-work-minimum"
  else if requirement.max_load < node.current_load then some "load-above-work-maximum"
  else if node.max_concurrent_tasks ≤ node.current_tasks + active_leases then some "task-limit-exceeded"
  else if requirement.work_class ∈ node.refused_work_classes then some "work-class-refused"
  else if node.accepted_work_classes ≠ [] ∧ requirement.work_class ∉ node.accepted_work_classes then
    some "work-class-not-accepted"
  else if node.tier = .QUEEN ∧ !requirement.allow_queen_fallback then some "queen-fallback-disabled"
  else if requirement.whole_system_coordination ∧ node.tier ≠ .QUEEN then
    some "whole-system-coordination-requires-queen"
  else none

/-- The placement mode a node could serve the work in, with the capabilities it matches and
misses. -/
def placement_mode (requirement : WorkRequirement) (node : NodeAdvertisement) :
    Option (PlacementMode × List String × List String) :=
  let required := requirement.required_capabilities
  let normal := node.capabilities
  let overflow_allowed := requirement.allow_overflow && node.overflow_capable
  let temporary_allowed := requirement.allow_temporary_absorption
  let overflow_pool := if overflow_allowed then normal ++ node.overflow_capabilities else normal
  let temporary_pool :=
    if temporary_allowed then normal ++ node.temporary_absorption_capabilities else normal
  let fallback_pool := overflow_pool ++ temporary_pool
  if required ⊆ normal then
    some (if node.tier = .QUEEN ∧ !requirement.whole_system_coordination then .QUEEN_FALLBACK else .PRIMARY,
      sorted_set required, [])
  else if overflow_allowed ∧ required ⊆ overflow_pool then
    some (.OVERFLOW, sorted_set required, [])
  else if temporary_allowed ∧ required ⊆ temporary_pool then
    some (.TEMPORARY_ABSORPTION, sorted_set required, [])
  else
    let matched_set := required.filter (· ∈ fallback_pool)
    let missing_set := required.filter (· ∉ fallback_pool)
    if requirement.allow_partial ∧ requirement.partial_result_useful ∧ matched_set ≠ [] then
      some (.PARTIAL, sorted_set matched_set, sorted_set missing_set)
    else
      match requirement.observe_only_capability with
      | none => none
      | some capability =>
        if capability ∈ fallback_pool then some (.OBSERVE_ONLY, [capability], sorted_set required)
        else none

def penalty : PlacementMode → ℚ
  | .PRIMARY => 0
  | .OVERFLOW => 3 / 100
  | .TEMPORARY_ABSORPTION => 7 / 100
  | .QUEEN_FALLBACK => 15 / 100
  | .PARTIAL => 18 / 100
  | .OBSERVE_ONLY => 22 / 100

/-- The share of its task limit and of its advertised capacity a node has left. -/
def remaining_capacity (node : NodeAdvertisement) (active_leases : Nat) : ℚ :=
  let remaining := node.max_concurrent_tasks - node.current_tasks - active_leases
  min node.advertised_capacity (remaining / node.max_concurrent_tasks)

def candidate_score (requirement : WorkRequirement) (node : NodeAdvertisement) (active_leases : Nat)
    (mode : PlacementMode) : ℚ :=
  let preferred := requirement.preferred_capabilities.dedup
  let preferred_ratio : ℚ :=
    if preferred = [] then 1
    else (preferred.filter (· ∈ node.capabilities)).length / preferred.length
  let score := node.health * (35 / 100) + remaining_capacity node active_leases * (35 / 100) +
    preferred_ratio * (15 / 100) + (if node.availability = .AVAILABLE then 10 / 100 else 5 / 100) + 5 / 100 -
    penalty mode
  round 4 (max 0 (min score 1))

variable [StrLower]

def candidate_for (requirement : WorkRequirement) (node : NodeAdvertisement) (active_leases : Nat) :
    Option WorkCandidate :=
  (placement_mode requirement node).map (fun (mode, matched, missing) =>
    { node_id := normalized node.node_id
      organ := node.organ
      mode
      score := candidate_score requirement node active_leases mode
      matched_capabilities := matched
      missing_capabilities := missing
      reasons :=
        ["health:" ++ fixed 2 node.health, "capacity:" ++ fixed 2 (remaining_capacity node active_leases)] ++
        if mode = .PRIMARY then [] else ["mode:" ++ mode.value] })

def degradation : PlacementMode → DegradationMode
  | .PRIMARY => .NONE
  | .OVERFLOW | .TEMPORARY_ABSORPTION | .QUEEN_FALLBACK => .FULL_REPLACEMENT
  | .PARTIAL => .PARTIAL_REPLACEMENT
  | .OBSERVE_ONLY => .OBSERVE_ONLY

/-- A lease in the table: filed under its normalised work id, with its requirement on record. -/
structure LeaseOnRecord (requirements : Dict String WorkRequirement) (key : String) (lease : WorkLease) :
    Prop where
  work_id_eq : lease.work_id = key
  normal : normalized key = key
  node_normal : normalized lease.node_id = lease.node_id
  required : ∃ requirement, requirements.get? key = some requirement

/-- The leases, requirements and refusals of one coordinator over a node registry. -/
structure DistributedWorkCoordinator where
  registry : VerifiedNodeRegistry
  leases : Dict String WorkLease
  requirements : Dict String WorkRequirement
  refusals : Dict String (List String)
  requirements_keyed : ∀ entry ∈ requirements.items, normalized entry.2.work_id = entry.1
  leases_on_record : ∀ entry ∈ leases.items, LeaseOnRecord requirements entry.1 entry.2

namespace DistributedWorkCoordinator

def new (registry : VerifiedNodeRegistry) : DistributedWorkCoordinator where
  registry
  leases := .empty
  requirements := .empty
  refusals := .empty
  requirements_keyed := by simp [Dict.empty]
  leases_on_record := by simp [Dict.empty]

/-- The leases a comprehension over the table keeps. -/
def keep_leases (self : DistributedWorkCoordinator) (keep : String → WorkLease → Bool) :
    DistributedWorkCoordinator :=
  { self with
    leases := self.leases.filter keep
    leases_on_record := fun entry hentry => self.leases_on_record entry (List.mem_of_mem_filter hentry) }

def expire_leases_locked (self : DistributedWorkCoordinator) (now : ℚ) : DistributedWorkCoordinator :=
  self.keep_leases (fun _ lease => !decide (lease.expires_at ≤ now))

def pop_lease (self : DistributedWorkCoordinator) (work : String) : DistributedWorkCoordinator :=
  self.keep_leases (fun key _ => key ≠ work)

def set_requirement (self : DistributedWorkCoordinator) (requirement : WorkRequirement) :
    DistributedWorkCoordinator :=
  { self with
    requirements := self.requirements.set (normalized requirement.work_id) requirement
    requirements_keyed := by
      intro entry hentry
      rcases (Dict.mem_items_set_iff _ _ _ _).mp hentry with rfl | ⟨_, hold⟩
      · rfl
      · exact self.requirements_keyed entry hold
    leases_on_record := by
      intro entry hentry
      obtain ⟨hwork, hnormal, hnode, requirement', hget⟩ := self.leases_on_record entry hentry
      refine ⟨hwork, hnormal, hnode, ?_⟩
      rw [Dict.get?_set]
      split
      · exact ⟨_, rfl⟩
      · exact ⟨_, hget⟩ }

/-- `self._refusals.setdefault(work, set()).add(node)`. -/
def add_refusal (self : DistributedWorkCoordinator) (work node : String) : DistributedWorkCoordinator :=
  { self with refusals := self.refusals.set work (((self.refusals.get? work).getD []).insert node) }

def refused_by (self : DistributedWorkCoordinator) (work : String) : List String :=
  (self.refusals.get? work).getD []

/-- The entry of `active_counts` for a node. -/
def active_count (self : DistributedWorkCoordinator) (node_id : String) : Nat :=
  (self.leases.values.filter (fun lease => lease.node_id = node_id)).length

/-- What the placement loop makes of one registered node. -/
def consider (self : DistributedWorkCoordinator) (requirement : WorkRequirement) (excluded : List String)
    (node : NodeAdvertisement) : Except String (Option WorkCandidate) :=
  let node_id := normalized node.node_id
  if node_id ∈ excluded then .error (node_id ++ ":excluded-or-refused")
  else
    match exclusion_reason requirement node (self.active_count node_id) with
    | some exclusion => .error (node_id ++ ":" ++ exclusion)
    | none => .ok (candidate_for requirement node (self.active_count node_id))

/-- The candidates among the registered nodes, in the order of their keys. -/
def candidates (self : DistributedWorkCoordinator) (requirement : WorkRequirement) (excluded : List String) :
    List WorkCandidate :=
  self.registry.snapshot.filterMap (fun node =>
    match self.consider requirement excluded node with
    | .error _ => none
    | .ok candidate => candidate)

def exclusions (self : DistributedWorkCoordinator) (requirement : WorkRequirement) (excluded : List String) :
    List String :=
  self.registry.snapshot.filterMap (fun node =>
    match self.consider requirement excluded node with
    | .error exclusion => some exclusion
    | .ok _ => none)

/-- `full or partial or observe_only`. -/
def preferred_group (candidates : List WorkCandidate) : List WorkCandidate :=
  let full := candidates.filter (fun candidate => candidate.mode ≠ .PARTIAL ∧ candidate.mode ≠ .OBSERVE_ONLY)
  let partly := candidates.filter (fun candidate => candidate.mode = .PARTIAL)
  if full ≠ [] then full
  else if partly ≠ [] then partly
  else candidates.filter (fun candidate => candidate.mode = .OBSERVE_ONLY)

/-- The candidates by falling score, then by node id. -/
def ranked (candidates : List WorkCandidate) : List WorkCandidate :=
  (preferred_group candidates).insertionSort (fun left right =>
    toLex (-left.score, left.node_id) ≤ toLex (-right.score, right.node_id))

/-- The lease for a chosen candidate; a lease that would not outlive its issue is refused. -/
def new_lease (requirement : WorkRequirement) (chosen : WorkCandidate) (now lease_seconds : ℚ) :
    Except Error WorkLease :=
  if hexpiry : now < now + lease_seconds then
    .ok {
      lease_id := normalized requirement.work_id ++ ":" ++ chosen.node_id
      work_id := normalized requirement.work_id
      node_id := chosen.node_id
      organ := chosen.organ
      mode := chosen.mode
      matched_capabilities := chosen.matched_capabilities
      missing_capabilities := chosen.missing_capabilities
      issued_at := now
      expires_at := now + lease_seconds
      degradation := degradation chosen.mode
      escalate_results_to_queen := true
      court_authorization_required := requirement.consequential
      court_authorized := false
      execution_authorized := false
      authority := "none"
      expiry_follows_issue := hexpiry
      not_authorized := ⟨rfl, rfl⟩
      no_authority := rfl }
  else .error ⟨.ValueError, "workload lease expiry must follow issue time"⟩

def placed_decision (lease : WorkLease) (chosen : WorkCandidate) (alternatives : List WorkCandidate)
    (exclusions : List String) : WorkPlacementDecision where
  placed := true
  state := if lease.degradation = .NONE then "leased" else "leased_degraded"
  lease := some lease
  alternatives := alternatives.map (·.node_id)
  degradation := lease.degradation
  reasons := "Runtime selected and leased a compatible organ" :: chosen.reasons ++ exclusions
  agree := rfl
  reasons_nonempty := by simp

def unplaced_decision (exclusions : List String) : WorkPlacementDecision where
  placed := false
  state := "capability_unavailable"
  lease := none
  alternatives := []
  degradation := .CAPABILITY_UNAVAILABLE
  reasons := "no verified healthy organ can satisfy the work" :: exclusions
  agree := rfl
  reasons_nonempty := by simp

variable {requirement : WorkRequirement} {lease : WorkLease} {chosen : WorkCandidate} {now lease_seconds : ℚ}

theorem new_lease_ok
    (hlease : new_lease requirement chosen now lease_seconds = .ok lease) :
    lease.work_id = normalized requirement.work_id ∧ lease.node_id = chosen.node_id ∧
      lease.issued_at = now ∧ lease.expires_at = now + lease_seconds := by
  unfold new_lease at hlease
  split at hlease
  · cases hlease
    exact ⟨rfl, rfl, rfl, rfl⟩
  · cases hlease

variable {candidate : WorkCandidate} {candidates : List WorkCandidate}

omit [StrLower] in
theorem mem_preferred_group (hmem : candidate ∈ preferred_group candidates) :
    candidate ∈ candidates := by
  unfold preferred_group at hmem
  dsimp only at hmem
  split at hmem
  · exact List.mem_of_mem_filter hmem
  · split at hmem
    · exact List.mem_of_mem_filter hmem
    · exact List.mem_of_mem_filter hmem

omit [StrLower] in
theorem mem_ranked (hmem : candidate ∈ ranked candidates) : candidate ∈ candidates :=
  mem_preferred_group ((List.perm_insertionSort _ _).mem_iff.mp hmem)

variable (self : DistributedWorkCoordinator)

/-- A candidate stands for a registered node that is neither excluded nor ineligible. -/
theorem mem_candidates_iff (requirement : WorkRequirement)
    (excluded : List String) (candidate : WorkCandidate) :
    candidate ∈ self.candidates requirement excluded ↔
      ∃ node ∈ self.registry.snapshot, normalized node.node_id ∉ excluded ∧
        exclusion_reason requirement node (self.active_count (normalized node.node_id)) = none ∧
        candidate_for requirement node (self.active_count (normalized node.node_id)) = some candidate := by
  unfold candidates
  rw [List.mem_filterMap]
  refine exists_congr fun node => and_congr_right fun _ => ?_
  unfold consider
  by_cases hexcluded : normalized node.node_id ∈ excluded
  · simp [hexcluded]
  · cases hreason : exclusion_reason requirement node (self.active_count (normalized node.node_id)) with
    | none => simp [hexcluded, hreason]
    | some exclusion => simp [hexcluded, hreason]

theorem candidate_node_id {node : NodeAdvertisement} {active_leases : Nat}
    (hcandidate : candidate_for requirement node active_leases = some candidate) :
    candidate.node_id = normalized node.node_id := by
  obtain ⟨mode, _, rfl⟩ := Option.map_eq_some_iff.mp hcandidate
  rfl

variable {excluded : List String}

/-- The ranked candidates are nodes under their normalised ids, none of them excluded. -/
theorem ranked_node_id {self : DistributedWorkCoordinator}
    (hmem : candidate ∈ ranked (self.candidates requirement excluded)) :
    normalized candidate.node_id = candidate.node_id ∧ candidate.node_id ∉ excluded := by
  obtain ⟨node, _, hexcluded, _, hcandidate⟩ := (self.mem_candidates_iff _ _ _).mp (mem_ranked hmem)
  rw [candidate_node_id hcandidate, normalized_normalized]
  exact ⟨rfl, hexcluded⟩

/-- `self._leases[work_id] = lease`. -/
def store_lease (self : DistributedWorkCoordinator) (lease : WorkLease)
    (hrecord : LeaseOnRecord self.requirements lease.work_id lease) : DistributedWorkCoordinator :=
  { self with
    leases := self.leases.set lease.work_id lease
    leases_on_record := by
      intro entry hentry
      rcases (Dict.mem_items_set_iff _ _ _ _).mp hentry with rfl | ⟨_, hold⟩
      · exact hrecord
      · exact self.leases_on_record entry hold }

/-- Whether the requirement of the work to be placed is on record, as every caller of
`_place_locked` has made sure. -/
def Recorded (self : DistributedWorkCoordinator) (requirement : WorkRequirement) : Prop :=
  ∃ recorded, self.requirements.get? (normalized requirement.work_id) = some recorded

theorem lease_on_record {self : DistributedWorkCoordinator} (hrecorded : self.Recorded requirement) {rest : List WorkCandidate}
    (hranked : ranked (self.candidates requirement excluded) = chosen :: rest)
    (hlease : new_lease requirement chosen now lease_seconds = .ok lease) :
    LeaseOnRecord self.requirements lease.work_id lease := by
  obtain ⟨hwork, hnode, _⟩ := new_lease_ok hlease
  have hmem : chosen ∈ ranked (self.candidates requirement excluded) := by simp [hranked]
  refine ⟨rfl, ?_, ?_, ?_⟩
  · rw [hwork, normalized_normalized]
  · rw [hnode, (ranked_node_id hmem).1]
  · rw [hwork]
    exact hrecorded

def place_locked (self : DistributedWorkCoordinator) (requirement : WorkRequirement)
    (hrecorded : self.Recorded requirement) (now lease_seconds : ℚ) (excluded : List String) :
    Except Error WorkPlacementDecision × DistributedWorkCoordinator :=
  match hranked : ranked (self.candidates requirement excluded) with
  | [] => (.ok (unplaced_decision (self.exclusions requirement excluded)), self)
  | chosen :: rest =>
    match hlease : new_lease requirement chosen now lease_seconds with
    | .error error => (.error error, self)
    | .ok lease =>
      (.ok (placed_decision lease chosen rest (self.exclusions requirement excluded)),
        self.store_lease lease (lease_on_record hrecorded hranked hlease))

def already_leased (existing : WorkLease) : WorkPlacementDecision where
  placed := true
  state := "already_leased"
  lease := some existing
  alternatives := []
  degradation := existing.degradation
  reasons := ["active workload lease already exists"]
  agree := rfl
  reasons_nonempty := by simp

theorem recorded_set_requirement (requirement : WorkRequirement) :
    (self.set_requirement requirement).Recorded requirement :=
  ⟨requirement, Dict.get?_set_self _ _ _⟩

def place (self : DistributedWorkCoordinator) (requirement : WorkRequirement) (now lease_seconds : ℚ)
    (exclude_nodes : List String) : Except Error WorkPlacementDecision × DistributedWorkCoordinator :=
  if lease_seconds ≤ 0 then (.error ⟨.ValueError, "lease_seconds must be positive"⟩, self)
  else
    let excluded := (exclude_nodes.map normalized).filter (· ≠ "")
    let work_id := normalized requirement.work_id
    let self := self.expire_leases_locked now
    match self.leases.get? work_id with
    | some existing => (.ok (already_leased existing), self)
    | none =>
      (self.set_requirement requirement).place_locked requirement (recorded_set_requirement self requirement)
        now lease_seconds (excluded ++ self.refused_by work_id)

theorem requirement_keyed {work : String}
    (hget : self.requirements.get? work = some requirement) : normalized requirement.work_id = work :=
  self.requirements_keyed (work, requirement) ((Dict.get?_eq_some_iff _ _ _).mp hget)

theorem record_of_lease {work : String}
    (hget : self.leases.get? work = some lease) : LeaseOnRecord self.requirements work lease :=
  self.leases_on_record (work, lease) ((Dict.get?_eq_some_iff _ _ _).mp hget)

theorem recorded_of_get? (self : DistributedWorkCoordinator) {work : String}
    (hget : self.requirements.get? work = some requirement) : self.Recorded requirement :=
  ⟨requirement, by rw [self.requirement_keyed hget]; exact hget⟩

/-- The lease goes, and its node is excluded from now on. -/
def withdraw (self : DistributedWorkCoordinator) (work node : String) : DistributedWorkCoordinator :=
  (self.pop_lease work).add_refusal work node

/-- What `refuse_and_reassign` and the recovery loop share: the work is withdrawn and placed
again. -/
def reassign_locked (self : DistributedWorkCoordinator) (work node reason : String)
    (requirement : WorkRequirement) (hget : self.requirements.get? work = some requirement)
    (now lease_seconds : ℚ) : Except Error WorkPlacementDecision × DistributedWorkCoordinator :=
  let (decision, placed) := (self.withdraw work node).place_locked requirement
    (recorded_of_get? (self.withdraw work node) hget) now lease_seconds
    ((self.withdraw work node).refused_by work)
  (decision.map (fun decision => decision.with_reason reason), placed)

def lease_not_owned : WorkPlacementDecision where
  placed := false
  state := "lease_not_owned"
  lease := none
  alternatives := []
  degradation := .CAPABILITY_UNAVAILABLE
  reasons := ["node does not own the active workload lease"]
  agree := rfl
  reasons_nonempty := by simp

def refuse_and_reassign (self : DistributedWorkCoordinator) (work_id node_id reason : String)
    (now lease_seconds : ℚ) : Except Error WorkPlacementDecision × DistributedWorkCoordinator :=
  let work := normalized work_id
  let node := normalized node_id
  let refusal_reason := normalized reason
  if refusal_reason = "" then (.error ⟨.ValueError, "refusal reason is required"⟩, self)
  else
    match self.leases.get? work, hget : self.requirements.get? work with
    | some lease, some requirement =>
      if lease.node_id ≠ node then (.ok lease_not_owned, self)
      else
        self.reassign_locked work node (node ++ " refused:" ++ refusal_reason) requirement hget now
          lease_seconds
    | _, _ => (.ok lease_not_owned, self)

def handoff (self : DistributedWorkCoordinator) (work_id from_node_id reason : String) (now lease_seconds : ℚ) :
    Except Error WorkPlacementDecision × DistributedWorkCoordinator :=
  self.refuse_and_reassign work_id from_node_id reason now lease_seconds

/-- The work leaves all three tables. -/
def forget_work (self : DistributedWorkCoordinator) (work : String) : DistributedWorkCoordinator :=
  { self with
    leases := self.leases.pop work
    requirements := self.requirements.pop work
    refusals := self.refusals.pop work
    requirements_keyed := fun entry hentry => self.requirements_keyed entry (List.mem_of_mem_filter hentry)
    leases_on_record := by
      intro entry hentry
      have hne : entry.1 ≠ work := by simpa using List.of_mem_filter hentry
      obtain ⟨hwork, hnormal, hnode, hrequired⟩ :=
        self.leases_on_record entry (List.mem_of_mem_filter hentry)
      exact ⟨hwork, hnormal, hnode, by rw [Dict.get?_pop_of_ne _ hne]; exact hrequired⟩ }

def complete (self : DistributedWorkCoordinator) (work_id node_id : String) :
    Bool × DistributedWorkCoordinator :=
  let work := normalized work_id
  let node := normalized node_id
  match self.leases.get? work with
  | none => (false, self)
  | some lease => if lease.node_id ≠ node then (false, self) else (true, self.forget_work work)

/-- The nodes that are stale, offline or quarantined, under their normalised ids. -/
def failed_nodes (self : DistributedWorkCoordinator) (now max_heartbeat_age : ℚ) :
    Except Error (List String) :=
  (self.registry.expired_node_ids now max_heartbeat_age).map (fun stale =>
    let unavailable := (self.registry.snapshot.filter (fun node =>
      node.availability = .OFFLINE ∨ node.availability = .QUARANTINED)).map (·.node_id)
    sorted_set ((stale ++ unavailable).map normalized))

def mark_offline (self : DistributedWorkCoordinator) (failed : List String) : DistributedWorkCoordinator :=
  { self with
    registry := failed.foldl (fun registry node_id => registry.set_availability node_id .OFFLINE) self.registry }

/-- The loop over the affected leases. -/
def recover_works (now lease_seconds : ℚ) (self : DistributedWorkCoordinator) :
    List (String × WorkLease) → Except Error (List WorkPlacementDecision) × DistributedWorkCoordinator
  | [] => (.ok [], self)
  | (work_id, old_lease) :: rest =>
    match hget : self.requirements.get? work_id with
    | none => recover_works now lease_seconds (self.pop_lease work_id) rest
    | some requirement =>
      match self.reassign_locked work_id old_lease.node_id ("recovery-from:" ++ old_lease.node_id)
        requirement hget now lease_seconds with
      | (.error error, self) => (.error error, self)
      | (.ok decision, self) =>
        let (decisions, self) := recover_works now lease_seconds self rest
        (decisions.map (fun decisions => decision :: decisions), self)

/-- The unexpired leases on failed nodes, in the order of their work ids. -/
def affected_leases (self : DistributedWorkCoordinator) (failed : List String) : List (String × WorkLease) :=
  self.leases.sorted_items.filter (fun entry => entry.2.node_id ∈ failed)

def recover_unavailable_nodes (self : DistributedWorkCoordinator)
    (now max_heartbeat_age lease_seconds : ℚ) :
    Except Error (List WorkPlacementDecision) × DistributedWorkCoordinator :=
  match self.failed_nodes now max_heartbeat_age with
  | .error error => (.error error, self)
  | .ok failed =>
    let self := (self.mark_offline failed).expire_leases_locked now
    self.recover_works now lease_seconds (self.affected_leases failed)

def lease_for (self : DistributedWorkCoordinator) (work_id : String) : Option WorkLease :=
  self.leases.get? (normalized work_id)

def snapshot (self : DistributedWorkCoordinator) : List WorkLease :=
  self.leases.sorted_items.map Prod.snd

end DistributedWorkCoordinator

end velvet.distributed_work_coordinator
