import VelvetRuntime.DistributedWork.Ranking
import VelvetRuntime.ResourceAware.Correspondence
import VelvetRuntime.ResourceAware.Views

open python python.str python.num python.Program velvet.distributed_work_coordinator
open DistributedWorkCoordinator (Placed refuse_and_reassign_placed refuse_and_reassign_not_owned
  refuse_and_reassign_normalized)

namespace velvet.body_capacity

open DistributedWorkCoordinator

variable [StrLower]

/-- Whether the advertisement on view meets the requirements. -/
def view_meets (view : Option NodeResourceAdvertisement) (requirements : List ResourceRequirement) : Bool :=
  match view with
  | none => false
  | some advertisement => requirements.all (requirement_met advertisement.resources)

theorem node_meets_eq (resources : NodeResourceRegistry) (node_id : String) (requirements : List ResourceRequirement) :
    (node_meets resources node_id requirements).1 = view_meets (resources.view node_id) requirements := rfl

/-- The nodes that do not meet the requirements are among those that `place` excludes. -/
theorem unmet_nodes_spec (requirements : List ResourceRequirement) (nodes : List NodeAdvertisement)
    (resources : NodeResourceRegistry) :
    (unmet_nodes requirements nodes resources).2.view = resources.view ∧
      ∀ node ∈ nodes, view_meets (resources.view node.node_id) requirements = false →
        normalized node.node_id ∈ (unmet_nodes requirements nodes resources).1 := by
  induction nodes generalizing resources with
  | nil => exact ⟨rfl, by simp⟩
  | cons node rest ih =>
    obtain ⟨hview, hexcluded⟩ := ih (node_meets resources node.node_id requirements).2
    rw [view_node_meets] at hview hexcluded
    unfold unmet_nodes
    dsimp only
    refine ⟨hview, ?_⟩
    rw [List.forall_mem_cons]
    constructor
    · intro hunmet
      rw [node_meets_eq, hunmet]
      exact List.mem_cons_self
    · intro other hother hunmet
      have hin := hexcluded other hother hunmet
      split
      · exact hin
      · exact List.mem_cons_of_mem _ hin

namespace ResourceAwareWorkCoordinator

open velvet.resource_aware_work_proposals.LiveResourceAwareCoordinator (willing_length_le)

/-- The node is registered, and its current resource advertisement meets the requirements. -/
def Meets (self : ResourceAwareWorkCoordinator) (node_id : String) (requirements : List ResourceRequirement) : Prop :=
  ∃ node, self.coordinator.registry.get node_id = some node ∧
    view_meets (self.views node.node_id) requirements = true

/-- The node of the decision, if there is one, meets the requirements on record for the work. -/
def Checked (self : ResourceAwareWorkCoordinator) (decision : WorkPlacementDecision) : Prop :=
  ∀ lease, decision.lease = some lease → self.requirements_of lease.work_id = [] ∨
    self.Meets lease.node_id (self.requirements_of lease.work_id)

variable {self : ResourceAwareWorkCoordinator} {now lease_seconds : ℚ} {work : String}

theorem Meets.congr {other : ResourceAwareWorkCoordinator} {node_id : String} {requirements : List ResourceRequirement}
    (hregistry : other.coordinator.registry = self.coordinator.registry) (hviews : other.views = self.views) :
    other.Meets node_id requirements ↔ self.Meets node_id requirements := by
  unfold Meets
  rw [hregistry, hviews]

variable {raises : Error → ResourceAwareWorkCoordinator → Prop}

/-- The check of a node answers whether it meets the requirements. -/
theorem wp_meets_checked {node_id : String} {requirements : List ResourceRequirement}
    {returns : Bool → ResourceAwareWorkCoordinator → Prop}
    (hreturns : ∀ eligible resources, ResourceAwareWorkCoordinator.views { self with resources } = self.views →
      (eligible = true ↔ self.Meets node_id requirements) → returns eligible { self with resources }) :
    wp (meets node_id requirements) returns raises self := by
  unfold meets
  simp only [wp_bind, wp_get]
  cases hnode : self.coordinator.registry.get node_id with
  | none =>
    refine hreturns false self.resources rfl (iff_of_false (by decide) ?_)
    rintro ⟨node, hfound, _⟩
    rw [hnode] at hfound
    cases hfound
  | some node =>
    refine hreturns _ _ (view_node_meets self.resources node.node_id requirements) ?_
    rw [node_meets_eq]
    constructor
    · exact fun hmet => ⟨node, hnode, hmet⟩
    · rintro ⟨found, hfound, hmet⟩
      cases hnode.symm.trans hfound
      exact hmet

/-- A decision without a lease ends the loop at once. -/
theorem wp_ensure_unplaced (attempts : Nat) {current : WorkPlacementDecision} (hnone : current.lease = none)
    {returns : WorkPlacementDecision → ResourceAwareWorkCoordinator → Prop} (hreturns : returns current self) :
    wp (ensure_resource_eligible now lease_seconds attempts current) returns raises self := by
  cases attempts with
  | zero => exact hreturns
  | succ attempts =>
    unfold ensure_resource_eligible
    rw [hnone]
    exact hreturns

/-- The loop never gives up on a node that does not meet the requirements: each refusal leaves fewer willing nodes, and
there are attempts for all of them. -/
theorem wp_ensure_checked (attempts : Nat) (current : WorkPlacementDecision) (self : ResourceAwareWorkCoordinator)
    (hmoved : Moved self self work now lease_seconds current.lease)
    (hattempts : (self.coordinator.willing work).length ≤ attempts) :
    wp (ensure_resource_eligible now lease_seconds attempts current) (fun decision after => after.Checked decision)
      (fun _ _ => True) self := by
  induction attempts generalizing current self with
  | zero =>
    intro lease hlease
    have hwilling := hmoved.placed.node lease hlease
    rw [List.length_eq_zero_iff.mp (Nat.le_zero.mp hattempts)] at hwilling
    cases hwilling
  | succ attempts ih =>
    unfold ensure_resource_eligible
    cases hlease : current.lease with
    | none =>
      intro lease hother
      rw [hlease] at hother
      cases hother
    | some lease =>
      rw [hlease] at hmoved
      have hwork : lease.work_id = work := (hmoved.placed.issued lease rfl).2.work_id_eq
      simp only [wp_bind, wp_get]
      split
      · rename_i hnone
        intro other hother
        cases hlease.symm.trans hother
        exact .inl hnone
      · simp only [wp_bind]
        apply wp_meets_checked
        intro eligible resources hviews heligible
        split
        · rename_i htrue
          intro other hother
          cases hlease.symm.trans hother
          have hmeets := heligible.mp htrue
          exact .inr ((@Meets.congr _ self { self with resources } _ _ rfl hviews).mpr hmeets)
        · simp only [wp_bind]
          have hstill : Moved { self with resources } { self with resources } work now lease_seconds (some lease) :=
            ⟨hmoved.placed, rfl⟩
          obtain ⟨hplaced, hrefused, _⟩ := refuse_and_reassign_placed hmoved.placed.own rfl
            (by decide : ¬ Blank "resource-requirement-unmet") now lease_seconds
          rw [hwork]
          apply wp_coordinate
          · intro next hnext
            rw [hnext] at hplaced
            refine ih next _ ⟨hplaced.stay, rfl⟩ ?_
            have hfewer := hplaced.willing_lt (hmoved.placed.node lease rfl) hrefused
            exact Nat.le_of_lt_succ (lt_of_lt_of_le hfewer hattempts)
          · exact fun _ _ => trivial

variable {decision : WorkPlacementDecision}

/-- A refusal whose decision has a lease is a refusal by the owner of a lease. -/
theorem placed_of_refused {coordinator : DistributedWorkCoordinator} {work_id node_id reason : String}
    {lease : WorkLease}
    (hdecision : (coordinator.refuse_and_reassign work_id node_id reason now lease_seconds).1 = .ok decision)
    (hlease : decision.lease = some lease) :
    Placed coordinator (coordinator.refuse_and_reassign work_id node_id reason now lease_seconds).2 (normalized work_id)
      now lease_seconds (some lease) := by
  have hreason : ¬ Blank reason := by
    intro hblank
    unfold DistributedWorkCoordinator.refuse_and_reassign at hdecision
    dsimp only at hdecision
    rw [if_pos ((normalized_eq_empty_iff reason).mpr hblank)] at hdecision
    cases hdecision
  by_cases howned : ∀ held, coordinator.leases.get? (normalized work_id) = some held → held.node_id ≠ normalized node_id
  · have hnone := (refuse_and_reassign_not_owned reason howned now lease_seconds).2
    rw [hdecision] at hnone
    change decision.lease = none at hnone
    rw [hlease] at hnone
    cases hnone
  · push Not at howned
    obtain ⟨held, hheld, hnode⟩ := howned
    have hplaced := (refuse_and_reassign_placed hheld hnode hreason now lease_seconds).1
    rw [← refuse_and_reassign_normalized, hdecision] at hplaced
    change Placed _ _ _ _ _ decision.lease at hplaced
    rw [hlease] at hplaced
    exact hplaced

/-- Whatever a refusal returns has been checked. -/
theorem wp_refuse_checked (work_id node_id reason : String) (self : ResourceAwareWorkCoordinator) :
    wp (refuse_and_reassign work_id node_id reason now lease_seconds) (fun decision after => after.Checked decision)
      (fun _ _ => True) self := by
  unfold refuse_and_reassign
  simp only [wp_bind]
  apply wp_coordinate
  · intro decision hdecision
    simp only [wp_bind, wp_get]
    cases hlease : decision.lease with
    | none =>
      apply wp_ensure_unplaced _ hlease
      intro lease hother
      rw [hlease] at hother
      cases hother
    | some lease =>
      have hplaced := placed_of_refused hdecision hlease
      apply @wp_ensure_checked _ now lease_seconds (normalized work_id)
      · rw [hlease]
        exact ⟨hplaced.stay, rfl⟩
      · exact (willing_length_le _ _).trans (le_max_right _ _)
  · exact fun _ _ => trivial

/-- Whatever a revalidation returns has been checked. -/
theorem wp_revalidate_checked (work_id : String) (self : ResourceAwareWorkCoordinator) :
    wp (revalidate work_id now lease_seconds) (fun moved after => ∀ decision, moved = some decision → after.Checked decision)
      (fun _ _ => True) self := by
  unfold revalidate
  simp only [wp_bind, wp_get]
  split
  · intro decision hdecision
    cases hdecision
  · split
    · intro decision hdecision
      cases hdecision
    · simp only [wp_bind]
      apply wp_meets
      intro eligible resources
      split
      · intro decision hdecision
        cases hdecision
      · simp only [wp_bind]
        refine wp_mono (wp_refuse_checked _ _ _ _) ?_ (fun _ _ _ => trivial)
        intro decision after hchecked other hother
        cases hother
        exact hchecked

/-- The lease with which a placement answers although it has not placed the work itself, since the work holds it. -/
def running_lease (self : ResourceAwareWorkCoordinator) (requirement : WorkRequirement) (now : ℚ) : Option WorkLease :=
  (self.coordinator.expire_leases_locked now).leases.get? (normalized requirement.work_id)

/-- The nodes that a placement excludes for their resources, and the resource registry after the lookups. -/
theorem unmet_spec (self : ResourceAwareWorkCoordinator) (requirements : List ResourceRequirement) :
    ∃ unmet resources, (if requirements = [] then ([], self.resources)
      else unmet_nodes requirements self.coordinator.registry.snapshot self.resources) = (unmet, resources) ∧
      resources.view = self.views ∧
      (requirements ≠ [] → ∀ node ∈ self.coordinator.registry.snapshot,
        view_meets (self.views node.node_id) requirements = false → normalized node.node_id ∈ unmet) := by
  split
  · rename_i hempty
    exact ⟨_, _, rfl, rfl, fun hsome => absurd hempty hsome⟩
  · obtain ⟨hview, hexcluded⟩ := unmet_nodes_spec requirements self.coordinator.registry.snapshot self.resources
    exact ⟨_, _, rfl, hview, fun _ => hexcluded⟩

variable {requirement : WorkRequirement}

/-- A placement that the work's running lease does not answer takes a node that meets the requirements. -/
theorem meets_of_place {requirements : List ResourceRequirement}
    {excluded unmet : List String} {lease : WorkLease} (hunleased : self.running_lease requirement now = none)
    (hunmet : requirements ≠ [] → ∀ node ∈ self.coordinator.registry.snapshot,
      view_meets (self.views node.node_id) requirements = false → normalized node.node_id ∈ unmet)
    (hdecision : (self.coordinator.place requirement now lease_seconds (sorted_set (excluded ++ unmet))).1 = .ok decision)
    (hlease : decision.lease = some lease) :
    lease.work_id = normalized requirement.work_id ∧ (requirements = [] ∨ self.Meets lease.node_id requirements) := by
  obtain ⟨hwork, candidate, ⟨node, hnode, hallowed, _, _, hcandidate⟩, hid⟩ :=
    eligible_of_place hunleased hdecision hlease
  refine ⟨hwork, or_iff_not_imp_left.mpr fun hsome => ?_⟩
  rw [hid]
  refine ⟨node, hnode, ?_⟩
  by_contra hfails
  rw [Bool.not_eq_true] at hfails
  have hname := candidate_node_id hcandidate
  have hmember : node ∈ self.coordinator.registry.snapshot := by
    unfold VerifiedNodeRegistry.get at hnode
    rw [hname, normalized_normalized] at hnode
    exact VerifiedNodeRegistry.mem_snapshot_iff.mpr hnode
  have hexcluded := mem_sorted_set.mpr (List.mem_append_right excluded (hunmet hsome node hmember hfails))
  refine hallowed _ hexcluded ?_
  rw [hname, normalized_normalized]

/-- What a placement leaves, as far as the check is concerned. -/
theorem wp_place_checked_iff {resource_requirements : List ResourceRequirement}
    {exclude_nodes : List String} :
    wp (place requirement resource_requirements now lease_seconds exclude_nodes)
      (fun decision after => 0 < lease_seconds ∧ (after.Checked decision ↔
        ∀ existing, self.running_lease requirement now = some existing →
          resource_requirements = [] ∨ self.Meets existing.node_id resource_requirements))
      (fun _ _ => lease_seconds ≤ 0) self := by
  obtain ⟨unmet, resources, hunmet, hview, hexcluded⟩ := self.unmet_spec resource_requirements
  unfold place
  simp only [wp_bind, wp_get]
  rw [hunmet]
  dsimp only
  rw [wp_set]
  apply wp_coordinate
  · intro decision hdecision
    dsimp only at hdecision ⊢
    refine ⟨(self.coordinator.place_returns_iff _ _ _ _).mp ⟨decision, hdecision⟩, ?_⟩
    generalize hafter : ResourceAwareWorkCoordinator.mk (self.coordinator.place requirement now lease_seconds _).2
      resources (self.requirements.set (normalized requirement.work_id) resource_requirements) = after
    have hmeets : ∀ node_id, after.Meets node_id resource_requirements ↔ self.Meets node_id resource_requirements := by
      intro node_id
      subst hafter
      exact Meets.congr (registry_place _ _ _ _ _) hview
    have hrecorded : after.requirements_of (normalized requirement.work_id) = resource_requirements := by
      subst hafter
      unfold requirements_of
      dsimp only
      rw [normalized_normalized, Dict.get?_set_self]
      rfl
    unfold Checked
    cases hleased : self.running_lease requirement now with
    | none =>
      refine iff_of_true (fun lease hlease => ?_) (fun _ hexisting => by cases hexisting)
      obtain ⟨hwork, hmet⟩ := meets_of_place hleased hexcluded hdecision hlease
      rw [hwork, hrecorded, hmeets]
      exact hmet
    | some existing =>
      rcases place_leased hleased lease_seconds _ with ⟨error, herror⟩ | hsame
      · rw [herror] at hdecision
        cases hdecision
      · rw [hsame] at hdecision
        cases hdecision
        have hwork : existing.work_id = normalized requirement.work_id :=
          (record_of_lease _ hleased).work_id_eq
        constructor
        · intro hchecked other hother
          cases hother
          have hmet := hchecked existing rfl
          rwa [hwork, hrecorded, hmeets] at hmet
        · intro hmet lease hlease
          cases hlease
          rw [hwork, hrecorded, hmeets]
          exact hmet existing rfl
  · intro error herror
    by_contra hseconds
    obtain ⟨decision, hdecision⟩ := (self.coordinator.place_returns_iff requirement now lease_seconds _).mpr
      (not_le.mp hseconds)
    cases herror.symm.trans hdecision

/-- `handoff`, which passes its arguments on. -/
def handoff (work_id from_node_id reason : String) (now lease_seconds : ℚ) :
    Program Error ResourceAwareWorkCoordinator WorkPlacementDecision :=
  refuse_and_reassign work_id from_node_id reason now lease_seconds

/-- The calls of the coordinator, and what happens around it: nodes and resources are advertised anew, or time passes. -/
inductive Call where
  | place (requirement : WorkRequirement) (resource_requirements : List ResourceRequirement) (now lease_seconds : ℚ)
    (exclude_nodes : List String)
  | refuse_and_reassign (work_id node_id reason : String) (now lease_seconds : ℚ)
  | handoff (work_id from_node_id reason : String) (now lease_seconds : ℚ)
  | revalidate (work_id : String) (now lease_seconds : ℚ)
  | complete (work_id node_id : String)
  | surroundings (registry : VerifiedNodeRegistry) (resources : NodeResourceRegistry)

/-- One call, with the decision it returns if it returns one. -/
def serve : Call → Program Error ResourceAwareWorkCoordinator (Option WorkPlacementDecision)
  | .place requirement resource_requirements now lease_seconds exclude_nodes => do
    let decision ← place requirement resource_requirements now lease_seconds exclude_nodes
    pure (some decision)
  | .refuse_and_reassign work_id node_id reason now lease_seconds => do
    let decision ← refuse_and_reassign work_id node_id reason now lease_seconds
    pure (some decision)
  | .handoff work_id from_node_id reason now lease_seconds => do
    let decision ← handoff work_id from_node_id reason now lease_seconds
    pure (some decision)
  | .revalidate work_id now lease_seconds => revalidate work_id now lease_seconds
  | .complete work_id node_id => do
    let self ← get
    set (self.complete work_id node_id).2
    pure none
  | .surroundings registry resources => do
    let self ← get
    set { self with coordinator := { self.coordinator with registry }, resources }
    pure none

/-- The state after the calls. A call that raises leaves its changes. -/
def served (start : ResourceAwareWorkCoordinator) (calls : List Call) : ResourceAwareWorkCoordinator :=
  calls.foldl (fun self call => (serve call).after self) start

/-- A record of the requirements that are passed to `place`, work by work. -/
def record (passed : Dict String (List ResourceRequirement)) : Call → Dict String (List ResourceRequirement)
  | .place requirement resource_requirements _ _ _ =>
    passed.set (normalized requirement.work_id) resource_requirements
  | _ => passed

/-- The requirements that were last passed to `place` for the work, or were on record at the start. -/
def last_passed (start : ResourceAwareWorkCoordinator) (calls : List Call) (work : String) : List ResourceRequirement :=
  ((calls.foldl record start.requirements).get? work).getD []

/-- Every leased work has the requirements on record that were last passed for it. -/
def Agrees (self : ResourceAwareWorkCoordinator) (passed : Dict String (List ResourceRequirement)) : Prop :=
  ∀ work lease, self.coordinator.leases.get? work = some lease → self.requirements.get? work = passed.get? work

/-- The lease of a decision is in the table. -/
def Stored (self : ResourceAwareWorkCoordinator) (decision : WorkPlacementDecision) : Prop :=
  ∀ lease, decision.lease = some lease → self.coordinator.leases.get? lease.work_id = some lease

variable {passed : Dict String (List ResourceRequirement)}

variable {after : ResourceAwareWorkCoordinator}

theorem Agrees.of_subset (hagrees : self.Agrees passed) (hrequirements : after.requirements = self.requirements)
    (hleases : ∀ work, (after.coordinator.leases.get? work).isSome = true →
      (self.coordinator.leases.get? work).isSome = true) : after.Agrees passed := by
  intro work lease hlease
  obtain ⟨held, hheld⟩ := Option.isSome_iff_exists.mp (hleases work (Option.isSome_of_eq_some hlease))
  rw [hrequirements]
  exact hagrees work held hheld

/-- A call that only moves a leased work keeps the agreement. -/
theorem Agrees.moved {outcome : Option WorkLease} (hagrees : self.Agrees passed)
    (hmoved : Moved self after work now lease_seconds outcome)
    (hleased : (self.coordinator.leases.get? work).isSome = true) : after.Agrees passed := by
  refine hagrees.of_subset hmoved.requirements fun other hother => ?_
  by_cases hsame : other = work
  · rw [hsame]
    exact hleased
  · rw [hmoved.placed.others other hsame] at hother
    exact hother

theorem Moved.stored (hmoved : Moved self after work now lease_seconds decision.lease) : after.Stored decision := by
  intro lease hlease
  rw [(hmoved.placed.issued lease hlease).2.work_id_eq, hmoved.placed.own, hlease]

theorem wp_refuse_agrees (work_id node_id reason : String) (hagrees : self.Agrees passed) :
    wp (refuse_and_reassign work_id node_id reason now lease_seconds)
      (fun decision after => after.Agrees passed ∧ after.Stored decision) (fun _ after => after.Agrees passed) self := by
  by_cases hblank : Blank reason
  · refine wp_mono (wp_refuse_and_reassign_blank hblank) (fun _ _ hfalse => hfalse.elim) ?_
    rintro error after rfl
    exact hagrees
  by_cases howned : ∀ held, self.coordinator.leases.get? (normalized work_id) = some held →
      held.node_id ≠ normalized node_id
  · refine wp_mono (wp_refuse_and_reassign_not_owned howned) ?_ ?_
    · rintro decision after ⟨hnone, rfl⟩
      refine ⟨hagrees, fun lease hlease => ?_⟩
      rw [hnone] at hlease
      cases hlease
    · rintro error after rfl
      exact hagrees
  · push Not at howned
    obtain ⟨held, hheld, hnode⟩ := howned
    have hleased : (self.coordinator.leases.get? (normalized work_id)).isSome = true := Option.isSome_of_eq_some hheld
    refine wp_mono (wp_refuse_and_reassign hheld hnode hblank) ?_ ?_
    · intro decision after hmoved
      exact ⟨hagrees.moved hmoved.1 hleased, hmoved.1.stored⟩
    · intro error after hmoved
      exact hagrees.moved hmoved.1 hleased

theorem wp_revalidate_agrees (work_id : String) (hagrees : self.Agrees passed) :
    wp (revalidate work_id now lease_seconds)
      (fun moved after => after.Agrees passed ∧ ∀ decision, moved = some decision → after.Stored decision)
      (fun _ after => after.Agrees passed) self := by
  unfold revalidate
  simp only [wp_bind, wp_get]
  split
  · exact ⟨hagrees, fun _ hnone => by cases hnone⟩
  · split
    · exact ⟨hagrees, fun _ hnone => by cases hnone⟩
    · simp only [wp_bind]
      apply wp_meets
      intro eligible resources
      have hstill : Agrees { self with resources } passed := hagrees
      split
      · exact ⟨hstill, fun _ hnone => by cases hnone⟩
      · simp only [wp_bind]
        refine wp_mono (wp_refuse_agrees _ _ _ hstill) ?_ (fun _ _ hafter => hafter)
        rintro decision after ⟨hafter, hstored⟩
        refine ⟨hafter, fun other hother => ?_⟩
        cases hother
        exact hstored

/-- What a placement does to the lease table: no other work gets a lease, and the lease of the decision is in it. -/
theorem place_leases (coordinator : DistributedWorkCoordinator) (requirement : WorkRequirement) (now lease_seconds : ℚ)
    (exclude_nodes : List String) :
    (∀ work, work ≠ normalized requirement.work_id →
      ((coordinator.place requirement now lease_seconds exclude_nodes).2.leases.get? work).isSome = true →
      (coordinator.leases.get? work).isSome = true) ∧
    ∀ decision lease, (coordinator.place requirement now lease_seconds exclude_nodes).1 = .ok decision →
      decision.lease = some lease →
      (coordinator.place requirement now lease_seconds exclude_nodes).2.leases.get? lease.work_id = some lease := by
  have hexpired : ∀ work, ((coordinator.expire_leases_locked now).leases.get? work).isSome = true →
      (coordinator.leases.get? work).isSome = true := by
    intro work hsome
    obtain ⟨lease, hlease⟩ := Option.isSome_iff_exists.mp hsome
    rw [expire_leases_get?, Option.filter_eq_some_iff] at hlease
    exact Option.isSome_of_eq_some hlease.1
  cases hleased : (coordinator.expire_leases_locked now).leases.get? (normalized requirement.work_id) with
  | some existing =>
    rcases place_leased hleased lease_seconds exclude_nodes with ⟨error, herror⟩ | hsame
    · rw [herror]
      exact ⟨fun _ _ hsome => hsome, fun _ _ hdecision => nomatch hdecision⟩
    · rw [hsame]
      refine ⟨fun work _ => hexpired work, ?_⟩
      intro decision lease hdecision hlease
      cases hdecision
      cases hlease
      rw [(record_of_lease _ hleased).work_id_eq]
      exact hleased
  | none =>
    rcases place_placed rfl hleased lease_seconds exclude_nodes with ⟨error, herror⟩ | hplaced
    · rw [herror]
      exact ⟨fun _ _ hsome => hsome, fun _ _ hdecision => nomatch hdecision⟩
    · refine ⟨fun work hother hsome => hexpired work (by rwa [hplaced.others work hother] at hsome), ?_⟩
      intro decision lease hdecision hlease
      rw [hdecision] at hplaced
      rw [(hplaced.issued lease hlease).2.work_id_eq, hplaced.own]
      exact hlease

theorem wp_place_agrees (requirement : WorkRequirement) (resource_requirements : List ResourceRequirement)
    (exclude_nodes : List String) (hagrees : self.Agrees passed) :
    wp (place requirement resource_requirements now lease_seconds exclude_nodes)
      (fun decision after => after.Agrees (passed.set (normalized requirement.work_id) resource_requirements) ∧
        after.Stored decision)
      (fun _ after => after.Agrees (passed.set (normalized requirement.work_id) resource_requirements)) self := by
  have hafter : ∀ resources excluded, Agrees
      { coordinator := (self.coordinator.place requirement now lease_seconds excluded).2
        resources
        requirements := self.requirements.set (normalized requirement.work_id) resource_requirements }
      (passed.set (normalized requirement.work_id) resource_requirements) := by
    intro resources excluded work lease hlease
    rw [Dict.get?_set, Dict.get?_set]
    split
    · rfl
    · rename_i hother
      have hsome := (place_leases self.coordinator requirement now lease_seconds excluded).1 work hother
        (Option.isSome_of_eq_some hlease)
      obtain ⟨held, hheld⟩ := Option.isSome_iff_exists.mp hsome
      exact hagrees work held hheld
  apply wp_place
  · intro resources excluded decision hdecision
    refine ⟨hafter resources excluded, fun lease hlease => ?_⟩
    exact (place_leases self.coordinator requirement now lease_seconds excluded).2 decision lease hdecision hlease
  · exact fun resources excluded _ _ => hafter resources excluded

/-- A call that completes a work takes its lease and its requirements away together. -/
theorem Agrees.complete (hagrees : self.Agrees passed) (work_id node_id : String) :
    (self.complete work_id node_id).2.Agrees passed := by
  unfold ResourceAwareWorkCoordinator.complete
  rcases self.coordinator.complete_cases work_id node_id with hsame | ⟨held, _, hcompleted⟩
  · rw [hsame]
    exact hagrees
  · rw [hcompleted]
    intro work lease hlease
    change (self.coordinator.leases.pop (normalized work_id)).get? work = some lease at hlease
    change (self.requirements.pop (normalized work_id)).get? work = passed.get? work
    rw [Dict.get?_pop] at hlease ⊢
    split at hlease
    · cases hlease
    · rename_i hother
      rw [if_neg hother]
      exact hagrees work lease hlease

/-- Every call keeps the agreement with the record of what is passed to `place`. -/
theorem wp_serve_agrees (hagrees : self.Agrees passed) (call : Call) :
    wp (serve call)
      (fun moved after => after.Agrees (record passed call) ∧ ∀ decision, moved = some decision → after.Stored decision)
      (fun _ after => after.Agrees (record passed call)) self := by
  have hsome : ∀ {program : Program Error ResourceAwareWorkCoordinator WorkPlacementDecision},
      wp program (fun decision after => after.Agrees (record passed call) ∧ after.Stored decision)
        (fun _ after => after.Agrees (record passed call)) self →
      wp (program >>= fun decision => pure (some decision))
        (fun moved after => after.Agrees (record passed call) ∧ ∀ decision, moved = some decision → after.Stored decision)
        (fun _ after => after.Agrees (record passed call)) self := by
    intro program hprogram
    rw [wp_bind]
    refine wp_mono hprogram ?_ (fun _ _ hafter => hafter)
    rintro decision after ⟨hafter, hstored⟩
    refine ⟨hafter, fun other hother => ?_⟩
    cases hother
    exact hstored
  cases call with
  | place requirement resource_requirements now lease_seconds exclude_nodes =>
    exact hsome (wp_place_agrees requirement resource_requirements exclude_nodes hagrees)
  | refuse_and_reassign work_id node_id reason now lease_seconds =>
    exact hsome (wp_refuse_agrees work_id node_id reason hagrees)
  | handoff work_id from_node_id reason now lease_seconds =>
    exact hsome (wp_refuse_agrees work_id from_node_id reason hagrees)
  | revalidate work_id now lease_seconds => exact wp_revalidate_agrees work_id hagrees
  | complete work_id node_id => exact ⟨hagrees.complete work_id node_id, fun _ hnone => nomatch hnone⟩
  | surroundings registry resources => exact ⟨hagrees, fun _ hnone => nomatch hnone⟩

theorem agrees_served (start : ResourceAwareWorkCoordinator) (calls : List Call) :
    (served start calls).Agrees (calls.foldl record start.requirements) := by
  induction calls using List.reverseRecOn with
  | nil => exact fun _ _ _ => rfl
  | append_singleton calls call ih =>
    unfold served
    rw [List.foldl_append, List.foldl_append]
    exact (wp_result_after fun _ after => after.Agrees (record (calls.foldl record start.requirements) call)).mp
      (wp_mono (wp_serve_agrees ih call) (fun _ _ hafter => hafter.1) (fun _ _ hafter => hafter))

/-- The call is no placement of work that holds a running lease on a node which does not meet what is asked now. -/
def Fresh (self : ResourceAwareWorkCoordinator) : Call → Prop
  | .place requirement resource_requirements now lease_seconds _ =>
    0 < lease_seconds → ∀ existing, self.running_lease requirement now = some existing →
      resource_requirements = [] ∨ self.Meets existing.node_id resource_requirements
  | _ => True

/-- What a call returns has been checked, exactly when it is no placement that an unfit lease answers. -/
theorem serve_checked_iff (self : ResourceAwareWorkCoordinator) (call : Call) :
    (∀ decision, (serve call).result self = .ok (some decision) → ((serve call).after self).Checked decision) ↔
      self.Fresh call := by
  have hsome : ∀ {program : Program Error ResourceAwareWorkCoordinator WorkPlacementDecision},
      wp program (fun decision after => after.Checked decision) (fun _ _ => True) self →
      wp (program >>= fun decision => pure (some decision))
        (fun moved after => ∀ decision, moved = some decision → after.Checked decision) (fun _ _ => True) self := by
    intro program hprogram
    rw [wp_bind]
    refine wp_mono hprogram ?_ (fun _ _ _ => trivial)
    intro decision after hchecked other hother
    cases hother
    exact hchecked
  have hall : ∀ {program : Program Error ResourceAwareWorkCoordinator (Option WorkPlacementDecision)},
      wp program (fun moved after => ∀ decision, moved = some decision → after.Checked decision) (fun _ _ => True) self →
      ∀ decision, program.result self = .ok (some decision) → (program.after self).Checked decision :=
    fun hprogram decision hdecision => wp_of_result_ok hprogram hdecision decision rfl
  cases call with
  | place requirement resource_requirements now lease_seconds exclude_nodes =>
    have hplaced : wp (serve (.place requirement resource_requirements now lease_seconds exclude_nodes))
        (fun moved after => ∃ decision, moved = some decision ∧ 0 < lease_seconds ∧ (after.Checked decision ↔
          ∀ existing, self.running_lease requirement now = some existing →
            resource_requirements = [] ∨ self.Meets existing.node_id resource_requirements))
        (fun _ _ => lease_seconds ≤ 0) self := by
      unfold serve
      rw [wp_bind]
      refine wp_mono wp_place_checked_iff ?_ (fun _ _ hseconds => hseconds)
      intro decision after hchecked
      exact ⟨decision, rfl, hchecked⟩
    cases hresult : (serve (.place requirement resource_requirements now lease_seconds exclude_nodes)).result self with
    | error error =>
      have hseconds := wp_of_result_error hplaced hresult
      refine iff_of_true (fun _ hdecision => nomatch hdecision) ?_
      exact fun hpositive => absurd hpositive (not_lt.mpr hseconds)
    | ok moved =>
      obtain ⟨decision, rfl, hseconds, hchecked⟩ := wp_of_result_ok hplaced hresult
      constructor
      · exact fun hreturned _ => hchecked.mp (hreturned decision rfl)
      · intro hfresh other hother
        cases hother
        exact hchecked.mpr (hfresh hseconds)
  | refuse_and_reassign work_id node_id reason now lease_seconds =>
    exact iff_of_true (hall (hsome (wp_refuse_checked work_id node_id reason self))) trivial
  | handoff work_id from_node_id reason now lease_seconds =>
    exact iff_of_true (hall (hsome (wp_refuse_checked work_id from_node_id reason self))) trivial
  | revalidate work_id now lease_seconds => exact iff_of_true (hall (wp_revalidate_checked work_id self)) trivial
  | complete work_id node_id => exact iff_of_true (hall fun _ hnone => nomatch hnone) trivial
  | surroundings registry resources => exact iff_of_true (hall fun _ hnone => nomatch hnone) trivial

/-- After any calls, what the next call returns is placed on a node whose current resources meet the requirements last
passed for the work, exactly when the call is no placement that an unfit running lease answers. -/
theorem placed_on_fit_node_iff (start : ResourceAwareWorkCoordinator) (calls : List Call) (call : Call) :
    let self := served start calls
    (∀ decision lease, (serve call).result self = .ok (some decision) → decision.lease = some lease →
      last_passed start (calls ++ [call]) lease.work_id = [] ∨
        ((serve call).after self).Meets lease.node_id (last_passed start (calls ++ [call]) lease.work_id)) ↔
      self.Fresh call := by
  intro self
  have hpassed : ∀ decision lease, (serve call).result self = .ok (some decision) → decision.lease = some lease →
      ((serve call).after self).requirements_of lease.work_id = last_passed start (calls ++ [call]) lease.work_id := by
    intro decision lease hdecision hlease
    obtain ⟨hagrees, hstored⟩ := wp_of_result_ok (wp_serve_agrees (agrees_served start calls) call) hdecision
    have hleased := hstored decision rfl lease hlease
    unfold requirements_of last_passed
    rw [(DistributedWorkCoordinator.record_of_lease _ hleased).normal, hagrees _ lease hleased, List.foldl_append]
    rfl
  rw [← serve_checked_iff]
  constructor
  · intro hfit decision hdecision lease hlease
    rw [hpassed decision lease hdecision hlease]
    exact hfit decision lease hdecision hlease
  · intro hchecked decision lease hdecision hlease
    rw [← hpassed decision lease hdecision hlease]
    exact hchecked decision hdecision lease hlease

end ResourceAwareWorkCoordinator

open velvet.distributed_work_service (IsNormalized plain_node plain_proposal)
open velvet.resource_aware_work_proposals (one_byte one_byte_service)

/-- Two bytes of memory. -/
def two_bytes : ResourceRequirement := { one_byte with minimum_available := 2, minimum_nonneg := by norm_num }

/-- One node, `a`, with one byte of memory. -/
def one_byte_on_a : ResourceAwareWorkCoordinator where
  coordinator := .new ((VerifiedNodeRegistry.new "body").register
    (plain_node "a" 1 0 .AVAILABLE 2 text_a full_health zero_beat Nat.two_pos)).2
  resources := (one_byte_service "a" text_a).registry
  requirements := .empty

/-- `w1` is placed with the given requirements. -/
def place_w1 (hwork : IsNormalized "w1") (requirements : List ResourceRequirement) (now : ℚ) :
    ResourceAwareWorkCoordinator.Call :=
  .place (plain_proposal "w1" hwork).to_requirement requirements now 60 []

end velvet.body_capacity

namespace velvet.body_capacity.ResourceAwareWorkCoordinator

open velvet.resource_aware_work_proposals (one_byte)

/-- `w1` needs one byte and is on `a`. Placed again with a need of two bytes, it is answered with its lease on `a`, which
does not have them. -/
theorem repeated_placement_unchecked :
    letI := StrLower.ascii
    let calls := [place_w1 (by decide) [one_byte] 0]
    let call := place_w1 (by decide) [two_bytes] 10
    let self := served one_byte_on_a calls
    (((serve call).result self).toOption.join.map fun decision =>
        (decision.state, decision.lease.map WorkLease.node_id)) = some ("already_leased", some "a") ∧
      last_passed one_byte_on_a (calls ++ [call]) "w1" = [two_bytes] ∧
      ¬ ((serve call).after self).Meets "a" [two_bytes] := by
  have hunmet : letI := StrLower.ascii
      let after := (serve (place_w1 (by decide) [two_bytes] 10)).after
        (served one_byte_on_a [place_w1 (by decide) [one_byte] 0])
      (after.coordinator.registry.get "a").map (fun node => view_meets (after.views node.node_id) [two_bytes]) =
        some false := by with_unfolding_all decide
  refine ⟨by with_unfolding_all decide, by decide, ?_⟩
  rintro ⟨node, hnode, hmeets⟩
  dsimp only at hunmet
  rw [hnode, Option.map_some, hmeets] at hunmet
  cases hunmet

end velvet.body_capacity.ResourceAwareWorkCoordinator
