import VelvetRuntime.DistributedWork.Coordinator

open python python.str python.num

namespace velvet.distributed_work_coordinator.DistributedWorkCoordinator

variable [StrLower]

/-- Some registered node could take the work: it is not excluded, nothing about it rules it out,
and its capabilities serve the work in some mode. -/
def Placeable (self : DistributedWorkCoordinator) (requirement : WorkRequirement) (excluded : List String) :
    Prop :=
  ∃ node ∈ self.registry.snapshot, normalized node.node_id ∉ excluded ∧
    exclusion_reason requirement node (self.active_count (normalized node.node_id)) = none ∧
    (placement_mode requirement node).isSome = true

instance (self : DistributedWorkCoordinator) (requirement : WorkRequirement) (excluded : List String) :
    Decidable (self.Placeable requirement excluded) :=
  inferInstanceAs (Decidable (∃ node ∈ _, _))

omit [StrLower] in
theorem preferred_group_eq_nil_iff (candidates : List WorkCandidate) :
    preferred_group candidates = [] ↔ candidates = [] := by
  constructor
  · intro hnone
    unfold preferred_group at hnone
    dsimp only at hnone
    split at hnone
    · contradiction
    · rename_i hfull
      split at hnone
      · contradiction
      · rename_i hpartly
        -- A candidate is in the group of its own mode.
        rw [not_not] at hfull hpartly
        rw [List.eq_nil_iff_forall_not_mem]
        intro candidate hmem
        have hnot_full := List.filter_eq_nil_iff.mp hfull candidate hmem
        have hnot_partly := List.filter_eq_nil_iff.mp hpartly candidate hmem
        have hnot_observing := List.filter_eq_nil_iff.mp hnone candidate hmem
        simp_all
  · rintro rfl
    rfl

omit [StrLower] in
theorem ranked_eq_nil_iff (candidates : List WorkCandidate) : ranked candidates = [] ↔ candidates = [] := by
  rw [← preferred_group_eq_nil_iff candidates]
  unfold ranked
  constructor
  · intro hnone
    have hperm := List.perm_insertionSort (fun left right : WorkCandidate =>
      toLex (-left.score, left.node_id) ≤ toLex (-right.score, right.node_id)) (preferred_group candidates)
    rw [hnone] at hperm
    exact hperm.nil_eq.symm
  · intro hnone
    rw [hnone]
    rfl

variable (self : DistributedWorkCoordinator) (requirement : WorkRequirement)

theorem placeable_iff_ranked
    (excluded : List String) :
    self.Placeable requirement excluded ↔ ranked (self.candidates requirement excluded) ≠ [] := by
  rw [Ne, ranked_eq_nil_iff, ← Ne, List.ne_nil_iff_exists_cons]
  constructor
  · rintro ⟨node, hnode, hexcluded, hreason, hmode⟩
    obtain ⟨mode, hmode⟩ := Option.isSome_iff_exists.mp hmode
    have hmem : (candidate_for requirement node (self.active_count (normalized node.node_id))).isSome := by
      simp [candidate_for, hmode]
    obtain ⟨candidate, hcandidate⟩ := Option.isSome_iff_exists.mp hmem
    have hin := (self.mem_candidates_iff requirement excluded candidate).mpr
      ⟨node, hnode, hexcluded, hreason, hcandidate⟩
    exact List.exists_cons_of_ne_nil (List.ne_nil_of_mem hin)
  · rintro ⟨candidate, rest, hlist⟩
    have hin : candidate ∈ self.candidates requirement excluded := by simp [hlist]
    obtain ⟨node, hnode, hexcluded, hreason, hcandidate⟩ := (self.mem_candidates_iff _ _ _).mp hin
    obtain ⟨mode, hmode, _⟩ := Option.map_eq_some_iff.mp hcandidate
    exact ⟨node, hnode, hexcluded, hreason, by simp [hmode]⟩

/-- A lease that `_place_locked` issues for the work at the given time. -/
structure IssuedFor (requirement : WorkRequirement) (excluded : List String) (now lease_seconds : ℚ)
    (lease : WorkLease) : Prop where
  work_id_eq : lease.work_id = normalized requirement.work_id
  not_excluded : lease.node_id ∉ excluded
  issued_at_eq : lease.issued_at = now
  expires_at_eq : lease.expires_at = now + lease_seconds

/-- The ways placement can end: no node, a lease refused for its duration, or a new lease. -/
inductive PlacementResult (self : DistributedWorkCoordinator) (requirement : WorkRequirement)
    (excluded : List String) (now lease_seconds : ℚ) :
    Except Error WorkPlacementDecision × DistributedWorkCoordinator → Prop where
  | unplaced (hplaceable : ¬ self.Placeable requirement excluded) :
    PlacementResult self requirement excluded now lease_seconds
      (.ok (unplaced_decision (self.exclusions requirement excluded)), self)
  | refused (hplaceable : self.Placeable requirement excluded) (hseconds : lease_seconds ≤ 0) (error : Error) :
    PlacementResult self requirement excluded now lease_seconds (.error error, self)
  | placed (hplaceable : self.Placeable requirement excluded) (hseconds : 0 < lease_seconds)
    (lease : WorkLease) (chosen : WorkCandidate) (rest : List WorkCandidate)
    (hissued : IssuedFor requirement excluded now lease_seconds lease)
    (hrecord : LeaseOnRecord self.requirements lease.work_id lease) :
    PlacementResult self requirement excluded now lease_seconds
      (.ok (placed_decision lease chosen rest (self.exclusions requirement excluded)),
        self.store_lease lease hrecord)

theorem place_locked_result
    (hrecorded : self.Recorded requirement) (now lease_seconds : ℚ) (excluded : List String) :
    PlacementResult self requirement excluded now lease_seconds
      (self.place_locked requirement hrecorded now lease_seconds excluded) := by
  unfold place_locked
  split
  · rename_i hranked
    apply PlacementResult.unplaced
    rw [placeable_iff_ranked, not_not]
    exact hranked
  · rename_i chosen rest hranked
    have hplaceable : self.Placeable requirement excluded := by
      rw [placeable_iff_ranked, hranked]
      simp
    have hmem : chosen ∈ ranked (self.candidates requirement excluded) := by simp [hranked]
    split
    · rename_i error herror
      apply PlacementResult.refused hplaceable
      unfold new_lease at herror
      split at herror
      · cases herror
      · rename_i hexpiry
        linarith
    · rename_i lease hlease
      have hissue := lease.expiry_follows_issue
      obtain ⟨hwork, hnode, hissued, hexpires⟩ := new_lease_ok hlease
      apply PlacementResult.placed hplaceable
      · rw [hissued, hexpires] at hissue
        linarith
      · exact ⟨hwork, hnode ▸ (ranked_node_id hmem).2, hissued, hexpires⟩

@[simp] theorem leases_withdraw (work node : String) :
    (self.withdraw work node).leases = self.leases.pop work := rfl

/-- A withdrawal adds the node to the refusals of the work. -/
theorem refused_by_withdraw (work node other : String) :
    (self.withdraw work node).refused_by other =
      if other = work then (self.refused_by work).insert node else self.refused_by other := by
  change ((self.refusals.set work _).get? other).getD [] = _
  rw [Dict.get?_set]
  split
  · rfl
  · rfl

theorem mem_refused_by_withdraw (work node : String) :
    node ∈ (self.withdraw work node).refused_by work := by
  rw [refused_by_withdraw, if_pos rfl]
  exact List.mem_insert_self

@[simp] theorem leases_store_lease (lease : WorkLease)
    (hrecord : LeaseOnRecord self.requirements lease.work_id lease) :
    (self.store_lease lease hrecord).leases = self.leases.set lease.work_id lease := rfl

/-- Whether a lease is still running at a time. -/
def unexpired (now : ℚ) (lease : WorkLease) : Bool :=
  !decide (lease.expires_at ≤ now)

variable {lease : WorkLease}

omit [StrLower] in
@[simp] theorem unexpired_iff {now : ℚ} :
    unexpired now lease = true ↔ now < lease.expires_at := by
  simp [unexpired]

@[simp] theorem expire_leases_get? (self : DistributedWorkCoordinator) (now : ℚ) (key : String) :
    (self.expire_leases_locked now).leases.get? key = (self.leases.get? key).filter (unexpired now) :=
  Dict.get?_filter self.leases _ key

/-- A newly issued lease, as far as the lease table and its times are concerned. -/
structure NewLease (work : String) (now lease_seconds : ℚ) (lease : WorkLease) : Prop where
  work_id_eq : lease.work_id = work
  issued_at_eq : lease.issued_at = now
  expires_at_eq : lease.expires_at = now + lease_seconds
  seconds_pos : 0 < lease_seconds

/-- Placing work that holds no lease: a bad duration is refused, otherwise the expired leases go
and the decision's lease, if there is one, is the work's lease from now on. -/
theorem place_of_unleased
    (now lease_seconds : ℚ) (hnone : self.leases.get? (normalized requirement.work_id) = none) :
    (∃ error, self.place requirement now lease_seconds [] = (.error error, self)) ∨
    ∃ decision, (self.place requirement now lease_seconds []).1 = .ok decision ∧
      (∀ key, key ≠ normalized requirement.work_id →
        (self.place requirement now lease_seconds []).2.leases.get? key =
          (self.leases.get? key).filter (unexpired now)) ∧
      (self.place requirement now lease_seconds []).2.leases.get? (normalized requirement.work_id) =
        decision.lease ∧
      (∀ lease, decision.lease = some lease →
        NewLease (normalized requirement.work_id) now lease_seconds lease) := by
  unfold place
  by_cases hseconds : lease_seconds ≤ 0
  · rw [if_pos hseconds]
    exact Or.inl ⟨_, rfl⟩
  · rw [if_neg hseconds]
    right
    have hunleased : (self.expire_leases_locked now).leases.get? (normalized requirement.work_id) = none := by
      rw [expire_leases_get?, hnone]
      rfl
    dsimp only
    rw [hunleased]
    dsimp only
    have hresult := place_locked_result ((self.expire_leases_locked now).set_requirement requirement)
      requirement (recorded_set_requirement _ requirement) now lease_seconds
      (([].map normalized).filter (· ≠ "") ++
        (self.expire_leases_locked now).refused_by (normalized requirement.work_id))
    have hsame : ∀ key, ((self.expire_leases_locked now).set_requirement requirement).leases.get? key =
        (self.leases.get? key).filter (unexpired now) := expire_leases_get? self now
    generalize hplace : place_locked _ requirement _ now lease_seconds _ = result at hresult
    cases hresult with
    | unplaced hplaceable =>
      refine ⟨_, rfl, fun key _ => hsame key, ?_, ?_⟩
      · exact (hsame _).trans (by rw [hnone]; rfl)
      · intro lease hlease
        cases hlease
    | refused hplaceable hnonpos error => exact absurd hnonpos hseconds
    | placed hplaceable hpos lease chosen rest hissued hrecord =>
      refine ⟨_, rfl, ?_, ?_, ?_⟩
      · intro key hkey
        rw [leases_store_lease, hissued.work_id_eq, Dict.get?_set_of_ne _ _ hkey]
        exact hsame key
      · rw [leases_store_lease, hissued.work_id_eq]
        exact Dict.get?_set_self _ _ _
      · intro issued hlease
        cases hlease
        exact ⟨hissued.work_id_eq, hissued.issued_at_eq, hissued.expires_at_eq, hpos⟩

variable {self : DistributedWorkCoordinator} {requirement : WorkRequirement} {now lease_seconds : ℚ}

/-- Whether work that is withdrawn from a node finds another one. -/
def Replaceable (self : DistributedWorkCoordinator) (work node : String) (requirement : WorkRequirement) :
    Prop :=
  (self.withdraw work node).Placeable requirement ((self.withdraw work node).refused_by work)

instance (self : DistributedWorkCoordinator) (work node : String) (requirement : WorkRequirement) :
    Decidable (self.Replaceable work node requirement) :=
  inferInstanceAs (Decidable (Placeable _ _ _))

/-- The ways a reassignment can end: with the work withdrawn and no node for it, with a lease
refused for its duration, or with a lease on another node. -/
inductive ReassignResult (self : DistributedWorkCoordinator) (work node reason : String)
    (requirement : WorkRequirement) (now lease_seconds : ℚ) :
    Except Error WorkPlacementDecision × DistributedWorkCoordinator → Prop where
  | unplaced (hreplaceable : ¬ self.Replaceable work node requirement) :
    ReassignResult self work node reason requirement now lease_seconds
      (.ok ((unplaced_decision ((self.withdraw work node).exclusions requirement
        ((self.withdraw work node).refused_by work))).with_reason reason), self.withdraw work node)
  | refused (hreplaceable : self.Replaceable work node requirement) (hseconds : lease_seconds ≤ 0)
    (error : Error) :
    ReassignResult self work node reason requirement now lease_seconds
      (.error error, self.withdraw work node)
  | placed (hreplaceable : self.Replaceable work node requirement) (decision : WorkPlacementDecision)
    (lease : WorkLease) (hdecision : decision.lease = some lease)
    (hnew : NewLease work now lease_seconds lease) (hnode : lease.node_id ≠ node)
    (hrecord : LeaseOnRecord (self.withdraw work node).requirements lease.work_id lease) :
    ReassignResult self work node reason requirement now lease_seconds
      (.ok decision, (self.withdraw work node).store_lease lease hrecord)

theorem reassign_locked_result (self : DistributedWorkCoordinator) {work : String} (node reason : String)
    (hget : self.requirements.get? work = some requirement) (now lease_seconds : ℚ) :
    ReassignResult self work node reason requirement now lease_seconds
      (self.reassign_locked work node reason requirement hget now lease_seconds) := by
  have hkeyed := self.requirement_keyed hget
  have hresult := place_locked_result (self.withdraw work node) requirement
    (recorded_of_get? (self.withdraw work node) hget) now lease_seconds
    ((self.withdraw work node).refused_by work)
  unfold reassign_locked
  generalize place_locked _ requirement _ now lease_seconds _ = result at hresult ⊢
  cases hresult with
  | unplaced hplaceable => exact .unplaced hplaceable
  | refused hplaceable hseconds error => exact .refused hplaceable hseconds error
  | placed hplaceable hseconds lease chosen rest hissued hrecord =>
    dsimp only [Except.map]
    refine .placed hplaceable _ lease (WorkPlacementDecision.with_reason_lease _ _) ?_ ?_ hrecord
    · exact ⟨hkeyed ▸ hissued.work_id_eq, hissued.issued_at_eq, hissued.expires_at_eq, hseconds⟩
    · intro hsame
      apply hissued.not_excluded
      rw [hsame]
      exact self.mem_refused_by_withdraw work node

variable {work node reason : String}

/-- What a reassignment does to the lease table: only the work's own entry changes, and it changes
to the lease of the decision. -/
theorem ReassignResult.leases {result : Except Error WorkPlacementDecision × DistributedWorkCoordinator}
    (hresult : ReassignResult self work node reason requirement now lease_seconds result) :
    (∀ key, key ≠ work → result.2.leases.get? key = self.leases.get? key) ∧
    (∀ decision, result.1 = .ok decision → result.2.leases.get? work = decision.lease ∧
      ∀ lease, decision.lease = some lease →
        NewLease work now lease_seconds lease ∧ lease.node_id ≠ node) ∧
    (∀ error, result.1 = .error error → result.2.leases.get? work = none ∧ lease_seconds ≤ 0) ∧
    result.2.requirements = self.requirements := by
  cases hresult with
  | unplaced hreplaceable =>
    refine ⟨fun key hkey => Dict.get?_pop_of_ne _ hkey, ?_, by simp, rfl⟩
    intro decision hdecision
    cases hdecision
    refine ⟨Dict.get?_pop_self _ _, ?_⟩
    intro lease hlease
    cases hlease
  | refused hreplaceable hseconds error =>
    refine ⟨fun key hkey => Dict.get?_pop_of_ne _ hkey, by simp, ?_, rfl⟩
    intro _ _
    exact ⟨Dict.get?_pop_self _ _, hseconds⟩
  | placed hreplaceable decision lease hdecision hnew hnode hrecord =>
    refine ⟨?_, ?_, by simp, rfl⟩
    · intro key hkey
      rw [leases_store_lease, hnew.work_id_eq, Dict.get?_set_of_ne _ _ hkey, leases_withdraw,
        Dict.get?_pop_of_ne _ hkey]
    · intro decision' hdecision'
      cases hdecision'
      rw [leases_store_lease, hnew.work_id_eq, Dict.get?_set_self, hdecision]
      refine ⟨rfl, ?_⟩
      intro lease' hlease'
      cases hlease'
      exact ⟨hnew, hnode⟩

section

variable (hlease : self.leases.get? work = some lease) (hnode : lease.node_id = node) (hreason : ¬ Blank reason)

include hlease hnode hreason

/-- The refusal of the node that owns the lease is a reassignment. -/
theorem refuse_and_reassign_eq (now lease_seconds : ℚ) :
    ∃ requirement, ∃ hget : self.requirements.get? work = some requirement,
      self.refuse_and_reassign work node reason now lease_seconds =
        self.reassign_locked work node (node ++ " refused:" ++ normalized reason) requirement hget now
          lease_seconds := by
  obtain ⟨_, hnormal, hnode_normal, requirement, hget⟩ := self.record_of_lease hlease
  refine ⟨requirement, hget, ?_⟩
  have hreason' : normalized reason ≠ "" := fun hempty =>
    hreason ((normalized_eq_empty_iff reason).mp hempty)
  have hsame : normalized node = node := hnode ▸ hnode_normal
  unfold refuse_and_reassign
  dsimp only
  rw [if_neg hreason', hsame]
  split
  · rename_i owned found hfound hrequired
    have howned : owned = lease := by
      rw [hnormal, hlease] at hfound
      exact (Option.some.inj hfound).symm
    have hsame_requirement : found = requirement := by
      rw [hnormal, hget] at hrequired
      exact (Option.some.inj hrequired).symm
    subst howned hsame_requirement
    rw [if_neg (not_not_intro hnode)]
    have hreassign : ∀ key (hkey : self.requirements.get? key = some found), key = work →
        self.reassign_locked key node (node ++ " refused:" ++ normalized reason) found hkey now lease_seconds =
          self.reassign_locked work node (node ++ " refused:" ++ normalized reason) found hget now
            lease_seconds := by
      rintro _ hkey rfl
      rfl
    exact hreassign _ hrequired hnormal
  · rename_i hother
    exact absurd (by rw [hnormal]; exact hget) (hother lease requirement (by rw [hnormal]; exact hlease))

/-- A node that owns the lease is refused nothing: its refusal withdraws the work. -/
theorem refuse_and_reassign_owned (now lease_seconds : ℚ) :
    ∃ requirement, self.requirements.get? work = some requirement ∧
      ReassignResult self work node (node ++ " refused:" ++ normalized reason) requirement now lease_seconds
        (self.refuse_and_reassign work node reason now lease_seconds) := by
  obtain ⟨requirement, hget, hsame⟩ := refuse_and_reassign_eq hlease hnode hreason now lease_seconds
  rw [hsame]
  exact ⟨requirement, hget, self.reassign_locked_result node _ hget now lease_seconds⟩

end

/-- The owner of a lease can complete it. -/
theorem complete_owned {work node : String} (hlease : self.leases.get? work = some lease)
    (hnode : lease.node_id = node) :
    self.complete work node = (true, self.forget_work work) := by
  obtain ⟨_, hnormal, hnode_normal, _⟩ := self.record_of_lease hlease
  subst hnode
  unfold complete
  dsimp only
  rw [hnormal, hnode_normal, hlease]
  simp

theorem place_locked_frame (self : DistributedWorkCoordinator) (requirement : WorkRequirement)
    (hrecorded : self.Recorded requirement) (now lease_seconds : ℚ) (excluded : List String) :
    (self.place_locked requirement hrecorded now lease_seconds excluded).2.registry = self.registry ∧
      (self.place_locked requirement hrecorded now lease_seconds excluded).2.requirements = self.requirements := by
  have hresult := self.place_locked_result requirement hrecorded now lease_seconds excluded
  generalize self.place_locked requirement hrecorded now lease_seconds excluded = result at hresult
  cases hresult with
  | unplaced => exact ⟨rfl, rfl⟩
  | refused => exact ⟨rfl, rfl⟩
  | placed => exact ⟨rfl, rfl⟩

theorem registry_place (self : DistributedWorkCoordinator) (requirement : WorkRequirement) (now lease_seconds : ℚ)
    (exclude_nodes : List String) :
    (self.place requirement now lease_seconds exclude_nodes).2.registry = self.registry := by
  unfold place
  split
  · rfl
  · dsimp only
    split
    · rfl
    · exact (place_locked_frame _ requirement _ now lease_seconds _).1

variable {decision : WorkPlacementDecision} {hrecorded : self.Recorded requirement} {excluded : List String}

section

variable (hdecision : (self.place_locked requirement hrecorded now lease_seconds excluded).1 = .ok decision)
variable (hlease : decision.lease = some lease)

include hdecision hlease

/-- The lease of a decision is that of a ranked candidate. -/
theorem chosen_of_placed :
    ∃ chosen ∈ ranked (self.candidates requirement excluded),
      new_lease requirement chosen now lease_seconds = .ok lease := by
  unfold place_locked at hdecision
  split at hdecision
  · cases hdecision
    cases hlease
  · rename_i chosen rest hranked
    split at hdecision
    · cases hdecision
    · rename_i issued hissued
      cases hdecision
      cases hlease
      exact ⟨chosen, by simp [hranked], hissued⟩

end

end velvet.distributed_work_coordinator.DistributedWorkCoordinator
