import VelvetRuntime.DistributedWork.Recovery
import VelvetRuntime.ResourceAware.Coordinator

open python python.str

namespace velvet.distributed_work_coordinator.DistributedWorkCoordinator

variable [StrLower]

/-- The ids of the registered nodes, as leases have them. -/
def registered_ids (self : DistributedWorkCoordinator) : List String :=
  self.registry.snapshot.map (fun node => normalized node.node_id)

/-- The registered nodes that have not refused a work. -/
def willing (self : DistributedWorkCoordinator) (work : String) : List String :=
  self.registered_ids.filter (fun node_id => node_id ∉ self.refused_by work)

/-- A lease is named after its work and its node. -/
structure Named (lease : WorkLease) : Prop where
  lease_id_eq : lease.lease_id = lease.work_id ++ ":" ++ lease.node_id
  work_text : lease.work_id ≠ ""
  node_text : lease.node_id ≠ ""

/-- The lease that a call leaves the work with. -/
def lease_of : Except Error WorkPlacementDecision → Option WorkLease
  | .ok decision => decision.lease
  | .error _ => none

/-- What placing and withdrawing one work does: no other lease changes, the work has the lease of the outcome, and
that lease is a new one on a willing node. -/
structure Placed (before after : DistributedWorkCoordinator) (work : String) (now lease_seconds : ℚ)
    (outcome : Option WorkLease) : Prop where
  registry : after.registry = before.registry
  others : ∀ key, key ≠ work → after.leases.get? key = before.leases.get? key
  own : after.leases.get? work = outcome
  refused : ∀ node_id ∈ before.refused_by work, node_id ∈ after.refused_by work
  other_refusals : ∀ key, key ≠ work → after.refused_by key = before.refused_by key
  node : ∀ lease, outcome = some lease → lease.node_id ∈ after.willing work
  issued : ∀ lease, outcome = some lease → Named lease ∧ NewLease work now lease_seconds lease

variable {now lease_seconds : ℚ} {work : String}

theorem Placed.trans {first second third : DistributedWorkCoordinator} {middle last : Option WorkLease}
    (hfirst : Placed first second work now lease_seconds middle)
    (hsecond : Placed second third work now lease_seconds last) : Placed first third work now lease_seconds last where
  registry := hsecond.registry.trans hfirst.registry
  others := fun key hkey => (hsecond.others key hkey).trans (hfirst.others key hkey)
  own := hsecond.own
  refused := fun node_id hnode => hsecond.refused node_id (hfirst.refused node_id hnode)
  other_refusals := fun key hkey => (hsecond.other_refusals key hkey).trans (hfirst.other_refusals key hkey)
  node := hsecond.node
  issued := hsecond.issued

variable {before after : DistributedWorkCoordinator} {outcome : Option WorkLease}

theorem Placed.stay (hplaced : Placed before after work now lease_seconds outcome) :
    Placed after after work now lease_seconds outcome :=
  ⟨rfl, fun _ _ => rfl, hplaced.own, fun _ hin => hin, fun _ _ => rfl, hplaced.node, hplaced.issued⟩

theorem Placed.registered_ids (hplaced : Placed before after work now lease_seconds outcome) :
    after.registered_ids = before.registered_ids := by
  unfold DistributedWorkCoordinator.registered_ids
  rw [hplaced.registry]

/-- Each refusal leaves fewer willing nodes. -/
theorem Placed.willing_lt {work node : String} (hplaced : Placed before after work now lease_seconds outcome)
    (hwilling : node ∈ before.willing work) (hrefused : node ∈ after.refused_by work) :
    (after.willing work).length < (before.willing work).length := by
  have hsub : after.willing work = (before.willing work).filter (fun node_id => node_id ∉ after.refused_by work) := by
    unfold willing
    rw [hplaced.registered_ids, List.filter_filter]
    apply List.filter_congr
    intro node_id _
    have hkeep := hplaced.refused node_id
    by_cases hafter : node_id ∈ after.refused_by work
    · simp [hafter]
    · have hbefore : node_id ∉ before.refused_by work := fun hin => hafter (hkeep hin)
      simp [hafter, hbefore]
  rw [hsub]
  refine List.length_filter_lt_length_iff_exists.mpr ⟨node, hwilling, ?_⟩
  simpa using hrefused

variable {self : DistributedWorkCoordinator} {requirement : WorkRequirement}

/-- The lease for a candidate is named, and its node is registered. -/
theorem new_lease_named {excluded : List String} {chosen : WorkCandidate} {lease : WorkLease}
    (hmem : chosen ∈ ranked (self.candidates requirement excluded))
    (hlease : new_lease requirement chosen now lease_seconds = .ok lease) :
    Named lease ∧ lease.node_id ∈ self.registered_ids := by
  obtain ⟨node, hnode, _, _, hcandidate⟩ := (self.mem_candidates_iff _ _ _).mp (mem_ranked hmem)
  have hid := candidate_node_id hcandidate
  unfold new_lease at hlease
  split at hlease
  · cases hlease
    dsimp only
    rw [hid]
    refine ⟨⟨rfl, ?_, ?_⟩, List.mem_map_of_mem hnode⟩
    · exact fun hempty => requirement.work_id_text ((normalized_eq_empty_iff _).mp hempty)
    · exact fun hempty => node.node_id_text ((normalized_eq_empty_iff _).mp hempty)
  · cases hlease

/-- Placement of a work without a lease, with at least its refusals excluded. -/
theorem place_locked_placed (self : DistributedWorkCoordinator) (hrecorded : self.Recorded requirement)
    (hwork : normalized requirement.work_id = work) (hnone : self.leases.get? work = none) (excluded : List String)
    (hexcluded : ∀ node_id ∈ self.refused_by work, node_id ∈ excluded) (now lease_seconds : ℚ) :
    Placed self (self.place_locked requirement hrecorded now lease_seconds excluded).2 work now lease_seconds
      (lease_of (self.place_locked requirement hrecorded now lease_seconds excluded).1) ∧
    ∀ error, (self.place_locked requirement hrecorded now lease_seconds excluded).1 = .error error →
      lease_seconds ≤ 0 := by
  have hstay : Placed self self work now lease_seconds none :=
    ⟨rfl, fun _ _ => rfl, hnone, fun _ hin => hin, fun _ _ => rfl, by simp, by simp⟩
  unfold place_locked
  split
  · exact ⟨hstay, by simp⟩
  · rename_i chosen rest hranked
    have hmem : chosen ∈ ranked (self.candidates requirement excluded) := by simp [hranked]
    split
    · rename_i error herror
      refine ⟨hstay, fun _ _ => ?_⟩
      unfold new_lease at herror
      split at herror
      · cases herror
      · rename_i hexpiry
        linarith
    · rename_i lease hlease
      obtain ⟨hnamed, hregistered⟩ := new_lease_named hmem hlease
      obtain ⟨hlease_work, hlease_node, hissued, hexpires⟩ := new_lease_ok hlease
      have hpos : 0 < lease_seconds := by
        have hfollows := lease.expiry_follows_issue
        rw [hissued, hexpires] at hfollows
        linarith
      have hkey : lease.work_id = work := hlease_work.trans hwork
      refine ⟨⟨rfl, ?_, ?_, fun _ hin => hin, fun _ _ => rfl, ?_, ?_⟩, by simp⟩
      · intro key hne
        rw [leases_store_lease, hkey, Dict.get?_set_of_ne _ _ hne]
      · rw [leases_store_lease, hkey, Dict.get?_set_self]
        rfl
      · intro issued hsame
        cases hsame
        refine List.mem_filter.mpr ⟨hregistered, ?_⟩
        have hopen := (ranked_node_id hmem).2
        rw [← hlease_node] at hopen
        have hwilling : lease.node_id ∉ self.refused_by work := fun hin => hopen (hexcluded _ hin)
        exact decide_eq_true hwilling
      · intro issued hsame
        cases hsame
        exact ⟨hnamed, hkey, hissued, hexpires, hpos⟩

/-- A reassignment excludes the node from then on. -/
theorem reassign_locked_placed (node reason : String) (hget : self.requirements.get? work = some requirement)
    (now lease_seconds : ℚ) :
    Placed self (self.reassign_locked work node reason requirement hget now lease_seconds).2 work now lease_seconds
      (lease_of (self.reassign_locked work node reason requirement hget now lease_seconds).1) ∧
    node ∈ (self.reassign_locked work node reason requirement hget now lease_seconds).2.refused_by work ∧
    ∀ error, (self.reassign_locked work node reason requirement hget now lease_seconds).1 = .error error →
      lease_seconds ≤ 0 := by
  have hwithdraw : ∀ node_id, node_id = node ∨ node_id ∈ self.refused_by work →
      node_id ∈ (self.withdraw work node).refused_by work := by
    intro node_id hnode
    rw [refused_by_withdraw, if_pos rfl]
    exact List.mem_insert_iff.mpr hnode
  obtain ⟨hplaced, herror⟩ := (self.withdraw work node).place_locked_placed
    (recorded_of_get? (self.withdraw work node) hget) (self.requirement_keyed hget) (Dict.get?_pop_self _ _)
    ((self.withdraw work node).refused_by work) (fun _ hin => hin) now lease_seconds
  unfold reassign_locked
  generalize place_locked _ requirement _ now lease_seconds _ = result at hplaced herror ⊢
  obtain ⟨outcome, after⟩ := result
  have hsame : lease_of (outcome.map (fun decision => decision.with_reason reason)) = lease_of outcome := by
    cases outcome <;> rfl
  refine ⟨⟨hplaced.registry, ?_, ?_, ?_, ?_, ?_, ?_⟩, hplaced.refused node (hwithdraw node (Or.inl rfl)), ?_⟩
  · intro key hkey
    exact (hplaced.others key hkey).trans (Dict.get?_pop_of_ne _ hkey)
  · rw [hsame]
    exact hplaced.own
  · exact fun node_id hin => hplaced.refused node_id (hwithdraw node_id (Or.inr hin))
  · intro key hkey
    refine (hplaced.other_refusals key hkey).trans ?_
    change ((self.refusals.set work _).get? key).getD [] = _
    rw [Dict.get?_set_of_ne _ _ hkey]
    rfl
  · rw [hsame]
    exact hplaced.node
  · rw [hsame]
    exact hplaced.issued
  · intro error hraised
    cases outcome with
    | ok decision => cases hraised
    | error found => exact herror found rfl

/-- The node that owns a lease refuses it. -/
theorem refuse_and_reassign_placed {work node reason : String} {lease : WorkLease}
    (hlease : self.leases.get? work = some lease) (hnode : lease.node_id = node) (hreason : ¬ Blank reason)
    (now lease_seconds : ℚ) :
    Placed self (self.refuse_and_reassign work node reason now lease_seconds).2 work now lease_seconds
      (lease_of (self.refuse_and_reassign work node reason now lease_seconds).1) ∧
    node ∈ (self.refuse_and_reassign work node reason now lease_seconds).2.refused_by work ∧
    ∀ error, (self.refuse_and_reassign work node reason now lease_seconds).1 = .error error →
      lease_seconds ≤ 0 := by
  obtain ⟨requirement, hget, hsame⟩ := refuse_and_reassign_eq hlease hnode hreason now lease_seconds
  rw [hsame]
  exact reassign_locked_placed node _ hget now lease_seconds

/-- Refusals are looked up under normalised ids. -/
theorem refuse_and_reassign_normalized (self : DistributedWorkCoordinator) (work_id node_id reason : String)
    (now lease_seconds : ℚ) :
    self.refuse_and_reassign work_id node_id reason now lease_seconds =
      self.refuse_and_reassign (normalized work_id) (normalized node_id) reason now lease_seconds := by
  have hwork := normalized_normalized work_id
  unfold refuse_and_reassign
  dsimp only
  rw [normalized_normalized node_id]
  generalize normalized (normalized work_id) = work at hwork ⊢
  subst hwork
  rfl

/-- A refusal by anyone else changes nothing. -/
theorem refuse_and_reassign_not_owned {work_id node_id : String} (reason : String)
    (hnot : ∀ lease, self.leases.get? (normalized work_id) = some lease → lease.node_id ≠ normalized node_id)
    (now lease_seconds : ℚ) :
    (self.refuse_and_reassign work_id node_id reason now lease_seconds).2 = self ∧
      lease_of (self.refuse_and_reassign work_id node_id reason now lease_seconds).1 = none := by
  unfold refuse_and_reassign
  dsimp only
  split
  · exact ⟨rfl, rfl⟩
  · split
    · rename_i lease requirement hlease hrequirement
      rw [if_pos (hnot lease hlease)]
      exact ⟨rfl, rfl⟩
    · exact ⟨rfl, rfl⟩

/-- Placement of a work whose lease, if any, has expired. -/
theorem place_placed (hwork : normalized requirement.work_id = work) {now : ℚ}
    (hnone : (self.expire_leases_locked now).leases.get? work = none) (lease_seconds : ℚ)
    (exclude_nodes : List String) :
    (∃ error, self.place requirement now lease_seconds exclude_nodes = (.error error, self)) ∨
    Placed (self.expire_leases_locked now) (self.place requirement now lease_seconds exclude_nodes).2 work now
      lease_seconds (lease_of (self.place requirement now lease_seconds exclude_nodes).1) := by
  subst hwork
  unfold place
  by_cases hseconds : lease_seconds ≤ 0
  · rw [if_pos hseconds]
    exact Or.inl ⟨_, rfl⟩
  · rw [if_neg hseconds]
    dsimp only
    rw [hnone]
    dsimp only
    obtain ⟨hplaced, _⟩ := ((self.expire_leases_locked now).set_requirement requirement).place_locked_placed
      (recorded_set_requirement _ requirement) rfl hnone
      ((exclude_nodes.map normalized).filter (· ≠ "") ++
        (self.expire_leases_locked now).refused_by (normalized requirement.work_id))
      (fun _ hin => List.mem_append_right _ hin) now lease_seconds
    exact Or.inr ⟨hplaced.registry, hplaced.others, hplaced.own, hplaced.refused, hplaced.other_refusals, hplaced.node,
      hplaced.issued⟩

/-- Placement of a work that holds an unexpired lease changes no more than the expired leases. -/
theorem place_leased {now : ℚ} {existing : WorkLease}
    (hleased : (self.expire_leases_locked now).leases.get? (normalized requirement.work_id) = some existing)
    (lease_seconds : ℚ) (exclude_nodes : List String) :
    (∃ error, self.place requirement now lease_seconds exclude_nodes = (.error error, self)) ∨
    self.place requirement now lease_seconds exclude_nodes =
      (.ok (already_leased existing), self.expire_leases_locked now) := by
  unfold place
  by_cases hseconds : lease_seconds ≤ 0
  · rw [if_pos hseconds]
    exact Or.inl ⟨_, rfl⟩
  · rw [if_neg hseconds]
    dsimp only
    rw [hleased]
    exact Or.inr rfl

/-- The recovery loop leaves each affected work with the lease of its decision, on a willing node. -/
theorem recover_works_placed (now lease_seconds : ℚ) (affected : List (String × WorkLease))
    (self : DistributedWorkCoordinator) (hnodup : (affected.map Prod.fst).Nodup)
    (hrequired : ∀ entry ∈ affected, ∃ requirement, self.requirements.get? entry.1 = some requirement) :
    (self.recover_works now lease_seconds affected).2.registry = self.registry ∧
    (∀ key, key ∉ affected.map Prod.fst →
      (self.recover_works now lease_seconds affected).2.refused_by key = self.refused_by key) ∧
    ∀ decisions, (self.recover_works now lease_seconds affected).1 = .ok decisions →
      List.Forall₂ (fun entry decision => Placed (self.recover_works now lease_seconds affected).2
        (self.recover_works now lease_seconds affected).2 entry.1 now lease_seconds decision.lease)
        affected decisions := by
  induction affected generalizing self with
  | nil =>
    refine ⟨rfl, fun _ _ => rfl, ?_⟩
    intro decisions hdecisions
    cases hdecisions
    exact .nil
  | cons entry rest ih =>
    obtain ⟨work_id, old_lease⟩ := entry
    rw [List.map_cons, List.nodup_cons] at hnodup
    obtain ⟨hfresh, hrest_nodup⟩ := hnodup
    obtain ⟨requirement, hget⟩ := hrequired _ (List.mem_cons_self)
    rw [recover_works_cons hget now lease_seconds rest]
    have hrequirements := (self.reassign_locked_result old_lease.node_id ("recovery-from:" ++ old_lease.node_id)
      hget now lease_seconds).leases.2.2.2
    obtain ⟨hplaced, _⟩ := reassign_locked_placed old_lease.node_id ("recovery-from:" ++ old_lease.node_id) hget now
      lease_seconds
    generalize self.reassign_locked work_id old_lease.node_id ("recovery-from:" ++ old_lease.node_id)
      requirement hget now lease_seconds = result at hplaced hrequirements
    obtain ⟨outcome, next⟩ := result
    have hothers : ∀ key, key ∉ ((work_id, old_lease) :: rest).map Prod.fst → key ≠ work_id := by
      rintro _ hkey rfl
      exact hkey (by simp)
    cases outcome with
    | error error =>
      refine ⟨hplaced.registry, fun key hkey => hplaced.other_refusals key (hothers key hkey), ?_⟩
      intro decisions hdecisions
      cases hdecisions
    | ok decision =>
      have hrest_required : ∀ entry ∈ rest, ∃ requirement, next.requirements.get? entry.1 = some requirement := by
        intro entry hentry
        rw [hrequirements]
        exact hrequired entry (List.mem_cons_of_mem _ hentry)
      obtain ⟨hregistry, hrefusals, hdecided⟩ := ih next hrest_nodup hrest_required
      obtain ⟨hleases, _⟩ := recover_works_leases now lease_seconds rest next hrest_nodup hrest_required
      dsimp only
      refine ⟨hregistry.trans hplaced.registry, ?_, ?_⟩
      · intro key hkey
        have hrest : key ∉ rest.map Prod.fst := fun hin => hkey (List.mem_cons_of_mem _ hin)
        exact (hrefusals key hrest).trans (hplaced.other_refusals key (hothers key hkey))
      · intro decisions hdecisions
        cases hrest : (next.recover_works now lease_seconds rest).1 with
        | error error =>
          rw [hrest] at hdecisions
          cases hdecisions
        | ok rest_decisions =>
          rw [hrest] at hdecisions
          cases hdecisions
          refine .cons ?_ (hdecided _ hrest)
          refine ⟨rfl, fun _ _ => rfl, ?_, fun _ hin => hin, fun _ _ => rfl, ?_, hplaced.issued⟩
          · exact (hleases work_id hfresh).trans hplaced.own
          · intro lease hlease
            have hwilling := hplaced.node lease hlease
            unfold willing registered_ids at hwilling ⊢
            dsimp only at hwilling ⊢
            rw [hregistry, hrefusals work_id hfresh]
            exact hwilling

end velvet.distributed_work_coordinator.DistributedWorkCoordinator

namespace velvet.body_capacity.ResourceAwareWorkCoordinator

open velvet.distributed_work_coordinator DistributedWorkCoordinator python.Program

variable [StrLower] {now lease_seconds : ℚ} {work : String}

variable {self : ResourceAwareWorkCoordinator} {raises : Error → ResourceAwareWorkCoordinator → Prop}

theorem wp_coordinate {α : Type} {method : DistributedWorkCoordinator → Except Error α × DistributedWorkCoordinator}
    {returns : α → ResourceAwareWorkCoordinator → Prop}
    (hreturns : ∀ value, (method self.coordinator).1 = .ok value →
      returns value { self with coordinator := (method self.coordinator).2 })
    (hraises : ∀ error, (method self.coordinator).1 = .error error →
      raises error { self with coordinator := (method self.coordinator).2 }) :
    wp (coordinate method) returns raises self := by
  unfold coordinate
  simp only [wp_bind, wp_get, wp_set, wp_of_except]
  cases hmethod : (method self.coordinator).1 with
  | ok value => exact hreturns value hmethod
  | error error => exact hraises error hmethod

/-- Placement records the requirements and excludes the nodes that do not meet them. -/
theorem wp_place {requirement : WorkRequirement} {resource_requirements : List ResourceRequirement}
    {exclude_nodes : List String} {returns : WorkPlacementDecision → ResourceAwareWorkCoordinator → Prop}
    (hreturns : ∀ resources excluded decision,
      (self.coordinator.place requirement now lease_seconds excluded).1 = .ok decision →
      returns decision {
        coordinator := (self.coordinator.place requirement now lease_seconds excluded).2
        resources
        requirements := self.requirements.set (normalized requirement.work_id) resource_requirements })
    (hraises : ∀ resources excluded error,
      (self.coordinator.place requirement now lease_seconds excluded).1 = .error error →
      raises error {
        coordinator := (self.coordinator.place requirement now lease_seconds excluded).2
        resources
        requirements := self.requirements.set (normalized requirement.work_id) resource_requirements }) :
    wp (place requirement resource_requirements now lease_seconds exclude_nodes) returns raises self := by
  unfold place
  simp only [wp_bind, wp_get, wp_set]
  apply wp_coordinate
  · exact hreturns _ _
  · exact hraises _ _

/-- A call that does no more than place and withdraw one work. -/
structure Moved (before after : ResourceAwareWorkCoordinator) (work : String) (now lease_seconds : ℚ)
    (outcome : Option WorkLease) : Prop where
  placed : Placed before.coordinator after.coordinator work now lease_seconds outcome
  requirements : after.requirements = before.requirements

theorem wp_meets {node_id : String} {requirements : List ResourceRequirement}
    {returns : Bool → ResourceAwareWorkCoordinator → Prop}
    (hreturns : ∀ eligible resources, returns eligible { self with resources }) :
    wp (meets node_id requirements) returns raises self := by
  unfold meets
  simp only [wp_bind, wp_get]
  cases self.coordinator.registry.get node_id with
  | none => exact hreturns false self.resources
  | some node => exact hreturns _ _

variable {lease : WorkLease}

/-- The refusal of a lease by its node, as the inner coordinator sees it. -/
theorem wp_coordinate_refuse {base self : ResourceAwareWorkCoordinator} {node reason : String}
    (hmoved : Moved base self work now lease_seconds (some lease)) (hnode : lease.node_id = node)
    (hreason : ¬ Blank reason) :
    wp (coordinate (fun coordinator => coordinator.refuse_and_reassign work node reason now lease_seconds))
      (fun decision after => Moved base after work now lease_seconds decision.lease)
      (fun _ after => Moved base after work now lease_seconds none ∧ lease_seconds ≤ 0) self := by
  obtain ⟨hplaced, _, herror⟩ := refuse_and_reassign_placed hmoved.placed.own hnode hreason now lease_seconds
  apply wp_coordinate
  · intro decision hdecision
    rw [hdecision] at hplaced
    exact ⟨hmoved.placed.trans hplaced, hmoved.requirements⟩
  · intro error hraised
    rw [hraised] at hplaced
    exact ⟨⟨hmoved.placed.trans hplaced, hmoved.requirements⟩, herror error hraised⟩

/-- The loop only moves the work. -/
theorem wp_ensure_resource_eligible {base : ResourceAwareWorkCoordinator} (attempts : Nat)
    (current : WorkPlacementDecision) (self : ResourceAwareWorkCoordinator)
    (hmoved : Moved base self work now lease_seconds current.lease) :
    wp (ensure_resource_eligible now lease_seconds attempts current)
      (fun decision after => Moved base after work now lease_seconds decision.lease)
      (fun _ after => Moved base after work now lease_seconds none ∧ lease_seconds ≤ 0) self := by
  induction attempts generalizing current self with
  | zero => exact hmoved
  | succ attempts ih =>
    unfold ensure_resource_eligible
    cases hlease : current.lease with
    | none =>
      rw [hlease] at hmoved
      simp only [wp_pure, hlease]
      exact hmoved
    | some lease =>
      rw [hlease] at hmoved
      have hwork : lease.work_id = work := (hmoved.placed.issued lease rfl).2.work_id_eq
      simp only [wp_bind, wp_get]
      split
      · simp only [wp_pure, hlease]
        exact hmoved
      · simp only [wp_bind]
        apply wp_meets
        intro eligible resources
        have hstill : Moved base { self with resources } work now lease_seconds (some lease) :=
          ⟨hmoved.placed, hmoved.requirements⟩
        split
        · simp only [wp_pure, hlease]
          exact hstill
        · simp only [wp_bind]
          rw [hwork]
          refine wp_mono (wp_coordinate_refuse hstill rfl (by decide)) ?_ (fun _ _ hend => hend)
          intro next after hnext
          exact ih next after hnext

theorem Moved.trans {first second third : ResourceAwareWorkCoordinator} {middle last : Option WorkLease}
    (hfirst : Moved first second work now lease_seconds middle)
    (hsecond : Moved second third work now lease_seconds last) : Moved first third work now lease_seconds last :=
  ⟨hfirst.placed.trans hsecond.placed, hsecond.requirements.trans hfirst.requirements⟩

variable {work_id node_id reason : String}

/-- A refusal of the lease by its node moves the work, and the node is not asked again. -/
theorem wp_refuse_and_reassign
    (hlease : self.coordinator.leases.get? (normalized work_id) = some lease)
    (hnode : lease.node_id = normalized node_id) (hreason : ¬ Blank reason) :
    wp (refuse_and_reassign work_id node_id reason now lease_seconds)
      (fun decision after => Moved self after (normalized work_id) now lease_seconds decision.lease ∧
        normalized node_id ∈ after.coordinator.refused_by (normalized work_id))
      (fun _ after => Moved self after (normalized work_id) now lease_seconds none ∧ lease_seconds ≤ 0) self := by
  obtain ⟨hplaced, hrefused, herror⟩ := refuse_and_reassign_placed hlease hnode hreason now lease_seconds
  rw [← refuse_and_reassign_normalized] at hplaced hrefused herror
  unfold refuse_and_reassign
  simp only [wp_bind]
  apply wp_coordinate
  · intro decision hdecision
    rw [hdecision] at hplaced
    have hfirst : Moved self { self with
        coordinator := (self.coordinator.refuse_and_reassign work_id node_id reason now lease_seconds).2 }
        (normalized work_id) now lease_seconds decision.lease := ⟨hplaced, rfl⟩
    refine wp_mono (wp_ensure_resource_eligible _ decision _ ⟨hfirst.placed.stay, rfl⟩) ?_ ?_
    · intro last after hlast
      exact ⟨hfirst.trans hlast, hlast.placed.refused _ hrefused⟩
    · intro error after hlast
      exact ⟨hfirst.trans hlast.1, hlast.2⟩
  · intro error hraised
    rw [hraised] at hplaced
    exact ⟨⟨hplaced, rfl⟩, herror error hraised⟩

/-- A refusal without a reason raises, and changes nothing. -/
theorem wp_refuse_and_reassign_blank (hreason : Blank reason) :
    wp (refuse_and_reassign work_id node_id reason now lease_seconds) (fun _ _ => False) (fun _ after => after = self)
      self := by
  have hrefuse : ∃ error, self.coordinator.refuse_and_reassign work_id node_id reason now lease_seconds =
      (.error error, self.coordinator) := by
    unfold DistributedWorkCoordinator.refuse_and_reassign
    dsimp only
    rw [if_pos ((normalized_eq_empty_iff reason).mpr hreason)]
    exact ⟨_, rfl⟩
  obtain ⟨error, hrefuse⟩ := hrefuse
  unfold refuse_and_reassign
  rw [wp_bind]
  apply wp_coordinate
  · intro decision hdecision
    rw [hrefuse] at hdecision
    cases hdecision
  · intro _ _
    rw [hrefuse]

/-- A refusal by anyone else changes nothing. -/
theorem wp_refuse_and_reassign_not_owned
    (hnot : ∀ lease, self.coordinator.leases.get? (normalized work_id) = some lease →
      lease.node_id ≠ normalized node_id) :
    wp (refuse_and_reassign work_id node_id reason now lease_seconds)
      (fun decision after => decision.lease = none ∧ after = self) (fun _ after => after = self) self := by
  obtain ⟨hsame, hnone⟩ := refuse_and_reassign_not_owned reason hnot now lease_seconds
  unfold refuse_and_reassign
  simp only [wp_bind]
  apply wp_coordinate
  · intro decision hdecision
    rw [hdecision] at hnone
    rw [hsame]
    simp only [wp_bind, wp_get]
    generalize max_attempts _ = attempts
    cases attempts with
    | zero => exact ⟨hnone, rfl⟩
    | succ attempts =>
      unfold ensure_resource_eligible
      change decision.lease = none at hnone
      rw [hnone]
      exact ⟨hnone, rfl⟩
  · intro error hraised
    rw [hsame]

/-- A lease that does not meet its requirements moves; otherwise it stays. -/
theorem wp_revalidate (hlease : self.coordinator.leases.get? work = some lease)
    (hnormal : normalized work = work) (hnamed : Named lease) (hnew : NewLease work now lease_seconds lease)
    (hwilling : lease.node_id ∈ self.coordinator.willing work) :
    wp (revalidate work now lease_seconds)
      (fun replacement after => ∃ outcome, Moved self after work now lease_seconds outcome ∧
        (replacement.map WorkPlacementDecision.lease).getD (some lease) = outcome)
      (fun _ after => Moved self after work now lease_seconds none ∧ lease_seconds ≤ 0) self := by
  have hstay : ∀ resources, Moved self { self with resources } work now lease_seconds (some lease) := by
    intro resources
    refine ⟨⟨rfl, fun _ _ => rfl, hlease, fun _ hin => hin, fun _ _ => rfl, ?_, ?_⟩, rfl⟩
    · intro _ hsame
      cases hsame
      exact hwilling
    · intro _ hsame
      cases hsame
      exact ⟨hnamed, hnew⟩
  unfold revalidate
  simp only [wp_bind, wp_get]
  have hfound : self.coordinator.lease_for work = some lease := by
    unfold DistributedWorkCoordinator.lease_for
    rw [hnormal]
    exact hlease
  rw [hfound]
  dsimp only
  split
  · exact ⟨_, hstay self.resources, rfl⟩
  · simp only [wp_bind]
    apply wp_meets
    intro eligible resources
    split
    · exact ⟨_, hstay resources, rfl⟩
    · have hnode : lease.node_id = normalized lease.node_id :=
        (self.coordinator.record_of_lease hlease).node_normal.symm
      simp only [wp_bind]
      refine wp_mono (wp_refuse_and_reassign (by rw [hnormal]; exact hlease) hnode (by decide)) ?_ ?_
      · intro decision after hmoved
        rw [hnormal] at hmoved
        exact ⟨decision.lease, (hstay resources).trans hmoved.1, rfl⟩
      · intro error after hmoved
        rw [hnormal] at hmoved
        exact ⟨(hstay resources).trans hmoved.1, hmoved.2⟩

end velvet.body_capacity.ResourceAwareWorkCoordinator
