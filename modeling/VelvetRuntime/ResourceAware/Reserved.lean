import VelvetRuntime.ResourceAware.Steps

open python python.str python.Program velvet.body_capacity velvet.distributed_work_coordinator
open velvet.resource_reservations
open DistributedWorkCoordinator (Placed Named NewLease)
open ResourceAwareWorkCoordinator (Moved)

namespace velvet.resource_reservations.ResourceReservationLedger

variable [StrLower]

/-- Staging fails only for want of capacity. -/
theorem stage_items_error {self : ResourceReservationLedger} {node : String} {resources : List ResourceAdvertisement}
    {requirements : List ResourceRequirement} {staged : Dict String ℚ} {error : Error}
    (herror : self.stage_items node resources requirements staged = .error error) :
    error.kind = .ResourceReservationUnavailable := by
  induction requirements generalizing staged with
  | nil => cases herror
  | cons requirement rest ih =>
    unfold stage_items at herror
    split at herror
    · cases herror
      rfl
    · dsimp only at herror
      split at herror
      · rename_i found hrest
        cases herror
        exact ih hrest
      · cases herror

/-- A reservation for work without one, with ids that are in normal form: it is made, or capacity is missing. -/
theorem reserve_cases (self : ResourceReservationLedger) (request : ReserveRequest)
    (hwork : normalized request.work_id = request.work_id) (hwork_text : request.work_id ≠ "")
    (hlease : collapse_text request.lease_id = request.lease_id) (hlease_text : request.lease_id ≠ "")
    (hnode : normalized request.node_id = request.node_id) (hnode_text : request.node_id ≠ "")
    (hadvertised : normalized request.advertisement.node_id = request.node_id)
    (hrequirements : request.requirements ≠ []) (hexpires : 0 < request.expires_at)
    (hnone : self.by_work.get? request.work_id = none) :
    (∃ error, self.reserve request = (.error error, self) ∧ error.kind = .ResourceReservationUnavailable) ∨
    ∃ reservation : ResourceReservation,
      self.reserve request = (.ok reservation, ⟨self.by_work.set request.work_id reservation⟩) ∧
        reservation.work_id = request.work_id ∧ reservation.lease_id = request.lease_id ∧
        reservation.node_id = request.node_id ∧ reservation.expires_at = request.expires_at := by
  unfold reserve
  rw [hwork, hlease, hnode]
  dsimp only
  rw [if_neg (by simp [hwork_text, hlease_text, hnode_text]), if_neg (not_not_intro hadvertised),
    if_neg hrequirements, hnone]
  dsimp only
  split
  · rename_i error herror
    exact Or.inl ⟨error, rfl, stage_items_error herror⟩
  · rw [dif_pos hexpires]
    exact Or.inr ⟨_, rfl, rfl, rfl, rfl, rfl⟩

end velvet.resource_reservations.ResourceReservationLedger

namespace velvet.resource_aware_work_proposals.LiveResourceAwareCoordinator

variable [StrLower] {now lease_seconds : ℚ} {work : String}

variable {raises : Error → LiveResourceAwareCoordinator → Prop} {self : LiveResourceAwareCoordinator}

theorem wp_within {α : Type} {call : Program Error ResourceAwareWorkCoordinator α}
    {returns : α → LiveResourceAwareCoordinator → Prop} :
    wp (within call) returns raises self ↔
      wp call (fun value inner => returns value (self.set_resource_coordinator inner))
        (fun error inner => raises error (self.set_resource_coordinator inner)) self.resource_coordinator := by
  unfold wp within EStateM.run
  dsimp only
  cases call self.resource_coordinator with
  | ok value inner => rfl
  | error error inner => rfl

@[simp] theorem set_resource_coordinator_self (self : LiveResourceAwareCoordinator) :
    self.set_resource_coordinator self.resource_coordinator = self := rfl

variable {returns : WorkPlacementDecision → LiveResourceAwareCoordinator → Prop} {requirement : WorkRequirement}

theorem wp_within_place {resource_requirements : List ResourceRequirement}
    {exclude_nodes : List String}
    (hreturns : ∀ resource_service excluded decision,
      (self.coordinator.place requirement now lease_seconds excluded).1 = .ok decision →
      returns decision { self with
        coordinator := (self.coordinator.place requirement now lease_seconds excluded).2
        resource_service
        requirements := self.requirements.set (normalized requirement.work_id) resource_requirements })
    (hraises : ∀ resource_service excluded error,
      (self.coordinator.place requirement now lease_seconds excluded).1 = .error error →
      raises error { self with
        coordinator := (self.coordinator.place requirement now lease_seconds excluded).2
        resource_service
        requirements := self.requirements.set (normalized requirement.work_id) resource_requirements }) :
    wp (within (ResourceAwareWorkCoordinator.place requirement resource_requirements now lease_seconds exclude_nodes))
      returns raises self := by
  rw [wp_within]
  apply ResourceAwareWorkCoordinator.wp_place
  · exact fun resources excluded => hreturns { self.resource_service with registry := resources } excluded
  · exact fun resources excluded => hraises { self.resource_service with registry := resources } excluded

/-- The tables after a prune at a time that it accepts. -/
def pruned (self : LiveResourceAwareCoordinator) (now : ℚ) : LiveResourceAwareCoordinator :=
  { self with
    resource_service := (self.resource_service.prune (.finite now)).2
    reservations := (self.reservations.prune now).2 }

/-- Pruning refuses a negative time, and changes nothing then. -/
theorem wp_prune_pruned {returns : Unit → LiveResourceAwareCoordinator → Prop}
    (hreturns : 0 ≤ now → returns () (self.pruned now))
    (hraises : now < 0 → ∀ error, error.kind = .ValueError → raises error self) :
    wp (prune now) returns raises self := by
  unfold prune
  simp only [wp_bind, wp_get, wp_set]
  by_cases hnegative : now < 0
  · have hlt : (num.JsonFloat.finite now).lt 0 = true := by simpa [num.JsonFloat.lt] using hnegative
    have hservice : ∃ error, self.resource_service.prune (.finite now) = (.error error, self.resource_service) ∧
        error.kind = .ValueError := by
      unfold velvet.body_resource_transport.BodyResourceService.prune velvet.body_resource_transport.validate_now
      rw [if_pos hlt]
      exact ⟨_, rfl, rfl⟩
    obtain ⟨error, hservice, hkind⟩ := hservice
    rw [hservice]
    exact hraises hnegative error hkind
  · have hlt : ¬ (num.JsonFloat.finite now).lt 0 = true := by simpa [num.JsonFloat.lt] using hnegative
    have hservice : ∃ removed, (self.resource_service.prune (.finite now)).1 = .ok removed := by
      unfold velvet.body_resource_transport.BodyResourceService.prune velvet.body_resource_transport.validate_now
      rw [if_neg hlt]
      exact ⟨_, rfl⟩
    obtain ⟨removed, hservice⟩ := hservice
    have hledger : ∃ expired, (self.reservations.prune now).1 = .ok expired := by
      unfold ResourceReservationLedger.prune
      rw [if_neg hnegative]
      exact ⟨_, rfl⟩
    obtain ⟨expired, hledger⟩ := hledger
    rw [hservice]
    simp only [wp_of_except, wp_bind, wp_get, wp_set]
    rw [hledger]
    exact hreturns (not_lt.mp hnegative)

/-- Where the time matters for the reservations only, the resource view may be any. -/
theorem wp_prune {returns : Unit → LiveResourceAwareCoordinator → Prop} (hreturns : 0 ≤ now → ∀ resource_service,
      returns () { self with resource_service, reservations := (self.reservations.prune now).2 })
    (hraises : now < 0 → ∀ error, error.kind = .ValueError → raises error self) :
    wp (prune now) returns raises self :=
  wp_prune_pruned (fun hnow => hreturns hnow _) hraises

/-- The reservation of a work. -/
def reservation_of (self : LiveResourceAwareCoordinator) (work : String) : Option ResourceReservation :=
  self.reservations.by_work.get? work

/-- The resource requirements on record for a work. -/
def requirements_of (self : LiveResourceAwareCoordinator) (work : String) : List ResourceRequirement :=
  (self.requirements.get? work).getD []

/-- The lease of a work. -/
def lease_at (self : LiveResourceAwareCoordinator) (work : String) : Option WorkLease :=
  self.coordinator.leases.get? work

/-- A reservation for a lease. -/
structure Fits (reservation : ResourceReservation) (lease : WorkLease) : Prop where
  work_id_eq : reservation.work_id = lease.work_id
  lease_id_eq : reservation.lease_id = lease.lease_id
  node_id_eq : reservation.node_id = lease.node_id
  expires_at_eq : reservation.expires_at = lease.expires_at

/-- A work with a lease and with requirements holds a reservation for the lease, and otherwise none. -/
def Backed (requirements : List ResourceRequirement) (held : Option ResourceReservation) :
    Option WorkLease → Prop
  | none => held = none
  | some lease =>
    (requirements = [] ∧ held = none) ∨ requirements ≠ [] ∧ ∃ reservation, held = some reservation ∧ Fits reservation lease

/-- A call that only moves one work and reserves for it. -/
structure Settled (before after : LiveResourceAwareCoordinator) (work : String) (now lease_seconds : ℚ)
    (outcome : Option WorkLease) : Prop where
  moved : Moved before.resource_coordinator after.resource_coordinator work now lease_seconds outcome
  declared : after.declared = before.declared
  others : ∀ key, key ≠ work → after.reservation_of key = before.reservation_of key

theorem Settled.requirements {before after : LiveResourceAwareCoordinator} {outcome : Option WorkLease}
    (hsettled : Settled before after work now lease_seconds outcome) : after.requirements = before.requirements :=
  hsettled.moved.requirements

theorem Settled.trans {first second third : LiveResourceAwareCoordinator} {middle last : Option WorkLease}
    (hfirst : Settled first second work now lease_seconds middle)
    (hsecond : Settled second third work now lease_seconds last) : Settled first third work now lease_seconds last where
  moved := hfirst.moved.trans hsecond.moved
  declared := hsecond.declared.trans hfirst.declared
  others := fun key hkey => (hsecond.others key hkey).trans (hfirst.others key hkey)

/-- What the lookup of an advertisement returns belongs to the node. -/
theorem get_node_id {registry : NodeResourceRegistry} {node_id : String} {advertisement : NodeResourceAdvertisement}
    (hget : (registry.get node_id).1 = some advertisement) :
    normalized advertisement.node_id = normalized node_id := by
  unfold NodeResourceRegistry.get at hget
  split at hget
  · cases hget
  · rename_i item hitem
    split at hget
    · cases hget
      exact registry.keyed (normalized node_id, advertisement) ((Dict.get?_eq_some_iff _ _ _).mp hitem)
    · cases hget

/-- The reservation attempt for a new lease: the reservation is made, or nothing but the resource view changes. -/
theorem wp_try_reserve {lease : WorkLease} {requirements : List ResourceRequirement}
    (hlease : self.lease_at work = some lease) (hnamed : Named lease) (hexpires : 0 < lease.expires_at)
    (hrequirements : requirements ≠ []) (hnone : self.reservation_of work = none)
    {returns : Bool → LiveResourceAwareCoordinator → Prop}
    (hfalse : ∀ registry, returns false
      { self with resource_service := { self.resource_service with registry } })
    (htrue : ∀ registry reservation, Fits reservation lease → returns true
      { self with
        resource_service := { self.resource_service with registry }
        reservations := ⟨self.reservations.by_work.set work reservation⟩ }) :
    wp (try_reserve lease requirements) returns raises self := by
  obtain ⟨hwork, hnormal, hnode, _⟩ := self.coordinator.record_of_lease hlease
  unfold try_reserve
  simp only [wp_bind, wp_get, wp_set]
  cases hadvertised : (self.resource_service.registry.get lease.node_id).1 with
  | none => exact hfalse _
  | some advertisement =>
    have hid : collapse_text lease.lease_id = lease.lease_id := by
      rw [hnamed.lease_id_eq]
      refine collapse_text_glue ?_ hnamed.work_text hnode hnamed.node_text ⟨by decide, by decide⟩
      rw [hwork]
      exact hnormal
    have hid_text : lease.lease_id ≠ "" := by
      rw [hnamed.lease_id_eq]
      intro hempty
      have hchars := congrArg String.toList hempty
      simp at hchars
    have hcases := self.reservations.reserve_cases (reserve_request lease advertisement requirements) (by
        change normalized lease.work_id = lease.work_id
        rw [hwork]
        exact hnormal) hnamed.work_text hid hid_text hnode hnamed.node_text
      ((get_node_id hadvertised).trans hnode) hrequirements hexpires (by
        change self.reservations.by_work.get? lease.work_id = none
        rw [hwork]
        exact hnone)
    dsimp only
    rcases hcases with ⟨error, herror, hkind⟩ | ⟨reservation, hreserved, hfits⟩
    · rw [herror]
      dsimp only
      rw [if_pos hkind]
      exact hfalse _
    · rw [hreserved]
      simp only [wp_bind, wp_set, wp_pure]
      have hset : (reserve_request lease advertisement requirements).work_id = work := hwork
      rw [hset]
      exact htrue _ reservation ⟨hfits.1, hfits.2.1, hfits.2.2.1, hfits.2.2.2⟩

/-- A lease on a willing node leaves an attempt: there are as many as there are nodes. -/
theorem willing_length_le (self : DistributedWorkCoordinator) (work : String) :
    (self.willing work).length ≤ self.registry.snapshot.length := by
  unfold DistributedWorkCoordinator.willing DistributedWorkCoordinator.registered_ids
  refine (List.length_filter_le _ _).trans ?_
  rw [List.length_map]

/-- The loop ends with the work settled. It never runs out of attempts, since every refusal leaves fewer nodes. -/
theorem wp_ensure_reserved {base : LiveResourceAwareCoordinator} (hnow : 0 ≤ now) (attempts : Nat)
    (current : WorkPlacementDecision) (self : LiveResourceAwareCoordinator)
    (hsettled : Settled base self work now lease_seconds current.lease) (hnone : self.reservation_of work = none)
    (hattempts : (self.coordinator.willing work).length ≤ attempts) :
    wp (ensure_reserved now lease_seconds attempts current)
      (fun decision after => Settled base after work now lease_seconds decision.lease ∧
        Backed (after.requirements_of work) (after.reservation_of work) decision.lease)
      (fun _ after => Settled base after work now lease_seconds none ∧ after.reservation_of work = none ∧
        lease_seconds ≤ 0) self := by
  induction attempts generalizing current self with
  | zero =>
    unfold ensure_reserved
    cases hlease : current.lease with
    | none =>
      rw [hlease] at hsettled
      simp only [wp_pure, hlease]
      exact ⟨hsettled, hnone⟩
    | some lease =>
      rw [hlease] at hsettled
      have hwilling := hsettled.moved.placed.node lease rfl
      have hempty : (self.coordinator.willing work) = [] := List.length_eq_zero_iff.mp (Nat.le_zero.mp hattempts)
      exact absurd hwilling (by
        change lease.node_id ∉ self.coordinator.willing work
        rw [hempty]
        simp)
  | succ attempts ih =>
    unfold ensure_reserved
    cases hlease : current.lease with
    | none =>
      rw [hlease] at hsettled
      simp only [wp_pure, hlease]
      exact ⟨hsettled, hnone⟩
    | some lease =>
      rw [hlease] at hsettled
      have hplaced := hsettled.moved.placed
      obtain ⟨hnamed, hnew⟩ := hplaced.issued lease rfl
      have hfound : self.lease_at work = some lease := hplaced.own
      obtain ⟨_, hnormal, hnode, _⟩ := self.coordinator.record_of_lease hfound
      have hexpires : 0 < lease.expires_at := by
        have hpos := hnew.seconds_pos
        rw [hnew.expires_at_eq]
        linarith
      have hsame : self.resource_coordinator.requirements_of lease.work_id = self.requirements_of work := by
        unfold ResourceAwareWorkCoordinator.requirements_of
        rw [hnew.work_id_eq, hnormal]
        rfl
      simp only [wp_bind, wp_get]
      rw [hsame]
      split
      · rename_i hempty
        simp only [wp_pure, hlease]
        exact ⟨hsettled, Or.inl ⟨hempty, hnone⟩⟩
      · rename_i hrequired
        simp only [wp_bind]
        refine wp_try_reserve hfound hnamed hexpires hrequired hnone ?_ ?_
        · intro registry
          dsimp only
          rw [if_neg Bool.false_ne_true, wp_bind, wp_within]
          have hlost : Settled base { self with resource_service := { self.resource_service with registry } } work now
              lease_seconds (some lease) :=
            ⟨⟨hplaced, hsettled.moved.requirements⟩, hsettled.declared, hsettled.others⟩
          refine wp_mono (ResourceAwareWorkCoordinator.wp_refuse_and_reassign
            (by rw [hnew.work_id_eq, hnormal]; exact hfound) hnode.symm (by decide)) ?_ ?_
          · intro next inner hnext
            rw [hnew.work_id_eq, hnormal, hnode] at hnext
            obtain ⟨hmoved, hrefused⟩ := hnext
            have hlt := hmoved.placed.willing_lt (hplaced.node lease rfl) hrefused
            refine ih next _ (hlost.trans ⟨hmoved, rfl, fun _ _ => rfl⟩) hnone ?_
            change (inner.coordinator.willing work).length ≤ attempts
            have hlt' : (inner.coordinator.willing work).length < (self.coordinator.willing work).length := hlt
            omega
          · intro error inner hend
            rw [hnew.work_id_eq, hnormal] at hend
            exact ⟨hlost.trans ⟨hend.1, rfl, fun _ _ => rfl⟩, hnone, hend.2⟩
        · intro registry reservation hfits
          rw [if_pos rfl]
          simp only [wp_pure, hlease]
          refine ⟨⟨⟨hplaced, hsettled.moved.requirements⟩, hsettled.declared, ?_⟩, Or.inr ⟨hrequired, ?_⟩⟩
          · intro key hkey
            exact (Dict.get?_set_of_ne _ _ hkey).trans (hsettled.others key hkey)
          · exact ⟨reservation, Dict.get?_set_self _ _ _, hfits⟩

variable {decision : WorkPlacementDecision}

/-- `_ensure_reserved` on a new decision. -/
theorem wp_reserved {base self : LiveResourceAwareCoordinator} (hnow : 0 ≤ now)
    (hsettled : Settled base self work now lease_seconds decision.lease) (hnone : self.reservation_of work = none) :
    wp (reserved now lease_seconds decision)
      (fun decision after => Settled base after work now lease_seconds decision.lease ∧
        Backed (after.requirements_of work) (after.reservation_of work) decision.lease)
      (fun _ after => Settled base after work now lease_seconds none ∧ after.reservation_of work = none ∧
        lease_seconds ≤ 0) self := by
  unfold reserved
  rw [wp_bind, wp_get]
  refine wp_ensure_reserved hnow _ decision self hsettled hnone ?_
  exact (willing_length_le self.coordinator work).trans (Nat.le_max_right _ _)

/-- A decision about a work without requirements stands. -/
theorem wp_reserved_of_no_requirements
    (hnone : ∀ lease, decision.lease = some lease → self.resource_coordinator.requirements_of lease.work_id = [])
    (hreturns : returns decision self) :
    wp (reserved now lease_seconds decision) returns raises self := by
  unfold reserved
  rw [wp_bind, wp_get]
  unfold ensure_reserved
  cases hlease : decision.lease with
  | none => exact hreturns
  | some lease =>
    simp only [wp_bind, wp_get]
    rw [if_pos (hnone lease hlease)]
    exact hreturns

/-- What a placement starts from, once the expired leases are gone and the requirements of the work are on record. -/
def expired (live : LiveResourceAwareCoordinator) (resource_service : velvet.body_resource_transport.BodyResourceService)
    (work : String) (resource_requirements : List ResourceRequirement) (now : ℚ) : LiveResourceAwareCoordinator :=
  { live with
    coordinator := live.coordinator.expire_leases_locked now
    resource_service
    requirements := live.requirements.set work resource_requirements }

variable {live : LiveResourceAwareCoordinator}

/-- The part of `place` after the declaration is taken up, for a work that holds neither an unexpired lease nor a
reservation: the work is settled, or the duration is refused. -/
theorem wp_place_unleased {resource_requirements : List ResourceRequirement}
    {exclude_nodes : List String} (hnow : 0 ≤ now) (hwork : normalized requirement.work_id = work)
    (hunleased : (live.coordinator.expire_leases_locked now).leases.get? work = none)
    (hnone : live.reservation_of work = none) :
    wp (do
        let decision ← within (ResourceAwareWorkCoordinator.place requirement resource_requirements now lease_seconds
          exclude_nodes)
        reserved now lease_seconds decision)
      (fun decision after => ∃ resource_service,
        Settled (live.expired resource_service work resource_requirements now) after work now lease_seconds
          decision.lease ∧
        Backed (after.requirements_of work) (after.reservation_of work) decision.lease)
      (fun _ after => ∃ resource_service,
        (Settled (live.expired resource_service work resource_requirements now) after work now lease_seconds none ∧
          after.reservation_of work = none) ∨
        after = { live with
          resource_service
          requirements := live.requirements.set work resource_requirements }) live := by
  subst hwork
  rw [wp_bind]
  apply wp_within_place
  · intro resource_service excluded decision hdecision
    rcases DistributedWorkCoordinator.place_placed rfl hunleased lease_seconds excluded with ⟨error, herror⟩ | hplaced
    · rw [herror] at hdecision
      cases hdecision
    · rw [hdecision] at hplaced
      have hsettled : Settled
          (live.expired resource_service (normalized requirement.work_id) resource_requirements now)
          { live with
            coordinator := (live.coordinator.place requirement now lease_seconds excluded).2
            resource_service
            requirements := live.requirements.set (normalized requirement.work_id) resource_requirements }
          (normalized requirement.work_id) now lease_seconds decision.lease :=
        ⟨⟨hplaced, rfl⟩, rfl, fun _ _ => rfl⟩
      refine wp_mono (wp_reserved hnow hsettled hnone) ?_ ?_
      · exact fun last after hend => ⟨resource_service, hend⟩
      · exact fun error after hend => ⟨resource_service, Or.inl ⟨hend.1, hend.2.1⟩⟩
  · intro resource_service excluded error herror
    refine ⟨resource_service, ?_⟩
    rcases DistributedWorkCoordinator.place_placed rfl hunleased lease_seconds excluded with ⟨found, hplace⟩ | hplaced
    · rw [hplace]
      exact Or.inr rfl
    · rw [herror] at hplaced
      exact Or.inl ⟨⟨⟨hplaced, rfl⟩, rfl, fun _ _ => rfl⟩, hnone⟩

variable {work_id node_id reason : String}

/-- The part of `refuse_and_reassign` after the release, for the owner of the lease: the work is settled, or nothing
else happens for want of a reason. -/
theorem wp_refuse_owned {lease : WorkLease} (hnow : 0 ≤ now)
    (hlease : live.lease_at (normalized work_id) = some lease) (hnode : lease.node_id = normalized node_id) :
    wp (do
        let decision ← within (ResourceAwareWorkCoordinator.refuse_and_reassign work_id node_id reason now
          lease_seconds)
        reserved now lease_seconds decision)
      (fun decision after =>
        Settled (live.release work_id) after (normalized work_id) now lease_seconds decision.lease ∧
        Backed (after.requirements_of (normalized work_id)) (after.reservation_of (normalized work_id)) decision.lease)
      (fun _ after => Blank reason ∧ after = live.release work_id ∨
        Settled (live.release work_id) after (normalized work_id) now lease_seconds none ∧
          after.reservation_of (normalized work_id) = none) (live.release work_id) := by
  have hnone : (live.release work_id).reservation_of (normalized work_id) = none := Dict.get?_pop_self _ _
  rw [wp_bind, wp_within]
  by_cases hreason : Blank reason
  · refine wp_mono (ResourceAwareWorkCoordinator.wp_refuse_and_reassign_blank hreason) (fun _ _ => False.elim) ?_
    rintro error after rfl
    rw [set_resource_coordinator_self]
    exact Or.inl ⟨hreason, rfl⟩
  · refine wp_mono (ResourceAwareWorkCoordinator.wp_refuse_and_reassign hlease hnode hreason) ?_ ?_
    · intro decision inner hmoved
      have hsettled : Settled (live.release work_id) ((live.release work_id).set_resource_coordinator inner)
          (normalized work_id) now lease_seconds decision.lease := ⟨hmoved.1, rfl, fun _ _ => rfl⟩
      refine wp_mono (wp_reserved hnow hsettled hnone) (fun _ _ hend => hend) ?_
      exact fun error after hend => Or.inr ⟨hend.1, hend.2.1⟩
    · intro error inner hmoved
      exact Or.inr ⟨⟨hmoved.1, rfl, fun _ _ => rfl⟩, hnone⟩

/-- The same for anyone else: nothing changes. -/
theorem wp_refuse_not_owned
    (hnot : ∀ lease, live.lease_at (normalized work_id) = some lease → lease.node_id ≠ normalized node_id) :
    wp (do
        let decision ← within (ResourceAwareWorkCoordinator.refuse_and_reassign work_id node_id reason now
          lease_seconds)
        reserved now lease_seconds decision)
      (fun _ after => after = live) (fun _ after => after = live) live := by
  rw [wp_bind, wp_within]
  refine wp_mono (ResourceAwareWorkCoordinator.wp_refuse_and_reassign_not_owned hnot) ?_ ?_
  · rintro decision after ⟨hnone, rfl⟩
    rw [set_resource_coordinator_self]
    refine wp_reserved_of_no_requirements ?_ rfl
    intro lease hlease
    rw [hnone] at hlease
    cases hlease
  · rintro error after rfl
    rw [set_resource_coordinator_self]

/-- The work leaves every table. -/
def closed (live : LiveResourceAwareCoordinator) (work : String) : LiveResourceAwareCoordinator :=
  { live with
    coordinator := live.coordinator.forget_work work
    requirements := live.requirements.pop work
    reservations := ⟨live.reservations.by_work.pop work⟩
    declared := live.declared.pop work }

/-- The owner of a lease closes it; otherwise the call takes back a declaration at most. -/
theorem complete_cases (live : LiveResourceAwareCoordinator) (work_id node_id : String) :
    (∃ lease, live.lease_at (normalized work_id) = some lease ∧ lease.node_id = normalized node_id ∧
      live.complete work_id node_id = (true, live.closed (normalized work_id))) ∨
    (∀ lease, live.lease_at (normalized work_id) = some lease → lease.node_id ≠ normalized node_id) ∧
      live.complete work_id node_id = (false, { live with declared := live.declared.pop (normalized work_id) }) := by
  have hcomplete : ∀ outcome, live.coordinator.complete work_id node_id = outcome → live.complete work_id node_id =
      (outcome.1, if outcome.1 = true then { live with
          coordinator := outcome.2
          requirements := live.requirements.pop (normalized work_id)
          reservations := ⟨live.reservations.by_work.pop (normalized work_id)⟩
          declared := live.declared.pop (normalized work_id) }
        else { live with coordinator := outcome.2, declared := live.declared.pop (normalized work_id) }) := by
    rintro outcome rfl
    unfold LiveResourceAwareCoordinator.complete ResourceAwareWorkCoordinator.complete
    dsimp only [resource_coordinator]
    split
    · rfl
    · rfl
  by_cases howned : ∃ lease, live.lease_at (normalized work_id) = some lease ∧ lease.node_id = normalized node_id
  · obtain ⟨lease, hlease, hnode⟩ := howned
    refine Or.inl ⟨lease, hlease, hnode, hcomplete (true, live.coordinator.forget_work (normalized work_id)) ?_⟩
    unfold DistributedWorkCoordinator.complete
    dsimp only
    rw [show live.coordinator.leases.get? (normalized work_id) = some lease from hlease]
    dsimp only
    rw [if_neg (not_not_intro hnode)]
  · have hnot : ∀ lease, live.lease_at (normalized work_id) = some lease → lease.node_id ≠ normalized node_id :=
      fun lease hlease hnode => howned ⟨lease, hlease, hnode⟩
    refine Or.inr ⟨hnot, hcomplete (false, live.coordinator) ?_⟩
    unfold DistributedWorkCoordinator.complete
    dsimp only
    split
    · rfl
    · rename_i lease hlease
      rw [if_pos (hnot lease hlease)]

end velvet.resource_aware_work_proposals.LiveResourceAwareCoordinator
