import VelvetRuntime.DistributedWork.Recovery
import VelvetRuntime.Trace

open python python.str python.num

namespace velvet.distributed_work_coordinator.DistributedWorkCoordinator

section

variable [StrLower]

/-- A lease that placement issues: for work without a lease, under its recorded requirement, on a registered node
that has room and has not refused the work. -/
structure Issued (before : DistributedWorkCoordinator) (requirement : WorkRequirement) (lease : WorkLease) :
    Prop where
  lease_id_eq : lease.lease_id = lease.work_id ++ ":" ++ lease.node_id
  recorded : before.requirements.get? lease.work_id = some requirement
  unleased : before.leases.get? lease.work_id = none
  not_refused : lease.node_id ∉ before.refused_by lease.work_id
  degradation_eq : lease.degradation = degradation lease.mode
  court_eq : lease.court_authorization_required = requirement.consequential
  room : ∃ node ∈ before.registry.snapshot, normalized node.node_id = lease.node_id ∧
    node.current_tasks + before.active_count lease.node_id < node.max_concurrent_tasks

/-- A change that placed work undergoes, with the lease that it issues if it issues one: nodes turn unavailable,
leases are dropped, and a work is withdrawn from its node, for good or to be placed again. -/
inductive Shift (before : DistributedWorkCoordinator) : List WorkLease → DistributedWorkCoordinator → Prop where
  | availability (node_id : String) (availability : NodeAvailability) :
    Shift before [] { before with registry := before.registry.set_availability node_id availability }
  | dropped (keep : String → WorkLease → Bool) : Shift before [] (before.keep_leases keep)
  | withdrawn (work : String) (lease : WorkLease) (hlease : before.leases.get? work = some lease) :
    Shift before [] (before.withdraw work lease.node_id)
  | replaced (work : String) (old_lease : WorkLease) (hold : before.leases.get? work = some old_lease)
    (requirement : WorkRequirement) (lease : WorkLease)
    (hrecord : LeaseOnRecord (before.withdraw work old_lease.node_id).requirements lease.work_id lease)
    (hwork : lease.work_id = work) (hissued : Issued (before.withdraw work old_lease.node_id) requirement lease) :
    Shift before [lease] ((before.withdraw work old_lease.node_id).store_lease lease hrecord)

/-- One change of the tables: one that placed work undergoes, or one of a new placement. -/
inductive Move (before : DistributedWorkCoordinator) : List WorkLease → DistributedWorkCoordinator → Prop where
  | shifted (issued : List WorkLease) (after : DistributedWorkCoordinator) (hshift : Shift before issued after) :
    Move before issued after
  | required (requirement : WorkRequirement)
    (hunleased : before.leases.get? (normalized requirement.work_id) = none) :
    Move before [] (before.set_requirement requirement)
  | placed (requirement : WorkRequirement) (lease : WorkLease)
    (hrecord : LeaseOnRecord before.requirements lease.work_id lease) (hissued : Issued before requirement lease) :
    Move before [lease] (before.store_lease lease hrecord)

/-- The changes that recovery and a refusal make. -/
abbrev Shifts (before : DistributedWorkCoordinator) : List WorkLease → DistributedWorkCoordinator → Prop :=
  Trace Shift before

/-- The changes that a call which places or moves work makes. -/
abbrev Moves (before : DistributedWorkCoordinator) : List WorkLease → DistributedWorkCoordinator → Prop :=
  Trace Move before

variable {self middle after : DistributedWorkCoordinator} {issued more : List WorkLease}

theorem moves_of_shifts (hshifts : Shifts self issued after) : Moves self issued after :=
  hshifts.mono (fun _ _ _ => .shifted _ _)

/-- The lease that a decision issues; a decision about work that is leased already issues none. -/
def issued_lease (decision : WorkPlacementDecision) : Option WorkLease :=
  if decision.state = "already_leased" then none else decision.lease

/-- The leases that a call issues. A call that raises issues none. -/
def issued_leases : Except Error (List WorkPlacementDecision) → List WorkLease
  | .error _ => []
  | .ok decisions => decisions.filterMap issued_lease

/-- The lease that a call with one decision issues, if any. -/
abbrev issued_by (decision : Except Error WorkPlacementDecision) : List WorkLease :=
  issued_leases (decision.map (fun decision => [decision]))

omit [StrLower] in
theorem issued_leases_append (first second : List WorkPlacementDecision) :
    issued_leases (.ok (first ++ second)) = issued_leases (.ok first) ++ issued_leases (.ok second) :=
  List.filterMap_append

variable {requirement : WorkRequirement}

theorem new_lease_issued {chosen : WorkCandidate} {now lease_seconds : ℚ} {lease : WorkLease}
    (hlease : new_lease requirement chosen now lease_seconds = .ok lease) :
    lease.lease_id = lease.work_id ++ ":" ++ lease.node_id ∧ lease.degradation = degradation lease.mode ∧
      lease.court_authorization_required = requirement.consequential := by
  unfold new_lease at hlease
  split at hlease
  · cases hlease
    exact ⟨rfl, rfl, rfl⟩
  · cases hlease

variable {excluded : List String}

/-- A candidate's node has room for one more task. -/
theorem room_of_candidate {candidate : WorkCandidate}
    (hmem : candidate ∈ ranked (self.candidates requirement excluded)) :
    ∃ node ∈ self.registry.snapshot, normalized node.node_id = candidate.node_id ∧
      node.current_tasks + self.active_count candidate.node_id < node.max_concurrent_tasks := by
  obtain ⟨node, hnode, _, hreason, hcandidate⟩ := (self.mem_candidates_iff _ _ _).mp (mem_ranked hmem)
  have hid := candidate_node_id hcandidate
  refine ⟨node, hnode, hid.symm, ?_⟩
  rw [hid]
  by_contra hfull
  rw [not_lt] at hfull
  unfold exclusion_reason at hreason
  simp only [hfull, if_true] at hreason
  repeat' split at hreason
  all_goals cases hreason

/-- The ways placement can end, as far as the tables go: nothing changes, or a lease is issued. -/
inductive Placing (before : DistributedWorkCoordinator) (requirement : WorkRequirement) :
    List WorkLease → DistributedWorkCoordinator → Prop where
  | unplaced : Placing before requirement [] before
  | placed (lease : WorkLease) (hrecord : LeaseOnRecord before.requirements lease.work_id lease)
    (hwork : lease.work_id = normalized requirement.work_id) (hissued : Issued before requirement lease) :
    Placing before requirement [lease] (before.store_lease lease hrecord)

theorem place_locked_placing (hrecorded : self.Recorded requirement)
    (hget : self.requirements.get? (normalized requirement.work_id) = some requirement)
    (hunleased : self.leases.get? (normalized requirement.work_id) = none) (now lease_seconds : ℚ)
    (hexcluded : ∀ node ∈ self.refused_by (normalized requirement.work_id), node ∈ excluded) :
    Placing self requirement (issued_by (self.place_locked requirement hrecorded now lease_seconds excluded).1)
      (self.place_locked requirement hrecorded now lease_seconds excluded).2 := by
  unfold place_locked
  split
  · exact .unplaced
  · rename_i chosen rest hranked
    have hmem : chosen ∈ ranked (self.candidates requirement excluded) := by simp [hranked]
    split
    · exact .unplaced
    · rename_i lease hlease
      obtain ⟨hwork, hnode, _, _⟩ := new_lease_ok hlease
      obtain ⟨hid, hdegradation, hcourt⟩ := new_lease_issued hlease
      have hissued : Issued self requirement lease := by
        refine ⟨hid, hwork ▸ hget, hwork ▸ hunleased, ?_, hdegradation, hcourt, hnode ▸ room_of_candidate hmem⟩
        rw [hwork, hnode]
        exact fun hrefused => (ranked_node_id hmem).2 (hexcluded _ hrefused)
      have hstate : (placed_decision lease chosen rest (self.exclusions requirement excluded)).state ≠
          "already_leased" := by
        unfold placed_decision
        dsimp only
        split
        · decide
        · decide
      have hnew : issued_by (.ok (placed_decision lease chosen rest (self.exclusions requirement excluded))) =
          [lease] := by
        have hlease : issued_lease (placed_decision lease chosen rest (self.exclusions requirement excluded)) =
            some lease := if_neg hstate
        change List.filterMap issued_lease [_] = [lease]
        rw [List.filterMap_cons_some hlease, List.filterMap_nil]
      have hplacing := Placing.placed lease (lease_on_record hrecorded hranked hlease) hwork hissued
      rwa [← hnew] at hplacing

/-- What placing new work does: it drops the leases that have run out, and then finds the work leased, or puts
its requirement on record and places it. -/
theorem place_cases (self : DistributedWorkCoordinator) (requirement : WorkRequirement) (now lease_seconds : ℚ)
    (exclude_nodes : List String) :
    (Shifts self [] (self.place requirement now lease_seconds exclude_nodes).2 ∧
      issued_by (self.place requirement now lease_seconds exclude_nodes).1 = []) ∨
    ((self.expire_leases_locked now).leases.get? (normalized requirement.work_id) = none ∧
      Placing ((self.expire_leases_locked now).set_requirement requirement) requirement
        (issued_by (self.place requirement now lease_seconds exclude_nodes).1)
        (self.place requirement now lease_seconds exclude_nodes).2) := by
  unfold place
  split
  · exact .inl ⟨.refl, rfl⟩
  · dsimp only
    split
    · exact .inl ⟨.single (.dropped _), rfl⟩
    · rename_i hunleased
      exact .inr ⟨hunleased, place_locked_placing
        (recorded_set_requirement (self.expire_leases_locked now) requirement) (Dict.get?_set_self _ _ _) hunleased
        now lease_seconds
        (fun node hnode => List.mem_append_right ((exclude_nodes.map normalized).filter (· ≠ "")) hnode)⟩

theorem place_moves (self : DistributedWorkCoordinator) (requirement : WorkRequirement) (now lease_seconds : ℚ)
    (exclude_nodes : List String) :
    Moves self (issued_by (self.place requirement now lease_seconds exclude_nodes).1)
      (self.place requirement now lease_seconds exclude_nodes).2 := by
  rcases self.place_cases requirement now lease_seconds exclude_nodes with ⟨hshifts, hnone⟩ | ⟨hunleased, hplacing⟩
  · rw [hnone]
    exact moves_of_shifts hshifts
  · have hexpired : Moves self [] (self.expire_leases_locked now) := moves_of_shifts (.single (.dropped _))
    have hrequired := hexpired.quiet (.required requirement hunleased)
    generalize issued_by (self.place requirement now lease_seconds exclude_nodes).1 = issued at hplacing ⊢
    generalize (self.place requirement now lease_seconds exclude_nodes).2 = after at hplacing ⊢
    cases hplacing with
    | unplaced => exact hrequired
    | placed lease hrecord hwork hissued => exact hrequired.step (.placed requirement lease hrecord hissued)

/-- A reassignment withdraws the work, for good or to place it again. -/
theorem reassign_locked_shifts {work : String} {lease : WorkLease} (hlease : self.leases.get? work = some lease)
    (reason : String) (hget : self.requirements.get? work = some requirement) (now lease_seconds : ℚ) :
    Shifts self (issued_by (self.reassign_locked work lease.node_id reason requirement hget now lease_seconds).1)
      (self.reassign_locked work lease.node_id reason requirement hget now lease_seconds).2 := by
  have hkeyed := self.requirement_keyed hget
  have hplacing := place_locked_placing (recorded_of_get? (self.withdraw work lease.node_id) hget)
    (by rw [hkeyed]; exact hget) (by rw [hkeyed, leases_withdraw, Dict.get?_pop_self]) now lease_seconds
    (fun node hnode => hnode)
  rw [hkeyed] at hplacing
  have hsame : issued_by (self.reassign_locked work lease.node_id reason requirement hget now lease_seconds).1 =
      issued_by ((self.withdraw work lease.node_id).place_locked requirement
        (recorded_of_get? (self.withdraw work lease.node_id) hget) now lease_seconds
        ((self.withdraw work lease.node_id).refused_by work)).1 := by
    unfold reassign_locked
    dsimp only
    cases (place_locked (self.withdraw work lease.node_id) requirement _ now lease_seconds _).1 with
    | error error => rfl
    | ok decision => rfl
  rw [hsame]
  unfold reassign_locked
  dsimp only
  generalize issued_by ((self.withdraw work lease.node_id).place_locked requirement _ now lease_seconds _).1 = issued
    at hplacing ⊢
  generalize ((self.withdraw work lease.node_id).place_locked requirement _ now lease_seconds _).2 = after
    at hplacing ⊢
  cases hplacing with
  | unplaced => exact .single (.withdrawn work lease hlease)
  | placed new_lease hrecord hwork hissued =>
    exact .single (.replaced work lease hlease requirement new_lease hrecord (hwork.trans hkeyed) hissued)

theorem refuse_and_reassign_shifts (self : DistributedWorkCoordinator) (work_id node_id reason : String)
    (now lease_seconds : ℚ) :
    Shifts self (issued_by (self.refuse_and_reassign work_id node_id reason now lease_seconds).1)
      (self.refuse_and_reassign work_id node_id reason now lease_seconds).2 := by
  unfold refuse_and_reassign
  dsimp only
  split
  · exact .refl
  · split
    · rename_i lease requirement hlease hget
      split
      · exact .refl
      · rename_i howned
        rw [not_not] at howned
        rw [← howned]
        exact reassign_locked_shifts hlease _ hget now lease_seconds
    · exact .refl

theorem complete_cases (self : DistributedWorkCoordinator) (work_id node_id : String) :
    self.complete work_id node_id = (false, self) ∨
      ∃ lease, self.leases.get? (normalized work_id) = some lease ∧
        self.complete work_id node_id = (true, self.forget_work (normalized work_id)) := by
  unfold complete
  dsimp only
  cases hlease : self.leases.get? (normalized work_id) with
  | none => exact .inl rfl
  | some lease =>
    dsimp only
    split
    · exact .inl rfl
    · exact .inr ⟨lease, rfl, rfl⟩

theorem mark_offline_shifts (self : DistributedWorkCoordinator) (failed : List String) :
    Shifts self [] (self.mark_offline failed) := by
  unfold mark_offline
  induction failed generalizing self with
  | nil => exact .refl
  | cons node_id rest ih =>
    have hfirst : Shifts self [] { self with registry := self.registry.set_availability node_id .OFFLINE } :=
      .single (.availability node_id .OFFLINE)
    exact hfirst.trans (ih _)

/-- A pass of the recovery loop leaves the leases of the works after it in place. -/
theorem held_after_reassign {work : String} (hget : self.requirements.get? work = some requirement)
    (node reason : String) (now lease_seconds : ℚ) {rest : List (String × WorkLease)}
    (hfresh : work ∉ rest.map Prod.fst) (hheld : ∀ entry ∈ rest, self.leases.get? entry.1 = some entry.2) :
    ∀ entry ∈ rest, (self.reassign_locked work node reason requirement hget now lease_seconds).2.leases.get?
      entry.1 = some entry.2 := by
  intro entry hentry
  have hne : entry.1 ≠ work := fun hsame => hfresh (hsame ▸ List.mem_map_of_mem hentry)
  rw [(self.reassign_locked_result node reason hget now lease_seconds).leases.1 entry.1 hne]
  exact hheld entry hentry

variable (now lease_seconds : ℚ) (affected : List (String × WorkLease))

theorem recover_works_shifts
    (self : DistributedWorkCoordinator) (hnodup : (affected.map Prod.fst).Nodup)
    (hheld : ∀ entry ∈ affected, self.leases.get? entry.1 = some entry.2) :
    Shifts self (issued_leases (self.recover_works now lease_seconds affected).1)
      (self.recover_works now lease_seconds affected).2 := by
  induction affected generalizing self with
  | nil => exact .refl
  | cons entry rest ih =>
    obtain ⟨work_id, old_lease⟩ := entry
    rw [List.map_cons, List.nodup_cons] at hnodup
    obtain ⟨hfresh, hrest_nodup⟩ := hnodup
    have hlease := hheld _ List.mem_cons_self
    obtain ⟨requirement, hget⟩ := (self.record_of_lease hlease).required
    rw [recover_works_cons hget now lease_seconds rest]
    have hfirst := reassign_locked_shifts hlease ("recovery-from:" ++ old_lease.node_id) hget now lease_seconds
    have hresult := self.reassign_locked_result old_lease.node_id ("recovery-from:" ++ old_lease.node_id) hget now
      lease_seconds
    have hrest_held := held_after_reassign hget old_lease.node_id ("recovery-from:" ++ old_lease.node_id) now
      lease_seconds hfresh (fun entry hentry => hheld entry (List.mem_cons_of_mem _ hentry))
    generalize self.reassign_locked work_id old_lease.node_id ("recovery-from:" ++ old_lease.node_id)
      requirement hget now lease_seconds = result at hfirst hresult hrest_held ⊢
    obtain ⟨outcome, next⟩ := result
    cases outcome with
    | error error => exact hfirst
    | ok decision =>
      have hrest := ih next hrest_nodup hrest_held
      have hmoves := hfirst.trans hrest
      dsimp only
      cases hended : (next.recover_works now lease_seconds rest).1 with
      | ok decisions =>
        rw [hended] at hmoves
        change Shifts self (issued_leases (.ok [decision]) ++ _) _ at hmoves
        rwa [← issued_leases_append] at hmoves
      | error error =>
        -- The loop only raises for a duration under which the earlier passes have issued nothing.
        have hseconds := ((recover_works_leases now lease_seconds rest next hrest_nodup (fun entry hentry =>
          (next.record_of_lease (hrest_held entry hentry)).required)).2.2 error hended).1
        have hunplaced : decision.lease = none := by
          cases hissued : decision.lease with
          | none => rfl
          | some lease =>
            have hpositive := (((hresult.leases.2.1 decision rfl).2 lease hissued).1).seconds_pos
            exact absurd hpositive (not_lt.mpr hseconds)
        have hnothing : issued_leases (.ok [decision]) = [] := by
          simp [issued_leases, issued_lease, hunplaced]
        change Shifts self (issued_leases (.ok [decision]) ++ _) _ at hmoves
        rw [hended, hnothing] at hmoves
        exact hmoves

theorem recover_unavailable_nodes_shifts (self : DistributedWorkCoordinator)
    (now max_heartbeat_age lease_seconds : ℚ) :
    Shifts self (issued_leases (self.recover_unavailable_nodes now max_heartbeat_age lease_seconds).1)
      (self.recover_unavailable_nodes now max_heartbeat_age lease_seconds).2 := by
  unfold recover_unavailable_nodes
  split
  · exact .refl
  · rename_i failed _
    have hmarked : Shifts self [] ((self.mark_offline failed).expire_leases_locked now) :=
      (self.mark_offline_shifts failed).quiet (.dropped _)
    refine hmarked.trans (recover_works_shifts now lease_seconds _ _ (self.nodup_recovery_leases failed now) ?_)
    intro entry hentry
    have hmem : entry ∈ ((self.mark_offline failed).expire_leases_locked now).leases.sorted_items :=
      List.mem_of_mem_filter hentry
    exact (Dict.get?_eq_some_iff _ _ _).mpr ((Dict.mem_sorted_items _ _).mp hmem)

/-- Every pass of recovery starts from tables that are reached by such changes and hold the work's lease. -/
theorem recovery_turns_shifts
    (self : DistributedWorkCoordinator) (hnodup : (affected.map Prod.fst).Nodup)
    (hheld : ∀ entry ∈ affected, self.leases.get? entry.1 = some entry.2) :
    ∀ turn ∈ self.recovery_turns now lease_seconds affected,
      ∃ issued, Shifts self issued turn.coordinator ∧
        turn.coordinator.leases.get? turn.work = some turn.old_lease := by
  induction affected generalizing self with
  | nil =>
    intro turn hturn
    cases hturn
  | cons entry rest ih =>
    obtain ⟨work_id, old_lease⟩ := entry
    rw [List.map_cons, List.nodup_cons] at hnodup
    have hlease := hheld _ List.mem_cons_self
    obtain ⟨requirement, hget⟩ := (self.record_of_lease hlease).required
    rw [recovery_turns_cons hget now lease_seconds rest]
    intro turn hturn
    rcases List.mem_cons.mp hturn with rfl | hlater
    · exact ⟨[], .refl, hlease⟩
    · have hfirst := reassign_locked_shifts hlease ("recovery-from:" ++ old_lease.node_id) hget now lease_seconds
      obtain ⟨issued, hmoves, hturn_held⟩ := ih _ hnodup.2 (held_after_reassign hget old_lease.node_id
        ("recovery-from:" ++ old_lease.node_id) now lease_seconds hnodup.1
        (fun entry hentry => hheld entry (List.mem_cons_of_mem _ hentry))) turn hlater
      exact ⟨_, hfirst.trans hmoves, hturn_held⟩

theorem turns_of_recovery_shifts (self : DistributedWorkCoordinator) (now max_heartbeat_age lease_seconds : ℚ) :
    ∀ turn ∈ self.turns_of_recovery now max_heartbeat_age lease_seconds,
      ∃ issued, Shifts self issued turn.coordinator ∧
        turn.coordinator.leases.get? turn.work = some turn.old_lease := by
  intro turn hturn
  unfold turns_of_recovery at hturn
  split at hturn
  · cases hturn
  · rename_i failed _
    have hmarked : Shifts self [] ((self.mark_offline failed).expire_leases_locked now) :=
      (self.mark_offline_shifts failed).quiet (.dropped _)
    obtain ⟨issued, hmoves, hheld⟩ := recovery_turns_shifts now lease_seconds _ _ (self.nodup_recovery_leases failed now)
      (by
        intro entry hentry
        have hmem : entry ∈ ((self.mark_offline failed).expire_leases_locked now).leases.sorted_items :=
          List.mem_of_mem_filter hentry
        exact (Dict.get?_eq_some_iff _ _ _).mpr ((Dict.mem_sorted_items _ _).mp hmem)) turn hturn
    exact ⟨_, hmarked.trans hmoves, hheld⟩

/-- The calls of the coordinator and of its node registry. -/
inductive Operation where
  | register (advertisement : NodeAdvertisement)
  | remove (node_id : String)
  | set_availability (node_id : String) (availability : NodeAvailability)
  | place (requirement : WorkRequirement) (now lease_seconds : ℚ) (exclude_nodes : List String)
  | refuse_and_reassign (work_id node_id reason : String) (now lease_seconds : ℚ)
  | handoff (work_id from_node_id reason : String) (now lease_seconds : ℚ)
  | complete (work_id node_id : String)
  | recover_unavailable_nodes (now max_heartbeat_age lease_seconds : ℚ)

/-- One call, with the decisions it returns. A call that raises leaves its changes. -/
def perform (self : DistributedWorkCoordinator) :
    Operation → Except Error (List WorkPlacementDecision) × DistributedWorkCoordinator
  | .register advertisement => (.ok [], { self with registry := (self.registry.register advertisement).2 })
  | .remove node_id => (.ok [], { self with registry := self.registry.remove node_id })
  | .set_availability node_id availability =>
    (.ok [], { self with registry := self.registry.set_availability node_id availability })
  | .place requirement now lease_seconds exclude_nodes =>
    let (decision, placed) := self.place requirement now lease_seconds exclude_nodes
    (decision.map (fun decision => [decision]), placed)
  | .refuse_and_reassign work_id node_id reason now lease_seconds =>
    let (decision, reassigned) := self.refuse_and_reassign work_id node_id reason now lease_seconds
    (decision.map (fun decision => [decision]), reassigned)
  | .handoff work_id from_node_id reason now lease_seconds =>
    let (decision, reassigned) := self.handoff work_id from_node_id reason now lease_seconds
    (decision.map (fun decision => [decision]), reassigned)
  | .complete work_id node_id => (.ok [], (self.complete work_id node_id).2)
  | .recover_unavailable_nodes now max_heartbeat_age lease_seconds =>
    self.recover_unavailable_nodes now max_heartbeat_age lease_seconds

/-- What a call does: it changes the registry, it forgets a work that its node completes, or it is a sequence of
changes that issues the leases of its decisions. -/
inductive Performed (self : DistributedWorkCoordinator) :
    Operation → List WorkLease → DistributedWorkCoordinator → Prop where
  | registered (advertisement : NodeAdvertisement) :
    Performed self (.register advertisement) []
      { self with registry := (self.registry.register advertisement).2 }
  | removed (node_id : String) :
    Performed self (.remove node_id) [] { self with registry := self.registry.remove node_id }
  | completed (work_id node_id : String) (lease : WorkLease)
    (hlease : self.leases.get? (normalized work_id) = some lease) (hcompletes : (self.complete work_id node_id).1 = true) :
    Performed self (.complete work_id node_id) [] (self.forget_work (normalized work_id))
  | moved (operation : Operation) (issued : List WorkLease) (after : DistributedWorkCoordinator)
    (hmoves : Moves self issued after) : Performed self operation issued after

theorem perform_performed (self : DistributedWorkCoordinator) (operation : Operation) :
    Performed self operation (issued_leases (self.perform operation).1) (self.perform operation).2 := by
  cases operation with
  | register advertisement => exact .registered advertisement
  | remove node_id => exact .removed node_id
  | set_availability node_id availability => exact .moved _ _ _ (moves_of_shifts (.single (.availability node_id availability)))
  | place requirement now lease_seconds exclude_nodes =>
    exact .moved _ _ _ (self.place_moves requirement now lease_seconds exclude_nodes)
  | refuse_and_reassign work_id node_id reason now lease_seconds =>
    exact .moved _ _ _ (moves_of_shifts (self.refuse_and_reassign_shifts work_id node_id reason now lease_seconds))
  | handoff work_id from_node_id reason now lease_seconds =>
    exact .moved _ _ _ (moves_of_shifts (self.refuse_and_reassign_shifts work_id from_node_id reason now lease_seconds))
  | complete work_id node_id =>
    change Performed self (.complete work_id node_id) [] (self.complete work_id node_id).2
    rcases self.complete_cases work_id node_id with hsame | ⟨lease, hlease, hcompleted⟩
    · rw [hsame]
      exact .moved _ _ _ .refl
    · rw [hcompleted]
      exact .completed work_id node_id lease hlease (by rw [hcompleted])
  | recover_unavailable_nodes now max_heartbeat_age lease_seconds =>
    exact .moved _ _ _
      (moves_of_shifts (self.recover_unavailable_nodes_shifts now max_heartbeat_age lease_seconds))

/-- The state a run ends in. -/
def run (self : DistributedWorkCoordinator) (operations : List Operation) : DistributedWorkCoordinator :=
  operations.foldl (fun coordinator operation => (coordinator.perform operation).2) self

/-- The leases that a run issues, in order. -/
def issued_by_run : DistributedWorkCoordinator → List Operation → List WorkLease
  | _, [] => []
  | self, operation :: rest => issued_leases (self.perform operation).1 ++ issued_by_run (self.perform operation).2 rest

theorem run_append (self : DistributedWorkCoordinator) (first second : List Operation) :
    self.run (first ++ second) = (self.run first).run second :=
  List.foldl_append

end

end velvet.distributed_work_coordinator.DistributedWorkCoordinator
