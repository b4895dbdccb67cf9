import VelvetRuntime.DistributedWork.Moves
import VelvetRuntime.DistributedWork.Tables

open python python.str python.num
open velvet.distributed_work_service (plain_node plain_proposal)

namespace velvet.distributed_work_coordinator.DistributedWorkCoordinator

/-- Two pairs of the identifiers only join to one lease identifier if they agree in the work. -/
def Separable (works nodes : List String) : Prop :=
  ∀ work ∈ works, ∀ other ∈ works, ∀ node ∈ nodes, ∀ other_node ∈ nodes,
    work ++ ":" ++ node = other ++ ":" ++ other_node → work = other

instance (works nodes : List String) : Decidable (Separable works nodes) :=
  inferInstanceAs (Decidable (∀ work ∈ works, _))

section

variable [StrLower]

/-- The works that the calls place. -/
def placed_works (operations : List Operation) : List String :=
  operations.filterMap (fun
    | .place requirement _ _ _ => some (normalized requirement.work_id)
    | _ => none)

/-- The nodes that the calls register. -/
def registered_nodes (operations : List Operation) : List String :=
  operations.filterMap (fun
    | .register advertisement => some (normalized advertisement.node_id)
    | _ => none)

/-- Every node that the work was leased to is among its refusals: it refused the work, handed it off or failed it. -/
def HoldersRefused (self : DistributedWorkCoordinator) (past : List WorkLease) (work : String) : Prop :=
  ∀ lease ∈ past, lease.work_id = work → lease.node_id ∈ self.refused_by work

instance (self : DistributedWorkCoordinator) (past : List WorkLease) (work : String) :
    Decidable (self.HoldersRefused past work) :=
  inferInstanceAs (Decidable (∀ lease ∈ past, _))

/-- The call does not place work again of which a lease has run out or was completed. -/
def KeepsHolders (self : DistributedWorkCoordinator) (past : List WorkLease) : Operation → Prop
  | .place requirement now _ _ =>
    (∃ lease ∈ self.leases.get? (normalized requirement.work_id), now < lease.expires_at) ∨
      self.HoldersRefused past (normalized requirement.work_id)
  | _ => True

instance (self : DistributedWorkCoordinator) (past : List WorkLease) (operation : Operation) :
    Decidable (self.KeepsHolders past operation) :=
  match operation with
  | .place _ _ _ _ => inferInstanceAs (Decidable (_ ∨ _))
  | .register _ | .remove _ | .set_availability _ _ | .refuse_and_reassign _ _ _ _ _ | .handoff _ _ _ _ _
  | .complete _ _ | .recover_unavailable_nodes _ _ _ => inferInstanceAs (Decidable True)

/-- No call of the run does, after the leases that were issued before it. -/
def RunKeepsHolders (past : List WorkLease) : DistributedWorkCoordinator → List Operation → Prop
  | _, [] => True
  | self, operation :: rest => self.KeepsHolders past operation ∧
    RunKeepsHolders (past ++ issued_leases (self.perform operation).1) (self.perform operation).2 rest

instance (past : List WorkLease) (self : DistributedWorkCoordinator) (operations : List Operation) :
    Decidable (RunKeepsHolders past self operations) :=
  match operations with
  | [] => inferInstanceAs (Decidable True)
  | operation :: rest =>
    have := instDecidableRunKeepsHolders (past ++ issued_leases (self.perform operation).1)
      (self.perform operation).2 rest
    inferInstanceAs (Decidable (_ ∧ _))

/-- All leases so far have been for different pairs of a work and a node: where a work is leased, the nodes that had
it before are refused. -/
structure Distinguished (works nodes : List String) (past : List WorkLease) (coordinator : DistributedWorkCoordinator) :
    Prop where
  works_known : ∀ work requirement, coordinator.requirements.get? work = some requirement → work ∈ works
  nodes_known : ∀ entry ∈ coordinator.registry.nodes.items, entry.1 ∈ nodes
  joined : ∀ lease ∈ past, lease.lease_id = lease.work_id ++ ":" ++ lease.node_id ∧ lease.work_id ∈ works ∧
    lease.node_id ∈ nodes
  holders : ∀ work lease, coordinator.leases.get? work = some lease → ∀ earlier ∈ past, earlier.work_id = work →
    earlier.node_id = lease.node_id ∨ earlier.node_id ∈ coordinator.refused_by work
  distinct : (past.map (fun lease => (lease.work_id, lease.node_id))).Nodup

variable {works nodes : List String} {past issued : List WorkLease} {self after : DistributedWorkCoordinator}

section

variable (hdistinguished : Distinguished works nodes past self)

include hdistinguished

/-- Work that is withdrawn is refused by all that had it. -/
theorem Distinguished.withdraw {work : String}
    {lease : WorkLease} (hlease : self.leases.get? work = some lease) :
    Distinguished works nodes past (self.withdraw work lease.node_id) ∧
      (self.withdraw work lease.node_id).HoldersRefused past work := by
  obtain ⟨hworks, hnodes, hjoined, hholders, hdistinct⟩ := hdistinguished
  refine ⟨⟨hworks, hnodes, hjoined, ?_, hdistinct⟩, ?_⟩
  · intro other held hheld earlier hearlier hwork
    rw [leases_withdraw, Dict.get?_pop] at hheld
    split at hheld
    · cases hheld
    · rename_i hother
      rw [refused_by_withdraw, if_neg hother]
      exact hholders other held hheld earlier hearlier hwork
  · intro earlier hearlier hwork
    rw [refused_by_withdraw, if_pos rfl]
    rcases hholders work lease hlease earlier hearlier hwork with hsame | hrefused
    · rw [hsame]
      exact List.mem_insert_self
    · exact List.mem_insert_of_mem hrefused

/-- A lease for a work that all its holders have refused is for a new pair. -/
theorem Distinguished.store_lease
    {requirement : WorkRequirement} {lease : WorkLease}
    (hrecord : LeaseOnRecord self.requirements lease.work_id lease) (hissued : Issued self requirement lease)
    (hrefused : self.HoldersRefused past lease.work_id) :
    Distinguished works nodes (past ++ [lease]) (self.store_lease lease hrecord) := by
  obtain ⟨hworks, hnodes, hjoined, hholders, hdistinct⟩ := hdistinguished
  refine ⟨hworks, hnodes, ?_, ?_, ?_⟩
  · intro earlier hearlier
    rcases List.mem_append.mp hearlier with hold | hnew
    · exact hjoined earlier hold
    · rw [List.mem_singleton.mp hnew]
      obtain ⟨node, hnode, hid, _⟩ := hissued.room
      obtain ⟨entry, hentry, rfl⟩ := List.mem_map.mp hnode
      have hregistered := (Dict.mem_sorted_items _ _).mp hentry
      refine ⟨hissued.lease_id_eq, hworks _ _ hissued.recorded, ?_⟩
      rw [← hid, (self.registry.members entry hregistered).keyed]
      exact hnodes entry hregistered
  · intro work held hheld earlier hearlier hwork
    rw [leases_store_lease, Dict.get?_set] at hheld
    split at hheld
    · rename_i hsame
      cases hheld
      rcases List.mem_append.mp hearlier with hold | hnew
      · subst hsame
        exact .inr (hrefused earlier hold hwork)
      · rw [List.mem_singleton.mp hnew]
        exact .inl rfl
    · rename_i hother
      rcases List.mem_append.mp hearlier with hold | hnew
      · exact hholders work held hheld earlier hold hwork
      · rw [List.mem_singleton.mp hnew] at hwork
        exact absurd hwork.symm hother
  · rw [List.map_append, List.map_singleton]
    refine hdistinct.append (List.nodup_singleton _) ?_
    rw [List.disjoint_singleton]
    intro hpair
    obtain ⟨earlier, hearlier, hsame⟩ := List.mem_map.mp hpair
    obtain ⟨hwork, hnode⟩ := Prod.mk.inj hsame
    exact hissued.not_refused (hnode ▸ hrefused earlier hearlier hwork)

theorem Distinguished.keep_leases
    (keep : String → WorkLease → Bool) : Distinguished works nodes past (self.keep_leases keep) := by
  obtain ⟨hworks, hnodes, hjoined, hholders, hdistinct⟩ := hdistinguished
  refine ⟨hworks, hnodes, hjoined, ?_, hdistinct⟩
  intro work lease hlease
  change (self.leases.filter keep).get? work = some lease at hlease
  rw [Dict.get?_filter, Option.filter_eq_some_iff] at hlease
  exact hholders work lease hlease.1

/-- Changes to placed work issue leases for new pairs, whatever was issued before. -/
theorem Distinguished.shift (hshift : Shift self issued after) :
    Distinguished works nodes (past ++ issued) after := by
  cases hshift with
  | availability node_id availability =>
    rw [List.append_nil]
    obtain ⟨hworks, hnodes, hjoined, hholders, hdistinct⟩ := hdistinguished
    refine ⟨hworks, ?_, hjoined, hholders, hdistinct⟩
    intro entry hentry
    dsimp only at hentry
    unfold VerifiedNodeRegistry.set_availability at hentry
    dsimp only at hentry
    split at hentry
    · exact hnodes entry hentry
    · rename_i current hcurrent
      rcases (Dict.mem_items_set_iff _ _ _ _).mp hentry with rfl | ⟨_, hold⟩
      · exact hnodes (normalized node_id, current) ((Dict.get?_eq_some_iff _ _ _).mp hcurrent)
      · exact hnodes entry hold
  | dropped keep =>
    rw [List.append_nil]
    exact hdistinguished.keep_leases keep
  | withdrawn work lease hlease =>
    rw [List.append_nil]
    exact (hdistinguished.withdraw hlease).1
  | replaced work old_lease hold requirement lease hrecord hwork hissued =>
    obtain ⟨hwithdrawn, hrefused⟩ := hdistinguished.withdraw hold
    exact hwithdrawn.store_lease hrecord hissued (hwork ▸ hrefused)

theorem Distinguished.shifts
    (hshifts : Shifts self issued after) : Distinguished works nodes (past ++ issued) after :=
  hshifts.invariant_output (fun _ _ _ _ hbefore hshift => hbefore.shift hshift) hdistinguished

end

theorem Distinguished.place (hdistinguished : Distinguished works nodes past self) (requirement : WorkRequirement)
    (now lease_seconds : ℚ) (exclude_nodes : List String) (hknown : normalized requirement.work_id ∈ works)
    (hkeeps : self.KeepsHolders past (.place requirement now lease_seconds exclude_nodes)) :
    Distinguished works nodes (past ++ issued_by (self.place requirement now lease_seconds exclude_nodes).1)
      (self.place requirement now lease_seconds exclude_nodes).2 := by
  rcases self.place_cases requirement now lease_seconds exclude_nodes with ⟨hshifts, hnone⟩ | ⟨hunleased, hplacing⟩
  · rw [hnone]
    exact hdistinguished.shifts hshifts
  · have hrefused : self.HoldersRefused past (normalized requirement.work_id) := by
      rcases hkeeps with ⟨lease, hlease, hruns⟩ | hrefused
      · rw [expire_leases_get?, hlease] at hunleased
        rw [Option.filter_some, if_pos (unexpired_iff.mpr hruns)] at hunleased
        cases hunleased
      · exact hrefused
    have hrequired : Distinguished works nodes past
        ((self.expire_leases_locked now).set_requirement requirement) := by
      obtain ⟨hworks, hnodes, hjoined, hholders, hdistinct⟩ :=
        hdistinguished.keep_leases (fun _ lease => unexpired now lease)
      refine ⟨?_, hnodes, hjoined, hholders, hdistinct⟩
      intro work found hfound
      change ((self.expire_leases_locked now).requirements.set _ _).get? work = some found at hfound
      rw [Dict.get?_set] at hfound
      split at hfound
      · rename_i hsame
        rw [hsame]
        exact hknown
      · exact hworks work found hfound
    generalize issued_by (self.place requirement now lease_seconds exclude_nodes).1 = issued at hplacing ⊢
    generalize (self.place requirement now lease_seconds exclude_nodes).2 = after at hplacing ⊢
    cases hplacing with
    | unplaced =>
      rw [List.append_nil]
      exact hrequired
    | placed lease hrecord hwork hissued => exact hrequired.store_lease hrecord hissued (hwork ▸ hrefused)

theorem Distinguished.forget_work (hdistinguished : Distinguished works nodes past self) (forgotten : String) :
    Distinguished works nodes past (self.forget_work forgotten) := by
  obtain ⟨hworks, hnodes, hjoined, hholders, hdistinct⟩ := hdistinguished
  refine ⟨?_, hnodes, hjoined, ?_, hdistinct⟩
  · intro work requirement hget
    change (self.requirements.pop forgotten).get? work = some requirement at hget
    rw [Dict.get?_pop] at hget
    split at hget
    · cases hget
    · exact hworks work requirement hget
  · intro work lease hlease
    change (self.leases.pop forgotten).get? work = some lease at hlease
    rw [Dict.get?_pop] at hlease
    split at hlease
    · cases hlease
    · rename_i hother
      change ∀ earlier ∈ past, earlier.work_id = work → earlier.node_id = lease.node_id ∨
        earlier.node_id ∈ ((self.refusals.pop forgotten).get? work).getD []
      rw [Dict.get?_pop_of_ne _ hother]
      exact hholders work lease hlease

theorem Distinguished.perform (hdistinguished : Distinguished works nodes past self) {operation : Operation}
    (hplaced : ∀ work ∈ placed_works [operation], work ∈ works)
    (hregistered : ∀ node ∈ registered_nodes [operation], node ∈ nodes) (hkeeps : self.KeepsHolders past operation) :
    Distinguished works nodes (past ++ issued_leases (self.perform operation).1) (self.perform operation).2 := by
  cases operation with
  | register advertisement =>
    change Distinguished works nodes (past ++ []) _
    rw [List.append_nil]
    obtain ⟨hworks, hnodes, hjoined, hholders, hdistinct⟩ := hdistinguished
    refine ⟨hworks, ?_, hjoined, hholders, hdistinct⟩
    intro entry hentry
    change entry ∈ (self.registry.register advertisement).2.nodes.items at hentry
    unfold VerifiedNodeRegistry.register at hentry
    dsimp only at hentry
    split at hentry
    · rcases (Dict.mem_items_set_iff _ _ _ _).mp hentry with rfl | ⟨_, hold⟩
      · exact hregistered _ List.mem_cons_self
      · exact hnodes entry hold
    · exact hnodes entry hentry
  | remove node_id =>
    change Distinguished works nodes (past ++ []) _
    rw [List.append_nil]
    obtain ⟨hworks, hnodes, hjoined, hholders, hdistinct⟩ := hdistinguished
    exact ⟨hworks, fun entry hentry => hnodes entry (List.mem_of_mem_filter hentry), hjoined, hholders, hdistinct⟩
  | set_availability node_id availability => exact hdistinguished.shifts (.single (.availability node_id availability))
  | place requirement now lease_seconds exclude_nodes =>
    exact hdistinguished.place requirement now lease_seconds exclude_nodes (hplaced _ List.mem_cons_self) hkeeps
  | refuse_and_reassign work_id node_id reason now lease_seconds =>
    exact hdistinguished.shifts (self.refuse_and_reassign_shifts work_id node_id reason now lease_seconds)
  | handoff work_id from_node_id reason now lease_seconds =>
    exact hdistinguished.shifts (self.refuse_and_reassign_shifts work_id from_node_id reason now lease_seconds)
  | complete work_id node_id =>
    change Distinguished works nodes (past ++ []) (self.complete work_id node_id).2
    rw [List.append_nil]
    rcases self.complete_cases work_id node_id with hsame | ⟨lease, hlease, hcompleted⟩
    · rw [hsame]
      exact hdistinguished
    · rw [hcompleted]
      exact hdistinguished.forget_work (normalized work_id)
  | recover_unavailable_nodes now max_heartbeat_age lease_seconds =>
    exact hdistinguished.shifts (self.recover_unavailable_nodes_shifts now max_heartbeat_age lease_seconds)

theorem Distinguished.run (hdistinguished : Distinguished works nodes past self) {operations : List Operation}
    (hplaced : ∀ work ∈ placed_works operations, work ∈ works)
    (hregistered : ∀ node ∈ registered_nodes operations, node ∈ nodes)
    (hkeeps : RunKeepsHolders past self operations) :
    Distinguished works nodes (past ++ issued_by_run self operations) (self.run operations) := by
  induction operations generalizing self past with
  | nil =>
    change Distinguished works nodes (past ++ []) self
    rwa [List.append_nil]
  | cons operation rest ih =>
    have hsplit : operation :: rest = [operation] ++ rest := rfl
    rw [hsplit] at hplaced hregistered
    unfold placed_works at hplaced
    unfold registered_nodes at hregistered
    rw [List.filterMap_append] at hplaced hregistered
    have hfirst := hdistinguished.perform (fun work hwork => hplaced work (List.mem_append_left _ hwork))
      (fun node hnode => hregistered node (List.mem_append_left _ hnode)) hkeeps.1
    have hrest := ih hfirst (fun work hwork => hplaced work (List.mem_append_right _ hwork))
      (fun node hnode => hregistered node (List.mem_append_right _ hnode)) hkeeps.2
    rwa [List.append_assoc] at hrest

/-- Under separable identifiers, leases for different pairs have different identifiers. -/
theorem Distinguished.lease_ids (hdistinguished : Distinguished works nodes past self)
    (hseparable : Separable works nodes) : (past.map WorkLease.lease_id).Nodup := by
  have hsame : past.map WorkLease.lease_id =
      (past.map (fun lease => (lease.work_id, lease.node_id))).map (fun pair => pair.1 ++ ":" ++ pair.2) := by
    rw [List.map_map]
    exact List.map_congr_left (fun lease hlease => (hdistinguished.joined lease hlease).1)
  rw [hsame]
  refine List.Nodup.map_on ?_ hdistinguished.distinct
  intro first hfirst second hsecond hjoin
  obtain ⟨lease, hlease, rfl⟩ := List.mem_map.mp hfirst
  obtain ⟨other, hother, rfl⟩ := List.mem_map.mp hsecond
  obtain ⟨_, hwork, hnode⟩ := hdistinguished.joined lease hlease
  obtain ⟨_, hother_work, hother_node⟩ := hdistinguished.joined other hother
  dsimp only at hjoin ⊢
  have hworks := hseparable _ hwork _ hother_work _ hnode _ hother_node hjoin
  rw [hworks, String.append_right_inj] at hjoin
  rw [hworks, hjoin]

/-- As long as no work is placed again of which a lease has run out or was completed, and the identifiers are
separable, no two leases that a run issues carry the same identifier. -/
theorem lease_ids_distinct (body_id : String) (operations : List Operation)
    (hkeeps : RunKeepsHolders [] (new (VerifiedNodeRegistry.new body_id)) operations)
    (hseparable : Separable (placed_works operations) (registered_nodes operations)) :
    ((issued_by_run (new (VerifiedNodeRegistry.new body_id)) operations).map WorkLease.lease_id).Nodup := by
  have hstart : Distinguished (placed_works operations) (registered_nodes operations) []
      (new (VerifiedNodeRegistry.new body_id)) := by
    refine ⟨?_, ?_, ?_, ?_, List.nodup_nil⟩
    · intro work requirement hget
      cases hget
    · intro entry hentry
      cases hentry
    · intro lease hlease
      cases hlease
    · intro work lease hlease
      cases hlease
  have hrun := hstart.run (fun _ hwork => hwork) (fun _ hnode => hnode) hkeeps
  rw [List.nil_append] at hrun
  exact hrun.lease_ids hseparable

end

/-- `w1` is leased to `a` for ten seconds and placed again at 20, when that lease has run out. -/
def expired_then_placed_again [StrLower] (hwork : velvet.distributed_work_service.IsNormalized "w1") :
    List Operation :=
  [.register (plain_node "a" 1 0 .AVAILABLE 2 text_a full_health zero_beat Nat.two_pos),
    .place (plain_proposal "w1" hwork).to_requirement 0 10 [],
    .place (plain_proposal "w1" hwork).to_requirement 20 10 []]

/-- Both placements issue the lease `w1:a`. -/
theorem lease_id_reissued :
    letI := StrLower.ascii
    let issued := issued_by_run (new (VerifiedNodeRegistry.new "body")) (expired_then_placed_again (by decide))
    issued.map (fun lease => (lease.lease_id, lease.issued_at)) = [("w1:a", 0), ("w1:a", 20)] ∧
      ¬ (issued.map WorkLease.lease_id).Nodup := by decide +kernel

/-- `w1` goes to `a`, which refuses it, and to `b`, where it is found running; `w2` goes to `a`. -/
def refused_and_resubmitted [StrLower] (hfirst : velvet.distributed_work_service.IsNormalized "w1")
    (hsecond : velvet.distributed_work_service.IsNormalized "w2") : List Operation :=
  [.register (plain_node "a" 1 0 .AVAILABLE 2 text_a full_health zero_beat Nat.two_pos),
    .register (plain_node "b" (1 / 2) 0 .AVAILABLE 2 text_b half_health zero_beat Nat.two_pos),
    .place (plain_proposal "w1" hfirst).to_requirement 0 100 [], .refuse_and_reassign "w1" "a" "busy" 10 100,
    .place (plain_proposal "w1" hfirst).to_requirement 20 100 [],
    .place (plain_proposal "w2" hsecond).to_requirement 30 100 []]

/-- The three leases of that run. -/
theorem refused_and_resubmitted_distinct :
    letI := StrLower.ascii
    let issued := issued_by_run (new (VerifiedNodeRegistry.new "body")) (refused_and_resubmitted (by decide) (by decide))
    issued.map WorkLease.lease_id = ["w1:a", "w1:b", "w2:a"] ∧ (issued.map WorkLease.lease_id).Nodup := by
  have hids : letI := StrLower.ascii
      (issued_by_run (new (VerifiedNodeRegistry.new "body")) (refused_and_resubmitted (by decide) (by decide))).map
        WorkLease.lease_id = ["w1:a", "w1:b", "w2:a"] := by decide +kernel
  have hkeeps : letI := StrLower.ascii
      RunKeepsHolders [] (new (VerifiedNodeRegistry.new "body")) (refused_and_resubmitted (by decide) (by decide)) := by
    decide +kernel
  have hseparable : letI := StrLower.ascii
      Separable (placed_works (refused_and_resubmitted (by decide) (by decide)))
        (registered_nodes (refused_and_resubmitted (by decide) (by decide))) := by decide
  let := StrLower.ascii
  exact ⟨hids, lease_ids_distinct "body" (refused_and_resubmitted (by decide) (by decide)) hkeeps hseparable⟩

end velvet.distributed_work_coordinator.DistributedWorkCoordinator
