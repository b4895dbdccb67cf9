import VelvetRuntime.ResourceAware.Reserved

open python python.str python.Program velvet.body_capacity velvet.distributed_work_coordinator
open velvet.resource_reservations
open DistributedWorkCoordinator (Placed Named NewLease unexpired)

namespace velvet.resource_aware_work_proposals.LiveResourceAwareCoordinator

open DistributedWorkCoordinator

/-- A filter keeps at least what a stronger one keeps. -/
theorem filter_sublist_filter {α : Type} {values : List α} {strong weak : α → Bool}
    (himplies : ∀ value ∈ values, strong value = true → weak value = true) :
    (values.filter strong).Sublist (values.filter weak) := by
  have hsame : values.filter strong = (values.filter weak).filter strong := by
    rw [List.filter_filter]
    apply List.filter_congr
    intro value hvalue
    rw [Bool.eq_iff_iff, Bool.and_eq_true]
    exact ⟨fun hstrong => ⟨hstrong, himplies value hvalue hstrong⟩, fun hboth => hboth.1⟩
  rw [hsame]
  exact List.filter_sublist

section

variable [StrLower]

variable {live : LiveResourceAwareCoordinator} {now lease_seconds : ℚ}

/-- The decision about a recovered work whose reservation was released. -/
theorem wp_rebind {work : String} {decision : WorkPlacementDecision} (hnow : 0 ≤ now)
    (hplaced : Placed live.coordinator live.coordinator work now lease_seconds decision.lease)
    (hnone : live.reservation_of work = none) :
    wp (rebind now lease_seconds decision)
      (fun last after => Settled live after work now lease_seconds last.lease ∧
        Backed (after.requirements_of work) (after.reservation_of work) last.lease)
      (fun _ _ => False) live := by
  unfold rebind
  cases hlease : decision.lease with
  | none =>
    rw [hlease] at hplaced
    simp only [wp_pure, hlease]
    exact ⟨⟨⟨hplaced, rfl⟩, rfl, fun _ _ => rfl⟩, hnone⟩
  | some lease =>
    rw [hlease] at hplaced
    obtain ⟨hnamed, hnew⟩ := hplaced.issued lease rfl
    have hnormal := (live.coordinator.record_of_lease hplaced.own).normal
    have hpos := hnew.seconds_pos
    dsimp only
    rw [wp_bind, wp_within, hnew.work_id_eq]
    refine wp_mono (ResourceAwareWorkCoordinator.wp_revalidate hplaced.own hnormal hnamed hnew
      (hplaced.node lease rfl)) ?_ ?_
    · rintro replacement inner ⟨outcome, hmoved, houtcome⟩
      have hdecided : (replacement.getD decision).lease = outcome := by
        cases replacement with
        | none => exact hlease.trans houtcome
        | some found => exact houtcome
      have hsettled : Settled live (live.set_resource_coordinator inner) work now lease_seconds
          (replacement.getD decision).lease := by
        rw [hdecided]
        exact ⟨hmoved, rfl, fun _ _ => rfl⟩
      refine wp_mono (wp_reserved hnow hsettled hnone) (fun _ _ hend => hend) ?_
      intro error after hend
      exact absurd hend.2.2 (not_le.mpr hpos)
    · intro error inner hend
      exact absurd hend.2 (not_le.mpr hpos)

/-- What a work has after its recovery. -/
structure Bound (live : LiveResourceAwareCoordinator) (work : String) (now lease_seconds : ℚ) : Prop where
  issued : ∀ lease, live.lease_at work = some lease → Named lease ∧ NewLease work now lease_seconds lease
  backed : Backed (live.requirements_of work) (live.reservation_of work) (live.lease_at work)

/-- What the loop over the recovered works does. -/
structure Rebound (before after : LiveResourceAwareCoordinator) (works : List String) (now lease_seconds : ℚ) :
    Prop where
  requirements : after.requirements = before.requirements
  declared : after.declared = before.declared
  leases : ∀ key, key ∉ works → after.lease_at key = before.lease_at key
  reservations : ∀ key, key ∉ works → after.reservation_of key = before.reservation_of key
  bound : ∀ work ∈ works, Bound after work now lease_seconds

/-- The loop over the recovered works binds them one after another, and never raises. -/
theorem wp_rebind_works (hnow : 0 ≤ now) (works : List (String × WorkPlacementDecision))
    (live : LiveResourceAwareCoordinator) (hnodup : (works.map Prod.fst).Nodup)
    (hnormal : ∀ entry ∈ works, normalized entry.1 = entry.1)
    (hplaced : ∀ entry ∈ works,
      Placed live.coordinator live.coordinator entry.1 now lease_seconds entry.2.lease) :
    wp (rebind_works now lease_seconds works)
      (fun _ after => Rebound live after (works.map Prod.fst) now lease_seconds) (fun _ _ => False) live := by
  induction works generalizing live with
  | nil => exact ⟨rfl, rfl, fun _ _ => rfl, fun _ _ => rfl, by simp⟩
  | cons entry rest ih =>
    obtain ⟨work, decision⟩ := entry
    rw [List.map_cons, List.nodup_cons] at hnodup
    rw [List.forall_mem_cons] at hnormal hplaced
    dsimp only at hnodup hnormal hplaced
    have hreleased : ∀ key, key ≠ work → (live.release work).reservation_of key = live.reservation_of key := by
      intro key hkey
      rw [← hnormal.1] at hkey
      exact Dict.get?_pop_of_ne _ hkey
    have hnone : (live.release work).reservation_of work = none := by
      change (live.reservations.by_work.pop (normalized work)).get? work = none
      rw [hnormal.1]
      exact Dict.get?_pop_self _ _
    unfold rebind_works
    rw [wp_bind, wp_modify, wp_bind]
    refine wp_mono (wp_rebind hnow hplaced.1 hnone) ?_ (fun _ _ hend => hend)
    rintro current after ⟨hsettled, hbacked⟩
    have hmoved := hsettled.moved.placed
    rw [wp_bind]
    refine wp_mono (ih after hnodup.2 hnormal.2 ?_) ?_ (fun _ _ hend => hend)
    · intro entry hentry
      have hkey : entry.1 ≠ work := by
        rintro rfl
        exact hnodup.1 (List.mem_map.mpr ⟨entry, hentry, rfl⟩)
      have hfound := hplaced.2 entry hentry
      refine ⟨rfl, fun _ _ => rfl, (hmoved.others _ hkey).trans hfound.own, fun _ hin => hin, fun _ _ => rfl, ?_,
        hfound.issued⟩
      intro lease hlease
      have hwilling := hfound.node lease hlease
      have hregistry : after.coordinator.registry = live.coordinator.registry := hmoved.registry
      have hrefusals : after.coordinator.refused_by entry.1 = live.coordinator.refused_by entry.1 :=
        hmoved.other_refusals _ hkey
      unfold willing registered_ids at hwilling ⊢
      rw [hregistry, hrefusals]
      exact hwilling
    · intro bounded last hrest
      refine ⟨hrest.requirements.trans hsettled.requirements, hrest.declared.trans hsettled.declared, ?_, ?_, ?_⟩
      · intro key hkey
        rw [List.map_cons, List.mem_cons, not_or] at hkey
        exact (hrest.leases key hkey.2).trans (hmoved.others key hkey.1)
      · intro key hkey
        rw [List.map_cons, List.mem_cons, not_or] at hkey
        exact (hrest.reservations key hkey.2).trans ((hsettled.others key hkey.1).trans (hreleased key hkey.1))
      · intro key hkey
        rcases List.mem_cons.mp hkey with rfl | hin
        · have hlease : last.lease_at key = current.lease := (hrest.leases key hnodup.1).trans hmoved.own
          have hrequirements : last.requirements_of key = after.requirements_of key := by
            unfold requirements_of
            rw [hrest.requirements]
          refine ⟨?_, ?_⟩
          · rw [hlease]
            exact hmoved.issued
          · rw [hlease, hrequirements, hrest.reservations key hnodup.1]
            exact hbacked
        · exact hrest.bound key hin

variable {failed : List String} {now max_heartbeat_age : ℚ}

/-- The coordinator recovers from the same nodes, under their normalised ids. -/
theorem coordinator_failed_nodes
    (hfailed : live.failed_nodes now max_heartbeat_age = .ok failed) :
    live.coordinator.failed_nodes now max_heartbeat_age = .ok (sorted_set (failed.map normalized)) := by
  unfold LiveResourceAwareCoordinator.failed_nodes at hfailed
  unfold DistributedWorkCoordinator.failed_nodes
  cases hstale : live.coordinator.registry.expired_node_ids now max_heartbeat_age with
  | error error =>
    rw [hstale] at hfailed
    cases hfailed
  | ok stale =>
    rw [hstale] at hfailed
    cases hfailed
    rfl

/-- The works that the coordinator recovers when these nodes have failed. -/
def recovered_works (live : LiveResourceAwareCoordinator) (failed : List String) (now : ℚ) : List String :=
  (live.coordinator.recovery_leases (sorted_set (failed.map normalized)) now).map Prod.fst

theorem recovered_works_eq_filter (live : LiveResourceAwareCoordinator) (failed : List String) (now : ℚ) :
    live.recovered_works failed now = (live.coordinator.leases.sorted_items.filter (fun entry =>
      now < entry.2.expires_at ∧ entry.2.node_id ∈ failed.map normalized)).map Prod.fst := by
  have hexpired : ((live.coordinator.mark_offline (sorted_set (failed.map normalized))).expire_leases_locked
      now).leases.sorted_items =
      live.coordinator.leases.sorted_items.filter (fun entry => !decide (entry.2.expires_at ≤ now)) :=
    Dict.sorted_items_filter _ _
  unfold recovered_works recovery_leases affected_leases
  rw [hexpired, List.filter_filter]
  congr 1
  apply List.filter_congr
  intro entry _
  rw [Bool.eq_iff_iff]
  simp only [Bool.and_eq_true, decide_eq_true_eq, Bool.not_eq_true', decide_eq_false_iff_not, not_le, mem_sorted_set]
  exact and_comm

/-- The live coordinator expects no other works than those that the coordinator recovers. -/
theorem affected_work_ids_sublist (live : LiveResourceAwareCoordinator) (failed : List String) (now : ℚ) :
    (live.affected_work_ids failed now).Sublist (live.recovered_works failed now) := by
  rw [recovered_works_eq_filter]
  refine (filter_sublist_filter ?_).map Prod.fst
  intro entry hentry hboth
  have hlease : live.lease_at entry.1 = some entry.2 :=
    (Dict.get?_eq_some_iff _ _ _).mpr ((Dict.mem_sorted_items _ _).mp hentry)
  obtain ⟨hlater, hin⟩ := of_decide_eq_true hboth
  refine decide_eq_true ⟨hlater, ?_⟩
  rw [← (live.coordinator.record_of_lease hlease).node_normal]
  exact List.mem_map_of_mem hin

/-- How the recovery of the coordinator ends for the works that it moves. -/
theorem wp_recover_pruned {now max_heartbeat_age lease_seconds : ℚ} (hnow : 0 ≤ now)
    (hfailed : live.failed_nodes now max_heartbeat_age = .ok failed) :
    wp (do
        let decisions ← within (ResourceAwareWorkCoordinator.coordinate (fun coordinator =>
          coordinator.recover_unavailable_nodes now max_heartbeat_age lease_seconds))
        if decisions.length ≠ (live.affected_work_ids failed now).length then throw diverged
        else rebind_works now lease_seconds ((live.affected_work_ids failed now).zip decisions))
      (fun _ after => ∃ expired, Rebound expired after (live.recovered_works failed now) now lease_seconds ∧
        expired.requirements = live.requirements ∧ expired.declared = live.declared ∧
        expired.reservations = live.reservations ∧ ∀ key, key ∉ live.recovered_works failed now →
          expired.lease_at key = (live.lease_at key).filter (unexpired now))
      (fun _ after => (live.affected_work_ids failed now = live.recovered_works failed now →
          live.recovered_works failed now ≠ [] ∧ lease_seconds ≤ 0) ∧
        after.declared = live.declared ∧ after.reservations = live.reservations ∧
        ∀ key, live.lease_at key = none → after.lease_at key = none) live := by
  have hmem : ∀ entry ∈ live.coordinator.recovery_leases (sorted_set (failed.map normalized)) now,
      live.lease_at entry.1 = some entry.2 := fun entry hentry =>
    ((live.coordinator.mem_recovery_leases_iff _ _ entry.1 entry.2).mp hentry).1
  have hrequired : ∀ entry ∈ live.coordinator.recovery_leases (sorted_set (failed.map normalized)) now,
      ∃ requirement, live.coordinator.requirements.get? entry.1 = some requirement :=
    fun entry hentry => (live.coordinator.record_of_lease (hmem entry hentry)).required
  have hnodup := live.coordinator.nodup_recovery_leases (sorted_set (failed.map normalized)) now
  have hrecover : live.coordinator.recover_unavailable_nodes now max_heartbeat_age lease_seconds =
      ((live.coordinator.mark_offline (sorted_set (failed.map normalized))).expire_leases_locked now).recover_works now
        lease_seconds (live.coordinator.recovery_leases (sorted_set (failed.map normalized)) now) := by
    unfold DistributedWorkCoordinator.recover_unavailable_nodes
    rw [coordinator_failed_nodes hfailed]
    rfl
  obtain ⟨hleases, _, hraised⟩ := recover_works_leases now lease_seconds
    (live.coordinator.recovery_leases (sorted_set (failed.map normalized)) now)
    ((live.coordinator.mark_offline (sorted_set (failed.map normalized))).expire_leases_locked now) hnodup hrequired
  obtain ⟨_, _, hplaced⟩ := recover_works_placed now lease_seconds
    (live.coordinator.recovery_leases (sorted_set (failed.map normalized)) now)
    ((live.coordinator.mark_offline (sorted_set (failed.map normalized))).expire_leases_locked now) hnodup hrequired
  have hsublist := affected_work_ids_sublist live failed now
  rw [← hrecover] at hleases hraised hplaced
  have hkept : ∀ key, key ∉ live.recovered_works failed now →
      (live.coordinator.recover_unavailable_nodes now max_heartbeat_age lease_seconds).2.leases.get? key =
        (live.lease_at key).filter (unexpired now) := fun key hkey =>
    (hleases key hkey).trans (expire_leases_get? _ now key)
  have hgone : ∀ key, live.lease_at key = none →
      (live.coordinator.recover_unavailable_nodes now max_heartbeat_age lease_seconds).2.leases.get? key = none := by
    intro key hnone
    have hkey : key ∉ live.recovered_works failed now := by
      intro hin
      obtain ⟨entry, hentry, rfl⟩ := List.mem_map.mp hin
      cases hnone.symm.trans (hmem entry hentry)
    rw [hkept key hkey, hnone]
    rfl
  rw [wp_bind, wp_within]
  apply ResourceAwareWorkCoordinator.wp_coordinate
  · intro decisions hdecisions
    have hforall : List.Forall₂ (fun work (decision : WorkPlacementDecision) =>
        Placed (live.coordinator.recover_unavailable_nodes now max_heartbeat_age lease_seconds).2
          (live.coordinator.recover_unavailable_nodes now max_heartbeat_age lease_seconds).2 work now lease_seconds
          decision.lease) (live.recovered_works failed now) decisions :=
      List.forall₂_map_left_iff.mpr (hplaced decisions hdecisions)
    obtain ⟨hlength, hzip⟩ := List.forall₂_iff_zip.mp hforall
    split
    · rename_i hdiverged
      refine ⟨?_, rfl, rfl, hgone⟩
      intro hsame
      rw [hsame] at hdiverged
      exact absurd hlength.symm hdiverged
    · rename_i hcounted
      have hsame : live.affected_work_ids failed now = live.recovered_works failed now :=
        hsublist.eq_of_length (by rw [hlength]; exact (not_not.mp hcounted).symm)
      have hkeys : ((live.recovered_works failed now).zip decisions).map Prod.fst = live.recovered_works failed now :=
        List.map_fst_zip hlength.le
      rw [hsame]
      refine wp_mono (wp_rebind_works hnow _ _ ?_ ?_ (fun entry hentry => hzip hentry)) ?_ (fun _ _ => False.elim)
      · rw [hkeys]
        exact hnodup
      · intro entry hentry
        obtain ⟨old, hold, hwork⟩ := List.mem_map.mp (List.of_mem_zip hentry).1
        rw [← hwork]
        exact (live.coordinator.record_of_lease (hmem old hold)).normal
      · intro bounded after hrebound
        rw [hkeys] at hrebound
        exact ⟨_, hrebound, rfl, rfl, rfl, hkept⟩
  · intro error herror
    refine ⟨fun _ => ⟨?_, (hraised error herror).1⟩, rfl, rfl, hgone⟩
    intro hnil
    change (live.coordinator.recover_unavailable_nodes now max_heartbeat_age lease_seconds).1 = _ at herror
    rw [hrecover, List.map_eq_nil_iff.mp hnil] at herror
    cases herror

end

end velvet.resource_aware_work_proposals.LiveResourceAwareCoordinator
