import VelvetRuntime.DistributedWork.Placement

open python python.str python.num

namespace velvet.distributed_work_coordinator.DistributedWorkCoordinator

section

variable {α β : Type} {relation : α → β → Prop} {left : List α} {right : List β}
variable (hforall : List.Forall₂ relation left right)

include hforall

/-- Every element on the right of a pointwise relation has its counterpart on the left. -/
theorem exists_left_of_forall₂ {value : β} (hmem : value ∈ right) :
    ∃ counterpart ∈ left, relation counterpart value := by
  induction hforall with
  | nil => cases hmem
  | cons hhead _ ih =>
    rcases List.mem_cons.mp hmem with rfl | htail
    · exact ⟨_, List.mem_cons_self, hhead⟩
    · obtain ⟨counterpart, hcounterpart, hrelation⟩ := ih htail
      exact ⟨counterpart, List.mem_cons_of_mem _ hcounterpart, hrelation⟩

/-- Every element on the left of a pointwise relation has its counterpart on the right. -/
theorem exists_right_of_forall₂ {value : α} (hmem : value ∈ left) :
    ∃ counterpart ∈ right, relation value counterpart := by
  have hflip : List.Forall₂ (flip relation) right left := List.Forall₂.flip hforall
  exact exists_left_of_forall₂ hflip hmem

end

variable [StrLower]

variable {self : DistributedWorkCoordinator} {requirement : WorkRequirement} {old_lease : WorkLease}

/-- The recovery loop on a work whose requirement is on record. -/
theorem recover_works_cons {work_id : String}
    (hget : self.requirements.get? work_id = some requirement) (now lease_seconds : ℚ)
    (rest : List (String × WorkLease)) :
    self.recover_works now lease_seconds ((work_id, old_lease) :: rest) =
      match self.reassign_locked work_id old_lease.node_id ("recovery-from:" ++ old_lease.node_id)
        requirement hget now lease_seconds with
      | (.error error, next) => (.error error, next)
      | (.ok decision, next) =>
        ((next.recover_works now lease_seconds rest).1.map (fun decisions => decision :: decisions),
          (next.recover_works now lease_seconds rest).2) := by
  rw [recover_works]
  split
  · rename_i hnone
    rw [hget] at hnone
    cases hnone
  · rename_i found hfound
    have hsame : found = requirement := by
      rw [hget] at hfound
      exact (Option.some.inj hfound).symm
    subst hsame
    rfl

/-- The decision the loop makes about one affected lease, against the table it leaves behind. -/
structure Recovered (final : DistributedWorkCoordinator) (now lease_seconds : ℚ) (entry : String × WorkLease)
    (decision : WorkPlacementDecision) : Prop where
  lease_eq : final.leases.get? entry.1 = decision.lease
  new_lease : ∀ lease, decision.lease = some lease → NewLease entry.1 now lease_seconds lease
  moved : ∀ lease, decision.lease = some lease → lease.node_id ≠ entry.2.node_id

/-- What the recovery loop does to the lease table: the affected works get the leases of their
decisions, and no other entry changes. A loop that raises has issued no lease. -/
theorem recover_works_leases (now lease_seconds : ℚ) (affected : List (String × WorkLease))
    (self : DistributedWorkCoordinator) (hnodup : (affected.map Prod.fst).Nodup)
    (hrequired : ∀ entry ∈ affected, ∃ requirement, self.requirements.get? entry.1 = some requirement) :
    (∀ key, key ∉ affected.map Prod.fst →
      (self.recover_works now lease_seconds affected).2.leases.get? key = self.leases.get? key) ∧
    (∀ decisions, (self.recover_works now lease_seconds affected).1 = .ok decisions →
      List.Forall₂ (Recovered (self.recover_works now lease_seconds affected).2 now lease_seconds)
        affected decisions) ∧
    (∀ error, (self.recover_works now lease_seconds affected).1 = .error error → lease_seconds ≤ 0 ∧
      ∀ key lease, (self.recover_works now lease_seconds affected).2.leases.get? key = some lease →
        self.leases.get? key = some lease) := by
  induction affected generalizing self with
  | nil =>
    refine ⟨fun _ _ => rfl, ?_, ?_⟩
    · intro decisions hdecisions
      cases hdecisions
      exact .nil
    · intro error herror
      cases herror
  | cons entry rest ih =>
    obtain ⟨work_id, old_lease⟩ := entry
    rw [List.map_cons, List.nodup_cons] at hnodup
    obtain ⟨hfresh, hrest_nodup⟩ := hnodup
    obtain ⟨requirement, hget⟩ := hrequired _ (List.mem_cons_self)
    rw [recover_works_cons hget now lease_seconds rest]
    have hresult := (self.reassign_locked_result old_lease.node_id ("recovery-from:" ++ old_lease.node_id)
      hget now lease_seconds).leases
    generalize self.reassign_locked work_id old_lease.node_id ("recovery-from:" ++ old_lease.node_id)
      requirement hget now lease_seconds = result at hresult
    obtain ⟨outcome, next⟩ := result
    obtain ⟨hothers, hplaced, hraised, hrequirements⟩ := hresult
    cases outcome with
    | error error =>
      refine ⟨?_, ?_, ?_⟩
      · intro key hkey
        exact hothers key (fun hsame => hkey (by simp [hsame]))
      · intro decisions hdecisions
        cases hdecisions
      · intro _ _
        obtain ⟨hgone, hseconds⟩ := hraised error rfl
        refine ⟨hseconds, ?_⟩
        intro key lease hlease
        by_cases hkey : key = work_id
        · rw [hkey, hgone] at hlease
          cases hlease
        · rw [← hothers key hkey]
          exact hlease
    | ok decision =>
      obtain ⟨hrest_others, hrest_ok, hrest_error⟩ := ih next hrest_nodup (by
        intro entry hentry
        rw [hrequirements]
        exact hrequired entry (List.mem_cons_of_mem _ hentry))
      obtain ⟨hlease_eq, hnew⟩ := hplaced decision rfl
      dsimp only at hlease_eq hnew ⊢
      have hwork : (next.recover_works now lease_seconds rest).2.leases.get? work_id = decision.lease :=
        (hrest_others work_id hfresh).trans hlease_eq
      refine ⟨?_, ?_, ?_⟩
      · intro key hkey
        rw [List.map_cons, List.mem_cons, not_or] at hkey
        exact (hrest_others key hkey.2).trans (hothers key hkey.1)
      · intro decisions hdecisions
        cases hrest : (next.recover_works now lease_seconds rest).1 with
        | error error =>
          rw [hrest] at hdecisions
          cases hdecisions
        | ok rest_decisions =>
          rw [hrest] at hdecisions
          cases hdecisions
          exact .cons ⟨hwork, fun lease hlease => (hnew lease hlease).1,
            fun lease hlease => (hnew lease hlease).2⟩ (hrest_ok _ hrest)
      · intro error herror
        cases hrest : (next.recover_works now lease_seconds rest).1 with
        | ok rest_decisions =>
          rw [hrest] at herror
          cases herror
        | error rest_error =>
          obtain ⟨hseconds, hkept⟩ := hrest_error _ hrest
          refine ⟨hseconds, ?_⟩
          intro key lease hlease
          by_cases hkey : key = work_id
          · -- A non-positive duration issues no lease, so the work is left without one.
            rw [hkey, hwork] at hlease
            exact absurd (hnew lease hlease).1.seconds_pos (not_lt.mpr hseconds)
          · rw [← hothers key hkey]
            exact hkept key lease hlease

/-- A loop that raises has left a work without a lease: the first one, since no pass of it issues any. -/
theorem recover_works_raises {now lease_seconds : ℚ} {affected : List (String × WorkLease)} {error : Error}
    (hnodup : (affected.map Prod.fst).Nodup)
    (hrequired : ∀ entry ∈ affected, ∃ requirement, self.requirements.get? entry.1 = some requirement)
    (herror : (self.recover_works now lease_seconds affected).1 = .error error) :
    ∃ entry ∈ affected, (self.recover_works now lease_seconds affected).2.leases.get? entry.1 = none := by
  cases affected with
  | nil => cases herror
  | cons entry rest =>
    obtain ⟨work_id, old_lease⟩ := entry
    refine ⟨(work_id, old_lease), List.mem_cons_self, ?_⟩
    obtain ⟨requirement, hget⟩ := hrequired _ List.mem_cons_self
    rw [recover_works_cons hget now lease_seconds rest] at herror ⊢
    have hresult := (self.reassign_locked_result old_lease.node_id ("recovery-from:" ++ old_lease.node_id)
      hget now lease_seconds).leases
    generalize self.reassign_locked work_id old_lease.node_id ("recovery-from:" ++ old_lease.node_id)
      requirement hget now lease_seconds = result at hresult herror
    obtain ⟨outcome, next⟩ := result
    obtain ⟨_, hplaced, hraised, hrequirements⟩ := hresult
    cases outcome with
    | error error => exact (hraised error rfl).1
    | ok decision =>
      dsimp only at herror ⊢
      cases hrest : (next.recover_works now lease_seconds rest).1 with
      | ok decisions =>
        rw [hrest] at herror
        cases herror
      | error raised =>
        obtain ⟨hseconds, hkept⟩ := (recover_works_leases now lease_seconds rest next
          (List.nodup_cons.mp hnodup).2 (by
            intro other hother
            rw [hrequirements]
            exact hrequired other (List.mem_cons_of_mem _ hother))).2.2 raised hrest
        obtain ⟨hlease, hnew⟩ := hplaced decision rfl
        rw [Option.eq_none_iff_forall_ne_some]
        intro lease hfound
        have hissued := hlease.symm.trans (hkept work_id lease hfound)
        exact absurd (hnew lease hissued).1.seconds_pos (not_lt.mpr hseconds)

/-- The leases that recovery acts on when the given nodes have failed. -/
def recovery_leases (self : DistributedWorkCoordinator) (failed : List String) (now : ℚ) :
    List (String × WorkLease) :=
  ((self.mark_offline failed).expire_leases_locked now).affected_leases failed

theorem mem_recovery_leases_iff (self : DistributedWorkCoordinator) (failed : List String) (now : ℚ)
    (key : String) (lease : WorkLease) :
    (key, lease) ∈ self.recovery_leases failed now ↔
      self.leases.get? key = some lease ∧ now < lease.expires_at ∧ lease.node_id ∈ failed := by
  unfold recovery_leases affected_leases
  rw [List.mem_filter, Dict.mem_sorted_items, ← Dict.get?_eq_some_iff, expire_leases_get?,
    Option.filter_eq_some_iff, unexpired_iff, decide_eq_true_eq, and_assoc]
  rfl

theorem nodup_recovery_leases (self : DistributedWorkCoordinator) (failed : List String) (now : ℚ) :
    ((self.recovery_leases failed now).map Prod.fst).Nodup :=
  (Dict.nodup_sorted_items _).sublist (List.filter_sublist.map _)

/-- What recovery does to the lease table: a bad heartbeat age is refused, otherwise the expired
leases go and the leases on failed nodes are replaced by those of the decisions. -/
theorem recover_unavailable_nodes_leases (self : DistributedWorkCoordinator)
    (now max_heartbeat_age lease_seconds : ℚ) :
    (∃ error, self.recover_unavailable_nodes now max_heartbeat_age lease_seconds = (.error error, self)) ∨
    ∃ failed, self.failed_nodes now max_heartbeat_age = .ok failed ∧
      (∀ key, key ∉ (self.recovery_leases failed now).map Prod.fst →
        (self.recover_unavailable_nodes now max_heartbeat_age lease_seconds).2.leases.get? key =
          (self.leases.get? key).filter (unexpired now)) ∧
      (∀ decisions, (self.recover_unavailable_nodes now max_heartbeat_age lease_seconds).1 = .ok decisions →
        List.Forall₂ (Recovered (self.recover_unavailable_nodes now max_heartbeat_age lease_seconds).2 now
          lease_seconds) (self.recovery_leases failed now) decisions) ∧
      (∀ error, (self.recover_unavailable_nodes now max_heartbeat_age lease_seconds).1 = .error error →
        lease_seconds ≤ 0 ∧ ∀ key lease,
          (self.recover_unavailable_nodes now max_heartbeat_age lease_seconds).2.leases.get? key = some lease →
          self.leases.get? key = some lease) := by
  unfold recover_unavailable_nodes
  cases hfailed : self.failed_nodes now max_heartbeat_age with
  | error error => exact .inl ⟨error, rfl⟩
  | ok failed =>
    refine .inr ⟨failed, rfl, ?_⟩
    have hsame : ∀ key, ((self.mark_offline failed).expire_leases_locked now).leases.get? key =
        (self.leases.get? key).filter (unexpired now) := (self.mark_offline failed).expire_leases_get? now
    obtain ⟨hothers, hok, herror⟩ := recover_works_leases now lease_seconds (self.recovery_leases failed now)
      ((self.mark_offline failed).expire_leases_locked now) (self.nodup_recovery_leases failed now) (by
        intro entry hentry
        have hlease := ((self.mem_recovery_leases_iff failed now entry.1 entry.2).mp hentry).1
        exact (self.record_of_lease hlease).required)
    refine ⟨?_, hok, ?_⟩
    · intro key hkey
      exact (hothers key hkey).trans (hsame key)
    · intro error hraised
      obtain ⟨hseconds, hkept⟩ := herror error hraised
      refine ⟨hseconds, ?_⟩
      intro key lease hlease
      have hprior := hkept key lease hlease
      rw [hsame, Option.filter_eq_some_iff] at hprior
      exact hprior.1

variable {now max_heartbeat_age lease_seconds : ℚ}

/-- A recovery that has found the failed nodes and raises has withdrawn a work and not placed it. -/
theorem recover_unavailable_nodes_raises {failed : List String}
    {error : Error} (hfailed : self.failed_nodes now max_heartbeat_age = .ok failed)
    (herror : (self.recover_unavailable_nodes now max_heartbeat_age lease_seconds).1 = .error error) :
    ∃ entry ∈ self.recovery_leases failed now,
      (self.recover_unavailable_nodes now max_heartbeat_age lease_seconds).2.leases.get? entry.1 = none := by
  unfold recover_unavailable_nodes at herror ⊢
  rw [hfailed] at herror ⊢
  refine recover_works_raises (self.nodup_recovery_leases failed now) ?_ herror
  intro entry hentry
  have hlease := ((self.mem_recovery_leases_iff failed now entry.1 entry.2).mp hentry).1
  exact (self.record_of_lease hlease).required

/-- One pass of the recovery loop: the coordinator before it, the work it withdraws and the lease the
work held. -/
structure RecoveryTurn where
  coordinator : DistributedWorkCoordinator
  work : String
  old_lease : WorkLease
  requirement : WorkRequirement
  required : coordinator.requirements.get? work = some requirement

def RecoveryTurn.reassign (turn : RecoveryTurn) (now lease_seconds : ℚ) :
    Except Error WorkPlacementDecision × DistributedWorkCoordinator :=
  turn.coordinator.reassign_locked turn.work turn.old_lease.node_id ("recovery-from:" ++ turn.old_lease.node_id)
    turn.requirement turn.required now lease_seconds

/-- Whether the work of this pass finds another node. -/
def RecoveryTurn.Replaceable (turn : RecoveryTurn) : Prop :=
  turn.coordinator.Replaceable turn.work turn.old_lease.node_id turn.requirement

/-- What rules out the registered nodes once the work is withdrawn. -/
def RecoveryTurn.exclusions (turn : RecoveryTurn) : List String :=
  (turn.coordinator.withdraw turn.work turn.old_lease.node_id).exclusions turn.requirement
    ((turn.coordinator.withdraw turn.work turn.old_lease.node_id).refused_by turn.work)

instance (turn : RecoveryTurn) : Decidable turn.Replaceable :=
  inferInstanceAs (Decidable (DistributedWorkCoordinator.Replaceable _ _ _ _))

/-- The passes of the recovery loop. -/
def recovery_turns (now lease_seconds : ℚ) (self : DistributedWorkCoordinator) :
    List (String × WorkLease) → List RecoveryTurn
  | [] => []
  | (work_id, old_lease) :: rest =>
    match hget : self.requirements.get? work_id with
    | none => recovery_turns now lease_seconds (self.pop_lease work_id) rest
    | some requirement =>
      let turn : RecoveryTurn := ⟨self, work_id, old_lease, requirement, hget⟩
      turn :: recovery_turns now lease_seconds (turn.reassign now lease_seconds).2 rest

/-- The passes of the loop when recovery is called. -/
def turns_of_recovery (self : DistributedWorkCoordinator) (now max_heartbeat_age lease_seconds : ℚ) :
    List RecoveryTurn :=
  match self.failed_nodes now max_heartbeat_age with
  | .error _ => []
  | .ok failed =>
    ((self.mark_offline failed).expire_leases_locked now).recovery_turns now lease_seconds
      (self.recovery_leases failed now)

theorem recovery_turns_cons {work_id : String}
    (hget : self.requirements.get? work_id = some requirement) (now lease_seconds : ℚ)
    (rest : List (String × WorkLease)) :
    self.recovery_turns now lease_seconds ((work_id, old_lease) :: rest) =
      ⟨self, work_id, old_lease, requirement, hget⟩ :: recovery_turns now lease_seconds
        (RecoveryTurn.reassign ⟨self, work_id, old_lease, requirement, hget⟩ now lease_seconds).2 rest := by
  rw [recovery_turns]
  split
  · rename_i hnone
    rw [hget] at hnone
    cases hnone
  · rename_i found hfound
    have hsame : found = requirement := by
      rw [hget] at hfound
      exact (Option.some.inj hfound).symm
    subst hsame
    rfl

theorem RecoveryTurn.reassign_result (turn : RecoveryTurn) (now lease_seconds : ℚ) :
    ReassignResult turn.coordinator turn.work turn.old_lease.node_id ("recovery-from:" ++ turn.old_lease.node_id)
      turn.requirement now lease_seconds (turn.reassign now lease_seconds) :=
  turn.coordinator.reassign_locked_result _ _ turn.required now lease_seconds

/-- A pass returns unless it finds a node and the duration of the lease is refused. -/
theorem RecoveryTurn.reassign_ok_iff (turn : RecoveryTurn) (now lease_seconds : ℚ) :
    (∃ decision, (turn.reassign now lease_seconds).1 = .ok decision) ↔ (turn.Replaceable → 0 < lease_seconds) := by
  have hresult := turn.reassign_result now lease_seconds
  generalize turn.reassign now lease_seconds = result at hresult
  cases hresult with
  | unplaced hreplaceable => exact ⟨fun _ hother => absurd hother hreplaceable, fun _ => ⟨_, rfl⟩⟩
  | refused hreplaceable hseconds error =>
    constructor
    · rintro ⟨decision, hdecision⟩
      cases hdecision
    · intro hpositive
      exact absurd (hpositive hreplaceable) (not_lt.mpr hseconds)
  | placed hreplaceable decision lease hdecision hnew hnode hrecord =>
    exact ⟨fun _ _ => hnew.seconds_pos, fun _ => ⟨_, rfl⟩⟩

/-- A pass finds a node for exactly the work that is replaceable. -/
theorem RecoveryTurn.lease_isSome_iff {turn : RecoveryTurn} {now lease_seconds : ℚ}
    {decision : WorkPlacementDecision} (hdecision : (turn.reassign now lease_seconds).1 = .ok decision) :
    decision.lease.isSome = true ↔ turn.Replaceable := by
  have hresult := turn.reassign_result now lease_seconds
  generalize turn.reassign now lease_seconds = result at hresult hdecision
  cases hresult with
  | unplaced hreplaceable =>
    cases hdecision
    exact ⟨fun hsome => (by cases hsome), fun hother => absurd hother hreplaceable⟩
  | refused hreplaceable hseconds error => cases hdecision
  | placed hreplaceable found lease hlease hnew hnode hrecord =>
    cases hdecision
    exact ⟨fun _ => hreplaceable, fun _ => Option.isSome_of_eq_some hlease⟩

/-- The passes of the loop withdraw the affected works one by one. The loop returns exactly when every
pass does, with the decisions of the passes. -/
theorem recover_works_turns (now lease_seconds : ℚ) (affected : List (String × WorkLease))
    (self : DistributedWorkCoordinator)
    (hrequired : ∀ entry ∈ affected, ∃ requirement, self.requirements.get? entry.1 = some requirement) :
    (self.recovery_turns now lease_seconds affected).map (fun turn => (turn.work, turn.old_lease)) = affected ∧
    ((∃ decisions, (self.recover_works now lease_seconds affected).1 = .ok decisions) ↔
      ∀ turn ∈ self.recovery_turns now lease_seconds affected, turn.Replaceable → 0 < lease_seconds) ∧
    ∀ decisions, (self.recover_works now lease_seconds affected).1 = .ok decisions →
      List.Forall₂ (fun turn decision => (RecoveryTurn.reassign turn now lease_seconds).1 = .ok decision)
        (self.recovery_turns now lease_seconds affected) decisions := by
  induction affected generalizing self with
  | nil =>
    refine ⟨rfl, ⟨fun _ => by simp [recovery_turns], fun _ => ⟨[], rfl⟩⟩, ?_⟩
    intro decisions hdecisions
    cases hdecisions
    exact .nil
  | cons entry rest ih =>
    obtain ⟨work_id, old_lease⟩ := entry
    obtain ⟨requirement, hget⟩ := hrequired _ List.mem_cons_self
    rw [recover_works_cons hget now lease_seconds rest, recovery_turns_cons hget now lease_seconds rest]
    have hok := RecoveryTurn.reassign_ok_iff ⟨self, work_id, old_lease, requirement, hget⟩ now lease_seconds
    have hrequirements := (RecoveryTurn.reassign_result ⟨self, work_id, old_lease, requirement, hget⟩ now
      lease_seconds).leases.2.2.2
    obtain ⟨hmap, hloop, hforall⟩ := ih
      (RecoveryTurn.reassign ⟨self, work_id, old_lease, requirement, hget⟩ now lease_seconds).2 (by
        intro other hother
        rw [hrequirements]
        exact hrequired other (List.mem_cons_of_mem _ hother))
    refine ⟨by rw [List.map_cons, hmap], ?_⟩
    rw [List.forall_mem_cons, ← hok, ← hloop]
    unfold RecoveryTurn.reassign at hforall ⊢
    generalize hreassign : self.reassign_locked work_id old_lease.node_id
      ("recovery-from:" ++ old_lease.node_id) requirement hget now lease_seconds = result at hforall ⊢
    obtain ⟨outcome, next⟩ := result
    cases outcome with
    | error error => simp
    | ok decision =>
      dsimp only at hforall ⊢
      cases hrest : (next.recover_works now lease_seconds rest).1 with
      | error error => simp [Except.map]
      | ok rest_decisions =>
        refine ⟨by simp [Except.map], ?_⟩
        intro decisions hdecisions
        cases hdecisions
        exact .cons (congrArg Prod.fst hreassign) (hforall rest_decisions hrest)

/-- The same about a call of recovery. -/
theorem recover_unavailable_nodes_turns {now max_heartbeat_age : ℚ} {failed : List String}
    (hfailed : self.failed_nodes now max_heartbeat_age = .ok failed) (lease_seconds : ℚ) :
    (self.turns_of_recovery now max_heartbeat_age lease_seconds).map (fun turn => (turn.work, turn.old_lease)) =
      self.recovery_leases failed now ∧
    ((∃ decisions, (self.recover_unavailable_nodes now max_heartbeat_age lease_seconds).1 = .ok decisions) ↔
      ∀ turn ∈ self.turns_of_recovery now max_heartbeat_age lease_seconds,
        turn.Replaceable → 0 < lease_seconds) ∧
    ∀ decisions, (self.recover_unavailable_nodes now max_heartbeat_age lease_seconds).1 = .ok decisions →
      List.Forall₂ (fun turn decision => (RecoveryTurn.reassign turn now lease_seconds).1 = .ok decision)
        (self.turns_of_recovery now max_heartbeat_age lease_seconds) decisions := by
  unfold turns_of_recovery recover_unavailable_nodes
  rw [hfailed]
  refine recover_works_turns now lease_seconds (self.recovery_leases failed now)
    ((self.mark_offline failed).expire_leases_locked now) ?_
  intro entry hentry
  have hlease := ((self.mem_recovery_leases_iff failed now entry.1 entry.2).mp hentry).1
  exact (self.record_of_lease hlease).required

/-- How one work's lease can look after recovery: as before, gone, or on another node by a decision
about this work. -/
theorem recovery_lease_cases {work : String} {lease : WorkLease}
    (hlease : (self.recover_unavailable_nodes now max_heartbeat_age lease_seconds).2.leases.get? work = some lease) :
    ∃ old_lease, self.leases.get? work = some old_lease ∧
      (lease = old_lease ∨
        ∃ decisions, (self.recover_unavailable_nodes now max_heartbeat_age lease_seconds).1 = .ok decisions ∧
          ∃ decision ∈ decisions, decision.lease = some lease ∧ lease.work_id = work ∧
            lease.node_id ≠ old_lease.node_id) := by
  rcases self.recover_unavailable_nodes_leases now max_heartbeat_age lease_seconds with
    ⟨error, herror⟩ | ⟨failed, _, hothers, hok, hraised⟩
  · rw [herror] at hlease
    exact ⟨lease, hlease, .inl rfl⟩
  · cases hresult : (self.recover_unavailable_nodes now max_heartbeat_age lease_seconds).1 with
    | error error => exact ⟨lease, (hraised error hresult).2 work lease hlease, .inl rfl⟩
    | ok decisions =>
      by_cases hwork : work ∈ (self.recovery_leases failed now).map Prod.fst
      · obtain ⟨entry, hentry, rfl⟩ := List.mem_map.mp hwork
        obtain ⟨decision, hmem, hrecovered⟩ := exists_right_of_forall₂ (hok decisions hresult) hentry
        have hold := ((self.mem_recovery_leases_iff failed now entry.1 entry.2).mp hentry).1
        have hdecision : decision.lease = some lease := hrecovered.lease_eq.symm.trans hlease
        exact ⟨entry.2, hold, .inr ⟨decisions, rfl, decision, hmem, hdecision,
          (hrecovered.new_lease lease hdecision).work_id_eq, hrecovered.moved lease hdecision⟩⟩
      · rw [hothers work hwork, Option.filter_eq_some_iff] at hlease
        exact ⟨lease, hlease.1, .inl rfl⟩

end velvet.distributed_work_coordinator.DistributedWorkCoordinator
