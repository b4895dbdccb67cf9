import VelvetRuntime.DistributedWork.ByteRpc
import VelvetRuntime.ResourceAware.Residue
import VelvetRuntime.ResourceAware.Views

open python python.str python.num python.Program velvet.body_capacity velvet.distributed_work_coordinator
open velvet.body_resource_transport velvet.resource_reservations

namespace velvet.resource_aware_work_proposals.LiveResourceAwareCoordinator

variable [StrLower] {now lease_seconds : ℚ}

/-- What a refusal leaves of the other works, and of the resource views: what the prune leaves. -/
structure Refused (before after : LiveResourceAwareCoordinator) (work : String) (now : ℚ) : Prop where
  leases : ∀ key, key ≠ work → after.lease_at key = before.lease_at key
  reservations : ∀ key, key ≠ work → after.reservation_of key = (before.pruned now).reservation_of key
  views : after.views = (before.pruned now).views
  registry : after.coordinator.registry = before.coordinator.registry

variable {live : LiveResourceAwareCoordinator}

theorem refuse_owned {work_id node_id : String} {lease : WorkLease}
    (hnow : 0 ≤ now) (hlease : live.lease_at (normalized work_id) = some lease)
    (hnode : lease.node_id = normalized node_id) (reason : String) (lease_seconds : ℚ) :
    Refused live ((refuse_and_reassign work_id node_id reason now lease_seconds).after live) (normalized work_id) now := by
  have hfound : (live.pruned now).lease_at (normalized work_id) = some lease := hlease
  have howned : ((live.pruned now).coordinator.lease_for work_id).any (fun lease => lease.node_id = normalized node_id) =
      true := (Option.any_eq_true _ _).mpr ⟨lease, hlease, by simpa using hnode⟩
  have hreleased : ∀ key, key ≠ normalized work_id →
      ((live.pruned now).release work_id).reservation_of key = (live.pruned now).reservation_of key :=
    fun key hkey => Dict.get?_pop_of_ne _ hkey
  have hsettled : ∀ after outcome, after.views = (live.pruned now).views →
      Settled ((live.pruned now).release work_id) after (normalized work_id) now lease_seconds outcome →
      Refused live after (normalized work_id) now := by
    intro after outcome hviews hsettled
    refine ⟨hsettled.moved.placed.others, fun key hkey => ?_, hviews, hsettled.moved.placed.registry⟩
    exact (hsettled.others key hkey).trans (hreleased key hkey)
  have hviews : Preserves views (do
      let decision ← within (ResourceAwareWorkCoordinator.refuse_and_reassign work_id node_id reason now lease_seconds)
      reserved now lease_seconds decision) :=
    (preserves_within (ResourceAwareWorkCoordinator.preserves_refuse_and_reassign _ _ _)).bind preserves_reserved
  apply (wp_result_after (fun _ after => Refused live after (normalized work_id) now)).mp
  unfold refuse_and_reassign
  rw [wp_bind]
  apply wp_prune_pruned
  · intro _
    rw [wp_bind, wp_get, if_pos howned, wp_bind, wp_set]
    refine wp_mono (wp_and (wp_refuse_owned hnow hfound hnode) (preserves_iff_wp.mp hviews _)) ?_ ?_
    · rintro decision after ⟨⟨hmoved, _⟩, hsame⟩
      exact hsettled after _ hsame hmoved
    · rintro error after ⟨⟨_, rfl⟩ | ⟨hmoved, _⟩, hsame⟩
      · exact ⟨fun _ _ => rfl, hreleased, hsame, rfl⟩
      · exact hsettled after _ hsame hmoved
  · exact fun hnegative => absurd hnow (not_le.mpr hnegative)

/-- A refusal at a negative time changes nothing. -/
theorem refuse_negative {work_id node_id reason : String} (hnegative : now < 0) :
    (refuse_and_reassign work_id node_id reason now lease_seconds).after live = live := by
  apply (wp_result_after (fun _ after => after = live)).mp
  unfold refuse_and_reassign
  rw [wp_bind]
  apply wp_prune_pruned
  · exact fun hnow => absurd hnow (not_le.mpr hnegative)
  · exact fun _ _ _ => rfl

end velvet.resource_aware_work_proposals.LiveResourceAwareCoordinator

namespace velvet.distributed_work_coordinator

/-- Registration of one node leaves the entries of the others alone. -/
theorem VerifiedNodeRegistry.register_get?_of_ne [StrLower] (self : VerifiedNodeRegistry)
    (advertisement : NodeAdvertisement) {key : String} (hne : key ≠ normalized advertisement.node_id) :
    (self.register advertisement).2.nodes.get? key = self.nodes.get? key := by
  unfold VerifiedNodeRegistry.register
  dsimp only
  split
  · exact Dict.get?_set_of_ne _ _ hne
  · rfl

end velvet.distributed_work_coordinator

namespace velvet.distributed_work_byte_rpc

open velvet.distributed_work_service velvet.resource_aware_work_proposals LiveResourceAwareCoordinator

section

variable [StrLower]

/-- What belongs to works that other nodes hold stays as it is. -/
structure Confined (source_peer_id : String) (before after : World LiveResourceAwareCoordinator) : Prop where
  leases : ∀ work lease, before.coordinator.lease_at work = some lease → lease.node_id ≠ source_peer_id →
    after.coordinator.lease_at work = some lease
  reservations : ∀ work lease, before.coordinator.lease_at work = some lease → lease.node_id ≠ source_peer_id →
    after.coordinator.reservation_of work = before.coordinator.reservation_of work
  views : ∀ work lease, before.coordinator.lease_at work = some lease → lease.node_id ≠ source_peer_id →
    after.coordinator.views lease.node_id = before.coordinator.views lease.node_id

/-- A peer acts under its own node id only: it gets a refusal under any other, it does not touch the other nodes or the
works that it does not hold, and the events are its own. -/
structure ActsAsItself (source_peer_id : String) (message : Message) (before : World LiveResourceAwareCoordinator)
    (result : Except Error Reply) (after : World LiveResourceAwareCoordinator) : Prop where
  bound : source_peer_id ≠ message.node_id → result = .error (binding_error message.node_id) ∧ after = before
  nodes : ∀ node_id, node_id ≠ source_peer_id →
    after.coordinator.coordinator.registry.nodes.get? node_id =
      before.coordinator.coordinator.registry.nodes.get? node_id
  proposals : ∀ work, ¬ Holds before work source_peer_id → after.proposals.get? work = before.proposals.get? work
  accepted : ∀ work, ¬ Holds before work source_peer_id → (work ∈ after.accepted ↔ work ∈ before.accepted)
  pending : ∀ work, ¬ Holds before work source_peer_id →
    after.pending_completion.get? work = before.pending_completion.get? work
  journal : ∃ events, after.journal = before.journal ++ events ∧
    ∀ evidence ∈ events, origin evidence.payload = some source_peer_id

/-- A message makes the coordinator prune its tables at a time that the message carries. -/
def PrunesAt (sinks : Sinks) (world : World LiveResourceAwareCoordinator) (source_peer_id : String) (now : ℚ) :
    Message → Prop
  | .refuse work_id node_id _ time _ _ _ _ =>
    time = now ∧ 0 ≤ now ∧ source_peer_id = node_id ∧ Refuses sinks world work_id node_id
  | .register_node _ _ | .accept _ _ _ _ | .complete _ => False

/-- No time at which the message prunes has come for a reservation or a resource view of work that another node
holds. -/
def Timely (sinks : Sinks) (world : World LiveResourceAwareCoordinator) (source_peer_id : String) (message : Message) :
    Prop :=
  ∀ now, PrunesAt sinks world source_peer_id now message → ∀ work lease, world.coordinator.lease_at work = some lease →
    lease.node_id ≠ source_peer_id →
      (∀ reservation, world.coordinator.reservation_of work = some reservation → now < reservation.expires_at) ∧
      ∀ advertisement, world.coordinator.views lease.node_id = some advertisement →
        world.coordinator.resource_service.stale (.finite now) advertisement = false

variable {sinks : Sinks} {world : World LiveResourceAwareCoordinator} {source_peer_id : String}

theorem Confined.refl (world : World LiveResourceAwareCoordinator) : Confined source_peer_id world world :=
  ⟨fun _ _ hlease _ => hlease, fun _ _ _ _ => rfl, fun _ _ _ _ => rfl⟩

variable {after : World LiveResourceAwareCoordinator}

/-- A change of other parts of the state. -/
theorem Confined.of_tables (hleases : after.coordinator.coordinator.leases = world.coordinator.coordinator.leases)
    (hreservations : after.coordinator.reservations = world.coordinator.reservations)
    (hviews : after.coordinator.views = world.coordinator.views) : Confined source_peer_id world after := by
  refine ⟨fun work lease hlease _ => ?_, fun work lease _ _ => ?_, fun work lease _ _ => ?_⟩
  · unfold lease_at
    rw [hleases]
    exact hlease
  · unfold reservation_of
    rw [hreservations]
  · rw [hviews]

variable {work : String}

/-- A call about one work that its holder makes is confined when it only changes what is on record for that work. -/
theorem Confined.of_work (hholds : Holds world work source_peer_id) (hnormal : normalized work = work)
    (hleases : ∀ key, key ≠ work → after.coordinator.lease_at key = world.coordinator.lease_at key)
    (hreservations : ∀ key, key ≠ work → after.coordinator.reservation_of key = world.coordinator.reservation_of key)
    (hviews : after.coordinator.views = world.coordinator.views) : Confined source_peer_id world after := by
  have hother : ∀ key lease, world.coordinator.lease_at key = some lease → lease.node_id ≠ source_peer_id →
      key ≠ work := by
    rintro key lease hlease hnode rfl
    obtain ⟨held, hheld, hpeer⟩ := hholds
    change world.coordinator.coordinator.leases.get? (normalized key) = some held at hheld
    rw [hnormal] at hheld
    cases hlease.symm.trans hheld
    exact hnode hpeer
  refine ⟨fun key lease hlease hnode => ?_, fun key lease hlease hnode => ?_, fun _ _ _ _ => by rw [hviews]⟩
  · exact (hleases key (hother key lease hlease hnode)).trans hlease
  · exact hreservations key (hother key lease hlease hnode)

variable {result : Except Error Reply}

theorem ActsAsItself.refl {message : Message} (heq : source_peer_id = message.node_id) :
    ActsAsItself source_peer_id message world result world where
  bound := fun hne => absurd heq hne
  nodes := fun _ _ => rfl
  proposals := fun _ _ => rfl
  accepted := fun _ _ => Iff.rfl
  pending := fun _ _ => rfl
  journal := ⟨[], by simp, by simp⟩

theorem ActsAsItself.of_about {message : Message}
    (heq : source_peer_id = message.node_id) (hholds : Holds world work source_peer_id)
    (habout : About work source_peer_id world after)
    (hregistry : after.coordinator.coordinator.registry = world.coordinator.coordinator.registry) :
    ActsAsItself source_peer_id message world result after := by
  have hother : ∀ key, ¬ Holds world key source_peer_id → key ≠ work := by
    rintro key hnot rfl
    exact hnot hholds
  refine ⟨fun hne => absurd heq hne, ?_, ?_, ?_, ?_, habout.journal⟩
  · intro node_id _
    rw [hregistry]
  · exact fun key hnot => habout.proposals key (hother key hnot)
  · exact fun key hnot => habout.accepted key (hother key hnot)
  · exact fun key hnot => habout.pending key (hother key hnot)

/-- What a registration changes is the entry of the node. -/
theorem register_node_confined {advertisement : NodeAdvertisement} (hnormal : IsNormalized advertisement.node_id)
    (result : Except Error Reply) (sinks : Sinks) (world : World LiveResourceAwareCoordinator) :
    let after := (register_node sinks advertisement).after world
    ActsAsItself advertisement.node_id (.register_node advertisement hnormal) world result after ∧
      Confined advertisement.node_id world after := by
  apply (wp_result_after (fun _ after =>
    ActsAsItself advertisement.node_id (.register_node advertisement hnormal) world result after ∧
      Confined advertisement.node_id world after)).mp
  -- The registry changes under the id of the node, and the event, if there is one, is the node's own.
  have hends : ∀ (registry : VerifiedNodeRegistry) (after : World LiveResourceAwareCoordinator),
      (∀ node_id, node_id ≠ advertisement.node_id →
        registry.nodes.get? node_id = world.coordinator.coordinator.registry.nodes.get? node_id) →
      after.coordinator = WorkCoordinator.with_registry world.coordinator registry →
      About "" advertisement.node_id world after → after.proposals = world.proposals → after.accepted = world.accepted →
      after.pending_completion = world.pending_completion →
      ActsAsItself advertisement.node_id (.register_node advertisement hnormal) world result after ∧
        Confined advertisement.node_id world after := by
    intro registry after hregistry hcoordinator habout hproposals haccepted hpending
    refine ⟨⟨fun hne => absurd rfl hne, ?_, ?_, ?_, ?_, habout.journal⟩, .of_tables ?_ ?_ ?_⟩
    · intro node_id hne
      rw [hcoordinator]
      exact hregistry node_id hne
    · intro work _
      rw [hproposals]
    · intro work _
      rw [haccepted]
    · intro work _
      rw [hpending]
    · rw [hcoordinator]
      rfl
    · rw [hcoordinator]
      rfl
    · rw [hcoordinator]
      rfl
  have hregistered : ∀ node_id, node_id ≠ advertisement.node_id →
      (world.coordinator.coordinator.registry.register advertisement).2.nodes.get? node_id =
        world.coordinator.coordinator.registry.nodes.get? node_id := by
    intro node_id hne
    exact world.coordinator.coordinator.registry.register_get?_of_ne advertisement (by rw [hnormal.2]; exact hne)
  let registered : World LiveResourceAwareCoordinator := { world with
    coordinator := WorkCoordinator.with_registry world.coordinator
      (world.coordinator.coordinator.registry.register advertisement).2 }
  have hset : About "" advertisement.node_id world registered := .quiet rfl rfl rfl rfl
  unfold register_node
  simp only [wp_bind, wp_get, wp_set]
  split
  · exact hends _ _ hregistered rfl (.quiet rfl rfl rfl rfl) rfl rfl rfl
  · rw [wp_bind, wp_tryCatch]
    apply wp_emit_about "" (show origin (node_payload advertisement) = some advertisement.node_id from rfl)
    · intro _ evidence after habout hsame _
      exact hends _ after hregistered (congrArg (·.coordinator) hsame)
        (hset.trans habout) (congrArg (·.proposals) hsame) (congrArg (·.accepted) hsame)
        (congrArg (·.pending_completion) hsame)
    · intro _ error after habout hsame
      rw [wp_bind, wp_modify, wp_throw]
      refine hends ((world.coordinator.coordinator.registry.register advertisement).2.remove advertisement.node_id) _ ?_
        ?_ ((hset.trans habout).trans (.quiet rfl rfl rfl rfl)) (congrArg (·.proposals) hsame)
        (congrArg (·.accepted) hsame) (congrArg (·.pending_completion) hsame)
      · intro node_id hne
        refine Eq.trans ?_ (hregistered node_id hne)
        exact Dict.get?_pop_of_ne _ (by rw [hnormal.2]; exact hne)
      · dsimp only
        rw [congrArg (·.coordinator) hsame]
        rfl

theorem accept_confined {work_id node_id : String} (hwork : IsNormalized work_id) (hnode : IsNormalized node_id)
    (result : Except Error Reply) (sinks : Sinks) (world : World LiveResourceAwareCoordinator) :
    let after := (accept sinks work_id node_id).after world
    ActsAsItself node_id (.accept work_id node_id hwork hnode) world result after ∧ Confined node_id world after := by
  dsimp only
  rcases accept_about sinks world hwork.2 hnode.2 with hsame | ⟨hholds, habout, hcoordinator⟩
  · rw [hsame]
    exact ⟨.refl rfl, .refl world⟩
  · refine ⟨.of_about rfl hholds habout ?_, .of_tables ?_ ?_ ?_⟩
    · rw [hcoordinator]
    · rw [hcoordinator]
    · rw [hcoordinator]
    · rw [hcoordinator]

theorem complete_confined (work_result : WorkResult) (result : Except Error Reply) (sinks : Sinks)
    (world : World LiveResourceAwareCoordinator) :
    let after := (complete sinks work_result).after world
    ActsAsItself work_result.node_id (.complete work_result) world result after ∧
      Confined work_result.node_id world after := by
  dsimp only
  rcases complete_about sinks world work_result with hsame | ⟨hholds, habout, hcoordinator⟩
  · rw [hsame]
    exact ⟨.refl rfl, .refl world⟩
  · have hwork := work_result.work_id_normal.2
    have hcalled : ∀ live, live = world.coordinator ∨
        live = (world.coordinator.complete work_result.work_id work_result.node_id).2 →
        live.coordinator.registry = world.coordinator.coordinator.registry ∧ live.views = world.coordinator.views ∧
          ∀ key, key ≠ work_result.work_id → live.lease_at key = world.coordinator.lease_at key ∧
            live.reservation_of key = world.coordinator.reservation_of key := by
      rintro live (rfl | rfl)
      · exact ⟨rfl, rfl, fun _ _ => ⟨rfl, rfl⟩⟩
      · rcases world.coordinator.complete_cases work_result.work_id work_result.node_id with
          ⟨_, _, _, hcomplete⟩ | ⟨_, hcomplete⟩
        · rw [hcomplete, hwork]
          exact ⟨rfl, rfl, fun key hkey => ⟨Dict.get?_pop_of_ne _ hkey, Dict.get?_pop_of_ne _ hkey⟩⟩
        · rw [hcomplete]
          exact ⟨rfl, rfl, fun _ _ => ⟨rfl, rfl⟩⟩
    obtain ⟨hregistry, hviews, hothers⟩ := hcalled _ hcoordinator
    exact ⟨.of_about rfl hholds habout hregistry,
      .of_work hholds hwork (fun key hkey => (hothers key hkey).1) (fun key hkey => (hothers key hkey).2) hviews⟩

omit [StrLower] in
theorem filter_eq_self_iff {α : Type} {found : Option α} {keep : α → Bool} :
    found.filter keep = found ↔ ∀ value, found = some value → keep value = true := by
  cases found with
  | none => simp
  | some value => simp

/-- A refusal that prunes leaves the other works as they are exactly when the prune spares what belongs to them. -/
theorem confined_refusal_iff {work_id : String} {now : ℚ} {live : LiveResourceAwareCoordinator} (hnow : 0 ≤ now)
    (hcoordinator : after.coordinator = live) (hholds : Holds world work_id source_peer_id)
    (hwork : normalized work_id = work_id) (hrefused : Refused world.coordinator live work_id now) :
    Confined source_peer_id world after ↔ ∀ work lease, world.coordinator.lease_at work = some lease →
      lease.node_id ≠ source_peer_id →
        (∀ reservation, world.coordinator.reservation_of work = some reservation → now < reservation.expires_at) ∧
        ∀ advertisement, world.coordinator.views lease.node_id = some advertisement →
          world.coordinator.resource_service.stale (.finite now) advertisement = false := by
  obtain ⟨held, hheld, hpeer⟩ := hholds
  change world.coordinator.coordinator.leases.get? (normalized work_id) = some held at hheld
  rw [hwork] at hheld
  have hother : ∀ key lease, world.coordinator.lease_at key = some lease → lease.node_id ≠ source_peer_id →
      key ≠ work_id := by
    rintro key lease hlease hnode rfl
    cases hlease.symm.trans hheld
    exact hnode hpeer
  have hreservation : ∀ key, key ≠ work_id →
      (after.coordinator.reservation_of key = world.coordinator.reservation_of key ↔
        ∀ reservation, world.coordinator.reservation_of key = some reservation → now < reservation.expires_at) := by
    intro key hkey
    rw [hcoordinator, hrefused.reservations key hkey, reservation_of_pruned _ hnow, filter_eq_self_iff]
    simp only [decide_eq_true_eq]
  have hview : ∀ node_id, after.coordinator.views node_id = world.coordinator.views node_id ↔
      ∀ advertisement, world.coordinator.views node_id = some advertisement →
        world.coordinator.resource_service.stale (.finite now) advertisement = false := by
    intro node_id
    rw [hcoordinator, hrefused.views, views_pruned _ hnow, filter_eq_self_iff]
    simp only [Bool.not_eq_true']
  constructor
  · intro hconfined work lease hlease hnode
    exact ⟨(hreservation work (hother work lease hlease hnode)).mp (hconfined.reservations work lease hlease hnode),
      (hview lease.node_id).mp (hconfined.views work lease hlease hnode)⟩
  · intro htimely
    refine ⟨fun work lease hlease hnode => ?_, fun work lease hlease hnode => ?_, fun work lease hlease hnode => ?_⟩
    · rw [hcoordinator, hrefused.leases work (hother work lease hlease hnode)]
      exact hlease
    · exact (hreservation work (hother work lease hlease hnode)).mpr (htimely work lease hlease hnode).1
    · exact (hview lease.node_id).mpr (htimely work lease hlease hnode).2

theorem refuse_confined {work_id node_id reason : String} {now lease_seconds : ℚ} (hwork : IsNormalized work_id)
    (hnode : IsNormalized node_id) (hreason : ¬ Blank reason) (result : Except Error Reply) :
    let message : Message := .refuse work_id node_id reason now lease_seconds hwork hnode hreason
    let after := (refuse sinks work_id node_id reason now lease_seconds).after world
    ActsAsItself node_id message world result after ∧
      (Confined node_id world after ↔ Timely sinks world node_id message) := by
  dsimp only
  obtain ⟨hmoved, hcoordinator⟩ := refuse_about sinks world now lease_seconds hwork.2 hnode.2 hreason
  -- A message that does not prune is timely, and leaves the tables of the coordinator alone.
  have hstops : ((refuse sinks work_id node_id reason now lease_seconds).after world).coordinator = world.coordinator →
      ¬ (0 ≤ now ∧ Refuses sinks world work_id node_id) →
      (Confined node_id world ((refuse sinks work_id node_id reason now lease_seconds).after world) ↔
        Timely sinks world node_id (.refuse work_id node_id reason now lease_seconds hwork hnode hreason)) := by
    intro hsame hnot
    refine iff_of_true (.of_tables ?_ ?_ ?_) ?_
    · rw [hsame]
    · rw [hsame]
    · rw [hsame]
    · rintro time ⟨rfl, htime, _, hreaches⟩
      exact absurd ⟨htime, hreaches⟩ hnot
  have hacts : ((refuse sinks work_id node_id reason now lease_seconds).after world).coordinator.coordinator.registry =
      world.coordinator.coordinator.registry →
      ActsAsItself node_id (.refuse work_id node_id reason now lease_seconds hwork hnode hreason) world result
        ((refuse sinks work_id node_id reason now lease_seconds).after world) := by
    intro hregistry
    rcases hmoved with hsame | ⟨hholds, habout⟩
    · rw [hsame]
      exact .refl rfl
    · exact .of_about rfl hholds habout hregistry
  rcases hcoordinator with ⟨hreaches, hcoordinator⟩ | ⟨hreaches, hcoordinator⟩
  · change _ = (refuse_and_reassign work_id node_id (stripped reason) now lease_seconds).after world.coordinator
      at hcoordinator
    by_cases hnow : 0 ≤ now
    · obtain ⟨lease, hlease, hheld⟩ := hreaches.holds
      change world.coordinator.coordinator.leases.get? (normalized work_id) = some lease at hlease
      have hrefused := refuse_owned hnow hlease (hheld.trans hnode.2.symm) (stripped reason) lease_seconds
      rw [hwork.2] at hrefused
      refine ⟨hacts (by rw [hcoordinator, hrefused.registry]), ?_⟩
      rw [confined_refusal_iff hnow hcoordinator hreaches.holds hwork.2 hrefused]
      constructor
      · rintro hspared time ⟨rfl, _⟩
        exact hspared
      · exact fun htimely => htimely now ⟨rfl, hnow, rfl, hreaches⟩
    · have hsame : _ = world.coordinator := hcoordinator.trans (refuse_negative (not_le.mp hnow))
      exact ⟨hacts (by rw [hsame]), hstops hsame (fun hboth => hnow hboth.1)⟩
  · exact ⟨hacts (by rw [hcoordinator]), hstops hcoordinator (fun hboth => hreaches hboth.2)⟩

/-- A message never makes a peer act as another node, and it is confined exactly when it is timely. -/
theorem dispatch_confined (sinks : Sinks) (world : World LiveResourceAwareCoordinator) (source_peer_id : String)
    (message : Message) :
    ActsAsItself source_peer_id message world ((dispatch sinks source_peer_id message).result world)
        ((dispatch sinks source_peer_id message).after world) ∧
      (Confined source_peer_id world ((dispatch sinks source_peer_id message).after world) ↔
        Timely sinks world source_peer_id message) := by
  by_cases heq : source_peer_id = message.node_id
  · have hafter : (dispatch sinks source_peer_id message).after world = (serve_message sinks message).after world := by
      unfold Program.after
      rw [run_dispatch_of_eq sinks heq]
    rw [hafter]
    generalize (dispatch sinks source_peer_id message).result world = result
    subst heq
    cases message with
    | register_node advertisement hnormal =>
      rw [show (serve_message sinks (.register_node advertisement hnormal)).after world =
        (register_node sinks advertisement).after world from after_bind_pure _ _ _]
      obtain ⟨hacts, hconfined⟩ := register_node_confined hnormal result sinks world
      exact ⟨hacts, iff_of_true hconfined (fun _ hprunes => hprunes.elim)⟩
    | accept work_id node_id hwork hnode =>
      rw [show (serve_message sinks (.accept work_id node_id hwork hnode)).after world =
        (accept sinks work_id node_id).after world from after_bind_pure _ _ _]
      obtain ⟨hacts, hconfined⟩ := accept_confined hwork hnode result sinks world
      exact ⟨hacts, iff_of_true hconfined (fun _ hprunes => hprunes.elim)⟩
    | refuse work_id node_id reason now lease_seconds hwork hnode hreason =>
      rw [show (serve_message sinks (.refuse work_id node_id reason now lease_seconds hwork hnode hreason)).after world =
        (refuse sinks work_id node_id reason now lease_seconds).after world from after_bind_pure _ _ _]
      exact refuse_confined hwork hnode hreason result
    | complete work_result =>
      rw [show (serve_message sinks (.complete work_result)).after world = (complete sinks work_result).after world from
        after_bind_pure _ _ _]
      obtain ⟨hacts, hconfined⟩ := complete_confined work_result result sinks world
      exact ⟨hacts, iff_of_true hconfined (fun _ hprunes => hprunes.elim)⟩
  · have hrun := run_dispatch_of_ne sinks heq world
    have hresult : (dispatch sinks source_peer_id message).result world = .error (binding_error message.node_id) := by
      unfold Program.result
      rw [hrun]
    have hafter : (dispatch sinks source_peer_id message).after world = world := by
      unfold Program.after
      rw [hrun]
    rw [hresult, hafter]
    refine ⟨⟨fun _ => ⟨rfl, rfl⟩, fun _ _ => rfl, fun _ _ => rfl, fun _ _ => Iff.rfl, fun _ _ => rfl, [], by simp,
      by simp⟩, iff_of_true (.refl world) ?_⟩
    intro now hprunes
    cases message with
    | refuse work_id node_id reason time lease_seconds hwork hnode hreason => exact absurd hprunes.2.2.1 heq
    | register_node _ _ => exact hprunes.elim
    | accept _ _ _ _ => exact hprunes.elim
    | complete _ => exact hprunes.elim

/-- What happens to the service: a specialist's message, or anything else that is asked of it. -/
inductive Step where
  | message (source_peer_id : String) (message : Message)
  | request (request : Request)

variable (sinks)

def step : Step → Program Error (World LiveResourceAwareCoordinator) Unit
  | .message source_peer_id message => do
    let _ ← dispatch sinks source_peer_id message
    pure ()
  | .request request => serve sinks request

/-- The state after steps. A step that raises keeps the changes it has made. -/
def reached (world : World LiveResourceAwareCoordinator) (steps : List Step) : World LiveResourceAwareCoordinator :=
  steps.foldl (fun world taken => (step sinks taken).after world) world

/-- The messages of other peers than a node, each of them timely in the state that it meets. -/
def TimelyRun (node : String) : World LiveResourceAwareCoordinator → List (String × Message) → Prop
  | _, [] => True
  | world, (source_peer_id, message) :: rest =>
    node ≠ source_peer_id ∧ Timely sinks world source_peer_id message ∧
      TimelyRun node ((dispatch sinks source_peer_id message).after world) rest

/-- Over timely messages of other peers a node keeps its leases, with their reservations and its resource view. -/
theorem timely_run_confined {node : String} (messages : List (String × Message))
    (world : World LiveResourceAwareCoordinator) (htimely : TimelyRun sinks node world messages)
    {lease : WorkLease} (hlease : world.coordinator.lease_at work = some lease) (hnode : lease.node_id = node) :
    let after := reached sinks world (messages.map (fun sent => .message sent.1 sent.2))
    after.coordinator.lease_at work = some lease ∧
      after.coordinator.reservation_of work = world.coordinator.reservation_of work ∧
      after.coordinator.views node = world.coordinator.views node := by
  induction messages generalizing world with
  | nil => exact ⟨hlease, rfl, rfl⟩
  | cons sent rest ih =>
    obtain ⟨source_peer_id, message⟩ := sent
    obtain ⟨hother, hfirst, hrest⟩ := htimely
    have hconfined := (dispatch_confined sinks world source_peer_id message).2.mpr hfirst
    have hnot : lease.node_id ≠ source_peer_id := by
      rw [hnode]
      exact hother
    obtain ⟨hkept, hreservation, hview⟩ := ih _ hrest (hconfined.leases work lease hlease hnot)
    have hreached : reached sinks world (((source_peer_id, message) :: rest).map (fun sent => .message sent.1 sent.2)) =
        reached sinks ((dispatch sinks source_peer_id message).after world)
          (rest.map (fun sent => .message sent.1 sent.2)) := by
      unfold reached
      rw [List.map_cons, List.foldl_cons]
      congr 1
      exact after_bind_pure _ _ _
    dsimp only
    rw [hreached]
    refine ⟨hkept, hreservation.trans (hconfined.reservations work lease hlease hnot), hview.trans ?_⟩
    rw [← hnode]
    exact hconfined.views work lease hlease hnot

/-- In every state that steps reach, a peer can act under its own node id only, and its message leaves what belongs to
the works of other nodes alone exactly when it is timely: a refusal prunes the reservations and the resource views of
all nodes at the time that it carries. In a run of timely messages nothing of another node changes. -/
theorem peer_confined_iff_timely (coordinator : DistributedWorkCoordinator) (resource_service : BodyResourceService)
    (steps : List Step) :
    let world := reached sinks (.new (.new coordinator resource_service)) steps
    (∀ source_peer_id message,
      (ActsAsItself source_peer_id message world ((dispatch sinks source_peer_id message).result world)
          ((dispatch sinks source_peer_id message).after world) ∧
        Confined source_peer_id world ((dispatch sinks source_peer_id message).after world)) ↔
      Timely sinks world source_peer_id message) ∧
    ∀ node messages, TimelyRun sinks node world messages → ∀ work lease,
      world.coordinator.lease_at work = some lease → lease.node_id = node →
        let after := reached sinks world (messages.map (fun sent => .message sent.1 sent.2))
        after.coordinator.lease_at work = some lease ∧
          after.coordinator.reservation_of work = world.coordinator.reservation_of work ∧
          after.coordinator.views node = world.coordinator.views node := by
  intro world
  constructor
  · intro source_peer_id message
    obtain ⟨hacts, hconfined⟩ := dispatch_confined sinks world source_peer_id message
    exact (and_iff_right hacts).trans hconfined
  · intro node messages htimely work lease hlease hnode
    exact timely_run_confined sinks messages world htimely hlease hnode

end

open velvet.distributed_work_service (plain_node plain_proposal sinks_failing_at)

/-- The registration of a node. -/
def registration [StrLower] (node_id : String) (hnormal : IsNormalized node_id) : Step :=
  .message node_id (.register_node
    (plain_node node_id 1 0 .AVAILABLE 2 hnormal.not_blank full_health zero_beat Nat.two_pos) hnormal)

/-- Node `p` registers and gets work `w1`; then node `q` registers and gets work `w2`, with a reservation of its one
byte of memory. -/
def two_holders [StrLower] : List Step :=
  [registration "p" (.of_ascii (by decide) (by decide) (by decide)),
    .request (.submit (plain_proposal "w1" (.of_ascii (by decide) (by decide) (by decide))) 0 60),
    registration "q" (.of_ascii (by decide) (by decide) (by decide)),
    .request (.submit_resource_aware
      (one_byte_proposal "w2" (.of_ascii (by decide) (by decide) (by decide))) 0 60)]

/-- The refusal of `w1` by `p`, which claims that it is made at time 100. -/
def late_refusal [StrLower] : Message :=
  .refuse "w1" "p" "busy" 100 60 (.of_ascii (by decide) (by decide) (by decide))
    (.of_ascii (by decide) (by decide) (by decide)) (by decide)

/-- The refusal takes away the reservation of `w2` and the resource view of `q`, while `q` still holds its lease. -/
theorem late_refusal_not_confined :
    letI := StrLower.ascii
    let world := reached (sinks_failing_at none none) (.new (.new (.new (.new "body"))
      (one_byte_service "q" (by decide)))) two_holders
    let after := (dispatch (sinks_failing_at none none) "p" late_refusal).after world
    (world.coordinator.lease_at "w2").map (·.node_id) = some "q" ∧
      (world.coordinator.reservation_of "w2").isSome = true ∧ (world.coordinator.views "q").isSome = true ∧
      (after.coordinator.lease_at "w2").map (·.node_id) = some "q" ∧
      (after.coordinator.reservation_of "w2").isSome = false ∧ (after.coordinator.views "q").isSome = false ∧
      ¬ Confined "p" world after := by
  have hfacts : letI := StrLower.ascii
      let world := reached (sinks_failing_at none none) (.new (.new (.new (.new "body"))
        (one_byte_service "q" (by decide)))) two_holders
      let after := (dispatch (sinks_failing_at none none) "p" late_refusal).after world
      (world.coordinator.lease_at "w2").map (·.node_id) = some "q" ∧
        (world.coordinator.reservation_of "w2").isSome = true ∧ (world.coordinator.views "q").isSome = true ∧
        (after.coordinator.lease_at "w2").map (·.node_id) = some "q" ∧
        (after.coordinator.reservation_of "w2").isSome = false ∧ (after.coordinator.views "q").isSome = false := by
    decide +kernel
  let := StrLower.ascii
  obtain ⟨hlease, hreservation, hview, hlease', hreservation', hview'⟩ := hfacts
  refine ⟨hlease, hreservation, hview, hlease', hreservation', hview', ?_⟩
  intro hconfined
  obtain ⟨lease, hfound, hnode⟩ := Option.map_eq_some_iff.mp hlease
  have hsame := hconfined.reservations "w2" lease hfound (by rw [hnode]; decide)
  rw [hsame, hreservation] at hreservation'
  cases hreservation'

end velvet.distributed_work_byte_rpc
