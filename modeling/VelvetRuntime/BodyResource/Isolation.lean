import VelvetRuntime.BodyResource.Service

open python python.str python.num velvet.body_capacity velvet.body_aware_distributed_daemon

namespace velvet.body_resource_transport

theorem validate_now_ok_iff (now : JsonFloat) : validate_now now = .ok () ↔ now.lt 0 = false := by
  unfold validate_now
  cases now.lt 0 <;> simp

variable [StrLower]

/-- The removal loop of `prune` forgets exactly the keys of the advertisements it visits. -/
theorem foldl_remove_get? (removed : List NodeResourceAdvertisement) (registry : NodeResourceRegistry)
    (key : String) :
    (removed.foldl (fun view gone => view.remove gone.node_id) registry).nodes.get? key =
      if ∃ gone ∈ removed, normalized gone.node_id = key then none else registry.nodes.get? key := by
  induction removed generalizing registry with
  | nil => simp
  | cons gone rest ih =>
    rw [List.foldl_cons, ih]
    change (if _ then none else (registry.nodes.pop (normalized gone.node_id)).get? key) = _
    rw [Dict.get?_pop]
    by_cases hhead : normalized gone.node_id = key
    · simp [hhead]
    · simp [hhead, Ne.symm hhead]

theorem foldl_remove_check (removed : List NodeResourceAdvertisement) (registry : NodeResourceRegistry) :
    (removed.foldl (fun view gone => view.remove gone.node_id) registry).check = registry.check := by
  induction removed generalizing registry with
  | nil => rfl
  | cons gone rest ih =>
    rw [List.foldl_cons, ih]
    rfl

variable {self : BodyResourceService} {now : JsonFloat}

/-- At a time `prune` accepts, an entry with a current proof goes exactly when it is stale at that
time. -/
theorem BodyResourceService.prune_get?_of_current {key : String} {entry : NodeResourceAdvertisement}
    (hnow : now.lt 0 = false) (hget : self.registry.nodes.get? key = some entry)
    (hcurrent : self.registry.check.proof_is_current entry = true) :
    (self.prune now).2.registry.nodes.get? key = if self.stale now entry then none else some entry := by
  have hrefreshed : self.registry.refreshed.nodes.get? key = some entry := by
    rw [NodeResourceRegistry.refreshed_get?, hget]
    simp [Option.filter, hcurrent]
  have hvisited : (∃ gone ∈ self.registry.snapshot.1.filter (fun item => self.stale now item),
      normalized gone.node_id = key) ↔ self.stale now entry = true := by
    simp only [NodeResourceRegistry.snapshot, List.mem_filter, List.mem_map, Dict.mem_sorted_items]
    constructor
    · rintro ⟨gone, ⟨⟨item, hitem, rfl⟩, hstale⟩, hkey⟩
      have hitem_key := self.registry.refreshed.keyed item hitem
      have hitem_get : self.registry.refreshed.nodes.get? item.1 = some item.2 :=
        (Dict.get?_eq_some_iff _ _ _).mpr hitem
      rw [← hitem_key, hkey, hrefreshed] at hitem_get
      rw [Option.some.inj hitem_get]
      exact hstale
    · intro hstale
      have hentry := (Dict.get?_eq_some_iff _ _ _).mp hrefreshed
      exact ⟨entry, ⟨⟨(key, entry), hentry, rfl⟩, hstale⟩,
        self.registry.refreshed.keyed (key, entry) hentry⟩
  unfold prune
  rw [(validate_now_ok_iff now).mpr hnow]
  change (List.foldl _ self.registry.refreshed _).nodes.get? key = _
  rw [foldl_remove_get?, hrefreshed]
  by_cases hstale : self.stale now entry = true
  · rw [if_pos (hvisited.mpr hstale), if_pos hstale]
  · rw [if_neg (fun hgone => hstale (hvisited.mp hgone)), if_neg hstale]

/-- An entry without a current proof is gone afterwards. -/
theorem BodyResourceService.prune_get?_of_not_current {key : String} (hnow : now.lt 0 = false)
    (hnot : (self.registry.nodes.get? key).filter self.registry.check.proof_is_current = none) :
    (self.prune now).2.registry.nodes.get? key = none := by
  unfold prune
  rw [(validate_now_ok_iff now).mpr hnow]
  change (List.foldl _ self.registry.refreshed _).nodes.get? key = _
  rw [foldl_remove_get?, NodeResourceRegistry.refreshed_get?, hnot]
  exact ite_self none

theorem BodyResourceService.prune_check (self : BodyResourceService) (now : JsonFloat) :
    (self.prune now).2.registry.check = self.registry.check := by
  unfold prune
  cases validate_now now with
  | error error => rfl
  | ok _ => exact foldl_remove_check _ _

theorem BodyResourceService.prune_ok (self : BodyResourceService) (hnow : now.lt 0 = false) :
    ∃ removed, (self.prune now).1 = .ok removed := by
  unfold prune
  rw [(validate_now_ok_iff now).mpr hnow]
  exact ⟨_, rfl⟩

theorem BodyResourceService.now_of_register_refusal {advertisement : NodeResourceAdvertisement}
    (hnone : self.register_refusal advertisement now = none) :
    now.lt 0 = false := by
  unfold register_refusal at hnone
  cases hnow : now.lt 0 with
  | false => rfl
  | true => simp [hnow] at hnone

end velvet.body_resource_transport

namespace velvet.body_resource_byte_rpc

open velvet.body_resource_transport

section

variable [StrLower]

/-- An entry of the resource view that the receiver itself vouches for: within the maximum age on
its own clock, and passing the registry's proof check. -/
structure BodyResourceByteEndpoint.Live (endpoint : BodyResourceByteEndpoint) (key : String)
    (entry : NodeResourceAdvertisement) : Prop where
  stored : endpoint.service.registry.nodes.get? key = some entry
  fresh : endpoint.service.registry.check.clock - entry.observed_at < endpoint.service.max_age_seconds
  current : endpoint.service.registry.check.proof_is_current entry = true

/-- The body-bound service's reason to turn the message away; the plain service has none. -/
def BodyResourceByteEndpoint.rejection (self : BodyResourceByteEndpoint) (message : ResourceHeartbeat) :
    Option String :=
  self.binding.bind (fun binding =>
    binding.rejection self.service.max_age_seconds message.advertisement message.now)

/-- The messages that get as far as `prune`: a rejected one only needs a non-negative time, any
other one passes the checks of `register`. -/
def BodyResourceByteEndpoint.ReachesPrune (self : BodyResourceByteEndpoint) (source_peer_id : String)
    (message : ResourceHeartbeat) : Prop :=
  message.advertisement.node_id = source_peer_id ∧
    if (self.rejection message).isSome then message.now.lt 0 = false
    else self.service.register_refusal message.advertisement message.now = none

/-- Publishing for one node leaves every other entry to the registry's own refresh. -/
theorem publish_get?_of_ne (service : BodyResourceService) {advertisement : NodeResourceAdvertisement}
    {key : String} (hother : key ≠ normalized advertisement.node_id) :
    (service.publish advertisement).2.registry.nodes.get? key =
      (service.registry.nodes.get? key).filter service.registry.check.proof_is_current := by
  change (service.registry.register advertisement).2.refreshed.nodes.get? key = _
  rw [NodeResourceRegistry.refreshed_get?, NodeResourceRegistry.register_check,
    NodeResourceRegistry.register_get?_of_ne _ _ hother]

variable {self : BodyResourceByteEndpoint}

/-- A live entry that the prune spares also survives the refresh of the capacity snapshot. -/
theorem filter_prune_of_live {now : JsonFloat} {key : String} {entry : NodeResourceAdvertisement}
    (hnow : now.lt 0 = false) (hlive : self.Live key entry) :
    ((self.service.prune now).2.registry.nodes.get? key).filter
        (self.service.prune now).2.registry.check.proof_is_current =
      if self.service.stale now entry then none else some entry := by
  rw [BodyResourceService.prune_check,
    BodyResourceService.prune_get?_of_current hnow hlive.stored hlive.current]
  cases self.service.stale now entry with
  | true => rfl
  | false => simp [Option.filter, hlive.current]

/-- A message that gets as far as the prune takes another node's live entry away exactly when that
entry is stale at the time the message carries. -/
theorem register_get?_of_reachesPrune {message : ResourceHeartbeat} {source_peer_id key : String}
    {entry : NodeResourceAdvertisement} (hreaches : self.ReachesPrune source_peer_id message)
    (hother : key ≠ normalized source_peer_id) (hlive : self.Live key entry) :
    (self.register message).2.registry.nodes.get? key =
      if self.service.stale message.now entry then none else some entry := by
  obtain ⟨rfl, hpasses⟩ := hreaches
  have hplain (hrefusal : self.service.register_refusal message.advertisement message.now = none) :
      (self.service.register message.advertisement message.now).2.registry.nodes.get? key =
        if self.service.stale message.now entry then none else some entry := by
    have hnow := BodyResourceService.now_of_register_refusal hrefusal
    obtain ⟨removed, hremoved⟩ := self.service.prune_ok hnow
    have hpair : self.service.prune message.now = (.ok removed, (self.service.prune message.now).2) :=
      Prod.ext hremoved rfl
    rw [← filter_prune_of_live hnow hlive, ← publish_get?_of_ne _ hother]
    unfold BodyResourceService.register
    rw [hrefusal, hpair]
  unfold BodyResourceByteEndpoint.rejection at hpasses
  unfold BodyResourceByteEndpoint.register
  cases hbinding : self.binding with
  | none =>
    simp only [hbinding, Option.bind_none, Option.isSome_none, Bool.false_eq_true, if_false] at hpasses
    exact hplain hpasses
  | some binding =>
    simp only [hbinding, Option.bind_some] at hpasses
    dsimp only
    unfold BodyBinding.register
    cases hrejection : binding.rejection self.service.max_age_seconds message.advertisement message.now with
    | none =>
      simp only [hrejection, Option.isSome_none, Bool.false_eq_true, if_false] at hpasses
      exact hplain hpasses
    | some reason =>
      simp only [hrejection, Option.isSome_some, if_true] at hpasses
      obtain ⟨removed, hremoved⟩ := self.service.prune_ok hpasses
      have hpair : self.service.prune message.now = (.ok removed, (self.service.prune message.now).2) :=
        Prod.ext hremoved rfl
      rw [← filter_prune_of_live hpasses hlive, ← NodeResourceRegistry.refreshed_get?, hpair]
      rfl

/-- A message that stops before the prune changes nothing. -/
theorem dispatch_of_not_reachesPrune {message : ResourceHeartbeat} {source_peer_id : String}
    (hstops : ¬ self.ReachesPrune source_peer_id message) :
    (self.dispatch source_peer_id message).2 = self := by
  unfold BodyResourceByteEndpoint.dispatch
  by_cases hpeer : message.advertisement.node_id = source_peer_id
  · rw [if_neg (not_not_intro hpeer)]
    have hservice : (self.register message).2 = self.service := by
      have hplain (hrefused : self.service.register_refusal message.advertisement message.now ≠ none) :
          (self.service.register message.advertisement message.now).2 = self.service := by
        obtain ⟨error, herror⟩ := Option.ne_none_iff_exists'.mp hrefused
        unfold BodyResourceService.register
        rw [herror]
      have hfails := fun hpasses => hstops ⟨hpeer, hpasses⟩
      unfold BodyResourceByteEndpoint.rejection at hfails
      unfold BodyResourceByteEndpoint.register
      cases hbinding : self.binding with
      | none =>
        simp only [hbinding, Option.bind_none, Option.isSome_none, Bool.false_eq_true, if_false] at hfails
        exact hplain hfails
      | some binding =>
        simp only [hbinding, Option.bind_some] at hfails
        dsimp only
        unfold BodyBinding.register
        cases hrejection :
            binding.rejection self.service.max_age_seconds message.advertisement message.now with
        | none =>
          simp only [hrejection, Option.isSome_none, Bool.false_eq_true, if_false] at hfails
          exact hplain hfails
        | some reason =>
          simp only [hrejection, Option.isSome_some, if_true] at hfails
          have hprune : self.service.prune message.now =
              (.error ⟨.ValueError, "now must be a non-negative number"⟩, self.service) := by
            unfold BodyResourceService.prune validate_now
            rw [if_pos (Bool.not_eq_false _ ▸ hfails)]
          dsimp only
          rw [hprune]
    dsimp only
    rw [hservice]
  · rw [if_pos hpeer]

/-- The view is pruned at the time a heartbeat message carries, which its sender chooses. So a
message from one peer leaves every live entry of the other nodes in place exactly when it stops
before the prune or carries a time at which none of these entries is stale. -/
theorem resource_view_isolated_iff (endpoint : BodyResourceByteEndpoint) (source_peer_id : String)
    (message : ResourceHeartbeat) :
    (∀ key entry, key ≠ normalized source_peer_id → endpoint.Live key entry →
      (endpoint.dispatch source_peer_id message).2.service.registry.nodes.get? key = some entry) ↔
    (endpoint.ReachesPrune source_peer_id message →
      ∀ key entry, key ≠ normalized source_peer_id → endpoint.Live key entry →
        endpoint.service.stale message.now entry = false) := by
  by_cases hreaches : endpoint.ReachesPrune source_peer_id message
  · have hdispatch : (endpoint.dispatch source_peer_id message).2.service =
        (endpoint.register message).2 := by
      unfold BodyResourceByteEndpoint.dispatch
      rw [if_neg (not_not_intro hreaches.1)]
    rw [hdispatch]
    constructor
    · intro hkept _ key entry hother hlive
      have hentry := hkept key entry hother hlive
      rw [register_get?_of_reachesPrune hreaches hother hlive] at hentry
      cases hstale : endpoint.service.stale message.now entry with
      | false => rfl
      | true => simp [hstale] at hentry
    · intro hfresh key entry hother hlive
      rw [register_get?_of_reachesPrune hreaches hother hlive, hfresh hreaches key entry hother hlive]
      rfl
  · rw [dispatch_of_not_reachesPrune hreaches]
    exact ⟨fun _ hyes => absurd hyes hreaches, fun _ key entry _ hlive => hlive.stored⟩

end

/-- An advertisement without resources, from a node of the body `body`. -/
def bare_advertisement (node_id : String) (observed_at : ℚ) (htext : ¬ Blank node_id)
    (hobserved : 0 ≤ observed_at) : NodeResourceAdvertisement where
  node_id
  body_id := "body"
  observed_at
  resources := []
  body_verified := true
  continuity_verified := true
  boot_id := "00000000-0000-4000-8000-000000000000"
  node_id_text := htext
  body_id_text := text_body
  observed_at_nonneg := hobserved
  resource_ids_unique := by simp

/-- An endpoint at time 100 that holds one advertisement of the node `q`, observed at 90, with a
maximum age of 20 seconds. -/
def endpoint_with_q [StrLower] : BodyResourceByteEndpoint where
  service :=
    { registry := NodeResourceRegistry.store
        { body_id := "body"
          check := ⟨100, 20, some (fun _ => true)⟩
          nodes := .empty
          keyed := by simp [Dict.empty] }
        (bare_advertisement "q" 90 (by decide) (by decide))
      max_age_seconds := 20
      max_future_skew_seconds := 5
      max_age_positive := by decide
      max_future_skew_positive := by decide }
  binding := none

/-- The heartbeat of `p` at time 100 that claims to be sent at 115. -/
def heartbeat_from_p : ResourceHeartbeat :=
  ⟨bare_advertisement "p" 100 (by decide) (by decide), .finite 115⟩

/-- The heartbeat of `p` is accepted and takes away the entry of `q`, which is only ten seconds old
on the receiver's clock. -/
theorem heartbeat_from_p_removes_q :
    letI := StrLower.ascii
    let entry := bare_advertisement "q" 90 (by decide) (by decide)
    endpoint_with_q.Live "q" entry ∧ "q" ≠ normalized "p" ∧
      (endpoint_with_q.dispatch "p" heartbeat_from_p).1.toOption.map (·.decision.accepted) = some true ∧
      (endpoint_with_q.dispatch "p" heartbeat_from_p).2.service.registry.nodes.get? "q" = none := by
  let := StrLower.ascii
  exact ⟨⟨by decide, by with_unfolding_all decide, by with_unfolding_all decide⟩, by decide,
    by with_unfolding_all decide, by with_unfolding_all decide⟩

end velvet.body_resource_byte_rpc
