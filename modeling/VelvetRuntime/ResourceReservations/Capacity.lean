import Mathlib.Algebra.Order.BigOperators.Group.List
import VelvetRuntime.ResourceReservations.Ledger

open python python.str velvet.body_capacity

namespace velvet.resource_reservations

open ResourceReservationLedger

/-- What live reservations on a node hold of the resource with exactly this id. -/
def ResourceReservationLedger.held (self : ResourceReservationLedger) (node resource_id : String) : ℚ :=
  ((self.by_work.items.filter (fun entry => entry.2.node_id = node)).map
    (fun entry => entry.2.amount_of resource_id)).sum

theorem ResourceReservation.amount_of_nonneg (reservation : ResourceReservation) (resource_id : String) :
    0 ≤ reservation.amount_of resource_id := by
  apply List.sum_nonneg
  intro amount hamount
  obtain ⟨item, _, rfl⟩ := List.mem_map.mp hamount
  exact item.amount_nonneg

private theorem sum_amounts_le_of_sublist {smaller larger : List (String × ResourceReservation)}
    (hsub : smaller.Sublist larger) (resource_id : String) :
    (smaller.map (fun entry => entry.2.amount_of resource_id)).sum ≤
      (larger.map (fun entry => entry.2.amount_of resource_id)).sum := by
  induction hsub with
  | slnil => simp
  | cons entry _ ih =>
    have hamount := entry.2.amount_of_nonneg resource_id
    simp only [List.map_cons, List.sum_cons]
    linarith
  | cons_cons entry _ ih =>
    simp only [List.map_cons, List.sum_cons]
    linarith

variable (self : ResourceReservationLedger)

/-- Dropping entries never raises what is held. -/
theorem held_filter_le (keep : String → ResourceReservation → Bool) (node resource_id : String) :
    held ⟨self.by_work.filter keep⟩ node resource_id ≤ self.held node resource_id :=
  sum_amounts_le_of_sublist (List.filter_sublist.filter _) resource_id

theorem held_set_of_none {work : String}
    (reservation : ResourceReservation) (hnone : self.by_work.get? work = none)
    (node resource_id : String) :
    held ⟨self.by_work.set work reservation⟩ node resource_id =
      self.held node resource_id +
        if reservation.node_id = node then reservation.amount_of resource_id else 0 := by
  unfold held
  rw [Dict.items_set_of_get?_none _ _ hnone, List.filter_append, List.map_append, List.sum_append]
  by_cases hnode : reservation.node_id = node <;> simp [hnode]

/-- A node that advertises one unit of memory under the given id. -/
def single_resource (resource_id : String) (htext : ¬ Blank resource_id) : NodeResourceAdvertisement where
  node_id := "node"
  body_id := "body"
  observed_at := 0
  resources := [{
    resource_id, kind := .MEMORY, scope := .LOCAL, capacity := 1, available := 1, unit := "bytes"
    capabilities := [], online := true, resource_id_text := htext, capacity_positive := by norm_num
    available_nonneg := by norm_num, available_le := le_refl 1, unit_text := by decide
    capabilities_text := by simp }]
  body_verified := true
  continuity_verified := true
  boot_id := ""
  node_id_text := by decide
  body_id_text := by decide
  observed_at_nonneg := le_refl 0
  resource_ids_unique := by simp

/-- The request of one work for that whole unit. -/
def whole_unit (resource_id : String) (htext : ¬ Blank resource_id) (work_id : String) :
    ReserveRequest where
  work_id
  lease_id := work_id
  node_id := "node"
  expires_at := 1
  advertisement := single_resource resource_id htext
  requirements := [{
    kind := .MEMORY, minimum_available := 1, unit := "bytes", accepted_scopes := [.LOCAL]
    required_capabilities := [], minimum_nonneg := by norm_num, unit_text := by decide
    scopes_nonempty := by simp, required_capabilities_text := by simp }]

/-- The reservation that request leads to. -/
def whole_unit_reservation (resource_id work_id : String) : ResourceReservation where
  work_id
  lease_id := work_id
  node_id := "node"
  expires_at := 1
  items := [{
    resource_id, kind := .MEMORY, scope := .LOCAL, amount := 1, unit := "bytes"
    required_capabilities := [], amount_nonneg := by norm_num }]
  expires_at_positive := by norm_num

theorem amount_of_whole_unit (resource_id work_id other : String) :
    (whole_unit_reservation resource_id work_id).amount_of other =
      if resource_id = other then 1 else 0 := by
  by_cases hsame : resource_id = other <;>
    simp [whole_unit_reservation, ResourceReservation.amount_of, hsame]

@[simp] theorem held_new (node resource_id : String) : new.held node resource_id = 0 := rfl

section

variable [StrLower] {node : String}

/-- The ledger's lookup is the exact total under the collapsed id. -/
theorem reserved_amount_eq_held (resource_id : String)
    (hnode : normalized node = node) :
    self.reserved_amount node resource_id none = self.held node (collapse_text resource_id) := by
  simp [reserved_amount, held, hnode]

variable {resources : List ResourceAdvertisement} {staged : Dict String ℚ}

theorem choose_resource_locked_some {self : ResourceReservationLedger}
    {requirement : ResourceRequirement} {chosen : ResourceAdvertisement}
    (hchoose : self.choose_resource_locked node resources requirement staged = some chosen) :
    chosen ∈ resources ∧ requirement.minimum_available ≤
      max 0 (chosen.available - (self.reserved_amount node chosen.resource_id none +
        (staged.get? chosen.resource_id).getD 0)) := by
  unfold choose_resource_locked at hchoose
  have hfound := List.find?_some hchoose
  simp only [Bool.and_eq_true, decide_eq_true_eq] at hfound
  exact ⟨List.mem_of_find?_eq_some hchoose, hfound.2⟩

/-- A staged reservation fits: with what is already held and staged, the items it adds for one
advertised resource stay within what that resource has available. -/
theorem stage_items_within {self : ResourceReservationLedger}
    (hnode : normalized node = node)
    (hunique : (resources.map ResourceAdvertisement.resource_id).Nodup)
    {resource : ResourceAdvertisement} (hmem : resource ∈ resources)
    (hstable : collapse_text resource.resource_id = resource.resource_id)
    {requirements : List ResourceRequirement}
    {items : List ResourceReservationItem}
    (hstage : self.stage_items node resources requirements staged = .ok items)
    (hfits : self.held node resource.resource_id + (staged.get? resource.resource_id).getD 0 ≤
      resource.available) :
    self.held node resource.resource_id + (staged.get? resource.resource_id).getD 0 +
      ((items.filter (fun item => item.resource_id = resource.resource_id)).map (·.amount)).sum ≤
      resource.available := by
  induction requirements generalizing staged items with
  | nil =>
    simp only [stage_items, Except.ok.injEq] at hstage
    subst items
    simpa using hfits
  | cons requirement rest ih =>
    simp only [stage_items] at hstage
    cases hchoose : self.choose_resource_locked node resources requirement staged with
    | none => simp [hchoose] at hstage
    | some chosen =>
      simp only [hchoose] at hstage
      obtain ⟨hchosen, hroom⟩ := choose_resource_locked_some hchoose
      cases hrest : self.stage_items node resources rest (staged.set chosen.resource_id
          ((staged.get? chosen.resource_id).getD 0 + requirement.minimum_available)) with
      | error error => simp [hrest] at hstage
      | ok tail =>
        simp only [hrest, Except.ok.injEq] at hstage
        subst items
        by_cases hsame : chosen.resource_id = resource.resource_id
        · -- the requirement goes to the resource in question: it fits into what is left of it
          have heq : chosen = resource := List.inj_on_of_nodup_map hunique hchosen hmem hsame
          subst chosen
          rw [reserved_amount_eq_held self _ hnode, hstable, max_eq_right (by linarith)] at hroom
          have htail := ih hrest (by rw [Dict.get?_set_self, Option.getD_some]; linarith)
          rw [Dict.get?_set_self, Option.getD_some] at htail
          simp only [reservation_item, decide_true, List.filter_cons_of_pos, List.map_cons, List.sum_cons]
          linarith
        · have hother : resource.resource_id ≠ chosen.resource_id := fun h => hsame h.symm
          have htail := ih hrest (by rwa [Dict.get?_set_of_ne _ _ hother])
          rw [Dict.get?_set_of_ne _ _ hother] at htail
          simpa [reservation_item, hsame] using htail

/-- Everything `reserve` can do: leave the ledger alone, or file one new reservation whose items
were staged against it. -/
theorem reserve_cases (request : ReserveRequest) :
    (self.reserve request).2 = self ∨
      ∃ items reservation, self.by_work.get? (normalized request.work_id) = none ∧
        normalized request.advertisement.node_id = normalized request.node_id ∧
        self.stage_items (normalized request.node_id) request.resources request.requirements .empty =
          .ok items ∧
        reservation.node_id = normalized request.node_id ∧ reservation.items = items ∧
        self.reserve request =
          (.ok reservation, ⟨self.by_work.set (normalized request.work_id) reservation⟩) := by
  unfold reserve
  simp only
  split
  · exact Or.inl rfl
  split
  · exact Or.inl rfl
  split
  · exact Or.inl rfl
  rename_i hadvertised _
  cases hget : self.by_work.get? (normalized request.work_id) with
  | some current =>
    simp only
    split <;> exact Or.inl rfl
  | none =>
    cases hstage : self.stage_items (normalized request.node_id) request.resources
        request.requirements .empty with
    | error error => exact Or.inl rfl
    | ok items =>
      dsimp only
      by_cases hexpires : 0 < request.expires_at
      · rw [dif_pos hexpires]
        exact Or.inr ⟨items, _, rfl, by simpa using hadvertised, rfl, rfl, rfl, rfl⟩
      · rw [dif_neg hexpires]
        exact Or.inl rfl

/-- A reserve that raises leaves the ledger as it was. -/
theorem reserve_error_unchanged (request : ReserveRequest)
    {error : Error} (herror : (self.reserve request).1 = .error error) :
    (self.reserve request).2 = self := by
  rcases reserve_cases self request with hsame | ⟨items, reservation, _, _, _, _, _, hreserve⟩
  · exact hsame
  · rw [hreserve] at herror
    cases herror

/-- Each node keeps one advertisement: every reserve for a node carries the one fixed for it. -/
def FixedAdvertisements (advertised : String → Option NodeResourceAdvertisement)
    (operations : List Operation) : Prop :=
  ∀ request, .reserve request ∈ operations →
    advertised (normalized request.advertisement.node_id) = some request.advertisement

/-- No node holds more of the resources advertised under this id than they have available. -/
def WithinCapacity (advertised : String → Option NodeResourceAdvertisement)
    (resource_id : String) (ledger : ResourceReservationLedger) : Prop :=
  ∀ node advertisement, advertised node = some advertisement →
    ∀ resource ∈ advertisement.resources, resource.resource_id = resource_id →
      ledger.held node resource_id ≤ resource.available

variable {resource_id : String} {advertised : String → Option NodeResourceAdvertisement}

/-- One operation keeps the capacity of an id that white-space collapsing leaves alone. -/
theorem apply_within
    (hstable : collapse_text resource_id = resource_id) {ledger : ResourceReservationLedger}
    (hwithin : WithinCapacity advertised resource_id ledger) (operation : Operation)
    (hfixed : ∀ request, operation = .reserve request →
      advertised (normalized request.advertisement.node_id) = some request.advertisement) :
    WithinCapacity advertised resource_id (ledger.apply operation) := by
  cases operation with
  | release work_id =>
    intro node advertisement hadvertised resource hmem hid
    exact (held_filter_le ledger _ node resource_id).trans
      (hwithin node advertisement hadvertised resource hmem hid)
  | prune now =>
    intro node advertisement hadvertised resource hmem hid
    have hbefore := hwithin node advertisement hadvertised resource hmem hid
    simp only [apply, prune]
    split
    · exact hbefore
    · exact (held_filter_le ledger _ node resource_id).trans hbefore
  | reserve request =>
    intro node advertisement hadvertised resource hmem hid
    have hbefore := hwithin node advertisement hadvertised resource hmem hid
    simp only [apply]
    rcases reserve_cases ledger request with
      hsame | ⟨items, reservation, hnone, hnode, hstage, hreserved, hitems, hreserve⟩
    · rwa [hsame]
    · rw [hreserve, held_set_of_none ledger reservation hnone]
      split
      · rename_i hwhere
        have hrequest := hfixed request rfl
        rw [hnode, ← hreserved, hwhere, hadvertised, Option.some.injEq] at hrequest
        have hsorted : request.resources.Perm advertisement.resources := by
          rw [hrequest]
          exact List.perm_insertionSort _ _
        subst hid
        have hstaged := stage_items_within (normalized_normalized request.node_id)
          ((hsorted.map ResourceAdvertisement.resource_id).nodup_iff.mpr
            advertisement.resource_ids_unique)
          (hsorted.mem_iff.mpr hmem) hstable hstage
          (by simpa [← hreserved, hwhere] using hbefore)
        simpa [← hreserved, hwhere, ResourceReservation.amount_of, hitems] using hstaged
      · linarith

theorem run_within
    (hstable : collapse_text resource_id = resource_id) (operations : List Operation)
    (hfixed : FixedAdvertisements advertised operations) :
    WithinCapacity advertised resource_id (run operations) := by
  induction operations using List.reverseRecOn with
  | nil =>
    intro node advertisement _ resource _ _
    simpa [run] using resource.available_nonneg
  | append_singleton operations operation ih =>
    unfold run at ih ⊢
    rw [List.foldl_append]
    apply apply_within hstable (ih (fun request hmem => hfixed request (by simp [hmem])))
    intro request hrequest
    exact hfixed request (by simp [hrequest])

variable (htext : ¬ Blank resource_id)

/-- While the lookup reports nothing committed, another work gets the whole unit. -/
theorem reserve_whole_unit {work_id : String} (hwork : normalized work_id = work_id)
    (hwork_text : work_id ≠ "") (hlease : collapse_text work_id = work_id)
    (hnone : self.by_work.get? work_id = none)
    (hfree : self.reserved_amount "node" resource_id none = 0) :
    (self.reserve (whole_unit resource_id htext work_id)).2 =
      ⟨self.by_work.set work_id (whole_unit_reservation resource_id work_id)⟩ := by
  have hnode : normalized "node" = "node" := normalized_eq_self_of_ascii (by decide) (by decide)
  simp [reserve, whole_unit, single_resource, hwork, hwork_text, hlease, hnode,
    hnone, stage_items, choose_resource_locked,
    ReserveRequest.resources, ResourceAdvertisement.offers, hfree, whole_unit_reservation, reservation_item]

/-- An id that white-space collapsing changes is never found by the lookup, so two works both get
the whole of its single unit. -/
theorem run_oversubscribed
    (hunstable : collapse_text resource_id ≠ resource_id) :
    (run [.reserve (whole_unit resource_id htext "work-a"),
      .reserve (whole_unit resource_id htext "work-b")]).held "node" resource_id = 2 := by
  have hnode : normalized "node" = "node" := normalized_eq_self_of_ascii (by decide) (by decide)
  have hnone : new.by_work.get? "work-a" = none := Dict.get?_empty _
  let reserved : ResourceReservationLedger :=
    ⟨new.by_work.set "work-a" (whole_unit_reservation resource_id "work-a")⟩
  have hfirst : (new.reserve (whole_unit resource_id htext "work-a")).2 = reserved :=
    reserve_whole_unit .new htext (normalized_eq_self_of_ascii (by decide) (by decide)) (by decide)
      (by decide) hnone (by rw [reserved_amount_eq_held _ _ hnode, held_new])
  have hnone' : reserved.by_work.get? "work-b" = none := by
    rw [Dict.get?_set_of_ne _ _ (by decide)]
    exact Dict.get?_empty _
  have hfree : reserved.reserved_amount "node" resource_id none = 0 := by
    rw [reserved_amount_eq_held _ _ hnode, held_set_of_none _ _ hnone, held_new, amount_of_whole_unit,
      if_neg (Ne.symm hunstable)]
    simp
  have hsecond : (reserved.reserve (whole_unit resource_id htext "work-b")).2 =
      ⟨reserved.by_work.set "work-b" (whole_unit_reservation resource_id "work-b")⟩ :=
    reserve_whole_unit reserved htext (normalized_eq_self_of_ascii (by decide) (by decide)) (by decide)
      (by decide) hnone' hfree
  simp only [run, List.foldl_cons, List.foldl_nil, apply, hfirst, hsecond]
  rw [held_set_of_none _ _ hnone', held_set_of_none _ _ hnone, held_new, amount_of_whole_unit,
    amount_of_whole_unit]
  simp [whole_unit_reservation]
  norm_num

/-- The lookup that decides a reservation collapses white space in the resource id while the items
are filed under the id as advertised. So reservations stay within the advertised amount in every
run over fixed advertisements exactly for the ids that collapsing leaves alone. A reserve that
raises never changes the ledger. -/
theorem reservations_within_capacity_iff (resource_id : String) :
    ((∀ advertised operations, FixedAdvertisements advertised operations →
      WithinCapacity advertised resource_id (run operations)) ↔
      (¬ Blank resource_id → collapse_text resource_id = resource_id)) ∧
    ∀ (ledger : ResourceReservationLedger) (request : ReserveRequest) (error : Error),
      (ledger.reserve request).1 = .error error → (ledger.reserve request).2 = ledger := by
  refine ⟨⟨?_, ?_⟩, fun ledger request error => reserve_error_unchanged ledger request⟩
  · intro hwithin htext
    by_contra hunstable
    have hrun := hwithin (fun _ => some (single_resource resource_id htext))
      [.reserve (whole_unit resource_id htext "work-a"), .reserve (whole_unit resource_id htext "work-b")]
      (by
        intro request hmem
        simp only [List.mem_cons, Operation.reserve.injEq, List.not_mem_nil, or_false] at hmem
        rcases hmem with rfl | rfl <;> rfl)
      "node" _ rfl _ (List.mem_singleton.mpr rfl) rfl
    rw [run_oversubscribed htext hunstable] at hrun
    norm_num at hrun
  · intro hstable advertised operations hfixed
    by_cases hblank : Blank resource_id
    · intro node advertisement _ resource _ hid
      exact absurd hblank (hid ▸ resource.resource_id_text)
    · exact run_within (hstable hblank) operations hfixed

end

/-- Two works take the single unit advertised as `memory  ram`, written with two spaces. -/
theorem memory_ram_oversubscribed :
    letI := StrLower.ascii
    let advertisement := single_resource "memory  ram" (by decide)
    let operations : List Operation := [.reserve (whole_unit "memory  ram" (by decide) "work-a"),
      .reserve (whole_unit "memory  ram" (by decide) "work-b")]
    FixedAdvertisements (fun _ => some advertisement) operations ∧
      ¬ WithinCapacity (fun _ => some advertisement) "memory  ram" (run operations) := by
  refine ⟨?_, ?_⟩
  · intro request hmem
    simp only [List.mem_cons, Operation.reserve.injEq, List.not_mem_nil, or_false] at hmem
    rcases hmem with rfl | rfl <;> rfl
  · intro hwithin
    have hheld := hwithin "node" _ rfl _ (List.mem_singleton.mpr rfl) rfl
    rw [@run_oversubscribed StrLower.ascii "memory  ram" (by decide) (by decide)] at hheld
    norm_num at hheld

end velvet.resource_reservations
