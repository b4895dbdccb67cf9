import Mathlib.Algebra.GroupWithZero.Nat
import Mathlib.Data.Prod.Lex
import Mathlib.Data.String.Basic
import VelvetRuntime.Python.Dict
import VelvetRuntime.BodyCapacity.Types

open python python.str

namespace velvet.body_capacity

structure ResourceRegistrationDecision where
  accepted : Bool
  state : String
  node_id : String
  reasons : List String
  deriving DecidableEq, Repr

structure BodyCapacityTotal where
  kind : ResourceKind
  unit : String
  capacity : ℚ
  available : ℚ
  resource_count : Nat
  deriving DecidableEq

structure BodyCapacitySnapshot where
  body_id : String
  node_ids : List String
  totals : List BodyCapacityTotal
  resource_count : Nat
  deriving DecidableEq

/-- The texts for which `str(uuid.UUID(text)) == text`: lower-case hexadecimal digits grouped
8-4-4-4-12. -/
def is_canonical_uuid (text : String) : Bool :=
  text.toList.length = 36 &&
    text.toList.zipIdx.all (fun (c, index) =>
      if [8, 13, 18, 23].contains index then c = '-' else "0123456789abcdef".toList.contains c)

/-- The receiver's own means of checking an advertisement: its clock, its maximum age and the
commissioned verification callback, which answers true only for `is True`. -/
structure ProofCheck where
  clock : ℚ
  max_age_seconds : ℚ
  verification_provider : Option (NodeResourceAdvertisement → Bool)

/-- `_proof_is_current`. -/
def ProofCheck.proof_is_current (self : ProofCheck) (advertisement : NodeResourceAdvertisement) : Bool :=
  let age := self.clock - advertisement.observed_at
  0 ≤ age && age < self.max_age_seconds && is_canonical_uuid advertisement.boot_id &&
    match self.verification_provider with
    | none => false
    | some provider => provider advertisement

variable [StrLower]

/-- The newest verified advertisement of each node, under its normalised node id. -/
structure NodeResourceRegistry where
  body_id : String
  check : ProofCheck
  nodes : Dict String NodeResourceAdvertisement
  keyed : ∀ entry ∈ nodes.items, normalized entry.2.node_id = entry.1

def NodeResourceRegistry.filter (self : NodeResourceRegistry)
    (keep : String → NodeResourceAdvertisement → Bool) : NodeResourceRegistry :=
  { self with
    nodes := self.nodes.filter keep
    keyed := fun entry hentry => self.keyed entry (List.mem_of_mem_filter hentry) }

def NodeResourceRegistry.remove (self : NodeResourceRegistry) (node_id : String) : NodeResourceRegistry :=
  self.filter (fun key _ => key ≠ normalized node_id)

def NodeResourceRegistry.store (self : NodeResourceRegistry) (advertisement : NodeResourceAdvertisement) :
    NodeResourceRegistry :=
  { self with
    nodes := self.nodes.set (normalized advertisement.node_id) advertisement
    keyed := by
      intro entry hentry
      rcases (Dict.mem_items_set_iff _ _ _ _).mp hentry with rfl | ⟨_, hold⟩
      · rfl
      · exact self.keyed entry hold }

def NodeResourceRegistry.rejection_reasons (self : NodeResourceRegistry)
    (advertisement : NodeResourceAdvertisement) : List String :=
  (if normalized advertisement.body_id ≠ self.body_id then ["body-binding-mismatch"] else []) ++
  (if !self.check.proof_is_current advertisement then ["node-body-boot-proof-unavailable-or-stale"] else [])

def NodeResourceRegistry.register (self : NodeResourceRegistry) (advertisement : NodeResourceAdvertisement) :
    ResourceRegistrationDecision × NodeResourceRegistry :=
  let node_id := normalized advertisement.node_id
  if self.rejection_reasons advertisement ≠ [] then
    (⟨false, "rejected", node_id, self.rejection_reasons advertisement⟩, self.remove node_id)
  else
    let decision := ⟨true, "registered", node_id, ["verified-body-resources"]⟩
    match self.nodes.get? node_id with
    | none => (decision, self.store advertisement)
    | some current =>
      if current.observed_at ≤ advertisement.observed_at then (decision, self.store advertisement)
      else (decision, self)

/-- `get` also forgets an entry whose proof is no longer current. -/
def NodeResourceRegistry.get (self : NodeResourceRegistry) (node_id : String) :
    Option NodeResourceAdvertisement × NodeResourceRegistry :=
  match self.nodes.get? (normalized node_id) with
  | none => (none, self)
  | some item =>
    if self.check.proof_is_current item then (some item, self) else (none, self.remove node_id)

/-- The registry after `snapshot` has dropped the entries whose proof is no longer current. -/
def NodeResourceRegistry.refreshed (self : NodeResourceRegistry) : NodeResourceRegistry :=
  self.filter (fun _ item => self.check.proof_is_current item)

def NodeResourceRegistry.snapshot (self : NodeResourceRegistry) :
    List NodeResourceAdvertisement × NodeResourceRegistry :=
  (self.refreshed.nodes.sorted_items.map Prod.snd, self.refreshed)

/-- The `(kind, unit)` buckets of the online resources, in order of first appearance. -/
def capacity_buckets (resources : List ResourceAdvertisement) :
    Dict (ResourceKind × String) (List ResourceAdvertisement) :=
  (resources.filter (·.online)).foldl
    (fun buckets resource =>
      let key := (resource.kind, stripped resource.unit)
      buckets.set key ((buckets.get? key).getD [] ++ [resource]))
    .empty

def capacity_total (kind : ResourceKind) (unit : String) (resources : List ResourceAdvertisement) :
    BodyCapacityTotal where
  kind
  unit
  capacity := (resources.map (·.capacity)).sum
  available := (resources.map (·.available)).sum
  resource_count := resources.length

def NodeResourceRegistry.capacity_snapshot (self : NodeResourceRegistry) :
    BodyCapacitySnapshot × NodeResourceRegistry :=
  let (advertisements, registry) := self.snapshot
  let buckets := capacity_buckets (advertisements.flatMap (·.resources))
  let totals := (buckets.items.insertionSort (fun left right =>
    toLex (left.1.1.value, left.1.2) ≤ toLex (right.1.1.value, right.1.2))).map
      (fun bucket => capacity_total bucket.1.1 bucket.1.2 bucket.2)
  ({ body_id := self.body_id
     node_ids := (advertisements.map (fun item => normalized item.node_id)).insertionSort (· ≤ ·)
     totals
     resource_count := (totals.map (·.resource_count)).sum }, registry)

/-- A refresh keeps exactly the entries the registry still vouches for. -/
theorem NodeResourceRegistry.refreshed_get? (self : NodeResourceRegistry) (key : String) :
    self.refreshed.nodes.get? key = (self.nodes.get? key).filter self.check.proof_is_current :=
  Dict.get?_filter self.nodes _ key

theorem NodeResourceRegistry.register_check (self : NodeResourceRegistry)
    (advertisement : NodeResourceAdvertisement) : (self.register advertisement).2.check = self.check := by
  unfold NodeResourceRegistry.register
  dsimp only
  split
  · rfl
  · split
    · rfl
    · split <;> rfl

/-- Registration of one node touches the entry of no other. -/
theorem NodeResourceRegistry.register_get?_of_ne (self : NodeResourceRegistry)
    (advertisement : NodeResourceAdvertisement) {key : String}
    (hother : key ≠ normalized advertisement.node_id) :
    (self.register advertisement).2.nodes.get? key = self.nodes.get? key := by
  have hstore : (self.store advertisement).nodes.get? key = self.nodes.get? key :=
    Dict.get?_set_of_ne _ _ hother
  unfold NodeResourceRegistry.register
  dsimp only
  split
  · change (self.nodes.pop _).get? key = _
    rw [normalized_normalized]
    exact Dict.get?_pop_of_ne _ hother
  · split
    · exact hstore
    · split
      · exact hstore
      · rfl

end velvet.body_capacity
