import Mathlib.Data.List.Lattice
import VelvetRuntime.Execution.Resources

open python python.str

namespace velvet.resource_coordinator

/-- A value passed for a text, and one passed for a collection of texts, which may be a bare text. -/
inductive Passed where
  | str (text : String)
  | other
  deriving DecidableEq

inductive Collection where
  | str (text : String)
  | members (values : List Passed)
  deriving DecidableEq

section

variable [StrLower]

/-- `_text`. -/
def text_of : Passed → String
  | .str text => normalized text
  | .other => ""

/-- The text that `_text` normalises: any other value counts as blank. -/
def Passed.text : Passed → String
  | .str text => text
  | .other => ""

/-- The texts that `_resources` normalises: it takes none from a bare text. -/
def Collection.texts : Collection → List String
  | .str _ => []
  | .members values => values.map Passed.text

/-- What iterating over the collection names; a bare text is a collection of its characters. -/
def Collection.named : Collection → List String
  | .str text => text.toList.map (fun char => normalized (String.singleton char))
  | .members values => values.map text_of

/-- The collection is no bare text, and none of its members is blank. -/
def Collection.WellFormed : Collection → Prop
  | .str _ => False
  | .members values => ∀ value ∈ values, text_of value ≠ ""

omit [StrLower] in
theorem normalized_empty [StrLower] : normalized "" = "" :=
  (normalized_eq_empty_iff "").mpr rfl

theorem normalized_text (value : Passed) : normalized value.text = text_of value := by
  cases value with
  | str text => rfl
  | other => exact normalized_empty

theorem mem_sorted_texts {values : List String} {resource : String} :
    resource ∈ sorted_texts values ↔ ∃ value ∈ values, normalized value = resource := by
  unfold sorted_texts
  rw [List.mem_insertionSort, List.mem_dedup, List.mem_map]

variable {resources : Collection}

/-- A malformed collection counts as empty. -/
theorem resources_of_malformed (hmalformed : ¬ resources.WellFormed) :
    resources_of resources.texts = [] := by
  cases resources with
  | str text => exact if_neg List.not_mem_nil
  | members values =>
    obtain ⟨value, hvalue, hblank⟩ : ∃ value ∈ values, text_of value = "" := by
      by_contra hnone
      exact hmalformed (fun value hvalue hblank => hnone ⟨value, hvalue, hblank⟩)
    unfold resources_of
    refine if_pos (mem_sorted_texts.mpr ⟨value.text, List.mem_map_of_mem hvalue, ?_⟩)
    rw [normalized_text, hblank]

/-- A well-formed collection asks for what it names. -/
theorem mem_resources_of_wellFormed (hformed : resources.WellFormed) {resource : String} :
    resource ∈ resources_of resources.texts ↔ resource ∈ resources.named := by
  cases resources with
  | str text => cases hformed
  | members values =>
    have hnot : "" ∉ sorted_texts (values.map Passed.text) := by
      intro hblank
      obtain ⟨_, hmem, hempty⟩ := mem_sorted_texts.mp hblank
      obtain ⟨value, hvalue, rfl⟩ := List.mem_map.mp hmem
      exact hformed value hvalue (by rw [← normalized_text, hempty])
    unfold resources_of
    rw [Collection.texts, if_neg hnot, mem_sorted_texts]
    simp [Collection.named, normalized_text]

/-- A call of the coordinator. -/
inductive Operation where
  | acquire (owner_id : Passed) (resources : Collection)
  | release (owner_id : Passed)
  deriving DecidableEq

namespace ResourceCoordinator

def perform (self : ResourceCoordinator) : Operation → ResourceDecision × ResourceCoordinator
  | .acquire owner_id resources => self.acquire owner_id.text resources.texts
  | .release owner_id => self.release owner_id.text

/-- The state that a sequence of calls ends in. -/
def run (self : ResourceCoordinator) (operations : List Operation) : ResourceCoordinator :=
  operations.foldl (fun coordinator operation => (coordinator.perform operation).2) self

variable (self : ResourceCoordinator)

omit [StrLower] in
/-- Whoever owns a resource has a lease that lists it, and the other way round. -/
theorem owner_iff_leased (resource owner : String) :
    self.owners.get? resource = some owner ↔
      ∃ lease, self.leases.get? owner = some lease ∧ resource ∈ lease.resources := by
  constructor
  · exact self.leased resource owner
  · rintro ⟨lease, hlease, hlisted⟩
    exact (self.owned owner lease hlease).2 resource hlisted

omit [StrLower] in
theorem leases_disjoint {owner other : String} {lease other_lease : ResourceLease}
    (hlease : self.leases.get? owner = some lease) (hother : self.leases.get? other = some other_lease)
    (hne : owner ≠ other) : lease.resources.Disjoint other_lease.resources := by
  intro resource hfirst hsecond
  have howner := (self.owned owner lease hlease).2 resource hfirst
  have hother_owner := (self.owned other other_lease hother).2 resource hsecond
  exact hne (Option.some.inj (howner.symm.trans hother_owner))

/-- The ways an acquisition can end: it is denied, or it is granted to a named owner, either for nothing or for a
lease of what was asked for. -/
theorem acquire_ends (owner_id : String) (resources : List String) :
    ((self.acquire owner_id resources).1.granted = false ∧ (self.acquire owner_id resources).2 = self ∧
      (normalized owner_id = "" ∨ resources_of resources ≠ [])) ∨
    ((self.acquire owner_id resources).1.granted = true ∧ normalized owner_id ≠ "" ∧
      ((resources_of resources = [] ∧ (self.acquire owner_id resources).2 = self) ∨
        resources_of resources ≠ [] ∧ ∃ lease,
          (self.acquire owner_id resources).2.leases.get? (normalized owner_id) = some lease ∧
            lease.resources = resources_of resources)) := by
  unfold acquire
  dsimp only
  split
  · rename_i hblank
    exact .inl ⟨rfl, rfl, .inl hblank⟩
  · rename_i howner
    split
    · rename_i hnothing
      exact .inr ⟨rfl, howner, .inl ⟨hnothing, rfl⟩⟩
    · rename_i hrequested
      split
      · rename_i existing hexisting
        split
        · rename_i hsame
          exact .inr ⟨rfl, howner, .inr ⟨hrequested, existing, hexisting, hsame⟩⟩
        · exact .inl ⟨rfl, rfl, .inr hrequested⟩
      · split
        · exact .inr ⟨rfl, howner, .inr ⟨hrequested, _, Dict.get?_set_self _ _ _, rfl⟩⟩
        · exact .inl ⟨rfl, rfl, .inr hrequested⟩

theorem unchanged_of_not_granted {operation : Operation}
    (hdenied : (self.perform operation).1.granted = false) : (self.perform operation).2 = self := by
  cases operation with
  | acquire owner_id resources =>
    rcases self.acquire_ends owner_id.text resources.texts with ⟨_, hsame, _⟩ | ⟨hgranted, _⟩
    · exact hsame
    · cases hdenied.symm.trans hgranted
  | release owner_id =>
    unfold perform release at hdenied ⊢
    dsimp only at hdenied ⊢
    split
    · rfl
    · rename_i howner
      rw [if_neg howner] at hdenied
      split
      · rfl
      · rename_i lease hlease
        split at hdenied
        · rename_i hnone
          cases hnone.symm.trans hlease
        · cases hdenied

/-- A granted acquisition leaves its owner with all that the request names exactly if the request is well formed, or
its owner had all of it before. -/
theorem granted_owns_iff (owner_id : Passed) (resources : Collection) :
    ((self.perform (.acquire owner_id resources)).1.granted = true → ∀ resource ∈ resources.named,
      (self.perform (.acquire owner_id resources)).2.owners.get? resource = some (text_of owner_id)) ↔
    (text_of owner_id = "" ∨ resources.WellFormed ∨
      ∀ resource ∈ resources.named, self.owners.get? resource = some (text_of owner_id)) := by
  unfold perform
  dsimp only
  rw [← normalized_text owner_id]
  constructor
  · intro howns
    by_cases hformed : resources.WellFormed
    · exact .inr (.inl hformed)
    · have hnothing := resources_of_malformed hformed
      rcases self.acquire_ends owner_id.text resources.texts with
        ⟨_, _, hblank | hrequested⟩ | ⟨hgranted, _, ⟨_, hsame⟩ | ⟨hrequested, _⟩⟩
      · exact .inl hblank
      · exact absurd hnothing hrequested
      · rw [hsame] at howns
        exact .inr (.inr (howns hgranted))
      · exact absurd hnothing hrequested
  · intro hcondition hgranted resource hnamed
    rcases self.acquire_ends owner_id.text resources.texts with
      ⟨hdenied, _⟩ | ⟨_, howner, ⟨hnothing, hsame⟩ | ⟨hrequested, lease, hlease, hlists⟩⟩
    · cases hdenied.symm.trans hgranted
    · rcases hcondition with hblank | hformed | howned
      · exact absurd hblank howner
      · have hrequested := (mem_resources_of_wellFormed hformed).mpr hnamed
        rw [hnothing] at hrequested
        cases hrequested
      · rw [hsame]
        exact howned resource hnamed
    · have hformed : resources.WellFormed := by
        by_contra hmalformed
        exact hrequested (resources_of_malformed hmalformed)
      refine (ResourceCoordinator.owned _ _ lease hlease).2 resource ?_
      rw [hlists]
      exact (mem_resources_of_wellFormed hformed).mpr hnamed

/-- In every state that calls reach, ownership and leases mirror each other, the leases of two owners are disjoint and
a call that is not granted changes nothing; a granted acquisition gives its owner all that it names exactly if its
collection is well formed, or the owner had all of it already. -/
theorem ownership_and_grants (operations : List Operation) :
    let self := new.run operations
    (∀ resource owner, self.owners.get? resource = some owner ↔
      ∃ lease, self.leases.get? owner = some lease ∧ resource ∈ lease.resources) ∧
    (∀ owner other lease other_lease, owner ≠ other → self.leases.get? owner = some lease →
      self.leases.get? other = some other_lease → lease.resources.Disjoint other_lease.resources) ∧
    (∀ operation, (self.perform operation).1.granted = false → (self.perform operation).2 = self) ∧
    ∀ owner_id resources, ((self.perform (.acquire owner_id resources)).1.granted = true →
        ∀ resource ∈ resources.named,
          (self.perform (.acquire owner_id resources)).2.owners.get? resource = some (text_of owner_id)) ↔
      (text_of owner_id = "" ∨ resources.WellFormed ∨
        ∀ resource ∈ resources.named, self.owners.get? resource = some (text_of owner_id)) := by
  intro self
  refine ⟨self.owner_iff_leased, ?_, ?_, self.granted_owns_iff⟩
  · intro owner other lease other_lease hne hlease hother
    exact self.leases_disjoint hlease hother hne
  · intro operation hdenied
    exact self.unchanged_of_not_granted hdenied

end ResourceCoordinator

end

namespace ResourceCoordinator

/-- One blank member is enough for a request to be granted as if it named nothing. -/
theorem blank_member_granted_nothing :
    letI := StrLower.ascii
    let request := Operation.acquire (.str "ruby") (.members [.str "brakes", .str " "])
    (new.perform request).1 = ⟨true, .no_resources_required, some ⟨"ruby", []⟩, [], []⟩ ∧
      (new.perform request).2.owners.get? "brakes" = none := by decide

end ResourceCoordinator

end velvet.resource_coordinator
