import Mathlib.Data.List.Dedup
import Mathlib.Data.String.Basic
import VelvetRuntime.Python.Dict
import VelvetRuntime.Text

open python python.str

namespace velvet.resource_coordinator

structure ResourceConflict where
  resource : String
  owner_id : String
  deriving DecidableEq

structure ResourceLease where
  owner_id : String
  resources : List String
  deriving DecidableEq

inductive ResourceState where
  | invalid_owner
  | no_resources_required
  | already_acquired
  | owner_lease_mismatch
  | resource_conflict
  | acquired
  | lease_not_found
  | released
  deriving DecidableEq, Repr

structure ResourceDecision where
  granted : Bool
  state : ResourceState
  lease : Option ResourceLease
  conflicts : List ResourceConflict
  errors : List String
  deriving DecidableEq

/-- `sorted({_text(value) for value in values})`. -/
def sorted_texts [StrLower] (values : List String) : List String :=
  (values.map normalized).dedup.insertionSort (· ≤ ·)

/-- `_resources`: one blank name makes the whole collection count as empty. -/
def resources_of [StrLower] (values : List String) : List String :=
  if "" ∈ sorted_texts values then [] else sorted_texts values

/-- The ownership table. A resource has an owner exactly when the owner has a lease that lists it. -/
structure ResourceCoordinator where
  owners : Dict String String
  leases : Dict String ResourceLease
  owned : ∀ owner lease, leases.get? owner = some lease →
    lease.owner_id = owner ∧ ∀ resource ∈ lease.resources, owners.get? resource = some owner
  leased : ∀ resource owner, owners.get? resource = some owner →
    ∃ lease, leases.get? owner = some lease ∧ resource ∈ lease.resources

namespace ResourceCoordinator

def new : ResourceCoordinator where
  owners := .empty
  leases := .empty
  owned := by
    intro owner lease hlease
    cases hlease
  leased := by
    intro resource owner howner
    cases howner

/-- The loop of `acquire` over the requested resources, and the new lease. -/
def grant (self : ResourceCoordinator) (owner : String) (requested : List String)
    (hnew : self.leases.get? owner = none) (hfree : ∀ resource ∈ requested, self.owners.get? resource = none) :
    ResourceCoordinator where
  owners := requested.foldl (fun owners resource => owners.set resource owner) self.owners
  leases := self.leases.set owner ⟨owner, requested⟩
  owned := by
    intro other lease hlease
    rw [Dict.get?_set] at hlease
    split at hlease
    · rename_i hother
      cases hlease
      refine ⟨hother.symm, ?_⟩
      intro resource hresource
      rw [Dict.get?_foldl_set, if_pos hresource, hother]
    · obtain ⟨howner, hall⟩ := self.owned other lease hlease
      refine ⟨howner, ?_⟩
      intro resource hresource
      have hheld := hall resource hresource
      have hnot : resource ∉ requested := by
        intro hrequested
        rw [hfree resource hrequested] at hheld
        cases hheld
      rw [Dict.get?_foldl_set, if_neg hnot, hheld]
  leased := by
    intro resource other howner
    rw [Dict.get?_foldl_set] at howner
    split at howner
    · rename_i hrequested
      cases howner
      exact ⟨⟨owner, requested⟩, Dict.get?_set_self _ _ _, hrequested⟩
    · obtain ⟨lease, hlease, hlisted⟩ := self.leased resource other howner
      have hother : other ≠ owner := by
        rintro rfl
        rw [hnew] at hlease
        cases hlease
      exact ⟨lease, by rw [Dict.get?_set_of_ne _ _ hother, hlease], hlisted⟩

/-- The loop of `release`: what the owner still owns of the lease's resources is freed. -/
def freed (owners : Dict String String) (owner : String) (resources : List String) : Dict String String :=
  resources.foldl
    (fun owners resource => if owners.get? resource = some owner then owners.pop resource else owners) owners

theorem get?_freed (owners : Dict String String) (owner : String) (resources : List String) (resource : String) :
    (freed owners owner resources).get? resource =
      if resource ∈ resources ∧ owners.get? resource = some owner then none else owners.get? resource := by
  unfold freed
  induction resources generalizing owners with
  | nil => simp
  | cons first rest ih =>
    rw [List.foldl_cons, ih]
    by_cases hfirst : owners.get? first = some owner
    · by_cases hsame : resource = first
      · subst hsame
        simp [hfirst]
      · simp [hfirst, Dict.get?_pop_of_ne _ hsame, hsame]
    · by_cases hsame : resource = first
      · subst hsame
        simp [hfirst]
      · simp [hfirst, hsame]

/-- The table without an owner's lease. -/
def revoke (self : ResourceCoordinator) (owner : String) (lease : ResourceLease)
    (hlease : self.leases.get? owner = some lease) : ResourceCoordinator where
  owners := freed self.owners owner lease.resources
  leases := self.leases.pop owner
  owned := by
    intro other kept hkept
    rw [Dict.get?_pop] at hkept
    split at hkept
    · cases hkept
    · rename_i hother
      obtain ⟨howner, hall⟩ := self.owned other kept hkept
      refine ⟨howner, ?_⟩
      intro resource hresource
      have hheld := hall resource hresource
      have hnot : ¬ (resource ∈ lease.resources ∧ self.owners.get? resource = some owner) := by
        rintro ⟨_, howned⟩
        exact hother (Option.some.inj (hheld.symm.trans howned))
      rw [get?_freed, if_neg hnot, hheld]
  leased := by
    intro resource other howner
    rw [get?_freed] at howner
    split at howner
    · cases howner
    · rename_i hnot
      obtain ⟨kept, hkept, hlisted⟩ := self.leased resource other howner
      have hother : other ≠ owner := by
        rintro rfl
        rw [hlease] at hkept
        cases hkept
        exact hnot ⟨hlisted, howner⟩
      exact ⟨kept, by rw [Dict.get?_pop_of_ne _ hother, hkept], hlisted⟩

def conflicts_of (self : ResourceCoordinator) (owner : String) (requested : List String) : List ResourceConflict :=
  requested.filterMap (fun resource =>
    match self.owners.get? resource with
    | some other => if other = owner then none else some ⟨resource, other⟩
    | none => none)

variable (self : ResourceCoordinator)

/-- An owner without a lease owns nothing, so resources that conflict with nobody are free. -/
theorem free_of_no_conflicts {owner : String} {requested : List String}
    (hnew : self.leases.get? owner = none) (hconflicts : self.conflicts_of owner requested = []) :
    ∀ resource ∈ requested, self.owners.get? resource = none := by
  intro resource hresource
  cases howner : self.owners.get? resource with
  | none => rfl
  | some other =>
    have hnone := (List.filterMap_eq_nil_iff.mp hconflicts) resource hresource
    rw [howner] at hnone
    have hother : other = owner := by simpa using hnone
    obtain ⟨lease, hlease, _⟩ := self.leased resource other howner
    rw [hother, hnew] at hlease
    cases hlease

variable [StrLower]

def acquire (self : ResourceCoordinator) (owner_id : String) (resources : List String) :
    ResourceDecision × ResourceCoordinator :=
  let owner := normalized owner_id
  let requested := resources_of resources
  if owner = "" then (⟨false, .invalid_owner, none, [], ["resource owner identity is required"]⟩, self)
  else if requested = [] then (⟨true, .no_resources_required, some ⟨owner, []⟩, [], []⟩, self)
  else
    match hexisting : self.leases.get? owner with
    | some existing =>
      if existing.resources = requested then (⟨true, .already_acquired, some existing, [], []⟩, self)
      else
        (⟨false, .owner_lease_mismatch, none, [], ["owner already holds a different resource lease"]⟩, self)
    | none =>
      if hconflicts : self.conflicts_of owner requested = [] then
        (⟨true, .acquired, some ⟨owner, requested⟩, [], []⟩,
          self.grant owner requested hexisting (self.free_of_no_conflicts hexisting hconflicts))
      else (⟨false, .resource_conflict, none, self.conflicts_of owner requested, []⟩, self)

def release (self : ResourceCoordinator) (owner_id : String) : ResourceDecision × ResourceCoordinator :=
  let owner := normalized owner_id
  if owner = "" then (⟨false, .invalid_owner, none, [], ["resource owner identity is required"]⟩, self)
  else
    match hlease : self.leases.get? owner with
    | none => (⟨false, .lease_not_found, none, [], []⟩, self)
    | some lease => (⟨true, .released, some lease, [], []⟩, self.revoke owner lease hlease)

def owner_of (self : ResourceCoordinator) (resource : String) : Option String :=
  self.owners.get? (normalized resource)

/-- What an acquisition can do: leave the table as it is, with the lease it was asked for when it is
granted, or add that lease for an owner that had none. -/
theorem acquire_cases (owner_id : String) (resources : List String)
    (hrequested : resources_of resources ≠ []) :
    ((self.acquire owner_id resources).2 = self ∧ ((self.acquire owner_id resources).1.granted = true →
      ∃ lease, self.leases.get? (normalized owner_id) = some lease ∧ lease.resources = resources_of resources)) ∨
    (self.leases.get? (normalized owner_id) = none ∧ (self.acquire owner_id resources).2.leases =
      self.leases.set (normalized owner_id) ⟨normalized owner_id, resources_of resources⟩) := by
  unfold acquire
  dsimp only
  split
  · exact Or.inl ⟨rfl, by simp⟩
  · split
    · rename_i existing hexisting
      split
      · rename_i hsame
        exact Or.inl ⟨rfl, fun _ => ⟨existing, hexisting, hsame⟩⟩
      · exact Or.inl ⟨rfl, by simp⟩
    · rename_i hnew
      split
      · exact Or.inr ⟨hnew, rfl⟩
      · exact Or.inl ⟨rfl, by simp⟩

/-- A release takes away the lease of its owner and no other. -/
theorem get?_leases_release (self : ResourceCoordinator) {owner_id : String} (howner : normalized owner_id ≠ "")
    (other : String) : (self.release owner_id).2.leases.get? other =
      if other = normalized owner_id then none else self.leases.get? other := by
  unfold release
  dsimp only
  rw [if_neg howner]
  split
  · rename_i hnone
    split
    · rename_i hother
      rw [hother]
      exact hnone
    · rfl
  · exact Dict.get?_pop _ _ _

end ResourceCoordinator

end velvet.resource_coordinator
