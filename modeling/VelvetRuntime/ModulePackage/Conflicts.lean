import Mathlib.Tactic.NormNum
import VelvetRuntime.ModulePackage.Changes

open python

namespace velvet.module_package

open Program

/-- When an operation adds a package, no admitted package declares a conflict with it. -/
def NotNamed (manager : ModulePackageManager) : Operation → Prop
  | .load call => ∀ manifest ∈ admitted_by manager call, ∀ record ∈ manager.records.values,
    record.admitted = true → manifest.package_id ∉ record.manifest.conflicts
  | _ => True

/-- Every operation of a run adds only packages that no admitted one declares a conflict with. -/
def NotNamedAlways : ModulePackageManager → List Operation → Prop
  | _, [] => True
  | manager, operation :: rest =>
    NotNamed manager operation ∧ NotNamedAlways ((perform operation).after manager) rest

instance (manager : ModulePackageManager) : (operation : Operation) → Decidable (NotNamed manager operation)
  | .load _ => inferInstanceAs (Decidable (∀ manifest ∈ _, ∀ record ∈ _, _ → _))
  | .start .. | .quiesce .. | .snapshot .. | .stop .. | .unload .. | .deactivate .. =>
    inferInstanceAs (Decidable True)

instance decidable_not_named_always : (manager : ModulePackageManager) → (operations : List Operation) →
    Decidable (NotNamedAlways manager operations)
  | _, [] => inferInstanceAs (Decidable True)
  | manager, operation :: rest =>
    have := decidable_not_named_always ((perform operation).after manager) rest
    inferInstanceAs (Decidable (_ ∧ _))

/-- No two admitted packages are such that one of them declares a conflict with the other. -/
def ConflictFree (manager : ModulePackageManager) : Prop :=
  ∀ package other record other_record, package ≠ other → manager.records.get? package = some record →
    manager.records.get? other = some other_record → record.admitted = true → other_record.admitted = true →
    other ∉ record.manifest.conflicts ∧ package ∉ other_record.manifest.conflicts

/-- Every package that is admitted after some steps was admitted before them, with the same manifest. -/
def Kept (before after : ModulePackageManager) : Prop :=
  ∀ package record, after.records.get? package = some record → record.admitted = true →
    ∃ old, before.records.get? package = some old ∧ old.admitted = true ∧ old.manifest = record.manifest

theorem Kept.refl (manager : ModulePackageManager) : Kept manager manager :=
  fun _ record hget hadmitted => ⟨record, hget, hadmitted, rfl⟩

theorem Kept.trans {first second third : ModulePackageManager} (hfirst : Kept first second)
    (hsecond : Kept second third) : Kept first third := by
  intro package record hget hadmitted
  obtain ⟨between, hbetween, hstill, hmanifest⟩ := hsecond package record hget hadmitted
  obtain ⟨old, hold, hbefore, hsame⟩ := hfirst package between hbetween hstill
  exact ⟨old, hold, hbefore, hsame.trans hmanifest⟩

theorem Kept.conflict_free {before after : ModulePackageManager} (hkept : Kept before after)
    (hfree : ConflictFree before) : ConflictFree after := by
  intro package other record other_record hne hget hother hadmitted hother_admitted
  obtain ⟨old, hold, hbefore, hmanifest⟩ := hkept package record hget hadmitted
  obtain ⟨other_old, hother_old, hother_before, hother_manifest⟩ :=
    hkept other other_record hother hother_admitted
  rw [← hmanifest, ← hother_manifest]
  exact hfree package other old other_old hne hold hother_old hbefore hother_before

variable {before world : ModulePackageManager} {record : ModulePackageRecord}

/-- Changing the state of an admitted package admits nothing new. -/
theorem Kept.set_record {package_id : String} {next : ModulePackageRecord}
    (hget : world.records.get? package_id = some record) (hadmitted : record.admitted = true)
    (hmanifest : next.manifest = record.manifest) :
    Kept world { world with records := world.records.set package_id next } := by
  intro package found hfound hfound_admitted
  rw [Dict.get?_set] at hfound
  split at hfound
  · rename_i hsame
    cases hfound
    exact ⟨record, hsame ▸ hget, hadmitted, hmanifest.symm⟩
  · exact ⟨found, hfound, hfound_admitted, rfl⟩

variable {after : ModulePackageManager}

theorem Change.kept (hchange : Change world after) : Kept world after := by
  cases hchange with
  | reports receipts => exact .refl world
  | remembers snapshots => exact .refl world
  | moves package_id record next hget hadmitted hmanifest hresident hnext => exact .set_record hget hadmitted hmanifest
  | releases package_id record next hget hadmitted hmanifest hresident hnext =>
    exact .set_record hget hadmitted hmanifest

theorem Changed.kept (hchanged : Changed before after) : Kept before after := by
  induction hchanged with
  | refl => exact .refl before
  | tail _ hchange hkept => exact hkept.trans hchange.kept

/-- A package that is admitted declares no conflict with one that is admitted already. -/
theorem conflicts_of_check {manifest : ModulePackageManifest} {package : String}
    (hcheck : (before.check_admission manifest).isOk = true) (hget : before.records.get? package = some record)
    (hadmitted : record.admitted = true) : package ∉ manifest.conflicts := by
  intro hconflict
  unfold ModulePackageManager.check_admission at hcheck
  split at hcheck
  · cases hcheck
  · split at hcheck
    · cases hcheck
    · rename_i hnone
      have hnot := List.find?_eq_none.mp hnone package hconflict
      have hstate : record.state ∈ admitted_states := of_decide_eq_true hadmitted
      simp [ModulePackageManager.in_state, hget, hstate] at hnot

/-- Loading a package that no admitted one names keeps the packages free of conflicts: the package itself
was checked against every one that was admitted. -/
theorem Loaded.conflict_free {call : LoadCall} (hloaded : Loaded before call after) (hfree : ConflictFree before)
    (hnamed : NotNamed before (.load call)) : ConflictFree after := by
  obtain ⟨-, ⟨-, hsame⟩ | ⟨manifest, added, hadded, hmanifest, -, -, hrecords⟩⟩ := hloaded
  · intro package other record other_record hne hget hother
    rw [hsame] at hget hother
    exact hfree package other record other_record hne hget hother
  · have hcheck := (of_admitted_by hadded).2.2
    -- The new package against one that was admitted before.
    have hnew : ∀ other other_record, before.records.get? other = some other_record →
        other_record.admitted = true →
        other ∉ manifest.conflicts ∧ manifest.package_id ∉ other_record.manifest.conflicts := by
      intro other other_record hget hadmitted
      exact ⟨conflicts_of_check hcheck hget hadmitted,
        hnamed manifest hadded other_record (Dict.mem_values_of_get? hget) hadmitted⟩
    intro package other record other_record hne hget hother hadmitted hother_admitted
    rw [hrecords, Dict.get?_set] at hget hother
    split at hget
    · rename_i hpackage
      rw [if_neg (fun hsame => hne (hpackage.trans hsame.symm))] at hother
      cases hget
      rw [hmanifest, hpackage]
      exact hnew other other_record hother hother_admitted
    · split at hother
      · rename_i hotherid
        cases hother
        rw [hmanifest, hotherid]
        exact (hnew package record hget hadmitted).symm
      · exact hfree package other record other_record hne hget hother hadmitted hother_admitted

variable {manager : ModulePackageManager}

/-- One call keeps the packages free of conflicts when it adds none that an admitted one names. -/
theorem ConflictFree.perform (hfree : ConflictFree manager) {operation : Operation}
    (hnamed : NotNamed manager operation) : ConflictFree ((perform operation).after manager) := by
  have hperformed := performed manager operation
  generalize (velvet.module_package.perform operation).after manager = after at hperformed
  cases hperformed with
  | loaded call _ hloaded => exact hloaded.conflict_free hfree hnamed
  | changed _ _ hother hchanged => exact hchanged.kept.conflict_free hfree

theorem ConflictFree.run {manager : ModulePackageManager} (hfree : ConflictFree manager) {operations : List Operation}
    (hnamed : NotNamedAlways manager operations) : ConflictFree (manager.run operations) := by
  induction operations generalizing manager with
  | nil => exact hfree
  | cons operation rest ih => exact ih (hfree.perform hnamed.1) hnamed.2

theorem NotNamedAlways.of_append {earlier later : List Operation}
    (hnamed : NotNamedAlways manager (earlier ++ later)) : NotNamedAlways manager earlier := by
  induction earlier generalizing manager with
  | nil => trivial
  | cons operation rest ih => exact ⟨hnamed.1, ih hnamed.2⟩

/-- The admission check reads the conflicts of the package that is loaded, and not those of the packages
that are admitted. In every run of a new manager whose loads add no package that an admitted one names,
every state that is reached is free of conflicts. -/
theorem admitted_packages_conflict_free (budget : ModuleManagerBudget) (services : List String)
    (operations : List Operation)
    (hnamed : NotNamedAlways (ModulePackageManager.new budget services) operations)
    (earlier later : List Operation) (hrun : operations = earlier ++ later) :
    ConflictFree ((ModulePackageManager.new budget services).run earlier) := by
  have hinitial : ConflictFree (ModulePackageManager.new budget services) := by
    intro package other record other_record _ hget
    cases hget
  rw [hrun] at hnamed
  exact hinitial.run hnamed.of_append

/-- A package that declares the given conflicts. -/
def plain_manifest (package_id : String) (conflicts : List String) (hid : is_identifier package_id = true)
    (hconflicts : conflicts.all is_identifier = true ∧ conflicts.Nodup ∧ conflicts.length ≤ 128)
    (hitself : package_id ∉ conflicts) : ModulePackageManifest where
  package_id
  package_version := "1.0.0"
  module_id := package_id
  owning_handmaiden := "Vera"
  dependencies := []
  conflicts
  hardware_requirements := []
  resource_budget := ⟨1, 1, 1⟩
  state_policy := ⟨"state.v1", 1024⟩
  digest := package_id
  package_id_valid := hid
  dependencies_valid := by decide
  conflicts_valid := hconflicts
  not_itself := ⟨by simp, hitself⟩
  no_overlap := by simp
  memory_bounds := by decide
  cpu_bounds := by constructor <;> norm_num
  storage_bounds := by decide
  snapshot_bounds := by decide

def plain_load (manifest : ModulePackageManifest) : Operation :=
  .load ⟨.ok manifest, .ok (), .ok (), fun _ => .ok ()⟩

def camera_manifest : ModulePackageManifest :=
  plain_manifest "camera" ["thermal"] (by decide) (by decide) (by decide)

def thermal_manifest : ModulePackageManifest :=
  plain_manifest "thermal" [] (by decide) (by decide) (by decide)

def plain_budget : ModuleManagerBudget :=
  ⟨256, 100, 256, by decide, by constructor <;> norm_num, by decide⟩

/-- The package that is named comes first: the other one is then not admitted. -/
theorem named_package_first :
    ((ModulePackageManager.new plain_budget []).run [plain_load thermal_manifest]).in_state "thermal" [.LOADED] = true ∧
      ConflictFree ((ModulePackageManager.new plain_budget []).run
        [plain_load thermal_manifest, plain_load camera_manifest]) :=
  ⟨by with_unfolding_all decide, admitted_packages_conflict_free plain_budget []
    [plain_load thermal_manifest, plain_load camera_manifest] (by with_unfolding_all decide)
    [plain_load thermal_manifest, plain_load camera_manifest] [] rfl⟩

/-- The package that declares the conflict comes first: the one that it names is admitted after it. -/
theorem named_package_second :
    ¬ ConflictFree ((ModulePackageManager.new plain_budget []).run
      [plain_load camera_manifest, plain_load thermal_manifest]) := by
  intro hfree
  have hrecord : ∀ package, ((ModulePackageManager.new plain_budget []).run
      [plain_load camera_manifest, plain_load thermal_manifest]).in_state package [.LOADED] = true →
      ∃ record, ((ModulePackageManager.new plain_budget []).run
        [plain_load camera_manifest, plain_load thermal_manifest]).records.get? package = some record ∧
        record.admitted = true := by
    intro package hstate
    unfold ModulePackageManager.in_state at hstate
    split at hstate
    · cases hstate
    · rename_i record hget
      exact ⟨record, hget, admitted_of_state (of_decide_eq_true hstate) (by decide)⟩
  obtain ⟨camera, hcamera, hcamera_admitted⟩ := hrecord "camera" (by with_unfolding_all decide)
  obtain ⟨thermal, hthermal, hthermal_admitted⟩ := hrecord "thermal" (by with_unfolding_all decide)
  have hconflicts : (((ModulePackageManager.new plain_budget []).run
      [plain_load camera_manifest, plain_load thermal_manifest]).records.get? "camera").map
        (fun record => record.manifest.conflicts) = some ["thermal"] := by with_unfolding_all decide
  rw [hcamera] at hconflicts
  have hnot := (hfree "camera" "thermal" camera thermal (by decide) hcamera hthermal hcamera_admitted
    hthermal_admitted).1
  have hnamed : camera.manifest.conflicts = ["thermal"] := Option.some.inj hconflicts
  rw [hnamed] at hnot
  exact hnot (List.mem_singleton_self _)

end velvet.module_package
