import Mathlib.Algebra.Order.Monoid.Prod
import VelvetRuntime.ModulePackage.Conflicts
import VelvetRuntime.Python.DictTotal

open python

namespace velvet.module_package

open ModulePackageRecord

/-- The three quantities of a budget side by side, compared and added up one by one. -/
def ModuleResourceBudget.amounts (self : ModuleResourceBudget) : ℕ × ℚ × ℕ :=
  (self.memory_mb, self.cpu_percent, self.storage_mb)

def ModuleManagerBudget.amounts (self : ModuleManagerBudget) : ℕ × ℚ × ℕ :=
  (self.memory_mb, self.cpu_percent, self.storage_mb)

namespace ModulePackageRecord

/-- What a package declares, if it counts. -/
def declared_if (self : ModulePackageRecord) (counts : Bool) : ℕ × ℚ × ℕ :=
  if counts then self.manifest.resource_budget.amounts else 0

theorem declared_if_nonneg (self : ModulePackageRecord) (counts : Bool) : 0 ≤ self.declared_if counts := by
  unfold declared_if
  split
  · exact ⟨Nat.zero_le _, (by norm_num : (0 : ℚ) ≤ 1 / 10).trans self.manifest.cpu_bounds.1, Nat.zero_le _⟩
  · exact le_refl 0

/-- A package that failed without having been unloaded. -/
def failed (self : ModulePackageRecord) : Bool := self.resident && self.state = .FAILED

end ModulePackageRecord

namespace ModulePackageManager

/-- What the packages whose instance is held declare together. -/
def resident_usage (self : ModulePackageManager) : ℕ × ℚ × ℕ :=
  self.records.total (fun record => record.declared_if record.resident)

/-- What the failed ones among them declare. `usage` leaves them out. -/
def failed_usage (self : ModulePackageManager) : ℕ × ℚ × ℕ :=
  self.records.total (fun record => record.declared_if record.failed)

def WithinBudget (self : ModulePackageManager) : Prop := self.resident_usage ≤ self.budget.amounts

/-- In every state of the run. -/
def WithinBudgetAlways : ModulePackageManager → List Operation → Prop
  | self, [] => self.WithinBudget
  | self, operation :: rest => self.WithinBudget ∧ WithinBudgetAlways ((perform operation).after self) rest

/-- A package that is admitted would still be admitted if the check counted the failed packages, and compared the
CPU shares without its tolerance. -/
def CountsFailed (self : ModulePackageManager) : Operation → Prop
  | .load call => ∀ manifest ∈ admitted_by self call,
    self.usage.amounts + self.failed_usage + manifest.resource_budget.amounts ≤ self.budget.amounts
  | _ => True

/-- In every step of the run. -/
def CountsFailedAlways : ModulePackageManager → List Operation → Prop
  | _, [] => True
  | self, operation :: rest => self.CountsFailed operation ∧ CountsFailedAlways ((perform operation).after self) rest

/-- An instance is held exactly while its package is admitted or failed. -/
def Accounted (self : ModulePackageManager) : Prop :=
  ∀ package record, self.records.get? package = some record →
    record.resident = (record.admitted || decide (record.state = .FAILED))

theorem usage_amounts (self : ModulePackageManager) :
    self.usage.amounts = self.records.total (fun record => record.declared_if record.admitted) := by
  have hfold : ∀ (records : List ModulePackageRecord) (used : ModuleResourceBudget),
      ((records.filter admitted).foldl
        (fun used record =>
          { memory_mb := used.memory_mb + record.manifest.resource_budget.memory_mb
            cpu_percent := used.cpu_percent + record.manifest.resource_budget.cpu_percent
            storage_mb := used.storage_mb + record.manifest.resource_budget.storage_mb }) used).amounts =
        used.amounts + (records.map (fun record => record.declared_if record.admitted)).sum := by
    intro records
    induction records with
    | nil => exact fun used => (add_zero _).symm
    | cons record rest ih =>
      intro used
      cases hadmitted : record.admitted with
      | false => simp [hadmitted, ih, declared_if]
      | true =>
        rw [List.filter_cons_of_pos hadmitted, List.foldl_cons, ih, List.map_cons, List.sum_cons, ← add_assoc]
        simp [hadmitted, declared_if, ModuleResourceBudget.amounts]
  exact (hfold self.records.values ⟨0, 0, 0⟩).trans (zero_add _)

/-- What is held is what the manager counts, and what failed. -/
theorem resident_usage_eq {self : ModulePackageManager} (haccounted : self.Accounted) :
    self.resident_usage = self.usage.amounts + self.failed_usage := by
  rw [usage_amounts]
  unfold resident_usage failed_usage Dict.total
  rw [← List.sum_map_add]
  refine congrArg List.sum (List.map_congr_left ?_)
  intro record hrecord
  obtain ⟨entry, hentry, rfl⟩ := List.mem_map.mp hrecord
  have hresident := haccounted entry.1 entry.2 ((self.records.get?_eq_some_iff _ _).mpr hentry)
  unfold failed
  rw [hresident]
  cases hadmitted : entry.2.admitted with
  | false => simp [declared_if]
  | true =>
    have hstate : entry.2.state ≠ .FAILED := by
      intro hfailed
      rw [admitted, hfailed] at hadmitted
      cases hadmitted
    simp [hstate, declared_if]

variable (budget : ModuleManagerBudget) (services : List String)

theorem accounted_new : (new budget services).Accounted := by
  intro package record hget
  cases hget

theorem within_budget_new :
    (new budget services).WithinBudget :=
  ⟨Nat.zero_le _, (by norm_num : (0 : ℚ) ≤ 1 / 10).trans budget.cpu_bounds.1, Nat.zero_le _⟩

end ModulePackageManager

open ModulePackageManager

theorem ModulePackageManager.Accounted.set_record {world : ModulePackageManager} (haccounted : world.Accounted)
    (package_id : String) {next : ModulePackageRecord}
    (hnext : next.resident = (next.admitted || decide (next.state = .FAILED))) :
    Accounted { world with records := world.records.set package_id next } := by
  intro package record hget
  rw [Dict.get?_set] at hget
  split at hget
  · cases hget
    exact hnext
  · exact haccounted package record hget

variable {before after : ModulePackageManager}

/-- Nothing but `load` makes more instances held. -/
theorem Change.usage (hchange : Change before after) (haccounted : before.Accounted) :
    after.Accounted ∧ after.budget = before.budget ∧ after.resident_usage ≤ before.resident_usage := by
  cases hchange with
  | reports receipts => exact ⟨haccounted, rfl, le_refl _⟩
  | remembers snapshots => exact ⟨haccounted, rfl, le_refl _⟩
  | moves package_id record next hget hadmitted hmanifest hresident hnext =>
    have hheld : record.resident = true := by rw [haccounted package_id record hget, hadmitted, Bool.true_or]
    refine ⟨haccounted.set_record package_id ?_, rfl, ?_⟩
    · rw [hresident, hheld]
      obtain hnext | hnext := hnext
      · rw [hnext, Bool.true_or]
      · rw [hnext, decide_eq_true rfl, Bool.or_true]
    · unfold resident_usage
      rw [Dict.total_set, before.records.total_of_get? _ hget, hresident, declared_if, hmanifest]
      exact le_refl _
  | releases package_id record next hget hadmitted hmanifest hresident hnext =>
    refine ⟨haccounted.set_record package_id ?_, rfl, ?_⟩
    · rw [hresident, admitted, hnext]
      rfl
    · unfold resident_usage
      rw [Dict.total_set, before.records.total_of_get? _ hget, hresident]
      exact add_le_add (record.declared_if_nonneg record.resident) (le_refl _)

theorem Changed.usage (hchanged : Changed before after) (haccounted : before.Accounted) :
    after.Accounted ∧ after.budget = before.budget ∧ after.resident_usage ≤ before.resident_usage := by
  induction hchanged with
  | refl => exact ⟨haccounted, rfl, le_refl _⟩
  | tail _ hchange ih =>
    obtain ⟨hbetween, hbudget, husage⟩ := ih
    obtain ⟨hafter, hsame, hless⟩ := hchange.usage hbetween
    exact ⟨hafter, hsame.trans hbudget, hless.trans husage⟩

/-- `load` adds what its package declares: no instance was held under the package id. -/
theorem Loaded.usage {call : LoadCall} (hloaded : Loaded before call after) (haccounted : before.Accounted) :
    after.Accounted ∧ after.budget = before.budget ∧
      after.resident_usage =
        ((admitted_by before call).elim 0 fun manifest => manifest.resource_budget.amounts) +
          before.resident_usage := by
  obtain ⟨hbudget, ⟨hnone, hrecords⟩ | ⟨manifest, record, hadmitted, hmanifest, hstate, hresident, hrecords⟩⟩ :=
    hloaded
  · refine ⟨?_, hbudget, ?_⟩
    · intro package record hget
      rw [hrecords] at hget
      exact haccounted package record hget
    · unfold resident_usage
      rw [hnone, hrecords, Option.elim_none, zero_add]
  · refine ⟨?_, hbudget, ?_⟩
    · have hset := haccounted.set_record manifest.package_id
        (show record.resident = (record.admitted || decide (record.state = .FAILED)) by
          rw [hresident, admitted, hstate]
          rfl)
      intro package found hget
      rw [hrecords] at hget
      exact hset package found hget
    · have hdeclared : record.declared_if record.resident = manifest.resource_budget.amounts := by
        rw [hresident, declared_if, hmanifest]
        rfl
      unfold resident_usage
      rw [hadmitted, hrecords, Option.elim_some]
      cases hget : before.records.get? manifest.package_id with
      | none => rw [Dict.total_set, before.records.pop_of_get?_none hget, hdeclared]
      | some previous =>
        have hunloaded : previous.state = .UNLOADED := by
          have hprevious := (of_admitted_by hadmitted).2.1
          rw [hget] at hprevious
          simpa using hprevious
        have hreleased : previous.resident = false := by
          rw [haccounted _ previous hget, admitted, hunloaded]
          rfl
        rw [Dict.total_set, before.records.total_of_get? _ hget, hdeclared, hreleased,
          declared_if, if_neg Bool.false_ne_true, zero_add]

variable {manager : ModulePackageManager}

/-- One call keeps the held instances within the budget when its check would pass with the failed packages
counted, and only then. -/
theorem within_budget_step (haccounted : manager.Accounted) (hwithin : manager.WithinBudget) (operation : Operation) :
    ((perform operation).after manager).Accounted ∧
      (((perform operation).after manager).WithinBudget ↔ manager.CountsFailed operation) := by
  have hperformed := performed manager operation
  generalize (perform operation).after manager = after at hperformed ⊢
  cases hperformed with
  | loaded call _ hloaded =>
    obtain ⟨hafter, hbudget, husage⟩ := hloaded.usage haccounted
    refine ⟨hafter, ?_⟩
    have hcounts : manager.CountsFailed (.load call) ↔ ∀ manifest ∈ admitted_by manager call,
        manager.usage.amounts + manager.failed_usage + manifest.resource_budget.amounts ≤ manager.budget.amounts :=
      Iff.rfl
    unfold WithinBudget at hwithin ⊢
    rw [hcounts, hbudget, husage, ← resident_usage_eq haccounted]
    cases admitted_by manager call with
    | none => simpa using hwithin
    | some manifest => simp [add_comm]
  | changed _ _ hother hchanged =>
    obtain ⟨hafter, hbudget, husage⟩ := hchanged.usage haccounted
    refine ⟨hafter, ?_⟩
    have hcounts : manager.CountsFailed operation := by
      cases operation with
      | load call => exact absurd rfl (hother call)
      | start package_id hooks sink => trivial
      | quiesce package_id reason hooks sink => trivial
      | snapshot package_id hooks sink => trivial
      | stop package_id hooks sink => trivial
      | unload package_id sink => trivial
      | deactivate package_id reason hooks sink => trivial
    refine ⟨fun _ => hcounts, fun _ => ?_⟩
    unfold WithinBudget
    rw [hbudget]
    exact husage.trans hwithin

theorem ModulePackageManager.WithinBudgetAlways.first {operations : List Operation}
    (halways : WithinBudgetAlways manager operations) : manager.WithinBudget := by
  cases operations with
  | nil => exact halways
  | cons operation rest => exact halways.1

theorem ModulePackageManager.WithinBudgetAlways.last {operations : List Operation}
    (halways : WithinBudgetAlways manager operations) : (manager.run operations).WithinBudget := by
  induction operations generalizing manager with
  | nil => exact halways
  | cons operation rest ih => exact ih halways.2

theorem within_budget_always_iff (haccounted : manager.Accounted) (hwithin : manager.WithinBudget)
    (operations : List Operation) :
    WithinBudgetAlways manager operations ↔ CountsFailedAlways manager operations := by
  induction operations generalizing manager with
  | nil => exact ⟨fun _ => trivial, fun _ => hwithin⟩
  | cons operation rest ih =>
    obtain ⟨hafter, hstep⟩ := within_budget_step haccounted hwithin operation
    constructor
    · rintro ⟨-, hrest⟩
      exact ⟨hstep.mp hrest.first, (ih hafter hrest.first).mp hrest⟩
    · rintro ⟨hcounts, hrest⟩
      exact ⟨hwithin, (ih hafter (hstep.mpr hcounts)).mpr hrest⟩

/-- The packages whose instance is held stay within every quantity of the budget in exactly those runs whose loads
would be admitted as well if the check counted the failed packages. -/
theorem resident_packages_within_budget_iff (budget : ModuleManagerBudget) (services : List String)
    (operations : List Operation) :
    WithinBudgetAlways (new budget services) operations ↔ CountsFailedAlways (new budget services) operations :=
  within_budget_always_iff (accounted_new budget services) (within_budget_new budget services) operations

/-- Room for one of the plain packages, which declare one of each quantity. -/
def small_budget : ModuleManagerBudget := ⟨1, 1, 1, by decide, by constructor <;> norm_num, by decide⟩

/-- The start hook raises. -/
def raising_start : Hooks where
  restore_state := .ok ()
  start := .error ⟨.RuntimeError, "no camera"⟩
  quiesce := .ok ()
  snapshot_state := .ok (.error "")
  stop := .ok ()

/-- `thermal` fails to start, and `camera` is admitted while the instance of `thermal` is still held. -/
theorem failed_package_not_counted :
    let operations := [plain_load thermal_manifest, .start "thermal" raising_start fun _ => .ok (),
      plain_load camera_manifest]
    ((new small_budget []).run operations).resident_usage = (2, 2, 2) ∧
      ¬WithinBudgetAlways (new small_budget []) operations := by
  have husage : ((new small_budget []).run [plain_load thermal_manifest,
      .start "thermal" raising_start fun _ => .ok (), plain_load camera_manifest]).resident_usage = (2, 2, 2) := by
    with_unfolding_all decide
  have hbudget : ((new small_budget []).run [plain_load thermal_manifest,
      .start "thermal" raising_start fun _ => .ok (), plain_load camera_manifest]).budget.amounts = (1, 1, 1) := by
    with_unfolding_all decide
  refine ⟨husage, ?_⟩
  intro halways
  have hwithin := halways.last
  unfold WithinBudget at hwithin
  rw [husage, hbudget] at hwithin
  exact absurd hwithin.1 (by decide)

section failed

variable {package_id : String} {record : ModulePackageRecord}

theorem Change.failed_stays (hchange : Change before after) (hget : before.records.get? package_id = some record)
    (hfailed : record.state = .FAILED) : after.records.get? package_id = some record := by
  have hother : ∀ {other found} (next : ModulePackageRecord), before.records.get? other = some found →
      found.admitted = true → (before.records.set other next).get? package_id = some record := by
    intro other found next hfound hadmitted
    rw [Dict.get?_set, if_neg, hget]
    rintro rfl
    cases hget.symm.trans hfound
    rw [admitted, hfailed] at hadmitted
    cases hadmitted
  cases hchange with
  | reports | remembers => exact hget
  | moves _ _ next hfound hadmitted => exact hother next hfound hadmitted
  | releases _ _ next hfound hadmitted => exact hother next hfound hadmitted

/-- A package that fails is never touched again: whatever operations follow, its record stays with the instance that it
holds, and no load under its id is admitted. -/
theorem failed_package_stays (hget : manager.records.get? package_id = some record) (hfailed : record.state = .FAILED)
    (operations : List Operation) : (manager.run operations).records.get? package_id = some record ∧
      ∀ call manifest, admitted_by (manager.run operations) call = some manifest → manifest.package_id ≠ package_id := by
  have hnever : ∀ {manager call manifest}, manager.records.get? package_id = some record →
      admitted_by manager call = some manifest → manifest.package_id ≠ package_id := by
    rintro manager call manifest hget hadmitted rfl
    have hunloaded := (of_admitted_by hadmitted).2.1
    rw [hget] at hunloaded
    simp [hfailed] at hunloaded
  suffices hstays : (manager.run operations).records.get? package_id = some record from
    ⟨hstays, fun _ _ => hnever hstays⟩
  induction operations generalizing manager with
  | nil => exact hget
  | cons operation rest ih =>
    refine @ih ((perform operation).after manager) ?_
    have hperformed := performed manager operation
    generalize (perform operation).after manager = after at hperformed ⊢
    cases hperformed with
    | loaded call _ hloaded =>
      obtain ⟨-, ⟨-, hsame⟩ | ⟨manifest, added, hadmitted, -, -, -, hrecords⟩⟩ := hloaded
      · rw [hsame, hget]
      · rw [hrecords, Dict.get?_set, if_neg (hnever hget hadmitted).symm, hget]
    | changed _ _ _ hchanged =>
      induction hchanged with
      | refl => exact hget
      | tail _ hchange hkept => exact hchange.failed_stays hkept hfailed

end failed

theorem failed_thermal_stays :
    let failed := (new small_budget []).run [plain_load thermal_manifest, .start "thermal" raising_start fun _ => .ok ()]
    ∃ record, record.state = .FAILED ∧ ∀ operations, (failed.run operations).records.get? "thermal" = some record := by
  intro failed
  have hfailed : (failed.records.get? "thermal").map ModulePackageRecord.state = some .FAILED := by
    with_unfolding_all decide
  obtain ⟨record, hget, hstate⟩ := Option.map_eq_some_iff.mp hfailed
  exact ⟨record, hstate, fun operations => (failed_package_stays hget hstate operations).1⟩

end velvet.module_package
