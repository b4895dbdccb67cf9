import VelvetRuntime.ModulePackage.Conflicts

open python

namespace velvet.module_package

open Program

/-- A snapshot of the state that a manifest describes, within its bound. -/
def Compatible (manifest : ModulePackageManifest) (snapshot : StateSnapshot) : Prop :=
  snapshot.schema = some manifest.state_policy.schema ∧
    snapshot.encoded_bytes ≤ manifest.state_policy.max_snapshot_bytes

/-- The snapshot that an operation hands to `restore_state`, with the manifest that is loaded then. -/
def restored_by (manager : ModulePackageManager) : Operation → Option (ModulePackageManifest × StateSnapshot)
  | .start package_id _ _ =>
    if is_identifier package_id then
      match manager.records.get? package_id with
      | none => none
      | some record =>
        if record.state = .LOADED then record.last_snapshot.map fun snapshot => (record.manifest, snapshot) else none
    else none
  | _ => none

/-- Whatever operation comes next, `restore_state` gets a snapshot that is compatible with the loaded manifest. -/
def RestoresCompatible (manager : ModulePackageManager) : Prop :=
  ∀ operation manifest snapshot, restored_by manager operation = some (manifest, snapshot) → Compatible manifest snapshot

/-- The snapshot that is kept under the id of a package that is loaded is compatible with the new manifest. -/
def LoadsCompatible (manager : ModulePackageManager) : Operation → Prop
  | .load call => ∀ manifest, admitted_by manager call = some manifest →
      ∀ snapshot, manager.snapshots.get? manifest.package_id = some snapshot → Compatible manifest snapshot
  | _ => True

def RestoresCompatibleAlways (manager : ModulePackageManager) : List Operation → Prop
  | [] => RestoresCompatible manager
  | operation :: rest => RestoresCompatible manager ∧ RestoresCompatibleAlways ((perform operation).after manager) rest

def LoadsCompatibleAlways (manager : ModulePackageManager) : List Operation → Prop
  | [] => True
  | operation :: rest =>
    LoadsCompatible manager operation ∧ LoadsCompatibleAlways ((perform operation).after manager) rest

/-- The records in the state `LOADED` were there before. -/
def LoadedKept (before after : ModulePackageManager) : Prop :=
  ∀ package_id record, after.records.get? package_id = some record → record.state = .LOADED →
    before.records.get? package_id = some record

theorem LoadedKept.refl (manager : ModulePackageManager) : LoadedKept manager manager := fun _ _ hget _ => hget

theorem LoadedKept.trans (first second third : ModulePackageManager) (hfirst : LoadedKept first second)
    (hsecond : LoadedKept second third) : LoadedKept first third :=
  fun package_id record hget hstate => hfirst package_id record (hsecond package_id record hget hstate) hstate

variable {record : ModulePackageRecord} {package_id : String}

theorem set_record_keeps (hstate : record.state ≠ .LOADED) :
    Respects LoadedKept (set_record package_id record) := by
  refine respects_modify fun manager other found hget hloaded => ?_
  change (manager.records.set package_id record).get? other = some found at hget
  by_cases hsame : other = package_id
  · rw [hsame, Dict.get?_set_self] at hget
    cases hget
    exact absurd hloaded hstate
  · rwa [Dict.get?_set_of_ne _ _ hsame] at hget

variable {manifest : ModulePackageManifest} {sink : Sink} {reason : String}

open LoadedKept

theorem emit_receipt_keeps {receipt_type : ReceiptType} {state_before state_after : PackageState}
    {details : Option (String × Nat)} :
    Respects LoadedKept (emit_receipt sink manifest receipt_type state_before state_after reason details) :=
  .bind trans (respects_of_except refl _) fun _ =>
    .bind trans (respects_modify fun _ _ _ hget _ => hget) fun _ => respects_of_except refl _

theorem require_record_keeps {α : Type} {states : List PackageState}
    {next : ModulePackageRecord → Program Error ModulePackageManager α}
    (hnext : ∀ record, record.state ∈ states → Respects LoadedKept (next record)) :
    Respects LoadedKept (require_record package_id states >>= next) := by
  rw [respects_iff_wp]
  intro manager
  rw [wp_bind]
  refine wp_require_record ?_ (fun _ => .refl manager)
  intro record _ hstate
  exact respects_iff_wp.mp (hnext record hstate) manager

theorem fail_keeps {package_id label : String} {error raised : Error} :
    Respects LoadedKept (fail sink package_id record label error raised) := by
  unfold fail
  split
  · exact respects_throw refl _
  · exact .bind trans (set_record_keeps (by simp)) fun _ =>
      .bind trans emit_receipt_keeps fun _ => respects_throw refl _

/-- A hook, which moves the record when it returns and fails it when it raises. -/
theorem hook_keeps {package_id label : String} {outcome : Except Error Unit} {state : PackageState}
    {raised : Error → Error} (hstate : state ≠ .LOADED) : Respects LoadedKept (tryCatch (do
        of_except outcome
        set_record package_id { record with state })
      (fun error => fail sink package_id record label error (raised error))) :=
  .tryCatch trans
    (.bind trans (respects_of_except refl _) fun _ => set_record_keeps hstate)
    fun _ => fail_keeps

section

variable {sink : Sink} {hooks : Hooks} {package_id : String}

theorem start_keeps : Respects LoadedKept (start sink hooks package_id) := by
  unfold start
  refine require_record_keeps fun record _ => .bind trans (.tryCatch trans ?_ fun _ => fail_keeps)
    fun _ => emit_receipt_keeps
  refine .bind trans ?_ fun _ =>
    .bind trans (respects_of_except refl _) fun _ => set_record_keeps (by simp)
  unfold restore_snapshot
  split
  · exact .bind trans (respects_of_except refl _) fun _ => emit_receipt_keeps
  · exact respects_pure refl _

theorem quiesce_keeps : Respects LoadedKept (quiesce sink hooks package_id reason) := by
  unfold quiesce
  refine require_record_keeps fun record _ => .bind trans (respects_of_except refl _) fun _ => ?_
  exact .bind trans (hook_keeps (by simp)) fun _ => emit_receipt_keeps

theorem snapshot_keeps : Respects LoadedKept (snapshot sink hooks package_id) := by
  unfold snapshot
  refine require_record_keeps fun record hstate => .bind trans (.tryCatch trans ?_ fun _ => ?_)
    fun state => ?_
  · exact .bind trans (respects_of_except refl _) fun _ => respects_of_except refl _
  · exact .bind trans fail_keeps fun _ => respects_throw refl _
  · have hquiesced : record.state = .QUIESCED := List.mem_singleton.mp hstate
    refine .bind trans (set_record_keeps (by simp [hquiesced])) fun _ =>
      .bind trans (respects_modify fun _ _ _ hget _ => hget) fun _ => ?_
    exact .bind trans emit_receipt_keeps fun _ => respects_pure refl _

theorem stop_keeps : Respects LoadedKept (stop sink hooks package_id) := by
  unfold stop
  exact require_record_keeps fun record _ => .bind trans (hook_keeps (by simp)) fun _ => emit_receipt_keeps

theorem unload_keeps : Respects LoadedKept (unload sink package_id) := by
  unfold unload
  exact require_record_keeps fun record _ =>
    .bind trans (set_record_keeps (by simp)) fun _ => emit_receipt_keeps

theorem deactivate_keeps : Respects LoadedKept (deactivate sink hooks package_id reason) := by
  unfold deactivate
  exact .bind trans quiesce_keeps fun _ => .bind trans snapshot_keeps fun _ =>
    .bind trans stop_keeps fun _ => .bind trans unload_keeps fun _ =>
      respects_pure refl _

end

variable {operation : Operation}

/-- No operation but `load` brings a record to the state `LOADED`. -/
theorem perform_keeps (hother : ∀ call, operation ≠ .load call) :
    Respects LoadedKept (perform operation) := by
  cases operation with
  | load call => exact absurd rfl (hother call)
  | start package_id hooks sink => exact start_keeps
  | quiesce package_id reason hooks sink => exact quiesce_keeps
  | snapshot package_id hooks sink =>
    exact .bind trans snapshot_keeps fun _ => respects_pure refl _
  | stop package_id hooks sink => exact stop_keeps
  | unload package_id sink => exact unload_keeps
  | deactivate package_id reason hooks sink =>
    exact .bind trans deactivate_keeps fun _ => respects_pure refl _

/-- A record that `load` brings to the state `LOADED` holds the snapshot that was kept under its id. -/
def LoadedFrom (before after : ModulePackageManager) : Prop :=
  ∀ package_id record, after.records.get? package_id = some record → record.state = .LOADED →
    before.records.get? package_id = some record ∨ record.last_snapshot = before.snapshots.get? package_id

theorem admit_package_from {before : ModulePackageManager} {call : LoadCall} {receipts : List Receipt} :
    wp (admit_package call manifest) (fun _ => LoadedFrom before) (fun _ => LoadedFrom before)
      { before with receipts } := by
  have hsame : ∀ receipts, LoadedFrom before { before with receipts } := fun _ _ _ hget _ => .inl hget
  unfold admit_package
  rw [wp_bind, wp_get, wp_bind, wp_of_except]
  split
  · rw [wp_bind, wp_of_except]
    split
    · rw [wp_bind]
      refine wp_import_package (fun _ => ?_) fun _ receipts _ => hsame receipts
      rw [wp_bind]
      unfold set_record
      rw [wp_modify]
      have hset : ∀ receipts, LoadedFrom before { before with
          records := before.records.set manifest.package_id {
            manifest
            state := .LOADED
            resident := true
            last_snapshot := before.snapshots.get? manifest.package_id
            last_error := none }
          receipts } := by
        intro receipts package_id record hget _
        by_cases hid : package_id = manifest.package_id
        · rw [hid, Dict.get?_set_self] at hget
          cases hget
          exact .inr (by rw [hid])
        · rw [Dict.get?_set_of_ne _ _ hid] at hget
          exact .inl hget
      exact wp_emit_receipt (fun receipts _ => hset receipts) fun _ receipts _ => hset receipts
    · exact hsame receipts
  · exact hsame receipts

theorem load_from (before : ModulePackageManager) (call : LoadCall) :
    LoadedFrom before ((perform (.load call)).after before) := by
  have hsame : ∀ receipts, LoadedFrom before { before with receipts } := fun _ _ _ hget _ => .inl hget
  apply (wp_result_after (fun _ => LoadedFrom before)).mp
  change wp (load call) _ _ _
  unfold load verify
  rw [wp_bind, wp_bind, wp_of_except]
  split
  · rw [wp_bind]
    refine wp_emit_receipt (fun receipts _ => ?_) fun _ receipts _ => hsame receipts
    rw [wp_pure, wp_bind, wp_get]
    split
    · exact admit_package_from
    · split
      · exact hsame receipts
      · exact admit_package_from
  · exact hsame before.receipts

variable {manager : ModulePackageManager}

theorem restored_by_eq_some_iff {snapshot : StateSnapshot} :
    restored_by manager operation = some (manifest, snapshot) ↔
      ∃ package_id hooks sink record, operation = .start package_id hooks sink ∧ is_identifier package_id = true ∧
        manager.records.get? package_id = some record ∧ record.state = .LOADED ∧ record.manifest = manifest ∧
        record.last_snapshot = some snapshot := by
  constructor
  · intro hrestored
    unfold restored_by at hrestored
    split at hrestored
    · rename_i package_id hooks sink
      split at hrestored
      · rename_i hid
        split at hrestored
        · cases hrestored
        · rename_i record hget
          split at hrestored
          · rename_i hstate
            obtain ⟨found, hlast, hpair⟩ := Option.map_eq_some_iff.mp hrestored
            cases hpair
            exact ⟨package_id, hooks, sink, record, rfl, hid, hget, hstate, rfl, hlast⟩
          · cases hrestored
      · cases hrestored
    · cases hrestored
  · rintro ⟨package_id, hooks, sink, record, rfl, hid, hget, hstate, rfl, hlast⟩
    unfold restored_by
    dsimp only
    rw [if_pos hid, hget]
    dsimp only
    rw [if_pos hstate, hlast]
    rfl

/-- A start calls `restore_state` when there is a snapshot to hand to it. What it raises then, if it is no `Exception`,
is what the start raises. -/
theorem start_restores {hooks : Hooks} {error : Error}
    (hrestored : (restored_by manager (.start package_id hooks sink)).isSome = true)
    (hexception : error.is_exception = false) (hraises : hooks.restore_state = .error error) :
    (perform (.start package_id hooks sink)).result manager = .error error := by
  obtain ⟨⟨manifest, snapshot⟩, hsome⟩ := Option.isSome_iff_exists.mp hrestored
  obtain ⟨_, _, _, record, hstart, hid, hget, hstate, -, hlast⟩ := restored_by_eq_some_iff.mp hsome
  cases hstart
  have hwp : wp (start sink hooks package_id) (fun _ _ => False) (fun raised _ => raised = error) manager := by
    unfold start
    rw [wp_bind]
    unfold require_record validated_id
    rw [wp_bind, wp_of_except, if_pos hid]
    dsimp only
    rw [wp_bind, wp_get, hget]
    dsimp only
    rw [if_pos (List.mem_singleton.mpr hstate), wp_pure, wp_bind, wp_tryCatch, wp_bind]
    unfold restore_snapshot
    rw [if_pos (by rw [hlast]; rfl), wp_bind, wp_of_except, hraises]
    dsimp only
    unfold fail
    rw [if_pos (by rw [hexception]; rfl)]
    rfl
  have hended := (wp_result_after (fun ending _ => ending = .error error)).mp
    (wp_mono hwp (fun _ _ hfalse => hfalse.elim) fun raised _ hraised => by rw [hraised])
  exact hended

/-- The hooks of a start that never raise. -/
def quiet_hooks : Hooks := ⟨.ok (), .ok (), .ok (), .ok (.error ""), .ok ()⟩

theorem restores_compatible_iff :
    RestoresCompatible manager ↔ ∀ package_id record snapshot, is_identifier package_id = true →
      manager.records.get? package_id = some record → record.state = .LOADED → record.last_snapshot = some snapshot →
        Compatible record.manifest snapshot := by
  constructor
  · intro hall package_id record snapshot hid hget hstate hlast
    exact hall (.start package_id quiet_hooks fun _ => .ok ()) record.manifest snapshot
      (restored_by_eq_some_iff.mpr ⟨package_id, _, _, record, rfl, hid, hget, hstate, rfl, hlast⟩)
  · intro hall operation manifest snapshot hrestored
    obtain ⟨package_id, _, _, record, _, hid, hget, hstate, rfl, hlast⟩ := restored_by_eq_some_iff.mp hrestored
    exact hall package_id record snapshot hid hget hstate hlast

/-- One operation keeps the restores compatible exactly when, as a load, it finds a compatible snapshot. -/
theorem restores_compatible_step (hcompatible : RestoresCompatible manager) (operation : Operation) :
    RestoresCompatible ((perform operation).after manager) ↔ LoadsCompatible manager operation := by
  rw [restores_compatible_iff] at hcompatible ⊢
  by_cases hload : ∃ call, operation = .load call
  · obtain ⟨call, rfl⟩ := hload
    have hfrom := load_from manager call
    have hperformed := performed manager (.load call)
    generalize (perform (.load call)).after manager = after at hfrom hperformed ⊢
    obtain ⟨-, hloaded⟩ : Loaded manager call after := by
      cases hperformed with
      | loaded _ _ hloaded => exact hloaded
      | changed _ _ hother _ => exact absurd rfl (hother call)
    constructor
    · intro hafter manifest hadmitted snapshot hkept
      obtain ⟨hnone, -⟩ | ⟨found, record, hfound, hmanifest, hstate, -, hrecords⟩ := hloaded
      · rw [hnone] at hadmitted
        cases hadmitted
      · rw [hadmitted] at hfound
        cases hfound
        have hget : after.records.get? manifest.package_id = some record := by rw [hrecords, Dict.get?_set_self]
        have hlast : record.last_snapshot = some snapshot := by
          obtain hbefore | hlast := hfrom manifest.package_id record hget hstate
          · -- A package that was loaded already is not loaded again.
            have hunloaded := (of_admitted_by hadmitted).2.1
            rw [hbefore, Option.all_some, hstate] at hunloaded
            cases hunloaded
          · rw [hlast, hkept]
        rw [← hmanifest]
        exact hafter manifest.package_id record snapshot manifest.package_id_valid hget hstate hlast
    · intro hloads package_id record snapshot hid hget hstate hlast
      obtain hbefore | hkept := hfrom package_id record hget hstate
      · exact hcompatible package_id record snapshot hid hbefore hstate hlast
      · obtain ⟨-, hrecords⟩ | ⟨manifest, found, hadmitted, hmanifest, hfound_state, -, hrecords⟩ := hloaded
        · rw [hrecords] at hget
          exact hcompatible package_id record snapshot hid hget hstate hlast
        · rw [hrecords] at hget
          by_cases hsame : package_id = manifest.package_id
          · rw [hsame, Dict.get?_set_self] at hget
            cases hget
            rw [hmanifest]
            exact hloads manifest hadmitted snapshot (by rw [← hsame, ← hkept, hlast])
          · rw [Dict.get?_set_of_ne _ _ hsame] at hget
            exact hcompatible package_id record snapshot hid hget hstate hlast
  · have hother : ∀ call, operation ≠ .load call := fun call hsame => hload ⟨call, hsame⟩
    have hkeeps := perform_keeps hother manager
    have hnothing : LoadsCompatible manager operation := by
      cases operation with
      | load call => exact absurd rfl (hother call)
      | _ => trivial
    refine iff_of_true ?_ hnothing
    intro package_id record snapshot hid hget hstate hlast
    exact hcompatible package_id record snapshot hid (hkeeps package_id record hget hstate) hstate hlast

theorem RestoresCompatibleAlways.first {operations : List Operation}
    (halways : RestoresCompatibleAlways manager operations) : RestoresCompatible manager := by
  cases operations with
  | nil => exact halways
  | cons operation rest => exact halways.1

theorem restores_compatible_always_iff (hcompatible : RestoresCompatible manager) (operations : List Operation) :
    RestoresCompatibleAlways manager operations ↔ LoadsCompatibleAlways manager operations := by
  induction operations generalizing manager with
  | nil => exact iff_of_true hcompatible trivial
  | cons operation rest ih =>
    have hstep := restores_compatible_step hcompatible operation
    constructor
    · rintro ⟨-, hrest⟩
      exact ⟨hstep.mp hrest.first, (ih hrest.first).mp hrest⟩
    · rintro ⟨hloads, hrest⟩
      exact ⟨hcompatible, (ih (hstep.mpr hloads)).mpr hrest⟩

/-- Over a run of a new manager, whatever operation comes next in the states that are reached, `restore_state` only gets
snapshots that are compatible with the loaded manifest, exactly when every load finds such a snapshot under its id, or
none: a snapshot is kept by the id of its package alone. -/
theorem restored_snapshots_compatible_iff (budget : ModuleManagerBudget) (services : List String)
    (operations : List Operation) :
    RestoresCompatibleAlways (.new budget services) operations ↔
      LoadsCompatibleAlways (.new budget services) operations := by
  refine restores_compatible_always_iff (restores_compatible_iff.mpr ?_) operations
  intro package_id record snapshot _ hget
  cases hget

theorem RestoresCompatibleAlways.last {operations : List Operation}
    (halways : RestoresCompatibleAlways manager operations) : RestoresCompatible (manager.run operations) := by
  induction operations generalizing manager with
  | nil => exact halways
  | cons operation rest ih => exact ih halways.2

/-- The next version of `thermal`, whose state is of another schema. -/
def thermal_manifest_2 : ModulePackageManifest :=
  { thermal_manifest with
    package_version := "2.0.0"
    state_policy := ⟨"state.v2", 1024⟩
    snapshot_bounds := by decide }

/-- A package that hands out a state of the first schema. -/
def snapshot_hooks : Hooks := ⟨.ok (), .ok (), .ok (), .ok (.ok ⟨some "state.v1", 64, none⟩), .ok ()⟩

/-- `thermal` is loaded, started, deactivated and loaded again in its next version. -/
def upgrade : List Operation :=
  [plain_load thermal_manifest, .start "thermal" snapshot_hooks fun _ => .ok (),
    .deactivate "thermal" "upgrade" snapshot_hooks fun _ => .ok (), plain_load thermal_manifest_2]

/-- The next version is started from the snapshot of the first one. -/
theorem other_version_restored :
    (restored_by ((ModulePackageManager.new plain_budget []).run upgrade)
      (.start "thermal" snapshot_hooks fun _ => .ok ())).map
        (fun restored => (restored.1.package_version, restored.1.state_policy.schema, restored.2.schema)) =
      some ("2.0.0", "state.v2", some "state.v1") ∧
    ¬RestoresCompatibleAlways (.new plain_budget []) upgrade := by
  have hrestored : (restored_by ((ModulePackageManager.new plain_budget []).run upgrade)
      (.start "thermal" snapshot_hooks fun _ => .ok ())).map
        (fun restored => (restored.1.package_version, restored.1.state_policy.schema, restored.2.schema)) =
      some ("2.0.0", "state.v2", some "state.v1") := by with_unfolding_all decide
  refine ⟨hrestored, fun halways => ?_⟩
  obtain ⟨⟨manifest, snapshot⟩, hsome, htexts⟩ := Option.map_eq_some_iff.mp hrestored
  have hcompatible := (halways.last _ manifest snapshot hsome).1
  obtain ⟨-, hschemas⟩ := Prod.mk.inj htexts
  obtain ⟨hmanifest, hsnapshot⟩ := Prod.mk.inj hschemas
  change manifest.state_policy.schema = "state.v2" at hmanifest
  change snapshot.schema = some "state.v1" at hsnapshot
  rw [hmanifest, hsnapshot] at hcompatible
  exact absurd hcompatible (by decide)

end velvet.module_package
