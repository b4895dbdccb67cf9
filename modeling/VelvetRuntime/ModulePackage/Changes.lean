import Mathlib.Logic.Relation
import VelvetRuntime.ModulePackage.Manager

open python

namespace velvet.module_package

open Program Relation

/-- The manifest that a call of `load` adds to the records, read off the state before the call: it is
verified and admitted, and its import does not fail. -/
def admitted_by (manager : ModulePackageManager) (call : LoadCall) : Option ModulePackageManifest :=
  match call.package, call.sink .MODULE_PACKAGE_VERIFIED, call.root, call.imported with
  | .ok manifest, .ok _, .ok _, .ok _ =>
    if (manager.records.get? manifest.package_id).all (fun previous => previous.state = .UNLOADED) ∧
        (manager.check_admission manifest).isOk then
      some manifest
    else none
  | _, _, _, _ => none

variable {manifest : ModulePackageManifest} {call : LoadCall} {manager : ModulePackageManager}

/-- What `admitted_by` says about the manifest it returns. -/
theorem of_admitted_by (hadmitted : admitted_by manager call = some manifest) :
    call.package = .ok manifest ∧
      (manager.records.get? manifest.package_id).all (fun previous => previous.state = .UNLOADED) = true ∧
      (manager.check_admission manifest).isOk = true := by
  unfold admitted_by at hadmitted
  split at hadmitted
  · rename_i hpackage _ _ _
    split at hadmitted
    · rename_i hboth
      cases hadmitted
      exact ⟨hpackage, hboth⟩
    · cases hadmitted
  · cases hadmitted

theorem admitted_by_of_denied (hpackage : call.package = .ok manifest)
    (hdenied : ¬((manager.records.get? manifest.package_id).all (fun previous => previous.state = .UNLOADED) = true ∧
      (manager.check_admission manifest).isOk = true)) : admitted_by manager call = none := by
  cases hfound : admitted_by manager call with
  | none => rfl
  | some found =>
    obtain ⟨hsame, hboth⟩ := of_admitted_by hfound
    cases hpackage.symm.trans hsame
    exact absurd hboth hdenied

/-- One change that an operation other than `load` makes: it reports, it keeps a snapshot, it moves an admitted
package to another admitted state or to `FAILED`, or it releases one. -/
inductive Change : ModulePackageManager → ModulePackageManager → Prop where
  | reports (world : ModulePackageManager) (receipts : List Receipt) : Change world { world with receipts }
  | remembers (world : ModulePackageManager) (snapshots : Dict String StateSnapshot) :
    Change world { world with snapshots }
  | moves (world : ModulePackageManager) (package_id : String) (record next : ModulePackageRecord)
    (hget : world.records.get? package_id = some record) (hadmitted : record.admitted = true)
    (hmanifest : next.manifest = record.manifest) (hresident : next.resident = record.resident)
    (hnext : next.admitted = true ∨ next.state = .FAILED) :
    Change world { world with records := world.records.set package_id next }
  | releases (world : ModulePackageManager) (package_id : String) (record next : ModulePackageRecord)
    (hget : world.records.get? package_id = some record) (hadmitted : record.admitted = true)
    (hmanifest : next.manifest = record.manifest) (hresident : next.resident = false)
    (hnext : next.state = .UNLOADED) :
    Change world { world with records := world.records.set package_id next }

/-- What an operation other than `load` makes of the manager, one change after the other. -/
def Changed : ModulePackageManager → ModulePackageManager → Prop := ReflTransGen Change

/-- How `load` leaves the manager: with the records as they were, or with the package that was admitted. -/
def Loaded (before : ModulePackageManager) (call : LoadCall) (after : ModulePackageManager) : Prop :=
  after.budget = before.budget ∧
    (admitted_by before call = none ∧ after.records = before.records ∨
      ∃ manifest record, admitted_by before call = some manifest ∧
        record.manifest = manifest ∧ record.state = .LOADED ∧ record.resident = true ∧
        after.records = before.records.set manifest.package_id record)

variable {before world : ModulePackageManager} {sink : Sink} {hooks : Hooks} {package_id : String}
  {record : ModulePackageRecord}

theorem Changed.refl (manager : ModulePackageManager) : Changed manager manager := ReflTransGen.refl

theorem Changed.trans {first second third : ModulePackageManager} (hfirst : Changed first second)
    (hsecond : Changed second third) : Changed first third := ReflTransGen.trans hfirst hsecond

theorem Changed.then {after : ModulePackageManager} (hchanged : Changed before world) (hchange : Change world after) :
    Changed before after := ReflTransGen.tail hchanged hchange

variable {returns : Unit → ModulePackageManager → Prop} {raises : Error → ModulePackageManager → Prop}
  {state_before state_after : PackageState} {reason : String} {receipt_type : ReceiptType}

variable {details : Option (String × Nat)}

/-- A receipt changes nothing but the receipts. -/
theorem wp_emit_receipt
    (hreturns : ∀ receipts, sink receipt_type = .ok () → returns () { world with receipts })
    (hraises : ∀ error receipts,
      sink receipt_type ≠ .ok () ∨ (validated_text reason "receipt reason" 512).isOk = false →
      raises error { world with receipts }) :
    wp (emit_receipt sink manifest receipt_type state_before state_after reason details) returns raises world := by
  unfold emit_receipt
  rw [wp_bind, wp_of_except]
  split
  · rw [wp_bind, wp_modify, wp_of_except]
    split
    · rename_i hsink
      exact hreturns _ hsink
    · rename_i error hsink
      exact hraises _ _ (.inl (by simp [hsink]))
  · rename_i error hreason
    exact hraises _ world.receipts (.inr (by rw [hreason]; rfl))

theorem wp_emit_changed (hchanged : Changed before world) :
    wp (emit_receipt sink manifest receipt_type state_before state_after reason details) (fun _ => Changed before)
      (fun _ => Changed before) world :=
  wp_emit_receipt (fun _ _ => hchanged.then (.reports _ _)) (fun _ _ _ => hchanged.then (.reports _ _))

variable {states : List PackageState}

/-- The record of a package in one of the expected states, or an exception. -/
theorem wp_require_record {returns : ModulePackageRecord → ModulePackageManager → Prop}
    (hreturns : ∀ record, world.records.get? package_id = some record → record.state ∈ states → returns record world)
    (hraises : ∀ error, raises error world) : wp (require_record package_id states) returns raises world := by
  unfold require_record
  rw [wp_bind, wp_of_except]
  unfold validated_id
  by_cases hvalid : is_identifier package_id = true
  · rw [if_pos hvalid]
    dsimp only
    rw [wp_bind, wp_get]
    cases hget : world.records.get? package_id with
    | none => exact hraises _
    | some record =>
      dsimp only
      by_cases hstate : record.state ∈ states
      · rw [if_pos hstate]
        exact hreturns record hget hstate
      · rw [if_neg hstate]
        exact hraises _
  · rw [if_neg hvalid]
    exact hraises _

theorem admitted_of_state (hstate : record.state ∈ states)
    (hstates : states ⊆ admitted_states) : record.admitted = true :=
  decide_eq_true (hstates hstate)

theorem wp_fail (hchanged : Changed before world) (hget : world.records.get? package_id = some record)
    (hadmitted : record.admitted = true) {label : String} {error raised : Error} :
    wp (fail sink package_id record label error raised) returns (fun _ => Changed before) world := by
  unfold fail
  split
  · exact hchanged
  · rw [wp_bind]
    unfold set_record
    rw [wp_modify, wp_bind]
    refine wp_mono (wp_emit_changed ?_) (fun _ _ hafter => hafter) (fun _ _ hafter => hafter)
    exact hchanged.then (.moves world package_id record _ hget hadmitted rfl rfl (.inr rfl))

/-- An operation whose package code returns or raises: the record moves to the next state, or fails. -/
theorem wp_transition {body : Program Error ModulePackageManager Unit} {label : String} {raised : Error → Error}
    (hget : before.records.get? package_id = some record) (hadmitted : record.admitted = true)
    (hbody : wp body (fun _ => Changed before)
      (fun _ world => Changed before world ∧ world.records = before.records) before) :
    wp (do
        tryCatch body (fun error => fail sink package_id record label error (raised error))
        emit_receipt sink record.manifest receipt_type state_before state_after reason none)
      (fun _ => Changed before) (fun _ => Changed before) before := by
  rw [wp_bind, wp_tryCatch]
  refine wp_mono hbody ?_ ?_
  · intro _ world hchanged
    exact wp_emit_changed hchanged
  · rintro error world ⟨hchanged, hrecords⟩
    exact wp_fail hchanged (by rw [hrecords, hget]) hadmitted

/-- Package code that returns is followed by a change of the record. -/
theorem wp_hook_then_set (hchanged : Changed before world) (hrecords : world.records = before.records)
    (hget : before.records.get? package_id = some record) (hadmitted : record.admitted = true)
    {outcome : Except Error Unit} {state : PackageState} (hstate : state ∈ admitted_states) :
    wp (do
        of_except outcome
        set_record package_id { record with state })
      (fun _ => Changed before) (fun _ world => Changed before world ∧ world.records = before.records) world := by
  rw [wp_bind, wp_of_except]
  split
  · exact hchanged.then (.moves world package_id record _ (by rw [hrecords, hget]) hadmitted rfl rfl
      (.inl (decide_eq_true hstate)))
  · exact ⟨hchanged, hrecords⟩

theorem wp_start : wp (start sink hooks package_id) (fun _ => Changed before) (fun _ => Changed before) before := by
  unfold start
  rw [wp_bind]
  refine wp_require_record ?_ (fun _ => .refl before)
  intro record hget hstate
  have hadmitted := admitted_of_state hstate (by decide)
  have hactive : PackageState.ACTIVE ∈ admitted_states := by decide
  apply wp_transition hget hadmitted
  rw [wp_bind]
  unfold restore_snapshot
  split
  · rw [wp_bind, wp_of_except]
    split
    · refine wp_emit_receipt ?_ ?_
      · intro receipts _
        exact wp_hook_then_set ((Changed.refl before).then (.reports before receipts)) rfl hget hadmitted hactive
      · intro error receipts _
        exact ⟨(Changed.refl before).then (.reports before receipts), rfl⟩
    · exact ⟨.refl before, rfl⟩
  · exact wp_hook_then_set (.refl before) rfl hget hadmitted hactive

theorem wp_quiesce :
    wp (quiesce sink hooks package_id reason) (fun _ => Changed before) (fun _ => Changed before) before := by
  unfold quiesce
  rw [wp_bind]
  refine wp_require_record ?_ (fun _ => .refl before)
  intro record hget hstate
  have hadmitted := admitted_of_state hstate (by decide)
  rw [wp_bind, wp_of_except]
  split
  · exact wp_transition hget hadmitted (wp_hook_then_set (.refl before) rfl hget hadmitted (by decide))
  · exact .refl before

theorem wp_snapshot :
    wp (snapshot sink hooks package_id) (fun _ => Changed before) (fun _ => Changed before) before := by
  unfold snapshot
  rw [wp_bind]
  refine wp_require_record ?_ (fun _ => .refl before)
  intro record hget hstate
  have hadmitted := admitted_of_state hstate (by decide)
  have hends : ∀ state, wp (do
      set_record package_id { record with last_snapshot := some state }
      modify (fun self : ModulePackageManager =>
        { self with snapshots := self.snapshots.set record.manifest.package_id state })
      emit_receipt sink record.manifest .MODULE_PACKAGE_STATE_SNAPSHOTTED .QUIESCED .QUIESCED
        "bounded JSON state captured" (some (record.manifest.state_policy.schema, state.encoded_bytes))
      pure state) (fun _ => Changed before) (fun _ => Changed before) before := by
    intro state
    rw [wp_bind]
    unfold set_record
    rw [wp_modify, wp_bind, wp_modify, wp_bind]
    refine wp_mono (wp_emit_changed ?_) (fun _ _ hafter => hafter) (fun _ _ hafter => hafter)
    have hmoved := (Changed.refl before).then
      (.moves before package_id record { record with last_snapshot := some state } hget hadmitted rfl rfl
        (.inl hadmitted))
    exact hmoved.then (.remembers _ _)
  rw [wp_bind, wp_tryCatch, wp_bind, wp_of_except]
  split
  · rw [wp_of_except]
    split
    · exact hends _
    · rw [wp_bind]
      exact wp_fail (.refl before) hget hadmitted
  · rw [wp_bind]
    exact wp_fail (.refl before) hget hadmitted

theorem wp_stop : wp (stop sink hooks package_id) (fun _ => Changed before) (fun _ => Changed before) before := by
  unfold stop
  rw [wp_bind]
  refine wp_require_record ?_ (fun _ => .refl before)
  intro record hget hstate
  have hadmitted := admitted_of_state hstate (by decide)
  exact wp_transition hget hadmitted (wp_hook_then_set (.refl before) rfl hget hadmitted (by decide))

theorem wp_unload : wp (unload sink package_id) (fun _ => Changed before) (fun _ => Changed before) before := by
  unfold unload
  rw [wp_bind]
  refine wp_require_record ?_ (fun _ => .refl before)
  intro record hget hstate
  have hadmitted := admitted_of_state hstate (by decide)
  rw [wp_bind]
  unfold set_record
  rw [wp_modify]
  refine wp_emit_changed ?_
  exact (Changed.refl before).then (.releases before package_id record _ hget hadmitted rfl rfl rfl)

/-- Operations change the manager one after the other. -/
theorem wp_changed_bind {α β : Type} {first : Program Error ModulePackageManager α}
    {next : α → Program Error ModulePackageManager β}
    (hfirst : wp first (fun _ => Changed before) (fun _ => Changed before) before)
    (hnext : ∀ value world, wp (next value) (fun _ => Changed world) (fun _ => Changed world) world) :
    wp (first >>= next) (fun _ => Changed before) (fun _ => Changed before) before := by
  rw [wp_bind]
  refine wp_mono hfirst ?_ (fun _ _ hafter => hafter)
  intro value world hchanged
  exact wp_mono (hnext value world) (fun _ _ hafter => hchanged.trans hafter)
    (fun _ _ hafter => hchanged.trans hafter)

theorem wp_deactivate :
    wp (deactivate sink hooks package_id reason) (fun _ => Changed before) (fun _ => Changed before) before := by
  unfold deactivate
  refine wp_changed_bind wp_quiesce (fun _ _ => ?_)
  refine wp_changed_bind wp_snapshot (fun _ _ => ?_)
  refine wp_changed_bind wp_stop (fun _ _ => ?_)
  refine wp_changed_bind wp_unload (fun _ world => ?_)
  exact Changed.refl world

theorem wp_import_package (hreturns : call.imported = .ok () → returns () world)
    (hraises : ∀ error receipts, call.imported ≠ .ok () → raises error { world with receipts }) :
    wp (import_package call manifest) returns raises world := by
  unfold import_package
  rw [wp_tryCatch, wp_of_except]
  cases himported : call.imported with
  | ok _ => exact hreturns himported
  | error error =>
    have hfailed : call.imported ≠ .ok () := by simp [himported]
    dsimp only
    by_cases hexception : error.is_exception = true
    · simp only [hexception, Bool.not_true, Bool.false_eq_true, if_false]
      rw [wp_bind]
      refine wp_emit_receipt ?_ ?_
      · intro receipts _
        split
        · exact hraises _ receipts hfailed
        · exact hraises _ receipts hfailed
      · intro error receipts _
        exact hraises error receipts hfailed
    · simp only [hexception, Bool.not_false, if_true]
      exact hraises error world.receipts hfailed

/-- What `load` does with a manifest that was verified, when no package is held under its id. -/
theorem wp_admit_package {receipts : List Receipt} (hpackage : call.package = .ok manifest)
    (hverified : call.sink .MODULE_PACKAGE_VERIFIED = .ok ())
    (hprevious : (before.records.get? manifest.package_id).all (fun previous => previous.state = .UNLOADED) = true) :
    wp (admit_package call manifest) (fun _ => Loaded before call) (fun _ => Loaded before call)
      { before with receipts } := by
  have hsame : ∀ receipts, admitted_by before call = none → Loaded before call { before with receipts } :=
    fun _ hnone => ⟨rfl, Or.inl ⟨hnone, rfl⟩⟩
  unfold admit_package
  rw [wp_bind, wp_get, wp_bind, wp_of_except]
  cases hcheck : ModulePackageManager.check_admission { before with receipts } manifest with
  | error error =>
    have hdenied : (before.check_admission manifest).isOk = false := by
      change before.check_admission manifest = _ at hcheck
      rw [hcheck]
      rfl
    exact hsame receipts (admitted_by_of_denied hpackage (by simp [hdenied]))
  | ok _ =>
    have hchecked : (before.check_admission manifest).isOk = true := by
      change before.check_admission manifest = _ at hcheck
      rw [hcheck]
      rfl
    dsimp only
    rw [wp_bind, wp_of_except]
    cases hroot : call.root with
    | error error => exact hsame receipts (by simp [admitted_by, hroot])
    | ok _ =>
      dsimp only
      rw [wp_bind]
      refine wp_import_package ?_ ?_
      · intro himported
        have hadmitted : admitted_by before call = some manifest := by
          simp [admitted_by, hpackage, hverified, hroot, himported, hprevious, hchecked]
        rw [wp_bind]
        unfold set_record
        rw [wp_modify]
        refine wp_emit_receipt ?_ ?_
        · intro receipts _
          exact ⟨rfl, Or.inr ⟨manifest, _, hadmitted, rfl, rfl, rfl, rfl⟩⟩
        · intro _ receipts _
          exact ⟨rfl, Or.inr ⟨manifest, _, hadmitted, rfl, rfl, rfl, rfl⟩⟩
      · intro _ receipts hfailed
        cases himported : call.imported with
        | ok _ => exact absurd himported hfailed
        | error error => exact hsame receipts (by simp [admitted_by, himported])

theorem wp_load :
    wp (load call) (fun _ => Loaded before call) (fun _ => Loaded before call) before := by
  have hsame : ∀ receipts, admitted_by before call = none → Loaded before call { before with receipts } :=
    fun _ hnone => ⟨rfl, Or.inl ⟨hnone, rfl⟩⟩
  unfold load verify
  rw [wp_bind, wp_bind, wp_of_except]
  cases hpackage : call.package with
  | error error => exact hsame before.receipts (by simp [admitted_by, hpackage])
  | ok manifest =>
    dsimp only
    rw [wp_bind]
    refine wp_emit_receipt ?_ ?_
    · intro receipts hverified
      rw [wp_pure, wp_bind, wp_get]
      dsimp only
      cases hget : before.records.get? manifest.package_id with
      | none => exact wp_admit_package hpackage hverified (by simp [hget])
      | some previous =>
        dsimp only
        by_cases hunloaded : previous.state = .UNLOADED
        · rw [if_neg (not_not_intro hunloaded)]
          exact wp_admit_package hpackage hverified (by simp [hget, hunloaded])
        · rw [if_pos hunloaded]
          exact hsame receipts (admitted_by_of_denied hpackage (by simp [hget, hunloaded]))
    · intro _ receipts hfailed
      have hvalid : (validated_text "manifest, integrity, and entrypoint policy verified" "receipt reason"
          512).isOk = true := by with_unfolding_all decide
      obtain hsink | hinvalid := hfailed
      · cases hverified : call.sink .MODULE_PACKAGE_VERIFIED with
        | ok _ => exact absurd hverified hsink
        | error error => exact hsame receipts (by simp [admitted_by, hverified])
      · rw [hinvalid] at hvalid
        cases hvalid

/-- Everything one call of the manager can do. -/
inductive Performed (before : ModulePackageManager) : Operation → ModulePackageManager → Prop where
  | loaded (call : LoadCall) (after : ModulePackageManager) (hloaded : Loaded before call after) :
    Performed before (.load call) after
  | changed (operation : Operation) (after : ModulePackageManager) (hother : ∀ call, operation ≠ .load call)
    (hchanged : Changed before after) : Performed before operation after

theorem performed (manager : ModulePackageManager) (operation : Operation) :
    Performed manager operation ((perform operation).after manager) := by
  have hchanged : ∀ {α : Type} {program : Program Error ModulePackageManager α},
      wp program (fun _ => Changed manager) (fun _ => Changed manager) manager →
      Changed manager (program.after manager) :=
    fun hwp => (wp_result_after (fun _ => Changed manager)).mp hwp
  cases operation with
  | load call => exact .loaded call _ ((wp_result_after (fun _ => Loaded manager call)).mp wp_load)
  | start package_id hooks sink => exact .changed _ _ (by simp) (hchanged wp_start)
  | quiesce package_id reason hooks sink => exact .changed _ _ (by simp) (hchanged wp_quiesce)
  | snapshot package_id hooks sink =>
    exact .changed _ _ (by simp) (hchanged (wp_changed_bind wp_snapshot (fun _ world => Changed.refl world)))
  | stop package_id hooks sink => exact .changed _ _ (by simp) (hchanged wp_stop)
  | unload package_id sink => exact .changed _ _ (by simp) (hchanged wp_unload)
  | deactivate package_id reason hooks sink =>
    exact .changed _ _ (by simp) (hchanged (wp_changed_bind wp_deactivate (fun _ world => Changed.refl world)))

end velvet.module_package
