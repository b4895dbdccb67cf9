import Mathlib.Data.Rat.Defs
import Mathlib.Algebra.Order.Ring.Rat
import VelvetRuntime.Python.Dict
import VelvetRuntime.Python.Program
import VelvetRuntime.Text
import VelvetRuntime.Error

open python

namespace velvet.module_package

open Program

/-- `_ID_PATTERN.fullmatch(value)`. -/
def is_identifier (value : String) : Bool :=
  match value.toList with
  | [] => false
  | first :: rest =>
    (first.isLower || first.isDigit) && rest.length ≤ 63 &&
      rest.all (fun c => c.isLower || c.isDigit || c ∈ ['_', '.', '-'])

structure ModuleResourceBudget where
  memory_mb : Nat
  cpu_percent : ℚ
  storage_mb : Nat
  deriving DecidableEq

/-- Contract v1 keeps `persistent` false. -/
structure ModuleStatePolicy where
  schema : String
  max_snapshot_bytes : Nat
  deriving DecidableEq

/-- A verified manifest, with what the manager reads of it. The proofs are checks of `_parse_manifest`. -/
structure ModulePackageManifest where
  package_id : String
  package_version : String
  module_id : String
  owning_handmaiden : String
  dependencies : List String
  conflicts : List String
  hardware_requirements : List String
  resource_budget : ModuleResourceBudget
  state_policy : ModuleStatePolicy
  digest : String
  package_id_valid : is_identifier package_id = true
  dependencies_valid : dependencies.all is_identifier = true ∧ dependencies.Nodup ∧ dependencies.length ≤ 128
  conflicts_valid : conflicts.all is_identifier = true ∧ conflicts.Nodup ∧ conflicts.length ≤ 128
  not_itself : package_id ∉ dependencies ∧ package_id ∉ conflicts
  no_overlap : ∀ dependency ∈ dependencies, dependency ∉ conflicts
  memory_bounds : 1 ≤ resource_budget.memory_mb ∧ resource_budget.memory_mb ≤ 1048576
  cpu_bounds : 1 / 10 ≤ resource_budget.cpu_percent ∧ resource_budget.cpu_percent ≤ 10000
  storage_bounds : 1 ≤ resource_budget.storage_mb ∧ resource_budget.storage_mb ≤ 1048576
  snapshot_bounds : 128 ≤ state_policy.max_snapshot_bytes ∧ state_policy.max_snapshot_bytes ≤ 1048576

inductive PackageState where
  | UNVERIFIED
  | VERIFIED
  | LOADED
  | ACTIVE
  | QUIESCED
  | STOPPED
  | UNLOADED
  | FAILED
  deriving DecidableEq, Repr

def PackageState.text : PackageState → String
  | UNVERIFIED => "UNVERIFIED"
  | VERIFIED => "VERIFIED"
  | LOADED => "LOADED"
  | ACTIVE => "ACTIVE"
  | QUIESCED => "QUIESCED"
  | STOPPED => "STOPPED"
  | UNLOADED => "UNLOADED"
  | FAILED => "FAILED"

/-- The states in which a package counts as admitted. -/
def admitted_states : List PackageState := [.LOADED, .ACTIVE, .QUIESCED, .STOPPED]

/-- A state that a package hands out, as JSON: its `schema` when that is text, the size of its canonical
encoding, and the first field in it that claims authority. -/
structure StateSnapshot where
  schema : Option String
  encoded_bytes : Nat
  authority_claim : Option String
  deriving DecidableEq

/-- A package that was loaded. `resident` says whether its instance is held. -/
structure ModulePackageRecord where
  manifest : ModulePackageManifest
  state : PackageState
  resident : Bool
  last_snapshot : Option StateSnapshot
  last_error : Option String

structure ModuleManagerBudget where
  memory_mb : Nat
  cpu_percent : ℚ
  storage_mb : Nat
  memory_bounds : 1 ≤ memory_mb ∧ memory_mb ≤ 1048576
  cpu_bounds : 1 / 10 ≤ cpu_percent ∧ cpu_percent ≤ 10000
  storage_bounds : 1 ≤ storage_mb ∧ storage_mb ≤ 1048576

inductive ReceiptType where
  | MODULE_PACKAGE_VERIFIED
  | MODULE_PACKAGE_LOADED
  | MODULE_PACKAGE_STATE_RESTORED
  | MODULE_PACKAGE_STARTED
  | MODULE_PACKAGE_QUIESCED
  | MODULE_PACKAGE_STATE_SNAPSHOTTED
  | MODULE_PACKAGE_STOPPED
  | MODULE_PACKAGE_UNLOADED
  | MODULE_PACKAGE_FAILED
  deriving DecidableEq, Repr

structure Receipt where
  receipt_type : ReceiptType
  package_id : String
  package_version : String
  module_id : String
  owning_handmaiden : String
  manifest_digest : String
  state_before : PackageState
  state_after : PackageState
  reason : String
  details : Option (String × Nat)
  deriving DecidableEq

/-- The manager, with the receipts that reached its sink. -/
structure ModulePackageManager where
  budget : ModuleManagerBudget
  services : List String
  records : Dict String ModulePackageRecord
  snapshots : Dict String StateSnapshot
  receipts : List Receipt

/-- How the receipt sink ends for each receipt of one call: no call emits two of one type. -/
abbrev Sink := ReceiptType → Except Error Unit

def lifecycle_error (message : String) : Error := ⟨.ModuleLifecycleError, message⟩

def admission_error (message : String) : Error := ⟨.ModuleAdmissionError, message⟩

/-- `isinstance(exc, ModulePackageError)`. -/
def is_module_package_error (error : Error) : Bool :=
  error.kind ∈ [.ModulePackageError, .ModuleManifestError, .ModuleIntegrityError, .ModuleAdmissionError,
    .ModuleLifecycleError]

def validated_id (value label : String) : Except Error String :=
  if is_identifier value then .ok value
  else .error ⟨.ValueError, label ++ " must be a bounded lowercase identifier"⟩

@[irreducible] def validated_text (value label : String) (maximum : Nat) : Except Error String :=
  if Blank value ∨ maximum < value.length then .error ⟨.ValueError, label ++ " must be bounded non-empty text"⟩
  else if (stripped value).toList.any (fun c => c.toNat < 32 || 126 < c.toNat) then
    .error ⟨.ValueError, label ++ " must be printable ASCII"⟩
  else .ok (stripped value)

def bounded_detail (error : Error) : String :=
  let text := stripped (String.ofList (error.message.toList.map (fun c => if c = '\n' ∨ c = '\r' then ' ' else c)))
  String.ofList ((if text = "" then error.kind.name else text).toList.take 384)

namespace ModulePackageRecord

def admitted (self : ModulePackageRecord) : Bool := self.state ∈ admitted_states

end ModulePackageRecord

namespace ModulePackageManager

def new (budget : ModuleManagerBudget) (services : List String) : ModulePackageManager where
  budget
  services
  records := .empty
  snapshots := .empty
  receipts := []

/-- What the admitted packages declare, summed up. -/
def usage (self : ModulePackageManager) : ModuleResourceBudget :=
  (self.records.values.filter ModulePackageRecord.admitted).foldl
    (fun used record =>
      { memory_mb := used.memory_mb + record.manifest.resource_budget.memory_mb
        cpu_percent := used.cpu_percent + record.manifest.resource_budget.cpu_percent
        storage_mb := used.storage_mb + record.manifest.resource_budget.storage_mb })
    ⟨0, 0, 0⟩

/-- `record is not None and record.state in states`. -/
def in_state (self : ModulePackageManager) (package_id : String) (states : List PackageState) : Bool :=
  match self.records.get? package_id with
  | none => false
  | some record => record.state ∈ states

def check_admission (self : ModulePackageManager) (manifest : ModulePackageManifest) : Except Error Unit :=
  match manifest.dependencies.find? (fun dependency => !self.in_state dependency [.ACTIVE]) with
  | some dependency => .error (admission_error ("required dependency is not active: " ++ dependency))
  | none =>
    match manifest.conflicts.find? (fun conflict => self.in_state conflict admitted_states) with
    | some conflict => .error (admission_error ("conflicting package is admitted: " ++ conflict))
    | none =>
      match manifest.hardware_requirements.find? (fun service => service ∉ self.services) with
      | some service => .error (admission_error ("required local service is unavailable: " ++ service))
      | none =>
        if self.budget.memory_mb < self.usage.memory_mb + manifest.resource_budget.memory_mb then
          .error (admission_error "module memory budget would be exceeded")
        else if self.budget.cpu_percent + 1 / 1000000000 <
            self.usage.cpu_percent + manifest.resource_budget.cpu_percent then
          .error (admission_error "module CPU budget would be exceeded")
        else if self.budget.storage_mb < self.usage.storage_mb + manifest.resource_budget.storage_mb then
          .error (admission_error "module storage budget would be exceeded")
        else .ok ()

end ModulePackageManager

def emit_receipt (sink : Sink) (manifest : ModulePackageManifest) (receipt_type : ReceiptType)
    (state_before state_after : PackageState) (reason : String) (details : Option (String × Nat)) :
    Program Error ModulePackageManager Unit := do
  let reason ← of_except (validated_text reason "receipt reason" 512)
  modify (fun self => { self with receipts := self.receipts ++ [{
    receipt_type
    package_id := manifest.package_id
    package_version := manifest.package_version
    module_id := manifest.module_id
    owning_handmaiden := manifest.owning_handmaiden
    manifest_digest := manifest.digest
    state_before
    state_after
    reason
    details }] })
  of_except (sink receipt_type)

/-- `sorted(allowed)` of the states that an operation expects, as text. -/
def expected_text (states : List PackageState) : String :=
  "[" ++ ", ".intercalate (states.map (fun state => "'" ++ state.text ++ "'")) ++ "]"

def require_record (package_id : String) (states : List PackageState) :
    Program Error ModulePackageManager ModulePackageRecord := do
  let package ← of_except (validated_id package_id "package_id")
  let self ← get
  match self.records.get? package with
  | none => throw (lifecycle_error ("package is not known: " ++ package))
  | some record =>
    if record.state ∈ states then pure record
    else throw (lifecycle_error ("package " ++ package ++ " is " ++ record.state.text ++ "; expected one of " ++
      expected_text states))

/-- A change of the record that is kept under a package id. -/
def set_record (package_id : String) (record : ModulePackageRecord) : Program Error ModulePackageManager Unit :=
  modify (fun self => { self with records := self.records.set package_id record })

/-- The end of an operation whose package code raised: the record fails and the failure is reported. What
`except Exception` does not catch passes. -/
def fail (sink : Sink) (package_id : String) (record : ModulePackageRecord) (label : String) (error : Error)
    (raised : Error) : Program Error ModulePackageManager Unit :=
  if !error.is_exception then throw error
  else do
    set_record package_id { record with
      state := .FAILED
      last_error := some (bounded_detail error) }
    emit_receipt sink record.manifest .MODULE_PACKAGE_FAILED record.state .FAILED
      (label ++ " failed: " ++ bounded_detail error) none
    throw raised

/-- One call of `load`: what verification makes of the directory, how the second look at its root ends, and
how importing the package and building its instance ends. -/
structure LoadCall where
  package : Except Error ModulePackageManifest
  root : Except Error Unit
  imported : Except Error Unit
  sink : Sink

def verify (call : LoadCall) : Program Error ModulePackageManager ModulePackageManifest := do
  let manifest ← of_except call.package
  emit_receipt call.sink manifest .MODULE_PACKAGE_VERIFIED .UNVERIFIED .VERIFIED
    "manifest, integrity, and entrypoint policy verified" none
  pure manifest

/-- The import of a package; when it fails no record is made. -/
def import_package (call : LoadCall) (manifest : ModulePackageManifest) : Program Error ModulePackageManager Unit :=
  tryCatch (of_except call.imported) (fun error =>
    if !error.is_exception then throw error
    else do
      emit_receipt call.sink manifest .MODULE_PACKAGE_FAILED .VERIFIED .FAILED
        ("load failed: " ++ bounded_detail error) none
      if is_module_package_error error then throw error
      else throw (lifecycle_error ("package load failed: " ++ error.message)))

/-- `load` once no package is held under the id: the manifest is admitted and its code imported. -/
def admit_package (call : LoadCall) (manifest : ModulePackageManifest) : Program Error ModulePackageManager Unit := do
  let self ← get
  of_except (self.check_admission manifest)
  of_except call.root
  import_package call manifest
  set_record manifest.package_id {
    manifest
    state := .LOADED
    resident := true
    last_snapshot := self.snapshots.get? manifest.package_id
    last_error := none }
  emit_receipt call.sink manifest .MODULE_PACKAGE_LOADED .VERIFIED .LOADED
    "package code imported but not started" none

def load (call : LoadCall) : Program Error ModulePackageManager Unit := do
  let manifest ← verify call
  let self ← get
  match self.records.get? manifest.package_id with
  | none => admit_package call manifest
  | some previous =>
    if previous.state ≠ .UNLOADED then
      throw (admission_error ("package is already admitted in state " ++ previous.state.text))
    else admit_package call manifest

/-- How the lifecycle hooks of a package end when they are called. -/
structure Hooks where
  restore_state : Except Error Unit
  start : Except Error Unit
  quiesce : Except Error Unit
  snapshot_state : Except Error (Except String StateSnapshot)
  stop : Except Error Unit

section

variable (sink : Sink) (hooks : Hooks) (package_id : String)

def restore_snapshot (record : ModulePackageRecord) : Program Error ModulePackageManager Unit :=
  if record.last_snapshot.isSome then do
    of_except hooks.restore_state
    emit_receipt sink record.manifest .MODULE_PACKAGE_STATE_RESTORED .LOADED .LOADED
      "bounded prior state restored before start" none
  else pure ()

def start : Program Error ModulePackageManager Unit := do
  let record ← require_record package_id [.LOADED]
  tryCatch
    (do
      restore_snapshot sink hooks record
      of_except hooks.start
      set_record package_id { record with state := .ACTIVE })
    (fun error => fail sink package_id record "start" error
      (lifecycle_error ("package start failed: " ++ error.message)))
  emit_receipt sink record.manifest .MODULE_PACKAGE_STARTED record.state .ACTIVE "explicit start completed" none

def quiesce (reason : String) : Program Error ModulePackageManager Unit := do
  let record ← require_record package_id [.ACTIVE]
  let bounded_reason ← of_except (validated_text reason "quiesce reason" 256)
  tryCatch
    (do
      of_except hooks.quiesce
      set_record package_id { record with state := .QUIESCED })
    (fun error => fail sink package_id record "quiesce" error
      (lifecycle_error ("package quiesce failed: " ++ error.message)))
  emit_receipt sink record.manifest .MODULE_PACKAGE_QUIESCED record.state .QUIESCED bounded_reason none

/-- `_validate_state_snapshot`, on what `_json_safe_mapping` makes of the state. -/
def validate_state_snapshot (state : Except String StateSnapshot) (policy : ModuleStatePolicy) :
    Except Error StateSnapshot :=
  match state with
  | .error message => .error (lifecycle_error message)
  | .ok state =>
    if state.schema ≠ some policy.schema then
      .error (lifecycle_error "module state snapshot schema does not match manifest")
    else if policy.max_snapshot_bytes < state.encoded_bytes then
      .error (lifecycle_error "module state snapshot exceeds manifest bound")
    else
      match state.authority_claim with
      | some message => .error (lifecycle_error message)
      | none => .ok state

def snapshot : Program Error ModulePackageManager StateSnapshot := do
  let record ← require_record package_id [.QUIESCED]
  let state ← tryCatch
    (do
      let state ← of_except hooks.snapshot_state
      of_except (validate_state_snapshot state record.manifest.state_policy))
    (fun error => do
      fail sink package_id record "state snapshot" error
        (if is_module_package_error error then error
        else lifecycle_error ("package snapshot failed: " ++ error.message))
      throw error)
  set_record package_id { record with last_snapshot := some state }
  modify (fun self => { self with snapshots := self.snapshots.set record.manifest.package_id state })
  emit_receipt sink record.manifest .MODULE_PACKAGE_STATE_SNAPSHOTTED .QUIESCED .QUIESCED
    "bounded JSON state captured" (some (record.manifest.state_policy.schema, state.encoded_bytes))
  pure state

def stop : Program Error ModulePackageManager Unit := do
  let record ← require_record package_id [.QUIESCED]
  tryCatch
    (do
      of_except hooks.stop
      set_record package_id { record with state := .STOPPED })
    (fun error => fail sink package_id record "stop" error
      (lifecycle_error ("package stop failed: " ++ error.message)))
  emit_receipt sink record.manifest .MODULE_PACKAGE_STOPPED .QUIESCED .STOPPED "module stopped after quiesce" none

def unload : Program Error ModulePackageManager Unit := do
  let record ← require_record package_id [.STOPPED]
  set_record package_id { record with
    state := .UNLOADED
    resident := false }
  emit_receipt sink record.manifest .MODULE_PACKAGE_UNLOADED .STOPPED .UNLOADED
    "logical unload completed and namespace released" none

def deactivate (reason : String) : Program Error ModulePackageManager StateSnapshot := do
  quiesce sink hooks package_id reason
  let state ← snapshot sink hooks package_id
  stop sink hooks package_id
  unload sink package_id
  pure state

end

/-- One call of the manager. -/
inductive Operation where
  | load (call : LoadCall)
  | start (package_id : String) (hooks : Hooks) (sink : Sink)
  | quiesce (package_id reason : String) (hooks : Hooks) (sink : Sink)
  | snapshot (package_id : String) (hooks : Hooks) (sink : Sink)
  | stop (package_id : String) (hooks : Hooks) (sink : Sink)
  | unload (package_id : String) (sink : Sink)
  | deactivate (package_id reason : String) (hooks : Hooks) (sink : Sink)

def perform : Operation → Program Error ModulePackageManager Unit
  | .load call => load call
  | .start package_id hooks sink => start sink hooks package_id
  | .quiesce package_id reason hooks sink => quiesce sink hooks package_id reason
  | .snapshot package_id hooks sink => do
    let _ ← snapshot sink hooks package_id
    pure ()
  | .stop package_id hooks sink => stop sink hooks package_id
  | .unload package_id sink => unload sink package_id
  | .deactivate package_id reason hooks sink => do
    let _ ← deactivate sink hooks package_id reason
    pure ()

/-- The manager after a run of calls; a call that raises keeps its changes. -/
def ModulePackageManager.run (manager : ModulePackageManager) (operations : List Operation) : ModulePackageManager :=
  operations.foldl (fun manager operation => (perform operation).after manager) manager

end velvet.module_package
