import VelvetRuntime.ModulePackage.Conflicts

open python python.str

namespace velvet.module_package

open Program

/-- The characters that `_validated_text` lets through. -/
def Printable (text : String) : Prop := ∀ c ∈ text.toList, 32 ≤ c.toNat ∧ c.toNat ≤ 126

instance (text : String) : Decidable (Printable text) := decidable_chars _ _

theorem validated_text_isOk_iff (value label : String) (maximum : Nat) :
    (validated_text value label maximum).isOk = true ↔
      ¬Blank value ∧ value.length ≤ maximum ∧ Printable (stripped value) := by
  unfold validated_text
  by_cases hbounded : Blank value ∨ maximum < value.length
  · rw [if_pos hbounded]
    refine ⟨fun hok => (by cases hok), fun ⟨hfilled, hlength, _⟩ => ?_⟩
    exact absurd hbounded (not_or.mpr ⟨hfilled, Nat.not_lt.mpr hlength⟩)
  · rw [if_neg hbounded]
    obtain ⟨hfilled, hlength⟩ := not_or.mp hbounded
    by_cases hprintable : Printable (stripped value)
    · rw [if_neg]
      · exact ⟨fun _ => ⟨hfilled, Nat.not_lt.mp hlength, hprintable⟩, fun _ => rfl⟩
      · rw [Bool.not_eq_true, List.any_eq_false]
        intro c hc
        have hbounds := hprintable c hc
        simp only [Bool.or_eq_true, decide_eq_true_eq]
        omega
    · rw [if_pos]
      · exact ⟨fun hok => (by cases hok), fun hall => absurd hall.2.2 hprintable⟩
      · unfold Printable at hprintable
        push Not at hprintable
        obtain ⟨c, hc, hbounds⟩ := hprintable
        rw [List.any_eq_true]
        refine ⟨c, hc, ?_⟩
        simp only [Bool.or_eq_true, decide_eq_true_eq]
        omega

variable {error : Error}

theorem validated_text_error {value label : String} {maximum : Nat}
    (herror : validated_text value label maximum = .error error) : error.kind = .ValueError := by
  unfold validated_text at herror
  split at herror
  · cases herror
    rfl
  · split at herror
    · cases herror
      rfl
    · cases herror

/-- Text that starts with a word keeps what stands before it. -/
theorem strip_append_cons {first next : Char} (hfirst : isspace first = false) (hnext : isspace next = false)
    (front rest : List Char) : strip (first :: front ++ next :: rest) = first :: front ++ strip (next :: rest) := by
  have hnonempty : ((next :: rest).reverse.dropWhile isspace).isEmpty = false := by
    rw [List.isEmpty_eq_false_iff]
    intro hnil
    have hspace := List.dropWhile_eq_nil_iff.mp hnil next (by simp)
    rw [hnext] at hspace
    cases hspace
  have hstart : ∀ {c : Char} {cs : List Char}, isspace c = false → (c :: cs).dropWhile isspace = c :: cs :=
    fun hc => List.dropWhile_cons_of_neg (by rw [hc]; exact Bool.false_ne_true)
  unfold strip
  rw [List.cons_append, hstart hfirst, hstart hnext, ← List.cons_append, List.reverse_append, List.dropWhile_append,
    hnonempty]
  simp

/-- The detail of a failure is a bounded text that starts with a word. -/
theorem bounded_detail_starts (error : Error) : ∃ first rest, (bounded_detail error).toList = first :: rest ∧
    isspace first = false ∧ (bounded_detail error).length ≤ 384 := by
  have htake : ∀ text : String, (∃ first rest, text.toList = first :: rest ∧ isspace first = false) →
      ∃ first rest, (String.ofList (text.toList.take 384)).toList = first :: rest ∧ isspace first = false ∧
        (String.ofList (text.toList.take 384)).length ≤ 384 := by
    rintro text ⟨first, rest, htext, hfirst⟩
    refine ⟨first, rest.take 383, ?_, hfirst, ?_⟩
    · rw [String.toList_ofList, htext, List.take_succ_cons]
    · rw [String.length_ofList]
      exact List.length_take_le _ _
  unfold bounded_detail
  apply htake
  split
  · cases error.kind <;> exact ⟨_, _, rfl, by decide⟩
  · rename_i hfilled
    unfold stripped at hfilled ⊢
    rw [String.toList_ofList]
    generalize hone_line : (String.ofList (error.message.toList.map _)).toList = chars at hfilled ⊢
    cases hchars : strip chars with
    | nil => exact absurd (by rw [hchars]) hfilled
    | cons first rest =>
      have hstripped := (strip_eq_self_iff _).mp (strip_strip chars)
      rw [hchars] at hstripped
      exact ⟨first, rest, rfl, hstripped.1 first rfl⟩

/-- The names under which the operations report the failure of a hook. -/
def failure_labels : List String := ["load", "start", "quiesce", "state snapshot", "stop"]

/-- The reason of the receipt of a failure is refused for its characters alone. -/
theorem failure_reason_isOk_iff {label : String} (hlabel : label ∈ failure_labels) (error : Error) :
    (validated_text (label ++ " failed: " ++ bounded_detail error) "receipt reason" 512).isOk = true ↔
      Printable (stripped (bounded_detail error)) := by
  obtain ⟨next, rest, hdetail, hnext, hlength⟩ := bounded_detail_starts error
  have hlabels : ∀ label ∈ failure_labels, ∃ first front, (label ++ " failed: ").toList = first :: front ∧
      isspace first = false ∧ (label ++ " failed: ").length ≤ 128 ∧ Printable (label ++ " failed: ") := by
    intro label hlabel
    simp only [failure_labels, List.mem_cons, List.not_mem_nil, or_false] at hlabel
    obtain rfl | rfl | rfl | rfl | rfl := hlabel <;> exact ⟨_, _, rfl, by decide, by decide, by decide⟩
  obtain ⟨first, front, hfront, hfirst, hshort, hprintable⟩ := hlabels label hlabel
  have hstrip : strip (label ++ " failed: " ++ bounded_detail error).toList =
      (label ++ " failed: ").toList ++ strip (bounded_detail error).toList := by
    rw [String.toList_append, hfront, hdetail, strip_append_cons hfirst hnext]
  rw [validated_text_isOk_iff]
  constructor
  · rintro ⟨-, -, hall⟩ c hc
    refine hall c ?_
    unfold stripped at hc ⊢
    rw [String.toList_ofList] at hc ⊢
    rw [hstrip]
    exact List.mem_append_right _ hc
  · intro hall
    refine ⟨?_, ?_, ?_⟩
    · unfold Blank
      rw [hstrip, hfront]
      exact List.cons_ne_nil _ _
    · rw [String.length_append]
      omega
    · intro c hc
      unfold stripped at hc
      rw [String.toList_ofList, hstrip] at hc
      obtain hleft | hright := List.mem_append.mp hc
      · exact hprintable c hleft
      · exact hall c (by unfold stripped; rwa [String.toList_ofList])

/-- A package is held under an id, in a state. -/
def Held (self : ModulePackageManager) (package_id : String) (state : PackageState) (record : ModulePackageRecord) :
    Prop :=
  is_identifier package_id = true ∧ self.records.get? package_id = some record ∧ record.state = state

/-- The code of a package raises in an operation: the package, and the exception. The operation has passed every
check before the call of the hook. -/
inductive HookRaises (before : ModulePackageManager) : Operation → String → ModulePackageManifest → Error → Prop where
  | load (call : LoadCall) (manifest : ModulePackageManifest) (error : Error)
    (hpackage : call.package = .ok manifest) (hverified : call.sink .MODULE_PACKAGE_VERIFIED = .ok ())
    (hprevious : (before.records.get? manifest.package_id).all (fun previous => previous.state = .UNLOADED) = true)
    (hchecked : before.check_admission manifest = .ok ()) (hroot : call.root = .ok ())
    (hraises : call.imported = .error error) :
    HookRaises before (.load call) manifest.package_id manifest error
  | restore_state (package_id : String) (hooks : Hooks) (sink : Sink) (record : ModulePackageRecord) (error : Error)
    (hheld : Held before package_id .LOADED record) (hsnapshot : record.last_snapshot.isSome = true)
    (hraises : hooks.restore_state = .error error) :
    HookRaises before (.start package_id hooks sink) package_id record.manifest error
  | start (package_id : String) (hooks : Hooks) (sink : Sink) (record : ModulePackageRecord) (error : Error)
    (hheld : Held before package_id .LOADED record)
    (hrestored : record.last_snapshot.isSome = true →
      hooks.restore_state = .ok () ∧ sink .MODULE_PACKAGE_STATE_RESTORED = .ok ())
    (hraises : hooks.start = .error error) :
    HookRaises before (.start package_id hooks sink) package_id record.manifest error
  | quiesce (package_id reason : String) (hooks : Hooks) (sink : Sink) (record : ModulePackageRecord) (error : Error)
    (hheld : Held before package_id .ACTIVE record)
    (hreason : (validated_text reason "quiesce reason" 256).isOk = true) (hraises : hooks.quiesce = .error error) :
    HookRaises before (.quiesce package_id reason hooks sink) package_id record.manifest error
  | snapshot (package_id : String) (hooks : Hooks) (sink : Sink) (record : ModulePackageRecord) (error : Error)
    (hheld : Held before package_id .QUIESCED record) (hraises : hooks.snapshot_state = .error error) :
    HookRaises before (.snapshot package_id hooks sink) package_id record.manifest error
  | stop (package_id : String) (hooks : Hooks) (sink : Sink) (record : ModulePackageRecord) (error : Error)
    (hheld : Held before package_id .QUIESCED record) (hraises : hooks.stop = .error error) :
    HookRaises before (.stop package_id hooks sink) package_id record.manifest error

def ModulePackageManager.failure_receipts (self : ModulePackageManager) : List Receipt :=
  self.receipts.filter (fun receipt => receipt.receipt_type = .MODULE_PACKAGE_FAILED)

/-- A call that failed ends with a `ModulePackageError`, with one more receipt of a failure, which is of the
package, and with the records as told. -/
structure ReportedAs (before : ModulePackageManager) (manifest : ModulePackageManifest)
    (left : Dict String ModulePackageRecord → Prop) (ending : Except Error Unit) (after : ModulePackageManager) :
    Prop where
  raises : ∃ error, ending = .error error ∧ is_module_package_error error = true
  emits : ∃ receipt, after.failure_receipts = before.failure_receipts ++ [receipt] ∧
    receipt.package_id = manifest.package_id
  leaves : left after.records

/-- What the failure of an operation is to leave of the record: it has failed, and after `load` there is none. -/
def Operation.Leaves (operation : Operation) (package_id : String) (records : Dict String ModulePackageRecord) :
    Prop :=
  match operation with
  | .load _ => records.get? package_id = none
  | _ => ∃ record, records.get? package_id = some record ∧ record.state = .FAILED

/-- The failure of a package in an operation is reported. -/
def Reported (before : ModulePackageManager) (operation : Operation) (package_id : String)
    (manifest : ModulePackageManifest) : Prop :=
  ReportedAs before manifest (operation.Leaves package_id) ((perform operation).result before)
    ((perform operation).after before)

def Operation.sink : Operation → Sink
  | .load call => call.sink
  | .start _ _ sink => sink
  | .quiesce _ _ _ sink => sink
  | .snapshot _ _ sink => sink
  | .stop _ _ sink => sink
  | .unload _ sink => sink
  | .deactivate _ _ _ sink => sink

/-- The sink takes the receipt of a failure, or raises a `ModulePackageError` of its own. -/
def TakesFailure (sink : Sink) : Prop :=
  match sink .MODULE_PACKAGE_FAILED with
  | .ok _ => True
  | .error error => is_module_package_error error = true

/-- What the report of a failure depends on: `except Exception` catches the error, its detail is printable ASCII,
the sink takes the receipt, and no package that was unloaded before is loaded again. -/
def ReportPasses (before : ModulePackageManager) (operation : Operation) (package_id : String) (error : Error) :
    Prop :=
  error.is_exception = true ∧ Printable (stripped (bounded_detail error)) ∧ TakesFailure operation.sink ∧
    match operation with
    | .load _ => before.records.get? package_id = none
    | _ => True

/-- A receipt with a valid reason reaches the sink. -/
theorem emit_receipt_ends (world : ModulePackageManager) (sink : Sink) (manifest : ModulePackageManifest)
    (receipt_type : ReceiptType) (state_before state_after : PackageState) (details : Option (String × Nat))
    {reason : String} (hreason : (validated_text reason "receipt reason" 512).isOk = true) :
    ∃ receipt : Receipt, receipt.receipt_type = receipt_type ∧ receipt.package_id = manifest.package_id ∧
      ∀ (returns : Unit → ModulePackageManager → Prop) (raises : Error → ModulePackageManager → Prop),
        wp (emit_receipt sink manifest receipt_type state_before state_after reason details) returns raises world ↔
          match sink receipt_type with
          | .ok _ => returns () { world with receipts := world.receipts ++ [receipt] }
          | .error error => raises error { world with receipts := world.receipts ++ [receipt] } := by
  cases hvalid : validated_text reason "receipt reason" 512 with
  | error error =>
    rw [hvalid] at hreason
    cases hreason
  | ok text =>
    refine ⟨⟨receipt_type, manifest.package_id, manifest.package_version, manifest.module_id,
      manifest.owning_handmaiden, manifest.digest, state_before, state_after, text, details⟩, rfl, rfl, ?_⟩
    intro returns raises
    unfold emit_receipt
    rw [wp_bind, wp_of_except, hvalid]
    dsimp only
    rw [wp_bind, wp_modify, wp_of_except]
    cases sink receipt_type with
    | ok _ => rfl
    | error _ => rfl

variable {before world : ModulePackageManager} {sink : Sink} {manifest : ModulePackageManifest}

variable {record : ModulePackageRecord}

theorem wp_require_held {package_id : String} {state : PackageState} (hheld : Held world package_id state record)
    {returns : ModulePackageRecord → ModulePackageManager → Prop} {raises : Error → ModulePackageManager → Prop} :
    wp (require_record package_id [state]) returns raises world ↔ returns record world := by
  obtain ⟨hvalid, hget, hstate⟩ := hheld
  unfold require_record validated_id
  rw [wp_bind, wp_of_except, if_pos hvalid]
  dsimp only
  rw [wp_bind, wp_get, hget]
  dsimp only
  rw [if_pos (List.mem_singleton.mpr hstate), wp_pure]

/-- The receipt of a failure, after which an exception is raised. -/
theorem wp_report_iff {label : String} {error raised : Error} {state_before : PackageState}
    {left : Dict String ModulePackageRecord → Prop} (hlabel : label ∈ failure_labels)
    (hraised : is_module_package_error raised = true) (hsame : world.failure_receipts = before.failure_receipts) :
    wp (emit_receipt sink manifest .MODULE_PACKAGE_FAILED state_before .FAILED
        (label ++ " failed: " ++ bounded_detail error) none)
      (fun _ => ReportedAs before manifest left (.error raised))
      (fun error => ReportedAs before manifest left (.error error)) world ↔
      Printable (stripped (bounded_detail error)) ∧ TakesFailure sink ∧ left world.records := by
  by_cases hprintable : Printable (stripped (bounded_detail error))
  · obtain ⟨receipt, htype, hpackage, hwp⟩ := emit_receipt_ends world sink manifest .MODULE_PACKAGE_FAILED
      state_before .FAILED none ((failure_reason_isOk_iff hlabel error).mpr hprintable)
    have hends : ∀ ending, ReportedAs before manifest left (.error ending)
        { world with receipts := world.receipts ++ [receipt] } ↔
        is_module_package_error ending = true ∧ left world.records := by
      intro ending
      refine ⟨fun hreported => ?_, fun ⟨hending, hleft⟩ => ⟨⟨ending, rfl, hending⟩, ⟨receipt, ?_, hpackage⟩, hleft⟩⟩
      · obtain ⟨_, hsome, hending⟩ := hreported.raises
        cases hsome
        exact ⟨hending, hreported.leaves⟩
      · rw [← hsame]
        simp [ModulePackageManager.failure_receipts, htype]
    rw [hwp]
    unfold TakesFailure
    cases sink .MODULE_PACKAGE_FAILED with
    | ok _ => simp only [hends, hraised, hprintable, true_and]
    | error ending => simp only [hends, hprintable, true_and]
  · refine ⟨fun hwp => ?_, fun hall => absurd hall.1 hprintable⟩
    cases hinvalid : validated_text (label ++ " failed: " ++ bounded_detail error) "receipt reason" 512 with
    | ok text => exact absurd ((failure_reason_isOk_iff hlabel error).mp (by rw [hinvalid]; rfl)) hprintable
    | error refused =>
      unfold emit_receipt at hwp
      rw [wp_bind, wp_of_except, hinvalid] at hwp
      obtain ⟨_, hsome, hkind⟩ := hwp.raises
      cases hsome
      have hrefused : refused.kind = .ValueError := validated_text_error hinvalid
      unfold is_module_package_error at hkind
      rw [hrefused] at hkind
      cases hkind

/-- What `except Exception` does not catch is not an error of the manager. -/
theorem is_exception_of_module_package_error (hkind : is_module_package_error error = true) :
    error.is_exception = true := by
  unfold Error.is_exception
  unfold is_module_package_error at hkind
  cases hbase : error.kind <;> simp_all

variable {returns : Unit → ModulePackageManager → Prop} {package_id label : String}

/-- The end of an operation whose hook raises, when the record was not changed before. -/
theorem wp_fail_iff {error raised : Error}
    (hlabel : label ∈ failure_labels) (hraised : error.is_exception = true → is_module_package_error raised = true)
    (hsame : world.failure_receipts = before.failure_receipts) :
    wp (fail sink package_id record label error raised) returns
      (fun error => ReportedAs before record.manifest
        (fun records => ∃ record, records.get? package_id = some record ∧ record.state = .FAILED) (.error error))
      world ↔
      error.is_exception = true ∧ Printable (stripped (bounded_detail error)) ∧ TakesFailure sink ∧ True := by
  unfold fail
  by_cases hexception : error.is_exception = true
  · rw [if_neg (by simp [hexception]), wp_bind]
    unfold set_record
    rw [wp_modify, wp_bind]
    refine (wp_report_iff hlabel (hraised hexception) ?_).trans ?_
    · exact hsame
    · simp [hexception]
  · rw [if_pos (by simp [hexception]), wp_throw]
    refine ⟨fun hreported => ?_, fun hall => absurd hall.1 hexception⟩
    obtain ⟨_, hsome, hkind⟩ := hreported.raises
    cases hsome
    exact absurd (is_exception_of_module_package_error hkind) hexception

variable {next : Unit → Program Error ModulePackageManager Unit}

/-- A body that raises, before the record changes, ends the operation with its failure. -/
theorem wp_body_fails {raised : Error → Error}
    {body : Program Error ModulePackageManager Unit}
    (hlabel : label ∈ failure_labels) (hraised : is_module_package_error (raised error) = true)
    (hbody : wp body (fun _ _ => False)
      (fun found world => found = error ∧ world.failure_receipts = before.failure_receipts) before) :
    wp (tryCatch body (fun error => fail sink package_id record label error (raised error)) >>= next)
      (fun value => ReportedAs before record.manifest
        (fun records => ∃ record, records.get? package_id = some record ∧ record.state = .FAILED) (.ok value))
      (fun error => ReportedAs before record.manifest
        (fun records => ∃ record, records.get? package_id = some record ∧ record.state = .FAILED) (.error error))
      before ↔
      error.is_exception = true ∧ Printable (stripped (bounded_detail error)) ∧ TakesFailure sink ∧ True := by
  unfold wp at hbody
  cases hrun : body.run before with
  | ok _ world =>
    rw [hrun] at hbody
    cases hbody
  | error found world =>
    rw [hrun] at hbody
    obtain ⟨rfl, hsame⟩ := hbody
    rw [wp_bind, wp_tryCatch]
    unfold wp
    rw [hrun]
    exact wp_fail_iff hlabel (fun _ => hraised) hsame

/-- A failure in `load` is reported when it is an exception with a printable detail and nothing was ever
loaded under the id. -/
theorem wp_import_fails {call : LoadCall} (hraises : call.imported = .error error)
    (hsame : world.failure_receipts = before.failure_receipts) (hrecords : world.records = before.records) :
    wp (import_package call manifest) returns
      (fun error => ReportedAs before manifest (fun records => records.get? manifest.package_id = none) (.error error))
      world ↔
      error.is_exception = true ∧ Printable (stripped (bounded_detail error)) ∧ TakesFailure call.sink ∧
        before.records.get? manifest.package_id = none := by
  unfold import_package
  rw [wp_tryCatch, wp_of_except, hraises]
  dsimp only
  by_cases hexception : error.is_exception = true
  · rw [if_neg (by simp [hexception]), wp_bind]
    have hlabel : "load" ∈ failure_labels := by decide
    simp only [hexception, true_and, ← hrecords]
    by_cases hkind : is_module_package_error error = true
    · simp only [hkind, if_true]
      exact wp_report_iff hlabel hkind hsame
    · simp only [hkind]
      exact wp_report_iff hlabel rfl hsame
  · rw [if_pos (by simp [hexception]), wp_throw]
    refine ⟨fun hreported => ?_, fun hall => absurd hall.1 hexception⟩
    obtain ⟨_, hsome, hkind⟩ := hreported.raises
    cases hsome
    exact absurd (is_exception_of_module_package_error hkind) hexception

theorem verified_reason_isOk :
    (validated_text "manifest, integrity, and entrypoint policy verified" "receipt reason" 512).isOk = true :=
  (validated_text_isOk_iff _ _ _).mpr ⟨by decide, by decide, by decide⟩

theorem wp_load_fails {call : LoadCall} (hpackage : call.package = .ok manifest)
    (hverified : call.sink .MODULE_PACKAGE_VERIFIED = .ok ())
    (hprevious : (before.records.get? manifest.package_id).all (fun previous => previous.state = .UNLOADED) = true)
    (hchecked : before.check_admission manifest = .ok ()) (hroot : call.root = .ok ())
    (hraises : call.imported = .error error) :
    wp (load call)
      (fun value => ReportedAs before manifest (fun records => records.get? manifest.package_id = none) (.ok value))
      (fun error => ReportedAs before manifest (fun records => records.get? manifest.package_id = none) (.error error))
      before ↔
      error.is_exception = true ∧ Printable (stripped (bounded_detail error)) ∧ TakesFailure call.sink ∧
        before.records.get? manifest.package_id = none := by
  obtain ⟨receipt, htype, -, hwp⟩ := emit_receipt_ends before call.sink manifest .MODULE_PACKAGE_VERIFIED
    .UNVERIFIED .VERIFIED none verified_reason_isOk
  have hsame : ModulePackageManager.failure_receipts { before with receipts := before.receipts ++ [receipt] } =
      before.failure_receipts := by
    simp [ModulePackageManager.failure_receipts, htype]
  have hadmits : ∀ {returns : Unit → ModulePackageManager → Prop},
      wp (admit_package call manifest) returns (fun error => ReportedAs before manifest
        (fun records => records.get? manifest.package_id = none) (.error error))
        { before with receipts := before.receipts ++ [receipt] } ↔
      error.is_exception = true ∧ Printable (stripped (bounded_detail error)) ∧ TakesFailure call.sink ∧
        before.records.get? manifest.package_id = none := by
    intro returns
    have hcheck : ModulePackageManager.check_admission { before with receipts := before.receipts ++ [receipt] }
        manifest = .ok () := hchecked
    unfold admit_package
    rw [wp_bind, wp_get, wp_bind, wp_of_except, hcheck]
    dsimp only
    rw [wp_bind, wp_of_except, hroot]
    dsimp only
    rw [wp_bind]
    exact wp_import_fails hraises hsame rfl
  unfold load verify
  rw [wp_bind, wp_bind, wp_of_except, hpackage]
  dsimp only
  rw [wp_bind, hwp, hverified]
  dsimp only
  rw [wp_pure, wp_bind, wp_get]
  dsimp only
  cases hget : before.records.get? manifest.package_id with
  | none =>
    dsimp only
    rw [hadmits, hget]
  | some previous =>
    rw [hget] at hprevious
    have hunloaded : previous.state = .UNLOADED := of_decide_eq_true hprevious
    dsimp only
    rw [if_neg (not_not_intro hunloaded), hadmits, hget]

/-- A hook that raises, before the record is moved. -/
theorem wp_hook_raises {outcome : Except Error Unit} (hraises : outcome = .error error)
    (hsame : world.failure_receipts = before.failure_receipts) :
    wp (of_except outcome >>= next) (fun _ _ => False)
      (fun found world => found = error ∧ world.failure_receipts = before.failure_receipts) world := by
  rw [wp_bind, wp_of_except, hraises]
  exact ⟨rfl, hsame⟩

theorem restored_reason_isOk :
    (validated_text "bounded prior state restored before start" "receipt reason" 512).isOk = true :=
  (validated_text_isOk_iff _ _ _).mpr ⟨by decide, by decide, by decide⟩

theorem wp_start_fails {package_id : String} {hooks : Hooks} (hheld : Held before package_id .LOADED record)
    (hraises : (record.last_snapshot.isSome = true ∧ hooks.restore_state = .error error) ∨
      (record.last_snapshot.isSome = true → hooks.restore_state = .ok () ∧
        sink .MODULE_PACKAGE_STATE_RESTORED = .ok ()) ∧ hooks.start = .error error) :
    wp (start sink hooks package_id)
      (fun value => ReportedAs before record.manifest
        (fun records => ∃ record, records.get? package_id = some record ∧ record.state = .FAILED) (.ok value))
      (fun error => ReportedAs before record.manifest
        (fun records => ∃ record, records.get? package_id = some record ∧ record.state = .FAILED) (.error error))
      before ↔
      error.is_exception = true ∧ Printable (stripped (bounded_detail error)) ∧ TakesFailure sink ∧ True := by
  have hbody : wp (do
      restore_snapshot sink hooks record
      of_except hooks.start
      set_record package_id { record with state := .ACTIVE }) (fun _ _ => False)
      (fun found world => found = error ∧ world.failure_receipts = before.failure_receipts) before := by
    rw [wp_bind]
    unfold restore_snapshot
    obtain ⟨hsnapshot, hraises⟩ | ⟨hrestored, hraises⟩ := hraises
    · rw [if_pos hsnapshot]
      refine wp_mono (wp_hook_raises hraises rfl) (fun _ _ hfalse => hfalse.elim) (fun _ _ hraised => hraised)
    · by_cases hsnapshot : record.last_snapshot.isSome = true
      · obtain ⟨hrestore, hsink⟩ := hrestored hsnapshot
        obtain ⟨receipt, htype, -, hwp⟩ := emit_receipt_ends before sink record.manifest
          .MODULE_PACKAGE_STATE_RESTORED .LOADED .LOADED none restored_reason_isOk
        rw [if_pos hsnapshot, wp_bind, wp_of_except, hrestore]
        dsimp only
        rw [hwp, hsink]
        exact wp_hook_raises hraises (by simp [ModulePackageManager.failure_receipts, htype])
      · rw [if_neg hsnapshot, wp_pure]
        exact wp_hook_raises hraises rfl
  unfold start
  rw [wp_bind, wp_require_held hheld]
  exact wp_body_fails (by decide) rfl hbody

/-- The failure of a hook is reported in exactly those calls in which its detail is printable ASCII: the receipt
of a failure is built from the text of the exception, and `_validated_text` refuses any other text. Besides, the
hook has to raise an `Exception`, the sink has to take the receipt, and a package that was unloaded before keeps
its old record when it fails to load again. -/
theorem hook_failure_reported_iff (before : ModulePackageManager) (operation : Operation) (package_id : String)
    (manifest : ModulePackageManifest) (error : Error)
    (hraises : HookRaises before operation package_id manifest error) :
    Reported before operation package_id manifest ↔ ReportPasses before operation package_id error := by
  unfold Reported
  rw [← wp_result_after (ReportedAs before manifest (operation.Leaves package_id))]
  cases hraises with
  | load call manifest error hpackage hverified hprevious hchecked hroot hraises =>
    exact wp_load_fails hpackage hverified hprevious hchecked hroot hraises
  | restore_state package_id hooks sink record error hheld hsnapshot hraises =>
    exact wp_start_fails hheld (.inl ⟨hsnapshot, hraises⟩)
  | start package_id hooks sink record error hheld hrestored hraises =>
    exact wp_start_fails hheld (.inr ⟨hrestored, hraises⟩)
  | quiesce package_id reason hooks sink record error hheld hreason hraises =>
    change wp (quiesce sink hooks package_id reason) _ _ _ ↔ _
    unfold quiesce
    rw [wp_bind, wp_require_held hheld, wp_bind, wp_of_except]
    cases hbounded : validated_text reason "quiesce reason" 256 with
    | error refused =>
      rw [hbounded] at hreason
      cases hreason
    | ok bounded_reason => exact wp_body_fails (by decide) rfl (wp_hook_raises hraises rfl)
  | snapshot package_id hooks sink record error hheld hraises =>
    change wp (snapshot sink hooks package_id >>= fun _ => pure ()) _ _ _ ↔ _
    unfold snapshot
    rw [wp_bind, wp_bind, wp_require_held hheld, wp_bind, wp_tryCatch, wp_bind, wp_of_except, hraises]
    dsimp only
    rw [wp_bind]
    refine wp_fail_iff (by decide) (fun _ => ?_) rfl
    by_cases hkind : is_module_package_error error = true
    · rw [if_pos hkind]
      exact hkind
    · rw [if_neg hkind]
      rfl
  | stop package_id hooks sink record error hheld hraises =>
    change wp (stop sink hooks package_id) _ _ _ ↔ _
    unfold stop
    rw [wp_bind, wp_require_held hheld]
    exact wp_body_fails (by decide) rfl (wp_hook_raises hraises rfl)

/-- A load whose package code raises an error with a message. -/
def raising_load (manifest : ModulePackageManifest) (message : String) : Operation :=
  .load ⟨.ok manifest, .ok (), .error ⟨.RuntimeError, message⟩, fun _ => .ok ()⟩

theorem thermal_admitted : (ModulePackageManager.new plain_budget []).check_admission thermal_manifest = .ok () := by
  with_unfolding_all rfl

/-- A plain text is reported. -/
theorem plain_failure_reported :
    HookRaises (.new plain_budget []) (raising_load thermal_manifest "no camera") "thermal" thermal_manifest
      ⟨.RuntimeError, "no camera"⟩ ∧
    Reported (.new plain_budget []) (raising_load thermal_manifest "no camera") "thermal" thermal_manifest := by
  have hraises : HookRaises (.new plain_budget []) (raising_load thermal_manifest "no camera") "thermal"
      thermal_manifest ⟨.RuntimeError, "no camera"⟩ :=
    .load _ thermal_manifest _ rfl rfl rfl thermal_admitted rfl rfl
  exact ⟨hraises, (hook_failure_reported_iff _ _ _ _ _ hraises).mpr ⟨rfl, by decide, trivial, rfl⟩⟩

/-- A text with an accent is not: a `ValueError` leaves the manager, and no receipt tells of the failure. -/
theorem accented_failure_unreported :
    HookRaises (.new plain_budget []) (raising_load thermal_manifest "caméra absente") "thermal" thermal_manifest
      ⟨.RuntimeError, "caméra absente"⟩ ∧
    (perform (raising_load thermal_manifest "caméra absente")).result (.new plain_budget []) =
      .error ⟨.ValueError, "receipt reason must be printable ASCII"⟩ ∧
    ((perform (raising_load thermal_manifest "caméra absente")).after (.new plain_budget [])).failure_receipts = [] ∧
    ¬Reported (.new plain_budget []) (raising_load thermal_manifest "caméra absente") "thermal" thermal_manifest := by
  have hresult : (perform (raising_load thermal_manifest "caméra absente")).result (.new plain_budget []) =
      .error ⟨.ValueError, "receipt reason must be printable ASCII"⟩ := by with_unfolding_all rfl
  refine ⟨.load _ thermal_manifest _ rfl rfl rfl thermal_admitted rfl rfl, hresult, by with_unfolding_all rfl, ?_⟩
  intro hreported
  obtain ⟨error, hending, hkind⟩ := hreported.raises
  rw [hresult] at hending
  cases hending
  cases hkind

end velvet.module_package
