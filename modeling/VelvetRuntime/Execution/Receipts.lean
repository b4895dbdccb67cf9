import VelvetRuntime.Execution.AtMostOnce

open python python.str velvet.court_token velvet.execution_contract velvet.resource_coordinator
open velvet.token_replay_ledger velvet.coordinated_executor

namespace velvet.approved_executor

open Thread

section

variable [StrLower]

abbrev Path : Type := List (Exchange Error Requests)

def Receipt.event_type : Receipt → EventType
  | .execution event_type .. => event_type
  | .resource event_type .. => event_type

/-- The receipt that an exchange attempts, by its event, and whether the sink accepted it. -/
def receipt_of : Exchange Error Requests → Option (EventType × Bool)
  | ⟨.receipt_sink receipt, .ok _⟩ => some (receipt.event_type, true)
  | ⟨.receipt_sink receipt, .error _⟩ => some (receipt.event_type, false)
  | _ => none

def attempted (path : Path) : List (EventType × Bool) := path.filterMap receipt_of

/-- An exchange that starts a handler. -/
def Starts (exchange : Exchange Error Requests) : Prop :=
  ∃ spec token parameters, exchange.request = .start_handler spec token parameters

/-- The handler returned a mapping. -/
def Returned (path : Path) (spec : ExecutorSpec) (token : CapabilityToken)
    (output : Dict Key execution_contract.Value) : Prop :=
  ⟨.finish_handler spec token, .ok output⟩ ∈ path

/-- The state that a mapping reports is absent or, normalised, the contract's completion state. -/
def Completes (contract : ExecutionContract) (output : Dict Key execution_contract.Value) : Prop :=
  output.get? (.text "state") = none ∨ output.get? (.text "state") = some .none ∨
    ∃ reported, output.get? (.text "state") = some (.text reported) ∧
      normalized reported = contract.expected_completion_state.text

/-- One denial, or one start receipt that was not persisted, or one that was persisted and one terminal
receipt after it. -/
def WellReceipted (receipts : List (EventType × Bool)) : Prop :=
  (∃ persisted, receipts = [(.EXECUTION_DENIED, persisted)]) ∨ receipts = [(.EXECUTION_STARTED, false)] ∨
    ∃ event_type persisted, receipts = [(.EXECUTION_STARTED, true), (event_type, persisted)] ∧
      (event_type = .EXECUTION_COMPLETED ∨ event_type = .EXECUTION_FAILED ∨ event_type = .EXECUTION_DENIED)

/-- Whether the sink accepted a start receipt. -/
def start_persisted (receipts : List (EventType × Bool)) : Bool :=
  receipts.any (fun receipt => receipt.1 = .EXECUTION_STARTED && receipt.2)

/-- Whether the sink accepted a receipt that ends the call. -/
def final_persisted (receipts : List (EventType × Bool)) : Bool :=
  receipts.any (fun receipt => receipt.1 ≠ .EXECUTION_STARTED && receipt.2)

variable (builtins : Builtins) (execution : Execution)

/-- Everything that has to come before the start of an executor's handler. -/
structure Authorized (before : Path) (spec : ExecutorSpec) : Prop where
  verified : ∃ current, (execution.now = some current ∨ (execution.now = none ∧ ⟨.time, .ok current⟩ ∈ before)) ∧
    verify_token builtins.sign execution.token execution.signing_key current = .ok true
  registered : ⟨.get execution.registry (normalized execution.executor_name), .ok spec⟩ ∈ before
  capability : spec.capability = execution.token.capability
  target : "*" ∈ spec.targets ∨ execution.token.target ∈ spec.targets
  parameters : validate_parameters spec.contract execution.parameters = []
  safe : ∃ reason, ⟨.safety_check execution.token execution.parameters, .ok (true, reason)⟩ ∈ before
  started : ∃ receipt, receipt.event_type = .EXECUTION_STARTED ∧ ⟨.receipt_sink receipt, .ok ()⟩ ∈ before
  consumed : ⟨.consume execution.used_token_ids execution.token.token_id, .ok true⟩ ∈ before

/-- What the ends of a call look like, beside the exchanges that led to them. -/
structure Conforms (path : Path) (result : Except Error ExecutionResult) : Prop where
  invoked : ∀ before after exchange, path = before ++ exchange :: after → ∀ spec token parameters,
    exchange.request = .start_handler spec token parameters →
    token = execution.token ∧ parameters = execution.parameters ∧ Authorized builtins execution before spec
  receipts : ∀ returned, result = .ok returned → WellReceipted (attempted path)
  executed : ∀ returned, result = .ok returned →
    (returned.executed = true ↔ ∃ spec output, Returned path spec execution.token output ∧ Completes spec.contract output)
  flags : ∀ returned, result = .ok returned →
    returned.start_receipt_persisted = start_persisted (attempted path) ∧
    returned.final_receipt_persisted = final_persisted (attempted path)
  raised : ∀ error, result = .error error → error.is_exception = true →
    (∀ spec token output, Returned path spec token output → ∃ actuated, actuation_performed output = .ok actuated) →
    ∀ exchange ∈ path, ¬ Starts exchange

/-- What the checks before the safety check have established. -/
structure Checked (history : Path) (spec : ExecutorSpec) : Prop where
  verified : ∃ current, (execution.now = some current ∨ (execution.now = none ∧ ⟨.time, .ok current⟩ ∈ history)) ∧
    verify_token builtins.sign execution.token execution.signing_key current = .ok true
  registered : ⟨.get execution.registry (normalized execution.executor_name), .ok spec⟩ ∈ history
  accepted : execution.refusal_of_spec spec = none

variable {builtins} {self : Execution}

theorem validate_completion_eq_none_iff (contract : ExecutionContract) (output : Dict Key execution_contract.Value) :
    validate_completion contract output = none ↔ Completes contract output := by
  unfold validate_completion Completes
  cases hstate : output.get? (.text "state") with
  | none => simp
  | some reported =>
    cases reported with
    | none => simp
    | text value => simp
    | bool value =>
      cases contract.expected_completion_state <;> simp [CompletionState.text]
    | int value =>
      cases contract.expected_completion_state <;> simp [CompletionState.text]
    | float value =>
      cases contract.expected_completion_state <;> simp [CompletionState.text]
    | mapping empty =>
      cases contract.expected_completion_state <;> simp [CompletionState.text]
    | other truth =>
      cases contract.expected_completion_state <;> simp [CompletionState.text]

@[simp] theorem attempted_concat (path : Path) (exchange : Exchange Error Requests) :
    attempted (path ++ [exchange]) = attempted path ++ (receipt_of exchange).toList := by
  unfold attempted
  rw [List.filterMap_append]
  cases hreceipt : receipt_of exchange with
  | none => simp [hreceipt]
  | some receipt => simp [hreceipt]

/-- Exchanges that do not touch the handler. -/
structure Untouched (path : Path) : Prop where
  unstarted : ∀ exchange ∈ path, ¬ Starts exchange
  unfinished : ∀ spec token output, ¬ Returned path spec token output

theorem Untouched.nil : Untouched [] := ⟨by simp, by simp [Returned]⟩

variable {path : Path}

theorem Untouched.concat (huntouched : Untouched path) {exchange : Exchange Error Requests}
    (hstart : ∀ spec token parameters, exchange.request ≠ .start_handler spec token parameters)
    (hfinish : ∀ spec token, exchange.request ≠ .finish_handler spec token) : Untouched (path ++ [exchange]) where
  unstarted := by
    intro other hother
    rcases List.mem_append.mp hother with hold | hnew
    · exact huntouched.unstarted other hold
    · rw [List.mem_singleton.mp hnew]
      rintro ⟨spec, token, parameters, hrequest⟩
      exact hstart spec token parameters hrequest
  unfinished := by
    intro spec token output hreturned
    rcases List.mem_append.mp hreturned with hold | hnew
    · exact huntouched.unfinished spec token output hold
    · exact hfinish spec token (by rw [← List.mem_singleton.mp hnew])

variable {result : Except Error ExecutionResult}

/-- The end of a call that started no handler. -/
theorem Conforms.of_untouched (huntouched : Untouched path)
    (hresult : ∀ returned, result = .ok returned → returned.executed = false ∧ WellReceipted (attempted path) ∧
      returned.start_receipt_persisted = start_persisted (attempted path) ∧
      returned.final_receipt_persisted = final_persisted (attempted path)) : Conforms builtins self path result where
  invoked := by
    rintro before after exchange rfl spec token parameters hrequest
    exact absurd ⟨spec, token, parameters, hrequest⟩ (huntouched.unstarted exchange (by simp))
  receipts returned hreturned := (hresult returned hreturned).2.1
  executed := by
    intro returned hreturned
    rw [(hresult returned hreturned).1]
    simp only [Bool.false_eq_true, false_iff, not_exists, not_and]
    intro spec output houtput
    exact absurd houtput (huntouched.unfinished spec self.token output)
  flags returned hreturned := (hresult returned hreturned).2.2
  raised _ _ _ _ := huntouched.unstarted

/-- The end of a call that started its handler. -/
theorem Conforms.of_started {path before after : Path} {start : Exchange Error Requests} {spec : ExecutorSpec}
    (hpath : path = before ++ start :: after)
    (hstart : start.request = .start_handler spec self.token self.parameters)
    (hbefore : ∀ exchange ∈ before, ¬ Starts exchange) (hafter : ∀ exchange ∈ after, ¬ Starts exchange)
    (hauthorized : Authorized builtins self before spec)
    (hresult : ∀ returned, result = .ok returned → WellReceipted (attempted path) ∧
      (returned.executed = true ↔
        ∃ spec output, Returned path spec self.token output ∧ Completes spec.contract output) ∧
      returned.start_receipt_persisted = start_persisted (attempted path) ∧
      returned.final_receipt_persisted = final_persisted (attempted path))
    (hraised : ∀ error, result = .error error → error.is_exception = false ∨
      ∃ spec token output, Returned path spec token output ∧ ∀ actuated, actuation_performed output ≠ .ok actuated) :
    Conforms builtins self path result where
  invoked := by
    intro earlier later exchange hsplit other token parameters hrequest
    have hstarts : Starts exchange := ⟨other, token, parameters, hrequest⟩
    -- There is one start only, so the two ways to split the path around it are the same.
    rw [hpath] at hsplit
    obtain ⟨rfl, rfl, rfl⟩ := (List.append_cons_inj_of_notMem (fun hmem => hbefore exchange hmem hstarts)
      (fun hmem => hafter exchange hmem hstarts)).mp hsplit
    rw [hstart] at hrequest
    cases hrequest
    exact ⟨rfl, rfl, hauthorized⟩
  receipts returned hreturned := (hresult returned hreturned).1
  executed returned hreturned := (hresult returned hreturned).2.1
  flags returned hreturned := (hresult returned hreturned).2.2
  raised := by
    intro error herror hexception htruth
    rcases hraised error herror with hbase | ⟨other, token, output, hreturned, hfails⟩
    · rw [hexception] at hbase
      cases hbase
    · obtain ⟨actuated, hactuated⟩ := htruth other token output hreturned
      exact absurd hactuated (hfails actuated)

variable {history : Path} {returns : Bool → Path → Prop} {raises : Error → Path → Prop}

theorem follows_persist_recording {receipt : Receipt}
    (haccepted : returns true (history ++ [⟨.receipt_sink receipt, .ok ()⟩]))
    (hrejected : ∀ error, returns false (history ++ [⟨.receipt_sink receipt, .error error⟩]))
    (hraises : ∀ error, error.is_exception = false →
      raises error (history ++ [⟨.receipt_sink receipt, .error error⟩])) :
    (persist receipt).Follows recording returns raises history := by
  unfold persist
  rw [follows_bind]
  refine follows_except_exception (follows_perform trivial ?_ ?_)
  · intro _ _
    exact haccepted
  · intro error _
    exact ⟨fun _ => hrejected error, hraises error⟩

/-- The ends of a denial before the start receipt. -/
theorem follows_deny_recording (huntouched : Untouched history) (hattempted : attempted history = [])
    (state : ExecutionState) (name : String) (contract : Option ExecutionContract) (errors : List String) :
    (deny state name self.token contract errors).Follows recording
      (fun returned path => Conforms builtins self path (.ok returned))
      (fun error path => Conforms builtins self path (.error error)) history := by
  unfold deny
  rw [follows_bind]
  refine follows_persist_recording ?_ ?_ ?_
  · refine .of_untouched (huntouched.concat (by simp) (by simp)) ?_
    rintro returned hreturned
    cases hreturned
    simp [hattempted, receipt_of, Receipt.event_type, WellReceipted, start_persisted, final_persisted]
  · intro error
    refine .of_untouched (huntouched.concat (by simp) (by simp)) ?_
    rintro returned hreturned
    cases hreturned
    simp [hattempted, receipt_of, Receipt.event_type, WellReceipted, start_persisted, final_persisted]
  · intro error _
    exact .of_untouched (huntouched.concat (by simp) (by simp)) (by simp)

/-- The ends of a denial after the start receipt. -/
theorem follows_deny_started_recording (huntouched : Untouched history)
    (hattempted : attempted history = [(.EXECUTION_STARTED, true)]) (name : String) (spec : ExecutorSpec)
    (state : ExecutionState) (errors : List String) :
    (self.deny_started name spec state errors).Follows recording
      (fun returned path => Conforms builtins self path (.ok returned))
      (fun error path => Conforms builtins self path (.error error)) history := by
  unfold Execution.deny_started
  rw [follows_bind]
  refine follows_persist_recording ?_ ?_ ?_
  · refine .of_untouched (huntouched.concat (by simp) (by simp)) ?_
    rintro returned hreturned
    cases hreturned
    simp [hattempted, receipt_of, Receipt.event_type, WellReceipted, start_persisted, final_persisted]
  · intro error
    refine .of_untouched (huntouched.concat (by simp) (by simp)) ?_
    rintro returned hreturned
    cases hreturned
    simp [hattempted, receipt_of, Receipt.event_type, WellReceipted, start_persisted, final_persisted]
  · intro error _
    exact .of_untouched (huntouched.concat (by simp) (by simp)) (by simp)

theorem accepted_of_refusal_of_spec {spec : ExecutorSpec} (haccepted : self.refusal_of_spec spec = none) :
    spec.capability = self.token.capability ∧ ("*" ∈ spec.targets ∨ self.token.target ∈ spec.targets) ∧
      validate_parameters spec.contract self.parameters = [] := by
  unfold Execution.refusal_of_spec at haccepted
  split at haccepted
  · cases haccepted
  · rename_i hcapability
    split at haccepted
    · cases haccepted
    · rename_i htarget
      split at haccepted
      · rename_i hparameters
        refine ⟨not_not.mp hcapability, ?_, hparameters⟩
        by_contra hnot
        exact htarget (not_or.mp hnot)
      · cases haccepted

/-- The start of the handler, as an exchange. -/
def start_of (self : Execution) (spec : ExecutorSpec) (answer : Except Error Unit) : Exchange Error Requests :=
  ⟨.start_handler spec self.token self.parameters, answer⟩

section

variable {history between : Path} {spec : ExecutorSpec} {answer : Except Error Unit}

theorem returned_after_start (huntouched : Untouched history) (other : ExecutorSpec) (token : CapabilityToken)
    (output : Dict Key execution_contract.Value) :
    Returned (history ++ start_of self spec answer :: between) other token output ↔
      Returned between other token output := by
  constructor
  · intro hreturned
    rcases List.mem_append.mp hreturned with hold | hnew
    · exact absurd hold (huntouched.unfinished other token output)
    · rcases List.mem_cons.mp hnew with hfirst | hrest
      · cases congrArg Exchange.request hfirst
      · exact hrest
  · intro hreturned
    exact List.mem_append_right _ (List.mem_cons_of_mem _ hreturned)

/-- A call that raises after the start of its handler. -/
theorem Conforms.of_raised {error : Error} (huntouched : Untouched history)
    (hauthorized : Authorized builtins self history spec) (hbetween : ∀ exchange ∈ between, ¬ Starts exchange)
    (hraised : error.is_exception = false ∨ ∃ other token output, Returned between other token output ∧
      ∀ actuated, actuation_performed output ≠ .ok actuated) :
    Conforms builtins self (history ++ start_of self spec answer :: between) (.error error) := by
  refine .of_started rfl rfl huntouched.unstarted hbetween hauthorized (by simp) ?_
  intro raised hsame
  cases hsame
  simp only [returned_after_start huntouched]
  exact hraised

section

variable (huntouched : Untouched history) (hattempted : attempted history = [(.EXECUTION_STARTED, true)])
variable (hauthorized : Authorized builtins self history spec)

include huntouched hattempted hauthorized

/-- The terminal receipt after the handler and the result that comes with it. -/
theorem follows_final_recording (hbetween : ∀ exchange ∈ between, ¬ Starts exchange)
    (hnone : attempted between = []) {receipt : Receipt}
    (hevent : receipt.event_type = .EXECUTION_COMPLETED ∨ receipt.event_type = .EXECUTION_FAILED)
    {result : Bool → ExecutionResult} (hstart : ∀ persisted, (result persisted).start_receipt_persisted = true)
    (hfinal : ∀ persisted, (result persisted).final_receipt_persisted = persisted)
    (hexecuted : ∀ persisted, (result persisted).executed = true ↔
      ∃ other output, Returned between other self.token output ∧ Completes other.contract output) :
    (do
      let persisted ← persist receipt
      pure (result persisted)).Follows recording
      (fun returned path => Conforms builtins self path (.ok returned))
      (fun error path => Conforms builtins self path (.error error))
      (history ++ start_of self spec answer :: between) := by
  have hreceipt : ∀ sink : Except Error Unit, ∀ exchange ∈ between ++ [⟨.receipt_sink receipt, sink⟩],
      ¬ Starts exchange := by
    intro sink exchange hexchange
    rcases List.mem_append.mp hexchange with hold | hnew
    · exact hbetween exchange hold
    · rw [List.mem_singleton.mp hnew]
      rintro ⟨_, _, _, hrequest⟩
      cases hrequest
  have hattempts : ∀ sink : Except Error Unit, attempted
      (history ++ start_of self spec answer :: (between ++ [⟨.receipt_sink receipt, sink⟩])) =
        (.EXECUTION_STARTED, true) :: (receipt_of ⟨.receipt_sink receipt, sink⟩).toList := by
    intro sink
    have hskip : receipt_of (start_of self spec answer) = none := rfl
    have hrest := attempted_concat between ⟨.receipt_sink receipt, sink⟩
    rw [hnone] at hrest
    unfold attempted at hattempted hrest ⊢
    rw [List.filterMap_append, hattempted, List.filterMap_cons_none hskip, hrest]
    rfl
  have hreturned : ∀ (sink : Except Error Unit) (other : ExecutorSpec) (token : CapabilityToken)
      (output : Dict Key execution_contract.Value),
        Returned (between ++ [⟨.receipt_sink receipt, sink⟩]) other token output ↔
        Returned between other token output := by
    intro sink other token output
    constructor
    · intro hin
      rcases List.mem_append.mp hin with hold | hnew
      · exact hold
      · cases congrArg Exchange.request (List.mem_singleton.mp hnew)
    · intro hin
      exact List.mem_append_left _ hin
  have hreturns : ∀ sink : Except Error Unit, Conforms builtins self
      (history ++ start_of self spec answer :: (between ++ [⟨.receipt_sink receipt, sink⟩]))
      (.ok (result sink.isOk)) := by
    intro sink
    refine .of_started rfl rfl huntouched.unstarted (hreceipt sink) hauthorized ?_ (by simp)
    intro returned hsame
    cases hsame
    rw [hattempts]
    simp only [returned_after_start huntouched, hreturned]
    refine ⟨Or.inr (Or.inr ⟨receipt.event_type, sink.isOk, ?_, ?_⟩), hexecuted _, ?_, ?_⟩
    · cases sink with
      | ok _ => rfl
      | error _ => rfl
    · rcases hevent with hcompleted | hfailed
      · exact Or.inl hcompleted
      · exact Or.inr (Or.inl hfailed)
    · rw [hstart]
      simp [start_persisted]
    · rw [hfinal]
      rcases hevent with hcompleted | hfailed
      · cases sink <;> simp [final_persisted, receipt_of, hcompleted, Except.isOk, Except.toBool]
      · cases sink <;> simp [final_persisted, receipt_of, hfailed, Except.isOk, Except.toBool]
  rw [follows_bind]
  refine follows_persist_recording ?_ ?_ ?_
  · rw [List.append_assoc]
    exact hreturns (.ok ())
  · intro error
    rw [List.append_assoc]
    exact hreturns (.error error)
  · intro error hbase
    rw [List.append_assoc]
    exact .of_raised huntouched hauthorized (hreceipt _) (Or.inl hbase)

/-- The ends of the handler and of what follows it. -/
theorem follows_invoke_recording (name : String) :
    (self.invoke name spec).Follows recording
      (fun returned path => Conforms builtins self path (.ok returned))
      (fun error path => Conforms builtins self path (.error error)) history := by
  have hfinished : ∀ finish : Except Error (Dict Key execution_contract.Value),
      ∀ exchange ∈ [(⟨.finish_handler spec self.token, finish⟩ : Exchange Error Requests)], ¬ Starts exchange := by
    intro finish exchange hexchange
    rw [List.mem_singleton.mp hexchange]
    rintro ⟨_, _, _, hrequest⟩
    cases hrequest
  have hfailed : ∀ (error : Error) (start : Except Error Unit) (between : Path),
      (∀ exchange ∈ between, ¬ Starts exchange) → attempted between = [] →
      (∀ other output, ¬ Returned between other self.token output) →
      (do
        let persisted ← persist (.execution .EXECUTION_FAILED .failed spec.name self.token (some spec.contract) none
          [error.message] none)
        pure (ExecutionResult.mk false .executor_failed name self.token.token_id none true persisted
          [error.message] (some spec.contract.contract_id))).Follows recording
        (fun returned path => Conforms builtins self path (.ok returned))
        (fun error path => Conforms builtins self path (.error error))
        (history ++ start_of self spec start :: between) := by
    intro error start between hbetween hnone hunfinished
    refine follows_final_recording huntouched hattempted hauthorized hbetween hnone (Or.inr rfl) (fun _ => rfl)
      (fun _ => rfl) ?_
    intro persisted
    simp only [Bool.false_eq_true, false_iff, not_exists, not_and]
    intro other output hreturned
    exact absurd hreturned (hunfinished other output)
  unfold Execution.invoke
  rw [follows_bind]
  refine follows_except_exception ?_
  rw [follows_bind]
  refine follows_perform trivial ?_ ?_
  · intro start _
    change (perform (I := Requests) (.finish_handler spec self.token)).Follows recording _ _
      (history ++ [start_of self spec (.ok start)])
    refine follows_perform trivial ?_ ?_
    · intro output _
      change Follows recording _ _ _ (history ++ [start_of self spec (.ok start)] ++
        [⟨.finish_handler spec self.token, .ok output⟩])
      rw [List.append_assoc]
      have hreturned : ∀ other found, Returned
          [(⟨.finish_handler spec self.token, .ok output⟩ : Exchange Error Requests)] other self.token found ↔
            other = spec ∧ found = output := by
        intro other found
        unfold Returned
        rw [List.mem_singleton]
        constructor
        · intro hsame
          cases hsame
          exact ⟨rfl, rfl⟩
        · rintro ⟨rfl, rfl⟩
          rfl
      have htruth : ∀ error, actuation_performed output = .error error → Conforms builtins self
          (history ++ start_of self spec (.ok start) :: [⟨.finish_handler spec self.token, .ok output⟩])
          (.error error) := by
        intro error herror
        refine .of_raised huntouched hauthorized (hfinished _) (Or.inr ⟨spec, self.token, output, ?_, ?_⟩)
        · exact (hreturned spec output).mpr ⟨rfl, rfl⟩
        · intro actuated hactuated
          rw [herror] at hactuated
          cases hactuated
      dsimp only
      cases hcompletion : validate_completion spec.contract output with
      | some message =>
        dsimp only
        rw [follows_bind, follows_conclude]
        cases hactuated : actuation_performed output with
        | error error => exact htruth error hactuated
        | ok actuated =>
          refine follows_final_recording huntouched hattempted hauthorized (hfinished _) rfl (Or.inr rfl)
            (fun _ => rfl) (fun _ => rfl) ?_
          intro persisted
          simp only [Bool.false_eq_true, false_iff, not_exists, not_and, hreturned]
          rintro other found ⟨rfl, rfl⟩ hcompletes
          rw [(validate_completion_eq_none_iff _ _).mpr hcompletes] at hcompletion
          cases hcompletion
      | none =>
        dsimp only
        rw [follows_bind, follows_conclude]
        cases hactuated : actuation_performed output with
        | error error => exact htruth error hactuated
        | ok actuated =>
          refine follows_final_recording huntouched hattempted hauthorized (hfinished _) rfl (Or.inl rfl)
            (fun _ => rfl) (fun _ => rfl) ?_
          intro persisted
          simp only [true_iff, hreturned]
          exact ⟨spec, output, ⟨rfl, rfl⟩, (validate_completion_eq_none_iff _ _).mp hcompletion⟩
    · intro error _
      change (error.is_exception = true → Follows recording _ _ _ (history ++ [start_of self spec (.ok start)] ++
          [⟨.finish_handler spec self.token, .error error⟩])) ∧
        (error.is_exception = false → Conforms builtins self (history ++ [start_of self spec (.ok start)] ++
          [⟨.finish_handler spec self.token, .error error⟩]) (.error error))
      rw [List.append_assoc]
      refine ⟨fun _ => hfailed error _ _ (hfinished _) rfl ?_, fun hbase => ?_⟩
      · intro other output hreturned
        cases List.mem_singleton.mp hreturned
      · exact .of_raised huntouched hauthorized (hfinished _) (Or.inl hbase)
  · intro error _
    refine ⟨fun _ => hfailed error _ [] (by simp) rfl (by simp [Returned]), fun hbase => ?_⟩
    exact .of_raised huntouched hauthorized (by simp) (Or.inl hbase)

end

end

/-- The ends of what follows the checks. -/
theorem follows_begin_recording {spec : ExecutorSpec} (huntouched : Untouched history)
    (hattempted : attempted history = []) (hchecked : Checked builtins self history spec) (name : String) :
    (self.begin_execution name spec).Follows recording
      (fun returned path => Conforms builtins self path (.ok returned))
      (fun error path => Conforms builtins self path (.error error)) history := by
  unfold Execution.begin_execution
  rw [follows_bind]
  refine follows_perform trivial ?_ ?_
  · rintro ⟨safe, reason⟩ _
    change Follows recording _ _ _
      (history ++ [⟨.safety_check self.token self.parameters, .ok (safe, reason)⟩])
    have hsafety : Untouched (history ++ [⟨.safety_check self.token self.parameters, .ok (safe, reason)⟩]) :=
      huntouched.concat (by simp) (by simp)
    have hnone : attempted (history ++ [⟨.safety_check self.token self.parameters, .ok (safe, reason)⟩]) = [] := by
      rw [attempted_concat, hattempted]
      rfl
    cases safe with
    | false => exact follows_deny_recording hsafety hnone _ _ _ _
    | true =>
      dsimp only
      rw [if_neg (by simp), follows_bind]
      refine follows_persist_recording ?_ ?_ ?_
      · generalize hstart : (Receipt.execution .EXECUTION_STARTED .started spec.name self.token (some spec.contract)
          none [] (some false)) = start
        have hevent : start.event_type = .EXECUTION_STARTED := by
          rw [← hstart]
          rfl
        rw [if_neg (by simp), follows_bind]
        have hstarted := @Untouched.concat _ _ hsafety ⟨.receipt_sink start, .ok ()⟩ (by simp) (by simp)
        have hone : attempted (history ++ [⟨.safety_check self.token self.parameters, .ok (true, reason)⟩] ++
            [⟨.receipt_sink start, .ok ()⟩]) = [(.EXECUTION_STARTED, true)] := by
          rw [attempted_concat, hnone]
          simp [receipt_of, hevent]
        -- The consumption is no receipt and does not touch the handler.
        have hconsumed : ∀ answer : Except Error Bool,
            Untouched (history ++ [⟨.safety_check self.token self.parameters, .ok (true, reason)⟩] ++
              [⟨.receipt_sink start, .ok ()⟩] ++
              [⟨.consume self.used_token_ids self.token.token_id, answer⟩]) ∧
            attempted (history ++ [⟨.safety_check self.token self.parameters, .ok (true, reason)⟩] ++
              [⟨.receipt_sink start, .ok ()⟩] ++
              [⟨.consume self.used_token_ids self.token.token_id, answer⟩]) = [(.EXECUTION_STARTED, true)] := by
          intro answer
          refine ⟨hstarted.concat (by simp) (by simp), ?_⟩
          rw [attempted_concat, hone]
          rfl
        refine follows_except_exception (follows_perform trivial ?_ ?_)
        · intro answer _
          obtain ⟨hpath, hreceipts⟩ := hconsumed (.ok answer)
          cases answer with
          | false => exact follows_deny_started_recording hpath hreceipts _ _ _ _
          | true =>
            obtain ⟨hcapability, htarget, hparameters⟩ := accepted_of_refusal_of_spec hchecked.accepted
            obtain ⟨current, hcurrent, hverified⟩ := hchecked.verified
            refine follows_invoke_recording hpath hreceipts ?_ name
            refine ⟨⟨current, ?_, hverified⟩, ?_, hcapability, htarget, hparameters, ⟨reason, by simp⟩,
              ⟨start, hevent, by simp⟩, by simp⟩
            · rcases hcurrent with hnow | ⟨hnow, htime⟩
              · exact Or.inl hnow
              · exact Or.inr ⟨hnow, by simp [htime]⟩
            · simp [hchecked.registered]
        · intro error _
          obtain ⟨hpath, hreceipts⟩ := hconsumed (.error error)
          exact ⟨fun _ => follows_deny_started_recording hpath hreceipts _ _ _ _,
            fun _ => .of_untouched hpath (by simp)⟩
      · intro error
        refine .of_untouched (hsafety.concat (by simp) (by simp)) ?_
        intro returned hreturned
        cases hreturned
        rw [attempted_concat, hnone]
        simp [receipt_of, Receipt.event_type, WellReceipted, start_persisted, final_persisted]
      · intro error _
        exact .of_untouched (hsafety.concat (by simp) (by simp)) (by simp)
  · intro error _
    exact .of_untouched (huntouched.concat (by simp) (by simp)) (by simp)

/-- Verification reads the clock at most, and says what it found at that time. -/
theorem follows_verified_recording (huntouched : Untouched history) (hattempted : attempted history = [])
    (hreturns : ∀ valid path, Untouched path → attempted path = [] →
      (valid = true → ∃ current, (self.now = some current ∨ (self.now = none ∧ ⟨.time, .ok current⟩ ∈ path)) ∧
        verify_token builtins.sign self.token self.signing_key current = .ok true) → returns valid path)
    (hraises : ∀ error path, Untouched path → raises error path) :
    (self.verified builtins).Follows recording returns raises history := by
  have hconclude : ∀ current path, Untouched path → attempted path = [] →
      (self.now = some current ∨ (self.now = none ∧ ⟨.time, .ok current⟩ ∈ path)) →
      (conclude (I := Requests) (verify_token builtins.sign self.token self.signing_key current)).Follows recording
        returns raises path := by
    intro current path hpath hnone hcurrent
    rw [follows_conclude]
    cases hresult : verify_token builtins.sign self.token self.signing_key current with
    | error error => exact hraises error path hpath
    | ok valid =>
      refine hreturns valid path hpath hnone ?_
      rintro rfl
      exact ⟨current, hcurrent, hresult⟩
  unfold Execution.verified
  cases hnow : self.now with
  | some now => exact hconclude now history huntouched hattempted (Or.inl hnow)
  | none =>
    rw [follows_bind]
    refine follows_perform trivial ?_ ?_
    · intro current _
      refine hconclude current _ (huntouched.concat (by simp) (by simp)) ?_ (Or.inr ⟨hnow, by simp [recording]⟩)
      exact (attempted_concat history ⟨.time, .ok current⟩).trans (by rw [hattempted]; rfl)
    · intro error _
      exact hraises error _ (huntouched.concat (by simp) (by simp))

/-- The ends of a call of the approved executor. -/
theorem follows_authorized_recording :
    (self.execute_authorized builtins).Follows recording
      (fun returned path => Conforms builtins self path (.ok returned))
      (fun error path => Conforms builtins self path (.error error)) [] := by
  unfold Execution.execute_authorized
  rw [follows_bind]
  refine follows_perform trivial ?_ ?_
  · intro used _
    have hcontains : Untouched ([] ++
        [⟨.contains self.used_token_ids self.token.token_id, (.ok used : Except Error Bool)⟩]) :=
      Untouched.nil.concat (by simp) (by simp)
    cases used with
    | true => exact follows_deny_recording hcontains rfl _ _ _ _
    | false =>
      rw [if_neg (by simp), follows_bind]
      refine follows_verified_recording hcontains rfl ?_ ?_
      · intro valid path hpath hnone hverified
        cases valid with
        | false => exact follows_deny_recording hpath hnone _ _ _ _
        | true =>
          dsimp only
          rw [if_neg (by simp), follows_bind, follows_attempt]
          have hlookup : ∀ answer : Except Error ExecutorSpec,
              Untouched (path ++ [⟨.get self.registry (normalized self.executor_name), answer⟩]) ∧
              attempted (path ++ [⟨.get self.registry (normalized self.executor_name), answer⟩]) = [] := by
            intro answer
            refine ⟨hpath.concat (by simp) (by simp), ?_⟩
            rw [attempted_concat, hnone]
            rfl
          refine follows_perform trivial ?_ ?_
          · intro spec _
            obtain ⟨hfound, hempty⟩ := hlookup (.ok spec)
            dsimp only
            cases haccepted : self.refusal_of_spec spec with
            | some refusal => exact follows_deny_recording hfound hempty _ _ _ _
            | none =>
              refine follows_begin_recording hfound hempty ⟨?_, by simp, haccepted⟩ _
              obtain ⟨current, hcurrent, hvalid⟩ := hverified rfl
              refine ⟨current, ?_, hvalid⟩
              rcases hcurrent with hnow | ⟨hnow, htime⟩
              · exact Or.inl hnow
              · exact Or.inr ⟨hnow, List.mem_append_left _ htime⟩
          · intro error _
            obtain ⟨hfound, hempty⟩ := hlookup (.error error)
            dsimp only
            split
            · exact follows_deny_recording hfound hempty _ _ _ _
            · exact .of_untouched hfound (by simp)
      · intro error path hpath
        exact .of_untouched hpath (by simp)
  · intro error _
    exact .of_untouched (Untouched.nil.concat (by simp) (by simp)) (by simp)

/-- However the requests of a call of the approved executor are answered, its end conforms: a handler is
started only after every check, the receipts are one denial, or a start receipt and one terminal receipt if
the sink accepted it, the result is an execution exactly when the handler's output completes the contract,
its flags say what the sink accepted, and an exception that escapes comes from before the handler. -/
theorem execution_conforms (builtins : Builtins) (self : Execution) (path : Path)
    (result : Except Error ExecutionResult) (hends : (self.execute_authorized builtins).Ends path result) :
    Conforms builtins self path result := by
  have hdescribed := follows_authorized_recording.of_ends hends
  cases result with
  | ok returned => exact hdescribed
  | error error => exact hdescribed

/-- The call for a token, answered in a fixed world with the given end of the handler. -/
def comfort_play (contract : ExecutionContract) (output : Except Error (Dict Key execution_contract.Value)) :
    Path × Except Error ExecutionResult :=
  ((comfort_execution "t1" 0).execute_authorized plain_builtins).play (fun request =>
    (serve plain_builtins { plain_outcome with output } request (comfort_world contract)).1)

/-- A mapping that reports a state. -/
def reporting (state : String) : Dict Key execution_contract.Value := Dict.empty.set (.text "state") (.text state)

def starts_handler (exchange : Exchange Error Requests) : Bool :=
  match exchange.request with
  | .start_handler _ _ _ => true
  | _ => false

theorem starts_of_any (hany : path.any starts_handler = true) : ∃ exchange ∈ path, Starts exchange := by
  obtain ⟨exchange, hexchange, hstarts⟩ := List.any_eq_true.mp hany
  refine ⟨exchange, hexchange, ?_⟩
  unfold starts_handler at hstarts
  split at hstarts
  · rename_i spec token parameters hrequest
    exact ⟨spec, token, parameters, hrequest⟩
  · cases hstarts

/-- The state that a handler's output reported, and the completion state it was to report. -/
def reported_state (exchange : Exchange Error Requests) : Option (Option execution_contract.Value × String) :=
  match exchange with
  | ⟨.finish_handler spec _, .ok output⟩ =>
    some (output.get? (.text "state"), spec.contract.expected_completion_state.text)
  | _ => none

end

/-- A handler that returns nothing of interest: two receipts are accepted, and the call executed it. -/
theorem completed_conforms :
    letI := StrLower.ascii
    let played := comfort_play (comfort_contract (by decide) (by decide)) (.ok Dict.empty)
    attempted played.1 = [(.EXECUTION_STARTED, true), (.EXECUTION_COMPLETED, true)] ∧
      played.2.map (·.executed) = .ok true ∧
      Conforms plain_builtins (comfort_execution "t1" 0).toExecution played.1 played.2 := by
  let := StrLower.ascii
  refine ⟨by decide, by decide, ?_⟩
  exact execution_conforms plain_builtins (comfort_execution "t1" 0).toExecution _ _ (ends_play _ _)

/-- A handler that is interrupted was started although the call raises; and one that reports the completion
state in capitals counts as executed. -/
theorem interrupted_and_capitals :
    letI := StrLower.ascii
    (∃ path error, ((comfort_execution "t1" 0).execute_authorized plain_builtins).Ends path (.error error) ∧
      ∃ exchange ∈ path, Starts exchange) ∧
    ∃ path returned, ((comfort_execution "t1" 0).execute_authorized plain_builtins).Ends path (.ok returned) ∧
      returned.executed = true ∧
      path.filterMap reported_state = [(some (.text "COMPLETED"), "completed")] := by
  have hinterrupted : letI := StrLower.ascii
      (comfort_play (comfort_contract (by decide) (by decide)) (.error ⟨.BaseException, "interrupted"⟩)).2 =
        .error ⟨.BaseException, "interrupted"⟩ := by decide
  have hstarted : letI := StrLower.ascii
      (comfort_play (comfort_contract (by decide) (by decide)) (.error ⟨.BaseException, "interrupted"⟩)).1.any
        starts_handler = true := by decide
  have hreported : letI := StrLower.ascii
      (comfort_play (comfort_contract (by decide) (by decide)) (.ok (reporting "COMPLETED"))).1.filterMap
        reported_state = [(some (.text "COMPLETED"), "completed")] := by decide
  have hexecuted : letI := StrLower.ascii
      (comfort_play (comfort_contract (by decide) (by decide)) (.ok (reporting "COMPLETED"))).2.map (·.executed) =
        .ok true := by decide
  let := StrLower.ascii
  refine ⟨⟨_, ⟨.BaseException, "interrupted"⟩, ?_, starts_of_any hstarted⟩, ?_⟩
  · rw [← hinterrupted]
    exact ends_play _ _
  · cases hplayed : (comfort_play (comfort_contract (by decide) (by decide)) (.ok (reporting "COMPLETED"))).2 with
    | error error =>
      rw [hplayed] at hexecuted
      cases hexecuted
    | ok returned =>
      rw [hplayed] at hexecuted
      refine ⟨_, returned, ?_, Except.ok.inj hexecuted, hreported⟩
      rw [← hplayed]
      exact ends_play _ _

end velvet.approved_executor
