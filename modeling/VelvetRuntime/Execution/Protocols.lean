import VelvetRuntime.Execution.Coordinated

open python python.str velvet.court_token velvet.execution_contract velvet.resource_coordinator
open velvet.token_replay_ledger velvet.approved_executor velvet.coordinated_executor

namespace velvet.approved_executor

open Thread

/-- Whether a receipt is about the execution and not about resources. -/
def Receipt.of_execution [StrLower] : Receipt → Bool
  | .execution .. => true
  | .resource .. => false

variable [StrLower] {P : Type} {protocol : Protocol Error Requests P} {stage : P}
variable {raises : Error → P → Prop}

theorem follows_except_exception {α : Type} {body : Thread Error Requests α} {returns : Except Error α → P → Prop}
    (hbody : body.Follows protocol (fun value => returns (.ok value))
      (fun error after => (error.is_exception = true → returns (.error error) after) ∧
        (error.is_exception = false → raises error after)) stage) :
    (except_exception body).Follows protocol returns raises stage := by
  unfold except_exception
  rw [follows_bind, follows_attempt]
  refine hbody.mono (fun _ _ hreturns => hreturns) ?_
  rintro error after ⟨hreturns, hraises⟩
  dsimp only
  split
  · rename_i hexception
    exact hreturns hexception
  · rename_i hexception
    exact hraises (by simpa using hexception)

/-- Receipts leave a call where it is, whatever becomes of them. -/
theorem follows_persist {returns : Bool → P → Prop} {receipt : Receipt}
    (hquiet : Quiet protocol stage (.receipt_sink receipt)) (hreturns : ∀ persisted, returns persisted stage)
    (hraises : ∀ error, raises error stage) : (persist receipt).Follows protocol returns raises stage := by
  unfold persist
  rw [follows_bind]
  refine follows_except_exception (follows_perform_quiet hquiet ?_ ?_)
  · intro _
    exact hreturns true
  · intro error
    exact ⟨fun _ => hreturns false, fun _ => hraises error⟩

variable {returns : ExecutionResult → P → Prop} {state : ExecutionState}

theorem follows_deny {name : String} {token : CapabilityToken}
    {contract : Option ExecutionContract} {errors : List String}
    (hreceipts : ∀ receipt, receipt.of_execution = true → Quiet protocol stage (.receipt_sink receipt)) (hreturns : ∀ result, returns result stage)
    (hraises : ∀ error, raises error stage) :
    (deny state name token contract errors).Follows protocol returns raises stage := by
  unfold deny
  rw [follows_bind]
  exact follows_persist (hreceipts _ rfl) (fun _ => hreturns _) hraises

namespace Execution

variable {self : Execution} {name : String} {spec : ExecutorSpec}

theorem follows_deny_started {errors : List String}
    (hreceipts : ∀ receipt, receipt.of_execution = true → Quiet protocol stage (.receipt_sink receipt)) (hreturns : ∀ result, returns result stage)
    (hraises : ∀ error, raises error stage) :
    (self.deny_started name spec state errors).Follows protocol returns raises stage := by
  unfold deny_started
  rw [follows_bind]
  exact follows_persist (hreceipts _ rfl) (fun _ => hreturns _) hraises

/-- The handler takes the call to the stage in which it runs, and nothing that follows leads on. -/
theorem follows_invoke {running : P}
    (hstart : protocol.allowed stage (.start_handler spec self.token self.parameters))
    (hstarted : ∀ answer, protocol.next stage (.start_handler spec self.token self.parameters) answer = running)
    (hfinish : Quiet protocol running (.finish_handler spec self.token))
    (hreceipts : ∀ receipt, receipt.of_execution = true → Quiet protocol running (.receipt_sink receipt))
    (hreturns : ∀ result, returns result running) (hraises : ∀ error, raises error running) :
    (self.invoke name spec).Follows protocol returns raises stage := by
  unfold invoke
  rw [follows_bind]
  refine follows_except_exception ?_
  rw [follows_bind]
  have hfailed : ∀ error : Error,
      (do
        let persisted ← persist (.execution .EXECUTION_FAILED .failed spec.name self.token (some spec.contract) none
          [error.message] none)
        pure (ExecutionResult.mk false .executor_failed name self.token.token_id none true persisted
          [error.message] (some spec.contract.contract_id))).Follows protocol returns raises running := by
    intro error
    rw [follows_bind]
    exact follows_persist (hreceipts _ rfl) (fun _ => hreturns _) hraises
  refine follows_perform hstart ?_ ?_
  · intro answer _
    rw [hstarted]
    refine follows_perform_quiet hfinish ?_ (fun error => ⟨fun _ => hfailed error, fun _ => hraises error⟩)
    intro output
    dsimp only
    split
    · rw [follows_bind, follows_conclude]
      split
      · rw [follows_bind]
        exact follows_persist (hreceipts _ rfl) (fun _ => hreturns _) hraises
      · exact hraises _
    · rw [follows_bind, follows_conclude]
      split
      · rw [follows_bind]
        exact follows_persist (hreceipts _ rfl) (fun _ => hreturns _) hraises
      · exact hraises _
  · intro error _
    rw [hstarted]
    exact ⟨fun _ => hfailed error, fun _ => hraises error⟩

/-- What follows the checks: only a consumption that says yes leads to the handler. -/
theorem follows_begin_execution
    (hsafety : Quiet protocol stage (.safety_check self.token self.parameters))
    (hreceipts : ∀ stage receipt, receipt.of_execution = true → Quiet protocol stage (.receipt_sink receipt))
    (hconsume : protocol.allowed stage (.consume self.used_token_ids self.token.token_id))
    (hrefused : ∀ answer, answer ≠ .ok true →
      (∀ result, returns result (protocol.next stage (.consume self.used_token_ids self.token.token_id) answer)) ∧
      ∀ error, raises error (protocol.next stage (.consume self.used_token_ids self.token.token_id) answer))
    (hinvoke : (self.invoke name spec).Follows protocol returns raises
      (protocol.next stage (.consume self.used_token_ids self.token.token_id) (.ok true)))
    (hreturns : ∀ result, returns result stage) (hraises : ∀ error, raises error stage) :
    (self.begin_execution name spec).Follows protocol returns raises stage := by
  unfold begin_execution
  rw [follows_bind]
  refine follows_perform_quiet hsafety ?_ hraises
  rintro ⟨safe, reason⟩
  dsimp only
  split
  · exact follows_deny (hreceipts _) hreturns hraises
  · rw [follows_bind]
    refine follows_persist (hreceipts _ _ rfl) ?_ hraises
    intro started
    split
    · exact hreturns _
    · rw [follows_bind]
      refine follows_except_exception (follows_perform hconsume ?_ ?_)
      · intro answer _
        cases answer with
        | false =>
          obtain ⟨hdenied, herrors⟩ := hrefused (.ok false) (by simp)
          exact follows_deny_started (hreceipts _) hdenied herrors
        | true => exact hinvoke
      · intro error _
        obtain ⟨hdenied, herrors⟩ := hrefused (.error error) (by simp)
        exact ⟨fun _ => follows_deny_started (hreceipts _) hdenied herrors, fun _ => herrors error⟩

end Execution

end velvet.approved_executor
