import VelvetRuntime.SpeechEgress.Invariant

open python python.json

namespace velvet.speech_expression_egress

open SqliteSpeechEgressOutbox

/-- The longest wait between two attempts, in nanoseconds. -/
def MAX_BACKOFF_NS : Int := 60000000000

/-- The calls that the egress makes: `handle` enqueues, and `poll` asks what is due and settles what it sent. -/
inductive EgressCall where
  | handle (event : SpeechEvent)
  | due
  | settle (record : SpeechEgressRecord) (result : SpeechTransportResult)

def EgressCall.transaction : EgressCall → Transaction
  | handle event => .enqueue event none
  | due => .due none
  | settle record result => velvet.speech_expression_egress.settle record result

/-- A host with its database and the monotonic clock since it was started. -/
structure Host where
  outbox : SqliteSpeechEgressOutbox
  clock : Nat

inductive HostEvent where
  /-- A call that read the clocks some time before the database took its transaction. -/
  | call (call : EgressCall) (elapsed : Nat) (unix_ns : Int) (database : Except Error Unit)
  | tick (elapsed : Nat)
  /-- The host starts again, with the clock at any value. -/
  | restart (clock : Nat)

namespace Host

variable (builtins : Builtins)

def step (self : Host) : HostEvent → Host
  | .call call elapsed unix_ns database =>
    { self with outbox := (perform builtins ⟨call.transaction, ⟨self.clock - elapsed, unix_ns⟩, database⟩ self.outbox).2 }
  | .tick elapsed => { self with clock := self.clock + elapsed }
  | .restart clock => { self with clock }

/-- No pending record waits longer than the longest backoff. -/
def Prompt (self : Host) : Prop :=
  ∀ row ∈ self.outbox.pending, row.next_attempt_monotonic_ns ≤ self.clock + MAX_BACKOFF_NS

instance (self : Host) : Decidable self.Prompt := List.decidableBAll _ _

/-- Every state of a run is prompt. -/
def AlwaysPrompt : List HostEvent → Host → Prop
  | [], self => self.Prompt
  | event :: rest, self => self.Prompt ∧ AlwaysPrompt rest (self.step builtins event)

/-- No restart puts the clock back by more than the longest backoff before the next attempt of a pending record. -/
def ClockHolds (self : Host) : HostEvent → Prop
  | .restart clock => ∀ row ∈ self.outbox.pending, row.next_attempt_monotonic_ns ≤ clock + MAX_BACKOFF_NS
  | _ => True

def ClockAlwaysHolds : List HostEvent → Host → Prop
  | [], _ => True
  | event :: rest, self => self.ClockHolds event ∧ ClockAlwaysHolds rest (self.step builtins event)

theorem delay_seconds_le (attempt_count : Int) : delay_seconds attempt_count ≤ 60 := min_le_left _ _

variable {outbox : SqliteSpeechEgressOutbox}

theorem mem_pending {row : Row} :
    row ∈ outbox.pending ↔ row ∈ outbox.rows ∧ row.status = .pending := by
  simp [pending, List.mem_filter]

section

variable {bound : Int} (hbound : ∀ row ∈ outbox.pending, row.next_attempt_monotonic_ns ≤ bound)

include hbound

/-- An update of a pending row leaves every attempt before a bound, if it sets the attempts that are still to come
before it. -/
theorem prompt_execute
    (arguments : List Int) (database : Except Error Unit) (record_id : Nat) {change : Row → Row}
    (hsettles : Settles change)
    (hchange : ∀ row ∈ outbox.pending, (change row).status = .pending →
      (change row).next_attempt_monotonic_ns ≤ bound) :
    ∀ row ∈ (outbox.execute arguments database (outbox.update_pending record_id change hsettles.id)).2.pending,
      row.next_attempt_monotonic_ns ≤ bound := by
  intro row hrow
  rcases execute_cases arguments database outbox (outbox.update_pending record_id change hsettles.id) with
    hsame | hupdated
  · rw [hsame] at hrow
    exact hbound row hrow
  · rw [hupdated] at hrow
    obtain ⟨hin, hpending⟩ := mem_pending.mp hrow
    obtain ⟨old, hold, rfl⟩ := mem_update_pending.mp hin
    split at hpending
    · rename_i hhit
      rw [if_pos hhit]
      exact hchange old (mem_pending.mpr ⟨hold, hhit.2⟩) hpending
    · rename_i hmiss
      rw [if_neg hmiss]
      exact hbound old (mem_pending.mpr ⟨hold, hpending⟩)

/-- A row that is finished is no longer waited for. -/
theorem prompt_finish
    (record_id : Nat) {status : Status} (hfinished : status ≠ .pending) (receipt_id detail : Option String)
    (unix_ns : Int) (database : Except Error Unit) :
    ∀ row ∈ (outbox.finish record_id status receipt_id detail unix_ns database).2.pending,
      row.next_attempt_monotonic_ns ≤ bound :=
  prompt_execute hbound _ database record_id (settles_finished hfinished receipt_id detail unix_ns)
    (fun _ _ hpending => absurd hpending hfinished)

end

variable {builtins} {self : Host}

/-- A call puts no attempt off by more than the longest backoff. -/
theorem Prompt.call (hprompt : self.Prompt) (call : EgressCall) (elapsed : Nat) (unix_ns : Int)
    (database : Except Error Unit) : (self.step builtins (.call call elapsed unix_ns database)).Prompt := by
  cases call with
  | handle event =>
    rcases enqueue_cases builtins self.outbox event none ⟨self.clock - elapsed, unix_ns⟩
      database with hsame | ⟨new, hnew, hinserted⟩
    · intro row hrow
      change row ∈ (self.outbox.enqueue builtins event none _ database).2.pending at hrow
      rw [hsame] at hrow
      exact hprompt row hrow
    · intro row hrow
      change row ∈ (self.outbox.enqueue builtins event none _ database).2.pending at hrow
      rw [hinserted] at hrow
      obtain ⟨hin, hpending⟩ := mem_pending.mp hrow
      rcases (mem_insert hnew.id).mp hin with hold | rfl
      · exact hprompt row (mem_pending.mpr ⟨hold, hpending⟩)
      · rw [hnew.unattempted]
        exact add_nonneg (Int.natCast_nonneg _) (by decide)
  | due => exact hprompt
  | settle record result =>
    intro row hrow
    unfold Host.step EgressCall.transaction settle at hrow
    dsimp only at hrow ⊢
    by_cases haccepted : result.accepted = true
    · rw [if_pos haccepted] at hrow
      have hdone : Status.delivered ≠ .pending := by decide
      exact prompt_finish hprompt record.record_id hdone result.receipt_id none unix_ns database row hrow
    · rw [if_neg haccepted] at hrow
      by_cases hterminal : result.terminal = true
      · rw [if_pos hterminal] at hrow
        have hdone : Status.quarantined ≠ .pending := by decide
        exact prompt_finish hprompt record.record_id hdone none _ unix_ns database row hrow
      · rw [if_neg hterminal] at hrow
        refine prompt_execute hprompt _ database record.record_id
          (settles_retried (record.attempt_count + 1) _ _ unix_ns) (fun old _ _ => ?_) row hrow
        have hdelay := delay_seconds_le (record.attempt_count + 1)
        have hread : ((self.clock - elapsed : Nat) : Int) ≤ self.clock := by omega
        have hnext : ((self.clock - elapsed : Nat) : Int) + delay_seconds (record.attempt_count + 1) * 1000000000 ≤
            self.clock + MAX_BACKOFF_NS := by
          unfold MAX_BACKOFF_NS
          omega
        exact hnext

theorem Prompt.step (hprompt : self.Prompt) {event : HostEvent} (hholds : self.ClockHolds event) :
    (self.step builtins event).Prompt := by
  cases event with
  | call call elapsed unix_ns database => exact hprompt.call call elapsed unix_ns database
  | tick elapsed =>
    intro row hrow
    refine (hprompt row hrow).trans ?_
    change (self.clock : Int) + _ ≤ ((self.clock + elapsed : Nat) : Int) + _
    omega
  | restart clock => exact hholds

theorem always_prompt_iff (hprompt : self.Prompt) (events : List HostEvent) :
    AlwaysPrompt builtins events self ↔ ClockAlwaysHolds builtins events self := by
  induction events generalizing self with
  | nil => exact iff_of_true hprompt trivial
  | cons event rest ih =>
    constructor
    · rintro ⟨_, hrest⟩
      have hnext : (self.step builtins event).Prompt := by
        cases rest with
        | nil => exact hrest
        | cons next more => exact hrest.1
      refine ⟨?_, (ih hnext).mp hrest⟩
      cases event with
      | restart clock => exact hnext
      | call call elapsed unix_ns database => trivial
      | tick elapsed => trivial
    · rintro ⟨hholds, hrest⟩
      have hnext : (self.step builtins event).Prompt := hprompt.step hholds
      exact ⟨hprompt, (ih hnext).mpr hrest⟩

end Host

/-- The retry delay across restarts: no pending record is ever put off for longer than the longest backoff, exactly
when no restart of the host puts the clock back that far. -/
theorem retry_delay_bounded_iff (builtins : Builtins) (max_pending : { size : Nat // 0 < size }) (clock : Nat)
    (events : List HostEvent) :
    Host.AlwaysPrompt builtins events ⟨.new max_pending, clock⟩ ↔
      Host.ClockAlwaysHolds builtins events ⟨.new max_pending, clock⟩ :=
  Host.always_prompt_iff (fun _ hrow => absurd hrow List.not_mem_nil) events

/-- What an approved expression looks like. -/
def greeting : SpeechEvent where
  source := .text "velvet-language"
  event_type := .text "language.expression.speech_requested"
  metadata := .object [("contract", .text "velvet.speech-expression.v1"), ("schema_version", .text "1.0"),
    ("family", .text "speech-expression"), ("authority", .text "none"), ("expression_only", .bool true)]
  payload := .object [("schema_version", .text "1.0"), ("expression_id", .text "e1"), ("text", .text "Hello"),
    ("severity", .text "casual"), ("audience", .text "driver"), ("requested_profile", .text "default"),
    ("driving_load", .text "low"), ("emergency_context", .bool false), ("quiet_requested", .bool false),
    ("social_allowed", .bool true), ("interrupt", .bool false), ("generator", .text "g"),
    ("policy_version", .text "p1"), ("speech_approved", .bool true), ("command_authority", .bool false),
    ("actuation_authority", .bool false), ("hardware_selected", .bool false), ("synthesis_selected", .bool false)]

/-- Functions that stand in for the library's where their answers do not matter. -/
def plain_builtins : Builtins := ⟨id, ⟨fun _ => [], fun _ => .nan⟩, id⟩

/-- An expression that could not be delivered an hour after the host was started waits for an hour after the next
start. -/
theorem postponed_by_restart :
    ¬ Host.AlwaysPrompt plain_builtins
      [.call (.handle greeting) 0 0 (.ok ()),
        .call (.settle ⟨1, "e1", "", "", 0⟩ ⟨false, false, none, some "connection refused"⟩) 0 0 (.ok ()),
        .restart 0]
      ⟨.new ⟨256, by decide⟩, 3600000000000⟩ := by
  rintro ⟨_, _, _, hafter⟩
  have hlate : ¬ Host.Prompt (Host.step plain_builtins (Host.step plain_builtins (Host.step plain_builtins
      ⟨.new ⟨256, by decide⟩, 3600000000000⟩ (.call (.handle greeting) 0 0 (.ok ())))
      (.call (.settle ⟨1, "e1", "", "", 0⟩ ⟨false, false, none, some "connection refused"⟩) 0 0 (.ok ())))
      (.restart 0)) := by
    decide
  exact hlate hafter

end velvet.speech_expression_egress
