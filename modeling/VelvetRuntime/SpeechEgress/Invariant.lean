import VelvetRuntime.Python.Except
import VelvetRuntime.SpeechEgress.Outbox

open python python.json

namespace velvet.speech_expression_egress

namespace SqliteSpeechEgressOutbox

variable {builtins : Builtins} {self before after : SqliteSpeechEgressOutbox}

/-- What an `UPDATE` may do to a pending row: the envelope stays as long as the row is pending, and goes with the end
of it. The identity of a row, its content and its key never change. -/
structure Settles (change : Row → Row) : Prop where
  id : ∀ row, (change row).id = row.id
  expression_id : ∀ row, (change row).expression_id = row.expression_id
  content_sha256 : ∀ row, (change row).content_sha256 = row.content_sha256
  idempotency_key : ∀ row, (change row).idempotency_key = row.idempotency_key
  envelope : ∀ row, row.status = .pending → (change row).status = .pending ∧ (change row).envelope_json =
    row.envelope_json ∨ (change row).status ≠ .pending ∧ (change row).envelope_json = none

/-- A row that is inserted: a new expression, waiting under the next id. -/
structure IsNew (builtins : Builtins) (outbox : SqliteSpeechEgressOutbox) (row : Row) : Prop where
  id : row.id = outbox.last_id + 1
  unknown : ∀ other ∈ outbox.rows, other.expression_id ≠ row.expression_id
  room : outbox.pending.length < outbox.max_pending
  waiting : row.status = .pending
  unattempted : row.next_attempt_monotonic_ns = 0
  enveloped : ∃ occurred_ns nested, row.envelope_json = some (envelope_of builtins row.id occurred_ns nested) ∧
    row.idempotency_key = builtins.sha256 (envelope_of builtins row.id occurred_ns nested)

/-- Everything one transaction can do to the table. -/
inductive Changes (builtins : Builtins) (before : SqliteSpeechEgressOutbox) : SqliteSpeechEgressOutbox → Prop where
  | same : Changes builtins before before
  | inserted (row : Row) (hnew : IsNew builtins before row) : Changes builtins before (before.insert row hnew.id)
  | updated (record_id : Nat) (change : Row → Row) (hsettles : Settles change) :
    Changes builtins before (before.update_pending record_id change hsettles.id)

theorem execute_cases (arguments : List Int) (database : Except Error Unit)
    (self changed : SqliteSpeechEgressOutbox) : (self.execute arguments database changed).2 = self ∨
      (self.execute arguments database changed).2 = changed := by
  unfold execute
  split
  · exact .inl rfl
  · exact .inr rfl

variable {change : Row → Row}

theorem changes_execute (arguments : List Int) (database : Except Error Unit) (record_id : Nat)
    (hsettles : Settles change) :
    Changes builtins self (self.execute arguments database (self.update_pending record_id change hsettles.id)).2 := by
  rcases execute_cases arguments database self (self.update_pending record_id change hsettles.id) with hsame | hupdated
  · rw [hsame]
    exact .same
  · rw [hupdated]
    exact .updated record_id change hsettles

theorem settles_finished {status : Status} (hfinished : status ≠ .pending) (receipt_id detail : Option String)
    (unix_ns : Int) : Settles (Row.finished status receipt_id detail unix_ns) where
  id := fun _ => rfl
  expression_id := fun _ => rfl
  content_sha256 := fun _ => rfl
  idempotency_key := fun _ => rfl
  envelope := fun _ _ => .inr ⟨hfinished, rfl⟩

theorem settles_retried (attempt_count next_attempt : Int) (detail : String) (unix_ns : Int) :
    Settles (Row.retried attempt_count next_attempt detail unix_ns) where
  id := fun _ => rfl
  expression_id := fun _ => rfl
  content_sha256 := fun _ => rfl
  idempotency_key := fun _ => rfl
  envelope := fun _ hpending => .inl ⟨hpending, rfl⟩

/-- What `enqueue` does: it raises or finds the expression, and nothing changes, or it inserts the row. -/
theorem enqueue_cases (builtins : Builtins) (self : SqliteSpeechEgressOutbox) (event : SpeechEvent)
    (occurred : Option Int) (clocks : Clocks) (database : Except Error Unit) :
    (self.enqueue builtins event occurred clocks database).2 = self ∨
      ∃ row, ∃ hnew : IsNew builtins self row, self.enqueue builtins event occurred clocks database =
        (.ok row.id, self.insert row hnew.id) := by
  unfold enqueue
  split
  · exact .inl rfl
  · rename_i speech _
    dsimp only
    split
    · exact .inl rfl
    · split
      · exact .inl rfl
      · split
        · split
          · exact .inl rfl
          · exact .inl rfl
        · rename_i hfind
          split
          · exact .inl rfl
          · rename_i hroom
            split
            · exact .inl rfl
            · have hunknown : ∀ other ∈ self.rows, other.expression_id ≠ speech.expression_id := by
                intro other hother
                simpa using List.find?_eq_none.mp hfind other hother
              exact .inr ⟨.enqueued builtins (self.last_id + 1) speech _ clocks.unix_ns,
                ⟨rfl, hunknown, not_le.mp hroom, rfl, rfl, _, _, rfl, rfl⟩, rfl⟩

theorem perform_changes (builtins : Builtins) (self : SqliteSpeechEgressOutbox) (request : Request) :
    Changes builtins self (perform builtins request self).2 := by
  unfold perform
  cases request.transaction with
  | enqueue event occurred =>
    dsimp only
    rcases enqueue_cases builtins self event occurred request.clocks request.database with
      hsame | ⟨row, hnew, hinserted⟩
    · rw [hsame]
      exact .same
    · rw [hinserted]
      exact .inserted row hnew
  | due observed => exact .same
  | mark_delivered record_id receipt_id =>
    exact changes_execute _ _ record_id (settles_finished (by decide) receipt_id none request.clocks.unix_ns)
  | quarantine record_id detail =>
    exact changes_execute _ _ record_id (settles_finished (by decide) none (some detail) request.clocks.unix_ns)
  | retry record_id attempt_count detail observed =>
    exact changes_execute _ _ record_id (settles_retried attempt_count _ detail request.clocks.unix_ns)

variable {hid : ∀ row, (change row).id = row.id}

/-- A row after an update: changed if it was the pending row with the id, and as it was otherwise. -/
theorem mem_update_pending {record_id : Nat} {row : Row} :
    row ∈ (self.update_pending record_id change hid).rows ↔ ∃ old ∈ self.rows,
      (if old.id = record_id ∧ old.status = .pending then change old else old) = row :=
  List.mem_map

theorem mem_insert {row other : Row} (hid : row.id = self.last_id + 1) :
    other ∈ (self.insert row hid).rows ↔ other ∈ self.rows ∨ other = row := by
  change other ∈ self.rows ++ [row] ↔ _
  rw [List.mem_append, List.mem_singleton]

theorem ids_distinct (self : SqliteSpeechEgressOutbox) : (self.rows.map Row.id).Nodup :=
  self.ordered.imp (fun hlt => Nat.ne_of_lt hlt)

/-- There is one row with an id. -/
theorem eq_of_id {row other : Row} (hrow : row ∈ self.rows) (hother : other ∈ self.rows) (hid : row.id = other.id) :
    row = other :=
  List.inj_on_of_nodup_map self.ids_distinct hrow hother hid

/-- The invariant of the table. The sequence number of an envelope is the id of its row. -/
structure Sound (builtins : Builtins) (outbox : SqliteSpeechEgressOutbox) : Prop where
  one_row : (outbox.rows.map Row.expression_id).Nodup
  bounded : outbox.pending.length ≤ outbox.max_pending
  retained : ∀ row ∈ outbox.rows, row.status = .pending ↔ row.envelope_json.isSome = true
  sequenced : (outbox.rows.map Row.id).Nodup
  enveloped : ∀ row ∈ outbox.rows, ∃ occurred_ns nested,
    (∀ text, row.envelope_json = some text → text = envelope_of builtins row.id occurred_ns nested) ∧
      row.idempotency_key = builtins.sha256 (envelope_of builtins row.id occurred_ns nested)

theorem sound_new (max_pending : { size : Nat // 0 < size }) : Sound builtins (.new max_pending) where
  one_row := List.nodup_nil
  bounded := Nat.zero_le _
  retained := fun _ hrow => nomatch hrow
  sequenced := List.nodup_nil
  enveloped := fun _ hrow => nomatch hrow

theorem Sound.insert (hsound : Sound builtins self) {row : Row} (hnew : IsNew builtins self row) :
    Sound builtins (self.insert row hnew.id) where
  one_row := by
    change ((self.rows ++ [row]).map Row.expression_id).Nodup
    rw [List.map_append, List.nodup_append]
    refine ⟨hsound.one_row, List.nodup_singleton _, ?_⟩
    intro expression hexpression other hother
    obtain ⟨old, hold, rfl⟩ := List.mem_map.mp hexpression
    rw [List.mem_singleton.mp hother]
    exact hnew.unknown old hold
  bounded := by
    have hlength : (self.insert row hnew.id).pending.length = self.pending.length + 1 := by
      change ((self.rows ++ [row]).filter _).length = _
      rw [List.filter_append, List.length_append]
      simp [pending, hnew.waiting]
    rw [hlength]
    exact hnew.room
  retained := by
    intro other hother
    rcases (mem_insert hnew.id).mp hother with hold | rfl
    · exact hsound.retained other hold
    · obtain ⟨_, _, henvelope, _⟩ := hnew.enveloped
      exact iff_of_true hnew.waiting (by rw [henvelope]; rfl)
  sequenced := ids_distinct _
  enveloped := by
    intro other hother
    rcases (mem_insert hnew.id).mp hother with hold | rfl
    · exact hsound.enveloped other hold
    · obtain ⟨occurred_ns, nested, henvelope, hkey⟩ := hnew.enveloped
      refine ⟨occurred_ns, nested, fun text htext => ?_, hkey⟩
      rw [henvelope] at htext
      exact (Option.some.inj htext).symm

/-- An update leaves a list of the rows' fields alone that the change does not touch. -/
theorem map_update_pending {α : Type} (field : Row → α) {record_id : Nat}
    (hfield : ∀ row, field (change row) = field row) :
    (self.update_pending record_id change hid).rows.map field = self.rows.map field := by
  change (self.rows.map _).map field = _
  rw [List.map_map]
  refine List.map_congr_left fun row _ => ?_
  dsimp only [Function.comp_apply]
  split
  · exact hfield row
  · rfl

theorem Sound.update_pending (hsound : Sound builtins self) (record_id : Nat) (hsettles : Settles change) :
    Sound builtins (self.update_pending record_id change hsettles.id) where
  one_row := by
    rw [map_update_pending Row.expression_id hsettles.expression_id]
    exact hsound.one_row
  bounded := by
    refine le_trans ?_ hsound.bounded
    change ((self.rows.map _).filter _).length ≤ (self.rows.filter _).length
    rw [List.filter_map, List.length_map]
    refine List.Sublist.length_le (List.monotone_filter_right _ ?_)
    intro row hrow
    simp only [Function.comp_apply, decide_eq_true_eq] at hrow ⊢
    split at hrow
    · rename_i hhit
      exact hhit.2
    · exact hrow
  retained := by
    intro row hrow
    obtain ⟨old, hold, rfl⟩ := mem_update_pending.mp hrow
    split
    · rename_i hhit
      rcases hsettles.envelope old hhit.2 with ⟨hpending, henvelope⟩ | ⟨hfinished, hgone⟩
      · refine iff_of_true hpending ?_
        rw [henvelope]
        exact (hsound.retained old hold).mp hhit.2
      · exact iff_of_false hfinished (by rw [hgone]; decide)
    · exact hsound.retained old hold
  sequenced := ids_distinct _
  enveloped := by
    intro row hrow
    obtain ⟨old, hold, rfl⟩ := mem_update_pending.mp hrow
    obtain ⟨occurred_ns, nested, henvelope, hkey⟩ := hsound.enveloped old hold
    split
    · rename_i hhit
      refine ⟨occurred_ns, nested, fun text htext => ?_, ?_⟩
      · rw [hsettles.id]
        rcases hsettles.envelope old hhit.2 with ⟨_, hsame⟩ | ⟨_, hgone⟩
        · exact henvelope text (by rw [← hsame, htext])
        · rw [hgone] at htext
          cases htext
      · rw [hsettles.idempotency_key, hsettles.id, hkey]
    · exact ⟨occurred_ns, nested, henvelope, hkey⟩

theorem Sound.changes (hsound : Sound builtins before) (hchanges : Changes builtins before after) :
    Sound builtins after := by
  cases hchanges with
  | same => exact hsound
  | inserted row hnew => exact hsound.insert hnew
  | updated record_id change hsettles => exact hsound.update_pending record_id hsettles

/-- A row later on: the row it was, and unchanged once it is finished. -/
structure Continues (row later : Row) : Prop where
  id : later.id = row.id
  expression_id : later.expression_id = row.expression_id
  idempotency_key : later.idempotency_key = row.idempotency_key
  finished : row.status ≠ .pending → later = row
  envelope : later.status = .pending → later.envelope_json = row.envelope_json

theorem Continues.refl (row : Row) : Continues row row := ⟨rfl, rfl, rfl, fun _ => rfl, fun _ => rfl⟩

theorem Continues.trans {row middle later : Row} (hfirst : Continues row middle) (hsecond : Continues middle later) :
    Continues row later where
  id := hsecond.id.trans hfirst.id
  expression_id := hsecond.expression_id.trans hfirst.expression_id
  idempotency_key := hsecond.idempotency_key.trans hfirst.idempotency_key
  finished := by
    intro hdone
    have hmiddle := hfirst.finished hdone
    rw [← hmiddle]
    exact hsecond.finished (hmiddle ▸ hdone)
  envelope := by
    intro hpending
    by_cases hmiddle : middle.status = .pending
    · rw [hsecond.envelope hpending, hfirst.envelope hmiddle]
    · rw [hsecond.finished hmiddle] at hpending
      exact absurd hpending hmiddle

/-- No row is lost by a transaction. -/
theorem Changes.continues (hchanges : Changes builtins before after) {row : Row} (hrow : row ∈ before.rows) :
    ∃ later ∈ after.rows, Continues row later := by
  cases hchanges with
  | same => exact ⟨row, hrow, .refl row⟩
  | inserted new hnew => exact ⟨row, (mem_insert hnew.id).mpr (.inl hrow), .refl row⟩
  | updated record_id change hsettles =>
    refine ⟨_, mem_update_pending.mpr ⟨row, hrow, rfl⟩, ?_⟩
    split
    · rename_i hhit
      refine ⟨hsettles.id row, hsettles.expression_id row, hsettles.idempotency_key row,
        fun hfinished => absurd hhit.2 hfinished, fun hpending => ?_⟩
      rcases hsettles.envelope row hhit.2 with ⟨_, hsame⟩ | ⟨hfinished, _⟩
      · exact hsame
      · exact absurd hpending hfinished
    · exact .refl row

end SqliteSpeechEgressOutbox

open SqliteSpeechEgressOutbox

/-- The table after transactions of any processes, in the order in which the database takes them. -/
def run (builtins : Builtins) : List Request → SqliteSpeechEgressOutbox → SqliteSpeechEgressOutbox
  | [], self => self
  | request :: rest, self => run builtins rest (perform builtins request self).2

/-- The records that are sent: `poll` sends what `due` hands out. -/
def sends (builtins : Builtins) : List Request → SqliteSpeechEgressOutbox → List SpeechEgressRecord
  | [], _ => []
  | request :: rest, self =>
    let (outcome, after) := perform builtins request self
    match outcome with
    | .found (.ok (some record)) => record :: sends builtins rest after
    | _ => sends builtins rest after

section

variable {builtins : Builtins} {self : SqliteSpeechEgressOutbox}

theorem sound_run (hsound : Sound builtins self) (requests : List Request) :
    Sound builtins (run builtins requests self) := by
  induction requests generalizing self with
  | nil => exact hsound
  | cons request rest ih => exact ih (hsound.changes (perform_changes _ _ request))

theorem continues_run (builtins : Builtins) {row : Row} (hrow : row ∈ self.rows) (requests : List Request) :
    ∃ later ∈ (run builtins requests self).rows, Continues row later := by
  induction requests generalizing self row with
  | nil => exact ⟨row, hrow, .refl row⟩
  | cons request rest ih =>
    obtain ⟨middle, hmiddle, hfirst⟩ := (perform_changes builtins _ request).continues hrow
    obtain ⟨later, hlater, hsecond⟩ := ih hmiddle
    exact ⟨later, hlater, hfirst.trans hsecond⟩

variable {record : SpeechEgressRecord}

/-- What is sent in a run is sent by its first transaction, or later. -/
theorem sent_first_or_later {request : Request} {rest : List Request}
    (hsent : record ∈ sends builtins (request :: rest) self) :
    (∃ observed, self.due observed request.database = .ok (some record)) ∨
      record ∈ sends builtins rest (perform builtins request self).2 := by
  unfold sends at hsent
  dsimp only at hsent
  split at hsent
  · rename_i found houtcome
    rcases List.mem_cons.mp hsent with rfl | hrest
    · refine .inl ?_
      cases htransaction : request.transaction with
      | due observed =>
        simp only [perform, htransaction, Outcome.found.injEq] at houtcome
        exact ⟨_, houtcome⟩
      | _ => simp [perform, htransaction] at houtcome
    · exact .inr hrest
  · exact .inr hsent

/-- A record that is handed out is a pending row. -/
theorem row_of_due {observed : Int} {database : Except Error Unit}
    (hdue : self.due observed database = .ok (some record)) : ∃ row ∈ self.rows, row.status = .pending ∧
      row.id = record.record_id ∧ record.envelope_json = row.envelope_json.getD "None" ∧
      record.idempotency_key = row.idempotency_key := by
  unfold due at hdue
  obtain ⟨bound, _, hdue⟩ := python.except.bind_eq_ok.mp hdue
  obtain ⟨_, hfound⟩ := python.except.check_bind_eq_ok.mp hdue
  obtain ⟨row, hrow, rfl⟩ := Option.map_eq_some_iff.mp (Except.ok.inj hfound)
  have hpending := List.find?_some hrow
  simp only [Bool.and_eq_true, decide_eq_true_eq] at hpending
  exact ⟨row, List.mem_of_find?_eq_some hrow, hpending.1, rfl, rfl, rfl⟩

variable {requests : List Request}

/-- Whatever is sent for a row from some moment on carries the envelope and the key that the row has then. -/
theorem sent_as_row {row later : Row} (hlater : later ∈ self.rows) (hcontinues : Continues row later) (hsent : record ∈ sends builtins requests self) (hid : record.record_id = row.id) :
    record.envelope_json = row.envelope_json.getD "None" ∧ record.idempotency_key = row.idempotency_key := by
  induction requests generalizing self later with
  | nil => cases hsent
  | cons request rest ih =>
    obtain ⟨next, hnext, hmore⟩ := (perform_changes builtins _ request).continues hlater
    rcases sent_first_or_later hsent with ⟨observed, hdue⟩ | hrest
    · obtain ⟨found, hfound, hpending, hfound_id, henvelope, hkey⟩ := row_of_due hdue
      have hsame : found = later := eq_of_id hfound hlater (by rw [hfound_id, hid, hcontinues.id])
      subst hsame
      exact ⟨by rw [henvelope, hcontinues.envelope hpending], by rw [hkey, hcontinues.idempotency_key]⟩
    · exact ih hnext (hcontinues.trans hmore) hrest

/-- Any two sends of a row are alike. -/
theorem sends_agree {first second : SpeechEgressRecord}
    (hfirst : first ∈ sends builtins requests self) (hsecond : second ∈ sends builtins requests self)
    (hid : first.record_id = second.record_id) :
    first.envelope_json = second.envelope_json ∧ first.idempotency_key = second.idempotency_key := by
  induction requests generalizing self with
  | nil => cases hfirst
  | cons request rest ih =>
    have hhead : ∀ {sent other : SpeechEgressRecord} {observed : Int},
        self.due observed request.database = .ok (some sent) → other ∈ sends builtins (request :: rest) self →
        sent.record_id = other.record_id →
        sent.envelope_json = other.envelope_json ∧ sent.idempotency_key = other.idempotency_key := by
      intro sent other observed hdue hother hsame
      obtain ⟨row, hrow, _, hrow_id, henvelope, hkey⟩ := row_of_due hdue
      obtain ⟨hother_envelope, hother_key⟩ := sent_as_row hrow (.refl row) hother (by rw [hrow_id, hsame])
      exact ⟨by rw [henvelope, hother_envelope], by rw [hkey, hother_key]⟩
    rcases sent_first_or_later hfirst with ⟨observed, hdue⟩ | hfirst_rest
    · exact hhead hdue hsecond hid
    · rcases sent_first_or_later hsecond with ⟨observed, hdue⟩ | hsecond_rest
      · obtain ⟨henvelope, hkey⟩ := hhead hdue hfirst hid.symm
        exact ⟨henvelope.symm, hkey.symm⟩
      · exact ih hfirst_rest hsecond_rest

end

/-- The invariant of the outbox. In every run of transactions of any number of processes, the table is sound, no
finished row ever changes, all sends of one row are alike, and an `enqueue` that raises changes nothing. -/
theorem outbox_invariant (builtins : Builtins) (max_pending : { size : Nat // 0 < size })
    (past future : List Request) :
    letI self := run builtins past (.new max_pending)
    Sound builtins self ∧
      (∀ row ∈ self.rows, row.status ≠ .pending → row ∈ (run builtins future self).rows) ∧
      (∀ first ∈ sends builtins past (.new max_pending), ∀ second ∈ sends builtins past (.new max_pending),
        first.record_id = second.record_id →
          first.envelope_json = second.envelope_json ∧ first.idempotency_key = second.idempotency_key) ∧
      ∀ event occurred clocks database error after,
        self.enqueue builtins event occurred clocks database = (.error error, after) → after = self := by
  refine ⟨sound_run (sound_new max_pending) past, ?_, ?_, ?_⟩
  · intro row hrow hfinished
    obtain ⟨later, hlater, hcontinues⟩ := continues_run builtins hrow future
    rw [← hcontinues.finished hfinished]
    exact hlater
  · intro first hfirst second hsecond hid
    exact sends_agree hfirst hsecond hid
  · intro event occurred clocks database error after hraised
    rcases enqueue_cases builtins (run builtins past (.new max_pending)) event occurred clocks
      database with hsame | ⟨row, hnew, hinserted⟩
    · rw [hraised] at hsame
      exact hsame
    · rw [hinserted] at hraised
      cases hraised

end velvet.speech_expression_egress
