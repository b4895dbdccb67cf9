import VelvetRuntime.BodyState.Interleaving

open python python.num python.str

namespace velvet.body_state_bridge

variable [StrLower] [StrUpper]

/-- A bridge with the files that it keeps. -/
structure BridgeState where
  bridge : BodyStateSnapshotBridge
  disk : Disk

/-- `_append_journal`. -/
def append_journal (journaled : Bool) (journal : List Json) (record : BodyRecord) : List Json :=
  if journaled then journal ++ [record.document] else journal

/-- The loop of `publish_many`, with what the memory and the journal hold when it ends. -/
def publish_each (journaled : Bool) (bridge : BodyStateSnapshotBridge) (journal : List Json) :
    List Json → BodyStateSnapshotBridge × List Json × Except Error Unit
  | [] => (bridge, journal, .ok ())
  | record :: rest =>
    match validated record with
    | .error error => (bridge, journal, .error error)
    | .ok body =>
      match bridge.apply body with
      | .error error => (bridge, append_journal journaled journal body, .error error)
      | .ok merged => publish_each journaled merged (append_journal journaled journal body) rest

/-- What the snapshot file holds after a call that does not raise: it is replaced when a record was accepted, or when
there was none. -/
def replaced_snapshot (records : List Json) (file : SnapshotFile) (document : Json) : SnapshotFile :=
  match records, file with
  | [], .undecodable => .undecodable
  | [], .document value => .document value
  | _, _ => .document document

/-- `publish_many` of a bridge without a lock. -/
def BridgeState.publish_many (state : BridgeState) (journaled : Bool) (call : PublishCall) :
    BridgeState × Except Error Json :=
  match publish_each journaled state.bridge state.disk.journal call.records with
  | (bridge, journal, .error error) => (⟨bridge, { state.disk with journal }⟩, .error error)
  | (bridge, journal, .ok ()) =>
    let document := bridge.snapshot call.captured_at call.generated_monotonic
    (⟨bridge, ⟨replaced_snapshot call.records state.disk.snapshot document, journal⟩⟩, .ok document)

/-- The loop ends as the one of the locked bridge does. -/
theorem publish_each_eq_publish_records (journaled : Bool) : ∀ (records : List Json) (bridge : BodyStateSnapshotBridge)
    (journal : List Json), publish_records journaled journal bridge records =
      ((publish_each journaled bridge journal records).2.1,
        (publish_each journaled bridge journal records).2.2.map
          (fun _ => (publish_each journaled bridge journal records).1))
  | [], _, _ => rfl
  | record :: rest, bridge, journal => by
    unfold publish_records publish_each
    cases validated record with
    | error error => rfl
    | ok body =>
      dsimp only
      cases bridge.apply body with
      | error error => rfl
      | ok merged => exact publish_each_eq_publish_records journaled rest merged _

/-- The call of a locked bridge is that of a bridge that was just loaded from the snapshot file. -/
theorem locked_publish_many_eq (producer : LockedBodyStateSnapshotBridge) (disk : Disk) (call : PublishCall)
    {bridge : BodyStateSnapshotBridge} (hloaded : BodyStateSnapshotBridge.new producer.max_modules disk.snapshot = .ok bridge) :
    producer.publish_many disk call =
      (((⟨bridge, disk⟩ : BridgeState).publish_many producer.journaled call).1.disk,
        ((⟨bridge, disk⟩ : BridgeState).publish_many producer.journaled call).2) := by
  unfold LockedBodyStateSnapshotBridge.publish_many BridgeState.publish_many
  rw [hloaded]
  dsimp only
  rw [publish_each_eq_publish_records]
  generalize publish_each producer.journaled bridge disk.journal call.records = ended
  obtain ⟨reached, journal, result⟩ := ended
  cases result with
  | error error => rfl
  | ok _ => rfl

/-- The calls of one bridge with a journal, those that raise among them. -/
def BridgeState.run (state : BridgeState) (calls : List PublishCall) : BridgeState :=
  calls.foldl (fun state call => (state.publish_many true call).1) state

/-- A record that the bridge refuses is one that loading leaves out. -/
theorem load_record_refused {bridge : BodyStateSnapshotBridge} {record : BodyRecord} {error : Error}
    (hrefused : bridge.apply record = .error error) : load_record bridge record.document = .ok bridge := by
  have hskipped : is_skipped error = true := by
    unfold BodyStateSnapshotBridge.apply ModuleTable.merge at hrefused
    split at hrefused
    · split at hrefused <;> cases hrefused
    · split at hrefused
      · cases hrefused
        rfl
      · cases hrefused
  unfold load_record
  rw [validated_document, except.ok_bind, hrefused]
  exact if_pos hskipped

/-- What a batch appends to the journal leads from the bridge as it was to the bridge as the batch leaves it. -/
theorem publish_each_replayed (records journal : List Json) (bridge : BodyStateSnapshotBridge) :
    ∃ appended, (publish_each true bridge journal records).2.1 = journal ++ appended ∧
      appended.foldlM load_record bridge = .ok (publish_each true bridge journal records).1 := by
  induction records generalizing bridge journal with
  | nil => exact ⟨[], (List.append_nil _).symm, rfl⟩
  | cons record rest ih =>
    unfold publish_each
    cases validated record with
    | error error => exact ⟨[], (List.append_nil _).symm, rfl⟩
    | ok body =>
      dsimp only
      cases happly : bridge.apply body with
      | error error => exact ⟨[body.document], rfl, except.bind_eq_ok.mpr ⟨_, load_record_refused happly, rfl⟩⟩
      | ok merged =>
        obtain ⟨appended, hjournal, hreplayed⟩ := ih (append_journal true journal body) merged
        refine ⟨body.document :: appended, hjournal.trans (List.append_assoc _ _ _), ?_⟩
        exact except.bind_eq_ok.mpr ⟨merged, load_record_document bridge happly, hreplayed⟩

/-- The journal has all that the memory has: in every run, whichever of its batches raise, what was appended leads the
loader from the bridge at the start to the bridge at the end. -/
theorem journal_replays_run (state : BridgeState) (calls : List PublishCall) :
    ∃ appended, (state.run calls).disk.journal = state.disk.journal ++ appended ∧
      appended.foldlM load_record state.bridge = .ok (state.run calls).bridge := by
  induction calls generalizing state with
  | nil => exact ⟨[], (List.append_nil _).symm, rfl⟩
  | cons call rest ih =>
    obtain ⟨first, hfirst, hbatch⟩ := publish_each_replayed call.records state.disk.journal state.bridge
    obtain ⟨later, hlater, hrest⟩ := ih (state.publish_many true call).1
    have hcall : (state.publish_many true call).1.bridge =
          (publish_each true state.bridge state.disk.journal call.records).1 ∧
        (state.publish_many true call).1.disk.journal = state.disk.journal ++ first := by
      rw [← hfirst]
      unfold BridgeState.publish_many
      generalize publish_each true state.bridge state.disk.journal call.records = ended
      obtain ⟨reached, journal, result⟩ := ended
      cases result <;> exact ⟨rfl, rfl⟩
    refine ⟨first ++ later, ?_, ?_⟩
    · rw [← List.append_assoc, ← hcall.2]
      exact hlater
    · rw [List.foldlM_append, hbatch, except.ok_bind, ← hcall.1]
      exact hrest

/-- What a merge keeps of a module: the record that came, unless it is older. -/
def kept_after (current : Option BodyRecord) (record : BodyRecord) : BodyRecord :=
  match current with
  | some kept => if record.timestamp.less kept.timestamp then kept else record
  | none => record

/-- What is kept of a module when records of it come one after the other. -/
def kept_after_all (current : Option BodyRecord) (records : List BodyRecord) : Option BodyRecord :=
  records.foldl (fun current record => some (kept_after current record)) current

/-- The records that are filed under a family and a module. -/
def filed_records (records : List BodyRecord) (family : Family) (module_id : String) : List BodyRecord :=
  records.filter (fun record => record.filed_under = family ∧ record.module_id = module_id)

theorem ModuleTable.get?_merge_eq {table merged : ModuleTable} {max_modules : Nat} {record : BodyRecord}
    (hmerge : table.merge max_modules record = .ok merged) :
    merged.get? record.module_id = some (kept_after (table.get? record.module_id) record) := by
  have hput : (table.put record).get? record.module_id = some record := (Dict.get?_set _ _ _ _).trans (if_pos rfl)
  unfold merge at hmerge
  split at hmerge
  case h_1 current hcurrent =>
    rw [hcurrent, kept_after]
    split at hmerge
    case isTrue hold =>
      cases hmerge
      rw [if_pos hold, hcurrent]
    case isFalse hnew =>
      cases hmerge
      rw [if_neg hnew, hput]
  case h_2 hnone =>
    obtain ⟨_, hmerged⟩ := except.guard_eq_ok.mp hmerge
    cases hmerged
    rw [hput, hnone, kept_after]

theorem get?_apply_eq {bridge merged : BodyStateSnapshotBridge} {record : BodyRecord}
    (happly : bridge.apply record = .ok merged) (family : Family) (module_id : String) :
    (merged.table family).get? module_id = kept_after_all ((bridge.table family).get? module_id)
      (filed_records [record] family module_id) := by
  by_cases hfiled : record.filed_under = family ∧ record.module_id = module_id
  · obtain ⟨rfl, rfl⟩ := hfiled
    have hone : filed_records [record] record.filed_under record.module_id = [record] :=
      List.filter_cons_of_pos (by simp)
    rw [hone]
    obtain ⟨table, hmerge, hmerged⟩ := except.bind_eq_ok.mp happly
    cases hmerged
    rw [BodyStateSnapshotBridge.table_set_table, if_pos rfl]
    exact ModuleTable.get?_merge_eq hmerge
  · have hnone : filed_records [record] family module_id = [] := List.filter_cons_of_neg (by simpa using hfiled)
    rw [hnone]
    by_cases hmodule : module_id = record.module_id
    · have hfamily : family ≠ record.filed_under := fun hsame => hfiled ⟨hsame.symm, hmodule.symm⟩
      rw [BodyStateSnapshotBridge.table_apply_of_ne happly hfamily]
      rfl
    · exact BodyStateSnapshotBridge.get?_apply_of_ne happly hmodule family

/-- What a bridge holds of a module after records were accepted. -/
theorem get?_accepted {records : List BodyRecord} {bridge reached : BodyStateSnapshotBridge}
    (haccepted : records.foldlM BodyStateSnapshotBridge.apply bridge = .ok reached) (family : Family)
    (module_id : String) : (reached.table family).get? module_id =
      kept_after_all ((bridge.table family).get? module_id) (filed_records records family module_id) := by
  induction records generalizing bridge with
  | nil =>
    cases haccepted
    rfl
  | cons record rest ih =>
    obtain ⟨merged, happly, hrest⟩ := except.bind_eq_ok.mp haccepted
    have hsplit : filed_records (record :: rest) family module_id =
        filed_records [record] family module_id ++ filed_records rest family module_id := by
      unfold filed_records
      rw [← List.filter_append, List.singleton_append]
    rw [ih hrest, get?_apply_eq happly, hsplit]
    unfold kept_after_all
    rw [List.foldl_append]

theorem kept_of_older {kept : BodyRecord} {records : List BodyRecord}
    (holder : ∀ record ∈ records, record.timestamp.less kept.timestamp = true) :
    kept_after_all (some kept) records = some kept := by
  induction records with
  | nil => rfl
  | cons record rest ih =>
    rw [List.forall_mem_cons] at holder
    have hkept : kept_after (some kept) record = kept := if_pos holder.1
    rw [kept_after_all, List.foldl_cons, hkept]
    exact ih holder.2

/-- Two records lead to the same one, unless one of them outlasts all that come. -/
theorem kept_after_all_meet (first second : BodyRecord) (records : List BodyRecord) :
    kept_after_all (some first) records = kept_after_all (some second) records ∨
      (∀ record ∈ records, record.timestamp.less first.timestamp = true) ∨
      ∀ record ∈ records, record.timestamp.less second.timestamp = true := by
  induction records generalizing first second with
  | nil => exact .inr (.inl (List.forall_mem_nil _))
  | cons record rest ih =>
    simp only [kept_after_all, List.foldl_cons, List.forall_mem_cons] at ih ⊢
    by_cases hfirst : record.timestamp.less first.timestamp = true
    · by_cases hsecond : record.timestamp.less second.timestamp = true
      · simpa [kept_after, hfirst, hsecond] using ih first second
      · rcases ih first record with hsame | holder | holder
        · exact .inl (by simpa [kept_after, hfirst, hsecond] using hsame)
        · exact .inr (.inl ⟨hfirst, holder⟩)
        · exact .inr (.inl ⟨hfirst, fun later hlater => JsonFloat.less_trans (holder later hlater) hfirst⟩)
    · by_cases hsecond : record.timestamp.less second.timestamp = true
      · rcases ih record second with hsame | holder | holder
        · exact .inl (by simpa [kept_after, hfirst, hsecond] using hsame)
        · exact .inr (.inr ⟨hsecond, fun later hlater => JsonFloat.less_trans (holder later hlater) hsecond⟩)
        · exact .inr (.inr ⟨hsecond, holder⟩)
      · exact .inl (by simp [kept_after, hfirst, hsecond])

theorem isSome_kept_after_all {current : Option BodyRecord} {records : List BodyRecord}
    (hsome : current.isSome = true ∨ records ≠ []) : (kept_after_all current records).isSome = true := by
  induction records generalizing current with
  | nil => exact hsome.resolve_right (· rfl)
  | cons record rest ih => exact ih (.inl rfl)

theorem kept_after_all_again (current : Option BodyRecord) (records : List BodyRecord) :
    kept_after_all (kept_after_all current records) records = kept_after_all current records := by
  cases records with
  | nil => rfl
  | cons record rest =>
    obtain ⟨found, hfound⟩ := Option.isSome_iff_exists.mp
      (@isSome_kept_after_all _ _ current _ (.inr (List.cons_ne_nil record rest)))
    -- a first record may as well replace itself
    obtain ⟨kept, hkept⟩ : ∃ kept, kept_after_all (some kept) (record :: rest) = some found := by
      cases current with
      | some kept => exact ⟨kept, hfound⟩
      | none => exact ⟨record, by simpa [kept_after_all, kept_after] using hfound⟩
    rw [hfound]
    rcases kept_after_all_meet kept found (record :: rest) with hsame | holder | holder
    · exact hsame.symm.trans hkept
    · rw [kept_of_older holder] at hkept
      cases hkept
      exact kept_of_older holder
    · exact kept_of_older holder

/-- Records of modules that the bridge knows are accepted. -/
theorem accepted_of_known {records : List BodyRecord} {bridge : BodyStateSnapshotBridge}
    (hknown : ∀ record ∈ records, ((bridge.table record.filed_under).get? record.module_id).isSome = true) :
    ∃ reached, records.foldlM BodyStateSnapshotBridge.apply bridge = .ok reached := by
  induction records generalizing bridge with
  | nil => exact ⟨bridge, rfl⟩
  | cons record rest ih =>
    rw [List.forall_mem_cons] at hknown
    obtain ⟨current, hcurrent⟩ := Option.isSome_iff_exists.mp hknown.1
    obtain ⟨merged, happly⟩ : ∃ merged, bridge.apply record = .ok merged := by
      unfold BodyStateSnapshotBridge.apply ModuleTable.merge
      rw [hcurrent]
      dsimp only
      split
      · exact ⟨_, rfl⟩
      · exact ⟨_, rfl⟩
    obtain ⟨reached, hreached⟩ := @ih merged fun later hlater => by
      rw [get?_apply_eq happly]
      exact isSome_kept_after_all (.inl (hknown.2 later hlater))
    exact ⟨reached, except.bind_eq_ok.mpr ⟨merged, happly, hreached⟩⟩

/-- Records that were accepted can be replayed, and the bridge is left as it is. -/
theorem replay_changes_nothing {records : List BodyRecord} {bridge reached : BodyStateSnapshotBridge}
    (haccepted : records.foldlM BodyStateSnapshotBridge.apply bridge = .ok reached) :
    ∃ again, records.foldlM BodyStateSnapshotBridge.apply reached = .ok again ∧
      ∀ family module_id, (again.table family).get? module_id = (reached.table family).get? module_id := by
  obtain ⟨again, hagain⟩ := @accepted_of_known _ _ records reached fun record hrecord => by
    rw [get?_accepted haccepted]
    exact isSome_kept_after_all (.inr (List.ne_nil_of_mem (List.mem_filter.mpr ⟨hrecord, by simp⟩)))
  refine ⟨again, hagain, fun family module_id => ?_⟩
  rw [get?_accepted hagain, get?_accepted haccepted, kept_after_all_again]

omit [StrLower] [StrUpper] in
theorem replayed_seat :
    letI := StrLower.ascii
    letI := StrUpper.ascii
    let records := bodies_of [evidence "sensor" "SENSOR_PACKET_OBSERVED" "seat" 1]
    ∃ reached again, records.foldlM BodyStateSnapshotBridge.apply ⟨256, .empty, .empty⟩ = .ok reached ∧
      records.foldlM BodyStateSnapshotBridge.apply reached = .ok again := by
  let := StrLower.ascii
  let := StrUpper.ascii
  intro records
  obtain ⟨again, hagain, _⟩ := @replay_changes_nothing _ _ records ⟨256, .empty, .empty⟩ _ rfl
  exact ⟨_, again, rfl, hagain⟩

/-- The records before a refused one are accepted one after the other, and lead to a bridge that refuses it. -/
structure ReachesRefused (bridge : BodyStateSnapshotBridge) (earlier : List BodyRecord) (record : Json)
    (reached : BodyStateSnapshotBridge) : Prop where
  accepted : earlier.foldlM BodyStateSnapshotBridge.apply bridge = .ok reached
  refused : (∃ error, validated record = .error error) ∨
    ∃ body error, validated record = .ok body ∧ reached.apply body = .error error

/-- What is written to the journal up to a refused record: also the record itself, when it is a valid one. -/
def journal_lines (journaled : Bool) (earlier : List BodyRecord) (record : Json) : List Json :=
  if journaled then earlier.map BodyRecord.document ++ (validated record).toOption.toList.map BodyRecord.document else []

variable {journaled : Bool} {earlier : List BodyRecord}

theorem publish_each_of_refused {record : Json} (later : List Json)
    {bridge reached : BodyStateSnapshotBridge} (journal : List Json)
    (hrefused : ReachesRefused bridge earlier record reached) :
    ∃ error, publish_each journaled bridge journal (earlier.map BodyRecord.document ++ record :: later) =
      (reached, journal ++ journal_lines journaled earlier record, .error error) := by
  obtain ⟨haccepted, hrefused⟩ := hrefused
  induction earlier generalizing bridge journal with
  | nil =>
    cases haccepted
    rw [List.map_nil, List.nil_append, publish_each]
    rcases hrefused with ⟨error, hinvalid⟩ | ⟨body, error, hvalid, hlimit⟩
    · rw [hinvalid]
      refine ⟨error, ?_⟩
      unfold journal_lines
      rw [hinvalid]
      cases journaled <;> simp [Except.toOption]
    · rw [hvalid]
      dsimp only
      rw [hlimit]
      refine ⟨error, ?_⟩
      unfold journal_lines append_journal
      rw [hvalid]
      cases journaled <;> simp [Except.toOption]
  | cons body rest ih =>
    obtain ⟨merged, happly, hrest⟩ := except.bind_eq_ok.mp haccepted
    obtain ⟨error, herror⟩ := ih (append_journal journaled journal body) hrest
    refine ⟨error, ?_⟩
    rw [List.map_cons, List.cons_append, publish_each, validated_document]
    dsimp only
    rw [happly]
    dsimp only
    rw [herror]
    unfold journal_lines append_journal
    cases journaled <;> simp

theorem exists_refused {records journal after_journal : List Json}
    {bridge after : BodyStateSnapshotBridge} {error : Error}
    (hpublish : publish_each journaled bridge journal records = (after, after_journal, .error error)) :
    ∃ earlier record later reached, records = earlier.map BodyRecord.document ++ record :: later ∧
      ReachesRefused bridge earlier record reached := by
  induction records generalizing bridge journal with
  | nil => cases hpublish
  | cons record rest ih =>
    unfold publish_each at hpublish
    cases hvalid : validated record with
    | error error => exact ⟨[], record, rest, bridge, rfl, rfl, .inl ⟨error, hvalid⟩⟩
    | ok body =>
      rw [hvalid] at hpublish
      dsimp only at hpublish
      cases happly : bridge.apply body with
      | error error => exact ⟨[], record, rest, bridge, rfl, rfl, .inr ⟨body, error, hvalid, happly⟩⟩
      | ok merged =>
        rw [happly] at hpublish
        obtain ⟨earlier, refused, later, reached, hrest, haccepted, hrefused⟩ := ih hpublish
        refine ⟨body :: earlier, refused, later, reached, ?_, ?_, hrefused⟩
        · rw [List.map_cons, List.cons_append, ← hrest, validated_eq_ok_iff.mp hvalid]
        · exact except.bind_eq_ok.mpr ⟨merged, happly, haccepted⟩

/-- Nothing of what a bridge and its files hold has changed; dicts are the same whatever the order of their keys. -/
structure Untouched (before after : BridgeState) : Prop where
  records : ∀ family module_id, (after.bridge.table family).get? module_id = (before.bridge.table family).get? module_id
  snapshot : after.disk.snapshot = before.disk.snapshot
  journal : after.disk.journal = before.disk.journal

/-- The records lead back to what the bridge held of every module. -/
def LeavesNothing (bridge : BodyStateSnapshotBridge) (records : List BodyRecord) : Prop :=
  ∀ family module_id, kept_after_all ((bridge.table family).get? module_id) (filed_records records family module_id) =
    (bridge.table family).get? module_id

/-- A call that raises at a record leaves everything as it was when the journal gets no line and the records before it
leave nothing. -/
theorem untouched_iff {state : BridgeState} {call : PublishCall}
    {record : Json} {later : List Json} {reached : BodyStateSnapshotBridge}
    (hrecords : call.records = earlier.map BodyRecord.document ++ record :: later)
    (hrefused : ReachesRefused state.bridge earlier record reached) :
    (∃ error, (state.publish_many journaled call).2 = .error error) ∧
      (Untouched state (state.publish_many journaled call).1 ↔
        (journaled = true → earlier = [] ∧ ∃ error, validated record = .error error) ∧
          LeavesNothing state.bridge earlier) := by
  obtain ⟨error, hpublish⟩ : ∃ error, publish_each journaled _ _ _ = (_, _, .error error) :=
    publish_each_of_refused later state.disk.journal hrefused
  have hafter : state.publish_many journaled call =
      (⟨reached, { state.disk with journal := state.disk.journal ++ journal_lines journaled earlier record }⟩,
        .error error) := by
    unfold BridgeState.publish_many
    rw [hrecords, hpublish]
  have hlines : journal_lines journaled earlier record = [] ↔
      (journaled = true → earlier = [] ∧ ∃ error, validated record = .error error) := by
    unfold journal_lines
    cases journaled with
    | false => simp
    | true =>
      cases validated record with
      | error error => simp [Except.toOption]
      | ok body => simp [Except.toOption]
  rw [hafter]
  refine ⟨⟨error, rfl⟩, ?_⟩
  rw [← hlines]
  constructor
  · intro huntouched
    refine ⟨List.append_right_eq_self.mp huntouched.journal, fun family module_id => ?_⟩
    rw [← get?_accepted hrefused.accepted]
    exact huntouched.records family module_id
  · rintro ⟨hjournal, hnothing⟩
    refine ⟨fun family module_id => ?_, rfl, List.append_right_eq_self.mpr hjournal⟩
    exact (get?_accepted hrefused.accepted family module_id).trans (hnothing family module_id)

/-- A call that raises leaves memory, snapshot file and journal as they were, whatever it raises at, exactly when at its
first refused record the journal has got no line, because there is none or the record is the first and an invalid one,
and the records before it lead back to what the bridge held. -/
theorem publish_many_atomic_iff (state : BridgeState) (journaled : Bool) (call : PublishCall) :
    (∀ error, (state.publish_many journaled call).2 = .error error →
        Untouched state (state.publish_many journaled call).1) ↔
      ∀ earlier record later reached, call.records = earlier.map BodyRecord.document ++ record :: later →
        ReachesRefused state.bridge earlier record reached →
          (journaled = true → earlier = [] ∧ ∃ error, validated record = .error error) ∧
            LeavesNothing state.bridge earlier := by
  constructor
  · intro hatomic earlier record later reached hrecords hrefused
    obtain ⟨⟨error, hraised⟩, huntouched⟩ : (∃ error, (state.publish_many journaled call).2 = .error error) ∧ _ :=
      untouched_iff hrecords hrefused
    exact huntouched.mp (hatomic error hraised)
  · intro hcondition error hraised
    obtain ⟨earlier, record, later, reached, hrecords, hrefused⟩ : ∃ earlier record later reached,
        call.records = earlier.map BodyRecord.document ++ record :: later ∧
          ReachesRefused state.bridge earlier record reached := by
      unfold BridgeState.publish_many at hraised
      generalize hpublish : publish_each journaled state.bridge state.disk.journal call.records = ended at hraised
      obtain ⟨after, after_journal, result⟩ := ended
      cases result with
      | ok _ => cases hraised
      | error error => exact exists_refused hpublish
    exact (untouched_iff hrecords hrefused).2.mpr (hcondition earlier record later reached hrecords hrefused)

/-- A fresh bridge with a journal. -/
def fresh_state : BridgeState := ⟨⟨256, .empty, .empty⟩, ⟨.missing, []⟩⟩

/-- A batch of a valid record and an empty mapping. -/
def half_valid_call : PublishCall := ⟨[evidence "sensor" "SENSOR_PACKET_OBSERVED" "seat" 1, .object []], 1, 1⟩

omit [StrLower] [StrUpper] in
/-- The empty mapping is refused, and the record before it stays in the memory and in the journal. -/
theorem half_valid_batch_stays :
    letI := StrLower.ascii
    letI := StrUpper.ascii
    (∃ error, (fresh_state.publish_many true half_valid_call).2 = .error error) ∧
      (fresh_state.publish_many true half_valid_call).1.disk.journal.length = 1 ∧
      ((fresh_state.publish_many true half_valid_call).1.bridge.sensors.get? "seat").isSome = true ∧
      ¬Untouched fresh_state (fresh_state.publish_many true half_valid_call).1 := by
  let := StrLower.ascii
  let := StrUpper.ascii
  have hraised : (fresh_state.publish_many true half_valid_call).2.isOk = false := by decide
  have hjournal : (fresh_state.publish_many true half_valid_call).1.disk.journal.length = 1 := by decide
  refine ⟨?_, hjournal, by decide, fun huntouched => ?_⟩
  · cases hresult : (fresh_state.publish_many true half_valid_call).2 with
    | error error => exact ⟨error, rfl⟩
    | ok document =>
      rw [hresult] at hraised
      cases hraised
  · rw [huntouched.journal] at hjournal
    cases hjournal

end velvet.body_state_bridge
