import Mathlib.Order.WithBot
import VelvetRuntime.Latest
import VelvetRuntime.BodyState.Bridge

open python python.num python.str latest

namespace velvet.body_state_bridge

variable [StrLower] [StrUpper]

namespace BodyRecord

/-- The order of timestamps: an infinite one is after every other. -/
def time (record : BodyRecord) : WithTop ℚ :=
  match record.timestamp with
  | .finite value => (value : WithTop ℚ)
  | .inf => ⊤
  | _ => 0

/-- A record that is filed where the checks read it, and whose timestamp can be compared. -/
def Plain (record : BodyRecord) : Prop := record.filed_under = record.family ∧ record.timestamp ≠ .nan

instance (record : BodyRecord) : Decidable record.Plain := inferInstanceAs (Decidable (_ ∧ _))

/-- The comparison of two floats is that of the times. -/
theorem less_iff {left right : BodyRecord} (hleft : left.timestamp ≠ .nan) (hright : right.timestamp ≠ .nan) :
    left.timestamp.less right.timestamp = true ↔ left.time < right.time := by
  have hleft_positive := left.is_accepted.timestamp_not_negative
  have hright_positive := right.is_accepted.timestamp_not_negative
  unfold time
  cases hl : left.timestamp <;> cases hr : right.timestamp <;>
    simp_all [JsonFloat.less, JsonFloat.lt]

end BodyRecord

namespace ModuleTable

variable {max_modules : Nat}

/-- A merge leaves the entries of other modules as they are. -/
theorem get?_merge_of_ne {table merged : ModuleTable} {record : BodyRecord}
    (hmerge : table.merge max_modules record = .ok merged) {key : String} (hkey : key ≠ record.module_id) :
    merged.get? key = table.get? key := by
  have hput : (table.put record).get? key = table.get? key := (Dict.get?_set _ _ _ _).trans (if_neg hkey)
  unfold merge at hmerge
  split at hmerge
  case h_1 current hcurrent =>
    split at hmerge <;> cases hmerge
    · rfl
    · exact hput
  case h_2 hnone =>
    obtain ⟨_, hmerged⟩ := except.guard_eq_ok.mp hmerge
    cases hmerged
    exact hput

/-- A merge changes the entry of the record's module to the newer record. -/
theorem get?_merge_self {table merged : ModuleTable} {record : BodyRecord} (hplain : record.timestamp ≠ .nan)
    (hplain_table : ∀ found, table.get? record.module_id = some found → found.timestamp ≠ .nan)
    (hmerge : table.merge max_modules record = .ok merged) :
    merged.get? record.module_id = some (newer BodyRecord.time (table.get? record.module_id) record) := by
  have hput : (table.put record).get? record.module_id = some record := (Dict.get?_set _ _ _ _).trans (if_pos rfl)
  unfold merge at hmerge
  split at hmerge
  case h_1 current hcurrent =>
    have hless := BodyRecord.less_iff hplain (hplain_table _ hcurrent)
    rw [hcurrent]
    split at hmerge
    case isTrue hold =>
      cases hmerge
      rw [hcurrent, newer, if_pos (hless.mp hold)]
    case isFalse hnew =>
      cases hmerge
      rw [hput, newer, if_neg (fun hlt => hnew (hless.mpr hlt))]
  case h_2 hnone =>
    obtain ⟨_, hmerged⟩ := except.guard_eq_ok.mp hmerge
    cases hmerged
    rw [hput, hnone, newer]

variable {record : BodyRecord}

/-- A merge takes in one module at most. -/
theorem size_merge {table merged : ModuleTable}
    (hmerge : table.merge max_modules record = .ok merged) : merged.size ≤ table.size + 1 := by
  unfold merge at hmerge
  split at hmerge
  case h_1 current hcurrent =>
    split at hmerge <;> cases hmerge
    · exact Nat.le_succ _
    · exact (Dict.length_set_of_get?_some _ _ hcurrent).le.trans (Nat.le_succ _)
  case h_2 hnone =>
    obtain ⟨_, hmerged⟩ := except.guard_eq_ok.mp hmerge
    cases hmerged
    refine le_of_eq ?_
    change (table.records.set record.module_id record).items.length = _
    rw [Dict.items_set_of_get?_none _ _ hnone, List.length_append]
    rfl

/-- A table below the limit refuses nothing. -/
theorem merge_of_room {table : ModuleTable} (hroom : table.size < max_modules) :
    ∃ merged, table.merge max_modules record = .ok merged := by
  unfold merge
  split
  · split <;> exact ⟨_, rfl⟩
  · rw [if_neg (not_le.mpr hroom)]
    exact ⟨_, rfl⟩

theorem mem_sorted_records {table : ModuleTable} :
    record ∈ table.sorted_records ↔ table.get? record.module_id = some record := by
  unfold sorted_records
  rw [(List.perm_insertionSort _ _).mem_iff]
  constructor
  · intro hmem
    obtain ⟨⟨key, found⟩, hentry, rfl⟩ := List.mem_map.mp hmem
    have hget := (Dict.get?_eq_some_iff table.records key found).mpr hentry
    rw [table.indexed key found hget]
    exact hget
  · exact Dict.mem_values_of_get?

theorem map_module_id_values (table : ModuleTable) : table.records.values.map BodyRecord.module_id = table.records.keys := by
  unfold Dict.values Dict.keys
  rw [List.map_map]
  refine List.map_congr_left fun entry hentry => ?_
  exact table.indexed entry.1 entry.2 ((Dict.get?_eq_some_iff _ _ _).mpr hentry)

theorem nodup_sorted_records (table : ModuleTable) : (table.sorted_records.map BodyRecord.module_id).Nodup := by
  unfold sorted_records
  rw [((List.perm_insertionSort _ _).map _).nodup_iff, map_module_id_values]
  exact table.records.nodup

end ModuleTable

/-- The records of a module in a table. -/
theorem ModuleTable.filter_sorted_records (table : ModuleTable) (module_id : String) :
    table.sorted_records.filter (fun record => record.module_id = module_id) = (table.get? module_id).toList := by
  refine filter_key_eq_toList BodyRecord.module_id table.nodup_sorted_records fun record => ?_
  rw [ModuleTable.mem_sorted_records]
  constructor
  · intro hget
    have hkey := table.indexed module_id record hget
    rw [hkey]
    exact ⟨hget, rfl⟩
  · rintro ⟨hget, rfl⟩
    exact hget

/-- The records of a log that have a family and a module id. -/
def published (log : List BodyRecord) (family : Family) (module_id : String) : List BodyRecord :=
  log.filter (fun record => record.family = family ∧ record.module_id = module_id)

theorem published_append (log : List BodyRecord) (record : BodyRecord) (family : Family) (module_id : String) :
    published (log ++ [record]) family module_id = published log family module_id ++
      if record.family = family ∧ record.module_id = module_id then [record] else [] := by
  unfold published
  rw [List.filter_append]
  congr 1
  split
  case isTrue hkey => exact List.filter_cons_of_pos (by simpa using hkey)
  case isFalse hkey => exact List.filter_cons_of_neg (by simpa using hkey)

/-- The bridge keeps, for each family and module id, the newest of the records that have them. -/
def Holds (log : List BodyRecord) (bridge : BodyStateSnapshotBridge) : Prop :=
  ∀ family module_id, Keeps BodyRecord.time (published log family module_id) ((bridge.table family).get? module_id)

variable {log : List BodyRecord} {bridge merged : BodyStateSnapshotBridge} {record : BodyRecord}

theorem Holds.mem (hholds : Holds log bridge) {family : Family} {module_id : String}
    (hget : (bridge.table family).get? module_id = some record) :
    record ∈ log ∧ record.family = family ∧ record.module_id = module_id := by
  have hkeeps := hholds family module_id
  rw [hget] at hkeeps
  have hmem := List.mem_filter.mp hkeeps.mem
  simpa using hmem

/-- A plain record that is applied is merged into what is kept of its own family and module. -/
theorem Holds.apply (hholds : Holds log bridge) (hlog : ∀ earlier ∈ log, earlier.Plain) (hrecord : record.Plain)
    (happly : bridge.apply record = .ok merged) : Holds (log ++ [record]) merged := by
  obtain ⟨table, hmerge, hmerged⟩ := except.bind_eq_ok.mp happly
  cases hmerged
  rw [hrecord.1] at hmerge
  have hself := ModuleTable.get?_merge_self hrecord.2 (fun found hfound => (hlog found (hholds.mem hfound).1).2) hmerge
  intro family module_id
  rw [published_append, BodyStateSnapshotBridge.table_set_table, hrecord.1]
  by_cases hfamily : family = record.family
  · subst hfamily
    rw [if_pos rfl]
    by_cases hmodule : module_id = record.module_id
    · subst hmodule
      rw [hself, if_pos ⟨rfl, rfl⟩]
      exact (hholds _ _).newer record
    · rw [ModuleTable.get?_merge_of_ne hmerge hmodule, if_neg (fun hkey => hmodule hkey.2.symm), List.append_nil]
      exact hholds _ _
  · rw [if_neg hfamily, if_neg (fun hkey => hfamily hkey.1.symm), List.append_nil]
    exact hholds _ _

/-- A record changes the table of its own family only. -/
theorem BodyStateSnapshotBridge.table_apply_of_ne (happly : bridge.apply record = .ok merged) {family : Family}
    (hfamily : family ≠ record.filed_under) : merged.table family = bridge.table family := by
  obtain ⟨table, _, hmerged⟩ := except.bind_eq_ok.mp happly
  cases hmerged
  rw [BodyStateSnapshotBridge.table_set_table, if_neg hfamily]

/-- A record changes nothing of another module. -/
theorem BodyStateSnapshotBridge.get?_apply_of_ne (happly : bridge.apply record = .ok merged) {module_id : String}
    (hmodule : module_id ≠ record.module_id) (family : Family) :
    (merged.table family).get? module_id = (bridge.table family).get? module_id := by
  obtain ⟨table, hmerge, hmerged⟩ := except.bind_eq_ok.mp happly
  cases hmerged
  rw [BodyStateSnapshotBridge.table_set_table]
  split
  case isTrue hfamily =>
    rw [hfamily]
    exact ModuleTable.get?_merge_of_ne hmerge hmodule
  case isFalse => rfl

/-- A record takes its module's place in its family's table, unless a newer one is there. -/
theorem BodyStateSnapshotBridge.get?_apply_self (happly : bridge.apply record = .ok merged)
    (hplain : record.timestamp ≠ .nan)
    (hplain_table : ∀ found, (bridge.table record.filed_under).get? record.module_id = some found →
      found.timestamp ≠ .nan) :
    (merged.table record.filed_under).get? record.module_id =
      some (newer BodyRecord.time ((bridge.table record.filed_under).get? record.module_id) record) := by
  obtain ⟨table, hmerge, hmerged⟩ := except.bind_eq_ok.mp happly
  cases hmerged
  rw [BodyStateSnapshotBridge.table_set_table, if_pos rfl]
  exact ModuleTable.get?_merge_self hplain hplain_table hmerge

theorem BodyStateSnapshotBridge.max_modules_apply (happly : bridge.apply record = .ok merged) :
    merged.max_modules = bridge.max_modules := by
  obtain ⟨table, _, hmerged⟩ := except.bind_eq_ok.mp happly
  cases hmerged
  exact bridge.max_modules_set_table _ _

/-- A record takes room in the table of its own family only. -/
theorem BodyStateSnapshotBridge.size_apply (happly : bridge.apply record = .ok merged) (family : Family) :
    (merged.table family).size ≤ (bridge.table family).size + if record.filed_under = family then 1 else 0 := by
  obtain ⟨table, hmerge, hmerged⟩ := except.bind_eq_ok.mp happly
  cases hmerged
  rw [BodyStateSnapshotBridge.table_set_table]
  by_cases hfamily : family = record.filed_under
  · subst hfamily
    rw [if_pos rfl, if_pos rfl]
    exact ModuleTable.size_merge hmerge
  · rw [if_neg hfamily, if_neg (Ne.symm hfamily)]
    exact Nat.le_add_right _ _

theorem BodyStateSnapshotBridge.apply_of_room (hroom : (bridge.table record.filed_under).size < bridge.max_modules) :
    ∃ merged, bridge.apply record = .ok merged := by
  obtain ⟨table, hmerge⟩ := ModuleTable.merge_of_room hroom
  exact ⟨_, except.bind_eq_ok.mpr ⟨table, hmerge, rfl⟩⟩

end velvet.body_state_bridge
