import VelvetRuntime.Python.Value

open python.json

namespace python.PyObject

variable (limits : Limits)

mutual

/-- What stops `json.dumps(value, sort_keys=True, allow_nan=False)` first, if anything does. An integer whose digits `str`
refuses is one thing, and a foreign object that is not written at all is another. -/
def fault : PyObject → Nat → Option Fault
  | int value, _ =>
    if limits.int_digits.any (· < (Nat.toDigits 10 value.natAbs).length) then some .too_many_digits else none
  | float value, _ => if is_finite value then none else some .invalid
  | list values, depth + 1 | tuple values, depth + 1 => values_fault values depth
  | mapping entries, depth + 1 => (sort_keys (entry_faults entries depth)).findSome? Prod.snd
  | list _, 0 | tuple _, 0 | mapping _, 0 => some .too_deep
  | keyed _ object, depth | foreign object, depth =>
    match object.written with
    | some data => dumps_fault data depth
    | none => some .invalid
  | null, _ | bool _, _ | text _, _ => none

def values_fault : List PyObject → Nat → Option Fault
  | [], _ => none
  | value :: rest, depth => (fault value depth).or (values_fault rest depth)

def entry_faults : List (String × PyObject) → Nat → List (String × Option Fault)
  | [], _ => []
  | (key, value) :: rest, depth => (key, fault value depth) :: entry_faults rest depth

end

variable {limits}

mutual

/-- What nothing stops is written as JSON data that does not nest too deep. -/
theorem written_of_fault_eq_none : ∀ {value : PyObject} {depth : Nat}, value.fault limits depth = none →
    ∃ data, value.written = some data ∧ nesting data ≤ depth
  | null, _, _ | bool _, _, _ | text _, _, _ | int _, _, _ => ⟨_, rfl, Nat.zero_le _⟩
  | float value, _, hfault => by
    rw [fault] at hfault
    split at hfault
    · rename_i hfinite
      exact ⟨_, if_pos hfinite, Nat.zero_le _⟩
    · cases hfault
  | list values, depth + 1, hfault => by
    rw [fault] at hfault
    obtain ⟨data, hdata, hnesting⟩ := written_of_values_fault hfault
    exact ⟨.list data, Option.map_eq_some_iff.mpr ⟨data, hdata, rfl⟩, Nat.succ_le_succ hnesting⟩
  | tuple values, depth + 1, hfault => by
    rw [fault] at hfault
    obtain ⟨data, hdata, hnesting⟩ := written_of_values_fault hfault
    exact ⟨.list data, Option.map_eq_some_iff.mpr ⟨data, hdata, rfl⟩, Nat.succ_le_succ hnesting⟩
  | mapping entries, depth + 1, hfault => by
    rw [fault, List.findSome?_eq_none_iff] at hfault
    obtain ⟨data, hdata, hnesting⟩ := written_of_entry_faults fun entry hentry =>
      hfault entry ((List.mem_insertionSort _).mpr hentry)
    exact ⟨.object data, Option.map_eq_some_iff.mpr ⟨data, hdata, rfl⟩, Nat.succ_le_succ hnesting⟩
  | list _, 0, hfault | tuple _, 0, hfault | mapping _, 0, hfault => by
    rw [fault] at hfault
    cases hfault
  | keyed _ object, depth, hfault | foreign object, depth, hfault => by
    rw [fault] at hfault
    split at hfault
    · rename_i data hdata
      exact ⟨data, hdata, ((dumps_fault_eq_none_iff data depth).mp hfault).2⟩
    · cases hfault

theorem written_of_values_fault : ∀ {values : List PyObject} {depth : Nat}, values_fault limits values depth = none →
    ∃ data, encode_values Foreign.written values = some data ∧ nesting_values data ≤ depth
  | [], _, _ => ⟨[], rfl, Nat.zero_le _⟩
  | value :: rest, depth, hfault => by
    obtain ⟨hvalue, hrest⟩ := Option.or_eq_none_iff.mp hfault
    obtain ⟨first, hfirst, hnesting⟩ := written_of_fault_eq_none hvalue
    obtain ⟨others, hothers, hlater⟩ := written_of_values_fault hrest
    refine ⟨first :: others, Option.bind_eq_some_iff.mpr ⟨first, hfirst, ?_⟩, max_le hnesting hlater⟩
    exact Option.map_eq_some_iff.mpr ⟨others, hothers, rfl⟩

theorem written_of_entry_faults : ∀ {entries : List (String × PyObject)} {depth : Nat},
    (∀ entry ∈ entry_faults limits entries depth, entry.2 = none) →
      ∃ data, encode_entries Foreign.written entries = some data ∧ nesting_entries data ≤ depth
  | [], _, _ => ⟨[], rfl, Nat.zero_le _⟩
  | (key, value) :: rest, depth, hfaults => by
    obtain ⟨hvalue, hrest⟩ := List.forall_mem_cons.mp hfaults
    obtain ⟨first, hfirst, hnesting⟩ := written_of_fault_eq_none hvalue
    obtain ⟨others, hothers, hlater⟩ := written_of_entry_faults hrest
    refine ⟨(key, first) :: others, Option.bind_eq_some_iff.mpr ⟨first, hfirst, ?_⟩, max_le hnesting hlater⟩
    exact Option.map_eq_some_iff.mpr ⟨others, hothers, rfl⟩

end

section of_json

mutual

/-- Decoded data is written as itself when its floats are finite. -/
theorem written_of_json : ∀ {value : Json}, (floats_in value).all is_finite = true → (of_json value).written = some value
  | .null, _ | .bool _, _ | .text _, _ | .int _, _ => rfl
  | .float value, hfinite => by
    rw [floats_in, List.all_cons, List.all_nil, Bool.and_true] at hfinite
    exact if_pos hfinite
  | .list _, hfinite => Option.map_eq_some_iff.mpr ⟨_, written_of_json_values hfinite, rfl⟩
  | .object _, hfinite => Option.map_eq_some_iff.mpr ⟨_, written_of_json_entries hfinite, rfl⟩

theorem written_of_json_values : ∀ {values : List Json}, (floats_in_values values).all is_finite = true →
    encode_values Foreign.written (of_json_values values) = some values
  | [], _ => rfl
  | value :: rest, hfinite => by
    rw [floats_in_values, List.all_append, Bool.and_eq_true] at hfinite
    exact Option.bind_eq_some_iff.mpr ⟨value, written_of_json hfinite.1,
      Option.map_eq_some_iff.mpr ⟨rest, written_of_json_values hfinite.2, rfl⟩⟩

theorem written_of_json_entries : ∀ {entries : List (String × Json)}, (floats_in_entries entries).all is_finite = true →
    encode_entries Foreign.written (of_json_entries entries) = some entries
  | [], _ => rfl
  | (key, value) :: rest, hfinite => by
    rw [floats_in_entries, List.all_append, Bool.and_eq_true] at hfinite
    exact Option.bind_eq_some_iff.mpr ⟨value, written_of_json hfinite.1,
      Option.map_eq_some_iff.mpr ⟨rest, written_of_json_entries hfinite.2, rfl⟩⟩

end

mutual

/-- Nothing stops decoded data exactly when the interpreter takes it and its floats are finite. -/
theorem fault_of_json_eq_none_iff : ∀ {value : Json} {depth : Nat}, (of_json value).fault limits depth = none ↔
    Within limits depth value ∧ (floats_in value).all is_finite = true
  | .null, _ | .bool _, _ | .text _, _ => by
    rw [Within, of_json, fault]
    exact iff_of_true rfl ⟨trivial, rfl⟩
  | .int value, _ => by
    rw [of_json, fault, ite_eq_right_iff, Within, floats_in, List.all_nil, and_iff_left rfl, Bool.eq_false_iff]
    exact forall_congr' fun _ => iff_of_false (fun hnone => nomatch hnone) fun hfalse => hfalse
  | .float value, _ => by
    rw [of_json, fault, ite_eq_left_iff, Within, floats_in, List.all_cons, List.all_nil, Bool.and_true, true_and]
    exact ⟨fun hinfinite => by_contra fun hnot => (nomatch hinfinite hnot), fun hfinite hnot => absurd hfinite hnot⟩
  | .list values, depth + 1 => by
    rw [of_json, fault, Within, floats_in]
    exact values_fault_of_json_eq_none_iff
  | .object entries, depth + 1 => by
    rw [of_json, fault, Within, floats_in, List.findSome?_eq_none_iff]
    refine Iff.trans ?_ entry_faults_of_json_eq_none_iff
    exact forall_congr' fun entry => imp_congr_left (List.mem_insertionSort _)
  | .list _, 0 | .object _, 0 => by
    rw [of_json, fault, Within]
    exact iff_of_false (fun hnone => nomatch hnone) fun hboth => hboth.1

theorem values_fault_of_json_eq_none_iff : ∀ {values : List Json} {depth : Nat},
    values_fault limits (of_json_values values) depth = none ↔
      WithinValues limits depth values ∧ (floats_in_values values).all is_finite = true
  | [], _ => iff_of_true rfl ⟨trivial, rfl⟩
  | value :: rest, depth => by
    rw [of_json_values, values_fault, Option.or_eq_none_iff, fault_of_json_eq_none_iff,
      values_fault_of_json_eq_none_iff, floats_in_values, List.all_append, Bool.and_eq_true, WithinValues]
    exact and_and_and_comm

theorem entry_faults_of_json_eq_none_iff : ∀ {entries : List (String × Json)} {depth : Nat},
    (∀ entry ∈ entry_faults limits (of_json_entries entries) depth, entry.2 = none) ↔
      WithinEntries limits depth entries ∧ (floats_in_entries entries).all is_finite = true
  | [], _ => iff_of_true (List.forall_mem_nil _) ⟨trivial, rfl⟩
  | (key, value) :: rest, depth => by
    rw [of_json_entries, entry_faults, List.forall_mem_cons, fault_of_json_eq_none_iff,
      entry_faults_of_json_eq_none_iff, floats_in_entries, List.all_append, Bool.and_eq_true, WithinEntries]
    exact and_and_and_comm

end

end of_json

end python.PyObject
