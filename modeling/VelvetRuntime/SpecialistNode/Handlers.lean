import VelvetRuntime.Python.Value
import VelvetRuntime.SpecialistNode.Joint

open python python.str python.json velvet.distributed_work_coordinator velvet.distributed_work_service

namespace velvet.specialist_node_runner

/-- How Python writes values: `repr` of a string, and `str` of a value that is not text. -/
structure PythonText where
  repr : String → String
  str : PyObject → String

namespace PythonText

variable (texts : PythonText)

/-- `str(value)`. -/
def str_of : PyObject → String
  | .text value => value
  | value => texts.str value

/-- `"%s" % values` on a list of strings. -/
def list_text (values : List String) : String :=
  "[" ++ ", ".intercalate (values.map texts.repr) ++ "]"

end PythonText

def FORBIDDEN_AUTHORITY_KEYS : List String :=
  ["action", "actuate", "actuation", "authorized_by", "capability_token", "command", "court_token", "execution_token",
    "executor", "executor_name", "hardware_handle", "hardware_target", "permit", "shell", "token"]

/-- `sorted(_UNSAFE_TRUE_KEYS)`. -/
def UNSAFE_TRUE_KEYS : List String :=
  ["actuation_granted", "actuation_performed", "can_transmission_performed", "filesystem_written", "hardware_accessed",
    "hardware_bus_opened", "network_accessed", "subprocess_started"]

mutual

/-- `_find_forbidden_keys(value, path)`. -/
def find_forbidden_keys (path : String) : PyObject → List String
  | .mapping entries => find_forbidden_entries path entries
  | .keyed entries _ => find_forbidden_keyed path entries
  | .list values | .tuple values => find_forbidden_items path 0 values
  | .null | .bool _ | .int _ | .float _ | .text _ | .foreign _ => []

def find_forbidden_entries (path : String) : List (String × PyObject) → List String
  | [] => []
  | (key, child) :: rest =>
    (if key ∈ FORBIDDEN_AUTHORITY_KEYS then [path ++ "." ++ key] else []) ++
      find_forbidden_keys (path ++ "." ++ key) child ++ find_forbidden_entries path rest

def find_forbidden_keyed (path : String) : List (MappingKey × PyObject) → List String
  | [] => []
  | (key, child) :: rest =>
    (if ∃ name ∈ FORBIDDEN_AUTHORITY_KEYS, key = .text name then [path ++ "." ++ key.str] else []) ++
      find_forbidden_keys (path ++ "." ++ key.str) child ++ find_forbidden_keyed path rest

def find_forbidden_items (path : String) (index : Nat) : List PyObject → List String
  | [] => []
  | child :: rest =>
    find_forbidden_keys (path ++ "[" ++ toString index ++ "]") child ++ find_forbidden_items path (index + 1) rest

end

theorem find_forbidden_entries_eq_nil_iff (path : String) (entries : List (String × PyObject)) :
    find_forbidden_entries path entries = [] ↔ ∀ entry ∈ entries, entry.1 ∉ FORBIDDEN_AUTHORITY_KEYS ∧
      find_forbidden_keys (path ++ "." ++ entry.1) entry.2 = [] := by
  induction entries with
  | nil => simp [find_forbidden_entries]
  | cons entry rest ih =>
    obtain ⟨key, child⟩ := entry
    rw [find_forbidden_entries, List.append_eq_nil_iff, List.append_eq_nil_iff, ih, List.forall_mem_cons]
    simp

mutual

/-- Data without forbidden fields is received without forbidden fields, whatever the paths are called. -/
theorem find_forbidden_keys_received : ∀ {value : PyObject} {data : Json} {path : String} (path' : String),
    value.json_data = some data → find_forbidden_keys path value = [] →
      find_forbidden_keys path' (.of_json (sorted data)) = []
  | .null, _, _, _, hdata, _ => by cases hdata; rfl
  | .bool _, _, _, _, hdata, _ => by cases hdata; rfl
  | .int _, _, _, _, hdata, _ => by cases hdata; rfl
  | .text _, _, _, _, hdata, _ => by cases hdata; rfl
  | .float value, _, _, _, hdata, _ => by
    unfold PyObject.json_data PyObject.encode_with at hdata
    split at hdata
    · cases hdata
      rfl
    · cases hdata
  | .list values, _, _, path', hdata, hclean => by
    obtain ⟨found, hfound, rfl⟩ := Option.map_eq_some_iff.mp hdata
    exact find_forbidden_items_received path' 0 hfound hclean
  | .tuple values, _, _, path', hdata, hclean => by
    obtain ⟨found, hfound, rfl⟩ := Option.map_eq_some_iff.mp hdata
    exact find_forbidden_items_received path' 0 hfound hclean
  | .mapping entries, _, _, path', hdata, hclean => by
    obtain ⟨found, hfound, rfl⟩ := Option.map_eq_some_iff.mp hdata
    have hentries := find_forbidden_entries_received hfound hclean
    refine (find_forbidden_entries_eq_nil_iff path' _).mpr ?_
    rw [PyObject.of_json_entries_eq_map]
    intro entry hentry
    obtain ⟨original, horiginal, rfl⟩ := List.mem_map.mp hentry
    exact ⟨(hentries original ((sort_keys_perm _).mem_iff.mp horiginal)).1,
      (hentries original ((sort_keys_perm _).mem_iff.mp horiginal)).2 _⟩
  | .keyed _ _, _, _, _, hdata, _ => nomatch hdata
  | .foreign _, _, _, _, hdata, _ => nomatch hdata

theorem find_forbidden_items_received : ∀ {values : List PyObject} {data : List Json} {path : String} {index : Nat}
    (path' : String) (index' : Nat), PyObject.encode_values (fun _ => none) values = some data →
    find_forbidden_items path index values = [] →
      find_forbidden_items path' index' (PyObject.of_json_values (sorted_values data)) = []
  | [], _, _, _, _, _, hdata, _ => by cases hdata; rfl
  | value :: rest, _, path, index, path', index', hdata, hclean => by
    obtain ⟨first, hfirst, hrest⟩ := Option.bind_eq_some_iff.mp hdata
    obtain ⟨others, hothers, rfl⟩ := Option.map_eq_some_iff.mp hrest
    obtain ⟨hchild, hitems⟩ := List.append_eq_nil_iff.mp hclean
    exact List.append_eq_nil_iff.mpr ⟨find_forbidden_keys_received _ hfirst hchild,
      find_forbidden_items_received path' (index' + 1) hothers hitems⟩

theorem find_forbidden_entries_received : ∀ {entries : List (String × PyObject)} {data : List (String × Json)}
    {path : String}, PyObject.encode_entries (fun _ => none) entries = some data →
    find_forbidden_entries path entries = [] → ∀ entry ∈ sorted_entries data,
      entry.1 ∉ FORBIDDEN_AUTHORITY_KEYS ∧ ∀ path', find_forbidden_keys path' (.of_json entry.2) = []
  | [], _, _, hdata, _ => by cases hdata; simp [sorted_entries]
  | (key, value) :: rest, _, path, hdata, hclean => by
    obtain ⟨first, hfirst, hrest⟩ := Option.bind_eq_some_iff.mp hdata
    obtain ⟨others, hothers, rfl⟩ := Option.map_eq_some_iff.mp hrest
    obtain ⟨hhead, htail⟩ := List.forall_mem_cons.mp ((find_forbidden_entries_eq_nil_iff path _).mp hclean)
    have hfirst_clean := fun path' => find_forbidden_keys_received path' hfirst hhead.2
    have hothers_clean := find_forbidden_entries_received hothers ((find_forbidden_entries_eq_nil_iff path _).mpr htail)
    exact List.forall_mem_cons.mpr ⟨⟨hhead.1, hfirst_clean⟩, hothers_clean⟩

end

/-- What a handler does with its parameters: it returns a mapping or something else, or it raises. -/
inductive HandlerReturn where
  | returned (output : Dict String PyObject)
  | returned_no_mapping
  | raised (type_name message : String)

/-- An exception that `_execute_handler` catches: the name of its type and its text. -/
abbrev HandlerFailure := String × String

def value_failure (message : String) : HandlerFailure := ("ValueError", message)

/-- `ResultState` of a status text. -/
def result_state : String → Option ResultState
  | "completed" => some .COMPLETED
  | "partial" => some .PARTIAL
  | "failed" => some .FAILED
  | "cancelled" => some .CANCELLED
  | _ => none

section

variable (texts : PythonText)

/-- `_output_violation`; nothing when it is empty. -/
def output_violation (output : Dict String PyObject) : Option String :=
  let forbidden := sorted_set (find_forbidden_entries "output" output.items)
  let claimed := UNSAFE_TRUE_KEYS.filter (fun key => (output.get? key).any PyObject.is_true)
  if forbidden ≠ [] then
    some ("handler output contains forbidden authority fields: " ++ texts.list_text forbidden)
  else if claimed ≠ [] then
    some ("handler output claims forbidden side effects: " ++ ", ".intercalate claimed)
  else
    match output.get? "authority" with
    | none | some (.text "none") => none
    | some _ => some "handler output cannot carry authority"

/-- `output.get("result_status", "completed")`, if it is one of `_RESULT_STATES`. -/
def output_status (output : Dict String PyObject) : Except HandlerFailure ResultState :=
  match output.get? "result_status" with
  | none => .ok .COMPLETED
  | some value =>
    match value.unhashable with
    | some type_name => .error ("TypeError", "unhashable type: '" ++ type_name ++ "'")
    | none =>
      match value with
      | .text status =>
        match result_state status with
        | some state => .ok state
        | none => .error (value_failure "unsupported Ghost result status")
      | _ => .error (value_failure "unsupported Ghost result status")

/-- `output.get("summary", "%s completed" % spec.name)`, if it is text, stripped. -/
def output_summary (spec_name : String) (output : Dict String PyObject) :
    Except HandlerFailure { summary : String // ¬Blank summary } :=
  match output.get? "summary" with
  | none => output_text (spec_name ++ " completed")
  | some (.text summary) => output_text summary
  | some _ => .error (value_failure "summary must be a non-empty string")
where
  output_text (summary : String) : Except HandlerFailure { summary : String // ¬Blank summary } :=
    if hblank : Blank summary then .error (value_failure "summary must be a non-empty string")
    else .ok ⟨stripped summary, fun hempty => hblank ((blank_stripped_iff summary).mp hempty)⟩

/-- `_output_evidence_references`. -/
def output_evidence_references (output : Dict String PyObject) :
    Except HandlerFailure { references : List String // ∀ value ∈ references, ¬Blank value } :=
  match output.get? "evidence_references" with
  | none => .ok ⟨[], no_blank_nil⟩
  | some (.list values) | some (.tuple values) =>
    let references := values.map (fun value => stripped (texts.str_of value))
    if hblank : ∃ reference ∈ references, Blank reference then
      .error (value_failure "evidence references cannot be blank")
    else .ok ⟨references, fun value hvalue hempty => hblank ⟨value, hvalue, hempty⟩⟩
  | some _ => .error (value_failure "evidence_references must be a list or tuple")

/-- The part of `_execute_handler` that may raise: what the output says about the result. -/
def checked_output (spec_name : String) : HandlerReturn → Except HandlerFailure (Dict String PyObject × HandlerOutput)
  | .raised type_name message => .error (type_name, message)
  | .returned_no_mapping => .error ("TypeError", "Ghost handler must return a mapping")
  | .returned output => do
    match output_violation texts output with
    | some violation => .error (value_failure violation)
    | none => do
      let result_status ← output_status output
      let ⟨summary, summary_text⟩ ← output_summary spec_name output
      let ⟨evidence_references, evidence_references_text⟩ ← output_evidence_references texts output
      .ok (output, {
        result_status
        summary
        evidence_references
        important := ((output.get? "important").map PyObject.truthy).getD false
        summary_text
        evidence_references_text })

/-- The entries that `_execute_handler` sets in every output. -/
def bounds (spec_name : String) : List (String × PyObject) :=
  [("handler_name", .text spec_name), ("read_only", .bool true), ("synthetic", .bool true),
    ("actuation_granted", .bool false), ("actuation_performed", .bool false), ("hardware_accessed", .bool false),
    ("network_accessed", .bool false), ("filesystem_written", .bool false), ("subprocess_started", .bool false),
    ("authority", .text "none")]

/-- `dict.update(entries)`. -/
def update (output : Dict String PyObject) (entries : List (String × PyObject)) : Dict String PyObject :=
  entries.foldl (fun output entry => output.set entry.1 entry.2) output

def failure_summary (failure : HandlerFailure) : String :=
  "Ghost handler failed closed: " ++ failure.1 ++ ": " ++ failure.2

theorem failure_summary_text (failure : HandlerFailure) : ¬Blank (failure_summary failure) := by
  intro hblank
  unfold Blank failure_summary at hblank
  rw [strip_eq_nil_iff, split_eq_nil_iff, String.toList_append, String.toList_append, String.toList_append] at hblank
  have hletter := hblank 'G' (by simp)
  exact absurd hletter (by decide)

/-- What becomes of a handler that failed. -/
def failed_output (failure : HandlerFailure) : HandlerOutput where
  result_status := .FAILED
  summary := failure_summary failure
  evidence_references := []
  important := false
  summary_text := failure_summary_text failure
  evidence_references_text := no_blank_nil

/-- The output of `_execute_handler` with what it says about the result; the result itself is
`SpecialistNodeRunner.execute_handler` of the latter. -/
def bounded_output (spec_name : String) (returned : HandlerReturn) : Dict String PyObject × HandlerOutput :=
  match checked_output texts spec_name returned with
  | .ok (output, checked) => (update output (bounds spec_name), checked)
  | .error failure =>
    (update (update .empty [("handler_name", .text spec_name), ("result_status", .text "failed"),
      ("summary", .text (failure_summary failure)), ("error_type", .text failure.1)]) (bounds spec_name),
      failed_output failure)

end

/-- What an updated dict holds. -/
theorem get?_update (output : Dict String PyObject) (entries : List (String × PyObject)) (key : String) :
    (update output entries).get? key =
      ((entries.reverse.find? (fun entry => entry.1 = key)).map Prod.snd).or (output.get? key) := by
  unfold update
  induction entries generalizing output with
  | nil => simp
  | cons entry rest ih =>
    rw [List.foldl_cons, ih, List.reverse_cons, List.find?_append, Option.map_or, Option.or_assoc]
    congr 1
    by_cases hkey : entry.1 = key
    · subst hkey
      rw [Dict.get?_set_self]
      simp
    · rw [Dict.get?_set_of_ne _ _ (fun hsame => hkey hsame.symm)]
      simp [hkey]

/-- What holds of the update holds of an updated dict when it does of what the update leaves. -/
theorem forall_update_iff (holds : String × PyObject → Prop) {output : Dict String PyObject}
    {entries : List (String × PyObject)} (hentries : ∀ entry ∈ entries, holds entry) :
    (∀ entry ∈ (update output entries).items, holds entry) ↔
      ∀ entry ∈ output.items, entry.1 ∉ entries.map Prod.fst → holds entry := by
  constructor
  · rintro hall ⟨key, value⟩ hentry hkept
    have hnone : entries.reverse.find? (fun entry => entry.1 = key) = none := by
      rw [List.find?_eq_none]
      intro entry hmem hkey
      obtain rfl : entry.1 = key := of_decide_eq_true hkey
      exact hkept (List.mem_map.mpr ⟨entry, List.mem_reverse.mp hmem, rfl⟩)
    refine hall (key, value) ((Dict.get?_eq_some_iff _ _ _).mp ?_)
    rw [get?_update, hnone]
    exact (Dict.get?_eq_some_iff _ _ _).mpr hentry
  · rintro hall ⟨key, value⟩ hentry
    have hvalue := (Dict.get?_eq_some_iff _ _ _).mpr hentry
    rw [get?_update] at hvalue
    cases hfound : entries.reverse.find? (fun entry => entry.1 = key) with
    | some found =>
      rw [hfound] at hvalue
      cases hvalue
      obtain rfl : found.1 = key := by simpa using List.find?_some hfound
      exact hentries found (List.mem_reverse.mp (List.mem_of_find?_eq_some hfound))
    | none =>
      rw [hfound] at hvalue
      refine hall (key, value) ((Dict.get?_eq_some_iff _ _ _).mp hvalue) ?_
      intro hkey
      obtain ⟨entry, hmem, hsame⟩ := List.mem_map.mp hkey
      exact List.find?_eq_none.mp hfound entry (List.mem_reverse.mpr hmem) (decide_eq_true hsame)

end velvet.specialist_node_runner
