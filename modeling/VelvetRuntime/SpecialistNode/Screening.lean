import VelvetRuntime.SpecialistNode.Handlers
import VelvetRuntime.SpecialistNode.Quarantine

open python python.str velvet.distributed_work_coordinator

namespace velvet.specialist_node_runner

mutual

/-- The entries with a text key of the mappings in a value, at every depth of mappings, lists and tuples. -/
def entries_within : PyObject → List (String × PyObject)
  | .mapping entries => entries_of_mapping entries
  | .keyed entries _ => entries_of_keyed entries
  | .list values | .tuple values => entries_of_items values
  | .null | .bool _ | .int _ | .float _ | .text _ | .foreign _ => []

def entries_of_mapping : List (String × PyObject) → List (String × PyObject)
  | [] => []
  | (key, child) :: rest => (key, child) :: (entries_within child ++ entries_of_mapping rest)

def entries_of_keyed : List (MappingKey × PyObject) → List (String × PyObject)
  | [] => []
  | (.text key, child) :: rest => (key, child) :: (entries_within child ++ entries_of_keyed rest)
  | (.other _, child) :: rest => entries_within child ++ entries_of_keyed rest

def entries_of_items : List PyObject → List (String × PyObject)
  | [] => []
  | child :: rest => entries_within child ++ entries_of_items rest

end

theorem forall_entries_of_mapping_iff (holds : String × PyObject → Prop) (entries : List (String × PyObject)) :
    (∀ entry ∈ entries_of_mapping entries, holds entry) ↔
      ∀ entry ∈ entries, holds entry ∧ ∀ inner ∈ entries_within entry.2, holds inner := by
  induction entries with
  | nil => simp [entries_of_mapping]
  | cons entry rest ih =>
    obtain ⟨key, child⟩ := entry
    rw [entries_of_mapping, List.forall_mem_cons, List.forall_mem_append, ih, List.forall_mem_cons, and_assoc]

mutual

/-- The search reports nothing exactly when no entry at any depth has a forbidden key. -/
theorem find_forbidden_keys_eq_nil_iff : ∀ (value : PyObject) (path : String), find_forbidden_keys path value = [] ↔
    ∀ entry ∈ entries_within value, entry.1 ∉ FORBIDDEN_AUTHORITY_KEYS
  | .mapping entries, path => find_forbidden_mapping_eq_nil_iff entries path
  | .keyed entries _, path => find_forbidden_keyed_eq_nil_iff entries path
  | .list values, path | .tuple values, path => find_forbidden_items_eq_nil_iff values path 0
  | .null, _ | .bool _, _ | .int _, _ | .float _, _ | .text _, _ | .foreign _, _ =>
    iff_of_true rfl (fun _ hentry => nomatch hentry)

theorem find_forbidden_mapping_eq_nil_iff : ∀ (entries : List (String × PyObject)) (path : String),
    find_forbidden_entries path entries = [] ↔
      ∀ entry ∈ entries_of_mapping entries, entry.1 ∉ FORBIDDEN_AUTHORITY_KEYS
  | [], _ => iff_of_true rfl (fun _ hentry => nomatch hentry)
  | (key, child) :: rest, path => by
    rw [find_forbidden_entries, entries_of_mapping, List.append_eq_nil_iff, List.append_eq_nil_iff,
      find_forbidden_keys_eq_nil_iff child, find_forbidden_mapping_eq_nil_iff rest, List.forall_mem_cons,
      List.forall_mem_append, and_assoc]
    simp

theorem find_forbidden_keyed_eq_nil_iff : ∀ (entries : List (MappingKey × PyObject)) (path : String),
    find_forbidden_keyed path entries = [] ↔
      ∀ entry ∈ entries_of_keyed entries, entry.1 ∉ FORBIDDEN_AUTHORITY_KEYS
  | [], _ => iff_of_true rfl (fun _ hentry => nomatch hentry)
  | (.text key, child) :: rest, path => by
    rw [find_forbidden_keyed, entries_of_keyed, List.append_eq_nil_iff, List.append_eq_nil_iff,
      find_forbidden_keys_eq_nil_iff child, find_forbidden_keyed_eq_nil_iff rest, List.forall_mem_cons,
      List.forall_mem_append, and_assoc]
    simp
  | (.other str, child) :: rest, path => by
    rw [find_forbidden_keyed, entries_of_keyed, List.append_eq_nil_iff, List.append_eq_nil_iff,
      find_forbidden_keys_eq_nil_iff child, find_forbidden_keyed_eq_nil_iff rest, List.forall_mem_append]
    simp

theorem find_forbidden_items_eq_nil_iff : ∀ (values : List PyObject) (path : String) (index : Nat),
    find_forbidden_items path index values = [] ↔
      ∀ entry ∈ entries_of_items values, entry.1 ∉ FORBIDDEN_AUTHORITY_KEYS
  | [], _, _ => iff_of_true rfl (fun _ hentry => nomatch hentry)
  | child :: rest, path, index => by
    rw [find_forbidden_items, entries_of_items, List.append_eq_nil_iff, find_forbidden_keys_eq_nil_iff child,
      find_forbidden_items_eq_nil_iff rest, List.forall_mem_append]

end

/-- `value == "none"`. -/
def is_none_text : PyObject → Bool
  | .text value => value = "none"
  | _ => false

/-- An entry claims neither a side effect nor an authority. -/
structure Unclaimed (entry : String × PyObject) : Prop where
  side_effect : entry.1 ∈ UNSAFE_TRUE_KEYS → entry.2.is_true = false
  authority : entry.1 = "authority" → is_none_text entry.2 = true

variable {entry : String × PyObject}

theorem unclaimed_iff : Unclaimed entry ↔
    (entry.1 ∈ UNSAFE_TRUE_KEYS → entry.2.is_true = false) ∧ (entry.1 = "authority" → is_none_text entry.2 = true) :=
  ⟨fun hunclaimed => ⟨hunclaimed.side_effect, hunclaimed.authority⟩, fun hboth => ⟨hboth.1, hboth.2⟩⟩

/-- An entry has no forbidden key and claims nothing. -/
def Harmless (entry : String × PyObject) : Prop := entry.1 ∉ FORBIDDEN_AUTHORITY_KEYS ∧ Unclaimed entry

section

variable {texts : PythonText} {output : Dict String PyObject} {spec_name : String} {returned : HandlerReturn}

theorem forall_entry_iff {holds : PyObject → Prop} (key : String) :
    (∀ value, output.get? key = some value → holds value) ↔ ∀ entry ∈ output.items, entry.1 = key → holds entry.2 := by
  constructor
  · rintro hall ⟨key, value⟩ hentry rfl
    exact hall value ((Dict.get?_eq_some_iff _ _ _).mpr hentry)
  · intro hall value hvalue
    exact hall (key, value) ((Dict.get?_eq_some_iff _ _ _).mp hvalue) rfl

theorem claimed_eq_nil_iff : UNSAFE_TRUE_KEYS.filter (fun key => (output.get? key).any PyObject.is_true) = [] ↔
    ∀ entry ∈ output.items, entry.1 ∈ UNSAFE_TRUE_KEYS → entry.2.is_true = false := by
  rw [List.filter_eq_nil_iff]
  constructor
  · rintro hnone ⟨key, value⟩ hentry hkey
    have hvalue := hnone key hkey
    rw [(Dict.get?_eq_some_iff _ _ _).mpr hentry] at hvalue
    exact Bool.eq_false_iff.mpr hvalue
  · intro hall key hkey
    cases hvalue : output.get? key with
    | none => exact Bool.false_ne_true
    | some value => exact Bool.eq_false_iff.mp (hall (key, value) ((Dict.get?_eq_some_iff _ _ _).mp hvalue) hkey)

/-- An output passes the screening when no key in it is forbidden and its own entries claim nothing. -/
theorem output_violation_eq_none_iff : output_violation texts output = none ↔
    (∀ entry ∈ entries_of_mapping output.items, entry.1 ∉ FORBIDDEN_AUTHORITY_KEYS) ∧
      ∀ entry ∈ output.items, Unclaimed entry := by
  have hunclaimed : (∀ entry ∈ output.items, Unclaimed entry) ↔
      UNSAFE_TRUE_KEYS.filter (fun key => (output.get? key).any PyObject.is_true) = [] ∧
        ∀ value, output.get? "authority" = some value → is_none_text value = true := by
    rw [claimed_eq_nil_iff, forall_entry_iff]
    constructor
    · exact fun hall => ⟨fun entry hentry => (hall entry hentry).side_effect,
        fun entry hentry => (hall entry hentry).authority⟩
    · exact fun hboth entry hentry => ⟨hboth.1 entry hentry, hboth.2 entry hentry⟩
  rw [← find_forbidden_mapping_eq_nil_iff output.items "output", hunclaimed, ← sorted_set_eq_nil_iff]
  unfold output_violation
  dsimp only
  split
  · rename_i hforbidden
    exact iff_of_false (by simp) (fun hboth => hforbidden hboth.1)
  · rename_i hforbidden
    split
    · rename_i hclaimed
      exact iff_of_false (by simp) (fun hboth => hclaimed hboth.2.1)
    · rename_i hclaimed
      split
      · rename_i hnone
        refine iff_of_true rfl ⟨not_not.mp hforbidden, not_not.mp hclaimed, fun value hvalue => ?_⟩
        rw [hnone] at hvalue
        cases hvalue
      · rename_i hnone
        refine iff_of_true rfl ⟨not_not.mp hforbidden, not_not.mp hclaimed, fun value hvalue => ?_⟩
        rw [hnone] at hvalue
        cases hvalue
        rfl
      · rename_i value hother hvalue
        refine iff_of_false (by simp) (fun hboth => ?_)
        have htext := hboth.2.2 value hvalue
        unfold is_none_text at htext
        split at htext
        · rename_i text
          obtain rfl := of_decide_eq_true htext
          exact hother rfl
        · cases htext

/-- The output passes every check of `_execute_handler`, and is no failure by its own status. -/
structure Accepts (texts : PythonText) (spec_name : String) (output : Dict String PyObject) : Prop where
  screened : output_violation texts output = none
  status : ∃ status, output_status output = .ok status ∧ status ≠ .FAILED
  summary : ∃ summary, output_summary spec_name output = .ok summary
  references : ∃ references, output_evidence_references texts output = .ok references

theorem accepts_of_checked_output {checked : HandlerOutput} (hstatus : checked.result_status ≠ .FAILED)
    (hchecked : checked_output texts spec_name returned = .ok (output, checked)) :
    returned = .returned output ∧ Accepts texts spec_name output := by
  cases returned with
  | raised type_name message => cases hchecked
  | returned_no_mapping => cases hchecked
  | returned found =>
    cases hviolation : output_violation texts found with
    | some violation =>
      unfold checked_output at hchecked
      dsimp only at hchecked
      rw [hviolation] at hchecked
      cases hchecked
    | none =>
      unfold checked_output at hchecked
      dsimp only at hchecked
      rw [hviolation] at hchecked
      obtain ⟨status, hfound_status, hchecked⟩ := except.bind_eq_ok.mp hchecked
      obtain ⟨summary, hsummary, hchecked⟩ := except.bind_eq_ok.mp hchecked
      obtain ⟨references, hreferences, hchecked⟩ := except.bind_eq_ok.mp hchecked
      cases hchecked
      exact ⟨rfl, hviolation, ⟨status, hfound_status, hstatus⟩, ⟨summary, hsummary⟩, ⟨references, hreferences⟩⟩

theorem checked_output_of_accepts (haccepted : Accepts texts spec_name output) :
    ∃ checked, checked_output texts spec_name (.returned output) = .ok (output, checked) ∧
      checked.result_status ≠ .FAILED := by
  obtain ⟨hviolation, ⟨status, hstatus, hnot_failed⟩, ⟨summary, hsummary⟩, ⟨references, hreferences⟩⟩ := haccepted
  unfold checked_output
  dsimp only
  rw [hviolation]
  exact ⟨_, except.bind_eq_ok.mpr ⟨status, hstatus, except.bind_eq_ok.mpr ⟨summary, hsummary,
    except.bind_eq_ok.mpr ⟨references, hreferences, rfl⟩⟩⟩, hnot_failed⟩

/-- An accepted output is handed on with the bounds, and its result has not failed. -/
theorem bounded_output_of_accepts (haccepted : Accepts texts spec_name output) :
    ∃ checked, bounded_output texts spec_name (.returned output) = (update output (bounds spec_name), checked) ∧
      checked.result_status ≠ .FAILED := by
  obtain ⟨checked, hchecked, hnot_failed⟩ := checked_output_of_accepts haccepted
  refine ⟨checked, ?_, hnot_failed⟩
  unfold bounded_output
  rw [hchecked]

/-- Only an accepted output has a result that has not failed. -/
theorem accepts_of_not_failed (hstatus : (bounded_output texts spec_name returned).2.result_status ≠ .FAILED) :
    ∃ output, returned = .returned output ∧ Accepts texts spec_name output := by
  unfold bounded_output at hstatus
  cases hchecked : checked_output texts spec_name returned with
  | error failure =>
    rw [hchecked] at hstatus
    exact absurd rfl hstatus
  | ok result =>
    rw [hchecked] at hstatus
    exact ⟨result.1, accepts_of_checked_output hstatus hchecked⟩

theorem bounds_harmless (spec_name : String) :
    ∀ entry ∈ bounds spec_name, Harmless entry ∧ ∀ inner ∈ entries_within entry.2, Harmless inner := by
  have hleaf {entry : String × PyObject} (hkey : entry.1 ∉ FORBIDDEN_AUTHORITY_KEYS) (hunclaimed : Unclaimed entry)
      (hwithin : entries_within entry.2 = []) :
      Harmless entry ∧ ∀ inner ∈ entries_within entry.2, Harmless inner := by
    refine ⟨⟨hkey, hunclaimed⟩, ?_⟩
    rw [hwithin]
    exact fun _ hinner => nomatch hinner
  have hkeys : ∀ key ∈ (bounds spec_name).map Prod.fst, key ∉ FORBIDDEN_AUTHORITY_KEYS :=
    (by decide : ∀ key ∈ (bounds "").map Prod.fst, key ∉ FORBIDDEN_AUTHORITY_KEYS)
  have hwithin : ∀ entry ∈ bounds spec_name, entries_within entry.2 = [] := by
    simp [bounds, entries_within]
  have hunclaimed : ∀ entry ∈ bounds spec_name, Unclaimed entry := by
    simp [bounds, unclaimed_iff, UNSAFE_TRUE_KEYS, is_none_text, PyObject.is_true]
  exact fun entry hentry => hleaf (hkeys _ (List.mem_map_of_mem hentry)) (hunclaimed entry hentry) (hwithin entry hentry)

/-- What an accepted output keeps below its own entries claims nothing. -/
def NestedUnclaimed (spec_name : String) (output : Dict String PyObject) : Prop :=
  ∀ item ∈ output.items, item.1 ∉ (bounds spec_name).map Prod.fst → ∀ entry ∈ entries_within item.2, Unclaimed entry

/-- Of an accepted output only what it keeps below its own entries can do harm. -/
theorem harmless_update_iff (haccepted : Accepts texts spec_name output) :
    (∀ entry ∈ entries_of_mapping (update output (bounds spec_name)).items, Harmless entry) ↔
      NestedUnclaimed spec_name output := by
  obtain ⟨hforbidden, hunclaimed⟩ := output_violation_eq_none_iff.mp haccepted.screened
  have hkeys := (forall_entries_of_mapping_iff _ _).mp hforbidden
  rw [forall_entries_of_mapping_iff, forall_update_iff
    (fun entry => Harmless entry ∧ ∀ inner ∈ entries_within entry.2, Harmless inner) (bounds_harmless spec_name)]
  constructor
  · intro hharmless item hitem hkept entry hentry
    exact ((hharmless item hitem hkept).2 entry hentry).2
  · intro hnested item hitem hkept
    exact ⟨⟨(hkeys item hitem).1, hunclaimed item hitem⟩,
      fun entry hentry => ⟨(hkeys item hitem).2 entry hentry, hnested item hitem hkept entry hentry⟩⟩

end

section

variable [StrLower]

/-- What is handed on with a result that has not failed has no forbidden key and claims nothing at any depth, exactly
when what an accepted output keeps below its own entries claims nothing. -/
theorem output_harmless_iff (texts : PythonText) (runner : SpecialistNodeRunner) (offer : SpecialistWorkOffer)
    (spec : GhostHandlerSpec) (returned : HandlerReturn) :
    ((runner.execute_handler offer (bounded_output texts spec.name returned).2).result_status ≠ .FAILED →
        ∀ entry ∈ entries_of_mapping (bounded_output texts spec.name returned).1.items, Harmless entry) ↔
      ∀ output, returned = .returned output → Accepts texts spec.name output → NestedUnclaimed spec.name output := by
  constructor
  · rintro hharmless output rfl haccepted
    obtain ⟨checked, hbounded, hstatus⟩ := bounded_output_of_accepts haccepted
    rw [hbounded] at hharmless
    exact (harmless_update_iff haccepted).mp (hharmless hstatus)
  · intro hnested hstatus
    obtain ⟨output, rfl, haccepted⟩ := accepts_of_not_failed hstatus
    obtain ⟨checked, hbounded, _⟩ := bounded_output_of_accepts haccepted
    rw [hbounded]
    exact (harmless_update_iff haccepted).mpr (hnested output rfl haccepted)

end

open distributed_work_daemon

/-- An output with a report that claims an actuation and an authority. -/
def claiming_output : Dict String PyObject where
  items := [("report", .list [.mapping [("actuation_performed", .bool true), ("authority", .text "court")]])]
  nodup := by simp

def quoted_texts : PythonText := ⟨fun text => "'" ++ text ++ "'", fun _ => ""⟩

theorem claiming_output_accepted (spec_name : String) (hname : ¬Blank (spec_name ++ " completed")) :
    Accepts quoted_texts spec_name claiming_output where
  screened := rfl
  status := ⟨.COMPLETED, rfl, by decide⟩
  summary := ⟨_, dif_neg hname⟩
  references := ⟨_, rfl⟩

theorem not_blank_completed (name : String) : ¬Blank (name ++ " completed") := by
  intro hblank
  unfold Blank at hblank
  rw [strip_eq_nil_iff, split_eq_nil_iff, String.toList_append] at hblank
  exact absurd (hblank 'c' (by simp)) (by decide)

/-- The report is handed on with what it claims. -/
theorem claims_handed_on (spec_name : String)
    (hentry : entry = ("actuation_performed", .bool true) ∨ entry = ("authority", .text "court")) :
    entry ∈ entries_of_mapping (update claiming_output (bounds spec_name)).items := by
  have hreport : ("report", .list [.mapping [("actuation_performed", .bool true), ("authority", .text "court")]]) ∈
      (update claiming_output (bounds spec_name)).items := by
    refine (Dict.get?_eq_some_iff _ _ _).mp ?_
    rw [get?_update]
    rfl
  have hinner := ((forall_entries_of_mapping_iff _ _).mp (fun _ hmem => hmem) _ hreport).2
  refine hinner entry ?_
  rcases hentry with rfl | rfl
  · exact List.mem_cons_self
  · exact List.mem_cons_of_mem _ List.mem_cons_self

/-- What the report claims is handed on with a result that has not failed. -/
theorem nested_claims_handed_on :
    letI := StrLower.ascii
    ∃ spec, plain_handlers.get plain_offer.handler_name = some spec ∧
      ((SpecialistNodeRunner.new plain_profile plain_handlers).execute_handler plain_offer
        (bounded_output quoted_texts spec.name (.returned claiming_output)).2).result_status ≠ .FAILED ∧
      ("actuation_performed", .bool true) ∈
        entries_of_mapping (bounded_output quoted_texts spec.name (.returned claiming_output)).1.items ∧
      ("authority", .text "court") ∈
        entries_of_mapping (bounded_output quoted_texts spec.name (.returned claiming_output)).1.items ∧
      ¬∀ entry ∈ entries_of_mapping (bounded_output quoted_texts spec.name (.returned claiming_output)).1.items,
        Harmless entry := by
  let := StrLower.ascii
  obtain ⟨spec, hspec⟩ : ∃ spec, plain_handlers.get plain_offer.handler_name = some spec :=
    Option.isSome_iff_exists.mp (by decide)
  obtain ⟨checked, hbounded, hstatus⟩ :=
    bounded_output_of_accepts (claiming_output_accepted spec.name (not_blank_completed spec.name))
  have hactuation := claims_handed_on spec.name (.inl rfl)
  have hauthority := claims_handed_on spec.name (.inr rfl)
  refine ⟨spec, hspec, ?_⟩
  rw [hbounded]
  refine ⟨hstatus, hactuation, hauthority, fun hharmless => ?_⟩
  have hunclaimed := (hharmless _ hactuation).2.side_effect (by decide)
  exact absurd hunclaimed (by decide)

end velvet.specialist_node_runner
