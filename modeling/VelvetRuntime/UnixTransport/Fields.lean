import VelvetRuntime.Python.JsonCanonical
import VelvetRuntime.DistributedWork.Service
import VelvetRuntime.UnixTransport.Server

open python python.str python.num python.json python.except velvet.distributed_work_service

namespace velvet.distributed_work_unix_transport

/-- A mapping of a message as it arrives: what `json.loads` reads from the canonical text has its entries in the order of
their keys (`python.json.loads_dumps`). -/
def received (message : List (String × Json)) : List (String × Json) := sort_keys (sorted_entries message)

def mapping : Option Json → Except Error (List (String × Json))
  | some (.object entries) => .ok entries
  | _ => .error ⟨.TypeError, "value must be a mapping"⟩

section decoders

variable (value : List (String × Json)) (key : String)

def required_mapping : Except Error (List (String × Json)) := mapping (entry_of value key)

def required_number : Except Error JsonFloat :=
  match entry_of value key with
  | some (.int n) =>
    match float_of_int n with
    | some q => .ok (.finite q)
    | none => .error ⟨.OverflowError, "int too large to convert to float"⟩
  | some (.float q) => .ok q
  | _ => .error (value_error (key ++ " must be numeric"))

def required_integer : Except Error Int :=
  match entry_of value key with
  | some (.int n) => .ok n
  | _ => .error (value_error (key ++ " must be an integer"))

/-- `_string_tuple(value, key, normalized=normal)`. -/
def string_tuple [StrLower] (normal : Bool) : Except Error (List String) :=
  match entry_of value key with
  | some (.list items) => do
    let result ← items.mapM (fun item => required_text key (some item))
    if normal ∧ ∃ item ∈ result, item ≠ normalized item then
      .error (value_error (key ++ " values must already be normalized"))
    else .ok result
  | _ => .error (value_error (key ++ " must be a list"))

end decoders

/-- `list(values)` of texts. -/
def text_list (values : List String) : Json := .list (values.map Json.text)

/-- Text that `_required_text` gives back as it is. -/
def Trimmed (text : String) : Prop := stripped text = text ∧ ¬Blank text

instance (text : String) : Decidable (Trimmed text) := inferInstanceAs (Decidable (_ ∧ _))

theorem trimmed_iff (text : String) : Trimmed text ↔
    (∃ c, text.toList.head? = some c ∧ isspace c = false) ∧
      ∃ c, text.toList.getLast? = some c ∧ isspace c = false := by
  have hsame : stripped text = text ↔ strip text.toList = text.toList := by
    unfold stripped
    rw [← String.toList_inj, String.toList_ofList]
  unfold Trimmed Blank
  rw [hsame]
  constructor
  · rintro ⟨hstrip, hne⟩
    rw [hstrip] at hne
    obtain ⟨hhead, hlast⟩ := (strip_eq_self_iff _).mp hstrip
    exact ⟨⟨_, List.head?_eq_some_head hne, hhead _ (List.head?_eq_some_head hne)⟩,
      ⟨_, List.getLast?_eq_some_getLast hne, hlast _ (List.getLast?_eq_some_getLast hne)⟩⟩
  · rintro ⟨⟨first, hfirst, hfirst_space⟩, last, hlast, hlast_space⟩
    have hstrip : strip text.toList = text.toList := by
      rw [strip_eq_self_iff, hfirst, hlast]
      exact ⟨fun c hc => (by cases hc; exact hfirst_space), fun c hc => (by cases hc; exact hlast_space)⟩
    refine ⟨hstrip, ?_⟩
    rw [hstrip]
    intro hnil
    rw [hnil] at hfirst
    cases hfirst

/-- Whether a text ends, and not in white space. -/
def EndsInText (text : String) : Prop := ∃ c ∈ text.toList.getLast?, isspace c = false

instance (text : String) : Decidable (EndsInText text) :=
  match hlast : text.toList.getLast? with
  | none => .isFalse (by rintro ⟨c, hc, -⟩; rw [hlast] at hc; cases hc)
  | some c =>
    if hspace : isspace c = false then .isTrue ⟨c, hlast, hspace⟩
    else .isFalse (by rintro ⟨d, hd, hd_space⟩; rw [hlast] at hd; cases hd; exact hspace hd_space)

theorem EndsInText.append {text : String} (before : String) (hends : EndsInText text) : EndsInText (before ++ text) := by
  obtain ⟨c, hlast, hspace⟩ := hends
  rw [Option.mem_def] at hlast
  refine ⟨c, ?_, hspace⟩
  rw [String.toList_append, List.getLast?_append, hlast]
  rfl

theorem EndsInText.intercalate {separator : String} {values : List String} (hsome : values ≠ [])
    (hends : ∀ value ∈ values, EndsInText value) : EndsInText (separator.intercalate values) := by
  induction values with
  | nil => exact absurd rfl hsome
  | cons value rest ih =>
    obtain ⟨hvalue, hrest⟩ := List.forall_mem_cons.mp hends
    by_cases hlast : rest = []
    · rw [hlast, String.intercalate_singleton]
      exact hvalue
    · rw [String.intercalate_cons_of_ne_nil hlast]
      exact (ih hlast hrest).append _

variable {text : String}

theorem Trimmed.of_normalized [StrLower] (hnormal : IsNormalized text) : Trimmed text := by
  refine ⟨?_, hnormal.not_blank⟩
  have hstripped := stripped_normalized text
  rwa [hnormal.2] at hstripped

theorem required_text_eq_ok_iff (name text : String) : required_text name (some (.text text)) = .ok text ↔ Trimmed text := by
  unfold required_text Trimmed
  dsimp only
  by_cases hblank : Blank text
  · rw [if_pos hblank]
    exact ⟨fun hok => (nomatch hok), fun htrimmed => absurd hblank htrimmed.2⟩
  · rw [if_neg hblank, Except.ok.injEq]
    exact ⟨fun hsame => ⟨hsame, hblank⟩, fun htrimmed => htrimmed.1⟩

section received

variable {message : List (String × Json)} {key : String} {normal : Bool}

theorem required_number_finite {q : ℚ} (hentry : entry_of message key = some (.float (.finite q))) :
    required_number message key = .ok (.finite q) := by
  unfold required_number
  rw [hentry]

theorem required_integer_int {n : Int} (hentry : entry_of message key = some (.int n)) :
    required_integer message key = .ok n := by
  unfold required_integer
  rw [hentry]

theorem required_mapping_object {entries : List (String × Json)} (hentry : entry_of message key = some (.object entries)) :
    required_mapping message key = .ok entries := by
  unfold required_mapping
  rw [hentry]
  rfl

variable [StrLower]

section

variable (hentry : entry_of message key = some (.text text))

include hentry

end

section

variable {texts : List String} (hentry : entry_of message key = some (text_list texts))

include hentry

end

end received

end velvet.distributed_work_unix_transport
