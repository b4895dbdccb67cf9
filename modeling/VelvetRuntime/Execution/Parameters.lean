import VelvetRuntime.Execution.Receipts

open python python.str velvet.court_token

namespace velvet.execution_contract

variable [StrLower]

/-- The parameters that a handler gets are those that its contract describes. -/
structure Satisfies (contract : ExecutionContract) (parameters : Dict Key Value) : Prop where
  required : ∀ rule ∈ contract.parameters, rule.required = true →
    ∃ value, parameters.get? (.text rule.name) = some value
  typed : ∀ rule ∈ contract.parameters, ∀ value, parameters.get? (.text rule.name) = some value →
    rule.value_type.accepts value = true
  named : contract.allow_extra_parameters = false → ∀ key ∈ parameters.keys,
    ∃ rule ∈ contract.parameters, key = .text rule.name

/-- The keys are spelled so that what is validated is what is delivered. -/
structure Spelled (contract : ExecutionContract) (parameters : Dict Key Value) : Prop where
  /-- A required name that some key stands for is itself a key. -/
  required : ∀ rule ∈ contract.parameters, rule.required = true →
    (∃ key ∈ parameters.keys, key_text key = rule.name) → .text rule.name ∈ parameters.keys
  /-- A value that a later key of the same name hides from the validation has the type of the rule. -/
  typed : ∀ rule ∈ contract.parameters, ∀ earlier value later,
    parameters.items = earlier ++ (.text rule.name, value) :: later → (∃ entry ∈ later, key_text entry.1 = rule.name) →
    rule.value_type.accepts value = true
  /-- Without extra parameters every key is text that is already normalised. -/
  named : contract.allow_extra_parameters = false → ∀ key ∈ parameters.keys, key = .text (key_text key)

variable {contract : ExecutionContract} {parameters : Dict Key Value}

theorem get?_supplied_of {name : String} {value : Value} : (supplied_of parameters).get? name = some value ↔
    ∃ earlier entry later, parameters.items = earlier ++ entry :: later ∧ key_text entry.1 = name ∧ entry.2 = value ∧
      ∀ other ∈ later, key_text other.1 ≠ name :=
  Dict.get?_comprehension (fun entry : Key × Value => key_text entry.1) Prod.snd

theorem mem_keys_supplied_of {name : String} :
    name ∈ (supplied_of parameters).keys ↔ ∃ key ∈ parameters.keys, key_text key = name := by
  refine (Dict.mem_keys_comprehension (fun entry : Key × Value => key_text entry.1) Prod.snd).trans ?_
  constructor
  · rintro ⟨entry, hentry, hname⟩
    exact ⟨entry.1, List.mem_map_of_mem hentry, hname⟩
  · rintro ⟨key, hkey, hname⟩
    obtain ⟨entry, hentry, rfl⟩ := List.mem_map.mp hkey
    exact ⟨entry, hentry, hname⟩

/-- Parameters are valid exactly when every rule finds what it asks for under the normalised names, all of which are
given and, without extra parameters, those of rules. -/
theorem validate_parameters_eq_nil_iff : validate_parameters contract (some parameters) = [] ↔
    "" ∉ (supplied_of parameters).keys ∧
      (∀ rule ∈ contract.parameters, rule_error (supplied_of parameters) rule = none) ∧
      (contract.allow_extra_parameters = false → ∀ name ∈ (supplied_of parameters).keys,
        name ∈ contract.parameters.map ParameterRule.name) := by
  unfold validate_parameters
  dsimp only
  rw [List.append_eq_nil_iff, List.append_eq_nil_iff, List.filterMap_eq_nil_iff, and_assoc]
  refine and_congr ?_ (and_congr Iff.rfl ?_)
  · split
    · rename_i hunnamed
      exact iff_of_false (List.cons_ne_nil _ _) (not_not.mpr hunnamed)
    · rename_i hnamed
      exact iff_of_true rfl hnamed
  · split
    · rename_i hextra
      exact iff_of_true rfl fun hnone => absurd hextra (by rw [hnone]; exact Bool.false_ne_true)
    · rename_i hextra
      have hperm := List.perm_insertionSort (· ≤ ·)
        ((supplied_of parameters).keys.filter (fun name => name ∉ contract.parameters.map ParameterRule.name))
      rw [List.map_eq_nil_iff, ← List.length_eq_zero_iff, hperm.length_eq, List.length_eq_zero_iff, List.filter_eq_nil_iff]
      simp [hextra]

omit [StrLower] in
theorem rule_error_eq_none_iff {supplied : Dict String Value} {rule : ParameterRule} :
    rule_error supplied rule = none ↔ (rule.required = true → ∃ value, supplied.get? rule.name = some value) ∧
      ∀ value, supplied.get? rule.name = some value → rule.value_type.accepts value = true := by
  unfold rule_error
  cases hvalue : supplied.get? rule.name with
  | none => simp
  | some value => simp

/-- Of valid parameters, those are what the contract describes whose keys are spelled as its names. -/
theorem satisfies_iff_spelled (hvalid : validate_parameters contract (some parameters) = []) :
    Satisfies contract parameters ↔ Spelled contract parameters := by
  obtain ⟨_, hrules, hextra⟩ := validate_parameters_eq_nil_iff.mp hvalid
  constructor
  · intro hsatisfies
    refine ⟨fun rule hrule hrequired _ => ?_, fun rule hrule earlier value later hsplit _ => ?_, fun hnone key hkey => ?_⟩
    · obtain ⟨value, hvalue⟩ := hsatisfies.required rule hrule hrequired
      exact (Dict.mem_keys_iff _ _).mpr (Option.isSome_of_eq_some hvalue)
    · refine hsatisfies.typed rule hrule value ((Dict.get?_eq_some_iff _ _ _).mpr ?_)
      rw [hsplit]
      exact List.mem_append_right _ List.mem_cons_self
    · obtain ⟨rule, hrule, rfl⟩ := hsatisfies.named hnone key hkey
      rw [key_text, (contract.parameters_valid rule hrule).1]
  · intro hspelled
    refine ⟨fun rule hrule hrequired => ?_, fun rule hrule value hvalue => ?_, fun hnone key hkey => ?_⟩
    · obtain ⟨value, hvalue⟩ := (rule_error_eq_none_iff.mp (hrules rule hrule)).1 hrequired
      have hsupplied := mem_keys_supplied_of.mp ((Dict.mem_keys_iff _ _).mpr (Option.isSome_of_eq_some hvalue))
      exact Option.isSome_iff_exists.mp ((Dict.mem_keys_iff _ _).mp (hspelled.required rule hrule hrequired hsupplied))
    · obtain ⟨earlier, later, hsplit⟩ := List.append_of_mem ((Dict.get?_eq_some_iff _ _ _).mp hvalue)
      by_cases hhidden : ∃ entry ∈ later, key_text entry.1 = rule.name
      · exact hspelled.typed rule hrule earlier value later hsplit hhidden
      · refine (rule_error_eq_none_iff.mp (hrules rule hrule)).2 value (get?_supplied_of.mpr ?_)
        exact ⟨earlier, _, later, hsplit, (contract.parameters_valid rule hrule).1, rfl,
          fun other hother hname => hhidden ⟨other, hother, hname⟩⟩
    · have hname := hextra hnone (key_text key) (mem_keys_supplied_of.mpr ⟨key, hkey, rfl⟩)
      obtain ⟨rule, hrule, hsame⟩ := List.mem_map.mp hname
      exact ⟨rule, hrule, by rw [hsame]; exact hspelled.named hnone key hkey⟩

end velvet.execution_contract

namespace velvet.approved_executor

open Thread velvet.execution_contract velvet.resource_coordinator

section

variable [StrLower]

/-- In some run a call starts the handler of an executor with the given parameters. -/
def Handed (builtins : Builtins) (execution : Execution) (spec : ExecutorSpec) (handed : Option (Dict Key Value)) : Prop :=
  ∃ path result token answer, (execution.execute_authorized builtins).Ends path result ∧
    ⟨.start_handler spec token handed, answer⟩ ∈ path

/-- A handler gets the parameters of the call as they are, once they are valid. -/
theorem Handed.valid {builtins : Builtins} {execution : Execution} {spec : ExecutorSpec}
    {handed : Option (Dict Key Value)} (hhanded : Handed builtins execution spec handed) :
    handed = execution.parameters ∧ validate_parameters spec.contract execution.parameters = [] := by
  obtain ⟨path, result, token, answer, hends, hstart⟩ := hhanded
  have hconforms : Conforms builtins execution path result := by
    have hdescribed := follows_authorized_recording.of_ends hends
    cases result with
    | ok returned => exact hdescribed
    | error error => exact hdescribed
  obtain ⟨before, after, hsplit⟩ := List.append_of_mem hstart
  obtain ⟨_, hparameters, hauthorized⟩ := hconforms.invoked before after _ hsplit spec token handed rfl
  exact ⟨hparameters, hauthorized.parameters⟩

/-- A call without a signature that is checked, for any target. -/
def open_execution (parameters : Dict Key Value) : Execution where
  token := ⟨⟨"", "", "", "", "", "", "", "", 0, 0, ""⟩, ""⟩
  executor_name := ""
  parameters := some parameters
  registry := 0
  signing_key := []
  used_token_ids := .plain_set 0
  now := some 0

def open_spec (contract : ExecutionContract) : ExecutorSpec := ⟨"", "", ["*"], contract⟩

def open_builtins : Builtins := ⟨fun _ _ => "", id⟩

/-- Everybody answers so that the handler of the executor is started. -/
def willing (spec : ExecutorSpec) : (request : Request) → Except Error request.Answer
  | .contains .. => .ok false
  | .time => .ok 0
  | .get .. => .ok spec
  | .safety_check .. => .ok (true, "")
  | .receipt_sink _ => .ok ()
  | .consume .. => .ok true
  | .start_handler .. => .ok ()
  | .finish_handler .. => .ok .empty
  | .acquire .. => .ok ⟨true, .acquired, none, [], []⟩
  | .release .. => .ok ⟨true, .released, none, [], []⟩

/-- Valid parameters reach the handler in some run. -/
theorem handed_of_valid {contract : ExecutionContract} {parameters : Dict Key Value}
    (hvalid : validate_parameters contract (some parameters) = []) :
    Handed open_builtins (open_execution parameters) (open_spec contract) (some parameters) := by
  have hrefusal : (open_execution parameters).refusal_of_spec (open_spec contract) = none := by
    unfold Execution.refusal_of_spec
    rw [show (open_execution parameters).parameters = some parameters from rfl,
      show (open_spec contract).contract = contract from rfl, hvalid]
    rfl
  refine ⟨_, _, (open_execution parameters).token, .ok (), ends_play (willing (open_spec contract)) _, ?_⟩
  unfold Execution.execute_authorized
  refine mem_play_of_ok false (by rw [play_perform]; rfl) ?_
  refine mem_play_of_ok true rfl ?_
  refine mem_play_of_ok (.ok (open_spec contract)) (by rw [play_attempt, play_perform]; rfl) ?_
  dsimp only
  rw [hrefusal]
  dsimp only
  unfold Execution.begin_execution
  refine mem_play_of_ok (true, "") (by rw [play_perform]; rfl) ?_
  refine mem_play_of_ok true rfl ?_
  refine mem_play_of_ok (.ok true) rfl ?_
  dsimp only
  unfold Execution.invoke
  refine mem_play_bind _ (mem_play_bind _ ?_)
  rw [play_attempt]
  refine mem_play_bind _ ?_
  rw [play_perform]
  exact List.mem_singleton_self _

/-- Every run that reaches the handler hands it the parameters that the contract describes exactly when the keys are
spelled as the names of the contract. -/
theorem handler_parameters_iff {contract : ExecutionContract} {parameters : Dict Key Value}
    (hvalid : validate_parameters contract (some parameters) = []) :
    (∀ builtins execution spec handed, execution.parameters = some parameters → spec.contract = contract →
        Handed builtins execution spec handed → ∃ received, handed = some received ∧ Satisfies contract received) ↔
      Spelled contract parameters := by
  rw [← satisfies_iff_spelled hvalid]
  constructor
  · intro hall
    obtain ⟨received, hsame, hsatisfies⟩ := hall _ _ _ _ rfl rfl (handed_of_valid hvalid)
    rwa [← Option.some.inj hsame] at hsatisfies
  · rintro hsatisfies builtins execution spec handed hparameters - hhanded
    exact ⟨parameters, hhanded.valid.1.trans hparameters, hsatisfies⟩

/-- A contract that requires a temperature. -/
def temperature_contract (hid : normalized "hvac.set.v1" = "hvac.set.v1")
    (hname : normalized "temperature" = "temperature") (hresources : resources_of [] = []) : ExecutionContract where
  contract_id := "hvac.set.v1"
  parameters := [⟨"temperature", .int, true⟩]
  allow_extra_parameters := false
  exclusive_resources := []
  expected_completion_state := .completed
  contract_id_valid := ⟨hid, by decide⟩
  parameters_valid := by
    intro rule hrule
    rw [List.mem_singleton.mp hrule]
    exact ⟨hname, by decide⟩
  parameters_distinct := List.nodup_singleton _
  resources_valid := hresources

def temperature_parameters (key : String) : Dict Key Value := Dict.empty.set (.text key) (.int 21)

end

theorem temperature_delivered :
    letI := StrLower.ascii
    letI contract := temperature_contract (by decide) (by decide) (by decide)
    letI parameters := temperature_parameters "temperature"
    Handed open_builtins (open_execution parameters) (open_spec contract) (some parameters) ∧
      Satisfies contract parameters := by
  let := StrLower.ascii
  let contract := temperature_contract (by decide) (by decide) (by decide)
  have hvalid : validate_parameters contract (some (temperature_parameters "temperature")) = [] := by decide
  have hhanded := handed_of_valid hvalid
  refine ⟨hhanded, ?_⟩
  suffices hspelled : Spelled contract (temperature_parameters "temperature") by
    obtain ⟨received, hsame, hsatisfies⟩ := (handler_parameters_iff hvalid).mpr hspelled _ _ _ _ rfl rfl hhanded
    rwa [← Option.some.inj hsame] at hsatisfies
  refine ⟨?_, ?_, ?_⟩
  · intro rule hrule _ _
    rw [List.mem_singleton.mp hrule]
    decide
  · intro rule hrule earlier value later hsplit ⟨entry, hentry, _⟩
    have hlength := congrArg List.length hsplit
    rw [List.length_append, List.length_cons] at hlength
    have hone : (temperature_parameters "temperature").items.length = 1 := rfl
    have hsome := List.length_pos_of_mem hentry
    omega
  · intro _ key hkey
    rw [List.mem_singleton.mp (show key ∈ [Key.text "temperature"] from hkey)]
    decide

/-- A key that is a required name but for capitals and spaces passes the validation, and the handler finds nothing under
the name. -/
theorem temperature_missing :
    letI := StrLower.ascii
    let contract := temperature_contract (by decide) (by decide) (by decide)
    validate_parameters contract (some (temperature_parameters " Temperature")) = [] ∧
      ∃ builtins execution spec, execution.parameters = some (temperature_parameters " Temperature") ∧
        spec.contract = contract ∧
        Handed builtins execution spec (some (temperature_parameters " Temperature")) ∧
        ¬Satisfies contract (temperature_parameters " Temperature") := by
  let := StrLower.ascii
  have hvalid : validate_parameters (temperature_contract (by decide) (by decide) (by decide))
      (some (temperature_parameters " Temperature")) = [] := by decide
  refine ⟨hvalid, _, _, _, rfl, rfl, handed_of_valid hvalid, fun hsatisfies => ?_⟩
  obtain ⟨value, hvalue⟩ := hsatisfies.required ⟨"temperature", .int, true⟩ List.mem_cons_self rfl
  cases hvalue

end velvet.approved_executor
