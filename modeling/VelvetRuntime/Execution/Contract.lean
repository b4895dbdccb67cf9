import VelvetRuntime.Python.Num
import VelvetRuntime.Error
import VelvetRuntime.Execution.Resources

open python python.str python.num velvet.resource_coordinator

namespace velvet.execution_contract

/-- A value as far as the type rules and the receipts look at it. The truth of some other object is what its
own test says, and the test may raise. -/
inductive Value where
  | none
  | bool (value : Bool)
  | int (value : Int)
  | float (value : JsonFloat)
  | text (value : String)
  | mapping (empty : Bool)
  | other (truth : Except Error Bool)
  deriving DecidableEq

/-- `bool(value)`. -/
def Value.truth : Value → Except Error Bool
  | .none => .ok false
  | .bool value => .ok value
  | .int value => .ok (value ≠ 0)
  | .float value => .ok (value ≠ .finite 0)
  | .text value => .ok (value ≠ "")
  | .mapping empty => .ok (!empty)
  | .other truth => truth

/-- A key of a mapping: text, or some other object. -/
inductive Key where
  | text (value : String)
  | other (identity : Nat)
  deriving DecidableEq

inductive ParameterType where
  | any
  | bool
  | float
  | int
  | mapping
  | string
  deriving DecidableEq, Repr

def ParameterType.text : ParameterType → String
  | .any => "any"
  | .bool => "bool"
  | .float => "float"
  | .int => "int"
  | .mapping => "mapping"
  | .string => "string"

/-- Whether a value passes a rule's type; a truth value is no number here. -/
def ParameterType.accepts : ParameterType → Value → Bool
  | .any, _ => true
  | .bool, .bool _ => true
  | .float, .int _ => true
  | .float, .float _ => true
  | .int, .int _ => true
  | .mapping, .mapping _ => true
  | .string, .text _ => true
  | _, _ => false

inductive CompletionState where
  | completed
  | accepted
  | observed
  deriving DecidableEq, Repr

def CompletionState.text : CompletionState → String
  | .completed => "completed"
  | .accepted => "accepted"
  | .observed => "observed"

structure ParameterRule where
  name : String
  value_type : ParameterType
  required : Bool
  deriving DecidableEq

variable [StrLower]

/-- A contract as `normalized` returns it. The proofs are its checks. -/
structure ExecutionContract where
  contract_id : String
  parameters : List ParameterRule
  allow_extra_parameters : Bool
  exclusive_resources : List String
  expected_completion_state : CompletionState
  contract_id_valid : normalized contract_id = contract_id ∧ contract_id ≠ ""
  parameters_valid : ∀ rule ∈ parameters, normalized rule.name = rule.name ∧ rule.name ≠ ""
  parameters_distinct : (parameters.map ParameterRule.name).Nodup
  resources_valid : resources_of exclusive_resources = exclusive_resources

/-- `_text(key)` of a key that may not be text. -/
def key_text : Key → String
  | .text value => normalized value
  | .other _ => ""

/-- The parameters under their normalised names; of two that share a name the later one counts. -/
def supplied_of (parameters : Dict Key Value) : Dict String Value :=
  parameters.items.foldl (fun supplied entry => supplied.set (key_text entry.1) entry.2) .empty

def rule_error (supplied : Dict String Value) (rule : ParameterRule) : Option String :=
  match supplied.get? rule.name with
  | none =>
    if rule.required then some ("required execution parameter '" ++ rule.name ++ "' is missing") else none
  | some value =>
    if rule.value_type.accepts value then none
    else some ("execution parameter '" ++ rule.name ++ "' must be " ++ rule.value_type.text)

/-- `validate_parameters`; the parameters are absent when they are no mapping. -/
def validate_parameters (contract : ExecutionContract) (parameters : Option (Dict Key Value)) : List String :=
  match parameters with
  | none => ["execution parameters must be a mapping"]
  | some parameters =>
    let supplied := supplied_of parameters
    let unnamed := if "" ∈ supplied.keys then ["execution parameter names must be non-empty strings"] else []
    let extra :=
      if contract.allow_extra_parameters then []
      else
        ((supplied.keys.filter (fun name => name ∉ contract.parameters.map ParameterRule.name)).insertionSort
          (· ≤ ·)).map (fun name => "execution parameter '" ++ name ++ "' is not allowed")
    unnamed ++ contract.parameters.filterMap (rule_error supplied) ++ extra

end velvet.execution_contract

namespace velvet.court_token

/-- The fields of a token that its signature covers. -/
structure TokenFields where
  token_id : String
  intent_id : String
  capability : String
  target : String
  profile_id : String
  session_id : String
  body_id : String
  surface : String
  issued_at : Int
  expires_at : Int
  policy_id : String
  deriving DecidableEq

structure CapabilityToken extends TokenFields where
  signature : String
  deriving DecidableEq

/-- `verify_token` at a time; `sign` is the HMAC of the canonical JSON of the fields under the key. -/
def verify_token (sign : List UInt8 → TokenFields → String) (token : CapabilityToken) (signing_key : List UInt8)
    (current : Int) : Except Error Bool :=
  if token.signature.toList.all (fun c => c.toNat < 128) then
    .ok (token.signature = sign signing_key token.toTokenFields ∧ token.issued_at ≤ current ∧
      current ≤ token.expires_at)
  else .error ⟨.TypeError, "comparing strings with non-ASCII characters is not supported"⟩

/-- A token that fails at a time after it was issued fails at every later time. -/
theorem verify_token_of_le {sign : List UInt8 → TokenFields → String} {token : CapabilityToken}
    {signing_key : List UInt8} {current later : Int} (hissued : token.issued_at ≤ current) (hle : current ≤ later)
    (hfails : verify_token sign token signing_key current = .ok false) :
    verify_token sign token signing_key later = .ok false := by
  unfold verify_token at hfails ⊢
  split at hfails
  · rename_i hascii
    rw [if_pos hascii]
    simp only [Except.ok.injEq, decide_eq_false_iff_not, not_and, not_le] at hfails ⊢
    intro hsignature _
    have hexpired := hfails hsignature hissued
    omega
  · cases hfails

end velvet.court_token
