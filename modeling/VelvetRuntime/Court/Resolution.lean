import VelvetRuntime.Python.Json
import VelvetRuntime.Python.Dict
import VelvetRuntime.Text
import VelvetRuntime.Error

open python python.str

namespace velvet.court_intent

/-- An intent. A text field that does not hold text is absent, and so is a `requested_at` that is no integer. -/
structure Intent where
  intent_id : Option String
  action : Option String
  capability : Option String
  target : Option String
  profile_id : Option String
  session_id : Option String
  body_id : Option String
  surface : Option String
  requested_at : Option Int

/-- The text fields under their names, in the order in which they are checked. -/
def Intent.fields (intent : Intent) : List (String × Option String) :=
  [("intent_id", intent.intent_id), ("action", intent.action), ("capability", intent.capability),
    ("target", intent.target), ("profile_id", intent.profile_id), ("session_id", intent.session_id),
    ("body_id", intent.body_id), ("surface", intent.surface)]

def field_error [StrLower] (field : String × Option String) : Option String :=
  match field.2 with
  | none => some (field.1 ++ " must be a non-empty string")
  | some value =>
    if Blank value then some (field.1 ++ " must be a non-empty string")
    else if value ≠ normalized value then some (field.1 ++ " must already be normalized")
    else none

def validate_intent [StrLower] (intent : Intent) : List String :=
  intent.fields.filterMap field_error ++
    match intent.requested_at with
    | some requested_at => if requested_at < 0 then ["requested_at must be a non-negative integer"] else []
    | none => ["requested_at must be a non-negative integer"]

end velvet.court_intent

namespace velvet.court_authority

/-- The attributes of a capability context that Court reads; one that the context does not have is absent. -/
structure CapabilityContext where
  policy_ids : Option Json
  policy_id : Option Json
  court_authority : Option Json
  court_authorities : Option Json
  authority_profile : Option Json
  authority_profiles : Option Json
  authorization_required : Option Json
  profile_id : Option Json
  session_id : Option Json
  body_id : Option Json
  surface : Option Json
  proposed_capabilities : Option Json

/-- `_AUTHORITY_RANKS`. -/
def authority_ranks : List (String × Nat) :=
  [("emergency", 800), ("medical", 700), ("owner", 600), ("service", 500), ("guest", 400), ("oem", 300),
    ("remote", 200), ("unknown", 0)]

/-- Whether an identity is in the Court hierarchy. -/
def registered (authority : String) : Bool := authority ∈ authority_ranks.map Prod.fst

/-- `_AUTHORITY_RANKS[item]` of a registered identity. -/
def rank (authority : String) : Nat :=
  ((authority_ranks.find? (fun entry => entry.1 = authority)).map Prod.snd).getD 0

inductive CourtState where
  | authorized
  | invalid_intent
  | invalid_capability_context
  | authority_conflict
  | authority_unknown
  | context_mismatch
  | capability_not_proposed
  | policy_denied
  | target_denied
  | authorization_unreceipted
  deriving DecidableEq, Repr

structure AuthorityResolution where
  active_profile : String
  candidates : List String
  selected_profile : String
  selected_rank : Nat
  valid : Bool
  state : Option CourtState
  detail : Option String
  deriving DecidableEq

def not_iterable (value : Json) : Error := ⟨.TypeError, "'" ++ value.type_name ++ "' object is not iterable"⟩

section

variable [StrLower]

/-- `_text`: text is normalised, and everything else is empty. -/
def text_of : Json → String
  | .text value => normalized value
  | _ => ""

/-- The values of a collection, normalised. -/
def texts_of (value : Json) : Except Error (List String) :=
  match value.iterate with
  | none => .error (not_iterable value)
  | some values => .ok (values.map text_of)

/-- `max(candidates, key=rank)`: the first of the highest rank. -/
def highest (first : String) (rest : List String) : String :=
  rest.foldl (fun best candidate => if rank best < rank candidate then candidate else best) first

def unresolved (active : String) (candidates : List String) (state : CourtState) (detail : String) :
    AuthorityResolution :=
  ⟨active, candidates, "unknown", 0, false, some state, some detail⟩

/-- The last checks, once the candidates are registered and distinct. -/
def select_authority (active first : String) (rest : List String) : AuthorityResolution :=
  let selected := highest first rest
  if selected = "unknown" then
    ⟨active, first :: rest, selected, rank selected, false, some .authority_unknown,
      some "unknown authority cannot authorize a Court request"⟩
  else if active ≠ selected then
    ⟨active, first :: rest, selected, rank selected, false, some .authority_conflict,
      some ("active authority '" ++ active ++ "' does not match highest verified candidate '" ++ selected ++ "'")⟩
  else ⟨active, first :: rest, selected, rank selected, true, none, none⟩

/-- The checks of a configured set of candidates. -/
def resolve_candidates (active : String) : List String → AuthorityResolution
  | [] => unresolved active [] .authority_conflict "Court authority candidate set is empty"
  | first :: rest =>
    match (first :: rest).find? (fun item => !registered item) with
    | some unknown =>
      unresolved active (first :: rest) .authority_unknown
        ("Court authority candidate '" ++ unknown ++ "' is not registered")
    | none =>
      if ¬ (first :: rest).Nodup then
        unresolved active (first :: rest) .authority_conflict "Court authority candidate identities must be unique"
      else select_authority active first rest

/-- The active identity, the configured candidates and the name of their attribute. -/
def configured_authority (context : CapabilityContext) : String × Json × String :=
  match context.court_authority with
  | some active => (text_of active, context.court_authorities.getD .null, "court_authorities")
  | none =>
    (text_of (context.authority_profile.getD .null), context.authority_profiles.getD .null, "authority_profiles")

def resolve_authority (context : CapabilityContext) : Except Error AuthorityResolution :=
  let (active, configured, collection_label) := configured_authority context
  if !registered active then
    .ok (unresolved active [] .authority_unknown "active Court authority is not registered in the Court hierarchy")
  else
    match configured with
    | .null => .ok (select_authority active active [])
    | .text _ =>
      .ok (unresolved active [] .authority_conflict
        (collection_label ++ " must be an ordered collection, not a string"))
    | configured => do
      let candidates ← texts_of configured
      .ok (resolve_candidates active candidates)

end

end velvet.court_authority

namespace velvet.court_policy_resolution

open velvet.court_authority

structure PolicyFinding where
  policy_id : String
  capability_allowed : Bool
  target_allowed : Bool
  token_ttl_seconds : Int
  deriving DecidableEq

structure PolicyResolution where
  policy_ids : List String
  policy_set_id : String
  findings : List PolicyFinding
  allowed : Bool
  token_ttl_seconds : Int
  denial_state : Option CourtState
  denial_detail : Option String
  deriving DecidableEq

def value_error (message : String) : Error := ⟨.ValueError, message⟩

/-- The checks of `_normalize_policy_ids` on identities that are normalised. -/
def check_policy_ids (normalized : List String) : Except Error (List String) :=
  if normalized = [] ∨ "" ∈ normalized then
    .error (value_error "Court requires at least one valid policy identity")
  else if ¬ normalized.Nodup then .error (value_error "Court policy identities must be unique")
  else .ok normalized

/-- `_load_document` on what reading and decoding the file gives: the entries of the policies list. -/
def load_document (file : Except Error Json) : Except Error (List Json) := do
  match ← file with
  | .object document =>
    if !((entry_of document "schema").getD .null).is_text "velvet.court.policy.v1" then
      .error (value_error "unsupported Court policy schema")
    else
      match entry_of document "policies" with
      | some (.list policies) => .ok policies
      | _ => .error (value_error "Court policy requires a policies list")
  | _ => .error (value_error "unsupported Court policy schema")

/-- `policy.get("token_ttl_seconds", 30)` as an integer; a truth value is one. -/
def ttl_of (policy : List (String × Json)) : Option Int :=
  match entry_of policy "token_ttl_seconds" with
  | none => some 30
  | some (.int value) => some value
  | some (.bool value) => some (if value then 1 else 0)
  | some _ => none

section

variable [StrLower]

def normalize_policy_ids (values : List Json) : Except Error (List String) :=
  check_policy_ids (values.map text_of)

def policy_ids_from_context (context : CapabilityContext) : Except Error (List String) :=
  match context.policy_ids.getD .null with
  | .null => normalize_policy_ids [context.policy_id.getD .null]
  | .text _ => .error (value_error "policy_ids must be an ordered collection, not a string")
  | configured => do
    let normalized ← texts_of configured
    check_policy_ids normalized

/-- The entry when it is an active policy. -/
def active_policy : Json → Option (List (String × Json))
  | .object policy => if ((entry_of policy "status").getD .null).is_text "active" then some policy else none
  | _ => none

/-- The active policies under their identities; of two with one identity the later one counts. -/
def active_policies (policies : List Json) : Dict String (List (String × Json)) :=
  (policies.filterMap active_policy).foldl
    (fun active policy => active.set (text_of ((entry_of policy "policy_id").getD .null)) policy) .empty

def evaluate (policy : List (String × Json)) (capability target : String) : Except Error PolicyFinding := do
  let policy_id := text_of ((entry_of policy "policy_id").getD .null)
  let capabilities ← texts_of ((entry_of policy "allowed_capabilities").getD (.list []))
  let targets ← texts_of ((entry_of policy "allowed_targets").getD (.list []))
  match ttl_of policy with
  | some ttl =>
    if 1 ≤ ttl ∧ ttl ≤ 300 then
      .ok {
        policy_id
        capability_allowed := capability ∈ capabilities
        target_allowed := "*" ∈ targets ∨ target ∈ targets
        token_ttl_seconds := ttl }
    else .error (value_error ("policy '" ++ policy_id ++ "' has invalid token_ttl_seconds"))
  | none => .error (value_error ("policy '" ++ policy_id ++ "' has invalid token_ttl_seconds"))

/-- The policy that an identity selects. -/
def select_policy (active : Dict String (List (String × Json))) (policy_id : String) :
    Except Error (List (String × Json)) :=
  match active.get? policy_id with
  | none => .error (value_error ("Court requires one active policy for '" ++ policy_id ++ "'"))
  | some policy => .ok policy

/-- The state and the detail of the first denial among the findings. -/
def first_denial : List PolicyFinding → Option (CourtState × String)
  | [] => none
  | finding :: rest =>
    if !finding.capability_allowed then
      some (.policy_denied, "policy '" ++ finding.policy_id ++ "' denied capability")
    else if !finding.target_allowed then some (.target_denied, "policy '" ++ finding.policy_id ++ "' denied target")
    else first_denial rest

/-- `min(item.token_ttl_seconds for item in findings)`; the policies are never empty. -/
def minimum_ttl : List PolicyFinding → Int
  | [] => 0
  | finding :: rest => rest.foldl (fun ttl item => min ttl item.token_ttl_seconds) finding.token_ttl_seconds

def resolve_policy_set (file : Except Error Json) (requested_policy_ids : List String) (capability target : String) :
    Except Error PolicyResolution := do
  let policy_ids ← check_policy_ids (requested_policy_ids.map normalized)
  let policies ← load_document file
  let selected ← policy_ids.mapM (select_policy (active_policies policies))
  let findings ← selected.mapM (fun policy => evaluate policy capability target)
  let ttl := minimum_ttl findings
  match first_denial findings with
  | some (state, detail) =>
    .ok ⟨policy_ids, "+".intercalate policy_ids, findings, false, ttl, some state, some detail⟩
  | none => .ok ⟨policy_ids, "+".intercalate policy_ids, findings, true, ttl, none, none⟩

end

end velvet.court_policy_resolution
