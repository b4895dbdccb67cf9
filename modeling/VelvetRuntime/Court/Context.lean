import VelvetRuntime.Court.Resolution

open python python.str

namespace velvet.profile_binding

structure ProfileBinding where
  profile_id : String
  profile_type : String
  display_name : String
  address_preference : String
  authority_profile : String
  deriving DecidableEq

structure SessionBinding where
  session_id : String
  profile : ProfileBinding
  verification_state : String
  physical_presence : Bool
  owner_verified : Bool
  deriving DecidableEq

def value_error (message : String) : Error := ⟨.ValueError, message⟩

/-- `_load_json` on what reading and decoding the file gives. -/
def load_json (file : Except Error Json) (label : String) : Except Error (List (String × Json)) := do
  match ← file with
  | .object value => .ok value
  | _ => .error (value_error (label ++ " must be a JSON object"))

/-- `record.get(key) == value`. -/
def has_text (record : List (String × Json)) (key value : String) : Bool :=
  ((entry_of record key).getD .null).is_text value

section

variable [StrLower]

def required_text (record : List (String × Json)) (key : String) : Except Error String :=
  match entry_of record key with
  | some (.text value) =>
    if Blank value then .error (value_error ("field '" ++ key ++ "' must be a non-empty string"))
    else .ok (normalized value)
  | _ => .error (value_error ("field '" ++ key ++ "' must be a non-empty string"))

def profile_from_record (record : List (String × Json)) : Except Error ProfileBinding :=
  if has_text record "status" "active" then do
    let profile_id ← required_text record "profile_id"
    let profile_type ← required_text record "profile_type"
    let display_name ← required_text record "display_name"
    let address_preference ← required_text record "address_preference"
    let authority_profile ← required_text record "authority_profile"
    pure { profile_id, profile_type, display_name, address_preference, authority_profile }
  else .error (value_error "selected profile is not active")

/-- The profiles under their ids, and the active guest profile. -/
def index_profiles : List Json → Dict String (List (String × Json)) → Option (List (String × Json)) →
    Except Error (Dict String (List (String × Json)) × Option (List (String × Json)))
  | [], by_id, guest => .ok (by_id, guest)
  | .object item :: rest, by_id, guest => do
    let profile_id ← required_text item "profile_id"
    if (by_id.get? profile_id).isSome then .error (value_error "profile_id values must be unique")
    else if has_text item "profile_type" "guest" && has_text item "status" "active" then
      if guest.isSome then .error (value_error "profile registry must contain exactly one active guest profile")
      else index_profiles rest (by_id.set profile_id item) (some item)
    else index_profiles rest (by_id.set profile_id item) guest
  | _ :: _, _, _ => .error (value_error "each profile must be an object")

/-- The profile that a session names; the id is looked up as it is spelled in the session. -/
def named_profile (by_id : Dict String (List (String × Json))) (session_doc : List (String × Json)) :
    Option (List (String × Json)) :=
  match entry_of session_doc "profile_id" with
  | some (.text requested_id) => by_id.get? requested_id
  | _ => none

def physical_presence (session_doc : List (String × Json)) : Bool :=
  match entry_of session_doc "physical_presence" with
  | some (.bool present) => present
  | _ => false

/-- The binding of a session, once the profiles are indexed. -/
def bind_session (by_id : Dict String (List (String × Json))) (guest session_doc : List (String × Json)) :
    Except Error SessionBinding := do
  let verification_state ← required_text session_doc "verification_state"
  match named_profile by_id session_doc, decide (verification_state = "verified") with
  | some selected, true => do
    let profile ← profile_from_record selected
    let session_id ← required_text session_doc "session_id"
    pure {
      session_id
      profile
      verification_state
      physical_presence := physical_presence session_doc
      owner_verified := profile.profile_type = "owner" && physical_presence session_doc }
  | _, _ => do
    let profile ← profile_from_record guest
    let session_id ← required_text session_doc "session_id"
    pure {
      session_id
      profile
      verification_state := "guest_fallback"
      physical_presence := physical_presence session_doc
      owner_verified := false }

def load_session_binding (profile_file session_file : Except Error Json) : Except Error SessionBinding := do
  let profiles_doc ← load_json profile_file "profile registry"
  let session_doc ← load_json session_file "session context"
  if !has_text profiles_doc "schema" "velvet.profile.registry.v1" then
    .error (value_error "unsupported profile registry schema")
  else if !has_text session_doc "schema" "velvet.session.context.v1" then
    .error (value_error "unsupported session context schema")
  else
    match entry_of profiles_doc "profiles" with
    | some (.list (first :: rest)) => do
      let (by_id, guest) ← index_profiles (first :: rest) .empty none
      match guest with
      | none => .error (value_error "profile registry requires one active guest profile")
      | some guest => bind_session by_id guest session_doc
    | _ => .error (value_error "profile registry requires a non-empty profiles list")

end

end velvet.profile_binding

namespace velvet.capability_context

open velvet.profile_binding velvet.court_authority

/-- What the capability context takes of the active body. -/
structure BodyBinding where
  body_id : String
  surface : String

/-- The prefix of the capabilities that only a verified owner is offered. -/
def owner_prefix : String := "owner."

def is_owner_capability (capability : String) : Bool := owner_prefix.toList.isPrefixOf capability.toList

section

variable [StrLower]

/-- The active policies for an authority profile. -/
def matching_policies (policies : List Json) (authority_profile : String) : List (List (String × Json)) :=
  policies.filterMap (fun item =>
    match item with
    | .object policy =>
      if text_of ((entry_of policy "authority_profile").getD .null) = authority_profile &&
          has_text policy "status" "active" then some policy
      else none
    | _ => none)

/-- `tuple(sorted({_text(value) for value in proposed}))`. -/
def normalized_capabilities (proposed : List Json) : List String :=
  (proposed.map text_of).dedup.insertionSort (· ≤ ·)

def offered_capabilities (session : SessionBinding) (capabilities : List String) : List String :=
  if session.owner_verified then capabilities
  else capabilities.filter (fun capability => !is_owner_capability capability)

/-- The context that the one matching policy gives. -/
def context_of_policy (policy : List (String × Json)) (authority_profile : String) (session : SessionBinding)
    (body : BodyBinding) : Except Error CapabilityContext := do
  let court_authority ← required_text policy "court_authority"
  if !registered court_authority then
    .error (value_error "capability policy declares an unregistered court_authority")
  else if court_authority = "unknown" then
    .error (value_error "capability policy may not activate unknown Court authority")
  else
    match entry_of policy "proposed_capabilities" with
    | some (.list proposed) =>
      if "" ∈ normalized_capabilities proposed then
        .error (value_error "proposed_capabilities must contain non-empty strings")
      else do
        let policy_id ← required_text policy "policy_id"
        pure {
          policy_ids := none
          policy_id := some (.text policy_id)
          court_authority := some (.text court_authority)
          court_authorities := some (.list [.text court_authority])
          authority_profile := some (.text authority_profile)
          authority_profiles := some (.list [.text authority_profile])
          authorization_required := some (.bool true)
          profile_id := some (.text session.profile.profile_id)
          session_id := some (.text session.session_id)
          body_id := some (.text body.body_id)
          surface := some (.text body.surface)
          proposed_capabilities := some (.list ((offered_capabilities session
            (normalized_capabilities proposed)).map .text)) }
    | _ => .error (value_error "proposed_capabilities must be a list")

def build_capability_context (policy_file : Except Error Json) (session : SessionBinding) (body : BodyBinding) :
    Except Error CapabilityContext := do
  let document ← load_json policy_file "capability context policy"
  if !has_text document "schema" "velvet.capability.context.v1" then
    .error (value_error "unsupported capability context schema")
  else
    match entry_of document "policies" with
    | some (.list (first :: rest)) =>
      let authority_profile := normalized session.profile.authority_profile
      if authority_profile = "" then
        .error (value_error "session profile requires a deployment authority_profile")
      else
        match matching_policies (first :: rest) authority_profile with
        | [policy] => context_of_policy policy authority_profile session body
        | _ => .error (value_error "capability context requires exactly one active matching policy")
    | _ => .error (value_error "capability context requires a non-empty policies list")

end

end velvet.capability_context
