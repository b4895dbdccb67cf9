import VelvetRuntime.Court.Context
import VelvetRuntime.Court.Soundness

open python python.str

namespace velvet.profile_binding

variable [StrLower]

/-- A required text field of a document, normalised. -/
def Field (record : List (String × Json)) (key value : String) : Prop :=
  ∃ text, entry_of record key = some (.text text) ∧ ¬Blank text ∧ normalized text = value

variable {record : List (String × Json)}

theorem required_text_eq_ok {key value : String} :
    required_text record key = .ok value ↔ Field record key value := by
  unfold required_text Field
  cases hentry : entry_of record key with
  | none => simp
  | some found =>
    cases found with
    | text text =>
      by_cases hblank : Blank text
      · simp [hblank]
      · simp [hblank]
    | _ => simp

/-- The entries of the index are profiles of the registry under their normalised ids. -/
def Indexed (profiles : List Json) (by_id : Dict String (List (String × Json))) : Prop :=
  ∀ profile_id item, by_id.get? profile_id = some item → .object item ∈ profiles ∧ Field item "profile_id" profile_id

theorem indexed_of_index_profiles {seen rest : List Json} {by_id found : Dict String (List (String × Json))}
    {guest selected : Option (List (String × Json))} (hindexed : Indexed seen by_id)
    (hresult : index_profiles rest by_id guest = .ok (found, selected)) : Indexed (seen ++ rest) found := by
  induction rest generalizing seen by_id guest with
  | nil =>
    cases hresult
    rw [List.append_nil]
    exact hindexed
  | cons first others ih =>
    rw [List.append_cons]
    cases first with
    | object item =>
      unfold index_profiles at hresult
      obtain ⟨profile_id, hid, hresult⟩ := except.bind_eq_ok.mp hresult
      have hnext : Indexed (seen ++ [.object item]) (by_id.set profile_id item) := by
        intro other profile hget
        rw [Dict.get?_set] at hget
        split at hget
        · rename_i hsame
          cases hget
          rw [hsame]
          exact ⟨List.mem_append_right _ (List.mem_singleton_self _), required_text_eq_ok.mp hid⟩
        · obtain ⟨hmem, hfield⟩ := hindexed other profile hget
          exact ⟨List.mem_append_left _ hmem, hfield⟩
      split at hresult
      · cases hresult
      · split at hresult
        · split at hresult
          · cases hresult
          · exact ih hnext hresult
        · exact ih hnext hresult
    | _ => cases hresult

/-- The session names, in state verified and with physical presence, an active profile of type owner. -/
structure OwnerPresent (profiles : List Json) (session_doc profile : List (String × Json)) : Prop where
  registered : .object profile ∈ profiles
  named : ∃ requested_id, entry_of session_doc "profile_id" = some (.text requested_id) ∧
    Field profile "profile_id" requested_id
  verified : Field session_doc "verification_state" "verified"
  present : entry_of session_doc "physical_presence" = some (.bool true)
  active : entry_of profile "status" = some (.text "active")
  owner : Field profile "profile_type" "owner"

omit [StrLower] in
theorem has_text_iff {key value : String} :
    has_text record key value = true ↔ entry_of record key = some (.text value) :=
  Json.is_text_getD

theorem profile_of_record {profile : ProfileBinding} (hprofile : profile_from_record record = .ok profile) :
    entry_of record "status" = some (.text "active") ∧ Field record "profile_type" profile.profile_type := by
  unfold profile_from_record at hprofile
  split at hprofile
  · rename_i hactive
    obtain ⟨_, _, hprofile⟩ := except.bind_eq_ok.mp hprofile
    obtain ⟨profile_type, htype, hprofile⟩ := except.bind_eq_ok.mp hprofile
    obtain ⟨_, _, hprofile⟩ := except.bind_eq_ok.mp hprofile
    obtain ⟨_, _, hprofile⟩ := except.bind_eq_ok.mp hprofile
    obtain ⟨_, _, hprofile⟩ := except.bind_eq_ok.mp hprofile
    cases hprofile
    exact ⟨has_text_iff.mp hactive, required_text_eq_ok.mp htype⟩
  · cases hprofile

variable {session : SessionBinding}

/-- A session is owner verified only where an owner is present; a fallback to the guest is not owner verified. -/
theorem owner_present_of_bind {profiles : List Json} {by_id : Dict String (List (String × Json))}
    {guest session_doc : List (String × Json)} (hindexed : Indexed profiles by_id)
    (hbind : bind_session by_id guest session_doc = .ok session) :
    (session.owner_verified = true → ∃ profile, OwnerPresent profiles session_doc profile) ∧
      (session.verification_state = "guest_fallback" → session.owner_verified = false) := by
  unfold bind_session at hbind
  obtain ⟨verification_state, hstate, hbind⟩ := except.bind_eq_ok.mp hbind
  split at hbind
  · rename_i selected hnamed hverified
    obtain ⟨profile, hprofile, hbind⟩ := except.bind_eq_ok.mp hbind
    obtain ⟨session_id, _, hbind⟩ := except.bind_eq_ok.mp hbind
    cases hbind
    have hverified := of_decide_eq_true hverified
    subst hverified
    refine ⟨?_, ?_⟩
    · intro howner
      obtain ⟨hactive, htype⟩ := profile_of_record hprofile
      obtain ⟨htype_owner, hpresent⟩ := Bool.and_eq_true_iff.mp howner
      have hnamed_profile : ∃ requested_id, entry_of session_doc "profile_id" = some (.text requested_id) ∧
          by_id.get? requested_id = some selected := by
        unfold named_profile at hnamed
        split at hnamed
        · rename_i requested_id hentry
          exact ⟨requested_id, hentry, hnamed⟩
        · cases hnamed
      obtain ⟨requested_id, hentry, hget⟩ := hnamed_profile
      obtain ⟨hmem, hfield⟩ := hindexed requested_id selected hget
      refine ⟨selected, hmem, ⟨requested_id, hentry, hfield⟩, required_text_eq_ok.mp hstate, ?_, hactive, ?_⟩
      · unfold physical_presence at hpresent
        split at hpresent
        · rename_i present hentry
          rw [hentry, hpresent]
        · cases hpresent
      · rw [← of_decide_eq_true htype_owner]
        exact htype
    · intro hfallback
      have hdifferent : "verified" ≠ "guest_fallback" := by decide
      exact absurd hfallback hdifferent
  · obtain ⟨profile, hprofile, hbind⟩ := except.bind_eq_ok.mp hbind
    obtain ⟨session_id, _, hbind⟩ := except.bind_eq_ok.mp hbind
    cases hbind
    refine ⟨?_, fun _ => rfl⟩
    intro howner
    cases howner

/-- The documents of a session that is bound. -/
theorem documents_of_session {profile_file session_file : Except Error Json}
    (hsession : load_session_binding profile_file session_file = .ok session) :
    ∃ profiles_doc session_doc profiles by_id guest, profile_file = .ok (.object profiles_doc) ∧
      session_file = .ok (.object session_doc) ∧ entry_of profiles_doc "profiles" = some (.list profiles) ∧
      Indexed profiles by_id ∧ bind_session by_id guest session_doc = .ok session := by
  unfold load_session_binding load_json at hsession
  obtain ⟨profiles_doc, hprofiles, hsession⟩ := except.bind_eq_ok.mp hsession
  obtain ⟨session_doc, hsession_doc, hsession⟩ := except.bind_eq_ok.mp hsession
  have hobject : ∀ {file : Except Error Json} {label : String} {document : List (String × Json)},
      load_json file label = .ok document → file = .ok (.object document) := by
    intro file label document hload
    obtain ⟨value, hvalue, hload⟩ := except.bind_eq_ok.mp hload
    split at hload
    · cases hload
      exact hvalue
    · cases hload
  split at hsession
  · cases hsession
  · split at hsession
    · cases hsession
    · split at hsession
      · rename_i first rest hlist
        obtain ⟨⟨by_id, guest⟩, hindex, hsession⟩ := except.bind_eq_ok.mp hsession
        have hstart : Indexed [] (.empty : Dict String (List (String × Json))) := by
          intro profile_id item hget
          cases hget
        have hindexed := indexed_of_index_profiles hstart hindex
        dsimp only at hsession
        split at hsession
        · cases hsession
        · rename_i guest
          exact ⟨profiles_doc, session_doc, first :: rest, by_id, guest, hobject hprofiles, hobject hsession_doc, hlist,
            hindexed, hsession⟩
      · cases hsession

end velvet.profile_binding

namespace velvet.capability_context

open velvet.profile_binding velvet.court_authority velvet.court_intent velvet.court_token velvet.court_authorization

variable [StrLower] {context : CapabilityContext}

/-- Without a verified owner the context offers no owner capability. -/
theorem proposed_of_context {policy_file : Except Error Json} {session : SessionBinding} {body : BodyBinding} (hcontext : build_capability_context policy_file session body = .ok context) :
    ∃ capabilities : List String, context.proposed_capabilities = some (.list (capabilities.map .text)) ∧
      (session.owner_verified = false → ∀ capability ∈ capabilities, is_owner_capability capability = false) := by
  unfold build_capability_context at hcontext
  obtain ⟨document, _, hcontext⟩ := except.bind_eq_ok.mp hcontext
  split at hcontext
  · cases hcontext
  · split at hcontext
    · dsimp only at hcontext
      split at hcontext
      · cases hcontext
      · split at hcontext
        · unfold context_of_policy at hcontext
          obtain ⟨court_authority, _, hcontext⟩ := except.bind_eq_ok.mp hcontext
          split at hcontext
          · cases hcontext
          · split at hcontext
            · cases hcontext
            · split at hcontext
              · rename_i proposed _
                split at hcontext
                · cases hcontext
                · obtain ⟨policy_id, _, hcontext⟩ := except.bind_eq_ok.mp hcontext
                  cases hcontext
                  refine ⟨_, rfl, ?_⟩
                  intro hunverified capability hmem
                  unfold offered_capabilities at hmem
                  rw [hunverified] at hmem
                  simpa using (List.mem_filter.mp hmem).2
              · cases hcontext
        · cases hcontext
    · cases hcontext

/-- The capability of a token is one that the context proposes. -/
theorem token_proposed {signing : Signing} {sink : ReceiptSink} {intent : Intent}
    {file : Except Error Json} {signing_key : Option (List UInt8)} {now : Int} {decision : CourtDecision}
    {token : CapabilityToken}
    (hdecision : authorize_intent signing sink intent context file signing_key now = .ok decision)
    (htoken : decision.token = some token) : Proposes context token.capability := by
  unfold authorize_intent at hdecision
  split at hdecision
  · rcases authorize_valid_cases hdecision with ⟨_, hnone⟩ | ⟨basis, hgrounds, _, rfl⟩
    · rw [hnone] at htoken
      cases htoken
    · cases htoken
      exact hgrounds.proposed
  · obtain ⟨_, hnone⟩ := deny_withheld hdecision
    rw [hnone] at htoken
    cases htoken

section

variable (signing : Signing) (sink : ReceiptSink) (profile_file session_file policy_file court_file : Except Error Json)
  (body : BodyBinding) (intent : Intent) (signing_key : Option (List UInt8)) (now : Int)

/-- The decision of Court in the context of a session: the session is bound, the context is built, the intent is
judged. -/
def authorize_in_session : Except Error (SessionBinding × CourtDecision) := do
  let session ← load_session_binding profile_file session_file
  let context ← build_capability_context policy_file session body
  let decision ← authorize_intent signing sink intent context court_file signing_key now
  pure (session, decision)

/-- A token for an owner capability is given only in a session that names, verified and with physical presence, an
active registered profile of type owner; a session that falls back to the guest profile gets none. -/
theorem owner_capability_confined (session : SessionBinding) (decision : CourtDecision) (token : CapabilityToken)
    (hdecision : authorize_in_session signing sink profile_file session_file policy_file court_file body intent
      signing_key now = .ok (session, decision))
    (htoken : decision.token = some token) (howner : is_owner_capability token.capability = true) :
    (∃ profiles_doc session_doc profiles profile, profile_file = .ok (.object profiles_doc) ∧
      session_file = .ok (.object session_doc) ∧ entry_of profiles_doc "profiles" = some (.list profiles) ∧
      OwnerPresent profiles session_doc profile) ∧
    session.verification_state ≠ "guest_fallback" := by
  obtain ⟨bound, hsession, hdecision⟩ := except.bind_eq_ok.mp hdecision
  obtain ⟨context, hcontext, hdecision⟩ := except.bind_eq_ok.mp hdecision
  obtain ⟨judged, hjudged, hdecision⟩ := except.bind_eq_ok.mp hdecision
  cases hdecision
  obtain ⟨capabilities, hproposed, hconfined⟩ := proposed_of_context hcontext
  have hverified : session.owner_verified = true := by
    obtain ⟨values, hiterate, _, hmem⟩ := token_proposed hjudged htoken
    rw [hproposed] at hiterate
    cases hiterate
    obtain ⟨capability, hcapability, hsame⟩ := List.mem_map.mp hmem
    cases hsame
    by_contra hunverified
    rw [hconfined (by simpa using hunverified) _ hcapability] at howner
    cases howner
  obtain ⟨profiles_doc, session_doc, profiles, by_id, guest, hprofiles, hdoc, hlist, hindexed, hbind⟩ :=
    documents_of_session hsession
  obtain ⟨hpresent, hfallback⟩ := owner_present_of_bind hindexed hbind
  refine ⟨?_, ?_⟩
  · obtain ⟨profile, howner_present⟩ := hpresent hverified
    exact ⟨profiles_doc, session_doc, profiles, profile, hprofiles, hdoc, hlist, howner_present⟩
  · intro hguest
    rw [hfallback hguest] at hverified
    cases hverified

end

/-- A registry with an owner and a guest. -/
def door_profiles : Json :=
  .object [("schema", .text "velvet.profile.registry.v1"), ("profiles", .list [
    .object [("profile_id", .text "ana"), ("profile_type", .text "owner"), ("display_name", .text "ana"),
      ("address_preference", .text "ana"), ("authority_profile", .text "owner_present"), ("status", .text "active")],
    .object [("profile_id", .text "visitor"), ("profile_type", .text "guest"), ("display_name", .text "visitor"),
      ("address_preference", .text "visitor"), ("authority_profile", .text "guest"), ("status", .text "active")]])]

/-- The owner's session, verified and present. -/
def door_session : Json :=
  .object [("schema", .text "velvet.session.context.v1"), ("session_id", .text "s1"), ("profile_id", .text "ana"),
    ("verification_state", .text "Verified"), ("physical_presence", .bool true)]

def door_policies : Json :=
  .object [("schema", .text "velvet.capability.context.v1"), ("policies", .list [
    .object [("policy_id", .text "p1"), ("authority_profile", .text "owner_present"), ("status", .text "active"),
      ("court_authority", .text "owner"), ("proposed_capabilities", .list [.text "owner.unlock"])]])]

def door_court : Json :=
  .object [("schema", .text "velvet.court.policy.v1"), ("policies", .list [
    .object [("policy_id", .text "p1"), ("status", .text "active"),
      ("allowed_capabilities", .list [.text "owner.unlock"]), ("allowed_targets", .list [.text "*"])]])]

def unlock_intent : Intent where
  intent_id := some "i1"
  action := some "unlock"
  capability := some "owner.unlock"
  target := some "door"
  profile_id := some "ana"
  session_id := some "s1"
  body_id := some "car"
  surface := some "cabin"
  requested_at := some 100

/-- Signing that leaves ids and signatures empty. -/
def plain_signing : Signing := ⟨fun _ => "", fun _ _ => ""⟩

omit [StrLower] in
/-- The owner's session gets a token to unlock the door, and it is the owner's. -/
theorem owner_unlocks_door :
    letI := StrLower.ascii
    ∃ session decision token,
      authorize_in_session plain_signing (fun _ => .ok ()) (.ok door_profiles) (.ok door_session) (.ok door_policies)
        (.ok door_court) ⟨"car", "cabin"⟩ unlock_intent (some (List.replicate 32 0)) 100 = .ok (session, decision) ∧
      decision.token = some token ∧ is_owner_capability token.capability = true ∧
      session.verification_state ≠ "guest_fallback" := by
  let := StrLower.ascii
  have hgiven : letI := StrLower.ascii
      ((authorize_in_session plain_signing (fun _ => .ok ()) (.ok door_profiles) (.ok door_session) (.ok door_policies)
        (.ok door_court) ⟨"car", "cabin"⟩ unlock_intent (some (List.replicate 32 0)) 100).toOption.bind
          fun decided => decided.2.token).any (fun token => is_owner_capability token.capability) := by
    decide
  cases hresult : authorize_in_session plain_signing (fun _ => .ok ()) (.ok door_profiles) (.ok door_session)
      (.ok door_policies) (.ok door_court) ⟨"car", "cabin"⟩ unlock_intent (some (List.replicate 32 0)) 100 with
  | error error =>
    rw [hresult] at hgiven
    cases hgiven
  | ok decided =>
    obtain ⟨session, decision⟩ := decided
    rw [hresult] at hgiven
    obtain ⟨token, htoken, howner⟩ := (Option.any_eq_true _ _).mp hgiven
    exact ⟨session, decision, token, rfl, htoken, howner, (owner_capability_confined plain_signing _ _ _ _ _ _ _ _ _
      session decision token hresult htoken howner).2⟩

end velvet.capability_context
