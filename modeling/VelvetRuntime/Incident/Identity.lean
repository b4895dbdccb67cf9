import VelvetRuntime.Incident.Evidence
import VelvetRuntime.Incident.Intake
import VelvetRuntime.Joined

open python python.str joined

namespace velvet.incident_court_binding

open velvet.responder_action_intake velvet.emergency_action_eligibility velvet.incident_action_policy
open velvet.incident_action_resolver velvet.court_intent

/-- The text of a request's identity: the incident and the request. -/
def request_text (candidate : ResponderActionCandidate) : String :=
  candidate.incident_id ++ ":" ++ candidate.request_id

/-- The texts whose digests name a candidate. -/
def digested (candidate : ResponderActionCandidate) : List String := [candidate.incident_id, request_text candidate]

/-- The identity text of the second candidate is cut at a later colon than the one of the first, and is the same. -/
def ColonStraddles (first second : ResponderActionCandidate) : Prop :=
  Straddles ':' first.incident_id.toList first.request_id.toList second.incident_id.toList second.request_id.toList

theorem request_text_mem_digested (candidate : ResponderActionCandidate) :
    request_text candidate ∈ digested candidate :=
  List.mem_cons_of_mem _ List.mem_cons_self

variable {first second : ResponderActionCandidate}

theorem request_text_eq_iff :
    request_text first = request_text second ↔
      (first.incident_id, first.request_id) = (second.incident_id, second.request_id) ∨
        ColonStraddles first second ∨ ColonStraddles second first := by
  have htext (candidate : ResponderActionCandidate) :
      (request_text candidate).toList = candidate.incident_id.toList ++ ':' :: candidate.request_id.toList := by
    simp [request_text]
  rw [← String.toList_inj, htext, htext, append_cons_eq_append_cons_iff, String.toList_inj, String.toList_inj,
    Prod.mk.injEq]
  exact Iff.rfl

/-- Two identities straddle a colon only when they are different. -/
theorem ColonStraddles.ne (hstraddles : ColonStraddles first second) :
    first.incident_id ≠ second.incident_id := by
  obtain ⟨middle, hincident, _⟩ := hstraddles
  intro hsame
  rw [hsame] at hincident
  have hlength := congrArg List.length hincident
  rw [List.length_append, List.length_cons] at hlength
  omega

/-- An incident without a colon in its name straddles none. -/
theorem not_colonStraddles_of_not_mem (hcolon : ':' ∉ second.incident_id.toList) : ¬ColonStraddles first second := by
  rintro ⟨middle, hincident, _⟩
  exact hcolon (hincident ▸ List.mem_append_right _ List.mem_cons_self)

section

variable [StrLower]

/-- A request of a responder that passed intake and was bound for Court. -/
structure BoundRequest (digest : String → String) (repr_texts : List String → String) where
  plan : Dict String PyObject
  incident_active : Bool
  active_incident_id : Option String
  decision : ResponderActionIntakeDecision
  candidate : ResponderActionCandidate
  resolution : IncidentActionResolution
  emergency_context : EmergencyIncidentContext
  body : ActiveBody
  requested_at : Int
  court : IncidentCourtCandidate
  decided : admit_responder_action_proposal repr_texts plan incident_active active_incident_id = .ok decision
  admitted : decision.candidate = some candidate
  bound : bind_incident_court_candidate digest candidate resolution emergency_context body requested_at = .ok court

variable {digest : String → String} {repr_texts : List String → String} {candidate : ResponderActionCandidate}
  {resolution : IncidentActionResolution} {emergency_context : EmergencyIncidentContext} {body : ActiveBody}
  {requested_at : Int} {court : IncidentCourtCandidate}

/-- The identities in the intent of a bound candidate are those that the digests make. -/
theorem identity_of_bind
    (hcourt : bind_incident_court_candidate digest candidate resolution emergency_context body requested_at =
      .ok court) :
    court.intent.intent_id = some (incident_identity digest candidate).intent_id ∧
      court.intent.profile_id = some (incident_identity digest candidate).profile_id ∧
      court.intent.session_id = some (incident_identity digest candidate).session_id := by
  obtain ⟨bound, _, hcourt⟩ := except.bind_eq_ok.mp hcourt
  dsimp only at hcourt
  split at hcourt
  · cases hcourt
  · cases hcourt
    exact ⟨rfl, rfl, rfl⟩

/-- The intents of two requests tell the requests and the incidents apart. -/
structure IdentitiesDiffer (first second : BoundRequest digest repr_texts) : Prop where
  requests : (first.candidate.incident_id, first.candidate.request_id) ≠
      (second.candidate.incident_id, second.candidate.request_id) →
    first.court.intent.intent_id ≠ second.court.intent.intent_id
  incidents : first.candidate.incident_id ≠ second.candidate.incident_id →
    first.court.intent.profile_id ≠ second.court.intent.profile_id ∧
      first.court.intent.session_id ≠ second.court.intent.session_id

/-- Requests with the same identity text get intents with the same id. -/
theorem intent_id_eq_of_request_text_eq {first second : BoundRequest digest repr_texts}
    (hsame : request_text first.candidate = request_text second.candidate) :
    first.court.intent.intent_id = second.court.intent.intent_id := by
  rw [(identity_of_bind first.bound).1, (identity_of_bind second.bound).1]
  exact congrArg (fun text => some ("emergency.request." ++ digest text)) hsame

/-- While the digest tells the texts of two requests apart, their intents do, exactly when neither identity text is that
of the other cut at another colon. -/
theorem identities_differ_iff (first second : BoundRequest digest repr_texts)
    (hdigest : ∀ text ∈ digested first.candidate, ∀ other ∈ digested second.candidate,
      digest text = digest other → text = other) :
    IdentitiesDiffer first second ↔
      ¬ColonStraddles first.candidate second.candidate ∧ ¬ColonStraddles second.candidate first.candidate := by
  constructor
  · intro hdiffer
    constructor
    · intro hstraddles
      exact hdiffer.requests (fun hsame => hstraddles.ne (congrArg Prod.fst hsame))
        (intent_id_eq_of_request_text_eq (request_text_eq_iff.mpr (.inr (.inl hstraddles))))
    · intro hstraddles
      exact hdiffer.requests (fun hsame => hstraddles.ne (congrArg Prod.fst hsame).symm)
        (intent_id_eq_of_request_text_eq (request_text_eq_iff.mpr (.inr (.inr hstraddles))))
  · rintro ⟨hforward, hbackward⟩
    obtain ⟨hintent, hprofile, hsession⟩ := identity_of_bind first.bound
    obtain ⟨hintent', hprofile', hsession'⟩ := identity_of_bind second.bound
    constructor
    · intro hpair hsame
      rw [hintent, hintent', Option.some_inj] at hsame
      have htext := hdigest _ (request_text_mem_digested _) _ (request_text_mem_digested _)
        ((String.append_right_inj _).mp hsame)
      rcases request_text_eq_iff.mp htext with hsame_pair | hstraddles | hstraddles
      · exact hpair hsame_pair
      · exact hforward hstraddles
      · exact hbackward hstraddles
    · intro hincident
      constructor
      · intro hsame
        rw [hprofile, hprofile', Option.some_inj] at hsame
        exact hincident (hdigest _ List.mem_cons_self _ List.mem_cons_self ((String.append_right_inj _).mp hsame))
      · intro hsame
        rw [hsession, hsession', Option.some_inj] at hsame
        exact hincident (hdigest _ List.mem_cons_self _ List.mem_cons_self ((String.append_right_inj _).mp hsame))

/-- The plan of a request for the hazard lights. -/
def hazards_plan (incident_id request_id : String) : Dict String PyObject where
  items := [("request_id", .text request_id), ("action_name", .text "hazards-on"), ("incident_id", .text incident_id),
    ("source", .text "responder-conversation"), ("authority", .text "none"), ("requires_runtime_court", .bool true)]
  nodup := by
    simp only [List.map_cons, List.map_nil]
    decide

def hazards_candidate (incident_id request_id : String) : ResponderActionCandidate :=
  .new request_id incident_id "hazards-on" "responder-conversation"

omit [StrLower] in
theorem required_text_of_identifier {value : String} (hvalid : is_identifier value = true) (name : String) :
    required_text (some (.text value)) name = .ok value := by
  obtain ⟨hgiven, hstripped, _⟩ := of_decide_eq_true hvalid
  exact if_neg (not_or.mpr ⟨hgiven, not_not.mpr hstripped⟩)

omit [StrLower] in
theorem require_identifier_of_identifier {value : String} (hvalid : is_identifier value = true) (name : String) :
    ∃ hbounded, require_identifier value name = .ok ⟨hbounded⟩ := by
  obtain ⟨_, _, hlength, hchars⟩ := of_decide_eq_true hvalid
  have hcontrol : ¬∃ char ∈ value.toList, char.toNat < 32 ∨ char.toNat = 127 := by
    rintro ⟨char, hchar, hbad⟩
    exact of_decide_eq_true (List.all_eq_true.mp hchars char hchar) hbad
  unfold require_identifier
  rw [dif_neg (Nat.not_lt.mpr hlength), dif_neg hcontrol]
  exact ⟨_, rfl⟩

omit [StrLower] in
/-- Intake admits a request for the hazard lights in the active incident. -/
theorem admit_hazards_plan {incident_id request_id : String} (hincident : is_identifier incident_id = true)
    (hrequest : is_identifier request_id = true) :
    ∃ decision, admit_responder_action_proposal String.join (hazards_plan incident_id request_id) true
        (some incident_id) = .ok decision ∧
      decision.candidate = some (hazards_candidate incident_id request_id) := by
  obtain ⟨_, hbounded⟩ := require_identifier_of_identifier hrequest "request_id"
  obtain ⟨_, hbounded'⟩ := require_identifier_of_identifier hincident "incident_id"
  obtain ⟨_, hactive⟩ := require_identifier_of_identifier hincident "active_incident_id"
  have hkeys : check_plan_keys String.join (hazards_plan incident_id request_id) = .ok () := rfl
  have hproposal : ∃ proposal,
      parse_responder_action_proposal String.join (hazards_plan incident_id request_id) = .ok proposal ∧
        proposal.request_id = request_id ∧ proposal.incident_id = incident_id ∧ proposal.action_name = "hazards-on" ∧
        proposal.source = "responder-conversation" := by
    have hplan (name : String) {value : String}
        (hname : (hazards_plan incident_id request_id).get? name = some (.text value))
        (hvalid : is_identifier value = true) :
        required_text ((hazards_plan incident_id request_id).get? name) name = .ok value := by
      rw [hname]
      exact required_text_of_identifier hvalid name
    unfold parse_responder_action_proposal
    rw [hkeys, hplan "request_id" rfl hrequest, hplan "action_name" rfl (by decide), hplan "incident_id" rfl hincident,
      hplan "source" rfl (by decide), hplan "authority" rfl (by decide)]
    simp only [except.ok_bind, ResponderActionProposal.new, hbounded, hbounded']
    exact ⟨_, rfl, rfl, rfl, rfl, rfl⟩
  obtain ⟨proposal, hparsed, hid, hincident_id, haction, hsource⟩ := hproposal
  unfold admit_responder_action_proposal
  simp only [hparsed, except.ok_bind, required_text_of_identifier hincident, hactive]
  refine ⟨_, if_neg (not_not.mpr hincident_id), ?_⟩
  rw [hid, hincident_id, haction, hsource]
  rfl

/-- A request for the hazard lights is bound for Court in a crash. -/
theorem exists_hazards_request (digest : String → String) (incident_id request_id : String)
    (hvalid : is_identifier incident_id = true) (hrequest : is_identifier request_id = true) :
    ∃ request : BoundRequest digest String.join, request.candidate = hazards_candidate incident_id request_id := by
  let candidate := hazards_candidate incident_id request_id
  let context := crash_context incident_id hvalid
  have hpolicy : evaluate_incident_action_policy candidate (evaluate_emergency_first_eligibility candidate context)
      context ⟨false, false, false⟩ = advance .VISIBILITY []
        "verified emergency visibility request may advance immediately to governed resolution" := by
    simp [evaluate_incident_action_policy, evaluate_emergency_first_eligibility, candidate, context, hazards_candidate,
      crash_context, ResponderActionCandidate.new, classify, VISIBILITY_ACTIONS]
  have hbindable : Bindable candidate context ⟨"car", "cabin"⟩ 100 :=
    ⟨by decide, rfl, rfl, rfl, rfl, ⟨by decide, normalized_eq_self_of_ascii (by decide) (by decide)⟩,
      ⟨by decide, normalized_eq_self_of_ascii (by decide) (by decide)⟩⟩
  have hmapped : mapping_of candidate.action_name =
      some ⟨.VISIBILITY, "visibility.request", "vehicle.visibility.hazards"⟩ := rfl
  obtain ⟨court, hcourt⟩ : ∃ court, court_candidate digest (advance .VISIBILITY []
      "verified emergency visibility request may advance immediately to governed resolution") candidate context
      ⟨"car", "cabin"⟩ 100 = .ok court := (court_candidate_of_bindable hbindable hmapped :)
  rw [← hpolicy] at hcourt
  obtain ⟨decision, hdecided, hadmitted⟩ := admit_hazards_plan hvalid hrequest
  exact ⟨⟨_, _, _, decision, candidate, _, context, _, _, court, hdecided, hadmitted, hcourt⟩, rfl⟩

end

/-- The digests of the identity texts below; no other text is digested to one of them. -/
def sample_digest : String → String
  | "crash" => "cdb2e0d0f873ce5326e8"
  | "crash:2" => "a333dddb25400e7509e9"
  | "crash:2:r1" => "e96d686f6c823700c6b1"
  | "crash-1" => "9436ba6d36ba26793126"
  | "crash-2" => "fb8bf16e744070b87ae5"
  | "crash-1:r1" => "4e7e1e60c2bd501bdf45"
  | "crash-2:r1" => "27eaf90b3e81b0cadbaf"
  | other => "other " ++ other

/-- The same request in two crashes has two identities. -/
theorem crashes_told_apart :
    letI := StrLower.ascii
    ∃ first second : BoundRequest sample_digest String.join,
      first.candidate = hazards_candidate "crash-1" "r1" ∧ second.candidate = hazards_candidate "crash-2" "r1" ∧
        IdentitiesDiffer first second := by
  let := StrLower.ascii
  obtain ⟨first, hfirst⟩ := exists_hazards_request sample_digest "crash-1" "r1" (by decide) (by decide)
  obtain ⟨second, hsecond⟩ := exists_hazards_request sample_digest "crash-2" "r1" (by decide) (by decide)
  refine ⟨first, second, hfirst, hsecond, (identities_differ_iff first second ?_).mpr ⟨?_, ?_⟩⟩
  · rw [hfirst, hsecond]
    decide
  · rw [hfirst, hsecond]
    exact not_colonStraddles_of_not_mem (by decide)
  · rw [hfirst, hsecond]
    exact not_colonStraddles_of_not_mem (by decide)

/-- Request `2:r1` of one crash and request `r1` of another have one identity text, and get intents with one id. -/
theorem straddling_requests_share_intent :
    letI := StrLower.ascii
    ∃ first second : BoundRequest sample_digest String.join,
      first.candidate = hazards_candidate "crash" "2:r1" ∧ second.candidate = hazards_candidate "crash:2" "r1" ∧
        (∀ text ∈ digested first.candidate, ∀ other ∈ digested second.candidate,
          sample_digest text = sample_digest other → text = other) ∧
        first.court.intent.intent_id = some "emergency.request.e96d686f6c823700c6b1" ∧
        second.court.intent.intent_id = some "emergency.request.e96d686f6c823700c6b1" ∧
        ¬IdentitiesDiffer first second := by
  let := StrLower.ascii
  obtain ⟨first, hfirst⟩ := exists_hazards_request sample_digest "crash" "2:r1" (by decide) (by decide)
  obtain ⟨second, hsecond⟩ := exists_hazards_request sample_digest "crash:2" "r1" (by decide) (by decide)
  have hintent := (identity_of_bind first.bound).1
  have hintent' := (identity_of_bind second.bound).1
  rw [hfirst] at hintent
  rw [hsecond] at hintent'
  refine ⟨first, second, hfirst, hsecond, ?_, hintent, hintent', ?_⟩
  · rw [hfirst, hsecond]
    decide
  · intro hdiffer
    refine hdiffer.requests ?_ (intent_id_eq_of_request_text_eq ?_)
    · rw [hfirst, hsecond]
      decide
    · rw [hfirst, hsecond]
      decide

end velvet.incident_court_binding
