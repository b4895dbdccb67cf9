import VelvetRuntime.Incident.Binding
import VelvetRuntime.Python.Except

open python python.str

namespace velvet.incident_action_policy

open velvet.responder_action_intake velvet.emergency_action_eligibility

/-- A policy evaluation: what it was given. -/
structure Evaluation where
  candidate : ResponderActionCandidate
  emergency : EmergencyEligibilityDecision
  emergency_context : EmergencyIncidentContext
  evidence : IncidentActionEvidence

def Evaluation.decision (evaluation : Evaluation) : IncidentActionPolicyDecision :=
  evaluate_incident_action_policy evaluation.candidate evaluation.emergency evaluation.emergency_context
    evaluation.evidence

/-- The three facts that a rescue-access request needs. -/
structure IncidentActionEvidence.Complete (evidence : IncidentActionEvidence) : Prop where
  stationary : evidence.vehicle_stationary_verified = true
  needed : evidence.rescue_access_needed = true
  on_scene : evidence.responder_on_scene_verified = true

/-- The evaluation lets a rescue-access request advance. -/
structure Evaluation.AdvancesRescue (evaluation : Evaluation) : Prop where
  rescue : classify evaluation.candidate.action_name = .RESCUE_ACCESS
  same_incident : evaluation.candidate.incident_id = evaluation.emergency_context.incident_id
  active : evaluation.emergency_context.active = true
  activation_verified : evaluation.emergency_context.activation_verified = true
  eligible : evaluation.emergency.eligible = true
  life_safety : evaluation.emergency.priority_band = .life_safety
  complete : evaluation.evidence.Complete

variable {evaluation : Evaluation}

theorem missing_eq_nil_iff {evidence : IncidentActionEvidence} : evidence.missing = [] ↔ evidence.Complete := by
  unfold IncidentActionEvidence.missing required
  rw [List.filter_eq_nil_iff]
  constructor
  · intro hgiven
    exact ⟨by simpa [IncidentActionEvidence.gives] using hgiven .vehicle_stationary_verified (by simp),
      by simpa [IncidentActionEvidence.gives] using hgiven .rescue_access_needed (by simp),
      by simpa [IncidentActionEvidence.gives] using hgiven .responder_on_scene_verified (by simp)⟩
  · rintro ⟨hstationary, hneeded, hon_scene⟩ fact _
    cases fact <;> simp [IncidentActionEvidence.gives, hstationary, hneeded, hon_scene]

/-- A rescue-access decision that advances rests on the three facts. -/
theorem advances_rescue_of_decision (hadvances : evaluation.decision.may_advance = true)
    (hfamily : evaluation.decision.action_family = .RESCUE_ACCESS) : evaluation.AdvancesRescue := by
  unfold Evaluation.decision evaluate_incident_action_policy at hadvances hfamily
  dsimp only at hadvances hfamily
  split at hadvances
  · cases hadvances
  · rename_i hboundary
    rw [if_neg hboundary] at hfamily
    split at hadvances
    · cases hadvances
    · rename_i hincident
      rw [if_neg hincident] at hfamily
      split at hadvances
      · cases hadvances
      · rename_i hactive
        rw [if_neg hactive] at hfamily
        split at hadvances
        · cases hadvances
        · rename_i heligible
          rw [if_neg heligible] at hfamily
          simp only [Bool.or_eq_true, Bool.not_eq_true', not_or, Bool.not_eq_false, decide_eq_true_eq, not_not] at hactive heligible
          cases hclass : classify evaluation.candidate.action_name with
          | MOTION_OR_POWER =>
            rw [hclass] at hadvances
            cases hadvances
          | UNKNOWN =>
            rw [hclass] at hadvances
            cases hadvances
          | VISIBILITY =>
            rw [hclass] at hfamily
            cases hfamily
          | RESCUE_ACCESS =>
            rw [hclass] at hadvances
            dsimp only at hadvances
            split at hadvances
            · cases hadvances
            · rename_i hmissing
              exact ⟨hclass, not_not.mp hincident, hactive.1, hactive.2, heligible.1, heligible.2,
                missing_eq_nil_iff.mp (not_not.mp hmissing)⟩

theorem decision_of_advances_rescue (hadvances : evaluation.AdvancesRescue) :
    evaluation.decision = advance .RESCUE_ACCESS required
      "verified on-scene rescue-access request may advance to governed resolution" := by
  obtain ⟨hrescue, hincident, hactive, hverified, heligible, hband, hcomplete⟩ := hadvances
  unfold Evaluation.decision evaluate_incident_action_policy
  simp [evaluation.candidate.authority_none, evaluation.candidate.court_required, hincident, hactive, hverified,
    heligible, hband, hrescue, missing_eq_nil_iff.mpr hcomplete]

end velvet.incident_action_policy

namespace velvet.incident_court_binding

open velvet.responder_action_intake velvet.emergency_action_eligibility velvet.incident_action_policy
open velvet.incident_action_resolver

variable {candidate : ResponderActionCandidate} {policy : IncidentActionPolicyDecision}
  {emergency_context : EmergencyIncidentContext} {resolution : IncidentActionResolution} {body : ActiveBody}
  {requested_at : Int}

/-- An action is resolved only by its reviewed mapping, and by a decision of that family that may advance. -/
theorem resolved_of_mapping (hresolved : (resolve_incident_action candidate policy emergency_context).resolved = true) :
    ∃ mapped, mapping_of candidate.action_name = some mapped ∧ policy.may_advance = true ∧
      policy.action_family = mapped.family := by
  unfold resolve_incident_action at hresolved
  split at hresolved
  · cases hresolved
  · split at hresolved
    · cases hresolved
    · split at hresolved
      · cases hresolved
      · split at hresolved
        · cases hresolved
        · split at hresolved
          · cases hresolved
          · rename_i hadvances
            split at hresolved
            · cases hresolved
            · unfold resolve_mapped at hresolved
              split at hresolved
              · split at hresolved
                · cases hresolved
                · cases hresolved
              · split at hresolved
                · cases hresolved
                · rename_i mapped hmapped
                  split at hresolved
                  · cases hresolved
                  · rename_i hfamily
                    exact ⟨mapped, hmapped, by simpa using hadvances, not_not.mp hfamily⟩

section

variable [StrLower]

/-- The request of a candidate can be bound in an incident. -/
structure Bindable (candidate : ResponderActionCandidate) (emergency_context : EmergencyIncidentContext)
    (body : ActiveBody) (requested_at : Int) : Prop where
  requested : 0 ≤ requested_at
  source : candidate.source = "responder-conversation"
  same_incident : candidate.incident_id = emergency_context.incident_id
  active : emergency_context.active = true
  activation_verified : emergency_context.activation_verified = true
  body_id : body.body_id ≠ "" ∧ normalized body.body_id = body.body_id
  surface : body.surface ≠ "" ∧ normalized body.surface = body.surface

theorem check_normalized_eq_ok {values : List (String × String)} :
    check_normalized values = .ok () ↔ ∀ entry ∈ values, entry.2 ≠ "" ∧ normalized entry.2 = entry.2 := by
  induction values with
  | nil => simp [check_normalized]
  | cons first rest ih =>
    obtain ⟨label, value⟩ := first
    unfold check_normalized
    rw [List.forall_mem_cons, ← ih]
    by_cases hvalue : value = "" ∨ normalized value ≠ value
    · rw [if_pos hvalue]
      simp only [reduceCtorEq, false_iff]
      tauto
    · rw [if_neg hvalue]
      tauto

theorem validate_inputs_eq_ok {bound : String × String} :
    validate_inputs candidate resolution emergency_context body requested_at = .ok bound ↔
      (∀ check ∈ input_checks candidate resolution emergency_context requested_at, check.1 = true) ∧
      resolution.capability = some bound.1 ∧ resolution.logical_target = some bound.2 ∧ bound.1 ≠ "" ∧ bound.2 ≠ "" ∧
      ∀ entry ∈ [("body_id", body.body_id), ("surface", body.surface), ("capability", bound.1), ("target", bound.2),
        ("action", resolution.action_name)], entry.2 ≠ "" ∧ normalized entry.2 = entry.2 := by
  unfold validate_inputs
  cases hfailed : (input_checks candidate resolution emergency_context requested_at).find? (fun check => !check.1) with
  | some check =>
    have hmem := List.mem_of_find?_eq_some hfailed
    have hfalse := List.find?_some hfailed
    constructor
    · intro hresult
      cases hresult
    · rintro ⟨hall, _⟩
      rw [hall check hmem] at hfalse
      cases hfalse
  | none =>
    have hall : ∀ check ∈ input_checks candidate resolution emergency_context requested_at, check.1 = true := by
      simpa using List.find?_eq_none.mp hfailed
    dsimp only
    constructor
    · intro hresult
      split at hresult
      · cases hresult
      · rename_i capability hcapability
        split at hresult
        · cases hresult
        · rename_i target htarget
          obtain ⟨_, hnormal, hresult⟩ := except.bind_eq_ok.mp hresult
          cases hresult
          obtain ⟨hcapability, hcapability_given⟩ := Option.filter_eq_some_iff.mp hcapability
          obtain ⟨htarget, htarget_given⟩ := Option.filter_eq_some_iff.mp htarget
          exact ⟨hall, hcapability, htarget, of_decide_eq_true hcapability_given, of_decide_eq_true htarget_given,
            check_normalized_eq_ok.mp hnormal⟩
    · rintro ⟨_, hcapability, htarget, hcapability_given, htarget_given, hnormal⟩
      rw [hcapability, htarget, Option.filter_some_pos (by simpa using hcapability_given),
        Option.filter_some_pos (by simpa using htarget_given)]
      exact except.bind_eq_ok.mpr ⟨(), check_normalized_eq_ok.mpr hnormal, rfl⟩

/-- The chain from a policy decision to a candidate for Court. -/
def court_candidate (digest : String → String) (policy : IncidentActionPolicyDecision)
    (candidate : ResponderActionCandidate) (emergency_context : EmergencyIncidentContext) (body : ActiveBody)
    (requested_at : Int) : Except Error IncidentCourtCandidate :=
  bind_incident_court_candidate digest candidate (resolve_incident_action candidate policy emergency_context)
    emergency_context body requested_at

variable {digest : String → String} {court : IncidentCourtCandidate}

/-- What the chain has checked when it binds a candidate for Court. -/
theorem of_court_candidate
    (hcourt : court_candidate digest policy candidate emergency_context body requested_at = .ok court) :
    Bindable candidate emergency_context body requested_at ∧ ∃ mapped, mapping_of candidate.action_name = some mapped ∧
      policy.may_advance = true ∧ policy.action_family = mapped.family := by
  unfold court_candidate bind_incident_court_candidate at hcourt
  obtain ⟨bound, hbound, _⟩ := except.bind_eq_ok.mp hcourt
  obtain ⟨hchecks, _, _, _, _, hnormal⟩ := validate_inputs_eq_ok.mp hbound
  simp only [input_checks, List.forall_mem_cons, decide_eq_true_eq, Bool.and_eq_true] at hchecks
  obtain ⟨hrequested, hsource, _, hincident, ⟨hactive, hverified⟩, ⟨hresolved, _⟩, _⟩ := hchecks
  refine ⟨⟨hrequested, hsource, hincident, hactive, hverified, ?_, ?_⟩, resolved_of_mapping hresolved⟩
  · exact hnormal ("body_id", body.body_id) (by simp)
  · exact hnormal ("surface", body.surface) (by simp)

variable {mapped : Mapping}

/-- What is said of an action in the reviewed mapping. -/
theorem reviewed_mapping {action_name : String} (hmapped : mapping_of action_name = some mapped) :
    ambiguous_family action_name = none ∧ (emergency_court_policy mapped.capability).isSome ∧
      ∀ text ∈ [mapped.capability, mapped.logical_target, action_name], text ≠ "" ∧ normalized text = text := by
  obtain ⟨⟨name, found⟩, hfound, rfl⟩ := Option.map_eq_some_iff.mp hmapped
  have hname : name = action_name := by simpa using List.find?_some hfound
  have hreviewed : ∀ entry ∈ ACTION_MAP, ambiguous_family entry.1 = none ∧
      (emergency_court_policy entry.2.capability).isSome ∧
      ∀ text ∈ [entry.2.capability, entry.2.logical_target, entry.1], text ≠ "" ∧
        (∀ c ∈ text.toList, c.toNat < 128 ∧ c.toLower = c) ∧ join (split text.toList) = text.toList := by
    decide +kernel
  obtain ⟨hunambiguous, hpolicy, htexts⟩ := hreviewed _ (List.mem_of_find?_eq_some hfound)
  subst hname
  refine ⟨hunambiguous, hpolicy, fun text htext => ?_⟩
  obtain ⟨hgiven, hascii, hjoined⟩ := htexts text htext
  exact ⟨hgiven, normalized_eq_self_of_ascii hascii hjoined⟩

/-- A mapped action that may advance is bound. -/
theorem court_candidate_of_bindable {facts : List RequiredEvidence} {reason : String}
    (hbindable : Bindable candidate emergency_context body requested_at)
    (hmapped : mapping_of candidate.action_name = some mapped) :
    ∃ court, court_candidate digest (advance mapped.family facts reason) candidate emergency_context body
      requested_at = .ok court := by
  obtain ⟨hrequested, hsource, hincident, hactive, hverified, hbody, hsurface⟩ := hbindable
  obtain ⟨hunambiguous, hpolicy, htexts⟩ := reviewed_mapping hmapped
  have hresolved : resolve_incident_action candidate (advance mapped.family facts reason) emergency_context =
      resolved_candidate candidate mapped := by
    unfold resolve_incident_action resolve_mapped boundary_clean
    simp [candidate.authority_none, candidate.court_required, hincident, hactive, hverified, hunambiguous, hmapped,
      advance]
  have hvalid : validate_inputs candidate (resolved_candidate candidate mapped) emergency_context body requested_at =
      .ok (mapped.capability, mapped.logical_target) := by
    refine validate_inputs_eq_ok.mpr ⟨?_, rfl, rfl, (htexts _ (by simp)).1, (htexts _ (by simp)).1, ?_⟩
    · simp [input_checks, resolved_candidate, hrequested, hsource, candidate.authority_none, candidate.court_required,
        hincident, hactive, hverified]
    · simp only [List.forall_mem_cons]
      exact ⟨hbody, hsurface, htexts _ (by simp), htexts _ (by simp), htexts _ (by simp [resolved_candidate]), by simp⟩
  obtain ⟨policy_id, hpolicy_id⟩ := Option.isSome_iff_exists.mp hpolicy
  unfold court_candidate bind_incident_court_candidate
  rw [hresolved, hvalid]
  simp only [bind, Except.bind, hpolicy_id]
  exact ⟨_, rfl⟩

/-- One of the evaluations was for the request of the candidate in its incident, and was given the three facts. -/
def Evidenced (history : List Evaluation) (candidate : ResponderActionCandidate) : Prop :=
  ∃ evaluation ∈ history, evaluation.candidate.request_id = candidate.request_id ∧
    evaluation.candidate.incident_id = candidate.incident_id ∧ evaluation.evidence.Complete

/-- The decision of an evaluation opens a door for a candidate: it lets a rescue-access request advance, and the
candidate asks for a mapped rescue access and can be bound. -/
structure OpensDoor (evaluation : Evaluation) (candidate : ResponderActionCandidate)
    (emergency_context : EmergencyIncidentContext) (body : ActiveBody) (requested_at : Int) : Prop where
  advances : evaluation.AdvancesRescue
  mapped : ∃ mapped, mapping_of candidate.action_name = some mapped ∧ mapped.family = .RESCUE_ACCESS
  bindable : Bindable candidate emergency_context body requested_at

omit [StrLower] in
theorem family_of_mapping {action_name : String} (hmapped : mapping_of action_name = some mapped) :
    classify action_name = mapped.family := by
  obtain ⟨⟨name, found⟩, hfound, rfl⟩ := Option.map_eq_some_iff.mp hmapped
  have hname : name = action_name := by simpa using List.find?_some hfound
  have hclassified : ∀ entry ∈ ACTION_MAP, classify entry.1 = entry.2.family := by decide +kernel
  exact hname ▸ hclassified _ (List.mem_of_find?_eq_some hfound)

/-- The chain binds a rescue access exactly where the decision opens a door. -/
theorem court_candidate_iff_opensDoor {evaluation : Evaluation} :
    ((∃ court, court_candidate digest evaluation.decision candidate emergency_context body requested_at = .ok court) ∧
      classify candidate.action_name = .RESCUE_ACCESS) ↔
        OpensDoor evaluation candidate emergency_context body requested_at := by
  constructor
  · rintro ⟨⟨court, hcourt⟩, hrescue⟩
    obtain ⟨hbindable, mapped, hmapped, hadvances, hfamily⟩ := of_court_candidate hcourt
    have hmapped_family := (family_of_mapping hmapped).symm.trans hrescue
    exact ⟨advances_rescue_of_decision hadvances (hfamily.trans hmapped_family), ⟨mapped, hmapped, hmapped_family⟩,
      hbindable⟩
  · rintro ⟨hadvances, ⟨mapped, hmapped, hfamily⟩, hbindable⟩
    refine ⟨?_, (family_of_mapping hmapped).trans hfamily⟩
    rw [decision_of_advances_rescue hadvances, ← hfamily]
    exact court_candidate_of_bindable hbindable hmapped

/-- Whatever else was evaluated, a rescue access that is bound with a decision has had its own evaluation, with the
three facts, exactly if the decision opens no door for another request or incident than it was made for. And an action
outside the reviewed mapping is never bound. -/
theorem rescue_access_evidenced_iff (digest : String → String) (evaluation : Evaluation)
    (candidate : ResponderActionCandidate) (emergency_context : EmergencyIncidentContext) (body : ActiveBody)
    (requested_at : Int) :
    ((∀ history court, evaluation ∈ history →
        court_candidate digest evaluation.decision candidate emergency_context body requested_at = .ok court →
        classify candidate.action_name = .RESCUE_ACCESS → Evidenced history candidate) ↔
      (OpensDoor evaluation candidate emergency_context body requested_at →
        evaluation.candidate.request_id = candidate.request_id ∧
          evaluation.candidate.incident_id = candidate.incident_id)) ∧
    ∀ policy court, candidate.action_name ∉ ACTION_MAP.map Prod.fst →
      court_candidate digest policy candidate emergency_context body requested_at ≠ .ok court := by
  refine ⟨⟨?_, ?_⟩, ?_⟩
  · intro hevidenced hopens
    obtain ⟨⟨court, hcourt⟩, hrescue⟩ := court_candidate_iff_opensDoor.mpr hopens
    obtain ⟨found, hfound, hrequest, hincident, _⟩ :=
      hevidenced [evaluation] court (List.mem_singleton_self _) hcourt hrescue
    rw [List.mem_singleton.mp hfound] at hrequest hincident
    exact ⟨hrequest, hincident⟩
  · intro hsame history court hmem hcourt hrescue
    have hopens := court_candidate_iff_opensDoor.mp ⟨⟨court, hcourt⟩, hrescue⟩
    obtain ⟨hrequest, hincident⟩ := hsame hopens
    exact ⟨evaluation, hmem, hrequest, hincident, hopens.advances.complete⟩
  · intro policy court hunmapped hcourt
    obtain ⟨_, mapped, hmapped, _⟩ := of_court_candidate hcourt
    obtain ⟨⟨name, found⟩, hfound, _⟩ := Option.map_eq_some_iff.mp hmapped
    have hname : name = candidate.action_name := by simpa using List.find?_some hfound
    exact hunmapped (hname ▸ List.mem_map_of_mem (List.mem_of_find?_eq_some hfound))

end

def crash_context (incident_id : String) (hvalid : is_identifier incident_id = true) : EmergencyIncidentContext where
  incident_id
  active := true
  activation := .ACCIDENT
  activation_verified := true
  incident_id_valid := hvalid

/-- The evaluation of a request in the first crash: the vehicle stands, and responders are there. -/
def first_crash_evaluation : Evaluation where
  candidate := .new "r1" "crash-1" "unlock.driver-door" "responder-conversation"
  emergency := evaluate_emergency_first_eligibility
    (.new "r1" "crash-1" "unlock.driver-door" "responder-conversation") (crash_context "crash-1" (by decide))
  emergency_context := crash_context "crash-1" (by decide)
  evidence := ⟨true, true, true⟩

/-- A request in the second crash, of which nothing is known. -/
def second_crash_candidate : ResponderActionCandidate :=
  .new "r2" "crash-2" "unlock-all-doors" "responder-conversation"

/-- The decision made for the first crash opens the doors in the second one. -/
theorem decision_opens_other_incident :
    letI := StrLower.ascii
    (court_candidate (fun _ => "0") first_crash_evaluation.decision second_crash_candidate
        (crash_context "crash-2" (by decide)) ⟨"car", "cabin"⟩ 100).toOption.map
      (fun court => (court.incident_id, court.intent.capability)) = some ("crash-2", some "access.request") ∧
    classify second_crash_candidate.action_name = .RESCUE_ACCESS ∧
    ¬Evidenced [first_crash_evaluation] second_crash_candidate := by
  refine ⟨by decide +kernel, by decide +kernel, ?_⟩
  rintro ⟨found, hfound, hrequest, _⟩
  rw [List.mem_singleton.mp hfound] at hrequest
  exact absurd hrequest (by decide +kernel)

end velvet.incident_court_binding
