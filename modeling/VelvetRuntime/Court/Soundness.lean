import VelvetRuntime.Python.Except
import VelvetRuntime.Court.Authorization

open python python.str

namespace velvet.court_authority

@[simp] theorem normalized_text_of [StrLower] (value : Json) : normalized (text_of value) = text_of value := by
  have hempty : normalized "" = "" := (normalized_eq_empty_iff "").mpr (by decide)
  cases value <;> simp [text_of, hempty]

theorem texts_of_eq_ok [StrLower] {value : Json} {texts : List String} :
    texts_of value = .ok texts ↔ ∃ values, value.iterate = some values ∧ texts = values.map text_of := by
  unfold texts_of
  cases value.iterate with
  | none => simp
  | some values => simp [eq_comm]

end velvet.court_authority

namespace velvet.court_policy_resolution

open velvet.court_authority

/-- The document is one of Court's, with this list of policies. -/
def Document (file : Except Error Json) (policies : List Json) : Prop :=
  ∃ document, file = .ok (.object document) ∧ entry_of document "schema" = some (.text "velvet.court.policy.v1") ∧
    entry_of document "policies" = some (.list policies)

theorem check_policy_ids_eq_ok {policy_ids checked : List String} :
    check_policy_ids policy_ids = .ok checked ↔
      checked = policy_ids ∧ policy_ids ≠ [] ∧ "" ∉ policy_ids ∧ policy_ids.Nodup := by
  unfold check_policy_ids
  split
  · rename_i hempty
    constructor
    · intro herror
      cases herror
    · rintro ⟨_, hne, hnamed, _⟩
      exact (hempty.elim hne hnamed).elim
  · rename_i hnonempty
    rw [not_or] at hnonempty
    split
    · rename_i hrepeated
      constructor
      · intro herror
        cases herror
      · rintro ⟨_, _, _, hnodup⟩
        exact absurd hnodup hrepeated
    · rename_i hnodup
      constructor
      · intro hok
        cases hok
        exact ⟨rfl, hnonempty.1, hnonempty.2, not_not.mp hnodup⟩
      · rintro ⟨rfl, _⟩
        rfl

variable {file : Except Error Json}

theorem load_document_eq_ok {policies : List Json} :
    load_document file = .ok policies ↔ Document file policies := by
  unfold load_document Document
  rw [except.bind_eq_ok]
  constructor
  · rintro ⟨content, rfl, hloaded⟩
    split at hloaded
    · rename_i document
      split at hloaded
      · cases hloaded
      · rename_i hschema
        split at hloaded
        · rename_i found hpolicies
          cases hloaded
          exact ⟨document, rfl, Json.is_text_getD.mp (by simpa using hschema), hpolicies⟩
        · cases hloaded
    · cases hloaded
  · rintro ⟨document, rfl, hschema, hpolicies⟩
    refine ⟨_, rfl, ?_⟩
    dsimp only
    rw [Json.is_text_getD.mpr hschema, hpolicies]
    rfl

/-- What the finding of a policy says. -/
def PolicyFinding.Permitted (finding : PolicyFinding) : Prop :=
  finding.capability_allowed = true ∧ finding.target_allowed = true

/-- The finding of a policy that permits the request for some lifetime. -/
def permitted (entry : String × Int) : PolicyFinding := ⟨entry.1, true, true, entry.2⟩

variable {findings : List PolicyFinding}

theorem first_denial_eq_none :
    first_denial findings = none ↔ ∀ finding ∈ findings, finding.Permitted := by
  induction findings with
  | nil => simp [first_denial]
  | cons finding rest ih =>
    rw [List.forall_mem_cons, ← ih, first_denial, PolicyFinding.Permitted]
    cases finding.capability_allowed <;> cases finding.target_allowed <;> simp

/-- The lifetime is the least of those of the findings. -/
theorem minimum_ttl_isLeast (hne : findings ≠ []) :
    IsLeast {ttl | ∃ finding ∈ findings, finding.token_ttl_seconds = ttl} (minimum_ttl findings) := by
  induction findings using List.reverseRecOn with
  | nil => exact absurd rfl hne
  | append_singleton findings last ih =>
    cases findings with
    | nil => simp [minimum_ttl, IsLeast]
    | cons first rest =>
      obtain ⟨⟨finding, hfinding, hleast⟩, hbound⟩ := ih (List.cons_ne_nil _ _)
      have hstep : minimum_ttl (first :: rest ++ [last]) =
          min (minimum_ttl (first :: rest)) last.token_ttl_seconds := by
        simp [minimum_ttl]
      rw [hstep]
      constructor
      · rcases min_choice (minimum_ttl (first :: rest)) last.token_ttl_seconds with hmin | hmin
        · exact ⟨finding, List.mem_append_left _ hfinding, by rw [hmin, hleast]⟩
        · exact ⟨last, by simp, hmin.symm⟩
      · rintro ttl ⟨other, hother, rfl⟩
        rcases List.mem_append.mp hother with hin | hin
        · exact (min_le_left _ _).trans (hbound ⟨other, hin, rfl⟩)
        · rw [List.mem_singleton.mp hin]
          exact min_le_right _ _

section

variable [StrLower]

/-- The identity of a policy of the document. -/
def identity (policy : List (String × Json)) : String := text_of ((entry_of policy "policy_id").getD .null)

/-- An identity names the last active policy of the document that has it. -/
def Names (policies : List Json) (policy_id : String) (policy : List (String × Json)) : Prop :=
  ∃ earlier later, policies.filterMap active_policy = earlier ++ policy :: later ∧ identity policy = policy_id ∧
    ∀ other ∈ later, identity other ≠ policy_id

/-- One of the collections of a policy has a value. -/
def Lists (policy : List (String × Json)) (key value : String) : Prop :=
  ∃ values, ((entry_of policy key).getD (.list [])).iterate = some values ∧ value ∈ values.map text_of

/-- A policy permits a capability on a target. -/
def Permits (policy : List (String × Json)) (capability target : String) : Prop :=
  Lists policy "allowed_capabilities" capability ∧
    (Lists policy "allowed_targets" "*" ∨ Lists policy "allowed_targets" target)

/-- The identities that a context requests, normalised: those of its collection, or its single one. -/
def Requests (context : CapabilityContext) (policy_ids : List String) : Prop :=
  (context.policy_ids.getD .null = .null ∧ policy_ids = [text_of (context.policy_id.getD .null)]) ∨
    (context.policy_ids.getD .null ≠ .null ∧ (∀ text, context.policy_ids.getD .null ≠ .text text) ∧
      ∃ values, (context.policy_ids.getD .null).iterate = some values ∧ policy_ids = values.map text_of)

variable {policy_ids : List String}

/-- What a context requests, when the request is well formed. -/
theorem policy_ids_from_context_eq_ok {context : CapabilityContext} :
    policy_ids_from_context context = .ok policy_ids ↔
      Requests context policy_ids ∧ policy_ids ≠ [] ∧ "" ∉ policy_ids ∧ policy_ids.Nodup := by
  unfold policy_ids_from_context Requests
  generalize context.policy_ids.getD .null = configured
  split
  · unfold normalize_policy_ids
    rw [check_policy_ids_eq_ok]
    constructor
    · rintro ⟨rfl, hvalid⟩
      exact ⟨Or.inl ⟨rfl, rfl⟩, hvalid⟩
    · rintro ⟨⟨_, rfl⟩ | ⟨hconfigured, _⟩, hvalid⟩
      · exact ⟨rfl, hvalid⟩
      · exact absurd rfl hconfigured
  · rename_i text
    constructor
    · intro herror
      cases herror
    · rintro ⟨⟨hnull, _⟩ | ⟨_, htext, _⟩, _⟩
      · cases hnull
      · exact absurd rfl (htext text)
  · rename_i hnull htext
    rw [except.bind_eq_ok]
    constructor
    · rintro ⟨texts, htexts, hchecked⟩
      obtain ⟨rfl, hvalid⟩ := check_policy_ids_eq_ok.mp hchecked
      exact ⟨Or.inr ⟨hnull, htext, texts_of_eq_ok.mp htexts⟩, hvalid⟩
    · rintro ⟨⟨hconfigured, _⟩ | ⟨_, _, htexts⟩, hvalid⟩
      · exact absurd hconfigured hnull
      · exact ⟨policy_ids, texts_of_eq_ok.mpr htexts, check_policy_ids_eq_ok.mpr ⟨rfl, hvalid⟩⟩

variable {policies : List Json} {policy : List (String × Json)}

theorem get?_active_policies {policy_id : String} :
    (active_policies policies).get? policy_id = some policy ↔ Names policies policy_id policy := by
  refine (Dict.get?_comprehension identity id).trans ?_
  constructor
  · rintro ⟨earlier, _, later, hsplit, hidentity, rfl, hlater⟩
    exact ⟨earlier, later, hsplit, hidentity, hlater⟩
  · rintro ⟨earlier, later, hsplit, hidentity, hlater⟩
    exact ⟨earlier, policy, later, hsplit, hidentity, rfl, hlater⟩

theorem select_policy_eq_ok {policy_id : String} :
    select_policy (active_policies policies) policy_id = .ok policy ↔ Names policies policy_id policy := by
  rw [← get?_active_policies]
  unfold select_policy
  cases (active_policies policies).get? policy_id with
  | none => simp
  | some found => simp

/-- The lifetime that a policy gives is a valid one. -/
def Lifetime (policy : List (String × Json)) (ttl : Int) : Prop :=
  ttl_of policy = some ttl ∧ 1 ≤ ttl ∧ ttl ≤ 300

variable {capability target : String} {finding : PolicyFinding}

theorem evaluate_permitted :
    evaluate policy capability target = .ok finding ∧ finding.Permitted ↔
      Permits policy capability target ∧ ∃ ttl, Lifetime policy ttl ∧ finding = permitted (identity policy, ttl) := by
  unfold evaluate
  simp only [except.bind_eq_ok, texts_of_eq_ok]
  constructor
  · rintro ⟨⟨capabilities, hcapabilities, targets, htargets, hfinding⟩, hpermitted⟩
    split at hfinding
    · rename_i ttl httl
      split at hfinding
      · rename_i hbounds
        cases hfinding
        obtain ⟨hcapability, htarget⟩ := hpermitted
        dsimp only at hcapability htarget
        obtain ⟨values, hvalues, rfl⟩ := hcapabilities
        obtain ⟨places, hplaces, rfl⟩ := htargets
        refine ⟨⟨⟨values, hvalues, of_decide_eq_true hcapability⟩, ?_⟩, ttl, ⟨httl, hbounds⟩, ?_⟩
        · rcases of_decide_eq_true htarget with hany | hnamed
          · exact Or.inl ⟨places, hplaces, hany⟩
          · exact Or.inr ⟨places, hplaces, hnamed⟩
        · rw [hcapability, htarget]
          rfl
      · cases hfinding
    · cases hfinding
  · rintro ⟨⟨⟨values, hvalues, hcapability⟩, htarget⟩, ttl, ⟨httl, hbounds⟩, rfl⟩
    obtain ⟨places, hplaces, hallowed⟩ : ∃ places,
        ((entry_of policy "allowed_targets").getD (.list [])).iterate = some places ∧
          ("*" ∈ places.map text_of ∨ target ∈ places.map text_of) := by
      rcases htarget with ⟨places, hplaces, hany⟩ | ⟨places, hplaces, hnamed⟩
      · exact ⟨places, hplaces, Or.inl hany⟩
      · exact ⟨places, hplaces, Or.inr hnamed⟩
    refine ⟨⟨_, ⟨values, hvalues, rfl⟩, _, ⟨places, hplaces, rfl⟩, ?_⟩, rfl, rfl⟩
    rw [httl]
    dsimp only
    rw [if_pos hbounds, decide_eq_true hcapability, decide_eq_true hallowed]
    rfl

/-- An identity and the lifetime of the policy that it names, which permits the request. -/
def Grants (policies : List Json) (capability target : String) (entry : String × Int) : Prop :=
  ∃ policy, Names policies entry.1 policy ∧ Lifetime policy entry.2 ∧ Permits policy capability target

/-- The resolution of policies that all permit the request. -/
def granted (selected : List (String × Int)) : PolicyResolution :=
  ⟨selected.map Prod.fst, "+".intercalate (selected.map Prod.fst), selected.map permitted, true,
    minimum_ttl (selected.map permitted), none, none⟩

/-- An identity is selected and its policy evaluated to a permission exactly when it grants the request. -/
theorem evaluate_selected {capability target policy_id : String} :
    (∃ policy, select_policy (active_policies policies) policy_id = .ok policy ∧
        evaluate policy capability target = .ok finding ∧ finding.Permitted) ↔
      ∃ ttl, Grants policies capability target (policy_id, ttl) ∧ finding = permitted (policy_id, ttl) := by
  simp only [select_policy_eq_ok, evaluate_permitted]
  constructor
  · rintro ⟨policy, hnames, hpermits, ttl, hlifetime, rfl⟩
    obtain ⟨_, _, _, hidentity, _⟩ := id hnames
    exact ⟨ttl, ⟨policy, hnames, hlifetime, hpermits⟩, by rw [hidentity]⟩
  · rintro ⟨ttl, ⟨policy, hnames, hlifetime, hpermits⟩, rfl⟩
    obtain ⟨_, _, _, hidentity, _⟩ := id hnames
    exact ⟨policy, hnames, hpermits, ttl, hlifetime, by rw [hidentity]⟩

/-- The loops over the identities end with permissions only exactly when every identity grants the request. -/
theorem findings_permitted :
    (∃ selected, policy_ids.mapM (select_policy (active_policies policies)) = .ok selected ∧
        selected.mapM (fun policy => evaluate policy capability target) = .ok findings ∧
        ∀ finding ∈ findings, finding.Permitted) ↔
      ∃ selected : List (String × Int), selected.map Prod.fst = policy_ids ∧ selected.map permitted = findings ∧
        ∀ entry ∈ selected, Grants policies capability target entry := by
  simp only [except.mapM_eq_ok]
  induction policy_ids generalizing findings with
  | nil =>
    constructor
    · rintro ⟨_, hselected, hfindings, _⟩
      cases hselected
      cases hfindings
      exact ⟨[], rfl, rfl, by simp⟩
    · rintro ⟨selected, hids, rfl, _⟩
      rw [List.map_eq_nil_iff.mp hids]
      exact ⟨[], .nil, .nil, by simp⟩
  | cons policy_id rest ih =>
    constructor
    · rintro ⟨_, hselected, hfindings, hpermitted⟩
      cases hselected with
      | cons hpolicy hothers =>
        cases hfindings with
        | cons hfinding hremaining =>
          rw [List.forall_mem_cons] at hpermitted
          obtain ⟨ttl, hgrants, rfl⟩ := evaluate_selected.mp ⟨_, hpolicy, hfinding, hpermitted.1⟩
          obtain ⟨entries, rfl, rfl, hentries⟩ := ih.mp ⟨_, hothers, hremaining, hpermitted.2⟩
          exact ⟨(policy_id, ttl) :: entries, rfl, rfl, List.forall_mem_cons.mpr ⟨hgrants, hentries⟩⟩
    · rintro ⟨selected, hids, rfl, hgrants⟩
      obtain ⟨entry, entries, rfl, rfl, hentries⟩ := List.map_eq_cons_iff.mp hids
      rw [List.forall_mem_cons] at hgrants
      obtain ⟨policy, hpolicy, hfinding, hpermitted⟩ := evaluate_selected.mpr ⟨entry.2, hgrants.1, rfl⟩
      obtain ⟨others, hothers, hremaining, hothers_permitted⟩ := ih.mpr ⟨entries, hentries, rfl, hgrants.2⟩
      exact ⟨policy :: others, .cons hpolicy hothers, .cons hfinding hremaining,
        List.forall_mem_cons.mpr ⟨hpermitted, hothers_permitted⟩⟩

/-- Normalised identities select policies of the document that all permit the request, or the request is denied. -/
theorem resolve_policy_set_allowed {resolution : PolicyResolution}
    (hnormal : policy_ids.map normalized = policy_ids) (hne : policy_ids ≠ []) (hnamed : "" ∉ policy_ids)
    (hnodup : policy_ids.Nodup) :
    resolve_policy_set file policy_ids capability target = .ok resolution ∧ resolution.allowed = true ↔
      ∃ policies selected, Document file policies ∧ selected.map Prod.fst = policy_ids ∧
        (∀ entry ∈ selected, Grants policies capability target entry) ∧ resolution = granted selected := by
  have hchecked := check_policy_ids_eq_ok.mpr ⟨rfl, hne, hnamed, hnodup⟩
  unfold resolve_policy_set
  rw [hnormal, hchecked]
  simp only [except.bind_eq_ok, load_document_eq_ok, Except.ok.injEq, exists_eq_left']
  constructor
  · rintro ⟨⟨policies, hdocument, chosen, hchosen, findings, hfindings, hresult⟩, hallowed⟩
    split at hresult
    · cases hresult
      cases hallowed
    · rename_i hdenial
      cases hresult
      obtain ⟨selected, hids, rfl, hgrants⟩ :=
        findings_permitted.mp ⟨chosen, hchosen, hfindings, first_denial_eq_none.mp hdenial⟩
      exact ⟨policies, selected, hdocument, hids, hgrants, by rw [granted, hids]⟩
  · rintro ⟨policies, selected, hdocument, hids, hgrants, rfl⟩
    obtain ⟨chosen, hchosen, hfindings, hpermitted⟩ := findings_permitted.mpr ⟨selected, hids, rfl, hgrants⟩
    refine ⟨⟨policies, hdocument, chosen, hchosen, _, hfindings, ?_⟩, rfl⟩
    rw [first_denial_eq_none.mpr hpermitted, granted, hids]

end

end velvet.court_policy_resolution

namespace velvet.court_authority

/-- Registered identities of one rank are the same. -/
theorem rank_injective {first second : String} (hfirst : registered first = true) (hsecond : registered second = true)
    (hrank : rank first = rank second) : first = second := by
  have hall : ∀ left ∈ authority_ranks.map Prod.fst, ∀ right ∈ authority_ranks.map Prod.fst,
      rank left = rank right → left = right := by decide
  exact hall first (of_decide_eq_true hfirst) second (of_decide_eq_true hsecond) hrank

/-- The selected identity is one of the candidates and none ranks higher. -/
theorem highest_spec (first : String) (rest : List String) :
    highest first rest ∈ first :: rest ∧ ∀ candidate ∈ first :: rest, rank candidate ≤ rank (highest first rest) := by
  induction rest using List.reverseRecOn with
  | nil => simp [highest]
  | append_singleton rest last ih =>
    obtain ⟨hmem, hle⟩ := ih
    have hstep : highest first (rest ++ [last]) =
        if rank (highest first rest) < rank last then last else highest first rest := by
      rw [highest, List.foldl_append]
      rfl
    rw [hstep, ← List.cons_append]
    split
    · rename_i hlt
      refine ⟨by simp, fun candidate hcandidate => ?_⟩
      rcases List.mem_append.mp hcandidate with hin | hin
      · exact (hle candidate hin).trans hlt.le
      · rw [List.mem_singleton.mp hin]
    · rename_i hge
      refine ⟨List.mem_append_left _ hmem, fun candidate hcandidate => ?_⟩
      rcases List.mem_append.mp hcandidate with hin | hin
      · exact hle candidate hin
      · rw [List.mem_singleton.mp hin]
        exact Nat.le_of_not_lt hge

/-- The active identity is the highest of candidates that are registered and distinct, and it is known. -/
structure Leads (active : String) (candidates : List String) : Prop where
  registered : ∀ candidate ∈ candidates, registered candidate = true
  distinct : candidates.Nodup
  member : active ∈ candidates
  highest : ∀ candidate ∈ candidates, rank candidate ≤ rank active
  known : active ≠ "unknown"

/-- The resolution of a valid authority. -/
def resolved (active : String) (candidates : List String) : AuthorityResolution :=
  ⟨active, candidates, active, rank active, true, none, none⟩

variable {authority : AuthorityResolution}

theorem select_authority_valid {active first : String} {rest : List String}
    (hregistered : ∀ candidate ∈ first :: rest, registered candidate = true) (hnodup : (first :: rest).Nodup) :
    select_authority active first rest = authority ∧ authority.valid = true ↔
      Leads active (first :: rest) ∧ authority = resolved active (first :: rest) := by
  obtain ⟨hmem, hle⟩ := highest_spec first rest
  unfold select_authority
  constructor
  · rintro ⟨rfl, hvalid⟩
    dsimp only at hvalid ⊢
    split at hvalid
    · cases hvalid
    · rename_i hknown
      split at hvalid
      · cases hvalid
      · rename_i hactive
        have hsame : active = highest first rest := not_not.mp hactive
        rw [if_neg hknown, if_neg hactive]
        refine ⟨⟨hregistered, hnodup, ?_, ?_, ?_⟩, ?_⟩
        · rw [hsame]
          exact hmem
        · rw [hsame]
          exact hle
        · rw [hsame]
          exact hknown
        · rw [resolved, ← hsame]
  · rintro ⟨hleads, rfl⟩
    have hrank : rank active = rank (highest first rest) :=
      le_antisymm (hle active hleads.member) (hleads.highest _ hmem)
    have hsame : active = highest first rest :=
      rank_injective (hregistered _ hleads.member) (hregistered _ hmem) hrank
    rw [← hsame, if_neg hleads.known]
    simp [resolved]

theorem resolve_candidates_valid {active : String} {candidates : List String} :
    resolve_candidates active candidates = authority ∧ authority.valid = true ↔
      Leads active candidates ∧ authority = resolved active candidates := by
  cases candidates with
  | nil =>
    constructor
    · rintro ⟨rfl, hvalid⟩
      cases hvalid
    · rintro ⟨hleads, _⟩
      cases hleads.member
  | cons first rest =>
    rw [resolve_candidates]
    split
    · rename_i stranger hstranger
      have hmem := List.mem_of_find?_eq_some hstranger
      have hunregistered := List.find?_some hstranger
      constructor
      · rintro ⟨rfl, hvalid⟩
        cases hvalid
      · rintro ⟨hleads, _⟩
        rw [hleads.registered stranger hmem] at hunregistered
        cases hunregistered
    · rename_i hall
      have hregistered : ∀ candidate ∈ first :: rest, registered candidate = true := by
        simpa using List.find?_eq_none.mp hall
      split
      · rename_i hrepeated
        constructor
        · rintro ⟨rfl, hvalid⟩
          cases hvalid
        · rintro ⟨hleads, _⟩
          exact absurd hleads.distinct hrepeated
      · rename_i hnodup
        exact select_authority_valid hregistered (not_not.mp hnodup)

section

variable [StrLower]

/-- The candidates of a context: the active identity alone, or those of its collection, normalised. -/
def Candidates (context : CapabilityContext) (candidates : List String) : Prop :=
  let (active, configured, _) := configured_authority context
  (configured = .null ∧ candidates = [active]) ∨
    (configured ≠ .null ∧ (∀ text, configured ≠ .text text) ∧
      ∃ values, configured.iterate = some values ∧ candidates = values.map text_of)

theorem resolve_authority_valid {context : CapabilityContext} :
    resolve_authority context = .ok authority ∧ authority.valid = true ↔
      ∃ candidates, Candidates context candidates ∧ Leads (configured_authority context).1 candidates ∧
        authority = resolved (configured_authority context).1 candidates := by
  unfold resolve_authority Candidates
  generalize configured_authority context = configured
  obtain ⟨active, configured, label⟩ := configured
  dsimp only
  split
  · rename_i hunregistered
    constructor
    · rintro ⟨hresult, hvalid⟩
      cases hresult
      cases hvalid
    · rintro ⟨candidates, _, hleads, _⟩
      rw [hleads.registered active hleads.member] at hunregistered
      cases hunregistered
  · rename_i hactive
    have hregistered : registered active = true := by simpa using hactive
    split
    · rw [Except.ok.injEq, select_authority_valid (by simpa using hregistered) (by simp)]
      constructor
      · rintro ⟨hleads, hsame⟩
        exact ⟨[active], Or.inl ⟨rfl, rfl⟩, hleads, hsame⟩
      · rintro ⟨candidates, ⟨_, rfl⟩ | ⟨hnull, _⟩, hleads, hsame⟩
        · exact ⟨hleads, hsame⟩
        · exact absurd rfl hnull
    · rename_i text
      constructor
      · rintro ⟨hresult, hvalid⟩
        cases hresult
        cases hvalid
      · rintro ⟨candidates, ⟨hnull, _⟩ | ⟨_, htext, _⟩, _⟩
        · cases hnull
        · exact absurd rfl (htext text)
    · rename_i hnull htext
      simp only [except.bind_eq_ok, texts_of_eq_ok, Except.ok.injEq]
      constructor
      · rintro ⟨⟨candidates, hcandidates, hresult⟩, hvalid⟩
        obtain ⟨hleads, hsame⟩ := resolve_candidates_valid.mp ⟨hresult, hvalid⟩
        exact ⟨candidates, Or.inr ⟨hnull, htext, hcandidates⟩, hleads, hsame⟩
      · rintro ⟨candidates, ⟨hconfigured, _⟩ | ⟨_, _, hcandidates⟩, hleads, hsame⟩
        · exact absurd hconfigured hnull
        · obtain ⟨hresult, hvalid⟩ := resolve_candidates_valid.mpr ⟨hleads, hsame⟩
          exact ⟨⟨candidates, hcandidates, hresult⟩, hvalid⟩

end

end velvet.court_authority

namespace velvet.court_token

open velvet.court_intent

theorem issue_token_eq_ok [StrLower] {signing : Signing} {intent : ValidIntent} {policy_id : String}
    {signing_key : Option (List UInt8)} {ttl_seconds issued_at : Int} {token : CapabilityToken} :
    issue_token signing intent policy_id signing_key ttl_seconds issued_at = .ok token ↔
      ∃ key, signing_key = some key ∧ 32 ≤ key.length ∧ (1 ≤ ttl_seconds ∧ ttl_seconds ≤ 300) ∧
        token = signed_token signing key (unsigned_fields intent policy_id ttl_seconds issued_at) := by
  unfold issue_token
  cases signing_key with
  | none => simp
  | some key =>
    dsimp only
    split
    · rename_i hshort
      constructor
      · intro herror
        cases herror
      · rintro ⟨_, hkey, hlong, _⟩
        cases hkey
        omega
    · rename_i hlong
      split
      · rename_i hbounds
        constructor
        · intro herror
          cases herror
        · rintro ⟨_, _, _, hvalid, _⟩
          exact absurd hvalid hbounds
      · rename_i hbounds
        constructor
        · intro hok
          cases hok
          exact ⟨key, rfl, by omega, not_not.mp hbounds, rfl⟩
        · rintro ⟨_, hkey, _, _, rfl⟩
          cases hkey
          rfl

end velvet.court_token

namespace velvet.court_authorization

open velvet.court_intent velvet.court_authority velvet.court_policy_resolution velvet.court_token

/-- A decision that gives no authority. -/
def CourtDecision.Withheld (decision : CourtDecision) : Prop := decision.allowed = false ∧ decision.token = none

theorem persist_eq_true {sink : ReceiptSink} {receipt : CourtReceipt} {errors : List String} :
    persist sink receipt = .ok (true, errors) ↔ sink receipt = .ok () ∧ errors = [] := by
  unfold persist
  cases sink receipt with
  | ok _ => simp [eq_comm]
  | error error =>
    dsimp only
    split <;> simp

variable {decision : CourtDecision}

theorem deny_withheld {sink : ReceiptSink} {state : CourtState} {intent : Intent} {policy_id : Option String}
    {policy_ids : List String} {findings : List PolicyFinding} {authority : Option AuthorityResolution}
    {errors : List String}
    (hdeny : deny sink state intent policy_id policy_ids findings authority errors = .ok decision) :
    decision.Withheld := by
  obtain ⟨_, _, hdecision⟩ := except.bind_eq_ok.mp hdeny
  cases hdecision
  exact ⟨rfl, rfl⟩

/-- The context proposes a capability: its collection makes a set, and the set has the capability. -/
def Proposes (context : CapabilityContext) (capability : String) : Prop :=
  ∃ values, (context.proposed_capabilities.getD (.list [])).iterate = some values ∧
    (∀ value ∈ values, value.hashable = true) ∧ Json.text capability ∈ values

theorem proposed_capabilities_any {context : CapabilityContext} {capability : String} :
    (∃ values, proposed_capabilities context = .ok values ∧
        values.any (fun value => value.is_text capability) = true) ↔ Proposes context capability := by
  unfold proposed_capabilities Proposes
  dsimp only
  cases (context.proposed_capabilities.getD (.list [])).iterate with
  | none => simp
  | some found =>
    dsimp only
    split
    · rename_i value hvalue
      have hmem := List.mem_of_find?_eq_some hvalue
      have hunhashable := List.find?_some hvalue
      constructor
      · rintro ⟨_, herror, _⟩
        cases herror
      · rintro ⟨_, hfound, hhashable, _⟩
        cases hfound
        rw [hhashable value hmem] at hunhashable
        cases hunhashable
    · rename_i hall
      have hhashable : ∀ value ∈ found, value.hashable = true := by simpa using List.find?_eq_none.mp hall
      simp only [Except.ok.injEq, exists_eq_left', Option.some.injEq, List.any_eq_true]
      constructor
      · rintro ⟨value, hmem, htext⟩
        rw [Json.is_text_iff.mp htext] at hmem
        exact ⟨hhashable, hmem⟩
      · rintro ⟨_, hmem⟩
        exact ⟨_, hmem, Json.is_text_iff.mpr rfl⟩

/-- What an authorization rests on: the candidates for authority, the policies of the document, the identities that
were requested with the lifetimes that their policies give, and the signing key. -/
structure Basis where
  candidates : List String
  policies : List Json
  selected : List (String × Int)
  key : List UInt8

namespace Basis

def policy_ids (basis : Basis) : List String := basis.selected.map Prod.fst

/-- The least lifetime of the selected policies. -/
def lifetime (basis : Basis) : Int := (granted basis.selected).token_ttl_seconds

/-- The lifetime is attained by a selected policy, and no selected policy has a smaller one. -/
theorem isLeast_lifetime {basis : Basis} (hne : basis.policy_ids ≠ []) :
    IsLeast {ttl | ∃ policy_id, (policy_id, ttl) ∈ basis.selected} basis.lifetime := by
  have hfindings : basis.selected.map permitted ≠ [] := by
    intro hnil
    exact hne (by rw [policy_ids, List.map_eq_nil_iff.mp hnil, List.map_nil])
  have hleast := minimum_ttl_isLeast hfindings
  have hsame : {ttl | ∃ finding ∈ basis.selected.map permitted, finding.token_ttl_seconds = ttl} =
      {ttl | ∃ policy_id, (policy_id, ttl) ∈ basis.selected} := by
    ext ttl
    simp [permitted]
  rw [hsame] at hleast
  exact hleast

end Basis

section

variable [StrLower]

/-- The context has the identity of the intent. -/
def Bound (binding : String × Option Json × String) : Prop :=
  ∃ expected, binding.2.1 = some (.text expected) ∧ normalized expected = binding.2.2

variable {binding : String × Option Json × String}

theorem binding_error_eq_none (hvalue : ¬ Blank binding.2.2) :
    binding_error binding = none ↔ Bound binding := by
  unfold binding_error Bound
  split
  · rename_i label expected value
    have hblank : Blank expected → normalized expected ≠ value := by
      rintro hblank rfl
      have hempty : Blank "" := by decide
      rw [(normalized_eq_empty_iff expected).mpr hblank] at hvalue
      exact hvalue hempty
    split
    · rename_i hempty
      simp [hblank hempty]
    · split
      · rename_i hdifferent
        simp [hdifferent]
      · rename_i hsame
        simp [not_not.mp hsame]
  · rename_i label configured value hother
    constructor
    · intro herror
      cases herror
    · rintro ⟨expected, hconfigured, _⟩
      exact (hother expected hconfigured).elim

variable {context : CapabilityContext} {intent : ValidIntent}

theorem context_bindings_not_blank
    (hbinding : binding ∈ context_bindings context intent) :
    ¬ Blank binding.2.2 := by
  have hfield : ∃ name, (name, some binding.2.2) ∈ intent.intent.fields := by
    simp only [context_bindings, List.mem_cons, List.not_mem_nil, or_false] at hbinding
    rcases hbinding with rfl | rfl | rfl | rfl
    · exact ⟨"profile_id", by simp [Intent.fields, ValidIntent.profile_id]⟩
    · exact ⟨"session_id", by simp [Intent.fields, ValidIntent.session_id]⟩
    · exact ⟨"body_id", by simp [Intent.fields, ValidIntent.body_id]⟩
    · exact ⟨"surface", by simp [Intent.fields, ValidIntent.surface]⟩
  obtain ⟨name, hname⟩ := hfield
  obtain ⟨value, hvalue, hblank, _⟩ := intent.field hname
  cases hvalue
  exact hblank

theorem validate_context_binding_eq_nil :
    validate_context_binding intent context = [] ↔ ∀ binding ∈ context_bindings context intent, Bound binding := by
  unfold validate_context_binding
  rw [List.filterMap_eq_nil_iff]
  constructor
  · intro hnone binding hbinding
    exact (binding_error_eq_none (context_bindings_not_blank hbinding)).mp (hnone binding hbinding)
  · intro hbound binding hbinding
    exact (binding_error_eq_none (context_bindings_not_blank hbinding)).mpr (hbound binding hbinding)

namespace Basis

def authority (basis : Basis) (context : CapabilityContext) : AuthorityResolution :=
  resolved (configured_authority context).1 basis.candidates

def token (basis : Basis) (signing : Signing) (intent : ValidIntent) (now : Int) : CapabilityToken :=
  signed_token signing basis.key
    (unsigned_fields intent (granted basis.selected).policy_set_id (granted basis.selected).token_ttl_seconds now)

/-- The receipt of the authorization. -/
def receipt (basis : Basis) (signing : Signing) (intent : ValidIntent) (context : CapabilityContext) (now : Int) :
    CourtReceipt :=
  authorized_receipt intent (granted basis.selected) (basis.authority context) (basis.token signing intent now)

/-- The grounds of an authorization of a valid intent, one for each check. -/
structure Grounds (basis : Basis) (intent : ValidIntent) (context : CapabilityContext) (file : Except Error Json)
    (signing_key : Option (List UInt8)) : Prop where
  /-- The identities are those that the context requests. -/
  requested : Requests context basis.policy_ids
  nonempty : basis.policy_ids ≠ []
  named : "" ∉ basis.policy_ids
  distinct : basis.policy_ids.Nodup
  /-- The policy document is well formed. -/
  document : Document file basis.policies
  /-- Every identity names an active policy with a valid lifetime that permits the capability and the target. -/
  grants : ∀ entry ∈ basis.selected, Grants basis.policies intent.capability intent.target entry
  /-- The candidates are those of the context. -/
  candidates : Candidates context basis.candidates
  /-- They are registered and distinct, and the active one is the highest and not unknown. -/
  leads : Leads (configured_authority context).1 basis.candidates
  /-- A context without the attribute requires authorization. -/
  required : context.authorization_required.getD (.bool true) = .bool true
  /-- The four bindings match. -/
  bound : ∀ binding ∈ context_bindings context intent, Bound binding
  proposed : Proposes context intent.capability
  key : signing_key = some basis.key
  key_length : 32 ≤ basis.key.length

/-- The lifetime of an authorization is one that a token can have. -/
theorem Grounds.lifetime_bounds {basis : Basis} {intent : ValidIntent} {context : CapabilityContext}
    {file : Except Error Json} {signing_key : Option (List UInt8)}
    (hgrounds : basis.Grounds intent context file signing_key) : 1 ≤ basis.lifetime ∧ basis.lifetime ≤ 300 := by
  obtain ⟨⟨policy_id, hselected⟩, _⟩ := isLeast_lifetime hgrounds.nonempty
  obtain ⟨policy, _, ⟨_, hbounds⟩, _⟩ := hgrounds.grants _ hselected
  exact hbounds

end Basis

/-- What a context requests is normalised. -/
theorem normalized_requests {policy_ids : List String} (hrequests : Requests context policy_ids) :
    policy_ids.map normalized = policy_ids := by
  rcases hrequests with ⟨_, rfl⟩ | ⟨_, _, values, _, rfl⟩
  · simp
  · simp

variable (signing : Signing) (sink : ReceiptSink)

/-- The decision of an authorization. -/
def authorized (basis : Basis) (intent : ValidIntent) (context : CapabilityContext) (now : Int) : CourtDecision :=
  ⟨true, .authorized, some (granted basis.selected).policy_set_id, some (basis.token signing intent now), [], true,
    (basis.receipt signing intent context now).reason, basis.policy_ids, basis.selected.map permitted,
    some (basis.authority context)⟩

variable {signing sink}

variable {signing_key : Option (List UInt8)} {now : Int} {authority : AuthorityResolution}
variable {resolution : PolicyResolution}

/-- How the end of an authorization returns: with a token when its receipt is persisted, and withheld otherwise. -/
theorem grant_cases
    (hgrant : grant signing sink intent authority resolution signing_key now = .ok decision) :
    decision.Withheld ∨
      ∃ token, issue_token signing intent resolution.policy_set_id signing_key resolution.token_ttl_seconds now =
          .ok token ∧
        sink (authorized_receipt intent resolution authority token) = .ok () ∧
        decision = ⟨true, .authorized, some resolution.policy_set_id, some token, [], true,
          (authorized_receipt intent resolution authority token).reason, resolution.policy_ids, resolution.findings,
          some authority⟩ := by
  obtain ⟨token, htoken, hrest⟩ := except.bind_eq_ok.mp hgrant
  obtain ⟨⟨persisted, errors⟩, hpersist, hdecision⟩ := except.bind_eq_ok.mp hrest
  cases persisted with
  | false =>
    cases hdecision
    exact Or.inl ⟨rfl, rfl⟩
  | true =>
    cases hdecision
    exact Or.inr ⟨token, htoken, (persist_eq_true.mp hpersist).1, rfl⟩

theorem grant_of_persisted {token : CapabilityToken}
    (htoken : issue_token signing intent resolution.policy_set_id signing_key resolution.token_ttl_seconds now =
      .ok token) (hsink : sink (authorized_receipt intent resolution authority token) = .ok ()) :
    grant signing sink intent authority resolution signing_key now =
      .ok ⟨true, .authorized, some resolution.policy_set_id, some token, [], true,
        (authorized_receipt intent resolution authority token).reason, resolution.policy_ids, resolution.findings,
        some authority⟩ :=
  except.bind_eq_ok.mpr ⟨token, htoken, except.bind_eq_ok.mpr ⟨_, persist_eq_true.mpr ⟨hsink, rfl⟩, rfl⟩⟩

variable {file : Except Error Json}

/-- A decision on a valid intent gives no authority, or it is the authorization on some grounds, with its receipt. -/
theorem authorize_valid_cases
    (hresult : authorize_valid signing sink intent context file signing_key now = .ok decision) :
    decision.Withheld ∨
      ∃ basis : Basis, basis.Grounds intent context file signing_key ∧
        sink (basis.receipt signing intent context now) = .ok () ∧
        decision = authorized signing basis intent context now := by
  obtain ⟨policy_ids, hids, hrest⟩ := except.bind_eq_ok.mp hresult
  obtain ⟨authority, hauthority, hrest⟩ := except.bind_eq_ok.mp hrest
  obtain ⟨hrequests, hne, hnamed, hnodup⟩ := policy_ids_from_context_eq_ok.mp hids
  split at hrest
  · exact Or.inl (deny_withheld hrest)
  · rename_i hvalid
    obtain ⟨candidates, hcandidates, hleads, rfl⟩ :=
      resolve_authority_valid.mp ⟨hauthority, by simpa using hvalid⟩
    split at hrest
    · rename_i hrequired
      dsimp only at hrest
      split at hrest
      · exact Or.inl (deny_withheld hrest)
      · rename_i hbinding
        obtain ⟨proposed, hproposed, hrest⟩ := except.bind_eq_ok.mp hrest
        split at hrest
        · exact Or.inl (deny_withheld hrest)
        · rename_i hany
          obtain ⟨resolution, hresolution, hrest⟩ := except.bind_eq_ok.mp hrest
          split at hrest
          · exact Or.inl (deny_withheld hrest)
          · rename_i hallowed
            obtain ⟨policies, selected, hdocument, rfl, hgrants, rfl⟩ :=
              (resolve_policy_set_allowed (normalized_requests hrequests) hne hnamed hnodup).mp
                ⟨hresolution, by simpa using hallowed⟩
            rcases grant_cases hrest with hwithheld | ⟨token, htoken, hsink, rfl⟩
            · exact Or.inl hwithheld
            · obtain ⟨key, hkey, hlong, _, rfl⟩ := issue_token_eq_ok.mp htoken
              refine Or.inr ⟨⟨candidates, policies, selected, key⟩, ?_, hsink, rfl⟩
              exact {
                requested := hrequests
                nonempty := hne
                named := hnamed
                distinct := hnodup
                document := hdocument
                grants := hgrants
                candidates := hcandidates
                leads := hleads
                required := hrequired
                bound := validate_context_binding_eq_nil.mp (not_not.mp hbinding)
                proposed := proposed_capabilities_any.mp ⟨proposed, hproposed, not_not.mp hany⟩
                key := hkey
                key_length := hlong }
    · exact Or.inl (deny_withheld hrest)

/-- Grounds whose receipt is persisted are authorized. -/
theorem authorize_valid_of_grounds {basis : Basis}
    (hgrounds : basis.Grounds intent context file signing_key)
    (hsink : sink (basis.receipt signing intent context now) = .ok ()) :
    authorize_valid signing sink intent context file signing_key now =
      .ok (authorized signing basis intent context now) := by
  obtain ⟨hauthority, hvalid⟩ := resolve_authority_valid.mpr ⟨_, hgrounds.candidates, hgrounds.leads, rfl⟩
  obtain ⟨proposed, hproposed, hany⟩ := proposed_capabilities_any.mpr hgrounds.proposed
  obtain ⟨hresolution, hallowed⟩ :=
    (resolve_policy_set_allowed (normalized_requests hgrounds.requested) hgrounds.nonempty hgrounds.named
      hgrounds.distinct).mpr ⟨_, basis.selected, hgrounds.document, rfl, hgrounds.grants, rfl⟩
  have hids := policy_ids_from_context_eq_ok.mpr
    ⟨hgrounds.requested, hgrounds.nonempty, hgrounds.named, hgrounds.distinct⟩
  have htoken : issue_token signing intent (granted basis.selected).policy_set_id signing_key
      (granted basis.selected).token_ttl_seconds now = .ok (basis.token signing intent now) :=
    issue_token_eq_ok.mpr ⟨basis.key, hgrounds.key, hgrounds.key_length, hgrounds.lifetime_bounds, rfl⟩
  have hbound : authorize_bound signing sink intent (basis.authority context) basis.policy_ids file signing_key now =
      .ok (authorized signing basis intent context now) :=
    except.bind_eq_ok.mpr ⟨_, hresolution, grant_of_persisted htoken hsink⟩
  refine except.bind_eq_ok.mpr ⟨_, hids, except.bind_eq_ok.mpr ⟨_, hauthority, ?_⟩⟩
  rw [hvalid, hgrounds.required]
  dsimp only
  rw [if_neg (by decide), if_neg (not_not.mpr (validate_context_binding_eq_nil.mpr hgrounds.bound))]
  refine except.bind_eq_ok.mpr ⟨proposed, hproposed, ?_⟩
  rw [if_neg (not_not.mpr hany)]
  exact hbound

/-- An intent is authorized exactly when it is valid and there are grounds for it whose receipt is persisted. The
token then has the fields of the intent and the least lifetime of the selected policies, and every other decision has
no token. -/
theorem authorize_intent_allowed_iff (signing : Signing) (sink : ReceiptSink) (intent : Intent)
    (context : CapabilityContext) (file : Except Error Json) (signing_key : Option (List UInt8)) (now : Int) :
    ((∃ decision, authorize_intent signing sink intent context file signing_key now = .ok decision ∧
        decision.allowed = true) ↔
      ∃ (valid : ValidIntent) (basis : Basis), valid.intent = intent ∧
        basis.Grounds valid context file signing_key ∧ sink (basis.receipt signing valid context now) = .ok ()) ∧
    ∀ decision, authorize_intent signing sink intent context file signing_key now = .ok decision →
      (decision.allowed = true → ∃ (valid : ValidIntent) (basis : Basis) (token : CapabilityToken),
        valid.intent = intent ∧ basis.Grounds valid context file signing_key ∧ decision.token = some token ∧
        intent.intent_id = some token.intent_id ∧ intent.capability = some token.capability ∧
        intent.target = some token.target ∧ intent.profile_id = some token.profile_id ∧
        intent.session_id = some token.session_id ∧ intent.body_id = some token.body_id ∧
        intent.surface = some token.surface ∧ token.issued_at = now ∧
        IsLeast {ttl | ∃ policy_id, (policy_id, ttl) ∈ basis.selected} (token.expires_at - token.issued_at)) ∧
      (decision.allowed = false → decision.token = none) := by
  have hcases : ∀ decision, authorize_intent signing sink intent context file signing_key now = .ok decision →
      decision.Withheld ∨ ∃ (valid : ValidIntent) (basis : Basis), valid.intent = intent ∧
        basis.Grounds valid context file signing_key ∧ sink (basis.receipt signing valid context now) = .ok () ∧
        decision = authorized signing basis valid context now := by
    intro decision hdecision
    unfold authorize_intent at hdecision
    split at hdecision
    · rename_i hvalid
      rcases authorize_valid_cases hdecision with hwithheld | ⟨basis, hgrounds, hsink, hsame⟩
      · exact Or.inl hwithheld
      · exact Or.inr ⟨⟨intent, hvalid⟩, basis, rfl, hgrounds, hsink, hsame⟩
    · exact Or.inl (deny_withheld hdecision)
  refine ⟨⟨?_, ?_⟩, ?_⟩
  · rintro ⟨decision, hdecision, hallowed⟩
    rcases hcases decision hdecision with ⟨hwithheld, _⟩ | ⟨valid, basis, hintent, hgrounds, hsink, _⟩
    · rw [hwithheld] at hallowed
      cases hallowed
    · exact ⟨valid, basis, hintent, hgrounds, hsink⟩
  · rintro ⟨valid, basis, rfl, hgrounds, hsink⟩
    refine ⟨authorized signing basis valid context now, ?_, rfl⟩
    rw [authorize_intent, dif_pos valid.valid]
    exact authorize_valid_of_grounds hgrounds hsink
  · intro decision hdecision
    rcases hcases decision hdecision with ⟨hwithheld, hnone⟩ | ⟨valid, basis, rfl, hgrounds, _, rfl⟩
    · refine ⟨fun hallowed => ?_, fun _ => hnone⟩
      rw [hwithheld] at hallowed
      cases hallowed
    · refine ⟨fun _ => ?_, fun hdenied => by cases hdenied⟩
      have hlifetime : (basis.token signing valid now).expires_at - (basis.token signing valid now).issued_at =
          basis.lifetime := add_sub_cancel_left now basis.lifetime
      refine ⟨valid, basis, basis.token signing valid now, rfl, hgrounds, rfl, ?_⟩
      rw [hlifetime]
      refine ⟨?_, ?_, ?_, ?_, ?_, ?_, ?_, rfl, Basis.isLeast_lifetime hgrounds.nonempty⟩
      all_goals exact (Option.some_get _).symm

end

end velvet.court_authorization
