import VelvetRuntime.Court.Soundness

open python python.str

namespace velvet.court_policy_resolution

open velvet.court_authority

theorem exists_forall₂ {α β : Type} {related : α → β → Prop} {values : List α}
    (hall : ∀ value ∈ values, ∃ image, related value image) : ∃ images, List.Forall₂ related values images := by
  induction values with
  | nil => exact ⟨[], .nil⟩
  | cons value rest ih =>
    rw [List.forall_mem_cons] at hall
    obtain ⟨image, himage⟩ := hall.1
    obtain ⟨images, himages⟩ := ih hall.2
    exact ⟨image :: images, .cons himage himages⟩

section

variable [StrLower]

/-- What the loops of a resolution find for an identity. -/
def Found (policies : List Json) (capability target policy_id : String) (finding : PolicyFinding) : Prop :=
  ∃ policy, Names policies policy_id policy ∧ evaluate policy capability target = .ok finding

/-- An entry of the document is as permissive as the last one with its identity, whatever is requested. -/
def Covers (entry winner : List (String × Json)) : Prop :=
  ∀ capability target ttl, Permits winner capability target → Lifetime winner ttl →
    Permits entry capability target ∧ ∃ longer, ttl_of entry = some longer ∧ ttl ≤ longer

/-- Of active entries with one identity, those that the last one replaces are as permissive as it is. -/
def Covered (policies : List Json) : Prop :=
  ∀ entry ∈ policies.filterMap active_policy, identity entry ≠ "" →
    ∀ winner, Names policies (identity entry) winner → Covers entry winner

/-- An allowed request is permitted by every active entry of the document that has a requested identity, for as long. -/
def Restrictive (file : Except Error Json) : Prop :=
  ∀ policies, Document file policies → ∀ policy_ids capability target resolution,
    resolve_policy_set file policy_ids capability target = .ok resolution → resolution.allowed = true →
    ∀ entry ∈ policies.filterMap active_policy, identity entry ∈ policy_ids.map normalized →
      Permits entry capability target ∧ ∃ ttl, ttl_of entry = some ttl ∧ resolution.token_ttl_seconds ≤ ttl

/-- More identities are resolved only when fewer are, to no more permission and no longer lifetime. -/
def Monotone (file : Except Error Json) : Prop :=
  ∀ policy_ids more_ids capability target more, policy_ids ≠ [] → policy_ids.Subperm more_ids →
    resolve_policy_set file more_ids capability target = .ok more →
    ∃ resolution, resolve_policy_set file policy_ids capability target = .ok resolution ∧
      (more.allowed = true → resolution.allowed = true) ∧ more.token_ttl_seconds ≤ resolution.token_ttl_seconds

/-- The order of the identities does not matter. -/
def OrderFree (file : Except Error Json) : Prop :=
  ∀ policy_ids other_ids capability target resolution, policy_ids.Perm other_ids →
    resolve_policy_set file policy_ids capability target = .ok resolution →
    ∃ other, resolve_policy_set file other_ids capability target = .ok other ∧ other.allowed = resolution.allowed ∧
      other.token_ttl_seconds = resolution.token_ttl_seconds

variable {policies : List Json} {file : Except Error Json} {policy_ids : List String} {capability target policy_id : String}
  {finding other : PolicyFinding} {findings : List PolicyFinding} {resolution : PolicyResolution}

theorem Names.unique {first second : List (String × Json)} (hfirst : Names policies policy_id first)
    (hsecond : Names policies policy_id second) : first = second := by
  rw [← get?_active_policies] at hfirst hsecond
  exact Option.some.inj (hfirst.symm.trans hsecond)

theorem Found.unique (hfinding : Found policies capability target policy_id finding)
    (hother : Found policies capability target policy_id other) : finding = other := by
  obtain ⟨policy, hnames, hevaluated⟩ := hfinding
  obtain ⟨second, hsecond, hagain⟩ := hother
  rw [hnames.unique hsecond] at hevaluated
  exact Except.ok.inj (hevaluated.symm.trans hagain)

/-- The two loops, as one finding for each identity. -/
theorem findings_eq_ok : (∃ selected, policy_ids.mapM (select_policy (active_policies policies)) = .ok selected ∧
      selected.mapM (fun policy => evaluate policy capability target) = .ok findings) ↔
    List.Forall₂ (Found policies capability target) policy_ids findings := by
  simp only [except.mapM_eq_ok, select_policy_eq_ok]
  induction policy_ids generalizing findings with
  | nil =>
    constructor
    · rintro ⟨_, hselected, hfindings⟩
      cases hselected
      cases hfindings
      exact .nil
    · intro hnil
      cases hnil
      exact ⟨[], .nil, .nil⟩
  | cons policy_id rest ih =>
    constructor
    · rintro ⟨_, hselected, hfindings⟩
      cases hselected with
      | cons hpolicy hothers =>
        cases hfindings with
        | cons hfinding hremaining => exact .cons ⟨_, hpolicy, hfinding⟩ (ih.mp ⟨_, hothers, hremaining⟩)
    · intro hall
      cases hall with
      | cons hfound hothers =>
        obtain ⟨policy, hpolicy, hfinding⟩ := hfound
        obtain ⟨selected, hselected, hremaining⟩ := ih.mpr hothers
        exact ⟨policy :: selected, .cons hpolicy hselected, .cons hfinding hremaining⟩

/-- Identities that are valid, each with its finding, and what the findings make of the request. -/
structure Resolved (file : Except Error Json) (policy_ids : List String) (capability target : String)
    (policies : List Json) (findings : List PolicyFinding) (resolution : PolicyResolution) : Prop where
  document : Document file policies
  nonempty : policy_ids ≠ []
  named : "" ∉ policy_ids.map normalized
  distinct : (policy_ids.map normalized).Nodup
  found : List.Forall₂ (Found policies capability target) (policy_ids.map normalized) findings
  allowed : resolution.allowed = true ↔ ∀ finding ∈ findings, finding.Permitted
  lifetime : resolution.token_ttl_seconds = minimum_ttl findings

theorem resolved_of_ok (hresolved : resolve_policy_set file policy_ids capability target = .ok resolution) :
    ∃ policies findings, Resolved file policy_ids capability target policies findings resolution := by
  unfold resolve_policy_set at hresolved
  obtain ⟨checked, hchecked, hresolved⟩ := except.bind_eq_ok.mp hresolved
  obtain ⟨rfl, hne, hnamed, hdistinct⟩ := check_policy_ids_eq_ok.mp hchecked
  obtain ⟨policies, hdocument, hresolved⟩ := except.bind_eq_ok.mp hresolved
  obtain ⟨selected, hselected, hresolved⟩ := except.bind_eq_ok.mp hresolved
  obtain ⟨findings, hfindings, hresolved⟩ := except.bind_eq_ok.mp hresolved
  have hfound := findings_eq_ok.mp ⟨selected, hselected, hfindings⟩
  refine ⟨policies, findings, load_document_eq_ok.mp hdocument, fun hnil => hne (by rw [hnil]; rfl), hnamed, hdistinct,
    hfound, ?_, ?_⟩
  · rw [← first_denial_eq_none]
    dsimp only at hresolved
    split at hresolved
    · rename_i hdenial
      cases hresolved
      simp [hdenial]
    · rename_i hdenial
      cases hresolved
      simp [hdenial]
  · dsimp only at hresolved
    split at hresolved <;> cases hresolved <;> rfl

theorem resolution_of_found (hdocument : Document file policies) (hne : policy_ids ≠ [])
    (hnamed : "" ∉ policy_ids.map normalized) (hdistinct : (policy_ids.map normalized).Nodup)
    (hfound : List.Forall₂ (Found policies capability target) (policy_ids.map normalized) findings) :
    ∃ resolution, resolve_policy_set file policy_ids capability target = .ok resolution ∧
      Resolved file policy_ids capability target policies findings resolution := by
  obtain ⟨selected, hselected, hfindings⟩ := findings_eq_ok.mpr hfound
  have hne' : policy_ids.map normalized ≠ [] := fun hnil => hne (List.map_eq_nil_iff.mp hnil)
  have hresolved : ∃ resolution, resolve_policy_set file policy_ids capability target = .ok resolution := by
    unfold resolve_policy_set
    rw [check_policy_ids_eq_ok.mpr ⟨rfl, hne', hnamed, hdistinct⟩, except.ok_bind, load_document_eq_ok.mpr hdocument,
      except.ok_bind, hselected, except.ok_bind, hfindings, except.ok_bind]
    dsimp only
    split
    · exact ⟨_, rfl⟩
    · exact ⟨_, rfl⟩
  obtain ⟨resolution, hresolution⟩ := hresolved
  refine ⟨resolution, hresolution, ?_⟩
  obtain ⟨others, found, hspec⟩ := resolved_of_ok hresolution
  -- the document and the findings are the only ones
  have hsame : others = policies := Except.ok.inj ((load_document_eq_ok.mpr hspec.document).symm.trans
    (load_document_eq_ok.mpr hdocument))
  subst hsame
  have hfindings : found = findings := List.right_unique_forall₂'
    (fun _ _ _ hfinding hother => hfinding.unique hother) hspec.found hfound
  rwa [hfindings] at hspec

section

variable (hspec : Resolved file policy_ids capability target policies findings resolution)

include hspec

/-- Every identity has its finding among those of the resolution. -/
theorem Resolved.finding_of_mem
    (hmem : policy_id ∈ policy_ids.map normalized) :
    ∃ finding ∈ findings, Found policies capability target policy_id finding := by
  obtain ⟨position, hposition, rfl⟩ := List.mem_iff_getElem.mp hmem
  have hbound : position < findings.length := by rw [← hspec.found.length_eq]; exact hposition
  exact ⟨findings[position], List.getElem_mem hbound, hspec.found.get hposition hbound⟩

/-- Every finding of the resolution is that of an identity. -/
theorem Resolved.identity_of_mem
    (hmem : finding ∈ findings) :
    ∃ policy_id ∈ policy_ids.map normalized, Found policies capability target policy_id finding := by
  obtain ⟨position, hposition, rfl⟩ := List.mem_iff_getElem.mp hmem
  have hbound : position < (policy_ids.map normalized).length := by rw [hspec.found.length_eq]; exact hposition
  exact ⟨(policy_ids.map normalized)[position], List.getElem_mem hbound, hspec.found.get hbound hposition⟩

theorem Resolved.findings_ne_nil : findings ≠ [] := by
  rintro rfl
  exact hspec.nonempty (List.map_eq_nil_iff.mp (List.forall₂_nil_right_iff.mp hspec.found))

end

/-- Some identities of a request resolve when the request does, and each of their findings is one of the request's. -/
theorem Resolved.of_subperm {more_ids : List String}
    (hspec : Resolved file more_ids capability target policies findings resolution) (hne : policy_ids ≠ [])
    (hsubperm : policy_ids.Subperm more_ids) :
    ∃ fewer found, resolve_policy_set file policy_ids capability target = .ok fewer ∧
      Resolved file policy_ids capability target policies found fewer ∧ found ⊆ findings := by
  obtain ⟨chosen, hperm, hsublist⟩ := hsubperm
  have hsubset : policy_ids.map normalized ⊆ more_ids.map normalized :=
    List.map_subset normalized fun _ hmem => hsublist.subset (hperm.symm.subset hmem)
  have hdistinct : (policy_ids.map normalized).Nodup :=
    (hperm.map normalized).nodup_iff.mp (hspec.distinct.sublist (hsublist.map normalized))
  have hfound : ∀ policy_id ∈ policy_ids.map normalized,
      ∃ finding, Found policies capability target policy_id finding := by
    intro policy_id hmem
    obtain ⟨finding, _, hfinding⟩ := hspec.finding_of_mem (hsubset hmem)
    exact ⟨finding, hfinding⟩
  obtain ⟨found, hall⟩ := exists_forall₂ hfound
  obtain ⟨fewer, hresolved, hfewer⟩ := resolution_of_found hspec.document hne
    (fun hempty => hspec.named (hsubset hempty)) hdistinct hall
  refine ⟨fewer, found, hresolved, hfewer, ?_⟩
  intro finding hmem
  obtain ⟨policy_id, hid, hfinding⟩ := hfewer.identity_of_mem hmem
  obtain ⟨other, hother, hagain⟩ := hspec.finding_of_mem (hsubset hid)
  rwa [hfinding.unique hagain]

theorem monotone (file : Except Error Json) : Monotone file := by
  intro policy_ids more_ids capability target more hne hsubperm hmore
  obtain ⟨policies, findings, hspec⟩ := resolved_of_ok hmore
  obtain ⟨fewer, found, hresolved, hfewer, hsubset⟩ := hspec.of_subperm hne hsubperm
  refine ⟨fewer, hresolved, ?_, ?_⟩
  · intro hallowed
    exact hfewer.allowed.mpr fun finding hmem => hspec.allowed.mp hallowed finding (hsubset hmem)
  · rw [hspec.lifetime, hfewer.lifetime]
    obtain ⟨finding, hmem, hleast⟩ := (minimum_ttl_isLeast hfewer.findings_ne_nil).1
    rw [← hleast]
    exact (minimum_ttl_isLeast hspec.findings_ne_nil).2 ⟨finding, hsubset hmem, rfl⟩

/-- Two orders of the same identities are each some identities of the other. -/
theorem order_free (file : Except Error Json) : OrderFree file := by
  intro policy_ids other_ids capability target resolution hperm hresolved
  obtain ⟨policies, findings, hspec⟩ := resolved_of_ok hresolved
  have hne : other_ids ≠ [] := fun hnil => hspec.nonempty (hperm.trans (.of_eq hnil)).eq_nil
  obtain ⟨other, hother, hallowed, hlifetime⟩ :=
    monotone file other_ids policy_ids capability target resolution hne hperm.symm.subperm hresolved
  obtain ⟨again, hagain, hconverse, hshorter⟩ :=
    monotone file policy_ids other_ids capability target other hspec.nonempty hperm.subperm hother
  rw [hresolved] at hagain
  cases hagain
  exact ⟨other, hother, Bool.eq_iff_iff.mpr ⟨hconverse, hallowed⟩, le_antisymm hshorter hlifetime⟩

/-- An identity that is requested alone is resolved to what the policy that it names permits. -/
theorem resolve_alone {policy : List (String × Json)} {ttl : Int} (hdocument : Document file policies)
    (hnormal : normalized policy_id = policy_id) (hne : policy_id ≠ "") (hnames : Names policies policy_id policy)
    (hpermits : Permits policy capability target) (hlifetime : Lifetime policy ttl) :
    ∃ resolution, resolve_policy_set file [policy_id] capability target = .ok resolution ∧ resolution.allowed = true ∧
      resolution.token_ttl_seconds = ttl := by
  obtain ⟨hevaluated, hpermitted⟩ := evaluate_permitted.mpr ⟨hpermits, ttl, hlifetime, rfl⟩
  have hfound : List.Forall₂ (Found policies capability target) ([policy_id].map normalized)
      [permitted (identity policy, ttl)] := by
    rw [List.map_singleton, hnormal]
    exact .cons ⟨policy, hnames, hevaluated⟩ .nil
  obtain ⟨resolution, hresolved, hspec⟩ := resolution_of_found hdocument (List.cons_ne_nil _ _)
    (by simpa [hnormal] using Ne.symm hne) (by simp) hfound
  refine ⟨resolution, hresolved, hspec.allowed.mpr ?_, hspec.lifetime⟩
  intro finding hmem
  rwa [List.mem_singleton.mp hmem]

theorem restrictive_iff : Restrictive file ↔ ∀ policies, Document file policies → Covered policies := by
  constructor
  · intro hrestrictive policies hdocument entry hentry hne winner hnames capability target ttl hpermits hlifetime
    have hnormal : normalized (identity entry) = identity entry := normalized_text_of _
    obtain ⟨resolution, hresolved, hallowed, httl⟩ :=
      resolve_alone hdocument hnormal hne hnames hpermits hlifetime
    obtain ⟨hentry_permits, longer, hlonger, hbound⟩ := hrestrictive policies hdocument _ capability target resolution
      hresolved hallowed entry hentry (by simp [hnormal])
    exact ⟨hentry_permits, longer, hlonger, by rwa [httl] at hbound⟩
  · intro hcovered policies hdocument policy_ids capability target resolution hresolved hallowed entry hentry hmem
    obtain ⟨others, findings, hspec⟩ := resolved_of_ok hresolved
    have hsame : others = policies := Except.ok.inj ((load_document_eq_ok.mpr hspec.document).symm.trans
      (load_document_eq_ok.mpr hdocument))
    subst hsame
    obtain ⟨finding, hfinding, winner, hnames, hevaluated⟩ := hspec.finding_of_mem hmem
    obtain ⟨hpermits, ttl, hlifetime, rfl⟩ :=
      evaluate_permitted.mp ⟨hevaluated, hspec.allowed.mp hallowed finding hfinding⟩
    have hne : identity entry ≠ "" := fun hempty => hspec.named (hempty ▸ hmem)
    obtain ⟨hentry_permits, longer, hlonger, hbound⟩ :=
      hcovered others hdocument entry hentry hne winner hnames capability target ttl hpermits hlifetime
    refine ⟨hentry_permits, longer, hlonger, le_trans ?_ hbound⟩
    rw [hspec.lifetime]
    exact (minimum_ttl_isLeast hspec.findings_ne_nil).2 ⟨_, hfinding, rfl⟩

/-- A request is composed restrictively exactly on the documents whose replaced entries are as permissive as the last. -/
theorem resolve_policy_set_restrictive_iff (file : Except Error Json) :
    Restrictive file ∧ Monotone file ∧ OrderFree file ↔ ∀ policies, Document file policies → Covered policies := by
  rw [restrictive_iff]
  constructor
  · rintro ⟨hcovered, _⟩
    exact hcovered
  · intro hcovered
    exact ⟨hcovered, monotone file, order_free file⟩

end

/-- An active entry of a document, of one identity and with one capability on every target. -/
def entry_for (policy_id capability : String) (ttl : Int) : Json :=
  .object [("policy_id", .text policy_id), ("status", .text "active"),
    ("allowed_capabilities", .list [.text capability]), ("allowed_targets", .list [.text "*"]),
    ("token_ttl_seconds", .int ttl)]

/-- Two active entries of one identity: the one that does not permit the request is replaced, and it is allowed. -/
theorem resolve_policy_set_duplicated :
    letI := StrLower.ascii
    let policies := [entry_for "owner" "lock" 10, entry_for "Owner " "unlock" 300]
    let file : Except Error Json :=
      .ok (.object [("schema", .text "velvet.court.policy.v1"), ("policies", .list policies)])
    (∃ resolution, resolve_policy_set file ["owner"] "unlock" "door" = .ok resolution ∧ resolution.allowed = true ∧
        resolution.token_ttl_seconds = 300) ∧
      (∃ entry ∈ policies.filterMap active_policy, identity entry = "owner" ∧ ¬ Permits entry "unlock" "door" ∧
        ttl_of entry = some 10) ∧
      ¬ Restrictive file := by
  let := StrLower.ascii
  have hdenied : ¬ ∃ policy, active_policy (entry_for "owner" "lock" 10) = some policy ∧
      Permits policy "unlock" "door" := by
    rintro ⟨_, hactive, ⟨values, hvalues, hlisted⟩, _⟩
    cases hactive
    cases hvalues
    revert hlisted
    decide
  have hresolved : ∃ resolution, resolve_policy_set
      (.ok (.object [("schema", .text "velvet.court.policy.v1"),
        ("policies", .list [entry_for "owner" "lock" 10, entry_for "Owner " "unlock" 300])]))
      ["owner"] "unlock" "door" = .ok resolution ∧ resolution.allowed = true ∧ resolution.token_ttl_seconds = 300 := by
    refine ⟨⟨["owner"], "owner", [⟨"owner", true, true, 300⟩], true, 300, none, none⟩, ?_, rfl, rfl⟩
    decide
  have hidentity : ∀ entry, active_policy (entry_for "owner" "lock" 10) = some entry →
      identity entry = "owner" ∧ ttl_of entry = some 10 := by
    intro entry hactive
    cases hactive
    decide
  obtain ⟨entry, hactive⟩ : ∃ entry, active_policy (entry_for "owner" "lock" 10) = some entry := ⟨_, rfl⟩
  have hmem : entry ∈ [entry_for "owner" "lock" 10, entry_for "Owner " "unlock" 300].filterMap active_policy :=
    List.mem_filterMap.mpr ⟨_, List.mem_cons_self, hactive⟩
  obtain ⟨hnamed, httl⟩ := hidentity entry hactive
  refine ⟨hresolved, ⟨entry, hmem, hnamed, fun hpermits => hdenied ⟨entry, hactive, hpermits⟩, httl⟩, ?_⟩
  intro hrestrictive
  obtain ⟨resolution, hok, hallowed, _⟩ := hresolved
  obtain ⟨hpermits, _⟩ := hrestrictive _ ⟨_, rfl, rfl, rfl⟩ ["owner"] "unlock" "door" resolution hok hallowed entry hmem
    (by rw [hnamed]; decide)
  exact hdenied ⟨entry, hactive, hpermits⟩

end velvet.court_policy_resolution
