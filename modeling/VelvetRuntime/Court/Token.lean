import VelvetRuntime.Court.Soundness
import VelvetRuntime.Joined
import VelvetRuntime.Python.Bytes
import VelvetRuntime.Python.JsonCanonical

open python python.str python.json joined

namespace velvet.court_token

open velvet.court_intent velvet.court_authority velvet.court_policy_resolution velvet.court_authorization

/-- What `json`, `hashlib` and `hmac` compute: the text of floats, the hex digest of bytes, and that of bytes under a
key. -/
structure Hashing where
  floats : FloatText
  sha256 : ByteArray → String
  hmac_sha256 : List UInt8 → ByteArray → String
  hmac_ascii : ∀ key message, ∀ char ∈ (hmac_sha256 key message).toList, char.toNat < 128

/-- The dict of the unsigned fields. -/
def UnsignedFields.entries (fields : UnsignedFields) : List (String × Json) :=
  [("intent_id", .text fields.intent_id), ("capability", .text fields.capability), ("target", .text fields.target),
    ("profile_id", .text fields.profile_id), ("session_id", .text fields.session_id),
    ("body_id", .text fields.body_id), ("surface", .text fields.surface), ("issued_at", .int fields.issued_at),
    ("expires_at", .int fields.expires_at), ("policy_id", .text fields.policy_id)]

/-- The dict of the signed fields. -/
def TokenFields.entries (fields : TokenFields) : List (String × Json) :=
  [("token_id", .text fields.token_id), ("intent_id", .text fields.intent_id), ("capability", .text fields.capability),
    ("target", .text fields.target), ("profile_id", .text fields.profile_id), ("session_id", .text fields.session_id),
    ("body_id", .text fields.body_id), ("surface", .text fields.surface), ("issued_at", .int fields.issued_at),
    ("expires_at", .int fields.expires_at), ("policy_id", .text fields.policy_id)]

/-- The names of the signed fields. -/
def TOKEN_FIELDS : List String :=
  ["token_id", "intent_id", "capability", "target", "profile_id", "session_id", "body_id", "surface", "issued_at",
    "expires_at", "policy_id"]

namespace Hashing

/-- `_canonical(value)`. -/
def canonical (hashing : Hashing) (value : List (String × Json)) : ByteArray :=
  (String.ofList (encode hashing.floats true (.object value))).toUTF8

/-- The id and the signature of a token as `issue_token` computes them. -/
def signing (hashing : Hashing) : Signing where
  token_id unsigned := String.ofList ((hashing.sha256 (hashing.canonical unsigned.entries)).toList.take 24)
  sign key fields := hashing.hmac_sha256 key (hashing.canonical fields.entries)

variable (hashing : Hashing)

/-- The signed fields are read back from their canonical bytes. -/
theorem canonical_injective {fields other : TokenFields}
    (hsame : hashing.canonical fields.entries = hashing.canonical other.entries) : fields = other := by
  have hdistinct (fields : TokenFields) : Distinct (.object fields.entries) :=
    ⟨(by decide : TOKEN_FIELDS.Nodup), by simp [TokenFields.entries, DistinctEntries, Distinct]⟩
  have hread (fields : TokenFields) : Readable hashing.floats (floats_in (.object fields.entries)) := by
    simp [Readable, TokenFields.entries, floats_in, floats_in_entries]
  have htext := Option.some.inj ((bytes.fromUTF8_toUTF8 _).symm.trans
    ((congrArg String.fromUTF8? hsame).trans (bytes.fromUTF8_toUTF8 _)))
  have hvalue := same_of_encode_eq hashing.floats true (hdistinct fields) (hdistinct other) (hread fields) (hread other)
    (String.ofList_injective htext)
  have hentry (name : String) :
      (entry_of fields.entries name).map sorted = (entry_of other.entries name).map sorted := by
    rw [← entry_of_sorted_object (hdistinct fields).1, ← entry_of_sorted_object (hdistinct other).1]
    exact congrArg (entry_of · name) (Json.object.inj hvalue)
  have htext (name : String) {value value' : String} (hvalue : entry_of fields.entries name = some (.text value))
      (hvalue' : entry_of other.entries name = some (.text value')) : value = value' := by
    have hboth := hentry name
    rw [hvalue, hvalue'] at hboth
    exact Json.text.inj (Option.some.inj hboth)
  have hint (name : String) {value value' : Int} (hvalue : entry_of fields.entries name = some (.int value))
      (hvalue' : entry_of other.entries name = some (.int value')) : value = value' := by
    have hboth := hentry name
    rw [hvalue, hvalue'] at hboth
    exact Json.int.inj (Option.some.inj hboth)
  have hidentity := And.intro (htext "token_id" rfl rfl) (htext "intent_id" rfl rfl)
  have haction := And.intro (htext "capability" rfl rfl) (htext "target" rfl rfl)
  have hplace := And.intro (htext "profile_id" rfl rfl)
    (And.intro (htext "session_id" rfl rfl) (And.intro (htext "body_id" rfl rfl) (htext "surface" rfl rfl)))
  have hlifetime := And.intro (hint "issued_at" rfl rfl) (hint "expires_at" rfl rfl)
  have hpolicy := htext "policy_id" rfl rfl
  cases fields
  cases other
  rw [TokenFields.mk.injEq]
  exact ⟨hidentity.1, hidentity.2, haction.1, haction.2, hplace.1, hplace.2.1, hplace.2.2.1, hplace.2.2.2,
    hlifetime.1, hlifetime.2, hpolicy⟩

end Hashing

section

variable [StrLower]

/-- A token that was issued. -/
structure Issue (hashing : Hashing) where
  intent : ValidIntent
  policy_id : String
  signing_key : List UInt8
  ttl_seconds : Int
  issued_at : Int
  token : CapabilityToken
  issued : issue_token hashing.signing intent policy_id (some signing_key) ttl_seconds issued_at = .ok token

/-- An intent that was authorized: the policies that its context requests, and the token that it got. -/
structure Authorization (hashing : Hashing) where
  intent : Intent
  context : CapabilityContext
  file : Except Error Json
  sink : ReceiptSink
  signing_key : Option (List UInt8)
  now : Int
  policy_ids : List String
  decision : CourtDecision
  token : CapabilityToken
  requested : policy_ids_from_context context = .ok policy_ids
  decided : authorize_intent hashing.signing sink intent context file signing_key now = .ok decision
  granted : decision.token = some token

variable {hashing : Hashing} (issue : Issue hashing)

theorem Issue.token_eq :
    issue.token = signed_token hashing.signing issue.signing_key
      (unsigned_fields issue.intent issue.policy_id issue.ttl_seconds issue.issued_at) := by
  obtain ⟨key, hkey, _, _, htoken⟩ := issue_token_eq_ok.mp issue.issued
  cases hkey
  exact htoken

omit [StrLower] in
theorem verify_token_signed (key : List UInt8) (fields original : TokenFields) (now : Int) :
    verify_token hashing.signing.sign { fields with signature := hashing.signing.sign key original } key now =
      .ok (decide (hashing.signing.sign key original = hashing.signing.sign key fields ∧ fields.issued_at ≤ now ∧
        now ≤ fields.expires_at)) := by
  have hascii : (hashing.signing.sign key original).toList.all (fun char => char.toNat < 128) = true :=
    List.all_eq_true.mpr (fun char hchar => decide_eq_true (hashing.hmac_ascii key _ char hchar))
  exact if_pos hascii

/-- A token verifies under its key for as long as it lives. -/
theorem Issue.verifies (now : Int) :
    verify_token hashing.signing.sign issue.token issue.signing_key now =
      .ok (decide (issue.issued_at ≤ now ∧ now ≤ issue.issued_at + issue.ttl_seconds)) := by
  rw [issue.token_eq]
  refine (verify_token_signed issue.signing_key _ _ now).trans ?_
  simp [unsigned_fields]

/-- While the key has no other canonical bytes with the signature of the token, no other fields verify with it. -/
theorem Issue.tampered (issue : Issue hashing)
    (hhmac : ∀ fields : TokenFields,
      hashing.hmac_sha256 issue.signing_key (hashing.canonical fields.entries) =
          hashing.hmac_sha256 issue.signing_key (hashing.canonical issue.token.entries) →
        hashing.canonical fields.entries = hashing.canonical issue.token.entries)
    {fields : TokenFields} (hfields : fields ≠ issue.token.toTokenFields) (now : Int) :
    verify_token hashing.signing.sign { fields with signature := issue.token.signature } issue.signing_key now =
      .ok false := by
  have hsignature : issue.token.signature = hashing.signing.sign issue.signing_key issue.token.toTokenFields := by
    rw [issue.token_eq]
    rfl
  rw [hsignature, verify_token_signed]
  refine congrArg Except.ok (decide_eq_false ?_)
  rintro ⟨hsame, _⟩
  exact hfields (hashing.canonical_injective (hhmac fields hsame.symm))

/-- The token of an authorization names the requested policies, joined. -/
theorem Authorization.policy_id_eq (authorization : Authorization hashing) :
    authorization.token.policy_id = "+".intercalate authorization.policy_ids ∧ authorization.policy_ids ≠ [] := by
  have hdecided := authorization.decided
  unfold authorize_intent at hdecided
  split at hdecided
  · rcases authorize_valid_cases hdecided with ⟨_, hnone⟩ | ⟨basis, hgrounds, _, hdecision⟩
    · rw [authorization.granted] at hnone
      cases hnone
    · have htoken := authorization.granted
      rw [hdecision] at htoken
      have hrequested := policy_ids_from_context_eq_ok.mpr
        ⟨hgrounds.requested, hgrounds.nonempty, hgrounds.named, hgrounds.distinct⟩
      have hids := Except.ok.inj (authorization.requested.symm.trans hrequested)
      rw [hids, ← Option.some.inj htoken]
      exact ⟨rfl, hgrounds.nonempty⟩
  · have hnone := (deny_withheld hdecided).2
    rw [authorization.granted] at hnone
    cases hnone

/-- The parts of policy identities between their plus signs. -/
def policy_parts (policy_ids : List String) : List (List Char) :=
  policy_ids.flatMap (fun policy_id => policy_id.toList.splitOn '+')

theorem policy_id_eq_iff (first second : Authorization hashing) :
    first.token.policy_id = second.token.policy_id ↔
      policy_parts first.policy_ids = policy_parts second.policy_ids := by
  obtain ⟨hfirst, hfirst_ne⟩ := first.policy_id_eq
  obtain ⟨hsecond, hsecond_ne⟩ := second.policy_id_eq
  have hmap {policy_ids : List String} (hne : policy_ids ≠ []) : policy_ids.map String.toList ≠ [] :=
    fun hnil => hne (List.map_eq_nil_iff.mp hnil)
  have hplus : "+".toList = ['+'] := rfl
  rw [hfirst, hsecond, ← String.toList_inj, String.toList_intercalate, String.toList_intercalate, hplus,
    intercalate_eq_intercalate_iff (hmap hfirst_ne) (hmap hsecond_ne), List.flatMap_map, List.flatMap_map]
  exact Iff.rfl

/-- A token holds for its lifetime, its signature is no other token's, and the tokens of two authorizations tell their
policies apart. -/
structure TokenIntegrity (issue : Issue hashing) (first second : Authorization hashing) : Prop where
  lifetime : ∀ now, verify_token hashing.signing.sign issue.token issue.signing_key now = .ok true ↔
    issue.issued_at ≤ now ∧ now ≤ issue.issued_at + issue.ttl_seconds
  tampered : ∀ fields : TokenFields, fields ≠ issue.token.toTokenFields → ∀ now,
    verify_token hashing.signing.sign { fields with signature := issue.token.signature } issue.signing_key now =
      .ok false
  policies : first.policy_ids ≠ second.policy_ids → first.token.policy_id ≠ second.token.policy_id

/-- While no other canonical bytes have the signature of the token, its integrity holds exactly when the identities of
two lists of policies have different parts between their plus signs, or the lists are the same. -/
theorem token_integrity_iff (issue : Issue hashing) (first second : Authorization hashing)
    (hhmac : ∀ fields : TokenFields,
      hashing.hmac_sha256 issue.signing_key (hashing.canonical fields.entries) =
          hashing.hmac_sha256 issue.signing_key (hashing.canonical issue.token.entries) →
        hashing.canonical fields.entries = hashing.canonical issue.token.entries) :
    TokenIntegrity issue first second ↔
      (policy_parts first.policy_ids = policy_parts second.policy_ids → first.policy_ids = second.policy_ids) := by
  rw [← policy_id_eq_iff]
  constructor
  · intro hintegrity
    exact not_imp_not.mp hintegrity.policies
  · intro hparts
    refine ⟨fun now => ?_, fun fields hfields now => issue.tampered hhmac hfields now, not_imp_not.mpr hparts⟩
    rw [issue.verifies, Except.ok.injEq, decide_eq_true_iff]

end

/-- The canonical text of a token to unlock the door, up to the entries after the target. -/
def unlock_text (policy_id rest : String) : String :=
  "\x7b\"body_id\":\"car\",\"capability\":\"unlock\",\"expires_at\":110,\"intent_id\":\"i1\",\"issued_at\":100" ++
    ",\"policy_id\":\"" ++ policy_id ++ "\",\"profile_id\":\"ana\",\"session_id\":\"s1\",\"surface\":\"cabin\"" ++
    ",\"target\":\"door\"" ++ rest ++ "\x7d"

/-- The bytes of the token that the owner's and the safety policy permit. -/
def unlock_bytes : ByteArray := (unlock_text "owner+safety" ",\"token_id\":\"2d082bd593e1b80f5472e3b7\"").toUTF8

def unlock_key : List UInt8 := List.replicate 32 0

def unlock_signature : String := "ce8cb835a40f4ffcfd7035ebeb79d7bd4b80ffbd44b695c823e34b10db35872b"

local instance bytes_decidable : DecidableEq ByteArray := ByteArray.instDecidableEq

/-- The digest of the token below under its key; those of other bytes are told apart by their bytes. -/
@[irreducible] def unlock_hmac (key : List UInt8) (message : ByteArray) : String :=
  if key = unlock_key ∧ message = unlock_bytes then unlock_signature
  else String.ofList ('-' :: bytes.hex message.toList)

theorem ascii_of_mem_unlock_hmac (key : List UInt8) (message : ByteArray) :
    ∀ char ∈ (unlock_hmac key message).toList, char.toNat < 128 := by
  intro char hchar
  unfold unlock_hmac at hchar
  split at hchar
  · exact (by decide : ∀ char ∈ unlock_signature.toList, char.toNat < 128) char hchar
  · rw [String.toList_ofList] at hchar
    rcases List.mem_cons.mp hchar with rfl | hhex
    · decide
    · exact bytes.ascii_of_mem_hex hhex

/-- The digest of its unsigned fields. -/
@[irreducible] def unlock_sha256 (message : ByteArray) : String :=
  if message = (unlock_text "owner+safety" "").toUTF8 then
    "2d082bd593e1b80f5472e3b72c1d3b3b310712239e59c0b785bb3fa444acedd7"
  else String.ofList (bytes.hex message.toList)

def unlock_hashing : Hashing where
  floats := ⟨fun _ => "0.0".toList, fun _ => .finite 0⟩
  sha256 := unlock_sha256
  hmac_sha256 := unlock_hmac
  hmac_ascii := ascii_of_mem_unlock_hmac

/-- No other bytes have the signature of the token. -/
theorem unlock_signature_unique {message : ByteArray}
    (hsame : unlock_hmac unlock_key message = unlock_hmac unlock_key unlock_bytes) : message = unlock_bytes := by
  unfold unlock_hmac at hsame
  rw [if_pos (And.intro rfl rfl)] at hsame
  by_contra hother
  rw [if_neg (fun hboth => hother hboth.2)] at hsame
  have hhead := congrArg (fun text => text.toList.head?) hsame
  rw [String.toList_ofList, List.head?_cons] at hhead
  exact absurd hhead (by decide)

/-- The attributes of the context in which policies are asked for the door. -/
def unlock_context (policy_ids : List String) : CapabilityContext where
  policy_ids := some (.list (policy_ids.map .text))
  policy_id := none
  court_authority := some (.text "owner")
  court_authorities := some (.list [.text "owner"])
  authority_profile := some (.text "owner_present")
  authority_profiles := some (.list [.text "owner_present"])
  authorization_required := some (.bool true)
  profile_id := some (.text "ana")
  session_id := some (.text "s1")
  body_id := some (.text "car")
  surface := some (.text "cabin")
  proposed_capabilities := some (.list [.text "unlock"])

def unlock_policy (policy_id : String) : Json :=
  .object [("policy_id", .text policy_id), ("status", .text "active"), ("allowed_capabilities", .list [.text "unlock"]),
    ("allowed_targets", .list [.text "door"]), ("token_ttl_seconds", .int 10)]

/-- Three active policies, one of which has a plus sign in its identity. -/
def unlock_policies : Json :=
  .object [("schema", .text "velvet.court.policy.v1"),
    ("policies", .list [unlock_policy "owner", unlock_policy "safety", unlock_policy "owner+safety"])]

def unlock_intent : Intent where
  intent_id := some "i1"
  action := some "unlock"
  capability := some "unlock"
  target := some "door"
  profile_id := some "ana"
  session_id := some "s1"
  body_id := some "car"
  surface := some "cabin"
  requested_at := some 100

/-- Policies that are asked for in normalised form are authorized when a token is returned. -/
theorem exists_unlock_authorization [StrLower] (policy_ids : List String)
    (hnormal : policy_ids.map normalized = policy_ids)
    (hvalid : policy_ids ≠ [] ∧ "" ∉ policy_ids ∧ policy_ids.Nodup)
    (hgiven : ((authorize_intent unlock_hashing.signing (fun _ => .ok ()) unlock_intent (unlock_context policy_ids)
      (.ok unlock_policies) (some unlock_key) 100).toOption.bind CourtDecision.token).isSome = true) :
    ∃ authorization : Authorization unlock_hashing, authorization.policy_ids = policy_ids := by
  have hrequests : Requests (unlock_context policy_ids) policy_ids := by
    refine .inr ⟨by simp [unlock_context], by simp [unlock_context], policy_ids.map .text, rfl, ?_⟩
    rw [List.map_map]
    exact hnormal.symm
  cases hdecided : authorize_intent unlock_hashing.signing (fun _ => .ok ()) unlock_intent (unlock_context policy_ids)
      (.ok unlock_policies) (some unlock_key) 100 with
  | error error =>
    rw [hdecided] at hgiven
    cases hgiven
  | ok decision =>
    rw [hdecided] at hgiven
    obtain ⟨token, htoken⟩ := Option.isSome_iff_exists.mp hgiven
    have hrequested := policy_ids_from_context_eq_ok.mpr ⟨hrequests, hvalid⟩
    exact ⟨⟨_, _, _, _, _, _, policy_ids, decision, token, hrequested, hdecided, htoken⟩, rfl⟩

theorem unlock_digest : unlock_sha256 (unlock_text "owner+safety" "").toUTF8 =
    "2d082bd593e1b80f5472e3b72c1d3b3b310712239e59c0b785bb3fa444acedd7" := by
  unfold unlock_sha256
  exact if_pos rfl

/-- The token with the unsigned fields is signed as its canonical text says. -/
theorem canonical_unlock_token {fields : UnsignedFields}
    (hunsigned : String.ofList (encode unlock_hashing.floats true (.object fields.entries)) =
      unlock_text "owner+safety" "")
    (hsigned : String.ofList (encode unlock_hashing.floats true
        (.object (("token_id", .text "2d082bd593e1b80f5472e3b7") :: fields.entries))) =
      unlock_text "owner+safety" ",\"token_id\":\"2d082bd593e1b80f5472e3b7\"") :
    unlock_hashing.canonical (signed_token unlock_hashing.signing unlock_key fields).entries = unlock_bytes := by
  have hid : unlock_hashing.signing.token_id fields = "2d082bd593e1b80f5472e3b7" := by
    have hdigest : unlock_hashing.signing.token_id fields = String.ofList ((unlock_sha256
        (String.ofList (encode unlock_hashing.floats true (.object fields.entries))).toUTF8).toList.take 24) := rfl
    rw [hdigest, hunsigned, unlock_digest]
    decide
  have hentries : (signed_token unlock_hashing.signing unlock_key fields).entries =
      ("token_id", .text (unlock_hashing.signing.token_id fields)) :: fields.entries := rfl
  rw [hentries, hid]
  exact congrArg String.toUTF8 hsigned

/-- The token that the owner's and the safety policy permit. -/
theorem exists_unlock_issue :
    letI := StrLower.ascii
    ∃ issue : Issue unlock_hashing, issue.signing_key = unlock_key ∧ issue.token.policy_id = "owner+safety" ∧
      unlock_hashing.canonical issue.token.entries = unlock_bytes := by
  let := StrLower.ascii
  let intent : ValidIntent := ⟨unlock_intent, by decide⟩
  have hissued := issue_token_eq_ok.mpr (⟨unlock_key, rfl, by decide, by decide, rfl⟩ :
    ∃ key, some unlock_key = some key ∧ 32 ≤ key.length ∧ (1 ≤ (10 : Int) ∧ (10 : Int) ≤ 300) ∧
      signed_token unlock_hashing.signing unlock_key (unsigned_fields intent "owner+safety" 10 100) =
        signed_token unlock_hashing.signing key (unsigned_fields intent "owner+safety" 10 100))
  exact ⟨⟨intent, "owner+safety", unlock_key, 10, 100, _, hissued⟩, rfl, rfl,
    canonical_unlock_token (by decide +kernel) (by decide +kernel)⟩

/-- The integrity of the token holds, and two requests for other policies are told apart by their tokens. -/
theorem unlock_token_integrity :
    letI := StrLower.ascii
    ∃ (issue : Issue unlock_hashing) (first second : Authorization unlock_hashing),
      issue.token.policy_id = "owner+safety" ∧ first.policy_ids = ["owner", "safety"] ∧
        second.policy_ids = ["owner"] ∧ TokenIntegrity issue first second := by
  let := StrLower.ascii
  obtain ⟨issue, hkey, hpolicy, hbytes⟩ := exists_unlock_issue
  obtain ⟨first, hfirst⟩ := exists_unlock_authorization ["owner", "safety"] (by decide) (by decide)
    (by decide)
  obtain ⟨second, hsecond⟩ := exists_unlock_authorization ["owner"] (by decide) (by decide)
    (by decide)
  refine ⟨issue, first, second, hpolicy, hfirst, hsecond, (token_integrity_iff issue first second ?_).mpr ?_⟩
  · have hhmac : unlock_hashing.hmac_sha256 = unlock_hmac := rfl
    rw [hkey, hbytes, hhmac]
    exact fun fields hsame => unlock_signature_unique hsame
  · rw [hfirst, hsecond]
    intro hparts
    exact absurd hparts (by decide)

/-- A policy with a plus sign in its identity, and the two policies that the sign separates, give tokens with one policy
field. -/
theorem plus_sign_shares_policy_id :
    letI := StrLower.ascii
    ∃ (issue : Issue unlock_hashing) (first second : Authorization unlock_hashing),
      first.policy_ids = ["owner+safety"] ∧ second.policy_ids = ["owner", "safety"] ∧
        first.token.policy_id = "owner+safety" ∧ second.token.policy_id = "owner+safety" ∧
        ¬TokenIntegrity issue first second := by
  let := StrLower.ascii
  obtain ⟨issue, _⟩ := exists_unlock_issue
  obtain ⟨first, hfirst⟩ := exists_unlock_authorization ["owner+safety"] (by decide) (by decide)
    (by decide)
  obtain ⟨second, hsecond⟩ := exists_unlock_authorization ["owner", "safety"] (by decide) (by decide)
    (by decide)
  have hfirst_id := first.policy_id_eq.1
  have hsecond_id := second.policy_id_eq.1
  rw [hfirst] at hfirst_id
  rw [hsecond] at hsecond_id
  refine ⟨issue, first, second, hfirst, hsecond, hfirst_id, hsecond_id, ?_⟩
  intro hintegrity
  refine hintegrity.policies ?_ (hfirst_id.trans hsecond_id.symm)
  rw [hfirst, hsecond]
  decide

end velvet.court_token
