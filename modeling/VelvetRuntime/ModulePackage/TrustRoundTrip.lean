import VelvetRuntime.Python.JsonCanonical
import VelvetRuntime.ModulePackage.TrustRegistry

open python python.num python.json python.except

namespace velvet.module_trust_registry

open OwnerTrustedModuleEntry

section fields

variable {fullmatch : String → Bool} {message : String} {value : Option Json}

theorem validated_match_eq_ok {text : String} :
    validated_match fullmatch message value = .ok text ↔ value = some (.text text) ∧ fullmatch text = true := by
  unfold validated_match
  constructor
  · intro htext
    split at htext
    · split at htext
      · rename_i hmatch
        cases htext
        exact ⟨rfl, hmatch⟩
      · cases htext
    · cases htext
  · rintro ⟨rfl, hmatch⟩
    exact if_pos hmatch

theorem validated_text_eq_ok {label text : String} {maximum : Nat} :
    validated_text label maximum value = .ok text ↔ ∃ raw, value = some (.text raw) ∧ ¬Blank raw ∧
      raw.length ≤ maximum ∧ (∀ c ∈ raw.toList, 32 ≤ c.toNat ∧ c.toNat ≤ 126) ∧ text = stripped raw := by
  have hprintable : ∀ raw : String, raw.toList.any (fun c => c.toNat < 32 ∨ 126 < c.toNat) = false ↔
      ∀ c ∈ raw.toList, 32 ≤ c.toNat ∧ c.toNat ≤ 126 := by
    intro raw
    simp only [List.any_eq_false, decide_eq_true_eq, not_or, not_lt]
  unfold validated_text
  constructor
  · intro htext
    split at htext
    · rename_i raw
      split at htext
      · cases htext
      · rename_i hvalid
        cases htext
        simp only [not_or, not_lt, Bool.not_eq_true] at hvalid
        exact ⟨raw, rfl, hvalid.1, hvalid.2.1, (hprintable raw).mp hvalid.2.2, rfl⟩
    · cases htext
  · rintro ⟨raw, rfl, hblank, hlength, hall, rfl⟩
    refine if_neg ?_
    simp only [not_or, not_lt, Bool.not_eq_true]
    exact ⟨hblank, hlength, (hprintable raw).mpr hall⟩

theorem bounded_integer_eq_ok {label : String} {minimum maximum number : Int} :
    bounded_integer label minimum maximum value = .ok number ↔
      value = some (.int number) ∧ minimum ≤ number ∧ number ≤ maximum := by
  unfold bounded_integer
  constructor
  · intro hnumber
    split at hnumber
    · split at hnumber
      · rename_i hbounds
        cases hnumber
        exact ⟨rfl, hbounds⟩
      · cases hnumber
    · cases hnumber
  · rintro ⟨rfl, hbounds⟩
    exact if_pos hbounds

/-- Validated text is valid text. -/
theorem validated_text_of_eq_ok {label text : String} {maximum : Nat}
    (htext : validated_text label maximum value = .ok text) :
    validated_text label maximum (some (.text text)) = .ok text := by
  obtain ⟨raw, _, hblank, hlength, hall, rfl⟩ := validated_text_eq_ok.mp htext
  have hpart : (stripped raw).toList.Sublist raw.toList := by
    unfold stripped
    rw [String.toList_ofList]
    exact str.strip_sublist raw.toList
  have hshorter : (stripped raw).length ≤ raw.length := by
    rw [← String.length_toList, ← String.length_toList]
    exact hpart.length_le
  exact validated_text_eq_ok.mpr ⟨stripped raw, rfl, fun hempty => hblank ((blank_stripped_iff raw).mp hempty),
    hshorter.trans hlength, fun c hc => hall c (hpart.subset hc), (stripped_stripped raw).symm⟩

end fields

section entries

variable {entries : List OwnerTrustedModuleEntry}

theorem validate_loop_eq_ok {seen : List String} : validate_loop seen entries = .ok () ↔
    (entries.map package_id).Nodup ∧
      (∀ entry ∈ entries, entry.package_id ∉ seen ∧ validate_fields entry = .ok ()) := by
  induction entries generalizing seen with
  | nil => exact ⟨fun _ => ⟨.nil, fun _ hentry => (by cases hentry)⟩, fun _ => rfl⟩
  | cons entry rest ih =>
    unfold validate_loop
    constructor
    · intro hloop
      split at hloop
      · cases hloop
      rename_i hnew
      obtain ⟨⟨⟩, hfields, hrest⟩ := bind_eq_ok.mp hloop
      obtain ⟨hnodup, hall⟩ := ih.mp hrest
      refine ⟨List.nodup_cons.mpr ⟨?_, hnodup⟩, ?_⟩
      · intro hmem
        obtain ⟨other, hother, hsame⟩ := List.mem_map.mp hmem
        exact (hall other hother).1 (hsame ▸ List.mem_cons_self)
      · intro other hother
        rcases List.mem_cons.mp hother with rfl | hother
        · exact ⟨hnew, hfields⟩
        · exact ⟨fun hseen => (hall other hother).1 (List.mem_cons_of_mem _ hseen), (hall other hother).2⟩
    · rintro ⟨hnodup, hall⟩
      obtain ⟨hnew, hnodup⟩ := List.nodup_cons.mp hnodup
      rw [if_neg (hall entry List.mem_cons_self).1]
      refine bind_eq_ok.mpr ⟨(), (hall entry List.mem_cons_self).2, ih.mpr ⟨hnodup, ?_⟩⟩
      intro other hother
      refine ⟨?_, (hall other (List.mem_cons_of_mem _ hother)).2⟩
      intro hseen
      rcases List.mem_cons.mp hseen with hsame | hseen
      · exact hnew (hsame ▸ List.mem_map_of_mem hother)
      · exact (hall other (List.mem_cons_of_mem _ hother)).1 hseen

theorem validate_entries_eq_ok {result : List OwnerTrustedModuleEntry} : validate_entries entries = .ok result ↔
    (entries.map package_id).Nodup ∧ (∀ entry ∈ entries, validate_fields entry = .ok ()) ∧
      result = sort_entries entries := by
  unfold validate_entries
  rw [bind_eq_ok]
  constructor
  · rintro ⟨⟨⟩, hloop, hresult⟩
    obtain ⟨hnodup, hall⟩ := validate_loop_eq_ok.mp hloop
    exact ⟨hnodup, fun entry hentry => (hall entry hentry).2, (Except.ok.inj hresult).symm⟩
  · rintro ⟨hnodup, hall, rfl⟩
    exact ⟨(), validate_loop_eq_ok.mpr ⟨hnodup, fun entry hentry => ⟨List.not_mem_nil, hall entry hentry⟩⟩, rfl⟩

theorem sort_entries_perm (entries : List OwnerTrustedModuleEntry) : (sort_entries entries).Perm entries :=
  List.perm_insertionSort _ _

/-- Entries that were sorted stay as they are, whatever became of their other fields. -/
theorem sort_entries_of_ids {others : List OwnerTrustedModuleEntry}
    (hids : others.map package_id =
      (sort_entries entries).map package_id) : sort_entries others = others := by
  have : Std.Total (fun left right : OwnerTrustedModuleEntry => left.package_id ≤ right.package_id) :=
    ⟨fun left right => le_total left.package_id right.package_id⟩
  have : IsTrans OwnerTrustedModuleEntry (fun left right => left.package_id ≤ right.package_id) :=
    ⟨fun _ _ _ => le_trans⟩
  have hsorted : ((sort_entries entries).map package_id).Pairwise (· ≤ ·) :=
    List.pairwise_map.mpr (List.pairwise_insertionSort _ entries)
  rw [← hids] at hsorted
  exact (List.pairwise_map.mp hsorted).insertionSort_eq

end entries

section parsing

/-- `_parse_entry` of the document of an entry. -/
def parse_fields (entry : OwnerTrustedModuleEntry) : Except Error OwnerTrustedModuleEntry := do
  let package_id ← validated_id "package_id" (some (.text entry.package_id))
  let package_version ← validated_semver "package_version" (some (.text entry.package_version))
  let storage_id ← validated_id "storage_id" (some (.text entry.storage_id))
  let relative_path ← validated_relative_path (some (.text entry.relative_path))
  let manifest_digest ← validated_digest (some (.text entry.manifest_digest))
  let approved_at ← validated_text "approved_at" 96 (some (.text entry.approved_at))
  .ok { entry with package_id, package_version, storage_id, relative_path, manifest_digest, approved_at }

/-- The entry is as loading leaves it: its package id is one, and its path and its time are in normal form. -/
structure Canonical (entry : OwnerTrustedModuleEntry) : Prop where
  package_id : module_package.is_identifier entry.package_id = true
  relative_path : validated_relative_path (some (.text entry.relative_path)) = .ok entry.relative_path
  approved_at : stripped entry.approved_at = entry.approved_at

theorem parse_fields_eq_ok {entry parsed : OwnerTrustedModuleEntry} (hparsed : parse_fields entry = .ok parsed) :
    module_package.is_identifier entry.package_id = true ∧ parsed.package_id = entry.package_id ∧
      validated_relative_path (some (.text entry.relative_path)) = .ok parsed.relative_path ∧
      parsed.approved_at = stripped entry.approved_at := by
  obtain ⟨package_id, hid, hparsed⟩ := bind_eq_ok.mp hparsed
  obtain ⟨package_version, _, hparsed⟩ := bind_eq_ok.mp hparsed
  obtain ⟨storage_id, _, hparsed⟩ := bind_eq_ok.mp hparsed
  obtain ⟨relative_path, hpath, hparsed⟩ := bind_eq_ok.mp hparsed
  obtain ⟨manifest_digest, _, hparsed⟩ := bind_eq_ok.mp hparsed
  obtain ⟨approved_at, htime, hparsed⟩ := bind_eq_ok.mp hparsed
  obtain ⟨hid, hidentifier⟩ := validated_match_eq_ok.mp hid
  obtain ⟨raw, hraw, _, _, _, htime⟩ := validated_text_eq_ok.mp htime
  cases hparsed
  cases hid
  cases hraw
  exact ⟨hidentifier, rfl, hpath, htime⟩

/-- An entry that was validated parses to itself if and only if it is canonical. -/
theorem parse_fields_iff_canonical {entry : OwnerTrustedModuleEntry} (hfields : validate_fields entry = .ok ()) :
    parse_fields entry = .ok entry ↔ Canonical entry := by
  constructor
  · intro hparsed
    obtain ⟨hid, _, hpath, htime⟩ := parse_fields_eq_ok hparsed
    exact ⟨hid, hpath, htime.symm⟩
  · rintro ⟨hid, hpath, htime⟩
    obtain ⟨package_version, hversion, hfields⟩ := bind_eq_ok.mp hfields
    obtain ⟨storage_id, hstorage, hfields⟩ := bind_eq_ok.mp hfields
    obtain ⟨_, _, hfields⟩ := bind_eq_ok.mp hfields
    obtain ⟨manifest_digest, hdigest, hfields⟩ := bind_eq_ok.mp hfields
    obtain ⟨approved_at, happroved, _⟩ := bind_eq_ok.mp hfields
    have hversion_eq := (validated_match_eq_ok.mp hversion).1
    have hstorage_eq := (validated_match_eq_ok.mp hstorage).1
    have hdigest_eq := (validated_match_eq_ok.mp hdigest).1
    obtain ⟨raw, hraw, _, _, _, happroved_eq⟩ := validated_text_eq_ok.mp happroved
    cases hversion_eq
    cases hstorage_eq
    cases hdigest_eq
    cases hraw
    rw [htime] at happroved_eq
    subst happroved_eq
    have hpackage : validated_id "package_id" (some (.text entry.package_id)) = .ok entry.package_id :=
      validated_match_eq_ok.mpr ⟨rfl, hid⟩
    unfold parse_fields
    rw [hpackage, hversion, hstorage, hpath, hdigest, happroved]
    rfl

variable (platform : Platform)

theorem field_differences_of_iff {document : List (String × Json)} {allowed : List String}
    (hnames : ∀ name, name ∈ document.map Prod.fst ↔ name ∈ allowed) :
    field_differences document allowed = ([], []) := by
  have hunknown : (document.map Prod.fst).filter (· ∉ allowed) = [] := by
    rw [List.filter_eq_nil_iff]
    intro name hname hother
    exact of_decide_eq_true hother ((hnames name).mp hname)
  have hmissing : allowed.filter (· ∉ document.map Prod.fst) = [] := by
    rw [List.filter_eq_nil_iff]
    intro name hname hother
    exact of_decide_eq_true hother ((hnames name).mpr hname)
  unfold field_differences
  dsimp only
  rw [hunknown, hmissing]
  rfl

/-- The document of an entry is parsed field by field. -/
theorem parse_entry_document (index : Nat) (entry : OwnerTrustedModuleEntry) :
    parse_entry platform index (sorted (.object (entry_document entry))) = parse_fields entry := by
  have hnodup : ((entry_document entry).map Prod.fst).Nodup := (by decide : ALLOWED_ENTRY_FIELDS.Nodup)
  have hentry := entry_of_sorted_object hnodup
  have hnames := field_differences_of_iff (mem_keys_sorted_object (entry_document entry))
  have hallowed : (entry_document entry).map Prod.fst = ALLOWED_ENTRY_FIELDS := rfl
  rw [hallowed] at hnames
  unfold sorted parse_entry
  dsimp only
  rw [hnames]
  dsimp only
  rw [if_neg (by simp), hentry "enabled", hentry "package_id", hentry "package_version", hentry "storage_id",
    hentry "relative_path", hentry "manifest_digest", hentry "approved_at"]
  rfl

theorem parse_entries_documents (index : Nat) (entries : List OwnerTrustedModuleEntry) :
    parse_entries platform index (entries.map (fun entry => sorted (.object (entry_document entry)))) =
      entries.mapM parse_fields := by
  induction entries generalizing index with
  | nil => rfl
  | cons entry rest ih =>
    rw [List.map_cons, List.mapM_cons]
    unfold parse_entries
    rw [parse_entry_document, ih]
    rfl

end parsing

section registries

variable {platform : Platform} {registry : OwnerModuleTrustRegistry} {key : ByteArray}

/-- A registry as it is created: its fields are valid, its entries are validated and in order, and the key signed
them. -/
structure Created (platform : Platform) (key : ByteArray) (registry : OwnerModuleTrustRegistry) : Prop where
  owner_key_id : module_package.is_identifier registry.owner_key_id = true
  generation : 1 ≤ registry.generation ∧ registry.generation ≤ 2147483647
  created_at : validated_text "created_at" 96 (some (.text registry.created_at)) = .ok registry.created_at
  distinct : (registry.entries.map OwnerTrustedModuleEntry.package_id).Nodup
  valid : ∀ entry ∈ registry.entries, validate_fields entry = .ok ()
  in_order : ∃ entries, registry.entries = sort_entries entries
  signed : sign_owner_module_trust_payload platform (registry_payload registry) key = .ok registry.hmac_sha256

theorem created_of_create {owner_key_id created_at : String} {generation : Int}
    {entries : List OwnerTrustedModuleEntry}
    (hcreate : create_owner_module_trust_registry platform owner_key_id generation created_at entries key =
      .ok registry) : Created platform key registry := by
  obtain ⟨owner, howner, hcreate⟩ := bind_eq_ok.mp hcreate
  obtain ⟨number, hnumber, hcreate⟩ := bind_eq_ok.mp hcreate
  obtain ⟨created, htime, hcreate⟩ := bind_eq_ok.mp hcreate
  obtain ⟨normalized, hentries, hcreate⟩ := bind_eq_ok.mp hcreate
  obtain ⟨signature, hsigned, hcreate⟩ := bind_eq_ok.mp hcreate
  obtain ⟨hdistinct, hvalid, hsorted⟩ := validate_entries_eq_ok.mp hentries
  have hperm : normalized.Perm entries := hsorted ▸ sort_entries_perm entries
  cases hcreate
  exact {
    owner_key_id := (validated_match_eq_ok.mp howner).2
    generation := (bounded_integer_eq_ok.mp hnumber).2
    created_at := validated_text_of_eq_ok htime
    distinct := (hperm.map _).nodup_iff.mpr hdistinct
    valid := fun entry hentry => hvalid entry (hperm.mem_iff.mp hentry)
    in_order := ⟨entries, hsorted⟩
    signed := hsigned }

/-- The registries that a sequence of `create_owner_module_trust_registry` and `upsert_owner_trusted_entry` returns,
with the key of the last call. -/
inductive Issued (platform : Platform) : ByteArray → OwnerModuleTrustRegistry → Prop where
  | created {owner_key_id created_at : String} {generation : Int} {entries : List OwnerTrustedModuleEntry}
    {key : ByteArray} {registry : OwnerModuleTrustRegistry}
    (hcreate : create_owner_module_trust_registry platform owner_key_id generation created_at entries key =
      .ok registry) : Issued platform key registry
  | started {owner_key_id created_at : String} {entry : OwnerTrustedModuleEntry} {key : ByteArray}
    {registry : OwnerModuleTrustRegistry}
    (hupsert : upsert_owner_trusted_entry platform none owner_key_id entry key created_at = .ok registry) :
    Issued platform key registry
  | updated {earlier key : ByteArray} {previous registry : OwnerModuleTrustRegistry} {owner_key_id created_at : String}
    {entry : OwnerTrustedModuleEntry} (hprevious : Issued platform earlier previous)
    (hupsert : upsert_owner_trusted_entry platform (some previous) owner_key_id entry key created_at = .ok registry) :
    Issued platform key registry

theorem Issued.is_created (hissued : Issued platform key registry) : Created platform key registry := by
  cases hissued with
  | created hcreate => exact created_of_create hcreate
  | started hupsert => exact created_of_create hupsert
  | updated _ hupsert =>
    unfold upsert_owner_trusted_entry at hupsert
    dsimp only at hupsert
    split at hupsert
    · cases hupsert
    · exact created_of_create hupsert

theorem is_hex64_hex (digest : Vector UInt8 32) : is_hex64 (String.ofList (bytes.hex digest.toList)) = true := by
  have hdigit : ∀ n : Fin 16, ((Nat.digitChar n).isDigit || ('a' ≤ Nat.digitChar n && Nat.digitChar n ≤ 'f')) = true := by
    decide
  have hall : ∀ data : List UInt8, ∀ c ∈ bytes.hex data, (c.isDigit || ('a' ≤ c && c ≤ 'f')) = true := by
    intro data
    induction data with
    | nil => exact fun _ hc => (by cases hc)
    | cons byte rest ih =>
      have hbyte := byte.toNat_lt
      intro c hc
      rcases List.mem_cons.mp hc with rfl | hc
      · exact hdigit ⟨byte.toNat / 16, by omega⟩
      rcases List.mem_cons.mp hc with rfl | hc
      · exact hdigit ⟨byte.toNat % 16, by omega⟩
      · exact ih c hc
  unfold is_hex64
  rw [String.length_ofList, String.toList_ofList, bytes.length_hex, Vector.length_toList, Bool.and_eq_true]
  exact ⟨rfl, List.all_eq_true.mpr (hall digest.toList)⟩

theorem sign_eq_ok {payload : List (String × Json)} {signature : String}
    (hsigned : sign_owner_module_trust_payload platform payload key = .ok signature) : is_hex64 signature = true := by
  unfold sign_owner_module_trust_payload at hsigned
  split at hsigned
  · cases hsigned
  · obtain ⟨body, _, hsigned⟩ := bind_eq_ok.mp hsigned
    cases hsigned
    exact is_hex64_hex _

/-- What a created registry reads back as: its entries are parsed, validated and put in order again. -/
theorem parse_registry_document (hcreated : Created platform key registry) (hbounded : registry.entries.length ≤ 4096) :
    parse_registry platform (sort_keys (sorted_entries (registry_document registry))) =
      (do
        let parsed ← registry.entries.mapM parse_fields
        let entries ← validate_entries parsed
        .ok { registry with entries }) := by
  have hnodup : ((registry_document registry).map Prod.fst).Nodup := (by decide : ALLOWED_REGISTRY_FIELDS.Nodup)
  have hentry := entry_of_sorted_object hnodup
  have hnames := field_differences_of_iff (mem_keys_sorted_object (registry_document registry))
  have hallowed : (registry_document registry).map Prod.fst = ALLOWED_REGISTRY_FIELDS := rfl
  have hschema : (((entry_of (registry_document registry) "schema").map sorted).getD .null).is_text
      OWNER_MODULE_TRUST_SCHEMA = true := Json.is_text_iff.mpr rfl
  have hentries : (entry_of (registry_document registry) "entries").map sorted =
      some (.list (registry.entries.map (fun entry => sorted (.object (entry_document entry))))) := by
    change some (Json.list (sorted_values _)) = _
    rw [sorted_values_eq_map, List.map_map]
    rfl
  have hsignature : (entry_of (registry_document registry) "hmac_sha256").map sorted =
      some (.text registry.hmac_sha256) := rfl
  have howner : validated_id "owner_key_id" ((entry_of (registry_document registry) "owner_key_id").map sorted) =
      .ok registry.owner_key_id := validated_match_eq_ok.mpr ⟨rfl, hcreated.owner_key_id⟩
  have hgeneration : bounded_integer "generation" 1 2147483647
      ((entry_of (registry_document registry) "generation").map sorted) = .ok registry.generation :=
    bounded_integer_eq_ok.mpr ⟨rfl, hcreated.generation⟩
  have hcreated_at : validated_text "created_at" 96
      ((entry_of (registry_document registry) "created_at").map sorted) = .ok registry.created_at := hcreated.created_at
  rw [hallowed] at hnames
  unfold parse_registry
  rw [hnames]
  dsimp only
  rw [if_neg (by simp), hentry "schema", hschema, if_neg (by simp), hentry "entries", hentries]
  dsimp only
  rw [List.length_map, if_neg (by omega), parse_entries_documents, hentry "hmac_sha256", hsignature]
  dsimp only
  rw [sign_eq_ok hcreated.signed, hentry "owner_key_id", howner, hentry "generation", hgeneration, hentry "created_at",
    hcreated_at]
  rfl

variable (entries : List OwnerTrustedModuleEntry)

theorem floats_in_documents :
    floats_in_values (entries.map (fun entry => .object (entry_document entry))) = [] := by
  induction entries with
  | nil => rfl
  | cons entry rest ih => exact ih

theorem floats_in_registry_document (registry : OwnerModuleTrustRegistry) :
    floats_in (.object (registry_document registry)) = [] := by
  change floats_in_values _ ++ [] = []
  rw [floats_in_documents]
  rfl

theorem distinct_documents :
    DistinctValues (entries.map (fun entry => .object (entry_document entry))) := by
  induction entries with
  | nil => trivial
  | cons entry rest ih =>
    have hnodup : ((entry_document entry).map Prod.fst).Nodup := (by decide : ALLOWED_ENTRY_FIELDS.Nodup)
    exact ⟨⟨hnodup, trivial, trivial, trivial, trivial, trivial, trivial, trivial, trivial⟩, ih⟩

theorem distinct_registry_document (registry : OwnerModuleTrustRegistry) :
    Distinct (.object (registry_document registry)) :=
  ⟨(by decide : ALLOWED_REGISTRY_FIELDS.Nodup), trivial, trivial, trivial, trivial, distinct_documents registry.entries,
    trivial, trivial⟩

/-- The file of a registry: its canonical text and a line break. -/
def registry_content (platform : Platform) (registry : OwnerModuleTrustRegistry) : ByteArray :=
  (String.ofList (encode platform.floats true (.object (registry_document registry))) ++ String.ofList ['\n']).toUTF8

theorem dumps_registry_document (platform : Platform) (registry : OwnerModuleTrustRegistry) :
    dumps platform.floats true (.object (registry_document registry)) =
      some (String.ofList (encode platform.floats true (.object (registry_document registry)))) := by
  refine (dumps_eq_some_iff _ _).mpr ⟨?_, rfl⟩
  rw [floats_in_registry_document]
  rfl

/-- Writing a registry always succeeds where there is a place for it. -/
theorem write_eq_ok (platform : Platform) (registry : OwnerModuleTrustRegistry) {target : Target}
    (habsolute : target.absolute = true) (hparent : target.parent_is_directory = true) :
    write_owner_module_trust_registry platform target registry =
      .ok ⟨true, .ok ⟨true, 0o600, registry_content platform registry⟩⟩ := by
  unfold write_owner_module_trust_registry canonical_json_bytes
  rw [habsolute, hparent, dumps_registry_document]
  rfl

theorem size_registry_content (platform : Platform) (registry : OwnerModuleTrustRegistry) :
    (registry_content platform registry).size =
      String.utf8Len (encode platform.floats true (.object (registry_document registry))) + 1 := by
  rw [← String.utf8ByteSize_ofList]
  exact String.utf8ByteSize_append

theorem two_le_size_registry_content (platform : Platform) (registry : OwnerModuleTrustRegistry) :
    2 ≤ (registry_content platform registry).size := by
  rw [size_registry_content, encode_object, String.utf8Len_cons]
  have hbrace : ('{').utf8Size = 1 := rfl
  omega

variable {key_path : Location}

/-- A created registry that is written and loaded is parsed, and its signature is checked over what was parsed. -/
theorem load_registry_content (hcreated : Created platform key registry)
    (hentries : registry.entries.length ≤ 4096) (hsize : (registry_content platform registry).size ≤ 1048576)
    (hkey : load_owner_module_trust_key key_path = .ok key) :
    load_owner_module_trust_registry platform ⟨true, .ok ⟨true, 0o600, registry_content platform registry⟩⟩ key_path =
      (do
        let parsed ← registry.entries.mapM parse_fields
        let entries ← validate_entries parsed
        let expected ← sign_owner_module_trust_payload platform (registry_payload { registry with entries }) key
        if expected ≠ registry.hmac_sha256 then
          .error (registry_error "owner module trust registry HMAC does not verify")
        else .ok { registry with entries }) := by
  have hcontent : verified_direct_file (.ok ⟨true, 0o600, registry_content platform registry⟩)
      "owner module trust registry" 1048576 false = .ok (registry_content platform registry) := by
    have hmin := two_le_size_registry_content platform registry
    unfold verified_direct_file
    dsimp only
    rw [if_neg (by simp), if_neg (by decide), if_neg (by simp), if_neg (by omega)]
  have htext : String.fromUTF8? (registry_content platform registry) = some _ := bytes.fromUTF8_toUTF8 _
  have hbuilds : (reader platform).Builds := fun _ hnodup => unique_object_of_nodup hnodup
  have hloads := loads_dumps true hbuilds (distinct_registry_document registry)
    (by rw [floats_in_registry_document]; exact fun _ hq => (by cases hq)) (dumps_registry_document platform registry)
    (by decide : ∀ c ∈ ['\n'], is_space c = true)
  have hdocument : loads_unique platform
      (String.ofList (encode platform.floats true (.object (registry_document registry))) ++ String.ofList ['\n']) =
      .ok (sort_keys (sorted_entries (registry_document registry))) := by
    unfold loads_unique
    rw [hloads]
    rfl
  unfold load_owner_module_trust_registry absolute_path
  rw [if_pos rfl, hkey]
  dsimp only [bind, Except.bind]
  rw [hcontent]
  dsimp only
  rw [htext]
  dsimp only
  rw [hdocument]
  dsimp only
  rw [parse_registry_document hcreated hentries]
  cases registry.entries.mapM parse_fields with
  | error error => rfl
  | ok parsed =>
    dsimp only [bind, Except.bind]
    cases validate_entries parsed with
    | error error => rfl
    | ok entries => rfl

/-- Parsing keeps the package ids. -/
theorem ids_of_parsed {entries parsed : List OwnerTrustedModuleEntry}
    (hall : List.Forall₂ (fun entry result => parse_fields entry = .ok result) entries parsed) :
    parsed.map package_id = entries.map package_id := by
  induction hall with
  | nil => rfl
  | cons hparsed _ ih => exact congrArg₂ List.cons (parse_fields_eq_ok hparsed).2.1 ih

section

variable (hcreated : Created platform key registry)

include hcreated

theorem Created.sort_entries_eq {parsed : List OwnerTrustedModuleEntry}
    (hids : parsed.map package_id =
      registry.entries.map package_id) : sort_entries parsed = parsed := by
  obtain ⟨entries, hentries⟩ := hcreated.in_order
  rw [hentries] at hids
  exact sort_entries_of_ids hids

/-- A created registry reads back as itself if and only if every one of its entries is canonical. -/
theorem load_created_iff (hentries : registry.entries.length ≤ 4096)
    (hsize : (registry_content platform registry).size ≤ 1048576)
    (hkey : load_owner_module_trust_key key_path = .ok key) :
    load_owner_module_trust_registry platform ⟨true, .ok ⟨true, 0o600, registry_content platform registry⟩⟩ key_path =
      .ok registry ↔ ∀ entry ∈ registry.entries, Canonical entry := by
  rw [load_registry_content hcreated hentries hsize hkey]
  constructor
  · intro hload
    obtain ⟨parsed, hparsed, hload⟩ := bind_eq_ok.mp hload
    obtain ⟨entries, hvalidated, hload⟩ := bind_eq_ok.mp hload
    obtain ⟨expected, _, hload⟩ := bind_eq_ok.mp hload
    split at hload
    · cases hload
    have hall := mapM_eq_ok.mp hparsed
    have hids := ids_of_parsed hall
    have hsame : entries = registry.entries := congrArg OwnerModuleTrustRegistry.entries (Except.ok.inj hload)
    rw [(validate_entries_eq_ok.mp hvalidated).2.2, hcreated.sort_entries_eq hids] at hsame
    rw [hsame, List.forall₂_same] at hall
    exact fun entry hentry => (parse_fields_iff_canonical (hcreated.valid entry hentry)).mp (hall entry hentry)
  · intro hcanonical
    have hparsed : registry.entries.mapM parse_fields = .ok registry.entries := mapM_eq_ok.mpr (List.forall₂_same.mpr
      (fun entry hentry => (parse_fields_iff_canonical (hcreated.valid entry hentry)).mpr (hcanonical entry hentry)))
    have hvalidated : validate_entries registry.entries = .ok registry.entries :=
      validate_entries_eq_ok.mpr ⟨hcreated.distinct, hcreated.valid, (hcreated.sort_entries_eq rfl).symm⟩
    refine bind_eq_ok.mpr ⟨_, hparsed, bind_eq_ok.mpr ⟨_, hvalidated, bind_eq_ok.mpr ⟨_, hcreated.signed, ?_⟩⟩⟩
    exact if_neg (not_not.mpr rfl)

/-- A created registry whose entries parse to others does not verify, unless both have one signature. -/
theorem load_eq_error (hentries : registry.entries.length ≤ 4096)
    (hsize : (registry_content platform registry).size ≤ 1048576)
    (hkey : load_owner_module_trust_key key_path = .ok key) {parsed entries : List OwnerTrustedModuleEntry}
    {expected : String} (hparsed : registry.entries.mapM parse_fields = .ok parsed)
    (hvalidated : validate_entries parsed = .ok entries)
    (hsigned : sign_owner_module_trust_payload platform (registry_payload { registry with entries }) key = .ok expected)
    (hother : expected ≠ registry.hmac_sha256) :
    load_owner_module_trust_registry platform ⟨true, .ok ⟨true, 0o600, registry_content platform registry⟩⟩ key_path =
      .error (registry_error "owner module trust registry HMAC does not verify") := by
  rw [load_registry_content hcreated hentries hsize hkey, hparsed]
  dsimp only [bind, Except.bind]
  rw [hvalidated]
  dsimp only
  rw [hsigned]
  exact if_pos hother

end

/-- A registry that loads is signed over the entries that are returned. -/
theorem signed_of_load {registry_path key_path : Location}
    (hload : load_owner_module_trust_registry platform registry_path key_path = .ok registry) :
    ∃ key, load_owner_module_trust_key key_path = .ok key ∧
      sign_owner_module_trust_payload platform (registry_payload registry) key = .ok registry.hmac_sha256 := by
  obtain ⟨file, _, hload⟩ := bind_eq_ok.mp hload
  obtain ⟨key, hkey, hload⟩ := bind_eq_ok.mp hload
  obtain ⟨content, _, hload⟩ := bind_eq_ok.mp hload
  split at hload
  · cases hload
  obtain ⟨document, _, hload⟩ := bind_eq_ok.mp hload
  obtain ⟨loaded, _, hload⟩ := bind_eq_ok.mp hload
  obtain ⟨expected, hexpected, hload⟩ := bind_eq_ok.mp hload
  split at hload
  · cases hload
  rename_i hsame
  cases hload
  exact ⟨key, hkey, not_not.mp hsame ▸ hexpected⟩

end registries

/-- A registry reads back from the file that it is written to if and only if its entries are canonical, and every
registry that loads is signed over the entries that it has. -/
theorem trust_registry_round_trip (platform : Platform) :
    (∀ {key : ByteArray} {registry : OwnerModuleTrustRegistry}, Issued platform key registry →
      registry.entries.length ≤ 4096 → ∀ {target : Target}, target.absolute = true →
      target.parent_is_directory = true → ∀ {key_path : Location}, load_owner_module_trust_key key_path = .ok key →
      write_owner_module_trust_registry platform target registry =
          .ok ⟨true, .ok ⟨true, 0o600, registry_content platform registry⟩⟩ ∧
        ((registry_content platform registry).size ≤ 1048576 →
          (load_owner_module_trust_registry platform ⟨true, .ok ⟨true, 0o600, registry_content platform registry⟩⟩
              key_path = .ok registry ↔ ∀ entry ∈ registry.entries, Canonical entry))) ∧
    ∀ {registry_path key_path : Location} {registry : OwnerModuleTrustRegistry},
      load_owner_module_trust_registry platform registry_path key_path = .ok registry →
      ∃ key, load_owner_module_trust_key key_path = .ok key ∧
        sign_owner_module_trust_payload platform (registry_payload registry) key = .ok registry.hmac_sha256 := by
  constructor
  · intro key registry hissued hentries target habsolute hparent key_path hkey
    refine ⟨write_eq_ok platform registry habsolute hparent, fun hsize => ?_⟩
    exact load_created_iff hissued.is_created hentries hsize hkey
  · intro registry_path key_path registry hload
    exact signed_of_load hload

def owner_key : ByteArray := ⟨(Array.range 32).map UInt8.ofNat⟩

def owner_key_file : Location := ⟨true, .ok ⟨true, 0o600, owner_key⟩⟩

def lights_entry (relative_path : String) : OwnerTrustedModuleEntry where
  package_id := "lights"
  package_version := "1.0.0"
  storage_id := "usb"
  relative_path
  manifest_digest := "00000000000000000000000000000000ffffffffffffffffffffffffffffffff"
  approved_at := "2024-05-01"
  enabled := true

/-- The registry that is created for one entry. -/
def lights_registry (relative_path : String) (digest : Vector UInt8 32) : OwnerModuleTrustRegistry where
  owner_key_id := "owner"
  generation := 1
  created_at := "2024-05-01"
  entries := [lights_entry relative_path]
  hmac_sha256 := String.ofList (bytes.hex digest.toList)

def doubled_digest : Vector UInt8 32 :=
  #v[250, 176, 208, 61, 76, 1, 18, 208, 138, 78, 171, 224, 182, 149, 234, 114, 73, 164, 95, 191, 228, 135, 115, 34, 103,
    3, 14, 229, 194, 105, 34, 195]

def plain_digest : Vector UInt8 32 :=
  #v[67, 101, 234, 167, 229, 150, 124, 107, 89, 170, 77, 167, 5, 109, 130, 99, 234, 211, 51, 78, 61, 119, 131, 235, 36,
    208, 244, 245, 23, 93, 138, 153]

/-- No float occurs in a registry. -/
def no_floats : FloatText := ⟨fun _ => "0.0".toList, fun _ => .finite 0⟩

/-- The signed bytes of a registry. -/
def signed_body (registry : OwnerModuleTrustRegistry) : ByteArray :=
  (String.ofList (encode no_floats true (.object (registry_payload registry)))).toUTF8

local instance bytes_decidable : DecidableEq ByteArray := ByteArray.instDecidableEq

/-- HMAC-SHA256 on the bytes of the two registries. -/
def lights_hmac (key body : ByteArray) : Vector UInt8 32 :=
  if key = owner_key ∧ body = signed_body (lights_registry "modules//lights" doubled_digest) then doubled_digest
  else if key = owner_key ∧ body = signed_body (lights_registry "modules/lights" plain_digest) then plain_digest
  else .replicate 32 0

def owner_platform : Platform where
  floats := no_floats
  hmac_sha256 := lights_hmac
  names_text := fun names => ", ".intercalate names
  decode_error := fun _ => ""

variable {digest : Vector UInt8 32}

theorem sign_lights {registry : OwnerModuleTrustRegistry}
    (hdigest : lights_hmac owner_key (signed_body registry) = digest)
    (hfinite : (floats_in (.object (registry_payload registry))).all is_finite = true) :
    sign_owner_module_trust_payload owner_platform (registry_payload registry) owner_key =
      .ok (String.ofList (bytes.hex digest.toList)) := by
  have hbody : canonical_json_bytes owner_platform (.object (registry_payload registry)) = .ok (signed_body registry) := by
    unfold canonical_json_bytes
    rw [(dumps_eq_some_iff _ _).mpr ⟨hfinite, rfl⟩]
    rfl
  unfold sign_owner_module_trust_payload
  rw [if_neg (by with_unfolding_all decide), hbody, ← hdigest]
  rfl

theorem sign_doubled : sign_owner_module_trust_payload owner_platform
    (registry_payload (lights_registry "modules//lights" doubled_digest)) owner_key =
      .ok (String.ofList (bytes.hex doubled_digest.toList)) :=
  sign_lights (if_pos ⟨rfl, rfl⟩) rfl

theorem sign_plain : sign_owner_module_trust_payload owner_platform
    (registry_payload (lights_registry "modules/lights" plain_digest)) owner_key =
      .ok (String.ofList (bytes.hex plain_digest.toList)) := by
  have hother : signed_body (lights_registry "modules/lights" plain_digest) ≠
      signed_body (lights_registry "modules//lights" doubled_digest) := by
    intro hsame
    have hlength := congrArg List.length (String.ofList_injective (String.toByteArray_inj.mp hsame))
    exact absurd hlength (by decide +kernel)
  exact sign_lights ((if_neg (fun hsame => hother hsame.2)).trans (if_pos ⟨rfl, rfl⟩)) rfl

theorem lights_issued {relative_path : String}
    (hfields : validate_entries [lights_entry relative_path] = .ok [lights_entry relative_path])
    (hsigned : sign_owner_module_trust_payload owner_platform
      (registry_payload (lights_registry relative_path digest)) owner_key =
        .ok (String.ofList (bytes.hex digest.toList))) :
    Issued owner_platform owner_key (lights_registry relative_path digest) := by
  have howner : validated_id "owner_key_id" (some (.text "owner")) = .ok "owner" := by decide
  have htime : validated_text "created_at" 96 (some (.text "2024-05-01")) = .ok "2024-05-01" := by decide
  have hgeneration : bounded_integer "generation" 1 2147483647 (some (.int 1)) = .ok 1 := by decide
  have hcreate : create_owner_module_trust_registry owner_platform "owner" 1 "2024-05-01" [lights_entry relative_path]
      owner_key = .ok (lights_registry relative_path digest) := by
    unfold create_owner_module_trust_registry
    rw [howner, htime, hfields, hgeneration]
    exact bind_eq_ok.mpr ⟨_, rfl, bind_eq_ok.mpr ⟨_, rfl, bind_eq_ok.mpr ⟨_, rfl, bind_eq_ok.mpr ⟨_, rfl,
      bind_eq_ok.mpr ⟨_, hsigned, rfl⟩⟩⟩⟩⟩
  exact .created hcreate

/-- A path with a doubled slash is signed as it is given and checked as it is parsed: the file does not load. -/
theorem lights_not_read_back :
    Issued owner_platform owner_key (lights_registry "modules//lights" doubled_digest) ∧
    write_owner_module_trust_registry owner_platform ⟨true, true⟩ (lights_registry "modules//lights" doubled_digest) =
      .ok ⟨true, .ok ⟨true, 0o600,
        registry_content owner_platform (lights_registry "modules//lights" doubled_digest)⟩⟩ ∧
    (registry_content owner_platform (lights_registry "modules//lights" doubled_digest)).size ≤ 1048576 ∧
    load_owner_module_trust_registry owner_platform ⟨true, .ok ⟨true, 0o600,
        registry_content owner_platform (lights_registry "modules//lights" doubled_digest)⟩⟩ owner_key_file =
      .error (registry_error "owner module trust registry HMAC does not verify") := by
  have hissued := lights_issued (by decide) sign_doubled
  have hsize : (registry_content owner_platform (lights_registry "modules//lights" doubled_digest)).size ≤ 1048576 := by
    rw [size_registry_content]
    decide +kernel
  refine ⟨hissued, write_eq_ok _ _ rfl rfl, hsize, ?_⟩
  have hkey : load_owner_module_trust_key owner_key_file = .ok owner_key := by with_unfolding_all decide
  have hparsed : [lights_entry "modules//lights"].mapM parse_fields = .ok [lights_entry "modules/lights"] := by
    decide
  have hvalidated : validate_entries [lights_entry "modules/lights"] = .ok [lights_entry "modules/lights"] := by
    decide
  have hother : String.ofList (bytes.hex plain_digest.toList) ≠ String.ofList (bytes.hex doubled_digest.toList) := by
    decide
  exact load_eq_error hissued.is_created (by decide) hsize hkey hparsed hvalidated sign_plain hother

/-- The same registry with one slash reads back. -/
theorem trust_registry_round_trip_lights :
    load_owner_module_trust_registry owner_platform ⟨true, .ok ⟨true, 0o600,
        registry_content owner_platform (lights_registry "modules/lights" plain_digest)⟩⟩ owner_key_file =
      .ok (lights_registry "modules/lights" plain_digest) := by
  have hkey : load_owner_module_trust_key owner_key_file = .ok owner_key := by with_unfolding_all decide
  have hsize : (registry_content owner_platform (lights_registry "modules/lights" plain_digest)).size ≤ 1048576 := by
    rw [size_registry_content]
    decide +kernel
  have htrip := (trust_registry_round_trip owner_platform).1 (lights_issued (by decide) sign_plain) (by decide)
    (show (⟨true, true⟩ : Target).absolute = true from rfl) rfl hkey
  refine (htrip.2 hsize).mpr ?_
  intro entry hentry
  rw [List.mem_singleton.mp hentry]
  exact ⟨by decide, by decide, by decide⟩

end velvet.module_trust_registry
