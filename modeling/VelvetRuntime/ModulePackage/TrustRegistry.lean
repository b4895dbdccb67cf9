import VelvetRuntime.Python.Bytes
import VelvetRuntime.ModulePackage.Manager

open python python.num python.json

namespace velvet.module_trust_registry

def OWNER_MODULE_TRUST_SCHEMA : String := "velvet.owner_module_trust.v1"

def ALLOWED_REGISTRY_FIELDS : List String :=
  ["schema", "owner_key_id", "generation", "created_at", "entries", "hmac_sha256"]

def ALLOWED_ENTRY_FIELDS : List String :=
  ["package_id", "package_version", "storage_id", "relative_path", "manifest_digest", "approved_at", "enabled"]

structure OwnerTrustedModuleEntry where
  package_id : String
  package_version : String
  storage_id : String
  relative_path : String
  manifest_digest : String
  approved_at : String
  enabled : Bool
  deriving DecidableEq

structure OwnerModuleTrustRegistry where
  owner_key_id : String
  generation : Int
  created_at : String
  entries : List OwnerTrustedModuleEntry
  hmac_sha256 : String
  deriving DecidableEq

/-- What the interpreter and its library provide: the text of floats, HMAC-SHA256, the text of a list of names, and
what the decoder says of a text that it refuses. -/
structure Platform where
  floats : FloatText
  hmac_sha256 : ByteArray → ByteArray → Vector UInt8 32
  names_text : List String → String
  decode_error : String → String

def registry_error (message : String) : Error := ⟨.ModuleTrustRegistryError, message⟩

section fields

/-- Text that matches a pattern, as it is. -/
def validated_match (fullmatch : String → Bool) (message : String) : Option Json → Except Error String
  | some (.text value) => if fullmatch value then .ok value else .error (registry_error message)
  | _ => .error (registry_error message)

/-- `_ID_PATTERN` is the pattern of the package contract. -/
def validated_id (label : String) : Option Json → Except Error String :=
  validated_match module_package.is_identifier (label ++ " must be a bounded lowercase identifier")

/-- `0|[1-9][0-9]*`. -/
def is_version_part (part : List Char) : Bool :=
  part ≠ [] && part.all Char.isDigit && (part.head? ≠ some '0' || part = ['0'])

/-- `_SEMVER_PATTERN.fullmatch(value)`. -/
def is_semver (value : String) : Bool :=
  match value.toList.splitOn '.' with
  | [major, minor, patch] => is_version_part major && is_version_part minor && is_version_part patch
  | _ => false

def validated_semver (label : String) : Option Json → Except Error String :=
  validated_match is_semver (label ++ " must be semantic version x.y.z")

/-- `_HEX64_PATTERN.fullmatch(value)`. -/
def is_hex64 (value : String) : Bool :=
  value.length = 64 && value.toList.all (fun c => c.isDigit || ('a' ≤ c && c ≤ 'f'))

def validated_digest : Option Json → Except Error String :=
  validated_match is_hex64 "manifest_digest must be lowercase SHA-256 hex"

/-- `PurePosixPath(value).parts` of a relative path. -/
def path_parts (value : String) : List (List Char) :=
  (value.toList.splitOn '/').filter (fun part => part ≠ [] && part ≠ ['.'])

local instance lawful_chars : LawfulBEq (List Char) := inferInstance

/-- The path as `PurePosixPath` writes it. -/
def validated_relative_path : Option Json → Except Error String
  | some (.text value) =>
    if value = "" then .error (registry_error "relative_path must be non-empty text")
    else if '\\' ∈ value.toList ∨ Char.ofNat 0 ∈ value.toList ∨ 512 < value.length then
      .error (registry_error "relative_path is invalid")
    else if value.toList.head? = some '/' ∨ path_parts value = [] then
      .error (registry_error "relative_path must be relative")
    else if ['.', '.'] ∈ path_parts value then .error (registry_error "relative_path contains unsafe segments")
    else .ok (String.ofList (List.intercalate ['/'] (path_parts value)))
  | _ => .error (registry_error "relative_path must be non-empty text")

def validated_text (label : String) (maximum : Nat) : Option Json → Except Error String
  | some (.text value) =>
    if Blank value ∨ maximum < value.length ∨ value.toList.any (fun c => c.toNat < 32 ∨ 126 < c.toNat) then
      .error (registry_error (label ++ " must be bounded printable ASCII text"))
    else .ok (stripped value)
  | _ => .error (registry_error (label ++ " must be bounded printable ASCII text"))

def bounded_integer (label : String) (minimum maximum : Int) : Option Json → Except Error Int
  | some (.int value) =>
    if minimum ≤ value ∧ value ≤ maximum then .ok value
    else .error (registry_error (label ++ " is outside supported bounds"))
  | _ => .error (registry_error (label ++ " is outside supported bounds"))

end fields

section documents

def entry_document (entry : OwnerTrustedModuleEntry) : List (String × Json) :=
  [("package_id", .text entry.package_id), ("package_version", .text entry.package_version),
    ("storage_id", .text entry.storage_id), ("relative_path", .text entry.relative_path),
    ("manifest_digest", .text entry.manifest_digest), ("approved_at", .text entry.approved_at),
    ("enabled", .bool entry.enabled)]

def registry_payload (registry : OwnerModuleTrustRegistry) : List (String × Json) :=
  [("schema", .text OWNER_MODULE_TRUST_SCHEMA), ("owner_key_id", .text registry.owner_key_id),
    ("generation", .int registry.generation), ("created_at", .text registry.created_at),
    ("entries", .list (registry.entries.map (fun entry => .object (entry_document entry))))]

def registry_document (registry : OwnerModuleTrustRegistry) : List (String × Json) :=
  registry_payload registry ++ [("hmac_sha256", .text registry.hmac_sha256)]

end documents

/-- `validated_*` of the fields of an entry, as `_validate_entries` calls them: the values are dropped. -/
def validate_fields (entry : OwnerTrustedModuleEntry) : Except Error Unit := do
  let _ ← validated_semver "package_version" (some (.text entry.package_version))
  let _ ← validated_id "storage_id" (some (.text entry.storage_id))
  let _ ← validated_relative_path (some (.text entry.relative_path))
  let _ ← validated_digest (some (.text entry.manifest_digest))
  let _ ← validated_text "approved_at" 96 (some (.text entry.approved_at))
  .ok ()

/-- The loop of `_validate_entries`, with the package ids seen. -/
def validate_loop : List String → List OwnerTrustedModuleEntry → Except Error Unit
  | _, [] => .ok ()
  | seen, entry :: rest => do
    if entry.package_id ∈ seen then
      .error (registry_error ("duplicate trusted package_id: " ++ entry.package_id))
    else do
      validate_fields entry
      validate_loop (entry.package_id :: seen) rest

/-- `sorted(entries, key=lambda item: item.package_id)`. -/
def sort_entries (entries : List OwnerTrustedModuleEntry) : List OwnerTrustedModuleEntry :=
  entries.insertionSort (fun left right => left.package_id ≤ right.package_id)

def validate_entries (entries : List OwnerTrustedModuleEntry) : Except Error (List OwnerTrustedModuleEntry) := do
  validate_loop [] entries
  .ok (sort_entries entries)

section platform

variable (platform : Platform)

def canonical_json_bytes (value : Json) : Except Error ByteArray :=
  match dumps platform.floats true value with
  | none => .error (registry_error
      "trust registry is not canonical JSON: Out of range float values are not JSON compliant")
  | some text => .ok text.toUTF8

def sign_owner_module_trust_payload (payload : List (String × Json)) (key : ByteArray) : Except Error String :=
  if key.size < 32 ∨ 4096 < key.size then .error (registry_error "owner module trust signing key is invalid")
  else do
    let body ← canonical_json_bytes platform (.object payload)
    .ok (String.ofList (bytes.hex (platform.hmac_sha256 key body).toList))

def create_owner_module_trust_registry (owner_key_id : String) (generation : Int) (created_at : String)
    (entries : List OwnerTrustedModuleEntry) (key : ByteArray) : Except Error OwnerModuleTrustRegistry := do
  let owner_key_id ← validated_id "owner_key_id" (some (.text owner_key_id))
  let generation ← bounded_integer "generation" 1 2147483647 (some (.int generation))
  let created_at ← validated_text "created_at" 96 (some (.text created_at))
  let entries ← validate_entries entries
  let unsigned : OwnerModuleTrustRegistry := { owner_key_id, generation, created_at, entries, hmac_sha256 := "" }
  let hmac_sha256 ← sign_owner_module_trust_payload platform (registry_payload unsigned) key
  .ok { unsigned with hmac_sha256 }

def upsert_owner_trusted_entry (registry : Option OwnerModuleTrustRegistry) (owner_key_id : String)
    (entry : OwnerTrustedModuleEntry) (key : ByteArray) (created_at : String) :
    Except Error OwnerModuleTrustRegistry :=
  match registry with
  | none => create_owner_module_trust_registry platform owner_key_id 1 created_at [entry] key
  | some registry =>
    if registry.owner_key_id ≠ owner_key_id then
      .error (registry_error "owner_key_id does not match existing registry")
    else
      let entries := registry.entries.filter (fun item => item.package_id ≠ entry.package_id) ++ [entry]
      create_owner_module_trust_registry platform registry.owner_key_id (registry.generation + 1) created_at
        (sort_entries entries) key

/-- A file as `lstat` and a read find it. -/
structure DirectFile where
  regular : Bool
  mode : Nat
  content : ByteArray

/-- A path, with what it leads to: a file, or the text of an `OSError`. -/
structure Location where
  absolute : Bool
  file : Except String DirectFile

/-- `_verified_direct_file`, and the bytes read after it. -/
def verified_direct_file (file : Except String DirectFile) (label : String) (max_bytes : Nat) (key_file : Bool) :
    Except Error ByteArray :=
  match file with
  | .error text => .error (registry_error (label ++ " is unavailable: " ++ text))
  | .ok file =>
    if !file.regular then .error (registry_error (label ++ " must be a regular non-symlink file"))
    else if file.mode &&& 0o022 ≠ 0 then .error (registry_error (label ++ " must not be group- or world-writable"))
    else if key_file ∧ file.mode &&& 0o077 ≠ 0 then
      .error (registry_error (label ++ " must use owner-only permissions"))
    else if file.content.size < 2 ∨ max_bytes < file.content.size then
      .error (registry_error (label ++ " size is outside supported bounds"))
    else .ok file.content

def absolute_path (path : Location) (label : String) : Except Error (Except String DirectFile) :=
  if path.absolute then .ok path.file else .error (registry_error (label ++ " must be absolute"))

def load_owner_module_trust_key (key_path : Location) : Except Error ByteArray := do
  let file ← absolute_path key_path "key_path"
  let key ← verified_direct_file file "owner module trust key" 4096 true
  if key.size < 32 ∨ 4096 < key.size then
    .error (registry_error "owner module trust key must contain 32 to 4096 bytes")
  else .ok key

/-- `json.loads(text, object_pairs_hook=_unique_object)`. -/
def reader : Reader where
  floats := platform.floats
  parse_constant := fun value => some (.float value)
  object_of_pairs := unique_object

def loads_unique (text : String) : Except Error (List (String × Json)) :=
  match loads (reader platform) text with
  | none => .error (registry_error
      ("owner module trust registry is not valid unique-key JSON: " ++ platform.decode_error text))
  | some (.object document) => .ok document
  | some _ => .error (registry_error "trust registry root must be an object")

/-- The names that a document has beside the allowed ones, and the allowed ones that it lacks. -/
def field_differences (document : List (String × Json)) (allowed : List String) : List String × List String :=
  let names := document.map Prod.fst
  ((names.filter (· ∉ allowed)).insertionSort (· ≤ ·), (allowed.filter (· ∉ names)).insertionSort (· ≤ ·))

def parse_entry (index : Nat) : Json → Except Error OwnerTrustedModuleEntry
  | .object value =>
    let (unknown, missing) := field_differences value ALLOWED_ENTRY_FIELDS
    if unknown ≠ [] ∨ missing ≠ [] then
      .error (registry_error ("trust entry " ++ toString index ++ " fields invalid; unknown=" ++
        platform.names_text unknown ++ " missing=" ++ platform.names_text missing))
    else
      match entry_of value "enabled" with
      | some (.bool enabled) => do
        let package_id ← validated_id "package_id" (entry_of value "package_id")
        let package_version ← validated_semver "package_version" (entry_of value "package_version")
        let storage_id ← validated_id "storage_id" (entry_of value "storage_id")
        let relative_path ← validated_relative_path (entry_of value "relative_path")
        let manifest_digest ← validated_digest (entry_of value "manifest_digest")
        let approved_at ← validated_text "approved_at" 96 (entry_of value "approved_at")
        .ok { package_id, package_version, storage_id, relative_path, manifest_digest, approved_at, enabled }
      | _ => .error (registry_error "trust entry enabled must be boolean")
  | _ => .error (registry_error ("trust entry " ++ toString index ++ " must be an object"))

/-- `_parse_entry` of the values of the list, from an index on. -/
def parse_entries : Nat → List Json → Except Error (List OwnerTrustedModuleEntry)
  | _, [] => .ok []
  | index, value :: rest => do
    let entry ← parse_entry platform index value
    let entries ← parse_entries (index + 1) rest
    .ok (entry :: entries)

def parse_registry (document : List (String × Json)) : Except Error OwnerModuleTrustRegistry :=
  let (unknown, missing) := field_differences document ALLOWED_REGISTRY_FIELDS
  if unknown ≠ [] ∨ missing ≠ [] then
    .error (registry_error ("trust registry fields invalid; unknown=" ++ platform.names_text unknown ++
      " missing=" ++ platform.names_text missing))
  else if !((entry_of document "schema").getD .null).is_text OWNER_MODULE_TRUST_SCHEMA then
    .error (registry_error "unsupported owner module trust schema")
  else
    match entry_of document "entries" with
    | some (.list raw_entries) =>
      if 4096 < raw_entries.length then .error (registry_error "trust registry entries must be a bounded list")
      else do
        let parsed ← parse_entries platform 0 raw_entries
        let entries ← validate_entries parsed
        match entry_of document "hmac_sha256" with
        | some (.text signature) =>
          if !is_hex64 signature then .error (registry_error "trust registry HMAC is invalid")
          else do
            let owner_key_id ← validated_id "owner_key_id" (entry_of document "owner_key_id")
            let generation ← bounded_integer "generation" 1 2147483647 (entry_of document "generation")
            let created_at ← validated_text "created_at" 96 (entry_of document "created_at")
            .ok { owner_key_id, generation, created_at, entries, hmac_sha256 := signature }
        | _ => .error (registry_error "trust registry HMAC is invalid")
    | _ => .error (registry_error "trust registry entries must be a bounded list")

def load_owner_module_trust_registry (registry_path key_path : Location) : Except Error OwnerModuleTrustRegistry := do
  let file ← absolute_path registry_path "registry_path"
  let key ← load_owner_module_trust_key key_path
  let content ← verified_direct_file file "owner module trust registry" 1048576 false
  match String.fromUTF8? content with
  | none => .error (registry_error "owner module trust registry is not UTF-8")
  | some text => do
    let document ← loads_unique platform text
    let registry ← parse_registry platform document
    let expected ← sign_owner_module_trust_payload platform (registry_payload registry) key
    if expected ≠ registry.hmac_sha256 then
      .error (registry_error "owner module trust registry HMAC does not verify")
    else .ok registry

/-- Where a registry is written: whether the path is absolute, and whether its parent is a directory. -/
structure Target where
  absolute : Bool
  parent_is_directory : Bool

/-- The file that `write_owner_module_trust_registry` leaves under its target. -/
def write_owner_module_trust_registry (target : Target) (registry : OwnerModuleTrustRegistry) :
    Except Error Location :=
  if !target.absolute then .error (registry_error "registry path must be absolute")
  else if !target.parent_is_directory then
    .error (registry_error "registry parent must be an existing non-symlink directory")
  else do
    let data ← canonical_json_bytes platform (.object (registry_document registry))
    .ok { absolute := true, file := .ok { regular := true, mode := 0o600, content := data ++ "\n".toUTF8 } }

end platform

namespace OwnerModuleTrustRegistry

def entry_for (self : OwnerModuleTrustRegistry) (package_id : String) : Except Error (Option OwnerTrustedModuleEntry) :=
  do
    let package ← validated_id "package_id" (some (.text package_id))
    .ok (self.entries.find? (fun entry => entry.package_id = package))

end OwnerModuleTrustRegistry

end velvet.module_trust_registry
