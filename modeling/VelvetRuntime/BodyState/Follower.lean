import VelvetRuntime.BodyState.Bridge
import VelvetRuntime.Python.Bytes
import VelvetRuntime.Framing
import VelvetRuntime.Transitions

open python python.num python.str python.json velvet.body_state_bridge

namespace velvet.body_health_journal_follower

/-- What reading a line takes from the interpreter: how the digits of a float are read, and the error of a limit that a text
runs into while it is read (the digits of an integer, the depth of the nesting). -/
structure Interpreter where
  floats : FloatText
  limit : String → Option Error

/-- `json.loads(text)`. -/
def Interpreter.reader (interpreter : Interpreter) : Reader where
  floats := interpreter.floats
  parse_constant constant := some (.float constant)
  object_of_pairs := dict_of_pairs

/-- What `publish` is called with. -/
structure Publication where
  event_type : String
  payload : List (String × Json)
  receipt_id : Option String

/-- `BodyHealthJournalFollower`, without the path of the journal. -/
structure BodyHealthJournalFollower where
  max_line_bytes : Nat
  offset : Nat
  initialized : Bool
  bounds : 1024 ≤ max_line_bytes ∧ max_line_bytes ≤ 1048576

/-- Whether `stat` and `open` succeed while the journal is polled. -/
structure PollCall where
  stat : Bool
  opened : Bool

/-- What a poll has done to the offset, what it has published, and the count that it returns. -/
structure Reading where
  offset : Nat
  published : List Publication
  answer : Except Error Nat

def newline : UInt8 := 10

/-- `handle.readline(size)`. -/
def readline (size : Nat) (rest : List UInt8) : List UInt8 := framing.readline (· == newline) size rest

/-- `_publish_health`. -/
def publish_health [StrLower] [StrUpper] (record : BodyRecord) : Publication where
  event_type :=
    match entry_of record.entries "event_type" with
    | some (.text event_type) => event_type
    | _ => ""
  payload := record.payload
  receipt_id :=
    match entry_of record.payload "receipt_id" with
    | some (.text receipt_id) => if Blank receipt_id then none else some (stripped receipt_id)
    | _ => none

section reading

variable [StrLower] [StrUpper] (interpreter : Interpreter)

/-- `_parse_health_record`. -/
def parse_health_record (raw : List UInt8) : Except Error (Option BodyRecord) :=
  match String.fromUTF8? raw.toByteArray with
  | none => .ok none
  | some decoded =>
    match interpreter.limit decoded with
    | some error => .error error
    | none =>
      match loads interpreter.reader decoded with
      | some (.object candidate) =>
        match validated (.object candidate) with
        | .error error => if is_skipped error then .ok none else .error error
        | .ok record => if record.family = .health then .ok (some record) else .ok none
      | _ => .ok none

/-- The loop of `poll`, from an offset at which the file still holds `rest`. Each pass but the last reads a byte at least. -/
def read_lines (max_line_bytes : Nat) : Nat → Nat → List UInt8 → Reading
  | 0, offset, _ => ⟨offset, [], .ok 0⟩
  | fuel + 1, offset, rest =>
    let raw := readline (max_line_bytes + 1) rest
    let told := offset + raw.length
    let following := rest.drop raw.length
    if raw = [] then ⟨offset, [], .ok 0⟩
    else if max_line_bytes < raw.length then read_lines max_line_bytes fuel told following
    else if raw.getLast?.any (· == newline) = false then ⟨offset, [], .ok 0⟩
    else
      match parse_health_record interpreter raw with
      | .error error => ⟨told, [], .error error⟩
      | .ok none => read_lines max_line_bytes fuel told following
      | .ok (some record) =>
        let later := read_lines max_line_bytes fuel told following
        ⟨later.offset, publish_health record :: later.published, later.answer.map (· + 1)⟩

namespace BodyHealthJournalFollower

theorem toNat_bounds {value : Int} (hbounds : 1024 ≤ value ∧ value ≤ 1048576) :
    1024 ≤ value.toNat ∧ value.toNat ≤ 1048576 := by omega

def new (max_line_bytes : Json) : Except Error BodyHealthJournalFollower :=
  match max_line_bytes with
  | .int value =>
    if hbounds : 1024 ≤ value ∧ value ≤ 1048576 then .ok ⟨value.toNat, 0, false, toNat_bounds hbounds⟩
    else .error ⟨.ValueError, "max_line_bytes must be between 1024 and 1048576"⟩
  | _ => .error ⟨.TypeError, "max_line_bytes must be an integer"⟩

/-- `prime`, with the size that `stat` tells; nothing when it fails. -/
def prime (follower : BodyHealthJournalFollower) (size : Option Nat) : BodyHealthJournalFollower :=
  { follower with offset := size.getD 0, initialized := true }

/-- `poll`, of a journal that holds some bytes. -/
def poll (follower : BodyHealthJournalFollower) (journal : List UInt8) (call : PollCall) :
    BodyHealthJournalFollower × List Publication × Except Error Nat :=
  let size := if call.stat then some journal.length else none
  if follower.initialized = false then (follower.prime size, [], .ok 0)
  else
    match size with
    | none => ({ follower with offset := 0 }, [], .ok 0)
    | some size =>
      let offset := if size < follower.offset then 0 else follower.offset
      if call.opened then
        let reading := read_lines interpreter follower.max_line_bytes (size + 1) offset (journal.drop offset)
        ({ follower with offset := reading.offset }, reading.published, reading.answer)
      else ({ follower with offset }, [], .ok 0)

end BodyHealthJournalFollower

/-- A health record is parsed from a line exactly when the line is a JSON object that passes the checks of a health record. -/
theorem parse_health_record_eq_some_iff {raw : List UInt8} {record : BodyRecord} :
    parse_health_record interpreter raw = .ok (some record) ↔
      ∃ decoded, String.fromUTF8? raw.toByteArray = some decoded ∧ interpreter.limit decoded = none ∧
        loads interpreter.reader decoded = some record.document ∧ record.family = .health := by
  unfold parse_health_record
  constructor
  · intro hparsed
    split at hparsed
    case h_1 => cases hparsed
    case h_2 decoded hdecoded =>
      split at hparsed
      case h_1 => cases hparsed
      case h_2 hlimit =>
        split at hparsed
        case h_2 => cases hparsed
        case h_1 candidate hloads =>
          split at hparsed
          case h_1 => split at hparsed <;> cases hparsed
          case h_2 found hvalidated =>
            split at hparsed
            case isFalse => cases hparsed
            case isTrue hfamily =>
              cases hparsed
              exact ⟨decoded, hdecoded, hlimit, by rw [hloads, validated_eq_ok_iff.mp hvalidated], hfamily⟩
  · rintro ⟨decoded, hdecoded, hlimit, hloads, hfamily⟩
    rw [hdecoded]
    dsimp only
    rw [hlimit, hloads, record.document_eq]
    dsimp only
    rw [← record.document_eq, validated_document]
    dsimp only
    rw [if_pos hfamily]

end reading

end velvet.body_health_journal_follower
