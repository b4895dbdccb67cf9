import VelvetRuntime.Error
import VelvetRuntime.Framing
import VelvetRuntime.Polling
import VelvetRuntime.Python.Bytes

open framing polling python python.except
open python.json (hex_value)

namespace velvet.rdm6300_reader

def FRAME_LENGTH : Nat := 14
def STX : UInt8 := 0x02
def ETX : UInt8 := 0x03

/-- The most that one `os.read` returns. -/
def READ_BYTES : Nat := 256

/-- `string.hexdigits`. -/
def HEX : List Char := "0123456789abcdefABCDEF".toList

structure Rdm6300Frame where
  data_hex : String
  version_hex : String
  tag_hex : String
  checksum_hex : String
  deriving DecidableEq

def rdm6300_error (message : String) : Error := ⟨.Rdm6300Error, message⟩

def tail_invalid : Error := rdm6300_error "contactless reader frame tail is invalid"
def buffer_bound : Error := rdm6300_error "contactless reader input exceeded the buffer bound"

/-- The errors of `parse_rdm6300_frame`. -/
def parse_errors : List Error :=
  ["RDM6300 frame must be exactly 14 bytes", "RDM6300 frame markers are invalid", "RDM6300 frame is not ASCII",
    "RDM6300 data must contain ten hexadecimal characters", "RDM6300 checksum must contain two hexadecimal characters",
    "RDM6300 checksum mismatch"].map rdm6300_error

/-- `data.decode("ascii").upper()`; nothing when it raises. -/
def ascii_upper (data : List UInt8) : Option (List Char) :=
  if data.all (· < 128) then some (data.map fun byte => (Char.ofNat byte.toNat).toUpper) else none

/-- `int(text, 16)` of hexadecimal digits. -/
def int_of_hex (digits : List Char) : Nat := digits.foldl (fun value c => 16 * value + (hex_value c).getD 0) 0

def parse_rdm6300_frame (frame : List UInt8) : Except Error Rdm6300Frame :=
  if frame.length ≠ FRAME_LENGTH then .error (rdm6300_error "RDM6300 frame must be exactly 14 bytes")
  else if frame.head? ≠ some STX ∨ frame.getLast? ≠ some ETX then
    .error (rdm6300_error "RDM6300 frame markers are invalid")
  else
    match ascii_upper (frame.extract 1 11), ascii_upper (frame.extract 11 13) with
    | some data_hex, some checksum_hex =>
      if data_hex.length ≠ 10 ∨ data_hex.any (· ∉ HEX) then
        .error (rdm6300_error "RDM6300 data must contain ten hexadecimal characters")
      else if checksum_hex.length ≠ 2 ∨ checksum_hex.any (· ∉ HEX) then
        .error (rdm6300_error "RDM6300 checksum must contain two hexadecimal characters")
      else
        let data_bytes := (bytes.fromhex data_hex).getD []
        let calculated := data_bytes.foldl (· ^^^ ·) 0
        if calculated.toNat ≠ int_of_hex checksum_hex then .error (rdm6300_error "RDM6300 checksum mismatch")
        else .ok
          { data_hex := String.ofList data_hex
            version_hex := String.ofList (data_hex.take 2)
            tag_hex := String.ofList (data_hex.drop 2)
            checksum_hex := String.ofList checksum_hex }
    | _, _ => .error (rdm6300_error "RDM6300 frame is not ASCII")

/-- The reader's bound. The proof is the check of `__init__`. -/
structure ReadOnlyRdm6300Serial where
  max_buffer_bytes : Nat
  buffer_bounds : 64 ≤ max_buffer_bytes ∧ max_buffer_bytes ≤ 1024 * 1024

abbrev Reply := Except Error (Option Rdm6300Frame)

/-- `_extract_candidate`, with the buffer that it leaves. -/
def extract_candidate (buffer : List UInt8) : Except Error (Option (List UInt8)) × List UInt8 :=
  let buffer := buffer.dropWhile (· ≠ STX)
  if buffer.length < FRAME_LENGTH then (.ok none, buffer)
  else if (buffer.take FRAME_LENGTH).getLast? ≠ some ETX then (.error tail_invalid, buffer.drop FRAME_LENGTH)
  else (.ok (some (buffer.take FRAME_LENGTH)), buffer.drop FRAME_LENGTH)

namespace ReadOnlyRdm6300Serial

variable (self : ReadOnlyRdm6300Serial)

/-- `read_frame` with the bytes buffered before it, what it returns or raises, and the buffer and the polls after it. -/
def read_frame (buffer : List UInt8) (polls : List (Poll UInt8 READ_BYTES)) :
    Reply × List UInt8 × List (Poll UInt8 READ_BYTES) :=
  match extract_candidate buffer with
  | (.error error, buffer) => (.error error, buffer, polls)
  | (.ok (some candidate), buffer) => ((parse_rdm6300_frame candidate).map some, buffer, polls)
  | (.ok none, buffer) =>
    match polls with
    | [] => (.ok none, buffer, [])
    | .nothing :: rest => (.ok none, buffer, rest)
    | .blocked :: rest => read_frame buffer rest
    | .select_failed reason :: rest =>
      (.error (rdm6300_error ("contactless reader select failed: " ++ reason)), buffer, rest)
    | .read_failed reason :: rest =>
      (.error (rdm6300_error ("contactless reader read failed: " ++ reason)), buffer, rest)
    | .arrived chunk :: rest =>
      if self.max_buffer_bytes < (buffer ++ chunk.bytes).length then (.error buffer_bound, [], rest)
      else read_frame (buffer ++ chunk.bytes) rest

end ReadOnlyRdm6300Serial

/-- A frame or an error about the bytes, and not a timeout or a fault of the device. -/
def Reply.counts : Reply → Bool
  | .ok frame => frame.isSome
  | .error error => error ∈ buffer_bound :: tail_invalid :: parse_errors

/-- The frames and the errors of successive calls, as many as there are polls and bytes. -/
def ReadOnlyRdm6300Serial.results (self : ReadOnlyRdm6300Serial) (polls : List (Poll UInt8 READ_BYTES)) : List Reply :=
  (calls self.read_frame (polls.length + (delivered polls).length) [] polls).filter Reply.counts

/-- Where the reader cuts a stream: after each byte that no start byte precedes, and after the bytes of a frame from a
start byte on. -/
def closes (piece : List UInt8) (byte : UInt8) : Bool :=
  if piece.isEmpty then byte ≠ STX else piece.length + 1 = FRAME_LENGTH

/-- What the reader returns or raises for the bytes of a frame. -/
def outcome (window : List UInt8) : Except Error Rdm6300Frame :=
  if window.getLast? ≠ some ETX then .error tail_invalid else parse_rdm6300_frame window

/-- What it returns or raises for what a cut closes; of the bytes before a start byte nothing is left. -/
def outcomes (pieces : List (List UInt8)) : List Reply :=
  (pieces.filter (·.length = FRAME_LENGTH)).map fun window => (outcome window).map some

/-- The frames and the errors that come with a stream after the bytes of a buffer. -/
def to_come (buffer : List UInt8) (chunks : List (List UInt8)) : List Reply :=
  outcomes (cut closes [] (buffer ++ chunks.flatten)).1

section

variable {buffer piece body stream window : List UInt8} {byte : UInt8}

theorem cut_noise (hbyte : byte ≠ STX) (stream : List UInt8) :
    cut closes [] (byte :: stream) = ([byte] :: (cut closes [] stream).1, (cut closes [] stream).2) :=
  cut_cons_of_closes (by simpa [closes] using hbyte)

/-- Bytes that end the window of an open piece. -/
theorem cut_rest_of_window (hpiece : piece ≠ []) (hbody : body ≠ []) (hlength : piece.length + body.length = FRAME_LENGTH)
    (stream : List UInt8) :
    cut closes piece (body ++ stream) = ((piece ++ body) :: (cut closes [] stream).1, (cut closes [] stream).2) := by
  induction body generalizing piece with
  | nil => exact absurd rfl hbody
  | cons byte rest ih =>
    have hempty : piece.isEmpty = false := by simpa using hpiece
    rw [List.length_cons] at hlength
    cases rest with
    | nil =>
      exact cut_cons_of_closes (by rw [closes, hempty]; simpa using hlength)
    | cons next later =>
      rw [List.length_cons] at hlength
      have hopen : closes piece byte = false := by
        rw [closes, hempty]
        simp only [Bool.false_eq_true, if_false, decide_eq_false_iff_not]
        omega
      rw [List.cons_append, cut_cons_of_not_closes hopen, ih (by simp) (List.cons_ne_nil _ _)
        (by simp only [List.length_append, List.length_cons, List.length_nil]; omega)]
      simp

/-- Bytes that leave the window of an open piece open. -/
theorem cut_open_window (hpiece : piece ≠ []) (hlength : piece.length + body.length < FRAME_LENGTH) :
    cut closes piece body = ([], piece ++ body) := by
  induction body generalizing piece with
  | nil => rw [cut_nil, List.append_nil]
  | cons byte rest ih =>
    have hempty : piece.isEmpty = false := by simpa using hpiece
    rw [List.length_cons] at hlength
    have hopen : closes piece byte = false := by
      rw [closes, hempty]
      simp only [Bool.false_eq_true, if_false, decide_eq_false_iff_not]
      omega
    rw [cut_cons_of_not_closes hopen, ih (by simp) (by simp only [List.length_append, List.length_cons, List.length_nil]; omega)]
    simp

/-- A window is cut off whole. -/
theorem cut_window (hstart : window.head? = some STX) (hlength : window.length = FRAME_LENGTH) (stream : List UInt8) :
    cut closes [] (window ++ stream) = (window :: (cut closes [] stream).1, (cut closes [] stream).2) := by
  obtain ⟨body, rfl⟩ : ∃ body, window = STX :: body := by
    cases window with
    | nil => cases hstart
    | cons first body =>
      cases hstart
      exact ⟨body, rfl⟩
  rw [List.length_cons] at hlength
  have hbody : body ≠ [] := fun hnil => by rw [hnil] at hlength; exact absurd hlength (by decide)
  rw [List.cons_append, cut_cons_of_not_closes rfl, cut_rest_of_window (by simp) hbody (by simpa [Nat.add_comm] using hlength)]
  rfl

/-- Noise brings nothing. -/
theorem to_come_dropWhile (buffer : List UInt8) (chunks : List (List UInt8)) :
    to_come (buffer.dropWhile (· ≠ STX)) chunks = to_come buffer chunks := by
  induction buffer with
  | nil => rfl
  | cons byte rest ih =>
    by_cases hstart : byte = STX
    · rw [List.dropWhile_cons_of_neg (by simpa using hstart)]
    · rw [List.dropWhile_cons_of_pos (by simpa using hstart), ih]
      unfold to_come
      rw [List.cons_append, cut_noise hstart]
      rfl

theorem parse_raises (frame : List UInt8) : RaisesOnly (· ∈ parse_errors) (parse_rdm6300_frame frame) := by
  have hlisted : ∀ message, rdm6300_error message ∈ parse_errors →
      RaisesOnly (· ∈ parse_errors) (.error (rdm6300_error message) : Except Error Rdm6300Frame) :=
    fun message hmessage => raises_only_error.mpr hmessage
  unfold parse_rdm6300_frame
  rw [raises_only_ite, raises_only_ite]
  refine ⟨fun _ => hlisted _ (by decide), fun _ => ⟨fun _ => hlisted _ (by decide), fun _ => ?_⟩⟩
  split
  · rw [raises_only_ite, raises_only_ite]
    refine ⟨fun _ => hlisted _ (by decide), fun _ => ⟨fun _ => hlisted _ (by decide), fun _ => ?_⟩⟩
    dsimp only
    rw [raises_only_ite]
    exact ⟨fun _ => hlisted _ (by decide), fun _ => raises_only_ok _⟩
  · exact hlisted _ (by decide)

theorem outcome_raises (window : List UInt8) : RaisesOnly (· ∈ tail_invalid :: parse_errors) (outcome window) := by
  unfold outcome
  rw [raises_only_ite]
  refine ⟨fun _ => raises_only_error.mpr List.mem_cons_self, fun _ error herror => ?_⟩
  exact List.mem_cons_of_mem _ (parse_raises window error herror)

/-- A window answers with a frame or an error about it. -/
theorem counts_outcome (window : List UInt8) : Reply.counts ((outcome window).map some) = true := by
  have hraises := outcome_raises window
  cases houtcome : outcome window with
  | ok frame => rfl
  | error error => exact decide_eq_true (List.mem_cons_of_mem _ (hraises error houtcome))

theorem not_counts_fault {text reason : String}
    (htext : ∀ error ∈ buffer_bound :: tail_invalid :: parse_errors, ¬text.toList <+: error.message.toList) :
    Reply.counts (.error (rdm6300_error (text ++ reason))) = false := by
  rw [Reply.counts, decide_eq_false_iff_not]
  intro hlisted
  refine htext _ hlisted ⟨reason.toList, ?_⟩
  rw [rdm6300_error, String.toList_append]

namespace ReadOnlyRdm6300Serial

variable (self : ReadOnlyRdm6300Serial)

/-- A call that finds a window in the buffer takes it. -/
theorem read_frame_window (hfull : FRAME_LENGTH ≤ (buffer.dropWhile (· ≠ STX)).length)
    (polls : List (Poll UInt8 READ_BYTES)) :
    self.read_frame buffer polls =
      ((outcome ((buffer.dropWhile (· ≠ STX)).take FRAME_LENGTH)).map some,
        (buffer.dropWhile (· ≠ STX)).drop FRAME_LENGTH, polls) := by
  unfold read_frame extract_candidate outcome
  dsimp only
  rw [if_neg (Nat.not_lt.mpr hfull)]
  by_cases htail : ((buffer.dropWhile (· ≠ STX)).take FRAME_LENGTH).getLast? ≠ some ETX
  · rw [if_pos htail, if_pos htail]
    rfl
  · rw [if_neg htail, if_neg htail]

/-- A call that finds no window waits with what it has of one. -/
theorem extract_none (hshort : (buffer.dropWhile (· ≠ STX)).length < FRAME_LENGTH) :
    extract_candidate buffer = (.ok none, buffer.dropWhile (· ≠ STX)) := if_pos hshort

/-- What is kept of a buffer starts a window. -/
theorem head_of_dropWhile (hkept : buffer.dropWhile (· ≠ STX) ≠ []) :
    (buffer.dropWhile (· ≠ STX)).head? = some STX := by
  have hstart := List.head_dropWhile_not (fun byte => decide (byte ≠ STX)) hkept
  rw [List.head?_eq_some_head hkept]
  simpa using hstart

/-- A window that the buffer holds comes next. -/
theorem to_come_window (hfull : FRAME_LENGTH ≤ (buffer.dropWhile (· ≠ STX)).length) (chunks : List (List UInt8)) :
    to_come buffer chunks = (outcome ((buffer.dropWhile (· ≠ STX)).take FRAME_LENGTH)).map some ::
      to_come ((buffer.dropWhile (· ≠ STX)).drop FRAME_LENGTH) chunks := by
  rw [← to_come_dropWhile]
  have hkept : buffer.dropWhile (· ≠ STX) ≠ [] := fun hnil => by rw [hnil] at hfull; exact absurd hfull (by decide)
  have hstart := head_of_dropWhile hkept
  generalize buffer.dropWhile (· ≠ STX) = kept at hfull hkept hstart
  have hlength : (kept.take FRAME_LENGTH).length = FRAME_LENGTH := List.length_take_of_le hfull
  have hhead : (kept.take FRAME_LENGTH).head? = some STX := by
    rw [List.head?_take, if_neg (by decide), hstart]
  unfold to_come outcomes
  conv_lhs => rw [← List.take_append_drop FRAME_LENGTH kept, List.append_assoc, cut_window hhead hlength,
    List.filter_cons_of_pos (by simpa using hlength), List.map_cons]

/-- A buffer with no window has nothing to come of its own. -/
theorem to_come_short (hshort : (buffer.dropWhile (· ≠ STX)).length < FRAME_LENGTH) : to_come buffer [] = [] := by
  rw [← to_come_dropWhile]
  by_cases hkept : buffer.dropWhile (· ≠ STX) = []
  · rw [hkept]
    rfl
  · have hstart := head_of_dropWhile hkept
    generalize buffer.dropWhile (· ≠ STX) = kept at hshort hkept hstart
    obtain ⟨body, rfl⟩ : ∃ body, kept = STX :: body := by
      cases kept with
      | nil => cases hstart
      | cons first body =>
        cases hstart
        exact ⟨body, rfl⟩
    rw [List.length_cons] at hshort
    rw [to_come, List.flatten_nil, List.append_nil, cut_cons_of_not_closes rfl,
      cut_open_window (by simp) (by simpa [Nat.add_comm] using hshort)]
    rfl

/-- A buffer that holds a window is answered at once. -/
theorem reads_window (hfull : FRAME_LENGTH ≤ (buffer.dropWhile (· ≠ STX)).length)
    (polls : List (Poll UInt8 READ_BYTES)) : Reads Reply.counts to_come buffer polls (self.read_frame buffer polls) := by
  have hkept : (buffer.dropWhile (· ≠ STX)).length ≤ buffer.length := (List.dropWhile_sublist _).length_le
  rw [self.read_frame_window hfull]
  refine ⟨?_, .inl ?_⟩
  · rw [List.filter_cons_of_pos (counts_outcome _), to_come_window hfull]
    rfl
  · have hframe : 0 < FRAME_LENGTH := by decide
    simp only [weight, List.length_drop]
    omega

/-- A reader whose buffer has room for a read and an incomplete frame drops nothing of it. -/
theorem read_frame_spec (hroom : FRAME_LENGTH - 1 + READ_BYTES ≤ self.max_buffer_bytes) (buffer : List UInt8)
    (polls : List (Poll UInt8 READ_BYTES)) :
    Reads Reply.counts to_come buffer polls (self.read_frame buffer polls) := by
  induction polls generalizing buffer with
  | nil =>
    rcases Nat.lt_or_ge (buffer.dropWhile (· ≠ STX)).length FRAME_LENGTH with hshort | hfull
    · unfold read_frame
      rw [extract_none hshort]
      exact ⟨to_come_dropWhile buffer [], .inr (to_come_short hshort)⟩
    · exact self.reads_window hfull []
  | cons poll rest ih =>
    rcases Nat.lt_or_ge (buffer.dropWhile (· ≠ STX)).length FRAME_LENGTH with hshort | hfull
    · have hkept : (buffer.dropWhile (· ≠ STX)).length ≤ buffer.length := (List.dropWhile_sublist _).length_le
      have hsame := to_come_dropWhile buffer
      unfold read_frame
      rw [extract_none hshort]
      dsimp only
      generalize buffer.dropWhile (· ≠ STX) = kept at hshort hkept hsame
      cases poll with
      | nothing => exact reads_waited rfl rfl (hsame _) hkept
      | blocked => exact (ih kept).passed rfl (hsame _) hkept
      | select_failed reason => exact reads_waited (not_counts_fault (by decide)) rfl (hsame _) hkept
      | read_failed reason => exact reads_waited (not_counts_fault (by decide)) rfl (hsame _) hkept
      | arrived chunk =>
        have hbounded := chunk.bounded
        dsimp only
        rw [if_neg (by rw [List.length_append]; omega)]
        refine (ih (kept ++ chunk.bytes)).arrived ?_ hkept
        rw [← hsame, to_come, to_come, List.flatten_cons, List.append_assoc]
    · exact self.reads_window hfull (poll :: rest)

/-- **Chunks do not matter**: the results of a session are those of what was delivered. -/
theorem results_eq (hroom : FRAME_LENGTH - 1 + READ_BYTES ≤ self.max_buffer_bytes)
    (polls : List (Poll UInt8 READ_BYTES)) : self.results polls = outcomes (cut closes [] (delivered polls)).1 := by
  have hweightless : ∀ (buffer : List UInt8) (polls : List (Poll UInt8 READ_BYTES)), weight buffer polls = 0 →
      to_come buffer (chunks_of polls) = [] := by
    intro buffer polls hweight
    rw [weight, Nat.add_eq_zero_iff, Nat.add_eq_zero_iff, List.length_eq_zero_iff, List.length_eq_zero_iff] at hweight
    obtain ⟨rfl, rfl, _⟩ := hweight
    rfl
  rw [results, calls_to_come (self.read_frame_spec hroom) hweightless _ _ _ (by simp [weight]), to_come, List.nil_append]
  rfl

end ReadOnlyRdm6300Serial

end

end velvet.rdm6300_reader
