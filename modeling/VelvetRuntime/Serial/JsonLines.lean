import VelvetRuntime.Error
import VelvetRuntime.Framing
import VelvetRuntime.Polling
import Mathlib.Data.List.Infix

open framing polling

namespace velvet.read_only_json_serial

def newline : UInt8 := 10

/-- The most that one `os.read` returns. -/
def READ_BYTES : Nat := 512

/-- The reader's bounds. The proofs are the checks of `__init__`. -/
structure ReadOnlyJsonSerial where
  max_line_bytes : Nat
  max_buffer_bytes : Nat
  line_bounds : 64 ≤ max_line_bytes ∧ max_line_bytes ≤ 64 * 1024
  buffer_bounds : max_line_bytes ≤ max_buffer_bytes ∧ max_buffer_bytes ≤ 1024 * 1024

def serial_error (message : String) : Error := ⟨.ReadOnlyJsonSerialError, message⟩

def line_bound : Error := serial_error "JSON serial line exceeded the line bound"
def unterminated_bound : Error := serial_error "unterminated JSON serial line exceeded the line bound"
def buffer_bound : Error := serial_error "JSON serial input exceeded the buffer bound"

def bound_errors : List Error := [line_bound, unterminated_bound, buffer_bound]

abbrev Reply := Except Error (List UInt8)

namespace ReadOnlyJsonSerial

variable (self : ReadOnlyJsonSerial)

/-- `readline` with the bytes buffered before it, what it returns or raises, and the buffer and the polls after it. -/
def readline (buffer : List UInt8) (polls : List (Poll UInt8 READ_BYTES)) : Reply × List UInt8 × List (Poll UInt8 READ_BYTES) :=
  match buffer.findIdx? (· == newline) with
  | some index =>
    if self.max_line_bytes < index + 1 then (.error line_bound, buffer.drop (index + 1), polls)
    else (.ok (buffer.take (index + 1)), buffer.drop (index + 1), polls)
  | none =>
    if self.max_line_bytes < buffer.length then (.error unterminated_bound, [], polls)
    else
      match polls with
      | [] => (.ok [], buffer, [])
      | .nothing :: rest => (.ok [], buffer, rest)
      | .blocked :: rest => readline buffer rest
      | .select_failed reason :: rest => (.error (serial_error ("JSON serial select failed: " ++ reason)), buffer, rest)
      | .read_failed reason :: rest => (.error (serial_error ("JSON serial read failed: " ++ reason)), buffer, rest)
      | .arrived chunk :: rest =>
        if self.max_buffer_bytes < (buffer ++ chunk.bytes).length then (.error buffer_bound, [], rest)
        else readline (buffer ++ chunk.bytes) rest

end ReadOnlyJsonSerial

/-- A line or a bound error, and not the empty bytes of a timeout or a fault of the device. -/
def Reply.counts : Reply → Bool
  | .ok line => line ≠ []
  | .error error => error ∈ bound_errors

namespace ReadOnlyJsonSerial

variable (self : ReadOnlyJsonSerial)

/-- The lines and the bound errors of successive calls, as many as there are polls and bytes. -/
def results (polls : List (Poll UInt8 READ_BYTES)) : List Reply :=
  (calls self.readline (polls.length + (delivered polls).length) [] polls).filter Reply.counts

/-- What becomes of a complete line in the buffer. -/
def reply_of (line : List UInt8) : Reply :=
  if self.max_line_bytes < line.length then .error line_bound else .ok line

/-- What the calls make of a buffer before they wait for more of the stream, and the bytes that they leave. -/
def emit (buffer : List UInt8) : List Reply × List UInt8 :=
  let (lines, rest) := cut (line (· == newline)) [] buffer
  if self.max_line_bytes < rest.length then (lines.map self.reply_of ++ [.error unterminated_bound], [])
  else (lines.map self.reply_of, rest)

/-- The lines and the bound errors that come with the chunks. -/
def feed : List UInt8 → List (List UInt8) → List Reply
  | _, [] => []
  | buffer, chunk :: rest =>
    if self.max_buffer_bytes < (buffer ++ chunk).length then .error buffer_bound :: feed [] rest
    else (self.emit (buffer ++ chunk)).1 ++ feed (self.emit (buffer ++ chunk)).2 rest

/-- The lines and the bound errors still to come from a buffer and the chunks after it. -/
def to_come (buffer : List UInt8) (chunks : List (List UInt8)) : List Reply :=
  (self.emit buffer).1 ++ self.feed (self.emit buffer).2 chunks

end ReadOnlyJsonSerial

variable {body : List UInt8}

theorem cut_newline (hbody : newline ∉ body) (rest : List UInt8) :
    cut (line (· == newline)) [] (body ++ newline :: rest) =
      ((body ++ [newline]) :: (cut (line (· == newline)) [] rest).1, (cut (line (· == newline)) [] rest).2) := by
  have hopen : Open (line (· == newline)) body := open_of_no_end fun item hitem => by
    rw [beq_eq_false_iff_ne]
    exact fun hnewline => hbody (hnewline ▸ hitem)
  rw [cut_append, hopen, cut_cons_of_closes (beq_self_eq_true _)]
  rfl

theorem cut_open (hbody : newline ∉ body) : cut (line (· == newline)) [] body = ([], body) :=
  open_of_no_end fun item hitem => by
    rw [beq_eq_false_iff_ne]
    exact fun hnewline => hbody (hnewline ▸ hitem)

theorem find_of_not_mem (hbody : newline ∉ body) : body.findIdx? (· == newline) = none :=
  List.findIdx?_eq_none_iff.mpr fun item hitem => by
    rw [beq_eq_false_iff_ne]
    exact fun heq => hbody (heq ▸ hitem)

theorem find_of_append (hbody : newline ∉ body) (rest : List UInt8) :
    (body ++ newline :: rest).findIdx? (· == newline) = some body.length := by
  simp [List.findIdx?_append, List.findIdx?_cons, find_of_not_mem hbody]

namespace ReadOnlyJsonSerial

variable (self : ReadOnlyJsonSerial) {body rest : List UInt8}

theorem emit_line (hbody : newline ∉ body) (rest : List UInt8) :
    self.emit (body ++ newline :: rest) =
      (self.reply_of (body ++ [newline]) :: (self.emit rest).1, (self.emit rest).2) := by
  unfold emit
  rw [cut_newline hbody]
  dsimp only
  split
  · rfl
  · rfl

theorem emit_open (hbody : newline ∉ body) (hshort : body.length ≤ self.max_line_bytes) :
    self.emit body = ([], body) := by
  unfold emit
  rw [cut_open hbody]
  exact if_neg (Nat.not_lt.mpr hshort)

theorem emit_oversized (hbody : newline ∉ body) (hlong : self.max_line_bytes < body.length) :
    self.emit body = ([.error unterminated_bound], []) := by
  unfold emit
  rw [cut_open hbody]
  exact if_pos hlong

theorem emit_nil : self.emit [] = ([], []) := self.emit_open List.not_mem_nil (Nat.zero_le _)

theorem to_come_nil (chunks : List (List UInt8)) : self.to_come [] chunks = self.feed [] chunks := by
  rw [to_come, emit_nil, List.nil_append]

theorem counts_line (line : List UInt8) (hline : line ≠ []) : Reply.counts (.ok line) = true := by
  simpa [Reply.counts] using hline

theorem not_counts_fault {text reason : String} (htext : ∀ error ∈ bound_errors, ¬text.toList <+: error.message.toList) :
    Reply.counts (.error (serial_error (text ++ reason))) = false := by
  rw [Reply.counts, decide_eq_false_iff_not]
  intro hbound
  refine htext _ hbound ⟨reason.toList, ?_⟩
  rw [serial_error, String.toList_append]

/-- A call that finds a line in the buffer takes it. -/
theorem readline_line (hbody : newline ∉ body) (rest : List UInt8) (polls : List (Poll UInt8 READ_BYTES)) :
    self.readline (body ++ newline :: rest) polls = (self.reply_of (body ++ [newline]), rest, polls) := by
  have hfind := find_of_append hbody rest
  have hdrop : (body ++ newline :: rest).drop (body.length + 1) = rest := by
    rw [List.append_cons]
    exact List.drop_left' (by simp)
  have htake : (body ++ newline :: rest).take (body.length + 1) = body ++ [newline] := by
    rw [List.append_cons]
    exact List.take_left' (by simp)
  unfold readline reply_of
  rw [hfind]
  dsimp only
  rw [hdrop, htake, List.length_append, List.length_singleton]
  split
  · rfl
  · rfl

/-- A call that finds too long an open line drops it. -/
theorem readline_oversized (hbody : newline ∉ body) (hlong : self.max_line_bytes < body.length) (polls : List (Poll UInt8 READ_BYTES)) :
    self.readline body polls = (.error unterminated_bound, [], polls) := by
  unfold readline
  rw [find_of_not_mem hbody]
  exact if_pos hlong

/-- What to come from a buffer that the call has to wait with. -/
theorem to_come_open (hbody : newline ∉ body) (hshort : body.length ≤ self.max_line_bytes)
    (chunks : List (List UInt8)) : self.to_come body chunks = self.feed body chunks := by
  rw [to_come, self.emit_open hbody hshort, List.nil_append]

theorem counts_reply_of (hbody : body ≠ []) : (self.reply_of body).counts = true := by
  unfold reply_of
  split
  · rfl
  · exact counts_line body hbody

/-- A buffer that holds a line or too long an open one is answered at once. -/
theorem reads_from_buffer {buffer : List UInt8} (hheld : newline ∈ buffer ∨ self.max_line_bytes < buffer.length)
    (polls : List (Poll UInt8 READ_BYTES)) :
    Reads Reply.counts self.to_come buffer polls (self.readline buffer polls) := by
  by_cases hnewline : newline ∈ buffer
  · obtain ⟨body, rest, rfl, hbody⟩ := List.eq_append_cons_of_mem hnewline
    rw [self.readline_line hbody]
    refine ⟨?_, .inl ?_⟩
    · rw [List.filter_cons_of_pos (self.counts_reply_of (by simp)), to_come, to_come, self.emit_line hbody]
      rfl
    · simp only [weight, List.length_append, List.length_cons]
      omega
  · have hlong : self.max_line_bytes < buffer.length := hheld.resolve_left hnewline
    rw [self.readline_oversized hnewline hlong]
    refine ⟨?_, .inl ?_⟩
    · rw [List.filter_cons_of_pos rfl, to_come_nil, to_come, self.emit_oversized hnewline hlong]
      rfl
    · simp only [weight, List.length_nil]
      omega

theorem readline_spec (buffer : List UInt8) (polls : List (Poll UInt8 READ_BYTES)) :
    Reads Reply.counts self.to_come buffer polls (self.readline buffer polls) := by
  induction polls generalizing buffer with
  | nil =>
    by_cases hheld : newline ∈ buffer ∨ self.max_line_bytes < buffer.length
    · exact self.reads_from_buffer hheld []
    · rw [not_or, Nat.not_lt] at hheld
      obtain ⟨hnewline, hshort⟩ := hheld
      have hnone : self.to_come buffer [] = [] := self.to_come_open hnewline hshort []
      unfold readline
      rw [find_of_not_mem hnewline]
      dsimp only
      rw [if_neg (Nat.not_lt.mpr hshort)]
      exact ⟨rfl, .inr hnone⟩
  | cons poll rest ih =>
    by_cases hheld : newline ∈ buffer ∨ self.max_line_bytes < buffer.length
    · exact self.reads_from_buffer hheld (poll :: rest)
    · rw [not_or, Nat.not_lt] at hheld
      obtain ⟨hnewline, hshort⟩ := hheld
      unfold readline
      rw [find_of_not_mem hnewline]
      dsimp only
      rw [if_neg (Nat.not_lt.mpr hshort)]
      cases poll with
      | nothing => exact reads_waited rfl rfl rfl le_rfl
      | blocked => exact (ih buffer).passed rfl rfl le_rfl
      | select_failed reason => exact reads_waited (not_counts_fault (by decide)) rfl rfl le_rfl
      | read_failed reason => exact reads_waited (not_counts_fault (by decide)) rfl rfl le_rfl
      | arrived chunk =>
        have hwait := self.to_come_open hnewline hshort (chunk.bytes :: chunks_of rest)
        have hbytes : delivered (.arrived chunk :: rest) = chunk.bytes ++ delivered rest := rfl
        dsimp only
        by_cases hover : self.max_buffer_bytes < (buffer ++ chunk.bytes).length
        · rw [if_pos hover]
          refine ⟨?_, .inl ?_⟩
          · change _ = self.to_come buffer (chunk.bytes :: chunks_of rest)
            rw [hwait, feed, if_pos hover, List.filter_cons_of_pos rfl, to_come_nil]
            rfl
          · simp only [weight, hbytes, List.length_append, List.length_cons, List.length_nil]
            omega
        · rw [if_neg hover]
          refine (ih (buffer ++ chunk.bytes)).arrived ?_ le_rfl
          rw [hwait, feed, if_neg hover]
          rfl

theorem to_come_of_weightless (buffer : List UInt8) (polls : List (Poll UInt8 READ_BYTES))
    (hweight : weight buffer polls = 0) : self.to_come buffer (chunks_of polls) = [] := by
  rw [weight, Nat.add_eq_zero_iff, Nat.add_eq_zero_iff, List.length_eq_zero_iff, List.length_eq_zero_iff] at hweight
  obtain ⟨rfl, rfl, _⟩ := hweight
  exact self.to_come_nil []

/-- The results of a session are those that its chunks bring, wherever else it waits. -/
theorem results_eq_feed (polls : List (Poll UInt8 READ_BYTES)) : self.results polls = self.feed [] (chunks_of polls) := by
  rw [results, calls_to_come self.readline_spec self.to_come_of_weightless _ _ _ (by simp [weight]), to_come_nil]

end ReadOnlyJsonSerial

end velvet.read_only_json_serial
