import VelvetRuntime.Serial.JsonLines

open framing polling

namespace velvet.read_only_json_serial

/-- The open line after more of the stream, from one newline to the next. -/
def held (buffer stream : List UInt8) : List UInt8 := (cut (line (· == newline)) buffer stream).2

/-- The complete lines of a stream that continues an open one. -/
def complete_lines (buffer stream : List UInt8) : List (List UInt8) := (cut (line (· == newline)) buffer stream).1

/-- The lines among some replies. -/
def lines_of (replies : List Reply) : List (List UInt8) :=
  replies.filterMap fun
    | .ok line => some line
    | .error _ => none

/-- An open line that fits the bound. -/
def Pending (reader : ReadOnlyJsonSerial) (body : List UInt8) : Prop :=
  newline ∉ body ∧ body.length ≤ reader.max_line_bytes

/-- When a stream is framed after the open line of a buffer. The byte that takes a line over the bound may be followed by
no newline and by no second such byte; and no read may take the buffer over its bound, unless that is the bound of a line
and a line goes over it. -/
structure Framable (reader : ReadOnlyJsonSerial) (buffer stream : List UInt8) : Prop where
  oversized_last : ∀ front byte back, stream = front ++ byte :: back →
    (held buffer front).length = reader.max_line_bytes →
    byte ≠ newline ∨ reader.max_buffer_bytes = reader.max_line_bytes → Pending reader back
  reads_fit : ∀ front chunk back, stream = front ++ (chunk ++ back) → chunk.length ≤ READ_BYTES →
    (held buffer front).length ≤ reader.max_line_bytes →
    (held buffer front).length + chunk.length ≤ reader.max_buffer_bytes ∨
      reader.max_buffer_bytes = reader.max_line_bytes ∧
        newline ∉ chunk.take (reader.max_line_bytes - (held buffer front).length)

/-- The open line after one more byte. -/
def held_after (buffer : List UInt8) (byte : UInt8) : List UInt8 := if byte = newline then [] else buffer ++ [byte]

variable {reader : ReadOnlyJsonSerial} {buffer stream rest : List UInt8} {byte : UInt8}

@[simp] theorem held_nil : held buffer [] = buffer := rfl

theorem held_cons (buffer stream : List UInt8) (byte : UInt8) :
    held buffer (byte :: stream) = held (held_after buffer byte) stream := by
  unfold held held_after
  by_cases hnewline : byte = newline
  · rw [if_pos hnewline, cut_cons_of_closes (by rw [line, hnewline, beq_self_eq_true])]
  · rw [if_neg hnewline, cut_cons_of_not_closes (by rw [line, beq_eq_false_iff_ne]; exact hnewline)]

theorem complete_lines_newline (buffer stream : List UInt8) :
    complete_lines buffer (newline :: stream) = (buffer ++ [newline]) :: complete_lines [] stream := by
  unfold complete_lines
  rw [cut_cons_of_closes (by rw [line, beq_self_eq_true])]

theorem complete_lines_cons (buffer stream : List UInt8) (hbyte : byte ≠ newline) :
    complete_lines buffer (byte :: stream) = complete_lines (buffer ++ [byte]) stream := by
  unfold complete_lines
  rw [cut_cons_of_not_closes (by rw [line, beq_eq_false_iff_ne]; exact hbyte)]

theorem complete_lines_open (hstream : newline ∉ stream) (buffer : List UInt8) : complete_lines buffer stream = [] := by
  induction stream generalizing buffer with
  | nil => rfl
  | cons byte rest ih =>
    rw [List.mem_cons, not_or] at hstream
    rw [complete_lines_cons _ _ (Ne.symm hstream.1), ih hstream.2]

theorem held_open (hstream : newline ∉ stream) (buffer : List UInt8) : held buffer stream = buffer ++ stream := by
  induction stream generalizing buffer with
  | nil => rw [held_nil, List.append_nil]
  | cons byte rest ih =>
    rw [List.mem_cons, not_or] at hstream
    rw [held_cons, held_after, if_neg (Ne.symm hstream.1), ih hstream.2, List.append_assoc, List.singleton_append]

theorem Pending.nil : Pending reader [] := ⟨List.not_mem_nil, Nat.zero_le _⟩

theorem Pending.concat (hbuffer : Pending reader buffer) (hbyte : byte ≠ newline)
    (hroom : buffer.length < reader.max_line_bytes) : Pending reader (buffer ++ [byte]) := by
  refine ⟨fun hmem => ?_, by rw [List.length_append, List.length_singleton]; exact hroom⟩
  rcases List.mem_append.mp hmem with hbefore | hlast
  · exact hbuffer.1 hbefore
  · exact hbyte (List.mem_singleton.mp hlast).symm

theorem Pending.of_infix (hstream : Pending reader stream) (hpart : rest <:+: stream) : Pending reader rest :=
  ⟨fun hmem => hstream.1 (hpart.subset hmem), hpart.length_le.trans hstream.2⟩

/-- What is framable after a byte: the rest of the stream. -/
theorem Framable.tail (hframable : Framable reader buffer (byte :: stream)) :
    Framable reader (held_after buffer byte) stream where
  oversized_last front next back hstream := by
    rw [← held_cons]
    exact hframable.oversized_last (byte :: front) next back (by rw [hstream]; rfl)
  reads_fit front chunk back hstream := by
    rw [← held_cons]
    exact hframable.reads_fit (byte :: front) chunk back (by rw [hstream]; rfl)

/-- What is framable stays so at any earlier point of the stream. -/
theorem Framable.of_prefix (hframable : Framable reader buffer stream) (hfirst : rest <+: stream) :
    Framable reader buffer rest := by
  obtain ⟨later, rfl⟩ := hfirst
  constructor
  · rintro front byte back rfl hheld hbyte
    obtain ⟨hnewline, hlength⟩ := hframable.oversized_last front byte (back ++ later) (by simp) hheld hbyte
    rw [List.length_append] at hlength
    exact ⟨fun hmem => hnewline (List.mem_append_left _ hmem), by omega⟩
  · rintro front chunk back rfl
    exact hframable.reads_fit front chunk (back ++ later) (by simp)

/-- A byte after which the conditions hold, and which meets them itself. -/
theorem Framable.cons (hoversized : buffer.length = reader.max_line_bytes →
      byte ≠ newline ∨ reader.max_buffer_bytes = reader.max_line_bytes → Pending reader stream)
    (hfits : ∀ chunk, chunk <+: byte :: stream → chunk.length ≤ READ_BYTES → buffer.length ≤ reader.max_line_bytes →
      buffer.length + chunk.length ≤ reader.max_buffer_bytes ∨ reader.max_buffer_bytes = reader.max_line_bytes ∧
        newline ∉ chunk.take (reader.max_line_bytes - buffer.length))
    (htail : Framable reader (held_after buffer byte) stream) : Framable reader buffer (byte :: stream) where
  oversized_last front next back hstream := by
    cases front with
    | nil =>
      cases hstream
      exact hoversized
    | cons first front =>
      cases hstream
      rw [held_cons]
      exact htail.oversized_last front next back rfl
  reads_fit front chunk back hstream := by
    cases front with
    | nil =>
      rw [List.nil_append] at hstream
      exact hfits chunk ⟨back, hstream.symm⟩
    | cons first front =>
      rw [List.cons_append, List.cons.injEq] at hstream
      obtain ⟨rfl, hstream⟩ := hstream
      rw [held_cons]
      exact htail.reads_fit front chunk back hstream

namespace ReadOnlyJsonSerial

variable (reader) {chunks : List (List UInt8)}

/-- The results of a stream that arrives byte by byte. -/
def bytewise (buffer stream : List UInt8) : List Reply := reader.feed buffer (stream.map fun byte => [byte])

/-- What the byte raises that takes an open line over the bound. -/
def over_bound (byte : UInt8) : Error :=
  if reader.max_buffer_bytes = reader.max_line_bytes then buffer_bound
  else if byte = newline then line_bound
  else unterminated_bound

theorem flatten_bytes (stream : List UInt8) : (stream.map fun byte => [byte]).flatten = stream :=
  List.flatMap_singleton' stream

/-- A stream that stays pending brings nothing. -/
theorem feed_of_pending (hpending : Pending reader (buffer ++ chunks.flatten)) : reader.feed buffer chunks = [] := by
  induction chunks generalizing buffer with
  | nil => rfl
  | cons chunk rest ih =>
    rw [List.flatten_cons, ← List.append_assoc] at hpending
    obtain ⟨hnewline, hlength⟩ := id hpending
    rw [List.length_append] at hlength
    have hbuffer := reader.buffer_bounds.1
    have hshort : (buffer ++ chunk).length ≤ reader.max_line_bytes := by omega
    rw [feed, if_neg (by omega), reader.emit_open (fun hmem => hnewline (List.mem_append_left _ hmem)) hshort]
    exact ih hpending

theorem bytewise_of_pending (hpending : Pending reader (buffer ++ stream)) : reader.bytewise buffer stream = [] := by
  refine reader.feed_of_pending ?_
  rwa [flatten_bytes]

/-- A byte that ends a line within the bound. -/
theorem feed_newline (hbuffer : newline ∉ buffer) (hroom : buffer.length < reader.max_line_bytes)
    (chunks : List (List UInt8)) :
    reader.feed buffer ([newline] :: chunks) = .ok (buffer ++ [newline]) :: reader.feed [] chunks := by
  have hbound := reader.buffer_bounds.1
  have hlength : (buffer ++ [newline]).length = buffer.length + 1 := by simp
  rw [feed, if_neg (by omega), reader.emit_line hbuffer, emit_nil, reply_of, if_neg (by omega)]
  rfl

/-- A byte that leaves a line open within the bound. -/
theorem feed_byte (hbuffer : Pending reader buffer) (hbyte : byte ≠ newline)
    (hroom : buffer.length < reader.max_line_bytes) (chunks : List (List UInt8)) :
    reader.feed buffer ([byte] :: chunks) = reader.feed (buffer ++ [byte]) chunks := by
  obtain ⟨hnewline, hlength⟩ := hbuffer.concat hbyte hroom
  have hbound := reader.buffer_bounds.1
  rw [feed, if_neg (by omega), reader.emit_open hnewline hlength]
  rfl

/-- A byte that takes a line over the bound. -/
theorem feed_over_bound (hbuffer : newline ∉ buffer) (hfull : buffer.length = reader.max_line_bytes)
    (byte : UInt8) (chunks : List (List UInt8)) :
    reader.feed buffer ([byte] :: chunks) = .error (reader.over_bound byte) :: reader.feed [] chunks := by
  have hbound := reader.buffer_bounds.1
  have hlength : (buffer ++ [byte]).length = buffer.length + 1 := by simp
  unfold over_bound
  rw [feed]
  by_cases hequal : reader.max_buffer_bytes = reader.max_line_bytes
  · rw [if_pos (by omega), if_pos hequal]
  · rw [if_neg (by omega), if_neg hequal]
    by_cases hnewline : byte = newline
    · rw [if_pos hnewline, hnewline, reader.emit_line hbuffer, emit_nil, reply_of, if_pos (by simp; omega)]
      rfl
    · have hbody : newline ∉ buffer ++ [byte] := by simp [hbuffer, Ne.symm hnewline]
      rw [if_neg hnewline, reader.emit_oversized hbody (by omega)]
      rfl

theorem bytewise_newline (hbuffer : newline ∉ buffer) (hroom : buffer.length < reader.max_line_bytes)
    (stream : List UInt8) :
    reader.bytewise buffer (newline :: stream) = .ok (buffer ++ [newline]) :: reader.bytewise [] stream :=
  reader.feed_newline hbuffer hroom _

theorem bytewise_byte (hbuffer : Pending reader buffer) (hbyte : byte ≠ newline)
    (hroom : buffer.length < reader.max_line_bytes) (stream : List UInt8) :
    reader.bytewise buffer (byte :: stream) = reader.bytewise (buffer ++ [byte]) stream :=
  reader.feed_byte hbuffer hbyte hroom _

theorem bytewise_over_bound (hbuffer : newline ∉ buffer) (hfull : buffer.length = reader.max_line_bytes)
    (byte : UInt8) (stream : List UInt8) :
    reader.bytewise buffer (byte :: stream) = .error (reader.over_bound byte) :: reader.bytewise [] stream :=
  reader.feed_over_bound hbuffer hfull byte _

/-- Bytes that leave a line open are only taken up. -/
theorem bytewise_append (hpending : Pending reader (buffer ++ rest)) (stream : List UInt8) :
    reader.bytewise buffer (rest ++ stream) = reader.bytewise (buffer ++ rest) stream := by
  induction rest generalizing buffer with
  | nil => rw [List.nil_append, List.append_nil]
  | cons byte rest ih =>
    obtain ⟨hnewline, hlength⟩ := id hpending
    simp only [List.mem_append, List.mem_cons, not_or] at hnewline
    simp only [List.length_append, List.length_cons] at hlength
    have hbuffer : Pending reader buffer := ⟨hnewline.1, by omega⟩
    rw [List.cons_append, reader.bytewise_byte hbuffer (Ne.symm hnewline.2.1) (by omega), ih (by simpa using hpending)]
    simp

section

variable {chunk : List UInt8} (hbuffer : Pending reader buffer)
variable (hframable : Framable reader buffer (chunk ++ chunks.flatten))

include hbuffer hframable

/-- A chunk that takes the buffer over its bound brings the one error that its bytes bring. -/
theorem feed_over_buffer (hsize : chunk.length ≤ READ_BYTES)
    (hover : reader.max_buffer_bytes < (buffer ++ chunk).length) :
    .error buffer_bound :: reader.feed [] chunks = reader.bytewise buffer (chunk ++ chunks.flatten) := by
  have hfits := hframable.reads_fit [] chunk chunks.flatten rfl hsize hbuffer.2
  rw [held_nil] at hfits
  rw [List.length_append] at hover
  obtain ⟨hequal, hfront⟩ := hfits.resolve_left (by omega)
  have hlength := hbuffer.2
  have hsplit := List.take_append_drop (reader.max_line_bytes - buffer.length) chunk
  have hfull : (chunk.take (reader.max_line_bytes - buffer.length)).length = reader.max_line_bytes - buffer.length :=
    List.length_take_of_le (by omega)
  generalize chunk.take (reader.max_line_bytes - buffer.length) = front at hsplit hfull hfront
  cases hdrop : chunk.drop (reader.max_line_bytes - buffer.length) with
  | nil =>
    have hnone := List.drop_eq_nil_iff.mp hdrop
    omega
  | cons byte back =>
    rw [hdrop] at hsplit
    have hheld : (held buffer front).length = reader.max_line_bytes := by
      rw [held_open hfront, List.length_append]
      omega
    have hback : Pending reader (back ++ chunks.flatten) := hframable.oversized_last front byte (back ++ chunks.flatten)
      (by rw [← hsplit]; simp) hheld (.inr hequal)
    have hopen : Pending reader (buffer ++ front) := by
      rw [← held_open hfront buffer]
      exact ⟨by rw [held_open hfront]; simp [hbuffer.1, hfront], hheld.le⟩
    rw [← hsplit, List.append_assoc, reader.bytewise_append hopen, List.cons_append,
      reader.bytewise_over_bound hopen.1 (by rw [← held_open hfront]; exact hheld), reader.bytewise_of_pending (by exact hback),
      reader.feed_of_pending (by exact hback.of_infix (List.suffix_append _ _).isInfix), over_bound, if_pos hequal]

/-- A chunk that fits the buffer brings what its bytes bring. -/
theorem feed_within_buffer
    (hwithin : (buffer ++ chunk).length ≤ reader.max_buffer_bytes)
    (hlater : ∀ buffer, Pending reader buffer → Framable reader buffer chunks.flatten →
      reader.feed buffer chunks = reader.bytewise buffer chunks.flatten) :
    reader.to_come (buffer ++ chunk) chunks = reader.bytewise buffer (chunk ++ chunks.flatten) := by
  induction chunk generalizing buffer with
  | nil =>
    rw [List.append_nil, reader.to_come_open hbuffer.1 hbuffer.2]
    exact hlater buffer hbuffer hframable
  | cons byte rest ih =>
    have hlength := hbuffer.2
    rw [List.length_append, List.length_cons] at hwithin
    have htail : Framable reader (held_after buffer byte) (rest ++ chunks.flatten) := hframable.tail
    unfold held_after at htail
    by_cases hnewline : byte = newline
    · rw [if_pos hnewline] at htail
      have hrest := ih .nil htail (by rw [List.nil_append]; omega)
      rw [List.nil_append] at hrest
      rw [hnewline, to_come, reader.emit_line hbuffer.1, List.cons_append, ← to_come, hrest, List.cons_append]
      rcases Nat.lt_or_eq_of_le hlength with hroom | hfull
      · rw [reader.bytewise_newline hbuffer.1 hroom, reply_of, if_neg (by simp; omega)]
      · rw [reader.bytewise_over_bound hbuffer.1 hfull, reply_of, if_pos (by simp; omega), over_bound,
          if_neg (by omega), if_pos rfl]
    · rw [if_neg hnewline] at htail
      rcases Nat.lt_or_eq_of_le hlength with hroom | hfull
      · rw [List.cons_append, reader.bytewise_byte hbuffer hnewline hroom,
          ← ih (hbuffer.concat hnewline hroom) htail (by simp; omega), List.append_assoc, List.singleton_append]
      · have hrest : Pending reader (rest ++ chunks.flatten) := hframable.oversized_last [] byte _ rfl hfull (.inl hnewline)
        have hbody : newline ∉ buffer ++ byte :: rest := by
          simp only [List.mem_append, List.mem_cons, not_or]
          exact ⟨hbuffer.1, Ne.symm hnewline, fun hmem => hrest.1 (List.mem_append_left _ hmem)⟩
        rw [List.cons_append, reader.bytewise_over_bound hbuffer.1 hfull, reader.bytewise_of_pending (by exact hrest),
          over_bound, if_neg (by omega), if_neg hnewline, to_come, reader.emit_oversized hbody (by simp; omega),
          reader.feed_of_pending (by exact hrest.of_infix (List.suffix_append _ _).isInfix)]
        rfl

end

/-- A framable stream brings the same however it is split. -/
theorem feed_eq_bytewise (hbuffer : Pending reader buffer) (hframable : Framable reader buffer chunks.flatten)
    (hsizes : ∀ chunk ∈ chunks, chunk.length ≤ READ_BYTES) :
    reader.feed buffer chunks = reader.bytewise buffer chunks.flatten := by
  induction chunks generalizing buffer with
  | nil => rfl
  | cons chunk rest ih =>
    rw [List.forall_mem_cons] at hsizes
    rw [List.flatten_cons] at hframable ⊢
    rw [feed]
    by_cases hover : reader.max_buffer_bytes < (buffer ++ chunk).length
    · rw [if_pos hover]
      exact reader.feed_over_buffer hbuffer hframable hsizes.1 hover
    · rw [if_neg hover]
      exact reader.feed_within_buffer hbuffer hframable (Nat.not_lt.mp hover)
        fun buffer hbuffer hframable => ih hbuffer hframable hsizes.2

/-- The lines that the bytes of a framable stream bring are its complete lines within the bound. -/
theorem lines_of_bytewise (hbuffer : Pending reader buffer) (hframable : Framable reader buffer stream) :
    lines_of (reader.bytewise buffer stream) =
      (complete_lines buffer stream).filter (·.length ≤ reader.max_line_bytes) := by
  induction stream generalizing buffer with
  | nil => rfl
  | cons byte rest ih =>
    have htail := hframable.tail
    unfold held_after at htail
    have hlength := hbuffer.2
    by_cases hnewline : byte = newline
    · rw [if_pos hnewline] at htail
      rw [hnewline, complete_lines_newline]
      rcases Nat.lt_or_eq_of_le hlength with hroom | hfull
      · rw [reader.bytewise_newline hbuffer.1 hroom, List.filter_cons_of_pos (by simp; omega), ← ih .nil htail]
        rfl
      · rw [reader.bytewise_over_bound hbuffer.1 hfull, List.filter_cons_of_neg (by simp; omega), ← ih .nil htail]
        rfl
    · rw [if_neg hnewline] at htail
      rw [complete_lines_cons _ _ hnewline]
      rcases Nat.lt_or_eq_of_le hlength with hroom | hfull
      · rw [reader.bytewise_byte hbuffer hnewline hroom, ih (hbuffer.concat hnewline hroom) htail]
      · have hrest := hframable.oversized_last [] byte rest rfl hfull (.inl hnewline)
        rw [reader.bytewise_over_bound hbuffer.1 hfull, reader.bytewise_of_pending (by exact hrest),
          complete_lines_open hrest.1]
        rfl

end ReadOnlyJsonSerial

end velvet.read_only_json_serial
