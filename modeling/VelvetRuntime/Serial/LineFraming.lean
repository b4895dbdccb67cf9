import VelvetRuntime.Serial.Framable

open framing polling

namespace velvet.read_only_json_serial

open ReadOnlyJsonSerial

variable {reader : ReadOnlyJsonSerial} {buffer stream rest : List UInt8} {byte : UInt8}

/-- The framing of what follows a buffer, for the chunks themselves. -/
def Splits (reader : ReadOnlyJsonSerial) (buffer stream : List UInt8) : Prop :=
  ∀ chunks chunks', (∀ chunk ∈ chunks, IsChunk READ_BYTES chunk) → (∀ chunk ∈ chunks', IsChunk READ_BYTES chunk) →
    chunks.flatten <+: stream → chunks'.flatten = chunks.flatten →
    reader.feed buffer chunks' = reader.feed buffer chunks ∧
      lines_of (reader.feed buffer chunks) =
        (complete_lines buffer chunks.flatten).filter (·.length ≤ reader.max_line_bytes)

theorem isChunk_byte (byte : UInt8) : IsChunk READ_BYTES [byte] := ⟨List.cons_ne_nil _ _, by rw [List.length_singleton]; decide⟩

theorem isChunk_bytes (stream : List UInt8) : ∀ chunk ∈ stream.map fun byte => [byte], IsChunk READ_BYTES chunk := by
  rw [List.forall_mem_map]
  exact fun byte _ => isChunk_byte byte

namespace ReadOnlyJsonSerial

variable (reader)

/-- Two bytes that take a line over the bound at once are dropped together, with one error. -/
theorem feed_pair_over_bound (hbuffer : newline ∉ buffer) (hfull : buffer.length = reader.max_line_bytes)
    (hbyte : byte ≠ newline ∨ reader.max_buffer_bytes = reader.max_line_bytes) (next : UInt8) :
    ∃ error, ∀ chunks, reader.feed buffer ([byte, next] :: chunks) = .error error :: reader.feed [] chunks := by
  have hlength : (buffer ++ [byte, next]).length = buffer.length + 2 := by simp
  by_cases hover : reader.max_buffer_bytes < buffer.length + 2
  · exact ⟨buffer_bound, fun chunks => by rw [feed, if_pos (by omega)]⟩
  · have hbody : newline ∉ buffer ++ [byte] := by
      simp [hbuffer, Ne.symm (hbyte.resolve_right (by omega))]
    rw [List.append_cons] at hlength
    by_cases hnext : next = newline
    · refine ⟨line_bound, fun chunks => ?_⟩
      rw [feed, List.append_cons, if_neg (by omega), hnext, reader.emit_line hbody, emit_nil, reply_of,
        if_pos (by simp; omega)]
      rfl
    · refine ⟨unterminated_bound, fun chunks => ?_⟩
      rw [feed, List.append_cons, if_neg (by omega), reader.emit_oversized (by simp_all [Ne.symm hnext]) (by omega)]
      rfl

variable {body : List UInt8}

theorem bytewise_line (hbody : newline ∉ body) (hroom : body.length < reader.max_line_bytes)
    (stream : List UInt8) :
    reader.bytewise [] (body ++ newline :: stream) = .ok (body ++ [newline]) :: reader.bytewise [] stream := by
  rw [reader.bytewise_append (show Pending reader ([] ++ body) from ⟨hbody, hroom.le⟩), List.nil_append,
    reader.bytewise_newline hbody hroom]

theorem bytewise_oversized (hbody : newline ∉ body) (hfull : body.length = reader.max_line_bytes)
    (byte : UInt8) (stream : List UInt8) :
    reader.bytewise [] (body ++ byte :: stream) = .error (reader.over_bound byte) :: reader.bytewise [] stream := by
  rw [reader.bytewise_append (show Pending reader ([] ++ body) from ⟨hbody, hfull.le⟩), List.nil_append,
    reader.bytewise_over_bound hbody hfull]

/-- One byte less of a line makes a difference, also of a line that is too long. -/
theorem bytewise_tail_ne (hbody : newline ∉ body) :
    reader.bytewise [] (body ++ [newline]) ≠ reader.bytewise [] (body ++ [newline]).tail := by
  have hbounds := reader.line_bounds.1
  induction hlength : body.length using Nat.strongRecOn generalizing body with
  | _ length ih =>
    rcases Nat.lt_or_ge body.length reader.max_line_bytes with hroom | hlong
    · rw [reader.bytewise_line hbody hroom]
      cases body with
      | nil => exact List.cons_ne_nil _ _
      | cons first later =>
        rw [List.mem_cons, not_or] at hbody
        rw [List.cons_append, List.tail_cons, reader.bytewise_line hbody.2 (Nat.lt_of_succ_lt hroom)]
        intro hsame
        simpa using congrArg List.length (Except.ok.inj (List.cons.inj hsame).1)
    · have hsplit := List.take_append_drop reader.max_line_bytes body
      have hfull := List.length_take_of_le hlong
      generalize body.take reader.max_line_bytes = front at hsplit hfull
      generalize body.drop reader.max_line_bytes = back at hsplit
      subst hsplit
      rw [List.mem_append, not_or] at hbody
      obtain ⟨hstart, hback⟩ := hbody
      rw [List.length_append] at hlength
      obtain ⟨first, front, rfl⟩ := List.exists_cons_of_length_pos (by omega : 0 < front.length)
      rw [List.length_cons] at hfull hlength
      have hfront : newline ∉ front := fun hmem => hstart (List.mem_cons_of_mem _ hmem)
      cases back with
      | nil =>
        rw [List.append_nil, reader.bytewise_oversized hstart (by simpa using hfull), List.cons_append, List.tail_cons,
          reader.bytewise_line hfront (by omega)]
        exact fun hsame => by cases hsame
      | cons byte back =>
        rw [List.mem_cons, not_or] at hback
        have hfilled : newline ∉ front ++ [byte] := by simp [hfront, hback.1]
        rw [List.append_assoc, @List.cons_append _ _ _ [newline], reader.bytewise_oversized hstart (by simpa using hfull),
          List.cons_append, List.tail_cons, List.append_cons front byte]
        cases back with
        | nil =>
          rw [List.nil_append, reader.bytewise_oversized hfilled (by simpa using hfull)]
          have hline := reader.bytewise_line (List.not_mem_nil (a := newline)) (by rw [List.length_nil]; omega) []
          rw [List.nil_append] at hline
          rw [hline]
          exact fun hsame => List.cons_ne_nil _ _ (List.cons.inj hsame).2
        | cons next later =>
          rw [List.cons_append, reader.bytewise_oversized hfilled (by simpa using hfull)]
          intro hsame
          exact ih (next :: later).length (by simp only [List.length_cons] at hlength ⊢; omega) hback.2 rfl
            (List.cons.inj hsame).2

/-- Byte by byte, no read takes a larger buffer over its bound. -/
theorem buffer_bound_not_mem (hlarger : reader.max_buffer_bytes ≠ reader.max_line_bytes)
    (hbuffer : Pending reader buffer) : .error buffer_bound ∉ reader.bytewise buffer stream := by
  induction stream generalizing buffer with
  | nil => exact List.not_mem_nil
  | cons byte rest ih =>
    rcases Nat.lt_or_eq_of_le hbuffer.2 with hroom | hfull
    · by_cases hnewline : byte = newline
      · rw [hnewline, reader.bytewise_newline hbuffer.1 hroom, List.mem_cons, not_or]
        exact ⟨fun hsame => (by cases hsame), ih .nil⟩
      · rw [reader.bytewise_byte hbuffer hnewline hroom]
        exact ih (hbuffer.concat hnewline hroom)
    · rw [reader.bytewise_over_bound hbuffer.1 hfull, List.mem_cons, not_or, over_bound, if_neg hlarger]
      refine ⟨fun hsame => ?_, ih .nil⟩
      have herror := Except.error.inj hsame
      split at herror
      · exact absurd herror (by decide)
      · exact absurd herror (by decide)

end ReadOnlyJsonSerial

theorem complete_lines_append {body : List UInt8} (hbody : newline ∉ body) (buffer stream : List UInt8) :
    complete_lines buffer (body ++ newline :: stream) = (buffer ++ body ++ [newline]) :: complete_lines [] stream := by
  induction body generalizing buffer with
  | nil => rw [List.nil_append, List.append_nil, complete_lines_newline]
  | cons byte rest ih =>
    rw [List.mem_cons, not_or] at hbody
    rw [List.cons_append, complete_lines_cons _ _ (Ne.symm hbody.1), ih hbody.2, List.append_cons buffer byte rest]

/-- A read that may start in the open line of the buffer fits. -/
theorem Splits.fits (hsplits : Splits reader buffer stream) (hbuffer : Pending reader buffer) {chunk : List UInt8}
    (hchunk : chunk <+: stream) (hsize : chunk.length ≤ READ_BYTES) :
    buffer.length + chunk.length ≤ reader.max_buffer_bytes ∨ reader.max_buffer_bytes = reader.max_line_bytes ∧
      newline ∉ chunk.take (reader.max_line_bytes - buffer.length) := by
  by_contra hnot
  rw [not_or, Nat.not_le, not_and, not_not] at hnot
  obtain ⟨hover, hcut⟩ := hnot
  have hlength := hbuffer.2
  have hbounds := reader.buffer_bounds.1
  have hread : IsChunk READ_BYTES chunk := ⟨fun hnil => by rw [hnil, List.length_nil] at hover; omega, hsize⟩
  have hdropped : reader.feed buffer [chunk] = [.error buffer_bound] := by
    rw [feed, if_pos (by rw [List.length_append]; exact hover)]
    rfl
  obtain ⟨hsame, hlines⟩ := hsplits [chunk] (chunk.map fun byte => [byte]) (List.forall_mem_singleton.mpr hread)
    (isChunk_bytes chunk) (by rw [List.flatten_singleton]; exact hchunk)
    (by rw [flatten_bytes, List.flatten_singleton])
  rw [hdropped] at hsame hlines
  by_cases hequal : reader.max_buffer_bytes = reader.max_line_bytes
  · obtain ⟨body, rest, hsplit, hbody⟩ := List.eq_append_cons_of_mem (hcut hequal)
    have hchunk_eq := List.take_append_drop (reader.max_line_bytes - buffer.length) chunk
    have hroom := congrArg List.length hsplit
    rw [List.length_take, List.length_append, List.length_cons] at hroom
    rw [hsplit, List.append_assoc, List.cons_append] at hchunk_eq
    rw [List.flatten_singleton, ← hchunk_eq, complete_lines_append hbody, List.filter_cons_of_pos (by simp; omega)] at hlines
    exact absurd hlines.symm (List.cons_ne_nil _ _)
  · have habsent : .error buffer_bound ∉ reader.bytewise buffer chunk := reader.buffer_bound_not_mem hequal hbuffer
    rw [bytewise, hsame] at habsent
    exact habsent (List.mem_singleton_self _)

/-- What follows a byte that takes a line over the bound brings nothing more. -/
theorem Splits.pending_after (hsplits : Splits reader buffer (byte :: stream)) (hbuffer : newline ∉ buffer)
    (hfull : buffer.length = reader.max_line_bytes)
    (hbyte : byte ≠ newline ∨ reader.max_buffer_bytes = reader.max_line_bytes) : Pending reader stream := by
  have hbounds := reader.line_bounds.1
  have hshift : ∀ next later, next :: later <+: stream → reader.bytewise [] (next :: later) = reader.bytewise [] later := by
    intro next later hfirst
    obtain ⟨error, hpair⟩ := reader.feed_pair_over_bound hbuffer hfull hbyte next
    obtain ⟨hsame, _⟩ := hsplits ((byte :: next :: later).map fun byte => [byte])
      ([byte, next] :: later.map fun byte => [byte]) (isChunk_bytes _)
      (List.forall_mem_cons.mpr ⟨⟨List.cons_ne_nil _ _, by rw [List.length_cons, List.length_singleton]; decide⟩,
        isChunk_bytes later⟩)
      (by rw [flatten_bytes]; exact List.cons_prefix_cons.mpr ⟨rfl, hfirst⟩)
      (by rw [List.flatten_cons, flatten_bytes, flatten_bytes]; rfl)
    rw [hpair, List.map_cons, reader.feed_over_bound hbuffer hfull] at hsame
    exact (List.cons.inj hsame).2.symm
  have hnewline : newline ∉ stream := by
    intro hmem
    obtain ⟨body, rest, rfl, hbody⟩ := List.eq_append_cons_of_mem hmem
    refine reader.bytewise_tail_ne hbody ?_
    have hfirst : body ++ [newline] <+: body ++ newline :: rest := ⟨rest, by simp⟩
    cases body with
    | nil => exact hshift newline [] hfirst
    | cons next later => exact hshift next (later ++ [newline]) hfirst
  refine ⟨hnewline, Nat.not_lt.mp fun hlong => ?_⟩
  have hsplit := List.take_append_drop (reader.max_line_bytes + 1) stream
  have htaken := List.length_take_of_le (Nat.succ_le_of_lt hlong)
  generalize stream.take (reader.max_line_bytes + 1) = front at hsplit htaken
  obtain ⟨next, later, rfl⟩ := List.exists_cons_of_length_pos (by omega : 0 < front.length)
  rw [List.length_cons, Nat.add_right_cancel_iff] at htaken
  have hopen : newline ∉ next :: later := fun hmem => hnewline (hsplit ▸ List.mem_append_left _ hmem)
  have hsame := hshift next later ⟨_, hsplit⟩
  have hquiet : Pending reader ([] ++ later) := ⟨fun hmem => hopen (List.mem_cons_of_mem _ hmem), htaken.le⟩
  obtain ⟨body, last, hconcat⟩ := (List.eq_nil_or_concat (next :: later)).resolve_left (List.cons_ne_nil _ _)
  rw [List.concat_eq_append] at hconcat
  have hlength := congrArg List.length hconcat
  rw [List.length_cons, List.length_append, List.length_singleton] at hlength
  rw [reader.bytewise_of_pending hquiet, hconcat, reader.bytewise_oversized
    (fun hmem => hopen (hconcat ▸ List.mem_append_left _ hmem)) (by omega)] at hsame
  exact List.cons_ne_nil _ _ hsame

/-- A byte within the bound leaves the framing of what follows it. -/
theorem Splits.tail (hsplits : Splits reader buffer (byte :: stream)) (hbuffer : Pending reader buffer)
    (hbyte : buffer.length = reader.max_line_bytes →
      byte = newline ∧ reader.max_buffer_bytes ≠ reader.max_line_bytes) :
    Splits reader (held_after buffer byte) stream := by
  intro chunks chunks' hchunks hchunks' hfirst hsame
  obtain ⟨hfeed, hlines⟩ := hsplits ([byte] :: chunks) ([byte] :: chunks')
    (List.forall_mem_cons.mpr ⟨isChunk_byte byte, hchunks⟩) (List.forall_mem_cons.mpr ⟨isChunk_byte byte, hchunks'⟩)
    (List.cons_prefix_cons.mpr ⟨rfl, hfirst⟩) (by rw [List.flatten_cons, hsame]; rfl)
  rw [List.flatten_cons, List.singleton_append] at hlines
  unfold held_after
  rcases Nat.lt_or_eq_of_le hbuffer.2 with hroom | hfull
  · by_cases hnewline : byte = newline
    · rw [hnewline, reader.feed_newline hbuffer.1 hroom, reader.feed_newline hbuffer.1 hroom] at hfeed
      rw [hnewline, reader.feed_newline hbuffer.1 hroom, complete_lines_newline,
        List.filter_cons_of_pos (by simp; omega)] at hlines
      rw [if_pos hnewline]
      exact ⟨(List.cons.inj hfeed).2, (List.cons.inj hlines).2⟩
    · rw [reader.feed_byte hbuffer hnewline hroom, reader.feed_byte hbuffer hnewline hroom] at hfeed
      rw [reader.feed_byte hbuffer hnewline hroom, complete_lines_cons _ _ hnewline] at hlines
      rw [if_neg hnewline]
      exact ⟨hfeed, hlines⟩
  · obtain ⟨hnewline, _⟩ := hbyte hfull
    rw [hnewline, reader.feed_over_bound hbuffer.1 hfull, reader.feed_over_bound hbuffer.1 hfull] at hfeed
    rw [hnewline, reader.feed_over_bound hbuffer.1 hfull, complete_lines_newline,
      List.filter_cons_of_neg (by simp; omega)] at hlines
    rw [if_pos hnewline]
    exact ⟨(List.cons.inj hfeed).2, hlines⟩

/-- A stream that stays within the bound is framable after a line, and after one that is over the bound already. -/
theorem framable_of_pending (hstream : Pending reader stream)
    (hbuffer : buffer = [] ∨ reader.max_line_bytes < buffer.length) : Framable reader buffer stream := by
  have hbounds := reader.buffer_bounds.1
  obtain ⟨hnewline, hlength⟩ := hstream
  constructor
  · rintro front byte back rfl hheld
    simp only [List.length_append, List.length_cons] at hlength
    rw [held_open fun hmem => hnewline (List.mem_append_left _ hmem), List.length_append] at hheld
    rcases hbuffer with rfl | hlong
    · rw [List.length_nil] at hheld
      omega
    · omega
  · rintro front chunk back rfl _ hheld
    simp only [List.length_append] at hlength
    rw [held_open fun hmem => hnewline (List.mem_append_left _ hmem), List.length_append] at hheld ⊢
    rcases hbuffer with rfl | hlong
    · exact .inl (by rw [List.length_nil]; omega)
    · omega

/-- What is framed is framable. -/
theorem Splits.framable (hsplits : Splits reader buffer stream) (hbuffer : Pending reader buffer) :
    Framable reader buffer stream := by
  induction stream generalizing buffer with
  | nil =>
    constructor
    · intro front byte back hnil
      simp at hnil
    · intro front chunk back hnil
      simp only [List.nil_eq, List.append_eq_nil_iff] at hnil
      obtain ⟨rfl, rfl, rfl⟩ := hnil
      intro _ hheld
      have hbounds := reader.buffer_bounds.1
      exact .inl (by rw [List.length_nil]; omega)
  | cons byte rest ih =>
    have hfits : ∀ chunk, chunk <+: byte :: rest → chunk.length ≤ READ_BYTES → buffer.length ≤ reader.max_line_bytes →
        buffer.length + chunk.length ≤ reader.max_buffer_bytes ∨ reader.max_buffer_bytes = reader.max_line_bytes ∧
          newline ∉ chunk.take (reader.max_line_bytes - buffer.length) :=
      fun chunk hchunk hsize _ => hsplits.fits hbuffer hchunk hsize
    refine .cons (hsplits.pending_after hbuffer.1) hfits ?_
    by_cases hover : buffer.length = reader.max_line_bytes ∧
        (byte ≠ newline ∨ reader.max_buffer_bytes = reader.max_line_bytes)
    · refine framable_of_pending (hsplits.pending_after hbuffer.1 hover.1 hover.2) ?_
      unfold held_after
      split
      · exact .inl rfl
      · exact .inr (by rw [List.length_append, List.length_singleton, hover.1]; exact Nat.lt_succ_self _)
    · have hbyte : buffer.length = reader.max_line_bytes →
          byte = newline ∧ reader.max_buffer_bytes ≠ reader.max_line_bytes := by
        intro hfull
        simpa [hfull] using hover
      refine ih (hsplits.tail hbuffer hbyte) ?_
      unfold held_after
      by_cases hnewline : byte = newline
      · rw [if_pos hnewline]
        exact .nil
      · rw [if_neg hnewline]
        refine hbuffer.concat hnewline (Nat.lt_of_le_of_ne hbuffer.2 fun hfull => ?_)
        exact hnewline (hbyte hfull).1

/-- **Serial line framing**, at whatever point of a stream: however `os.read` splits what was delivered, the results are the
same; each line returned is a complete line; each complete line within the bound is returned exactly once, in order. -/
structure Framed (reader : ReadOnlyJsonSerial) (stream : List UInt8) : Prop where
  unsplit : ∀ polls polls', delivered polls <+: stream → delivered polls' = delivered polls →
    reader.results polls' = reader.results polls
  complete : ∀ polls, delivered polls <+: stream → ∀ line ∈ lines_of (reader.results polls),
    line ∈ complete_lines [] (delivered polls)
  returned : ∀ polls, delivered polls <+: stream →
    lines_of (reader.results polls) = (complete_lines [] (delivered polls)).filter (·.length ≤ reader.max_line_bytes)

/-- A reader frames exactly the streams in which nothing but an open line within the bound follows a line that is over it,
and in which no read can take the buffer over its bound. -/
theorem framed_iff (reader : ReadOnlyJsonSerial) (stream : List UInt8) :
    Framed reader stream ↔ Framable reader [] stream := by
  constructor
  · intro hframed
    refine Splits.framable ?_ .nil
    intro chunks chunks' hchunks hchunks' hfirst hsame
    obtain ⟨polls, rfl⟩ := exists_polls hchunks
    obtain ⟨polls', rfl⟩ := exists_polls hchunks'
    rw [← reader.results_eq_feed, ← reader.results_eq_feed]
    exact ⟨hframed.unsplit polls polls' hfirst hsame, hframed.returned polls hfirst⟩
  · intro hframable
    have hbytewise : ∀ polls, delivered polls <+: stream → reader.results polls = reader.bytewise [] (delivered polls) := by
      intro polls hfirst
      rw [reader.results_eq_feed]
      exact reader.feed_eq_bytewise .nil (hframable.of_prefix hfirst) fun chunk hchunk => (isChunk_of_mem hchunk).2
    have hreturned : ∀ polls, delivered polls <+: stream → lines_of (reader.results polls) =
        (complete_lines [] (delivered polls)).filter (·.length ≤ reader.max_line_bytes) := by
      intro polls hfirst
      rw [hbytewise polls hfirst]
      exact reader.lines_of_bytewise .nil (hframable.of_prefix hfirst)
    refine ⟨fun polls polls' hfirst hsame => ?_, fun polls hfirst line hline => ?_, hreturned⟩
    · rw [hbytewise polls hfirst, hbytewise polls' (hsame ▸ hfirst), hsame]
    · rw [hreturned polls hfirst] at hline
      exact List.mem_of_mem_filter hline

/-- A reader of the smallest lines that a device is configured with. -/
def short_lines : ReadOnlyJsonSerial where
  max_line_bytes := 64
  max_buffer_bytes := 1024
  line_bounds := by decide
  buffer_bounds := by decide

/-- The bytes of a line that is over the bound before its newline. -/
def long_body : List UInt8 := List.replicate 65 97

/-- The stream of that line as it is polled in two reads and in one. -/
def read_apart : List (Poll UInt8 READ_BYTES) :=
  [.arrived ⟨long_body, by decide, by decide⟩, .arrived ⟨[newline], by decide, by decide⟩]
def read_whole : List (Poll UInt8 READ_BYTES) := [.arrived ⟨long_body ++ [newline], by decide, by decide⟩]

/-- What the newline is read with decides: on its own it is returned as a line, which the stream does not hold. -/
theorem fragment_returned :
    short_lines.results read_apart = [.error unterminated_bound, .ok [newline]] ∧
      short_lines.results read_whole = [.error line_bound] ∧ ¬Framed short_lines (long_body ++ [newline]) := by
  have hbody : newline ∉ long_body := by decide
  have hapart : short_lines.results read_apart = [.error unterminated_bound, .ok [newline]] := by
    rw [short_lines.results_eq_feed]
    change short_lines.feed [] [long_body, [newline]] = _
    rw [ReadOnlyJsonSerial.feed, List.nil_append, if_neg (by decide), short_lines.emit_oversized hbody (by decide),
      short_lines.feed_newline List.not_mem_nil (by decide)]
    rfl
  have hwhole : short_lines.results read_whole = [.error line_bound] := by
    rw [short_lines.results_eq_feed]
    change short_lines.feed [] [long_body ++ [newline]] = _
    rw [ReadOnlyJsonSerial.feed, List.nil_append, if_neg (by decide), short_lines.emit_line hbody,
      short_lines.emit_nil, ReadOnlyJsonSerial.reply_of, if_pos (by decide)]
    rfl
  refine ⟨hapart, hwhole, fun hframed => ?_⟩
  have hsame := hframed.unsplit read_whole read_apart List.prefix_rfl rfl
  rw [hapart, hwhole] at hsame
  exact List.cons_ne_nil _ _ (List.cons.inj hsame).2

end velvet.read_only_json_serial
