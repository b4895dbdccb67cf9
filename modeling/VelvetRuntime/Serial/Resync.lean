import VelvetRuntime.Serial.Rdm6300

open framing polling python python.except

namespace velvet.rdm6300_reader

/-- The frames among some replies. -/
def frames_of (replies : List Reply) : List Rdm6300Frame :=
  replies.filterMap fun
    | .ok frame => frame
    | .error _ => none

/-- **RFID frame resynchronisation** in a stream: however it is split, the results are the same; the buffer bound is not
reached; and each valid frame of it is returned with its last byte, unless a frame that overlaps it was returned before. -/
structure Resynchronises (reader : ReadOnlyRdm6300Serial) (stream : List UInt8) : Prop where
  unsplit : ∀ polls polls', delivered polls <+: stream → delivered polls' = delivered polls →
    reader.results polls' = reader.results polls
  within_bound : ∀ polls, delivered polls <+: stream → .error buffer_bound ∉ reader.results polls
  returned : ∀ front frame back found, stream = front ++ (frame ++ back) → parse_rdm6300_frame frame = .ok found →
    ∀ before inside after, delivered before = front → delivered inside = front ++ frame.take (FRAME_LENGTH - 1) →
      delivered after = front ++ frame → frames_of (reader.results inside) = frames_of (reader.results before) →
      frames_of (reader.results after) = frames_of (reader.results before) ++ [found]

/-- The bytes that wait after a part of the stream: none, or those from a start byte on that is outside of the windows
before it. -/
def open_window (front : List UInt8) : List UInt8 := (cut closes [] front).2

def Valid (frame : List UInt8) : Prop := ∃ found, parse_rdm6300_frame frame = .ok found

/-- Where a valid frame starts, no window is open that will turn out to be no frame. -/
def Clear (stream : List UInt8) : Prop :=
  ∀ front frame back, stream = front ++ (frame ++ back) → Valid frame →
    open_window front = [] ∨ Valid (open_window front ++ frame.take (FRAME_LENGTH - (open_window front).length))

variable {front frame piece stream window : List UInt8}

theorem exists_delivered (stream : List UInt8) : ∃ polls : List (Poll UInt8 READ_BYTES), delivered polls = stream := by
  have hbytes : ∀ chunk ∈ stream.map fun byte => [byte], IsChunk READ_BYTES chunk := by
    rw [List.forall_mem_map]
    exact fun byte _ => ⟨List.cons_ne_nil _ _, by rw [List.length_singleton]; decide⟩
  obtain ⟨polls, hpolls⟩ := exists_polls hbytes
  refine ⟨polls, ?_⟩
  rw [delivered, hpolls]
  exact List.flatMap_singleton' stream

/-- A valid frame has its length and its markers. -/
theorem Valid.markers (hvalid : Valid frame) :
    frame.length = FRAME_LENGTH ∧ frame.head? = some STX ∧ frame.getLast? = some ETX := by
  obtain ⟨found, hfound⟩ := hvalid
  unfold parse_rdm6300_frame at hfound
  obtain ⟨hlength, hfound⟩ := guard_eq_ok.mp hfound
  obtain ⟨hmarkers, _⟩ := guard_eq_ok.mp hfound
  rw [not_or, not_not, not_not] at hmarkers
  exact ⟨not_not.mp hlength, hmarkers⟩

theorem outcome_of_valid {found : Rdm6300Frame} (hfound : parse_rdm6300_frame frame = .ok found) :
    outcome frame = .ok found := by
  have hmarkers := Valid.markers ⟨found, hfound⟩
  rw [outcome, if_neg (not_not.mpr hmarkers.2.2), hfound]

theorem frames_of_outcome (window : List UInt8) :
    (∃ found, parse_rdm6300_frame window = .ok found ∧ frames_of [(outcome window).map some] = [found]) ∨
      ¬Valid window ∧ frames_of [(outcome window).map some] = [] := by
  cases hparse : parse_rdm6300_frame window with
  | ok found =>
    left
    rw [outcome_of_valid hparse]
    exact ⟨found, rfl, rfl⟩
  | error error =>
    right
    have hnot : ¬Valid window := fun ⟨found, hfound⟩ => by rw [hparse] at hfound; cases hfound
    refine ⟨hnot, ?_⟩
    unfold outcome
    split
    · rfl
    · rw [hparse]
      rfl

/-- An open window is shorter than a frame. -/
theorem length_cut_open (hpiece : piece.length < FRAME_LENGTH) : (cut closes piece stream).2.length < FRAME_LENGTH := by
  induction stream generalizing piece with
  | nil => exact hpiece
  | cons byte rest ih =>
    cases hcloses : closes piece byte with
    | true =>
      rw [cut_cons_of_closes hcloses]
      exact ih (by decide)
    | false =>
      rw [cut_cons_of_not_closes hcloses]
      refine ih ?_
      rw [List.length_append, List.length_singleton]
      unfold closes at hcloses
      split at hcloses
      · rename_i hempty
        rw [List.isEmpty_iff.mp hempty]
        decide
      · simp only [decide_eq_false_iff_not] at hcloses
        omega

/-- Fewer bytes than a frame close no window. -/
theorem outcomes_short (hshort : stream.length < FRAME_LENGTH) : outcomes (cut closes [] stream).1 = [] := by
  have hnone : (cut closes [] stream).1.filter (·.length = FRAME_LENGTH) = [] := by
    rw [List.filter_eq_nil_iff]
    intro found hfound
    have hcut : (cut closes [] stream).1.flatten ++ (cut closes [] stream).2 = [] ++ stream := flatten_cut
    have hflatten := congrArg List.length hcut
    rw [List.nil_append, List.length_append] at hflatten
    have hpart := (List.sublist_flatten_of_mem hfound).length_le
    simp only [decide_eq_true_eq]
    omega
  rw [outcomes, hnone, List.map_nil]

theorem outcomes_append (first second : List (List UInt8)) :
    outcomes (first ++ second) = outcomes first ++ outcomes second := by
  rw [outcomes, List.filter_append, List.map_append]
  rfl

theorem frames_of_append (first second : List Reply) : frames_of (first ++ second) = frames_of first ++ frames_of second :=
  List.filterMap_append

/-- The frames of a stream, by those of its parts. -/
theorem frames_after (front rest : List UInt8) :
    frames_of (outcomes (cut closes [] (front ++ rest)).1) =
      frames_of (outcomes (cut closes [] front).1) ++ frames_of (outcomes (cut closes (open_window front) rest).1) := by
  rw [cut_append, outcomes_append, frames_of_append]
  rfl

theorem outcomes_window (hlength : window.length = FRAME_LENGTH) : outcomes [window] = [(outcome window).map some] := by
  rw [outcomes, List.filter_cons_of_pos (by simpa using hlength)]
  rfl

/-- The bytes that complete an open window bring what the window is, and fewer than a frame after them nothing more. -/
theorem outcomes_of_open {body rest : List UInt8} (hopen : piece ≠ []) (hbody : body ≠ [])
    (hlength : piece.length + body.length = FRAME_LENGTH) (hrest : rest.length < FRAME_LENGTH) :
    outcomes (cut closes piece (body ++ rest)).1 = [(outcome (piece ++ body)).map some] := by
  rw [cut_rest_of_window hopen hbody hlength, ← List.singleton_append, outcomes_append, outcomes_short hrest,
    List.append_nil, outcomes_window (by rw [List.length_append]; exact hlength)]

/-- A frame is returned with its last byte, and none with the bytes before it, exactly where no window is open that is no
frame. -/
theorem returned_iff {found : Rdm6300Frame} (hfound : parse_rdm6300_frame frame = .ok found) :
    (frames_of (outcomes (cut closes [] (front ++ frame.take (FRAME_LENGTH - 1))).1) =
        frames_of (outcomes (cut closes [] front).1) →
      frames_of (outcomes (cut closes [] (front ++ frame)).1) =
        frames_of (outcomes (cut closes [] front).1) ++ [found]) ↔
    (open_window front = [] ∨
      Valid (open_window front ++ frame.take (FRAME_LENGTH - (open_window front).length))) := by
  obtain ⟨hlength, hstart, hend⟩ := Valid.markers ⟨found, hfound⟩
  have hshort : (open_window front).length < FRAME_LENGTH := length_cut_open (by decide)
  rw [frames_after, frames_after]
  by_cases hopen : open_window front = []
  · have hwindow : outcomes (cut closes [] frame).1 = [.ok (some found)] := by
      have hcut := cut_window hstart hlength []
      rw [List.append_nil] at hcut
      rw [hcut, cut_nil, outcomes_window hlength, outcome_of_valid hfound]
      rfl
    rw [hopen, hwindow]
    exact ⟨fun _ => .inl rfl, fun _ _ => rfl⟩
  · have hpositive : 0 < (open_window front).length := List.length_pos_of_ne_nil hopen
    generalize open_window front = piece at hshort hopen hpositive
    have hframe : FRAME_LENGTH = 14 := rfl
    have hbody : (frame.take (FRAME_LENGTH - piece.length)).length = FRAME_LENGTH - piece.length :=
      List.length_take_of_le (by omega)
    have hsome : frame.take (FRAME_LENGTH - piece.length) ≠ [] := fun hnil => by
      rw [hnil, List.length_nil] at hbody
      omega
    have hbrings : ∀ part, frame.take (FRAME_LENGTH - piece.length) <+: part → part.length ≤ FRAME_LENGTH →
        outcomes (cut closes piece part).1 =
          [(outcome (piece ++ frame.take (FRAME_LENGTH - piece.length))).map some] := by
      rintro part ⟨rest, rfl⟩ hpart
      rw [List.length_append] at hpart
      exact outcomes_of_open hopen hsome (by omega) (by omega)
    have hinside := hbrings (frame.take (FRAME_LENGTH - 1)) (List.take_prefix_take_left (by omega))
      (by rw [List.length_take]; omega)
    have hwhole := hbrings frame (List.take_prefix _ _) hlength.le
    rw [hinside, hwhole]
    rcases frames_of_outcome (piece ++ frame.take (FRAME_LENGTH - piece.length)) with ⟨other, hother, hframes⟩ | ⟨hnot, hframes⟩
    · rw [hframes]
      refine ⟨fun _ => .inr ⟨other, hother⟩, fun _ hsame => ?_⟩
      exact absurd (List.append_right_eq_self.mp hsame) (List.cons_ne_nil _ _)
    · rw [hframes, List.append_nil]
      refine ⟨fun hreturned => ?_, fun hclear => absurd (hclear.resolve_left hopen) hnot⟩
      exact absurd (List.append_right_eq_self.mp (hreturned rfl).symm) (List.cons_ne_nil _ _)

/-- A reader with room for a read and an incomplete frame resynchronises exactly in the streams where no valid frame starts
in a window that is no frame. -/
theorem resynchronises_iff (reader : ReadOnlyRdm6300Serial)
    (hroom : FRAME_LENGTH - 1 + READ_BYTES ≤ reader.max_buffer_bytes) (stream : List UInt8) :
    Resynchronises reader stream ↔ Clear stream := by
  have hresults := reader.results_eq hroom
  constructor
  · rintro hsynchronised front frame back hstream ⟨found, hfound⟩
    refine (returned_iff hfound).mp fun hinside => ?_
    obtain ⟨before, hbefore⟩ := exists_delivered front
    obtain ⟨inside, hdelivered⟩ := exists_delivered (front ++ frame.take (FRAME_LENGTH - 1))
    obtain ⟨after, hafter⟩ := exists_delivered (front ++ frame)
    have hreturned := hsynchronised.returned front frame back found hstream hfound before inside after hbefore hdelivered hafter
    rw [hresults, hresults, hresults, hbefore, hdelivered, hafter] at hreturned
    exact hreturned hinside
  · intro hclear
    refine ⟨fun polls polls' _ hsame => ?_, fun polls _ hbound => ?_, ?_⟩
    · rw [hresults, hresults, hsame]
    · rw [hresults] at hbound
      obtain ⟨window, _, hwindow⟩ := List.mem_map.mp hbound
      cases houtcome : outcome window with
      | ok frame =>
        rw [houtcome] at hwindow
        cases hwindow
      | error error =>
        rw [houtcome] at hwindow
        cases hwindow
        exact absurd (outcome_raises window _ houtcome) (by decide)
    · intro front frame back found hstream hfound before inside after hbefore hdelivered hafter
      rw [hresults, hresults, hresults, hbefore, hdelivered, hafter]
      exact (returned_iff hfound).mpr (hclear front frame back hstream ⟨found, hfound⟩)

/-- The reader with the default bound. -/
def default_reader : ReadOnlyRdm6300Serial := ⟨4096, by decide⟩

/-- The bytes of a token that is presented, with its checksum. -/
def presented : List UInt8 := [STX, 48, 49, 48, 48, 48, 55, 51, 52, 69, 48, 68, 50, ETX]

/-- A frame after a byte of noise is returned. -/
theorem frame_after_noise : Resynchronises default_reader (65 :: presented) := by
  refine (resynchronises_iff default_reader (by decide) _).mpr ?_
  intro front frame back hstream hvalid
  have hlength := congrArg List.length hstream
  rw [List.length_append, List.length_append, hvalid.markers.1] at hlength
  have hshort : front.length ≤ 1 := by
    have hnoise : (65 :: presented).length = FRAME_LENGTH + 1 := rfl
    omega
  left
  match front, hshort with
  | [], _ => rfl
  | [first], _ =>
    rw [List.singleton_append, List.cons.injEq] at hstream
    rw [← hstream.1]
    rfl

/-- A frame after a stray start byte is lost with the window that the stray byte opens. -/
theorem frame_after_stray_start_lost :
    default_reader.results [.arrived ⟨STX :: presented, by decide, by decide⟩] = [.error tail_invalid] ∧
      ¬Resynchronises default_reader (STX :: presented) := by
  have hresults := default_reader.results_eq (by decide)
  refine ⟨by rw [hresults]; rfl, fun hsynchronised => ?_⟩
  have hreturned := hsynchronised.returned [STX] presented [] ⟨"01000734E0", "01", "000734E0", "D2"⟩ rfl rfl
    [.arrived ⟨[STX], by decide, by decide⟩] [.arrived ⟨STX :: presented.take 13, by decide, by decide⟩]
    [.arrived ⟨STX :: presented, by decide, by decide⟩] rfl rfl rfl
  rw [hresults, hresults, hresults] at hreturned
  exact absurd (hreturned rfl) (by decide)

end velvet.rdm6300_reader
