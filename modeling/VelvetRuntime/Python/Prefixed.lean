import VelvetRuntime.Python.Except
import VelvetRuntime.Python.Program
import VelvetRuntime.Python.Socket

namespace python.socket

open velvet except Program

/-- `connection.recv(size)`: no more than `size` bytes of what arrives next, and none from a peer that has closed the
connection. A connection with nothing left to hand over times out. -/
def recv (size : Nat) : Program Error (List Arrival) (List UInt8) := do
  match ← get with
  | [] => throw (os_error "timed out")
  | .fault message :: rest => do
    set rest
    throw (os_error message)
  | .bytes chunk :: rest => do
    set (if size < chunk.length then .bytes (chunk.drop size) :: rest else rest)
    return chunk.take size

/-- Read until nothing remains. A turn of the loop that goes on has read something, so less remains. -/
def recv_exact (ended : Error) (remaining : Nat) : Program Error (List Arrival) (List UInt8) :=
  if _ : remaining = 0 then return []
  else do
    let chunk ← recv remaining
    if _ : chunk = [] then throw ended
    else do
      let later ← recv_exact ended (remaining - chunk.length)
      return chunk ++ later
termination_by remaining
decreasing_by
  have := List.length_pos_of_ne_nil ‹chunk ≠ []›
  omega

section prefixed

variable {α : Type}

/-- What reading a frame returns or raises, for what arrives. -/
def receive_prefixed (ended : Error) (check : Nat → Except Error Unit) (decode : List UInt8 → Except Error α)
    (arrivals : List Arrival) : Except Error α := do
  let (header, arrivals) ← receive_exact ended 4 arrivals
  check (unpack header)
  let (payload, _) ← receive_exact ended (unpack header) arrivals
  decode payload

/-- Read a frame: the header, the length it declares, which is checked, and so many bytes, which are decoded. -/
def read_prefixed (ended : Error) (check : Nat → Except Error Unit) (decode : List UInt8 → Except Error α) :
    Program Error (List Arrival) α := do
  let header ← recv_exact ended 4
  of_except (check (unpack header))
  let payload ← recv_exact ended (unpack header)
  of_except (decode payload)

end prefixed

variable {ended : Error} {arrivals : List Arrival}

variable {returns : List UInt8 → List Arrival → Prop} {raises : Error → List Arrival → Prop}

@[simp] theorem wp_recv_exact_zero :
    wp (recv_exact ended 0) returns raises arrivals ↔ returns [] arrivals := by
  rw [recv_exact, dif_pos rfl]
  exact wp_pure []

/-- One turn of the loop, on bytes that have arrived. -/
theorem wp_recv_exact_bytes {size : Nat} {chunk : List UInt8} (hchunk : chunk ≠ []) {rest : List Arrival} :
    wp (recv_exact ended (size + 1)) returns raises (.bytes chunk :: rest) ↔
      wp (recv_exact ended (size + 1 - chunk.length))
        (fun later left => returns (chunk.take (size + 1) ++ later) left) raises
        (if size + 1 < chunk.length then .bytes (chunk.drop (size + 1)) :: rest else rest) := by
  have htaken : chunk.take (size + 1) ≠ [] := by
    rw [ne_eq, List.take_eq_nil_iff]
    exact fun hnone => hnone.elim (Nat.succ_ne_zero size) hchunk
  have hless : size + 1 - (chunk.take (size + 1)).length = size + 1 - chunk.length := by
    rw [List.length_take]
    omega
  rw [recv_exact, dif_neg (Nat.succ_ne_zero size), wp_bind]
  unfold recv
  simp only [wp_bind, wp_get, wp_set, wp_pure]
  rw [dif_neg htaken, wp_bind, hless]
  rfl

/-- Reading takes the bytes that are asked for off what arrives, however it arrives, or fails where they do not. -/
theorem wp_recv_exact {size : Nat}
    (hreturns : ∀ left, size ≤ (delivered arrivals).length → delivered left = (delivered arrivals).drop size →
      returns ((delivered arrivals).take size) left)
    (hraises : ∀ error left, (delivered arrivals).length < size → error = ended ∨ error.kind = .OSError →
      raises error left) :
    wp (recv_exact ended size) returns raises arrivals := by
  induction arrivals generalizing size returns with
  | nil =>
    cases size with
    | zero => exact wp_recv_exact_zero.mpr (hreturns [] (Nat.zero_le _) rfl)
    | succ size =>
      rw [recv_exact, dif_neg (Nat.succ_ne_zero size)]
      exact hraises _ _ (Nat.succ_pos size) (.inr rfl)
  | cons arrival rest ih =>
    cases size with
    | zero => exact wp_recv_exact_zero.mpr (hreturns _ (Nat.zero_le _) rfl)
    | succ size =>
      cases arrival with
      | fault message =>
        rw [recv_exact, dif_neg (Nat.succ_ne_zero size)]
        exact hraises _ _ (Nat.succ_pos size) (.inr rfl)
      | bytes chunk =>
        by_cases hchunk : chunk = []
        · subst hchunk
          rw [recv_exact, dif_neg (Nat.succ_ne_zero size)]
          exact hraises _ _ (Nat.succ_pos size) (.inl rfl)
        rw [wp_recv_exact_bytes hchunk]
        rw [delivered_bytes hchunk] at hreturns hraises
        by_cases hlong : size + 1 < chunk.length
        · have hleft : chunk.drop (size + 1) ≠ [] := by simpa using hlong
          rw [if_pos hlong, Nat.sub_eq_zero_of_le (Nat.le_of_lt hlong), wp_recv_exact_zero, List.append_nil]
          have hreturned := hreturns (.bytes (chunk.drop (size + 1)) :: rest) (by rw [List.length_append]; omega) (by
            rw [delivered_bytes hleft, List.drop_append_of_le_length (Nat.le_of_lt hlong)])
          rwa [List.take_append_of_le_length (Nat.le_of_lt hlong)] at hreturned
        · have hshort := Nat.not_lt.mp hlong
          rw [if_neg hlong, List.take_of_length_le hshort]
          refine ih (fun left hsize hleft => ?_) fun error left hsize herror =>
            hraises error left (by rw [List.length_append]; omega) herror
          have hreturned := hreturns left (by rw [List.length_append]; omega) (by
            rw [hleft, List.drop_append, List.drop_of_length_le hshort, List.nil_append])
          rwa [List.take_append, List.take_of_length_le hshort] at hreturned

/-- The loop on a connection reads what `receive_exact` says. -/
theorem wp_recv_exact_receive_exact (ended : Error) (size : Nat) (arrivals : List Arrival) :
    wp (recv_exact ended size) (fun received left => receive_exact ended size arrivals = .ok (received, left))
      (fun error _ => receive_exact ended size arrivals = .error error) arrivals := by
  induction arrivals generalizing size with
  | nil =>
    cases size with
    | zero => exact wp_recv_exact_zero.mpr rfl
    | succ size =>
      rw [recv_exact, dif_neg (Nat.succ_ne_zero size)]
      rfl
  | cons arrival rest ih =>
    cases size with
    | zero => exact wp_recv_exact_zero.mpr rfl
    | succ size =>
      cases arrival with
      | fault message =>
        rw [recv_exact, dif_neg (Nat.succ_ne_zero size)]
        rfl
      | bytes chunk =>
        by_cases hchunk : chunk = []
        · subst hchunk
          rw [recv_exact, dif_neg (Nat.succ_ne_zero size)]
          rfl
        rw [wp_recv_exact_bytes hchunk, receive_exact, if_neg hchunk]
        by_cases hlong : size + 1 < chunk.length
        · rw [if_pos hlong, if_pos hlong, Nat.sub_eq_zero_of_le (Nat.le_of_lt hlong), wp_recv_exact_zero, List.append_nil]
        · rw [if_neg hlong, if_neg hlong, List.take_of_length_le (Nat.not_lt.mp hlong)]
          refine wp_mono (ih (size + 1 - chunk.length)) (fun later left hlater => ?_) fun error _ herror => ?_
          · rw [hlater]
            rfl
          · rw [herror]
            rfl

/-- Reading a frame on a connection returns and raises what `receive_prefixed` says. -/
theorem wp_read_prefixed_receive_prefixed {α : Type} (ended : Error) (check : Nat → Except Error Unit)
    (decode : List UInt8 → Except Error α) (arrivals : List Arrival) :
    wp (read_prefixed ended check decode) (fun value _ => receive_prefixed ended check decode arrivals = .ok value)
      (fun error _ => receive_prefixed ended check decode arrivals = .error error) arrivals := by
  unfold read_prefixed receive_prefixed
  rw [wp_bind]
  refine wp_mono (wp_recv_exact_receive_exact ended 4 arrivals) (fun header middle hheader => ?_) fun error _ herror => ?_
  swap
  · rw [herror]
    rfl
  rw [hheader, ok_bind, wp_bind, wp_of_except]
  dsimp only
  split
  swap
  · rename_i error hcheck
    rw [hcheck]
    rfl
  rename_i hcheck
  rw [hcheck, ok_bind, wp_bind]
  refine wp_mono (wp_recv_exact_receive_exact ended _ middle) (fun payload left hpayload => ?_) fun error _ herror => ?_
  · rw [hpayload, ok_bind, wp_of_except]
    dsimp only
    split
    · assumption
    · assumption
  · rw [herror]
    rfl

/-- However bytes are split into chunks that are not empty, they arrive. -/
theorem delivered_chunks {chunks : List (List UInt8)} (hchunks : ∀ chunk ∈ chunks, chunk ≠ []) (after : List Arrival) :
    delivered (chunks.map Arrival.bytes ++ after) = chunks.flatten ++ delivered after := by
  induction chunks with
  | nil => rfl
  | cons chunk rest ih =>
    obtain ⟨hchunk, hrest⟩ := List.forall_mem_cons.mp hchunks
    rw [List.map_cons, List.cons_append, delivered_bytes hchunk, ih hrest, List.flatten_cons, List.append_assoc]

theorem toByteArray_toList (bytes : ByteArray) : bytes.data.toList.toByteArray = bytes :=
  ByteArray.ext (Array.toList_inj.mp List.toList_data_toByteArray)

section codec

variable {α β : Type} {check : Nat → Except Error Unit} {decode : List UInt8 → Except Error α}

/-- A frame whose length is allowed is read whole, however it arrives, and no byte after it. -/
theorem wp_read_prefixed {head body rest : List UInt8} {value : α} (hhead : head.length = 4)
    (hlength : unpack head = body.length) (hcheck : check body.length = .ok ()) (hdecode : decode body = .ok value)
    (harrivals : delivered arrivals = head ++ body ++ rest) :
    wp (read_prefixed ended check decode) (fun received left => received = value ∧ delivered left = rest)
      (fun _ _ => False) arrivals := by
  have hwhole : (delivered arrivals).length = 4 + body.length + rest.length := by
    rw [harrivals, List.length_append, List.length_append, hhead]
  have htake : (delivered arrivals).take 4 = head := by
    rw [harrivals, List.append_assoc, List.take_left' hhead]
  have hdrop : (delivered arrivals).drop 4 = body ++ rest := by
    rw [harrivals, List.append_assoc, List.drop_left' hhead]
  unfold read_prefixed
  rw [wp_bind]
  refine wp_recv_exact (fun middle _ hmiddle => ?_) fun _ _ hshort _ => absurd hshort (by omega)
  rw [hdrop] at hmiddle
  rw [htake, hlength, hcheck, wp_bind, wp_of_except]
  dsimp only
  rw [wp_bind]
  refine wp_recv_exact (fun left _ hleft => ?_) fun _ _ hshort _ => absurd hshort (by
    rw [hmiddle, List.length_append]
    omega)
  rw [hmiddle, List.drop_left] at hleft
  rw [hmiddle, List.take_left, hdecode, wp_of_except]
  exact ⟨rfl, hleft⟩

/-- A frame that does not arrive whole is not read. -/
theorem wp_read_prefixed_short
    (hshort : (delivered arrivals).length < 4 + unpack ((delivered arrivals).take 4)) :
    wp (read_prefixed ended check decode) (fun _ _ => False) (fun _ _ => True) arrivals := by
  unfold read_prefixed
  rw [wp_bind]
  refine wp_recv_exact (fun middle hfour hmiddle => ?_) fun _ _ _ _ => trivial
  rw [wp_bind, wp_of_except]
  split
  · rw [wp_bind]
    refine wp_recv_exact (fun left hsize _ => ?_) fun _ _ _ _ => trivial
    rw [hmiddle, List.length_drop] at hsize
    omega
  · trivial

/-- A frame whose length is refused is left where it is, but for its header. -/
theorem wp_read_prefixed_refused {error : Error} (hfour : 4 ≤ (delivered arrivals).length)
    (hcheck : check (unpack ((delivered arrivals).take 4)) = .error error) :
    wp (read_prefixed ended check decode) (fun _ _ => False)
      (fun raised left => raised = error ∧ delivered left = (delivered arrivals).drop 4) arrivals := by
  unfold read_prefixed
  rw [wp_bind]
  refine wp_recv_exact (fun middle _ hmiddle => ?_) fun _ _ hshort _ => absurd hshort (Nat.not_lt.mpr hfour)
  rw [wp_bind, hcheck, wp_of_except]
  exact ⟨rfl, hmiddle⟩

/-- What a pair of functions that write and read frames has to do: a frame that was written is read as the same message,
however its bytes arrive, and no byte after it; a part of it is not; and a length that is not allowed is refused with the
body unread. -/
structure Framing (write : β → Except Error ByteArray) (read : Program Error (List Arrival) α) (allowed : Nat → Prop)
    (equal : α → β → Prop) : Prop where
  reads_back : ∀ message frame arrivals rest, write message = .ok frame →
    delivered arrivals = frame.data.toList ++ rest →
      wp read (fun received left => equal received message ∧ delivered left = rest) (fun _ _ => False) arrivals
  cut_short : ∀ message frame arrivals, write message = .ok frame → delivered arrivals <+: frame.data.toList →
    delivered arrivals ≠ frame.data.toList → wp read (fun _ _ => False) (fun _ _ => True) arrivals
  refuses : ∀ arrivals, 4 ≤ (delivered arrivals).length → ¬allowed (unpack ((delivered arrivals).take 4)) →
    wp read (fun _ _ => False) (fun _ left => delivered left = (delivered arrivals).drop 4) arrivals

variable {write : β → Except Error ByteArray}

theorem Framing.mono {read : Program Error (List Arrival) α} {allowed : Nat → Prop}
    {equal other : α → β → Prop} (hframing : Framing write read allowed equal)
    (hequal : ∀ value message, equal value message → other value message) : Framing write read allowed other where
  reads_back := fun message frame arrivals rest hframe harrivals =>
    wp_mono (hframing.reads_back message frame arrivals rest hframe harrivals)
      (fun value _ hboth => ⟨hequal value message hboth.1, hboth.2⟩) fun _ _ hfalse => hfalse
  cut_short := hframing.cut_short
  refuses := hframing.refuses

/-- What is written as a header and a body that is decoded again is framed. -/
theorem framing_read_prefixed {allowed : Nat → Prop} {equal : α → β → Prop}
    (hwrite : ∀ message frame, write message = .ok frame → ∃ head body value,
      frame.data.toList = head ++ body ∧ pack body.length = .ok head ∧ check body.length = .ok () ∧
        decode body = .ok value ∧ equal value message)
    (hcheck : ∀ size, ¬allowed size → ∃ error, check size = .error error) :
    Framing write (read_prefixed ended check decode) allowed equal where
  reads_back := by
    intro message frame arrivals rest hframe harrivals
    obtain ⟨head, body, value, hbytes, hpack, hallowed, hdecode, hequal⟩ := hwrite message frame hframe
    obtain ⟨hhead, hlength⟩ := unpack_pack hpack
    rw [hbytes] at harrivals
    refine wp_mono (wp_read_prefixed hhead hlength hallowed hdecode harrivals) ?_ fun _ _ hfalse => hfalse
    rintro received left ⟨rfl, hleft⟩
    exact ⟨hequal, hleft⟩
  cut_short := by
    intro message frame arrivals hframe hbegins hpart
    obtain ⟨head, body, value, hbytes, hpack, -, -, -⟩ := hwrite message frame hframe
    obtain ⟨hhead, hlength⟩ := unpack_pack hpack
    have hless : (delivered arrivals).length < 4 + body.length := by
      have hshorter := Nat.lt_of_le_of_ne hbegins.length_le fun hsame => hpart (hbegins.eq_of_length hsame)
      rw [hbytes, List.length_append, hhead] at hshorter
      exact hshorter
    refine wp_read_prefixed_short ?_
    by_cases hfour : 4 ≤ (delivered arrivals).length
    · have htake : (delivered arrivals).take 4 = head := by
        obtain ⟨after, hafter⟩ := hbegins
        rw [hbytes] at hafter
        have hsame := congrArg (List.take 4) hafter
        rwa [List.take_append_of_le_length hfour, List.take_left' hhead] at hsame
      rw [htake, hlength]
      exact hless
    · omega
  refuses := by
    intro arrivals hfour hrefused
    obtain ⟨error, herror⟩ := hcheck _ hrefused
    exact wp_mono (wp_read_prefixed_refused hfour herror) (fun _ _ hfalse => hfalse) fun _ _ hboth => hboth.2

end codec

end python.socket
