import VelvetRuntime.BodyState.Follower

open python python.num python.str python.json velvet.body_state_bridge framing

namespace velvet.body_health_journal_follower

/-- The lines that are complete, each with its newline. -/
def lines (bytes : List UInt8) : List (List UInt8) := (cut (line (· == newline)) [] bytes).1

/-- What `poll` reads of some bytes at once, up to the piece that is not complete. -/
def pieces (max_line_bytes : Nat) (bytes : List UInt8) : List (List UInt8) × List UInt8 :=
  cut (bounded (· == newline) (max_line_bytes + 1)) [] bytes

section lines

variable {max_line_bytes : Nat} {bytes found : List UInt8}

theorem isLine_of_mem (hfound : found ∈ lines bytes) : IsLine (· == newline) found :=
  isLine_of_mem_cut hfound

/-- The pieces of lines one after the other; the piece at the end that is not complete gives full ones only. -/
theorem pieces_eq (max_line_bytes : Nat) (bytes : List UInt8) :
    ∃ full, (pieces max_line_bytes bytes).1 =
        (lines bytes).flatMap (fun line => (pieces max_line_bytes line).1) ++ full ∧
      ∀ piece ∈ full, piece.length = max_line_bytes + 1 := by
  have hfiner : ∀ (piece : List UInt8) (item : UInt8), line (· == newline) piece item = true →
      ∀ part, bounded (· == newline) (max_line_bytes + 1) part item = true := by
    intro _ item hends _
    rw [bounded, show (item == newline) = true from hends, Bool.true_or]
  refine ⟨_, congrArg Prod.fst (cut_refines hfiner [] bytes), fun piece hpiece => length_of_mem_cut ?_ hpiece⟩
  rw [List.nil_append]
  exact no_end_of_cut (· == newline) bytes

/-- What is read of a line: pieces that are too long, and the last one. -/
theorem pieces_of_line (max_line_bytes : Nat) (hline : IsLine (· == newline) found) :
    ∃ full, pieces max_line_bytes found = (full ++ [last_piece (max_line_bytes + 1) found], []) ∧
      ∀ piece ∈ full, piece.length = max_line_bytes + 1 :=
  cut_of_line (Nat.succ_pos _) hline

theorem last_piece_of_short (hshort : found.length ≤ max_line_bytes) : last_piece (max_line_bytes + 1) found = found :=
  last_piece_of_length_le (Nat.succ_pos _) (Nat.le_succ_of_le hshort)

/-- A piece that is parsed is what stays of a line. -/
theorem mem_lines_of_mem_pieces {piece : List UInt8} (hpiece : piece ∈ (pieces max_line_bytes bytes).1)
    (hshort : piece.length ≤ max_line_bytes) :
    ∃ line ∈ lines bytes, piece = last_piece (max_line_bytes + 1) line := by
  obtain ⟨rest, hpieces, hrest⟩ := pieces_eq max_line_bytes bytes
  rw [hpieces] at hpiece
  rcases List.mem_append.mp hpiece with hpiece | hlate
  · obtain ⟨line, hline, hpiece⟩ := List.mem_flatMap.mp hpiece
    obtain ⟨full, hcut, hfull⟩ := pieces_of_line max_line_bytes (isLine_of_mem hline)
    rw [hcut] at hpiece
    rcases List.mem_append.mp hpiece with hlong | hlast
    · have hlength := hfull piece hlong
      omega
    · exact ⟨line, hline, List.mem_singleton.mp hlast⟩
  · have hlength := hrest piece hlate
    omega

end lines

section following

variable [StrLower] [StrUpper] (interpreter : Interpreter) (max_line_bytes : Nat)

/-- What is published for a line that holds a health record. -/
def health_record (raw : List UInt8) : Option Publication :=
  match parse_health_record interpreter raw with
  | .ok (some record) => some (publish_health record)
  | _ => none

/-- What a follower is for: the health records of the complete lines that are not too long, in order. -/
def due (bytes : List UInt8) : List Publication :=
  (lines bytes).filterMap (fun line => if line.length ≤ max_line_bytes then health_record interpreter line else none)

/-- A line that can be read raises nothing; of a longer one, what stays after the pieces that are skipped holds no health
record either. -/
def Plain (line : List UInt8) : Prop :=
  (last_piece (max_line_bytes + 1) line).length ≤ max_line_bytes →
    ∃ found, parse_health_record interpreter (last_piece (max_line_bytes + 1) line) = .ok found ∧
      (max_line_bytes < line.length → found = none)

/-- Bytes in which a follower finds no health record. -/
def Silent (bytes : List UInt8) : Prop :=
  ∀ line ∈ lines bytes, (last_piece (max_line_bytes + 1) line).length ≤ max_line_bytes →
    parse_health_record interpreter (last_piece (max_line_bytes + 1) line) = .ok none

/-- What is published for some pieces. -/
def published_of (parts : List (List UInt8)) : List Publication :=
  parts.filterMap (fun piece => if piece.length ≤ max_line_bytes then health_record interpreter piece else none)

/-- No piece that is parsed raises an error. -/
def Quiet (parts : List (List UInt8)) : Prop :=
  ∀ piece ∈ parts, piece.length ≤ max_line_bytes → ∃ found, parse_health_record interpreter piece = .ok found

section pieces

variable {interpreter max_line_bytes} {bytes : List UInt8} {parts : List (List UInt8)}

theorem published_of_append (others : List (List UInt8)) : published_of interpreter max_line_bytes (parts ++ others) =
    published_of interpreter max_line_bytes parts ++ published_of interpreter max_line_bytes others :=
  List.filterMap_append

theorem published_of_long (hlong : ∀ piece ∈ parts, piece.length = max_line_bytes + 1) :
    published_of interpreter max_line_bytes parts = [] := by
  refine List.filterMap_eq_nil_iff.mpr fun piece hpiece => if_neg ?_
  rw [hlong piece hpiece]
  exact Nat.not_succ_le_self _

theorem published_of_parsed {raw : List UInt8} {record : BodyRecord} (hshort : raw.length ≤ max_line_bytes)
    (hparsed : parse_health_record interpreter raw = .ok (some record)) :
    published_of interpreter max_line_bytes [raw] = [publish_health record] := by
  rw [published_of, List.filterMap_cons, if_pos hshort, health_record, hparsed, List.filterMap_nil]

/-- A line publishes what its last piece publishes. -/
theorem published_of_line {found : List UInt8} (hline : IsLine (· == newline) found) :
    published_of interpreter max_line_bytes (pieces max_line_bytes found).1 =
      published_of interpreter max_line_bytes [last_piece (max_line_bytes + 1) found] := by
  obtain ⟨full, hcut, hfull⟩ := pieces_of_line max_line_bytes hline
  rw [hcut, published_of_append, published_of_long hfull, List.nil_append]

theorem published_of_pieces (bytes : List UInt8) : published_of interpreter max_line_bytes (pieces max_line_bytes bytes).1 =
    published_of interpreter max_line_bytes ((lines bytes).map (last_piece (max_line_bytes + 1))) := by
  obtain ⟨full, hpieces, hfull⟩ := pieces_eq max_line_bytes bytes
  rw [hpieces, published_of_append, published_of_long hfull, List.append_nil]
  have hlines : ∀ found ∈ lines bytes, IsLine (· == newline) found := fun found hfound => isLine_of_mem hfound
  generalize lines bytes = complete at hlines ⊢
  induction complete with
  | nil => rfl
  | cons line rest ih =>
    rw [List.flatMap_cons, published_of_append, published_of_line (hlines line List.mem_cons_self),
      ih fun later hlater => hlines later (List.mem_cons_of_mem _ hlater), ← published_of_append]
    rfl

section

variable (hplain : ∀ line ∈ lines bytes, Plain interpreter max_line_bytes line)

include hplain

/-- Of plain lines, what is published is what is due. -/
theorem published_of_plain :
    published_of interpreter max_line_bytes (pieces max_line_bytes bytes).1 = due interpreter max_line_bytes bytes := by
  rw [published_of_pieces, published_of, List.filterMap_map]
  refine List.filterMap_congr fun line hline => ?_
  rw [Function.comp_apply]
  by_cases hshort : line.length ≤ max_line_bytes
  · rw [last_piece_of_short hshort]
  · rw [if_neg hshort]
    split
    case isTrue hlast =>
      obtain ⟨found, hparsed, hnone⟩ := hplain line hline hlast
      rw [health_record, hparsed, hnone (Nat.lt_of_not_le hshort)]
    case isFalse => rfl

theorem quiet_of_plain :
    Quiet interpreter max_line_bytes (pieces max_line_bytes bytes).1 := by
  intro piece hpiece hshort
  obtain ⟨line, hline, rfl⟩ := mem_lines_of_mem_pieces hpiece hshort
  obtain ⟨found, hparsed, _⟩ := hplain line hline hshort
  exact ⟨found, hparsed⟩

end

theorem published_of_silent (hsilent : Silent interpreter max_line_bytes bytes) :
    published_of interpreter max_line_bytes (pieces max_line_bytes bytes).1 = [] := by
  refine List.filterMap_eq_nil_iff.mpr fun piece hpiece => ?_
  split
  case isTrue hshort =>
    obtain ⟨line, hline, rfl⟩ := mem_lines_of_mem_pieces hpiece hshort
    rw [health_record, hsilent line hline hshort]
  case isFalse => rfl

theorem quiet_of_silent (hsilent : Silent interpreter max_line_bytes bytes) :
    Quiet interpreter max_line_bytes (pieces max_line_bytes bytes).1 := by
  intro piece hpiece hshort
  obtain ⟨line, hline, rfl⟩ := mem_lines_of_mem_pieces hpiece hshort
  exact ⟨none, hsilent line hline hshort⟩

/-- The loop reads the pieces: it publishes what they hold, and stops where the piece begins that is not complete. -/
theorem read_lines_eq {fuel : Nat} (offset : Nat) (hfuel : bytes.length < fuel)
    (hquiet : Quiet interpreter max_line_bytes (pieces max_line_bytes bytes).1) :
    read_lines interpreter max_line_bytes fuel offset bytes =
      ⟨offset + (pieces max_line_bytes bytes).1.flatten.length,
        published_of interpreter max_line_bytes (pieces max_line_bytes bytes).1,
        .ok (published_of interpreter max_line_bytes (pieces max_line_bytes bytes).1).length⟩ := by
  induction fuel generalizing offset bytes with
  | zero => exact absurd hfuel (Nat.not_lt_zero _)
  | succ fuel ih =>
    have hroom : ([] : List UInt8).length + max_line_bytes + 1 = max_line_bytes + 1 := by rw [List.length_nil, Nat.zero_add]
    have hread := cut_readline (· == newline) bytes hroom
    have hlength := length_readline_le (· == newline) (max_line_bytes + 1) bytes
    have hwithin := (prefix_of_readline (· == newline) (max_line_bytes + 1) bytes).length_le
    rw [List.nil_append] at hread
    rw [read_lines]
    dsimp only
    unfold readline
    generalize hraw : framing.readline (· == newline) (max_line_bytes + 1) bytes = raw at hread hlength hwithin ⊢
    -- every pass but the last goes on behind a whole piece
    have hlater (hwhole : raw.length = max_line_bytes + 1 ∨ raw.getLast?.any (· == newline) = true) (hne : raw ≠ []) :
        (pieces max_line_bytes bytes).1 = raw :: (pieces max_line_bytes (bytes.drop raw.length)).1 ∧
          read_lines interpreter max_line_bytes fuel (offset + raw.length) (bytes.drop raw.length) =
            ⟨offset + raw.length + (pieces max_line_bytes (bytes.drop raw.length)).1.flatten.length,
              published_of interpreter max_line_bytes (pieces max_line_bytes (bytes.drop raw.length)).1,
              .ok (published_of interpreter max_line_bytes (pieces max_line_bytes (bytes.drop raw.length)).1).length⟩ := by
      have hcut : (pieces max_line_bytes bytes).1 = raw :: (pieces max_line_bytes (bytes.drop raw.length)).1 :=
        congrArg Prod.fst (hread.1 hwhole)
      have hsome : 0 < raw.length := List.length_pos_iff.mpr hne
      refine ⟨hcut, ih (offset + raw.length) (by rw [List.length_drop]; omega) fun piece hpiece hshort => ?_⟩
      exact hquiet piece (by rw [hcut]; exact List.mem_cons_of_mem _ hpiece) hshort
    have hlast (hopen : raw.length ≠ max_line_bytes + 1) (hnone : raw.getLast?.any (· == newline) = false) :
        (pieces max_line_bytes bytes).1 = [] := congrArg Prod.fst (hread.2 hopen hnone).2
    split
    case isTrue hnil =>
      rw [hlast (by rw [hnil]; exact (Nat.succ_ne_zero _).symm) (by rw [hnil]; rfl)]
      rfl
    case isFalse hne =>
      split
      case isTrue hlong =>
        obtain ⟨hcut, hrest⟩ := hlater (.inl (by omega)) hne
        have hskipped : published_of interpreter max_line_bytes [raw] = [] := published_of_long (by simp; omega)
        rw [hrest, hcut, List.flatten_cons, List.length_append, ← Nat.add_assoc, ← List.singleton_append,
          published_of_append, hskipped, List.nil_append]
      case isFalse hshort =>
        split
        case isTrue hnone =>
          rw [hlast (by omega) hnone]
          rfl
        case isFalse hends =>
          obtain ⟨hcut, hrest⟩ := hlater (.inr (Bool.not_eq_false _ ▸ hends)) hne
          obtain ⟨found, hparsed⟩ := hquiet raw (by rw [hcut]; exact List.mem_cons_self) (Nat.le_of_not_lt hshort)
          have hpublished : published_of interpreter max_line_bytes [raw] = (found.map publish_health).toList := by
            rw [published_of, List.filterMap_cons, if_pos (Nat.le_of_not_lt hshort), health_record, hparsed]
            cases found <;> rfl
          rw [hparsed, hrest, hcut, List.flatten_cons, List.length_append, ← Nat.add_assoc, ← List.singleton_append,
            published_of_append, hpublished]
          cases found with
          | none => rfl
          | some record =>
            rw [Option.map_some, Option.toList_some, List.singleton_append, List.length_cons]
            rfl

variable {follower : BodyHealthJournalFollower}

/-- A `stat` that fails sends the follower back to the start of the journal. -/
theorem BodyHealthJournalFollower.poll_missing {journal : List UInt8} {call : PollCall}
    (hstarted : follower.initialized = true) (hstat : call.stat = false) :
    follower.poll interpreter journal call = ({ follower with offset := 0 }, [], .ok 0) := by
  unfold BodyHealthJournalFollower.poll
  rw [if_neg (by rw [Bool.not_eq_false]; exact hstarted), hstat]
  rfl

/-- A poll that reads the journal publishes what the bytes behind the offset hold. -/
theorem BodyHealthJournalFollower.poll_read {read waiting : List UInt8}
    (hlimit : follower.max_line_bytes = max_line_bytes) (hstarted : follower.initialized = true)
    (hoffset : follower.offset = read.length) (hquiet : Quiet interpreter max_line_bytes (pieces max_line_bytes waiting).1) :
    follower.poll interpreter (read ++ waiting) ⟨true, true⟩ =
      ({ follower with offset := read.length + (pieces max_line_bytes waiting).1.flatten.length },
        published_of interpreter max_line_bytes (pieces max_line_bytes waiting).1,
        .ok (published_of interpreter max_line_bytes (pieces max_line_bytes waiting).1).length) := by
  subst hlimit
  have hlength : (read ++ waiting).length = read.length + waiting.length := List.length_append
  have hsize : ¬(read ++ waiting).length < follower.offset := by omega
  have hfuel : waiting.length < (read ++ waiting).length + 1 := by omega
  have hloop := read_lines_eq read.length hfuel hquiet
  unfold BodyHealthJournalFollower.poll
  rw [if_neg (by rw [Bool.not_eq_false]; exact hstarted), if_pos rfl]
  dsimp only
  rw [if_neg hsize, if_pos rfl, hoffset, List.drop_left, hloop]

end pieces

/-- A follower, the journal that it was primed at and what was appended since, and what it has published. -/
structure Following where
  history : List UInt8
  appended : List UInt8
  follower : BodyHealthJournalFollower
  published : List Publication

/-- What happens to a journal that only grows and to its follower. -/
inductive Operation where
  | append (piece : List UInt8)
  | poll (call : PollCall)

namespace Following

def journal (following : Following) : List UInt8 := following.history ++ following.appended

/-- The follower after `prime`, with a `stat` that succeeds or not. -/
def primed (follower : BodyHealthJournalFollower) (history : List UInt8) (stat : Bool) : Following :=
  ⟨history, [], follower.prime (if stat then some history.length else none), []⟩

/-- What an operation changes, and what a poll answers. -/
def step (following : Following) : Operation → Following × Except Error Nat
  | .append piece => ({ following with appended := following.appended ++ piece }, .ok 0)
  | .poll call =>
    let (follower, published, answer) := following.follower.poll interpreter following.journal call
    ({ following with follower, published := following.published ++ published }, answer)

/-- Appended bytes complete plain lines only, and `stat` fails only where the bytes before the offset hold no health record. -/
def Harmless (following : Following) : Operation → Prop
  | .append piece => ∀ line ∈ lines (following.appended ++ piece), Plain interpreter following.follower.max_line_bytes line
  | .poll call => call.stat = false →
      Silent interpreter following.follower.max_line_bytes (following.journal.take following.follower.offset)

/-- The offset is where a piece begins, and what was published and what the rest of the journal holds is what was appended. -/
structure Tracks (following : Following) (read waiting : List UInt8) : Prop where
  limit : following.follower.max_line_bytes = max_line_bytes
  initialized : following.follower.initialized = true
  journal_eq : following.journal = read ++ waiting
  offset : following.follower.offset = read.length
  history_closed : (pieces max_line_bytes following.history).2 = []
  read_closed : (pieces max_line_bytes read).2 = []
  plain : ∀ line ∈ lines following.appended, Plain interpreter max_line_bytes line
  quiet : Quiet interpreter max_line_bytes (pieces max_line_bytes waiting).1
  published_eq : following.published ++ published_of interpreter max_line_bytes (pieces max_line_bytes waiting).1 =
    due interpreter max_line_bytes following.appended

variable {interpreter max_line_bytes} {following : Following} {read waiting : List UInt8}

/-- Where the offset is, and where the journal was primed, a piece begins: the piece that is not complete is the same. -/
theorem Tracks.open_eq (htracks : following.Tracks interpreter max_line_bytes read waiting) :
    (pieces max_line_bytes waiting).2 = (pieces max_line_bytes following.appended).2 := by
  have hread := congrArg Prod.snd (cut_append_of_closed htracks.read_closed waiting)
  have hhistory := congrArg Prod.snd (cut_append_of_closed htracks.history_closed following.appended)
  have hjournal := htracks.journal_eq
  rw [journal] at hjournal
  rw [← hjournal] at hread
  exact hread.symm.trans hhistory

theorem Tracks.append (htracks : following.Tracks interpreter max_line_bytes read waiting) {piece : List UInt8}
    (hharmless : following.Harmless interpreter (.append piece)) :
    (following.step interpreter (.append piece)).1.Tracks interpreter max_line_bytes read (waiting ++ piece) := by
  have hplain : ∀ line ∈ lines (following.appended ++ piece), Plain interpreter max_line_bytes line := by
    rw [← htracks.limit]
    exact hharmless
  -- the new pieces are those that continue the piece that was not complete
  have hwaiting := congrArg Prod.fst (cut_append (bounded (· == newline) (max_line_bytes + 1)) [] waiting piece)
  have happended := congrArg Prod.fst (cut_append (bounded (· == newline) (max_line_bytes + 1)) [] following.appended piece)
  change (pieces max_line_bytes (waiting ++ piece)).1 = (pieces max_line_bytes waiting).1 ++
    (cut _ (pieces max_line_bytes waiting).2 piece).1 at hwaiting
  change (pieces max_line_bytes (following.appended ++ piece)).1 = (pieces max_line_bytes following.appended).1 ++
    (cut _ (pieces max_line_bytes following.appended).2 piece).1 at happended
  rw [htracks.open_eq] at hwaiting
  exact {
    limit := htracks.limit
    initialized := htracks.initialized
    journal_eq := by
      change following.history ++ (following.appended ++ piece) = read ++ (waiting ++ piece)
      rw [← List.append_assoc, ← List.append_assoc]
      exact congrArg (· ++ piece) htracks.journal_eq
    offset := htracks.offset
    history_closed := htracks.history_closed
    read_closed := htracks.read_closed
    plain := hplain
    quiet := by
      intro part hpart
      rw [hwaiting] at hpart
      rcases List.mem_append.mp hpart with hearlier | hnew
      · exact htracks.quiet part hearlier
      · exact quiet_of_plain hplain part (by rw [happended]; exact List.mem_append_right _ hnew)
    published_eq := by
      change following.published ++ _ = due interpreter max_line_bytes (following.appended ++ piece)
      rw [hwaiting, published_of_append, ← List.append_assoc, htracks.published_eq, ← published_of_plain htracks.plain,
        ← published_of_append, ← happended, published_of_plain hplain] }

theorem step_poll {call : PollCall} {polled : BodyHealthJournalFollower × List Publication × Except Error Nat}
    (hpoll : following.follower.poll interpreter following.journal call = polled) :
    following.step interpreter (.poll call) =
      ({ following with follower := polled.1, published := following.published ++ polled.2.1 }, polled.2.2) := by
  rw [← hpoll]
  rfl

section

variable (htracks : following.Tracks interpreter max_line_bytes read waiting)

include htracks

/-- A `stat` that fails sends the follower back to the start, past bytes in which it finds nothing. -/
theorem Tracks.poll_missing (opened : Bool)
    (hsilent : Silent interpreter max_line_bytes read) :
    (following.step interpreter (.poll ⟨false, opened⟩)).1.Tracks interpreter max_line_bytes [] following.journal ∧
      (following.step interpreter (.poll ⟨false, opened⟩)).2 = .ok 0 := by
  have hpieces : (pieces max_line_bytes following.journal).1 =
      (pieces max_line_bytes read).1 ++ (pieces max_line_bytes waiting).1 := by
    rw [htracks.journal_eq]
    exact congrArg Prod.fst (cut_append_of_closed htracks.read_closed waiting)
  rw [step_poll (BodyHealthJournalFollower.poll_missing htracks.initialized rfl)]
  refine ⟨?_, rfl⟩
  exact {
    limit := htracks.limit
    initialized := htracks.initialized
    journal_eq := rfl
    offset := rfl
    history_closed := htracks.history_closed
    read_closed := rfl
    plain := htracks.plain
    quiet := by
      intro piece hpiece
      rw [hpieces] at hpiece
      rcases List.mem_append.mp hpiece with hread | hwaiting
      · exact quiet_of_silent hsilent piece hread
      · exact htracks.quiet piece hwaiting
    published_eq := by
      rw [hpieces, published_of_append, published_of_silent hsilent, List.nil_append, List.append_nil]
      exact htracks.published_eq }

/-- A poll that finds the journal but cannot open it changes nothing. -/
theorem Tracks.poll_unopened :
    following.step interpreter (.poll ⟨true, false⟩) = (following, .ok 0) := by
  have hpoll : following.follower.poll interpreter following.journal ⟨true, false⟩ = (following.follower, [], .ok 0) := by
    have hsize : ¬following.journal.length < following.follower.offset := by
      rw [htracks.journal_eq, htracks.offset, List.length_append]
      omega
    unfold BodyHealthJournalFollower.poll
    rw [if_neg (by rw [Bool.not_eq_false]; exact htracks.initialized), if_pos rfl]
    dsimp only
    rw [if_neg hsize]
    rfl
  rw [step_poll hpoll, List.append_nil]

/-- A poll that reads the journal publishes what the rest of it holds. -/
theorem Tracks.poll_read :
    (following.step interpreter (.poll ⟨true, true⟩)).1.Tracks interpreter max_line_bytes
        (read ++ (pieces max_line_bytes waiting).1.flatten) (pieces max_line_bytes waiting).2 ∧
      (following.step interpreter (.poll ⟨true, true⟩)).1.published = due interpreter max_line_bytes following.appended ∧
      (following.step interpreter (.poll ⟨true, true⟩)).2 =
        .ok (published_of interpreter max_line_bytes (pieces max_line_bytes waiting).1).length := by
  have hpoll := BodyHealthJournalFollower.poll_read htracks.limit htracks.initialized htracks.offset htracks.quiet
  rw [← htracks.journal_eq] at hpoll
  have hclosed : cut (bounded (· == newline) (max_line_bytes + 1)) [] (pieces max_line_bytes waiting).1.flatten =
      ((pieces max_line_bytes waiting).1, []) :=
    cut_flatten fun found hfound => open_nil.cut_of_mem hfound
  have hopen : pieces max_line_bytes (pieces max_line_bytes waiting).2 = ([], (pieces max_line_bytes waiting).2) :=
    open_nil.cut_snd
  rw [step_poll hpoll]
  refine ⟨?_, htracks.published_eq, rfl⟩
  exact {
    limit := htracks.limit
    initialized := htracks.initialized
    journal_eq := by
      have hwhole : (pieces max_line_bytes waiting).1.flatten ++ (pieces max_line_bytes waiting).2 = waiting :=
        flatten_cut.trans (List.nil_append _)
      rw [List.append_assoc, hwhole]
      exact htracks.journal_eq
    offset := List.length_append.symm
    history_closed := htracks.history_closed
    read_closed := by
      have hjoined := congrArg Prod.snd (cut_append_of_closed htracks.read_closed
        (pieces max_line_bytes waiting).1.flatten)
      rw [hclosed] at hjoined
      exact hjoined
    plain := htracks.plain
    quiet := by
      rw [hopen]
      exact fun _ hnone => absurd hnone List.not_mem_nil
    published_eq := by
      rw [hopen]
      exact (List.append_nil _).trans htracks.published_eq }

end

/-- Every operation that meets the condition keeps track, and answers without an error. -/
theorem Tracks.step (htracks : following.Tracks interpreter max_line_bytes read waiting) {operation : Operation}
    (hharmless : following.Harmless interpreter operation) :
    (∃ later rest, (following.step interpreter operation).1.Tracks interpreter max_line_bytes later rest) ∧
      ∃ count, (following.step interpreter operation).2 = .ok count := by
  cases operation with
  | append piece => exact ⟨⟨read, waiting ++ piece, htracks.append hharmless⟩, 0, rfl⟩
  | poll call =>
    obtain ⟨stat, opened⟩ := call
    cases stat with
    | false =>
      have hsilent : Silent interpreter max_line_bytes read := by
        have htaken := hharmless rfl
        rwa [htracks.limit, htracks.offset, htracks.journal_eq, List.take_left] at htaken
      obtain ⟨htracked, hanswer⟩ := htracks.poll_missing opened hsilent
      exact ⟨⟨_, _, htracked⟩, 0, hanswer⟩
    | true =>
      cases opened with
      | false =>
        rw [htracks.poll_unopened]
        exact ⟨⟨read, waiting, htracks⟩, 0, rfl⟩
      | true =>
        obtain ⟨htracked, _, hanswer⟩ := htracks.poll_read
        exact ⟨⟨_, _, htracked⟩, _, hanswer⟩

/-- A follower that is primed where a line begins keeps track from the start. -/
theorem tracks_primed (follower : BodyHealthJournalFollower) {history : List UInt8}
    (hline : ∀ byte ∈ history.getLast?, byte = newline) {stat : Bool}
    (hprimed : stat = false → Silent interpreter follower.max_line_bytes history) :
    ∃ read waiting, (primed follower history stat).Tracks interpreter follower.max_line_bytes read waiting := by
  have hclosed : (pieces follower.max_line_bytes history).2 = [] := by
    rcases List.eq_nil_or_concat history with rfl | ⟨body, byte, rfl⟩
    · rfl
    · rw [List.concat_eq_append] at hline ⊢
      have hbyte : byte = newline := hline byte (by rw [List.getLast?_concat]; rfl)
      exact cut_concat_of_closes fun _ => by rw [bounded, hbyte, beq_self_eq_true, Bool.true_or]
  have hnothing : due interpreter follower.max_line_bytes [] = [] := rfl
  cases stat with
  | false =>
    refine ⟨[], history, rfl, rfl, List.append_nil _, rfl, hclosed, rfl, fun _ hnone => absurd hnone List.not_mem_nil,
      quiet_of_silent (hprimed rfl), ?_⟩
    exact published_of_silent (hprimed rfl)
  | true =>
    exact ⟨history, [], rfl, rfl, rfl, rfl, hclosed, hclosed, fun _ hnone => absurd hnone List.not_mem_nil,
      fun _ hnone => absurd hnone List.not_mem_nil, rfl⟩

end Following

/-- However the bytes of a journal are appended between the polls, the polls answer, what they publish is always the first
part of what is due, and each poll that can read the journal has published all of it. -/
theorem Following.published_eq_due (follower : BodyHealthJournalFollower) {history : List UInt8}
    (hline : ∀ byte ∈ history.getLast?, byte = newline) {stat : Bool}
    (hprimed : stat = false → Silent interpreter follower.max_line_bytes history) {operations : List Operation}
    (hharmless : transitions.Each (Following.Harmless interpreter) (Following.step interpreter)
      (Following.primed follower history stat) operations) :
    let reached := transitions.run (Following.step interpreter) (Following.primed follower history stat) operations
    let polled := reached.1.step interpreter (.poll ⟨true, true⟩)
    (∀ answer ∈ reached.2, ∃ count, answer = .ok count) ∧
      reached.1.published <+: due interpreter follower.max_line_bytes reached.1.appended ∧
      polled.1.published = due interpreter follower.max_line_bytes reached.1.appended ∧
      ∃ count, polled.2 = .ok count ∧ reached.1.published.length + count = polled.1.published.length := by
  have hstart := Following.tracks_primed follower hline hprimed
  suffices hrun : ∀ following : Following, (∃ read waiting, following.Tracks interpreter follower.max_line_bytes read waiting) →
      transitions.Each (Following.Harmless interpreter) (Following.step interpreter) following operations →
      (∃ read waiting, (transitions.run (Following.step interpreter) following operations).1.Tracks interpreter
          follower.max_line_bytes read waiting) ∧
        ∀ answer ∈ (transitions.run (Following.step interpreter) following operations).2, ∃ count, answer = .ok count by
    obtain ⟨⟨read, waiting, htracks⟩, hanswers⟩ := hrun _ hstart hharmless
    obtain ⟨_, hpublished, hanswer⟩ := htracks.poll_read
    refine ⟨hanswers, ⟨_, htracks.published_eq⟩, hpublished, _, hanswer, ?_⟩
    rw [hpublished, ← htracks.published_eq, List.length_append]
  clear hharmless hstart
  intro following htracked hharmless
  induction operations generalizing following with
  | nil => exact ⟨htracked, fun _ hnone => absurd hnone List.not_mem_nil⟩
  | cons operation rest ih =>
    obtain ⟨read, waiting, htracks⟩ := htracked
    obtain ⟨hnext, hanswer⟩ := htracks.step hharmless.1
    obtain ⟨hreached, hlater⟩ := ih _ hnext hharmless.2
    refine ⟨hreached, fun answer hmember => ?_⟩
    rcases List.mem_cons.mp hmember with rfl | hmember
    · exact hanswer
    · exact hlater answer hmember

section written

variable {interpreter}

/-- The line that the bridge appends to its journal for a record. -/
def journal_line (floats : FloatText) (record : Json) : List UInt8 :=
  (encode floats true record ++ ['\n']).map (fun c => c.val.toUInt8)

/-- The line of a health record, as the bridge writes it, is parsed into that record. -/
theorem parse_journal_line {record : BodyRecord} {document : Json} (hdocument : record.document = sorted document)
    (hhealth : record.family = .health) (hdistinct : Distinct document)
    (hread : Readable interpreter.floats (floats_in document))
    (hascii : ∀ c ∈ encode interpreter.floats true document, c.toNat < 128) (hlimit : ∀ text, interpreter.limit text = none) :
    parse_health_record interpreter (journal_line interpreter.floats document) = .ok (some record) := by
  have hbuilds : interpreter.reader.Builds := fun _ hnodup => dict_of_pairs_of_nodup hnodup
  have hspaces : ∀ c ∈ ['\n'], is_space c = true := by decide
  have hloads := loads_encode hbuilds true hdistinct hread hspaces
  have hchars : ∀ c ∈ encode interpreter.floats true document ++ ['\n'], c.toNat < 128 := by
    intro c hc
    rcases List.mem_append.mp hc with hearlier | hlast
    · exact hascii c hearlier
    · rw [List.mem_singleton.mp hlast]
      decide
  refine (parse_health_record_eq_some_iff interpreter).mpr
    ⟨String.ofList (encode interpreter.floats true document ++ ['\n']), ?_, hlimit _, ?_, hhealth⟩
  · rw [journal_line, ← bytes.toUTF8_of_ascii hchars, bytes.fromUTF8_toUTF8]
  · rw [hdocument]
    exact hloads

end written

end following

/-- An interpreter for journals without floats, without limits. -/
def plain_interpreter : Interpreter where
  floats := ⟨fun _ => "0.0".toList, fun _ => .finite 0⟩
  limit := fun _ => none

def degraded_microphone : Json := .object [
  ("event_id", .text "health-1"),
  ("event_type", .text "HEALTH_DEGRADED"),
  ("family", .text "health"),
  ("payload", .object [
    ("diagnostic_payload", .object [("read_only", .bool true)]),
    ("event_id", .text "health-1"),
    ("event_type", .text "DEGRADED"),
    ("module_id", .text "microphone-input-main"),
    ("node_id", .text "founder-up2"),
    ("owning_handmaiden", .text "Velvet"),
    ("receipt_id", .text "health-1"),
    ("severity", .text "WARNING"),
    ("state_after", .text "DEGRADED"),
    ("state_before", .text "ONLINE"),
    ("timestamp", .int 1)])]

def degraded_line : List UInt8 := journal_line plain_interpreter.floats degraded_microphone

theorem degraded_line_short : 0 < degraded_line.length ∧ degraded_line.length ≤ 1024 := by decide +kernel

theorem degraded_line_is_line : IsLine (· == newline) degraded_line := by
  refine ⟨(encode plain_interpreter.floats true degraded_microphone).map (fun c => c.val.toUInt8), newline, ?_, rfl, ?_⟩
  · rw [degraded_line, journal_line, List.map_append]
    rfl
  · decide +kernel

theorem parse_degraded_line :
    letI := StrLower.ascii
    letI := StrUpper.ascii
    ∃ record, parse_health_record plain_interpreter degraded_line = .ok (some record) := by
  let := StrLower.ascii
  let := StrUpper.ascii
  have hok : (validate_body_record (sorted degraded_microphone)).isOk = true := by decide +kernel
  have hhealth : family_of (entry_of (BodyRecord.entries_of (sorted degraded_microphone)) "family") = some .health := by
    decide
  obtain ⟨result, hvalid⟩ : ∃ result, validate_body_record (sorted degraded_microphone) = .ok result := by
    cases hvalid : validate_body_record (sorted degraded_microphone) with
    | ok result => exact ⟨result, rfl⟩
    | error error =>
      rw [hvalid] at hok
      cases hok
  have hsame := (validate_body_record_eq_ok_iff.mp hvalid).1
  rw [hsame] at hvalid
  refine ⟨⟨_, hvalid⟩, parse_journal_line rfl ?_ ?_ ?_ ?_ fun _ => rfl⟩
  · rw [BodyRecord.family, BodyRecord.entries, hhealth]
    rfl
  · exact ⟨by decide, trivial, trivial, trivial, ⟨by decide, ⟨by decide, trivial, trivial⟩, by repeat' constructor⟩, trivial⟩
  · exact fun _ hfloat => absurd hfloat List.not_mem_nil
  · decide +kernel

/-- A line of which what stays after the piece that is skipped is a health record of its own. -/
def longer_line : List UInt8 := List.replicate 1025 32 ++ degraded_line

theorem longer_line_is_line : IsLine (· == newline) longer_line := by
  obtain ⟨body, item, hbody, hends, hnone⟩ := degraded_line_is_line
  refine ⟨List.replicate 1025 32 ++ body, item, by rw [longer_line, hbody, List.append_assoc], hends, ?_⟩
  intro earlier hearlier
  rcases List.mem_append.mp hearlier with hspace | hearlier
  · rw [List.eq_of_mem_replicate hspace]
    rfl
  · exact hnone earlier hearlier

theorem last_piece_of_longer_line : last_piece 1025 longer_line = degraded_line := by
  obtain ⟨hsome, hshort⟩ := degraded_line_short
  have hlength : longer_line.length = 1025 + degraded_line.length := by
    rw [longer_line, List.length_append, List.length_replicate]
  have hskipped : (longer_line.length - 1) / 1025 * 1025 = (List.replicate 1025 (32 : UInt8)).length := by
    rw [hlength, List.length_replicate, Nat.div_eq_of_lt_le (k := 1) (by omega) (by omega)]
  rw [last_piece, hskipped]
  exact List.drop_left

/-- A follower of lines of at most 1024 bytes. -/
def short_follower : BodyHealthJournalFollower := ⟨1024, 0, false, by decide⟩

/-- Polls between which the record of a degraded microphone is appended. -/
def microphone_run : List Operation := [.append degraded_line, .poll ⟨true, true⟩]

theorem lines_of_line {found : List UInt8} (hline : IsLine (· == newline) found) : lines found = [found] :=
  congrArg Prod.fst hline.cut_self

theorem degraded_line_plain :
    letI := StrLower.ascii
    letI := StrUpper.ascii
    Plain plain_interpreter 1024 degraded_line := by
  let := StrLower.ascii
  let := StrUpper.ascii
  obtain ⟨record, hparsed⟩ := parse_degraded_line
  intro _
  rw [last_piece_of_short degraded_line_short.2]
  exact ⟨some record, hparsed, fun hlong => absurd hlong (Nat.not_lt_of_le degraded_line_short.2)⟩

theorem microphone_published :
    letI := StrLower.ascii
    letI := StrUpper.ascii
    let reached := transitions.run (Following.step plain_interpreter) (Following.primed short_follower [] true) microphone_run
    let polled := reached.1.step plain_interpreter (.poll ⟨true, true⟩)
    (∀ answer ∈ reached.2, ∃ count, answer = .ok count) ∧
      reached.1.published <+: due plain_interpreter 1024 reached.1.appended ∧
      polled.1.published = due plain_interpreter 1024 reached.1.appended ∧
      ∃ count, polled.2 = .ok count ∧ reached.1.published.length + count = polled.1.published.length := by
  let := StrLower.ascii
  let := StrUpper.ascii
  have hplain : ∀ line ∈ lines degraded_line, Plain plain_interpreter 1024 line := by
    intro line hline
    rw [lines_of_line degraded_line_is_line] at hline
    rw [List.mem_singleton.mp hline]
    exact degraded_line_plain
  have hharmless : transitions.Each (Following.Harmless plain_interpreter) (Following.step plain_interpreter)
      (Following.primed short_follower [] true) microphone_run :=
    ⟨hplain, (fun hfails => nomatch hfails), trivial⟩
  have hline : ∀ byte ∈ ([] : List UInt8).getLast?, byte = newline := fun _ hnone => nomatch hnone
  have hprimed : true = false → Silent plain_interpreter 1024 [] := fun hfails => nomatch hfails
  exact Following.published_eq_due plain_interpreter short_follower hline hprimed hharmless

/-- The first piece of an empty journal, and a poll after it. -/
theorem run_append_poll [StrLower] [StrUpper] (interpreter : Interpreter) (follower : BodyHealthJournalFollower)
    (piece : List UInt8) (call : PollCall) :
    (transitions.run (Following.step interpreter) (Following.primed follower [] true) [.append piece, .poll call]).1 =
      (Following.step interpreter ⟨[], piece, follower.prime (some 0), []⟩ (.poll call)).1 :=
  rfl

/-- A line that is too long is skipped one piece at a time, and its last piece is published as if it were a line. -/
theorem longer_line_published :
    letI := StrLower.ascii
    letI := StrUpper.ascii
    let reached := transitions.run (Following.step plain_interpreter) (Following.primed short_follower [] true)
      [.append longer_line, .poll ⟨true, true⟩]
    lines longer_line = [longer_line] ∧ 1024 < longer_line.length ∧
      due plain_interpreter 1024 reached.1.appended = [] ∧ reached.1.published ≠ [] := by
  let := StrLower.ascii
  let := StrUpper.ascii
  have hlines := lines_of_line longer_line_is_line
  have hlong : 1024 < longer_line.length := by
    rw [longer_line, List.length_append, List.length_replicate]
    omega
  obtain ⟨record, hparsed⟩ := parse_degraded_line
  have hquiet : Quiet plain_interpreter 1024 (pieces 1024 longer_line).1 := by
    intro piece hpiece hshort
    obtain ⟨line, hline, rfl⟩ := mem_lines_of_mem_pieces hpiece hshort
    rw [hlines] at hline
    rw [List.mem_singleton.mp hline, last_piece_of_longer_line]
    exact ⟨some record, hparsed⟩
  have hoffset : (short_follower.prime (some 0)).offset = ([] : List UInt8).length := rfl
  have hlimit : (short_follower.prime (some 0)).max_line_bytes = 1024 := rfl
  have hpoll := BodyHealthJournalFollower.poll_read hlimit rfl hoffset hquiet
  have hpublished : published_of plain_interpreter 1024 (pieces 1024 longer_line).1 = [publish_health record] := by
    rw [published_of_line longer_line_is_line, last_piece_of_longer_line]
    exact published_of_parsed degraded_line_short.2 hparsed
  dsimp only
  rw [run_append_poll, Following.step_poll hpoll]
  refine ⟨hlines, hlong, ?_, ?_⟩
  · rw [due, hlines, List.filterMap_cons, if_neg (Nat.not_le_of_lt hlong)]
    rfl
  · rw [hpublished]
    exact List.cons_ne_nil _ _

end velvet.body_health_journal_follower
