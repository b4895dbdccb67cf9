import Mathlib.Data.List.Induction
import Mathlib.Data.Option.Basic

/-! A stream that is cut into pieces: each is closed by its last item, and what follows the last one is still open. -/

namespace framing

variable {α : Type}

/-- The closed pieces of a stream that continues a piece, and the piece that stays open. -/
def cut (closes : List α → α → Bool) : List α → List α → List (List α) × List α
  | piece, [] => ([], piece)
  | piece, item :: rest =>
    if closes piece item then ((piece ++ [item]) :: (cut closes [] rest).1, (cut closes [] rest).2)
    else cut closes (piece ++ [item]) rest

section cut

variable {closes : List α → α → Bool} {piece found stream first second : List α} {item : α}

@[simp] theorem cut_nil : cut closes piece [] = ([], piece) := rfl

theorem cut_cons_of_closes (hcloses : closes piece item = true) : cut closes piece (item :: stream) =
    ((piece ++ [item]) :: (cut closes [] stream).1, (cut closes [] stream).2) := by
  rw [cut, if_pos hcloses]

theorem cut_cons_of_not_closes (hcloses : closes piece item = false) :
    cut closes piece (item :: stream) = cut closes (piece ++ [item]) stream := by
  rw [cut, if_neg (Bool.eq_false_iff.mp hcloses)]

/-- However a stream arrives, its pieces are the same: a cut is taken up again with the piece that stayed open. -/
theorem cut_append (closes : List α → α → Bool) (piece first second : List α) : cut closes piece (first ++ second) =
    ((cut closes piece first).1 ++ (cut closes (cut closes piece first).2 second).1,
      (cut closes (cut closes piece first).2 second).2) := by
  induction first generalizing piece with
  | nil => rfl
  | cons item rest ih =>
    cases hcloses : closes piece item with
    | true => rw [List.cons_append, cut_cons_of_closes hcloses, cut_cons_of_closes hcloses, ih, List.cons_append]
    | false => rw [List.cons_append, cut_cons_of_not_closes hcloses, cut_cons_of_not_closes hcloses, ih]

/-- Where a stream leaves nothing open, the next one is cut on its own. -/
theorem cut_append_of_closed (hclosed : (cut closes piece first).2 = []) (second : List α) :
    cut closes piece (first ++ second) =
      ((cut closes piece first).1 ++ (cut closes [] second).1, (cut closes [] second).2) := by
  rw [cut_append, hclosed]

theorem cut_concat_of_closes (hcloses : ∀ piece, closes piece item = true) :
    (cut closes piece (first ++ [item])).2 = [] := by
  rw [cut_append, cut_cons_of_closes (hcloses _), cut_nil]

theorem flatten_cut : (cut closes piece stream).1.flatten ++ (cut closes piece stream).2 = piece ++ stream := by
  induction stream generalizing piece with
  | nil => rw [cut_nil, List.flatten_nil, List.nil_append, List.append_nil]
  | cons item rest ih =>
    cases hcloses : closes piece item with
    | true => rw [cut_cons_of_closes hcloses, List.flatten_cons, List.append_assoc, ih, List.nil_append, List.append_assoc,
        List.singleton_append]
    | false => rw [cut_cons_of_not_closes hcloses, ih, List.append_assoc, List.singleton_append]

/-- Whether nothing in a piece closes it. -/
def Open (closes : List α → α → Bool) (piece : List α) : Prop := cut closes [] piece = ([], piece)

theorem open_nil : Open closes [] := rfl

theorem Open.concat (hopen : Open closes piece) (hcloses : closes piece item = false) : Open closes (piece ++ [item]) := by
  unfold Open at hopen ⊢
  rw [cut_append, hopen, cut_cons_of_not_closes hcloses]
  rfl

theorem Open.closed (hopen : Open closes piece) (hcloses : closes piece item = true) :
    cut closes [] (piece ++ [item]) = ([piece ++ [item]], []) := by
  unfold Open at hopen
  rw [cut_append, hopen, cut_cons_of_closes hcloses]
  rfl

theorem Open.cut_snd (hopen : Open closes piece) : Open closes (cut closes piece stream).2 := by
  induction stream generalizing piece with
  | nil => exact hopen
  | cons item rest ih =>
    cases hcloses : closes piece item with
    | true =>
      rw [cut_cons_of_closes hcloses]
      exact ih open_nil
    | false =>
      rw [cut_cons_of_not_closes hcloses]
      exact ih (hopen.concat hcloses)

/-- Each closed piece is cut into itself. -/
theorem Open.cut_of_mem (hopen : Open closes piece) (hfound : found ∈ (cut closes piece stream).1) :
    cut closes [] found = ([found], []) := by
  induction stream generalizing piece with
  | nil => exact absurd hfound List.not_mem_nil
  | cons item rest ih =>
    cases hcloses : closes piece item with
    | true =>
      rw [cut_cons_of_closes hcloses] at hfound
      rcases List.mem_cons.mp hfound with rfl | hlater
      · exact hopen.closed hcloses
      · exact ih open_nil hlater
    | false =>
      rw [cut_cons_of_not_closes hcloses] at hfound
      exact ih (hopen.concat hcloses) hfound

/-- The closed pieces on their own are cut into the same pieces. -/
theorem cut_flatten {pieces : List (List α)} (hpieces : ∀ found ∈ pieces, cut closes [] found = ([found], [])) :
    cut closes [] pieces.flatten = (pieces, []) := by
  induction pieces with
  | nil => rfl
  | cons found rest ih =>
    have hfound := hpieces found List.mem_cons_self
    rw [List.flatten_cons, cut_append_of_closed (by rw [hfound]), hfound,
      ih fun later hlater => hpieces later (List.mem_cons_of_mem _ hlater)]
    rfl

/-- A finer cut goes through the pieces of a coarser one. -/
theorem cut_refines {finer : List α → α → Bool}
    (hfiner : ∀ piece item, closes piece item = true → ∀ part, finer part item = true) (piece stream : List α) :
    cut finer [] (piece ++ stream) =
      ((cut closes piece stream).1.flatMap (fun found => (cut finer [] found).1) ++
        (cut finer [] (cut closes piece stream).2).1, (cut finer [] (cut closes piece stream).2).2) := by
  induction stream generalizing piece with
  | nil => rw [List.append_nil, cut_nil, List.flatMap_nil, List.nil_append]
  | cons item rest ih =>
    rw [List.append_cons]
    cases hcloses : closes piece item with
    | true =>
      have hclosed : (cut finer [] (piece ++ [item])).2 = [] := cut_concat_of_closes (hfiner piece item hcloses)
      have hrest := ih []
      rw [List.nil_append] at hrest
      rw [cut_append_of_closed hclosed, hrest, cut_cons_of_closes hcloses, List.flatMap_cons, List.append_assoc]
    | false => rw [cut_cons_of_not_closes hcloses, ih]

end cut

variable (ends : α → Bool)

/-- A line is closed by its end. -/
def line : List α → α → Bool := fun _ item => ends item

/-- A line of which no more than `limit` items are taken at once. -/
def bounded (limit : Nat) : List α → α → Bool := fun piece item => ends item || piece.length + 1 == limit

/-- What is read at once: up to `limit` items, and none after the end of the line. -/
def readline : Nat → List α → List α
  | 0, _ | _, [] => []
  | limit + 1, item :: rest => if ends item then [item] else item :: readline limit rest

section lines

variable {ends} {piece found stream body : List α} {item : α} {limit room : Nat}

theorem length_readline_le (ends : α → Bool) (room : Nat) (stream : List α) : (readline ends room stream).length ≤ room := by
  induction stream generalizing room with
  | nil => cases room <;> exact Nat.zero_le _
  | cons item rest ih =>
    cases room with
    | zero => exact Nat.zero_le _
    | succ room =>
      rw [readline]
      split
      · exact Nat.le_add_left 1 room
      · exact Nat.succ_le_succ (ih room)

theorem prefix_of_readline (ends : α → Bool) (room : Nat) (stream : List α) : readline ends room stream <+: stream := by
  induction stream generalizing room with
  | nil => cases room <;> exact List.prefix_rfl
  | cons item rest ih =>
    cases room with
    | zero => exact List.nil_prefix
    | succ room =>
      rw [readline]
      split
      · exact ⟨rest, rfl⟩
      · exact List.cons_prefix_cons.mpr ⟨rfl, ih room⟩

/-- What was read is a whole piece when it fills the room that was left or ends a line; else it is all there is, and the piece
stays open. -/
theorem cut_readline (ends : α → Bool) (stream : List α) (hroom : piece.length + room + 1 = limit) :
    ((readline ends (room + 1) stream).length = room + 1 ∨ (readline ends (room + 1) stream).getLast?.any ends = true →
      cut (bounded ends limit) piece stream =
        ((piece ++ readline ends (room + 1) stream) ::
            (cut (bounded ends limit) [] (stream.drop (readline ends (room + 1) stream).length)).1,
          (cut (bounded ends limit) [] (stream.drop (readline ends (room + 1) stream).length)).2)) ∧
    ((readline ends (room + 1) stream).length ≠ room + 1 → (readline ends (room + 1) stream).getLast?.any ends = false →
      readline ends (room + 1) stream = stream ∧ cut (bounded ends limit) piece stream = ([], piece ++ stream)) := by
  induction stream generalizing piece room with
  | nil =>
    refine ⟨fun hwhole => ?_, fun _ _ => ⟨rfl, by rw [cut_nil, List.append_nil]⟩⟩
    rcases hwhole with hfull | hended
    · cases hfull
    · cases hended
  | cons item rest ih =>
    rw [readline]
    cases hends : ends item with
    | true =>
      have hcloses : bounded ends limit piece item = true := by rw [bounded, hends, Bool.true_or]
      rw [if_pos rfl]
      exact ⟨fun _ => cut_cons_of_closes hcloses, fun _ hnot => absurd hnot (by simp [hends])⟩
    | false =>
      rw [if_neg Bool.false_ne_true]
      cases room with
      | zero =>
        have hcloses : bounded ends limit piece item = true := by
          rw [bounded, hends, Bool.false_or, beq_iff_eq]
          exact hroom
        have hnone : readline ends 0 rest = [] := by cases rest <;> rfl
        rw [hnone]
        exact ⟨fun _ => cut_cons_of_closes hcloses, fun hnot => absurd rfl hnot⟩
      | succ room =>
        have hcloses : bounded ends limit piece item = false := by
          rw [bounded, hends, Bool.false_or, beq_eq_false_iff_ne]
          omega
        have hlater := @ih (piece ++ [item]) room (by rw [List.length_append, List.length_singleton]; omega)
        have hlast : (item :: readline ends (room + 1) rest).getLast?.any ends =
            (readline ends (room + 1) rest).getLast?.any ends := by
          cases readline ends (room + 1) rest with
          | nil => simp [hends]
          | cons second others => rw [List.getLast?_cons_cons]
        rw [cut_cons_of_not_closes hcloses, hlast, List.length_cons, List.drop_succ_cons, Nat.add_right_cancel_iff,
          ne_eq, Nat.add_right_cancel_iff, List.append_cons piece item (readline ends (room + 1) rest),
          List.append_cons piece item rest, List.cons.injEq]
        exact ⟨hlater.1, fun hshort hopen => ⟨⟨rfl, (hlater.2 hshort hopen).1⟩, (hlater.2 hshort hopen).2⟩⟩

/-- Whether a line has its end, and no other before. -/
def IsLine (ends : α → Bool) (found : List α) : Prop :=
  ∃ body item, found = body ++ [item] ∧ ends item = true ∧ ∀ earlier ∈ body, ends earlier = false

/-- The lines that a stream closes are lines, and what follows them has no end. -/
theorem cut_line (hpiece : ∀ item ∈ piece, ends item = false) :
    (∀ found ∈ (cut (line ends) piece stream).1, IsLine ends found) ∧
      ∀ item ∈ (cut (line ends) piece stream).2, ends item = false := by
  induction stream generalizing piece with
  | nil => exact ⟨fun _ hfound => absurd hfound List.not_mem_nil, hpiece⟩
  | cons item rest ih =>
    cases hends : ends item with
    | true =>
      obtain ⟨hlines, hlast⟩ := @ih [] (fun _ hnone => absurd hnone List.not_mem_nil)
      have hcloses : line ends piece item = true := hends
      rw [cut_cons_of_closes hcloses]
      refine ⟨fun found hfound => ?_, hlast⟩
      rcases List.mem_cons.mp hfound with rfl | hlater
      · exact ⟨piece, item, rfl, hends, hpiece⟩
      · exact hlines found hlater
    | false =>
      have hcloses : line ends piece item = false := hends
      rw [cut_cons_of_not_closes hcloses]
      refine ih fun earlier hearlier => ?_
      rcases List.mem_append.mp hearlier with hbefore | hlast
      · exact hpiece earlier hbefore
      · rw [List.mem_singleton.mp hlast]
        exact hends

theorem isLine_of_mem_cut (hfound : found ∈ (cut (line ends) [] stream).1) : IsLine ends found :=
  (cut_line fun _ hnone => absurd hnone List.not_mem_nil).1 found hfound

theorem no_end_of_cut (ends : α → Bool) (stream : List α) : ∀ item ∈ (cut (line ends) [] stream).2, ends item = false :=
  (cut_line fun _ hnone => absurd hnone List.not_mem_nil).2

theorem open_of_no_end (hbody : ∀ item ∈ body, ends item = false) : Open (line ends) body := by
  induction body using List.reverseRecOn with
  | nil => exact open_nil
  | append_singleton body item ih =>
    exact (ih fun earlier hearlier => hbody earlier (List.mem_append_left _ hearlier)).concat
      (hbody item (List.mem_append_right _ (List.mem_singleton_self _)))

theorem IsLine.cut_self (hline : IsLine ends found) : cut (line ends) [] found = ([found], []) := by
  obtain ⟨body, item, rfl, hends, hbody⟩ := hline
  exact (open_of_no_end hbody).closed hends

/-- Without an end, only full pieces are closed. -/
theorem length_of_mem_cut (hpiece : ∀ item ∈ piece ++ stream, ends item = false)
    (hfound : found ∈ (cut (bounded ends limit) piece stream).1) : found.length = limit := by
  induction stream generalizing piece with
  | nil => exact absurd hfound List.not_mem_nil
  | cons item rest ih =>
    have hitem := hpiece item (List.mem_append_right _ List.mem_cons_self)
    cases hcloses : bounded ends limit piece item with
    | true =>
      rw [cut_cons_of_closes hcloses] at hfound
      rcases List.mem_cons.mp hfound with rfl | hlater
      · rw [bounded, hitem, Bool.false_or, beq_iff_eq] at hcloses
        rw [List.length_append, List.length_singleton, hcloses]
      · exact ih (fun later hlater => hpiece later (List.mem_append_right _ (List.mem_cons_of_mem _ hlater))) hlater
    | false =>
      rw [cut_cons_of_not_closes hcloses] at hfound
      rw [List.append_cons] at hpiece
      exact ih hpiece hfound

theorem open_of_length_lt (hbody : ∀ item ∈ body, ends item = false) (hshort : body.length < limit) :
    Open (bounded ends limit) body := by
  induction body using List.reverseRecOn with
  | nil => exact open_nil
  | append_singleton body item ih =>
    rw [List.length_append, List.length_singleton] at hshort
    refine (ih (fun earlier hearlier => hbody earlier (List.mem_append_left _ hearlier)) (by omega)).concat ?_
    rw [bounded, hbody item (List.mem_append_right _ (List.mem_singleton_self _)), Bool.false_or, beq_eq_false_iff_ne]
    omega

theorem cut_of_length_eq (hlimit : 0 < limit) (hbody : ∀ item ∈ body, ends item = false) (hfull : body.length = limit) :
    cut (bounded ends limit) [] body = ([body], []) := by
  rcases List.eq_nil_or_concat body with rfl | ⟨start, item, rfl⟩
  · exact absurd hfull (Nat.ne_of_lt hlimit)
  · rw [List.concat_eq_append] at hbody hfull ⊢
    rw [List.length_append, List.length_singleton] at hfull
    have hopen : Open (bounded ends limit) start := open_of_length_lt
      (fun earlier hearlier => hbody earlier (List.mem_append_left _ hearlier)) (by omega)
    refine hopen.closed ?_
    rw [bounded, hfull, beq_self_eq_true, Bool.or_true]

/-- A line of no more than `limit` items; of a longer one, what stays after pieces of that size. -/
def last_piece (limit : Nat) (found : List α) : List α := found.drop ((found.length - 1) / limit * limit)

theorem last_piece_of_length_le (hlimit : 0 < limit) (hshort : found.length ≤ limit) : last_piece limit found = found := by
  have hnone : (found.length - 1) / limit = 0 := Nat.div_eq_of_lt (by omega)
  rw [last_piece, hnone, Nat.zero_mul, List.drop_zero]

/-- A line is cut into full pieces and the last one. -/
theorem cut_of_line (hlimit : 0 < limit) (hline : IsLine ends found) :
    ∃ full, cut (bounded ends limit) [] found = (full ++ [last_piece limit found], []) ∧
      ∀ part ∈ full, part.length = limit := by
  obtain ⟨body, item, rfl, hends, hbody⟩ := hline
  have hcloses : ∀ piece, bounded ends limit piece item = true := fun piece => by rw [bounded, hends, Bool.true_or]
  induction hlength : body.length using Nat.strongRecOn generalizing body with
  | _ length ih =>
    rcases Nat.lt_or_ge body.length limit with hshort | hlong
    · refine ⟨[], ?_, fun _ hnone => absurd hnone List.not_mem_nil⟩
      rw [last_piece_of_length_le hlimit (by rw [List.length_append, List.length_singleton]; exact hshort)]
      exact (open_of_length_lt hbody hshort).closed (hcloses body)
    · have hfirst := cut_of_length_eq hlimit (fun earlier hearlier => hbody earlier (List.mem_of_mem_take hearlier))
        (List.length_take_of_le hlong)
      have hdropped : (body.drop limit).length < length := by rw [List.length_drop]; omega
      obtain ⟨full, hcut, hfull⟩ := ih _ hdropped (body.drop limit)
        (fun earlier hearlier => hbody earlier (List.mem_of_mem_drop hearlier)) rfl
      refine ⟨body.take limit :: full, ?_, ?_⟩
      · have hsteps : (body.length + 1 - 1) / limit = ((body.drop limit).length + 1 - 1) / limit + 1 := by
          rw [Nat.add_sub_cancel, Nat.add_sub_cancel, List.length_drop, Nat.div_eq_sub_div hlimit hlong]
        have hlast : last_piece limit (body ++ [item]) = last_piece limit (body.drop limit ++ [item]) := by
          unfold last_piece
          rw [List.length_append, List.length_append, List.length_singleton, hsteps, Nat.add_mul, Nat.one_mul, Nat.add_comm,
            ← List.drop_drop, List.drop_append_of_le_length hlong]
        calc cut (bounded ends limit) [] (body ++ [item])
            = cut (bounded ends limit) [] (body.take limit ++ (body.drop limit ++ [item])) := by
              rw [← List.append_assoc, List.take_append_drop]
          _ = (body.take limit :: full ++ [last_piece limit (body ++ [item])], []) := by
              rw [cut_append_of_closed (by rw [hfirst]), hfirst, hcut, hlast]
              rfl
      · intro part hpart
        rcases List.mem_cons.mp hpart with rfl | hlater
        · exact List.length_take_of_le hlong
        · exact hfull part hlater

end lines

end framing
