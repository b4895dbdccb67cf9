import VelvetRuntime.Python.Str

namespace python.str

section strip

variable {front s back : List Char}

/-- White space around a text is stripped from it. -/
theorem strip_surrounded (hfront : ∀ c ∈ front, isspace c = true) (hback : ∀ c ∈ back, isspace c = true) :
    strip (front ++ s ++ back) = strip s := by
  have hend : back.reverse.dropWhile isspace = [] := by simpa using hback
  unfold strip
  rw [List.append_assoc, List.dropWhile_append_of_pos hfront, List.dropWhile_append]
  split
  · rename_i hempty
    rw [List.isEmpty_iff.mp hempty, List.dropWhile_eq_nil_iff.mpr hback]
  · rw [List.reverse_append, List.dropWhile_append_of_pos (by simpa using hback)]

/-- A text is what is left of it by `strip`, between white space. -/
theorem exists_surrounded (s : List Char) : ∃ front back, s = front ++ strip s ++ back ∧
    (∀ c ∈ front, isspace c = true) ∧ ∀ c ∈ back, isspace c = true := by
  have hspaces : ∀ t : List Char, ∀ c ∈ t.takeWhile isspace, isspace c = true := fun _ _ hc => List.mem_takeWhile_imp hc
  refine ⟨s.takeWhile isspace, ((s.dropWhile isspace).reverse.takeWhile isspace).reverse, ?_, hspaces s, fun c hc =>
    hspaces _ c (List.mem_reverse.mp hc)⟩
  unfold strip
  rw [List.append_assoc, ← List.reverse_append, List.takeWhile_append_dropWhile, List.reverse_reverse,
    List.takeWhile_append_dropWhile]

/-- Text between two characters that are no white space is left as it is. -/
theorem strip_between {first last : Char} (hfirst : isspace first = false) (hlast : isspace last = false)
    (middle : List Char) : strip (first :: (middle ++ [last])) = first :: (middle ++ [last]) :=
  (strip_eq_self_iff _).mpr ⟨fun c hc => by cases hc; exact hfirst, fun c hc => by
    rw [← List.cons_append, List.getLast?_concat] at hc
    cases hc
    exact hlast⟩

/-- Text between two characters that are no white space is what is left of it among white space. -/
theorem strip_framed {first last : Char} (hfront : ∀ c ∈ front, isspace c = true) (hback : ∀ c ∈ back, isspace c = true)
    (hfirst : isspace first = false) (hlast : isspace last = false) (middle : List Char) :
    strip (front ++ (first :: (middle ++ [last])) ++ back) = first :: (middle ++ [last]) :=
  (strip_surrounded hfront hback).trans (strip_between hfirst hlast middle)

theorem not_mem_of_spaces {c : Char} (hspaces : ∀ c ∈ front, isspace c = true) (hc : isspace c = false) : c ∉ front :=
  fun hmem => Bool.false_ne_true (hc.symm.trans (hspaces c hmem))

end strip

section fields

variable {separator : Char}

theorem splitOn_ne_nil (separator : Char) (text : List Char) : text.splitOn separator ≠ [] :=
  List.splitOnP_ne_nil _ text

theorem length_splitOn (separator : Char) (text : List Char) :
    (text.splitOn separator).length = text.count separator + 1 := by
  induction text with
  | nil => rfl
  | cons c text ih =>
    rw [List.splitOn_cons_eq_if_modifyHead, List.count_cons]
    split
    · rename_i hc
      rw [List.length_cons, ih]
    · rw [List.length_modifyHead, ih, Nat.add_zero]

/-- What stands before the first field and holds no separator becomes part of that field. -/
theorem splitOn_append_of_not_mem {front : List Char} (hfront : separator ∉ front) (text : List Char) :
    (front ++ text).splitOn separator = (text.splitOn separator).modifyHead (front ++ ·) := by
  induction front with
  | nil =>
    rw [List.nil_append]
    cases text.splitOn separator <;> rfl
  | cons c front ih =>
    rw [List.mem_cons, not_or] at hfront
    rw [List.cons_append, List.splitOn_cons_eq_if_modifyHead, if_neg (by simpa using Ne.symm hfront.1), ih hfront.2]
    cases text.splitOn separator <;> rfl

/-- What is added at the end changes the last field at most, and adds others after it. -/
theorem splitOn_append_end (separator : Char) (text added : List Char) : ∃ rest, rest ≠ [] ∧
    (text ++ added).splitOn separator = (text.splitOn separator).dropLast ++ rest := by
  induction text with
  | nil => exact ⟨added.splitOn separator, splitOn_ne_nil separator added, rfl⟩
  | cons c text ih =>
    obtain ⟨rest, hrest, hsplit⟩ := ih
    rw [List.cons_append, List.splitOn_cons_eq_if_modifyHead, List.splitOn_cons_eq_if_modifyHead, hsplit]
    obtain ⟨first, others, hfields⟩ := List.exists_cons_of_ne_nil (splitOn_ne_nil separator text)
    rw [hfields]
    split
    · exact ⟨rest, hrest, rfl⟩
    · cases others with
      | nil =>
        obtain ⟨next, more, rfl⟩ := List.exists_cons_of_ne_nil hrest
        exact ⟨(c :: next) :: more, List.cons_ne_nil _ _, rfl⟩
      | cons second others => exact ⟨rest, hrest, rfl⟩

end fields

end python.str
