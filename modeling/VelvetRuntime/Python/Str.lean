import Mathlib.Data.List.TakeWhile

namespace python.str

/-- What is asked of the characters of a text is decided on them alone, and never on every character there is. -/
instance (priority := 1100) decidable_chars (chars : List Char) (p : Char → Prop) [DecidablePred p] :
    Decidable (∀ c ∈ chars, p c) :=
  List.decidableBAll p chars

/-- The characters for which `str.isspace` answers true, hence the separators of
`str.split()` and the characters removed by `str.strip()`. -/
def isspace (c : Char) : Bool :=
  let n := c.toNat
  (9 ≤ n && n ≤ 13) || (28 ≤ n && n ≤ 32) || n == 0x85 || n == 0xA0 || n == 0x1680 ||
    (0x2000 ≤ n && n ≤ 0x200A) || n == 0x2028 || n == 0x2029 || n == 0x202F || n == 0x205F ||
    n == 0x3000

/-- `str.strip()` on the characters of a string. -/
def strip (s : List Char) : List Char :=
  ((s.dropWhile isspace).reverse.dropWhile isspace).reverse

/-- `str.split()` without an argument: the maximal runs of non-space characters. -/
def split (s : List Char) : List (List Char) :=
  (s.splitOnP isspace).filter (fun word => !word.isEmpty)

/-- `" ".join(words)`. -/
def join (words : List (List Char)) : List Char :=
  [' '].intercalate words

/-- A word as `split` returns it: not empty and free of separators. -/
def IsWord (word : List Char) : Prop :=
  word ≠ [] ∧ ∀ c ∈ word, isspace c = false

theorem split_append_space (s rest : List Char) {c : Char} (hspace : isspace c = true) :
    split (s ++ c :: rest) = split s ++ split rest := by
  unfold split
  rw [List.splitOnP_append_cons s rest hspace, List.filter_append]

@[simp] theorem split_nil : split [] = [] := rfl

variable (s : List Char)

theorem split_cons_space {c : Char} (hspace : isspace c = true) :
    split (c :: s) = split s := by
  simpa using split_append_space [] s hspace

theorem split_concat_space {c : Char} (hspace : isspace c = true) :
    split (s ++ [c]) = split s := by
  simpa using split_append_space s [] hspace

theorem split_dropWhile_space : split (s.dropWhile isspace) = split s := by
  induction s with
  | nil => rfl
  | cons c s ih =>
    by_cases hspace : isspace c = true
    · rw [List.dropWhile_cons_of_pos hspace, ih, split_cons_space s hspace]
    · rw [List.dropWhile_cons_of_neg hspace]

private theorem split_reverse_dropWhile_space (s : List Char) :
    split (s.dropWhile isspace).reverse = split s.reverse := by
  induction s with
  | nil => rfl
  | cons c s ih =>
    by_cases hspace : isspace c = true
    · rw [List.dropWhile_cons_of_pos hspace, ih, List.reverse_cons,
        split_concat_space s.reverse hspace]
    · rw [List.dropWhile_cons_of_neg hspace]

/-- Stripping first does not change the words of a string. -/
theorem split_strip : split (strip s) = split s := by
  unfold strip
  rw [split_reverse_dropWhile_space, List.reverse_reverse, split_dropWhile_space]

theorem split_eq_nil_iff : split s = [] ↔ ∀ c ∈ s, isspace c = true := by
  induction s with
  | nil => simp
  | cons c s ih =>
    by_cases hspace : isspace c = true
    · rw [split_cons_space s hspace, ih]
      simp [hspace]
    · obtain ⟨first, others, hrest⟩ := List.exists_cons_of_ne_nil (List.splitOnP_ne_nil isspace s)
      simp [split, List.splitOnP_cons_eq_if_modifyHead, hspace, hrest]

theorem strip_eq_nil_iff : strip s = [] ↔ split s = [] := by
  constructor
  · intro hstrip
    rw [← split_strip, hstrip, split_nil]
  · intro hsplit
    have hall := (split_eq_nil_iff s).mp hsplit
    have hdrop : s.dropWhile isspace = [] := by simpa [List.dropWhile_eq_nil_iff] using hall
    simp [strip, hdrop]

theorem dropWhile_space_of_front {s front tail : List Char} (hfront : front ++ tail = s.dropWhile isspace) :
    front.dropWhile isspace = front := by
  cases front with
  | nil => rfl
  | cons c rest =>
    have hhead := List.head_dropWhile_not isspace (by rw [← hfront]; exact List.cons_ne_nil _ _ : s.dropWhile isspace ≠ [])
    have hspace : isspace c = false := by
      rwa [List.head_of_head?_eq_some (by rw [← hfront]; rfl : (s.dropWhile isspace).head? = some c)] at hhead
    exact List.dropWhile_cons_of_neg (by rw [hspace]; exact Bool.false_ne_true)

theorem strip_strip : strip (strip s) = strip s := by
  have hwhole : ∀ t : List Char, (t.dropWhile isspace).dropWhile isspace = t.dropWhile isspace :=
    fun t => dropWhile_space_of_front (List.append_nil _)
  obtain ⟨tail, htail⟩ := List.reverse_prefix.mpr (List.dropWhile_suffix (l := (s.dropWhile isspace).reverse) isspace)
  rw [List.reverse_reverse] at htail
  have hfront := dropWhile_space_of_front htail
  unfold strip
  rw [hfront, List.reverse_reverse, hwhole]

theorem strip_sublist : (strip s).Sublist s := by
  have hback := (List.dropWhile_sublist (l := (s.dropWhile isspace).reverse) isspace).reverse
  rw [List.reverse_reverse] at hback
  exact hback.trans (List.dropWhile_sublist isspace)

theorem split_word {word : List Char} (hword : IsWord word) : split word = [word] := by
  unfold split
  rw [List.splitOnP_eq_singleton hword.2]
  simp [hword.1]

/-- Every element of a split is a word. -/
theorem isWord_of_mem_split {s word : List Char} (hmem : word ∈ split s) : IsWord word := by
  unfold split at hmem
  obtain ⟨hsplit, hne⟩ := List.mem_filter.mp hmem
  refine ⟨by simpa using hne, ?_⟩
  clear hne hmem
  induction s generalizing word with
  | nil =>
    simp at hsplit
    subst word
    simp
  | cons c s ih =>
    rw [List.splitOnP_cons_eq_if_modifyHead] at hsplit
    obtain ⟨first, others, hrest⟩ := List.exists_cons_of_ne_nil (List.splitOnP_ne_nil isspace s)
    rw [hrest] at hsplit ih
    by_cases hspace : isspace c = true
    · simp only [hspace, if_true, List.mem_cons] at hsplit
      rcases hsplit with rfl | hsplit
      · simp
      · exact ih (by simpa using hsplit)
    · simp only [hspace, Bool.false_eq_true, if_false, List.modifyHead_cons, List.mem_cons] at hsplit
      rcases hsplit with rfl | hsplit
      · intro d hd
        rcases List.mem_cons.mp hd with rfl | hd
        · simpa using hspace
        · exact ih (by simp) d hd
      · exact ih (by simp [hsplit])

variable {words : List (List Char)}

/-- Joining words with single spaces and splitting again gives the words back. -/
theorem split_join (hwords : ∀ word ∈ words, IsWord word) :
    split (join words) = words := by
  induction words with
  | nil => rfl
  | cons word words ih =>
    have hword := hwords word (by simp)
    have htail := ih (fun other hother => hwords other (by simp [hother]))
    cases words with
    | nil => simpa [join] using split_word hword
    | cons next words =>
      have hjoin : join (word :: next :: words) = word ++ ' ' :: join (next :: words) := by
        simp [join, List.intercalate_cons_cons]
      rw [hjoin, split_append_space word _ (by decide), split_word hword, htail]
      rfl

/-- The last word of one line and the first word of another run together over what stands between the lines. -/
theorem join_glue (front : List (List Char)) (last glue first : List Char) (back : List (List Char)) :
    join (front ++ [last]) ++ glue ++ join (first :: back) = join (front ++ (last ++ glue ++ first) :: back) := by
  have hcons : ∀ (word next : List Char) (words : List (List Char)),
      join (word :: next :: words) = word ++ ' ' :: join (next :: words) := by
    intro word next words
    simp [join, List.intercalate_cons_cons]
  induction front with
  | nil =>
    cases back with
    | nil => simp [join]
    | cons next back => simp [join]
  | cons word front ih =>
    cases front with
    | nil =>
      simp only [List.nil_append, List.cons_append] at ih ⊢
      rw [hcons, hcons, ← ih]
      simp
    | cons next front =>
      simp only [List.cons_append] at ih ⊢
      rw [hcons, hcons, ← ih]
      simp

/-- Text stays as it is when it neither starts nor ends with white space. -/
theorem strip_eq_self_iff :
    strip s = s ↔ (∀ c ∈ s.head?, isspace c = false) ∧ ∀ c ∈ s.getLast?, isspace c = false := by
  have hfront : ∀ t : List Char, (∀ c ∈ t.head?, isspace c = false) → t.dropWhile isspace = t := by
    intro t hhead
    cases t with
    | nil => rfl
    | cons c rest =>
      have hspace : isspace c = false := hhead c rfl
      exact List.dropWhile_cons_of_neg (by rw [hspace]; exact Bool.false_ne_true)
  constructor
  · intro hstrip
    have hlength : (strip s).length = s.length := congrArg List.length hstrip
    have hfirst : s.dropWhile isspace = s := by
      refine (List.dropWhile_suffix isspace).eq_of_length (le_antisymm (List.dropWhile_sublist isspace).length_le ?_)
      rw [← hlength]
      unfold strip
      rw [List.length_reverse]
      exact (List.dropWhile_sublist isspace).length_le.trans_eq (List.length_reverse)
    have hlast : s.reverse.dropWhile isspace = s.reverse := by
      unfold strip at hstrip
      rw [hfirst] at hstrip
      rw [← List.reverse_reverse (s.reverse.dropWhile isspace), hstrip]
    have hhead : ∀ t : List Char, t.dropWhile isspace = t → ∀ c ∈ t.head?, isspace c = false := by
      intro t ht c hc
      cases t with
      | nil => cases hc
      | cons first rest =>
        cases hc
        by_contra hspace
        rw [Bool.not_eq_false] at hspace
        rw [List.dropWhile_cons_of_pos hspace] at ht
        have hle := (List.dropWhile_sublist (l := rest) isspace).length_le
        rw [ht, List.length_cons] at hle
        omega
    refine ⟨hhead s hfirst, ?_⟩
    rw [← List.head?_reverse]
    exact hhead s.reverse hlast
  · rintro ⟨hhead, hlast⟩
    rw [← List.head?_reverse] at hlast
    unfold strip
    rw [hfront s hhead, hfront s.reverse hlast, List.reverse_reverse]

/-- Words with single spaces between them neither start nor end with white space. -/
theorem strip_join (hwords : ∀ word ∈ words, IsWord word) :
    strip (join words) = join words := by
  rw [strip_eq_self_iff]
  have hends : ∀ (word : List Char) (rest : List (List Char)), (∀ other ∈ word :: rest, IsWord other) →
      (∃ c, (join (word :: rest)).head? = some c ∧ isspace c = false) ∧
        ∃ c, (join (word :: rest)).getLast? = some c ∧ isspace c = false := by
    intro word rest
    induction rest generalizing word with
    | nil =>
      intro hall
      obtain ⟨hne, hletters⟩ := hall word List.mem_cons_self
      have hsame : join [word] = word := by simp [join]
      rw [hsame]
      exact ⟨⟨word.head hne, List.head?_eq_some_head hne, hletters _ (List.head_mem hne)⟩,
        ⟨word.getLast hne, List.getLast?_eq_some_getLast hne, hletters _ (List.getLast_mem hne)⟩⟩
    | cons next rest ih =>
      intro hall
      obtain ⟨hne, hletters⟩ := hall word List.mem_cons_self
      obtain ⟨-, c, hc, hspace⟩ := ih next (fun other hother => hall other (List.mem_cons_of_mem _ hother))
      have hjoin : join (word :: next :: rest) = word ++ ' ' :: join (next :: rest) := by
        simp [join, List.intercalate_cons_cons]
      rw [hjoin]
      refine ⟨⟨word.head hne, ?_, hletters _ (List.head_mem hne)⟩, ⟨c, ?_, hspace⟩⟩
      · rw [List.head?_append, List.head?_eq_some_head hne]
        rfl
      · rw [List.getLast?_append, List.getLast?_cons, hc]
        rfl
  cases words with
  | nil => simp [join]
  | cons word rest =>
    obtain ⟨⟨first, hfirst, hfirst_space⟩, last, hlast, hlast_space⟩ := hends word rest hwords
    rw [hfirst, hlast]
    exact ⟨fun c hc => (by cases hc; exact hfirst_space), fun c hc => (by cases hc; exact hlast_space)⟩

/-- `str.lower` of the running interpreter. Its table depends on the Unicode version, so the
development is stated for every mapping with these documented properties: lowercasing is
idempotent, neither creates nor removes white space, its context rules do not reach across a
space, and on ASCII text it is the ASCII mapping. -/
class StrLower where
  lower : List Char → List Char
  lower_lower : ∀ s, lower (lower s) = lower s
  split_lower : ∀ s, split (lower s) = (split s).map lower
  lower_join : ∀ words, (∀ word ∈ words, IsWord word) → lower (join words) = join (words.map lower)
  lower_ascii : ∀ s, (∀ c ∈ s, c.toNat < 128) → lower s = s.map Char.toLower

open StrLower (lower)

theorem isWord_lower [StrLower] {word : List Char} (hword : IsWord word) : IsWord (lower word) := by
  have hsplit := StrLower.split_lower word
  rw [split_word hword] at hsplit
  exact isWord_of_mem_split (s := lower word) (by simp [hsplit])

theorem toLower_eq_or_letter (c : Char) :
    c.toLower = c ∨ (65 ≤ c.toNat ∧ c.toNat ≤ 90 ∧ c.toLower.toNat = c.toNat + 32) := by
  by_cases hupper : c.val ≥ 'A'.val ∧ c.val ≤ 'Z'.val
  · right
    have hlow : 65 ≤ c.toNat := by simpa [UInt32.le_iff_toNat_le] using hupper.1
    have hhigh : c.toNat ≤ 90 := by simpa [UInt32.le_iff_toNat_le] using hupper.2
    refine ⟨hlow, hhigh, ?_⟩
    delta Char.toLower
    simp only [dif_pos hupper, Char.toNat]
    change (c.val.toNat + 32) % 2 ^ 32 = c.val.toNat + 32
    change c.val.toNat ≤ 90 at hhigh
    omega
  · left
    delta Char.toLower
    simp only [dif_neg hupper]

private theorem isspace_letter {c : Char} (hlow : 65 ≤ c.toNat) (hhigh : c.toNat ≤ 122) :
    isspace c = false := by
  simp [isspace]
  omega

@[simp] theorem isspace_toLower (c : Char) : isspace c.toLower = isspace c := by
  rcases toLower_eq_or_letter c with hsame | ⟨hlow, hhigh, hvalue⟩
  · rw [hsame]
  · rw [isspace_letter (c := c) hlow (by omega), isspace_letter (by omega) (by omega)]

theorem toLower_toLower (c : Char) : c.toLower.toLower = c.toLower := by
  rcases toLower_eq_or_letter c.toLower with hsame | ⟨hlow, hhigh, _⟩
  · exact hsame
  · rcases toLower_eq_or_letter c with hsame | ⟨_, _, hvalue⟩
    · rw [hsame, hsame]
    · omega

private theorem splitOnP_map_toLower (s : List Char) :
    (s.map Char.toLower).splitOnP isspace = (s.splitOnP isspace).map (List.map Char.toLower) := by
  induction s with
  | nil => rfl
  | cons c s ih =>
    obtain ⟨first, others, hrest⟩ := List.exists_cons_of_ne_nil (List.splitOnP_ne_nil isspace s)
    rw [hrest, List.map_cons] at ih
    rw [List.map_cons, List.splitOnP_cons_eq_if_modifyHead, List.splitOnP_cons_eq_if_modifyHead,
      isspace_toLower, ih, hrest]
    by_cases hspace : isspace c = true <;> simp [hspace]

private theorem map_toLower_join (words : List (List Char)) :
    (join words).map Char.toLower = join (words.map (List.map Char.toLower)) := by
  induction words with
  | nil => rfl
  | cons word words ih =>
    cases words with
    | nil => simp [join]
    | cons next words =>
      simp only [join, List.map_cons, List.intercalate_cons_cons, List.map_append] at ih ⊢
      rw [ih]
      rfl

/-- Lowercasing of ASCII text, where every interpreter's `str.lower` agrees. -/
@[reducible] def StrLower.ascii : StrLower where
  lower := List.map Char.toLower
  lower_lower s := by simp [Function.comp_def, toLower_toLower]
  split_lower s := by
    unfold split
    rw [splitOnP_map_toLower, List.filter_map]
    simp [Function.comp_def]
  lower_join words _ := map_toLower_join words
  lower_ascii _ _ := rfl

/-- `str.upper` of the running interpreter: of its table only the part on ASCII text is relied on. -/
class StrUpper where
  upper : List Char → List Char
  upper_ascii : ∀ s, (∀ c ∈ s, c.toNat < 128) → upper s = s.map Char.toUpper

/-- Uppercasing of ASCII text, where every interpreter's `str.upper` agrees. -/
@[reducible] def StrUpper.ascii : StrUpper where
  upper := List.map Char.toUpper
  upper_ascii _ _ := rfl

end python.str
