import VelvetRuntime.Python.Str

open python.str

namespace velvet

/-- `" ".join(value.strip().split())`: the reservation ledger's `_text`. -/
def collapse_text (value : String) : String :=
  String.ofList (join (split (strip value.toList)))

/-- `" ".join(value.strip().split()).lower()`. The service modules each carry a copy of this
helper, under the names `_text`, `_normal` and `_normalized`. -/
def normalized [StrLower] (value : String) : String :=
  String.ofList (StrLower.lower (join (split (strip value.toList))))

/-- `value.strip()`. -/
def stripped (value : String) : String :=
  String.ofList (strip value.toList)

/-- The test `not value.strip()` that the constructors use for required text. -/
def Blank (value : String) : Prop :=
  strip value.toList = []

instance (value : String) : Decidable (Blank value) :=
  inferInstanceAs (Decidable (_ = _))

variable (value : String)

theorem blank_stripped_iff : Blank (stripped value) ↔ Blank value := by
  unfold Blank stripped
  rw [strip_eq_nil_iff, strip_eq_nil_iff, String.toList_ofList, split_strip]

@[simp] theorem stripped_stripped : stripped (stripped value) = stripped value := by
  unfold stripped
  rw [String.toList_ofList, strip_strip]

theorem normalized_eq_join [StrLower] :
    normalized value = String.ofList (join ((split value.toList).map StrLower.lower)) := by
  unfold normalized
  rw [split_strip, StrLower.lower_join _ (fun _ hmem => isWord_of_mem_split hmem)]

theorem split_normalized [StrLower] :
    split (normalized value).toList = (split value.toList).map StrLower.lower := by
  rw [normalized_eq_join, String.toList_ofList]
  apply split_join
  intro word hword
  obtain ⟨original, horiginal, rfl⟩ := List.mem_map.mp hword
  exact isWord_lower (isWord_of_mem_split horiginal)

/-- Normalisation is idempotent, so a normalised identity is its own lookup key. -/
@[simp] theorem normalized_normalized [StrLower] :
    normalized (normalized value) = normalized value := by
  rw [normalized_eq_join (normalized value), split_normalized, normalized_eq_join value]
  simp [StrLower.lower_lower, Function.comp_def]

/-- Only blank text normalises to the empty string. -/
theorem normalized_eq_empty_iff [StrLower] :
    normalized value = "" ↔ Blank value := by
  unfold Blank
  rw [strip_eq_nil_iff]
  constructor
  · intro hempty
    have hsplit := split_normalized value
    rw [hempty] at hsplit
    exact List.map_eq_nil_iff.mp hsplit.symm
  · intro hblank
    rw [normalized_eq_join, hblank]
    rfl

/-- Normalised text is its words with single spaces between them. -/
theorem join_split_of_normalized [StrLower] {value : String} (hnormal : normalized value = value) :
    join (split value.toList) = value.toList := by
  have hwords := split_normalized value
  rw [hnormal] at hwords
  have hjoin := normalized_eq_join value
  rw [hnormal, ← hwords] at hjoin
  rw [← String.toList_ofList (l := join (split value.toList)), ← hjoin]

/-- Two normalised texts around a word keep their white space. -/
theorem collapse_text_glue [StrLower] {left glue right : String} (hleft : normalized left = left)
    (hleft_ne : left ≠ "") (hright : normalized right = right) (hright_ne : right ≠ "")
    (hglue : IsWord glue.toList) : collapse_text (left ++ glue ++ right) = left ++ glue ++ right := by
  have hne : ∀ {value : String}, normalized value = value → value ≠ "" → split value.toList ≠ [] := by
    intro value hnormal hvalue hnil
    apply hvalue
    rw [← hnormal, normalized_eq_join, hnil]
    rfl
  obtain ⟨front, last, hfront⟩ := (List.eq_nil_or_concat _).resolve_left (hne hleft hleft_ne)
  obtain ⟨first, back, hback⟩ := List.exists_cons_of_ne_nil (hne hright hright_ne)
  have hlast : IsWord last := isWord_of_mem_split (s := left.toList) (by rw [hfront]; simp)
  have hfirst : IsWord first := isWord_of_mem_split (s := right.toList) (by rw [hback]; simp)
  have hglued : (left ++ glue ++ right).toList =
      join (front ++ (last ++ glue.toList ++ first) :: back) := by
    rw [← join_glue, ← hback, ← List.concat_eq_append, ← hfront, join_split_of_normalized hleft,
      join_split_of_normalized hright]
    simp
  have hwords : ∀ word ∈ front ++ (last ++ glue.toList ++ first) :: back, IsWord word := by
    intro word hword
    rcases List.mem_append.mp hword with hin | hin
    · exact isWord_of_mem_split (s := left.toList) (by rw [hfront]; simp [hin])
    · rcases List.mem_cons.mp hin with rfl | hin
      · refine ⟨by simp [hlast.1], fun c hc => ?_⟩
        simp only [List.mem_append] at hc
        rcases hc with (hc | hc) | hc
        · exact hlast.2 c hc
        · exact hglue.2 c hc
        · exact hfirst.2 c hc
      · exact isWord_of_mem_split (s := right.toList) (by rw [hback]; simp [hin])
  unfold collapse_text
  rw [split_strip, hglued, split_join hwords, ← hglued, String.ofList_toList]

/-- Normalised text needs no stripping. -/
theorem stripped_normalized [StrLower] : stripped (normalized value) = normalized value := by
  rw [normalized_eq_join]
  unfold stripped
  rw [String.toList_ofList, strip_join]
  intro word hword
  obtain ⟨original, horiginal, rfl⟩ := List.mem_map.mp hword
  exact isWord_lower (isWord_of_mem_split horiginal)

/-- On ASCII words that are already lower case, normalisation changes nothing. -/
theorem normalized_eq_self_of_ascii [StrLower] {value : String}
    (hascii : ∀ c ∈ value.toList, c.toNat < 128 ∧ c.toLower = c)
    (hjoined : join (split value.toList) = value.toList) : normalized value = value := by
  unfold normalized
  rw [split_strip, hjoined, StrLower.lower_ascii _ (fun c hc => (hascii c hc).1),
    List.map_congr_left (fun c hc => (hascii c hc).2), List.map_id', String.ofList_toList]

theorem no_blank_nil : ∀ value ∈ ([] : List String), ¬ Blank value := by simp

/-! The words that the worked examples are about. -/

theorem text_a : ¬ Blank "a" := by decide

theorem text_b : ¬ Blank "b" := by decide

theorem text_body : ¬ Blank "body" := by decide

theorem sense_nonempty : ["sense"] ≠ [] := by simp

end velvet
