import Mathlib.Data.List.Basic

/-! Texts joined with a separator that they may hold themselves. -/

namespace joined

variable {α : Type} {separator : α}

/-- The second of two joined pairs cuts the same text at a later separator than the first. -/
def Straddles (separator : α) (front back front' back' : List α) : Prop :=
  ∃ middle, front' = front ++ separator :: middle ∧ back = middle ++ separator :: back'

/-- Two pairs are joined to the same text when they are the same, or when one of them cuts it at a later separator. -/
theorem append_cons_eq_append_cons_iff {front back front' back' : List α} :
    front ++ separator :: back = front' ++ separator :: back' ↔
      (front = front' ∧ back = back') ∨ Straddles separator front back front' back' ∨
        Straddles separator front' back' front back := by
  rw [List.append_eq_append_iff]
  constructor
  · rintro (⟨between, hfront, hback⟩ | ⟨between, hfront, hback⟩)
    · cases between with
      | nil => exact .inl ⟨by simpa using hfront.symm, by simpa using hback⟩
      | cons first middle =>
        obtain ⟨rfl, hrest⟩ := List.cons.inj hback
        exact .inr (.inl ⟨middle, hfront, hrest⟩)
    · cases between with
      | nil => exact .inl ⟨by simpa using hfront, by simpa using hback.symm⟩
      | cons first middle =>
        obtain ⟨rfl, hrest⟩ := List.cons.inj hback
        exact .inr (.inr ⟨middle, hfront, hrest⟩)
  · rintro (⟨rfl, rfl⟩ | ⟨middle, rfl, rfl⟩ | ⟨middle, rfl, rfl⟩)
    · exact .inl ⟨[], by simp⟩
    · exact .inl ⟨separator :: middle, rfl, rfl⟩
    · exact .inr ⟨separator :: middle, rfl, rfl⟩

variable [BEq α] [LawfulBEq α]

/-- The parts of a joined text are those of the texts that were joined. -/
theorem splitOn_intercalate_eq_flatMap {texts : List (List α)} (htexts : texts ≠ []) :
    ([separator].intercalate texts).splitOn separator = texts.flatMap (List.splitOn separator) := by
  induction texts with
  | nil => exact absurd rfl htexts
  | cons first rest ih =>
    cases rest with
    | nil => simp
    | cons second others =>
      rw [List.intercalate_cons_cons, List.append_assoc, List.singleton_append, List.splitOn_append_cons_self,
        ih (List.cons_ne_nil _ _)]
      rfl

/-- Texts are joined to the same text exactly when their parts are the same, one after the other. -/
theorem intercalate_eq_intercalate_iff {texts texts' : List (List α)} (htexts : texts ≠ [])
    (htexts' : texts' ≠ []) :
    [separator].intercalate texts = [separator].intercalate texts' ↔
      texts.flatMap (List.splitOn separator) = texts'.flatMap (List.splitOn separator) := by
  rw [← splitOn_intercalate_eq_flatMap htexts, ← splitOn_intercalate_eq_flatMap htexts']
  constructor
  · intro hsame
    rw [hsame]
  · intro hsame
    have hjoined : [separator].intercalate (([separator].intercalate texts).splitOn separator) =
        [separator].intercalate texts := List.intercalate_splitOn separator
    rw [← hjoined, hsame, List.intercalate_splitOn]

end joined
