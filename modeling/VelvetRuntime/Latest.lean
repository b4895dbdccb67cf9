import Mathlib.Data.List.Perm.Basic
import Mathlib.Order.Lattice

/-! The newest entry of a log, whatever order the entries arrive in. -/

namespace latest

variable {α T : Type} [LinearOrder T] (time : α → T)

/-- The entry has the greatest time of the log, and is the last one that has it. -/
def IsLatest (log : List α) (found : α) : Prop :=
  ∃ before after, log = before ++ found :: after ∧ (∀ entry ∈ before, time entry ≤ time found) ∧
    ∀ entry ∈ after, time entry < time found

variable {time} {log : List α} {found other entry : α}

theorem IsLatest.mem (hlatest : IsLatest time log found) : found ∈ log := by
  obtain ⟨before, after, rfl, _⟩ := hlatest
  exact List.mem_append_right _ List.mem_cons_self

theorem IsLatest.greatest (hlatest : IsLatest time log found) (hentry : entry ∈ log) : time entry ≤ time found := by
  obtain ⟨before, after, rfl, hbefore, hafter⟩ := hlatest
  rcases List.mem_append.mp hentry with hearlier | hrest
  · exact hbefore entry hearlier
  · rcases List.mem_cons.mp hrest with rfl | hlater
    · exact le_refl _
    · exact (hafter entry hlater).le

/-- An entry that is as new as the newest one replaces it. -/
theorem IsLatest.replaced (hlatest : IsLatest time log found) (hnew : time found ≤ time entry) :
    IsLatest time (log ++ [entry]) entry :=
  ⟨log, [], rfl, fun _ hearlier => (hlatest.greatest hearlier).trans hnew, fun _ hnone => nomatch hnone⟩

/-- An older entry changes nothing. -/
theorem IsLatest.kept (hlatest : IsLatest time log found) (hold : time entry < time found) :
    IsLatest time (log ++ [entry]) found := by
  obtain ⟨before, after, rfl, hbefore, hafter⟩ := hlatest
  refine ⟨before, after ++ [entry], by rw [List.append_assoc, List.cons_append], hbefore, ?_⟩
  intro later hlater
  rcases List.mem_append.mp hlater with hafter_mem | hlast
  · exact hafter later hafter_mem
  · rw [List.mem_singleton.mp hlast]
    exact hold

theorem isLatest_singleton (entry : α) : IsLatest time [entry] entry :=
  ⟨[], [], rfl, by simp, by simp⟩

variable (time) in
/-- What is kept of a log: nothing of an empty one, else its newest entry. -/
def Keeps (log : List α) : Option α → Prop
  | none => log = []
  | some found => IsLatest time log found

variable (time) in
/-- The entry that stays when another one arrives. -/
def newer (current : Option α) (entry : α) : α :=
  match current with
  | none => entry
  | some found => if time entry < time found then found else entry

variable {current : Option α}

theorem Keeps.newer (hkeeps : Keeps time log current) (entry : α) :
    Keeps time (log ++ [entry]) (some (newer time current entry)) := by
  cases current with
  | none =>
    rw [show log = [] from hkeeps]
    exact isLatest_singleton entry
  | some found =>
    change IsLatest time _ (if time entry < time found then found else entry)
    split
    case isTrue hold => exact IsLatest.kept hkeeps hold
    case isFalse hnew => exact IsLatest.replaced hkeeps (not_lt.mp hnew)

theorem Keeps.mem (hkeeps : Keeps time log (some found)) : found ∈ log := IsLatest.mem hkeeps

/-- What is kept of a log of one entry at most is that entry. -/
theorem Keeps.eq_of_toList {found : Option α} (hkeeps : Keeps time current.toList found) : found = current := by
  cases found with
  | none =>
    cases current with
    | none => rfl
    | some entry => exact absurd hkeeps (List.cons_ne_nil _ _)
  | some found =>
    cases current with
    | none => exact absurd hkeeps.mem List.not_mem_nil
    | some entry => rw [List.mem_singleton.mp hkeeps.mem]

omit [LinearOrder T] in
/-- In a list without repeated keys, the entries that have a key are one at most. -/
theorem filter_key_eq_toList {β : Type} [DecidableEq β] (key_of : α → β) {entries : List α}
    (hnodup : (entries.map key_of).Nodup) {key : β} {found : Option α}
    (hfound : ∀ entry, found = some entry ↔ entry ∈ entries ∧ key_of entry = key) :
    entries.filter (fun entry => key_of entry = key) = found.toList := by
  induction entries with
  | nil =>
    cases found with
    | none => rfl
    | some entry => exact absurd ((hfound entry).mp rfl).1 List.not_mem_nil
  | cons first rest ih =>
    rw [List.map_cons, List.nodup_cons] at hnodup
    by_cases hfirst : key_of first = key
    · have hsome : found = some first := (hfound first).mpr ⟨List.mem_cons_self, hfirst⟩
      rw [List.filter_cons_of_pos (by simpa using hfirst), hsome, Option.toList_some]
      congr 1
      refine List.filter_eq_nil_iff.mpr fun entry hentry => ?_
      have hne : key_of entry ≠ key := fun heq => hnodup.1 (hfirst.trans heq.symm ▸ List.mem_map_of_mem hentry)
      simpa using hne
    · rw [List.filter_cons_of_neg (by simpa using hfirst)]
      refine ih hnodup.2 fun entry => ?_
      rw [hfound, List.mem_cons]
      constructor
      · rintro ⟨rfl | hentry, hkey⟩
        · exact absurd hkey hfirst
        · exact ⟨hentry, hkey⟩
      · exact fun ⟨hentry, hkey⟩ => ⟨.inr hentry, hkey⟩

end latest
