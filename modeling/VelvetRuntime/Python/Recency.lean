import Mathlib.Data.Finset.Card
import VelvetRuntime.Python.Dict

namespace python

namespace Dict

variable {K V : Type} [DecidableEq K]

/-- `OrderedDict.move_to_end(key)`. -/
def move_to_end (d : Dict K V) (key : K) : Dict K V :=
  match d.get? key with
  | none => d
  | some value => (d.pop key).set key value

/-- The key is in the dict, and every entry after its own has a key among the others. -/
def Recent (d : Dict K V) (key : K) (value : V) (others : Finset K) : Prop :=
  ∃ older newer, d.items = older ++ (key, value) :: newer ∧ ∀ entry ∈ newer, entry.1 ∈ others

variable {d : Dict K V} {key other : K} {value new : V} {others : Finset K}

theorem Recent.get? (hrecent : d.Recent key value others) : d.get? key = some value := by
  obtain ⟨older, newer, hitems, _⟩ := hrecent
  rw [get?_eq_some_iff, hitems]
  exact List.mem_append_right _ (List.mem_cons_self)

theorem Recent.mono {more : Finset K} (hrecent : d.Recent key value others) (hmore : others ⊆ more) :
    d.Recent key value more := by
  obtain ⟨older, newer, hitems, hothers⟩ := hrecent
  exact ⟨older, newer, hitems, fun entry hentry => hmore (hothers entry hentry)⟩

/-- Assigning a key that was popped puts it last. -/
theorem items_pop_set (d : Dict K V) (key : K) (value : V) :
    ((d.pop key).set key value).items = d.items.filter (fun entry => entry.1 ≠ key) ++ [(key, value)] :=
  items_set_of_get?_none _ value (get?_pop_self d key)

theorem recent_pop_set (d : Dict K V) (key : K) (value : V) : ((d.pop key).set key value).Recent key value ∅ :=
  ⟨_, [], items_pop_set d key value, by simp⟩

/-- Putting another key last makes it one of the newer ones. -/
theorem Recent.pop_set (hrecent : d.Recent key value others) (hne : key ≠ other) :
    ((d.pop other).set other new).Recent key value (insert other others) := by
  obtain ⟨older, newer, hitems, hothers⟩ := hrecent
  refine ⟨older.filter (fun entry => entry.1 ≠ other),
    newer.filter (fun entry => entry.1 ≠ other) ++ [(other, new)], ?_, ?_⟩
  · rw [items_pop_set, hitems, List.filter_append, List.filter_cons_of_pos (by simpa using hne)]
    simp
  · intro entry hentry
    rcases List.mem_append.mp hentry with hnewer | hnew
    · exact Finset.mem_insert_of_mem (hothers entry (List.mem_of_mem_filter hnewer))
    · rw [List.mem_singleton.mp hnew]
      exact Finset.mem_insert_self _ _

/-- Dropping the oldest entries keeps the key while there is room for it and all the others. -/
theorem Recent.keep_last {size : Nat} (hrecent : d.Recent key value others) (hroom : others.card < size) :
    (d.keep_last size).Recent key value others := by
  obtain ⟨older, newer, hitems, hothers⟩ := hrecent
  -- The newer keys are distinct and all among the others.
  have hnodup : (newer.map Prod.fst).Nodup := by
    have hkeys := d.nodup
    rw [hitems, List.map_append, List.map_cons] at hkeys
    exact (List.nodup_cons.mp (List.nodup_append.mp hkeys).2.1).2
  have hnewer : newer.length ≤ others.card := by
    rw [← List.length_map (f := Prod.fst), ← List.toFinset_card_of_nodup hnodup]
    apply Finset.card_le_card
    intro found hfound
    obtain ⟨entry, hentry, rfl⟩ := List.mem_map.mp (List.mem_toFinset.mp hfound)
    exact hothers entry hentry
  have hdropped : d.items.length - size ≤ older.length := by
    rw [hitems, List.length_append, List.length_cons]
    omega
  refine ⟨older.drop (d.items.length - size), newer, ?_, hothers⟩
  change d.items.drop (d.items.length - size) = _
  rw [hitems] at hdropped ⊢
  exact List.drop_append_of_le_length hdropped

end Dict

/-- The distinct other keys since the last occurrence of a key. -/
def since {K : Type} [DecidableEq K] (key : K) (touched : List K) : Finset K :=
  (touched.reverse.takeWhile (· ≠ key)).toFinset

section

variable {K : Type} [DecidableEq K] {key other : K} {touched : List K}

@[simp] theorem since_append_self : since key (touched ++ [key]) = ∅ := by
  simp [since]

theorem since_append_of_ne (hne : other ≠ key) :
    since key (touched ++ [other]) = insert other (since key touched) := by
  simp [since, hne]

end

end python
