import Mathlib.Data.Finset.Basic
import VelvetRuntime.Python.Dict

open python

/-! An index from keys to the sources that have them, kept in step with a table of sources. -/

namespace inverted_index

variable {K S : Type} [DecidableEq K] [DecidableEq S]

/-- The sources under a key. -/
def sources_of (index : Dict K (Finset S)) (key : K) : Finset S := (index.get? key).getD ∅

/-- `index.setdefault(key, set()).add(source)`. -/
def add (source : S) (index : Dict K (Finset S)) (key : K) : Dict K (Finset S) :=
  index.set key (insert source (sources_of index key))

/-- Discards the source under the key, and with the last source the key. -/
def remove (source : S) (index : Dict K (Finset S)) (key : K) : Dict K (Finset S) :=
  match index.get? key with
  | none => index
  | some sources =>
    if sources.erase source = ∅ then index.pop key else index.set key (sources.erase source)

def add_all (source : S) (keys : List K) (index : Dict K (Finset S)) : Dict K (Finset S) :=
  keys.foldl (add source) index

def remove_all (source : S) (keys : List K) (index : Dict K (Finset S)) : Dict K (Finset S) :=
  keys.foldl (remove source) index

/-- The index holds under each key the sources that have it, and no key without sources. -/
structure Indexes (index : Dict K (Finset S)) (has : S → K → Prop) : Prop where
  nonempty : ∀ key sources, index.get? key = some sources → sources ≠ ∅
  mem_iff : ∀ key source, source ∈ sources_of index key ↔ has source key

variable {index : Dict K (Finset S)} {has has' : S → K → Prop} {source : S}

omit [DecidableEq S] in
theorem Indexes.congr (hindexes : Indexes index has) (hsame : ∀ source key, has source key ↔ has' source key) :
    Indexes index has' :=
  ⟨hindexes.nonempty, fun key source => (hindexes.mem_iff key source).trans (hsame source key)⟩

theorem sources_of_add (source : S) (index : Dict K (Finset S)) (key other : K) :
    sources_of (add source index key) other =
      if other = key then insert source (sources_of index key) else sources_of index other := by
  unfold sources_of add
  rw [Dict.get?_set]
  split
  · rfl
  · rfl

theorem sources_of_remove (source : S) (index : Dict K (Finset S)) (key other : K) :
    sources_of (remove source index key) other =
      if other = key then (sources_of index key).erase source else sources_of index other := by
  unfold remove
  cases hget : index.get? key with
  | none =>
    dsimp only
    split
    · rename_i hkey
      rw [hkey]
      simp [sources_of, hget]
    · rfl
  | some sources =>
    have hsources : sources_of index key = sources := by simp [sources_of, hget]
    rw [hsources]
    dsimp only
    split
    · rename_i hempty
      unfold sources_of
      rw [Dict.get?_pop, hempty]
      split
      · rfl
      · rfl
    · unfold sources_of
      rw [Dict.get?_set]
      split
      · rfl
      · rfl

theorem Indexes.add (hindexes : Indexes index has) (key : K) :
    Indexes (add source index key) (fun other found => has other found ∨ (other = source ∧ found = key)) := by
  constructor
  · intro found sources hget
    unfold inverted_index.add at hget
    rw [Dict.get?_set] at hget
    split at hget
    · cases hget
      exact Finset.insert_ne_empty _ _
    · exact hindexes.nonempty found sources hget
  · intro found other
    rw [sources_of_add]
    split
    · rename_i hkey
      rw [Finset.mem_insert, hindexes.mem_iff, hkey]
      tauto
    · rename_i hkey
      rw [hindexes.mem_iff]
      tauto

theorem Indexes.remove (hindexes : Indexes index has) (key : K) :
    Indexes (remove source index key) (fun other found => has other found ∧ ¬(other = source ∧ found = key)) := by
  constructor
  · intro found sources hget
    unfold inverted_index.remove at hget
    split at hget
    · exact hindexes.nonempty found sources hget
    · split at hget
      · rw [Dict.get?_pop] at hget
        split at hget
        · cases hget
        · exact hindexes.nonempty found sources hget
      · rename_i hleft
        rw [Dict.get?_set] at hget
        split at hget
        · cases hget
          exact hleft
        · exact hindexes.nonempty found sources hget
  · intro found other
    rw [sources_of_remove]
    split
    · rename_i hkey
      rw [Finset.mem_erase, hindexes.mem_iff, hkey]
      tauto
    · rename_i hkey
      rw [hindexes.mem_iff]
      tauto

/-- Adding a source under all its keys. -/
theorem Indexes.add_all (hindexes : Indexes index has) (source : S) (keys : List K) :
    Indexes (add_all source keys index) (fun other found => has other found ∨ (other = source ∧ found ∈ keys)) := by
  induction keys generalizing index has with
  | nil => exact hindexes.congr (by simp)
  | cons key rest ih =>
    refine (ih (hindexes.add key)).congr ?_
    intro other found
    rw [List.mem_cons]
    tauto

/-- Removing a source from all its keys. -/
theorem Indexes.remove_all (hindexes : Indexes index has) (source : S) (keys : List K) :
    Indexes (remove_all source keys index)
      (fun other found => has other found ∧ ¬(other = source ∧ found ∈ keys)) := by
  induction keys generalizing index has with
  | nil => exact hindexes.congr (by simp)
  | cons key rest ih =>
    refine (ih (hindexes.remove key)).congr ?_
    intro other found
    rw [List.mem_cons]
    tauto

end inverted_index
