import Mathlib.Data.List.Induction
import Mathlib.Data.List.Nodup
import Mathlib.Data.List.Sort
import Mathlib.Order.Basic

namespace python

/-- A `dict`: distinct keys in insertion order. -/
structure Dict (K V : Type) where
  items : List (K × V)
  nodup : (items.map Prod.fst).Nodup

namespace Dict

variable {K V : Type}

instance [DecidableEq K] [DecidableEq V] : DecidableEq (Dict K V) := fun left right =>
  decidable_of_iff (left.items = right.items) ⟨fun h => by cases left; cases right; cases h; rfl,
    fun h => by rw [h]⟩

theorem eq_of_items {left right : Dict K V} (hitems : left.items = right.items) : left = right := by
  cases left
  cases right
  cases hitems
  rfl

/-- `{}`. -/
def empty : Dict K V := ⟨[], List.nodup_nil⟩

def keys (d : Dict K V) : List K := d.items.map Prod.fst

def values (d : Dict K V) : List V := d.items.map Prod.snd

/-- The entries a comprehension over `items()` keeps, in their order. -/
def filter (d : Dict K V) (keep : K → V → Bool) : Dict K V :=
  ⟨d.items.filter (fun entry => keep entry.1 entry.2),
    d.nodup.sublist (List.filter_sublist.map _)⟩

/-- The dict after `popitem(last=False)` until it has at most the given size. -/
def keep_last (d : Dict K V) (size : Nat) : Dict K V :=
  ⟨d.items.drop (d.items.length - size), d.nodup.sublist ((List.drop_sublist _ _).map _)⟩

/-- `sorted(d.items())`: the keys are distinct, so only they decide the order. -/
def sorted_items [LinearOrder K] (d : Dict K V) : List (K × V) :=
  d.items.insertionSort (fun left right => left.1 ≤ right.1)

variable (d : Dict K V)

@[simp] theorem mem_sorted_items [LinearOrder K] (entry : K × V) : entry ∈ d.sorted_items ↔ entry ∈ d.items :=
  (List.perm_insertionSort _ d.items).mem_iff

theorem nodup_sorted_items [LinearOrder K] : (d.sorted_items.map Prod.fst).Nodup :=
  ((List.perm_insertionSort _ d.items).map Prod.fst).nodup_iff.mpr d.nodup

/-- Sorting the entries that a comprehension keeps keeps the entries of the sorted table. -/
theorem sorted_items_filter [LinearOrder K] (keep : K → V → Bool) :
    (d.filter keep).sorted_items = d.sorted_items.filter (fun entry => keep entry.1 entry.2) := by
  have hfiltered : (d.filter keep).items = d.items.filter (fun entry => keep entry.1 entry.2) := rfl
  have hsorted := List.perm_insertionSort (fun left right : K × V => left.1 ≤ right.1)
  refine List.Perm.eq_of_pairwise ?_ (List.pairwise_insertionSort _ _)
    ((List.pairwise_insertionSort (fun left right : K × V => left.1 ≤ right.1) d.items).filter _) ?_
  · intro left right hleft hright hle hge
    have hleft_mem : left ∈ d.items := by
      have hin := (mem_sorted_items _ _).mp hleft
      rw [hfiltered] at hin
      exact List.mem_of_mem_filter hin
    have hright_mem : right ∈ d.items := (mem_sorted_items _ _).mp (List.mem_of_mem_filter hright)
    exact List.inj_on_of_nodup_map d.nodup hleft_mem hright_mem (le_antisymm hle hge)
  · exact (hsorted _).trans ((hsorted d.items).filter _).symm

variable [DecidableEq K]

/-- `dict.get(key)`. -/
def get? (d : Dict K V) (key : K) : Option V :=
  (d.items.find? (fun entry => entry.1 = key)).map Prod.snd

/-- `dict.pop(key, None)` as a state change. -/
def pop (d : Dict K V) (key : K) : Dict K V :=
  d.filter (fun other _ => other ≠ key)

private theorem keys_replace (items : List (K × V)) (key : K) (value : V) :
    (items.map (fun entry => if entry.1 = key then (key, value) else entry)).map Prod.fst =
      items.map Prod.fst := by
  rw [List.map_map]
  apply List.map_congr_left
  intro entry _
  by_cases hkey : entry.1 = key <;> simp [hkey]

/-- `dict[key] = value`: an existing key keeps its position, a new one is appended. -/
def set (d : Dict K V) (key : K) (value : V) : Dict K V :=
  if hkey : key ∈ d.items.map Prod.fst then
    ⟨d.items.map (fun entry => if entry.1 = key then (key, value) else entry), by
      rw [keys_replace]
      exact d.nodup⟩
  else
    ⟨d.items ++ [(key, value)], by
      rw [List.map_append, List.nodup_append]
      refine ⟨d.nodup, by simp, ?_⟩
      intro left hleft right hright heq
      simp only [List.map_cons, List.map_nil, List.mem_singleton] at hright
      exact hkey (by rw [← hright, ← heq]; exact hleft)⟩

@[simp] theorem get?_empty (key : K) : (empty : Dict K V).get? key = none := rfl

/-- Lookup finds exactly the entry stored under the key. -/
theorem get?_eq_some_iff (d : Dict K V) (key : K) (value : V) :
    d.get? key = some value ↔ (key, value) ∈ d.items := by
  constructor
  · intro hget
    obtain ⟨entry, hfind, rfl⟩ := Option.map_eq_some_iff.mp hget
    have hkey : entry.1 = key := by simpa using List.find?_some hfind
    subst hkey
    exact List.mem_of_find?_eq_some hfind
  · intro hmem
    cases hfind : d.items.find? (fun entry => entry.1 = key) with
    | none => simpa using List.find?_eq_none.mp hfind (key, value) hmem
    | some entry =>
      have hkey : entry.1 = key := by simpa using List.find?_some hfind
      have hentry := List.inj_on_of_nodup_map d.nodup (List.mem_of_find?_eq_some hfind) hmem hkey
      simp [get?, hfind, hentry]

variable {key : K}

theorem mem_values_of_get? {d : Dict K V} {value : V} (hget : d.get? key = some value) : value ∈ d.values :=
  List.mem_map.mpr ⟨(key, value), (get?_eq_some_iff d key value).mp hget, rfl⟩

theorem get?_eq_none_iff (d : Dict K V) (key : K) : d.get? key = none ↔ key ∉ d.keys := by
  simp only [get?, keys, Option.map_eq_none_iff, List.find?_eq_none, decide_eq_true_eq, List.mem_map]
  constructor
  · rintro hall ⟨entry, hmem, hkey⟩
    exact hall entry hmem hkey
  · intro hnone entry hmem hkey
    exact hnone ⟨entry, hmem, hkey⟩

theorem mem_keys_iff (key : K) : key ∈ d.keys ↔ (d.get? key).isSome = true := by
  cases hget : d.get? key with
  | none => simpa using (d.get?_eq_none_iff key).mp hget
  | some value =>
    have hmem := List.mem_map_of_mem (f := Prod.fst) ((d.get?_eq_some_iff key value).mp hget)
    simpa [keys] using hmem

/-- Two dicts with the same entries, in whatever order, answer every lookup alike. -/
theorem get?_congr {d e : Dict K V} {key other : K}
    (hitems : ∀ value, (key, value) ∈ d.items ↔ (other, value) ∈ e.items) :
    d.get? key = e.get? other := by
  apply Option.ext
  intro value
  rw [get?_eq_some_iff, get?_eq_some_iff, hitems]

@[simp] theorem get?_filter (d : Dict K V) (keep : K → V → Bool) (key : K) :
    (d.filter keep).get? key = (d.get? key).filter (keep key) := by
  apply Option.ext
  intro value
  rw [get?_eq_some_iff, Option.filter_eq_some_iff, get?_eq_some_iff]
  simp [filter]

theorem get?_pop (d : Dict K V) (key other : K) :
    (d.pop key).get? other = if other = key then none else d.get? other := by
  rw [pop, get?_filter]
  by_cases hkey : other = key
  · cases hget : d.get? other <;> simp [hkey]
  · cases hget : d.get? other <;> simp [hkey]

@[simp] theorem get?_pop_self (d : Dict K V) (key : K) : (d.pop key).get? key = none := by
  rw [get?_pop, if_pos rfl]

@[simp] theorem get?_pop_of_ne (d : Dict K V) {key other : K} (hne : other ≠ key) :
    (d.pop key).get? other = d.get? other := by
  rw [get?_pop, if_neg hne]

theorem mem_items_set_iff (key : K) (value : V) (entry : K × V) :
    entry ∈ (d.set key value).items ↔
      entry = (key, value) ∨ (entry.1 ≠ key ∧ entry ∈ d.items) := by
  unfold set
  split
  · rename_i hkey
    obtain ⟨old, hold, rfl⟩ := List.mem_map.mp hkey
    simp only [List.mem_map]
    constructor
    · rintro ⟨source, hsource, rfl⟩
      by_cases hsame : source.1 = old.1
      · simp [hsame]
      · simp [hsame, hsource]
    · rintro (rfl | ⟨hne, hmem⟩)
      · exact ⟨old, hold, by simp⟩
      · exact ⟨entry, hmem, by simp [hne]⟩
  · rename_i hkey
    simp only [List.mem_append, List.mem_singleton]
    constructor
    · rintro (hmem | rfl)
      · right
        refine ⟨?_, hmem⟩
        rintro rfl
        exact hkey (List.mem_map_of_mem hmem)
      · exact Or.inl rfl
    · rintro (rfl | ⟨_, hmem⟩)
      · exact Or.inr rfl
      · exact Or.inl hmem

theorem get?_set (d : Dict K V) (key : K) (value : V) (other : K) :
    (d.set key value).get? other = if other = key then some value else d.get? other := by
  apply Option.ext
  intro found
  rw [get?_eq_some_iff, mem_items_set_iff]
  by_cases hkey : other = key
  · subst hkey
    simp [eq_comm]
  · simp [hkey, get?_eq_some_iff]

@[simp] theorem get?_set_self (d : Dict K V) (key : K) (value : V) :
    (d.set key value).get? key = some value := by
  rw [get?_set, if_pos rfl]

@[simp] theorem get?_set_of_ne (d : Dict K V) {key other : K} (value : V) (hne : other ≠ key) :
    (d.set key value).get? other = d.get? other := by
  rw [get?_set, if_neg hne]

/-- `for key in keys: d[key] = value`. -/
theorem get?_foldl_set (keys : List K) (value : V) (d : Dict K V) (other : K) :
    (keys.foldl (fun d key => d.set key value) d).get? other =
      if other ∈ keys then some value else d.get? other := by
  induction keys generalizing d with
  | nil => simp
  | cons key keys ih =>
    rw [List.foldl_cons, ih, get?_set]
    by_cases htail : other ∈ keys
    · simp [htail]
    · by_cases hhead : other = key
      · simp [hhead]
      · simp [hhead, htail]

/-- `{key(entry): value(entry) for entry in entries}`: of the entries with one key the last one counts. -/
theorem get?_comprehension {α : Type} (key : α → K) (value : α → V) {entries : List α} {wanted : K} {found : V} :
    (entries.foldl (fun d entry => d.set (key entry) (value entry)) (empty : Dict K V)).get? wanted = some found ↔
      ∃ earlier entry later, entries = earlier ++ entry :: later ∧ key entry = wanted ∧ value entry = found ∧
        ∀ other ∈ later, key other ≠ wanted := by
  induction entries using List.reverseRecOn with
  | nil => simp
  | append_singleton entries last ih =>
    rw [List.foldl_append, List.foldl_cons, List.foldl_nil, get?_set]
    by_cases hlast : wanted = key last
    · rw [if_pos hlast]
      constructor
      · intro hsame
        exact ⟨entries, last, [], rfl, hlast.symm, Option.some.inj hsame, by simp⟩
      · rintro ⟨earlier, entry, later, hsplit, hkey, hvalue, hlater⟩
        rcases List.eq_nil_or_concat later with rfl | ⟨front, final, rfl⟩
        · rw [List.singleton_inj.mp (List.append_inj' hsplit rfl).2, hvalue]
        · have hconcat : entries ++ [last] = (earlier ++ entry :: front) ++ [final] := by simpa using hsplit
          have hfinal := List.singleton_inj.mp (List.append_inj' hconcat rfl).2
          exact absurd (hfinal ▸ hlast.symm) (hlater final (by simp))
    · rw [if_neg hlast, ih]
      constructor
      · rintro ⟨earlier, entry, later, rfl, hkey, hvalue, hlater⟩
        refine ⟨earlier, entry, later ++ [last], by simp, hkey, hvalue, ?_⟩
        intro other hother
        rcases List.mem_append.mp hother with hin | hin
        · exact hlater other hin
        · rw [List.mem_singleton.mp hin]
          exact Ne.symm hlast
      · rintro ⟨earlier, entry, later, hsplit, hkey, hvalue, hlater⟩
        rcases List.eq_nil_or_concat later with rfl | ⟨front, final, rfl⟩
        · have hends := List.singleton_inj.mp (List.append_inj' hsplit rfl).2
          exact absurd (hends ▸ hkey.symm) hlast
        · have hconcat : entries ++ [last] = (earlier ++ entry :: front) ++ [final] := by simpa using hsplit
          exact ⟨earlier, entry, front, (List.append_inj' hconcat rfl).1, hkey, hvalue,
            fun other hother => hlater other (by simp [hother])⟩

/-- The keys of a comprehension are those of its entries. -/
theorem mem_keys_comprehension {α : Type} (key : α → K) (value : α → V) {entries : List α} {wanted : K} :
    wanted ∈ (entries.foldl (fun d entry => d.set (key entry) (value entry)) (empty : Dict K V)).keys ↔
      ∃ entry ∈ entries, key entry = wanted := by
  induction entries using List.reverseRecOn with
  | nil => simp [keys, empty]
  | append_singleton entries last ih =>
    rw [List.foldl_append, List.foldl_cons, List.foldl_nil, mem_keys_iff, get?_set]
    by_cases hlast : wanted = key last
    · rw [if_pos hlast]
      exact iff_of_true rfl ⟨last, List.mem_append_right _ (List.mem_singleton_self _), hlast.symm⟩
    · rw [if_neg hlast, ← mem_keys_iff, ih]
      constructor
      · rintro ⟨entry, hentry, hkey⟩
        exact ⟨entry, List.mem_append_left _ hentry, hkey⟩
      · rintro ⟨entry, hentry, hkey⟩
        rcases List.mem_append.mp hentry with hin | hin
        · exact ⟨entry, hin, hkey⟩
        · exact absurd (List.mem_singleton.mp hin ▸ hkey.symm) hlast

/-- Dropping the oldest entries changes no entry that stays. -/
theorem get?_of_keep_last (d : Dict K V) {size : Nat} {value : V} (hget : (d.keep_last size).get? key = some value) :
    d.get? key = some value := by
  rw [get?_eq_some_iff] at hget ⊢
  exact List.mem_of_mem_drop hget

/-- Assigning a key that is not in the dict appends it. -/
theorem items_set_of_get?_none (d : Dict K V) (value : V) (hnone : d.get? key = none) :
    (d.set key value).items = d.items ++ [(key, value)] := by
  have hkey : key ∉ d.items.map Prod.fst := (d.get?_eq_none_iff key).mp hnone
  simp [set, hkey]

/-- Popping a key that is not in the dict does nothing. -/
theorem pop_of_get?_none (d : Dict K V) (hnone : d.get? key = none) : d.pop key = d := by
  refine eq_of_items (List.filter_eq_self.mpr ?_)
  intro entry hentry
  have hne : entry.1 ≠ key := by
    rintro rfl
    exact (d.get?_eq_none_iff _).mp hnone (List.mem_map_of_mem hentry)
  simp [hne]

/-- Assigning a key that is in the dict changes no key. -/
theorem length_set_of_get?_some (d : Dict K V) {old : V} (value : V) (hsome : d.get? key = some old) :
    (d.set key value).items.length = d.items.length := by
  have hkey : key ∈ d.items.map Prod.fst := (d.mem_keys_iff key).mpr (Option.isSome_of_eq_some hsome)
  simp [set, hkey]

/-- A key that is assigned and then popped leaves no trace. -/
@[simp] theorem pop_set_self (key : K) (value : V) : (d.set key value).pop key = d.pop key := by
  apply eq_of_items
  simp only [pop, filter]
  unfold set
  split
  · -- The other entries are mapped to themselves.
    rw [List.filter_map]
    have hkeep : ((fun entry : K × V => decide (entry.1 ≠ key)) ∘
        (fun entry => if entry.1 = key then (key, value) else entry)) = fun entry => decide (entry.1 ≠ key) := by
      funext entry
      by_cases hentry : entry.1 = key <;> simp [hentry]
    rw [hkeep]
    refine (List.map_congr_left ?_).trans (List.map_id _)
    intro entry hentry
    have hne : entry.1 ≠ key := by simpa using List.of_mem_filter hentry
    simp [hne]
  · simp [List.filter_append]

/-- Popping another key than the one that is assigned may as well come first. -/
theorem pop_set_of_ne {key other : K} (value : V) (hne : key ≠ other) :
    (d.set key value).pop other = (d.pop other).set key value := by
  apply eq_of_items
  simp only [pop, filter]
  by_cases hkey : key ∈ d.items.map Prod.fst
  · have hkept : key ∈ (d.items.filter (fun entry => decide (entry.1 ≠ other))).map Prod.fst := by
      obtain ⟨entry, hentry, rfl⟩ := List.mem_map.mp hkey
      exact List.mem_map_of_mem (List.mem_filter.mpr ⟨hentry, by simpa using hne⟩)
    have hkeep : ((fun entry : K × V => decide (entry.1 ≠ other)) ∘
        (fun entry => if entry.1 = key then (key, value) else entry)) = fun entry => decide (entry.1 ≠ other) := by
      funext entry
      by_cases hentry : entry.1 = key <;> simp [hentry]
    rw [set, dif_pos hkey, set, dif_pos hkept]
    dsimp only
    rw [List.filter_map, hkeep]
  · have hnot : key ∉ (d.items.filter (fun entry => decide (entry.1 ≠ other))).map Prod.fst := by
      intro hmem
      obtain ⟨entry, hentry, rfl⟩ := List.mem_map.mp hmem
      exact hkey (List.mem_map_of_mem (List.mem_filter.mp hentry).1)
    rw [set, dif_neg hkey, set, dif_neg hnot]
    simp [List.filter_append, hne]

end Dict

end python
