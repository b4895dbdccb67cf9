import VelvetRuntime.Python.JsonRoundTrip

open python.num

namespace python.json

section keys

variable {α : Type} {entries others : List (String × α)}

theorem sort_keys_pairwise (entries : List (String × α)) :
    (sort_keys entries).Pairwise (fun left right => left.1 ≤ right.1) :=
  haveI : Std.Total (fun left right : String × α => left.1 ≤ right.1) := ⟨fun left right => le_total left.1 right.1⟩
  haveI : IsTrans (String × α) (fun left right => left.1 ≤ right.1) := ⟨fun _ _ _ => le_trans⟩
  List.pairwise_insertionSort _ entries

@[simp] theorem sort_keys_sort_keys (entries : List (String × α)) : sort_keys (sort_keys entries) = sort_keys entries :=
  (sort_keys_pairwise entries).insertionSort_eq

/-- Entries with distinct keys are sorted to one list, in whatever order they come. -/
theorem sort_keys_eq_of_perm (hnodup : (entries.map Prod.fst).Nodup) (hperm : entries.Perm others) :
    sort_keys entries = sort_keys others := by
  have hsorted : (sort_keys entries).Perm (sort_keys others) :=
    (sort_keys_perm entries).trans (hperm.trans (sort_keys_perm others).symm)
  refine List.Perm.eq_of_pairwise ?_ (sort_keys_pairwise entries) (sort_keys_pairwise others) hsorted
  intro left right hleft hright hle hge
  have hleft := (sort_keys_perm entries).mem_iff.mp hleft
  have hright := hperm.mem_iff.mpr ((sort_keys_perm others).mem_iff.mp hright)
  exact List.inj_on_of_nodup_map hnodup hleft hright (le_antisymm hle hge)

end keys

section entry_of

variable {entries others : List (String × Json)}

/-- With distinct keys an entry is what is looked up under its key. -/
theorem entry_of_eq_some_iff (hnodup : (entries.map Prod.fst).Nodup) {name : String} {value : Json} :
    entry_of entries name = some value ↔ (name, value) ∈ entries := by
  unfold entry_of
  rw [Option.map_eq_some_iff]
  constructor
  · rintro ⟨entry, hfound, rfl⟩
    have hname := List.find?_some hfound
    rw [← of_decide_eq_true hname]
    exact List.mem_of_find?_eq_some hfound
  · intro hmem
    cases hfound : entries.find? (fun entry => entry.1 = name) with
    | none => exact absurd (decide_eq_true rfl) (List.find?_eq_none.mp hfound _ hmem)
    | some entry =>
      have hname := List.find?_some hfound
      have hsame := List.inj_on_of_nodup_map hnodup (List.mem_of_find?_eq_some hfound) hmem (of_decide_eq_true hname)
      exact ⟨entry, rfl, congrArg Prod.snd hsame⟩

/-- The order of the entries does not matter for a lookup. -/
theorem entry_of_perm (hnodup : (entries.map Prod.fst).Nodup) (hperm : entries.Perm others) (name : String) :
    entry_of entries name = entry_of others name := by
  have hothers : (others.map Prod.fst).Nodup := (hperm.map Prod.fst).nodup_iff.mp hnodup
  refine Option.ext (fun value => ?_)
  rw [entry_of_eq_some_iff hnodup, entry_of_eq_some_iff hothers, hperm.mem_iff]

theorem entry_of_sorted_entries (entries : List (String × Json)) (name : String) :
    entry_of (sorted_entries entries) name = (entry_of entries name).map sorted := by
  rw [sorted_entries_eq_map]
  unfold entry_of
  rw [List.find?_map, Option.map_map, Option.map_map]
  rfl

/-- What is looked up in an object that was written and read. -/
theorem entry_of_sorted_object (hnodup : (entries.map Prod.fst).Nodup) (name : String) :
    entry_of (sort_keys (sorted_entries entries)) name = (entry_of entries name).map sorted := by
  have hsorted : ((sorted_entries entries).map Prod.fst).Nodup := by
    rw [sorted_entries_eq_map, List.map_map]
    exact hnodup
  rw [← entry_of_sorted_entries]
  exact entry_of_perm (((sort_keys_perm _).map Prod.fst).nodup_iff.mpr hsorted) (sort_keys_perm _) name

theorem mem_keys_sorted_object (entries : List (String × Json)) (name : String) :
    name ∈ (sort_keys (sorted_entries entries)).map Prod.fst ↔ name ∈ entries.map Prod.fst := by
  rw [((sort_keys_perm _).map Prod.fst).mem_iff, sorted_entries_eq_map, List.map_map]
  rfl

end entry_of

variable (floats : FloatText) (ensure_ascii : Bool)

variable {entries others : List (String × Json)}

/-- The text of an object does not depend on the order of its entries. -/
theorem encode_object_of_perm (hnodup : (entries.map Prod.fst).Nodup) (hperm : entries.Perm others) :
    encode floats ensure_ascii (.object entries) = encode floats ensure_ascii (.object others) := by
  rw [encode_object, encode_object]
  unfold object_items
  rw [sort_keys_eq_of_perm hnodup hperm]

theorem encode_object_sort_keys (entries : List (String × Json)) :
    encode floats ensure_ascii (.object (sort_keys entries)) = encode floats ensure_ascii (.object entries) := by
  rw [encode_object, encode_object]
  unfold object_items
  rw [sort_keys_sort_keys]

mutual

/-- The text of a value does not depend on the order of the entries of its objects. -/
theorem encode_sorted : ∀ value : Json, encode floats ensure_ascii (sorted value) = encode floats ensure_ascii value
  | .null | .bool _ | .int _ | .float _ | .text _ => rfl
  | .list values => by
    unfold sorted encode
    rw [encode_sorted_values values]
  | .object entries => by
    unfold sorted
    rw [encode_object_sort_keys]
    unfold encode
    rw [encode_sorted_entries entries]

theorem encode_sorted_values : ∀ values : List Json,
    encode_values floats ensure_ascii (sorted_values values) = encode_values floats ensure_ascii values
  | [] => rfl
  | value :: rest => by
    unfold sorted_values encode_values
    rw [encode_sorted value, encode_sorted_values rest]

theorem encode_sorted_entries : ∀ entries : List (String × Json),
    encode_entries floats ensure_ascii (sorted_entries entries) = encode_entries floats ensure_ascii entries
  | [] => rfl
  | (key, value) :: rest => by
    unfold sorted_entries encode_entries
    rw [encode_sorted value, encode_sorted_entries rest]

end

theorem sorted_entries_sort_keys (entries : List (String × Json)) :
    sorted_entries (sort_keys entries) = sort_keys (sorted_entries entries) := by
  rw [sorted_entries_eq_map, sorted_entries_eq_map, sort_keys_map]

mutual

theorem sorted_sorted : ∀ value : Json, sorted (sorted value) = sorted value
  | .null | .bool _ | .int _ | .float _ | .text _ => rfl
  | .list values => congrArg Json.list (sorted_sorted_values values)
  | .object entries => by
    change Json.object (sort_keys (sorted_entries (sort_keys (sorted_entries entries)))) =
      Json.object (sort_keys (sorted_entries entries))
    rw [sorted_entries_sort_keys, sort_keys_sort_keys, sorted_sorted_entries entries]

theorem sorted_sorted_values : ∀ values : List Json, sorted_values (sorted_values values) = sorted_values values
  | [] => rfl
  | value :: rest => congrArg₂ List.cons (sorted_sorted value) (sorted_sorted_values rest)

theorem sorted_sorted_entries : ∀ entries : List (String × Json),
    sorted_entries (sorted_entries entries) = sorted_entries entries
  | [] => rfl
  | (key, value) :: rest =>
    congrArg₂ (fun value rest => (key, value) :: rest) (sorted_sorted value) (sorted_sorted_entries rest)

end

/-- Sorting the entries changes their order only. -/
theorem same_sorted (value : Json) : Same (sorted value) value := sorted_sorted value

theorem floats_in_entries_eq_flatMap (entries : List (String × Json)) :
    floats_in_entries entries = entries.flatMap (fun entry => floats_in entry.2) := by
  induction entries with
  | nil => rfl
  | cons entry rest ih =>
    rw [List.flatMap_cons, ← ih]
    rfl

theorem floats_in_entries_perm (hperm : entries.Perm others) :
    (floats_in_entries entries).Perm (floats_in_entries others) := by
  rw [floats_in_entries_eq_flatMap, floats_in_entries_eq_flatMap]
  exact hperm.flatMap_right _

mutual

theorem floats_in_sorted : ∀ value : Json, (floats_in (sorted value)).Perm (floats_in value)
  | .null | .bool _ | .int _ | .float _ | .text _ => .rfl
  | .list values => floats_in_sorted_values values
  | .object entries =>
    (floats_in_entries_perm (sort_keys_perm _)).trans (floats_in_sorted_entries entries)

theorem floats_in_sorted_values : ∀ values : List Json,
    (floats_in_values (sorted_values values)).Perm (floats_in_values values)
  | [] => .rfl
  | value :: rest => (floats_in_sorted value).append (floats_in_sorted_values rest)

theorem floats_in_sorted_entries : ∀ entries : List (String × Json),
    (floats_in_entries (sorted_entries entries)).Perm (floats_in_entries entries)
  | [] => .rfl
  | (_, value) :: rest => (floats_in_sorted value).append (floats_in_sorted_entries rest)

end

theorem dumps_eq_some_iff {value : Json} {text : String} : dumps floats ensure_ascii value = some text ↔
    (floats_in value).all is_finite = true ∧ text = String.ofList (encode floats ensure_ascii value) := by
  unfold dumps
  split
  · rename_i hfinite
    rw [Option.some.injEq]
    exact ⟨fun htext => ⟨hfinite, htext.symm⟩, fun htext => htext.2.symm⟩
  · rename_i hinfinite
    exact ⟨fun htext => (by cases htext), fun htext => absurd htext.1 hinfinite⟩

/-- The canonical text of a value does not depend on the order of the entries of its objects. -/
theorem dumps_sorted (value : Json) : dumps floats ensure_ascii (sorted value) = dumps floats ensure_ascii value := by
  unfold dumps
  rw [(floats_in_sorted value).all_eq, encode_sorted]

theorem dumps_object_of_perm (hnodup : (entries.map Prod.fst).Nodup) (hperm : entries.Perm others) :
    dumps floats ensure_ascii (.object entries) = dumps floats ensure_ascii (.object others) := by
  unfold dumps
  have hfloats : (floats_in (.object entries)).Perm (floats_in (.object others)) := floats_in_entries_perm hperm
  rw [hfloats.all_eq, encode_object_of_perm floats ensure_ascii hnodup hperm]

/-- The value reads back from its canonical text, up to the order of the entries of its objects, whatever white space
follows. -/
theorem loads_dumps {reader : Reader} (hbuilds : reader.Builds) {value : Json} (hdistinct : Distinct value)
    (hreads : ∀ q, .finite q ∈ floats_in value → reader.floats.Reads q) {text : String}
    (hdumps : dumps reader.floats ensure_ascii value = some text) {spaces : List Char}
    (hspaces : ∀ c ∈ spaces, is_space c = true) :
    loads reader (text ++ String.ofList spaces) = some (sorted value) := by
  obtain ⟨hfinite, rfl⟩ := (dumps_eq_some_iff _ _).mp hdumps
  have hread : Readable reader.floats (floats_in value) := by
    intro float hfloat
    have hone := List.all_eq_true.mp hfinite float hfloat
    cases float with
    | finite q => exact ⟨q, rfl, hreads q hfloat⟩
    | inf => cases hone
    | neg_inf => cases hone
    | nan => cases hone
  have hloads := loads_encode hbuilds ensure_ascii hdistinct hread hspaces
  rwa [String.ofList_append] at hloads

/-- Values with one canonical text are the same value. -/
theorem same_of_encode_eq {value other : Json} (hdistinct : Distinct value) (hother : Distinct other)
    (hread : Readable floats (floats_in value)) (hread_other : Readable floats (floats_in other))
    (hsame : encode floats ensure_ascii value = encode floats ensure_ascii other) : Same value other := by
  let reader : Reader := { floats, parse_constant := some ∘ Json.float, object_of_pairs := dict_of_pairs }
  have hbuilds : reader.Builds := fun _ hnodup => dict_of_pairs_of_nodup hnodup
  have hspaces : ∀ c ∈ ([] : List Char), is_space c = true := by simp
  have hvalue := loads_encode hbuilds ensure_ascii hdistinct hread hspaces
  have hloaded := loads_encode hbuilds ensure_ascii hother hread_other hspaces
  change loads reader (String.ofList (encode floats ensure_ascii value ++ [])) = _ at hvalue
  rw [hsame] at hvalue
  exact Option.some.inj (hvalue.symm.trans hloaded)

end python.json
