import Mathlib.Algebra.BigOperators.Group.List.Basic
import VelvetRuntime.Python.Dict

namespace python

namespace Dict

variable {K V : Type} [DecidableEq K]

/-- A dict has the entry of a key, and besides it what is left without the key. -/
theorem items_perm_of_get? (d : Dict K V) {key : K} {value : V} (hget : d.get? key = some value) :
    d.items.Perm ((key, value) :: (d.pop key).items) := by
  have hmem := (d.get?_eq_some_iff key value).mp hget
  have hpopped : ∀ entry, entry ∈ (d.pop key).items ↔ entry ∈ d.items ∧ entry.1 ≠ key := by
    intro entry
    simp [pop, filter]
  refine (List.perm_ext_iff_of_nodup d.nodup.of_map ?_).mpr ?_
  · refine List.nodup_cons.mpr ⟨?_, (d.pop key).nodup.of_map⟩
    intro hpop
    exact ((hpopped _).mp hpop).2 rfl
  · rintro ⟨other, found⟩
    rw [List.mem_cons, hpopped]
    constructor
    · intro hfound
      by_cases hother : other = key
      · subst hother
        have hsame : value = found := Option.some.inj (hget.symm.trans ((d.get?_eq_some_iff other found).mpr hfound))
        exact .inl (by rw [hsame])
      · exact .inr ⟨hfound, hother⟩
    · rintro (hsame | ⟨hfound, _⟩)
      · rw [hsame]
        exact hmem
      · exact hfound

theorem items_set_perm (d : Dict K V) (key : K) (value : V) :
    (d.set key value).items.Perm ((key, value) :: (d.pop key).items) := by
  have hperm := (d.set key value).items_perm_of_get? (d.get?_set_self key value)
  rwa [pop_set_self] at hperm

section

variable {M : Type} [AddCommMonoid M] (weight : V → M)

/-- What the values of a dict weigh together. -/
def total (d : Dict K V) : M := (d.values.map weight).sum

theorem total_of_get? (d : Dict K V) {key : K} {value : V} (hget : d.get? key = some value) :
    d.total weight = weight value + (d.pop key).total weight :=
  (((d.items_perm_of_get? hget).map Prod.snd).map weight).sum_eq

/-- A key that is assigned weighs what its new value weighs. -/
theorem total_set (d : Dict K V) (key : K) (value : V) :
    (d.set key value).total weight = weight value + (d.pop key).total weight :=
  (((d.items_set_perm key value).map Prod.snd).map weight).sum_eq

end

end Dict

end python
