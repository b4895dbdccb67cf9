import Mathlib.Data.List.Forall2

namespace python.except

variable {ε α β : Type} (value : α)

theorem ok_bind (next : α → Except ε β) : (Except.ok value >>= next) = next value := rfl

variable {next : α → Except ε β} {first : Except ε α}

/-- A sequence of two calls returns when the first one returns and then the second. -/
theorem bind_eq_ok {result : β} :
    first >>= next = .ok result ↔ ∃ value, first = .ok value ∧ next value = .ok result := by
  cases first with
  | error error => simp [Bind.bind, Except.bind]
  | ok value => simp [Bind.bind, Except.bind]

variable {error : ε}

/-- A check is passed before the rest returns. -/
theorem check_bind_eq_ok {check : Except ε Unit} {rest : Unit → Except ε α} {result : α} :
    check >>= rest = .ok result ↔ check = .ok () ∧ rest () = .ok result := by
  rw [bind_eq_ok]
  exact ⟨fun ⟨_, hcheck, hrest⟩ => ⟨hcheck, hrest⟩, fun ⟨hcheck, hrest⟩ => ⟨(), hcheck, hrest⟩⟩

theorem guard_eq_ok {condition : Prop} [Decidable condition] {rest : Except ε α} {result : α} :
    (if condition then .error error else rest) = .ok result ↔ ¬condition ∧ rest = .ok result := by
  by_cases hcondition : condition
  · simp [hcondition]
  · simp [hcondition]

variable {call : Except ε α} {f : α → β}

theorem map_eq_ok {result : β} :
    call.map f = .ok result ↔ ∃ value, call = .ok value ∧ f value = result := by
  cases call with
  | error error => simp [Except.map]
  | ok value => simp [Except.map]

/-- A loop of calls returns when every call does, with the results in order. -/
theorem mapM_eq_ok {call : α → Except ε β} {values : List α} {results : List β} :
    values.mapM call = .ok results ↔ List.Forall₂ (fun value result => call value = .ok result) values results := by
  induction values generalizing results with
  | nil =>
    rw [List.mapM_nil, List.forall₂_nil_left_iff]
    exact ⟨fun hnil => (Except.ok.inj hnil).symm, fun hnil => by rw [hnil]; rfl⟩
  | cons value rest ih =>
    rw [List.mapM_cons, bind_eq_ok]
    constructor
    · rintro ⟨first, hfirst, hrest⟩
      obtain ⟨others, hothers, hresults⟩ := bind_eq_ok.mp hrest
      cases hresults
      exact .cons hfirst (ih.mp hothers)
    · intro hall
      cases hall with
      | cons hfirst hothers => exact ⟨_, hfirst, bind_eq_ok.mpr ⟨_, ih.mpr hothers, rfl⟩⟩

/-- A loop of checks passes when every check does. -/
theorem forM_eq_ok {check : α → Except ε Unit} {values : List α} :
    values.forM check = .ok () ↔ ∀ value ∈ values, check value = .ok () := by
  induction values with
  | nil => exact iff_of_true rfl (by simp)
  | cons value rest ih =>
    rw [List.forall_mem_cons, ← ih]
    exact check_bind_eq_ok

section RaisesOnly

variable {raised : ε → Prop}

/-- Whatever the call raises is as told. -/
def RaisesOnly (raised : ε → Prop) (call : Except ε α) : Prop := ∀ error, call = .error error → raised error

@[simp] theorem raises_only_ok : RaisesOnly raised (.ok value : Except ε α) := fun _ herror => nomatch herror

@[simp] theorem raises_only_error : RaisesOnly raised (.error error : Except ε α) ↔ raised error :=
  ⟨fun honly => honly error rfl, fun hraised _ herror => Except.error.inj herror ▸ hraised⟩

@[simp] theorem raises_only_throw : RaisesOnly raised (throw error : Except ε α) ↔ raised error :=
  raises_only_error

@[simp] theorem raises_only_bind :
    RaisesOnly raised (first >>= next) ↔
      RaisesOnly raised first ∧ ∀ value, first = .ok value → RaisesOnly raised (next value) := by
  cases first with
  | error error =>
    change RaisesOnly raised (.error error : Except ε β) ↔ _
    rw [raises_only_error, raises_only_error]
    exact ⟨fun hraised => ⟨hraised, fun _ hvalue => nomatch hvalue⟩, fun ⟨hraised, _⟩ => hraised⟩
  | ok value =>
    refine ⟨fun honly => ⟨raises_only_ok value, fun other hother => ?_⟩, fun ⟨_, hnext⟩ => hnext value rfl⟩
    cases hother
    exact honly

@[simp] theorem raises_only_map :
    RaisesOnly raised (call.map f) ↔ RaisesOnly raised call := by
  cases call with
  | error error => simp [Except.map]
  | ok value => simp [Except.map]

@[simp] theorem raises_only_functor_map :
    RaisesOnly raised (f <$> call) ↔ RaisesOnly raised call := raises_only_map

@[simp] theorem raises_only_ite {condition : Prop} [Decidable condition] {first second : Except ε α} :
    RaisesOnly raised (if condition then first else second) ↔
      (condition → RaisesOnly raised first) ∧ (¬condition → RaisesOnly raised second) := by
  by_cases hcondition : condition
  · simp [hcondition]
  · simp [hcondition]

end RaisesOnly

end python.except
