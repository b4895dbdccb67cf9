import VelvetRuntime.Error
import VelvetRuntime.Text

open python.str

namespace velvet.token_replay_ledger

def SCHEMA : String := "velvet.token.replay.v1"
def CONSUMED : String := "consumed"

/-- A line of the ledger file as `json.loads` reads it; a field that is absent or no text is `none`. -/
inductive Line where
  | blank
  | invalid (message : String)
  | not_an_object
  | record (schema state token_id : Option String)
  deriving DecidableEq

/-- The line that `consume` writes. -/
def consumed_line (token_id : String) : Line :=
  .record (some SCHEMA) (some CONSUMED) (some token_id)

/-- What neither the ledger nor the file determines about one access: the exception that opening or reading
the file raises, and the one that appending raises, with whether the line was written nevertheless. -/
structure Access where
  open_error : Option Error
  append_error : Option (Error × Bool)

/-- A ledger object: the file it reads, and the ids of the last time it read it. -/
structure TokenReplayLedger where
  path : String
  token_ids : List String

variable [StrLower]

/-- `_normalize`: the text itself when it is normalised, else nothing. -/
def normalize (value : String) : String :=
  if normalized value = value then value else ""

def line_error (number : Nat) (message : String) : Error :=
  ⟨.ValueError, "token replay ledger line " ++ toString number ++ message⟩

/-- The loop body of `_load_handle`. -/
def load_line (number : Nat) : Line → Except Error (Option String)
  | .blank => .ok none
  | .invalid message => .error (line_error number (" is invalid JSON: " ++ message))
  | .not_an_object => .error (line_error number " must be an object")
  | .record schema state token_id =>
    if schema ≠ some SCHEMA then .error (line_error number " has an unsupported schema")
    else if state ≠ some CONSUMED then .error (line_error number " has an invalid state")
    else
      let found := normalize (token_id.getD "")
      if found = "" then .error (line_error number " has an invalid token_id") else .ok (some found)

/-- The loop of `_load_handle` over the lines from a number on. -/
def load_lines : Nat → List Line → Except Error (List String)
  | _, [] => .ok []
  | number, line :: rest =>
    match load_line number line with
    | .error error => .error error
    | .ok found =>
      match load_lines (number + 1) rest with
      | .error error => .error error
      | .ok others => .ok (found.toList ++ others)

def load_handle (lines : List Line) : Except Error (List String) := load_lines 1 lines

/-- `_load`: a file that does not exist has no ids. -/
def load (access : Access) (file : Option (List Line)) : Except Error (List String) :=
  match access.open_error, file with
  | some error, _ => .error error
  | none, none => .ok []
  | none, some lines => load_handle lines

/-- `token_id in ledger`. -/
def TokenReplayLedger.contains (self : TokenReplayLedger) (access : Access) (file : Option (List Line))
    (token_id : String) : Except Error Bool × TokenReplayLedger :=
  let wanted := normalize token_id
  if wanted = "" then (.ok false, self)
  else
    match load access file with
    | .error error => (.error error, self)
    | .ok found => (.ok (wanted ∈ found), { self with token_ids := found })

/-- `consume`, under the lock of the file: its answer, the ledger and the file afterwards. -/
def TokenReplayLedger.consume (self : TokenReplayLedger) (access : Access) (file : Option (List Line))
    (token_id : String) : Except Error Bool × TokenReplayLedger × Option (List Line) :=
  let wanted := normalize token_id
  if wanted = "" then (.error ⟨.ValueError, "token_id must be a non-empty normalized string"⟩, self, file)
  else
    match access.open_error with
    | some error => (.error error, self, file)
    | none =>
      -- Opening for appending creates the file.
      let lines := file.getD []
      match load_handle lines with
      | .error error => (.error error, self, some lines)
      | .ok found =>
        if wanted ∈ found then (.ok false, { self with token_ids := found }, some lines)
        else
          match access.append_error with
          | some (error, written) =>
            (.error error, self, some (if written then lines ++ [consumed_line wanted] else lines))
          | none =>
            (.ok true, { self with token_ids := found ++ [wanted] }, some (lines ++ [consumed_line wanted]))

/-- `TokenReplayLedger(path)` over a ledger object of that path; one that fails to load leaves the old. -/
def TokenReplayLedger.reload (self : TokenReplayLedger) (access : Access) (file : Option (List Line)) :
    TokenReplayLedger :=
  match load access file with
  | .error _ => self
  | .ok found => { self with token_ids := found }

variable (self : TokenReplayLedger) (access : Access) (file : Option (List Line)) (token_id : String)

@[simp] theorem path_contains : (self.contains access file token_id).2.path = self.path := by
  unfold TokenReplayLedger.contains
  dsimp only
  split
  · rfl
  · split <;> rfl

@[simp] theorem path_consume : (self.consume access file token_id).2.1.path = self.path := by
  unfold TokenReplayLedger.consume
  dsimp only
  split
  · rfl
  · split
    · rfl
    · split
      · rfl
      · split
        · rfl
        · split <;> rfl

@[simp] theorem path_reload :
    (self.reload access file).path = self.path := by
  unfold TokenReplayLedger.reload
  split <;> rfl

theorem normalize_eq_self {value : String} (hnonempty : normalize value ≠ "") : normalize value = value := by
  unfold normalize at hnonempty ⊢
  split
  · rfl
  · rename_i hnot
    rw [if_neg hnot] at hnonempty
    exact absurd rfl hnonempty

/-- A file that loads has the id of every consumption record in it. -/
theorem mem_load_lines {number : Nat} {lines : List Line} {found : List String} {token_id : String}
    (hload : load_lines number lines = .ok found) (hnormal : normalize token_id = token_id)
    (hline : consumed_line token_id ∈ lines) : token_id ∈ found := by
  induction lines generalizing number found with
  | nil => cases hline
  | cons line rest ih =>
    unfold load_lines at hload
    cases hfirst : load_line number line with
    | error error =>
      rw [hfirst] at hload
      cases hload
    | ok first =>
      cases hrest : load_lines (number + 1) rest with
      | error error =>
        rw [hfirst, hrest] at hload
        cases hload
      | ok others =>
        rw [hfirst, hrest] at hload
        cases hload
        rcases List.mem_cons.mp hline with rfl | htail
        · -- The record's own line gives its id.
          have hsome : first = some token_id := by
            unfold consumed_line load_line at hfirst
            simp only [ne_eq, not_true_eq_false, if_false, Option.getD_some, hnormal] at hfirst
            split at hfirst
            · cases hfirst
            · cases hfirst
              rfl
          rw [hsome]
          exact List.mem_append_left _ (List.mem_singleton_self _)
        · exact List.mem_append_right _ (ih hrest htail)

/-- What a file that loads begins with loads too, and gives no other ids. -/
theorem load_lines_append {number : Nat} {lines more : List Line} {found : List String}
    (hload : load_lines number (lines ++ more) = .ok found) :
    ∃ before, load_lines number lines = .ok before ∧ before ⊆ found := by
  induction lines generalizing number found with
  | nil => exact ⟨[], rfl, List.nil_subset _⟩
  | cons line rest ih =>
    rw [List.cons_append] at hload
    unfold load_lines at hload ⊢
    cases hfirst : load_line number line with
    | error error =>
      rw [hfirst] at hload
      cases hload
    | ok first =>
      cases hrest : load_lines (number + 1) (rest ++ more) with
      | error error =>
        rw [hfirst, hrest] at hload
        cases hload
      | ok others =>
        rw [hfirst, hrest] at hload
        cases hload
        obtain ⟨before, hbefore, hsubset⟩ := ih hrest
        refine ⟨first.toList ++ before, ?_, ?_⟩
        · rw [hbefore]
        · exact List.append_subset.mpr
            ⟨List.subset_append_left _ _, List.Subset.trans hsubset (List.subset_append_right _ _)⟩

theorem contains_ok_iff
    (answer : Bool) : (self.contains access file token_id).1 = .ok answer ↔
      (normalize token_id = "" ∧ answer = false) ∨ (normalize token_id ≠ "" ∧ access.open_error = none ∧
        ∃ found, load_handle (file.getD []) = .ok found ∧ answer = decide (normalize token_id ∈ found)) := by
  have hload : ∀ found, load access file = .ok found ↔
      access.open_error = none ∧ load_handle (file.getD []) = .ok found := by
    intro found
    unfold load
    cases access.open_error with
    | some error => simp
    | none =>
      cases file with
      | none => simp [load_handle, load_lines]
      | some lines => simp
  unfold TokenReplayLedger.contains
  by_cases hwanted : normalize token_id = ""
  · simp [hwanted, eq_comm]
  · simp only [hwanted, if_false, false_and, false_or, not_false_eq_true, true_and, ne_eq]
    cases hfound : load access file with
    | error error =>
      simp only [reduceCtorEq, false_iff, not_and, not_exists]
      intro hopen found hhandle _
      rw [(hload found).mpr ⟨hopen, hhandle⟩] at hfound
      cases hfound
    | ok found =>
      obtain ⟨hopen, hhandle⟩ := (hload found).mp hfound
      simp [hopen, hhandle, eq_comm]

/-- What a consumption can do to the file: it says yes only to an id that no record had, and then the file
has the record of it; in every other case the file has at most a record more. -/
theorem consume_cases :
    ((self.consume access file token_id).1 = .ok true ∧ normalize token_id = token_id ∧
      consumed_line token_id ∉ file.getD [] ∧
      (self.consume access file token_id).2.2 = some (file.getD [] ++ [consumed_line token_id])) ∨
    ((self.consume access file token_id).1 ≠ .ok true ∧
      (((self.consume access file token_id).2.2.getD [] = file.getD []) ∨
        ((self.consume access file token_id).2.2.getD [] = file.getD [] ++ [consumed_line token_id]))) := by
  unfold TokenReplayLedger.consume
  dsimp only
  split
  · exact Or.inr ⟨by simp, Or.inl rfl⟩
  · rename_i hwanted
    have hself := normalize_eq_self hwanted
    rw [hself]
    split
    · exact Or.inr ⟨by simp, Or.inl rfl⟩
    · split
      · exact Or.inr ⟨by simp, Or.inl rfl⟩
      · rename_i found hload
        split
        · exact Or.inr ⟨by simp, Or.inl rfl⟩
        · rename_i hnew
          split
          · rename_i error written _
            cases written with
            | false => exact Or.inr ⟨by simp, Or.inl rfl⟩
            | true => exact Or.inr ⟨by simp, Or.inr rfl⟩
          · refine Or.inl ⟨rfl, rfl, ?_, rfl⟩
            intro hline
            exact hnew (mem_load_lines hload hself hline)

end velvet.token_replay_ledger
