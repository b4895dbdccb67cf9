import VelvetRuntime.RuntimeDaemon.Journal

open python velvet.distributed_work_service

namespace velvet.distributed_work_daemon

open RuntimeLifecycleJournal

/-- A line of the recovery journal. -/
inductive RecoveryRecord where
  | interrupted_work (work_id : String)
  | recovery_pass_failed (error_type error : String)
  deriving DecidableEq

/-- How far the Runtime daemon is: its startup has read the state file, it has written it anew and has these works
left to record, or it is started. -/
inductive RuntimePhase where
  | down
  | loaded (interrupted : List String)
  | recording (remaining : List String)
  | started
  deriving DecidableEq

/-- The files of the daemon and its process. `crashed` remembers the works that the state file listed as active when
the process crashed. -/
structure RuntimeMachine where
  file : RuntimeStateFile
  recovery : List RecoveryRecord
  phase : RuntimePhase
  crashed : List String

/-- Every write of a file is one event; the process may crash before and after each. -/
inductive RuntimeEvent where
  | load
  | replace (boot_id : String)
  | record
  | complete_startup
  | lifecycle (event_type : EventType) (subject_id : String) (payload : Payload) (receipt_id : String)
  | recovery_pass_failed (error_type error : String)
  | shutdown
  | crash

namespace RuntimeMachine

/-- An event that the process cannot come to in its phase changes nothing. -/
def step (self : RuntimeMachine) : RuntimeEvent → RuntimeMachine
  | .load =>
    match self.phase, self.file.load with
    | .down, .ok prior => { self with phase := .loaded (interrupted_work prior) }
    | _, _ => self
  | .replace boot_id =>
    match self.phase with
    | .loaded interrupted => { self with
        file := .holds (started boot_id interrupted)
        phase := .recording interrupted }
    | _ => self
  | .record =>
    match self.phase with
    | .recording (work_id :: remaining) => { self with
        recovery := self.recovery ++ [.interrupted_work work_id]
        phase := .recording remaining }
    | _ => self
  | .complete_startup =>
    match self.phase with
    | .recording [] => { self with phase := .started }
    | _ => self
  | .lifecycle event_type subject_id payload receipt_id =>
    match self.phase with
    | .started => { self with file := call self.file event_type subject_id payload receipt_id }
    | _ => self
  | .recovery_pass_failed error_type error =>
    match self.phase with
    | .started => { self with recovery := self.recovery ++ [.recovery_pass_failed error_type error] }
    | _ => self
  | .shutdown =>
    match self.phase with
    | .started => { self with
        file := mark_clean_shutdown self.file
        phase := .down }
    | _ => self
  | .crash =>
    if self.phase = .down then self
    else { self with
      phase := .down
      crashed := self.crashed ++ self.file.active_work }

/-- The daemon is installed over a state file and a recovery journal from before. -/
def installed (file : RuntimeStateFile) (recovery : List RecoveryRecord) : RuntimeMachine :=
  ⟨file, recovery, .down, []⟩

def run (self : RuntimeMachine) (events : List RuntimeEvent) : RuntimeMachine := events.foldl step self

/-- Once its startup is complete, every work that some crash has interrupted is in the recovery journal. -/
def Kept (self : RuntimeMachine) : Prop :=
  self.phase = .started → ∀ work ∈ self.crashed, .interrupted_work work ∈ self.recovery

/-- A crash does not find works of an earlier crash that the startup has taken off the state file and that are not in
the recovery journal yet. -/
def SparesStartup (self : RuntimeMachine) : RuntimeEvent → Prop
  | .crash =>
    match self.phase with
    | .recording remaining => ∀ work ∈ remaining, work ∈ self.crashed → .interrupted_work work ∈ self.recovery
    | _ => True
  | _ => True

def SparesAlways : RuntimeMachine → List RuntimeEvent → Prop
  | _, [] => True
  | self, event :: rest => self.SparesStartup event ∧ SparesAlways (self.step event) rest

instance (self : RuntimeMachine) (event : RuntimeEvent) : Decidable (self.SparesStartup event) := by
  unfold SparesStartup
  split
  · split
    · infer_instance
    · infer_instance
  · infer_instance

/-- Where a work that a crash has interrupted is until the startup is complete. -/
def Pending (self : RuntimeMachine) (work : String) : Prop :=
  match self.phase with
  | .down => work ∈ self.file.active_work
  | .loaded interrupted => work ∈ interrupted ∧ work ∈ self.file.active_work
  | .recording remaining => work ∈ remaining
  | .started => False

/-- Every interrupted work is in the recovery journal, or on its way there. -/
def Traced (self : RuntimeMachine) : Prop :=
  ∀ work ∈ self.crashed, .interrupted_work work ∈ self.recovery ∨ self.Pending work

variable (file : RuntimeStateFile) (recovery : List RecoveryRecord)

theorem traced_installed :
    (installed file recovery).Traced := by
  intro work hwork
  cases hwork

/-- A startup works through exactly what the file listed. -/
theorem mem_interrupted_work_iff {file : RuntimeStateFile} {prior : RuntimeState} (hload : file.load = .ok prior)
    (work : String) : work ∈ interrupted_work prior ↔ work ∈ file.active_work := by
  unfold interrupted_work RuntimeStateFile.active_work
  rw [hload, (List.perm_insertionSort _ _).mem_iff]

variable {self : RuntimeMachine}

/-- A daemon that has come up has recorded every interrupted work. -/
theorem Traced.kept (htraced : self.Traced) : self.Kept := by
  intro hphase work hwork
  obtain hrecorded | hpending := htraced work hwork
  · exact hrecorded
  · unfold Pending at hpending
    rw [hphase] at hpending
    cases hpending

/-- What a crash adds to the interrupted works is what the file lists. -/
theorem Traced.crash (htraced : self.Traced) (hspares : self.SparesStartup .crash) :
    (self.step .crash).Traced := by
  dsimp only [step]
  split
  · exact htraced
  · rename_i hup
    intro work hwork
    obtain hwork | hwork := List.mem_append.mp hwork
    · obtain hrecorded | hpending := htraced work hwork
      · exact .inl hrecorded
      · unfold Pending at hpending
        unfold SparesStartup at hspares
        cases hphase : self.phase with
        | down => exact absurd hphase hup
        | loaded interrupted =>
          rw [hphase] at hpending
          exact .inr hpending.2
        | recording remaining =>
          rw [hphase] at hpending hspares
          exact .inl (hspares work hpending hwork)
        | started =>
          rw [hphase] at hpending
          cases hpending
    · exact .inr hwork

theorem Traced.record (htraced : self.Traced) : (self.step .record).Traced := by
  unfold step
  dsimp only
  split
  · rename_i work_id remaining hphase
    intro work hwork
    obtain hrecorded | hpending := htraced work hwork
    · exact .inl (List.mem_append_left _ hrecorded)
    · unfold Pending at hpending
      rw [hphase] at hpending
      obtain hsame | hremaining := List.mem_cons.mp hpending
      · exact .inl (List.mem_append_right _ (by simp [hsame]))
      · exact .inr hremaining
  · exact htraced

/-- One event keeps every interrupted work recorded or on its way. -/
theorem Traced.step (htraced : self.Traced) {event : RuntimeEvent} (hspares : self.SparesStartup event) :
    (self.step event).Traced := by
  cases event with
  | load =>
    unfold RuntimeMachine.step
    dsimp only
    split
    · rename_i prior hphase hload
      intro work hwork
      obtain hrecorded | hpending := htraced work hwork
      · exact .inl hrecorded
      · unfold Pending at hpending
        rw [hphase] at hpending
        exact .inr ⟨(mem_interrupted_work_iff hload work).mpr hpending, hpending⟩
    · exact htraced
  | replace boot_id =>
    unfold RuntimeMachine.step
    dsimp only
    split
    · rename_i interrupted hphase
      intro work hwork
      obtain hrecorded | hpending := htraced work hwork
      · exact .inl hrecorded
      · unfold Pending at hpending
        rw [hphase] at hpending
        exact .inr hpending.1
    · exact htraced
  | record => exact htraced.record
  | complete_startup =>
    unfold RuntimeMachine.step
    dsimp only
    split
    · rename_i hphase
      intro work hwork
      obtain hrecorded | hpending := htraced work hwork
      · exact .inl hrecorded
      · unfold Pending at hpending
        rw [hphase] at hpending
        cases hpending
    · exact htraced
  | lifecycle event_type subject_id payload receipt_id =>
    unfold RuntimeMachine.step
    dsimp only
    split
    · rename_i hphase
      exact fun work hwork => .inl (htraced.kept hphase work hwork)
    · exact htraced
  | recovery_pass_failed error_type error =>
    unfold RuntimeMachine.step
    dsimp only
    split
    · rename_i hphase
      exact fun work hwork => .inl (List.mem_append_left _ (htraced.kept hphase work hwork))
    · exact htraced
  | shutdown =>
    unfold RuntimeMachine.step
    dsimp only
    split
    · rename_i hphase
      exact fun work hwork => .inl (htraced.kept hphase work hwork)
    · exact htraced
  | crash => exact htraced.crash hspares

theorem Traced.run {self : RuntimeMachine} (htraced : self.Traced) {events : List RuntimeEvent}
    (hspares : self.SparesAlways events) : (self.run events).Traced := by
  induction events generalizing self with
  | nil => exact htraced
  | cons event rest ih => exact ih (htraced.step hspares.1) hspares.2

theorem SparesAlways.of_prefix {earlier later : List RuntimeEvent} (hspares : self.SparesAlways (earlier ++ later)) :
    self.SparesAlways earlier := by
  induction earlier generalizing self with
  | nil => trivial
  | cons event rest ih => exact ⟨hspares.1, ih hspares.2⟩

/-- Startup takes the interrupted works off the state file before it records them. In every run that never crashes
between the two, every completed startup has recorded every work that some crash interrupted. -/
theorem interrupted_work_kept (file : RuntimeStateFile) (recovery : List RecoveryRecord)
    (events : List RuntimeEvent) (hspares : (installed file recovery).SparesAlways events)
    (earlier : List RuntimeEvent) (hearlier : earlier <+: events) :
    ((installed file recovery).run earlier).Kept := by
  obtain ⟨later, rfl⟩ := hearlier
  exact ((traced_installed file recovery).run hspares.of_prefix).kept

/-- While a startup records, the state file lists nothing. -/
def Rewritten (self : RuntimeMachine) : Prop :=
  ∀ remaining, self.phase = .recording remaining → ∃ boot_id interrupted, self.file = .holds (started boot_id interrupted)

theorem Rewritten.step (hrewritten : self.Rewritten) (event : RuntimeEvent) :
    (self.step event).Rewritten := by
  cases event with
  | replace boot_id =>
    dsimp only [RuntimeMachine.step]
    split
    · rename_i interrupted hphase
      exact fun remaining _ => ⟨boot_id, interrupted, rfl⟩
    · exact hrewritten
  | record =>
    dsimp only [RuntimeMachine.step]
    split
    · rename_i work_id remaining hphase
      exact fun _ _ => hrewritten (work_id :: remaining) hphase
    · exact hrewritten
  | lifecycle event_type subject_id payload receipt_id | recovery_pass_failed error_type error =>
    dsimp only [RuntimeMachine.step]
    split
    · rename_i hstarted
      exact fun remaining hphase => by cases hstarted.symm.trans hphase
    · exact hrewritten
  | load | complete_startup | shutdown | crash =>
    dsimp only [RuntimeMachine.step]
    split <;> first
      | exact hrewritten
      | exact fun remaining hphase => by cases hphase

theorem Rewritten.run {self : RuntimeMachine} (hrewritten : self.Rewritten) (events : List RuntimeEvent) :
    (self.run events).Rewritten := by
  induction events generalizing self with
  | nil => exact hrewritten
  | cons event rest ih => exact ih (hrewritten.step event)

/-- The condition is needed: after a crash that breaks it, the next startup completes without the record. -/
theorem lost_at_next_startup (file : RuntimeStateFile) (recovery : List RecoveryRecord) (events : List RuntimeEvent)
    (hcrash : ¬((installed file recovery).run events).SparesStartup .crash) (boot_id : String) :
    ¬((((installed file recovery).run events).step .crash).run
      [.load, .replace boot_id, .complete_startup]).Kept := by
  have hinstalled : (installed file recovery).Rewritten := fun remaining hphase => by cases hphase
  have hrewritten := hinstalled.run events
  generalize (installed file recovery).run events = self at hcrash hrewritten
  unfold SparesStartup at hcrash
  dsimp only at hcrash
  split at hcrash
  · rename_i remaining hphase
    push Not at hcrash
    obtain ⟨work, hremaining, hwork, hunrecorded⟩ := hcrash
    obtain ⟨old_boot_id, interrupted, hfile⟩ := hrewritten remaining hphase
    have hcrashed : self.step .crash = { self with
        phase := .down
        crashed := self.crashed ++ self.file.active_work } := if_neg (by rw [hphase]; simp)
    have hrestarted : (self.step .crash).run [.load, .replace boot_id, .complete_startup] = { self with
        file := .holds (started boot_id [])
        phase := .started
        crashed := self.crashed ++ self.file.active_work } := by
      rw [hcrashed, hfile]
      rfl
    rw [hrestarted]
    intro hkept
    exact hunrecorded (hkept rfl work (List.mem_append_left _ hwork))
  · exact absurd trivial hcrash

/-- The works that a startup has read, or has left to record. -/
def works (self : RuntimeMachine) : List String :=
  match self.phase with
  | .loaded works | .recording works => works
  | .down | .started => []

/-- What is known of the works that are recorded as interrupted, or are on their way there. -/
def Sourced (known : String → Prop) (self : RuntimeMachine) : Prop :=
  (∀ work, .interrupted_work work ∈ self.recovery → known work) ∧ ∀ work ∈ self.works, known work

theorem Sourced.step {known : String → Prop} (hsourced : self.Sourced known) (event : RuntimeEvent)
    (hload : event = .load → ∀ work ∈ self.file.active_work, known work) : (self.step event).Sourced known := by
  cases event with
  | load =>
    dsimp only [RuntimeMachine.step]
    split
    · rename_i prior _ hprior
      exact ⟨hsourced.1, fun work hwork => hload rfl work ((mem_interrupted_work_iff hprior work).mp hwork)⟩
    · exact hsourced
  | replace boot_id =>
    dsimp only [RuntimeMachine.step]
    split
    · rename_i interrupted hphase
      unfold Sourced works at hsourced
      rw [hphase] at hsourced
      exact hsourced
    · exact hsourced
  | record =>
    dsimp only [RuntimeMachine.step]
    split
    · rename_i work_id remaining hphase
      unfold Sourced works at hsourced
      rw [hphase, List.forall_mem_cons] at hsourced
      refine ⟨fun work hwork => ?_, hsourced.2.2⟩
      rcases List.mem_append.mp hwork with hearlier | hnew
      · exact hsourced.1 work hearlier
      · cases List.mem_singleton.mp hnew
        exact hsourced.2.1
    · exact hsourced
  | recovery_pass_failed error_type error =>
    dsimp only [RuntimeMachine.step]
    split
    · exact ⟨fun work hwork => hsourced.1 work (by simpa using hwork), hsourced.2⟩
    · exact hsourced
  | lifecycle event_type subject_id payload receipt_id | complete_startup | shutdown | crash =>
    dsimp only [RuntimeMachine.step]
    split <;> first
      | exact hsourced
      | exact ⟨hsourced.1, List.forall_mem_nil _⟩

/-- No interruption is invented: every work that a run records as interrupted was listed in the state file at one of its
starts. -/
theorem interruptions_listed (events : List RuntimeEvent) :
    ((installed file recovery).run events).Sourced fun work => .interrupted_work work ∈ recovery ∨
      ∃ earlier, earlier ++ [.load] <+: events ∧ work ∈ ((installed file recovery).run earlier).file.active_work := by
  induction events using List.reverseRecOn with
  | nil => exact ⟨fun _ => .inl, List.forall_mem_nil _⟩
  | append_singleton events event ih =>
    rw [run, List.foldl_append]
    refine Sourced.step ⟨fun work hwork => ?_, fun work hwork => ?_⟩ event ?_
    · exact (ih.1 work hwork).imp_right (.imp fun _ => .imp_left (·.trans (List.prefix_append _ _)))
    · exact (ih.2 work hwork).imp_right (.imp fun _ => .imp_left (·.trans (List.prefix_append _ _)))
    · rintro rfl work hwork
      exact .inr ⟨events, List.prefix_rfl, hwork⟩

/-- An offer of `w1` to `a`. -/
def plain_offered : RuntimeEvent :=
  .lifecycle .WORK_OFFERED "w1" (.work {
    work_id := "w1"
    work_class := "sensing"
    required_capabilities := ["sense"]
    important_result := false
    court_authorization_required := false
    node_id := some "a"
    organ := some "eye"
    placement_mode := none
    lease_id := some "w1:a"
    lease_expires_at := some 1000
    degradation_mode := none
    reason := none
    from_node_id := none
    to_node_id := none
    result_status := none }) "runtime-1"

/-- The daemon crashes while `w1` is active, and once more on the way up, before it has written the state file. -/
def crashed_before_write : List RuntimeEvent :=
  [.load, .replace "b1", .complete_startup, plain_offered, .crash, .load, .crash, .load, .replace "b2", .record,
    .complete_startup]

instance decidable_spares_always : (self : RuntimeMachine) → (events : List RuntimeEvent) →
    Decidable (self.SparesAlways events)
  | _, [] => inferInstanceAs (Decidable True)
  | self, event :: rest =>
    have := decidable_spares_always (self.step event) rest
    inferInstanceAs (Decidable (_ ∧ _))

theorem crashed_before_write_recorded :
    ((installed .absent []).run crashed_before_write).Kept ∧
      ((installed .absent []).run crashed_before_write).phase = .started ∧
      ((installed .absent []).run crashed_before_write).crashed = ["w1", "w1"] :=
  ⟨interrupted_work_kept .absent [] crashed_before_write (by decide) crashed_before_write List.prefix_rfl,
    by decide, by decide⟩

/-- The second crash comes between the write of the state file and the record of `w1`. -/
def crashed_after_write : List RuntimeEvent :=
  [.load, .replace "b1", .complete_startup, plain_offered, .crash, .load, .replace "b2", .crash, .load,
    .replace "b3", .complete_startup]

/-- The third startup completes with an empty recovery journal. -/
theorem crashed_after_write_lost :
    let reached := (installed .absent []).run crashed_after_write
    ¬reached.Kept ∧ reached.phase = .started ∧ reached.crashed = ["w1"] ∧ reached.recovery = [] := by
  have hphase : ((installed .absent []).run crashed_after_write).phase = .started := by decide
  have hcrashed : ((installed .absent []).run crashed_after_write).crashed = ["w1"] := by decide
  have hrecovery : ((installed .absent []).run crashed_after_write).recovery = [] := by decide
  refine ⟨?_, hphase, hcrashed, hrecovery⟩
  intro hkept
  have hrecorded := hkept hphase "w1" (by rw [hcrashed]; exact List.mem_singleton_self _)
  rw [hrecovery] at hrecorded
  cases hrecorded

theorem startup_crash_lost : ¬((((installed .absent []).run [.load, .replace "b1", .complete_startup, plain_offered,
    .crash, .load, .replace "b2"]).step .crash).run [.load, .replace "b3", .complete_startup]).Kept :=
  lost_at_next_startup .absent [] _ (by decide) "b3"

end RuntimeMachine

end velvet.distributed_work_daemon
