import VelvetRuntime.SpecialistNode.Daemon

open python python.str velvet.distributed_work_coordinator velvet.distributed_work_service
open velvet.specialist_node_runner

namespace velvet.distributed_work_daemon

open SpecialistNodeRunner

section

variable [StrLower]

/-- A machine, and whether it owes a quarantine: its process stopped at some point while the file listed
active work, and `clear_quarantine` has not been called since. -/
structure Tracked where
  machine : Machine
  owed : Bool

/-- The runner is up: its constructor has returned. -/
def Machine.up (self : Machine) : Bool :=
  match self.process with
  | some process => process.stage = .ready
  | none => false

def Tracked.step (self : Tracked) (event : Event) : Tracked where
  machine := self.machine.step event
  owed :=
    match event with
    | .stop => self.owed || (self.machine.process.isSome && self.machine.file.lists)
    | .call .clear_quarantine => self.owed && !self.machine.up
    | _ => self.owed

def Tracked.run (self : Tracked) (events : List Event) : Tracked :=
  events.foldl Tracked.step self

/-- The machine before its daemon has ever run, with whatever is in the file. -/
def Tracked.start (file : StateFile) : Tracked := ⟨⟨file, none⟩, false⟩

/-- A machine that owes a quarantine has no runner up that is not quarantined. -/
def Tracked.Honoured (self : Tracked) : Prop :=
  self.owed = true → ∀ process, self.machine.process = some process → process.stage = .ready →
    process.runner.quarantine_reason.isSome = true

/-- The event stops no process that owes a quarantine once it has rewritten the file. -/
def Tracked.Spares (self : Tracked) (event : Event) : Prop :=
  match event, self.machine.process with
  | .stop, some process => self.owed = true → process.stage = .loaded
  | _, _ => True

instance (self : Tracked) (event : Event) : Decidable (self.Spares event) := by
  unfold Tracked.Spares
  split <;> infer_instance

/-- Every event of a run spares the processes that owe a quarantine. -/
def Tracked.SparesAll : Tracked → List Event → Prop
  | _, [] => True
  | self, event :: rest => self.Spares event ∧ SparesAll (self.step event) rest

instance decidable_spares_all : (self : Tracked) → (events : List Event) → Decidable (self.SparesAll events)
  | _, [] => inferInstanceAs (Decidable True)
  | self, event :: rest =>
    have := decidable_spares_all (self.step event) rest
    inferInstanceAs (Decidable (_ ∧ _))

omit [StrLower] in
theorem listed_work_replace (payload : Dict String JsonValue) {active : List String}
    (hactive : payload.get? "active_work_ids" = some (.texts active)) :
    (StateFile.replace payload).listed_work = .ok active := by
  unfold StateFile.listed_work StateFile.load StateFile.replace
  simp [hactive]

variable {file : StateFile}

/-- A save lists the work ids it has read. -/
theorem listed_work_update {listed : List String} (hlisted : file.listed_work = .ok listed) (kind : SaveKind)
    (profile : SpecialistNodeProfile) (active : List String) :
    (file.update (kind.payload profile active)).listed_work = .ok active := by
  unfold StateFile.update
  cases hload : file.load with
  | error error =>
    unfold StateFile.listed_work at hlisted
    rw [hload] at hlisted
    cases hlisted
  | ok current =>
    apply listed_work_replace
    cases kind <;> simp [SaveKind.payload, SaveKind.values, merged]

variable (process : PersistentSpecialistNodeRunner)

theorem listed_work_startup :
    (StateFile.replace (merged .empty process.startup_state)).listed_work = .ok [] := by
  apply listed_work_replace
  simp [PersistentSpecialistNodeRunner.startup_state, merged]

theorem startup_reason_text : ¬ Blank process.startup_reason := by
  unfold Blank
  rw [strip_eq_nil_iff, split_eq_nil_iff]
  intro hspace
  have hletter : 'r' ∈ process.startup_reason.toList := by
    unfold PersistentSpecialistNodeRunner.startup_reason
    rw [String.toList_append]
    exact List.mem_append_left _ (by decide)
  exact absurd (hspace 'r' hletter) (by decide)

/-- A process without tasks, whose saves have read no work ids. -/
structure Idle (process : PersistentSpecialistNodeRunner) : Prop where
  no_tasks : process.runner.active.items = []
  no_ids : ∀ save ∈ process.saves, ∀ active, save.active = some active → active = []

/-- What is known of a process that owes a quarantine, by how far its constructor has got. -/
def Owes (file : StateFile) (process : PersistentSpecialistNodeRunner) : Prop :=
  Idle process ∧
  match process.stage with
  | .loaded => process.interrupted_work_ids ≠ [] ∧ file.lists = true
  | .replaced => process.interrupted_work_ids ≠ [] ∧ file.listed_work = .ok []
  | .quarantined | .ready => process.runner.quarantine_reason.isSome = true ∧ file.listed_work = .ok []

/-- A machine that owes a quarantine lists work in its file while it is down. -/
def Tracked.Kept (self : Tracked) : Prop :=
  self.owed = true →
    match self.machine.process with
    | none => self.machine.file.lists = true
    | some process => Owes self.machine.file process

theorem Tracked.Kept.honoured {self : Tracked} (hkept : self.Kept) : self.Honoured := by
  intro howed process hprocess hstage
  have howes := hkept howed
  rw [hprocess] at howes
  have hready := howes.2
  rw [hstage] at hready
  exact hready.1

variable {process : PersistentSpecialistNodeRunner}

/-- Appending a save that has read nothing keeps a process idle. -/
theorem Idle.with_save (hidle : Idle process) {runner : SpecialistNodeRunner} (hrunner : runner.active.items = [])
    (kind : SaveKind) :
    Idle (process.with_save runner kind) := by
  refine ⟨hrunner, ?_⟩
  intro save hsave active hactive
  rcases List.mem_append.mp hsave with hsave | hsave
  · exact hidle.no_ids save hsave active hactive
  · rw [List.mem_singleton.mp hsave] at hactive
    cases hactive

/-- A quarantined process without tasks stays so through every call but `clear_quarantine`. -/
theorem idle_call (hidle : Idle process) (hquarantine : process.runner.quarantine_reason.isSome = true)
    {call : RunnerCall} (hcall : call ≠ .clear_quarantine) :
    Idle (process.call call) ∧ (process.call call).runner.quarantine_reason.isSome = true ∧
      (process.call call).stage = process.stage := by
  have hsame : ∀ runner kind, runner = process.runner →
      Idle (process.with_save runner kind) ∧ (process.with_save runner kind).runner.quarantine_reason.isSome = true ∧
        (process.with_save runner kind).stage = process.stage := by
    rintro runner kind rfl
    exact ⟨hidle.with_save hidle.no_tasks kind, hquarantine, rfl⟩
  cases call with
  | heartbeat ended =>
    cases ended with
    | ok reported => exact hsame _ _ rfl
    | error error => exact hsame _ _ rfl
  | receive_offer offer now reply =>
    exact hsame _ _ (receive_offer_of_quarantined hquarantine offer now reply)
  | start_run work_id reply =>
    unfold PersistentSpecialistNodeRunner.call
    dsimp only
    rw [start_run_of_idle hidle.no_tasks]
    exact hsame _ _ rfl
  | finish_run work_id result reply =>
    unfold PersistentSpecialistNodeRunner.call
    dsimp only
    split
    · obtain ⟨hidle', hquarantine', hstage⟩ := hsame _ (save_of "run-accepted"
        (process.runner.finish_run work_id result reply).1)
        (finish_run_of_idle hidle.no_tasks work_id result reply)
      exact ⟨⟨hidle'.no_tasks, hidle'.no_ids⟩, hquarantine', hstage⟩
    · exact ⟨hidle, hquarantine, rfl⟩
  | retry_completion work_id reply =>
    exact hsame _ _ (retry_completion_of_idle hidle.no_tasks work_id reply)
  | drain =>
    refine ⟨hidle.with_save ?_ _, hquarantine, rfl⟩
    exact hidle.no_tasks
  | resume =>
    unfold PersistentSpecialistNodeRunner.call resume
    dsimp only
    rw [if_pos hquarantine]
    exact ⟨⟨hidle.no_tasks, hidle.no_ids⟩, hquarantine, rfl⟩
  | quarantine reason =>
    unfold PersistentSpecialistNodeRunner.call quarantine
    dsimp only
    split
    · rename_i runner hraised
      split at hraised
      · cases hraised
        exact ⟨⟨hidle.no_tasks, hidle.no_ids⟩, hquarantine, rfl⟩
      · cases hraised
    · rename_i runner hreturned
      split at hreturned
      · cases hreturned
      · cases hreturned
        refine ⟨hidle.with_save ?_ _, rfl, rfl⟩
        exact hidle.no_tasks
  | clear_quarantine => exact absurd rfl hcall
  | mark_shutdown => exact hsame _ _ rfl

/-- One step of the constructor of a process that owes a quarantine. -/
theorem Owes.construct {machine : Machine} (hprocess : machine.process = some process)
    (howes : Owes machine.file process) :
    ∃ next, (machine.construct process).process = some next ∧ Owes (machine.construct process).file next := by
  obtain ⟨hidle, hstage⟩ := howes
  unfold Machine.construct
  cases hcurrent : process.stage with
  | loaded =>
    rw [hcurrent] at hstage
    exact ⟨_, rfl, ⟨hidle.no_tasks, hidle.no_ids⟩, hstage.1, listed_work_startup process⟩
  | replaced =>
    rw [hcurrent] at hstage
    dsimp only
    rw [if_neg hstage.1]
    have hquarantine : process.runner.quarantine process.startup_reason =
        (.ok (), { process.runner with quarantine_reason := some (stripped process.startup_reason) }) :=
      if_neg (startup_reason_text process)
    rw [hquarantine]
    exact ⟨_, rfl, ⟨hidle.no_tasks, hidle.no_ids⟩, rfl, hstage.2⟩
  | quarantined =>
    rw [hcurrent] at hstage
    refine ⟨_, rfl, ⟨hidle.no_tasks, hidle.no_ids⟩, hstage.1, ?_⟩
    rw [active_work_ids_of_idle hidle.no_tasks]
    exact listed_work_update hstage.2 _ _ _
  | ready => exact ⟨process, hprocess, hidle, hstage⟩

/-- A process that owes a quarantine and is up goes on owing it, whatever its saves do. -/
theorem Owes.write {machine : Machine} (hprocess : machine.process = some process) (howes : Owes machine.file process)
    (hready : process.stage = .ready) (index : Nat) :
    ∃ next, (machine.write process index).process = some next ∧ Owes (machine.write process index).file next := by
  obtain ⟨hidle, hstage⟩ := id howes
  rw [hready] at hstage
  unfold Machine.write
  split
  · rename_i kind active hsave
    have hactive : active = [] := hidle.no_ids _ (List.mem_of_getElem? hsave) active rfl
    refine ⟨_, rfl, ⟨hidle.no_tasks, ?_⟩, ?_⟩
    · intro save hmem
      exact hidle.no_ids save (List.mem_of_mem_eraseIdx hmem)
    · dsimp only
      rw [hready]
      exact ⟨hstage.1, hactive ▸ listed_work_update hstage.2 kind process.runner.profile active⟩
  · exact ⟨process, hprocess, howes⟩

theorem Owes.collect {machine : Machine} (howes : Owes machine.file process) (index : Nat) :
    ∃ next, (machine.collect process index).process = some next ∧
      Owes (machine.collect process index).file next := by
  obtain ⟨hidle, hstage⟩ := howes
  refine ⟨_, rfl, ⟨hidle.no_tasks, ?_⟩, hstage⟩
  intro save hmem active hactive
  rw [List.mem_iff_getElem?] at hmem
  obtain ⟨position, hposition⟩ := hmem
  dsimp only at hposition
  rw [List.getElem?_modify] at hposition
  split at hposition
  · obtain ⟨old, _, rfl⟩ := Option.map_eq_some_iff.mp hposition
    cases hactive
    exact active_work_ids_of_idle hidle.no_tasks
  · rw [id_map'] at hposition
    exact hidle.no_ids save (List.mem_of_getElem? hposition) active hactive

omit [StrLower] in
theorem listed_of_lists (hlists : file.lists = true) :
    ∃ work rest, file.listed_work = .ok (work :: rest) := by
  unfold StateFile.lists at hlists
  split at hlists
  · rename_i work rest hlisted
    exact ⟨work, rest, hlisted⟩
  · cases hlists

/-- A process that starts while its file lists work owes a quarantine. -/
theorem owes_load (hlists : file.lists = true) (profile : SpecialistNodeProfile) (handlers : GhostHandlerRegistry) :
    ∃ next, ((Machine.mk file none).load profile handlers) = ⟨file, some next⟩ ∧ Owes file next := by
  obtain ⟨work, rest, hlisted⟩ := listed_of_lists hlists
  unfold Machine.load
  dsimp only
  rw [hlisted]
  refine ⟨_, rfl, ⟨rfl, by simp⟩, ?_, hlists⟩
  intro hnone
  dsimp only at hnone
  have hperm := List.perm_insertionSort (· ≤ ·) (work :: rest)
  rw [hnone] at hperm
  exact absurd hperm.nil_eq (by simp)

/-- Every event that spares the processes that owe a quarantine keeps what is known of them. -/
theorem Tracked.Kept.step {self : Tracked} (hkept : self.Kept) {event : Event} (hspares : self.Spares event) :
    (self.step event).Kept := by
  obtain ⟨⟨file, process⟩, owed⟩ := self
  intro howed
  cases process with
  | none =>
    -- The machine is down: only a start changes it.
    cases event with
    | load profile handlers =>
      obtain ⟨next, hnext, howes⟩ := owes_load (hkept howed) profile handlers
      unfold Tracked.step Machine.step
      dsimp only
      rw [hnext]
      exact howes
    | call call =>
      cases call with
      | clear_quarantine =>
        refine hkept ?_
        exact (Bool.and_eq_true_iff.mp howed).1
      | _ => exact hkept howed
    | stop =>
      refine hkept ?_
      simpa [Tracked.step] using howed
    | _ => exact hkept howed
  | some process =>
    have hresult : ∀ next : Machine, (∃ after, next.process = some after ∧ Owes next.file after) →
        match next.process with
        | none => next.file.lists = true
        | some process => Owes next.file process := by
      rintro next ⟨after, hafter, howes⟩
      rw [hafter]
      exact howes
    cases event with
    | load profile handlers => exact hkept howed
    | construct => exact hresult _ (Owes.construct rfl (hkept howed))
    | call call =>
      by_cases hready : process.stage = .ready
      · by_cases hclear : call = .clear_quarantine
        · subst hclear
          have hdown := (Bool.and_eq_true_iff.mp howed).2
          simp [Machine.up, hready] at hdown
        · have hbefore : owed = true := by
            cases call with
            | clear_quarantine => exact absurd rfl hclear
            | _ => exact howed
          obtain ⟨hidle, hstage⟩ := hkept hbefore
          rw [hready] at hstage
          obtain ⟨hidle', hquarantine, hsame⟩ := idle_call hidle hstage.1 hclear
          apply hresult
          unfold Tracked.step Machine.step
          dsimp only
          rw [if_pos hready]
          refine ⟨_, rfl, hidle', ?_⟩
          rw [hsame, hready]
          exact ⟨hquarantine, hstage.2⟩
      · unfold Tracked.step Machine.step
        dsimp only
        rw [if_neg hready]
        refine hkept ?_
        cases call with
        | clear_quarantine => exact (Bool.and_eq_true_iff.mp howed).1
        | _ => exact howed
    | collect index =>
      apply hresult
      unfold Tracked.step Machine.step
      dsimp only
      split
      · exact Owes.collect (hkept howed) index
      · exact ⟨process, rfl, hkept howed⟩
    | write index =>
      apply hresult
      unfold Tracked.step Machine.step
      dsimp only
      split
      · rename_i hready
        exact Owes.write rfl (hkept howed) hready index
      · exact ⟨process, rfl, hkept howed⟩
    | lose index =>
      apply hresult
      unfold Tracked.step Machine.step
      dsimp only
      split
      · obtain ⟨hidle, hstage⟩ := hkept howed
        refine ⟨_, rfl, ⟨hidle.no_tasks, ?_⟩, hstage⟩
        intro save hmem
        exact hidle.no_ids save (List.mem_of_mem_eraseIdx hmem)
      · exact ⟨process, rfl, hkept howed⟩
    | stop =>
      change file.lists = true
      cases hbefore : owed with
      | false =>
        rw [hbefore] at howed
        exact howed
      | true =>
        obtain ⟨_, hstage⟩ := hkept hbefore
        rw [hspares hbefore] at hstage
        exact hstage.2

theorem Tracked.Kept.run {self : Tracked} (hkept : self.Kept) {events : List Event}
    (hspares : self.SparesAll events) : (self.run events).Kept := by
  induction events generalizing self with
  | nil => exact hkept
  | cons event rest ih => exact ih (hkept.step hspares.1) hspares.2

theorem Tracked.SparesAll.of_append {self : Tracked} {earlier later : List Event}
    (hspares : self.SparesAll (earlier ++ later)) : self.SparesAll earlier := by
  induction earlier generalizing self with
  | nil => trivial
  | cons event rest ih => exact ⟨hspares.1, ih hspares.2⟩

/-- A process that owes a quarantine and has rewritten the file leaves no work in it. -/
theorem Owes.rewritten (howes : Owes file process) (hstage : process.stage ≠ .loaded) : file.listed_work = .ok [] := by
  have hknown := howes.2
  cases hcurrent : process.stage with
  | loaded => exact absurd hcurrent hstage
  | replaced => rw [hcurrent] at hknown; exact hknown.2
  | quarantined => rw [hcurrent] at hknown; exact hknown.2
  | ready => rw [hcurrent] at hknown; exact hknown.2

/-- A machine that owes a quarantine and whose file lists nothing comes up without one. -/
theorem not_honoured_after_restart (hlisted : file.listed_work = .ok []) (process : PersistentSpecialistNodeRunner)
    (profile : SpecialistNodeProfile) (handlers : GhostHandlerRegistry) :
    ¬ ((Tracked.mk ⟨file, some process⟩ true).run [.stop, .load profile handlers, .construct, .construct]).Honoured := by
  have hload : (Machine.mk file none).load profile handlers =
      ⟨file, some ⟨.new profile handlers, [], .loaded, [], []⟩⟩ := by
    unfold Machine.load
    dsimp only
    rw [hlisted]
    rfl
  intro hhonoured
  simp only [Tracked.run, List.foldl_cons, List.foldl_nil, Tracked.step, Machine.step, hload] at hhonoured
  have hsome := hhonoured rfl _ rfl rfl
  cases hsome

/-- The startup rewrite empties the list that quarantine is decided by, so a second stop before the
operator clears the quarantine loses it. In every run in which no process that owes a quarantine stops
between that rewrite and `clear_quarantine`, every runner that comes up is quarantined while a
quarantine is owed; and after any other stop the next start comes up without it. -/
theorem quarantine_survives_restarts (file : StateFile) (events : List Event)
    (hspares : (Tracked.start file).SparesAll events) :
    (∀ earlier, earlier <+: events → ((Tracked.start file).run earlier).Honoured) ∧
    ∀ process, ((Tracked.start file).run events).machine.process = some process →
      ((Tracked.start file).run events).owed = true → process.stage ≠ .loaded →
      ∀ profile handlers, ¬ ((Tracked.start file).run
        (events ++ [.stop, .load profile handlers, .construct, .construct])).Honoured := by
  have hstart : (Tracked.start file).Kept := by
    intro howed
    cases howed
  constructor
  · rintro earlier ⟨later, rfl⟩
    exact (hstart.run hspares.of_append).honoured
  · intro process hprocess howed hstage profile handlers
    have hkept := hstart.run hspares
    unfold Tracked.run at hkept hprocess howed ⊢
    rw [List.foldl_append]
    generalize List.foldl Tracked.step (Tracked.start file) events = reached at hkept hprocess howed ⊢
    obtain ⟨⟨current, running⟩, owed⟩ := reached
    dsimp only at hprocess howed
    subst hprocess howed
    have howes : Owes current process := hkept rfl
    exact not_honoured_after_restart (howes.rewritten hstage) process profile handlers

theorem w1_normal : IsNormalized "w1" := .of_ascii (by decide) (by decide) (by decide)

theorem look_normal : IsNormalized "look" := .of_ascii (by decide) (by decide) (by decide)

theorem sense_normal : IsNormalizedTuple ["sense"] := .singleton (.of_ascii (by decide) (by decide) (by decide))

theorem sensing_normal : IsNormalizedTuple ["sensing"] := .singleton (.of_ascii (by decide) (by decide) (by decide))

theorem sensing_nonempty : ["sensing"] ≠ [] := by simp

/-- A specialist `a` that senses, one task at a time. -/
def plain_profile : SpecialistNodeProfile where
  node_id := "a"
  body_id := "body"
  organ := "eye"
  capabilities := ["sense"]
  accepted_work_classes := ["sensing"]
  tier := .SPECIALIST_LINUX
  max_concurrent_tasks := 1
  refused_work_classes := []
  overflow_capable := false
  overflow_capabilities := []
  temporary_absorption_capabilities := []
  body_verified := true
  continuity_verified := true
  node_id_normal := .of_ascii (by decide) (by decide) (by decide)
  body_id_normal := .of_ascii (by decide) (by decide) (by decide)
  organ_normal := .of_ascii (by decide) (by decide) (by decide)
  capabilities_normal := sense_normal
  capabilities_nonempty := sense_nonempty
  accepted_normal := sensing_normal
  accepted_nonempty := sensing_nonempty
  refused_normal := .nil
  overflow_normal := .nil
  temporary_normal := .nil
  linux_tier := .inl rfl
  max_concurrent_tasks_positive := le_refl 1

/-- One handler `look` for sensing. -/
def plain_handlers : GhostHandlerRegistry where
  handlers := Dict.empty.set "look" {
    name := "look"
    work_classes := ["sensing"]
    capabilities := ["sense"]
    allowed_parameters := []
    name_normal := look_normal
    work_classes_normal := sensing_normal
    work_classes_nonempty := sensing_nonempty
    capabilities_normal := sense_normal
    capabilities_nonempty := sense_nonempty
    allowed_parameters_normal := .nil }

/-- An offer of `w1` to `a`, leased until 1000. -/
def plain_offer : SpecialistWorkOffer where
  work_id := "w1"
  work_class := "sensing"
  node_id := "a"
  organ := "eye"
  lease_id := "w1:a"
  lease_expires_at := 1000
  required_capabilities := ["sense"]
  handler_name := "look"
  parameters := []
  important_result := false
  consequential := false
  work_id_normal := w1_normal
  work_class_normal := .of_ascii (by decide) (by decide) (by decide)
  node_id_normal := .of_ascii (by decide) (by decide) (by decide)
  organ_normal := .of_ascii (by decide) (by decide) (by decide)
  handler_name_normal := look_normal
  lease_id_text := by decide
  lease_expires_at_nonneg := by decide
  required_normal := sense_normal
  required_nonempty := sense_nonempty

/-- The service's answer to an acceptance of `w1` by `a`. -/
def plain_acceptance : DistributedWorkServiceOutcome where
  state := "accepted"
  work_id := "w1"
  node_id := some "a"
  lease_id := some "w1:a"
  degradation := .NONE
  lifecycle := []
  accepted := true
  completed := false
  escalated_to_queen := false

/-- The daemon starts, accepts `w1`, saves it and stops; it starts again, up to the save of its quarantine. -/
def interrupted_once : List Event :=
  [.load plain_profile plain_handlers, .construct, .construct,
    .call (.receive_offer plain_offer 10 (.ok plain_acceptance)), .collect 0, .write 0, .stop,
    .load plain_profile plain_handlers, .construct, .construct, .construct]

end

/-- After the restart the runner is up and quarantined. -/
theorem interrupted_once_quarantined :
    letI := StrLower.ascii
    let reached := (Tracked.start none).run interrupted_once
    reached.Honoured ∧ reached.owed = true ∧ reached.machine.up = true ∧
      reached.machine.process.map (fun process => process.runner.quarantine_reason) =
        some (some "restart detected interrupted work: w1") := by
  let := StrLower.ascii
  have hhonoured := (quarantine_survives_restarts none interrupted_once (by decide)).1 interrupted_once
    List.prefix_rfl
  exact ⟨hhonoured, by decide, by decide, by decide⟩

/-- The quarantined daemon stops before anyone clears the quarantine, and starts again. -/
def interrupted_twice [StrLower] : List Event :=
  interrupted_once ++ [.stop, .load plain_profile plain_handlers, .construct, .construct]

/-- The runner is up without a quarantine, although the first stop found `w1` in the file and nobody has
cleared the quarantine. -/
theorem quarantine_lost_at_second_restart :
    letI := StrLower.ascii
    let reached := (Tracked.start none).run interrupted_twice
    ¬ reached.Honoured ∧ reached.owed = true ∧ reached.machine.up = true ∧
      reached.machine.process.map (fun process => process.runner.quarantine_reason) = some none := by
  have howed : letI := StrLower.ascii
      ((Tracked.start none).run interrupted_twice).owed = true := by decide
  have hready : letI := StrLower.ascii
      ((Tracked.start none).run interrupted_twice).machine.process.map
        (fun process => (process.stage, process.runner.quarantine_reason)) = some (.ready, none) := by decide
  refine ⟨?_, howed, by decide, by decide⟩
  intro hhonoured
  obtain ⟨process, hprocess, hstate⟩ := Option.map_eq_some_iff.mp hready
  obtain ⟨hstage, hnone⟩ := Prod.mk.inj hstate
  have hsome := hhonoured howed process hprocess hstage
  rw [hnone] at hsome
  cases hsome

end velvet.distributed_work_daemon
