import SparkFleet.Proofs.Run.Started

/-!
# Runs over time

A job is followed through any history of the platform in which it is run any number of times.  The
main statement `runs_read_back` says that running it leaves its record, that each run is what the
job's settings and its own parameters make it, whatever else happens, and that the run is read back
as such as long as what it refers to is in place.
-/

namespace SparkFleet

open SparkFleet.Action (exec)
open Platform (Event)

variable {v : Variant}

/-- What happens after a job has been read. -/
inductive JobEvent (v : Variant) where
  | event (e : Event)
  /-- The job is run with some parameters, and there is a handle on the run. -/
  | run (params : v.kind.Overrides) (r : RunOf v)

/-- A history of the platform in which a job is run any number of times. -/
inductive JobOf.History (j : JobOf v) :
    Simulation Platform → List (JobEvent v) → Simulation Platform → Prop where
  | done (s : Simulation Platform) : History j s [] s
  | event {s t u : Simulation Platform} {e : Event} {steps : List (JobEvent v)}
      (hEvent : t.state = e.apply s.state) (hRest : History j t steps u) :
      History j s (.event e :: steps) u
  | run {s t u : Simulation Platform} {params : v.kind.Overrides} {r : RunOf v}
      {steps : List (JobEvent v)} (hRun : exec Platform.handler (j.runWith params) s = (.ok r, t))
      (hRest : History j t steps u) : History j s (.run params r :: steps) u

namespace JobOf.History

variable {j : JobOf v} {s u : Simulation Platform} {steps : List (JobEvent v)}

/-- What happened to the platform: starting a run puts no record in place from outside. -/
theorem events (h : j.History s steps u) :
    ∃ history, u.state = s.state.after history ∧
      ∀ record, Event.putRun record ∈ history → .event (.putRun record) ∈ steps := by
  induction h with
  | done s => exact ⟨[], rfl, fun _ hMem => (nomatch hMem)⟩
  | @event s t u e steps hEvent _ ih =>
    obtain ⟨history, hState, hPut⟩ := ih
    refine ⟨e :: history, by rw [hState, hEvent, Platform.after_cons], fun record hMem => ?_⟩
    rcases List.mem_cons.1 hMem with rfl | hMem
    · exact List.mem_cons_self
    · exact List.mem_cons_of_mem _ (hPut record hMem)
  | @run s t u params r steps hRun _ ih =>
    obtain ⟨history, hState, hPut⟩ := ih
    -- A run is started by calls, and no call puts a record in place.
    have hStart := Action.state_exec (j.runWith params) s
    rw [hRun] at hStart
    refine ⟨_, by rw [hState, hStart, ← Platform.after_append], fun record hMem => ?_⟩
    rcases List.mem_append.1 hMem with hMem | hMem
    · obtain ⟨c, -, hCall⟩ := List.mem_map.1 hMem
      exact nomatch hCall
    · exact List.mem_cons_of_mem _ (hPut record hMem)

theorem reachable (h : j.History s steps u) (hReach : s.state.Reachable) : u.state.Reachable := by
  obtain ⟨history, hState, -⟩ := h.events
  rw [hState]
  exact hReach.after history

theorem lastNumber_le (h : j.History s steps u) : s.state.lastNumber ≤ u.state.lastNumber := by
  obtain ⟨history, hState, -⟩ := h.events
  rw [hState]
  exact Platform.lastNumber_le_after history

/-- A history is made of what happened before a step and what happened from then on. -/
theorem split {before later : List (JobEvent v)} (h : j.History s (before ++ later) u) :
    ∃ t, j.History s before t ∧ j.History t later u := by
  induction before generalizing s with
  | nil => exact ⟨s, .done s, h⟩
  | cons step before ih =>
    cases h with
    | event hEvent hRest =>
      obtain ⟨t, hBefore, hLater⟩ := ih hRest
      exact ⟨t, .event hEvent hBefore, hLater⟩
    | run hRun hRest =>
      obtain ⟨t, hBefore, hLater⟩ := ih hRest
      exact ⟨t, .run hRun hBefore, hLater⟩

end JobOf.History

/-! ### Reading back -/

/-- The run is what the job and some parameters make it. -/
structure JobOf.Makes (j : JobOf v) (params : v.kind.Overrides) (r : RunOf v) : Prop where
  compute : r.compute = j.compute
  task : r.task = j.task.withOverrides params
  recordTarget : r.record.clusterSpec = .ofSettings j.settings
  recordTask : r.record.task = .ofRequest j.settings (.ofOverrides j.id v.kind params)

/-- The run is read back as it was started. -/
def RunOf.FoundIn (r : RunOf v) (u : Simulation Platform) : Prop :=
  ∃ found : RunOf v, (exec Platform.handler (Run.get r.id) u).1 = .ok ⟨v, found⟩ ∧
    found.compute.SameTarget r.compute ∧ found.task.bare = r.task.bare

/-- A run of a job whose record is still the stored one is what the job makes it. -/
theorem JobOf.Started.makes {j : JobOf v} {params : v.kind.Overrides} {r : RunOf v}
    {p q : Platform} (hStarted : j.Started params r p q)
    (hStored : p.jobs.get? j.id = some j.record) : j.Makes params r := by
  obtain ⟨job, hJob, hTarget, hTask⟩ := hStarted.record
  obtain rfl : job = j.record := Option.some.inj (hJob.symm.trans hStored)
  exact ⟨hStarted.compute, hStarted.task, hTarget, hTask⟩

/-- A run that is kept, apart from its state, is read back as it was started. -/
theorem JobOf.Makes.foundIn {j : JobOf v} {params : v.kind.Overrides} {r : RunOf v}
    (hMakes : j.Makes params r) {p : Platform} (hFits : j.settings.shape.Fits p v j.compute j.task)
    {u : Simulation Platform} (hReach : u.state.Reachable) (hServing : u.state.Serving)
    (hPlace : j.settings.shape.InPlace u.state) {entry : RunEntry}
    (hRecord : entry.record = r.record)
    (hKept : (u.state.runs.get? r.id).map RunEntry.fixed = some entry.fixed) : r.FoundIn u := by
  -- The record that is kept describes what that of a new run does.
  have hShape : r.record.shape = (Platform.newRun j.record r.id 0
      (.ofOverrides j.id v.kind params)).shape := by
    unfold RunRecord.shape
    rw [hMakes.recordTarget, hMakes.recordTask]
    rfl
  -- The state of the run may have changed, but the shape does not look at it.
  obtain ⟨entry', hEntry', hFixed⟩ := Option.map_eq_some_iff.1 hKept
  have hShape' := (shape_eq_of_fixed hFixed).trans ((congrArg _ hRecord).trans hShape)
  have hRunFits := Platform.newRun_fits r.id 0 hFits j.id params
  have hRead := run_get_spec hReach.consistent hServing hEntry' (hShape' ▸ hRunFits.supported)
    (hShape' ▸ Platform.newRun_inPlace r.id 0 hPlace)
  obtain ⟨⟨v', found⟩, _, hExec, hFound⟩ := hRead.exists_ok
  rw [hShape'] at hFound
  obtain rfl := hFound.variant_eq hRunFits
  refine ⟨found, congrArg Prod.fst hExec, ?_, ?_⟩
  · rw [hMakes.compute]
    exact hFound.target.sameTarget hRunFits.target
  · rw [hMakes.task]
    exact hFound.task.bare_eq hRunFits.task

section Read

variable {s s₁ u : Simulation Platform} (hReach : s.state.Reachable) {id : JobId} {j : Job}
  (hGet : exec Platform.handler (Job.get id) s = (.ok j, s₁)) {steps : List (JobEvent j.variant)}

include hReach hGet

theorem reachable_of_get : s₁.state.Reachable := by
  have hRead := hReach.exec (Job.get id)
  rwa [hGet] at hRead

/-- A job that has been read stays as it was read until it is deleted. -/
theorem JobOf.History.job_lasts (h : j.details.History s₁ steps u)
    (hLimit : u.state.lastNumber < numberLimit) :
    u.state.jobs.get? j.id = some j.details.record ∨ u.state.jobs.get? j.id = none := by
  obtain ⟨hId, hStored, -, -⟩ := job_get_eq_ok hReach hGet
  rw [← hId] at hStored
  obtain ⟨-, hIssued⟩ := (reachable_of_get hReach hGet).consistent.jobs hStored
  obtain ⟨history, hState, -⟩ := h.events
  rw [hState] at hLimit ⊢
  exact Platform.job_lasts hIssued (.inl hStored) history hLimit

/-- Whatever has happened, a run of a job that has been read is what the job makes it. -/
theorem JobOf.History.makes {t t' : Simulation Platform} {params : j.variant.kind.Overrides}
    {r : RunOf j.variant} (h : j.details.History s₁ steps t)
    (hLimit : t.state.lastNumber < numberLimit)
    (hStarted : j.details.Started params r t.state t'.state) : j.details.Makes params r := by
  obtain hSame | hGone := h.job_lasts hReach hGet hLimit
  · exact hStarted.makes hSame
  · -- A job that has been deleted is not started.
    obtain ⟨job, hJob, -⟩ := hStarted.record
    exact nomatch hGone.symm.trans hJob

/-- A run is read back later as it was started, unless a record is put in its place. -/
theorem JobOf.History.foundIn {t t' : Simulation Platform} {params : j.variant.kind.Overrides}
    {r : RunOf j.variant} (h : j.details.History t' steps u)
    (hReachLater : t'.state.Reachable) (hStarted : j.details.Started params r t.state t'.state)
    (hMakes : j.details.Makes params r) (hLimit : u.state.lastNumber < numberLimit)
    (hPut : ∀ record, .event (.putRun record) ∈ steps → record.runId ≠ r.id)
    (hServing : u.state.Serving) (hPlace : j.details.settings.shape.InPlace u.state) :
    r.FoundIn u := by
  obtain ⟨-, -, hFits, -⟩ := job_get_eq_ok hReach hGet
  obtain ⟨entry, hEntry, hRecord⟩ := hStarted.kept
  obtain ⟨history, hState, hEvents⟩ := h.events
  have hLast := Platform.run_lasts hStarted.issued history
    (fun record hMem => hPut record (hEvents record hMem)) (hState ▸ hLimit)
  rw [hEntry, ← hState] at hLast
  exact hMakes.foundIn hFits (h.reachable hReachLater) hServing hPlace hRecord hLast

end Read

/-- Running a job that has been read leaves the records of jobs.  As long as its own record is kept,
each run is what the job and the run's own parameters make it, and it is read back as it was started
wherever its record is kept, apart from the state, and what the job refers to is in place.

Neither record can be lost by accident: in any history whose numbers fit their type, the job is kept
until it is deleted, and the run until another record is put in its place from outside. -/
theorem runs_read_back {s s₁ : Simulation Platform} (hReach : s.state.Reachable) {id : JobId}
    {j : Job} (hGet : exec Platform.handler (Job.get id) s = (.ok j, s₁)) :
    (∀ params t, (exec Platform.handler (j.details.runWith params) t).2.state.jobs =
        t.state.jobs) ∧
      (∀ params r t t', t.state.jobs.get? j.id = some j.details.record →
        exec Platform.handler (j.details.runWith params) t = (.ok r, t') →
        j.details.Makes params r ∧
          ∀ u : Simulation Platform, u.state.Reachable → u.state.Serving →
            j.details.settings.shape.InPlace u.state →
            (u.state.runs.get? r.id).map RunEntry.fixed =
              (t'.state.runs.get? r.id).map RunEntry.fixed → r.FoundIn u) ∧
      ∀ steps u, j.details.History s₁ steps u → u.state.lastNumber < numberLimit →
        (u.state.jobs.get? j.id = some j.details.record ∨ u.state.jobs.get? j.id = none) ∧
          ∀ before params r later, steps = before ++ .run params r :: later →
            j.details.Makes params r ∧
              ((∀ record, .event (.putRun record) ∈ later → record.runId ≠ r.id) →
                u.state.Serving → j.details.settings.shape.InPlace u.state → r.FoundIn u) := by
  refine ⟨fun params t => ?_, fun params r t t' hStored hRun => ?_,
    fun steps u hHistory hLimit => ?_⟩
  · have hSpec := runWith_spec j.details params t
    rcases hExec : exec Platform.handler (j.details.runWith params) t with ⟨e | r, t'⟩
    · exact hSpec.of_error hExec
    · exact (hSpec.of_ok hExec).jobs
  · obtain ⟨-, -, hFits, -⟩ := job_get_eq_ok hReach hGet
    have hStarted := Action.Ends.of_ok (runWith_spec j.details params t) hRun
    have hMakes := hStarted.makes hStored
    refine ⟨hMakes, fun u hReachU hServing hPlace hKept => ?_⟩
    obtain ⟨entry, hEntry, hRecord⟩ := hStarted.kept
    rw [hEntry] at hKept
    exact hMakes.foundIn hFits hReachU hServing hPlace hRecord hKept
  · refine ⟨hHistory.job_lasts hReach hGet hLimit, ?_⟩
    rintro before params r later rfl
    -- The history is cut where the run is started: before it the job lasts, and after it the run
    -- does.
    obtain ⟨t, hBefore, hRest⟩ := hHistory.split
    have hLimitRun : t.state.lastNumber < numberLimit :=
      Nat.lt_of_le_of_lt hRest.lastNumber_le hLimit
    have hReachRun : t.state.Reachable := hBefore.reachable (reachable_of_get hReach hGet)
    cases hRest with
    | @run _ t' _ _ _ _ hRun hLater =>
      have hStarted := Action.Ends.of_ok (runWith_spec j.details params t) hRun
      have hMakes := hBefore.makes hReach hGet hLimitRun hStarted
      have hReachLater := hReachRun.exec (j.details.runWith params)
      rw [hRun] at hReachLater
      exact ⟨hMakes, hLater.foundIn hReach hGet hReachLater hStarted hMakes hLimit⟩

/-! ### A run of a job that is then deleted -/

/-- The handle on the job that runs a notebook. -/
def notebookJob : JobOf .automatedNotebook where
  record := ⟨⟨2⟩, notebookSettings, some "mock@example.com", none⟩
  compute := .fresh { numWorkers := some 2 }
  task := .notebook ⟨"/etl", some .python, some 1⟩ .empty

/-- The parameters of one day. -/
def dayParameters : TextMap := .ofList [("day", "monday")]

/-- The job of a notebook when it has been read. -/
def notebookRead : Simulation Platform := (exec Platform.handler (Job.get ⟨2⟩) notebookPlatform).2

/-- The job of a notebook when it has been run after that. -/
def notebookRun : Simulation Platform :=
  (exec Platform.handler (notebookJob.runWith dayParameters) notebookRead).2

theorem runs_read_back_notebook :
    let deletion : Event := .call (.jobs (.delete ⟨2⟩))
    let u : Simulation Platform := { state := deletion.apply notebookRun.state }
    ∃ r, (notebookPlatform.state.Reachable ∧
        exec Platform.handler (Job.get ⟨2⟩) notebookPlatform =
          (.ok ⟨_, notebookJob⟩, notebookRead) ∧
        notebookJob.History notebookRead [.run dayParameters r, .event deletion] u ∧
        u.state.lastNumber < numberLimit) ∧
      r.FoundIn u := by
  intro deletion u
  have hReach : notebookPlatform.state.Reachable := ⟨_, rfl⟩
  have hGet : exec Platform.handler (Job.get ⟨2⟩) notebookPlatform =
    (.ok ⟨_, notebookJob⟩, notebookRead) := rfl
  obtain ⟨r, hRun⟩ : ∃ r, exec Platform.handler (notebookJob.runWith dayParameters) notebookRead =
    (.ok r, notebookRun) := ⟨_, rfl⟩
  have hEvent : u.state = deletion.apply notebookRun.state := rfl
  have hHistory : notebookJob.History notebookRead [.run dayParameters r, .event deletion] u :=
    .run hRun (.event hEvent (.done u))
  have hLast : u.state.lastNumber = 3 := rfl
  have hLimit : u.state.lastNumber < numberLimit := by
    rw [hLast]
    decide
  refine ⟨r, ⟨hReach, hGet, hHistory, hLimit⟩, ?_⟩
  have hRuns := ((runs_read_back hReach hGet).2.2 _ u hHistory hLimit).2 [] dayParameters r _ rfl
  have hPut (record : RunRecord)
      (hMem : .event (.putRun record) ∈ ([.event deletion] : List (JobEvent .automatedNotebook))) :
      record.runId ≠ r.id := by
    have hEq : Event.putRun record = .call (.jobs (.delete ⟨2⟩)) :=
      JobEvent.event.inj (List.mem_singleton.1 hMem)
    exact nomatch hEq
  have hServing : u.state.Serving := fun _ => rfl
  have hPlace : notebookSettings.shape.InPlace u.state := notebookSettings_inPlace rfl
  exact hRuns.2 hPut hServing hPlace

end SparkFleet
