import Automaton.Agent.LeaseInvariants
import Automaton.Library.Transition

/-!
# Safety of the mutating lease

A worker holds the mutating lease while it runs a job. When the lease expires, a tick closes the
job, but the worker may report later, and its report is not checked against the status of the job.
-/

namespace Automaton.Agent

open Machine Transition

/-- A tick awaits a job, whose lease ends at a time. -/
def AgentWorld.Works (w : AgentWorld) (tick : ℕ) (jobId : String) (expiresAtNs : ℕ) : Prop :=
  ∃ processedJobs job, w.ticks[tick]? = some (.dispatching processedJobs job expiresAtNs) ∧
    job.id = jobId

/-- The queue serves the ticks, of which no two run the same job. Recovered jobs stay closed, and
so do others. -/
structure AgentWorld.Sound (w : AgentWorld) (shut : String → Prop) : Prop where
  queue : w.state.store.Serves w.nowNs (fun jobId expires => ∃ tick, w.Works tick jobId expires)
    fun jobId => jobId ∈ w.recovered ∨ shut jobId
  distinct : ∀ tick tick' jobId expires expires', w.Works tick jobId expires →
    w.Works tick' jobId expires' → tick = tick'

/-- A report that is in time finds its job in flight, or deleted. A top-up that waits enqueues a
job, so its report is late when its job was deleted. -/
def Store.takesReport (store : Store) (jobId : String)
    (result : Except String JobDispatchOutcome) : Bool :=
  match store.jobs[jobId]? with
  | some job => job.status = .inFlight
  | none => match result with
    | .ok outcome => outcome ≠ .topUpWaiting
    | .error _ => true

/-- The report of a tick is in time. -/
def TickStage.reportsInTime (store : Store) (result : Except String JobDispatchOutcome) :
    TickStage → Bool
  | .dispatching _ job _ => store.takesReport job.id result
  | _ => true

/-- Sequence numbers are left for the jobs of a tick, and a worker reports in time. -/
def AgentAct.isTimely (w : AgentWorld) (act : AgentAct) : Bool :=
  w.state.store.scheduler.nextJobSeq + TaskKind.all.length < u64Max &&
    match act with
    | .report tick result => w.ticks[tick]?.all (TickStage.reportsInTime w.state.store result)
    | _ => true

section Sequence

variable {classifier : Classifier} {s : Store} {w : AgentWorld} {nowNs : ℕ}

theorem enqueueJobIfAbsent_nextJobSeq (kind : TaskKind) (lane : TaskLane) (dedupeKey : String)
    (scheduledForNs priority : ℕ) :
    (s.enqueueJobIfAbsent kind lane dedupeKey scheduledForNs priority
      nowNs).1.scheduler.nextJobSeq ≤ s.scheduler.nextJobSeq + 1 := by
  have hnext : s.nextSeq ≤ s.scheduler.nextJobSeq + 1 := min_le_left _ _
  rcases enqueueJobIfAbsent_cases kind lane dedupeKey scheduledForNs priority nowNs s with
    ⟨-, heq⟩ | ⟨-, job, -, heq⟩
  · rw [heq]
    exact Nat.le_succ _
  · rw [heq, storeNewJob_nextJobSeq]
    exact hnext

theorem refreshTask_nextJobSeq (s : Store) (kind : TaskKind) (config : TaskScheduleConfig)
    (nowNs : ℕ) :
    (s.refreshTask kind config nowNs).1.scheduler.nextJobSeq ≤ s.scheduler.nextJobSeq + 1 := by
  unfold Store.refreshTask
  split
  · exact enqueueJobIfAbsent_nextJobSeq ..
  · exact Nat.le_succ _

theorem foldl_refreshStep_nextJobSeq (nowNs : ℕ)
    (schedules : List (TaskKind × TaskScheduleConfig))
    (refreshed : Store × List (TaskKind × String)) :
    (schedules.foldl (refreshStep nowNs) refreshed).1.scheduler.nextJobSeq ≤
      refreshed.1.scheduler.nextJobSeq + schedules.length := by
  induction schedules generalizing refreshed with
  | nil => exact Nat.le_refl _
  | cons schedule schedules ih =>
    have hfirst := refreshTask_nextJobSeq refreshed.1 schedule.1 schedule.2 nowNs
    have hrest := ih (refreshStep nowNs refreshed schedule)
    simp only [List.foldl_cons, List.length_cons]
    simp only [refreshStep] at hrest ⊢
    omega

/-- A tick uses at most one sequence number for each kind of task. -/
theorem refreshDueJobs_nextJobSeq (s : Store) (nowNs : ℕ) :
    (s.refreshDueJobs nowNs).1.scheduler.nextJobSeq ≤
      s.scheduler.nextJobSeq + TaskKind.all.length := by
  have hlength : s.listTaskConfigs.length ≤ TaskKind.all.length := by
    unfold Store.listTaskConfigs
    rw [List.length_insertionSort]
    exact List.length_filterMap_le _ _
  have hfold : _ ≤ s.scheduler.nextJobSeq + s.listTaskConfigs.length :=
    foldl_refreshStep_nextJobSeq nowNs s.listTaskConfigs (s, [])
  rw [refreshDueJobs_eq]
  omega

/-- Acts of others use at most one sequence number. -/
theorem AgentAct.IsOutside.nextJobSeq {act : AgentAct} (h : act.IsOutside) :
    (act.apply classifier w).state.store.scheduler.nextJobSeq ≤
      w.state.store.scheduler.nextJobSeq + 1 := by
  have hkeep {t : Store} (hrun : QueueRun (· ≠ .add) w.state.store t) :
      t.scheduler.nextJobSeq ≤ w.state.store.scheduler.nextJobSeq + 1 := by
    rw [hrun.nextJobSeq_eq]
    exact Nat.le_succ _
  cases act with
  | wait | startTick | iterate | report => exact h.elim
  | enqueue kind lane dedupeKey scheduledForNs priority =>
    exact enqueueJobIfAbsent_nextJobSeq ..
  | prune jobId => exact hkeep (pruneJob_run (by simp))
  | observe liquidCycles runwaySeconds =>
    exact hkeep (observeMortalityResources_keep.run (by simp))
  | beginTerminalTurn turnId =>
    rcases beginTerminalTurn_cases w turnId with heq | ⟨state, heq, -, -, -, hstep⟩
    · rw [AgentAct.apply, heq]
      exact Nat.le_succ _
    · rw [AgentAct.apply, heq]
      exact hkeep (hstep.run (by simp))
  | completeTerminalTurn turnId bequestCount =>
    rcases completeTerminalTurn_cases w turnId bequestCount with heq | ⟨state, heq, -, -, -, hstep⟩
    · rw [AgentAct.apply, heq]
      exact Nat.le_succ _
    · rw [AgentAct.apply, heq]
      exact hkeep (hstep.run (by simp))
  | setSchedulerEnabled enabled => exact Nat.le_succ _
  | setLoopEnabled enabled => exact Nat.le_succ _
  | setTaskEnabled kind enabled => exact hkeep (setTaskEnabled_run (by simp) (by simp))
  | setTaskInterval kind intervalSecs =>
    exact hkeep ((trySetTaskInterval_keep ..).run (by simp))
  | setSurvival lowCyclesMode tier backoffUntilNs => exact Nat.le_succ _

end Sequence

section Worlds

variable {classifier : Classifier} {w : AgentWorld} {shut : String → Prop}

/-- The worlds that differ in one tick, in the rows and in the history. -/
theorem AgentWorld.Works.of_set {w' : AgentWorld} {tick other : ℕ} {stage : TickStage}
    {jobId : String} {expires : ℕ} (hticks : w'.ticks = w.ticks.set tick stage)
    (h : w'.Works other jobId expires) :
    (other ≠ tick ∧ w.Works other jobId expires) ∨
      (other = tick ∧ ∃ processedJobs job, stage = .dispatching processedJobs job expires ∧
        job.id = jobId) := by
  obtain ⟨processedJobs, job, htick, hid⟩ := h
  rw [hticks, List.getElem?_set] at htick
  by_cases heq : tick = other
  · rw [if_pos heq] at htick
    split at htick
    · exact .inr ⟨heq.symm, processedJobs, job, Option.some.inj htick, hid⟩
    · cases htick
  · rw [if_neg heq] at htick
    exact .inl ⟨Ne.symm heq, processedJobs, job, htick, hid⟩

/-- Ticks that work on no new job keep the world sound, whatever served queue they leave. -/
theorem AgentWorld.Sound.of_works {w' : AgentWorld} (h : w.Sound shut)
    (hworks : ∀ tick jobId expires, w'.Works tick jobId expires → w.Works tick jobId expires)
    (hqueue : w'.state.store.Serves w'.nowNs
      (fun jobId expires => ∃ tick, w'.Works tick jobId expires)
      fun jobId => jobId ∈ w'.recovered ∨ shut jobId) : w'.Sound shut where
  queue := hqueue
  distinct tick tick' jobId expires expires' hfirst hsecond :=
    h.distinct tick tick' jobId expires expires' (hworks _ _ _ hfirst) (hworks _ _ _ hsecond)

/-- Acts of others keep the world sound. -/
theorem AgentAct.IsOutside.sound {act : AgentAct} (houtside : act.IsOutside) (h : w.Sound shut)
    (hseq : w.state.store.scheduler.nextJobSeq + TaskKind.all.length < u64Max) :
    (act.apply classifier w).Sound shut := by
  have hkeeps : w.KeepsTicks (act.apply classifier w) := houtside.keepsTicks
  have hnext : (act.apply classifier w).state.store.scheduler.nextJobSeq < u64Max := by
    have hle : (act.apply classifier w).state.store.scheduler.nextJobSeq ≤ _ :=
      houtside.nextJobSeq
    have hkinds : TaskKind.all.length = 5 := rfl
    omega
  have hworks (tick : ℕ) (jobId : String) (expires : ℕ)
      (hnew : (act.apply classifier w).Works tick jobId expires) : w.Works tick jobId expires := by
    unfold AgentWorld.Works at hnew ⊢
    rwa [hkeeps.ticks] at hnew
  refine h.of_works hworks ?_
  rw [hkeeps.nowNs, hkeeps.recovered]
  refine hkeeps.queue.serves (h.queue.mono ?_ fun _ => id) hnext
  rintro jobId expires ⟨tick, hnew⟩
  exact ⟨tick, hworks tick jobId expires hnew⟩

/-- A tick that begins closes the job of a lease that has expired. -/
theorem AgentWorld.Sound.startTick (h : w.Sound shut)
    (hseq : w.state.store.scheduler.nextJobSeq + TaskKind.all.length < u64Max) :
    w.startTick.Sound shut := by
  unfold AgentWorld.startTick
  split
  · exact h
  · dsimp only
    have hnow : w.state.store.scheduler.nextJobSeq < u64Max := by omega
    have hrecovered := h.queue.recoverStaleLease hnow
    rw [← recoverTick_store] at hrecovered
    have hsame : (w.state.recoverTick w.nowNs).store.scheduler.nextJobSeq =
        w.state.store.scheduler.nextJobSeq := by
      rw [recoverTick_store, recoverStaleLease_eq]
      cases w.state.store.staleLease w.nowNs with
      | none => rfl
      | some lease => exact QueueRun.nextJobSeq_eq (completeJob_run rfl (by simp))
    have hshut (jobId : String) (hjob : jobId ∈ w.recovered ++
        ((w.state.store.staleLease w.nowNs).map (·.jobId)).toList ∨ shut jobId) :
        (∃ lease, w.state.store.staleLease w.nowNs = some lease ∧ lease.jobId = jobId) ∨
          jobId ∈ w.recovered ∨ shut jobId := by
      rcases hjob with hjob | hjob
      · rcases List.mem_append.mp hjob with hold | hnew
        · exact .inr (.inl hold)
        · exact .inl (Option.map_eq_some_iff.mp (Option.mem_toList.mp hnew))
      · exact .inr (.inr hjob)
    split
    · exact h.of_works (fun _ _ _ => id) (hrecovered.mono (fun _ _ => id) hshut)
    · have hworks (tick : ℕ) (jobId : String) (expires : ℕ)
          (hnew : AgentWorld.Works { w with ticks := w.ticks ++ [.looping 0] } tick jobId
            expires) : w.Works tick jobId expires := by
        obtain ⟨processedJobs, job, htick, hid⟩ := hnew
        refine ⟨processedJobs, job, ?_, hid⟩
        rw [List.getElem?_append] at htick
        split at htick
        · exact htick
        · rw [List.getElem?_singleton] at htick
          split at htick <;> cases htick
      have hadded : (((w.state.recoverTick w.nowNs).store.refreshDueJobs
          w.nowNs).1).scheduler.nextJobSeq < u64Max := by
        have hle := refreshDueJobs_nextJobSeq (w.state.recoverTick w.nowNs).store w.nowNs
        omega
      refine h.of_works hworks ?_
      refine (refreshDueJobs_run.mono fun _ => QueueEffect.Adds.isOutside).serves ?_ hadded
      refine hrecovered.mono ?_ hshut
      rintro jobId expires ⟨tick, hnew⟩
      exact ⟨tick, hworks tick jobId expires hnew⟩

/-- The world after an iteration that leaves its tick without a job. -/
theorem AgentWorld.Sound.leave {w' : AgentWorld} {tick : ℕ} {stage : TickStage} (h : w.Sound shut)
    (hticks : w'.ticks = w.ticks.set tick stage)
    (hstage : ∀ processedJobs job expires, stage ≠ .dispatching processedJobs job expires)
    (hqueue : w'.state.store.Serves w'.nowNs
      (fun jobId expires => ∃ other, other ≠ tick ∧ w.Works other jobId expires)
      fun jobId => jobId ∈ w'.recovered ∨ shut jobId) : w'.Sound shut := by
  have hworks (other : ℕ) (jobId : String) (expires : ℕ) (hnew : w'.Works other jobId expires) :
      other ≠ tick ∧ w.Works other jobId expires := by
    rcases hnew.of_set hticks with hold | ⟨-, processedJobs, job, hdispatching, -⟩
    · exact hold
    · exact absurd hdispatching (hstage processedJobs job expires)
  refine h.of_works (fun other jobId expires hnew => (hworks other jobId expires hnew).2) ?_
  refine hqueue.mono ?_ fun _ => id
  rintro jobId expires ⟨other, hnew⟩
  exact ⟨other, hworks other jobId expires hnew⟩

/-- An iteration that skips its job completes it. -/
theorem skipped_serves {s leased : Store} {nowNs expiresAtNs : ℕ} {job : ScheduledJob}
    {works : String → ℕ → Prop} {reason : Option String}
    (hstarts : StartsJob s leased nowNs job expiresAtNs) (hserves : s.Serves nowNs works shut)
    (hseq : s.scheduler.nextJobSeq < u64Max) :
    (leased.completeJob job.id .skipped reason nowNs none).Serves nowNs works shut := by
  obtain ⟨hleased, hnext, hfree⟩ := hstarts.serves hserves hseq
  have hstep : QueueStep leased (leased.completeJob job.id .skipped reason nowNs none)
      (.finish job.id) := completeJob_step hstarts.stored rfl
  have hsame := hstep.nextJobSeq_eq (by simp)
  refine hstep.serves (hleased.mono (fun _ _ => .inl) fun _ => id) ?_ (by omega)
  refine ⟨⟨job, hstarts.stored, hstarts.inFlight⟩, fun expires hworks => ?_⟩
  exact absurd hworks (hfree expires)

/-- An iteration keeps the world sound. -/
theorem AgentWorld.Sound.iterate {tick : ℕ} (h : w.Sound shut)
    (hseq : w.state.store.scheduler.nextJobSeq < u64Max) : (w.iterate tick).Sound shut := by
  unfold AgentWorld.iterate
  split
  · rename_i processedJobs htick
    have hidle (other : ℕ) (jobId : String) (expires : ℕ) (hworks : w.Works other jobId expires) :
        other ≠ tick ∧ w.Works other jobId expires := by
      refine ⟨?_, hworks⟩
      rintro rfl
      obtain ⟨processedJobs, job, hdispatching, -⟩ := hworks
      rw [htick] at hdispatching
      cases hdispatching
    have hqueue : w.state.store.Serves w.nowNs
        (fun jobId expires => ∃ other, other ≠ tick ∧ w.Works other jobId expires)
        fun jobId => jobId ∈ w.recovered ∨ shut jobId := by
      refine h.queue.mono ?_ fun _ => id
      rintro jobId expires ⟨other, -, hworks⟩
      exact ⟨other, hworks⟩
    split
    · unfold AgentWorld.iterateOnce
      dsimp only
      rcases runOnePendingMutatingJob_cases w.state w.nowNs with
        heq | ⟨job, leased, expiresAtNs, hstarts, ⟨reason, events, heq⟩ | ⟨events, heq⟩⟩
      · rw [heq]
        exact h.leave rfl (by simp [IterationEnd.stage]) hqueue
      · rw [heq]
        exact h.leave rfl (by simp [IterationEnd.stage]) (skipped_serves hstarts hqueue hseq)
      · rw [heq]
        obtain ⟨hleased, -, hfree⟩ := hstarts.serves h.queue hseq
        have hworks (other : ℕ) (jobId : String) (expires : ℕ) (hnew : AgentWorld.Works
            { w with ticks := w.ticks.set tick (.dispatching processedJobs job expiresAtNs) }
            other jobId expires) : w.Works other jobId expires ∨
              other = tick ∧ jobId = job.id ∧ expires = expiresAtNs := by
          rcases hnew.of_set rfl with ⟨-, hold⟩ | ⟨rfl, processed, stored, hstage, hid⟩
          · exact .inl hold
          · cases hstage
            exact .inr ⟨rfl, hid.symm, rfl⟩
        refine ⟨hleased.mono ?_ fun _ => id, ?_⟩
        · rintro jobId expires ⟨other, hnew⟩
          rcases hworks other jobId expires hnew with hold | ⟨-, hid, hexpires⟩
          · exact .inl ⟨other, hold⟩
          · exact .inr ⟨hid, hexpires⟩
        · intro first second jobId expires expires' hfirst hsecond
          rcases hworks first jobId expires hfirst with hold | ⟨rfl, rfl, rfl⟩
          · rcases hworks second jobId expires' hsecond with hold' | ⟨rfl, rfl, rfl⟩
            · exact h.distinct first second jobId expires expires' hold hold'
            · exact absurd ⟨first, hold⟩ (hfree expires)
          · rcases hworks second job.id expires' hsecond with hold' | ⟨rfl, -, -⟩
            · exact absurd ⟨second, hold'⟩ (hfree expires')
            · rfl
    · exact h.leave rfl (by simp) hqueue
  · exact h

/-- A completed job that no other worker runs keeps the queue safe, when it was in flight or is
not stored. -/
theorem completeJob_serves {s : Store} {nowNs : ℕ} {jobId : String}
    {works : String → ℕ → Prop} (status : JobStatus) (error : Option String)
    (retryAfterSecs : Option ℕ)
    (hterminal : status.isTerminal = true) (hserves : s.Serves nowNs works shut)
    (htimely : ∀ job, s.jobs[jobId]? = some job → job.status = .inFlight)
    (hfree : ∀ expires, ¬ works jobId expires) (hseq : s.scheduler.nextJobSeq < u64Max) :
    (s.completeJob jobId status error nowNs retryAfterSecs).Serves nowNs works shut ∧
      (s.completeJob jobId status error nowNs retryAfterSecs).scheduler.nextJobSeq =
        s.scheduler.nextJobSeq := by
  cases hstored : s.jobs[jobId]? with
  | none =>
    rw [completeJob_eq_self hstored]
    exact ⟨hserves, rfl⟩
  | some job =>
    have hstep : QueueStep s (s.completeJob jobId status error nowNs retryAfterSecs)
        (.finish jobId) := completeJob_step hstored hterminal
    have hsame := hstep.nextJobSeq_eq (by simp)
    refine ⟨hstep.serves hserves ?_ (by omega), hsame⟩
    exact ⟨⟨job, hstored, htimely job hstored⟩, fun expires hworks => absurd hworks (hfree expires)⟩

/-- A report for a job in flight, or for one that is not stored, keeps the queue safe. -/
theorem reportJob_serves {state : AgentState} {nowNs : ℕ} {job : ScheduledJob}
    {result : Except String JobDispatchOutcome} {works : String → ℕ → Prop}
    (hserves : state.store.Serves nowNs works shut)
    (htimely : ∀ stored, state.store.jobs[job.id]? = some stored → stored.status = .inFlight)
    (hfree : ∀ expires, ¬ works job.id expires)
    (hseq : state.store.scheduler.nextJobSeq + 1 < u64Max) :
    (state.reportJob classifier job result nowNs).store.Serves nowNs works shut := by
  unfold AgentState.reportJob
  split
  · rename_i outcome
    obtain ⟨hcompleted, hsame⟩ := completeJob_serves .succeeded none none rfl hserves htimely hfree
      (by omega)
    refine ((maybeEnqueueTopupWaitingContinuation_run outcome).mono
      fun _ => QueueEffect.Adds.isOutside).serves hcompleted ?_
    unfold Store.maybeEnqueueTopupWaitingContinuation Store.enqueueTopupCyclesJob
    split
    · refine (enqueueJobIfAbsent_nextJobSeq ..).trans_lt ?_
      omega
    · omega
  · exact (completeJob_serves _ _ _ (recoveryPlan_status ..) hserves htimely hfree (by omega)).1

/-- A report that is in time keeps the world sound. -/
theorem AgentWorld.Sound.report {tick : ℕ} {result : Except String JobDispatchOutcome}
    (h : w.Sound shut) (hseq : w.state.store.scheduler.nextJobSeq + 1 < u64Max)
    (htimely : w.ticks[tick]?.all (TickStage.reportsInTime w.state.store result) = true) :
    (w.report classifier tick result).Sound shut := by
  unfold AgentWorld.report
  split
  · rename_i processedJobs job expiresAtNs htick
    refine h.leave rfl (by simp) (reportJob_serves ?_ ?_ ?_ hseq)
    · refine h.queue.mono ?_ fun _ => id
      rintro jobId expires ⟨other, -, hworks⟩
      exact ⟨other, hworks⟩
    · intro stored hstored
      simpa [htick, TickStage.reportsInTime, Store.takesReport, hstored] using htimely
    · rintro expires ⟨other, hne, hworks⟩
      exact hne (h.distinct other tick job.id expires expiresAtNs hworks
        ⟨processedJobs, job, htick, rfl⟩)
  · exact h

/-- Timely acts keep the world sound. -/
theorem AgentWorld.Sound.apply {act : AgentAct} (h : w.Sound shut)
    (htimely : act.isTimely w = true) : (act.apply classifier w).Sound shut := by
  unfold AgentAct.isTimely at htimely
  rw [Bool.and_eq_true, decide_eq_true_eq] at htimely
  obtain ⟨hseq, hreport⟩ := htimely
  have hkinds : TaskKind.all.length = 5 := rfl
  by_cases houtside : act.IsOutside
  · exact houtside.sound h hseq
  · cases act with
    | wait ns =>
      exact ⟨h.queue.wait (Nat.le_add_right _ _), h.distinct⟩
    | startTick => exact h.startTick hseq
    | iterate tick => exact h.iterate (by omega)
    | report tick result => exact h.report (by omega) hreport
    | _ => exact (houtside trivial).elim

/-- An automaton without jobs, a lease and ticks. -/
structure AgentWorld.HasNoJobs (w : AgentWorld) : Prop where
  jobs : w.state.store.jobs = ∅
  lease : w.state.store.lease = none
  ticks : w.ticks = []
  recovered : w.recovered = []

/-- No two ticks run jobs under leases that have not expired, and such a lease is the stored
one. -/
def AgentWorld.HasOneLease (w : AgentWorld) : Prop :=
  ∀ tick jobId expires, w.Works tick jobId expires → w.nowNs < expires →
    w.state.store.lease.any (fun lease => lease.jobId = jobId ∧ lease.expiresAtNs = expires) =
      true ∧
    ∀ tick' jobId' expires', w.Works tick' jobId' expires' → w.nowNs < expires' → tick' = tick

/-- A job that has ended stays as it is or is deleted. -/
def AgentWorld.KeepsEnded (w w' : AgentWorld) : Prop :=
  ∀ (jobId : String) (job job' : ScheduledJob), w.state.store.jobs[jobId]? = some job →
    job.status.isTerminal = true → w'.state.store.jobs[jobId]? = some job' →
    job'.status.isTerminal = true

/-- The rows stay as they are when a worker reports in time although its lease was recovered. -/
def AgentWorld.IgnoresLateReports (classifier : Classifier) (w : AgentWorld) : Prop :=
  ∀ tick processedJobs job expiresAtNs result,
    w.ticks[tick]? = some (.dispatching processedJobs job expiresAtNs) → job.id ∈ w.recovered →
    (AgentAct.report tick result).isTimely w = true →
    (w.report classifier tick result).state.store = w.state.store

theorem AgentWorld.HasNoJobs.sound (h : w.HasNoJobs) : w.Sound fun _ => False where
  queue :=
    { sound :=
        { id := by simp [h.jobs]
          known := by simp [h.jobs]
          attempts := by simp [h.jobs]
          lease := by simp [h.lease] }
      employs := by simp [AgentWorld.Works, h.ticks]
      closed := by simp [h.recovered] }
  distinct := by simp [AgentWorld.Works, h.ticks]

/-- In a sound world the stored lease is that of the one worker whose lease has not expired. -/
theorem AgentWorld.Sound.hasOneLease (h : w.Sound shut) : w.HasOneLease := by
  intro tick jobId expires hworks hunexpired
  have hholds := (h.queue.employs jobId expires ⟨tick, hworks⟩).holds hunexpired
  refine ⟨hholds, fun tick' jobId' expires' hworks' hunexpired' => ?_⟩
  have hholds' := (h.queue.employs jobId' expires' ⟨tick', hworks'⟩).holds hunexpired'
  obtain ⟨lease, hlease, hids⟩ := (Option.any_eq_true _ _).mp hholds
  rw [hlease] at hholds'
  simp only [Option.any_some, decide_eq_true_eq] at hholds' hids
  obtain rfl := hids.1.symm.trans hholds'.1
  exact h.distinct tick' tick jobId expires' expires hworks' hworks

/-- In a sound world the job of a worker whose lease was recovered has ended or was deleted, so
a report in time changes no row. -/
theorem AgentWorld.Sound.ignoresLateReports (h : w.Sound shut) :
    w.IgnoresLateReports classifier := by
  intro tick processedJobs job expiresAtNs result htick hrecovered htimely
  have hclosed := h.queue.closed job.id (.inl hrecovered)
  have hreport : w.state.store.takesReport job.id result = true := by
    unfold AgentAct.isTimely at htimely
    simpa [htick, TickStage.reportsInTime] using (Bool.and_eq_true_iff.mp htimely).2
  have habsent : w.state.store.jobs[job.id]? = none := by
    cases hstored : w.state.store.jobs[job.id]? with
    | none => rfl
    | some stored =>
      have hended := hclosed.2 stored hstored
      have hinFlight : stored.status = .inFlight := by
        simpa [Store.takesReport, hstored] using hreport
      rw [hinFlight] at hended
      cases hended
  unfold AgentWorld.report
  rw [htick]
  cases result with
  | ok outcome =>
    have hnot : outcome ≠ .topUpWaiting := by
      simpa [Store.takesReport, habsent] using hreport
    simp only [AgentState.reportJob, AgentState.withStore]
    rw [completeJob_eq_self habsent, Store.maybeEnqueueTopupWaitingContinuation, if_neg hnot]
  | error error =>
    simp only [AgentState.reportJob, AgentState.applyRecoveryPolicyForFailedJob]
    exact completeJob_eq_self habsent

/-- Worlds that are reached by timely acts from a sound world are sound. -/
theorem AgentWorld.Sound.reachable {w' : AgentWorld} (h : w.Sound shut)
    (hreach : Reachable (· = w) (Restrict (StepOf (AgentAct.apply classifier))
      fun w act => act.isTimely w = true) w') : w'.Sound shut := by
  induction hreach with
  | start heq => exact heq ▸ h
  | step _ hstep ih =>
    obtain ⟨rfl, htimely⟩ := hstep
    exact ih.apply htimely

/-- A job that has ended may be added to the jobs that stay closed. -/
theorem AgentWorld.Sound.close {jobId : String} {job : ScheduledJob} (h : w.Sound shut)
    (hstored : w.state.store.jobs[jobId]? = some job) (hended : job.status.isTerminal = true) :
    w.Sound (· = jobId) where
  queue :=
    { sound := h.queue.sound
      employs := h.queue.employs
      closed := by
        rintro other (hrecovered | rfl)
        · exact h.queue.closed other (.inl hrecovered)
        · refine ⟨h.queue.sound.known _ job hstored, fun stored hsame => ?_⟩
          rwa [← Option.some.inj (hstored.symm.trans hsame)] }
  distinct := h.distinct

/-- From an automaton without jobs, in every run in which workers report in time, at most one
lease has not expired, jobs that have ended stay ended, attempts are at most the limit, and late
reports change nothing. -/
theorem leases_are_safe {start : AgentWorld} (hstart : start.HasNoJobs)
    (hreach : Reachable (· = start) (Restrict (StepOf (AgentAct.apply classifier))
      fun w act => act.isTimely w = true) w) :
    w.HasOneLease ∧
    (∀ (jobId : String) (job : ScheduledJob), w.state.store.jobs[jobId]? = some job →
      job.attempts ≤ job.maxAttempts) ∧
    (∀ w', Reachable (· = w) (Restrict (StepOf (AgentAct.apply classifier))
      fun w act => act.isTimely w = true) w' → w.KeepsEnded w') ∧
    w.IgnoresLateReports classifier := by
  have hsound := hstart.sound.reachable hreach
  refine ⟨hsound.hasOneLease, ?_, ?_, hsound.ignoresLateReports⟩
  · exact fun jobId job hstored => (hsound.queue.sound.attempts jobId job hstored).1
  · intro w' hreach' jobId job job' hstored hended hstored'
    have hsound' := (hsound.close hstored hended).reachable hreach'
    exact (hsound'.queue.closed jobId (.inr rfl)).2 job' hstored'

end Worlds

/-- The first poll of the inbox outlives its lease, and the next tick closes it as timed out. -/
def latePoll : List AgentAct := [.startTick, .iterate 0, .wait (nanos 60), .startTick]

/-- An automaton with a poll whose lease was recovered. -/
def latePollWorld : AgentWorld :=
  run (AgentAct.apply sampleClassifier) latePoll (.fresh (.initial 0) 0)

/-- The id of the poll. -/
def latePollId : String := jobIdOf 1 0

theorem latePollWorld_safe : latePollWorld.HasOneLease ∧
    latePollWorld.IgnoresLateReports sampleClassifier ∧
    latePollWorld.KeepsEnded (run (AgentAct.apply sampleClassifier)
      [.prune latePollId, .report 0 (.error "unexpected error")] latePollWorld) := by
  have hempty : (AgentWorld.fresh (.initial 0) 0).HasNoJobs := ⟨rfl, rfl, rfl, rfl⟩
  have htimely : meets (AgentAct.apply sampleClassifier) (fun w act => act.isTimely w) latePoll
      (.fresh (.initial 0) 0) = true := by
    decide +kernel
  obtain ⟨hlease, -, hended, hlate⟩ :=
    leases_are_safe hempty ((Reachable.self _).run_restrict htimely)
  refine ⟨hlease, hlate, hended _ ?_⟩
  apply (Reachable.self _).run_restrict
  decide +kernel

/-- The late failure of the poll makes the job pending again. -/
theorem latePollWorld_reopens : ¬ ∀ w w' : AgentWorld,
    Reachable (· = AgentWorld.fresh (.initial 0) 0) (StepOf (AgentAct.apply sampleClassifier)) w →
    Reachable (· = w) (StepOf (AgentAct.apply sampleClassifier)) w' → w.KeepsEnded w' := by
  intro hclaim
  have hkeeps := hclaim latePollWorld _ ((Reachable.self _).run _)
    ((Reachable.self _).run [AgentAct.report 0 (.error "unexpected error")])
  have htimedOut : latePollWorld.state.store.jobs[latePollId]?.map (·.status) =
      some .timedOut := by
    decide +kernel
  have hpending : (run (AgentAct.apply sampleClassifier)
      [AgentAct.report 0 (.error "unexpected error")]
      latePollWorld).state.store.jobs[latePollId]?.map (·.status) = some .pending := by
    decide +kernel
  obtain ⟨job, hstored, hstatus⟩ := Option.map_eq_some_iff.mp htimedOut
  obtain ⟨job', hstored', hstatus'⟩ := Option.map_eq_some_iff.mp hpending
  have hended := hkeeps latePollId job job' hstored (by rw [hstatus]; rfl) hstored'
  rw [hstatus'] at hended
  cases hended

end Automaton.Agent
