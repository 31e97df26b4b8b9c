import Automaton.Agent.PendingJobs
import Automaton.Agent.Ticks

/-!
# Steps of the job queue

What the operations of the queue do to the jobs, the mutating lease and the sequence number. The
other rows are kept or do not matter. Every operation is a sequence of these steps.
-/

namespace Automaton.Agent

open Machine

/-- The mutating lease that is stored. -/
def Store.lease (store : Store) : Option SchedulerLease := store.scheduler.activeMutatingLease

/-- The kinds of steps, with the job that is concerned. -/
inductive QueueEffect
  | keep
  | add
  | start (jobId : String)
  | lease (jobId : String)
  | finish (jobId : String)
  | delete (jobId : String)

/-- A step adds a job, starts a pending one, gives it the lease, completes it or deletes it. -/
inductive QueueStep (s t : Store) : QueueEffect → Prop
  | keep (hjobs : t.jobs = s.jobs) (hlease : t.lease = s.lease)
      (hseq : t.scheduler.nextJobSeq = s.scheduler.nextJobSeq) : QueueStep s t .keep
  | add (kind : TaskKind) (lane : TaskLane) (dedupeKey : String)
      (scheduledForNs priority nowNs : ℕ) (job : ScheduledJob)
      (hjob : job = newJob kind lane dedupeKey s.nextSeq scheduledForNs priority nowNs)
      (hjobs : t.jobs = s.jobs.insert job.id job) (hlease : t.lease = s.lease)
      (hseq : t.scheduler.nextJobSeq = s.nextSeq) : QueueStep s t .add
  | start (key : String) (job : ScheduledJob) (nowNs : ℕ) (hstored : s.jobs[key]? = some job)
      (hpending : job.status = .pending) (hjobs : t.jobs = s.jobs.insert job.id (job.start nowNs))
      (hlease : t.lease = s.lease) (hseq : t.scheduler.nextJobSeq = s.scheduler.nextJobSeq) :
      QueueStep s t (.start job.id)
  | lease (lease : SchedulerLease) (hjobs : t.jobs = s.jobs) (hlease : t.lease = some lease)
      (hseq : t.scheduler.nextJobSeq = s.scheduler.nextJobSeq) : QueueStep s t (.lease lease.jobId)
  | finish (jobId : String) (job : ScheduledJob) (status : JobStatus) (error : Option String)
      (nowNs : ℕ) (retryAfterSecs : Option ℕ) (hterminal : status.isTerminal = true)
      (hstored : s.jobs[jobId]? = some job)
      (hjobs : t.jobs = s.jobs.insert job.id (job.complete status error nowNs retryAfterSecs))
      (hlease : t.lease = if s.lease.any (·.jobId = jobId) then none else s.lease)
      (hseq : t.scheduler.nextJobSeq = s.scheduler.nextJobSeq) : QueueStep s t (.finish jobId)
  | delete (jobId : String) (hstatus : ¬ s.HasStatus jobId .inFlight)
      (hjobs : t.jobs = s.jobs.erase jobId) (hlease : t.lease = s.lease)
      (hseq : t.scheduler.nextJobSeq = s.scheduler.nextJobSeq) : QueueStep s t (.delete jobId)

/-- A sequence of steps with permitted effects. -/
def QueueRun (permitted : QueueEffect → Prop) : Store → Store → Prop :=
  Relation.ReflTransGen fun s t => ∃ effect, permitted effect ∧ QueueStep s t effect

/-- No effect changes a job that is stored. -/
def QueueEffect.Adds : QueueEffect → Prop
  | .keep | .add => True
  | _ => False

section Operations

variable {s t u : Store} {permitted : QueueEffect → Prop} {kind : TaskKind} {nowNs : ℕ}

theorem QueueStep.run {effect : QueueEffect} (h : QueueStep s t effect)
    (hpermitted : permitted effect) : QueueRun permitted s t :=
  .single ⟨effect, hpermitted, h⟩

theorem QueueRun.mono {other : QueueEffect → Prop} (h : QueueRun permitted s t)
    (hpermitted : ∀ effect, permitted effect → other effect) : QueueRun other s t := by
  refine Relation.ReflTransGen.mono ?_ _ _ h
  rintro s t ⟨effect, heffect, hstep⟩
  exact ⟨effect, hpermitted effect heffect, hstep⟩

theorem QueueStep.refl : QueueStep s s .keep := .keep rfl rfl rfl

/-- Steps that keep the queue are one such step. -/
theorem QueueStep.keep_trans (hst : QueueStep s t .keep) (htu : QueueStep t u .keep) :
    QueueStep s u .keep := by
  cases hst with
  | keep hjobs hlease hseq =>
    cases htu with
    | keep hjobs' hlease' hseq' =>
      exact .keep (hjobs'.trans hjobs) (hlease'.trans hlease) (hseq'.trans hseq)

theorem saveTaskRuntime_keep (runtime : TaskScheduleRuntime) :
    QueueStep s (s.saveTaskRuntime kind runtime) .keep := .keep rfl rfl rfl

theorem upsertTaskConfig_keep (config : TaskScheduleConfig) :
    QueueStep s (s.upsertTaskConfig config) .keep := .keep rfl rfl rfl

theorem storeNewJob_lease (job : ScheduledJob) : (s.storeNewJob job).lease = s.lease := by
  unfold Store.storeNewJob Store.trackPendingJob
  split <;> rfl

theorem storeNewJob_nextJobSeq (job : ScheduledJob) :
    (s.storeNewJob job).scheduler.nextJobSeq = s.nextSeq := by
  unfold Store.storeNewJob Store.trackPendingJob
  split <;> rfl

/-- Enqueueing adds at most one job. -/
theorem enqueueJobIfAbsent_run (s : Store) (kind : TaskKind) (lane : TaskLane)
    (dedupeKey : String) (scheduledForNs priority nowNs : ℕ) : QueueRun QueueEffect.Adds s
      (s.enqueueJobIfAbsent kind lane dedupeKey scheduledForNs priority nowNs).1 := by
  rcases enqueueJobIfAbsent_cases kind lane dedupeKey scheduledForNs priority nowNs s with
    ⟨-, heq⟩ | ⟨-, job, hjob, heq⟩
  · rw [heq]
    exact .refl
  · rw [heq]
    have hstep : QueueStep s (s.storeNewJob job) .add :=
      .add kind lane dedupeKey scheduledForNs priority nowNs job hjob jobs_storeNewJob
        (storeNewJob_lease job) (storeNewJob_nextJobSeq job)
    exact hstep.run trivial

/-- A task of a tick adds at most one job. -/
theorem refreshTask_step (config : TaskScheduleConfig) :
    QueueRun QueueEffect.Adds s (s.refreshTask kind config nowNs).1 := by
  unfold Store.refreshTask
  split
  · exact (enqueueJobIfAbsent_run s ..).trans ((saveTaskRuntime_keep _).run trivial)
  · exact .refl

theorem foldl_refreshStep_run (schedules : List (TaskKind × TaskScheduleConfig))
    (refreshed : Store × List (TaskKind × String)) :
    QueueRun QueueEffect.Adds refreshed.1 (schedules.foldl (refreshStep nowNs) refreshed).1 := by
  induction schedules generalizing refreshed with
  | nil => exact .refl
  | cons schedule schedules ih =>
    have hfirst : QueueRun QueueEffect.Adds refreshed.1 (refreshStep nowNs refreshed schedule).1 :=
      refreshTask_step schedule.2
    exact hfirst.trans (ih _)

/-- A tick adds jobs. -/
theorem refreshDueJobs_run : QueueRun QueueEffect.Adds s (s.refreshDueJobs nowNs).1 :=
  foldl_refreshStep_run s.listTaskConfigs (s, [])

theorem maybeEnqueueTopupWaitingContinuation_run (outcome : JobDispatchOutcome) :
    QueueRun QueueEffect.Adds s (s.maybeEnqueueTopupWaitingContinuation outcome nowNs) := by
  unfold Store.maybeEnqueueTopupWaitingContinuation Store.enqueueTopupCyclesJob
  split
  · exact enqueueJobIfAbsent_run s ..
  · exact .refl

/-- A pending job of a lane that is due is stored. -/
theorem stored_of_mem_duePendingJobs {lane : TaskLane} {job : ScheduledJob}
    (h : job ∈ s.duePendingJobs lane nowNs) :
    ∃ key : String, s.jobs[key]? = some job ∧ job.status = .pending := by
  unfold Store.duePendingJobs at h
  rw [List.mem_insertionSort, List.mem_filter, List.mem_map] at h
  obtain ⟨⟨entry, hentry, rfl⟩, hdue⟩ := h
  simp only [Bool.and_eq_true, decide_eq_true_eq] at hdue
  exact ⟨entry.1, Std.ExtTreeMap.mem_toList_iff_getElem?_eq_some.mp hentry, hdue.1.1⟩

/-- Popping starts a job. -/
theorem popNextPendingJob_step {lane : TaskLane} {job : ScheduledJob}
    (h : s.popNextPendingJob lane nowNs = some (job, t)) :
    QueueStep s t (.start job.id) ∧ t.jobs[job.id]? = some job ∧ job.status = .inFlight := by
  obtain ⟨pending, hhead, heq⟩ := Option.map_eq_some_iff.mp h
  obtain ⟨rfl, rfl⟩ := Prod.mk.inj heq
  obtain ⟨key, hstored, hpending⟩ := stored_of_mem_duePendingJobs (List.mem_of_head? hhead)
  refine ⟨.start key pending nowNs hstored hpending rfl rfl rfl, ?_, rfl⟩
  rw [Store.upsertJob_jobs, BTreeMap.get?_insert, if_pos rfl]

/-- Acquiring gives the lease to the job. -/
theorem acquireMutatingLease_step {jobId : String} {ttlNs : ℕ}
    (h : s.acquireMutatingLease jobId nowNs ttlNs = .ok t) :
    QueueStep s t (.lease jobId) ∧ t.jobs = s.jobs ∧
      t.lease = some ⟨jobId, nowNs, saturatingAdd u64Max nowNs ttlNs⟩ := by
  unfold Store.acquireMutatingLease at h
  split at h
  · cases h
  · split at h
    · cases h
    · cases h
      exact ⟨.lease ⟨jobId, nowNs, saturatingAdd u64Max nowNs ttlNs⟩ rfl rfl rfl, rfl, rfl⟩

theorem release_activeMutatingLease (runtime : SchedulerRuntime) (jobId : String) :
    (runtime.release jobId).activeMutatingLease =
      if runtime.activeMutatingLease.any (·.jobId = jobId) then none
      else runtime.activeMutatingLease := by
  unfold SchedulerRuntime.release
  split <;> rfl

theorem release_nextJobSeq (runtime : SchedulerRuntime) (jobId : String) :
    (runtime.release jobId).nextJobSeq = runtime.nextJobSeq := by
  unfold SchedulerRuntime.release
  split <;> rfl

@[simp] theorem ScheduledJob.complete_id (job : ScheduledJob) (status : JobStatus)
    (error : Option String) (nowNs : ℕ) (retryAfterSecs : Option ℕ) :
    (job.complete status error nowNs retryAfterSecs).id = job.id := by
  unfold ScheduledJob.complete
  dsimp only
  split <;> rfl

/-- Completing a job that is stored is a step. -/
theorem completeJob_step {jobId : String} {job : ScheduledJob} {status : JobStatus}
    {error : Option String} {retryAfterSecs : Option ℕ} (hstored : s.jobs[jobId]? = some job)
    (hterminal : status.isTerminal = true) :
    QueueStep s (s.completeJob jobId status error nowNs retryAfterSecs) (.finish jobId) := by
  unfold Store.completeJob
  rw [hstored]
  refine .finish jobId job status error nowNs retryAfterSecs hterminal hstored ?_
    (release_activeMutatingLease s.scheduler jobId) (release_nextJobSeq s.scheduler jobId)
  simp

/-- A job that is not stored is not completed. -/
theorem completeJob_eq_self {jobId : String} {status : JobStatus} {error : Option String}
    {retryAfterSecs : Option ℕ} (habsent : s.jobs[jobId]? = none) :
    s.completeJob jobId status error nowNs retryAfterSecs = s := by
  unfold Store.completeJob
  rw [habsent]

theorem completeJob_run {jobId : String} {status : JobStatus} {error : Option String}
    {retryAfterSecs : Option ℕ} (hterminal : status.isTerminal = true)
    (hpermitted : permitted (.finish jobId)) :
    QueueRun permitted s (s.completeJob jobId status error nowNs retryAfterSecs) := by
  cases hstored : s.jobs[jobId]? with
  | none =>
    rw [completeJob_eq_self hstored]
    exact .refl
  | some job => exact (completeJob_step hstored hterminal).run hpermitted

/-- Recovery completes the job of the lease that has expired. -/
theorem recoverStaleLease_eq : s.recoverStaleLease nowNs = ((s.staleLease nowNs).elim s fun lease =>
    s.completeJob lease.jobId .timedOut (some "mutating lease expired") nowNs none) := by
  unfold Store.recoverStaleLease Store.staleLease
  cases s.scheduler.activeMutatingLease with
  | none => rfl
  | some lease =>
    by_cases hexpired : lease.expiresAtNs ≤ nowNs
    · simp [hexpired, Option.filter]
    · simp [hexpired, Option.filter]

theorem setTaskIntervalSecs_keep {intervalSecs : ℕ}
    (h : s.setTaskIntervalSecs kind intervalSecs nowNs = .ok t) : QueueStep s t .keep := by
  unfold Store.setTaskIntervalSecs at h
  split at h
  · cases h
  · cases h
    exact (upsertTaskConfig_keep _).keep_trans (saveTaskRuntime_keep _)

theorem trySetTaskInterval_keep (s : Store) (kind : TaskKind) (intervalSecs nowNs : ℕ) :
    QueueStep s (s.trySetTaskInterval kind intervalSecs nowNs) .keep := by
  unfold Store.trySetTaskInterval
  split
  · exact setTaskIntervalSecs_keep (by assumption)
  · exact .refl

theorem setCadenceMultiplier_keep (multiplier : ℕ) :
    QueueStep s (s.setCadenceMultiplier multiplier nowNs) .keep := by
  have hfold (kinds : List TaskKind) (s : Store) : QueueStep s (kinds.foldl (fun store kind =>
      store.trySetTaskInterval kind (taskIntervalForMultiplier multiplier) nowNs) s) .keep := by
    induction kinds generalizing s with
    | nil => exact .refl
    | cons kind kinds ih => exact (trySetTaskInterval_keep s ..).keep_trans (ih _)
  exact hfold TaskKind.all s

/-- Disabling a task deletes at most a pending job. -/
theorem clearPendingJobForDisabledTask_run (hpermitted : ∀ jobId, permitted (.delete jobId))
    (hkeep : permitted .keep) : QueueRun permitted s (s.clearPendingJobForDisabledTask kind) := by
  unfold Store.clearPendingJobForDisabledTask
  split
  · exact .refl
  · split
    · exact .refl
    · rename_i runtime hruntime _ jobId hjobId
      split
      · exact (saveTaskRuntime_keep _).run hkeep
      · rename_i _ job hstored
        split
        · exact .refl
        · rename_i hpending
          have hstep : QueueStep s (s.deleteJob jobId) (.delete jobId) := by
            refine .delete jobId ?_ rfl rfl rfl
            rintro ⟨other, hother, hinFlight⟩
            obtain rfl := Option.some.inj (hstored.symm.trans hother)
            exact hpending (by rw [hinFlight]; decide)
          exact (hstep.run (hpermitted jobId)).trans ((saveTaskRuntime_keep _).run hkeep)

theorem setTaskEnabled_run {enabled : Bool} (hpermitted : ∀ jobId, permitted (.delete jobId))
    (hkeep : permitted .keep) : QueueRun permitted s (s.setTaskEnabled kind enabled) := by
  unfold Store.setTaskEnabled
  dsimp only
  split
  · exact (upsertTaskConfig_keep _).run hkeep
  · exact ((upsertTaskConfig_keep _).run hkeep).trans
      (clearPendingJobForDisabledTask_run hpermitted hkeep)

/-- Pruning deletes at most a job that has ended. -/
theorem pruneJob_run {jobId : String} (hpermitted : permitted (.delete jobId)) :
    QueueRun permitted s (s.pruneJob jobId) := by
  unfold Store.pruneJob
  split
  · rename_i hterminal
    have hstep : QueueStep s (s.deleteJob jobId) (.delete jobId) := by
      refine .delete jobId ?_ rfl rfl rfl
      rintro ⟨job, hstored, hinFlight⟩
      simp [hstored, hinFlight, JobStatus.isTerminal] at hterminal
    exact hstep.run hpermitted
  · exact .refl

end Operations

section Acts

variable {classifier : Classifier} {state : AgentState} {w : AgentWorld} {nowNs : ℕ}

/-- The policy completes a failed job as failed or skipped. -/
theorem recoveryPlan_status (store : Store) (job : ScheduledJob) (error : String)
    (evmRpcMaxResponseBytes : ℕ) :
    (classifier.recoveryPlan store job error evmRpcMaxResponseBytes nowNs).status.isTerminal =
      true := by
  have hplan (decision : RecoveryDecision) (operation : RecoveryOperation) :
      (decision.plan operation error).status.isTerminal = true := by
    unfold RecoveryDecision.plan
    repeat' split
    all_goals rfl
  unfold Classifier.recoveryPlan
  dsimp only
  split
  · rfl
  · exact hplan _ _

theorem recoverOrphanedTurnLock_store :
    (state.recoverOrphanedTurnLock nowNs).store = state.store := by
  unfold AgentState.recoverOrphanedTurnLock
  split <;> rfl

theorem recoverOrphanedTurnLock_mortality :
    (state.recoverOrphanedTurnLock nowNs).snapshot.mortality = state.snapshot.mortality := by
  unfold AgentState.recoverOrphanedTurnLock
  split <;> rfl

theorem recoverTick_store : (state.recoverTick nowNs).store = state.store.recoverStaleLease nowNs :=
  recoverOrphanedTurnLock_store

/-- A tick that begins ends the job of an expired lease and adds jobs. -/
theorem startTick_run {permitted : QueueEffect → Prop}
    (hfinish : ∀ lease, w.state.store.staleLease w.nowNs = some lease →
      permitted (.finish lease.jobId))
    (hadds : ∀ effect : QueueEffect, effect.Adds → permitted effect) :
    QueueRun permitted w.state.store w.startTick.state.store := by
  have hrecover : QueueRun permitted w.state.store (w.state.recoverTick w.nowNs).store := by
    rw [recoverTick_store, recoverStaleLease_eq]
    cases hstale : w.state.store.staleLease w.nowNs with
    | none => exact .refl
    | some lease => exact completeJob_run rfl (hfinish lease hstale)
  unfold AgentWorld.startTick
  split
  · exact .refl
  · dsimp only
    split
    · exact hrecover
    · exact hrecover.trans (refreshDueJobs_run.mono hadds)

theorem observeMortalityResources_keep {liquidCycles : ℕ} {runwaySeconds : Option ℕ} :
    QueueStep state.store (state.observeMortalityResources liquidCycles runwaySeconds nowNs).store
      .keep := by
  unfold AgentState.observeMortalityResources
  split
  · exact .refl
  · exact setCadenceMultiplier_keep _

/-- A terminal turn begins when it is pending, and is refused otherwise. -/
theorem beginTerminalTurn_cases (w : AgentWorld) (turnId : String) :
    w.beginTerminalTurn turnId = w ∨
    ∃ state, w.beginTerminalTurn turnId = { w with state := state, begun := w.begun ++ [turnId] } ∧
      w.state.snapshot.mortality.phase = .terminalPending ∧
      state.snapshot.mortality.phase = .terminalInProgress ∧
      state.snapshot.mortality.terminalTurnId = some turnId ∧
      QueueStep w.state.store state.store .keep := by
  unfold AgentWorld.beginTerminalTurn
  cases hbegin : w.state.beginTerminalTurn turnId w.nowNs with
  | error => exact .inl rfl
  | ok state =>
    unfold AgentState.beginTerminalTurn at hbegin
    dsimp only at hbegin
    split at hbegin
    · cases hbegin
    · rename_i hphase
      cases hbegin
      exact .inr ⟨_, rfl, not_not.mp hphase, rfl, rfl, .keep rfl rfl rfl⟩

/-- A terminal turn is completed when it is the one in progress, and refused otherwise. -/
theorem completeTerminalTurn_cases (w : AgentWorld) (turnId : String) (bequestCount : ℕ) :
    w.completeTerminalTurn turnId bequestCount = w ∨
    ∃ state, w.completeTerminalTurn turnId bequestCount =
        { w with state := state, completed := w.completed ++ [turnId] } ∧
      w.state.snapshot.mortality.phase = .terminalInProgress ∧
      w.state.snapshot.mortality.terminalTurnId = some turnId ∧
      state.snapshot.mortality.phase = .dead ∧
      QueueStep w.state.store state.store .keep := by
  unfold AgentWorld.completeTerminalTurn
  cases hcomplete : w.state.completeTerminalTurn turnId bequestCount w.nowNs with
  | error => exact .inl rfl
  | ok state =>
    unfold AgentState.completeTerminalTurn at hcomplete
    dsimp only at hcomplete
    split at hcomplete
    · cases hcomplete
    · rename_i hphase
      rw [not_or, not_not, not_not] at hphase
      cases hcomplete
      exact .inr ⟨_, rfl, hphase.1, hphase.2, rfl, .keep rfl rfl rfl⟩

/-- The acts of others: no time passes and no tick takes a step. -/
def AgentAct.IsOutside : AgentAct → Prop
  | .wait _ | .startTick | .iterate _ | .report _ _ => False
  | _ => True

/-- The effects of others. -/
def QueueEffect.IsOutside : QueueEffect → Prop
  | .keep | .add | .delete _ => True
  | _ => False

theorem QueueEffect.Adds.isOutside {effect : QueueEffect} (h : effect.Adds) :
    effect.IsOutside := by
  cases effect with
  | keep | add => trivial
  | _ => exact h.elim

/-- What an act of others leaves alone. -/
structure AgentWorld.KeepsTicks (w w' : AgentWorld) : Prop where
  nowNs : w'.nowNs = w.nowNs
  ticks : w'.ticks = w.ticks
  events : w'.events = w.events
  recovered : w'.recovered = w.recovered
  queue : QueueRun QueueEffect.IsOutside w.state.store w'.state.store

theorem AgentWorld.KeepsTicks.of_store {store : Store}
    (h : QueueRun QueueEffect.IsOutside w.state.store store) : w.KeepsTicks (w.withStore store) :=
  ⟨rfl, rfl, rfl, rfl, h⟩

/-- Other acts leave the ticks alone and add or delete jobs that are not in flight. -/
theorem AgentAct.IsOutside.keepsTicks {act : AgentAct} (h : act.IsOutside) :
    w.KeepsTicks (act.apply classifier w) := by
  cases act with
  | wait | startTick | iterate | report => exact h.elim
  | enqueue kind lane dedupeKey scheduledForNs priority =>
    exact .of_store ((enqueueJobIfAbsent_run ..).mono fun _ => QueueEffect.Adds.isOutside)
  | prune jobId => exact .of_store (pruneJob_run trivial)
  | observe liquidCycles runwaySeconds =>
    exact ⟨rfl, rfl, rfl, rfl, observeMortalityResources_keep.run trivial⟩
  | beginTerminalTurn turnId =>
    rcases beginTerminalTurn_cases w turnId with heq | ⟨state, heq, -, -, -, hkeep⟩
    · rw [AgentAct.apply, heq]
      exact ⟨rfl, rfl, rfl, rfl, .refl⟩
    · rw [AgentAct.apply, heq]
      exact ⟨rfl, rfl, rfl, rfl, hkeep.run trivial⟩
  | completeTerminalTurn turnId bequestCount =>
    rcases completeTerminalTurn_cases w turnId bequestCount with heq | ⟨state, heq, -, -, -, hkeep⟩
    · rw [AgentAct.apply, heq]
      exact ⟨rfl, rfl, rfl, rfl, .refl⟩
    · rw [AgentAct.apply, heq]
      exact ⟨rfl, rfl, rfl, rfl, hkeep.run trivial⟩
  | setSchedulerEnabled enabled =>
    exact .of_store (QueueStep.run (.keep rfl rfl rfl) trivial)
  | setLoopEnabled enabled => exact ⟨rfl, rfl, rfl, rfl, .refl⟩
  | setTaskEnabled kind enabled =>
    exact .of_store (setTaskEnabled_run (fun _ => trivial) trivial)
  | setTaskInterval kind intervalSecs =>
    exact .of_store ((trySetTaskInterval_keep ..).run trivial)
  | setSurvival lowCyclesMode tier backoffUntilNs =>
    exact .of_store (QueueStep.run (.keep rfl rfl rfl) trivial)

end Acts

end Automaton.Agent
