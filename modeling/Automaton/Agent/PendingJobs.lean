import Automaton.Agent.Tasks

/-!
# The pending job of a task

The runtime of a task names its pending job, so that no second job is created and the job can be
deleted when the task is disabled. A tick that creates a job writes back the runtime that it
read before, so the job that it creates is not named.
-/

namespace Automaton.Agent

/-- The rows with the jobs that ticks have created. -/
structure TaskWorld where
  store : Store
  refreshed : List (TaskKind × String)

/-- What happens to the queue. Jobs may also be enqueued by turns and top-ups. -/
inductive QueueAct
  | refresh (nowNs : ℕ)
  | enqueue (kind : TaskKind) (dedupeKey : String) (scheduledForNs priority nowNs : ℕ)
  | pop (lane : TaskLane) (nowNs : ℕ)
  | acquire (jobId : String) (nowNs ttlNs : ℕ)
  | complete (jobId : String) (status : JobStatus) (error : Option String) (nowNs : ℕ)
      (retryAfterSecs : Option ℕ)
  | recover (nowNs : ℕ)
  | setInterval (kind : TaskKind) (intervalSecs nowNs : ℕ)
  | setEnabled (kind : TaskKind) (enabled : Bool)

/-- The rows after an act other than a tick. -/
def QueueAct.applyToStore (act : QueueAct) (store : Store) : Store :=
  match act with
  | .refresh nowNs => (store.refreshDueJobs nowNs).1
  | .enqueue kind dedupeKey scheduledForNs priority nowNs =>
    (store.enqueueJobIfAbsent kind .mutating dedupeKey scheduledForNs priority nowNs).1
  | .pop lane nowNs => (store.popNextPendingJob lane nowNs).elim store (·.2)
  | .acquire jobId nowNs ttlNs =>
    match store.acquireMutatingLease jobId nowNs ttlNs with
    | .ok store => store
    | .error _ => store
  | .complete jobId status error nowNs retryAfterSecs =>
    store.completeJob jobId status error nowNs retryAfterSecs
  | .recover nowNs => store.recoverStaleLease nowNs
  | .setInterval kind intervalSecs nowNs =>
    match store.setTaskIntervalSecs kind intervalSecs nowNs with
    | .ok store => store
    | .error _ => store
  | .setEnabled kind enabled => store.setTaskEnabled kind enabled

/-- The jobs that an act creates as a tick. -/
def QueueAct.created (act : QueueAct) (store : Store) : List (TaskKind × String) :=
  match act with
  | .refresh nowNs => (store.refreshDueJobs nowNs).2
  | _ => []

/-- What an act does. -/
def QueueAct.apply (act : QueueAct) (w : TaskWorld) : TaskWorld where
  store := act.applyToStore w.store
  refreshed := w.refreshed ++ act.created w.store

/-- The runtime of the kind names the job. -/
def Store.Tracks (store : Store) (kind : TaskKind) (jobId : String) : Prop :=
  (store.taskRuntimes kind).any (·.pendingJobId = some jobId) = true

/-- The job is stored with a status. -/
def Store.HasStatus (store : Store) (jobId : String) (status : JobStatus) : Prop :=
  ∃ job, store.jobs[jobId]? = some job ∧ job.status = status

/-- Every job of a tick that has not ended is named by its task. -/
def TaskWorld.Tracked (w : TaskWorld) : Prop :=
  ∀ kind jobId, (kind, jobId) ∈ w.refreshed →
    w.store.HasStatus jobId .pending ∨ w.store.HasStatus jobId .inFlight →
      w.store.Tracks kind jobId

/-- A tick creates no second job beside a pending one, and a disabled task is left without a
pending job. -/
def QueueAct.Respects (act : QueueAct) (w : TaskWorld) : Prop :=
  (∀ kind jobId, (kind, jobId) ∈ act.created w.store →
    ∀ jobId', (kind, jobId') ∈ w.refreshed → ¬ w.store.HasStatus jobId' .pending) ∧
  ∀ kind, act = .setEnabled kind false → ∀ jobId, (kind, jobId) ∈ w.refreshed →
    ¬ (act.apply w).store.HasStatus jobId .pending

/-- The pending jobs are tracked along a run. -/
def TracksJobs (w : TaskWorld) : List QueueAct → Prop
  | [] => w.Tracked
  | act :: acts => w.Tracked ∧ act.Respects w ∧ TracksJobs (act.apply w) acts

/-- No configured task gets a job at the time: every one that is due has a pending job with the
dedupe key of the slot. -/
def Store.IsQuiet (store : Store) (nowNs : ℕ) : Prop :=
  ∀ kind config, (kind, config) ∈ store.listTaskConfigs → store.taskIsDue config kind nowNs = true →
    (store.findJobByDedupeKey (taskDedupeKey kind (nowNs - nowNs % nanos config.intervalSecs))).isSome
      = true

/-- Every tick of a run finds the tasks quiet. -/
def StaysQuiet (w : TaskWorld) : List QueueAct → Prop
  | [] => True
  | act :: acts =>
    (∀ nowNs, act = .refresh nowNs → w.store.IsQuiet nowNs) ∧ StaysQuiet (act.apply w) acts

section Refresh

variable {store t : Store} {kind other : TaskKind} {config : TaskScheduleConfig} {nowNs : ℕ}
  {jobId : String}

/-- Of the statuses that the query asks for only one is ever written. -/
theorem status_of_asStr {status : JobStatus}
    (h : status.asStr = "Pending" ∨ status.asStr = "Running") : status = .pending := by
  revert h
  cases status <;> decide

/-- What is found under a dedupe key is a stored pending job with the key. -/
theorem of_findJobByDedupeKey {dedupeKey : String} {job : ScheduledJob}
    (h : store.findJobByDedupeKey dedupeKey = some job) :
    (∃ key : String, store.jobs[key]? = some job) ∧ job.status = .pending ∧
      job.dedupeKey = dedupeKey := by
  obtain ⟨hfind, hkey⟩ := Option.filter_eq_some_iff.mp h
  obtain ⟨entry, hentry, rfl⟩ := List.mem_map.mp (List.mem_of_find?_eq_some hfind)
  have hfound := List.find?_some hfind
  simp only [Bool.and_eq_true, Bool.or_eq_true, decide_eq_true_eq] at hfound
  exact ⟨⟨entry.1, Std.ExtTreeMap.mem_toList_iff_getElem?_eq_some.mp hentry⟩,
    status_of_asStr hfound.1, of_decide_eq_true hkey⟩

/-- What is found under a dedupe key is pending. -/
theorem pending_of_find {dedupeKey : String} {job : ScheduledJob}
    (h : store.findJobByDedupeKey dedupeKey = some job) : job.status = .pending :=
  (of_findJobByDedupeKey h).2.1

/-- Enqueueing finds a pending job with the dedupe key, or stores a new one. -/
theorem enqueueJobIfAbsent_cases (kind : TaskKind) (lane : TaskLane) (dedupeKey : String)
    (scheduledForNs priority nowNs : ℕ) (store : Store) :
    ((store.findJobByDedupeKey dedupeKey).isNone = false ∧
      store.enqueueJobIfAbsent kind lane dedupeKey scheduledForNs priority nowNs =
        (store, none)) ∨
    ((store.findJobByDedupeKey dedupeKey).isNone = true ∧ ∃ job,
      job = newJob kind lane dedupeKey store.nextSeq scheduledForNs priority nowNs ∧
      store.enqueueJobIfAbsent kind lane dedupeKey scheduledForNs priority nowNs =
        (store.storeNewJob job, some job.id)) := by
  unfold Store.enqueueJobIfAbsent
  cases hfind : store.findJobByDedupeKey dedupeKey with
  | none => exact .inr ⟨rfl, _, rfl, rfl⟩
  | some job => exact .inl ⟨rfl, by simp [pending_of_find hfind, JobStatus.isTerminal]⟩

theorem jobs_storeNewJob {job : ScheduledJob} :
    (store.storeNewJob job).jobs = store.jobs.insert job.id job := by
  unfold Store.storeNewJob Store.trackPendingJob
  split <;> rfl

theorem taskRuntimes_storeNewJob {job : ScheduledJob} (hne : other ≠ job.kind) :
    (store.storeNewJob job).taskRuntimes other = store.taskRuntimes other := by
  unfold Store.storeNewJob Store.trackPendingJob
  split
  · simp [hne]
  · rfl

/-- The task gets a job. -/
def Store.createsJob (store : Store) (kind : TaskKind) (config : TaskScheduleConfig)
    (nowNs : ℕ) : Bool :=
  store.taskIsDue config kind nowNs &&
    (store.findJobByDedupeKey
      (taskDedupeKey kind (nowNs - nowNs % nanos config.intervalSecs))).isNone

/-- That depends on the jobs, the mode and the runtime of the task. -/
theorem createsJob_congr (hjobs : t.jobs = store.jobs)
    (hmode : t.scheduler.lowCyclesMode = store.scheduler.lowCyclesMode)
    (hruntime : t.taskRuntimes kind = store.taskRuntimes kind) :
    t.createsJob kind config nowNs = store.createsJob kind config nowNs := by
  have hsame : t.taskRuntime kind nowNs = store.taskRuntime kind nowNs := by
    rw [Store.taskRuntime, hruntime, Store.taskRuntime]
  have hfind : t.findJobByDedupeKey = store.findJobByDedupeKey := by
    funext dedupeKey
    rw [Store.findJobByDedupeKey, hjobs, Store.findJobByDedupeKey]
  simp only [Store.createsJob, Store.taskIsDue, hsame, hfind, hmode]

/-- The job of the task is stored and pending, and the runtime of the task does not name it. -/
def Store.Untracked (store : Store) (kind : TaskKind) (jobId : String) : Prop :=
  store.HasStatus jobId .pending ∧
    ∃ runtime, store.taskRuntimes kind = some runtime ∧ runtime.pendingJobId = none

/-- One iteration creates no job and keeps the rest of the rows, or creates one that is not
named. -/
theorem refreshTask_cases (kind : TaskKind) (config : TaskScheduleConfig) (nowNs : ℕ)
    (store : Store) :
    let refreshed := store.refreshTask kind config nowNs
    (∀ other, other ≠ kind → refreshed.1.taskRuntimes other = store.taskRuntimes other) ∧
    ((store.createsJob kind config nowNs = false ∧ refreshed.2 = none ∧
      refreshed.1.jobs = store.jobs ∧
      refreshed.1.scheduler.lowCyclesMode = store.scheduler.lowCyclesMode) ∨
    (store.createsJob kind config nowNs = true ∧ ∃ job, job.status = .pending ∧
      refreshed.2 = some job.id ∧ refreshed.1.jobs = store.jobs.insert job.id job ∧
      ∃ runtime, refreshed.1.taskRuntimes kind = some runtime ∧ runtime.pendingJobId = none)) := by
  dsimp only
  unfold Store.refreshTask
  by_cases hdue : store.taskIsDue config kind nowNs = true
  · rw [if_pos hdue]
    dsimp only
    have hnone : (store.taskRuntime kind nowNs).pendingJobId = none := by
      simp only [Store.taskIsDue, Bool.and_eq_true] at hdue
      exact Option.isNone_iff_eq_none.mp hdue.1.1.2
    rcases enqueueJobIfAbsent_cases kind .mutating (taskDedupeKey kind (nowNs - nowNs %
      nanos config.intervalSecs)) (nowNs - nowNs % nanos config.intervalSecs) config.priority nowNs
      store with ⟨hfind, heq⟩ | ⟨hfind, job, hjob, heq⟩
    · rw [heq]
      refine ⟨fun other hne => by simp [hne], .inl ⟨?_, rfl, rfl, rfl⟩⟩
      rw [Store.createsJob, hfind, Bool.and_false]
    · rw [heq]
      have hkind : job.kind = kind := by rw [hjob, newJob_kind]
      refine ⟨fun other hne => ?_, .inr ⟨?_, job, by rw [hjob, newJob_status], rfl,
        jobs_storeNewJob, _, Function.update_self .., hnone⟩⟩
      · rw [Store.saveTaskRuntime_taskRuntimes, Function.update_of_ne hne]
        exact taskRuntimes_storeNewJob (hkind ▸ hne)
      · rw [Store.createsJob, hdue, hfind, Bool.and_true]
  · rw [if_neg hdue]
    exact ⟨fun _ _ => rfl, .inl ⟨by simp [Store.createsJob, hdue], rfl, rfl, rfl⟩⟩

/-- An iteration for another task leaves an unnamed job as it is. -/
theorem Store.Untracked.refreshTask (h : store.Untracked kind jobId) (hne : kind ≠ other) :
    (store.refreshTask other config nowNs).1.Untracked kind jobId := by
  obtain ⟨⟨stored, hstored, hpending⟩, runtime, hruntime, hnone⟩ := h
  obtain ⟨hothers, hcases⟩ := refreshTask_cases other config nowNs store
  refine ⟨?_, runtime, (hothers kind hne).trans hruntime, hnone⟩
  rcases hcases with ⟨-, -, hjobs, -⟩ | ⟨-, job, hstatus, -, hjobs, -⟩
  · exact ⟨stored, by rw [hjobs, hstored], hpending⟩
  · by_cases hid : job.id = jobId
    · exact ⟨job, by rw [hjobs, BTreeMap.get?_insert, if_pos hid], hstatus⟩
    · exact ⟨stored, by rw [hjobs, BTreeMap.get?_insert, if_neg hid, hstored], hpending⟩

/-- An iteration that creates a job leaves it unnamed. -/
theorem untracked_of_created (h : (store.refreshTask kind config nowNs).2 = some jobId) :
    (store.refreshTask kind config nowNs).1.Untracked kind jobId := by
  obtain ⟨-, ⟨-, hnone, -⟩ | ⟨-, job, hstatus, hid, hjobs, runtime, hruntime, hpending⟩⟩ :=
    refreshTask_cases kind config nowNs store
  · rw [h] at hnone
    cases hnone
  · obtain rfl := Option.some.inj (h.symm.trans hid)
    exact ⟨⟨job, by rw [hjobs, BTreeMap.get?_insert, if_pos rfl], hstatus⟩, runtime, hruntime,
      hpending⟩

/-- One iteration of the loop of a tick. -/
def refreshStep (nowNs : ℕ) (refreshed : Store × List (TaskKind × String))
    (schedule : TaskKind × TaskScheduleConfig) : Store × List (TaskKind × String) :=
  let task := refreshed.1.refreshTask schedule.1 schedule.2 nowNs
  (task.1, refreshed.2 ++ (task.2.map (schedule.1, ·)).toList)

theorem refreshDueJobs_eq : store.refreshDueJobs nowNs =
    store.listTaskConfigs.foldl (refreshStep nowNs) (store, []) := rfl

/-- The loop leaves every job that it creates unnamed. Later iterations are for other tasks. -/
theorem untracked_foldl {schedules : List (TaskKind × TaskScheduleConfig)}
    {refreshed : Store × List (TaskKind × String)} (hnodup : (schedules.map (·.1)).Nodup)
    (h : ∀ entry ∈ refreshed.2, refreshed.1.Untracked entry.1 entry.2 ∧
      entry.1 ∉ schedules.map (·.1)) :
    ∀ entry ∈ (schedules.foldl (refreshStep nowNs) refreshed).2,
      (schedules.foldl (refreshStep nowNs) refreshed).1.Untracked entry.1 entry.2 := by
  induction schedules generalizing refreshed with
  | nil => exact fun entry hentry => (h entry hentry).1
  | cons schedule schedules ih =>
    rw [List.map_cons, List.nodup_cons] at hnodup
    refine ih hnodup.2 fun entry hentry => ?_
    rcases List.mem_append.mp hentry with hold | hnew
    · obtain ⟨huntracked, hother⟩ := h entry hold
      rw [List.map_cons, List.mem_cons, not_or] at hother
      exact ⟨huntracked.refreshTask hother.1, hother.2⟩
    · obtain ⟨jobId, hcreated, rfl⟩ := Option.map_eq_some_iff.mp (Option.mem_toList.mp hnew)
      exact ⟨untracked_of_created hcreated, hnodup.1⟩

/-- The loop only adds jobs. -/
theorem prefix_foldl_refreshStep (schedules : List (TaskKind × TaskScheduleConfig)) (nowNs : ℕ)
    (refreshed : Store × List (TaskKind × String)) :
    refreshed.2 <+: (schedules.foldl (refreshStep nowNs) refreshed).2 := by
  induction schedules generalizing refreshed with
  | nil => exact List.prefix_rfl
  | cons schedule schedules ih =>
    have hstep : refreshed.2 <+: (refreshStep nowNs refreshed schedule).2 := List.prefix_append _ _
    exact hstep.trans (ih _)

/-- The loop creates no job exactly when no task gets one to begin with. -/
theorem foldl_refreshStep_eq_iff {schedules : List (TaskKind × TaskScheduleConfig)}
    {refreshed : Store × List (TaskKind × String)} (hnodup : (schedules.map (·.1)).Nodup) :
    (schedules.foldl (refreshStep nowNs) refreshed).2 = refreshed.2 ↔
      ∀ schedule ∈ schedules, refreshed.1.createsJob schedule.1 schedule.2 nowNs = false := by
  induction schedules generalizing refreshed with
  | nil => simp
  | cons schedule schedules ih =>
    rw [List.map_cons, List.nodup_cons] at hnodup
    rw [List.foldl_cons, List.forall_mem_cons]
    obtain ⟨hothers, ⟨hcreates, hnone, hjobs, hmode⟩ | ⟨hcreates, job, -, hid, -⟩⟩ :=
      refreshTask_cases schedule.1 schedule.2 nowNs refreshed.1
    · have hsame : (refreshStep nowNs refreshed schedule).2 = refreshed.2 := by
        simp [refreshStep, hnone]
      rw [← hsame, ih hnodup.2]
      simp only [hcreates, true_and]
      refine forall₂_congr fun other hother => ?_
      have hne : other.1 ≠ schedule.1 := fun heq => hnodup.1 (heq ▸ List.mem_map_of_mem hother)
      rw [refreshStep, createsJob_congr hjobs hmode (hothers other.1 hne)]
    · refine ⟨fun heq => ?_, fun h => ?_⟩
      · have hlength := (prefix_foldl_refreshStep schedules nowNs
          (refreshStep nowNs refreshed schedule)).length_le
        rw [heq] at hlength
        simp [refreshStep, hid] at hlength
      · rw [hcreates] at h
        cases h.1

/-- Every kind of task is configured at most once. -/
theorem nodup_listTaskConfigs : (store.listTaskConfigs.map (·.1)).Nodup := by
  unfold Store.listTaskConfigs
  rw [((List.perm_insertionSort _ _).map _).nodup_iff, List.Nodup, List.pairwise_map,
    List.pairwise_filterMap]
  have hkinds : TaskKind.all.Nodup := by decide
  refine hkinds.imp fun hne first hfirst second hsecond => ?_
  obtain ⟨config, -, rfl⟩ := Option.map_eq_some_iff.mp hfirst
  obtain ⟨config', -, rfl⟩ := Option.map_eq_some_iff.mp hsecond
  exact hne

/-- A tick creates no job exactly when it finds the tasks quiet. -/
theorem refreshDueJobs_eq_nil_iff :
    (store.refreshDueJobs nowNs).2 = [] ↔ store.IsQuiet nowNs := by
  rw [refreshDueJobs_eq]
  refine (foldl_refreshStep_eq_iff nodup_listTaskConfigs).trans ?_
  rw [Prod.forall]
  refine forall₃_congr fun kind config hconfig => ?_
  rw [Store.createsJob, Bool.and_eq_false_imp, Option.isNone_eq_false_iff]

/-- The jobs that a tick creates are not named. -/
theorem untracked_refreshDueJobs {entry : TaskKind × String}
    (h : entry ∈ (store.refreshDueJobs nowNs).2) :
    (store.refreshDueJobs nowNs).1.Untracked entry.1 entry.2 := by
  rw [refreshDueJobs_eq] at h ⊢
  exact untracked_foldl nodup_listTaskConfigs (by simp) entry h

end Refresh

section Runs

variable {w : TaskWorld}

/-- Without jobs of ticks there is nothing to track. -/
theorem tracked_of_nil (h : w.refreshed = []) : w.Tracked := by
  intro kind jobId hmem
  rw [h] at hmem
  cases hmem

/-- A tick that finds the tasks quiet creates nothing, and neither does any other act. -/
theorem created_eq_nil {act : QueueAct}
    (h : ∀ nowNs, act = .refresh nowNs → w.store.IsQuiet nowNs) : act.created w.store = [] := by
  cases act with
  | refresh nowNs => exact refreshDueJobs_eq_nil_iff.mpr (h nowNs rfl)
  | _ => rfl

/-- A run in which every tick finds the tasks quiet has no jobs to track. -/
theorem StaysQuiet.tracksJobs {acts : List QueueAct} (h : StaysQuiet w acts)
    (hnone : w.refreshed = []) : TracksJobs w acts := by
  induction acts generalizing w with
  | nil => exact tracked_of_nil hnone
  | cons act acts ih =>
    have hcreated : act.created w.store = [] := created_eq_nil h.1
    have hnext : (act.apply w).refreshed = [] := by
      rw [QueueAct.apply, hnone, hcreated, List.append_nil]
    refine ⟨tracked_of_nil hnone, ⟨?_, ?_⟩, ih h.2 hnext⟩
    · intro kind jobId _ jobId' hmem
      rw [hnone] at hmem
      cases hmem
    · intro kind _ jobId hmem
      rw [hnone] at hmem
      cases hmem

/-- A state after a tick that has created a job is not tracked. -/
theorem quiet_of_tracked {nowNs : ℕ} (h : ((QueueAct.refresh nowNs).apply w).Tracked) :
    w.store.IsQuiet nowNs := by
  rw [← refreshDueJobs_eq_nil_iff, List.eq_nil_iff_forall_not_mem]
  intro entry hentry
  obtain ⟨hpending, runtime, hruntime, hnone⟩ := untracked_refreshDueJobs hentry
  have htracks := h entry.1 entry.2 (List.mem_append_right _ hentry) (.inl hpending)
  have hstored : ((QueueAct.refresh nowNs).apply w).store.taskRuntimes entry.1 = some runtime :=
    hruntime
  rw [Store.Tracks, hstored] at htracks
  simp [hnone] at htracks

/-- The states of a run that tracks the pending jobs are tracked. -/
theorem TracksJobs.tracked {acts : List QueueAct} (h : TracksJobs w acts) : w.Tracked := by
  cases acts with
  | nil => exact h
  | cons act acts => exact h.1

/-- In a run that tracks the pending jobs every tick finds the tasks quiet. -/
theorem TracksJobs.staysQuiet {acts : List QueueAct} (h : TracksJobs w acts) :
    StaysQuiet w acts := by
  induction acts generalizing w with
  | nil => trivial
  | cons act acts ih =>
    refine ⟨?_, ih h.2.2⟩
    rintro nowNs rfl
    exact quiet_of_tracked h.2.2.tracked

/-- Along a run the tasks name their pending jobs, no second job is created and no pending job
is left behind, exactly when no tick of the run finds a task that gets a job. -/
theorem pending_jobs_tracked_iff (store : Store) (acts : List QueueAct) :
    TracksJobs ⟨store, []⟩ acts ↔ StaysQuiet ⟨store, []⟩ acts :=
  ⟨TracksJobs.staysQuiet, fun h => h.tracksJobs rfl⟩

end Runs

/-- The first tick creates a job for the inbox poll, which the task does not name. The tick of
the next slot creates a second one, and disabling the task leaves both behind. -/
def unnamedPolls : List QueueAct :=
  [.refresh 0, .refresh (nanos defaultTaskIntervalSecs), .setEnabled .pollInbox false]

theorem unnamedPolls_not_tracked : ¬ TracksJobs ⟨.initial 0, []⟩ unnamedPolls := by
  intro h
  have hquiet : (Store.initial 0).IsQuiet 0 := h.staysQuiet.1 0 rfl
  have hcreated : ((Store.initial 0).refreshDueJobs 0).2 ≠ [] := by decide +kernel
  exact hcreated (refreshDueJobs_eq_nil_iff.mpr hquiet)

example : (((unnamedPolls.foldl (fun w act => QueueAct.apply act w)
    (TaskWorld.mk (.initial 0) [])).store.jobs.toList.map (·.2)).filter fun job =>
      job.kind = .pollInbox ∧ job.status = .pending).length = 2 := by
  decide +kernel

end Automaton.Agent
